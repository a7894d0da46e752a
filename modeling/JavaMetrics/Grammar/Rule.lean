import JavaMetrics.Syntax.Kind

set_option autoImplicit false

namespace JavaMetrics.Grammar

inductive Lexeme where
  | identifier | number | character | stringFragment | escapeSequence | blockText | blockQuote
  | blockEscape | lineComment | blockComment
deriving DecidableEq, Repr, Inhabited, Hashable

inductive Terminal where
  | endOfInput
  | spelled (text : String)
  | lexeme (l : Lexeme)
deriving DecidableEq, Repr, Inhabited, Hashable

/-- `repetition i` stands for the `i`-th distinct repeated rule of the grammar. -/
inductive Rule where
  | blank
  | terminal (t : Terminal)
  | category (k : Kind)
  | repetition (i : Nat)
  | seq (first second : Rule)
  | alt (first second : Rule)
  | many1 (r : Rule)
  | role (f : Field) (r : Rule)
  | label (k : Kind) (r : Rule)
deriving DecidableEq, Repr, Inhabited

namespace Rule

def inOrder : List Rule → Rule
  | [] => blank
  | [r] => r
  | r :: rs => seq r (inOrder rs)

def oneOf : List Rule → Rule
  | [] => blank
  | [r] => r
  | r :: rs => alt r (oneOf rs)

def opt (r : Rule) : Rule := alt r blank

def many (r : Rule) : Rule := opt (many1 r)

def sepBy1 (r : Rule) (separator : Rule) : Rule := seq r (many (seq separator r))

def text (s : String) : Rule := terminal (.spelled s)

def comma1 (r : Rule) : Rule := sepBy1 r (text ",")

def comma (r : Rule) : Rule := opt (comma1 r)

end Rule

inductive Associativity where
  | left | right
deriving DecidableEq, Repr, Inhabited, Hashable

structure Alternative where
  level : Int := 0
  associativity : Option Associativity := none
  weight : Int := 0
  rule : Rule
deriving Inhabited

end JavaMetrics.Grammar
