import JavaMetrics.Grammar.Pattern
import JavaMetrics.Grammar.Production

set_option autoImplicit false

namespace JavaMetrics.Grammar

structure Token where
  term : Nat
  start : Nat
  stop : Nat
deriving Inhabited

structure Lexicon where
  marks : List (List Char × Nat)
  words : Std.HashMap String Nat
  /-- Token classes other than identifiers, in the order in which they win ties. -/
  classes : List (Lexeme × Nat)
  identifier : Nat
  wordTokens : Tokens
  comments : Tokens

namespace Lexicon

def isWord (s : String) : Bool :=
  match s.toList with
  | c :: cs => Lexeme.isIdentifierStart c && cs.all Lexeme.isIdentifierPart
  | [] => false

def ofTerminals (terminals : Array Terminal) : Lexicon :=
  let numbered := terminals.toList.zipIdx
  let spelled := numbered.filterMap fun (t, i) =>
    match t with
    | .spelled s => some (s, i)
    | _ => none
  let (words, marks) := spelled.partition (isWord ·.1)
  let classes := numbered.filterMap fun (t, i) =>
    match t with
    | .lexeme l => some (l, i)
    | _ => none
  let identifier := (classes.lookup .identifier).getD 0
  { marks := marks.map fun (s, i) => (s.toList, i)
    words := Std.HashMap.ofList words
    classes := classes.filter (·.1 != .identifier)
    identifier
    wordTokens := words.foldl (fun s w => s.union (Tokens.single w.2)) (Tokens.single identifier)
    comments := classes.foldl (fun s c => if c.1.isComment then s.union (Tokens.single c.2) else s) 0 }

end Lexicon

def isSeparator (c : Char) : Bool :=
  c == ' ' || (9 ≤ c.toNat && c.toNat ≤ 13)

def skipBlanks (units : Array Text.Glyph) (i : Nat) : Nat :=
  if h : i < units.size then
    if units[i].char?.any isSeparator then skipBlanks units (i + 1) else i
  else i
termination_by units.size - i

/-- A byte order mark in front of the text is skipped like a blank. -/
def tokenStart (units : Array Text.Glyph) (i : Nat) : Nat :=
  let marked := i == 0 && units[0]?.any fun g => g.char? == some '\uFEFF'
  skipBlanks units (if marked then 1 else i)

def spells (units : Array Text.Glyph) : List Char → Nat → Bool
  | [], _ => true
  | c :: cs, i => (units[i]?.any fun g => g.char? == some c) && spells units cs (i + 1)

def further (best : Option Token) (t : Token) : Option Token :=
  match best with
  | some b => if b.stop < t.stop then some t else best
  | none => some t

def wordText (units : Array Text.Glyph) (start stop : Nat) : String :=
  String.ofList ((units.extract start stop).toList.filterMap (·.char?))

namespace Lexicon

def read (x : Lexicon) (units : Array Text.Glyph) (allowed : Tokens) (i : Nat) : Option Token :=
  let start := tokenStart units i
  let allowed := allowed.union x.comments
  let ofClass := fun (l : Lexeme) (n : Nat) =>
    let from' := if l.isImmediate || l == .blockText then i else start
    (l.pattern.longest units from').map fun stop => ({ term := n, start := from', stop } : Token)
  match x.classes.lookup .stringFragment >>= fun n =>
      if allowed.has n then ofClass .stringFragment n else none with
  | some t => some t
  | none =>
    let marks := x.marks.foldl (fun best (s, n) =>
      if allowed.has n && spells units s start then
        further best { term := n, start, stop := start + s.length }
      else best) none
    let classes := x.classes.foldl (fun best (l, n) =>
      if allowed.has n then
        match ofClass l n with
        | some t => further best t
        | none => best
      else best) marks
    let best :=
      if allowed &&& x.wordTokens != 0 then
        match (Lexeme.pattern .identifier).longest units start with
        | some stop => further classes { term := x.identifier, start, stop }
        | none => classes
      else classes
    match best with
    | some t =>
      if t.term == x.identifier then
        match x.words[wordText units t.start t.stop]? with
        | some n => if allowed.has n then some { t with term := n } else best
        | none => best
      else best
    | none => if start ≥ units.size && allowed.has 0 then some ⟨0, start, start⟩ else none

end Lexicon

end JavaMetrics.Grammar
