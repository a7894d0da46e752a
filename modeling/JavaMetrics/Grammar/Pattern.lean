import JavaMetrics.Grammar.Rule
import JavaMetrics.Text.NameChars
import JavaMetrics.Text.Source

/-!
Patterns of token classes. A pattern is matched by stepping it along the text: `step p g` is what
has to follow once the unit `g` has been read. A unit without a character, a byte outside
UTF-8, is taken only by classes that are given by what they exclude; the null character by no
class.
-/

set_option autoImplicit false

namespace JavaMetrics.Grammar

inductive Pattern where
  | never
  | done
  | unit (accepts : Option Char → Bool)
  | seq (first second : Pattern)
  | alt (first second : Pattern)
  | star (p : Pattern)

namespace Pattern

def isDone : Pattern → Bool
  | never | unit _ => false
  | done | star _ => true
  | seq p q => p.isDone && q.isDone
  | alt p q => p.isDone || q.isDone

def andThen : Pattern → Pattern → Pattern
  | never, _ => never
  | done, q => q
  | p, q => seq p q

def orElse : Pattern → Pattern → Pattern
  | never, q => q
  | p, never => p
  | p, q => alt p q

def step (g : Option Char) : Pattern → Pattern
  | never | done => never
  | unit accepts => if accepts g then done else never
  | seq p q =>
    let left := (p.step g).andThen q
    if p.isDone then left.orElse (q.step g) else left
  | alt p q => (p.step g).orElse (q.step g)
  | star p => (p.step g).andThen (star p)

def isNever : Pattern → Bool
  | never => true
  | _ => false

/-- The end of the longest match that starts at `i`, where `best` is the end found so far. -/
def longestFrom (units : Array Text.Glyph) (i : Nat) (best : Option Nat) (p : Pattern) : Option Nat :=
  let best := if p.isDone then some i else best
  if h : i < units.size then
    let next := p.step units[i].char?
    if next.isNever then best else longestFrom units (i + 1) best next
  else best
termination_by units.size - i

def longest (units : Array Text.Glyph) (p : Pattern) (i : Nat) : Option Nat :=
  p.longestFrom units i none

def char (f : Char → Bool) : Pattern := unit fun g => g.any f

def except (excluded : List Char) : Pattern :=
  unit fun
    | some c => c != '\x00' && !excluded.contains c
    | none => true

def oneOf (cs : List Char) : Pattern := char cs.contains

def word (s : String) : Pattern := s.toList.foldr (fun c p => (char (· == c)).andThen p) done

def inOrder (ps : List Pattern) : Pattern := ps.foldr andThen done

def anyOf (ps : List Pattern) : Pattern := ps.foldr orElse never

def plus (p : Pattern) : Pattern := p.andThen (star p)

def opt (p : Pattern) : Pattern := p.orElse done

def sepBy1 (p separator : Pattern) : Pattern := p.andThen (star (separator.andThen p))

def times (p : Pattern) : Nat → Pattern
  | 0 => done
  | n + 1 => p.andThen (times p n)

end Pattern

namespace Lexeme
open Pattern

def digit : Pattern := char Char.isDigit

def isHexDigit (c : Char) : Bool :=
  c.isDigit || ('a' ≤ c && c ≤ 'f') || ('A' ≤ c && c ≤ 'F')

def hexDigit : Pattern := char isHexDigit

def octalDigit : Pattern := char fun c => '0' ≤ c && c ≤ '7'

def underscored (p : Pattern) : Pattern := sepBy1 (plus p) (word "_")

def wholeNumber : Pattern :=
  anyOf [word "0", (char fun c => '1' ≤ c && c ≤ '9').andThen
    (opt ((opt (word "_")).andThen (sepBy1 (plus digit) (plus (word "_")))))]

def long : Pattern := opt (oneOf ['l', 'L'])

def floatSuffix : Pattern := oneOf ['f', 'F', 'd', 'D']

def exponent (marks : List Char) (digits : Pattern) : Pattern :=
  inOrder [oneOf marks, opt (oneOf ['-', '+']), digits]

def decimalExponent : Pattern := exponent ['e', 'E'] (underscored digit)

def hexMark : Pattern := anyOf [word "0x", word "0X"]

def numeral : Pattern :=
  anyOf [
    wholeNumber.andThen long,
    inOrder [hexMark, underscored hexDigit, long],
    inOrder [anyOf [word "0o", word "0O", word "0"], underscored octalDigit, long],
    inOrder [anyOf [word "0b", word "0B"], underscored (oneOf ['0', '1']), long],
    inOrder [underscored digit, word ".", opt (underscored digit), opt decimalExponent,
      opt floatSuffix],
    inOrder [word ".", underscored digit, opt decimalExponent, opt floatSuffix],
    inOrder [wholeNumber, decimalExponent, opt floatSuffix],
    inOrder [wholeNumber, opt decimalExponent, floatSuffix],
    inOrder [hexMark,
      anyOf [(underscored hexDigit).andThen (opt (word ".")),
        inOrder [opt (underscored hexDigit), word ".", underscored hexDigit]],
      opt ((exponent ['p', 'P'] wholeNumber).andThen (opt floatSuffix))]]

def isIdentifierStart (c : Char) : Bool := Text.isNameStart c || c == '_' || c == '$'

def isIdentifierPart (c : Char) : Bool := Text.isNameContinue c || c == '_' || c == '$' || c == '¢'

def pattern : Lexeme → Pattern
  | identifier => (char isIdentifierStart).andThen (star (char isIdentifierPart))
  | number => numeral
  | character =>
    inOrder [word "'",
      plus (anyOf [except ['\\', '\'', '\n'], (word "\\").andThen (except ['\n']), word "\\\n"]),
      word "'"]
  | stringFragment | blockText => plus (except ['"', '\\'])
  | escapeSequence =>
    (word "\\").andThen (anyOf [
      except ['x', 'u', '0', '1', '2', '3', '4', '5', '6', '7'],
      inOrder [octalDigit, opt octalDigit, opt octalDigit],
      (word "x").andThen (times hexDigit 2),
      (word "u").andThen (times hexDigit 4),
      inOrder [word "u\x7b", plus hexDigit, word "\x7d"]])
  | blockQuote => (word "\"").andThen (star (anyOf [except ['"', '\\'], word "\\\""]))
  | blockEscape =>
    (word "\\").andThen (except ['b', 'f', 'n', 'r', 't', 's', '\'', '"', '\\'])
  | lineComment => (word "//").andThen (star (except ['\n']))
  | blockComment =>
    inOrder [word "/*", star (except ['*']), plus (word "*"),
      star (inOrder [except ['/', '*'], star (except ['*']), plus (word "*")]), word "/"]

def isImmediate : Lexeme → Bool
  | stringFragment | escapeSequence | blockEscape => true
  | _ => false

def isComment : Lexeme → Bool
  | lineComment | blockComment => true
  | _ => false

def kind : Lexeme → Kind
  | identifier => .identifier
  | number => .numberLiteral
  | character => .characterLiteral
  | stringFragment => .stringFragment
  | escapeSequence => .escapeSequence
  | blockText | blockQuote | blockEscape => .token
  | lineComment => .lineComment
  | blockComment => .blockComment

end Lexeme

end JavaMetrics.Grammar
