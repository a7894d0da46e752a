
set_option autoImplicit false

namespace JavaMetrics.Yaml

def isBreak (c : Char) : Bool :=
  c == '\n' || c == '\r' || c == '\u0085' || c == '\u2028' || c == '\u2029'

def isBlank (c : Char) : Bool := c == ' ' || c == '\t'

def isWordChar (c : Char) : Bool := c.isAlphanum || c == '_' || c == '-'

def isAllowed (c : Char) : Bool :=
  let n := c.toNat
  n == 0x09 || n == 0x0A || n == 0x0D || (0x20 ≤ n && n ≤ 0x7E) || n == 0x85 ||
    (0xA0 ≤ n && n ≤ 0xFFFD) || 0x10000 ≤ n

structure Cursor where
  rest : List Char
  line : Nat := 0
  column : Nat := 0
  index : Nat := 0

namespace Cursor

def peek (c : Cursor) (n : Nat) : Option Char := c.rest[n]?

def atEnd (c : Cursor) : Bool := c.rest.isEmpty

def sees (c : Cursor) (n : Nat) (test : Char → Bool) : Bool := (c.peek n).any test

def isAt (c : Cursor) (ch : Char) : Bool := c.peek 0 == some ch

/-- Blank, line break or end of text, `n` characters further. -/
def gapAt (c : Cursor) (n : Nat) : Bool := (c.peek n).all fun ch => isBlank ch || isBreak ch

def lineDone (c : Cursor) : Bool := (c.peek 0).all isBreak

def skip (c : Cursor) (n : Nat) : Cursor :=
  { c with rest := c.rest.drop n, column := c.column + n, index := c.index + n }

def skipBreak (c : Cursor) : Cursor :=
  let n := if c.isAt '\r' && c.peek 1 == some '\n' then 2 else 1
  { rest := c.rest.drop n, line := c.line + 1, column := 0, index := c.index + n }

def breakText (c : Cursor) : List Char :=
  match c.peek 0 with
  | some ch => if ch == '\u2028' || ch == '\u2029' then [ch] else if isBreak ch then ['\n'] else []
  | none => []

def takeWhile (c : Cursor) (test : Char → Bool) : List Char × Cursor :=
  let taken := c.rest.takeWhile test
  (taken, c.skip taken.length)

def skipWhile (c : Cursor) (test : Char → Bool) : Cursor := (c.takeWhile test).2

def skipComment (c : Cursor) : Cursor :=
  if c.isAt '#' then c.skipWhile (!isBreak ·) else c

/-- Three characters that start or end a document, at the front of a line. -/
def atMarker (c : Cursor) (ch : Char) : Bool :=
  c.column == 0 && c.rest.take 3 == [ch, ch, ch] && c.gapAt 3

end Cursor

end JavaMetrics.Yaml
