/-!
Source text as bytes. A byte that is part of no well-formed UTF-8 sequence is a unit of its own
without a character. Lines end at line feeds only and columns count bytes, both from one.
-/

set_option autoImplicit false

namespace JavaMetrics.Text

structure Source where
  bytes : ByteArray

/-- One unit of source text: a character, or a byte that encodes none. -/
structure Glyph where
  char? : Option Char
  offset : Nat
deriving Inhabited

namespace Source

def ofString (s : String) : Source := ⟨s.toUTF8⟩

def byteAt (s : Source) (i : Nat) : Nat := (s.bytes[i]?.map UInt8.toNat).getD 0

def size (s : Source) : Nat := s.bytes.size

def tailByte (s : Source) (i lo hi : Nat) : Option Nat :=
  let b := s.byteAt i
  if i < s.size && lo ≤ b && b ≤ hi then some (b - 0x80) else none

def charAt (s : Source) (i : Nat) : Option (Char × Nat) :=
  let b := s.byteAt i
  if b < 0x80 then some (Char.ofNat b, 1)
  else if 0xC2 ≤ b && b ≤ 0xDF then do
    let x ← s.tailByte (i + 1) 0x80 0xBF
    return (Char.ofNat ((b - 0xC0) * 64 + x), 2)
  else if 0xE0 ≤ b && b ≤ 0xEF then do
    let x ← s.tailByte (i + 1) (if b == 0xE0 then 0xA0 else 0x80) (if b == 0xED then 0x9F else 0xBF)
    let y ← s.tailByte (i + 2) 0x80 0xBF
    return (Char.ofNat (((b - 0xE0) * 64 + x) * 64 + y), 3)
  else if 0xF0 ≤ b && b ≤ 0xF4 then do
    let x ← s.tailByte (i + 1) (if b == 0xF0 then 0x90 else 0x80) (if b == 0xF4 then 0x8F else 0xBF)
    let y ← s.tailByte (i + 2) 0x80 0xBF
    let z ← s.tailByte (i + 3) 0x80 0xBF
    return (Char.ofNat ((((b - 0xF0) * 64 + x) * 64 + y) * 64 + z), 4)
  else none

def glyphsFrom (s : Source) (i : Nat) (done : Array Glyph) : Array Glyph :=
  if i < s.size then
    match s.charAt i with
    | some (c, n) => glyphsFrom s (i + max n 1) (done.push ⟨some c, i⟩)
    | none => glyphsFrom s (i + 1) (done.push ⟨none, i⟩)
  else done
termination_by s.size - i

def glyphs (s : Source) : Array Glyph := s.glyphsFrom 0 #[]

/-- The text between two offsets; empty when the bytes are not well-formed. -/
def text (s : Source) (start stop : Nat) : String :=
  (String.fromUTF8? (s.bytes.extract start stop)).getD ""

def positionFrom (s : Source) (i line column : Nat) : Nat → Nat × Nat
  | 0 => (line, column)
  | count + 1 =>
    if s.byteAt i == 10 then s.positionFrom (i + 1) (line + 1) 1 count
    else s.positionFrom (i + 1) line (column + 1) count

def position (s : Source) (offset : Nat) : Nat × Nat := s.positionFrom 0 1 1 offset

end Source

end JavaMetrics.Text
