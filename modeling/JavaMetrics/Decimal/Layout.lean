import JavaMetrics.Decimal.Shortest

set_option autoImplicit false

namespace JavaMetrics.Decimal

structure Layout where
  /-- The powers of ten of the first digit, from and below, that are written without an exponent;
  none if all are. -/
  positional : Option (Int × Int)
  keepsPoint : Bool

/-- Numbers in JSON text: an exponent below `10 ^ -5` and from `10 ^ 16` on, always a point. -/
def Layout.json : Layout := ⟨some (-5, 16), true⟩

def Layout.message : Layout := ⟨none, false⟩

def zeros (n : Nat) : List Char := List.replicate n '0'

def signed (negative : Bool) (s : String) : String := if negative then "-" ++ s else s

def writeOut (keepsPoint : Bool) (digits : List Char) (top : Int) : String :=
  if top < 0 then String.ofList ('0' :: '.' :: zeros (top.natAbs - 1) ++ digits)
  else
    let n := top.natAbs + 1
    let whole := digits.take n ++ zeros (n - digits.length)
    let rest := digits.drop n
    if rest.isEmpty then String.ofList (if keepsPoint then whole ++ ['.', '0'] else whole)
    else String.ofList (whole ++ '.' :: rest)

def writeExponent (digits : List Char) (top : Int) : String :=
  let rest := digits.drop 1
  let head := digits.take 1 ++ (if rest.isEmpty then [] else '.' :: rest)
  let sign := if top < 0 then "e-" else "e+"
  String.ofList head ++ sign ++ toString top.natAbs

def Layout.write (l : Layout) (s : Scaled) : String :=
  let digits := Nat.toDigits 10 s.digits
  let top := if s.digits == 0 then 0 else s.exponent + digits.length - 1
  let written := match l.positional with
    | none => true
    | some (lo, hi) => lo ≤ top && top < hi
  if written then writeOut l.keepsPoint digits top else writeExponent digits top

def Layout.text? (l : Layout) (f : Float) : Option String :=
  match read f with
  | .finite negative b => some (signed negative (l.write b.shortest))
  | _ => none

def plainText (f : Float) : String :=
  match read f with
  | .finite negative b => signed negative (Layout.message.write b.shortest)
  | .infinite negative => signed negative "inf"
  | .notANumber => "NaN"

def fixedText (places : Nat) (f : Float) : String :=
  match read f with
  | .finite negative b =>
    let (num, den) := b.fraction
    let n := roundHalfEven (num * Nat.pow 10 places) den
    let digits := Nat.toDigits 10 n
    let padded := zeros (places + 1 - digits.length) ++ digits
    let whole := padded.take (padded.length - places)
    let rest := padded.drop (padded.length - places)
    signed negative (String.ofList (if places == 0 then whole else whole ++ '.' :: rest))
  | .infinite negative => signed negative "inf"
  | .notANumber => "NaN"

end JavaMetrics.Decimal
