
set_option autoImplicit false

namespace JavaMetrics.Decimal

/-- `mantissa · 2 ^ exponent`. -/
structure Binary where
  mantissa : Nat
  exponent : Int
deriving DecidableEq, Repr

inductive Reading where
  | notANumber
  | infinite (negative : Bool)
  | finite (negative : Bool) (value : Binary)
deriving DecidableEq, Repr

def leastExponent : Int := -1074

def leadingBit : Nat := Nat.pow 2 52

def Reading.ofBits (bits : Nat) : Reading :=
  let negative := bits / Nat.pow 2 63 == 1
  let exponent := bits / leadingBit % Nat.pow 2 11
  let fraction := bits % leadingBit
  if exponent == 2047 then if fraction == 0 then .infinite negative else .notANumber
  else if exponent == 0 then .finite negative ⟨fraction, leastExponent⟩
  else .finite negative ⟨leadingBit + fraction, leastExponent + (exponent - 1 : Nat)⟩

def read (f : Float) : Reading := .ofBits f.toBits.toNat

def power (base : Nat) (e : Int) : Nat × Nat :=
  if e < 0 then (1, base.pow e.natAbs) else (base.pow e.natAbs, 1)

def Binary.fraction (b : Binary) : Nat × Nat :=
  let (n, d) := power 2 b.exponent
  (b.mantissa * n, d)

def roundHalfEven (num den : Nat) : Nat :=
  let q := num / den
  let r := num % den
  if 2 * r < den then q else if den < 2 * r then q + 1 else if q % 2 == 0 then q else q + 1

end JavaMetrics.Decimal
