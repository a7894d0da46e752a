import JavaMetrics.Decimal.Binary

/-!
The shortest decimal that reads back. Every floating-point number stands for an interval of reals
that are rounded to it; of the decimals in that interval one with the fewest digits is taken,
and of those the nearest to the number itself.
-/

set_option autoImplicit false

namespace JavaMetrics.Decimal

structure Scaled where
  digits : Nat
  exponent : Int
deriving DecidableEq, Repr

def leadingZeros (num den : Nat) : Nat → Nat → Nat
  | 0, i => i
  | fuel + 1, i => if den ≤ num * Nat.pow 10 i then i else leadingZeros num den fuel (i + 1)

def decimalExponent (num den : Nat) : Int :=
  if den ≤ num then ((Nat.toDigits 10 (num / den)).length : Int) - 1
  else -(leadingZeros num den 400 1 : Int)

/-- The interval of a number, in quarters of its last place: lower end, number, upper end. The
interval is narrower below a number whose predecessor is closer. -/
def Binary.interval (b : Binary) : Nat × Nat × Nat :=
  let m := 4 * b.mantissa
  if b.mantissa == leadingBit && leastExponent < b.exponent then (m - 1, m, m + 2)
  else (m - 2, m, m + 2)

/-- A decimal with places down to `10 ^ k` inside the interval, the nearest if there are two. -/
def Binary.onGrid? (b : Binary) (k : Int) : Option Nat :=
  let (lo, mid, hi) := b.interval
  let (u, d) := power 2 (b.exponent - 2)
  let (g, h) := power 10 k
  -- all three, and grid points as multiples of `g * d`, over the common denominator `d * h`
  let lo := lo * u * h
  let mid := mid * u * h
  let hi := hi * u * h
  let unit := g * d
  let inside := fun t => if b.mantissa % 2 == 0 then lo ≤ t * unit && t * unit ≤ hi
    else lo < t * unit && t * unit < hi
  let below := mid / unit
  let above := below + 1
  match inside below, inside above with
  | true, true => some (if mid - below * unit ≤ above * unit - mid then below else above)
  | true, false => some below
  | false, true => some above
  | false, false => none

def trimZeros : Nat → Nat → Int → Scaled
  | 0, n, e => ⟨n, e⟩
  | fuel + 1, n, e => if n != 0 && n % 10 == 0 then trimZeros fuel (n / 10) (e + 1) else ⟨n, e⟩

def Binary.firstGrid (b : Binary) (top : Int) : Nat → Nat → Scaled
  | 0, n => ⟨0, top - n⟩
  | fuel + 1, n =>
    let k := top - n + 1
    match b.onGrid? k with
    | some t => trimZeros 20 t k
    | none => b.firstGrid top fuel (n + 1)

def Binary.shortest (b : Binary) : Scaled :=
  if b.mantissa == 0 then ⟨0, 0⟩
  else
    let (num, den) := b.fraction
    b.firstGrid (decimalExponent num den) 17 1

end JavaMetrics.Decimal
