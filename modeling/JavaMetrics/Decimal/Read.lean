import JavaMetrics.Decimal.Binary

set_option autoImplicit false

namespace JavaMetrics.Decimal

/-- `digits · 10 ^ exponent`, rounded. Numbers far beyond the range of the format are settled by
their count of digits alone. -/
def nearest (negative : Bool) (digits : Nat) (exponent : Int) : Float :=
  let top := exponent + (Nat.toDigits 10 digits).length
  let f :=
    if digits == 0 || top < -400 then 0.0
    else if 400 < top then 1.0 / 0.0
    else Float.ofScientific digits (exponent < 0) exponent.natAbs
  if negative then -f else f

end JavaMetrics.Decimal
