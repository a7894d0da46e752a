
set_option autoImplicit false

namespace JavaMetrics.Text

abbrev Ranges := Array (Nat × Nat)

namespace Ranges

/-- Bisection between `lo` and `hi`: every range before `lo` lies below `n`, every range from `hi`
on above it. -/
def search (rs : Ranges) (n lo hi : Nat) : Bool :=
  if lo < hi then
    let mid := (lo + hi) / 2
    match rs[mid]? with
    | some (a, b) => if n < a then search rs n lo mid else if b < n then search rs n (mid + 1) hi else true
    | none => false
  else false
termination_by hi - lo

def has (rs : Ranges) (n : Nat) : Bool := rs.search n 0 rs.size

end Ranges

end JavaMetrics.Text
