import Mathlib.Data.Rat.Floor
import Mathlib.Data.Nat.Sqrt
import Mathlib.Tactic.Common

/-!
# The C math library

The numeric code is modelled over a field `K` with a linear order, and a `double` or
`float` is read as exact. `CMath` is what the code calls from `<cmath>`. The reals carry
the functions themselves (`Common/FloatMath.lean`); the rationals carry stand-ins that are
exact where the value is rational, so that the model runs.
-/

namespace Gearsonic

class CMath (K : Type) where
  sqrt : K → K
  cos : K → K
  sin : K → K
  acos : K → K
  atan2 : K → K → K
  hypot : K → K → K
  floor : K → Int

/-- `static_cast<int>` of a floating-point number: towards zero. -/
def CMath.trunc {K : Type} [Field K] [LinearOrder K] [CMath K] (x : K) : Int :=
  if 0 ≤ x then CMath.floor x else -CMath.floor (-x)

/-- Exact square root of a quotient of two squares. -/
def ratSqrt (x : ℚ) : ℚ := (Nat.sqrt x.num.toNat : ℚ) / (Nat.sqrt x.den : ℚ)

/-- Exact at `cos 0`, `sin 0`, `acos 1` and `atan2 0 1`. -/
instance : CMath ℚ where
  sqrt := ratSqrt
  cos x := if x = 0 then 1 else 0
  sin _ := 0
  acos _ := 0
  atan2 _ _ := 0
  hypot x y := ratSqrt (x * x + y * y)
  floor x := x.floor

end Gearsonic
