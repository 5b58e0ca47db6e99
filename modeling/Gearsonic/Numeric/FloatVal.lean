import Mathlib.Algebra.Field.Defs
import Mathlib.Algebra.Order.Group.Unbundled.Abs
import Mathlib.Algebra.Order.Ring.Defs
import Mathlib.Tactic.Common

/-!
# Floats with their special values

`FloatVal K` is a float that is exact where it is finite: a number of `K`, an infinity, or
NaN. Sums, products and comparisons follow IEEE 754, up to rounding and the sign of zero.

* `isFinite_add`, `isFinite_mul`: a sum or a product is finite exactly if both sides are, also
  where a weight is zero.
* `isFinite_div_of_right`: what is not finite stays so under a divisor that is not finite.
* `finite_add`, `finite_mul`, `finite_div`: on finite numbers the operations are those of `K`.
* `clamp_mem_iff`: `std::clamp` cuts everything but NaN to its bounds.
-/

set_option linter.unusedSectionVars false

namespace Numeric

inductive FloatVal (K : Type*) where
  | finite (x : K)
  | inf (neg : Bool)
  | nan

namespace FloatVal

variable {K : Type*}

/-- `std::isfinite`. -/
def isFinite : FloatVal K → Bool
  | finite _ => true
  | _ => false

/-- `std::isnan`. -/
def isNan : FloatVal K → Bool
  | nan => true
  | _ => false

/-- The number, if it is finite. -/
def toOption : FloatVal K → Option K
  | finite x => some x
  | _ => none

theorem isSome_toOption (x : FloatVal K) : x.toOption.isSome = x.isFinite := by
  cases x <;> rfl

@[simp] theorem isFinite_finite (x : K) : (finite x).isFinite = true := rfl

@[simp] theorem isFinite_inf (neg : Bool) : (inf neg : FloatVal K).isFinite = false := rfl

@[simp] theorem isFinite_nan : (nan : FloatVal K).isFinite = false := rfl

theorem isFinite_iff {x : FloatVal K} : x.isFinite = true ↔ ∃ y, x = finite y := by
  cases x with
  | finite y => exact ⟨fun _ => ⟨y, rfl⟩, fun _ => rfl⟩
  | inf neg => exact ⟨nofun, nofun⟩
  | nan => exact ⟨nofun, nofun⟩

variable [Field K] [LinearOrder K]

instance : Zero (FloatVal K) := ⟨finite 0⟩

instance : Neg (FloatVal K) where
  neg
    | finite x => finite (-x)
    | inf neg => inf (!neg)
    | nan => nan

instance : Add (FloatVal K) where
  add
    | finite x, finite y => finite (x + y)
    | inf neg, finite _ => inf neg
    | finite _, inf neg => inf neg
    | inf neg, inf neg' => if neg = neg' then inf neg else nan
    | _, _ => nan

instance : Sub (FloatVal K) := ⟨fun x y => x + -y⟩

/-- An infinity times zero is NaN. -/
instance : Mul (FloatVal K) where
  mul
    | finite x, finite y => finite (x * y)
    | inf neg, finite y => if y = 0 then nan else inf (neg ^^ decide (y < 0))
    | finite x, inf neg => if x = 0 then nan else inf (neg ^^ decide (x < 0))
    | inf neg, inf neg' => inf (neg ^^ neg')
    | _, _ => nan

/-- By zero: NaN or an infinity. -/
instance : Div (FloatVal K) where
  div
    | finite x, finite y =>
      if y = 0 then if x = 0 then nan else inf (decide (x < 0)) else finite (x / y)
    | inf neg, finite y => inf (neg ^^ decide (y < 0))
    | finite _, inf _ => finite 0
    | _, _ => nan

/-- Every comparison with NaN is false. -/
def lt : FloatVal K → FloatVal K → Bool
  | finite x, finite y => x < y
  | finite _, inf neg => !neg
  | inf neg, finite _ => neg
  | inf neg, inf neg' => neg && !neg'
  | _, _ => false

instance : LT (FloatVal K) := ⟨fun x y => lt x y = true⟩

instance (x y : FloatVal K) : Decidable (x < y) := inferInstanceAs (Decidable (lt x y = true))

def le : FloatVal K → FloatVal K → Bool
  | finite x, finite y => x ≤ y
  | finite _, inf neg => !neg
  | inf neg, finite _ => neg
  | inf neg, inf neg' => neg || !neg'
  | _, _ => false

instance : LE (FloatVal K) := ⟨fun x y => le x y = true⟩

instance (x y : FloatVal K) : Decidable (x ≤ y) := inferInstanceAs (Decidable (le x y = true))

/-- `std::max`, which keeps its first argument where the comparison is false. -/
def max (x y : FloatVal K) : FloatVal K := if x < y then y else x

/-- `std::clamp`, which keeps its first argument where both comparisons are false. -/
def clamp (x lo hi : FloatVal K) : FloatVal K := if x < lo then lo else if hi < x then hi else x

/-- `std::fabs`. -/
def fabs : FloatVal K → FloatVal K
  | finite x => finite |x|
  | inf _ => inf false
  | nan => nan

/-! ## Finite numbers -/

theorem zero_def : (0 : FloatVal K) = finite 0 := rfl

theorem finite_add (x y : K) : finite x + finite y = finite (x + y) := rfl

theorem finite_sub (x y : K) : finite x - finite y = finite (x - y) := by
  rw [sub_eq_add_neg]
  rfl

theorem finite_mul (x y : K) : finite x * finite y = finite (x * y) := rfl

theorem inf_add_inf (neg neg' : Bool) :
    (inf neg + inf neg' : FloatVal K) = if neg = neg' then inf neg else nan := rfl

theorem inf_mul_finite (neg : Bool) (y : K) :
    (inf neg * finite y : FloatVal K) = if y = 0 then nan else inf (neg ^^ decide (y < 0)) := rfl

/-- Adding a number makes no NaN. -/
theorem finite_add_eq_nan_iff (x : K) (y : FloatVal K) : finite x + y = nan ↔ y = nan := by
  cases y with
  | nan => exact ⟨fun h => h, fun h => h⟩
  | _ => exact ⟨nofun, nofun⟩

theorem finite_div (x : K) {y : K} (hy : y ≠ 0) : finite x / finite y = finite (x / y) :=
  if_neg hy

theorem finite_neg (x : K) : -finite x = finite (-x) := rfl

theorem finite_lt {x y : K} : finite x < finite y ↔ x < y := decide_eq_true_iff

theorem finite_le {x y : K} : finite x ≤ finite y ↔ x ≤ y := decide_eq_true_iff

theorem zero_lt {x : K} : 0 < finite x ↔ 0 < x := finite_lt

theorem lt_zero {x : K} : finite x < 0 ↔ x < 0 := finite_lt

theorem finite_max (x y : K) : max (finite x) (finite y) = finite (Max.max x y) := by
  unfold max
  rcases lt_or_ge x y with hlt | hge
  · rw [if_pos (finite_lt.mpr hlt), max_eq_right hlt.le]
  · rw [if_neg (fun h => absurd (finite_lt.mp h) (not_lt.mpr hge)), max_eq_left hge]

theorem finite_fabs (x : K) : fabs (finite x) = finite |x| := rfl

theorem finite_clamp (x lo hi : K) : clamp (finite x) (finite lo) (finite hi) =
    finite (if x < lo then lo else if hi < x then hi else x) := by
  unfold clamp
  simp only [finite_lt]
  split
  · rfl
  · split <;> rfl

/-! ## NaN goes through -/

theorem add_nan (x : FloatVal K) : x + nan = nan := by
  cases x <;> rfl

theorem nan_add (x : FloatVal K) : nan + x = nan := by
  cases x <;> rfl

theorem nan_mul (x : FloatVal K) : nan * x = nan := by
  cases x <;> rfl

theorem div_nan (x : FloatVal K) : x / nan = nan := by
  cases x <;> rfl

theorem nan_sub (x : FloatVal K) : nan - x = nan := by
  cases x <;> rfl

theorem not_nan_lt (x : FloatVal K) : ¬ nan < x := by
  cases x <;> nofun

theorem not_lt_nan (x : FloatVal K) : ¬ x < nan := by
  cases x <;> nofun

theorem clamp_nan (lo hi : FloatVal K) : clamp nan lo hi = nan := by
  unfold clamp
  rw [if_neg (not_nan_lt lo), if_neg (not_lt_nan hi)]

/-- **What `std::clamp` makes of a float**: everything but NaN is cut to the bounds. -/
theorem clamp_mem_iff {lo hi : K} (h : lo ≤ hi) (x : FloatVal K) :
    (∃ y, clamp x (finite lo) (finite hi) = finite y ∧ lo ≤ y ∧ y ≤ hi) ↔ x ≠ nan := by
  cases x with
  | finite x =>
    refine ⟨fun _ => nofun, fun _ => ⟨_, finite_clamp x lo hi, ?_⟩⟩
    split
    · exact ⟨le_rfl, h⟩
    · split
      · exact ⟨h, le_rfl⟩
      · exact ⟨not_lt.mp ‹_›, not_lt.mp ‹_›⟩
  | inf neg =>
    refine ⟨fun _ => nofun, fun _ => ?_⟩
    cases neg with
    | true => exact ⟨lo, rfl, le_rfl, h⟩
    | false => exact ⟨hi, rfl, h, le_rfl⟩
  | nan =>
    rw [clamp_nan]
    constructor
    · rintro ⟨y, hy, -⟩
      cases hy
    · exact fun hne => absurd rfl hne

/-! ## What is not finite stays so -/

@[simp] theorem isFinite_neg (x : FloatVal K) : (-x).isFinite = x.isFinite := by
  cases x <;> rfl

@[simp] theorem isFinite_add (x y : FloatVal K) :
    (x + y).isFinite = (x.isFinite && y.isFinite) := by
  cases x with
  | finite x => cases y <;> rfl
  | inf neg =>
    cases y with
    | inf neg' =>
      show (if neg = neg' then inf neg else nan : FloatVal K).isFinite = false
      split <;> rfl
    | _ => rfl
  | nan => cases y <;> rfl

@[simp] theorem isFinite_sub (x y : FloatVal K) :
    (x - y).isFinite = (x.isFinite && y.isFinite) := by
  show (x + -y).isFinite = _
  rw [isFinite_add, isFinite_neg]

@[simp] theorem isFinite_mul (x y : FloatVal K) :
    (x * y).isFinite = (x.isFinite && y.isFinite) := by
  cases x with
  | finite x =>
    cases y with
    | inf neg =>
      show (if x = 0 then nan else inf (neg ^^ decide (x < 0)) : FloatVal K).isFinite = false
      split <;> rfl
    | _ => rfl
  | inf neg =>
    cases y with
    | finite y =>
      show (if y = 0 then nan else inf (neg ^^ decide (y < 0)) : FloatVal K).isFinite = false
      split <;> rfl
    | _ => rfl
  | nan => cases y <;> rfl

/-- An infinity over an infinity is NaN. -/
theorem isFinite_div_of_right {x y : FloatVal K} (hx : x.isFinite = false)
    (hy : y.isFinite = false) : (x / y).isFinite = false := by
  cases x with
  | finite x => cases hx
  | inf neg =>
    cases y with
    | finite y => cases hy
    | inf neg' => rfl
    | nan => rfl
  | nan => cases y <;> rfl

end FloatVal

end Numeric
