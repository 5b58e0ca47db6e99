import Mathlib.Algebra.Order.Field.Basic
import Mathlib.Algebra.Order.Ring.Abs
import Mathlib.Tactic.Linarith
import Mathlib.Tactic.Ring

/-!
# Sliding from one number to another

`slide a b w` is the part `w` of the way from `a` to `b`, over an ordered field. For a
weight between zero and one it lies between the two numbers, and its distance to the end
is the rest of the way.
-/

namespace Numeric

variable {K : Type*} [Field K]

/-- The part `w` of the way from `a` to `b`. -/
def slide (a b w : K) : K := (1 - w) * a + w * b

@[simp] theorem slide_zero (a b : K) : slide a b 0 = a := by
  simp [slide]

@[simp] theorem slide_one (a b : K) : slide a b 1 = b := by
  simp [slide]

/-- What is left of the way. -/
theorem slide_sub (a b w : K) : slide a b w - b = (1 - w) * (a - b) := by
  unfold slide
  ring

variable [LinearOrder K] [IsStrictOrderedRing K]

theorem le_slide {a b w lo : K} (h0 : 0 ≤ w) (h1 : w ≤ 1) (ha : lo ≤ a) (hb : lo ≤ b) :
    lo ≤ slide a b w := by
  have hrest : 0 ≤ 1 - w := sub_nonneg.mpr h1
  have hfirst : (1 - w) * lo ≤ (1 - w) * a := mul_le_mul_of_nonneg_left ha hrest
  have hsecond : w * lo ≤ w * b := mul_le_mul_of_nonneg_left hb h0
  unfold slide
  linarith

theorem slide_le {a b w hi : K} (h0 : 0 ≤ w) (h1 : w ≤ 1) (ha : a ≤ hi) (hb : b ≤ hi) :
    slide a b w ≤ hi := by
  have hrest : 0 ≤ 1 - w := sub_nonneg.mpr h1
  have hfirst : (1 - w) * a ≤ (1 - w) * hi := mul_le_mul_of_nonneg_left ha hrest
  have hsecond : w * b ≤ w * hi := mul_le_mul_of_nonneg_left hb h0
  unfold slide
  linarith

/-- The distance to the end never grows. -/
theorem abs_slide_sub_le {a b w : K} (h0 : 0 ≤ w) (h1 : w ≤ 1) :
    |slide a b w - b| ≤ |a - b| := by
  have hrest : 0 ≤ 1 - w := sub_nonneg.mpr h1
  rw [slide_sub, abs_mul, abs_of_nonneg hrest]
  have hle : 1 - w ≤ 1 := by linarith
  exact mul_le_of_le_one_left (abs_nonneg _) hle

end Numeric
