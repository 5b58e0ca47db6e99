import Mathlib.Algebra.Order.Ring.Abs
import Mathlib.Analysis.Real.Sqrt
import Mathlib.Data.Matrix.Mul
import Mathlib.Tactic.FieldSimp
import Mathlib.Tactic.LinearCombination
import Mathlib.Tactic.Linarith
import Mathlib.Tactic.Module

/-!
# A chain of two links

Two links of lengths `a` and `b` whose ends are `d` apart. With a unit vector `u` from the first
end to the second and a unit vector `h` orthogonal to it, the joint is `along` on `u` and `offset`
on `h`; then both links have their length (`length_upper`, `length_fore`).

`reject` is the part of a vector that is orthogonal to `u`.
-/

namespace TwoLink

local instance atLeastTwo_two : Nat.AtLeastTwo 2 := ⟨le_rfl⟩

open Matrix

variable {ι : Type*} [Fintype ι] {u h v : ι → ℝ} {a b d : ℝ}

/-! ## Vectors -/

noncomputable def length (v : ι → ℝ) : ℝ := √(v ⬝ᵥ v)

theorem dotProduct_self_nonneg (v : ι → ℝ) : 0 ≤ v ⬝ᵥ v :=
  Finset.sum_nonneg fun i _ => mul_self_nonneg (v i)

theorem length_sq (v : ι → ℝ) : length v ^ 2 = v ⬝ᵥ v := Real.sq_sqrt (dotProduct_self_nonneg v)

theorem length_nonneg (v : ι → ℝ) : 0 ≤ length v := Real.sqrt_nonneg _

/-- Every component is at most the length. -/
theorem abs_le_length (v : ι → ℝ) (i : ι) : |v i| ≤ length v := by
  apply Real.le_sqrt_of_sq_le
  rw [sq_abs, sq]
  exact Finset.single_le_sum (fun j _ => mul_self_nonneg (v j)) (Finset.mem_univ i)

/-- A vector divided by its length is a unit vector. -/
theorem dotProduct_unit (hv : length v ≠ 0) :
    ((1 / length v) • v) ⬝ᵥ ((1 / length v) • v) = 1 := by
  rw [smul_dotProduct, dotProduct_smul, ← length_sq, smul_eq_mul, smul_eq_mul]
  field_simp

/-- The part of `v` that is orthogonal to `u`. -/
def reject (u v : ι → ℝ) : ι → ℝ := v - (v ⬝ᵥ u) • u

theorem reject_dotProduct (hu : u ⬝ᵥ u = 1) (v : ι → ℝ) : reject u v ⬝ᵥ u = 0 := by
  unfold reject
  rw [sub_dotProduct, smul_dotProduct, hu, smul_eq_mul, mul_one, sub_self]

theorem reject_self (hu : u ⬝ᵥ u = 1) (v : ι → ℝ) :
    reject u v ⬝ᵥ reject u v = v ⬝ᵥ v - (v ⬝ᵥ u) ^ 2 :=
  calc reject u v ⬝ᵥ reject u v
      = reject u v ⬝ᵥ (v - (v ⬝ᵥ u) • u) := rfl
    _ = reject u v ⬝ᵥ v := by
      rw [dotProduct_sub, dotProduct_smul, reject_dotProduct hu, smul_zero, sub_zero]
    _ = v ⬝ᵥ v - (v ⬝ᵥ u) ^ 2 := by
      rw [reject, sub_dotProduct, smul_dotProduct, dotProduct_comm u v, smul_eq_mul, sq]

theorem dotProduct_combination (hu : u ⬝ᵥ u = 1) (hh : h ⬝ᵥ h = 1) (hh_u : h ⬝ᵥ u = 0)
    (x y : ℝ) : (x • u + y • h) ⬝ᵥ (x • u + y • h) = x ^ 2 + y ^ 2 := by
  have hu_h : u ⬝ᵥ h = 0 := (dotProduct_comm u h).trans hh_u
  simp only [add_dotProduct, dotProduct_add, smul_dotProduct, dotProduct_smul, smul_eq_mul, hu, hh,
    hh_u, hu_h]
  ring

/-! ## The joint -/

/-- How far along `u` the joint is. -/
noncomputable def along (a b d : ℝ) : ℝ := (a * a - b * b + d * d) / (2 * d)

/-- How far off that line it is. -/
noncomputable def offset (a b d : ℝ) : ℝ := √(max (a * a - along a b d * along a b d) 0)

theorem along_mul (hd : 0 < d) (a b : ℝ) : 2 * d * along a b d = a * a - b * b + d * d := by
  unfold along
  field_simp

/-- The joint is within the first link's reach: the links can meet. -/
theorem along_sq_le (hd : 0 < d) (hfold : |a - b| ≤ d) (hextend : d ≤ a + b) :
    along a b d ^ 2 ≤ a ^ 2 := by
  have halong := along_mul hd a b
  obtain ⟨hlo, hhi⟩ := abs_le.mp hfold
  apply sq_le_sq'
  · have hmul : 2 * d * (-a) ≤ 2 * d * along a b d := by
      rw [halong]
      nlinarith
    exact le_of_mul_le_mul_left hmul (by linarith)
  · have hmul : 2 * d * along a b d ≤ 2 * d * a := by
      rw [halong]
      nlinarith
    exact le_of_mul_le_mul_left hmul (by linarith)

theorem along_offset (hd : 0 < d) (hfold : |a - b| ≤ d) (hextend : d ≤ a + b) :
    along a b d ^ 2 + offset a b d ^ 2 = a ^ 2 := by
  have hle := along_sq_le hd hfold hextend
  unfold offset
  rw [Real.sq_sqrt (le_max_right _ _), max_eq_left (by nlinarith)]
  ring

/-- **First link.** -/
theorem length_upper (hu : u ⬝ᵥ u = 1) (hh : h ⬝ᵥ h = 1) (hh_u : h ⬝ᵥ u = 0) (ha : 0 ≤ a)
    (hd : 0 < d) (hfold : |a - b| ≤ d) (hextend : d ≤ a + b) :
    length (along a b d • u + offset a b d • h) = a := by
  unfold length
  rw [dotProduct_combination hu hh hh_u, along_offset hd hfold hextend, Real.sqrt_sq ha]

/-- **Second link.** -/
theorem length_fore (hu : u ⬝ᵥ u = 1) (hh : h ⬝ᵥ h = 1) (hh_u : h ⬝ᵥ u = 0) (hb : 0 ≤ b)
    (hd : 0 < d) (hfold : |a - b| ≤ d) (hextend : d ≤ a + b) :
    length (d • u - (along a b d • u + offset a b d • h)) = b := by
  have hrest : d • u - (along a b d • u + offset a b d • h) =
      (d - along a b d) • u + (-offset a b d) • h := by module
  have hsum := along_offset hd hfold hextend
  have halong := along_mul hd a b
  unfold length
  rw [hrest, dotProduct_combination hu hh hh_u]
  have hsq : (d - along a b d) ^ 2 + (-offset a b d) ^ 2 = b ^ 2 := by
    linear_combination hsum - halong
  rw [hsq, Real.sqrt_sq hb]

end TwoLink
