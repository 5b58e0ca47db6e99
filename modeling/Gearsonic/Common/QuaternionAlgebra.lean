import Gearsonic.Common.Quaternions
import Mathlib.Analysis.Quaternion

/-!
# The quaternion algebra of the source

`quat_mul`, `quat_rotate` and `quat_to_rotation_matrix` against the textbook: the Hamilton product,
conjugation by a unit quaternion, and the matrix of the rotation. `quatNorm` and `vectorNorm` are
the norms as `quat_unit` and `normalize_vector` compute them.

* `quatNorm_quatMul`, `vectorNorm_quatRotate`: norms multiply, and a rotation keeps the length.
* `quatRotate_quatMul`: rotating by a product is rotating twice.
* `mulVec_quatToRotationMatrix`: the matrix rotates as the quaternion does.
-/

namespace Gearsonic

open Quaternion

noncomputable def quatNorm (q : Quat ℝ) : ℝ :=
  √(q 0 * q 0 + q 1 * q 1 + q 2 * q 2 + q 3 * q 3)

noncomputable def vectorNorm (v : Vec3 ℝ) : ℝ := √(v 0 * v 0 + v 1 * v 1 + v 2 * v 2)

theorem quatNorm_eq (q : Quat ℝ) : quatNorm q = ‖quaternionOf q‖ := by
  have hsq : q 0 * q 0 + q 1 * q 1 + q 2 * q 2 + q 3 * q 3 =
      ‖quaternionOf q‖ * ‖quaternionOf q‖ := by
    rw [← Quaternion.normSq_eq_norm_mul_self, normSq_def']
    simp only [quaternionOf, sq]
  rw [quatNorm, hsq, Real.sqrt_mul_self (norm_nonneg _)]

theorem vectorNorm_eq (v : Vec3 ℝ) : vectorNorm v = ‖vectorOf v‖ := by
  have hsq : v 0 * v 0 + v 1 * v 1 + v 2 * v 2 = ‖vectorOf v‖ * ‖vectorOf v‖ := by
    rw [← Quaternion.normSq_eq_norm_mul_self, normSq_def']
    simp only [vectorOf, sq]
    ring
  rw [vectorNorm, hsq, Real.sqrt_mul_self (norm_nonneg _)]

theorem UnitQuat.norm_eq {q : Quat ℝ} (h : UnitQuat q) : ‖quaternionOf q‖ = 1 := by
  rw [← quatNorm_eq, quatNorm, h, Real.sqrt_one]

theorem quatUnit_eq_smul {q : Quat ℝ} (h : 1e-12 ≤ quatNorm q) :
    quatUnit q = (quatNorm q)⁻¹ • q := by
  funext i
  show q i / max (quatNorm q) 1e-12 = (quatNorm q)⁻¹ * q i
  rw [max_eq_left h, div_eq_inv_mul]

/-- What is not all but zero is normalized. -/
theorem unitQuat_quatUnit_of_norm {q : Quat ℝ} (h : 1e-12 ≤ quatNorm q) : UnitQuat (quatUnit q) := by
  have hpos : 0 < quatNorm q := lt_of_lt_of_le (by norm_num) h
  have hsq : quatNorm q * quatNorm q = q 0 * q 0 + q 1 * q 1 + q 2 * q 2 + q 3 * q 3 := by
    apply Real.mul_self_sqrt
    have h0 := mul_self_nonneg (q 0)
    have h1 := mul_self_nonneg (q 1)
    have h2 := mul_self_nonneg (q 2)
    have h3 := mul_self_nonneg (q 3)
    linarith
  rw [quatUnit_eq_smul h]
  unfold UnitQuat
  simp only [Pi.smul_apply, smul_eq_mul]
  field_simp
  linarith

theorem quatNorm_quatMul (a b : Quat ℝ) : quatNorm (quatMul a b) = quatNorm a * quatNorm b := by
  rw [quatNorm_eq, quaternionOf_quatMul, norm_mul, quatNorm_eq, quatNorm_eq]

theorem vectorNorm_quatRotate {q : Quat ℝ} (h : UnitQuat q) (v : Vec3 ℝ) :
    vectorNorm (quatRotate q v) = vectorNorm v := by
  rw [vectorNorm_eq, vectorOf_quatRotate h, norm_mul, norm_mul, norm_star, h.norm_eq, one_mul,
    mul_one, vectorNorm_eq]

theorem quatRotate_quatMul {a b : Quat ℝ} (ha : UnitQuat a) (hb : UnitQuat b) (v : Vec3 ℝ) :
    quatRotate (quatMul a b) v = quatRotate a (quatRotate b v) := by
  apply vectorOf_injective
  rw [vectorOf_quatRotate (ha.mul hb), vectorOf_quatRotate ha, vectorOf_quatRotate hb,
    quaternionOf_quatMul, star_mul]
  simp only [mul_assoc]

theorem mulVec_quatToRotationMatrix {q : Quat ℝ} (h : UnitQuat q) (v : Vec3 ℝ) :
    (Matrix.of (quatToRotationMatrix q)).mulVec v = quatRotate q v := by
  unfold quatToRotationMatrix
  rw [quatUnit_eq h]
  unfold UnitQuat at h
  ext i
  rw [Matrix.mulVec, dotProduct, Fin.sum_univ_three]
  fin_cases i
  · simp [quatRotate]
    norm_num
    linear_combination (-2 * v 0) * h
  · simp [quatRotate]
    norm_num
    linear_combination (-2 * v 1) * h
  · simp [quatRotate]
    norm_num
    linear_combination (-2 * v 2) * h

/-- **The factored algebra is the textbook one.** The product is Hamilton's, its norm is
multiplicative and it is associative. A unit quaternion rotates by conjugation, keeps the length,
rotates as the product where it follows another one, and as its matrix. -/
theorem quaternion_algebra :
    (∀ a b : Quat ℝ, quaternionOf (quatMul a b) = quaternionOf a * quaternionOf b) ∧
      (∀ a b : Quat ℝ, quatNorm (quatMul a b) = quatNorm a * quatNorm b) ∧
      (∀ a b c : Quat ℝ, quatMul (quatMul a b) c = quatMul a (quatMul b c)) ∧
      (∀ (q : Quat ℝ) (v : Vec3 ℝ), UnitQuat q →
        vectorOf (quatRotate q v) =
            quaternionOf q * vectorOf v * quaternionOf (quatConjugate q) ∧
          vectorNorm (quatRotate q v) = vectorNorm v ∧
          (Matrix.of (quatToRotationMatrix q)).mulVec v = quatRotate q v) ∧
      ∀ (a b : Quat ℝ) (v : Vec3 ℝ), UnitQuat a → UnitQuat b →
        quatRotate (quatMul a b) v = quatRotate a (quatRotate b v) := by
  refine ⟨quaternionOf_quatMul, quatNorm_quatMul, quatMul_assoc, fun q v h => ?_,
    fun a b v ha hb => quatRotate_quatMul ha hb v⟩
  refine ⟨?_, vectorNorm_quatRotate h v, mulVec_quatToRotationMatrix h v⟩
  rw [quaternionOf_quatConjugate]
  exact vectorOf_quatRotate h v

/-- A half turn about the vertical. -/
theorem quaternion_algebra_half_turn :
    UnitQuat ![0, 0, 0, 1] ∧
      (Matrix.of (quatToRotationMatrix (K := ℝ) ![0, 0, 0, 1])).mulVec ![1, 2, 3] =
        ![-1, -2, 3] := by
  have hunit : UnitQuat ![0, 0, 0, 1] := by simp [UnitQuat]
  have hrotate : quatRotate (K := ℝ) ![0, 0, 0, 1] ![1, 2, 3] = ![-1, -2, 3] := by
    have hy : (![0, 0, 0, 1] : Quat ℝ) 2 = 0 := rfl
    have hz : (![0, 0, 0, 1] : Quat ℝ) 3 = 1 := rfl
    have hv : (![1, 2, 3] : Vec3 ℝ) 2 = 3 := rfl
    ext i
    fin_cases i <;> norm_num [quatRotate, hy, hz, hv]
  refine ⟨hunit, ?_⟩
  rw [(quaternion_algebra.2.2.2.1 _ _ hunit).2.2]
  exact hrotate

end Gearsonic
