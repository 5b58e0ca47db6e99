import Gearsonic.Common.MathUtils
import Gearsonic.Common.FloatMath
import Mathlib.Algebra.Quaternion
import Mathlib.LinearAlgebra.UnitaryGroup

/-!
# Quaternions over the reals

The source's quaternion functions are those of the quaternion algebra. `quaternionOf` reads
an array as a quaternion and `vectorOf` a vector as a pure one; each function has one lemma
that says what it is there. Rotation is by a unit quaternion everywhere.

* `vectorOf_quatRotate`: a vector is rotated by conjugation.
* `quatToRotationMatrix_mem`: the matrix of a unit quaternion is a rotation.
* `quatSlerp_zero`, `quatSlerp_one`: the interpolation starts at its first quaternion, and ends at
  the second one or its negative.
-/

namespace Gearsonic

open Quaternion

/-- Unit length. -/
def UnitQuat (q : Quat ℝ) : Prop := q 0 * q 0 + q 1 * q 1 + q 2 * q 2 + q 3 * q 3 = 1

def quaternionOf (q : Quat ℝ) : ℍ[ℝ] := ⟨q 0, q 1, q 2, q 3⟩

def vectorOf (v : Vec3 ℝ) : ℍ[ℝ] := ⟨0, v 0, v 1, v 2⟩

@[simp] theorem quaternionOf_re (q : Quat ℝ) : (quaternionOf q).re = q 0 := rfl

@[simp] theorem quaternionOf_imI (q : Quat ℝ) : (quaternionOf q).imI = q 1 := rfl

@[simp] theorem quaternionOf_imJ (q : Quat ℝ) : (quaternionOf q).imJ = q 2 := rfl

@[simp] theorem quaternionOf_imK (q : Quat ℝ) : (quaternionOf q).imK = q 3 := rfl

@[simp] theorem vectorOf_re (v : Vec3 ℝ) : (vectorOf v).re = 0 := rfl

@[simp] theorem vectorOf_imI (v : Vec3 ℝ) : (vectorOf v).imI = v 0 := rfl

@[simp] theorem vectorOf_imJ (v : Vec3 ℝ) : (vectorOf v).imJ = v 1 := rfl

@[simp] theorem vectorOf_imK (v : Vec3 ℝ) : (vectorOf v).imK = v 2 := rfl

theorem quatRotate_add (q : Quat ℝ) (v w : Vec3 ℝ) :
    quatRotate q (v + w) = quatRotate q v + quatRotate q w := by
  have hone : (1.0 : ℝ) = 1 := by norm_num
  have htwo : (2.0 : ℝ) = 2 := by norm_num
  funext i
  fin_cases i
  all_goals
    simp [quatRotate, hone, htwo]
    ring

theorem quatRotate_sub (q : Quat ℝ) (v w : Vec3 ℝ) :
    quatRotate q (v - w) = quatRotate q v - quatRotate q w := by
  rw [eq_sub_iff_add_eq, ← quatRotate_add, sub_add_cancel]

theorem quaternionOf_injective : Function.Injective quaternionOf := by
  intro p q h
  funext i
  fin_cases i
  · exact congrArg (fun x : ℍ[ℝ] => x.re) h
  · exact congrArg (fun x : ℍ[ℝ] => x.imI) h
  · exact congrArg (fun x : ℍ[ℝ] => x.imJ) h
  · exact congrArg (fun x : ℍ[ℝ] => x.imK) h

theorem vectorOf_injective : Function.Injective vectorOf := by
  intro v w h
  funext i
  fin_cases i
  · exact congrArg (fun x : ℍ[ℝ] => x.imI) h
  · exact congrArg (fun x : ℍ[ℝ] => x.imJ) h
  · exact congrArg (fun x : ℍ[ℝ] => x.imK) h

/-! ## The functions -/

theorem quaternionOf_quatMul (a b : Quat ℝ) :
    quaternionOf (quatMul a b) = quaternionOf a * quaternionOf b := by
  ext
  all_goals
    simp [quatMul]
    ring

theorem quaternionOf_quatConjugate (q : Quat ℝ) :
    quaternionOf (quatConjugate q) = star (quaternionOf q) := by
  ext <;> simp [quatConjugate]

theorem unitQuat_iff {q : Quat ℝ} : UnitQuat q ↔ quaternionOf q ∈ unitary ℍ[ℝ] := by
  have hself : quaternionOf q * star (quaternionOf q) =
      ((q 0 * q 0 + q 1 * q 1 + q 2 * q 2 + q 3 * q 3 : ℝ) : ℍ[ℝ]) := by
    rw [self_mul_star, normSq_def']
    simp only [quaternionOf, sq]
  rw [Unitary.mem_iff, star_comm_self, and_self, hself]
  constructor
  · intro h
    rw [h]
    rfl
  · intro h
    exact Quaternion.coe_injective h

theorem vectorOf_quatRotate {q : Quat ℝ} (h : UnitQuat q) (v : Vec3 ℝ) :
    vectorOf (quatRotate q v) =
      quaternionOf q * vectorOf v * star (quaternionOf q) := by
  unfold UnitQuat at h
  ext
  · simp
    ring
  · simp [quatRotate]
    norm_num
    linear_combination v 0 * h
  · simp [quatRotate]
    norm_num
    linear_combination v 1 * h
  · simp [quatRotate]
    norm_num
    linear_combination v 2 * h

theorem quatMul_assoc (a b c : Quat ℝ) : quatMul (quatMul a b) c = quatMul a (quatMul b c) := by
  apply quaternionOf_injective
  simp only [quaternionOf_quatMul, mul_assoc]

theorem UnitQuat.mul {a b : Quat ℝ} (ha : UnitQuat a) (hb : UnitQuat b) :
    UnitQuat (quatMul a b) := by
  rw [unitQuat_iff, quaternionOf_quatMul]
  exact mul_mem (unitQuat_iff.mp ha) (unitQuat_iff.mp hb)

theorem UnitQuat.conjugate {q : Quat ℝ} (h : UnitQuat q) : UnitQuat (quatConjugate q) := by
  rw [unitQuat_iff, quaternionOf_quatConjugate]
  exact Unitary.star_mem (unitQuat_iff.mp h)

/-! ## Angles and matrices -/

theorem quatUnit_eq {q : Quat ℝ} (h : UnitQuat q) : quatUnit q = q := by
  have hnorm : max (√(q 0 * q 0 + q 1 * q 1 + q 2 * q 2 + q 3 * q 3)) 1e-12 = (1 : ℝ) := by
    rw [h, Real.sqrt_one]
    norm_num
  funext i
  show q i / max (√(q 0 * q 0 + q 1 * q 1 + q 2 * q 2 + q 3 * q 3)) 1e-12 = q i
  rw [hnorm, div_one]

theorem normalizeVector_eq {v : Vec3 ℝ} (h : v 0 * v 0 + v 1 * v 1 + v 2 * v 2 = 1) :
    normalizeVector v = v := by
  have hnorm : max (√(v 0 * v 0 + v 1 * v 1 + v 2 * v 2)) 1e-12 = (1 : ℝ) := by
    rw [h, Real.sqrt_one]
    norm_num
  funext i
  show v i / max (√(v 0 * v 0 + v 1 * v 1 + v 2 * v 2)) 1e-12 = v i
  rw [hnorm, div_one]

theorem unitQuat_angleAxis (theta : ℝ) {v : Vec3 ℝ} (h : v 0 * v 0 + v 1 * v 1 + v 2 * v 2 = 1) :
    UnitQuat ![Real.cos theta, v 0 * Real.sin theta, v 1 * Real.sin theta,
      v 2 * Real.sin theta] := by
  show Real.cos theta * Real.cos theta + v 0 * Real.sin theta * (v 0 * Real.sin theta) +
      v 1 * Real.sin theta * (v 1 * Real.sin theta) +
        v 2 * Real.sin theta * (v 2 * Real.sin theta) = 1
  linear_combination Real.sin theta ^ 2 * h + Real.sin_sq_add_cos_sq theta

theorem quatFromAngleAxis_eq (angle : ℝ) {v : Vec3 ℝ}
    (h : v 0 * v 0 + v 1 * v 1 + v 2 * v 2 = 1) :
    quatFromAngleAxis angle v =
      ![Real.cos (angle / 2), v 0 * Real.sin (angle / 2), v 1 * Real.sin (angle / 2),
        v 2 * Real.sin (angle / 2)] := by
  have hhalf : angle / 2.0 = angle / 2 := by norm_num
  unfold quatFromAngleAxis
  rw [normalizeVector_eq h]
  simp only [hhalf, cmath_cos, cmath_sin]
  exact quatUnit_eq (unitQuat_angleAxis (angle / 2) h)

theorem quatToRotationMatrix_mem {q : Quat ℝ} (h : UnitQuat q) :
    Matrix.of (quatToRotationMatrix q) ∈ Matrix.specialOrthogonalGroup (Fin 3) ℝ := by
  unfold quatToRotationMatrix
  rw [quatUnit_eq h]
  unfold UnitQuat at h
  rw [Matrix.mem_specialOrthogonalGroup_iff, Matrix.mem_orthogonalGroup_iff]
  constructor
  · ext i j
    fin_cases i <;> fin_cases j <;> simp [Matrix.mul_apply, Fin.sum_univ_three]
    · linear_combination 4 * (q 2 * q 2 + q 3 * q 3) * h
    · linear_combination (-4 * q 1 * q 2) * h
    · linear_combination (-4 * q 1 * q 3) * h
    · linear_combination (-4 * q 1 * q 2) * h
    · linear_combination 4 * (q 1 * q 1 + q 3 * q 3) * h
    · linear_combination (-4 * q 2 * q 3) * h
    · linear_combination (-4 * q 1 * q 3) * h
    · linear_combination (-4 * q 2 * q 3) * h
    · linear_combination 4 * (q 1 * q 1 + q 2 * q 2) * h
  · simp [Matrix.det_fin_three]
    linear_combination 4 * (q 1 * q 1 + q 2 * q 2 + q 3 * q 3) * h

theorem quatToRotationMatrix_neg (q : Quat ℝ) :
    quatToRotationMatrix (-q) = quatToRotationMatrix q := by
  have hunit : quatUnit (-q) = -quatUnit q := by
    funext i
    simp [quatUnit, neg_div]
  unfold quatToRotationMatrix
  rw [hunit]
  simp only [Pi.neg_apply, neg_mul_neg]

/-! ## Interpolation -/

theorem UnitQuat.neg {q : Quat ℝ} (h : UnitQuat q) : UnitQuat (-q) := by
  unfold UnitQuat at *
  simpa only [Pi.neg_apply, neg_mul_neg] using h

/-- One of the two quaternions of the rotation, normalized where it was interpolated linearly. -/
structure Oriented (q p : Quat ℝ) : Prop where
  same : q = p ∨ q = quatUnit p
  unit : UnitQuat p → q = p

theorem Oriented.refl (p : Quat ℝ) : Oriented p p := ⟨Or.inl rfl, fun _ => rfl⟩

theorem oriented_quatUnit (p : Quat ℝ) : Oriented (quatUnit p) p :=
  ⟨Or.inr rfl, fun h => quatUnit_eq h⟩

theorem quatSlerp_zero (a b : Quat ℝ) : Oriented (quatSlerp a b 0) a := by
  unfold quatSlerp
  dsimp only
  split_ifs with hneg hnear hnear
  all_goals simp only [zero_mul, mul_zero, add_zero, cmath_cos, cmath_sin, Real.cos_zero,
    Real.sin_zero, zero_div, sub_zero, one_mul]
  · exact oriented_quatUnit a
  · exact .refl a
  · exact oriented_quatUnit a
  · exact .refl a

/-- Between a unit quaternion and itself. -/
theorem quatSlerp_self {q : Quat ℝ} (h : UnitQuat q) (t : ℝ) : quatSlerp q q t = q := by
  have hdot : q 0 * q 0 + q 1 * q 1 + q 2 * q 2 + q 3 * q 3 = 1 := h
  have hline : (fun i => q i + t * (q i - q i)) = q := by
    funext i
    ring
  have hpos : ¬ (1 : ℝ) < 0 := by norm_num
  have hnear : (0.9995 : ℝ) < 1 := by norm_num
  unfold quatSlerp
  dsimp only
  rw [hdot]
  simp only [hpos, if_false]
  rw [if_pos hnear, hline, quatUnit_eq h]

/-- Away from its end at one, the arc cosine turns back into the cosine. -/
theorem slerp_weights {dot : ℝ} (h0 : 0 ≤ dot) (h1 : dot ≤ 0.9995) :
    Real.cos (Real.arccos dot) - dot * Real.sin (Real.arccos dot) / Real.sin (Real.arccos dot) = 0 ∧
      Real.sin (Real.arccos dot) / Real.sin (Real.arccos dot) = 1 := by
  have hsin : Real.sin (Real.arccos dot) ≠ 0 := by
    rw [Real.sin_arccos]
    apply Real.sqrt_ne_zero'.mpr
    norm_num at h1
    nlinarith
  have hcos : Real.cos (Real.arccos dot) = dot := by
    norm_num at h1
    exact Real.cos_arccos (by linarith) (by linarith)
  rw [mul_div_assoc, div_self hsin, mul_one, hcos, sub_self]
  exact ⟨rfl, rfl⟩

theorem quatSlerp_one (a b : Quat ℝ) :
    Oriented (quatSlerp a b 1) b ∨ Oriented (quatSlerp a b 1) (-b) := by
  unfold quatSlerp
  dsimp only
  split_ifs with hneg hnear hnear
  · right
    have hend : (fun i => a i + 1 * (-b i - a i)) = -b := by
      funext i
      simp
    rw [hend]
    exact oriented_quatUnit _
  · right
    obtain ⟨hs0, hs1⟩ := slerp_weights (neg_pos.mpr hneg).le (not_lt.mp hnear)
    simp only [mul_one, cmath_cos, cmath_sin, cmath_acos]
    rw [hs0, hs1]
    have hend : (fun i => (0 : ℝ) * a i + 1 * -b i) = -b := by
      funext i
      simp
    rw [hend]
    exact .refl _
  · left
    have hend : (fun i => a i + 1 * (b i - a i)) = b := by
      funext i
      simp
    rw [hend]
    exact oriented_quatUnit _
  · left
    obtain ⟨hs0, hs1⟩ := slerp_weights (not_lt.mp hneg) (not_lt.mp hnear)
    simp only [mul_one, cmath_cos, cmath_sin, cmath_acos]
    rw [hs0, hs1]
    have hend : (fun i => (0 : ℝ) * a i + 1 * b i) = b := by
      funext i
      simp
    rw [hend]
    exact .refl _

end Gearsonic
