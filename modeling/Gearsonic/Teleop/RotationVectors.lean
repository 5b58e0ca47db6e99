import Gearsonic.Common.QuaternionAlgebra
import Gearsonic.Control.HeadingAlignment
import Gearsonic.Teleop.SmplFk
import Mathlib.Analysis.SpecialFunctions.Trigonometric.Bounds

/-!
# Rotation vectors

`quat_from_rotvec` and `rotvec_from_quat` are the exponential and the logarithm of the unit
quaternions, up to the sign and but for a ball of 1e-12 around the identity that both round away.

* `unitQuat_quatFromRotvec`: the exponential is a unit quaternion.
* `quatFromRotvec_rotvecFromQuat`: the exponential of the logarithm is the quaternion with a
  nonnegative real part.
* `rotvecFromQuat_quatFromRotvec`: the logarithm of the exponential is the vector, up to a half turn.
-/

namespace Gearsonic

open Quaternion

/-! ## Lengths -/

theorem vectorNorm_nonneg (v : Vec3 ℝ) : 0 ≤ vectorNorm v := Real.sqrt_nonneg _

theorem vectorNorm_sq (v : Vec3 ℝ) :
    vectorNorm v ^ 2 = v 0 * v 0 + v 1 * v 1 + v 2 * v 2 := by
  apply Real.sq_sqrt
  have h0 := mul_self_nonneg (v 0)
  have h1 := mul_self_nonneg (v 1)
  have h2 := mul_self_nonneg (v 2)
  linarith

theorem vectorNorm_le {v : Vec3 ℝ} {c : ℝ} (hc : 0 ≤ c)
    (h : v 0 * v 0 + v 1 * v 1 + v 2 * v 2 ≤ c ^ 2) : vectorNorm v ≤ c := by
  rw [← vectorNorm_sq] at h
  exact (sq_le_sq₀ (vectorNorm_nonneg v) hc).mp h

theorem vectorNorm_smul (c : ℝ) (v : Vec3 ℝ) : vectorNorm (c • v) = |c| * vectorNorm v := by
  have hsq : (c • v) 0 * (c • v) 0 + (c • v) 1 * (c • v) 1 + (c • v) 2 * (c • v) 2 =
      c ^ 2 * (v 0 * v 0 + v 1 * v 1 + v 2 * v 2) := by
    simp only [Pi.smul_apply, smul_eq_mul]
    ring
  rw [vectorNorm, hsq, Real.sqrt_mul (sq_nonneg c), Real.sqrt_sq_eq_abs, vectorNorm]

theorem vectorOf_add (v w : Vec3 ℝ) : vectorOf (v + w) = vectorOf v + vectorOf w := by
  ext <;> simp

theorem vectorOf_neg (v : Vec3 ℝ) : vectorOf (-v) = -vectorOf v := by
  ext <;> simp

theorem vectorOf_sub (v w : Vec3 ℝ) : vectorOf (v - w) = vectorOf v - vectorOf w := by
  ext <;> simp

/-- The length of a vector. -/
noncomputable def lengthSeminorm : AddGroupSeminorm (Vec3 ℝ) where
  toFun := vectorNorm
  map_zero' := by simp [vectorNorm]
  add_le' v w := by
    rw [vectorNorm_eq, vectorNorm_eq, vectorNorm_eq, vectorOf_add]
    exact norm_add_le _ _
  neg' v := by rw [vectorNorm_eq, vectorNorm_eq, vectorOf_neg, norm_neg]

@[simp] theorem lengthSeminorm_apply (v : Vec3 ℝ) : lengthSeminorm v = vectorNorm v := rfl

/-- A quaternion as close to another one as `‖p - q‖` rotates as closely, twice. -/
theorem vectorNorm_quatRotate_sub {p q : Quat ℝ} (hp : UnitQuat p) (hq : UnitQuat q) (v : Vec3 ℝ) :
    vectorNorm (quatRotate p v - quatRotate q v) ≤ 2 * quatNorm (p - q) * vectorNorm v := by
  have hsub : quaternionOf (p - q) = quaternionOf p - quaternionOf q := by
    ext <;> simp
  have hsplit : vectorOf (quatRotate p v - quatRotate q v) =
      (quaternionOf p - quaternionOf q) * vectorOf v * star (quaternionOf p) +
        quaternionOf q * vectorOf v * star (quaternionOf p - quaternionOf q) := by
    rw [vectorOf_sub, vectorOf_quatRotate hp, vectorOf_quatRotate hq, star_sub]
    noncomm_ring
  rw [vectorNorm_eq, hsplit, quatNorm_eq, hsub, vectorNorm_eq]
  refine (norm_add_le _ _).trans ?_
  rw [norm_mul, norm_mul, norm_mul, norm_mul, norm_star, norm_star, hp.norm_eq, hq.norm_eq]
  apply le_of_eq
  ring

namespace SmplFk

local instance atLeastTwo_two : Nat.AtLeastTwo 2 := ⟨le_rfl⟩

/-! ## The exponential -/

/-- The vector part. -/
def axisPart (q : Quat ℝ) : Vec3 ℝ := ![q 1, q 2, q 3]

/-- The rotation by an angle about a unit axis. -/
noncomputable def rotor (angle : ℝ) (u : Vec3 ℝ) : Quat ℝ :=
  ![Real.cos (angle / 2), u 0 * Real.sin (angle / 2), u 1 * Real.sin (angle / 2),
    u 2 * Real.sin (angle / 2)]

/-- The direction of a vector. -/
noncomputable def direction (v : Vec3 ℝ) : Vec3 ℝ := fun i => v i / vectorNorm v

theorem smul_direction {v : Vec3 ℝ} (h : 0 < vectorNorm v) : vectorNorm v • direction v = v := by
  funext i
  show vectorNorm v * (v i / vectorNorm v) = v i
  exact mul_div_cancel₀ (v i) h.ne'

theorem direction_unit {v : Vec3 ℝ} (h : 0 < vectorNorm v) :
    direction v 0 * direction v 0 + direction v 1 * direction v 1 +
      direction v 2 * direction v 2 = 1 := by
  have hsq := vectorNorm_sq v
  unfold direction
  field_simp
  linarith

theorem normalizeVector_direction {v : Vec3 ℝ} (h : 1e-12 ≤ vectorNorm v) :
    normalizeVector v = direction v := by
  funext i
  show v i / max (vectorNorm v) 1e-12 = v i / vectorNorm v
  rw [max_eq_left h]

theorem unitQuat_rotor (angle : ℝ) {u : Vec3 ℝ} (h : u 0 * u 0 + u 1 * u 1 + u 2 * u 2 = 1) :
    UnitQuat (rotor angle u) :=
  unitQuat_angleAxis (angle / 2) h

theorem quatFromRotvec_small {v : Vec3 ℝ} (h : vectorNorm v < 1e-12) :
    quatFromRotvec v = ![1, 0, 0, 0] := by
  have hnumerals : (![1.0, 0.0, 0.0, 0.0] : Quat ℝ) = ![1, 0, 0, 0] := by norm_num
  unfold quatFromRotvec
  exact (if_pos h).trans hnumerals

theorem quatFromRotvec_eq {v : Vec3 ℝ} (h : 1e-12 ≤ vectorNorm v) :
    quatFromRotvec v = rotor (vectorNorm v) (direction v) := by
  have hpos : 0 < vectorNorm v := lt_of_lt_of_le (by norm_num) h
  have hhalf : vectorNorm v / 2.0 = vectorNorm v / 2 := by norm_num
  unfold quatFromRotvec
  refine (if_neg (not_lt.mpr h)).trans ?_
  show quatFromAngleAxis (vectorNorm v) v = rotor (vectorNorm v) (direction v)
  unfold quatFromAngleAxis
  rw [normalizeVector_direction h]
  simp only [hhalf, cmath_cos, cmath_sin]
  exact quatUnit_eq (unitQuat_rotor _ (direction_unit hpos))

theorem unitQuat_one : UnitQuat ![1, 0, 0, 0] := by simp [UnitQuat]

theorem unitQuat_quatFromRotvec (v : Vec3 ℝ) : UnitQuat (quatFromRotvec v) := by
  by_cases h : vectorNorm v < 1e-12
  · rw [quatFromRotvec_small h]
    exact unitQuat_one
  · rw [not_lt] at h
    rw [quatFromRotvec_eq h]
    exact unitQuat_rotor _ (direction_unit (lt_of_lt_of_le (by norm_num) h))

/-! ## The logarithm -/

/-- The one of the two quaternions that has a nonnegative real part. -/
noncomputable def canonical (q : Quat ℝ) : Quat ℝ := if q 0 < 0 then -q else q

theorem canonical_same (q : Quat ℝ) : SameUpToSign (canonical q) q := by
  unfold canonical
  split_ifs with h
  · exact Or.inr rfl
  · exact Or.inl rfl

theorem unitQuat_canonical {q : Quat ℝ} (h : UnitQuat q) : UnitQuat (canonical q) := by
  rcases canonical_same q with heq | heq
  · rwa [heq]
  · rw [heq]
    exact h.neg

theorem canonical_nonneg (q : Quat ℝ) : 0 ≤ canonical q 0 := by
  unfold canonical
  split_ifs with h
  · exact (neg_pos.mpr h).le
  · exact not_lt.mp h

theorem axisPart_sq {q : Quat ℝ} (h : UnitQuat q) : q 0 ^ 2 + vectorNorm (axisPart q) ^ 2 = 1 := by
  have hsq := vectorNorm_sq (axisPart q)
  unfold UnitQuat at h
  rw [hsq]
  show q 0 ^ 2 + (q 1 * q 1 + q 2 * q 2 + q 3 * q 3) = 1
  linarith

/-- The angle of a quaternion, from zero to half a turn where it is canonical. -/
noncomputable def rotAngle (q : Quat ℝ) : ℝ := 2 * Complex.arg ⟨q 0, vectorNorm (axisPart q)⟩

theorem rotvecFromQuat_unit (q : Quat ℝ) :
    rotvecFromQuat q = if vectorNorm (axisPart (canonical (quatUnit q))) < 1e-12 then 0
      else rotAngle (canonical (quatUnit q)) • direction (axisPart (canonical (quatUnit q))) := by
  have hzero : (![0.0, 0.0, 0.0] : Vec3 ℝ) = 0 := by
    ext i
    fin_cases i <;> norm_num
  have hcanonical : (if quatUnit q 0 < 0.0 then fun i => -quatUnit q i else quatUnit q) =
      canonical (quatUnit q) := by
    have hnumeral : (0.0 : ℝ) = 0 := by norm_num
    unfold canonical
    rw [hnumeral]
    rfl
  unfold rotvecFromQuat
  simp only [hcanonical, hzero]
  refine if_congr Iff.rfl rfl ?_
  have htwo : (2.0 : ℝ) = 2 := by norm_num
  simp only [htwo]
  funext i
  fin_cases i <;> exact mul_comm _ _

theorem rotvecFromQuat_eq {q : Quat ℝ} (h : UnitQuat q) :
    rotvecFromQuat q = if vectorNorm (axisPart (canonical q)) < 1e-12 then 0
      else rotAngle (canonical q) • direction (axisPart (canonical q)) := by
  have hunit := rotvecFromQuat_unit q
  rwa [quatUnit_eq h] at hunit

/-- Normalizing first makes no difference. -/
theorem rotvecFromQuat_quatUnit {q : Quat ℝ} (h : 1e-12 ≤ quatNorm q) :
    rotvecFromQuat (quatUnit q) = rotvecFromQuat q := by
  rw [rotvecFromQuat_unit q, rotvecFromQuat_eq (unitQuat_quatUnit_of_norm h)]

/-! ## Both ways -/

section

variable {q : Quat ℝ}

theorem rotAngle_nonneg (q : Quat ℝ) : 0 ≤ rotAngle q :=
  mul_nonneg zero_le_two (Complex.arg_nonneg_iff.mpr (vectorNorm_nonneg _))

/-- A canonical quaternion turns by half a turn at most. -/
theorem rotAngle_le_pi (h : 0 ≤ q 0) : rotAngle q ≤ Real.pi := by
  have harg : |Complex.arg ⟨q 0, vectorNorm (axisPart q)⟩| ≤ Real.pi / 2 :=
    Complex.abs_arg_le_pi_div_two_iff.mpr h
  have hle := (le_abs_self _).trans harg
  unfold rotAngle
  linarith

theorem cos_sin_rotAngle (h : UnitQuat q) :
    Real.cos (rotAngle q / 2) = q 0 ∧ Real.sin (rotAngle q / 2) = vectorNorm (axisPart q) := by
  have hhalf : rotAngle q / 2 = Complex.arg ⟨q 0, vectorNorm (axisPart q)⟩ := by
    unfold rotAngle
    ring
  have hnorm : ‖(⟨q 0, vectorNorm (axisPart q)⟩ : ℂ)‖ = 1 := by
    rw [← sq_eq_sq₀ (norm_nonneg _) zero_le_one, ← Complex.normSq_eq_norm_sq, Complex.normSq_mk]
    have hsq := axisPart_sq h
    linear_combination hsq
  have hne : (⟨q 0, vectorNorm (axisPart q)⟩ : ℂ) ≠ 0 := by
    rw [← norm_ne_zero_iff, hnorm]
    exact one_ne_zero
  rw [hhalf]
  constructor
  · rw [Complex.cos_arg hne, hnorm, div_one]
  · rw [Complex.sin_arg, hnorm, div_one]

theorem axisPart_le_rotAngle (h : UnitQuat q) : 2 * vectorNorm (axisPart q) ≤ rotAngle q := by
  have hsin := (cos_sin_rotAngle h).2
  have hle : Real.sin (rotAngle q / 2) ≤ rotAngle q / 2 :=
    Real.sin_le (by linarith [rotAngle_nonneg q])
  linarith

theorem vectorNorm_smul_direction {v : Vec3 ℝ} (hv : 0 < vectorNorm v) {c : ℝ} (hc : 0 ≤ c) :
    vectorNorm (c • direction v) = c := by
  have hunit : vectorNorm (direction v) = 1 := by
    rw [vectorNorm, direction_unit hv, Real.sqrt_one]
  rw [vectorNorm_smul, hunit, abs_of_nonneg hc, mul_one]

theorem direction_smul_direction {v : Vec3 ℝ} (hv : 0 < vectorNorm v) {c : ℝ} (hc : 0 < c) :
    direction (c • direction v) = direction v := by
  funext i
  show c * direction v i / vectorNorm (c • direction v) = direction v i
  rw [vectorNorm_smul_direction hv hc.le]
  exact mul_div_cancel_left₀ _ hc.ne'

theorem rotor_rotAngle (h : UnitQuat q) (hpos : 0 < vectorNorm (axisPart q)) :
    rotor (rotAngle q) (direction (axisPart q)) = q := by
  obtain ⟨hcos, hsin⟩ := cos_sin_rotAngle h
  unfold rotor
  rw [hcos, hsin]
  funext i
  fin_cases i
  · rfl
  · exact div_mul_cancel₀ (q 1) hpos.ne'
  · exact div_mul_cancel₀ (q 2) hpos.ne'
  · exact div_mul_cancel₀ (q 3) hpos.ne'

/-- Outside the ball that the logarithm rounds away. -/
theorem quatFromRotvec_rotvecFromQuat (h : UnitQuat q)
    (haxis : 1e-12 ≤ vectorNorm (axisPart (canonical q))) :
    quatFromRotvec (rotvecFromQuat q) = canonical q := by
  have hunit := unitQuat_canonical h
  have hpos : 0 < vectorNorm (axisPart (canonical q)) := lt_of_lt_of_le (by norm_num) haxis
  have hangle := axisPart_le_rotAngle hunit
  have hturn : 0 < rotAngle (canonical q) := by linarith
  rw [rotvecFromQuat_eq h, if_neg (not_lt.mpr haxis), quatFromRotvec_eq,
    vectorNorm_smul_direction hpos hturn.le, direction_smul_direction hpos hturn,
    rotor_rotAngle hunit hpos]
  rw [vectorNorm_smul_direction hpos hturn.le]
  linarith

theorem quatFromRotvec_zero : quatFromRotvec (0 : Vec3 ℝ) = ![1, 0, 0, 0] := by
  apply quatFromRotvec_small
  have hzero : vectorNorm 0 = 0 := lengthSeminorm.map_zero'
  rw [hzero]
  norm_num

/-- A unit quaternion with a short vector part is close to the identity. -/
theorem quatNorm_sub_one_le {c : Quat ℝ} (h : UnitQuat c) (h0 : 0 ≤ c 0)
    (haxis : vectorNorm (axisPart c) < 1e-12) : quatNorm (![1, 0, 0, 0] - c) ≤ 2e-12 := by
  have hsq := axisPart_sq h
  have hnonneg := vectorNorm_nonneg (axisPart c)
  have hvec := vectorNorm_sq (axisPart c)
  have hle : c 0 ≤ 1 := by nlinarith
  have hsmall : vectorNorm (axisPart c) ^ 2 ≤ 1e-24 := by
    norm_num at haxis ⊢
    nlinarith
  have hdef : 1 - c 0 ≤ 1e-24 := by nlinarith
  unfold quatNorm
  apply Real.sqrt_le_iff.mpr
  constructor
  · norm_num
  · show (1 - c 0) * (1 - c 0) + (0 - c 1) * (0 - c 1) + (0 - c 2) * (0 - c 2) +
      (0 - c 3) * (0 - c 3) ≤ 2e-12 ^ 2
    have hcomponents : vectorNorm (axisPart c) ^ 2 = c 1 * c 1 + c 2 * c 2 + c 3 * c 3 := hvec
    norm_num at hsmall hdef ⊢
    nlinarith

/-- Everywhere the exponential of the logarithm is close to the quaternion. -/
theorem quatFromRotvec_near (h : UnitQuat q) :
    quatNorm (quatFromRotvec (rotvecFromQuat q) - canonical q) ≤ 2e-12 := by
  by_cases haxis : vectorNorm (axisPart (canonical q)) < 1e-12
  · rw [rotvecFromQuat_eq h, if_pos haxis, quatFromRotvec_zero]
    exact quatNorm_sub_one_le (unitQuat_canonical h) (canonical_nonneg q) haxis
  · rw [not_lt] at haxis
    rw [quatFromRotvec_rotvecFromQuat h haxis, sub_self]
    norm_num [quatNorm]

/-- Whatever the quaternion. -/
theorem vectorNorm_rotvecFromQuat (q : Quat ℝ) : vectorNorm (rotvecFromQuat q) ≤ Real.pi := by
  rw [rotvecFromQuat_unit]
  split_ifs with haxis
  · exact (lengthSeminorm.map_zero').le.trans Real.pi_pos.le
  · have hpos : 0 < vectorNorm (axisPart (canonical (quatUnit q))) :=
      lt_of_lt_of_le (by norm_num) (not_lt.mp haxis)
    rw [vectorNorm_smul_direction hpos (rotAngle_nonneg _)]
    exact rotAngle_le_pi (canonical_nonneg _)

end

/-! ## The logarithm of the exponential -/

section

variable {v : Vec3 ℝ}

theorem axisPart_rotor (angle : ℝ) (u : Vec3 ℝ) :
    axisPart (rotor angle u) = Real.sin (angle / 2) • u := by
  funext i
  fin_cases i <;> exact mul_comm _ _

theorem rotAngle_rotor {angle : ℝ} (h0 : 0 ≤ angle) (hpi : angle ≤ Real.pi) {u : Vec3 ℝ}
    (hu : vectorNorm u = 1) : rotAngle (rotor angle u) = angle := by
  have hsin : 0 ≤ Real.sin (angle / 2) :=
    Real.sin_nonneg_of_nonneg_of_le_pi (by linarith) (by linarith)
  have hangle : (⟨rotor angle u 0, vectorNorm (axisPart (rotor angle u))⟩ : ℂ) =
      Complex.cos (angle / 2 : ℝ) + Complex.sin (angle / 2 : ℝ) * Complex.I := by
    rw [axisPart_rotor, vectorNorm_smul, hu, abs_of_nonneg hsin, mul_one, ← Complex.ofReal_cos,
      ← Complex.ofReal_sin, ← Complex.mk_eq_add_mul_I]
    rfl
  have hpos := Real.pi_pos
  unfold rotAngle
  rw [hangle, Complex.arg_cos_add_sin_mul_I ⟨by linarith, by linarith⟩]
  ring

/-- Up to half a turn, the vector comes back or is rounded away. -/
theorem rotvecFromQuat_quatFromRotvec_eq (hlong : 1e-12 ≤ vectorNorm v)
    (hpi : vectorNorm v ≤ Real.pi) :
    rotvecFromQuat (quatFromRotvec v) =
      if Real.sin (vectorNorm v / 2) < 1e-12 then 0 else v := by
  have hpos : 0 < vectorNorm v := lt_of_lt_of_le (by norm_num) hlong
  have hdir : vectorNorm (direction v) = 1 := by
    rw [vectorNorm, direction_unit hpos, Real.sqrt_one]
  have hunit := unitQuat_rotor (vectorNorm v) (direction_unit hpos)
  have hcos : 0 ≤ Real.cos (vectorNorm v / 2) :=
    Real.cos_nonneg_of_mem_Icc ⟨by linarith [Real.pi_pos], by linarith⟩
  have hcanonical : canonical (rotor (vectorNorm v) (direction v)) =
      rotor (vectorNorm v) (direction v) := if_neg (not_lt.mpr hcos)
  have hsin : 0 < Real.sin (vectorNorm v / 2) :=
    Real.sin_pos_of_pos_of_lt_pi (by linarith) (by linarith)
  have haxis : vectorNorm (axisPart (rotor (vectorNorm v) (direction v))) =
      Real.sin (vectorNorm v / 2) := by
    rw [axisPart_rotor, vectorNorm_smul_direction hpos hsin.le]
  rw [quatFromRotvec_eq hlong, rotvecFromQuat_eq hunit, hcanonical, haxis,
    rotAngle_rotor hpos.le hpi hdir, axisPart_rotor, direction_smul_direction hpos hsin,
    smul_direction hpos]

/-- Between the ball around zero and half a turn. -/
theorem rotvecFromQuat_quatFromRotvec (hlow : 4e-12 ≤ vectorNorm v)
    (hpi : vectorNorm v ≤ Real.pi) : rotvecFromQuat (quatFromRotvec v) = v := by
  have hlong : 1e-12 ≤ vectorNorm v := le_trans (by norm_num) hlow
  have hnonneg := vectorNorm_nonneg v
  have hsin : vectorNorm v / Real.pi ≤ Real.sin (vectorNorm v / 2) := by
    have hjordan := Real.mul_le_sin (x := vectorNorm v / 2) (by linarith) (by linarith)
    calc vectorNorm v / Real.pi = 2 / Real.pi * (vectorNorm v / 2) := by ring
      _ ≤ Real.sin (vectorNorm v / 2) := hjordan
  have hdiv : 1e-12 ≤ vectorNorm v / Real.pi := by
    rw [le_div_iff₀ Real.pi_pos]
    have hpi4 := Real.pi_le_four
    norm_num at hlow ⊢
    linarith
  rw [rotvecFromQuat_quatFromRotvec_eq hlong hpi, if_neg (not_lt.mpr (hdiv.trans hsin))]

theorem rotvecFromQuat_one : rotvecFromQuat (![1, 0, 0, 0] : Quat ℝ) = 0 := by
  have hcanonical : canonical (![1, 0, 0, 0] : Quat ℝ) = ![1, 0, 0, 0] :=
    if_neg (not_lt.mpr zero_le_one)
  have haxis : vectorNorm (axisPart ![1, 0, 0, 0]) = 0 := by simp [vectorNorm, axisPart]
  rw [rotvecFromQuat_eq unitQuat_one, hcanonical, haxis]
  exact if_pos (by norm_num)

theorem rotvecFromQuat_near (hpi : vectorNorm v ≤ Real.pi) :
    vectorNorm (rotvecFromQuat (quatFromRotvec v) - v) ≤ 4e-12 := by
  have hzero : vectorNorm (0 - v) = vectorNorm v := by
    rw [zero_sub]
    exact lengthSeminorm.neg' v
  have hself : vectorNorm (v - v) = 0 := by
    rw [sub_self]
    exact lengthSeminorm.map_zero'
  by_cases hlow : 4e-12 ≤ vectorNorm v
  · rw [rotvecFromQuat_quatFromRotvec hlow hpi, hself]
    norm_num
  · rw [not_le] at hlow
    by_cases hlong : 1e-12 ≤ vectorNorm v
    · rw [rotvecFromQuat_quatFromRotvec_eq hlong hpi]
      split_ifs with hsin
      · exact hzero.le.trans hlow.le
      · rw [hself]
        norm_num
    · rw [quatFromRotvec_small (not_le.mp hlong), rotvecFromQuat_one]
      exact hzero.le.trans hlow.le

end

/-- **Rotation vectors and quaternions invert each other.** The logarithm of any quaternion is at
most half a turn long. Of a quaternion that is not all but zero, the exponential of the logarithm is
the canonical one of its direction and the direction's negative; up to half a turn, the logarithm of
the exponential is the vector. Both are exact but for a small ball around the identity, which is
rounded to it. -/
theorem rotation_vectors_invert :
    (∀ q : Quat ℝ, vectorNorm (rotvecFromQuat q) ≤ Real.pi) ∧
      (∀ q : Quat ℝ, 1e-12 ≤ quatNorm q →
        ∃ p : Quat ℝ, SameUpToSign p (fun i => q i / quatNorm q) ∧ 0 ≤ p 0 ∧
          quatNorm (quatFromRotvec (rotvecFromQuat q) - p) ≤ 2e-12 ∧
            (1e-12 ≤ vectorNorm ![p 1, p 2, p 3] → quatFromRotvec (rotvecFromQuat q) = p)) ∧
      ∀ v : Vec3 ℝ, vectorNorm v ≤ Real.pi →
        vectorNorm (rotvecFromQuat (quatFromRotvec v) - v) ≤ 4e-12 ∧
          (4e-12 ≤ vectorNorm v → rotvecFromQuat (quatFromRotvec v) = v) := by
  refine ⟨vectorNorm_rotvecFromQuat, ?_, ?_⟩
  · intro q hq
    have hunit := unitQuat_quatUnit_of_norm hq
    have hdirection : quatUnit q = fun i => q i / quatNorm q := by
      rw [quatUnit_eq_smul hq]
      funext i
      exact inv_mul_eq_div _ _
    rw [← rotvecFromQuat_quatUnit hq, ← hdirection]
    exact ⟨canonical (quatUnit q), canonical_same _, canonical_nonneg _, quatFromRotvec_near hunit,
      quatFromRotvec_rotvecFromQuat hunit⟩
  · intro v hpi
    exact ⟨rotvecFromQuat_near hpi, fun hlow => rotvecFromQuat_quatFromRotvec hlow hpi⟩

/-- A quaternion ten times too long. -/
theorem rotation_vectors_invert_exact :
    quatFromRotvec (rotvecFromQuat ![6, 8, 0, 0]) = (![0.6, 0.8, 0, 0] : Quat ℝ) := by
  have hnorm : quatNorm ![6, 8, 0, 0] = 10 := by
    have hsq : (6 : ℝ) * 6 + 8 * 8 + 0 * 0 + 0 * 0 = 10 ^ 2 := by norm_num
    exact (congrArg Real.sqrt hsq).trans (Real.sqrt_sq (by norm_num))
  obtain ⟨p, hsame, hreal, -, hexact⟩ := rotation_vectors_invert.2.1 ![6, 8, 0, 0] (by
    rw [hnorm]
    norm_num)
  have hunit : (fun i => (![6, 8, 0, 0] : Quat ℝ) i / quatNorm ![6, 8, 0, 0]) =
      ![0.6, 0.8, 0, 0] := by
    rw [hnorm]
    funext i
    fin_cases i <;> norm_num
  rw [hunit] at hsame
  rcases hsame with rfl | rfl
  · apply hexact
    apply Real.le_sqrt_of_sq_le
    show (1e-12 : ℝ) ^ 2 ≤ 0.8 * 0.8 + 0 * 0 + 0 * 0
    norm_num
  · have hneg : (0 : ℝ) ≤ -0.6 := hreal
    norm_num at hneg

end SmplFk

end Gearsonic
