import Gearsonic.Teleop.SmplHeading

/-!
# The wrist angles

The elbow's rotation is a twist about y and a swing, and the swing and the wrist's rotation are read
as intrinsic X-Y-Z angles.

* `swingTwist_mul`: the twist times the swing is the rotation, and the swing does not turn about
  the axis.
* `eulerMatrix_eulerXyz`: away from the gimbal lock, the three turns by the angles make up the
  rotation; in the lock, the first and the last angle are zero.
* `wrist_angles_compose`: both together, for the rotation of a rotation vector.
-/

namespace Gearsonic

namespace SmplFk

attribute [local instance] neZero_twentyFour

/-! ## Turns about the axes -/

noncomputable def rotX (a : ℝ) : Mat3 ℝ :=
  ![![1, 0, 0], ![0, Real.cos a, -Real.sin a], ![0, Real.sin a, Real.cos a]]

noncomputable def rotY (a : ℝ) : Mat3 ℝ :=
  ![![Real.cos a, 0, Real.sin a], ![0, 1, 0], ![-Real.sin a, 0, Real.cos a]]

noncomputable def rotZ (a : ℝ) : Mat3 ℝ :=
  ![![Real.cos a, -Real.sin a, 0], ![Real.sin a, Real.cos a, 0], ![0, 0, 1]]

/-- The three turns one after the other, each about the axes already turned. -/
noncomputable def eulerMatrix (e : Vec3 ℝ) : Mat3 ℝ :=
  matMul (rotX (e 0)) (matMul (rotY (e 1)) (rotZ (e 2)))

/-- The cosine of the pitch of a rotation matrix. -/
noncomputable def pitchCos (m : Mat3 ℝ) : ℝ := √(m 0 0 * m 0 0 + m 0 1 * m 0 1)

/-- A rotation is its own matrix of cofactors: the entries the angles are read off. -/
structure Rotation (m : Mat3 ℝ) : Prop where
  row : m 0 0 * m 0 0 + m 0 1 * m 0 1 + m 0 2 * m 0 2 = 1
  column : m 0 2 * m 0 2 + m 1 2 * m 1 2 + m 2 2 * m 2 2 = 1
  c10 : m 1 0 = m 0 2 * m 2 1 - m 0 1 * m 2 2
  c11 : m 1 1 = m 0 0 * m 2 2 - m 0 2 * m 2 0
  c20 : m 2 0 = m 0 1 * m 1 2 - m 0 2 * m 1 1
  c21 : m 2 1 = m 0 2 * m 1 0 - m 0 0 * m 1 2

theorem rotation_of_quat {q : Quat ℝ} (h : UnitQuat q) : Rotation (quatToRotationMatrix q) := by
  unfold quatToRotationMatrix
  rw [quatUnit_eq h]
  unfold UnitQuat at h
  constructor <;> simp
  · linear_combination 4 * (q 2 * q 2 + q 3 * q 3) * h
  · linear_combination 4 * (q 1 * q 1 + q 2 * q 2) * h
  · linear_combination (-4 * q 1 * q 2) * h
  · linear_combination (-4 * q 2 * q 2) * h
  · linear_combination (-4 * q 1 * q 3) * h
  · linear_combination (-4 * q 2 * q 3) * h

/-! ## Reading the angles -/

/-- An angle read off two components of length `r`. -/
theorem cos_sin_atan2 {x y r : ℝ} (hr : 0 < r) (h : x * x + y * y = r ^ 2) :
    Real.cos (CMath.atan2 y x) = x / r ∧ Real.sin (CMath.atan2 y x) = y / r := by
  have hnorm : ‖(⟨x, y⟩ : ℂ)‖ = r := by
    rw [← sq_eq_sq₀ (norm_nonneg _) hr.le, ← Complex.normSq_eq_norm_sq, Complex.normSq_mk]
    exact h
  have hne : (⟨x, y⟩ : ℂ) ≠ 0 := by
    rw [← norm_ne_zero_iff, hnorm]
    exact hr.ne'
  constructor
  · show Real.cos (Complex.arg ⟨x, y⟩) = x / r
    rw [Complex.cos_arg hne, hnorm]
  · show Real.sin (Complex.arg ⟨x, y⟩) = y / r
    rw [Complex.sin_arg, hnorm]

section

variable {m : Mat3 ℝ}

theorem pitchCos_sq (m : Mat3 ℝ) : pitchCos m ^ 2 = m 0 0 * m 0 0 + m 0 1 * m 0 1 := by
  apply Real.sq_sqrt
  exact add_nonneg (mul_self_nonneg _) (mul_self_nonneg _)

theorem Rotation.pitchCos_column (h : Rotation m) :
    pitchCos m ^ 2 = m 2 2 * m 2 2 + m 1 2 * m 1 2 := by
  rw [pitchCos_sq]
  linear_combination h.row - h.column

theorem pitchCos_nonneg (m : Mat3 ℝ) : 0 ≤ pitchCos m := Real.sqrt_nonneg _

/-- The cosines and sines of the three angles. -/
theorem Rotation.angles (h : Rotation m) (hlock : pitchCos m ≠ 0) :
    (Real.cos (eulerXyzIntrinsic m 0) = m 2 2 / pitchCos m ∧
        Real.sin (eulerXyzIntrinsic m 0) = -m 1 2 / pitchCos m) ∧
      (Real.cos (eulerXyzIntrinsic m 1) = pitchCos m ∧
        Real.sin (eulerXyzIntrinsic m 1) = m 0 2) ∧
      Real.cos (eulerXyzIntrinsic m 2) = m 0 0 / pitchCos m ∧
        Real.sin (eulerXyzIntrinsic m 2) = -m 0 1 / pitchCos m := by
  have hpos : 0 < pitchCos m := lt_of_le_of_ne (pitchCos_nonneg m) hlock.symm
  have hcolumn := h.pitchCos_column
  have hrow := pitchCos_sq m
  have hpitch : pitchCos m * pitchCos m + m 0 2 * m 0 2 = 1 ^ 2 := by
    linear_combination hrow + h.row
  refine ⟨cos_sin_atan2 hpos ?_, ?_, cos_sin_atan2 hpos ?_⟩
  · rw [hcolumn]
    ring
  · have hangle := cos_sin_atan2 one_pos hpitch
    rw [div_one, div_one] at hangle
    exact hangle
  · rw [hrow]
    ring

/-- Away from the lock the angles give the rotation back. -/
theorem eulerMatrix_eulerXyz (h : Rotation m) (hlock : pitchCos m ≠ 0) :
    eulerMatrix (eulerXyzIntrinsic m) = m := by
  obtain ⟨⟨hca, hsa⟩, ⟨hcb, hsb⟩, hcc, hsc⟩ := h.angles hlock
  have hpitch : pitchCos m ^ 2 = 1 - m 0 2 ^ 2 := by
    rw [pitchCos_sq]
    linear_combination h.row
  funext i j
  fin_cases i <;> fin_cases j <;>
    simp [eulerMatrix, matMul, rotX, rotY, rotZ, hca, hsa, hcb, hsb, hcc, hsc]
  · exact mul_div_cancel₀ _ hlock
  · rw [mul_div_cancel₀ _ hlock, neg_neg]
  · field_simp
    linear_combination (-1) * h.c10 - m 0 2 * h.c21 - m 1 0 * hpitch
  · field_simp
    linear_combination (-1) * h.c11 + m 0 2 * h.c20 - m 1 1 * hpitch
  · rw [div_mul_cancel₀ _ hlock, neg_neg]
  · field_simp
    linear_combination (-1) * h.c20 + m 0 2 * h.c11 - m 2 0 * hpitch
  · field_simp
    linear_combination (-1) * h.c21 - m 0 2 * h.c10 - m 2 1 * hpitch
  · exact div_mul_cancel₀ _ hlock

/-- In the lock the first and the last angle are read as zero. -/
theorem eulerXyz_lock (h : Rotation m) (hlock : pitchCos m = 0) :
    eulerXyzIntrinsic m 0 = 0 ∧ eulerXyzIntrinsic m 2 = 0 := by
  have hrow := pitchCos_sq m
  have hcolumn := h.pitchCos_column
  rw [hlock] at hrow hcolumn
  have h00 : m 0 0 = 0 := by nlinarith [mul_self_nonneg (m 0 0), mul_self_nonneg (m 0 1)]
  have h01 : m 0 1 = 0 := by nlinarith [mul_self_nonneg (m 0 0), mul_self_nonneg (m 0 1)]
  have h12 : m 1 2 = 0 := by nlinarith [mul_self_nonneg (m 2 2), mul_self_nonneg (m 1 2)]
  have h22 : m 2 2 = 0 := by nlinarith [mul_self_nonneg (m 2 2), mul_self_nonneg (m 1 2)]
  have harg : Complex.arg ⟨0, -0⟩ = 0 := by
    rw [neg_zero]
    exact Complex.arg_zero
  constructor
  · show Complex.arg ⟨m 2 2, -m 1 2⟩ = 0
    rw [h22, h12, harg]
  · show Complex.arg ⟨m 0 0, -m 0 1⟩ = 0
    rw [h00, h01, harg]

end

/-! ## Twist and swing -/

section

variable {v axis : Vec3 ℝ}

/-- The component of a quaternion along an axis. -/
def along (q : Quat ℝ) (axis : Vec3 ℝ) : ℝ := q 1 * axis 0 + q 2 * axis 1 + q 3 * axis 2

/-- A quaternion's real part and its component along an axis. -/
def twistPart (q : Quat ℝ) (axis : Vec3 ℝ) : Quat ℝ :=
  ![q 0, along q axis * axis 0, along q axis * axis 1, along q axis * axis 2]

theorem swingTwist_eq (v axis : Vec3 ℝ) :
    swingTwist v axis =
      (quatUnit (twistPart (quatFromRotvec v) axis),
        quatMul (quatConjugate (quatUnit (twistPart (quatFromRotvec v) axis)))
          (quatFromRotvec v)) := rfl

theorem quatDot_twistPart (q : Quat ℝ) (haxis : dot axis axis = 1) :
    quatDot (twistPart q axis) (twistPart q axis) = q 0 ^ 2 + along q axis ^ 2 := by
  unfold dot at haxis
  show q 0 * q 0 + along q axis * axis 0 * (along q axis * axis 0) +
    along q axis * axis 1 * (along q axis * axis 1) +
      along q axis * axis 2 * (along q axis * axis 2) = q 0 ^ 2 + along q axis ^ 2
  linear_combination along q axis ^ 2 * haxis

/-- The rotation turns about the axis, or not by half a turn across it. -/
def Twists (v axis : Vec3 ℝ) : Prop :=
  1e-24 ≤ quatFromRotvec v 0 ^ 2 + along (quatFromRotvec v) axis ^ 2

theorem Twists.unit (h : Twists v axis) (haxis : dot axis axis = 1) :
    UnitQuat (swingTwist v axis).1 := by
  rw [swingTwist_eq]
  apply unitQuat_quatUnit
  rw [quatDot_twistPart _ haxis]
  exact h

theorem Twists.swing_unit (h : Twists v axis) (haxis : dot axis axis = 1) :
    UnitQuat (swingTwist v axis).2 :=
  (h.unit haxis).conjugate.mul (unitQuat_quatFromRotvec v)

/-- The twist times the swing. -/
theorem swingTwist_mul (h : Twists v axis) (haxis : dot axis axis = 1) :
    quatMul (swingTwist v axis).1 (swingTwist v axis).2 = quatFromRotvec v :=
  mul_conjugate_cancel (h.unit haxis) _

theorem quatNorm_twistPart (h : Twists v axis) (haxis : dot axis axis = 1) :
    1e-12 ≤ quatNorm (twistPart (quatFromRotvec v) axis) := by
  apply Real.le_sqrt_of_sq_le
  have hdot := quatDot_twistPart (quatFromRotvec v) haxis
  unfold quatDot at hdot
  rw [hdot]
  exact le_trans (by norm_num) h

/-- The product of a conjugate and a quaternion, by components. -/
theorem conjugate_quatMul_apply (t q : Quat ℝ) :
    quatMul (quatConjugate t) q 0 = t 0 * q 0 + t 1 * q 1 + t 2 * q 2 + t 3 * q 3 ∧
      quatMul (quatConjugate t) q 1 = t 0 * q 1 - t 1 * q 0 - t 2 * q 3 + t 3 * q 2 ∧
        quatMul (quatConjugate t) q 2 = t 0 * q 2 + t 1 * q 3 - t 2 * q 0 - t 3 * q 1 ∧
          quatMul (quatConjugate t) q 3 = t 0 * q 3 - t 1 * q 2 + t 2 * q 1 - t 3 * q 0 := by
  have hmul := quaternionOf_quatMul (quatConjugate t) q
  rw [quaternionOf_quatConjugate] at hmul
  have hre := congrArg (fun x : Quaternion ℝ => x.re) hmul
  have hi := congrArg (fun x : Quaternion ℝ => x.imI) hmul
  have hj := congrArg (fun x : Quaternion ℝ => x.imJ) hmul
  have hk := congrArg (fun x : Quaternion ℝ => x.imK) hmul
  simp at hre hi hj hk
  refine ⟨?_, ?_, ?_, ?_⟩
  · linear_combination hre
  · linear_combination hi
  · linear_combination hj
  · linear_combination hk

/-- The swing does not turn about the axis, and turns by less than half a turn. -/
theorem swing_across (h : Twists v axis) (haxis : dot axis axis = 1) :
    along (swingTwist v axis).2 axis = 0 ∧ 0 < (swingTwist v axis).2 0 := by
  have hnorm := quatNorm_twistPart h haxis
  have hpos : 0 < quatNorm (twistPart (quatFromRotvec v) axis) :=
    lt_of_lt_of_le (by norm_num) hnorm
  have hdot := quatDot_twistPart (quatFromRotvec v) haxis
  have hsq : 0 < quatFromRotvec v 0 ^ 2 + along (quatFromRotvec v) axis ^ 2 :=
    lt_of_lt_of_le (by norm_num) h
  rw [swingTwist_eq, quatUnit_eq_smul hnorm]
  generalize (quatNorm (twistPart (quatFromRotvec v) axis)) = n at hpos
  generalize quatFromRotvec v = q at hdot hsq
  obtain ⟨h0, h1, h2, h3⟩ := conjugate_quatMul_apply (n⁻¹ • twistPart q axis) q
  have hd : along q axis = q 1 * axis 0 + q 2 * axis 1 + q 3 * axis 2 := rfl
  have ht0 : (n⁻¹ • twistPart q axis) 0 = n⁻¹ * q 0 := rfl
  have ht1 : (n⁻¹ • twistPart q axis) 1 = n⁻¹ * (along q axis * axis 0) := rfl
  have ht2 : (n⁻¹ • twistPart q axis) 2 = n⁻¹ * (along q axis * axis 1) := rfl
  have ht3 : (n⁻¹ • twistPart q axis) 3 = n⁻¹ * (along q axis * axis 2) := rfl
  unfold dot at haxis
  constructor
  · show quatMul _ q 1 * axis 0 + quatMul _ q 2 * axis 1 + quatMul _ q 3 * axis 2 = 0
    rw [h1, h2, h3, ht0, ht1, ht2, ht3, hd]
    linear_combination (-n⁻¹ * q 0 * (q 1 * axis 0 + q 2 * axis 1 + q 3 * axis 2)) * haxis
  · show 0 < quatMul _ q 0
    have hreal : quatMul (quatConjugate (n⁻¹ • twistPart q axis)) q 0 =
        n⁻¹ * (q 0 ^ 2 + along q axis ^ 2) := by
      rw [h0, ht0, ht1, ht2, ht3, hd]
      ring
    rw [hreal]
    exact mul_pos (inv_pos.mpr hpos) hsq

/-- The axis of the elbow's twist. -/
theorem dot_yAxis : dot (![0.0, 1.0, 0.0] : Vec3 ℝ) ![0.0, 1.0, 0.0] = 1 := by
  show (0.0 : ℝ) * 0.0 + 1.0 * 1.0 + 0.0 * 0.0 = 1
  norm_num

/-- The twist about y, as a turn. -/
theorem twist_rotY (h : Twists v ![0.0, 1.0, 0.0]) :
    ∃ tau, quatToRotationMatrix (swingTwist v ![0.0, 1.0, 0.0]).1 = rotY tau := by
  have hunit := h.unit dot_yAxis
  have hnorm := quatNorm_twistPart h dot_yAxis
  have hx : (swingTwist v ![0.0, 1.0, 0.0]).1 1 = 0 := by
    rw [swingTwist_eq, quatUnit_eq_smul hnorm]
    show _ * (_ * (0.0 : ℝ)) = 0
    norm_num
  have hz : (swingTwist v ![0.0, 1.0, 0.0]).1 3 = 0 := by
    rw [swingTwist_eq, quatUnit_eq_smul hnorm]
    show _ * (_ * (0.0 : ℝ)) = 0
    norm_num
  generalize (swingTwist v ![0.0, 1.0, 0.0]).1 = t at hunit hx hz
  have hsq : t 0 * t 0 + t 2 * t 2 = 1 ^ 2 := by
    unfold UnitQuat at hunit
    rw [hx, hz] at hunit
    linear_combination hunit
  obtain ⟨hcos, hsin⟩ := cos_sin_atan2 one_pos hsq
  rw [div_one] at hcos hsin
  refine ⟨2 * CMath.atan2 (t 2) (t 0), ?_⟩
  unfold quatToRotationMatrix rotY
  rw [quatUnit_eq hunit, Real.cos_two_mul, Real.sin_two_mul, hcos, hsin]
  funext i j
  fin_cases i <;> fin_cases j <;> simp [hx, hz]
  · linear_combination (-2) * hsq
  · ring
  · ring
  · linear_combination (-2) * hsq

theorem quatToRotationMatrix_quatMul {a b : Quat ℝ} (ha : UnitQuat a) (hb : UnitQuat b) :
    quatToRotationMatrix (quatMul a b) =
      matMul (quatToRotationMatrix a) (quatToRotationMatrix b) := by
  have happly : ∀ {q : Quat ℝ}, UnitQuat q → ∀ d,
      matMap (quatToRotationMatrix q) d = rotMap q d := by
    intro q hq d
    rw [rotMap_apply, ← mulVec_quatToRotationMatrix hq]
    funext i
    rw [Matrix.mulVec, dotProduct, Fin.sum_univ_three]
    fin_cases i <;> rfl
  have hmaps : matMap (quatToRotationMatrix (quatMul a b)) =
      matMap (matMul (quatToRotationMatrix a) (quatToRotationMatrix b)) := by
    rw [matMap_matMul]
    apply AddMonoidHom.ext
    intro d
    have hb' := happly hb d
    have ha' := happly ha (rotMap b d)
    have hab := happly (ha.mul hb) d
    rw [rotMap_quatMul ha hb] at hab
    show matMap _ d = matMap _ (matMap _ d)
    rw [hab, hb', ha']
    rfl
  funext i j
  have hcolumn := congrFun (congrArg (fun f : AddMonoid.End (Vec3 ℝ) => f (Pi.single j 1)) hmaps) i
  fin_cases i <;> fin_cases j <;> simpa [matApply] using hcolumn

/-- A turn by less than half a turn across y is not locked. -/
theorem pitchCos_ne_zero {q : Quat ℝ} (h : UnitQuat q) (hy : q 2 = 0) (h0 : q 0 ≠ 0) :
    pitchCos (quatToRotationMatrix q) ≠ 0 := by
  intro hlock
  have hrow := (rotation_of_quat h).row
  rw [← pitchCos_sq, hlock] at hrow
  have hentry : quatToRotationMatrix q 0 2 = 2 * (q 1 * q 3) := by
    unfold quatToRotationMatrix
    rw [quatUnit_eq h]
    show 2 * (q 1 * q 3 + q 0 * q 2) = 2 * (q 1 * q 3)
    rw [hy, mul_zero, add_zero]
  rw [hentry] at hrow
  unfold UnitQuat at h
  rw [hy] at h
  have hreal : 0 < q 0 * q 0 := mul_self_pos.mpr h0
  nlinarith [mul_self_nonneg (q 1 * q 1 - q 3 * q 3), mul_self_nonneg (q 1), mul_self_nonneg (q 3)]

theorem Twists.swing_unlocked (h : Twists v ![0.0, 1.0, 0.0]) :
    pitchCos (quatToRotationMatrix (swingTwist v ![0.0, 1.0, 0.0]).2) ≠ 0 := by
  obtain ⟨hacross, hreal⟩ := swing_across h dot_yAxis
  refine pitchCos_ne_zero (h.swing_unit dot_yAxis) ?_ hreal.ne'
  have hy : (swingTwist v ![0.0, 1.0, 0.0]).2 1 * 0.0 + (swingTwist v ![0.0, 1.0, 0.0]).2 2 * 1.0 +
      (swingTwist v ![0.0, 1.0, 0.0]).2 3 * 0.0 = 0 := hacross
  linarith

/-- Where the twist vanishes the code has no swing either, and reads no angles. -/
theorem swing_angles_degenerate (h0 : quatFromRotvec v 0 = 0)
    (h : along (quatFromRotvec v) axis = 0) :
    eulerXyzIntrinsic (quatToRotationMatrix (swingTwist v axis).2) = 0 := by
  have hpart : twistPart (quatFromRotvec v) axis = 0 := by
    unfold twistPart
    rw [h0, h]
    simp
  have hunit : quatUnit (0 : Quat ℝ) = 0 := by
    funext i
    exact zero_div _
  have hswing : (swingTwist v axis).2 = 0 := by
    rw [swingTwist_eq, hpart, hunit]
    funext i
    fin_cases i <;> simp [quatMul, quatConjugate]
  have harg : Complex.arg ⟨1, 0⟩ = 0 := Complex.arg_one
  have hmatrix : quatToRotationMatrix (0 : Quat ℝ) = ![![1, 0, 0], ![0, 1, 0], ![0, 0, 1]] := by
    unfold quatToRotationMatrix
    rw [hunit]
    simp
  rw [hswing, hmatrix]
  funext i
  fin_cases i
  · show Complex.arg ⟨1, -0⟩ = 0
    rw [neg_zero, harg]
  · show Complex.arg ⟨√(1 * 1 + 0 * 0), 0⟩ = 0
    rw [mul_zero, add_zero, mul_one, Real.sqrt_one, harg]
  · show Complex.arg ⟨1, -0⟩ = 0
    rw [neg_zero, harg]

end

/-- **The wrist angles make up the rotations.** A wrist's rotation is its three turns away from the
gimbal lock, where the first and the last angle are read as zero. An elbow's rotation is a turn about
y followed by the three turns of its swing, unless the twist all but vanishes; where it vanishes, the
angles of the swing are all zero. -/
theorem wrist_angles_compose (body : PicoVRBodyPose ℝ) (i : Fin 24) :
    (pitchCos (quatToRotationMatrix (quatFromRotvec (poseAa body i))) ≠ 0 →
        eulerMatrix (wristAngles body i) =
          quatToRotationMatrix (quatFromRotvec (poseAa body i))) ∧
      (pitchCos (quatToRotationMatrix (quatFromRotvec (poseAa body i))) = 0 →
        wristAngles body i 0 = 0 ∧ wristAngles body i 2 = 0) ∧
      (Twists (poseAa body i) ![0.0, 1.0, 0.0] →
        ∃ tau, quatToRotationMatrix (quatFromRotvec (poseAa body i)) =
          matMul (rotY tau) (eulerMatrix (elbowAngles body i))) ∧
      (quatFromRotvec (poseAa body i) 0 = 0 → quatFromRotvec (poseAa body i) 2 = 0 →
        elbowAngles body i = 0) := by
  have hrotation := rotation_of_quat (unitQuat_quatFromRotvec (poseAa body i))
  refine ⟨eulerMatrix_eulerXyz hrotation, eulerXyz_lock hrotation, ?_, ?_⟩
  · intro htwist
    have hswing := htwist.swing_unit dot_yAxis
    obtain ⟨tau, htau⟩ := twist_rotY htwist
    refine ⟨tau, ?_⟩
    have hangles : eulerMatrix (elbowAngles body i) =
        quatToRotationMatrix (swingTwist (poseAa body i) ![0.0, 1.0, 0.0]).2 :=
      eulerMatrix_eulerXyz (rotation_of_quat hswing) htwist.swing_unlocked
    rw [hangles, ← htau, ← quatToRotationMatrix_quatMul (htwist.unit dot_yAxis) hswing,
      swingTwist_mul htwist dot_yAxis]
  · intro hreal hy
    apply swing_angles_degenerate hreal
    show _ * (0.0 : ℝ) + quatFromRotvec (poseAa body i) 2 * 1.0 + _ * 0.0 = 0
    rw [hy]
    norm_num

/-! ## A bent arm -/

section

variable {body : PicoVRBodyPose ℝ} {i p : Fin 24}

/-- The half turn about y leaves a quaternion's real part and its y alone. -/
theorem conjugate_y180 (r : Quat ℝ) :
    quatMul (quatConjugate y180) (quatMul r y180) 0 = r 0 ∧
      quatMul (quatConjugate y180) (quatMul r y180) 2 = r 2 := by
  have haxis : (![0.0, 1.0, 0.0] : Vec3 ℝ) 0 * ![0.0, 1.0, 0.0] 0 +
      ![0.0, 1.0, 0.0] 1 * ![0.0, 1.0, 0.0] 1 + ![0.0, 1.0, 0.0] 2 * ![0.0, 1.0, 0.0] 2 = 1 :=
    dot_yAxis
  have hhalf : (y180 : Quat ℝ) = ![Real.cos (kPi / 2), 0, Real.sin (kPi / 2), 0] := by
    rw [y180, quatFromAngleAxis_eq _ haxis]
    funext k
    fin_cases k
    · rfl
    · show (0.0 : ℝ) * _ = 0
      norm_num
    · show (1.0 : ℝ) * _ = _
      norm_num
    · show (0.0 : ℝ) * _ = 0
      norm_num
  have hsq := Real.cos_sq_add_sin_sq (kPi / 2)
  obtain ⟨h0, -, h2, -⟩ := conjugate_quatMul_apply y180 (quatMul r y180)
  rw [h0, h2, hhalf]
  constructor
  · simp [quatMul]
    linear_combination r 0 * hsq
  · simp [quatMul]
    linear_combination r 2 * hsq

/-- Beside a parent in its rest orientation. -/
theorem localRot_of_parent (hp : kSmplStreamParents i = some p)
    (hparent : streamQuat body p = ![1, 0, 0, 0]) (hunit : UnitQuat (streamQuat body i)) :
    UnitQuat (localRot body i) ∧ localRot body i 0 = streamQuat body i 0 ∧
      localRot body i 2 = streamQuat body i 2 := by
  have hlocal : localRot body i =
      quatMul (quatConjugate y180) (quatMul (streamQuat body i) y180) := by
    have hglobal : globalRot body p = y180 := by
      show quatMul (quatUnit (streamQuat body p)) y180 = y180
      rw [hparent, quatUnit_eq unitQuat_one]
      apply quaternionOf_injective
      rw [quaternionOf_quatMul]
      exact one_mul _
    have hown : globalRot body i = quatMul (quatUnit (streamQuat body i)) y180 := rfl
    unfold localRot
    rw [hp]
    dsimp only
    rw [hglobal, hown, quatUnit_eq hunit]
  rw [hlocal]
  exact ⟨unitQuat_y180.conjugate.mul (hunit.mul unitQuat_y180), conjugate_y180 _⟩

theorem quatFromRotvec_poseAa (hunit : UnitQuat (localRot body i)) (h0 : 0 ≤ localRot body i 0)
    (h1 : localRot body i 0 ≤ 3 / 5) : quatFromRotvec (poseAa body i) = localRot body i := by
  have hcanonical : canonical (localRot body i) = localRot body i := if_neg (not_lt.mpr h0)
  have hsq := axisPart_sq hunit
  have hnonneg := vectorNorm_nonneg (axisPart (localRot body i))
  have hlong : 1 / 2 ≤ vectorNorm (axisPart (localRot body i)) := by
    nlinarith
  rw [poseAa, quatFromRotvec_rotvecFromQuat hunit, hcanonical]
  rw [hcanonical]
  exact le_trans (by norm_num) hlong

end

/-- One elbow bent about a slanted axis, and the other arm's wrist turned about x. -/
noncomputable def bentSample : PicoVRBodyPose ℝ where
  joints i :=
    if i = 18 then ![0, 0, 0, 0.5, 0.5, 0.5, 0.5]
    else if i = 21 then ![0, 0, 0, 0.8, 0, 0, 0.6]
    else ![0, 0, 0, 0, 0, 0, 1]

/-- The elbow twists and swings; the wrist is not locked. -/
theorem wrist_angles_compose_bent :
    (∃ tau, quatToRotationMatrix (quatFromRotvec (poseAa bentSample 18)) =
        matMul (rotY tau) (eulerMatrix (elbowAngles bentSample 18))) ∧
      eulerMatrix (wristAngles bentSample 21) =
        quatToRotationMatrix (quatFromRotvec (poseAa bentSample 21)) := by
  have helbow : streamQuat bentSample 18 = ![0.5, 0.5, 0.5, 0.5] := rfl
  have hwrist : streamQuat bentSample 21 = ![0.6, 0.8, 0, 0] := rfl
  have hbent : UnitQuat (streamQuat bentSample 18) := by
    show (0.5 : ℝ) * 0.5 + 0.5 * 0.5 + 0.5 * 0.5 + 0.5 * 0.5 = 1
    norm_num
  have hturned : UnitQuat (streamQuat bentSample 21) := by
    show (0.6 : ℝ) * 0.6 + 0.8 * 0.8 + 0 * 0 + 0 * 0 = 1
    norm_num
  obtain ⟨hunit, h0, -⟩ := localRot_of_parent (show kSmplStreamParents 18 = some 16 from rfl)
    (show streamQuat bentSample 16 = ![1, 0, 0, 0] from rfl) hbent
  obtain ⟨hunit', h0', h2'⟩ := localRot_of_parent (show kSmplStreamParents 21 = some 19 from rfl)
    (show streamQuat bentSample 19 = ![1, 0, 0, 0] from rfl) hturned
  have hreal : localRot bentSample 18 0 = 0.5 := h0.trans (congrFun helbow 0)
  have hreal' : localRot bentSample 21 0 = 0.6 := h0'.trans (congrFun hwrist 0)
  have hy' : localRot bentSample 21 2 = 0 := h2'.trans (congrFun hwrist 2)
  constructor
  · apply (wrist_angles_compose bentSample 18).2.2.1
    rw [Twists, quatFromRotvec_poseAa hunit (by norm_num [hreal]) (by norm_num [hreal])]
    refine le_trans ?_ (le_add_of_nonneg_right (sq_nonneg _))
    norm_num [hreal]
  · apply (wrist_angles_compose bentSample 21).1
    rw [quatFromRotvec_poseAa hunit' (by norm_num [hreal']) (by norm_num [hreal'])]
    exact pitchCos_ne_zero hunit' hy' (by norm_num [hreal'])

end SmplFk

end Gearsonic
