import Gearsonic.Teleop.SmplChain

/-!
# Turning the operator

A sample whose orientations are all turned by one rotation, on the left, in the headset's frame.
The scale and the sign of a quaternion do not matter either: the headset may report any multiple.

* `quatUnit_turn`: normalizing takes the turn out of a multiple, up to the sign.
* `exp_log_neg`: the logarithm does not see the sign as a rotation.
* `smplFk_turn`: the wrist angles do not change, the skeleton keeps its shape, and the anchor turns
  with the operator.
-/

namespace Gearsonic

open KinematicTree

/-! ## Signs -/

theorem SameUpToSign.quatMul {a b c d : Quat ℝ} (hab : SameUpToSign a b)
    (hcd : SameUpToSign c d) : SameUpToSign (quatMul a c) (quatMul b d) := by
  rcases hab with rfl | rfl <;> rcases hcd with rfl | rfl
  · exact Or.inl rfl
  · exact Or.inr (quatMul_neg_right a d)
  · exact Or.inr (quatMul_neg_left b c)
  · left
    rw [quatMul_neg_left, quatMul_neg_right, neg_neg]

theorem SameUpToSign.conjugate {a b : Quat ℝ} (h : SameUpToSign a b) :
    SameUpToSign (quatConjugate a) (quatConjugate b) := by
  rcases h with rfl | rfl
  · exact Or.inl rfl
  · exact Or.inr (SmplFk.quatConjugate_neg b)

theorem SameUpToSign.refl (a : Quat ℝ) : SameUpToSign a a := Or.inl rfl

theorem SameUpToSign.trans {a b c : Quat ℝ} (hab : SameUpToSign a b) (hbc : SameUpToSign b c) :
    SameUpToSign a c := by
  rcases hab with rfl | rfl <;> rcases hbc with rfl | rfl
  · exact Or.inl rfl
  · exact Or.inr rfl
  · exact Or.inr rfl
  · exact Or.inl (neg_neg c)

theorem SameUpToSign.symm {a b : Quat ℝ} (h : SameUpToSign a b) : SameUpToSign b a := by
  rcases h with rfl | rfl
  · exact Or.inl rfl
  · exact Or.inr (neg_neg b).symm

theorem SameUpToSign.rotate {a b : Quat ℝ} (h : SameUpToSign a b) (v : Vec3 ℝ) :
    quatRotate a v = quatRotate b v := by
  rcases h with rfl | rfl
  · rfl
  · exact SmplFk.quatRotate_neg b v

namespace SmplFk

attribute [local instance] neZero_twentyFour neZero_fiftyFive neZero_seven atLeastTwo_two

local instance atLeastTwo_three : Nat.AtLeastTwo 3 := ⟨by decide⟩

/-- The orientations of `body'` are those of `body` after a common turn, scaled. -/
structure Turned (g : Quat ℝ) (body body' : PicoVRBodyPose ℝ) : Prop where
  unit : UnitQuat g
  turn : ∀ i : Fin 24, i.val ≤ 21 →
    ∃ s : ℝ, streamQuat body' i = s • quatMul g (streamQuat body i)

/-! ## Normalizing -/

theorem quaternionOf_smul (s : ℝ) (q : Quat ℝ) : quaternionOf (s • q) = s • quaternionOf q := by
  ext <;> simp

theorem quatMul_smul (s : ℝ) (p q : Quat ℝ) : quatMul p (s • q) = s • quatMul p q := by
  apply quaternionOf_injective
  rw [quaternionOf_quatMul, quaternionOf_smul, quaternionOf_smul, quaternionOf_quatMul,
    mul_smul_comm]

theorem quatUnit_turn {g q : Quat ℝ} (hg : UnitQuat g) {s : ℝ} (hq : 1e-12 ≤ quatNorm q)
    (hs : 1e-12 ≤ quatNorm (s • quatMul g q)) :
    SameUpToSign (quatUnit (s • quatMul g q)) (quatMul g (quatUnit q)) := by
  have hnorm : quatNorm (s • quatMul g q) = |s| * quatNorm q := by
    rw [quatNorm_eq, quaternionOf_smul, norm_smul, Real.norm_eq_abs, ← quatNorm_eq,
      quatNorm_quatMul, quatNorm_eq g, hg.norm_eq, one_mul]
  have hs0 : s ≠ 0 := by
    rintro rfl
    rw [hnorm, abs_zero, zero_mul] at hs
    norm_num at hs
  rw [quatUnit_eq_smul hs, quatUnit_eq_smul hq, hnorm, quatMul_smul, smul_smul, mul_inv]
  rcases lt_or_gt_of_ne hs0 with hneg | hpos
  · right
    rw [abs_of_neg hneg, ← neg_smul]
    congr 1
    field_simp
  · left
    rw [abs_of_pos hpos]
    congr 1
    field_simp

/-! ## Logarithms -/

theorem canonical_neg (q : Quat ℝ) : SameUpToSign (canonical (-q)) (canonical q) := by
  rcases canonical_same (-q) with hneg | hneg <;> rcases canonical_same q with hpos | hpos <;>
    rw [hneg, hpos]
  · exact Or.inr rfl
  · exact Or.inl rfl
  · exact Or.inl (neg_neg q)
  · exact Or.inr rfl

theorem vectorNorm_axisPart_same {p q : Quat ℝ} (h : SameUpToSign p q) :
    vectorNorm (axisPart p) = vectorNorm (axisPart q) := by
  rcases h with rfl | rfl
  · rfl
  · have hneg : axisPart (-q) = -axisPart q := by
      funext i
      fin_cases i <;> rfl
    rw [hneg]
    exact lengthSeminorm.neg' (axisPart q)

/-- As a rotation, the logarithm does not see the sign. -/
theorem exp_log_neg {q : Quat ℝ} (h : UnitQuat q) :
    SameUpToSign (quatFromRotvec (rotvecFromQuat (-q))) (quatFromRotvec (rotvecFromQuat q)) := by
  have hsame := canonical_neg q
  have haxis := vectorNorm_axisPart_same hsame
  by_cases hsmall : vectorNorm (axisPart (canonical q)) < 1e-12
  · left
    rw [rotvecFromQuat_eq h, rotvecFromQuat_eq h.neg, if_pos hsmall, if_pos (haxis ▸ hsmall)]
  · rw [quatFromRotvec_rotvecFromQuat h (not_lt.mp hsmall),
      quatFromRotvec_rotvecFromQuat h.neg (haxis ▸ not_lt.mp hsmall)]
    exact hsame

theorem exp_log_same {p q : Quat ℝ} (hq : UnitQuat q) (h : SameUpToSign p q) :
    SameUpToSign (quatFromRotvec (rotvecFromQuat p)) (quatFromRotvec (rotvecFromQuat q)) := by
  rcases h with rfl | rfl
  · exact Or.inl rfl
  · exact exp_log_neg hq

/-! ## The turn -/

section

variable {g : Quat ℝ} {body body' : PicoVRBodyPose ℝ}

theorem Turned.globalRot (h : Turned g body body') (hb : Tracked body) (hb' : Tracked body')
    {i : Fin 24} (hi : i.val ≤ 21) :
    SameUpToSign (globalRot body' i) (quatMul g (globalRot body i)) := by
  obtain ⟨s, hs⟩ := h.turn i hi
  have hnorm' := hb' i hi
  rw [hs] at hnorm'
  have hunit := quatUnit_turn h.unit (hb i hi) hnorm'
  rw [← hs] at hunit
  have hmul := hunit.quatMul (SameUpToSign.refl y180)
  rw [quatMul_assoc] at hmul
  exact hmul

theorem conjugate_quatMul (a b : Quat ℝ) :
    quatConjugate (quatMul a b) = quatMul (quatConjugate b) (quatConjugate a) := by
  apply quaternionOf_injective
  simp only [quaternionOf_quatConjugate, quaternionOf_quatMul, star_mul]

/-- Between two joints the turn cancels. -/
theorem Turned.relative (h : Turned g body body') (hb : Tracked body) (hb' : Tracked body')
    {i j : Fin 24} (hi : i.val ≤ 21) (hj : j.val ≤ 21) :
    SameUpToSign (quatMul (quatConjugate (SmplFk.globalRot body' i)) (SmplFk.globalRot body' j))
      (quatMul (quatConjugate (SmplFk.globalRot body i)) (SmplFk.globalRot body j)) := by
  have hpair := (h.globalRot hb hb' hi).conjugate.quatMul (h.globalRot hb hb' hj)
  rw [conjugate_quatMul, quatMul_assoc, conjugate_mul_cancel h.unit] at hpair
  exact hpair

theorem Turned.turnedBone (h : Turned g body body') (hb : Tracked body) (hb' : Tracked body')
    (i : Fin 55) : turnedBone body' i = turnedBone body i := by
  unfold SmplFk.turnedBone
  cases kSmplXParents i with
  | none => rfl
  | some p =>
    have hzero : (0 : Fin 24).val ≤ 21 := Nat.zero_le 21
    have hrel := h.relative hb hb' hzero (owner_le p)
    exact ((SameUpToSign.refl kSmplBaseRot).quatMul hrel).rotate _

/-! ## The wrists -/

/-- A body joint that hangs on a body joint. -/
theorem Turned.localRot (h : Turned g body body') (hb : Tracked body) (hb' : Tracked body')
    {i p : Fin 24} (hp : kSmplStreamParents i = some p) (hi : i.val ≤ 21) (hpi : p.val ≤ 21) :
    SameUpToSign (localRot body' i) (localRot body i) ∧ UnitQuat (localRot body i) := by
  have hlocal : ∀ b : PicoVRBodyPose ℝ, SmplFk.localRot b i =
      quatMul (quatConjugate (SmplFk.globalRot b p)) (SmplFk.globalRot b i) := by
    intro b
    rw [SmplFk.localRot, hp]
  rw [hlocal, hlocal]
  exact ⟨h.relative hb hb' hpi hi, (hb.globalRot_unit hpi).conjugate.mul (hb.globalRot_unit hi)⟩

theorem Turned.wristAngles (h : Turned g body body') (hb : Tracked body) (hb' : Tracked body')
    {i p : Fin 24} (hp : kSmplStreamParents i = some p) (hi : i.val ≤ 21) (hpi : p.val ≤ 21) :
    wristAngles body' i = wristAngles body i := by
  obtain ⟨hsame, hunit⟩ := h.localRot hb hb' hp hi hpi
  have hmatrix : quatToRotationMatrix (quatFromRotvec (poseAa body' i)) =
      quatToRotationMatrix (quatFromRotvec (poseAa body i)) := by
    rcases exp_log_same hunit hsame with heq | heq
    · exact congrArg quatToRotationMatrix heq
    · exact (congrArg quatToRotationMatrix heq).trans (quatToRotationMatrix_neg _)
  rw [SmplFk.wristAngles, SmplFk.wristAngles, hmatrix]

theorem quatUnit_neg (q : Quat ℝ) : quatUnit (-q) = -quatUnit q := by
  funext i
  simp [quatUnit, neg_div]

/-- The twist takes the sign, the swing does not see it. -/
theorem swingTwist_same {v w axis : Vec3 ℝ}
    (h : SameUpToSign (quatFromRotvec v) (quatFromRotvec w)) :
    (swingTwist v axis).2 = (swingTwist w axis).2 := by
  unfold swingTwist
  rcases h with heq | heq
  · rw [heq]
  · rw [heq]
    generalize quatFromRotvec w = q
    have htwist : (![(-q) 0, ((-q) 1 * axis 0 + (-q) 2 * axis 1 + (-q) 3 * axis 2) * axis 0,
          ((-q) 1 * axis 0 + (-q) 2 * axis 1 + (-q) 3 * axis 2) * axis 1,
          ((-q) 1 * axis 0 + (-q) 2 * axis 1 + (-q) 3 * axis 2) * axis 2] : Quat ℝ) =
        -![q 0, (q 1 * axis 0 + q 2 * axis 1 + q 3 * axis 2) * axis 0,
          (q 1 * axis 0 + q 2 * axis 1 + q 3 * axis 2) * axis 1,
          (q 1 * axis 0 + q 2 * axis 1 + q 3 * axis 2) * axis 2] := by
      funext i
      fin_cases i
      all_goals
        simp
        try ring
    dsimp only
    rw [htwist, quatUnit_neg, quatConjugate_neg, quatMul_neg_left, quatMul_neg_right, neg_neg]

theorem Turned.elbowAngles (h : Turned g body body') (hb : Tracked body) (hb' : Tracked body')
    {i p : Fin 24} (hp : kSmplStreamParents i = some p) (hi : i.val ≤ 21) (hpi : p.val ≤ 21) :
    elbowAngles body' i = elbowAngles body i := by
  obtain ⟨hsame, hunit⟩ := h.localRot hb hb' hp hi hpi
  have hswing : (swingTwist (poseAa body' i) ![0.0, 1.0, 0.0]).2 =
      (swingTwist (poseAa body i) ![0.0, 1.0, 0.0]).2 :=
    swingTwist_same (exp_log_same hunit hsame)
  rw [SmplFk.elbowAngles, SmplFk.elbowAngles, hswing]

theorem Turned.wristJointPos (h : Turned g body body') (hb : Tracked body)
    (hb' : Tracked body') : wristJointPos body' = wristJointPos body := by
  have hl := h.elbowAngles hb hb' (i := 18) (p := 16) rfl (by decide) (by decide)
  have hr := h.elbowAngles hb hb' (i := 19) (p := 17) rfl (by decide) (by decide)
  have hlw := h.wristAngles hb hb' (i := 20) (p := 18) rfl (by decide) (by decide)
  have hrw := h.wristAngles hb hb' (i := 21) (p := 19) rfl (by decide) (by decide)
  unfold SmplFk.wristJointPos
  rw [hl, hr, hlw, hrw]

/-! ## The skeleton and the anchor -/

/-- The turn in the robot's frame. -/
noncomputable def robotTurn (g : Quat ℝ) : Quat ℝ :=
  quatMul (quatMul upright g) (quatConjugate upright)

theorem Turned.trackedAnchor (h : Turned g body body') (hb : Tracked body)
    (hb' : Tracked body') :
    SameUpToSign (trackedAnchor body') (quatMul (robotTurn g) (trackedAnchor body)) := by
  have hzero : (0 : Fin 24).val ≤ 21 := Nat.zero_le 21
  have hturn : quatMul (robotTurn g) (SmplFk.trackedAnchor body) =
      quatMul (quatMul upright (quatMul g (SmplFk.globalRot body 0)))
        (quatConjugate kSmplBaseRot) := by
    simp only [robotTurn, SmplFk.trackedAnchor, quatMul_assoc,
      conjugate_mul_cancel unitQuat_upright]
  rw [hturn]
  exact ((SameUpToSign.refl upright).quatMul (h.globalRot hb hb' hzero)).quatMul (.refl _)

theorem quaternionOf_sub (p q : Quat ℝ) :
    quaternionOf (p - q) = quaternionOf p - quaternionOf q := by
  ext <;> simp

theorem quatNorm_sub_comm (a b : Quat ℝ) : quatNorm (a - b) = quatNorm (b - a) := by
  rw [quatNorm_eq, quatNorm_eq, quaternionOf_sub, quaternionOf_sub, norm_sub_rev]

theorem quatNorm_sub_le (a b c : Quat ℝ) :
    quatNorm (a - c) ≤ quatNorm (a - b) + quatNorm (b - c) := by
  simp only [quatNorm_eq, quaternionOf_sub]
  exact norm_sub_le_norm_sub_add_norm_sub _ _ _

theorem quatNorm_turn_sub {r : Quat ℝ} (hr : UnitQuat r) (a b : Quat ℝ) :
    quatNorm (quatMul r a - quatMul r b) = quatNorm (a - b) := by
  rw [quatNorm_eq, quaternionOf_sub, quaternionOf_quatMul, quaternionOf_quatMul, ← mul_sub,
    norm_mul, hr.norm_eq, one_mul, ← quaternionOf_sub, quatNorm_eq]

theorem Turned.anchor_near (h : Turned g body body') (hb : Tracked body) (hb' : Tracked body') :
    ∃ q, SameUpToSign q (quatMul (robotTurn g) (anchorQuat body)) ∧
      quatNorm (anchorQuat body' - q) ≤ 4e-12 := by
  obtain ⟨p, hp, hnear⟩ := hb.anchor_near
  obtain ⟨p', hp', hnear'⟩ := hb'.anchor_near
  have hunit : UnitQuat (robotTurn g) :=
    (unitQuat_upright.mul h.unit).mul unitQuat_upright.conjugate
  have hpp : SameUpToSign p' (quatMul (robotTurn g) p) :=
    (hp'.trans (h.trackedAnchor hb hb')).trans ((SameUpToSign.refl _).quatMul hp.symm)
  have hturn : quatNorm (quatMul (robotTurn g) p - quatMul (robotTurn g) (anchorQuat body)) ≤
      2e-12 := by
    rw [quatNorm_turn_sub hunit, quatNorm_sub_comm]
    exact hnear
  rcases hpp with heq | heq
  · refine ⟨quatMul (robotTurn g) (anchorQuat body), .refl _, ?_⟩
    rw [heq] at hnear'
    exact (quatNorm_sub_le _ _ _).trans ((add_le_add hnear' hturn).trans (by norm_num))
  · refine ⟨-quatMul (robotTurn g) (anchorQuat body), Or.inr rfl, ?_⟩
    have hneg : quatNorm (-quatMul (robotTurn g) p - -quatMul (robotTurn g) (anchorQuat body)) ≤
        2e-12 := by
      rw [neg_sub_neg, quatNorm_sub_comm]
      exact hturn
    rw [heq] at hnear'
    exact (quatNorm_sub_le _ _ _).trans ((add_le_add hnear' hneg).trans (by norm_num))

theorem total_turnedBone (h : Turned g body body') (hb : Tracked body) (hb' : Tracked body')
    (i : Fin 55) : smplTree.total (turnedBone body') i = smplTree.total (turnedBone body) i := by
  have hbones : turnedBone body' = turnedBone body := funext (h.turnedBone hb hb')
  rw [hbones]

/-- A joint as seen from the root joint. -/
theorem Tracked.fromRoot_near (h : Tracked body) (k : Fin 24) :
    vectorNorm ((jointsLocal body k - jointsLocal body 0) -
        smplTree.total (turnedBone body) (kSmplOutputJoints k)) ≤
      1.7e-5 * boneLength (kSmplOutputJoints k) + 4e-12 := by
  have hk := h.joint_output_near k
  have hroot := h.joint_output_near 0
  have hzero : kSmplOutputJoints 0 = 0 := rfl
  have hlength : boneLength 0 = 0 := Tree.total_root rfl
  have htotal : smplTree.total (turnedBone body) 0 = 0 := Tree.total_root rfl
  have hsplit : (jointsLocal body k - jointsLocal body 0) -
      smplTree.total (turnedBone body) (kSmplOutputJoints k) =
        (jointsLocal body k - trackedJoint body (kSmplOutputJoints k)) -
          (jointsLocal body 0 - trackedJoint body (kSmplOutputJoints 0)) := by
    rw [hzero, trackedJoint, trackedJoint, htotal]
    abel
  rw [hzero, hlength, mul_zero, zero_add] at hroot
  rw [hsplit]
  refine (map_sub_le_add lengthSeminorm _ _).trans ((add_le_add hk hroot).trans (le_of_eq ?_))
  ring

end

/-- **Turning the operator.** Let every tracked orientation be turned by one rotation, up to a
factor. The wrist angles are the same, the joints as seen from the root joint are the same within 34
millionths of the bones on the way, and the anchor is turned by the rotation in the robot's frame. -/
theorem smplFk_turn (g : Quat ℝ) (body body' : PicoVRBodyPose ℝ) (hb : Tracked body)
    (hb' : Tracked body') (h : Turned g body body') :
    (smplFk body').wristJointPos = (smplFk body).wristJointPos ∧
      (∃ q, SameUpToSign q (quatMul (robotTurn g) (smplFk body).anchorQuat) ∧
        quatNorm ((smplFk body').anchorQuat - q) ≤ 4e-12) ∧
      ∀ k, vectorNorm (((smplFk body').jointsLocal k - (smplFk body').jointsLocal 0) -
          ((smplFk body).jointsLocal k - (smplFk body).jointsLocal 0)) ≤
        3.4e-5 * boneLength (kSmplOutputJoints k) + 8e-12 := by
  refine ⟨h.wristJointPos hb hb', h.anchor_near hb hb', fun k => ?_⟩
  have hnear := hb.fromRoot_near k
  have hnear' := hb'.fromRoot_near k
  rw [total_turnedBone h hb hb'] at hnear'
  have htriangle := map_sub_le_add lengthSeminorm
    ((jointsLocal body' k - jointsLocal body' 0) -
      smplTree.total (turnedBone body) (kSmplOutputJoints k))
    ((jointsLocal body k - jointsLocal body 0) -
      smplTree.total (turnedBone body) (kSmplOutputJoints k))
  rw [sub_sub_sub_cancel_right] at htriangle
  refine htriangle.trans ((add_le_add hnear' hnear).trans (le_of_eq ?_))
  norm_num
  ring

/-- The rest pose after half a turn about the vertical, with quaternions of length two. -/
def turnedSample : PicoVRBodyPose ℝ where
  joints _ := ![1, 2, 3, 0, 2, 0, 0]

theorem smplFk_turn_half :
    Tracked restSample ∧ Tracked turnedSample ∧
      Turned ![0, 0, 1, 0] restSample turnedSample ∧
        (smplFk turnedSample).wristJointPos = (smplFk restSample).wristJointPos := by
  have hgunit : UnitQuat ![0, 0, 1, 0] := by
    show (0 : ℝ) * 0 + 0 * 0 + 1 * 1 + 0 * 0 = 1
    norm_num
  have hstream : ∀ i, streamQuat turnedSample i =
      (2 : ℝ) • quatMul ![0, 0, 1, 0] (streamQuat restSample i) := by
    intro i
    have hrest : streamQuat restSample i = ![1, 0, 0, 0] := rfl
    rw [hrest, quatMul_one]
    funext j
    fin_cases j
    · exact (mul_zero (2 : ℝ)).symm
    · exact (mul_zero (2 : ℝ)).symm
    · exact (mul_one (2 : ℝ)).symm
    · exact (mul_zero (2 : ℝ)).symm
  have hturned : Turned ![0, 0, 1, 0] restSample turnedSample :=
    ⟨hgunit, fun i _ => ⟨2, hstream i⟩⟩
  have htracked : Tracked turnedSample := by
    intro i _
    have hunit : UnitQuat (quatMul ![0, 0, 1, 0] ![1, 0, 0, 0]) := hgunit.mul unitQuat_one
    have hrest : streamQuat restSample i = ![1, 0, 0, 0] := rfl
    rw [hstream, hrest, quatNorm_eq, quaternionOf_smul, norm_smul, hunit.norm_eq]
    norm_num
  exact ⟨tracked_rest, htracked, hturned, (smplFk_turn _ _ _ tracked_rest htracked hturned).1⟩

end SmplFk

end Gearsonic
