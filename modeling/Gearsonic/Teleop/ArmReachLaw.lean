import Gearsonic.Numeric.TwoLink
import Gearsonic.Teleop.PostureInvariance
import Gearsonic.Teleop.SmplArmReach

/-!
# The re-solved arms keep the skeleton

Over the reals, for every pose, every tracked sample and every sequence of calls: an arm whose
tracked wrist is at the shoulder is left alone, and every other one is solved without a division by
zero. Its segments have the canonical lengths, its wrist is in the tracked direction, its thumb
follows the wrist, and nothing else moves.

* `swivel_orthogonal`, `norm_swivel_ne_zero`: the swivel of an elbow, in each of its three cases.
* `solveArm_solved`: one arm.
* `arm_reach_laws`: both arms, over a sequence of calls.
-/

namespace Gearsonic

namespace SmplArmReach

open Matrix TwoLink Quaternion

/-! ## The source's vectors -/

theorem sub_eq (a b : Vec3 ℝ) : sub a b = a - b := by
  funext i
  fin_cases i <;> rfl

theorem add_eq (a b : Vec3 ℝ) : add a b = a + b := by
  funext i
  fin_cases i <;> rfl

theorem scale_eq (a : Vec3 ℝ) (s : ℝ) : scale a s = s • a := by
  funext i
  fin_cases i <;> exact mul_comm _ _

theorem dot_eq (a b : Vec3 ℝ) : dot a b = a ⬝ᵥ b := (Fin.sum_univ_three fun i => a i * b i).symm

theorem norm_eq (a : Vec3 ℝ) : norm a = TwoLink.length a := by
  unfold norm TwoLink.length
  rw [dot_eq]
  rfl

/-! ## The tracked vector -/

theorem normSq_vectorOf (v : Vec3 ℝ) : normSq (vectorOf v) = dot v v := by
  rw [normSq_def']
  simp [dot]
  ring

/-- A rotation keeps lengths. -/
theorem norm_quatRotate {q : Quat ℝ} (h : UnitQuat q) (v : Vec3 ℝ) :
    norm (quatRotate q v) = norm v := by
  have hq : normSq (quaternionOf q) = 1 := by
    unfold UnitQuat at h
    rw [normSq_def']
    simp
    linear_combination h
  unfold norm
  rw [← normSq_vectorOf, ← normSq_vectorOf, vectorOf_quatRotate h, map_mul, map_mul, normSq_star,
    hq, one_mul, mul_one]

theorem unitQuat_rootRobot {body : PicoVRBodyPose ℝ}
    (h : UnitQuat (ThreePoint.jointQuat body 0)) : UnitQuat (rootRobot body) := by
  refine UnitQuat.mul (ThreePoint.unitQuat_kUnityToRobot.mul
    (UnitQuat.mul h ThreePoint.unitQuat_kUnityToRobot.conjugate)) ?_
  apply ThreePoint.unitQuat_quatFromAngleAxis
  simp

/-- Under a unit root quaternion the tracked vector is as long as the keypoints are apart. -/
theorem norm_trackedArm {body : PicoVRBodyPose ℝ} (h : UnitQuat (ThreePoint.jointQuat body 0))
    (s tw : Fin 24) : norm (trackedArm body s tw) =
      norm (sub (ThreePoint.jointPos body tw) (ThreePoint.jointPos body s)) := by
  unfold trackedArm trackedRootRelative
  rw [sub_eq (quatRotate _ _), ← quatRotate_sub, norm_quatRotate (unitQuat_rootRobot h).conjugate,
    sub_eq (posRobot _ _), sub_eq (posRobot _ _), sub_sub_sub_cancel_right]
  unfold norm
  congr 1
  simp [dot, sub, posRobot, ThreePoint.jointPos]
  ring

/-! ## The swivel -/

theorem sub_scale_eq_reject (u h : Vec3 ℝ) : sub h (scale u (dot h u)) = reject u h := by
  rw [sub_eq, scale_eq, dot_eq]
  rfl

/-- What is orthogonal to `u` and to the left: `u` turned about that axis. -/
theorem cross_left (u : Vec3 ℝ) : cross u ![0, 1, 0] = ![-u 2, 0, u 0] := by
  funext i
  fin_cases i <;> simp [cross]

theorem swivel_orthogonal {u : Vec3 ℝ} (hu : u ⬝ᵥ u = 1) (h : Vec3 ℝ) :
    swivel u h ⬝ᵥ u = 0 := by
  unfold swivel
  rw [sub_scale_eq_reject]
  dsimp only
  rw [sub_scale_eq_reject]
  split
  · split
    · rw [cross_left, ← dot_eq]
      simp [dot]
      ring
    · exact reject_dotProduct hu _
  · exact reject_dotProduct hu _

/-- Where down is almost along `u`, the vertical component of `u` is not zero. -/
theorem vertical_of_short {u : Vec3 ℝ} (hu : u ⬝ᵥ u = 1)
    (hshort : TwoLink.length (reject u ![0, 0, -1]) < 1e-4) : u 2 ≠ 0 := by
  intro hzero
  have hsq := length_sq (reject u ![0, 0, -1])
  have hdown : (![0, 0, -1] : Vec3 ℝ) ⬝ᵥ u = -u 2 := by
    rw [← dot_eq]
    simp [dot]
  have hone : (![0, 0, -1] : Vec3 ℝ) ⬝ᵥ ![0, 0, -1] = 1 := by
    rw [← dot_eq]
    simp [dot]
  rw [reject_self hu, hdown, hone, hzero] at hsq
  have hnonneg := length_nonneg (reject u ![0, 0, -1])
  nlinarith

theorem norm_swivel_ne_zero {u : Vec3 ℝ} (hu : u ⬝ᵥ u = 1) (h : Vec3 ℝ) :
    norm (swivel u h) ≠ 0 := by
  have hlarge (v : Vec3 ℝ) (hv : ¬ norm v < 1e-4) : norm v ≠ 0 := by
    intro hzero
    rw [hzero] at hv
    norm_num at hv
  unfold swivel
  dsimp only
  split
  · split
    · rename_i hdown
      rw [sub_scale_eq_reject, norm_eq] at hdown
      intro hzero
      have hsq := length_sq (cross u ![0, 1, 0])
      rw [← norm_eq, hzero, cross_left, ← dot_eq] at hsq
      simp [dot] at hsq
      apply vertical_of_short hu hdown
      nlinarith [mul_self_nonneg (u 0), mul_self_nonneg (u 2)]
    · rename_i hdown
      exact hlarge _ hdown
  · rename_i hbent
    exact hlarge _ hbent

/-! ## One arm -/

section

variable {a b len reach : ℝ} {v S E : Vec3 ℝ}

/-- The distance that a wrist is placed at is between fold and full extension. -/
theorem armSolve_d (ha : 1e-6 ≤ a) (hb : 1e-6 ≤ b) (len reach : ℝ) (v S E : Vec3 ℝ) :
    |a - b| + 1e-6 ≤ (armSolve a b len reach v S E).d ∧
      (armSolve a b len reach v S E).d ≤ a + b - 1e-6 := by
  apply clamp_mem
  rcases abs_cases (a - b) with ⟨habs, -⟩ | ⟨habs, -⟩ <;> rw [habs] <;> linarith

theorem armSolve_d_pos (ha : 1e-6 ≤ a) (hb : 1e-6 ≤ b) :
    0 < (armSolve a b len reach v S E).d := by
  have hlo := (armSolve_d ha hb len reach v S E).1
  have habs := abs_nonneg (a - b)
  norm_num at hlo
  linarith

theorem armSolve_u (hlen : norm v ≠ 0) (a b reach : ℝ) (S E : Vec3 ℝ) :
    (armSolve a b (norm v) reach v S E).u ⬝ᵥ (armSolve a b (norm v) reach v S E).u = 1 := by
  rw [norm_eq] at hlen
  show scale v (1.0 / norm v) ⬝ᵥ scale v (1.0 / norm v) = 1
  rw [norm_eq, scale_eq, (by norm_num : (1.0 : ℝ) = 1)]
  exact dotProduct_unit hlen

theorem armSolve_along (a b len reach : ℝ) (v S E : Vec3 ℝ) :
    (armSolve a b len reach v S E).along =
        TwoLink.along a b (armSolve a b len reach v S E).d ∧
      (armSolve a b len reach v S E).r = offset a b (armSolve a b len reach v S E).d := by
  unfold armSolve TwoLink.along offset TwoLink.along
  norm_num

/-- The swivel divided by its length is a unit vector orthogonal to `u`. -/
theorem unit_swivel {u : Vec3 ℝ} (hu : u ⬝ᵥ u = 1) (h : Vec3 ℝ) :
    let hPerp := scale (swivel u h) (1.0 / norm (swivel u h))
    hPerp ⬝ᵥ hPerp = 1 ∧ hPerp ⬝ᵥ u = 0 := by
  dsimp only
  have hne := norm_swivel_ne_zero hu h
  rw [norm_eq] at hne ⊢
  rw [scale_eq, (by norm_num : (1.0 : ℝ) = 1)]
  refine ⟨dotProduct_unit hne, ?_⟩
  rw [smul_dotProduct, swivel_orthogonal hu, smul_zero]

/-- The two segments of a solved arm. -/
theorem armSolve_segments (ha : 1e-6 ≤ a) (hb : 1e-6 ≤ b) (hlen : norm v ≠ 0) (reach : ℝ)
    (S E : Vec3 ℝ) :
    let k := armSolve a b (norm v) reach v S E
    let hPerp := scale k.hPerp (1.0 / norm k.hPerp)
    let E' := add S (add (scale k.u k.along) (scale hPerp k.r))
    let W := add S (scale k.u k.d)
    norm (sub E' S) = a ∧ norm (sub W E') = b ∧ norm (sub W S) = k.d := by
  dsimp only
  have hu : (armSolve a b (norm v) reach v S E).u ⬝ᵥ (armSolve a b (norm v) reach v S E).u = 1 :=
    armSolve_u hlen a b reach S E
  obtain ⟨hunit, horth⟩ := unit_swivel hu (sub E S)
  obtain ⟨hfold, hextend⟩ := armSolve_d ha hb (norm v) reach v S E
  have hpos : 0 < (armSolve a b (norm v) reach v S E).d := armSolve_d_pos ha hb
  obtain ⟨halong, hr⟩ := armSolve_along a b (norm v) reach v S E
  have hperp : (armSolve a b (norm v) reach v S E).hPerp =
      swivel (armSolve a b (norm v) reach v S E).u (sub E S) := rfl
  rw [← hperp] at hunit horth
  generalize armSolve a b (norm v) reach v S E = k at *
  generalize scale k.hPerp (1.0 / norm k.hPerp) = h at *
  norm_num at ha hb hfold hextend
  have ha' : 0 ≤ a := by linarith
  have hb' : 0 ≤ b := by linarith
  have hfold' : |a - b| ≤ k.d := by linarith
  have hextend' : k.d ≤ a + b := by linarith
  simp only [norm_eq, sub_eq, add_eq, scale_eq, halong, hr]
  refine ⟨?_, ?_, ?_⟩
  · rw [add_sub_cancel_left]
    exact length_upper hu hunit horth ha' hpos hfold' hextend'
  · rw [add_sub_add_left_eq_sub]
    exact length_fore hu hunit horth hb' hpos hfold' hextend'
  · rw [add_sub_cancel_left]
    unfold TwoLink.length
    rw [smul_dotProduct, dotProduct_smul, hu, smul_eq_mul, smul_eq_mul, mul_one,
      Real.sqrt_mul_self hpos.le]

end

/-- What is divided by on the way to an arm. -/
noncomputable def armDivisors (pose : SmplPose ℝ) (body : PicoVRBodyPose ℝ)
    (reach : ArmReachState ℝ) (side : Fin 2) (s e w tw : Fin 24) : List ℝ :=
  let v := trackedArm body s tw
  let k := armSolve (segLen s e) (segLen e w) (norm v) (reach.maxReach side) v
    (pose.jointsLocal s) (pose.jointsLocal e)
  [k.maxReach, norm v, 2.0 * k.d, norm k.hPerp]

/-- The arm of `pose'` has the canonical segments, a wrist in the tracked direction and the thumb of
`pose`. -/
structure ArmSolved (body : PicoVRBodyPose ℝ) (s e w t tw : Fin 24) (pose pose' : SmplPose ℝ) :
    Prop where
  upper : norm (sub (pose'.jointsLocal e) (pose'.jointsLocal s)) = segLen s e
  fore : norm (sub (pose'.jointsLocal w) (pose'.jointsLocal e)) = segLen e w
  wrist : ∃ d, |segLen s e - segLen e w| + 1e-6 ≤ d ∧ d ≤ segLen s e + segLen e w - 1e-6 ∧
    norm (sub (pose'.jointsLocal w) (pose'.jointsLocal s)) = d ∧
    sub (pose'.jointsLocal w) (pose'.jointsLocal s) =
      scale (trackedArm body s tw) (d / norm (trackedArm body s tw))
  thumb : sub (pose'.jointsLocal t) (pose'.jointsLocal w) =
    sub (pose.jointsLocal t) (pose.jointsLocal w)

section

variable {body : PicoVRBodyPose ℝ} {s e w t tw : Fin 24} {side : Fin 2} {pose : SmplPose ℝ}
  {reach : ArmReachState ℝ}

theorem solveArm_short (h : norm (trackedArm body s tw) < 1e-3) :
    solveArm pose body reach side s e w t tw = (pose, reach) := by
  unfold solveArm
  exact if_pos h

/-- Nothing but elbow, wrist and thumb of the arm moves. -/
theorem solveArm_frame (pose : SmplPose ℝ) (body : PicoVRBodyPose ℝ) (reach : ArmReachState ℝ)
    (side : Fin 2) (s e w t tw : Fin 24) :
    let out := solveArm pose body reach side s e w t tw
    (∀ j, j ≠ e → j ≠ w → j ≠ t → out.1.jointsLocal j = pose.jointsLocal j) ∧
      out.1.anchorQuat = pose.anchorQuat ∧ out.1.wristJointPos = pose.wristJointPos ∧
      ∀ side', side' ≠ side → out.2.maxReach side' = reach.maxReach side' := by
  unfold solveArm
  dsimp only
  split
  · exact ⟨fun _ _ _ _ => rfl, rfl, rfl, fun _ _ => rfl⟩
  · refine ⟨fun j he hw ht => ?_, rfl, rfl, fun side' hside => ?_⟩
    · dsimp only
      rw [Function.update_of_ne ht, Function.update_of_ne hw, Function.update_of_ne he]
    · exact Function.update_of_ne hside _ _

/-- The reach estimate only grows. -/
theorem le_solveArm_reach (pose : SmplPose ℝ) (body : PicoVRBodyPose ℝ) (reach : ArmReachState ℝ)
    (side : Fin 2) (s e w t tw : Fin 24) (side' : Fin 2) :
    reach.maxReach side' ≤ (solveArm pose body reach side s e w t tw).2.maxReach side' := by
  by_cases hside : side' = side
  · subst hside
    unfold solveArm
    dsimp only
    split
    · exact le_rfl
    · dsimp only
      rw [Function.update_self]
      exact le_max_left _ _
  · exact ((solveArm_frame pose body reach side s e w t tw).2.2.2 side' hside).ge

/-- The joints that one arm reads and writes. -/
structure Distinct (s e w t : Fin 24) : Prop where
  se : s ≠ e
  sw : s ≠ w
  st : s ≠ t
  ew : e ≠ w
  et : e ≠ t
  wt : w ≠ t

theorem solveArm_joints (pose : SmplPose ℝ) (reach : ArmReachState ℝ) (side : Fin 2)
    (hjoints : Distinct s e w t) (hlong : ¬ norm (trackedArm body s tw) < 1e-3) :
    let k := armSolve (segLen s e) (segLen e w) (norm (trackedArm body s tw))
      (reach.maxReach side) (trackedArm body s tw) (pose.jointsLocal s) (pose.jointsLocal e)
    let hPerp := scale k.hPerp (1.0 / norm k.hPerp)
    let W := add (pose.jointsLocal s) (scale k.u k.d)
    let out := solveArm pose body reach side s e w t tw
    out.1.jointsLocal s = pose.jointsLocal s ∧
      out.1.jointsLocal e =
        add (pose.jointsLocal s) (add (scale k.u k.along) (scale hPerp k.r)) ∧
      out.1.jointsLocal w = W ∧
      out.1.jointsLocal t = add W (sub (pose.jointsLocal t) (pose.jointsLocal w)) ∧
      out.2.maxReach side = k.maxReach := by
  unfold solveArm
  dsimp only
  rw [if_neg hlong]
  dsimp only
  refine ⟨?_, ?_, ?_, ?_, ?_⟩
  · rw [Function.update_of_ne hjoints.st, Function.update_of_ne hjoints.sw,
      Function.update_of_ne hjoints.se]
  · rw [Function.update_of_ne hjoints.et, Function.update_of_ne hjoints.ew, Function.update_self]
  · rw [Function.update_of_ne hjoints.wt, Function.update_self]
  · rw [Function.update_self]
  · rw [Function.update_self]

/-- **One arm.** -/
theorem solveArm_solved (pose : SmplPose ℝ) (reach : ArmReachState ℝ) (side : Fin 2)
    (hjoints : Distinct s e w t) (ha : 1e-6 ≤ (segLen s e : ℝ))
    (hb : 1e-6 ≤ (segLen e w : ℝ)) (hlong : ¬ norm (trackedArm body s tw) < 1e-3) :
    ArmSolved body s e w t tw pose (solveArm pose body reach side s e w t tw).1 ∧
      ∀ x ∈ armDivisors pose body reach side s e w tw, x ≠ 0 := by
  have hpos : 0 < norm (trackedArm body s tw) :=
    lt_of_lt_of_le (by norm_num) (not_lt.mp hlong)
  have hsegments := armSolve_segments ha hb hpos.ne' (reach.maxReach side) (pose.jointsLocal s)
    (pose.jointsLocal e)
  have hbounds := armSolve_d ha hb (norm (trackedArm body s tw)) (reach.maxReach side)
    (trackedArm body s tw) (pose.jointsLocal s) (pose.jointsLocal e)
  have hd : 0 < (armSolve (segLen s e) (segLen e w) (norm (trackedArm body s tw))
      (reach.maxReach side) (trackedArm body s tw) (pose.jointsLocal s)
      (pose.jointsLocal e)).d := armSolve_d_pos ha hb
  obtain ⟨hS, hE, hW, hT, -⟩ := solveArm_joints pose reach side hjoints hlong
  dsimp only at hsegments
  rw [← hE, ← hW] at hsegments
  obtain ⟨hupper, hfore, hdist⟩ := hsegments
  constructor
  · refine ⟨by rw [hS]; exact hupper, hfore, ⟨_, hbounds.1, hbounds.2, ?_, ?_⟩, ?_⟩
    · rw [hS]
      exact hdist
    · rw [hS, hW, sub_eq, add_eq, add_sub_cancel_left, scale_eq, scale_eq]
      show _ • scale _ (1.0 / _) = _
      rw [scale_eq, smul_smul, (by norm_num : (1.0 : ℝ) = 1), mul_one_div]
    · rw [hT, hW, sub_eq, add_eq, add_sub_cancel_left]
  · intro x hx
    simp only [armDivisors, List.mem_cons, List.not_mem_nil, or_false] at hx
    rcases hx with rfl | rfl | rfl | rfl
    · exact (hpos.trans_le (le_max_right _ _)).ne'
    · exact hpos.ne'
    · have htwo : (2.0 : ℝ) ≠ 0 := by norm_num
      exact mul_ne_zero htwo hd.ne'
    · exact norm_swivel_ne_zero (armSolve_u hpos.ne' (segLen s e) (segLen e w)
        (reach.maxReach side) (pose.jointsLocal s) (pose.jointsLocal e)) _

end

/-! ## Both arms -/

/-- What a call does to one arm. -/
structure ArmLaw (body : PicoVRBodyPose ℝ) (side : Fin 2) (s e w t tw : Fin 24)
    (pose : SmplPose ℝ) (reach : ArmReachState ℝ) (out : SmplPose ℝ × ArmReachState ℝ) :
    Prop where
  distance : UnitQuat (ThreePoint.jointQuat body 0) → norm (trackedArm body s tw) =
    norm (sub (ThreePoint.jointPos body tw) (ThreePoint.jointPos body s))
  kept : norm (trackedArm body s tw) < 1e-3 →
    out.1.jointsLocal e = pose.jointsLocal e ∧ out.1.jointsLocal w = pose.jointsLocal w ∧
      out.1.jointsLocal t = pose.jointsLocal t ∧ out.2.maxReach side = reach.maxReach side
  solved : ¬ norm (trackedArm body s tw) < 1e-3 →
    ArmSolved body s e w t tw pose out.1 ∧ ∀ x ∈ armDivisors pose body reach side s e w tw, x ≠ 0
  alone : let one := solveArm pose body reach side s e w t tw
    out.1.jointsLocal e = one.1.jointsLocal e ∧ out.1.jointsLocal w = one.1.jointsLocal w ∧
      out.1.jointsLocal t = one.1.jointsLocal t ∧ out.2.maxReach side = one.2.maxReach side

/-- Two results that agree on one arm. -/
structure SameArm (side : Fin 2) (s e w t : Fin 24)
    (p p' : SmplPose ℝ × ArmReachState ℝ) : Prop where
  shoulder : p.1.jointsLocal s = p'.1.jointsLocal s
  elbow : p.1.jointsLocal e = p'.1.jointsLocal e
  wrist : p.1.jointsLocal w = p'.1.jointsLocal w
  thumb : p.1.jointsLocal t = p'.1.jointsLocal t
  reach : p.2.maxReach side = p'.2.maxReach side

section

variable {body : PicoVRBodyPose ℝ} {s e w t tw : Fin 24} {side : Fin 2} {pose : SmplPose ℝ}
  {reach : ArmReachState ℝ} {p p' out : SmplPose ℝ × ArmReachState ℝ}

/-- An arm is solved from its own joints and its own reach. -/
theorem SameArm.solveArm (hjoints : Distinct s e w t) (h : SameArm side s e w t p p')
    (body : PicoVRBodyPose ℝ) (tw : Fin 24) :
    SameArm side s e w t (solveArm p.1 body p.2 side s e w t tw)
      (solveArm p'.1 body p'.2 side s e w t tw) := by
  by_cases hlong : norm (trackedArm body s tw) < 1e-3
  · rw [solveArm_short hlong, solveArm_short hlong]
    exact h
  · obtain ⟨hS, hE, hW, hT, hreach⟩ := solveArm_joints p.1 p.2 side hjoints hlong
    obtain ⟨hS', hE', hW', hT', hreach'⟩ := solveArm_joints p'.1 p'.2 side hjoints hlong
    rw [h.shoulder, h.elbow, h.reach] at hE hW hreach
    rw [h.shoulder, h.elbow, h.reach, h.thumb, h.wrist] at hT
    exact ⟨hS.trans (h.shoulder.trans hS'.symm), hE.trans hE'.symm, hW.trans hW'.symm,
      hT.trans hT'.symm, hreach.trans hreach'.symm⟩

/-- The law of an arm, from what it says of that arm solved alone. -/
theorem armLaw_of_same (hjoints : Distinct s e w t) (ha : 1e-6 ≤ (segLen s e : ℝ))
    (hb : 1e-6 ≤ (segLen e w : ℝ))
    (hsame : SameArm side s e w t out (solveArm pose body reach side s e w t tw)) :
    ArmLaw body side s e w t tw pose reach out := by
  refine ⟨fun hunit => norm_trackedArm hunit s tw, fun hshort => ?_, fun hlong => ?_,
    ⟨hsame.elbow, hsame.wrist, hsame.thumb, hsame.reach⟩⟩
  · rw [solveArm_short hshort] at hsame
    exact ⟨hsame.elbow, hsame.wrist, hsame.thumb, hsame.reach⟩
  · obtain ⟨⟨hupper, hfore, hwrist, hthumb⟩, hdivisors⟩ :=
      solveArm_solved pose reach side hjoints ha hb hlong
    rw [← hsame.shoulder] at hupper hwrist
    rw [← hsame.elbow] at hupper hfore
    rw [← hsame.wrist] at hfore hwrist hthumb
    rw [← hsame.thumb] at hthumb
    exact ⟨⟨hupper, hfore, hwrist, hthumb⟩, hdivisors⟩

end

/-! ## Sequences of calls -/

/-- The reach estimates after a sequence of calls since engage. -/
noncomputable def reachAfter (calls : List (SmplPose ℝ × PicoVRBodyPose ℝ)) : ArmReachState ℝ :=
  calls.foldl (fun reach c => (smplArmsFromTrackedWrists c.1 c.2 reach).2) {}

theorem le_segLen {s e : Fin 24} {x : ℝ}
    (h : x ≤ |SmplFk.kSmplXRestJoints (s.castLE kSmplXNumJoints_le) 0 -
      SmplFk.kSmplXRestJoints (e.castLE kSmplXNumJoints_le) 0|) : x ≤ segLen s e := by
  unfold segLen
  rw [norm_eq]
  exact h.trans (abs_le_length (sub _ _) 0)

/-- The segments of both arms are not degenerate. -/
theorem segLen_long : 1e-6 ≤ (segLen 16 18 : ℝ) ∧ 1e-6 ≤ (segLen 18 20 : ℝ) ∧
    1e-6 ≤ (segLen 17 19 : ℝ) ∧ 1e-6 ≤ (segLen 19 21 : ℝ) := by
  refine ⟨le_segLen ?_, le_segLen ?_, le_segLen ?_, le_segLen ?_⟩
  · show (1e-6 : ℝ) ≤ |0.164081037 - 0.41820389|
    norm_num
  · show (1e-6 : ℝ) ≤ |0.41820389 - 0.670190632|
    norm_num
  · show (1e-6 : ℝ) ≤ |-0.151794821 - -0.422944367|
    norm_num
  · show (1e-6 : ℝ) ≤ |-0.422944367 - -0.672211826|
    norm_num

theorem distinct_left : Distinct 16 18 20 22 := by constructor <;> decide

theorem distinct_right : Distinct 17 19 21 23 := by constructor <;> decide

/-- Both arms of one call, from any reach estimates. -/
theorem armLaws (pose : SmplPose ℝ) (body : PicoVRBodyPose ℝ) (reach : ArmReachState ℝ) :
    let out := smplArmsFromTrackedWrists pose body reach
    ArmLaw body 0 16 18 20 22 22 pose reach out ∧ ArmLaw body 1 17 19 21 23 23 pose reach out := by
  obtain ⟨hupper, hfore, hupper', hfore'⟩ := segLen_long
  have hleft := solveArm_frame pose body reach 0 16 18 20 22 22
  dsimp only at hleft ⊢
  unfold smplArmsFromTrackedWrists
  dsimp only
  generalize hl : solveArm pose body reach 0 16 18 20 22 22 = left at hleft ⊢
  obtain ⟨hjoints, -, -, hreach⟩ := hleft
  have hright := solveArm_frame left.1 body left.2 1 17 19 21 23 23
  dsimp only at hright
  obtain ⟨hjoints', -, -, hreach'⟩ := hright
  constructor
  · apply armLaw_of_same distinct_left hupper hfore
    rw [hl]
    exact ⟨hjoints' 16 (by decide) (by decide) (by decide),
      hjoints' 18 (by decide) (by decide) (by decide),
      hjoints' 20 (by decide) (by decide) (by decide),
      hjoints' 22 (by decide) (by decide) (by decide), hreach' 0 (by decide)⟩
  · apply armLaw_of_same distinct_right hupper' hfore'
    have hsame : SameArm 1 17 19 21 23 left (pose, reach) :=
      ⟨hjoints 17 (by decide) (by decide) (by decide),
        hjoints 19 (by decide) (by decide) (by decide),
        hjoints 21 (by decide) (by decide) (by decide),
        hjoints 23 (by decide) (by decide) (by decide), hreach 1 (by decide)⟩
    exact hsame.solveArm distinct_right body 23

theorem le_reachAfter (reach : ArmReachState ℝ) (calls : List (SmplPose ℝ × PicoVRBodyPose ℝ))
    (side : Fin 2) : reach.maxReach side ≤
      (calls.foldl (fun reach c => (smplArmsFromTrackedWrists c.1 c.2 reach).2) reach).maxReach
        side := by
  induction calls generalizing reach with
  | nil => exact le_rfl
  | cons c calls ih =>
    apply le_trans _ (ih _)
    apply le_trans (le_solveArm_reach c.1 c.2 reach 0 16 18 20 22 22 side)
    exact le_solveArm_reach _ c.2 _ 1 17 19 21 23 23 side

/-- After every sequence of calls since engage, a call leaves an arm alone whose tracked wrist is at
the shoulder and solves the other ones, each as if it were the only one; nothing else of the pose
changes, and the reach estimates never decrease. -/
theorem arm_reach_laws (calls : List (SmplPose ℝ × PicoVRBodyPose ℝ)) (pose : SmplPose ℝ)
    (body : PicoVRBodyPose ℝ) :
    let reach := reachAfter calls
    let out := smplArmsFromTrackedWrists pose body reach
    ArmLaw body 0 16 18 20 22 22 pose reach out ∧ ArmLaw body 1 17 19 21 23 23 pose reach out ∧
      (∀ j, j ∉ ([18, 20, 22, 19, 21, 23] : List (Fin 24)) →
        out.1.jointsLocal j = pose.jointsLocal j) ∧
      out.1.anchorQuat = pose.anchorQuat ∧ out.1.wristJointPos = pose.wristJointPos ∧
      ∀ later side, reach.maxReach side ≤ (reachAfter (calls ++ later)).maxReach side := by
  dsimp only
  generalize hreach : reachAfter calls = reach
  obtain ⟨hleft, hright⟩ := armLaws pose body reach
  refine ⟨hleft, hright, ?_⟩
  obtain ⟨hjoints, hanchor, hwrists, -⟩ := solveArm_frame pose body reach 0 16 18 20 22 22
  unfold smplArmsFromTrackedWrists
  dsimp only at hjoints hanchor hwrists ⊢
  generalize solveArm pose body reach 0 16 18 20 22 22 = left at hjoints hanchor hwrists ⊢
  obtain ⟨hjoints', hanchor', hwrists', -⟩ := solveArm_frame left.1 body left.2 1 17 19 21 23 23
  refine ⟨fun j hj => ?_, hanchor'.trans hanchor, hwrists'.trans hwrists, fun later side => ?_⟩
  · simp only [List.mem_cons, List.not_mem_nil, or_false, not_or] at hj
    obtain ⟨h18, h20, h22, h19, h21, h23⟩ := hj
    exact (hjoints' j h19 h21 h23).trans (hjoints j h18 h20 h22)
  · unfold reachAfter
    rw [List.foldl_append]
    have hle := le_reachAfter (reachAfter calls) later side
    rw [hreach] at hle
    unfold reachAfter at hreach
    rw [hreach]
    exact hle

end SmplArmReach

end Gearsonic
