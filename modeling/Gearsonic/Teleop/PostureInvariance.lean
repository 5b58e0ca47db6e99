import Gearsonic.Common.Quaternions
import Gearsonic.Teleop.Session
import Gearsonic.Teleop.ThreePoint
import Gearsonic.Teleop.TrackerFlags

/-!
# Upper-body teleop follows the posture

The raw three points are seen from the root, so where the operator stands and faces does not
matter: a rigid motion of the whole sample turns every keypoint by the same rotation, which
the root's own inverse takes out again (`extractRaw_move`). A capture from the uncalibrated
state anchors exactly: the sample it was captured from gives the reference wrists and a
straight neck (`apply_captured`).
-/

open Quaternion

namespace Gearsonic

namespace ThreePoint

/-! ## Rigid motions of a sample -/

/-- A rotation and a translation in the headset's frame. -/
structure RigidMotion where
  rotation : Quat ℝ
  translation : Vec3 ℝ
  unit : UnitQuat rotation

/-- All 24 joints, moved. -/
noncomputable def RigidMotion.move (g : RigidMotion) (body : PicoVRBodyPose ℝ) :
    PicoVRBodyPose ℝ where
  joints i :=
    let p := quatRotate g.rotation (jointPos body i)
    let q := quatMul g.rotation (jointQuat body i)
    ![p 0 + g.translation 0, p 1 + g.translation 1, p 2 + g.translation 2, q 1, q 2, q 3, q 0]

/-- Every joint's quaternion is a unit one. -/
def UnitJoints (body : PicoVRBodyPose ℝ) : Prop := ∀ i, UnitQuat (jointQuat body i)

theorem jointQuat_move (g : RigidMotion) (body : PicoVRBodyPose ℝ) (i : Fin 24) :
    jointQuat (g.move body) i = quatMul g.rotation (jointQuat body i) := by
  funext j
  fin_cases j <;> rfl

theorem vectorOf_jointPos_move (g : RigidMotion) (body : PicoVRBodyPose ℝ) (i : Fin 24) :
    vectorOf (jointPos (g.move body) i) =
      vectorOf (quatRotate g.rotation (jointPos body i)) + vectorOf g.translation := by
  ext <;> simp [jointPos, RigidMotion.move]

/-! ## The keypoints as quaternions -/

theorem kUnityToRobot_eq : ∃ s : ℝ, s * s = 1 / 2 ∧ kUnityToRobot = ![0, 0, s, s] := by
  refine ⟨√0.5, ?_, rfl⟩
  rw [Real.mul_self_sqrt (by norm_num)]
  norm_num

theorem unitQuat_kUnityToRobot : UnitQuat kUnityToRobot := by
  obtain ⟨s, hs, hu⟩ := kUnityToRobot_eq
  rw [hu]
  show 0 * 0 + 0 * 0 + s * s + s * s = 1
  linarith

theorem unitQuat_quatFromAngleAxis (angle : ℝ) {v : Vec3 ℝ}
    (h : v 0 * v 0 + v 1 * v 1 + v 2 * v 2 = 1) : UnitQuat (quatFromAngleAxis angle v) := by
  rw [quatFromAngleAxis_eq angle h]
  exact unitQuat_angleAxis (angle / 2) h

theorem unitQuat_kOffsets (k : Fin 4) : UnitQuat (kOffsets k) := by
  have heuler : ∀ a b c : ℝ, UnitQuat (eulerXyzExtrinsic a b c) := by
    intro a b c
    refine UnitQuat.mul ?_ (UnitQuat.mul ?_ ?_) <;>
      apply unitQuat_quatFromAngleAxis <;> simp
  fin_cases k <;> apply heuler

theorem quaternionOf_keypointQuat (body : PicoVRBodyPose ℝ) (k : Fin 4) :
    quaternionOf (keypointQuat body k) =
      quaternionOf kUnityToRobot * quaternionOf (jointQuat body (kSmplIdx k)) *
        star (quaternionOf kUnityToRobot) * quaternionOf (kOffsets k) := by
  unfold keypointQuat
  simp only [quaternionOf_quatMul, quaternionOf_quatConjugate, mul_assoc]

theorem unitQuat_keypointQuat {body : PicoVRBodyPose ℝ} (h : UnitJoints body) (k : Fin 4) :
    UnitQuat (keypointQuat body k) :=
  (unitQuat_kUnityToRobot.mul ((h (kSmplIdx k)).mul unitQuat_kUnityToRobot.conjugate)).mul
    (unitQuat_kOffsets k)

/-- The axis permutation is the rotation by `kUnityToRobot`. -/
theorem vectorOf_keypointPos (body : PicoVRBodyPose ℝ) (k : Fin 4) :
    vectorOf (keypointPos body k) =
      quaternionOf kUnityToRobot * vectorOf (jointPos body (kSmplIdx k)) *
        star (quaternionOf kUnityToRobot) := by
  rw [← vectorOf_quatRotate unitQuat_kUnityToRobot]
  obtain ⟨s, hs, hu⟩ := kUnityToRobot_eq
  rw [hu, keypointPos]
  generalize jointPos body (kSmplIdx k) = p
  congr 1
  funext i
  fin_cases i
  · simp [quatRotate]
    norm_num
  · simp [quatRotate]
    norm_num
    linear_combination (-2 * (p 1 + p 2)) * hs
  · simp [quatRotate]
    norm_num
    linear_combination (-2 * (p 1 + p 2)) * hs

/-! ## Moving a sample -/

/-- The motion's rotation in the robot's axes. -/
noncomputable def RigidMotion.turn (g : RigidMotion) : ℍ[ℝ] :=
  quaternionOf kUnityToRobot * quaternionOf g.rotation * star (quaternionOf kUnityToRobot)

theorem unityToRobot_cancel (x : ℍ[ℝ]) :
    star (quaternionOf kUnityToRobot) * (quaternionOf kUnityToRobot * x) = x := by
  rw [← mul_assoc, Unitary.star_mul_self_of_mem (unitQuat_iff.mp unitQuat_kUnityToRobot), one_mul]

theorem RigidMotion.turn_cancel (g : RigidMotion) (x : ℍ[ℝ]) : star g.turn * (g.turn * x) = x := by
  have hmem : g.turn ∈ unitary ℍ[ℝ] :=
    mul_mem (mul_mem (unitQuat_iff.mp unitQuat_kUnityToRobot) (unitQuat_iff.mp g.unit))
      (Unitary.star_mem (unitQuat_iff.mp unitQuat_kUnityToRobot))
  rw [← mul_assoc, Unitary.star_mul_self_of_mem hmem, one_mul]

theorem keypointQuat_move (g : RigidMotion) (body : PicoVRBodyPose ℝ) (k : Fin 4) :
    quaternionOf (keypointQuat (g.move body) k) = g.turn * quaternionOf (keypointQuat body k) := by
  rw [quaternionOf_keypointQuat, quaternionOf_keypointQuat, jointQuat_move, quaternionOf_quatMul]
  simp only [RigidMotion.turn, mul_assoc, unityToRobot_cancel]

/-- Between two keypoints the translation cancels. -/
theorem keypointPos_move (g : RigidMotion) (body : PicoVRBodyPose ℝ) (k : Fin 4) :
    vectorOf (keypointPos (g.move body) k) - vectorOf (keypointPos (g.move body) 0) =
      g.turn * (vectorOf (keypointPos body k) - vectorOf (keypointPos body 0)) * star g.turn := by
  simp only [vectorOf_keypointPos, vectorOf_jointPos_move, vectorOf_quatRotate g.unit]
  simp only [RigidMotion.turn, star_mul, star_star, mul_sub, sub_mul, mul_add, add_mul, mul_assoc,
    unityToRobot_cancel, add_sub_add_right_eq_sub]

theorem UnitJoints.move {body : PicoVRBodyPose ℝ} (h : UnitJoints body) (g : RigidMotion) :
    UnitJoints (g.move body) := by
  intro i
  rw [jointQuat_move]
  exact g.unit.mul (h i)

theorem vectorOf_sub (v w : Vec3 ℝ) :
    vectorOf (fun i => v i - w i) = vectorOf v - vectorOf w := by
  ext <;> simp

/-- A keypoint's position as the root sees it. -/
theorem vectorOf_extractRaw_pos {body : PicoVRBodyPose ℝ} (h : UnitJoints body) (k : Fin 3) :
    vectorOf ((extractRaw body).pos k) =
      star (quaternionOf (keypointQuat body 0)) *
        (vectorOf (keypointPos body k.succ) - vectorOf (keypointPos body 0)) *
        quaternionOf (keypointQuat body 0) := by
  have hpos : (extractRaw body).pos k = quatRotate (quatConjugate (keypointQuat body 0))
      fun i => keypointPos body k.succ i - keypointPos body 0 i := rfl
  rw [hpos, vectorOf_quatRotate (unitQuat_keypointQuat h 0).conjugate, quaternionOf_quatConjugate,
    star_star, vectorOf_sub]

theorem quaternionOf_extractRaw_quat (body : PicoVRBodyPose ℝ) (k : Fin 3) :
    quaternionOf ((extractRaw body).quat k) =
      star (quaternionOf (keypointQuat body 0)) * quaternionOf (keypointQuat body k.succ) := by
  have hquat : (extractRaw body).quat k =
      quatMul (quatConjugate (keypointQuat body 0)) (keypointQuat body k.succ) := rfl
  rw [hquat, quaternionOf_quatMul, quaternionOf_quatConjugate]

/-- The raw three points do not change under a rigid motion of the operator. -/
theorem extractRaw_move (g : RigidMotion) {body : PicoVRBodyPose ℝ} (h : UnitJoints body) :
    extractRaw (g.move body) = extractRaw body := by
  have hpos : (extractRaw (g.move body)).pos = (extractRaw body).pos := by
    funext k
    apply vectorOf_injective
    rw [vectorOf_extractRaw_pos (h.move g), vectorOf_extractRaw_pos h, keypointPos_move,
      keypointQuat_move]
    simp only [star_mul, mul_assoc, g.turn_cancel]
  have hquat : (extractRaw (g.move body)).quat = (extractRaw body).quat := by
    funext k
    apply quaternionOf_injective
    rw [quaternionOf_extractRaw_quat, quaternionOf_extractRaw_quat, keypointQuat_move,
      keypointQuat_move]
    simp only [star_mul, mul_assoc, g.turn_cancel]
  calc extractRaw (g.move body)
      = ⟨(extractRaw (g.move body)).pos, (extractRaw (g.move body)).quat⟩ := rfl
    _ = ⟨(extractRaw body).pos, (extractRaw body).quat⟩ := by rw [hpos, hquat]

/-! ## A captured sample -/

/-- Every raw orientation is a unit quaternion. -/
def Raw3Point.Unit (raw : Raw3Point ℝ) : Prop := ∀ k, UnitQuat (raw.quat k)

theorem unit_extractRaw {body : PicoVRBodyPose ℝ} (h : UnitJoints body) :
    (extractRaw body).Unit := by
  intro k
  exact (unitQuat_keypointQuat h 0).conjugate.mul (unitQuat_keypointQuat h k.succ)

theorem quatMul_conjugate_cancel (p : Quat ℝ) {q : Quat ℝ} (h : UnitQuat q) :
    quatMul (quatMul p (quatConjugate q)) q = p := by
  apply quaternionOf_injective
  rw [quaternionOf_quatMul, quaternionOf_quatMul, quaternionOf_quatConjugate, mul_assoc,
    Unitary.star_mul_self_of_mem (unitQuat_iff.mp h), mul_one]

theorem quatMul_conjugate_self {q : Quat ℝ} (h : UnitQuat q) :
    quatMul (quatConjugate q) q = ![1, 0, 0, 0] := by
  apply quaternionOf_injective
  rw [quaternionOf_quatMul, quaternionOf_quatConjugate,
    Unitary.star_mul_self_of_mem (unitQuat_iff.mp h)]
  rfl

theorem quatRotate_one (v : Vec3 ℝ) : quatRotate ![1, 0, 0, 0] v = v := by
  funext i
  fin_cases i <;> simp [quatRotate] <;> norm_num

/-- The target that the reference and a straight neck ask for. -/
noncomputable def anchorTarget (ref : WristReference ℝ) : VR3Point ℝ where
  position := ![ref.lPos 0, ref.lPos 1, ref.lPos 2, ref.rPos 0, ref.rPos 1, ref.rPos 2,
    0, 0, kTorsoLinkOffsetZ + kNeckLinkLength]
  orientation := ![ref.lRot 0, ref.lRot 1, ref.lRot 2, ref.lRot 3,
    ref.rRot 0, ref.rRot 1, ref.rRot 2, ref.rRot 3, 1, 0, 0, 0]

theorem apply_captured (ref : WristReference ℝ) {raw : Raw3Point ℝ} (h : raw.Unit)
    (c : Calibration ℝ) :
    applyCalibration (captureCalibration false ref raw c) raw = anchorTarget ref := by
  have hneck : quatMul (quatConjugate (raw.quat 2)) (raw.quat 2) = ![1, 0, 0, 0] :=
    quatMul_conjugate_self (h 2)
  have hl := quatMul_conjugate_cancel ref.lRot ((h 2).conjugate.mul (h 0))
  have hr := quatMul_conjugate_cancel ref.rRot ((h 2).conjugate.mul (h 1))
  unfold applyCalibration captureCalibration anchorTarget
  simp only [Bool.false_eq_true, if_false, hneck, hl, hr, sub_sub_cancel, quatRotate_one]
  congr 1
  simp

end ThreePoint

namespace TeleopTracker

variable {κ : Kernels} {t : TeleopTracker κ}

/-- A neck capture is kept exactly as long as the upper flavor is engaged. -/
def NeckKept (t : TeleopTracker κ) : Prop := t.haveNeckCalib = t.upperCalibrated

theorem NeckKept.consumeReset (h : t.NeckKept) : t.consumeReset.NeckKept := by
  unfold TeleopTracker.consumeReset
  dsimp only
  split_ifs
  · rfl
  · rfl
  · exact h

theorem NeckKept.checkCalibrationGesture (h : t.NeckKept) (m : Mode) (ctrl : Option FaceButtons) :
    (t.checkCalibrationGesture m ctrl).NeckKept := by
  obtain ⟨g, hg | ⟨-, -, -, hg⟩ | ⟨-, -, -, -, -, hg⟩⟩ := checkCalibrationGesture_cases t m ctrl
  · rw [hg]
    exact h
  · rw [hg]
    rfl
  · rw [hg]
    exact h

theorem NeckKept.checkFullbodyGesture (h : t.NeckKept) (m : Mode) (ctrl : Option FaceButtons)
    (idle present : Bool) : (t.checkFullbodyGesture m ctrl idle present).NeckKept := by
  unfold TeleopTracker.checkFullbodyGesture disengageFullbody
  dsimp only
  split_ifs <;> exact h

theorem NeckKept.bodySection (h : t.NeckKept) (body : TimestampedData κ.BodyPose)
    (ref : κ.WristReference) : (t.bodySection body ref).NeckKept := by
  unfold TeleopTracker.bodySection process captureCalibration ingestFullbodySample
  dsimp only
  split
  · exact h
  · split_ifs <;> first | exact h | rfl

theorem NeckKept.fullbodySection (h : t.NeckKept) (body : TimestampedData κ.BodyPose)
    (ageMs : ℚ) (t0 : TimePoint) : (t.fullbodySection body ageMs t0).NeckKept := by
  unfold TeleopTracker.fullbodySection processFullbody ingestFullbodySample disengageFullbody
  dsimp only
  repeat' split
  all_goals exact h

theorem neckKept_of_reachable {s : TeleopSession κ}
    (h : Transition.Reachable TeleopSession.step Transition.Always {} s) : s.tracker.NeckKept := by
  refine h.invariant (I := fun s => s.tracker.NeckKept) rfl ?_
  intro s a t hs _ hstep
  cases TeleopSession.fires_of_step hstep with
  | consumeReset hp => exact hs.consumeReset
  | readCalibMode hp => exact hs
  | calibrationGesture m ctrl hp => exact hs.checkCalibrationGesture m ctrl
  | readFbMode hp => exact hs
  | fullbodyGesture m ctrl idle present hp => exact hs.checkFullbodyGesture m ctrl idle present
  | bodySample sample ref hp => exact hs.bodySection sample ref
  | fullbodyTick sample ageMs t0 hp => exact hs.fullbodySection sample ageMs t0
  | updateArbiter fresh alive recoveryDone hc => exact hs
  | resetCalibration hc => exact hs

end TeleopTracker

namespace ThreePoint

/-- Upper-body teleop depends on the posture only, and a capture anchors exactly. -/
theorem posture_only (κ : Kernels) (view : PicoVRBodyPose ℝ → κ.BodyPose) :
    (∀ (g : RigidMotion) (body : PicoVRBodyPose ℝ), UnitJoints body →
      extractRaw (g.move body) = extractRaw body ∧
        (∀ c, applyCalibration c (extractRaw (g.move body)) =
          applyCalibration c (extractRaw body)) ∧
        ∀ (t : TeleopTracker (threePointKernels κ view)) (ref : WristReference ℝ),
          t.process ref (g.move body) = t.process ref body) ∧
      (∀ s : TeleopSession (threePointKernels κ view),
        Transition.Reachable TeleopSession.step Transition.Always {} s →
        s.tracker.upperCalibrated = false →
        ∀ (provided : Option (Option (Joints ℝ))) (raw : Raw3Point ℝ), raw.Unit →
          applyCalibration
              (s.tracker.captureCalibration (wristReference provided) raw).calibration raw =
            anchorTarget (wristReference provided)) ∧
      ∀ body : PicoVRBodyPose ℝ, UnitJoints body → (extractRaw body).Unit := by
  refine ⟨fun g body h => ?_, fun s hs hoff provided raw hraw => ?_, fun _ h => unit_extractRaw h⟩
  · have hraw := extractRaw_move g h
    refine ⟨hraw, fun c => by rw [hraw], fun t ref => ?_⟩
    have hkernel : (threePointKernels κ view).extractRaw (g.move body) =
        (threePointKernels κ view).extractRaw body := hraw
    unfold TeleopTracker.process
    rw [hkernel]
  · have hneck : s.tracker.haveNeckCalib = false :=
      (TeleopTracker.neckKept_of_reachable hs).trans hoff
    have hcapture : (s.tracker.captureCalibration (wristReference provided) raw).calibration =
        captureCalibration false (wristReference provided) raw s.tracker.calibration :=
      congrArg (fun b => captureCalibration b (wristReference provided) raw s.tracker.calibration)
        hneck
    rw [hcapture]
    exact apply_captured (wristReference provided) hraw s.tracker.calibration

/-- An operator who has turned half around and stepped aside, and a first capture. -/
theorem posture_only_turned : ∃ (g : RigidMotion) (body : PicoVRBodyPose ℝ),
    g.translation = ![1, 0, 0] ∧ extractRaw (g.move body) = extractRaw body ∧
      applyCalibration
          (({} : TeleopTracker (threePointKernels Kernels.bare fun _ => ())).captureCalibration
            zeroPoseReference (extractRaw body)).calibration (extractRaw body) =
        anchorTarget zeroPoseReference := by
  let g : RigidMotion :=
    { rotation := ![0, 0, 1, 0], translation := ![1, 0, 0], unit := by simp [UnitQuat] }
  let body : PicoVRBodyPose ℝ := ⟨fun _ => ![0, 0, 0, 0, 0, 0, 1]⟩
  have hbody : UnitJoints body := by
    intro i
    simp [UnitQuat, jointQuat, body]
  have hall := posture_only Kernels.bare fun _ => ()
  exact ⟨g, body, rfl, (hall.1 g body hbody).1,
    hall.2.1 {} .refl rfl none (extractRaw body) (hall.2.2 body hbody)⟩

end ThreePoint

end Gearsonic
