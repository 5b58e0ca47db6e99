import Gearsonic.Common.SlerpLaws
import Gearsonic.Teleop.KorniaMatrix

/-!
# What the kinematics computes

Along the tree the parent-relative rotations cancel: the frame of a joint is the tracked
orientation of that joint, seen from the root. `trackedJoint` says this without the chain, each
bone turned by the tracked orientation of its parent.

* `chain_smplFkChain`: the arrays of the loop are the frames and positions of a chain.
* `chain_tracked`: so are the tracked orientations, with the exact rotations.
* `smplFk_near_tracked`: the output joints are where the tracked orientations put them, within 17
  millionths of the length of the bones on the way.
-/

namespace Gearsonic

open KinematicTree

namespace SmplFk

attribute [local instance] neZero_twentyFour neZero_fiftyFive neZero_seven

/-! ## Maps -/

/-- A matrix as a map. -/
noncomputable def matMap (m : Mat3 ℝ) : AddMonoid.End (Vec3 ℝ) where
  toFun := matApply m
  map_zero' := by
    funext i
    fin_cases i <;> simp [matApply]
  map_add' v w := by
    funext i
    fin_cases i
    all_goals
      simp [matApply]
      ring

/-- A quaternion as a map. -/
noncomputable def rotMap (q : Quat ℝ) : AddMonoid.End (Vec3 ℝ) where
  toFun := quatRotate q
  map_zero' := by
    funext i
    fin_cases i <;> simp [quatRotate]
  map_add' := quatRotate_add q

@[simp] theorem matMap_apply (m : Mat3 ℝ) (v : Vec3 ℝ) : matMap m v = matApply m v := rfl

@[simp] theorem rotMap_apply (q : Quat ℝ) (v : Vec3 ℝ) : rotMap q v = quatRotate q v := rfl

theorem quatRotate_total (q : Quat ℝ) (w : Fin 55 → Vec3 ℝ) (i : Fin 55) :
    quatRotate q (smplTree.total w i) = smplTree.total (fun j => quatRotate q (w j)) i :=
  Tree.map_total (rotMap q : Vec3 ℝ →+ Vec3 ℝ) w i

theorem matMap_matMul (a b : Mat3 ℝ) : matMap (matMul a b) = matMap a * matMap b := by
  ext v i
  show matApply (matMul a b) v i = matApply a (matApply b v) i
  fin_cases i
  all_goals
    simp [matApply, matMul]
    ring

theorem rotMap_quatMul {a b : Quat ℝ} (ha : UnitQuat a) (hb : UnitQuat b) :
    rotMap (quatMul a b) = rotMap a * rotMap b := by
  ext v i
  exact congrFun (quatRotate_quatMul ha hb v) i

theorem rotMap_nonexpansive {q : Quat ℝ} (h : UnitQuat q) :
    Nonexpansive lengthSeminorm (rotMap q) := fun v => (vectorNorm_quatRotate h v).le

theorem quatRotate_neg (q : Quat ℝ) (v : Vec3 ℝ) : quatRotate (-q) v = quatRotate q v := by
  funext i
  fin_cases i
  all_goals
    simp [quatRotate]
    norm_num
    ring

/-- The matrix of a logarithm rotates as the quaternion does. -/
theorem kornia_log_near {q : Quat ℝ} (h : UnitQuat q) :
    Near lengthSeminorm 2.1e-6 (matMap (rotmatFromRotvecKornia (rotvecFromQuat q))) (rotMap q) := by
  intro d
  have hmatrix := kornia_near (rotvecFromQuat q) d
  have hround := vectorNorm_quatRotate_sub (unitQuat_quatFromRotvec (rotvecFromQuat q))
    (unitQuat_canonical h) d
  have hsame : quatRotate (canonical q) d = quatRotate q d := by
    rcases canonical_same q with heq | heq
    · rw [heq]
    · rw [heq, quatRotate_neg]
  have hsmall : 2 * quatNorm (quatFromRotvec (rotvecFromQuat q) - canonical q) * vectorNorm d ≤
      1e-7 * vectorNorm d := by
    apply mul_le_mul_of_nonneg_right _ (vectorNorm_nonneg d)
    have hnear := quatFromRotvec_near h
    norm_num at hnear ⊢
    linarith
  rw [hsame] at hround
  have htriangle := map_add_le_add lengthSeminorm
    (matApply (rotmatFromRotvecKornia (rotvecFromQuat q)) d -
      quatRotate (quatFromRotvec (rotvecFromQuat q)) d)
    (quatRotate (quatFromRotvec (rotvecFromQuat q)) d - quatRotate q d)
  rw [sub_add_sub_cancel] at htriangle
  refine htriangle.trans ((add_le_add hmatrix (hround.trans hsmall)).trans ?_)
  rw [← add_mul]
  apply mul_le_mul_of_nonneg_right _ (vectorNorm_nonneg d)
  norm_num

/-! ## The loop -/

/-- From the parent to the joint; at the root, the root's place. -/
def bone {K : Type} [Field K] (i : Fin 55) : Vec3 K :=
  match kSmplXParents i with
  | none => kSmplXRestJoints i
  | some p => rel i p

theorem bone_child {i p : Fin 55} (h : smplTree.parent i = some p) :
    (bone i : Vec3 ℝ) = rel i p := by
  have hparent : kSmplXParents i = some p := h
  rw [bone, hparent]

variable (pose : Fin 55 → Vec3 ℝ)

theorem chainEntry_eq : chainEntry pose =
    smplTree.entry (fun i => ⟨rotmatFromRotvecKornia (pose i), bone i⟩)
      fun i f => ⟨matMul f.rot (rotmatFromRotvecKornia (pose i)),
        fun k => f.pos k + matApply f.rot (bone i) k⟩ := by
  funext i a
  cases hp : kSmplXParents i with
  | none => simp only [chainEntry, Tree.entry, bone, smplTree, hp]
  | some p => simp only [chainEntry, Tree.entry, bone, smplTree, hp]

/-- The finished arrays. -/
noncomputable def frames (i : Fin 55) : Frame ℝ :=
  fill (chainEntry pose) (fun _ => ⟨fun _ _ => 0, fun _ => 0⟩) i

theorem chain_smplFkChain :
    Chain smplTree (fun i => matMap (rotmatFromRotvecKornia (pose i))) bone
      (fun i => matMap (frames pose i).rot) (smplFkChain pose) where
  root i hp := by
    have hentry : frames pose i = ⟨rotmatFromRotvecKornia (pose i), bone i⟩ := by
      unfold frames
      rw [chainEntry_eq]
      exact Tree.sweep_root hp
    constructor
    · rw [hentry]
    · exact congrArg Frame.pos hentry
  child i p hp := by
    have hentry : frames pose i =
        ⟨matMul (frames pose p).rot (rotmatFromRotvecKornia (pose i)),
          fun k => (frames pose p).pos k + matApply (frames pose p).rot (bone i) k⟩ := by
      unfold frames
      rw [chainEntry_eq]
      exact Tree.sweep_child hp
    constructor
    · rw [hentry, matMap_matMul]
    · exact congrArg Frame.pos hentry

/-! ## The tracked orientations -/

/-- The stream's quaternion, wxyz. -/
def streamQuat (body : PicoVRBodyPose ℝ) (i : Fin 24) : Quat ℝ :=
  ![body.joints i 6, body.joints i 3, body.joints i 4, body.joints i 5]

/-- The root's and the body joints' quaternions are not all but zero. -/
def Tracked (body : PicoVRBodyPose ℝ) : Prop :=
  ∀ i : Fin 24, i.val ≤ 21 → 1e-12 ≤ quatNorm (streamQuat body i)

/-- The posed joint that moves a joint: itself, or the wrist or head it hangs on. -/
def owner : Fin 55 → Fin 24 :=
  smplTree.sweep (fun _ => 0) (fun i o => if h : i.val ≤ 21 then ⟨i.val, bodyJoint_lt h⟩ else o) fun _ => 0

theorem owner_le (i : Fin 55) : (owner i).val ≤ 21 := by
  induction i using smplTree.induction with
  | hroot i hp =>
    rw [owner, Tree.sweep_root hp]
    exact Nat.zero_le 21
  | hchild i p hp ih =>
    rw [owner, Tree.sweep_child hp]
    split_ifs with h
    · exact h
    · exact ih

theorem root_eq_zero : ∀ i, kSmplXParents i = none → i = 0 := by decide

/-- The two trees agree on the body joints. -/
theorem streamParents_eq : ∀ (i : Fin 55) (h : i.val ≤ 21), ∀ p ∈ kSmplXParents i,
    ∃ hp : p.val ≤ 21, kSmplStreamParents ⟨i.val, bodyJoint_lt h⟩ = some ⟨p.val, bodyJoint_lt hp⟩ := by
  decide

theorem owner_root {i : Fin 55} (h : smplTree.parent i = none) : owner i = 0 :=
  Tree.sweep_root h

theorem owner_of_le {i : Fin 55} (h : i.val ≤ 21) : owner i = ⟨i.val, bodyJoint_lt h⟩ := by
  cases hp : smplTree.parent i with
  | none =>
    obtain rfl := root_eq_zero i hp
    exact owner_root hp
  | some p => exact (Tree.sweep_child hp).trans (dif_pos h)

theorem owner_of_gt {i p : Fin 55} (hp : smplTree.parent i = some p) (h : ¬ i.val ≤ 21) :
    owner i = owner p :=
  (Tree.sweep_child hp).trans (dif_neg h)

section

variable {body : PicoVRBodyPose ℝ}

theorem unitQuat_quatFromAngleAxis (angle : ℝ) {v : Vec3 ℝ}
    (h : v 0 * v 0 + v 1 * v 1 + v 2 * v 2 = 1) : UnitQuat (quatFromAngleAxis angle v) := by
  rw [quatFromAngleAxis_eq angle h]
  exact unitQuat_angleAxis _ h

theorem unitQuat_y180 : UnitQuat (y180 : Quat ℝ) := by
  apply unitQuat_quatFromAngleAxis
  show (0.0 : ℝ) * 0.0 + 1.0 * 1.0 + 0.0 * 0.0 = 1
  norm_num

theorem unitQuat_baseRot : UnitQuat (kSmplBaseRot : Quat ℝ) := by
  show (0.5 : ℝ) * 0.5 + 0.5 * 0.5 + 0.5 * 0.5 + 0.5 * 0.5 = 1
  norm_num

theorem unitQuat_qRoot (body : PicoVRBodyPose ℝ) : UnitQuat (qRoot body) := by
  apply UnitQuat.mul _ (unitQuat_quatFromRotvec _)
  apply unitQuat_quatFromAngleAxis
  show (1.0 : ℝ) * 1.0 + 0.0 * 0.0 + 0.0 * 0.0 = 1
  norm_num

theorem unitQuat_anchorQuat (body : PicoVRBodyPose ℝ) : UnitQuat (anchorQuat body) :=
  (unitQuat_qRoot body).mul unitQuat_baseRot.conjugate

theorem Tracked.globalRot_unit (h : Tracked body) {i : Fin 24} (hi : i.val ≤ 21) :
    UnitQuat (globalRot body i) := by
  refine UnitQuat.mul (unitQuat_quatUnit ?_) unitQuat_y180
  have hsq : 0 ≤ quatDot (streamQuat body i) (streamQuat body i) :=
    not_lt.mp (FloatMath.sum_squares_nonneg (streamQuat body i))
  have hnorm : 1e-12 ^ 2 ≤ quatNorm (streamQuat body i) ^ 2 :=
    pow_le_pow_left₀ (by norm_num) (h i hi) 2
  have hroot : quatNorm (streamQuat body i) ^ 2 = quatDot (streamQuat body i) (streamQuat body i) :=
    Real.sq_sqrt hsq
  rw [hroot] at hnorm
  exact le_trans (by norm_num) hnorm

/-- The parent-relative rotation of a joint; the hands and the face have none. -/
noncomputable def exactLocal (body : PicoVRBodyPose ℝ) (i : Fin 55) : Quat ℝ :=
  if i = 0 then qRoot body
  else if h : i.val ≤ 21 then localRot body ⟨i.val, bodyJoint_lt h⟩ else ![1, 0, 0, 0]

theorem Tracked.exactLocal_unit (h : Tracked body) (i : Fin 55) : UnitQuat (exactLocal body i) := by
  unfold exactLocal
  split_ifs with hzero hle
  · exact unitQuat_qRoot body
  · unfold localRot
    cases hp : kSmplXParents i with
    | none => exact absurd (root_eq_zero i hp) hzero
    | some p =>
      obtain ⟨hple, hstream⟩ := streamParents_eq i hle p hp
      rw [hstream]
      exact (h.globalRot_unit (i := ⟨p.val, by omega⟩) hple).conjugate.mul (h.globalRot_unit hle)
  · exact unitQuat_one

/-- The tracked orientation of the joint, seen from the tracked root and put on the posed one. -/
noncomputable def trackedRot (body : PicoVRBodyPose ℝ) (i : Fin 55) : Quat ℝ :=
  quatMul (qRoot body)
    (quatMul (quatConjugate (globalRot body 0)) (globalRot body (owner i)))

/-- Each bone turned by the orientation of its parent. -/
noncomputable def placed (body : PicoVRBodyPose ℝ) (i : Fin 55) : Vec3 ℝ :=
  match kSmplXParents i with
  | none => 0
  | some p => quatRotate (trackedRot body p) (rel i p)

theorem quatMul_one (q : Quat ℝ) : quatMul q ![1, 0, 0, 0] = q := by
  apply quaternionOf_injective
  rw [quaternionOf_quatMul]
  exact mul_one _

theorem conjugate_mul_cancel {q : Quat ℝ} (h : UnitQuat q) (p : Quat ℝ) :
    quatMul (quatConjugate q) (quatMul q p) = p := by
  apply quaternionOf_injective
  rw [quaternionOf_quatMul, quaternionOf_quatMul, quaternionOf_quatConjugate, ← mul_assoc,
    Unitary.star_mul_self_of_mem (unitQuat_iff.mp h), one_mul]

theorem mul_conjugate_cancel {q : Quat ℝ} (h : UnitQuat q) (p : Quat ℝ) :
    quatMul q (quatMul (quatConjugate q) p) = p := by
  apply quaternionOf_injective
  rw [quaternionOf_quatMul, quaternionOf_quatMul, quaternionOf_quatConjugate, ← mul_assoc,
    Unitary.mul_star_self_of_mem (unitQuat_iff.mp h), one_mul]

theorem conjugate_mul_self {q : Quat ℝ} (h : UnitQuat q) :
    quatMul (quatConjugate q) q = ![1, 0, 0, 0] := by
  have hcancel := conjugate_mul_cancel h ![1, 0, 0, 0]
  rwa [quatMul_one] at hcancel

/-- At the root the tracked orientation is the posed root's. -/
theorem Tracked.trackedRot_root (h : Tracked body) {i : Fin 55} (hp : smplTree.parent i = none) :
    trackedRot body i = qRoot body := by
  rw [trackedRot, owner_root hp, conjugate_mul_self (h.globalRot_unit (Nat.zero_le 21)), quatMul_one]

/-- **The step.** The parent's orientation cancels. -/
theorem Tracked.trackedRot_child (h : Tracked body) {i p : Fin 55}
    (hp : smplTree.parent i = some p) :
    trackedRot body i = quatMul (trackedRot body p) (exactLocal body i) := by
  have hzero : i ≠ 0 := by
    rintro rfl
    cases hp
  by_cases hle : i.val ≤ 21
  · obtain ⟨hple, hstream⟩ := streamParents_eq i hle p hp
    have hlocal : exactLocal body i =
        quatMul (quatConjugate (globalRot body ⟨p.val, by omega⟩))
          (globalRot body ⟨i.val, bodyJoint_lt hle⟩) := by
      rw [exactLocal, if_neg hzero, dif_pos hle, localRot, hstream]
    have hunit : UnitQuat (globalRot body ⟨p.val, by omega⟩) := h.globalRot_unit hple
    rw [trackedRot, trackedRot, owner_of_le hle, owner_of_le hple, hlocal]
    simp only [quatMul_assoc, mul_conjugate_cancel hunit]
  · have hlocal : exactLocal body i = ![1, 0, 0, 0] := by
      rw [exactLocal, if_neg hzero, dif_neg hle]
    rw [trackedRot, trackedRot, owner_of_gt hp hle, hlocal, quatMul_one]

theorem Tracked.trackedRot_unit (h : Tracked body) (i : Fin 55) : UnitQuat (trackedRot body i) :=
  (unitQuat_qRoot body).mul
    ((h.globalRot_unit (Nat.zero_le 21)).conjugate.mul (h.globalRot_unit (owner_le i)))

theorem chain_tracked (h : Tracked body) :
    Chain smplTree (fun i => rotMap (exactLocal body i)) bone
      (fun i => rotMap (trackedRot body i))
      (fun i => kSmplXRestJoints 0 + smplTree.total (placed body) i) where
  root i hp := by
    have hi := root_eq_zero i hp
    constructor
    · rw [h.trackedRot_root hp, hi]
      rfl
    · rw [Tree.total_root hp, hi]
      exact add_zero _
  child i p hp := by
    have hparent : kSmplXParents i = some p := hp
    constructor
    · rw [h.trackedRot_child hp, rotMap_quatMul (h.trackedRot_unit p) (h.exactLocal_unit i)]
    · have hplaced : placed body i = quatRotate (trackedRot body p) (rel i p) := by
        rw [placed, hparent]
      rw [Tree.total_child hp, hplaced, bone_child hp, add_assoc]
      rfl

/-! ## The output -/

/-- The logarithm of a parent-relative rotation is what the joint is posed with. -/
theorem fullPose_eq (body : PicoVRBodyPose ℝ) (i : Fin 55) :
    fullPose body i = if i.val ≤ 21 then rotvecFromQuat (exactLocal body i) else 0 := by
  unfold fullPose exactLocal
  by_cases hzero : i = 0
  · rw [if_pos hzero, if_pos hzero, hzero]
    exact (if_pos (Nat.zero_le 21)).symm
  · rw [if_neg hzero, if_neg hzero]
    by_cases hle : i.val ≤ 21
    · rw [dif_pos hle, dif_pos hle, if_pos hle]
      rfl
    · rw [dif_neg hle, if_neg hle]
      rfl

theorem exactLocal_of_gt (body : PicoVRBodyPose ℝ) {i : Fin 55} (h : ¬ i.val ≤ 21) :
    exactLocal body i = ![1, 0, 0, 0] := by
  have hzero : i ≠ 0 := by
    rintro rfl
    exact h (Nat.zero_le 21)
  rw [exactLocal, if_neg hzero, dif_neg h]

/-- How many joints are posed on the way from the root. -/
def posedJoints : Fin 55 → ℕ := ![
  1, 2, 2, 2, 3, 3, 3, 4, 4, 4, 5, 5, 5, 5, 5, 6, 6, 6, 7, 7, 8, 8, 6, 6, 6, 8, 8, 8, 8, 8, 8, 8,
  8, 8, 8, 8, 8, 8, 8, 8, 8, 8, 8, 8, 8, 8, 8, 8, 8, 8, 8, 8, 8, 8, 8]

theorem posedJoints_child : ∀ i : Fin 55, ∀ p ∈ kSmplXParents i,
    posedJoints p + (if i.val ≤ 21 then 1 else 0) ≤ posedJoints i := by
  decide

theorem posedJoints_root : ∀ i : Fin 55, kSmplXParents i = none →
    (if i.val ≤ 21 then 1 else 0) ≤ posedJoints i := by
  decide

theorem posedJoints_le : ∀ i, posedJoints i ≤ 8 := by decide

theorem Tracked.joint_near (h : Tracked body) (i : Fin 55) :
    Near lengthSeminorm ((1 + 2.1e-6) ^ (if i.val ≤ 21 then 1 else 0) - 1)
      (matMap (rotmatFromRotvecKornia (fullPose body i))) (rotMap (exactLocal body i)) := by
  rw [fullPose_eq]
  split_ifs with hle
  · rw [pow_one, add_sub_cancel_left]
    exact kornia_log_near (h.exactLocal_unit i)
  · have hexact : matMap (rotmatFromRotvecKornia 0) = rotMap ![1, 0, 0, 0] := by
      ext v i
      rw [matMap_apply, rotMap_apply, kornia_zero, quatRotate_one]
    rw [exactLocal_of_gt body hle, hexact, pow_zero, sub_self]
    exact Near.refl

/-- The length of the bones between the root and a joint. -/
noncomputable def boneLength (i : Fin 55) : ℝ := smplTree.total (fun j => vectorNorm (bone j)) i

theorem Tracked.chain_near (h : Tracked body) (i : Fin 55) :
    vectorNorm (smplFkChain (fullPose body) i -
        (kSmplXRestJoints 0 + smplTree.total (placed body) i)) ≤ 1.7e-5 * boneLength i := by
  have hchain := chain_smplFkChain (fullPose body)
  have htracked := chain_tracked h
  have hframes : ∀ j, Near lengthSeminorm 1.7e-5 (matMap (frames (fullPose body) j).rot)
      (rotMap (trackedRot body j)) := by
    intro j
    have hnear := hchain.near htracked (by norm_num : (0 : ℝ) ≤ 2.1e-6)
      (fun i => rotMap_nonexpansive (h.exactLocal_unit i)) h.joint_near posedJoints_root
      (fun i p hp => posedJoints_child i p hp) j
    apply hnear.mono
    have hpow : (1 + 2.1e-6 : ℝ) ^ posedJoints j ≤ (1 + 2.1e-6) ^ 8 :=
      pow_le_pow_right₀ (by norm_num) (posedJoints_le j)
    exact (sub_le_sub_right hpow 1).trans (by norm_num)
  exact hchain.position_near htracked hframes i

/-- SMPL's y-up to the robot's z-up. -/
noncomputable def upright : Quat ℝ := quatFromAngleAxis (kPi / 2.0) ![1.0, 0.0, 0.0]

/-- The tracked root in the robot's frame, without SMPL's rest rotation. -/
noncomputable def trackedAnchor (body : PicoVRBodyPose ℝ) : Quat ℝ :=
  quatMul (quatMul upright (globalRot body 0)) (quatConjugate kSmplBaseRot)

/-- A bone turned by the tracked orientation of its parent relative to the root's. -/
noncomputable def turnedBone (body : PicoVRBodyPose ℝ) (i : Fin 55) : Vec3 ℝ :=
  match kSmplXParents i with
  | none => 0
  | some p =>
    quatRotate (quatMul kSmplBaseRot
      (quatMul (quatConjugate (globalRot body 0)) (globalRot body (owner p)))) (rel i p)

/-- A joint of the skeleton put together from the tracked orientations. The rest place of the root
is taken into its frame without having been turned with it. -/
noncomputable def trackedJoint (body : PicoVRBodyPose ℝ) (i : Fin 55) : Vec3 ℝ :=
  quatRotate (quatConjugate (trackedAnchor body)) (kSmplXRestJoints 0) +
    smplTree.total (turnedBone body) i

theorem unitQuat_upright : UnitQuat upright := by
  apply unitQuat_quatFromAngleAxis
  show (1.0 : ℝ) * 1.0 + 0.0 * 0.0 + 0.0 * 0.0 = 1
  norm_num

theorem Tracked.trackedAnchor_unit (h : Tracked body) : UnitQuat (trackedAnchor body) :=
  (unitQuat_upright.mul (h.globalRot_unit (Nat.zero_le 21))).mul unitQuat_baseRot.conjugate

/-- The posed root without the rest rotation takes the placed bones to the turned ones. -/
theorem Tracked.rotate_placed (h : Tracked body) (i : Fin 55) :
    quatRotate (quatConjugate (anchorQuat body)) (placed body i) = turnedBone body i := by
  have hroot := unitQuat_qRoot body
  have hanchor := unitQuat_anchorQuat body
  cases hp : kSmplXParents i with
  | none =>
    simp only [placed, turnedBone, hp]
    exact (rotMap (quatConjugate (anchorQuat body))).map_zero
  | some p =>
    simp only [placed, turnedBone, hp]
    have hcancel : quatMul (quatConjugate (anchorQuat body)) (trackedRot body p) =
        quatMul kSmplBaseRot
          (quatMul (quatConjugate (globalRot body 0)) (globalRot body (owner p))) := by
      have hconj : quatConjugate (anchorQuat body) =
          quatMul kSmplBaseRot (quatConjugate (qRoot body)) := by
        apply quaternionOf_injective
        simp only [anchorQuat, quaternionOf_quatConjugate, quaternionOf_quatMul, star_mul,
          star_star]
      rw [hconj, trackedRot, quatMul_assoc, conjugate_mul_cancel hroot]
    rw [← quatRotate_quatMul hanchor.conjugate (h.trackedRot_unit p), hcancel]

/-- The anchor is the tracked one, up to the sign and what the logarithm rounds. -/
theorem Tracked.anchor_near (h : Tracked body) :
    ∃ p, SameUpToSign p (trackedAnchor body) ∧ quatNorm (anchorQuat body - p) ≤ 2e-12 := by
  have hunit : UnitQuat (globalRot body 0) := h.globalRot_unit (Nat.zero_le 21)
  have hlocal : localRot body 0 = globalRot body 0 := rfl
  refine ⟨quatMul (quatMul upright (canonical (globalRot body 0))) (quatConjugate kSmplBaseRot),
    ?_, ?_⟩
  · rcases canonical_same (globalRot body 0) with heq | heq
    · exact Or.inl (by rw [heq, trackedAnchor])
    · exact Or.inr (by rw [heq, quatMul_neg_right, quatMul_neg_left, trackedAnchor])
  · have hsub : quaternionOf (anchorQuat body - quatMul (quatMul upright
        (canonical (globalRot body 0))) (quatConjugate kSmplBaseRot)) =
        quaternionOf upright * quaternionOf (quatFromRotvec (rotvecFromQuat (globalRot body 0)) -
          canonical (globalRot body 0)) * quaternionOf (quatConjugate kSmplBaseRot) := by
      have hdiff : ∀ a b : Quat ℝ, quaternionOf (a - b) = quaternionOf a - quaternionOf b := by
        intro a b
        ext <;> simp
      rw [hdiff, hdiff, anchorQuat, qRoot, poseAa, hlocal, ← upright]
      simp only [quaternionOf_quatMul]
      noncomm_ring
    rw [quatNorm_eq, hsub, norm_mul, norm_mul, unitQuat_upright.norm_eq,
      unitQuat_baseRot.conjugate.norm_eq, one_mul, mul_one, ← quatNorm_eq]
    exact quatFromRotvec_near hunit

theorem quatNorm_conjugate_sub (a b : Quat ℝ) :
    quatNorm (quatConjugate a - quatConjugate b) = quatNorm (a - b) := by
  have hconj : quatConjugate a - quatConjugate b = quatConjugate (a - b) := by
    funext i
    fin_cases i
    · rfl
    · exact (neg_sub_neg _ _).trans (neg_sub _ _).symm
    · exact (neg_sub_neg _ _).trans (neg_sub _ _).symm
    · exact (neg_sub_neg _ _).trans (neg_sub _ _).symm
  rw [hconj, quatNorm_eq, quaternionOf_quatConjugate, norm_star, quatNorm_eq]

theorem quatConjugate_neg (q : Quat ℝ) : quatConjugate (-q) = -quatConjugate q := by
  funext i
  fin_cases i <;> rfl

theorem Tracked.rest_near (h : Tracked body) :
    vectorNorm (quatRotate (quatConjugate (anchorQuat body)) (kSmplXRestJoints 0) -
      quatRotate (quatConjugate (trackedAnchor body)) (kSmplXRestJoints 0)) ≤ 2e-12 := by
  obtain ⟨p, hsame, hnear⟩ := h.anchor_near
  have hunit : UnitQuat p := by
    rcases hsame with rfl | rfl
    · exact h.trackedAnchor_unit
    · exact h.trackedAnchor_unit.neg
  have hrotate : quatRotate (quatConjugate p) (kSmplXRestJoints 0) =
      quatRotate (quatConjugate (trackedAnchor body)) (kSmplXRestJoints 0) := by
    rcases hsame with rfl | rfl
    · rfl
    · rw [quatConjugate_neg, quatRotate_neg]
  have hrest : vectorNorm (kSmplXRestJoints 0) ≤ 0.5 := by
    apply vectorNorm_le (by norm_num)
    show (0.00312326057 : ℝ) * 0.00312326057 + -0.351407468 * -0.351407468 +
      0.0120365508 * 0.0120365508 ≤ 0.5 ^ 2
    norm_num
  have hturn := vectorNorm_quatRotate_sub (unitQuat_anchorQuat body).conjugate hunit.conjugate
    (kSmplXRestJoints 0)
  rw [quatNorm_conjugate_sub, hrotate] at hturn
  calc _ ≤ 2 * quatNorm (anchorQuat body - p) * vectorNorm (kSmplXRestJoints 0) := hturn
    _ ≤ 2 * 2e-12 * 0.5 := by
        apply mul_le_mul _ hrest (vectorNorm_nonneg _) (by norm_num)
        exact mul_le_mul_of_nonneg_left hnear zero_le_two
    _ = 2e-12 := by norm_num

theorem Tracked.joint_output_near (h : Tracked body) (k : Fin 24) :
    vectorNorm (jointsLocal body k - trackedJoint body (kSmplOutputJoints k)) ≤
      1.7e-5 * boneLength (kSmplOutputJoints k) + 2e-12 := by
  generalize hi : kSmplOutputJoints k = i
  have hchain := h.chain_near i
  have hrest := h.rest_near
  have hanchor := (unitQuat_anchorQuat body).conjugate
  have hlocal : jointsLocal body k - trackedJoint body i =
      quatRotate (quatConjugate (anchorQuat body)) (smplFkChain (fullPose body) i -
          (kSmplXRestJoints 0 + smplTree.total (placed body) i)) +
        (quatRotate (quatConjugate (anchorQuat body)) (kSmplXRestJoints 0) -
          quatRotate (quatConjugate (trackedAnchor body)) (kSmplXRestJoints 0)) := by
    have houtput : jointsLocal body k =
        quatRotate (quatConjugate (anchorQuat body)) (smplFkChain (fullPose body) i) := by
      rw [← hi]
      rfl
    rw [houtput, trackedJoint, quatRotate_sub, quatRotate_add, quatRotate_total]
    simp only [h.rotate_placed]
    abel
  rw [hlocal]
  refine (map_add_le_add lengthSeminorm _ _).trans (add_le_add ?_ hrest)
  exact (vectorNorm_quatRotate hanchor _).le.trans hchain

end

/-- **The kinematics follows the tracked orientations.** Where the stream's quaternions are not all
but zero, the anchor is the tracked root's orientation up to its sign, and every output joint is
where the skeleton has it whose bones are turned by the tracked orientations of their parents, within
17 millionths of the length of the bones on the way. -/
theorem smplFk_near_tracked (body : PicoVRBodyPose ℝ) (h : Tracked body) :
    (∃ p, SameUpToSign p (trackedAnchor body) ∧
        quatNorm ((smplFk body).anchorQuat - p) ≤ 2e-12) ∧
      ∀ k, vectorNorm ((smplFk body).jointsLocal k - trackedJoint body (kSmplOutputJoints k)) ≤
        1.7e-5 * boneLength (kSmplOutputJoints k) + 2e-12 :=
  ⟨h.anchor_near, h.joint_output_near⟩

/-- The operator standing in the rest pose. -/
def restSample : PicoVRBodyPose ℝ where
  joints _ := ![0, 0, 0, 0, 0, 0, 1]

theorem tracked_rest : Tracked restSample := by
  have hunit : ∀ i, streamQuat restSample i = ![1, 0, 0, 0] := fun _ => rfl
  intro i _
  rw [hunit, quatNorm_eq, unitQuat_one.norm_eq]
  norm_num

theorem smplFk_near_tracked_rest : Tracked restSample ∧
    ∀ k, vectorNorm ((smplFk restSample).jointsLocal k -
        trackedJoint restSample (kSmplOutputJoints k)) ≤
      1.7e-5 * boneLength (kSmplOutputJoints k) + 2e-12 :=
  ⟨tracked_rest, (smplFk_near_tracked restSample tracked_rest).2⟩

end SmplFk

end Gearsonic
