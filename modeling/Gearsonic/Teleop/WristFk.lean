import Gearsonic.Teleop.SmplHeading
import Gearsonic.Teleop.ThreePoint

/-!
# The wrist reference

`g1_wrist_fk` over all joint positions. The two arms are mirror images, but for the height of a
number in the shoulders, and the key frame moves with each joint by no more than the joint's lever.

* `wrist_mirror`: mirrored joints give the mirrored key frame of the other arm, off by 0.01 mm.
* `wrist_sensitivity`: the reach, and how far a change of the joints can move and turn the frame.
-/

namespace Gearsonic

open SmplFk (quatNorm_sub_le quatNorm_turn_sub quaternionOf_sub unitQuat_one
  unitQuat_quatFromAngleAxis)

namespace ThreePoint

variable {K : Type} [Field K]

/-! ## Mirror images -/

/-- The image in the plane between left and right. -/
def mirrorVec (v : Vec3 K) : Vec3 K := ![v 0, -v 1, v 2]

def mirrorQuat (q : Quat K) : Quat K := ![q 0, -q 1, q 2, -q 3]

/-- The other side's joints; roll and yaw joints turn the other way. -/
def mirrorJoints (q : Joints K) : Joints K :=
  ![q 6, -q 7, -q 8, q 9, q 10, -q 11,
    q 0, -q 1, -q 2, q 3, q 4, -q 5,
    -q 12, -q 13, q 14,
    q 22, -q 23, -q 24, q 25, -q 26, q 27, -q 28,
    q 15, -q 16, -q 17, q 18, -q 19, q 20, -q 21]

theorem mirrorVec_add (v w : Vec3 ℝ) : mirrorVec (v + w) = mirrorVec v + mirrorVec w := by
  ext i
  fin_cases i
  all_goals
    simp [mirrorVec]
  ring

theorem quatMul_mirror (a b : Quat ℝ) :
    quatMul (mirrorQuat a) (mirrorQuat b) = mirrorQuat (quatMul a b) := by
  have hmul : ∀ p q : Quat ℝ, ∀ i, quatMul p q i =
      ![(quaternionOf p * quaternionOf q).re, (quaternionOf p * quaternionOf q).imI,
        (quaternionOf p * quaternionOf q).imJ, (quaternionOf p * quaternionOf q).imK] i := by
    intro p q i
    rw [← quaternionOf_quatMul]
    fin_cases i <;> rfl
  ext i
  rw [hmul]
  fin_cases i <;> simp [mirrorQuat, hmul] <;> ring

theorem quatRotate_mirror (q : Quat ℝ) (v : Vec3 ℝ) :
    quatRotate (mirrorQuat q) (mirrorVec v) = mirrorVec (quatRotate q v) := by
  ext i
  fin_cases i
  all_goals
    simp [mirrorQuat, mirrorVec, quatRotate]
    norm_num
    ring

/-- A mirrored turn is the opposite turn about the mirrored axis. -/
theorem quatFromAngleAxis_mirror (angle : ℝ) {v : Vec3 ℝ}
    (h : v 0 * v 0 + v 1 * v 1 + v 2 * v 2 = 1) :
    quatFromAngleAxis (-angle) (mirrorVec v) = mirrorQuat (quatFromAngleAxis angle v) := by
  have hmirror : mirrorVec v 0 * mirrorVec v 0 + mirrorVec v 1 * mirrorVec v 1 +
      mirrorVec v 2 * mirrorVec v 2 = 1 := by
    simpa [mirrorVec] using h
  rw [quatFromAngleAxis_eq _ h, quatFromAngleAxis_eq _ hmirror, neg_div, Real.cos_neg, Real.sin_neg]
  ext i
  fin_cases i <;> simp [mirrorVec, mirrorQuat]

theorem quatFromAngleAxis_neg_neg (angle : ℝ) {v : Vec3 ℝ}
    (h : v 0 * v 0 + v 1 * v 1 + v 2 * v 2 = 1) :
    quatFromAngleAxis (-angle) (-v) = quatFromAngleAxis angle v := by
  have hneg : (-v) 0 * (-v) 0 + (-v) 1 * (-v) 1 + (-v) 2 * (-v) 2 = 1 := by
    simpa using h
  rw [quatFromAngleAxis_eq _ h, quatFromAngleAxis_eq _ hneg, neg_div, Real.cos_neg, Real.sin_neg]
  ext i
  fin_cases i <;> simp

/-! ## Mirrored chains -/

/-- Two links that are mirror images, joint positions included; the second one's origin is off by
`shift`. -/
structure MirrorsLink (q q' : Joints ℝ) (shift : Vec3 ℝ) (a b : Link ℝ) : Prop where
  xyz : b.xyz = mirrorVec a.xyz + shift
  rpy : rpyToQuat b.rpy = mirrorQuat (rpyToQuat a.rpy)
  turn : quatFromAngleAxis (q' b.qIdx) b.axis = mirrorQuat (quatFromAngleAxis (q a.qIdx) a.axis)

structure Mirrors (shift : Vec3 ℝ) (a b : G1WristPose ℝ) : Prop where
  position : b.position = mirrorVec a.position + shift
  quaternion : b.quaternion = mirrorQuat a.quaternion

variable {q q' : Joints ℝ} {shift shift' : Vec3 ℝ} {a b : G1WristPose ℝ} {l m : Link ℝ}

theorem Mirrors.link (h : Mirrors shift a b) (hl : MirrorsLink q q' shift' l m) :
    Mirrors (shift + quatRotate b.quaternion shift') (fkLink q a l) (fkLink q' b m) where
  position := by
    show b.position + quatRotate b.quaternion m.xyz =
      mirrorVec (a.position + quatRotate a.quaternion l.xyz) +
        (shift + quatRotate b.quaternion shift')
    rw [hl.xyz, quatRotate_add, h.position, h.quaternion, quatRotate_mirror, mirrorVec_add]
    abel
  quaternion := by
    show quatMul (quatMul b.quaternion _) _ = mirrorQuat (quatMul (quatMul a.quaternion _) _)
    rw [h.quaternion, hl.rpy, hl.turn, quatMul_mirror, quatMul_mirror]

theorem Mirrors.chain {links links' : List (Link ℝ)} (h : Mirrors shift a b)
    (hl : List.Forall₂ (MirrorsLink q q' 0) links links') :
    Mirrors shift (links.foldl (fkLink q) a) (links'.foldl (fkLink q') b) := by
  induction hl generalizing a b with
  | nil => exact h
  | @cons l m links links' hlm _ ih =>
    have hlink := h.link hlm
    have hzero : quatRotate b.quaternion 0 = 0 := by
      have hsub := quatRotate_sub b.quaternion 0 0
      rwa [sub_self, sub_self] at hsub
    rw [hzero, add_zero] at hlink
    exact ih hlink

/-- A link whose numbers are the mirrored ones. -/
theorem mirrorsLink_of_numbers (hxyz : m.xyz = mirrorVec l.xyz + shift)
    (hrpy : m.rpy = ![-l.rpy 0, l.rpy 1, -l.rpy 2]) (haxis : m.axis = l.axis)
    (hturn : l.axis = ![0, 1, 0] ∧ q' m.qIdx = q l.qIdx ∨
      (l.axis = ![1, 0, 0] ∨ l.axis = ![0, 0, 1]) ∧ q' m.qIdx = -q l.qIdx) :
    MirrorsLink q q' shift l m where
  xyz := hxyz
  rpy := by
    have hx := quatFromAngleAxis_mirror (l.rpy 0) (v := ![1, 0, 0]) (by simp)
    have hy := quatFromAngleAxis_mirror (l.rpy 1) (v := ![0, 1, 0]) (by simp)
    have hz := quatFromAngleAxis_mirror (l.rpy 2) (v := ![0, 0, 1]) (by simp)
    have hyneg := quatFromAngleAxis_neg_neg (l.rpy 1) (v := ![0, 1, 0]) (by simp)
    rw [rpyToQuat, rpyToQuat, hrpy, ← quatMul_mirror, ← quatMul_mirror, ← hx, ← hy, ← hz]
    simp [mirrorVec] at hyneg ⊢
    rw [hyneg]
  turn := by
    rw [haxis]
    rcases hturn with ⟨hy, hq⟩ | ⟨hx | hz, hq⟩
    · have hyneg := quatFromAngleAxis_neg_neg (q l.qIdx) (v := ![0, 1, 0]) (by simp)
      rw [hy, hq, ← quatFromAngleAxis_mirror _ (by simp)]
      simp [mirrorVec] at hyneg ⊢
      rw [hyneg]
    · rw [hx, hq, ← quatFromAngleAxis_mirror _ (by simp)]
      simp [mirrorVec]
    · rw [hz, hq, ← quatFromAngleAxis_mirror _ (by simp)]
      simp [mirrorVec]

/-! ## The two arms -/

def chain (left : Bool) : List (Link K) := if left then kLeftChain else kRightChain

def keyOffset (left : Bool) : Vec3 K := if left then kLeftOffset else kRightOffset

/-- How far the numbers of a shoulder are from the mirrored ones of the other. -/
def shoulderShift : Vec3 K := ![0, 0.00001, 0]

theorem vec_two (x y z : ℝ) : (![x, y, z] : Vec3 ℝ) 2 = z := rfl

theorem waist_mirror (q : Joints ℝ) (left : Bool) :
    List.Forall₂ (MirrorsLink q (mirrorJoints q) 0) ((chain left).take 3)
      ((chain !left).take 3) := by
  cases left
  all_goals
    refine .cons (mirrorsLink_of_numbers ?_ ?_ rfl (Or.inr ⟨Or.inr ?_, rfl⟩))
      (.cons (mirrorsLink_of_numbers ?_ ?_ rfl (Or.inr ⟨Or.inl ?_, rfl⟩))
        (.cons (mirrorsLink_of_numbers ?_ ?_ rfl (Or.inl ⟨?_, rfl⟩)) .nil))
  all_goals norm_num [mirrorVec, vec_two]

theorem exists_shoulder (q : Joints ℝ) (left : Bool) :
    ∃ l m : Link ℝ, chain left = (chain left).take 3 ++ l :: (chain left).drop 4 ∧
      (chain !left) = (chain !left).take 3 ++ m :: (chain !left).drop 4 ∧
        MirrorsLink q (mirrorJoints q) shoulderShift l m := by
  cases left
  all_goals
    refine ⟨_, _, rfl, rfl, mirrorsLink_of_numbers ?_ ?_ rfl (Or.inl ⟨?_, rfl⟩)⟩
  all_goals norm_num [mirrorVec, shoulderShift, vec_two]

theorem arm_mirror (q : Joints ℝ) (left : Bool) :
    List.Forall₂ (MirrorsLink q (mirrorJoints q) 0) ((chain left).drop 4)
      ((chain !left).drop 4) := by
  cases left
  all_goals
    refine .cons (mirrorsLink_of_numbers ?_ ?_ rfl (Or.inr ⟨Or.inl ?_, rfl⟩))
      (.cons (mirrorsLink_of_numbers ?_ ?_ rfl (Or.inr ⟨Or.inr ?_, rfl⟩))
        (.cons (mirrorsLink_of_numbers ?_ ?_ rfl (Or.inl ⟨?_, rfl⟩))
          (.cons (mirrorsLink_of_numbers ?_ ?_ rfl (Or.inr ⟨Or.inl ?_, rfl⟩))
            (.cons (mirrorsLink_of_numbers ?_ ?_ rfl (Or.inl ⟨?_, rfl⟩))
              (.cons (mirrorsLink_of_numbers ?_ ?_ rfl (Or.inr ⟨Or.inr ?_, rfl⟩)) .nil)))))
  all_goals norm_num [mirrorVec, vec_two]

theorem keyOffset_mirror (left : Bool) :
    keyOffset (!left) = mirrorVec (keyOffset left : Vec3 ℝ) := by
  cases left
  all_goals norm_num [keyOffset, kLeftOffset, kRightOffset, mirrorVec, vec_two]

/-! ## Unit quaternions -/

def UnitAxis (l : Link ℝ) : Prop :=
  l.axis 0 * l.axis 0 + l.axis 1 * l.axis 1 + l.axis 2 * l.axis 2 = 1

theorem unitAxis_chain (left : Bool) : ∀ l ∈ chain left, UnitAxis l := by
  have haxis : ∀ l ∈ chain (K := ℝ) left,
      l.axis = ![1, 0, 0] ∨ l.axis = ![0, 1, 0] ∨ l.axis = ![0, 0, 1] := by
    cases left
    all_goals
      simp only [chain, kLeftChain, kRightChain, List.forall_mem_cons, Bool.false_eq_true, if_true,
        if_false, List.not_mem_nil, false_implies, implies_true]
      norm_num
  intro l hl
  unfold UnitAxis
  rcases haxis l hl with h | h | h <;> rw [h] <;> norm_num [vec_two]

/-- The turn of a link. -/
noncomputable def linkTurn (q : Joints ℝ) (l : Link ℝ) : Quat ℝ :=
  quatMul (rpyToQuat l.rpy) (quatFromAngleAxis (q l.qIdx) l.axis)

theorem unitQuat_rpyToQuat (rpy : Vec3 ℝ) : UnitQuat (rpyToQuat rpy) := by
  unfold rpyToQuat
  exact (unitQuat_quatFromAngleAxis _ (by simp)).mul
    ((unitQuat_quatFromAngleAxis _ (by simp)).mul (unitQuat_quatFromAngleAxis _ (by simp)))

theorem unitQuat_linkTurn (q : Joints ℝ) (hl : UnitAxis l) : UnitQuat (linkTurn q l) :=
  (unitQuat_rpyToQuat l.rpy).mul (unitQuat_quatFromAngleAxis _ hl)

theorem fkLink_quaternion (q : Joints ℝ) (a : G1WristPose ℝ) (l : Link ℝ) :
    (fkLink q a l).quaternion = quatMul a.quaternion (linkTurn q l) :=
  quatMul_assoc _ _ _

theorem unitQuat_foldl (q : Joints ℝ) {links : List (Link ℝ)} (hl : ∀ l ∈ links, UnitAxis l)
    (ha : UnitQuat a.quaternion) : UnitQuat (links.foldl (fkLink q) a).quaternion := by
  induction links generalizing a with
  | nil => exact ha
  | cons l links ih =>
    obtain ⟨hfirst, hrest⟩ := List.forall_mem_cons.mp hl
    apply ih hrest
    rw [fkLink_quaternion]
    exact ha.mul (unitQuat_linkTurn q hfirst)

/-! ## The mirror -/

/-- The pelvis. -/
def pelvis : G1WristPose K := ⟨![0, 0, 0], ![1, 0, 0, 0]⟩

theorem g1WristFk_position (q : Joints ℝ) (left : Bool) :
    (g1WristFk q left).position = ((chain left).foldl (fkLink q) pelvis).position +
      quatRotate (g1WristFk q left).quaternion (keyOffset left) := rfl

/-- **The arms are mirror images.** Mirrored joint positions give the mirrored key frame of the
other arm: the same orientation, and a position that is off by the 0.01 mm between the numbers of
the two shoulders, whatever the joints. -/
theorem wrist_mirror (q : Joints ℝ) (left : Bool) :
    (g1WristFk (mirrorJoints q) !left).quaternion = mirrorQuat (g1WristFk q left).quaternion ∧
      vectorNorm ((g1WristFk (mirrorJoints q) !left).position -
        mirrorVec (g1WristFk q left).position) = 0.00001 := by
  have hpelvis : Mirrors 0 pelvis pelvis := by
    constructor
    · norm_num [pelvis, mirrorVec, vec_two]
    · ext i
      fin_cases i <;> simp [pelvis, mirrorQuat]
  obtain ⟨l, m, hl, hm, hlm⟩ := exists_shoulder q left
  have hfold := ((hpelvis.chain (waist_mirror q left)).link hlm).chain (arm_mirror q left)
  have hunit : UnitQuat (((chain !left).take 3).foldl (fkLink (mirrorJoints q)) pelvis).quaternion :=
    unitQuat_foldl _ (fun l hl => unitAxis_chain _ l (List.mem_of_mem_take hl)) unitQuat_one
  rw [← List.foldl_cons, ← List.foldl_append, ← hl, ← List.foldl_cons, ← List.foldl_append, ← hm]
    at hfold
  have hquaternion : (g1WristFk (mirrorJoints q) !left).quaternion =
      mirrorQuat (g1WristFk q left).quaternion := hfold.quaternion
  refine ⟨hquaternion, ?_⟩
  rw [g1WristFk_position, g1WristFk_position, hfold.position, hquaternion, keyOffset_mirror,
    quatRotate_mirror, mirrorVec_add]
  have hshift : ∀ x y z : Vec3 ℝ, x + (0 + y) + z - (x + z) = y := by
    intro x y z
    abel
  rw [hshift, vectorNorm_quatRotate hunit]
  have hlength : (0.00001 : ℝ) = √(0.00001 * 0.00001) := (Real.sqrt_mul_self (by norm_num)).symm
  rw [hlength, vectorNorm]
  norm_num [shoulderShift, vec_two]

/-! ## Levers -/

/-- The key frame's origin, as the frame in front of these links sees it. -/
noncomputable def tip (q : Joints ℝ) (offset : Vec3 ℝ) : List (Link ℝ) → Vec3 ℝ
  | [] => offset
  | l :: links => l.xyz + quatRotate (linkTurn q l) (tip q offset links)

/-- The length of the stretched chain. -/
noncomputable def span (offset : Vec3 ℝ) : List (Link ℝ) → ℝ
  | [] => vectorNorm offset
  | l :: links => vectorNorm l.xyz + span offset links

/-- Each joint's change times its lever, the chain behind it. -/
noncomputable def swing (q q' : Joints ℝ) (offset : Vec3 ℝ) : List (Link ℝ) → ℝ
  | [] => 0
  | l :: links => span offset links * |q l.qIdx - q' l.qIdx| + swing q q' offset links

theorem foldl_tip (q : Joints ℝ) (offset : Vec3 ℝ) {links : List (Link ℝ)}
    (hl : ∀ l ∈ links, UnitAxis l) {a : G1WristPose ℝ} (ha : UnitQuat a.quaternion) :
    (links.foldl (fkLink q) a).position +
        quatRotate (links.foldl (fkLink q) a).quaternion offset =
      a.position + quatRotate a.quaternion (tip q offset links) := by
  induction links generalizing a with
  | nil => rfl
  | cons l links ih =>
    obtain ⟨hfirst, hrest⟩ := List.forall_mem_cons.mp hl
    have hturn := unitQuat_linkTurn q hfirst
    have hnext : UnitQuat (fkLink q a l).quaternion := by
      rw [fkLink_quaternion]
      exact ha.mul hturn
    rw [List.foldl_cons, ih hrest hnext, fkLink_quaternion, quatRotate_quatMul ha hturn, tip,
      quatRotate_add, ← add_assoc]
    rfl

theorem vectorNorm_add_le (v w : Vec3 ℝ) : vectorNorm (v + w) ≤ vectorNorm v + vectorNorm w :=
  map_add_le_add lengthSeminorm v w

theorem vectorNorm_tip (q : Joints ℝ) (offset : Vec3 ℝ) {links : List (Link ℝ)}
    (hl : ∀ l ∈ links, UnitAxis l) : vectorNorm (tip q offset links) ≤ span offset links := by
  induction links with
  | nil => exact le_rfl
  | cons l links ih =>
    obtain ⟨hfirst, hrest⟩ := List.forall_mem_cons.mp hl
    refine (vectorNorm_add_le _ _).trans (add_le_add_right ?_ _)
    rw [vectorNorm_quatRotate (unitQuat_linkTurn q hfirst)]
    exact ih hrest

/-- Two turns about one axis are apart by at most half of what the angles are. -/
theorem quatNorm_turn_le (angle angle' : ℝ) {v : Vec3 ℝ}
    (h : v 0 * v 0 + v 1 * v 1 + v 2 * v 2 = 1) :
    quatNorm (quatFromAngleAxis angle v - quatFromAngleAxis angle' v) ≤ |angle - angle'| / 2 := by
  rw [quatFromAngleAxis_eq _ h, quatFromAngleAxis_eq _ h]
  have hcos := Real.one_sub_sq_div_two_le_cos (x := (angle - angle') / 2)
  have hdiff : (angle - angle') / 2 = angle / 2 - angle' / 2 := by ring
  rw [hdiff, Real.cos_sub] at hcos
  have hone := Real.sin_sq_add_cos_sq (angle / 2)
  have hone' := Real.sin_sq_add_cos_sq (angle' / 2)
  apply Real.sqrt_le_iff.mpr
  refine ⟨by positivity, ?_⟩
  rw [div_pow, sq_abs]
  show (Real.cos (angle / 2) - Real.cos (angle' / 2)) *
      (Real.cos (angle / 2) - Real.cos (angle' / 2)) +
      (v 0 * Real.sin (angle / 2) - v 0 * Real.sin (angle' / 2)) *
        (v 0 * Real.sin (angle / 2) - v 0 * Real.sin (angle' / 2)) +
      (v 1 * Real.sin (angle / 2) - v 1 * Real.sin (angle' / 2)) *
        (v 1 * Real.sin (angle / 2) - v 1 * Real.sin (angle' / 2)) +
      (v 2 * Real.sin (angle / 2) - v 2 * Real.sin (angle' / 2)) *
        (v 2 * Real.sin (angle / 2) - v 2 * Real.sin (angle' / 2)) ≤ _
  have hsplit : ∀ c c' s s' : ℝ, (c - c') * (c - c') + (v 0 * s - v 0 * s') * (v 0 * s - v 0 * s') +
      (v 1 * s - v 1 * s') * (v 1 * s - v 1 * s') + (v 2 * s - v 2 * s') * (v 2 * s - v 2 * s') =
        (s ^ 2 + c ^ 2) + (s' ^ 2 + c' ^ 2) - 2 * (c * c' + s * s') := by
    intro c c' s s'
    linear_combination (s - s') ^ 2 * h
  rw [hsplit, hone, hone']
  nlinarith [hcos]

theorem quatNorm_linkTurn_le (q q' : Joints ℝ) (hl : UnitAxis l) :
    quatNorm (linkTurn q l - linkTurn q' l) ≤ |q l.qIdx - q' l.qIdx| / 2 := by
  unfold linkTurn
  rw [quatNorm_turn_sub (unitQuat_rpyToQuat l.rpy)]
  exact quatNorm_turn_le _ _ hl

/-- **A joint moves the tip by its lever at most.** -/
theorem vectorNorm_tip_sub (q q' : Joints ℝ) (offset : Vec3 ℝ) {links : List (Link ℝ)}
    (hl : ∀ l ∈ links, UnitAxis l) :
    vectorNorm (tip q offset links - tip q' offset links) ≤ swing q q' offset links := by
  induction links with
  | nil =>
    simp [tip, swing, vectorNorm]
  | cons l links ih =>
    obtain ⟨hfirst, hrest⟩ := List.forall_mem_cons.mp hl
    have hturn := unitQuat_linkTurn q hfirst
    have hturn' := unitQuat_linkTurn q' hfirst
    -- the rest of the chain moves, and the joint turns it
    have hsplit : tip q offset (l :: links) - tip q' offset (l :: links) =
        (quatRotate (linkTurn q l) (tip q offset links) -
            quatRotate (linkTurn q' l) (tip q offset links)) +
          quatRotate (linkTurn q' l) (tip q offset links - tip q' offset links) := by
      rw [quatRotate_sub, tip, tip]
      abel
    have hmoved : vectorNorm (quatRotate (linkTurn q l) (tip q offset links) -
        quatRotate (linkTurn q' l) (tip q offset links)) ≤
          span offset links * |q l.qIdx - q' l.qIdx| := by
      calc _ ≤ 2 * quatNorm (linkTurn q l - linkTurn q' l) * vectorNorm (tip q offset links) :=
            vectorNorm_quatRotate_sub hturn hturn' _
        _ ≤ 2 * (|q l.qIdx - q' l.qIdx| / 2) * span offset links := by
            gcongr
            · exact vectorNorm_nonneg _
            · exact quatNorm_linkTurn_le q q' hfirst
            · exact vectorNorm_tip q offset hrest
        _ = span offset links * |q l.qIdx - q' l.qIdx| := by ring
    rw [hsplit]
    refine (vectorNorm_add_le _ _).trans (add_le_add hmoved ?_)
    rw [vectorNorm_quatRotate hturn']
    exact ih hrest

theorem quatNorm_mul_sub_le {x y : Quat ℝ} (hx : UnitQuat x) {c d : Quat ℝ} (hd : UnitQuat d) :
    quatNorm (quatMul c x - quatMul d y) ≤ quatNorm (c - d) + quatNorm (x - y) := by
  refine (quatNorm_sub_le _ (quatMul d x) _).trans (add_le_add (le_of_eq ?_) (le_of_eq ?_))
  · rw [quatNorm_eq, quaternionOf_sub, quaternionOf_quatMul, quaternionOf_quatMul, ← sub_mul,
      norm_mul, hx.norm_eq, mul_one, ← quaternionOf_sub, quatNorm_eq]
  · exact quatNorm_turn_sub hd x y

/-- A joint turns the frame by its own change at most. -/
theorem quatNorm_foldl_sub (q q' : Joints ℝ) {links : List (Link ℝ)}
    (hl : ∀ l ∈ links, UnitAxis l) {a b : G1WristPose ℝ} (hb : UnitQuat b.quaternion) :
    quatNorm ((links.foldl (fkLink q) a).quaternion - (links.foldl (fkLink q') b).quaternion) ≤
      quatNorm (a.quaternion - b.quaternion) +
        (links.map fun l => |q l.qIdx - q' l.qIdx| / 2).sum := by
  induction links generalizing a b with
  | nil => simp
  | cons l links ih =>
    obtain ⟨hfirst, hrest⟩ := List.forall_mem_cons.mp hl
    have hnext : UnitQuat (fkLink q' b l).quaternion := by
      rw [fkLink_quaternion]
      exact hb.mul (unitQuat_linkTurn q' hfirst)
    have hlink : quatNorm ((fkLink q a l).quaternion - (fkLink q' b l).quaternion) ≤
        quatNorm (a.quaternion - b.quaternion) + |q l.qIdx - q' l.qIdx| / 2 := by
      rw [fkLink_quaternion, fkLink_quaternion]
      exact (quatNorm_mul_sub_le (unitQuat_linkTurn q hfirst) hb).trans
        (add_le_add_right (quatNorm_linkTurn_le q q' hfirst) _)
    rw [List.foldl_cons, List.foldl_cons, List.map_cons, List.sum_cons]
    have hih := ih hrest (a := fkLink q a l) hnext
    linarith

/-! ## The numbers of the chains -/

/-- Upper bounds of the links' lengths. -/
def linkLengths : List ℝ :=
  [0, 0.0353, 0.019, 0.2581, 0.0405, 0.1034, 0.0821, 0.1006, 0.038, 0.046]

/-- The levers of a chain with these lengths. -/
def levers (offset : ℝ) : List ℝ → List ℝ
  | [] => []
  | _ :: lengths => (lengths.sum + offset) :: levers offset lengths

theorem chain_lengths (left : Bool) :
    List.Forall₂ (fun (l : Link ℝ) b => vectorNorm l.xyz ≤ b) (chain left) linkLengths := by
  cases left
  all_goals
    simp only [chain, kLeftChain, kRightChain, linkLengths, Bool.false_eq_true, if_true, if_false,
      List.forall₂_cons, List.forall₂_nil_left_iff, and_true]
    refine ⟨?_, ?_, ?_, ?_, ?_, ?_, ?_, ?_, ?_, ?_⟩
  all_goals
    apply vectorNorm_le
    · norm_num
    · norm_num [vec_two]

theorem keyOffset_length (left : Bool) : vectorNorm (keyOffset left) ≤ 0.1818 := by
  apply vectorNorm_le
  · norm_num
  · cases left <;> norm_num [keyOffset, kLeftOffset, kRightOffset, vec_two]

theorem span_le {offset : Vec3 ℝ} {c : ℝ} (hc : vectorNorm offset ≤ c) {links : List (Link ℝ)}
    {lengths : List ℝ} (h : List.Forall₂ (fun l b => vectorNorm l.xyz ≤ b) links lengths) :
    span offset links ≤ lengths.sum + c := by
  induction h with
  | nil => simpa [span] using hc
  | cons hl _ ih =>
    rw [span, List.sum_cons]
    linarith

theorem swing_le (q q' : Joints ℝ) {offset : Vec3 ℝ} {c : ℝ} (hc : vectorNorm offset ≤ c)
    {links : List (Link ℝ)} {lengths : List ℝ}
    (h : List.Forall₂ (fun l b => vectorNorm l.xyz ≤ b) links lengths) :
    swing q q' offset links ≤ (List.zipWith (fun lever l => lever * |q l.qIdx - q' l.qIdx|)
      (levers c lengths) links).sum := by
  induction h with
  | nil => exact le_rfl
  | cons _ hrest ih =>
    rw [swing, levers, List.zipWith_cons_cons, List.sum_cons]
    exact add_le_add (mul_le_mul_of_nonneg_right (span_le hc hrest) (abs_nonneg _)) ih

/-! ## The sensitivity -/

/-- The chain's joints, from the waist to the wrist. -/
def chainJoint (left : Bool) : Fin 10 → Fin 29 :=
  if left then ![12, 13, 14, 15, 16, 17, 18, 19, 20, 21]
  else ![12, 13, 14, 22, 23, 24, 25, 26, 27, 28]

/-- How far the key frame is from each joint at most, in metres. -/
def jointLever : Fin 10 → K :=
  ![0.905, 0.870, 0.851, 0.593, 0.552, 0.449, 0.367, 0.266, 0.228, 0.182]

/-- Longer levers swing further. -/
theorem zipWith_lever_le (q q' : Joints ℝ) {xs ys : List ℝ} (h : List.Forall₂ (· ≤ ·) xs ys)
    (links : List (Link ℝ)) :
    (List.zipWith (fun lever l => lever * |q l.qIdx - q' l.qIdx|) xs links).sum ≤
      (List.zipWith (fun lever l => lever * |q l.qIdx - q' l.qIdx|) ys links).sum := by
  induction h generalizing links with
  | nil => exact le_rfl
  | cons hle _ ih =>
    cases links with
    | nil => exact le_rfl
    | cons l links =>
      rw [List.zipWith_cons_cons, List.zipWith_cons_cons, List.sum_cons, List.sum_cons]
      exact add_le_add (mul_le_mul_of_nonneg_right hle (abs_nonneg _)) (ih links)

theorem swing_chain_le (q q' : Joints ℝ) (left : Bool) :
    swing q q' (keyOffset left) (chain left) ≤
      ∑ k, jointLever k * |q (chainJoint left k) - q' (chainJoint left k)| := by
  have hlevers : List.Forall₂ (· ≤ ·) (levers 0.1818 linkLengths)
      [0.905, 0.870, 0.851, 0.593, 0.552, 0.449, 0.367, 0.266, 0.228, 0.182] := by
    norm_num [levers, linkLengths]
  calc swing q q' (keyOffset left) (chain left)
      ≤ (List.zipWith (fun lever l => lever * |q l.qIdx - q' l.qIdx|)
          (levers 0.1818 linkLengths) (chain left)).sum :=
        swing_le q q' (keyOffset_length left) (chain_lengths left)
    _ ≤ (List.zipWith (fun lever l => lever * |q l.qIdx - q' l.qIdx|)
          [0.905, 0.870, 0.851, 0.593, 0.552, 0.449, 0.367, 0.266, 0.228, 0.182]
          (chain left)).sum := zipWith_lever_le q q' hlevers (chain left)
    _ = ∑ k, jointLever k * |q (chainJoint left k) - q' (chainJoint left k)| := by
        rw [Fin.sum_univ_def]
        cases left <;> rfl

/-- **Reach and sensitivity.** For all joint positions the key frame is a proper one, within reach;
and from one joint vector to another it moves by no more than each joint's change times the joint's
lever, and turns by no more than the changes of the joints together. -/
theorem wrist_sensitivity (q q' : Joints ℝ) (left : Bool) :
    UnitQuat (g1WristFk q left).quaternion ∧
      vectorNorm (g1WristFk q left).position ≤ 0.905 ∧
      vectorNorm ((g1WristFk q left).position - (g1WristFk q' left).position) ≤
        ∑ k, jointLever k * |q (chainJoint left k) - q' (chainJoint left k)| ∧
      quatNorm ((g1WristFk q left).quaternion - (g1WristFk q' left).quaternion) ≤
        ∑ k, |q (chainJoint left k) - q' (chainJoint left k)| / 2 := by
  have haxis := unitAxis_chain left
  have hpelvis : UnitQuat (pelvis : G1WristPose ℝ).quaternion := unitQuat_one
  have htip : ∀ q : Joints ℝ, (g1WristFk q left).position =
      (pelvis : G1WristPose ℝ).position +
        quatRotate (pelvis : G1WristPose ℝ).quaternion (tip q (keyOffset left) (chain left)) :=
    fun q => foldl_tip q (keyOffset left) haxis hpelvis
  have hstart : (pelvis : G1WristPose ℝ).position = 0 := by
    ext i
    fin_cases i <;> rfl
  refine ⟨unitQuat_foldl q haxis hpelvis, ?_, ?_, ?_⟩
  · rw [htip, hstart, zero_add, vectorNorm_quatRotate hpelvis]
    refine (vectorNorm_tip q _ haxis).trans
      ((span_le (keyOffset_length left) (chain_lengths left)).trans ?_)
    norm_num [linkLengths]
  · rw [htip, htip, add_sub_add_left_eq_sub, ← quatRotate_sub, vectorNorm_quatRotate hpelvis]
    exact (vectorNorm_tip_sub q q' _ haxis).trans (swing_chain_le q q' left)
  · have hfold := quatNorm_foldl_sub q q' haxis (a := pelvis) hpelvis
    have hzero : quatNorm 0 = 0 := by simp [quatNorm]
    rw [sub_self, hzero, zero_add] at hfold
    refine hfold.trans ?_
    rw [Fin.sum_univ_def]
    cases left <;> exact le_rfl

end ThreePoint

end Gearsonic
