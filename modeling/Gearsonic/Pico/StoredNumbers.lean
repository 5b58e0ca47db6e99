import Gearsonic.Pico.MalformedInput

/-!
# The numbers that a headset message stores

Where the numbers of the two headset buffers come from, for any property `P` of numbers that
zero has: those of a body pose from the number texts of its joints, those of a controller
sample from the JSON value.

* `bodyBlock_error_iff`: the body block is dropped exactly if a joint cannot be read.
* `bodyBlock_forall`: the stored pose has the property exactly if every number text has it.
* `controllerBlock_forall`: a controller sample has it where the JSON value has it.
-/

set_option linter.unusedSectionVars false

namespace Gearsonic

namespace Json

variable {N : Type}

/-- The value contains the number. -/
inductive HasNumber : Json N → N → Prop where
  | here (x : N) : HasNumber (.number x) x
  | item {items : List (Json N)} {j : Json N} {x : N} (hj : j ∈ items) (hx : HasNumber j x) :
      HasNumber (.array items) x
  | field {fields : List (String × Json N)} {f : String × Json N} {x : N} (hf : f ∈ fields)
      (hx : HasNumber f.2 x) : HasNumber (.object fields) x

theorem HasNumber.of_find? {j v : Json N} {key : String} {x : N} (hfind : j.find? key = some v)
    (hx : HasNumber v x) : HasNumber j x := by
  cases j with
  | object fields =>
    obtain ⟨f, hf, rfl⟩ := Option.map_eq_some_iff.mp hfind
    exact .field (List.mem_of_find?_eq_some hf) hx
  | _ => cases hfind

theorem HasNumber.of_subscript {j v : Json N} {key : String} {x : N}
    (hsub : j.subscript key = .ok v) (hx : HasNumber v x) : HasNumber j x := by
  cases j with
  | object fields =>
    cases hsub
    cases hfind : (Json.object fields).find? key with
    | some v =>
      rw [hfind] at hx
      exact .of_find? hfind hx
    | none =>
      rw [hfind] at hx
      cases hx
  | null =>
    cases hsub
    cases hx
  | _ => cases hsub

/-- `value(key, default)` gives the default or a number of the value. -/
theorem numberOr_cases {j : Json N} {key : String} {fallback y : N}
    (h : j.numberOr key fallback = .ok y) : y = fallback ∨ HasNumber j y := by
  unfold numberOr at h
  split at h
  · cases h
    exact Or.inl rfl
  · rename_i x hfind
    cases h
    exact Or.inr (.of_find? hfind (.here _))
  · cases h

end Json

/-- Every number of a controller sample. -/
structure PicoVRController.Forall {N : Type} (P : N → Prop) (c : PicoVRController N) : Prop where
  leftAxis : P c.leftAxis.1 ∧ P c.leftAxis.2
  rightAxis : P c.rightAxis.1 ∧ P c.rightAxis.2
  triggers : P c.leftTrigger ∧ P c.rightTrigger
  grips : P c.leftGrip ∧ P c.rightGrip

/-- Every number of a body pose. -/
def PicoVRBodyPose.Forall {N : Type} (P : N → Prop) (pose : PicoVRBodyPose N) : Prop :=
  ∀ j i, P (pose.joints j i)

namespace PicoVRReader

variable {N : Type} [Zero N] {lib : TextReaders N} {P : N → Prop}

/-- The text is refused by `std::stod`, or is read as a number with the property. -/
def TextReaders.ReadsIn (lib : TextReaders N) (P : N → Prop) (text : String) : Prop :=
  ∀ x, lib.stod text = .ok x → P x

/-! ## The body block -/

theorem parsePose_forall (h0 : P 0) {s : String} {pose : Fin 7 → N}
    (h : parsePose lib s = .ok pose) :
    (∀ i, P (pose i)) ↔ ∀ text ∈ poseTexts s, TextReaders.ReadsIn lib P text := by
  unfold parsePose at h
  cases htexts : (poseTexts s).mapM lib.stod with
  | error e =>
    rw [htexts] at h
    cases h
  | ok xs =>
    rw [htexts] at h
    cases h
    have hlen : xs.length ≤ 7 := by
      rw [Fallible.length_mapM htexts]
      unfold poseTexts
      rw [List.length_map]
      exact List.length_take_le _ _
    rw [Fallible.forall_getD_iff hlen h0, Fallible.forall_mapM_iff htexts]
    rfl

theorem parseJoint_forall (h0 : P 0) {joint : Json N} {pose : Fin 7 → N}
    (h : parseJoint lib joint = .ok pose) :
    (∀ i, P (pose i)) ↔ ∀ text ∈ jointTexts joint, TextReaders.ReadsIn lib P text := by
  unfold parseJoint at h
  unfold jointTexts
  cases hp : joint.find? "p" with
  | none =>
    rw [hp] at h
    cases h
    exact ⟨fun _ => by rintro text ⟨⟩, fun _ _ => h0⟩
  | some p =>
    rw [hp] at h
    cases p with
    | string s => exact parsePose_forall h0 h
    | _ => cases h

/-- The joint has a `p` that is no string, or one with a text that `std::stod` refuses. -/
def Unreadable (lib : TextReaders N) (joint : Json N) : Prop :=
  badJoint joint = true ∨ ∃ text ∈ jointTexts joint, ¬ TextReaders.Reads lib text

theorem parseJoint_ok_iff (joint : Json N) :
    (∃ pose, parseJoint lib joint = .ok pose) ↔ ¬ Unreadable lib joint := by
  unfold Unreadable
  rcases parseJoint_cases lib joint with
    ⟨hbad, hjoint⟩ | ⟨hgood, ⟨pose, hjoint, htexts⟩ | ⟨e, hjoint, htexts⟩⟩
  · constructor
    · rintro ⟨pose, hpose⟩
      rw [hjoint] at hpose
      cases hpose
    · exact fun hno => absurd (Or.inl hbad) hno
  · refine ⟨fun _ => ?_, fun _ => ⟨pose, hjoint⟩⟩
    rintro (hbad | ⟨text, htext, hrefused⟩)
    · exact Bool.noConfusion (hbad.symm.trans hgood)
    · exact hrefused (htexts text htext)
  · constructor
    · rintro ⟨pose, hpose⟩
      rw [hjoint] at hpose
      cases hpose
    · intro hno
      refine absurd (fun text htext => ?_) htexts
      by_contra hrefused
      exact hno (Or.inr ⟨text, htext, hrefused⟩)

/-- A joint of the body block cannot be read. -/
def BodyDropped (lib : TextReaders N) (value : Json N) : Prop :=
  ∃ joint ∈ (bodyJoints value).getD [], Unreadable lib joint

theorem bodyBlock_error_iff (value : Json N) :
    (∃ e, bodyBlock lib value = .error e) ↔ BodyDropped lib value := by
  unfold BodyDropped bodyBlock
  cases bodyJoints value with
  | none =>
    constructor
    · rintro ⟨e, he⟩
      cases he
    · rintro ⟨joint, hjoint, -⟩
      cases hjoint
  | some joints =>
    have hall := Fallible.mapM_ok_iff (f := parseJoint lib) (l := joints)
    dsimp only
    rw [Option.getD_some]
    cases hmap : joints.mapM (parseJoint lib) with
    | ok poses =>
      constructor
      · rintro ⟨e, he⟩
        cases he
      · rintro ⟨joint, hjoint, hunreadable⟩
        exact absurd hunreadable ((parseJoint_ok_iff joint).mp (hall.mp ⟨poses, hmap⟩ joint hjoint))
    | error e =>
      refine ⟨fun _ => ?_, fun _ => ⟨e, rfl⟩⟩
      by_contra hno
      obtain ⟨poses, hposes⟩ := hall.mpr fun joint hjoint =>
        (parseJoint_ok_iff joint).mpr fun hunreadable => hno ⟨joint, hjoint, hunreadable⟩
      rw [hmap] at hposes
      cases hposes

/-- What a body block stores has the property exactly if its number texts have it. -/
theorem bodyBlock_forall (h0 : P 0) {value : Json N} {stored : Option (PicoVRBodyPose N)}
    (h : bodyBlock lib value = .ok stored) :
    (∀ pose, stored = some pose → pose.Forall P) ↔
      ∀ joint ∈ (bodyJoints value).getD [], ∀ text ∈ jointTexts joint,
        TextReaders.ReadsIn lib P text := by
  unfold bodyBlock at h
  cases hjoints : bodyJoints value with
  | none =>
    rw [hjoints] at h
    cases h
    exact ⟨fun _ => by rintro joint ⟨⟩, fun _ => by rintro pose ⟨⟩⟩
  | some joints =>
    rw [hjoints] at h
    dsimp only at h
    cases hmap : joints.mapM (parseJoint lib) with
    | error e =>
      rw [hmap] at h
      cases h
    | ok poses =>
      rw [hmap] at h
      cases h
      have hlen : poses.length ≤ 24 := by
        rw [Fallible.length_mapM hmap]
        unfold bodyJoints at hjoints
        split at hjoints
        · cases hjoints
          exact List.length_take_le _ _
        · cases hjoints
      have hposes : (∀ pose ∈ poses, ∀ i, P (pose i)) ↔
          ∀ joint ∈ joints, ∀ text ∈ jointTexts joint, TextReaders.ReadsIn lib P text := by
        rw [Fallible.forall_mapM_iff hmap]
        have hok := Fallible.mapM_ok_iff.mp ⟨poses, hmap⟩
        constructor
        · intro hall joint hjoint
          obtain ⟨pose, hpose⟩ := hok joint hjoint
          exact (parseJoint_forall h0 hpose).mp (hall joint hjoint pose hpose)
        · intro hall joint hjoint pose hpose
          exact (parseJoint_forall h0 hpose).mpr (hall joint hjoint)
      have hdefault : ∀ i : Fin 7, P ((fun _ => 0 : Fin 7 → N) i) := fun _ => h0
      rw [Option.getD_some, ← hposes,
        ← Fallible.forall_getD_iff (P := fun pose => ∀ i, P (pose i)) hlen hdefault]
      constructor
      · exact fun hall => hall _ rfl
      · rintro hall pose ⟨⟩
        exact hall

/-! ## The controller block -/

theorem readHand_forall (h0 : P 0) {hand : Json N} (hv : ∀ x, hand.HasNumber x → P x)
    {sample : HandSample N} (h : readHand hand = .ok sample) :
    (P sample.axis.1 ∧ P sample.axis.2) ∧ P sample.trigger ∧ P sample.grip := by
  have hnumber : ∀ {key y}, hand.numberOr key 0 = .ok y → P y := by
    intro key y hy
    rcases Json.numberOr_cases hy with rfl | hmem
    · exact h0
    · exact hv y hmem
  unfold readHand at h
  obtain ⟨x, hx, h⟩ := Fallible.bind_ok.mp h
  obtain ⟨y, hy, h⟩ := Fallible.bind_ok.mp h
  obtain ⟨trigger, htrigger, h⟩ := Fallible.bind_ok.mp h
  obtain ⟨grip, hgrip, h⟩ := Fallible.bind_ok.mp h
  obtain ⟨primary, -, h⟩ := Fallible.bind_ok.mp h
  obtain ⟨secondary, -, h⟩ := Fallible.bind_ok.mp h
  cases h
  exact ⟨⟨hnumber hx, hnumber hy⟩, hnumber htrigger, hnumber hgrip⟩

theorem readSide_forall (h0 : P 0) {value : Json N} (hv : ∀ x, value.HasNumber x → P x)
    {side : String} {stored : Option (HandSample N)} (h : readSide value side = .ok stored) :
    (P ((stored.map (·.axis)).getD (0, 0)).1 ∧ P ((stored.map (·.axis)).getD (0, 0)).2) ∧
      P ((stored.map (·.trigger)).getD 0) ∧ P ((stored.map (·.grip)).getD 0) := by
  unfold readSide at h
  obtain ⟨controller, hcontroller, h⟩ := Fallible.bind_ok.mp h
  cases hfind : controller.find? side with
  | none =>
    rw [hfind] at h
    cases h
    exact ⟨⟨h0, h0⟩, h0, h0⟩
  | some hand =>
    rw [hfind] at h
    obtain ⟨sample, hsample, h⟩ := Fallible.bind_ok.mp h
    cases h
    refine readHand_forall h0 (fun x hx => hv x ?_) hsample
    exact .of_subscript hcontroller (.of_find? hfind hx)

theorem controllerBlock_forall (h0 : P 0) {value : Json N} (hv : ∀ x, value.HasNumber x → P x)
    {ctrl : PicoVRController N} (h : controllerBlock value = .ok (some ctrl)) :
    ctrl.Forall P := by
  unfold controllerBlock at h
  obtain ⟨left, hleft, h⟩ := Fallible.bind_ok.mp h
  obtain ⟨right, hright, h⟩ := Fallible.bind_ok.mp h
  obtain ⟨haxis, htrigger, hgrip⟩ := readSide_forall h0 hv hleft
  obtain ⟨haxis', htrigger', hgrip'⟩ := readSide_forall h0 hv hright
  split at h
  · cases h
  · cases h
    exact ⟨haxis, haxis', ⟨htrigger, htrigger'⟩, hgrip, hgrip'⟩

end PicoVRReader

end Gearsonic
