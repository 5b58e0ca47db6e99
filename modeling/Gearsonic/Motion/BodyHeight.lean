import Gearsonic.Motion.InputThread
import Gearsonic.Transition.Loop

/-!
# Body height and the published mode

The height follows the selected mode, and the published mode is decided after it: by the
stick, a navigation command, or IDLE where the stick is neutral. Only the navigation branch
and the safe stop put the height back to the default.

* `HeightInv`: the height is the seed or the default, and in front of the command it is the
  seed wherever the selected mode is still a crouch.
* `height_fits_iff`: mode and height of every published command agree exactly in the runs
  whose commands find them in agreement.
-/

set_option linter.unusedSectionVars false

namespace Gearsonic

open InputHandler

namespace InputThread

variable {K : Type} [Field K] [LinearOrder K]

def Crouch (mode : Int) : Prop := kCrouchFirst ≤ mode ∧ mode ≤ kCrouchLast

instance (mode : Int) : Decidable (Crouch mode) := inferInstanceAs (Decidable (_ ∧ _))

/-- A crouch has the seed height, every other mode its default. -/
def HeightLaw (ms : MovementState K) : Prop :=
  ms.height = if Crouch ms.locomotionMode then kHeightSeed else -1

/-- What is published keeps the law. -/
def Lawful (s : InputThread K) : Prop := ∀ ms, s.handler.movementBuf.data = some ms → HeightLaw ms

/-- The height is the default or the seed, and the seed where a command finds a crouch. -/
structure HeightInv (s : InputThread K) : Prop where
  value : s.handler.height = -1 ∨ s.handler.height = kHeightSeed
  command : ∀ c, s.point = .command c → Crouch s.handler.modeIndex →
    s.handler.height = kHeightSeed

variable {h : InputHandler K} {s : InputThread K} {c : PicoVRController K}

theorem HeightInv.of_between {g : InputHandler K} (hv : h.height = -1 ∨ h.height = kHeightSeed)
    (hh : g.height = h.height) (hb : Between g c s) : HeightInv s := by
  refine ⟨?_, fun c' hc' => ?_⟩
  · rw [hb.height, hh]
    exact hv
  · rcases hb.point with hp | hp | hp | hp <;> rw [hp] at hc' <;> cases hc'

section

variable [CMath K]

/-- A fresh navigation command drives: the stick is neutral in kNormal. -/
def NavDrives (r : TickReads K) (c : PicoVRController K) : Prop :=
  CMath.hypot c.leftAxis.1 c.leftAxis.2 < kDeadZone ∧ r.nav.isSome = true ∧
    r.arbMode = .normal ∧ r.navAgeMs < kNavStaleMs

/-- After the step, what is published keeps the law. -/
def KeepsHeight (s : InputThread K) (a : Act K) : Prop := Lawful (s.move a)

/-- A command finds the default height, is the navigation's, or is the stick's in a crouch. -/
def HeightFits (s : InputThread K) : Act K → Prop
  | .loop r =>
    match s.point with
    | .command c =>
      s.handler.height = -1 ∨ NavDrives r c ∨
        (¬ CMath.hypot c.leftAxis.1 c.leftAxis.2 < kDeadZone ∧ Crouch s.handler.modeIndex)
    | _ => True
  | .disarm => True

instance (r : TickReads K) (c : PicoVRController K) : Decidable (NavDrives r c) :=
  inferInstanceAs (Decidable (_ ∧ _ ∧ _ ∧ _))

instance (s : InputThread K) (a : Act K) : Decidable (HeightFits s a) :=
  match a, s with
  | .disarm, _ => .isTrue trivial
  | .loop _, ⟨_, .command _, _⟩ => inferInstanceAs (Decidable (_ ∨ _ ∨ _ ∧ _))
  | .loop _, ⟨_, .top, _⟩ | .loop _, ⟨_, .escape _, _⟩ | .loop _, ⟨_, .yTap _, _⟩
  | .loop _, ⟨_, .yTapInc _, _⟩ | .loop _, ⟨_, .yHold _, _⟩ | .loop _, ⟨_, .yHoldInc _, _⟩
  | .loop _, ⟨_, .xTap _, _⟩ | .loop _, ⟨_, .xDec _, _⟩ | .loop _, ⟨_, .crouchFirst _, _⟩
  | .loop _, ⟨_, .crouchLast _, _⟩ => .isTrue trivial

/-! ## The command -/

theorem idleCommand_law (face : Vec3 K) (height : K) :
    HeightLaw (idleCommand face height) ↔ height = -1 := by
  have hno : ¬ Crouch LocomotionMode.idle.toInt := by decide
  simp [HeightLaw, idleCommand, hno]

theorem navCommand_law (h : InputHandler K) (nav : NavCommand K) :
    HeightLaw (h.navCommand nav).2 := by
  have hslow : ¬ Crouch LocomotionMode.slowWalk.toInt := by decide
  have hwalk : ¬ Crouch LocomotionMode.walk.toInt := by decide
  have hmode : ¬ Crouch (if CMath.hypot nav.vx nav.vy ≤ kNavSlowMax
      then LocomotionMode.slowWalk.toInt else LocomotionMode.walk.toInt) := by
    split
    · exact hslow
    · exact hwalk
  unfold navCommand
  dsimp only
  split
  · exact (if_neg hmode).symm
  · exact (idleCommand_law _ _).mpr rfl

/-- A command by its three ways: navigation, neutral stick, stick. -/
theorem buildCommand_law (h : InputHandler K) (r : TickReads K) (c : PicoVRController K) :
    HeightLaw (h.buildCommand r c).2 ↔
      NavDrives r c ∨
        if CMath.hypot c.leftAxis.1 c.leftAxis.2 < kDeadZone then h.height = -1
        else h.height = if Crouch h.modeIndex then kHeightSeed else -1 := by
  unfold buildCommand NavDrives
  dsimp only
  by_cases hstick : CMath.hypot c.leftAxis.1 c.leftAxis.2 < kDeadZone
  · simp only [hstick, if_true, true_and]
    cases r.nav with
    | none => simp [idleCommand_law]
    | some nav =>
      dsimp only
      by_cases hfresh : r.arbMode = .normal ∧ r.navAgeMs < kNavStaleMs
      · rw [if_pos hfresh]
        simp [navCommand_law, hfresh]
      · rw [if_neg hfresh]
        simp [idleCommand_law, hfresh]
  · simp only [hstick, if_false, false_and, false_or]
    exact Iff.rfl

/-! ## One step -/

theorem HeightInv.of_move [IsStrictOrderedRing K] (hinv : HeightInv s) (a : Act K) :
    HeightInv (s.move a) := by
  have hv := hinv.value
  have hneg : (-1 : K) < 0 := neg_one_lt_zero
  obtain ⟨h, point, taps⟩ := s
  dsimp only at hv
  cases a with
  | disarm => exact ⟨hv, fun c hc hcrouch => absurd hcrouch.1 (by decide : ¬ kCrouchFirst ≤ 0)⟩
  | loop r =>
    unfold move
    cases point with
    | top =>
      cases hctrl : r.ctrl with
      | none =>
        simp only [next, hctrl]
        exact ⟨hv, by rintro c ⟨⟩⟩
      | some c =>
        obtain ⟨ticks, estop, hestop⟩ := tickEstop_frame h c.toFaceButtons
        simp only [next, hctrl, hestop]
        split
        · exact ⟨hv, by rintro c ⟨⟩⟩
        · refine of_between hv ?_ (between_throughTaps _ c)
          rfl
    | escape c =>
      exact of_between (g := { h with modeIndex := 0 }) hv rfl (between_throughTaps _ c)
    | yTap c =>
      simp only [next]
      split
      · exact ⟨hv, by rintro c ⟨⟩⟩
      · exact of_between hv rfl (between_throughYHold h taps c)
    | yTapInc c =>
      exact of_between (g := { h with modeIndex := h.modeIndex + 1 }) hv rfl
        (between_throughYHold _ taps c)
    | yHold c =>
      simp only [next]
      split
      · exact ⟨hv, by rintro c ⟨⟩⟩
      · exact of_between hv rfl (between_throughX h taps c)
    | yHoldInc c =>
      exact of_between (g := { h with modeIndex := h.modeIndex + 1 }) hv rfl
        (between_throughX _ taps c)
    | xTap c =>
      simp only [next]
      refine ⟨hv, fun c' hc' => ?_⟩
      split at hc' <;> cases hc'
    | xDec c => exact ⟨hv, by rintro c ⟨⟩⟩
    | crouchFirst c =>
      simp only [next]
      split
      · exact ⟨hv, by rintro c ⟨⟩⟩
      · rename_i hno
        obtain ⟨angle, hangle⟩ := tickFacing_frame { h with height := -1 } c.rightAxis.1
        rw [hangle]
        exact ⟨Or.inl rfl, fun c' _ hcrouch => absurd hcrouch.1 hno⟩
    | crouchLast c =>
      -- the first comparison has passed, or the index is 0 by now
      have hset : (if h.height < 0 then kHeightSeed else h.height) = (kHeightSeed : K) := by
        rcases hv with hdefault | hseed
        · rw [hdefault, if_pos hneg]
        · rw [hseed]
          exact ite_self _
      simp only [next]
      rw [hset]
      obtain ⟨angle, hangle⟩ := tickFacing_frame { h with
        height := if h.modeIndex ≤ kCrouchLast then kHeightSeed else -1 } c.rightAxis.1
      rw [hangle]
      refine ⟨?_, fun c' _ hcrouch => if_pos hcrouch.2⟩
      dsimp only
      split
      · exact Or.inr rfl
      · exact Or.inl rfl
    | command c =>
      obtain ⟨angle, hangle⟩ := buildCommand_frame h r c
      simp only [next, hangle]
      exact ⟨hv, by rintro c ⟨⟩⟩

/-- Only a command and the safe stop publish. -/
theorem next_movementBuf (s : InputThread K) (r : TickReads K) :
    (s.next r).handler.movementBuf = s.handler.movementBuf ∨
      (∃ c, s.point = .command c) ∨
      ∃ face, (s.next r).handler.movementBuf.data = some (idleCommand face (-1)) := by
  obtain ⟨h, point, taps⟩ := s
  have hfacing : ∀ (h : InputHandler K) rx, (h.tickFacing rx).movementBuf = h.movementBuf := by
    intro h rx
    obtain ⟨angle, hangle⟩ := tickFacing_frame h rx
    rw [hangle]
  cases point with
  | top =>
    cases hctrl : r.ctrl with
    | none =>
      simp only [next, hctrl]
      exact Or.inr (Or.inr ⟨_, rfl⟩)
    | some c =>
      obtain ⟨ticks, estop, hestop⟩ := tickEstop_frame h c.toFaceButtons
      left
      simp only [next, hctrl, hestop]
      split
      · rfl
      · exact (between_throughTaps _ c).movementBuf
  | escape c => exact Or.inl (between_throughTaps _ c).movementBuf
  | yTap c =>
    left
    simp only [next]
    split
    · rfl
    · exact (between_throughYHold h taps c).movementBuf
  | yTapInc c => exact Or.inl (between_throughYHold _ taps c).movementBuf
  | yHold c =>
    left
    simp only [next]
    split
    · rfl
    · exact (between_throughX h taps c).movementBuf
  | yHoldInc c => exact Or.inl (between_throughX _ taps c).movementBuf
  | xTap c => exact Or.inl rfl
  | xDec c => exact Or.inl rfl
  | crouchFirst c =>
    left
    simp only [next]
    split
    · rfl
    · exact hfacing _ _
  | crouchLast c => exact Or.inl (hfacing _ _)
  | command c => exact Or.inr (Or.inl ⟨c, rfl⟩)

/-- A step keeps the law exactly if its command, where it is one, fits. -/
theorem HeightInv.keepsHeight_iff (hinv : HeightInv s) (hlawful : Lawful s) (a : Act K) :
    KeepsHeight s a ↔ HeightFits s a := by
  cases a with
  | disarm => exact ⟨fun _ => trivial, fun _ => hlawful⟩
  | loop r =>
    by_cases hcommand : ∃ c, s.point = .command c
    · obtain ⟨c, hpoint⟩ := hcommand
      have hpublished : (s.move (.loop r)).handler.movementBuf.data =
          some (s.handler.buildCommand r c).2 := by
        simp only [move, next, hpoint]
        rfl
      have hcrouch := hinv.command c hpoint
      have hlaw : KeepsHeight s (.loop r) ↔ HeightLaw (s.handler.buildCommand r c).2 := by
        unfold KeepsHeight Lawful
        rw [hpublished]
        constructor
        · exact fun h => h _ rfl
        · rintro h ms ⟨⟩
          exact h
      rw [hlaw, buildCommand_law s.handler r c]
      simp only [HeightFits, hpoint]
      by_cases hstick : CMath.hypot c.leftAxis.1 c.leftAxis.2 < kDeadZone
      · simp only [hstick, if_true, not_true, false_and, or_false]
        exact or_comm
      · have hnav : ¬ NavDrives r c := fun hnav => hstick hnav.1
        simp only [hstick, hnav, if_false, false_or, not_false_iff, true_and]
        by_cases hband : Crouch s.handler.modeIndex
        · simp [hband, hcrouch hband]
        · simp [hband]
    · have hfits : HeightFits s (.loop r) := by
        unfold HeightFits
        dsimp only
        split
        · rename_i c hpoint
          exact absurd ⟨c, hpoint⟩ hcommand
        · trivial
      refine ⟨fun _ => hfits, fun _ => ?_⟩
      rcases next_movementBuf s r with hsame | hpoint | ⟨face, hstop⟩
      · intro ms hms
        apply hlawful ms
        rw [← hsame]
        exact hms
      · exact absurd hpoint hcommand
      · intro ms hms
        obtain rfl := Option.some.inj (hstop.symm.trans hms)
        exact (idleCommand_law face (-1)).mpr rfl

theorem HeightInv.start : HeightInv ({} : InputThread K) :=
  ⟨Or.inl rfl, by rintro c ⟨⟩⟩

/-- Over every run of the loop: each published command has the seed height in a crouch and
the default in every other mode, exactly if each command finds the default height, is a
navigation command's, or is the stick's while the selected mode is a crouch. -/
theorem height_fits_iff [IsStrictOrderedRing K] (as : List (Act K)) :
    Transition.Throughout KeepsHeight move ({} : InputThread K) as ↔
      Transition.Throughout HeightFits move ({} : InputThread K) as :=
  Transition.throughout_congr (I := fun s => HeightInv s ∧ Lawful s)
    ⟨.start, by rintro ms ⟨⟩⟩ (fun _ a hs => hs.1.keepsHeight_iff hs.2 a)
    (fun _ a hs hfits => ⟨hs.1.of_move a, (hs.1.keepsHeight_iff hs.2 a).mpr hfits⟩) as

end

/-- `height_fits_iff` over a tap of Y with the stick neutral. -/
theorem height_fits_iff_tap :
    Transition.Throughout KeepsHeight move ({} : InputThread ℚ)
      (List.replicate 47 (.loop (neutral { btnY := true })) ++ [.loop (neutral {}), .disarm]) :=
  (height_fits_iff _).mpr (by decide +kernel)

/-! ## IDLE at the crouch height -/

/-- Y is held for 15 samples, and twice for 500, up to the last command. -/
def upToSquat : List (Act ℚ) :=
  List.replicate 47 (.loop (neutral { btnY := true })) ++
    List.replicate 3 (.loop (neutral {})) ++
    List.replicate 1504 (.loop (neutral { btnY := true })) ++
    List.replicate 3 (.loop (neutral {})) ++
    List.replicate 1503 (.loop (neutral { btnY := true }))

set_option maxRecDepth 100000 in
theorem upToSquat_published :
    ((upToSquat ++ [Act.loop (neutral { btnY := true })]).foldl move
      ({} : InputThread ℚ)).handler.movementBuf.data.map
        (fun ms : MovementState ℚ => (ms.locomotionMode, ms.height)) =
      some (LocomotionMode.idle.toInt, (0.8 : ℚ)) := by
  decide +kernel

/-- The squat is selected, the stick is neutral: IDLE is published at the crouch height. -/
theorem idle_keeps_crouch_height :
    ¬ Transition.Throughout KeepsHeight move ({} : InputThread ℚ)
      (upToSquat ++ [.loop (neutral { btnY := true })]) := by
  intro hall
  have hkeeps := (Transition.throughout_iff _).mp hall upToSquat
    (.loop (neutral { btnY := true })) List.prefix_rfl
  obtain ⟨ms, hms, hpair⟩ := Option.map_eq_some_iff.mp upToSquat_published
  rw [List.foldl_append, List.foldl_cons, List.foldl_nil] at hms
  obtain ⟨hmode, hheight⟩ := Prod.mk.inj hpair
  -- from here on the state in front of the last command is opaque
  generalize upToSquat.foldl move ({} : InputThread ℚ) = s at hkeeps hms
  have hlaw : HeightLaw ms := hkeeps ms hms
  unfold HeightLaw at hlaw
  rw [hmode, hheight, if_neg (by decide : ¬ Crouch LocomotionMode.idle.toInt)] at hlaw
  norm_num at hlaw

end InputThread

end Gearsonic
