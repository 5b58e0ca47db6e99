import Gearsonic.Motion.InputThread
import Gearsonic.Transition.Loop

/-!
# The range of the mode index

Y and X check a bound and then move the index in a second access. A `disarm()` in between is
harmless above, where the index only gets smaller, but X then takes it from 0 to -1.
`RangeWatch` runs the loop against `disarm()` and remembers whether one came since the loop's
last step.

* `RangeInv`: the index is in range, and behind a check it is as the check found it, or 0.
* `mode_in_range_iff`: the index stays in range exactly in the runs where no `disarm()` comes
  between X's check and its decrement.
-/

set_option linter.unusedSectionVars false

namespace Gearsonic

open InputHandler

/-- The modes that Y and X can select. -/
def LocomotionMode.selectable : List LocomotionMode :=
  [.idle, .slowWalk, .walk, .run, .idelSquat, .idelKneelTwoLegs, .idelKneel, .idelLyingFaceDown,
    .crawling, .idelBoxing, .walkBoxing, .leftPunch, .rightPunch, .randomPunch, .elbowCrawling,
    .leftHook, .rightHook, .forwardJump, .stealthWalk, .injuredWalk]

theorem LocomotionMode.exists_toInt {n : Int} (hlo : 0 ≤ n) (hhi : n ≤ kFullModeMax) :
    ∃ m : LocomotionMode, m.toInt = n := by
  have hall : ∀ k : Fin 20, ∃ m ∈ LocomotionMode.selectable, m.toInt = (k.val : Int) := by decide
  have hmax : kFullModeMax = 19 := rfl
  obtain ⟨m, -, hm⟩ := hall ⟨n.toNat, by omega⟩
  refine ⟨m, hm.trans ?_⟩
  show ((n.toNat : Nat) : Int) = n
  omega

/-- The loop against `disarm()`. `disarmed` is history: one came since the loop's last step. -/
structure RangeWatch (K : Type) [Field K] where
  thread : InputThread K := {}
  disarmed : Bool := false

namespace RangeWatch

variable {K : Type} [Field K] [LinearOrder K]

/-- The index is a mode of the range, and so is the published one. -/
structure InRange (h : InputHandler K) : Prop where
  lower : 0 ≤ h.modeIndex
  upper : h.modeIndex ≤ kFullModeMax
  published : ∀ ms, h.movementBuf.data = some ms → ∃ m : LocomotionMode, ms.locomotionMode = m.toInt

variable {h h' : InputHandler K} {s : InputThread K} {w : RangeWatch K}

theorem InRange.of_frame (hr : InRange h) (hm : h'.modeIndex = h.modeIndex)
    (hb : h'.movementBuf = h.movementBuf) : InRange h' :=
  ⟨hm ▸ hr.lower, hm ▸ hr.upper, hb ▸ hr.published⟩

/-- In front of a move of the index, what its check found holds, or `disarm()` has come. -/
def Checked (w : RangeWatch K) : Prop :=
  match w.thread.point with
  | .yTapInc _ => w.thread.handler.modeIndex < kBasicModeMax
  | .yHoldInc _ => w.thread.handler.modeIndex < kFullModeMax
  | .xDec _ => if w.disarmed then w.thread.handler.modeIndex = 0 else 0 < w.thread.handler.modeIndex
  | _ => True

structure RangeInv (w : RangeWatch K) : Prop where
  range : InRange w.thread.handler
  checked : w.Checked

/-- In range, and not behind a check. -/
def Settled (s : InputThread K) : Prop :=
  InRange s.handler ∧
    match s.point with
    | .yTapInc _ | .yHoldInc _ | .xDec _ => False
    | _ => True

theorem Settled.rangeInv (hs : Settled s) (d : Bool) : RangeInv ⟨s, d⟩ := by
  refine ⟨hs.1, ?_⟩
  obtain ⟨-, hpoint⟩ := hs
  unfold Checked
  dsimp only
  split at hpoint
  · exact hpoint.elim
  · exact hpoint.elim
  · exact hpoint.elim
  · trivial

theorem InRange.settled (hr : InRange h) {c : PicoVRController K}
    (hb : InputThread.Between h c s) : Settled s := by
  refine ⟨hr.of_frame hb.modeIndex hb.movementBuf, ?_⟩
  rcases hb.point with hp | hp | hp | hp <;> rw [hp] <;> trivial

variable [CMath K] {r : TickReads K} {c : PicoVRController K}

/-- The command is built for IDLE, a walk, or the selected mode. -/
theorem buildCommand_mode (h : InputHandler K) (r : TickReads K) (c : PicoVRController K) :
    (h.buildCommand r c).2.locomotionMode = h.modeIndex ∨
      ∃ m : LocomotionMode, (h.buildCommand r c).2.locomotionMode = m.toInt := by
  unfold buildCommand navCommand
  dsimp only
  split
  · split
    · split
      · split
        · right
          dsimp only
          split
          · exact ⟨_, rfl⟩
          · exact ⟨_, rfl⟩
        · exact Or.inr ⟨.idle, rfl⟩
      · exact Or.inr ⟨.idle, rfl⟩
    · exact Or.inr ⟨.idle, rfl⟩
  · exact Or.inl rfl

theorem InRange.publish (hr : InRange h) {ms : MovementState K}
    (hms : ms.locomotionMode = h.modeIndex ∨ ∃ m : LocomotionMode, ms.locomotionMode = m.toInt)
    (hm : h'.modeIndex = h.modeIndex) (hb : h'.movementBuf.data = some ms) : InRange h' := by
  refine ⟨hm ▸ hr.lower, hm ▸ hr.upper, ?_⟩
  intro ms' hms'
  obtain rfl : ms = ms' := Option.some.inj (hb.symm.trans hms')
  rcases hms with heq | hmode
  · obtain ⟨m, hm⟩ := LocomotionMode.exists_toInt hr.lower hr.upper
    exact ⟨m, heq.trans hm.symm⟩
  · exact hmode

/-- One step of the loop, or a `disarm()`. -/
def move (w : RangeWatch K) : InputThread.Act K → RangeWatch K
  | .loop r => ⟨w.thread.move (.loop r), false⟩
  | .disarm => ⟨w.thread.move .disarm, true⟩

/-- After the step the index and the published mode are in range. -/
def KeepsRange (w : RangeWatch K) (a : InputThread.Act K) : Prop :=
  InRange (w.move a).thread.handler

/-- X does not decrement behind a `disarm()`. -/
def NoDisarmUnderX (w : RangeWatch K) : InputThread.Act K → Prop
  | .loop _ =>
    match w.thread.point with
    | .xDec _ => w.disarmed = false
    | _ => True
  | .disarm => True

theorem RangeInv.disarm (hinv : RangeInv w) : RangeInv (w.move .disarm) := by
  refine ⟨⟨le_rfl, (by decide : (0 : Int) ≤ kFullModeMax), hinv.range.published⟩, ?_⟩
  unfold Checked move InputThread.move InputHandler.disarm
  dsimp only
  split
  · decide
  · decide
  · rfl
  · trivial

/-- A step of the loop that is not X's decrement. -/
theorem RangeInv.next (hinv : RangeInv w) (hpoint : ∀ c, w.thread.point ≠ .xDec c) :
    RangeInv (w.move (.loop r)) := by
  have hr := hinv.range
  have hchecked := hinv.checked
  have hmax : kFullModeMax = 19 := rfl
  have hbasic : kBasicModeMax = 2 := rfl
  obtain ⟨⟨h, point, taps⟩, d⟩ := w
  dsimp only at hr hpoint
  unfold move InputThread.move
  dsimp only
  cases point with
  | xDec c => exact absurd rfl (hpoint c)
  | top =>
    cases hctrl : r.ctrl with
    | none =>
      simp only [InputThread.next, hctrl]
      refine Settled.rangeInv ⟨hr.publish (Or.inr ⟨.idle, rfl⟩) rfl rfl, trivial⟩ false
    | some c =>
      obtain ⟨ticks, estop, hestop⟩ := tickEstop_frame h c.toFaceButtons
      simp only [InputThread.next, hctrl, hestop]
      split
      · exact Settled.rangeInv ⟨hr.of_frame rfl rfl, trivial⟩ false
      · apply Settled.rangeInv
        refine InRange.settled ?_ (InputThread.between_throughTaps _ c)
        exact hr.of_frame rfl rfl
  | escape c =>
    have hzero : InRange { h with modeIndex := 0 } :=
      ⟨le_rfl, (by decide : (0 : Int) ≤ kFullModeMax), hr.published⟩
    exact (hzero.settled (InputThread.between_throughTaps _ c)).rangeInv false
  | yTap c =>
    simp only [InputThread.next]
    split
    · rename_i hlt
      exact ⟨hr, hlt⟩
    · exact (hr.settled (InputThread.between_throughYHold _ taps c)).rangeInv false
  | yTapInc c =>
    have hlt : h.modeIndex < kBasicModeMax := hchecked
    have hinc : InRange { h with modeIndex := h.modeIndex + 1 } := by
      refine ⟨?_, ?_, hr.published⟩
      · exact Int.le_trans hr.lower (Int.le_add_one le_rfl)
      · show h.modeIndex + 1 ≤ kFullModeMax
        omega
    exact (hinc.settled (InputThread.between_throughYHold _ taps c)).rangeInv false
  | yHold c =>
    simp only [InputThread.next]
    split
    · rename_i hlt
      exact ⟨hr, hlt⟩
    · exact (hr.settled (InputThread.between_throughX _ taps c)).rangeInv false
  | yHoldInc c =>
    have hlt : h.modeIndex < kFullModeMax := hchecked
    have hinc : InRange { h with modeIndex := h.modeIndex + 1 } := by
      refine ⟨?_, hlt, hr.published⟩
      exact Int.le_trans hr.lower (Int.le_add_one le_rfl)
    exact (hinc.settled (InputThread.between_throughX _ taps c)).rangeInv false
  | xTap c =>
    simp only [InputThread.next]
    split
    · rename_i hpos
      exact ⟨hr, hpos⟩
    · exact ⟨hr, trivial⟩
  | crouchFirst c =>
    simp only [InputThread.next]
    split
    · exact ⟨hr, trivial⟩
    · obtain ⟨angle, hangle⟩ := tickFacing_frame { h with height := -1 } c.rightAxis.1
      rw [hangle]
      exact ⟨hr.of_frame rfl rfl, trivial⟩
  | crouchLast c =>
    obtain ⟨angle, hangle⟩ := tickFacing_frame { h with
      height := if h.modeIndex ≤ kCrouchLast then if h.height < 0 then kHeightSeed else h.height
        else -1 } c.rightAxis.1
    simp only [InputThread.next, hangle]
    exact ⟨hr.of_frame rfl rfl, trivial⟩
  | command c =>
    obtain ⟨angle, hangle⟩ := buildCommand_frame h r c
    refine ⟨hr.publish (buildCommand_mode h r c) ?_ rfl, trivial⟩
    show (h.buildCommand r c).1.modeIndex = h.modeIndex
    rw [hangle]

/-- X's decrement: from 0, where a `disarm()` came after the check. -/
theorem RangeInv.xDec (hinv : RangeInv w) (hpoint : w.thread.point = .xDec c) :
    (w.disarmed = false → RangeInv (w.move (.loop r))) ∧
      (w.disarmed = true → (w.move (.loop r)).thread.handler.modeIndex = -1) := by
  have hr := hinv.range
  have hchecked := hinv.checked
  obtain ⟨⟨h, point, taps⟩, d⟩ := w
  dsimp only at hr hpoint ⊢
  subst hpoint
  constructor
  · rintro rfl
    have hpos : 0 < h.modeIndex := hchecked
    have hupper := hr.upper
    refine ⟨⟨?_, ?_, hr.published⟩, trivial⟩
    · show 0 ≤ h.modeIndex - 1
      omega
    · show h.modeIndex - 1 ≤ kFullModeMax
      omega
  · rintro rfl
    have hzero : h.modeIndex = 0 := hchecked
    show h.modeIndex - 1 = -1
    omega

theorem RangeInv.keepsRange_iff (hinv : RangeInv w) (a : InputThread.Act K) :
    (KeepsRange w a ↔ NoDisarmUnderX w a) ∧ (NoDisarmUnderX w a → RangeInv (w.move a)) := by
  have hall : ∀ {C : Prop}, C → RangeInv (w.move a) →
      (KeepsRange w a ↔ C) ∧ (C → RangeInv (w.move a)) :=
    fun hC hnext => ⟨⟨fun _ => hC, fun _ => hnext.range⟩, fun _ => hnext⟩
  cases a with
  | disarm => exact hall trivial hinv.disarm
  | loop r =>
    cases hpoint : w.thread.point with
    | xDec c =>
      obtain ⟨hkept, hlost⟩ := hinv.xDec (r := r) hpoint
      simp only [NoDisarmUnderX, hpoint]
      refine ⟨⟨fun hrange => ?_, fun hno => (hkept hno).range⟩, hkept⟩
      cases hd : w.disarmed with
      | false => rfl
      | true =>
        have hlower : 0 ≤ (w.move (.loop r)).thread.handler.modeIndex := hrange.lower
        rw [hlost hd] at hlower
        exact absurd hlower (by decide)
    | _ =>
      simp only [NoDisarmUnderX, hpoint]
      exact hall trivial (hinv.next (by rw [hpoint]; rintro c ⟨⟩))

theorem RangeInv.start : RangeInv ({} : RangeWatch K) :=
  ⟨⟨le_rfl, (by decide : (0 : Int) ≤ kFullModeMax), by rintro ms ⟨⟩⟩, trivial⟩

/-- Over every interleaving of the loop with `disarm()`: the index and every published mode
are in range in each state reached, exactly if no `disarm()` comes between X's check of the
lower bound and its decrement. -/
theorem mode_in_range_iff (as : List (InputThread.Act K)) :
    Transition.Throughout KeepsRange move ({} : RangeWatch K) as ↔
      Transition.Throughout NoDisarmUnderX move ({} : RangeWatch K) as :=
  Transition.throughout_congr (I := RangeInv) .start (fun _ a hinv => (hinv.keepsRange_iff a).1)
    (fun _ a hinv => (hinv.keepsRange_iff a).2) as

/-- A sample with these buttons, the left stick forward and the triggers released. -/
def sample (b : FaceButtons) : TickReads ℚ :=
  { ctrl := some
      { toFaceButtons := b, leftAxis := (0, 1), rightAxis := (0, 0), leftTrigger := 0
        rightTrigger := 0, leftGrip := 0, rightGrip := 0 } }

/-- Y steps up once; X is held and passes its check; the controller disarms. -/
def disarmUnderX : List (InputThread.Act ℚ) :=
  List.replicate 47 (.loop (sample { btnY := true })) ++
    List.replicate 44 (.loop (sample { btnX := true })) ++ [.disarm]

/-- The rest of the pass decrements to -1 and publishes it. -/
theorem disarm_under_x :
    ¬ Transition.Throughout KeepsRange move ({} : RangeWatch ℚ)
        (disarmUnderX ++ [.loop (sample { btnX := true })]) ∧
      ((disarmUnderX ++ List.replicate 3 (InputThread.Act.loop (sample { btnX := true }))).foldl
        move ({} : RangeWatch ℚ)).thread.handler.movementBuf.data.map (·.locomotionMode) =
          some (-1) := by
  constructor
  · intro hall
    have hrange := (Transition.throughout_iff _).mp hall disarmUnderX _ List.prefix_rfl
    have hlower : 0 ≤ ((disarmUnderX.foldl move ({} : RangeWatch ℚ)).move
      (.loop (sample { btnX := true }))).thread.handler.modeIndex := hrange.lower
    exact absurd hlower (by decide +kernel)
  · decide +kernel

end RangeWatch

end Gearsonic
