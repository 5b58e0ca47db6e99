import Gearsonic.Motion.InputHandler

/-!
# The single-button gestures

The four hold detectors of the loop as one family: the button each listens to, its threshold,
and what a pass does with it.

* `tickControls_modeIndex`: the selected mode is moved by the gestures that fire.
* `tick_detector`: each detector ticks once a sample and rests through a gap.
* `holdY_eq`: a hold of Y, over any number of passes.
-/

set_option linter.unusedSectionVars false

namespace Gearsonic

/-! ## Buttons and gestures -/

inductive Face where
  | a
  | b
  | x
  | y
deriving DecidableEq, Repr

namespace FaceButtons

def down (btns : FaceButtons) : Face → Bool
  | .a => btns.btnA
  | .b => btns.btnB
  | .x => btns.btnX
  | .y => btns.btnY

end FaceButtons

namespace InputHandler

variable {K : Type} [Field K] [LinearOrder K]

/-! ## What the parts of a pass leave alone -/

theorem tickEstop_frame (h : InputHandler K) (b : FaceButtons) :
    ∃ ticks estop, h.tickEstop b = { h with estopHoldTicks := ticks, estop := estop } := by
  unfold tickEstop
  split
  · exact ⟨_, _, rfl⟩
  · exact ⟨_, _, rfl⟩

theorem tickHeight_frame (h : InputHandler K) :
    ∃ height, h.tickHeight = { h with height := height } := by
  unfold tickHeight
  split
  · exact ⟨_, rfl⟩
  · exact ⟨_, rfl⟩

theorem tickFacing_frame (h : InputHandler K) (rx : K) :
    ∃ angle, h.tickFacing rx = { h with facingAngle := angle } := by
  unfold tickFacing
  split
  · exact ⟨_, rfl⟩
  · exact ⟨h.facingAngle, rfl⟩

/-- Only a navigation command turns the facing angle. -/
theorem buildCommand_frame [CMath K] (h : InputHandler K) (r : TickReads K)
    (c : PicoVRController K) :
    ∃ angle, (h.buildCommand r c).1 = { h with facingAngle := angle } := by
  have hkeep : ∃ angle, h = { h with facingAngle := angle } := ⟨h.facingAngle, rfl⟩
  unfold buildCommand navCommand
  dsimp only
  split
  · split
    · split
      · split
        · exact ⟨_, rfl⟩
        · exact ⟨_, rfl⟩
      · exact hkeep
    · exact hkeep
  · exact hkeep

/-! ## The family -/

/-- The hold detectors of the loop. -/
inductive Gesture where
  | aPress
  | xPress
  | yPress
  | yHold
deriving DecidableEq, Repr

namespace Gesture

def button : Gesture → Face
  | .aPress => .a
  | .xPress => .x
  | .yPress | .yHold => .y

def threshold : Gesture → Nat
  | .aPress | .xPress | .yPress => kSingleHoldTicks
  | .yHold => kHardHoldTicks

def detector (h : InputHandler K) : Gesture → HoldTrigger
  | .aPress => h.aPress
  | .xPress => h.xPress
  | .yPress => h.yPress
  | .yHold => h.yHold

end Gesture

/-- The button is held alone; A counts only with the triggers released. -/
def alone (c : PicoVRController K) (f : Face) : Bool :=
  let combo : Bool := 2 ≤ c.nFace
  let triggerHeld : Bool := kTriggerHeld < c.leftTrigger || kTriggerHeld < c.rightTrigger
  c.down f && !combo && !(decide (f = .a) && triggerHeld)

/-- The detector of the gesture fires on this sample. -/
def fires (h : InputHandler K) (c : PicoVRController K) (g : Gesture) : Bool :=
  ((g.detector h).tick (alone c g.button) g.threshold).2

theorem alone_eq (c : PicoVRController K) :
    alone c .a = (c.btnA && !decide (2 ≤ c.nFace) &&
        !(decide (kTriggerHeld < c.leftTrigger) || decide (kTriggerHeld < c.rightTrigger))) ∧
      alone c .x = (c.btnX && !decide (2 ≤ c.nFace)) ∧
      alone c .y = (c.btnY && !decide (2 ≤ c.nFace)) := by
  refine ⟨?_, ?_, ?_⟩ <;> simp [alone, FaceButtons.down]

/-- What the fired gestures make of the selected mode. -/
theorem tickControls_modeIndex (h : InputHandler K) (c : PicoVRController K) :
    (h.tickControls c).1.modeIndex =
      (let mode := if h.fires c .aPress then 0 else h.modeIndex
       let mode := if h.fires c .yPress && decide (mode < kBasicModeMax) then mode + 1 else mode
       let mode := if h.fires c .yHold && decide (mode < kFullModeMax) then mode + 1 else mode
       if h.fires c .xPress && decide (0 < mode) then mode - 1 else mode) := by
  obtain ⟨ha, hx, hy⟩ := alone_eq c
  have hrest : ∀ h : InputHandler K, ((h.tickHeight).tickFacing c.rightAxis.1).modeIndex =
      h.modeIndex := by
    intro h
    obtain ⟨height, hheight⟩ := tickHeight_frame h
    obtain ⟨angle, hangle⟩ := tickFacing_frame { h with height := height } c.rightAxis.1
    rw [hheight, hangle]
  obtain ⟨ticks, estop, hestop⟩ := tickEstop_frame h c.toFaceButtons
  unfold tickControls
  dsimp only
  rw [hrest, hestop]
  simp only [tickModeSteps, tickTaps, tickEscape, fires, Gesture.detector, Gesture.button,
    Gesture.threshold, ha, hx, hy]

/-- Each detector ticks once a sample. -/
theorem tickControls_detector (h : InputHandler K) (c : PicoVRController K) (g : Gesture) :
    g.detector (h.tickControls c).1 =
      ((g.detector h).tick (alone c g.button) g.threshold).1 := by
  obtain ⟨ha, hx, hy⟩ := alone_eq c
  have hrest : ∀ h : InputHandler K,
      g.detector ((h.tickHeight).tickFacing c.rightAxis.1) = g.detector h := by
    intro h
    obtain ⟨height, hheight⟩ := tickHeight_frame h
    obtain ⟨angle, hangle⟩ := tickFacing_frame { h with height := height } c.rightAxis.1
    rw [hheight, hangle]
    cases g <;> rfl
  obtain ⟨ticks, estop, hestop⟩ := tickEstop_frame h c.toFaceButtons
  unfold tickControls
  dsimp only
  rw [hrest, hestop]
  cases g <;>
    simp only [tickModeSteps, tickTaps, tickEscape, Gesture.detector, Gesture.button,
      Gesture.threshold, ha, hx, hy]

variable [CMath K]

theorem tick_detector (h : InputHandler K) (r : TickReads K) (g : Gesture) :
    g.detector (h.tick r).1 =
      match r.ctrl with
      | some c => ((g.detector h).tick (alone c g.button) g.threshold).1
      | none => g.detector h := by
  have hbuild : ∀ (h : InputHandler K) c, g.detector (h.buildCommand r c).1 = g.detector h := by
    intro h c
    obtain ⟨angle, hangle⟩ := buildCommand_frame h r c
    rw [hangle]
    cases g <;> rfl
  have hmovement : ∀ (h : InputHandler K) buf,
      g.detector ({ h with movementBuf := buf } : InputHandler K) = g.detector h := by
    intro h buf
    cases g <;> rfl
  unfold tick
  cases r.ctrl with
  | some c =>
    dsimp only
    rw [hmovement, hbuild, tickControls_detector]
  | none => cases g <;> rfl

/-! ## A hold of Y -/

theorem tick_modeIndex (h : InputHandler K) (r : TickReads K) :
    (h.tick r).1.modeIndex =
      match r.ctrl with
      | some c => (h.tickControls c).1.modeIndex
      | none => h.modeIndex := by
  have hbuild : ∀ (h : InputHandler K) c, (h.buildCommand r c).1.modeIndex = h.modeIndex := by
    intro h c
    obtain ⟨angle, hangle⟩ := buildCommand_frame h r c
    rw [hangle]
  unfold tick
  cases r.ctrl with
  | some c => exact hbuild _ c
  | none => rfl

/-- So many passes with the same reads. -/
def passes (r : TickReads K) (n : Nat) (h : InputHandler K) : InputHandler K :=
  (fun h => (h.tick r).1)^[n] h

/-- The mode after so many samples of a hold that began in mode `m`. -/
def heldMode (m : Int) (n : Nat) : Int :=
  let mode := if kSingleHoldTicks ≤ n ∧ m < kBasicModeMax then m + 1 else m
  if kHardHoldTicks ≤ n ∧ mode < kFullModeMax then mode + 1 else mode

theorem heldMode_succ (m : Int) (n : Nat) :
    (let mode := if false = true then 0 else heldMode m n
     let mode :=
       if decide (n + 1 = kSingleHoldTicks) && decide (mode < kBasicModeMax) then mode + 1 else mode
     let mode :=
       if decide (n + 1 = kHardHoldTicks) && decide (mode < kFullModeMax) then mode + 1 else mode
     if false && decide (0 < mode) then mode - 1 else mode) = heldMode m (n + 1) := by
  have hbasic : kBasicModeMax = 2 := rfl
  have hfull : kFullModeMax = 19 := rfl
  simp only [heldMode, hbasic, hfull, kSingleHoldTicks, kHardHoldTicks, Bool.false_and,
    Bool.false_eq_true, if_false, Bool.and_eq_true, decide_eq_true_eq]
  grind

/-- A hold of Y alone from released detectors. -/
theorem holdY_eq {h : InputHandler K} {r : TickReads K} {c : PicoVRController K}
    (hc : r.ctrl = some c) (hy : c.toFaceButtons = { btnY := true }) (hpress : h.yPress = {})
    (hhold : h.yHold = {}) (n : Nat) :
    (passes r n h).yPress = .afterRun n kSingleHoldTicks ∧
      (passes r n h).yHold = .afterRun n kHardHoldTicks ∧
      (passes r n h).modeIndex = heldMode h.modeIndex n := by
  have halone : ∀ f : Face, alone c f = decide (f = .y) := by
    intro f
    cases f <;> simp [alone, FaceButtons.down, FaceButtons.nFace, hy]
  induction n with
  | zero => exact ⟨hpress, hhold, rfl⟩
  | succ n ih =>
    obtain ⟨ihpress, ihhold, ihmode⟩ := ih
    have hnext : passes r (n + 1) h = ((passes r n h).tick r).1 :=
      Function.iterate_succ_apply' _ n h
    have hdetector : ∀ g : Gesture, g.button = .y → ∀ n',
        g.detector (passes r n h) = .afterRun n' g.threshold →
        g.detector (passes r (n + 1) h) = .afterRun (n' + 1) g.threshold := by
      intro g hg n' hrun
      rw [hnext, tick_detector, hc]
      dsimp only
      rw [hrun, hg, halone, decide_eq_true rfl, HoldTrigger.tick_afterRun]
    have hfires : (passes r n h).fires c .aPress = false ∧ (passes r n h).fires c .xPress = false ∧
        (passes r n h).fires c .yPress = decide (n + 1 = kSingleHoldTicks) ∧
        (passes r n h).fires c .yHold = decide (n + 1 = kHardHoldTicks) := by
      simp only [fires, Gesture.detector, Gesture.button, Gesture.threshold, halone, ihpress,
        ihhold, decide_true, HoldTrigger.tick_afterRun]
      exact ⟨rfl, rfl, trivial, trivial⟩
    obtain ⟨ha, hx, hp, hh⟩ := hfires
    refine ⟨hdetector .yPress rfl n ihpress, hdetector .yHold rfl n ihhold, ?_⟩
    rw [hnext, tick_modeIndex, hc]
    dsimp only
    rw [tickControls_modeIndex, ha, hx, hp, hh, ihmode]
    exact heldMode_succ h.modeIndex n

/-- A sample with these buttons, the sticks and triggers released. -/
def neutral (b : FaceButtons) : TickReads ℚ :=
  { ctrl := some
      { toFaceButtons := b, leftAxis := (0, 0), rightAxis := (0, 0), leftTrigger := 0
        rightTrigger := 0, leftGrip := 0, rightGrip := 0 } }

end InputHandler

end Gearsonic
