import Gearsonic.Motion.Gestures

/-!
# The input handler's thread

`mode_index_` is atomic, but the loop checks a bound and moves the index in two accesses, and
`disarm()` can come from the controller's thread in between. Here the loop body is cut in
front of each access to the index; `move` is one step of the loop or one `disarm()`.

* `run_tick`: with nothing in between, the steps are the loop body.
* `Between`: what every stretch between two accesses leaves alone, and where it can end.
-/

set_option linter.unusedSectionVars false

namespace Gearsonic

open InputHandler

/-- Where the loop stands with the sample of its pass. A point is named for the access in
front of which it is. -/
inductive InputPoint (K : Type) where
  | top
  /-- A is held alone: store IDLE. -/
  | escape (c : PicoVRController K)
  | yTap (c : PicoVRController K)
  | yTapInc (c : PicoVRController K)
  | yHold (c : PicoVRController K)
  | yHoldInc (c : PicoVRController K)
  | xTap (c : PicoVRController K)
  | xDec (c : PicoVRController K)
  /-- The two comparisons of the crouch band. -/
  | crouchFirst (c : PicoVRController K)
  | crouchLast (c : PicoVRController K)
  /-- The command is built and published. -/
  | command (c : PicoVRController K)

/-- What the access at this point makes of the index. -/
def InputPoint.moved {K : Type} : InputPoint K → Int → Int
  | .escape _, _ => 0
  | .yTapInc _, mode | .yHoldInc _, mode => mode + 1
  | .xDec _, mode => mode - 1
  | _, mode => mode

structure InputThread (K : Type) [Field K] where
  handler : InputHandler K := {}
  point : InputPoint K := .top
  /-- The taps of the pass. -/
  taps : List (TapButton × TapDetector.Event) := []

namespace InputThread

variable {K : Type} [Field K] [LinearOrder K]

def combo (c : PicoVRController K) : Bool := 2 ≤ c.nFace

def triggerHeld (c : PicoVRController K) : Bool :=
  kTriggerHeld < c.leftTrigger || kTriggerHeld < c.rightTrigger

/-! ## Between two accesses -/

/-- X is held alone, up to the check of the lower bound. -/
def throughX (h : InputHandler K) (taps : List (TapButton × TapDetector.Event))
    (c : PicoVRController K) : InputThread K :=
  let (xPress, fires) := h.xPress.tick (c.btnX && !combo c) kSingleHoldTicks
  ⟨{ h with xPress := xPress }, if fires then .xTap c else .crouchFirst c, taps⟩

def throughYHold (h : InputHandler K) (taps : List (TapButton × TapDetector.Event))
    (c : PicoVRController K) : InputThread K :=
  let (yHold, fires) := h.yHold.tick (c.btnY && !combo c) kHardHoldTicks
  let h := { h with yHold := yHold }
  if fires then ⟨h, .yHold c, taps⟩ else throughX h taps c

def throughYPress (h : InputHandler K) (taps : List (TapButton × TapDetector.Event))
    (c : PicoVRController K) : InputThread K :=
  let (yPress, fires) := h.yPress.tick (c.btnY && !combo c) kSingleHoldTicks
  let h := { h with yPress := yPress }
  if fires then ⟨h, .yTap c, taps⟩ else throughYHold h taps c

def throughTaps (h : InputHandler K) (c : PicoVRController K) : InputThread K :=
  let (h, taps) := h.tickTaps c.toFaceButtons
  throughYPress h taps c

theorem throughX_eq (h : InputHandler K) (taps) (c : PicoVRController K) :
    ∃ xPress point, throughX h taps c = ⟨{ h with xPress := xPress }, point, taps⟩ ∧
      (point = .xTap c ∨ point = .crouchFirst c) := by
  unfold throughX
  dsimp only
  split
  · exact ⟨_, _, rfl, Or.inl rfl⟩
  · exact ⟨_, _, rfl, Or.inr rfl⟩

/-- The hold detector ticks, and fires in front of the check of the upper bound. -/
theorem throughYHold_eq (h : InputHandler K) (taps) (c : PicoVRController K) :
    ∃ xPress point,
      throughYHold h taps c =
        ⟨{ h with
            yHold := (h.yHold.tick (c.btnY && !combo c) kHardHoldTicks).1
            xPress := xPress }, point, taps⟩ ∧
        ((point = .yHold c ∧ (h.yHold.tick (c.btnY && !combo c) kHardHoldTicks).2 = true) ∨
          point = .xTap c ∨ point = .crouchFirst c) := by
  unfold throughYHold
  dsimp only
  split
  · rename_i hfires
    exact ⟨_, _, rfl, Or.inl ⟨rfl, hfires⟩⟩
  · obtain ⟨xPress, point, heq, hpoint⟩ := throughX_eq
      { h with yHold := (h.yHold.tick (c.btnY && !combo c) kHardHoldTicks).1 } taps c
    exact ⟨xPress, point, heq, Or.inr hpoint⟩

/-- Up to the next access, the pass is in front of the check of the basic range, or it has
ticked the hold detector as well. -/
theorem throughYPress_eq (h : InputHandler K) (taps) (c : PicoVRController K) :
    ∃ yPress, (throughYPress h taps c = ⟨{ h with yPress := yPress }, .yTap c, taps⟩) ∨
      throughYPress h taps c = throughYHold { h with yPress := yPress } taps c := by
  unfold throughYPress
  dsimp only
  split
  · exact ⟨_, Or.inl rfl⟩
  · exact ⟨_, Or.inr rfl⟩

/-- Up to the next access the pass keeps the index, the height and what is published. -/
structure Between (h : InputHandler K) (c : PicoVRController K) (s : InputThread K) : Prop where
  modeIndex : s.handler.modeIndex = h.modeIndex
  height : s.handler.height = h.height
  movementBuf : s.handler.movementBuf = h.movementBuf
  point : s.point = .yTap c ∨ s.point = .yHold c ∨ s.point = .xTap c ∨ s.point = .crouchFirst c

theorem between_throughX (h : InputHandler K) (taps) (c : PicoVRController K) :
    Between h c (throughX h taps c) := by
  obtain ⟨_, point, heq, hpoint⟩ := throughX_eq h taps c
  rw [heq]
  exact ⟨rfl, rfl, rfl, Or.inr (Or.inr hpoint)⟩

theorem between_throughYHold (h : InputHandler K) (taps) (c : PicoVRController K) :
    Between h c (throughYHold h taps c) := by
  obtain ⟨_, point, heq, ⟨hpoint, -⟩ | hpoint⟩ := throughYHold_eq h taps c
  · rw [heq]
    exact ⟨rfl, rfl, rfl, Or.inr (Or.inl hpoint)⟩
  · rw [heq]
    exact ⟨rfl, rfl, rfl, Or.inr (Or.inr hpoint)⟩

theorem between_throughTaps (h : InputHandler K) (c : PicoVRController K) :
    Between h c (throughTaps h c) := by
  unfold throughTaps
  dsimp only
  obtain ⟨yPress, heq | heq⟩ := throughYPress_eq (h.tickTaps c.toFaceButtons).1
    (h.tickTaps c.toFaceButtons).2 c
  · rw [heq]
    exact ⟨rfl, rfl, rfl, Or.inl rfl⟩
  · rw [heq]
    have hb := between_throughYHold { (h.tickTaps c.toFaceButtons).1 with yPress := yPress }
      (h.tickTaps c.toFaceButtons).2 c
    exact ⟨hb.modeIndex, hb.height, hb.movementBuf, hb.point⟩

/-! ## The steps -/

variable [CMath K]

/-- The step in front of which the loop stands, with these reads. -/
def next (s : InputThread K) (r : TickReads K) : InputThread K :=
  let h := s.handler
  match s.point with
  | .top =>
    match r.ctrl with
    | some c =>
      let h := h.tickEstop c.toFaceButtons
      let (aPress, fires) := h.aPress.tick (c.btnA && !combo c && !triggerHeld c) kSingleHoldTicks
      let h := { h with aPress := aPress }
      if fires then ⟨h, .escape c, []⟩ else throughTaps h c
    | none =>
      ⟨{ h with
        aTap := {}, bTap := {}
        movementBuf := h.movementBuf.setData (idleCommand (facingVector h.facingAngle) (-1))
          r.now }, .top, []⟩
  | .escape c => throughTaps { h with modeIndex := 0 } c
  | .yTap c =>
    if h.modeIndex < kBasicModeMax then ⟨h, .yTapInc c, s.taps⟩ else throughYHold h s.taps c
  | .yTapInc c => throughYHold { h with modeIndex := h.modeIndex + 1 } s.taps c
  | .yHold c =>
    if h.modeIndex < kFullModeMax then ⟨h, .yHoldInc c, s.taps⟩ else throughX h s.taps c
  | .yHoldInc c => throughX { h with modeIndex := h.modeIndex + 1 } s.taps c
  | .xTap c => ⟨h, if 0 < h.modeIndex then .xDec c else .crouchFirst c, s.taps⟩
  | .xDec c => ⟨{ h with modeIndex := h.modeIndex - 1 }, .crouchFirst c, s.taps⟩
  | .crouchFirst c =>
    if kCrouchFirst ≤ h.modeIndex then ⟨h, .crouchLast c, s.taps⟩
    else ⟨({ h with height := -1 }).tickFacing c.rightAxis.1, .command c, s.taps⟩
  | .crouchLast c =>
    let height :=
      if h.modeIndex ≤ kCrouchLast then if h.height < 0 then kHeightSeed else h.height else -1
    ⟨({ h with height := height }).tickFacing c.rightAxis.1, .command c, s.taps⟩
  | .command c =>
    let (h, ms) := h.buildCommand r c
    ⟨{ h with movementBuf := h.movementBuf.setData ms r.now }, .top, s.taps⟩

inductive Act (K : Type) where
  | loop (r : TickReads K)
  | disarm

def move (s : InputThread K) : Act K → InputThread K
  | .loop r => s.next r
  | .disarm => { s with handler := s.handler.disarm }

theorem next_modeIndex (s : InputThread K) (r : TickReads K) :
    (s.next r).handler.modeIndex = s.point.moved s.handler.modeIndex := by
  obtain ⟨h, point, taps⟩ := s
  cases point with
  | top =>
    cases hctrl : r.ctrl with
    | none =>
      simp only [next, hctrl]
      rfl
    | some c =>
      obtain ⟨ticks, estop, hestop⟩ := tickEstop_frame h c.toFaceButtons
      simp only [next, hctrl, hestop]
      split
      · rfl
      · exact (between_throughTaps _ c).modeIndex
  | escape c => exact (between_throughTaps _ c).modeIndex
  | yTap c =>
    simp only [next]
    split
    · rfl
    · exact (between_throughYHold h taps c).modeIndex
  | yTapInc c => exact (between_throughYHold _ taps c).modeIndex
  | yHold c =>
    simp only [next]
    split
    · rfl
    · exact (between_throughX h taps c).modeIndex
  | yHoldInc c => exact (between_throughX _ taps c).modeIndex
  | xTap c => rfl
  | xDec c => rfl
  | crouchFirst c =>
    obtain ⟨angle, hangle⟩ := tickFacing_frame { h with height := -1 } c.rightAxis.1
    simp only [next, hangle]
    split <;> rfl
  | crouchLast c =>
    obtain ⟨angle, hangle⟩ := tickFacing_frame { h with
      height := if h.modeIndex ≤ kCrouchLast then if h.height < 0 then kHeightSeed else h.height
        else -1 } c.rightAxis.1
    simp only [next, hangle]
    rfl
  | command c =>
    obtain ⟨angle, hangle⟩ := buildCommand_frame h r c
    simp only [next, hangle]
    rfl

/-! ## Back to back, the steps are the loop body -/

/-- With the same reads in every step, the loop comes to its top with this result. -/
def Completes (r : TickReads K) (s : InputThread K)
    (out : InputHandler K × List (TapButton × TapDetector.Event)) : Prop :=
  ∃ n, (fun s => next s r)^[n] s = ⟨out.1, .top, out.2⟩

variable {r : TickReads K} {s : InputThread K} {h : InputHandler K} {c : PicoVRController K}
  {taps : List (TapButton × TapDetector.Event)}
  {out : InputHandler K × List (TapButton × TapDetector.Event)}

theorem Completes.step (hdone : Completes r (s.next r) out) : Completes r s out := by
  obtain ⟨n, hn⟩ := hdone
  exact ⟨n + 1, hn⟩

theorem Completes.done : Completes r ⟨h, .top, taps⟩ (h, taps) := ⟨0, rfl⟩

/-- The rest of the pass behind the mode buttons. -/
def afterModes (h : InputHandler K) (r : TickReads K) (c : PicoVRController K) : InputHandler K :=
  let (h, ms) := ((h.tickHeight).tickFacing c.rightAxis.1).buildCommand r c
  { h with movementBuf := h.movementBuf.setData ms r.now }

theorem completes_crouchFirst :
    Completes r ⟨h, .crouchFirst c, taps⟩ (afterModes h r c, taps) := by
  apply Completes.step
  unfold afterModes tickHeight next
  dsimp only
  by_cases hfirst : kCrouchFirst ≤ h.modeIndex
  · rw [if_pos hfirst]
    apply Completes.step
    by_cases hlast : h.modeIndex ≤ kCrouchLast
    · simp only [next, hfirst, hlast, and_self, if_true]
      exact .step .done
    · simp only [next, hlast, and_false, if_false]
      exact .step .done
  · rw [if_neg hfirst]
    simp only [hfirst, false_and, if_false]
    exact .step .done

/-- The three parts of the mode buttons, as the whole handler they leave. -/
def xStage (h : InputHandler K) (c : PicoVRController K) : InputHandler K :=
  let (xPress, fires) := h.xPress.tick (c.btnX && !combo c) kSingleHoldTicks
  { h with
    xPress := xPress
    modeIndex := if fires && decide (0 < h.modeIndex) then h.modeIndex - 1 else h.modeIndex }

def yHoldStage (h : InputHandler K) (c : PicoVRController K) : InputHandler K :=
  let (yHold, fires) := h.yHold.tick (c.btnY && !combo c) kHardHoldTicks
  { h with
    yHold := yHold
    modeIndex :=
      if fires && decide (h.modeIndex < kFullModeMax) then h.modeIndex + 1 else h.modeIndex }

def yPressStage (h : InputHandler K) (c : PicoVRController K) : InputHandler K :=
  let (yPress, fires) := h.yPress.tick (c.btnY && !combo c) kSingleHoldTicks
  { h with
    yPress := yPress
    modeIndex :=
      if fires && decide (h.modeIndex < kBasicModeMax) then h.modeIndex + 1 else h.modeIndex }

theorem completes_throughX :
    Completes r (throughX h taps c) (afterModes (xStage h c) r c, taps) := by
  unfold throughX xStage
  dsimp only
  cases (h.xPress.tick (c.btnX && !combo c) kSingleHoldTicks).2 with
  | false => exact completes_crouchFirst
  | true =>
    apply Completes.step
    unfold next
    by_cases hpos : 0 < h.modeIndex
    · simp only [hpos, if_true, decide_true, Bool.and_self]
      exact .step completes_crouchFirst
    · simp only [hpos, if_true, if_false, decide_false, Bool.and_false, Bool.false_eq_true]
      exact completes_crouchFirst

theorem completes_throughYHold :
    Completes r (throughYHold h taps c) (afterModes (xStage (yHoldStage h c) c) r c, taps) := by
  unfold throughYHold yHoldStage
  dsimp only
  cases (h.yHold.tick (c.btnY && !combo c) kHardHoldTicks).2 with
  | false => exact completes_throughX
  | true =>
    simp only [if_true]
    apply Completes.step
    unfold next
    by_cases hlt : h.modeIndex < kFullModeMax
    · simp only [hlt, if_true, decide_true, Bool.and_self]
      exact .step completes_throughX
    · simp only [hlt, if_false, decide_false, Bool.and_false, Bool.false_eq_true]
      exact completes_throughX

theorem completes_throughYPress :
    Completes r (throughYPress h taps c)
      (afterModes (xStage (yHoldStage (yPressStage h c) c) c) r c, taps) := by
  unfold throughYPress yPressStage
  dsimp only
  cases (h.yPress.tick (c.btnY && !combo c) kSingleHoldTicks).2 with
  | false => exact completes_throughYHold
  | true =>
    simp only [if_true]
    apply Completes.step
    unfold next
    by_cases hlt : h.modeIndex < kBasicModeMax
    · simp only [hlt, if_true, decide_true, Bool.and_self]
      exact .step completes_throughYHold
    · simp only [hlt, if_false, decide_false, Bool.and_false, Bool.false_eq_true]
      exact completes_throughYHold

/-- Run back to back, the steps are the loop body. -/
theorem run_tick (h : InputHandler K) (r : TickReads K)
    (taps : List (TapButton × TapDetector.Event)) :
    ∃ n, (fun s => next s r)^[n + 1] ⟨h, .top, taps⟩ = ⟨(h.tick r).1, .top, (h.tick r).2⟩ := by
  suffices hdone : Completes r (next ⟨h, .top, taps⟩ r) (h.tick r) from hdone
  cases hr : r.ctrl with
  | none =>
    simp only [next, tick, hr]
    exact .done
  | some c =>
    have htick : h.tick r =
        (afterModes (xStage (yHoldStage (yPressStage ((((h.tickEstop c.toFaceButtons).tickEscape
          (c.btnA && !combo c && !triggerHeld c)).tickTaps c.toFaceButtons).1) c) c) c) r c,
          (((h.tickEstop c.toFaceButtons).tickEscape
            (c.btnA && !combo c && !triggerHeld c)).tickTaps c.toFaceButtons).2) := by
      simp only [tick, hr]
      rfl
    rw [htick]
    simp only [next, hr]
    unfold tickEscape
    dsimp only
    cases ((h.tickEstop c.toFaceButtons).aPress.tick (c.btnA && !combo c && !triggerHeld c)
        kSingleHoldTicks).2 with
    | false => exact completes_throughYPress
    | true =>
      simp only [if_true]
      exact .step completes_throughYPress

/-! ## Reaching a state -/

/-- Some run leads from the one state to the other. -/
def Reaches (s t : InputThread K) : Prop := ∃ as : List (Act K), as.foldl move s = t

theorem Reaches.trans {s t u : InputThread K} (hst : Reaches s t) (htu : Reaches t u) :
    Reaches s u := by
  obtain ⟨as, rfl⟩ := hst
  obtain ⟨bs, rfl⟩ := htu
  exact ⟨as ++ bs, List.foldl_append⟩

theorem reaches_tick (h : InputHandler K) (r : TickReads K)
    (taps : List (TapButton × TapDetector.Event)) :
    Reaches ⟨h, .top, taps⟩ ⟨(h.tick r).1, .top, (h.tick r).2⟩ := by
  have hloop : ∀ (n : Nat) (s : InputThread K), Reaches s ((fun s => next s r)^[n] s) := by
    intro n
    induction n with
    | zero => exact fun s => ⟨[], rfl⟩
    | succ n ih => exact fun s => Reaches.trans ⟨[.loop r], rfl⟩ (ih (s.next r))
  obtain ⟨n, hn⟩ := run_tick h r taps
  rw [← hn]
  exact hloop (n + 1) _

theorem reaches_passes (h : InputHandler K) (r : TickReads K) (n : Nat)
    (taps : List (TapButton × TapDetector.Event)) :
    ∃ taps', Reaches ⟨h, .top, taps⟩ ⟨passes r n h, .top, taps'⟩ := by
  induction n generalizing h taps with
  | zero => exact ⟨taps, [], rfl⟩
  | succ n ih =>
    obtain ⟨taps', hrest⟩ := ih (h.tick r).1 (h.tick r).2
    exact ⟨taps', (reaches_tick h r taps).trans hrest⟩

end InputThread

end Gearsonic
