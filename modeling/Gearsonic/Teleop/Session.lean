import Gearsonic.Teleop.TrackerFlags
import Gearsonic.Transition.Basic

/-!
# The tracker's loop beside the arbiter

The tracker's loop and the controller's `update_arbiter` run on two threads and share the
arbiter mode, `reset_request_`, and the tracker's flags. `TeleopSession` is the two loops
together. The tracker's loop body is cut into seven steps, so that the controller can move
between any two of them, in particular between a gesture's read of the mode and what the
gesture then does; `update_arbiter` is two steps, the mode store and the
`reset_calibration()` call that follows the entry into a VLA session. What the other
threads supply (buttons, body samples and their ages, token ages, reseed
acknowledgements) is chosen freely at each step.

Two members are not the program's: `iterations` counts completed loop bodies, and
`originGesture` says that a gesture that engages teleop has completed since the start or
since the last session ended.

`Fires` is the inversion of one step; the invariants are proved by cases on it.
-/

namespace Gearsonic

/-- Where the tracker's loop stands. A gesture holds the mode it has read. -/
inductive LoopPoint (κ : Kernels) where
  | top
  | calibMode
  | calibGesture (arbMode : Mode)
  | fbMode
  | fbGesture (arbMode : Mode)
  | body
  | fullbody (sample : TimestampedData κ.BodyPose)

/-- The mode a gesture has read and not used yet. -/
def LoopPoint.modeRead {κ : Kernels} : LoopPoint κ → Option Mode
  | .calibGesture m => some m
  | .fbGesture m => some m
  | _ => none

/-- The iteration is over. -/
def LoopPoint.isTop {κ : Kernels} : LoopPoint κ → Bool
  | .top => true
  | _ => false

structure TeleopSession (κ : Kernels) where
  tracker : TeleopTracker κ := {}
  point : LoopPoint κ := .top
  mode : Mode := .normal
  /-- `update_arbiter` has stored `kVla` and is about to call `reset_calibration()`. -/
  resetCall : Bool := false
  originGesture : Bool := false
  iterations : Nat := 0

namespace TeleopSession

variable {κ : Kernels}

inductive Act (κ : Kernels) where
  | consumeReset
  | readCalibMode
  | calibrationGesture (ctrl : Option FaceButtons)
  | readFbMode
  | fullbodyGesture (ctrl : Option FaceButtons) (locomotionIdle bodyPresent : Bool)
  | bodySample (sample : TimestampedData κ.BodyPose) (ref : κ.WristReference)
  | fullbodyTick (ageMs : ℚ) (t0 : TimePoint)
  | updateArbiter (vlaFresh vlaAlive recoveryDone : Bool)
  | resetCalibration

/-- The B gesture completes and asks for a capture, or the A gesture engages full-body. -/
def engagingGesture (before after : TeleopTracker κ) : Bool :=
  (after.calibGesture.fired && !before.calibGesture.fired && !before.upperCalibrated) ||
    (after.fullbodyEngaged && !before.fullbodyEngaged)

/-- The controller's store of the next mode. Entering a session raises the call of
`reset_calibration()`; leaving one through the origin forgets the gestures before it. -/
def arbitrate (s : TeleopSession κ) (next : Mode) : TeleopSession κ :=
  { s with
    mode := next
    resetCall := next = .vla && s.mode ≠ .vla
    originGesture := if s.mode = .recovering && next = .normal then false else s.originGesture }

/-- One step of either thread; `none` where the step is not the next one of its loop. -/
def step (s : TeleopSession κ) : Act κ → Option (TeleopSession κ)
  | .consumeReset =>
    match s.point with
    | .top => some { s with tracker := s.tracker.consumeReset, point := .calibMode }
    | _ => none
  | .readCalibMode =>
    match s.point with
    | .calibMode => some { s with point := .calibGesture s.mode }
    | _ => none
  | .calibrationGesture ctrl =>
    match s.point with
    | .calibGesture m =>
      let tracker := s.tracker.checkCalibrationGesture m ctrl
      some { s with
        tracker := tracker, point := .fbMode
        originGesture := s.originGesture || engagingGesture s.tracker tracker }
    | _ => none
  | .readFbMode =>
    match s.point with
    | .fbMode => some { s with point := .fbGesture s.mode }
    | _ => none
  | .fullbodyGesture ctrl idle present =>
    match s.point with
    | .fbGesture m =>
      let tracker := s.tracker.checkFullbodyGesture m ctrl idle present
      some { s with
        tracker := tracker, point := .body
        originGesture := s.originGesture || engagingGesture s.tracker tracker }
    | _ => none
  | .bodySample sample ref =>
    match s.point with
    | .body =>
      some { s with tracker := s.tracker.bodySection sample ref, point := .fullbody sample }
    | _ => none
  | .fullbodyTick ageMs t0 =>
    match s.point with
    | .fullbody sample =>
      some { s with
        tracker := s.tracker.fullbodySection sample ageMs t0, point := .top
        iterations := s.iterations + 1 }
    | _ => none
  | .updateArbiter fresh alive recoveryDone =>
    if s.resetCall then none
    else some (s.arbitrate (decideMode s.mode fresh alive s.tracker.calibrated recoveryDone))
  | .resetCalibration =>
    if s.resetCall then some { s with tracker := s.tracker.resetCalibration, resetCall := false }
    else none

/-- What a step does, one constructor per action. -/
inductive Fires : TeleopSession κ → Act κ → TeleopSession κ → Prop
  | consumeReset {s : TeleopSession κ} (hp : s.point = .top) :
      Fires s .consumeReset { s with tracker := s.tracker.consumeReset, point := .calibMode }
  | readCalibMode {s : TeleopSession κ} (hp : s.point = .calibMode) :
      Fires s .readCalibMode { s with point := .calibGesture s.mode }
  | calibrationGesture {s : TeleopSession κ} (m : Mode) (ctrl : Option FaceButtons)
      (hp : s.point = .calibGesture m) :
      Fires s (.calibrationGesture ctrl)
        { s with
          tracker := s.tracker.checkCalibrationGesture m ctrl, point := .fbMode
          originGesture := s.originGesture ||
            engagingGesture s.tracker (s.tracker.checkCalibrationGesture m ctrl) }
  | readFbMode {s : TeleopSession κ} (hp : s.point = .fbMode) :
      Fires s .readFbMode { s with point := .fbGesture s.mode }
  | fullbodyGesture {s : TeleopSession κ} (m : Mode) (ctrl : Option FaceButtons)
      (idle present : Bool) (hp : s.point = .fbGesture m) :
      Fires s (.fullbodyGesture ctrl idle present)
        { s with
          tracker := s.tracker.checkFullbodyGesture m ctrl idle present, point := .body
          originGesture := s.originGesture ||
            engagingGesture s.tracker (s.tracker.checkFullbodyGesture m ctrl idle present) }
  | bodySample {s : TeleopSession κ} (sample : TimestampedData κ.BodyPose)
      (ref : κ.WristReference) (hp : s.point = .body) :
      Fires s (.bodySample sample ref)
        { s with tracker := s.tracker.bodySection sample ref, point := .fullbody sample }
  | fullbodyTick {s : TeleopSession κ} (sample : TimestampedData κ.BodyPose) (ageMs : ℚ)
      (t0 : TimePoint) (hp : s.point = .fullbody sample) :
      Fires s (.fullbodyTick ageMs t0)
        { s with
          tracker := s.tracker.fullbodySection sample ageMs t0, point := .top
          iterations := s.iterations + 1 }
  | updateArbiter {s : TeleopSession κ} (fresh alive recoveryDone : Bool)
      (hc : s.resetCall = false) :
      Fires s (.updateArbiter fresh alive recoveryDone)
        (s.arbitrate (decideMode s.mode fresh alive s.tracker.calibrated recoveryDone))
  | resetCalibration {s : TeleopSession κ} (hc : s.resetCall = true) :
      Fires s .resetCalibration
        { s with tracker := s.tracker.resetCalibration, resetCall := false }

theorem fires_of_step {s t : TeleopSession κ} {a : Act κ} (h : s.step a = some t) :
    Fires s a t := by
  cases a with
  | consumeReset =>
    cases hp : s.point <;> simp only [step, hp, reduceCtorEq, Option.some.injEq] at h
    exact h ▸ .consumeReset hp
  | readCalibMode =>
    cases hp : s.point <;> simp only [step, hp, reduceCtorEq, Option.some.injEq] at h
    exact h ▸ .readCalibMode hp
  | calibrationGesture ctrl =>
    cases hp : s.point <;> simp only [step, hp, reduceCtorEq, Option.some.injEq] at h
    exact h ▸ .calibrationGesture _ ctrl hp
  | readFbMode =>
    cases hp : s.point <;> simp only [step, hp, reduceCtorEq, Option.some.injEq] at h
    exact h ▸ .readFbMode hp
  | fullbodyGesture ctrl idle present =>
    cases hp : s.point <;> simp only [step, hp, reduceCtorEq, Option.some.injEq] at h
    exact h ▸ .fullbodyGesture _ ctrl idle present hp
  | bodySample sample ref =>
    cases hp : s.point <;> simp only [step, hp, reduceCtorEq, Option.some.injEq] at h
    exact h ▸ .bodySample sample ref hp
  | fullbodyTick ageMs t0 =>
    cases hp : s.point <;> simp only [step, hp, reduceCtorEq, Option.some.injEq] at h
    exact h ▸ .fullbodyTick _ ageMs t0 hp
  | updateArbiter fresh alive recoveryDone =>
    cases hc : s.resetCall with
    | true => simp [step, hc] at h
    | false =>
      simp only [step, hc, Bool.false_eq_true, if_false, Option.some.injEq] at h
      exact h ▸ .updateArbiter fresh alive recoveryDone hc
  | resetCalibration =>
    cases hc : s.resetCall with
    | false => simp [step, hc] at h
    | true =>
      simp only [step, hc, if_true, Option.some.injEq] at h
      exact h ▸ .resetCalibration hc

/-- One full loop body with nothing in between: the steps of an iteration that reads
`ctrl` at both gestures. -/
def iterationActs (ctrl : Option FaceButtons) (sample : TimestampedData κ.BodyPose)
    (ref : κ.WristReference) (ageMs : ℚ) (t0 : TimePoint) : List (Act κ) :=
  [.consumeReset, .readCalibMode, .calibrationGesture ctrl, .readFbMode,
    .fullbodyGesture ctrl true sample.hasData, .bodySample sample ref,
    .fullbodyTick ageMs t0]

/-- Run back to back, the seven steps are the loop body. -/
theorem run_iterationActs (s : TeleopSession κ) (hp : s.point = .top)
    (ctrl : Option FaceButtons) (sample : TimestampedData κ.BodyPose)
    (ref : κ.WristReference) (ageMs : ℚ) (t0 : TimePoint) :
    ∃ t, Transition.run step s (iterationActs ctrl sample ref ageMs t0) = some t ∧
      t.point = .top ∧ t.mode = s.mode ∧
      t.tracker = s.tracker.loopIteration
        ⟨s.mode, ctrl, s.mode, ctrl, true, sample.hasData, sample, ref, ageMs, t0⟩ := by
  have hrun : ∃ t, Transition.run step s (iterationActs ctrl sample ref ageMs t0) = some t := by
    simp only [iterationActs, Transition.run_cons, Transition.run_nil, step, hp,
      Option.bind_some, Option.some.injEq, exists_eq']
  obtain ⟨t, ht⟩ := hrun
  refine ⟨t, ht, ?_⟩
  simp only [iterationActs, Transition.run_cons, Transition.run_nil, step, hp,
    Option.bind_some, Option.some.injEq] at ht
  subst ht
  exact ⟨rfl, rfl, rfl⟩

end TeleopSession

end Gearsonic
