import Gearsonic.Common.DataBuffer
import Gearsonic.Control.ControlArbiter
import Gearsonic.Pico.Controller
import Gearsonic.Unitree.HandGuard
import Gearsonic.Vla.VlaTokenReceiver

/-!
# The hand writer

`HandCommandWriter`: the 100 Hz loop that selects both hands' targets, guards them and
publishes them. The branches are, highest priority first, the emergency stop, a VLA
session, the fist before teleop, the controller axes, and the open pose. The floats are
numbers here; `FloatHandWriter` has infinities and NaN as well.
-/

set_option linter.unusedSectionVars false

namespace Gearsonic

/-- What one tick publishes. -/
structure HandCommandPair (K : Type) [Field K] where
  left : HandCommand K
  right : HandCommand K

/-- The safe stop of both hands. -/
def HandCommandPair.stop {K : Type} [Field K] : HandCommandPair K := ⟨.stop, .stop⟩

structure HandCommandWriter (K : Type) [Field K] where
  leftGuard : HandGuard K := {}
  rightGuard : HandGuard K := { isLeft := false }
  squeezeLGrip : HoldSqueeze K := {}
  squeezeLTrig : HoldSqueeze K := {}
  squeezeRGrip : HoldSqueeze K := {}
  squeezeRTrig : HoldSqueeze K := {}
  wasCalibrated : Bool := false
  calibratedAt : TimePoint := 0
  lastCmdBuf : DataBuffer (HandCommandPair K) := {}

namespace HandCommandWriter

variable {K : Type} [Field K] [LinearOrder K]

/-- 10 ms, in seconds. -/
def kPublishPeriodS : K := 0.01

/-- 500 ms, in nanoseconds. -/
def kFistReleaseDelay : Nat := 500000000

/-- What one tick reads from other threads. The clock reads of one tick are one. -/
structure TickReads (K : Type) [Field K] where
  t0 : TimePoint := 0
  calibrated : Bool := false
  arbMode : Mode := .normal
  estop : Bool := false
  vla : Option (VlaLatentAction K) := none
  ctrl : Option (PicoVRController K) := none
  leftState : TimestampedData (HandState K) := {}
  rightState : TimestampedData (HandState K) := {}

/-- Follow the calibrated flag. -/
def trackCalibration (w : HandCommandWriter K) (r : TickReads K) : HandCommandWriter K :=
  { w with
    calibratedAt := if r.calibrated && !w.wasCalibrated then r.t0 else w.calibratedAt
    wasCalibrated := r.calibrated }

/-- Before teleop, and shortly after it engages, the hands hold a fist. -/
def holdFist (w : HandCommandWriter K) (r : TickReads K) : Bool :=
  !r.calibrated || decide (r.t0 < w.calibratedAt + kFistReleaseDelay)

def resetSqueezes (w : HandCommandWriter K) : HandCommandWriter K :=
  { w with squeezeLGrip := {}, squeezeLTrig := {}, squeezeRGrip := {}, squeezeRTrig := {} }

/-- The axes of a controller sample, with the squeeze carried on. -/
def trackAxes (w : HandCommandWriter K) (ctrl : PicoVRController K) :
    HandCommandWriter K × HandCommandPair K :=
  let (lGrip, slg) := w.squeezeLGrip.update ctrl.leftGrip kPublishPeriodS
  let (lTrig, slt) := w.squeezeLTrig.update ctrl.leftTrigger kPublishPeriodS
  let (rGrip, srg) := w.squeezeRGrip.update ctrl.rightGrip kPublishPeriodS
  let (rTrig, srt) := w.squeezeRTrig.update ctrl.rightTrigger kPublishPeriodS
  ({ w with
      squeezeLGrip := lGrip, squeezeLTrig := lTrig
      squeezeRGrip := rGrip, squeezeRTrig := rTrig },
    ⟨.fromGripAndTrigger ctrl.leftGrip ctrl.leftTrigger slg slt true,
      .fromGripAndTrigger ctrl.rightGrip ctrl.rightTrigger srg srt false⟩)

/-- The same pose on both hands, whatever the axes. -/
def fixedPose (grip trigger squeeze : K) : HandCommandPair K :=
  ⟨.fromGripAndTrigger grip trigger squeeze squeeze true,
    .fromGripAndTrigger grip trigger squeeze squeeze false⟩

/-- The latent action whose hand targets replace the axes: a session holds the robot and
there has been one. -/
def vlaTargets (r : TickReads K) : Option (VlaLatentAction K) :=
  if r.arbMode.inSession then r.vla else none

/-- Target selection. -/
def selectTargets (w : HandCommandWriter K) (r : TickReads K) :
    HandCommandWriter K × HandCommandPair K :=
  if r.estop then (w.resetSqueezes, .stop)
  else
    match vlaTargets r with
    | some vla =>
      (w.resetSqueezes,
        ⟨.fromVlaJoints vla.leftHand true, .fromVlaJoints vla.rightHand false⟩)
    | none =>
      if w.holdFist r then (w.resetSqueezes, fixedPose 1 1 1)
      else
        match r.ctrl with
        | some ctrl => w.trackAxes ctrl
        | none => (w.resetSqueezes, fixedPose 0 0 0)

/-- A hand's measurement, if it is fresh. -/
def freshState (w : HandCommandWriter K) (state : TimestampedData (HandState K))
    (now : TimePoint) : Option (HandState K) :=
  if state.hasData && decide (state.getAgeMs now < w.leftGuard.p.stateStaleMs) then state.data
  else none

/-- The feedback stage. -/
def guardTargets (w : HandCommandWriter K) (r : TickReads K) (cmds : HandCommandPair K) :
    HandCommandWriter K × HandCommandPair K :=
  if cmds.left.enabled || cmds.right.enabled then
    let (leftGuard, left) :=
      w.leftGuard.apply cmds.left (w.freshState r.leftState r.t0) kPublishPeriodS
    let (rightGuard, right) :=
      w.rightGuard.apply cmds.right (w.freshState r.rightState r.t0) kPublishPeriodS
    ({ w with leftGuard := leftGuard, rightGuard := rightGuard }, ⟨left, right⟩)
  else (w, cmds)

/-- Everything a tick does before it publishes. -/
def computeTargets (w : HandCommandWriter K) (r : TickReads K) :
    HandCommandWriter K × HandCommandPair K :=
  let (w, cmds) := (w.trackCalibration r).selectTargets r
  w.guardTargets r cmds

def publish (w : HandCommandWriter K) (cmds : HandCommandPair K) (now : TimePoint) :
    HandCommandWriter K :=
  { w with lastCmdBuf := w.lastCmdBuf.setData cmds now }

/-- One pass through the body of `HandCommandWriter::loop`. -/
def loopIteration (w : HandCommandWriter K) (r : TickReads K) : HandCommandWriter K :=
  let (w, cmds) := w.computeTargets r
  w.publish cmds r.t0

/-- With the emergency stop read, the tick publishes the safe stop. -/
theorem computeTargets_estop {w : HandCommandWriter K} {r : TickReads K} (h : r.estop = true) :
    (w.computeTargets r).2 = .stop := by
  simp [computeTargets, selectTargets, guardTargets, h, HandCommandPair.stop, HandCommand.stop]

/-- Only `publish` stores the pair. -/
theorem computeTargets_lastCmdBuf (w : HandCommandWriter K) (r : TickReads K) :
    (w.computeTargets r).1.lastCmdBuf = w.lastCmdBuf := by
  have hguard : ∀ (w : HandCommandWriter K) (cmds : HandCommandPair K),
      (w.guardTargets r cmds).1.lastCmdBuf = w.lastCmdBuf := by
    intro w cmds
    unfold guardTargets
    split <;> rfl
  have hselect : ∀ w : HandCommandWriter K, (w.selectTargets r).1.lastCmdBuf = w.lastCmdBuf := by
    intro w
    unfold selectTargets
    split
    · rfl
    · split
      · rfl
      · split
        · rfl
        · split <;> rfl
  exact (hguard _ _).trans (hselect _)

end HandCommandWriter

end Gearsonic
