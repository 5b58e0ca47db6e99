import Gearsonic.Control.TraceHeader
import Gearsonic.Control.WholeBodyController
import Gearsonic.Numeric.RowWriter
import Gearsonic.Pico.Controller
import Gearsonic.Unitree.HandGuard
import Gearsonic.Unitree.UnitreeState

/-!
# The row of a tick

`StateTrace::fill`: what it reads at a tick, and the moves of its writer over the row. A column is
a `float` and is read as exact.
-/

namespace Gearsonic

namespace StateTrace

open RowWriter

local instance atLeastTwo_billion : Nat.AtLeastTwo 1000000000 := ⟨by decide⟩

variable {K : Type} [Field K]

/-- The value of `WholeBodyController::State`. -/
def stateNumber : WholeBodyController.State → Int
  | .init => 0
  | .waitForControl => 1
  | .control => 2
  | .estop => 3

/-- The value of `ControlArbiter::Mode`. -/
def modeNumber : Mode → Int
  | .normal => 0
  | .teleop => 1
  | .vla => 2
  | .recovering => 3

/-- `RecordState`. -/
inductive RecordState where
  | idle
  | recording
  | awaitingLabel
  | unknown
deriving DecidableEq, Repr

def RecordState.number : RecordState → Int
  | .idle => 0
  | .recording => 1
  | .awaitingLabel => 2
  | .unknown => 255

/-- What one call of `fill` reads: the tick, and the buffer of every module. -/
structure TraceReads (K : Type) [Field K] where
  t0 : TimePoint
  startTime : TimePoint
  tick : Nat
  info : WholeBodyController.TickInfo K
  timingEncUs : Int
  timingDecUs : Int
  timingTotalUs : Int
  arbMode : Mode
  dropped : Nat
  smplWindow : Option (SmplPoseWindow K)
  vr3point : Option (VR3Point K)
  motionToken : Option (MotionTokenSample K)
  lastAction : Joints K
  motorCommand : Option (MotorCommand K)
  unitreeState : Option (UnitreeState K)
  healthFlags : Fin 29 → Nat
  leftHand : Option (HandState K)
  rightHand : Option (HandState K)
  lastCmd : Option (HandCommand K × HandCommand K)
  ctrl : Option (PicoVRController K)
  recordState : RecordState

/-- `put` for each element of an array. -/
def putEach {n : Nat} (v : Fin n → K) : List (Move K) := ((List.finRange n).map v).map .put

def boolNumber (b : Bool) : K := if b then 1 else 0

namespace TraceReads

variable (r : TraceReads K)

/-- Seconds since the start. -/
def elapsedS : K := (((r.t0 : Int) - r.startTime : Int) : K) / 1000000000

def tickMoves : List (Move K) :=
  [.put r.elapsedS, .put r.tick, .put (stateNumber r.info.wbcState : K),
    .put (modeNumber r.arbMode : K), .put (r.info.encoderMode : K), .put (r.info.plannerCursor : K),
    .put (r.timingEncUs : K), .put (r.timingDecUs : K), .put (r.timingTotalUs : K),
    .put (r.dropped : K)]

/-- The newest frame of the window. -/
def smplMoves : List (Move K) :=
  match r.smplWindow with
  | some w =>
    let p := w.frames (Fin.last 9)
    .put 1 :: (List.finRange 24).flatMap (fun j => putEach (p.jointsLocal j)) ++
      putEach p.anchorQuat ++ putEach p.wristJointPos
  | none => [.put 0, .skip (72 + 4 + 6)]

def vr3Moves : List (Move K) :=
  match r.vr3point with
  | some v => .put 1 :: putEach v.position ++ putEach v.orientation
  | none => [.put 0, .skip (9 + 12)]

def plannerMoves : List (Move K) :=
  match r.info.plannerFrame with
  | some frame => .put 1 :: putEach frame.joints
  | none => [.put 0, .skip 29]

def tokenMoves : List (Move K) :=
  match r.motionToken with
  | some tok => .put 1 :: putEach tok.token
  | none => [.put 0, .skip 64]

/-- The raw action in IsaacLab order, and the published target in MuJoCo order. -/
def decoderMoves : List (Move K) :=
  putEach r.lastAction ++
    match r.motorCommand with
    | some cmd => putEach cmd.qTarget
    | none => [.skip 29]

def robotMoves : List (Move K) :=
  match r.unitreeState with
  | some st =>
    .put 1 :: putEach (fun m => (st.motors m).q) ++ putEach (fun m => (st.motors m).dq) ++
      putEach (fun m => (st.motors m).tau) ++
      putEach (fun m => ((st.motors m).tempCasing : K)) ++
      putEach (fun m => ((st.motors m).tempWinding : K)) ++
      putEach (fun m => ((st.motors m).error.toNat : K)) ++
      putEach st.imuPelvis.quaternion ++ putEach st.imuPelvis.gyroscope
  | none => [.put 0, .skip (29 * 6 + 4 + 3)]

def healthMoves : List (Move K) := putEach fun m => (r.healthFlags m : K)

def handMoves : List (Move K) :=
  [.put (boolNumber r.leftHand.isSome), .put (boolNumber r.rightHand.isSome)] ++
    (match r.leftHand with
    | some l => putEach fun m => (l.motors m).q
    | none => [.skip 7]) ++
    (match r.rightHand with
    | some h => putEach fun m => (h.motors m).q
    | none => [.skip 7]) ++
    match r.lastCmd with
    | some c => putEach c.1.q ++ putEach c.2.q
    | none => [.skip 14]

def ctrlMoves : List (Move K) :=
  match r.ctrl with
  | some c =>
    [.put 1, .put c.leftAxis.1, .put c.leftAxis.2, .put c.rightAxis.1, .put c.rightAxis.2,
      .put (boolNumber c.btnA), .put (boolNumber c.btnB), .put (boolNumber c.btnX),
      .put (boolNumber c.btnY), .put c.leftTrigger, .put c.rightTrigger, .put c.leftGrip,
      .put c.rightGrip]
  | none => [.put 0, .skip 12]

def recordMoves : List (Move K) := [.put (r.recordState.number : K)]

def moves : List (Move K) :=
  r.tickMoves ++ r.smplMoves ++ r.vr3Moves ++ r.plannerMoves ++ r.tokenMoves ++ r.decoderMoves ++
    r.robotMoves ++ r.healthMoves ++ r.handMoves ++ r.ctrlMoves ++ r.recordMoves

end TraceReads

/-- The cleared row. -/
def clearRow (row : Nat → K) : Nat → K := fun x => if x < numColumns then 0 else row x

/-- `fill`: the row, and where the write index ends. -/
def fill (r : TraceReads K) (row : Nat → K) : RowWriter K := run ⟨clearRow row, 0⟩ r.moves

end StateTrace

end Gearsonic
