import Gearsonic.Common.DataBuffer
import Gearsonic.Control.MotorCommand
import Gearsonic.Control.PolicyDecoder
import Gearsonic.Control.StateLogger
import Gearsonic.Control.TokenEncoder
import Gearsonic.Unitree.UnitreeState
import Gearsonic.Vla.VlaTokenReceiver

/-!
# The whole-body controller

`WholeBodyController`: the 50 Hz loop with its states INIT, WAIT_FOR_CONTROL and CONTROL,
the two safety gates in front of them, and the playback of the planner's motion. The loop
is the arbiter's single writer, so the arbiter stage is a member here.

A tick is a function of the controller and of what the tick reads from other threads
(`TickReads`); what the two engines return is among the reads. `outputs` is not a member
of the source: it lists the calls of the tick in progress that other modules can see.
-/

set_option linter.unusedSectionVars false

namespace Gearsonic

def kStateStaleMs : ℚ := 500
def kStateGraceTicks : Nat := 25
def kBaseRampTicks : Nat := 50

namespace WholeBodyController

inductive State where
  | init
  | waitForControl
  | control
  | estop
deriving DecidableEq, Repr

/-- The code path a motor command comes from. -/
inductive Writer where
  | initRamp
  | baseHold
  | policy
  | damping
deriving DecidableEq, Repr

structure TickInfo (K : Type) [Field K] where
  wbcState : State
  encoderMode : Int
  plannerCursor : Int
  plannerFrame : Option (MotionSequence50Hz.Frame K)

inductive Output (K : Type) [Field K] where
  | motorCommand (writer : Writer) (cmd : MotorCommand K)
  | motionToken (sample : MotionTokenSample K)
  | resetCalibration
  | disarm
  | requestReinit
  | trace (info : TickInfo K)

def kInitTicks : Nat := 150
def kBlendFrames : Nat := 8

end WholeBodyController

open WholeBodyController in
structure WholeBodyController (K : Type) [Field K] where
  state : State := .init
  autoStart : Bool := false
  motorCommandBuf : DataBuffer (MotorCommand K) := {}
  motionTokenBuf : DataBuffer (MotionTokenSample K) := {}
  tokenSeq : Nat := 0
  reinitTicketIssued : Bool := false
  reinitTicket : Nat := 0
  lastVr3Present : Bool := false
  lastSmplPresent : Bool := false
  encoder : TokenEncoder K := {}
  decoder : PolicyDecoder K := {}
  logger : StateLogger K := {}
  arbiter : ControlArbiter K := {}
  playbackMotion : MotionSequence50Hz K := {}
  cursor : Int := 0
  playing : Bool := false
  lastPlanStamp : TimePoint := 0
  initTicks : Nat := 0
  stateMissingTicks : Nat := 0
  baseRampFrom : MotorCommand K := {}
  stateReseedTicket : Nat := 0
  outputs : List (Output K) := []

namespace WholeBodyController

variable {K : Type} [Field K] [LinearOrder K] [CMath K]

def kMaxJointVel : K := 35

/-- Record a call into another module. -/
def emit (c : WholeBodyController K) (o : Output K) : WholeBodyController K :=
  { c with outputs := c.outputs ++ [o] }

/-- `motor_command_buf.SetData`. -/
def publish (c : WholeBodyController K) (w : Writer) (cmd : MotorCommand K) (now : TimePoint) :
    WholeBodyController K :=
  { c with motorCommandBuf := c.motorCommandBuf.setData cmd now }.emit (.motorCommand w cmd)

def publishDamping (c : WholeBodyController K) (now : TimePoint) : WholeBodyController K :=
  c.publish .damping (MotorCommand.damping K) now

def playbackSnapshot (c : WholeBodyController K) : Option (MotionSequence50Hz K × Int) :=
  if c.playbackMotion.timesteps = 0 then none else some (c.playbackMotion, c.cursor)

/-- Discard the playback timeline. -/
def resetPlayback (c : WholeBodyController K) : WholeBodyController K :=
  { c with playbackMotion := {}, cursor := 0, playing := false, lastPlanStamp := 0 }

/-! ## Safety and robot state -/

def checkSafety (lowState : TimestampedData (UnitreeState K)) (now : TimePoint) : Bool :=
  lowState.hasData && decide (lowState.getAgeMs now ≤ kStateStaleMs)

/-- The target `ratio` of the way from a command to the standing pose. -/
def rampTarget (start : Joints K) (ratio : K) : Joints K := fun i =>
  start i * (1.0 - ratio) + g1DefaultAngles K i * ratio

/-- How far the base ramp is after this many missing ticks. -/
def baseRampRatio (missing : Nat) : K :=
  clamp ((((missing : Int) - kStateGraceTicks : Int) : K) / kBaseRampTicks) 0 1

def publishBaseHold (c : WholeBodyController K) (now : TimePoint) : WholeBodyController K :=
  c.publish .baseHold
    (.withPolicyGains (rampTarget c.baseRampFrom.qTarget (baseRampRatio c.stateMissingTicks))) now

/-- A tick whose LowState is missing. -/
def tickMissing (c : WholeBodyController K) (now : TimePoint) : WholeBodyController K :=
  let c := { c with stateMissingTicks := c.stateMissingTicks + 1 }
  if kStateGraceTicks < c.stateMissingTicks then
    let c :=
      if c.stateMissingTicks = kStateGraceTicks + 1 then
        { c with baseRampFrom := (c.motorCommandBuf.getData).getD c.baseRampFrom }
      else c
    c.publishBaseHold now
  else c

/-- Some joint is faster than the limit. -/
def overLimit (st : UnitreeState K) : Bool :=
  (List.finRange 29).any fun i => decide (kMaxJointVel < |(st.motors (mujocoToIsaaclab i)).dq|)

def loggerEntry (c : WholeBodyController K) (st : UnitreeState K) : StateLogger.Entry K :=
  { baseQuat := st.imuPelvis.quaternion
    baseAngVel := st.imuPelvis.gyroscope
    bodyQ := fun i => (st.motors (mujocoToIsaaclab i)).q - g1DefaultAngles K (mujocoToIsaaclab i)
    bodyDq := fun i => (st.motors (mujocoToIsaaclab i)).dq
    lastAction := c.decoder.lastAction }

/-- `gather_robot_state`; `none` where it returns false. -/
def gatherRobotState (c : WholeBodyController K) (robotState : Option (UnitreeState K)) :
    Option (WholeBodyController K) :=
  match robotState with
  | none => none
  | some st =>
    if overLimit st then none else some { c with logger := c.logger.log (c.loggerEntry st) }

/-! ## INIT -/

def tickInit (c : WholeBodyController K) (robotState : Option (UnitreeState K))
    (now : TimePoint) : WholeBodyController K :=
  match robotState with
  | none => c
  | some st =>
    let ratio : K := clamp ((c.initTicks : K) / kInitTicks) 0 1
    let c := c.publish .initRamp
      (.withPolicyGains (rampTarget (fun i => (st.motors i).q) ratio)) now
    let c := { c with initTicks := c.initTicks + 1 }
    if kInitTicks ≤ c.initTicks then { c with state := .waitForControl } else c

/-! ## Playback -/

/-- Frame `f` of the old playback crossfaded into a new plan. -/
def blendFrame (old gen : MotionSequence50Hz K) (cursor : Int) (f : Nat) :
    MotionSequence50Hz.Frame K :=
  let blendStart : Int := max 0 (gen.genFrame - cursor)
  let wNew : K := clamp ((((f : Int) - blendStart : Int) : K) / kBlendFrames) 0 1
  let wOld : K := 1.0 - wNew
  let a := old.frame (clamp (f + cursor) 0 (old.timesteps - 1))
  let b := gen.frame (clamp (f + cursor - gen.genFrame) 0 (gen.timesteps - 1))
  { joints := fun j => wOld * a.joints j + wNew * b.joints j
    jointVelocities := fun j => wOld * a.jointVelocities j + wNew * b.jointVelocities j
    position := fun i => wOld * a.position i + wNew * b.position i
    quaternion := quatSlerp a.quaternion b.quaternion wNew }

/-- The length of the blended playback; the plan is dropped where it is not positive. -/
def blendLength (gen : MotionSequence50Hz K) (cursor : Int) : Int :=
  gen.genFrame - cursor + gen.timesteps

/-- The old playback from the cursor on, crossfaded into a new plan. -/
def blendPlayback (old gen : MotionSequence50Hz K) (cursor : Int) : MotionSequence50Hz K :=
  { frames := (List.range (min (blendLength gen cursor)
      (MotionSequence50Hz.kCapacity : Int)).toNat).map (blendFrame old gen cursor) }

/-- A plan that has not been taken yet. -/
def newPlan (c : WholeBodyController K) (plan : TimestampedData (MotionSequence50Hz K)) : Bool :=
  plan.hasData && decide (plan.timestamp ≠ c.lastPlanStamp)

/-- Take a new plan: wholesale into an empty playback, else blended. -/
def adoptPlan (c : WholeBodyController K) (gen : MotionSequence50Hz K) (stamp : TimePoint) :
    WholeBodyController K :=
  let c := { c with lastPlanStamp := stamp }
  if c.playbackMotion.timesteps = 0 then
    { c with
      playbackMotion := gen, cursor := 0, playing := true
      encoder := c.encoder.requestHeadingReinit }
  else if 0 < blendLength gen c.cursor then
    { c with playbackMotion := blendPlayback c.playbackMotion gen c.cursor, cursor := 0 }
  else c

/-- One frame per tick, holding the last one. -/
def advanceCursor (c : WholeBodyController K) : WholeBodyController K :=
  if c.playing && decide (0 < c.playbackMotion.timesteps) then
    { c with cursor := min (c.cursor + 1) (c.playbackMotion.timesteps - 1) }
  else c

def advancePlayback (c : WholeBodyController K)
    (plan : TimestampedData (MotionSequence50Hz K)) : WholeBodyController K :=
  let c :=
    match plan.data with
    | some gen => if plan.timestamp ≠ c.lastPlanStamp then c.adoptPlan gen plan.timestamp else c
    | none => c
  c.advanceCursor

/-! ## The tick's reads -/

/-- What one pass through the loop body reads from other threads, and what the engines
return in it. `robotState` is the second read of the LowState buffer and `vlaData` the
second read of the token stream; either may find the buffer changed. The clock reads of
one tick are one. -/
structure TickReads (K : Type) [Field K] where
  now : TimePoint := 0
  estop : Bool := false
  lowState : TimestampedData (UnitreeState K) := {}
  /-- What `request_reinit()` returns when the loss was long. -/
  stateTicket : Nat := 0
  robotState : Option (UnitreeState K) := none
  operatorStart : Bool := false
  /-- `reinit_done()` as the wait after a long loss reads it. -/
  stateReinitDone : Nat := 0
  vla : TimestampedData (VlaLatentAction K) := {}
  calibrated : Bool := false
  /-- `reinit_done()` as `update_arbiter` reads it. -/
  reinitDone : Nat := 0
  vlaData : Option (VlaLatentAction K) := none
  /-- What `request_reinit()` returns in the recovery. -/
  recoveryTicket : Nat := 0
  vr3point : Option (VR3Point K) := none
  smpl : Option (SmplPoseWindow K) := none
  encoderOut : Option (Token K) := none
  decoderOut : Option (Joints K) := none
  stampNs : Int := 0
  plan : TimestampedData (MotionSequence50Hz K) := {}
  traceEnabled : Bool := false

/-! ## Arbitration -/

/-- Step the arbiter with this tick's inputs. -/
def stepArbiter (c : WholeBodyController K) (r : TickReads K) : ControlArbiter K :=
  let vlaFresh := r.vla.hasData && decide (r.vla.getAgeMs r.now ≤ kVlaTokenFreshMs)
  let vlaAlive := r.vla.hasData && decide (r.vla.getAgeMs r.now ≤ kVlaTokenHoldMs)
  let recoveryDone := c.reinitTicketIssued && decide (c.reinitTicket ≤ r.reinitDone)
  c.arbiter.stepMode vlaFresh vlaAlive r.calibrated recoveryDone

/-- The recovery is over: the transition that discards the playback. -/
def leavesRecovery (c : WholeBodyController K) (r : TickReads K) : Bool :=
  c.arbiter.mode = .recovering && (c.stepArbiter r).mode = .normal

/-- The transition itself, up to the discard. -/
def decideOwner (c : WholeBodyController K) (r : TickReads K) : WholeBodyController K :=
  let arbiter := c.stepArbiter r
  let entered := arbiter.mode ≠ c.arbiter.mode
  let c := { c with arbiter := arbiter }
  if entered then
    match arbiter.mode with
    | .vla => c.emit .resetCalibration
    | .recovering => { c with reinitTicketIssued := false }
    | .teleop | .normal => c
  else c

/-- Discard the playback and drop locomotion to IDLE. -/
def enterOrigin (c : WholeBodyController K) : WholeBodyController K :=
  c.resetPlayback.emit .disarm

def updateArbiter (c : WholeBodyController K) (r : TickReads K) : WholeBodyController K :=
  if c.leavesRecovery r then (c.decideOwner r).enterOrigin else c.decideOwner r

def recordToken (c : WholeBodyController K) (token : Token K) (encoderRan : Bool)
    (r : TickReads K) : WholeBodyController K :=
  let em : Int := if encoderRan then c.encoder.lastMode else -1
  let s : MotionTokenSample K :=
    { token := token
      seq := c.tokenSeq + 1
      stampNs := r.stampNs
      arbiterMode := c.arbiter.mode
      encoderMode := if em < 0 then 255 else em.toNat }
  { c with
    tokenSeq := c.tokenSeq + 1
    motionTokenBuf := c.motionTokenBuf.setData s r.now }.emit (.motionToken s)

/-- Decode a token, publish the command and record the token; `none` where the decoder
fails. -/
def publishDecoded (c : WholeBodyController K) (token : Token K) (encoderRan : Bool)
    (r : TickReads K) : Option (WholeBodyController K) :=
  match c.decoder.step r.decoderOut with
  | (_, none) => none
  | (decoder, some cmd) =>
    some (({ c with decoder := decoder }.publish .policy cmd r.now).recordToken token encoderRan r)

def decodeAndPublish (c : WholeBodyController K) (token : Token K) (r : TickReads K) :
    WholeBodyController K :=
  (c.publishDecoded token false r).getD c

/-- Put the tick's token out through the arbiter stage. -/
def selectToken (c : WholeBodyController K) (encoderToken vlaToken : Option (Token K)) :
    WholeBodyController K × Token K :=
  let (arbiter, token) := c.arbiter.selectToken encoderToken vlaToken
  ({ c with arbiter := arbiter }, token)

def tickVla (c : WholeBodyController K) (r : TickReads K) : WholeBodyController K :=
  match r.vlaData with
  | none => c
  | some vla =>
    let (c, token) := c.selectToken none (some vla.token)
    c.decodeAndPublish token r

/-- The standing blend has landed and the reseed is not asked for yet. -/
def reseedDue (c : WholeBodyController K) : Bool :=
  c.arbiter.recoveryBlendDone && !c.reinitTicketIssued

/-- Ask the planner for the recovery's reseed. -/
def requestRecoveryReseed (c : WholeBodyController K) (ticket : Nat) : WholeBodyController K :=
  { c with reinitTicket := ticket, reinitTicketIssued := true }.emit .requestReinit

def tickRecovery (c : WholeBodyController K) (r : TickReads K) : WholeBodyController K :=
  let (c, token) := c.selectToken none none
  let c := if c.reseedDue then c.requestRecoveryReseed r.recoveryTicket else c
  c.decodeAndPublish token r

/-! ## CONTROL -/

/-- Upper-body teleop engaged or released: crossfade the token. -/
def vr3Edge (c : WholeBodyController K) (present : Bool) : WholeBodyController K :=
  if present ≠ c.lastVr3Present then
    { c with lastVr3Present := present, arbiter := c.arbiter.armHandoff }
  else c

/-- Full-body teleop engaged or released: also re-anchor the heading and drop locomotion. -/
def smplEdge (c : WholeBodyController K) (present : Bool) : WholeBodyController K :=
  if present ≠ c.lastSmplPresent then
    { c with
      lastSmplPresent := present
      arbiter := c.arbiter.armHandoff
      encoder := c.encoder.requestHeadingReinit }.emit .disarm
  else c

/-- The planner and encoder path over a playback that is not empty, up to the published
command; the flag says that it was reached. -/
def tickEncoder (c : WholeBodyController K) (r : TickReads K) : WholeBodyController K × Bool :=
  let c := (c.vr3Edge r.vr3point.isSome).smplEdge r.smpl.isSome
  let (encoder, out) :=
    c.encoder.step c.playbackMotion c.cursor c.logger r.vr3point r.smpl r.encoderOut
  let c := { c with encoder := encoder }
  match out with
  | none => (c, false)
  | some token =>
    let (c, token) := c.selectToken (some token) none
    match c.publishDecoded token true r with
    | none => (c, false)
    | some c => (c, true)

/-- The planner and encoder path. -/
def tickPlayback (c : WholeBodyController K) (r : TickReads K) : WholeBodyController K :=
  if c.playbackMotion.timesteps = 0 then c.advancePlayback r.plan
  else
    let (c, decoded) := c.tickEncoder r
    if decoded then c.advancePlayback r.plan else c

/-- A planner reseed after a long loss is still awaited. -/
def awaitsReseed (c : WholeBodyController K) (reinitDone : Nat) : Bool :=
  decide (c.stateReseedTicket ≠ 0) && decide (reinitDone < c.stateReseedTicket)

/-- The owner's part of a tick, once the arbiter has decided. -/
def tickOwner (c : WholeBodyController K) (r : TickReads K) : WholeBodyController K :=
  match c.arbiter.mode with
  | .vla => c.tickVla r
  | .recovering => c.tickRecovery r
  | .normal | .teleop => c.tickPlayback r

def tickControl (c : WholeBodyController K) (r : TickReads K) : WholeBodyController K :=
  match c.gatherRobotState r.robotState with
  | none => c
  | some c =>
    if c.awaitsReseed r.stateReinitDone then c
    else (({ c with stateReseedTicket := 0 }).updateArbiter r).tickOwner r

/-! ## The loop -/

/-- The e-stop branch. -/
def tickEstop (c : WholeBodyController K) (now : TimePoint) : WholeBodyController K :=
  { c with state := .estop }.publishDamping now

/-- A loss longer than the grace window ends in CONTROL. -/
def reentryDue (c : WholeBodyController K) : Bool :=
  decide (kStateGraceTicks < c.stateMissingTicks) && decide (c.state = .control)

/-- The request that ends the re-entry after a long loss. -/
def requestStateReseed (c : WholeBodyController K) (ticket : Nat) : WholeBodyController K :=
  { c with stateReseedTicket := ticket, stateMissingTicks := 0 }.emit .requestReinit

/-- LowState is back: after a long loss re-enter through the origin. -/
def tickRecovered (c : WholeBodyController K) (ticket : Nat) : WholeBodyController K :=
  if c.reentryDue then c.enterOrigin.requestStateReseed ticket
  else { c with stateMissingTicks := 0 }

def tickWait (c : WholeBodyController K) (operatorStart : Bool) : WholeBodyController K :=
  if operatorStart || c.autoStart then { c with state := .control } else c

/-- The switch over the state. -/
def tickState (c : WholeBodyController K) (r : TickReads K) : WholeBodyController K :=
  match c.state with
  | .init => c.tickInit r.robotState r.now
  | .waitForControl => c.tickWait r.operatorStart
  | .control => c.tickControl r
  | .estop => c

def traceTick (c : WholeBodyController K) (enabled : Bool) : WholeBodyController K :=
  if enabled then
    c.emit (.trace
      { wbcState := c.state
        encoderMode := c.encoder.lastMode
        plannerCursor := c.cursor
        plannerFrame :=
          if 0 < c.playbackMotion.timesteps then
            some (c.playbackMotion.frame (clamp c.cursor 0 (c.playbackMotion.timesteps - 1)))
          else none })
  else c

/-- One pass through the body of `WholeBodyController::loop`. -/
def loopIteration (c : WholeBodyController K) (r : TickReads K) : WholeBodyController K :=
  let c := { c with outputs := [] }
  if r.estop then c.tickEstop r.now
  else if !checkSafety r.lowState r.now then c.tickMissing r.now
  else ((c.tickRecovered r.stateTicket).tickState r).traceTick r.traceEnabled

end WholeBodyController

end Gearsonic
