import Gearsonic.Common.DataBuffer
import Gearsonic.Common.RobotParams
import Gearsonic.Motion.MovementState
import Gearsonic.Planner.MotionSequence

/-!
# The planner

`PlannerInference`: the 10 Hz loop that turns the latest movement command into a motion
plan. The TensorRT engine is not modelled: what it returns is an input of the step that
runs it (`none` when `Enqueue` fails), so everything proved here holds for any engine.

The loop body is cut into the steps between which other threads can act: the poll of the
reseed request, one initialization, the set-up of one replan from the playback snapshot,
and the inference that ends either. `loopIteration` is the whole body.
-/

set_option linter.unusedSectionVars false

namespace Gearsonic

variable {K : Type} [Field K] [LinearOrder K] [CMath K]

def kMaxPlannerFrames : Nat := 64
def kLookAheadSteps : Int := 2

def kLoopPeriodS : K := 0.1
def kReplanIntervalRunning : K := 0.1
def kReplanIntervalCrawling : K := 0.2
def kReplanIntervalBoxing : K := 1.0
def kReplanIntervalDefault : K := 1.0

/-- What one inference returns. A `qpos` number is `none` where the engine wrote a NaN. -/
structure EngineOutput (K : Type) where
  mujocoQpos : Fin 64 → Fin 36 → Option K
  numPredFrames : Int

/-- An inference that returns two standing frames. -/
def standingOutput : EngineOutput K :=
  { mujocoQpos := fun _ i => some (if i = 3 then 1 else 0), numPredFrames := 2 }

/-- The input tensors next to the context. -/
structure InputTensors (K : Type) [Field K] where
  mode : Int := 0
  targetVel : K := 0
  height : K := 0
  movementDirection : Vec3 K := fun _ => 0
  facingDirection : Vec3 K := fun _ => 0
  randomSeed : Int := 0
  hasSpecificTarget : Int := 0
  specificTargetPositions : Fin 12 → K := fun _ => 0
  specificTargetHeadings : Fin 4 → K := fun _ => 0
  allowedPredNumTokens : Fin 11 → Int := fun _ => 0

structure PlannerInference (K : Type) [Field K] where
  genFrame : Int := 0
  initialized : Bool := false
  reinitRequested : Nat := 0
  reinitDone : Nat := 0
  defaultHeight : K := 0.788740
  currentRandomSeed : Int := 1234
  lastMovementState : MovementState K := {}
  replanIntervalCounter : K := 0
  lastPublish : TimePoint := 0
  motionSeq : MotionSequence50Hz K := {}
  context : Fin 4 → Fin 36 → K := fun _ _ => 0
  inputs : InputTensors K := {}
  motion50hzBuf : DataBuffer (MotionSequence50Hz K) := {}

/-! ## The 30 Hz to 50 Hz resampler -/

/-- Gather the joints of one `qpos` row from MuJoCo order into IsaacLab order. -/
def gatherJoints (row : Fin 36 → K) : Joints K := fun j =>
  row (Fin.natAdd 7 (mujocoToIsaaclab j))

/-- The engine's rows as numbers, once they are known to hold no NaN. -/
def EngineOutput.row (out : EngineOutput K) (f : Int) : Fin 36 → K := fun i =>
  (out.mujocoQpos (Fin.ofNat 64 f.toNat) i).getD 0

/-- Position, orientation and joints of 50 Hz frame `f`. -/
def resampledFrame (out : EngineOutput K) (f : Nat) : MotionSequence50Hz.Frame K :=
  let t : K := (f : K) / 50.0
  let f30hz : K := t * 30.0
  let f0 := CMath.floor f30hz
  let f1 := min (f0 + 1) (out.numPredFrames - 1)
  let w1 : K := f30hz - f0
  let w0 : K := 1.0 - w1
  let p0 := out.row f0
  let p1 := out.row f1
  { position := fun i => w0 * p0 (i.castLE (by decide)) + w1 * p1 (i.castLE (by decide))
    quaternion := quatSlerp (fun i => p0 ((i.natAdd 3).castLE (by decide)))
      (fun i => p1 ((i.natAdd 3).castLE (by decide))) w1
    joints := fun j => w0 * gatherJoints p0 j + w1 * gatherJoints p1 j }

/-- Forward difference of the joints of frame `f`. -/
def forwardDifference (out : EngineOutput K) (f : Nat) : Joints K := fun j =>
  ((resampledFrame out (f + 1)).joints j - (resampledFrame out f).joints j) * 50.0

/-- `resample_30hz_to_50hz`: `none` where it reports a failure, and then `motion_seq_` is
as it was. -/
def resample30HzTo50Hz (motionSeq : MotionSequence50Hz K) (out : EngineOutput K) :
    Option (MotionSequence50Hz K) :=
  if out.numPredFrames ≤ 0 ∨ (kMaxPlannerFrames : Int) < out.numPredFrames then none
  else if (List.finRange 64).any fun f =>
      decide ((f.val : Int) < out.numPredFrames) &&
        (List.finRange 36).any fun i => (out.mujocoQpos f i).isNone then none
  else
    let motionSeconds : K := (out.numPredFrames : K) / 30.0
    let n50hz := min (CMath.floor (motionSeconds * 50.0)) (MotionSequence50Hz.kCapacity : Int)
    if n50hz < 2 then none
    else
      let n := n50hz.toNat
      some { motionSeq with
        frames := (List.range n).map fun f =>
          { resampledFrame out f with
            jointVelocities := forwardDifference out (if f < n - 1 then f else n - 2) } }

/-! ## Context and input tensors -/

/-- One context row. -/
def qposRow (position : Vec3 K) (quaternion : Quat K) (joints : Joints K) : Fin 36 → K :=
  fun i =>
    if hp : i.val < 3 then position ⟨i.val, hp⟩
    else if hq : i.val < 7 then quaternion ⟨i.val - 3, by omega⟩
    else joints ⟨i.val - 7, by omega⟩

/-- `initialize_context`: four copies of the measured standing pose in the zero-yaw frame. -/
def initializeContext (defaultHeight : K) (jointPositions : Joints K) : Fin 4 → Fin 36 → K :=
  fun _ => qposRow ![0, 0, defaultHeight] ![1, 0, 0, 0] jointPositions

/-- Scatter joints from IsaacLab order to MuJoCo order. -/
def scatterJoints (v : Joints K) : Joints K :=
  (List.finRange 29).foldl (fun dst j => Function.update dst (mujocoToIsaaclab j) (v j))
    fun _ => 0

/-- `update_context_from_motion`: four rows at 30 Hz, from frame `genFrame` on. -/
def updateContextFromMotion (genFrame : Int) (motion : MotionSequence50Hz K) :
    Fin 4 → Fin 36 → K := fun n =>
  let genTime : K := (genFrame : K) / 50.0
  let t : K := genTime + (n.val : K) / 30.0
  let f50hz : K := t * 50.0
  let last : Int := motion.timesteps - 1
  let f0 := clamp (CMath.floor f50hz) 0 last
  let f1 := min (f0 + 1) last
  let w1 : K := f50hz - CMath.floor f50hz
  let w0 : K := 1.0 - w1
  let a := motion.frame f0
  let b := motion.frame f1
  qposRow (fun i => w0 * a.position i + w1 * b.position i)
    (quatSlerp a.quaternion b.quaternion w1)
    (scatterJoints fun j => w0 * a.joints j + w1 * b.joints j)

namespace PlannerInference

/-- `set_input_tensors`; only predictions of 9 to 11 tokens are allowed. -/
def setInputTensors (p : PlannerInference K) (ms : MovementState K) : PlannerInference K :=
  { p with inputs :=
    { mode := ms.locomotionMode
      targetVel := ms.movementSpeed
      height := ms.height
      movementDirection := ms.movementDirection
      facingDirection := ms.facingDirection
      randomSeed := p.currentRandomSeed
      hasSpecificTarget := 0
      specificTargetPositions := fun _ => 0
      specificTargetHeadings := fun _ => 0
      allowedPredNumTokens := ![0, 0, 0, 1, 1, 1, 0, 0, 0, 0, 0] } }

/-- `run_and_publish`, and whether it succeeded. The clock reads of the publication are
one. -/
def runAndPublish (p : PlannerInference K) (engine : Option (EngineOutput K))
    (now : TimePoint) : PlannerInference K × Bool :=
  match engine.bind (resample30HzTo50Hz p.motionSeq) with
  | none => (p, false)
  | some seq =>
    let seq := { seq with genFrame := p.genFrame }
    ({ p with
      motionSeq := seq
      motion50hzBuf := p.motion50hzBuf.setData seq now
      lastPublish := now }, true)

/-- A failed inference changes nothing. -/
theorem runAndPublish_eq_self {p : PlannerInference K} {engine : Option (EngineOutput K)}
    {now : TimePoint} (h : (p.runAndPublish engine now).2 = false) :
    (p.runAndPublish engine now).1 = p := by
  unfold runAndPublish at h ⊢
  split at h
  · rfl
  · cases h

/-! ## Initialization -/

/-- The set-up of `initialize_once` from the measured joint positions. -/
def startInitialize (p : PlannerInference K) (jointPositions : Joints K) :
    PlannerInference K :=
  { ({ p with context := initializeContext p.defaultHeight jointPositions }).setInputTensors
      ({} : MovementState K) with genFrame := 0 }

/-- The end of a successful `initialize_once`. -/
def finishInitialize (p : PlannerInference K) : PlannerInference K :=
  { p with lastMovementState := {}, replanIntervalCounter := 0, initialized := true }

/-- `initialize_once`, and whether it succeeded. -/
def initializeOnce (p : PlannerInference K) (robotState : Option (Joints K))
    (engine : Option (EngineOutput K)) (now : TimePoint) : PlannerInference K × Bool :=
  match robotState with
  | none => (p, false)
  | some jointPositions =>
    let (p, ok) := (p.startInitialize jointPositions).runAndPublish engine now
    if ok then (p.finishInitialize, true) else (p, false)

/-! ## Replanning -/

/-- The replan interval of a locomotion mode. -/
def replanInterval (mode : Int) : K :=
  if mode = LocomotionMode.run.toInt then kReplanIntervalRunning
  else if mode = LocomotionMode.crawling.toInt then kReplanIntervalCrawling
  else if isBoxing mode then kReplanIntervalBoxing
  else kReplanIntervalDefault

/-- Mode, facing or height differ. -/
def poseChanged (ms last : MovementState K) : Bool :=
  ms.locomotionMode ≠ last.locomotionMode || ms.facingDirection ≠ last.facingDirection ||
    ms.height ≠ last.height

/-- Speed or direction differ. -/
def velocityChanged (ms last : MovementState K) : Bool :=
  ms.movementSpeed ≠ last.movementSpeed || ms.movementDirection ≠ last.movementDirection

/-- `need_replan`: the counter with the expired interval taken out, and the decision. -/
def needReplan (p : PlannerInference K) (ms : MovementState K) : PlannerInference K × Bool :=
  let timeToReplan : Bool := replanInterval ms.locomotionMode ≤ p.replanIntervalCounter
  let p' := if timeToReplan then { p with replanIntervalCounter := 0 } else p
  (p', poseChanged ms p.lastMovementState ||
    (!isStaticMotionMode ms.locomotionMode &&
      (velocityChanged ms p.lastMovementState ||
        (timeToReplan && ms.movementSpeed ≠ 0))))

/-- Commit the command, then take the context from the playback snapshot, or without one
from the last own output at an estimated cursor. -/
def startReplan (p : PlannerInference K) (ms : MovementState K)
    (playback : Option (MotionSequence50Hz K × Int)) (t0 : TimePoint) : PlannerInference K :=
  let p := { p with lastMovementState := ms }.setInputTensors ms
  match playback with
  | some (snapshot, cursor) =>
    let gen := cursor + kLookAheadSteps
    { p with genFrame := gen, context := updateContextFromMotion gen snapshot }
  | none =>
    let elapsedS : K := (((t0 : Int) - p.lastPublish : Int) : K) / 1000000000
    let gen := CMath.trunc (elapsedS * 50.0) + kLookAheadSteps
    { p with genFrame := gen, context := updateContextFromMotion gen p.motionSeq }

/-! ## The loop -/

/-- The reseed request is pending and there is a plan to drop. -/
def reseedDue (p : PlannerInference K) : Bool :=
  p.reinitRequested ≠ p.reinitDone && p.initialized

/-- The poll at the top of the loop body. -/
def pollReinit (p : PlannerInference K) : PlannerInference K :=
  if p.reseedDue then { p with motion50hzBuf := p.motion50hzBuf.clear, initialized := false }
  else p

def countPeriod (p : PlannerInference K) : PlannerInference K :=
  { p with replanIntervalCounter := p.replanIntervalCounter + kLoopPeriodS }

/-- What one iteration reads from other threads, and what the engine returns in it. -/
structure IterationReads (K : Type) [Field K] where
  robotState : Option (Joints K) := none
  movement : Option (MovementState K) := none
  playback : Option (MotionSequence50Hz K × Int) := none
  engine : Option (EngineOutput K) := none
  t0 : TimePoint := 0
  now : TimePoint := 0

/-- One pass through the body of `PlannerInference::loop`. -/
def loopIteration (p : PlannerInference K) (i : IterationReads K) : PlannerInference K :=
  let reinitReq := p.reinitRequested
  let p := p.pollReinit
  if !p.initialized then
    let (p, ok) := p.initializeOnce i.robotState i.engine i.now
    if ok then { p with reinitDone := reinitReq } else p
  else
    let p := p.countPeriod
    match i.movement with
    | none => p
    | some ms =>
      let (p, need) := p.needReplan ms
      if need then ((p.startReplan ms i.playback i.t0).runAndPublish i.engine i.now).1 else p

/-- The members that the reseed handshake is about are the same. -/
structure SameHandshake (p q : PlannerInference K) : Prop where
  initialized : p.initialized = q.initialized
  requested : p.reinitRequested = q.reinitRequested
  done : p.reinitDone = q.reinitDone
  buf : p.motion50hzBuf = q.motion50hzBuf

theorem SameHandshake.trans {p q r : PlannerInference K} (h : SameHandshake p q)
    (h' : SameHandshake q r) : SameHandshake p r :=
  ⟨h.initialized.trans h'.initialized, h.requested.trans h'.requested, h.done.trans h'.done,
    h.buf.trans h'.buf⟩

theorem startInitialize_handshake (p : PlannerInference K) (q : Joints K) :
    SameHandshake (p.startInitialize q) p := ⟨rfl, rfl, rfl, rfl⟩

theorem countPeriod_handshake (p : PlannerInference K) : SameHandshake p.countPeriod p :=
  ⟨rfl, rfl, rfl, rfl⟩

theorem needReplan_handshake (p : PlannerInference K) (ms : MovementState K) :
    SameHandshake (p.needReplan ms).1 p := by
  unfold needReplan
  dsimp only
  split <;> exact ⟨rfl, rfl, rfl, rfl⟩

theorem startReplan_handshake (p : PlannerInference K) (ms : MovementState K)
    (playback : Option (MotionSequence50Hz K × Int)) (t0 : TimePoint) :
    SameHandshake (p.startReplan ms playback t0) p := by
  cases playback <;> exact ⟨rfl, rfl, rfl, rfl⟩

/-- A successful inference publishes and does nothing else to the handshake. -/
theorem runAndPublish_ok {p : PlannerInference K} {engine : Option (EngineOutput K)}
    {now : TimePoint} (h : (p.runAndPublish engine now).2 = true) :
    (p.runAndPublish engine now).1.initialized = p.initialized ∧
      (p.runAndPublish engine now).1.reinitRequested = p.reinitRequested ∧
      (p.runAndPublish engine now).1.reinitDone = p.reinitDone ∧
      (p.runAndPublish engine now).1.motion50hzBuf.data.isSome = true := by
  unfold runAndPublish at h ⊢
  split at h
  · cases h
  · exact ⟨rfl, rfl, rfl, rfl⟩

/-- `request_reinit()`: the new state and the ticket. -/
def requestReinit (p : PlannerInference K) : PlannerInference K × Nat :=
  ({ p with reinitRequested := p.reinitRequested + 1 }, p.reinitRequested + 1)

end PlannerInference

end Gearsonic
