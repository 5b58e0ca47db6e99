import Gearsonic.Common.DataBuffer
import Gearsonic.Common.HoldTrigger
import Gearsonic.Common.MathUtils
import Gearsonic.Control.ControlArbiter
import Gearsonic.Pico.Controller

/-!
# The teleop tracker

`TeleopTracker::loop`: the two engage gestures, the pending calibration capture, and the
two published targets. The pose arithmetic (the three-point extraction, the calibration
offsets, the SMPL forward kinematics, the resampler) enters through `Kernels`; the control
flow around it does not look inside a pose.

The loop body is cut at the places where it reads what another thread writes:
`consumeReset`, the two gestures with the arbiter mode they read, `bodySection` and
`fullbodySection`. `loopIteration` is the whole body.
-/

namespace Gearsonic

/-- The calibrated targets of the two wrists and the neck. -/
structure VR3Point (K : Type) [Field K] where
  position : Fin 9 → K := fun _ => 0
  orientation : Fin 12 → K := fun _ => 0

/-- One frame of the operator's body. -/
structure SmplPose (K : Type) where
  jointsLocal : Fin 24 → Vec3 K
  anchorQuat : Quat K
  wristJointPos : Fin 6 → K

/-- The ten frames the encoder's full-body mode reads. -/
structure SmplPoseWindow (K : Type) where
  frames : Fin 10 → SmplPose K

/-- The pose types and the arithmetic on them that the tracker calls. -/
structure Kernels where
  BodyPose : Type
  Raw3Point : Type
  Calibration : Type
  WristReference : Type
  VR3Point : Type
  SmplPose : Type
  ArmReachState : Type
  Resampler : Type
  noCalibration : Calibration
  noReach : ArmReachState
  noPose : SmplPose
  extractRaw : BodyPose → Raw3Point
  /-- The flag says that a neck capture exists and is kept. -/
  captureCalibration : Bool → WristReference → Raw3Point → Calibration → Calibration
  applyCalibration : Calibration → Raw3Point → VR3Point
  smplFk : BodyPose → SmplPose
  smplArmsFromTrackedWrists : BodyPose → SmplPose → ArmReachState → SmplPose × ArmReachState
  resetResampler : Resampler
  push : Resampler → SmplPose → TimePoint → Resampler
  sample : Resampler → TimePoint → Option SmplPose
  count : Resampler → Nat

/-- The kernels without any pose content: a sample is there or not, and the resampler only
counts. The control flow of the tracker is the same over any kernels. -/
def Kernels.bare : Kernels where
  BodyPose := Unit
  Raw3Point := Unit
  Calibration := Unit
  WristReference := Unit
  VR3Point := Unit
  SmplPose := Unit
  ArmReachState := Unit
  Resampler := Nat
  noCalibration := ()
  noReach := ()
  noPose := ()
  extractRaw _ := ()
  captureCalibration _ _ _ _ := ()
  applyCalibration _ _ := ()
  smplFk _ := ()
  smplArmsFromTrackedWrists _ _ _ := ((), ())
  resetResampler := 0
  push n _ _ := n + 1
  sample n _ := if n = 0 then none else some ()
  count n := n

/-- The state of `TeleopTracker`; `calibrateRequest` and `resetRequest` are the two flags
other threads set. -/
structure TeleopTracker (κ : Kernels) where
  haveNeckCalib : Bool := false
  calibration : κ.Calibration := κ.noCalibration
  lastBodyTime : TimePoint := 0
  calibGesture : HoldTrigger := {}
  fbGesture : HoldTrigger := {}
  fbResampler : κ.Resampler := κ.resetResampler
  history : Fin 16 → κ.SmplPose := fun _ => κ.noPose
  histCount : Nat := 0
  histHead : Nat := 0
  fullbodyEngaged : Bool := false
  armReach : κ.ArmReachState := κ.noReach
  upperCalibrated : Bool := false
  calibrateRequest : Bool := false
  resetRequest : Bool := false
  vr3pointBuf : Option κ.VR3Point := none
  smplWindowBuf : Option (Fin 10 → κ.SmplPose) := none

namespace TeleopTracker

def kCalibHoldTicks : Nat := 50
def kHistory : Nat := 16
def kLookaheadTicks : Int := 5
def kFullBodyStaleMs : ℚ := 500

variable {κ : Kernels}

/-- `calibrated()`: teleop is engaged, in either flavor. -/
def calibrated (t : TeleopTracker κ) : Bool := t.upperCalibrated || t.fullbodyEngaged

/-- `reset_calibration()`, called from the controller's thread. -/
def resetCalibration (t : TeleopTracker κ) : TeleopTracker κ := { t with resetRequest := true }

def requestCalibration (t : TeleopTracker κ) : TeleopTracker κ :=
  { t with calibrateRequest := true }

def disengageFullbody (t : TeleopTracker κ) : TeleopTracker κ :=
  { t with fullbodyEngaged := false, histCount := 0, smplWindowBuf := none }

/-- Upper-body teleop off: the same three stores on a reset and on the B toggle. -/
def dropCalibration (t : TeleopTracker κ) : TeleopTracker κ :=
  { t with haveNeckCalib := false, upperCalibrated := false, vr3pointBuf := none }

/-- The top of the loop body: consume `reset_request_`. -/
def consumeReset (t : TeleopTracker κ) : TeleopTracker κ :=
  if t.resetRequest then
    let t := { t with resetRequest := false }.dropCalibration
    if t.fullbodyEngaged then t.disengageFullbody else t
  else t

/-- `check_calibration_gesture`, with the arbiter mode and the controller sample it reads. -/
def checkCalibrationGesture (t : TeleopTracker κ) (arbMode : Mode)
    (ctrl : Option FaceButtons) : TeleopTracker κ :=
  if arbMode.inSession || t.fullbodyEngaged then { t with calibGesture := {} }
  else
    let held := (ctrl.map FaceButtons.onlyB).getD false
    let (gesture, fires) := t.calibGesture.tick held kCalibHoldTicks
    let t := { t with calibGesture := gesture }
    if fires then
      if t.upperCalibrated then t.dropCalibration else t.requestCalibration
    else t

/-- `check_fullbody_gesture`: also reads the locomotion mode and whether a body sample is
there. -/
def checkFullbodyGesture (t : TeleopTracker κ) (arbMode : Mode) (ctrl : Option FaceButtons)
    (locomotionIdle bodyPresent : Bool) : TeleopTracker κ :=
  if arbMode.inSession || t.upperCalibrated then { t with fbGesture := {} }
  else
    let held := (ctrl.map FaceButtons.onlyA).getD false
    let (gesture, fires) := t.fbGesture.tick held kCalibHoldTicks
    let t := { t with fbGesture := gesture }
    if fires then
      if t.fullbodyEngaged then t.disengageFullbody
      else if !locomotionIdle then t
      else if !bodyPresent then t
      else { t with
        histCount := 0, armReach := κ.noReach, fbResampler := κ.resetResampler,
        fullbodyEngaged := true }
    else t

def captureCalibration (t : TeleopTracker κ) (ref : κ.WristReference) (raw : κ.Raw3Point) :
    TeleopTracker κ :=
  { t with
    calibration := κ.captureCalibration t.haveNeckCalib ref raw t.calibration
    haveNeckCalib := true
    upperCalibrated := true }

def process (t : TeleopTracker κ) (ref : κ.WristReference) (body : κ.BodyPose) :
    TeleopTracker κ :=
  let raw := κ.extractRaw body
  let t := if t.calibrateRequest then { t with calibrateRequest := false }.captureCalibration ref raw
    else t
  if t.upperCalibrated then
    { t with vr3pointBuf := some (κ.applyCalibration t.calibration raw) }
  else t

def ingestFullbodySample (t : TeleopTracker κ) (body : κ.BodyPose) (time : TimePoint) :
    TeleopTracker κ :=
  let (pose, reach) := κ.smplArmsFromTrackedWrists body (κ.smplFk body) t.armReach
  { t with armReach := reach, fbResampler := κ.push t.fbResampler pose time }

/-- Read the latest body sample: a new one is processed once. -/
def bodySection (t : TeleopTracker κ) (body : TimestampedData κ.BodyPose)
    (ref : κ.WristReference) : TeleopTracker κ :=
  match body.data with
  | none => { t with vr3pointBuf := none }
  | some pose =>
    if body.timestamp ≠ t.lastBodyTime then
      let t := { t with lastBodyTime := body.timestamp }.process ref pose
      if t.fullbodyEngaged then t.ingestFullbodySample pose body.timestamp else t
    else t

/-- Index of the pose `depth` ticks behind the newest. -/
def historyIndex (head : Nat) (depth : Int) : Fin 16 :=
  Fin.ofNat 16 (((head : Int) - depth + kHistory) % kHistory).toNat

/-- One grid pose into the delay line, then the window over it. -/
def processFullbody (t : TeleopTracker κ) (now : TimePoint) : TeleopTracker κ :=
  match κ.sample t.fbResampler now with
  | none => t
  | some pose =>
    let head := if t.histCount = 0 then 0 else (t.histHead + 1) % kHistory
    let history := Function.update t.history (Fin.ofNat 16 head) pose
    let count := if t.histCount < kHistory then t.histCount + 1 else t.histCount
    let window : Fin 10 → κ.SmplPose := fun f =>
      let depth := max 0 (min (kLookaheadTicks - f) ((count : Int) - 1))
      history (historyIndex head depth)
    { t with
      histHead := head, history := history, histCount := count, smplWindowBuf := some window }

/-- The end of the loop body: one resampled pose per tick while full-body is engaged. -/
def fullbodySection (t : TeleopTracker κ) (body : TimestampedData κ.BodyPose)
    (ageMs : ℚ) (t0 : TimePoint) : TeleopTracker κ :=
  if t.fullbodyEngaged then
    match body.data with
    | none => t.disengageFullbody
    | some pose =>
      if kFullBodyStaleMs < ageMs then t.disengageFullbody
      else
        let t := if κ.count t.fbResampler = 0 then t.ingestFullbodySample pose body.timestamp
          else t
        t.processFullbody t0
  else t

/-- Everything one iteration reads from other threads. -/
structure IterationReads (κ : Kernels) where
  calibMode : Mode
  calibCtrl : Option FaceButtons
  fbMode : Mode
  fbCtrl : Option FaceButtons
  locomotionIdle : Bool
  bodyPresent : Bool
  body : TimestampedData κ.BodyPose
  wristReference : κ.WristReference
  ageMs : ℚ
  t0 : TimePoint

/-- One pass through the body of `TeleopTracker::loop`. -/
def loopIteration (t : TeleopTracker κ) (i : IterationReads κ) : TeleopTracker κ :=
  let t := t.consumeReset
  let t := t.checkCalibrationGesture i.calibMode i.calibCtrl
  let t := t.checkFullbodyGesture i.fbMode i.fbCtrl i.locomotionIdle i.bodyPresent
  let t := t.bodySection i.body i.wristReference
  t.fullbodySection i.body i.ageMs i.t0

end TeleopTracker

end Gearsonic
