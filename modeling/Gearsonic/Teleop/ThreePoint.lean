import Gearsonic.Pico.PicoVRReader
import Gearsonic.Teleop.TeleopTracker

/-!
# The three-point kernels

The tracker's upper-body arithmetic: from a body sample to the root-relative poses of the two
wrists and the neck (`extractRaw`), the calibration against a wrist reference
(`captureCalibration`) and the published target (`applyCalibration`). The reference is the
zero pose's constants or the forward kinematics of the measured joints (`g1WristFk`).

`threePointKernels` is the tracker with these kernels; what full-body teleop computes stays a
parameter.
-/

set_option linter.unusedSectionVars false

namespace Gearsonic

variable {K : Type} [Field K] [LinearOrder K] [CMath K]

namespace ThreePoint

/-! ## From the headset's frame to the robot's -/

/-- Unity to robot: half a turn about the diagonal of the second and third axis. -/
def kUnityToRobot : Quat K := ![0, 0, CMath.sqrt 0.5, CMath.sqrt 0.5]

/-- Extrinsic xyz Euler angles. -/
def eulerXyzExtrinsic (a b c : K) : Quat K :=
  quatMul (quatFromAngleAxis c ![0, 0, 1])
    (quatMul (quatFromAngleAxis b ![0, 1, 0]) (quatFromAngleAxis a ![1, 0, 0]))

/-- A degree; `M_PI` is the angle whose cosine is -1. -/
def kDeg : K := CMath.acos (-1) / 180.0

/-- The frame corrections of the root, the two wrists and the neck. -/
def kOffsets : Fin 4 → Quat K := ![
  eulerXyzExtrinsic 0 0 (-90.0 * kDeg),
  eulerXyzExtrinsic (90.0 * kDeg) 0 0,
  eulerXyzExtrinsic (-90.0 * kDeg) 0 (180.0 * kDeg),
  eulerXyzExtrinsic 0 0 (-90.0 * kDeg)]

/-- The keypoints: root, wrists and neck. -/
def kSmplIdx : Fin 4 → Fin 24 := ![0, 22, 23, 12]

/-- A joint's position; the sample has `x, y, z, qx, qy, qz, qw`. -/
def jointPos (body : PicoVRBodyPose K) (i : Fin 24) : Vec3 K :=
  ![body.joints i 0, body.joints i 1, body.joints i 2]

def jointQuat (body : PicoVRBodyPose K) (i : Fin 24) : Quat K :=
  ![body.joints i 6, body.joints i 3, body.joints i 4, body.joints i 5]

/-- A keypoint's position in the robot's axes. -/
def keypointPos (body : PicoVRBodyPose K) (k : Fin 4) : Vec3 K :=
  let p := jointPos body (kSmplIdx k)
  ![-p 0, p 2, p 1]

def keypointQuat (body : PicoVRBodyPose K) (k : Fin 4) : Quat K :=
  let q := jointQuat body (kSmplIdx k)
  quatMul (quatMul kUnityToRobot (quatMul q (quatConjugate kUnityToRobot))) (kOffsets k)

/-- The left wrist, the right wrist and the neck, as the root sees them. -/
structure Raw3Point (K : Type) where
  pos : Fin 3 → Vec3 K
  quat : Fin 3 → Quat K

def extractRaw (body : PicoVRBodyPose K) : Raw3Point K :=
  let rootInv := quatConjugate (keypointQuat body 0)
  { pos := fun k => quatRotate rootInv fun i => keypointPos body k.succ i - keypointPos body 0 i
    quat := fun k => quatMul rootInv (keypointQuat body k.succ) }

/-! ## The wrist reference -/

/-- One revolute joint of the arm. -/
structure Link (K : Type) where
  xyz : Vec3 K
  rpy : Vec3 K
  axis : Vec3 K
  qIdx : Fin 29

def rpyToQuat (rpy : Vec3 K) : Quat K :=
  quatMul (quatFromAngleAxis (rpy 2) ![0, 0, 1])
    (quatMul (quatFromAngleAxis (rpy 1) ![0, 1, 0]) (quatFromAngleAxis (rpy 0) ![1, 0, 0]))

/-- From the pelvis to the left wrist. -/
def kLeftChain : List (Link K) := [
  ⟨![0.0, 0.0, 0.0], ![0.0, 0.0, 0.0], ![0.0, 0.0, 1.0], 12⟩,
  ⟨![-0.0039635, 0.0, 0.035], ![0.0, 0.0, 0.0], ![1.0, 0.0, 0.0], 13⟩,
  ⟨![0.0, 0.0, 0.019], ![0.0, 0.0, 0.0], ![0.0, 1.0, 0.0], 14⟩,
  ⟨![0.0039563, 0.10022, 0.23778], ![0.27931, 5.4949e-05, -0.00019159], ![0.0, 1.0, 0.0], 15⟩,
  ⟨![0.0, 0.038, -0.013831], ![-0.27925, 0.0, 0.0], ![1.0, 0.0, 0.0], 16⟩,
  ⟨![0.0, 0.00624, -0.1032], ![0.0, 0.0, 0.0], ![0.0, 0.0, 1.0], 17⟩,
  ⟨![0.015783, 0.0, -0.080518], ![0.0, 0.0, 0.0], ![0.0, 1.0, 0.0], 18⟩,
  ⟨![0.100, 0.00188791, -0.010], ![0.0, 0.0, 0.0], ![1.0, 0.0, 0.0], 19⟩,
  ⟨![0.038, 0.0, 0.0], ![0.0, 0.0, 0.0], ![0.0, 1.0, 0.0], 20⟩,
  ⟨![0.046, 0.0, 0.0], ![0.0, 0.0, 0.0], ![0.0, 0.0, 1.0], 21⟩]

def kRightChain : List (Link K) := [
  ⟨![0.0, 0.0, 0.0], ![0.0, 0.0, 0.0], ![0.0, 0.0, 1.0], 12⟩,
  ⟨![-0.0039635, 0.0, 0.035], ![0.0, 0.0, 0.0], ![1.0, 0.0, 0.0], 13⟩,
  ⟨![0.0, 0.0, 0.019], ![0.0, 0.0, 0.0], ![0.0, 1.0, 0.0], 14⟩,
  ⟨![0.0039563, -0.10021, 0.23778], ![-0.27931, 5.4949e-05, 0.00019159], ![0.0, 1.0, 0.0], 22⟩,
  ⟨![0.0, -0.038, -0.013831], ![0.27925, 0.0, 0.0], ![1.0, 0.0, 0.0], 23⟩,
  ⟨![0.0, -0.00624, -0.1032], ![0.0, 0.0, 0.0], ![0.0, 0.0, 1.0], 24⟩,
  ⟨![0.015783, 0.0, -0.080518], ![0.0, 0.0, 0.0], ![0.0, 1.0, 0.0], 25⟩,
  ⟨![0.100, -0.00188791, -0.010], ![0.0, 0.0, 0.0], ![1.0, 0.0, 0.0], 26⟩,
  ⟨![0.038, 0.0, 0.0], ![0.0, 0.0, 0.0], ![0.0, 1.0, 0.0], 27⟩,
  ⟨![0.046, 0.0, 0.0], ![0.0, 0.0, 0.0], ![0.0, 0.0, 1.0], 28⟩]

def kLeftOffset : Vec3 K := ![0.18, -0.025, 0.0]
def kRightOffset : Vec3 K := ![0.18, 0.025, 0.0]

structure G1WristPose (K : Type) where
  position : Vec3 K
  quaternion : Quat K

/-- The pose behind one more joint. -/
def fkLink (joints : Joints K) (pose : G1WristPose K) (link : Link K) : G1WristPose K :=
  let d := quatRotate pose.quaternion link.xyz
  { position := fun i => pose.position i + d i
    quaternion := quatMul (quatMul pose.quaternion (rpyToQuat link.rpy))
      (quatFromAngleAxis (joints link.qIdx) link.axis) }

/-- `g1_wrist_fk`: the wrist's key frame in the pelvis frame. -/
def g1WristFk (joints : Joints K) (left : Bool) : G1WristPose K :=
  let pose := (if left then kLeftChain else kRightChain).foldl (fkLink joints)
    ⟨![0, 0, 0], ![1, 0, 0, 0]⟩
  let o := quatRotate pose.quaternion (if left then kLeftOffset else kRightOffset)
  { pose with position := fun i => pose.position i + o i }

/-- What the captured wrists are matched against. -/
structure WristReference (K : Type) where
  lPos : Vec3 K
  rPos : Vec3 K
  lRot : Quat K
  rRot : Quat K

/-- The key frames of the zero pose. -/
def zeroPoseReference : WristReference K where
  lPos := ![0.3797694914, 0.1236272185, 0.0952214409]
  rPos := ![0.3797694914, -0.1236172185, 0.0952214409]
  lRot := ![0.9999999946, 0.0000300026, 0.0000274716, -0.0000957958]
  rRot := ![0.9999999946, -0.0000300026, 0.0000274716, 0.0000957958]

/-- The reference of a capture: the outer `none` is a tracker without a provider, the inner
one a provider that gives no joints. -/
def wristReference (provided : Option (Option (Joints K))) : WristReference K :=
  match provided with
  | some (some joints) =>
    let fkL := g1WristFk joints true
    let fkR := g1WristFk joints false
    ⟨fkL.position, fkR.position, fkL.quaternion, fkR.quaternion⟩
  | some none | none => zeroPoseReference

/-! ## Calibration -/

structure Calibration (K : Type) [Field K] where
  neckQuatInv : Quat K := fun _ => 0
  lwristPosOffset : Vec3 K := fun _ => 0
  rwristPosOffset : Vec3 K := fun _ => 0
  lwristRotOffset : Quat K := fun _ => 0
  rwristRotOffset : Quat K := fun _ => 0

/-- `capture_calibration`; an existing neck capture is kept. -/
def captureCalibration (haveNeckCalib : Bool) (ref : WristReference K) (raw : Raw3Point K)
    (c : Calibration K) : Calibration K :=
  let neckQuatInv := if haveNeckCalib then c.neckQuatInv else quatConjugate (raw.quat 2)
  let lwPos := quatRotate neckQuatInv (raw.pos 0)
  let rwPos := quatRotate neckQuatInv (raw.pos 1)
  let lwRot := quatMul neckQuatInv (raw.quat 0)
  let rwRot := quatMul neckQuatInv (raw.quat 1)
  { neckQuatInv := neckQuatInv
    lwristPosOffset := fun i => lwPos i - ref.lPos i
    rwristPosOffset := fun i => rwPos i - ref.rPos i
    lwristRotOffset := quatMul ref.lRot (quatConjugate lwRot)
    rwristRotOffset := quatMul ref.rRot (quatConjugate rwRot) }

def kTorsoLinkOffsetZ : K := 0.05
def kNeckLinkLength : K := 0.35

/-- `apply_calibration`; the neck's position is synthesized. -/
def applyCalibration (c : Calibration K) (raw : Raw3Point K) : VR3Point K :=
  let neckQ := quatMul c.neckQuatInv (raw.quat 2)
  let lwPos := quatRotate c.neckQuatInv (raw.pos 0)
  let rwPos := quatRotate c.neckQuatInv (raw.pos 1)
  let lwQ := quatMul c.lwristRotOffset (quatMul c.neckQuatInv (raw.quat 0))
  let rwQ := quatMul c.rwristRotOffset (quatMul c.neckQuatInv (raw.quat 1))
  let neckZ := quatRotate neckQ ![0, 0, 1]
  { position := ![
      lwPos 0 - c.lwristPosOffset 0, lwPos 1 - c.lwristPosOffset 1, lwPos 2 - c.lwristPosOffset 2,
      rwPos 0 - c.rwristPosOffset 0, rwPos 1 - c.rwristPosOffset 1, rwPos 2 - c.rwristPosOffset 2,
      kNeckLinkLength * neckZ 0, kNeckLinkLength * neckZ 1,
      kTorsoLinkOffsetZ + kNeckLinkLength * neckZ 2]
    orientation := ![lwQ 0, lwQ 1, lwQ 2, lwQ 3, rwQ 0, rwQ 1, rwQ 2, rwQ 3,
      neckQ 0, neckQ 1, neckQ 2, neckQ 3] }

end ThreePoint

/-- The tracker's kernels with the upper-body arithmetic in them; `view` is what the full-body
kernels of `κ` see of a body sample. -/
def threePointKernels (κ : Kernels) (view : PicoVRBodyPose K → κ.BodyPose) : Kernels where
  BodyPose := PicoVRBodyPose K
  Raw3Point := ThreePoint.Raw3Point K
  Calibration := ThreePoint.Calibration K
  WristReference := ThreePoint.WristReference K
  VR3Point := VR3Point K
  SmplPose := κ.SmplPose
  ArmReachState := κ.ArmReachState
  Resampler := κ.Resampler
  noCalibration := {}
  noReach := κ.noReach
  noPose := κ.noPose
  extractRaw := ThreePoint.extractRaw
  captureCalibration := ThreePoint.captureCalibration
  applyCalibration := ThreePoint.applyCalibration
  smplFk body := κ.smplFk (view body)
  smplArmsFromTrackedWrists body := κ.smplArmsFromTrackedWrists (view body)
  resetResampler := κ.resetResampler
  push := κ.push
  sample := κ.sample
  count := κ.count

end Gearsonic
