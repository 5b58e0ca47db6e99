import Gearsonic.Teleop.SmplSkeleton
import Gearsonic.Teleop.TeleopTracker
import Gearsonic.Pico.PicoVRReader

/-!
# SMPL forward kinematics

`smpl_fk`: one body sample of the headset to the pose the encoder reads. The 24 tracked
orientations become parent-relative rotation vectors, the 55-joint body is posed with them, and the
24 output joints are read in the root's frame. The wrist angles come from the elbow and the wrist.
-/

namespace Gearsonic

/-- A 3×3 matrix, by rows. -/
abbrev Mat3 (K : Type) := Fin 3 → Fin 3 → K

namespace SmplFk

attribute [local instance] neZero_twentyFour neZero_fiftyFive neZero_seven

variable {K : Type} [Field K] [LinearOrder K] [CMath K]

def kPi : K := 3.14159265358979323846

/-! ## Rotations -/

/-- Axis-angle vector to quaternion. -/
def quatFromRotvec (v : Vec3 K) : Quat K :=
  let angle := CMath.sqrt (v 0 * v 0 + v 1 * v 1 + v 2 * v 2)
  if angle < 1e-12 then ![1.0, 0.0, 0.0, 0.0] else quatFromAngleAxis angle v

/-- Quaternion to axis-angle vector. -/
def rotvecFromQuat (qIn : Quat K) : Vec3 K :=
  let q := quatUnit qIn
  let q : Quat K := if q 0 < 0.0 then fun i => -q i else q
  let vn := CMath.sqrt (q 1 * q 1 + q 2 * q 2 + q 3 * q 3)
  if vn < 1e-12 then ![0.0, 0.0, 0.0]
  else
    let angle := 2.0 * CMath.atan2 vn (q 0)
    ![q 1 / vn * angle, q 2 / vn * angle, q 3 / vn * angle]

/-- Intrinsic X-Y-Z Euler angles. -/
def eulerXyzIntrinsic (m : Mat3 K) : Vec3 K :=
  let cb := CMath.sqrt (m 0 0 * m 0 0 + m 0 1 * m 0 1)
  ![CMath.atan2 (-m 1 2) (m 2 2), CMath.atan2 (m 0 2) cb, CMath.atan2 (-m 0 1) (m 0 0)]

def matApply (m : Mat3 K) (v : Vec3 K) : Vec3 K :=
  ![m 0 0 * v 0 + m 0 1 * v 1 + m 0 2 * v 2, m 1 0 * v 0 + m 1 1 * v 1 + m 1 2 * v 2,
    m 2 0 * v 0 + m 2 1 * v 1 + m 2 2 * v 2]

def matMul (a b : Mat3 K) : Mat3 K :=
  fun i j => a i 0 * b 0 j + a i 1 * b 1 j + a i 2 * b 2 j

/-- The twist about an axis and the swing that remains. -/
def swingTwist (rotvec axis : Vec3 K) : Quat K × Quat K :=
  let q := quatFromRotvec rotvec
  let d := q 1 * axis 0 + q 2 * axis 1 + q 3 * axis 2
  let twist := quatUnit ![q 0, d * axis 0, d * axis 1, d * axis 2]
  (twist, quatMul (quatConjugate twist) q)

/-- The axis is divided by `theta + eps`, and small rotations are linear. -/
def rotmatFromRotvecKornia (v : Vec3 K) : Mat3 K :=
  let eps : K := 1e-6
  let theta2 := v 0 * v 0 + v 1 * v 1 + v 2 * v 2
  if theta2 ≤ eps then
    ![![1.0, -v 2, v 1],
      ![v 2, 1.0, -v 0],
      ![-v 1, v 0, 1.0]]
  else
    let theta := CMath.sqrt (max theta2 eps)
    let wx := v 0 / (theta + eps)
    let wy := v 1 / (theta + eps)
    let wz := v 2 / (theta + eps)
    let c := CMath.cos theta
    let s := CMath.sin theta
    let k := 1.0 - c
    ![![c + wx * wx * k, wx * wy * k - wz * s, wy * s + wx * wz * k],
      ![wz * s + wx * wy * k, c + wy * wy * k, -wx * s + wy * wz * k],
      ![-wy * s + wx * wz * k, wx * s + wy * wz * k, c + wz * wz * k]]

/-! ## The chain -/

/-- One entry of `rot` and `pos`. -/
structure Frame (K : Type) where
  rot : Mat3 K
  pos : Vec3 K

/-- From the parent to the joint in the rest pose. -/
def rel (i p : Fin 55) : Vec3 K := fun k => kSmplXRestJoints i k - kSmplXRestJoints p k

/-- The body of the loop over the joints. -/
def chainEntry (pose : Fin 55 → Vec3 K) (i : Fin 55) (a : Fin 55 → Frame K) : Frame K :=
  let r := rotmatFromRotvecKornia (pose i)
  match kSmplXParents i with
  | none => ⟨r, kSmplXRestJoints i⟩
  | some p =>
    let t := matApply (a p).rot (rel i p)
    ⟨matMul (a p).rot r, fun k => (a p).pos k + t k⟩

/-- The posed joints; the arrays start uninitialized, here with zeros. -/
def smplFkChain (pose : Fin 55 → Vec3 K) (i : Fin 55) : Vec3 K :=
  (KinematicTree.fill (chainEntry pose) (fun _ => ⟨fun _ _ => 0, fun _ => 0⟩) i).pos

/-! ## The kinematics -/

def kSmplBaseRot : Quat K := ![0.5, 0.5, 0.5, 0.5]

/-- From the headset's frame to SMPL's, on the right of every joint. -/
def y180 : Quat K := quatFromAngleAxis kPi ![0.0, 1.0, 0.0]

/-- A tracked orientation; the stream's quaternions are xyzw. -/
def globalRot (body : PicoVRBodyPose K) (i : Fin 24) : Quat K :=
  let j := body.joints i
  quatMul (quatUnit ![j 6, j 3, j 4, j 5]) y180

def localRot (body : PicoVRBodyPose K) (i : Fin 24) : Quat K :=
  match kSmplStreamParents i with
  | none => globalRot body i
  | some p => quatMul (quatConjugate (globalRot body p)) (globalRot body i)

def poseAa (body : PicoVRBodyPose K) (i : Fin 24) : Vec3 K := rotvecFromQuat (localRot body i)

/-- The root turned from SMPL's y-up to the robot's z-up. -/
def qRoot (body : PicoVRBodyPose K) : Quat K :=
  quatMul (quatFromAngleAxis (kPi / 2.0) ![1.0, 0.0, 0.0]) (quatFromRotvec (poseAa body 0))

/-- The root and the body joints are posed, the hands and the face are not. -/
def fullPose (body : PicoVRBodyPose K) (i : Fin 55) : Vec3 K :=
  if i = 0 then rotvecFromQuat (qRoot body)
  else if h : i.val ≤ 21 then poseAa body ⟨i.val, bodyJoint_lt h⟩ else fun _ => 0

/-- The root without SMPL's rest rotation. -/
def anchorQuat (body : PicoVRBodyPose K) : Quat K :=
  quatMul (qRoot body) (quatConjugate kSmplBaseRot)

def jointsLocal (body : PicoVRBodyPose K) (k : Fin 24) : Vec3 K :=
  quatRotate (quatConjugate (anchorQuat body)) (smplFkChain (fullPose body) (kSmplOutputJoints k))

/-- The swing of an elbow without its twist about y, as angles. -/
def elbowAngles (body : PicoVRBodyPose K) (i : Fin 24) : Vec3 K :=
  eulerXyzIntrinsic (quatToRotationMatrix (swingTwist (poseAa body i) ![0.0, 1.0, 0.0]).2)

def wristAngles (body : PicoVRBodyPose K) (i : Fin 24) : Vec3 K :=
  eulerXyzIntrinsic (quatToRotationMatrix (quatFromRotvec (poseAa body i)))

/-- Roll, pitch and yaw of the robot's wrists, each left and right; the left pitch is negated
twice. -/
def wristJointPos (body : PicoVRBodyPose K) : Fin 6 → K :=
  let lElbow := elbowAngles body 18
  let rElbow := elbowAngles body 19
  let lWrist := wristAngles body 20
  let rWrist := wristAngles body 21
  let lRoll := lElbow 0 + lWrist 0
  let lPitch := -lWrist 1
  let lYaw := lElbow 2 + lWrist 2
  let rRoll := -(rElbow 0 + rWrist 0)
  let rPitch := -rWrist 1
  let rYaw := rElbow 2 + rWrist 2
  ![lRoll, rRoll, -lPitch, rPitch, lYaw, rYaw]

def smplFk (body : PicoVRBodyPose K) : SmplPose K where
  jointsLocal := jointsLocal body
  anchorQuat := anchorQuat body
  wristJointPos := wristJointPos body

end SmplFk

end Gearsonic
