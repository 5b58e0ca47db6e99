import Gearsonic.Teleop.SmplSkeleton
import Gearsonic.Teleop.ThreePoint

/-!
# Arms from tracked wrists

`smpl_arms_from_tracked_wrists`: the arms of a pose are solved again from the tracked wrists. The
tracked vector from shoulder to wrist is scaled by the operator's reach so far, and the canonical
two links are placed along it, with the old elbow as the hint which way they bend.
-/

namespace Gearsonic

/-- The reach of the two arms, left and right. -/
structure ArmReachState (K : Type) [Field K] where
  maxReach : Fin 2 → K := fun _ => 0.55

namespace SmplArmReach

open SmplFk (kSmplXRestJoints)

local instance neZero_seven : NeZero 7 := ⟨by decide⟩
local instance neZero_twentyFour : NeZero 24 := ⟨by decide⟩

variable {K : Type} [Field K]

/-- The stream's joints are the first of the skeleton's. -/
theorem kSmplXNumJoints_le : 24 ≤ 55 := by decide

/-! ## Vectors -/

def sub (a b : Vec3 K) : Vec3 K := ![a 0 - b 0, a 1 - b 1, a 2 - b 2]

def add (a b : Vec3 K) : Vec3 K := ![a 0 + b 0, a 1 + b 1, a 2 + b 2]

def scale (a : Vec3 K) (s : K) : Vec3 K := ![a 0 * s, a 1 * s, a 2 * s]

variable [LinearOrder K] [CMath K]

def norm (a : Vec3 K) : K := CMath.sqrt (dot a a)

/-! ## The tracked arm -/

/-- `-M_PI / 2` about the vertical. -/
def kRootYawOffset : Quat K := quatFromAngleAxis (-CMath.acos (-1) / 2.0) ![0, 0, 1]

/-- A joint's position in the robot's axes. -/
def posRobot (body : PicoVRBodyPose K) (k : Fin 24) : Vec3 K :=
  ![-body.joints k 0, body.joints k 2, body.joints k 1]

/-- The root's orientation in the robot's axes. -/
def rootRobot (body : PicoVRBodyPose K) : Quat K :=
  let q : Quat K := ![body.joints 0 6, body.joints 0 3, body.joints 0 4, body.joints 0 5]
  quatMul (quatMul ThreePoint.kUnityToRobot (quatMul q (quatConjugate ThreePoint.kUnityToRobot)))
    kRootYawOffset

/-- A tracked joint as the operator's root sees it. -/
def trackedRootRelative (body : PicoVRBodyPose K) (joint : Fin 24) : Vec3 K :=
  quatRotate (quatConjugate (rootRobot body)) (sub (posRobot body joint) (posRobot body 0))

/-- The canonical length of a segment. -/
def segLen (a b : Fin 24) : K :=
  norm (sub (kSmplXRestJoints (a.castLE kSmplXNumJoints_le))
    (kSmplXRestJoints (b.castLE kSmplXNumJoints_le)))

/-- The tracked vector from shoulder to wrist. -/
def trackedArm (body : PicoVRBodyPose K) (s tw : Fin 24) : Vec3 K :=
  sub (trackedRootRelative body tw) (trackedRootRelative body s)

/-! ## One arm -/

/-- The swivel of an elbow at `h` from the shoulder, orthogonal to `u`: where the elbow is on the
line it is down, and where the line is vertical it is back. -/
def swivel (u h : Vec3 K) : Vec3 K :=
  let hPerp := sub h (scale u (dot h u))
  if norm hPerp < 1e-4 then
    let down : Vec3 K := ![0, 0, -1]
    let hPerp := sub down (scale u (dot down u))
    if norm hPerp < 1e-4 then cross u ![0, 1, 0] else hPerp
  else hPerp

/-- What is computed on the way to one arm. -/
structure ArmSolve (K : Type) where
  maxReach : K
  d : K
  along : K
  r : K
  u : Vec3 K
  hPerp : Vec3 K

/-- Two links `a` and `b` from shoulder `S`, along the tracked vector `v` of length `len`, with the
elbow at `E` before. -/
def armSolve (a b len reach : K) (v S E : Vec3 K) : ArmSolve K :=
  let maxReach := max reach len
  let target := min (len / maxReach) 1.0 * (a + b)
  let u := scale v (1.0 / len)
  let d := clamp target (|a - b| + 1e-6) (a + b - 1e-6)
  let along := (a * a - b * b + d * d) / (2.0 * d)
  { maxReach := maxReach
    d := d
    along := along
    r := CMath.sqrt (max (a * a - along * along) 0.0)
    u := u
    hPerp := swivel u (sub E S) }

/-- One arm: shoulder `s`, elbow `e`, wrist `w`, thumb tip `t` and tracked wrist `tw`. -/
def solveArm (pose : SmplPose K) (body : PicoVRBodyPose K) (reach : ArmReachState K) (side : Fin 2)
    (s e w t tw : Fin 24) : SmplPose K × ArmReachState K :=
  let v := trackedArm body s tw
  let len := norm v
  if len < 1e-3 then (pose, reach)
  else
    let S := pose.jointsLocal s
    let thumbOff := sub (pose.jointsLocal t) (pose.jointsLocal w)
    let k := armSolve (segLen s e) (segLen e w) len (reach.maxReach side) v S (pose.jointsLocal e)
    let hPerp := scale k.hPerp (1.0 / norm k.hPerp)
    let E := add S (add (scale k.u k.along) (scale hPerp k.r))
    let W := add S (scale k.u k.d)
    let joints := Function.update (Function.update pose.jointsLocal e E) w W
    ({ pose with jointsLocal := Function.update joints t (add W thumbOff) },
      { maxReach := Function.update reach.maxReach side k.maxReach })

def smplArmsFromTrackedWrists (pose : SmplPose K) (body : PicoVRBodyPose K)
    (reach : ArmReachState K) : SmplPose K × ArmReachState K :=
  let left := solveArm pose body reach 0 16 18 20 22 22
  solveArm left.1 body left.2 1 17 19 21 23 23

end SmplArmReach

end Gearsonic
