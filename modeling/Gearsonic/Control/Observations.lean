import Gearsonic.Control.PolicyDecoder
import Gearsonic.Control.TokenEncoder
import Gearsonic.Numeric.Stores

/-!
# The observations

What `TokenEncoder::fill_obs` and `PolicyDecoder::step` write into the input buffers of the two
engines, as the list of their stores in program order. A buffer is addressed by number and knows no
bound, so that a store beside it would be seen.
-/

namespace Gearsonic

open Stores

variable {K : Type} [Field K] [LinearOrder K]

namespace TokenEncoder

attribute [local instance] atLeastTwo_two

def kOffEncoderMode : Nat := 0
def kOffMotionQ : Nat := 4
def kOffMotionDq : Nat := 294
def kOffAnchorOri : Nat := 584
def kOffAnchorSingle : Nat := 644
def kOffLowerQ : Nat := 650
def kOffLowerDq : Nat := 770
def kOffVR3Pos : Nat := 890
def kOffVR3Orn : Nat := 899
def kOffSmplJoints : Nat := 911
def kOffSmplAnchor : Nat := 1631
def kOffSmplWrists : Nat := 1691
def kInputDim : Nat := 1751
def kFutStep : Int := 5

/-- The lower-body joints in MuJoCo order, as indices into the joints of a motion. -/
def kLowerBodyIdx : Fin 12 → Fin 29 := ![0, 3, 6, 9, 13, 17, 1, 4, 7, 10, 14, 18]

/-- `target_frame`: the current frame while not playing, else `step` frames further for each
future frame, held at the last one. -/
def targetFrame (currentFrame : Int) (frameIdx : Nat) (step timesteps : Int) (playing : Bool) :
    Int :=
  let f := if playing then min (currentFrame + frameIdx * step) (timesteps - 1) else currentFrame
  clamp f 0 (timesteps - 1)

variable [CMath K]

/-- `fill_anchor_orientation` at `out`: six numbers for each reference root. -/
def anchorStores {n : Nat} (e : TokenEncoder K) (out : Nat) (refRoots : Fin n → Quat K)
    (baseQuat : Quat K) : List (Nat × K) :=
  (List.finRange n).flatMap fun f =>
    let o := firstTwoColumns (quatToRotationMatrix (e.baseToRef baseQuat (refRoots f)))
    (List.finRange 6).map fun i => (out + f.val * 6 + i.val, o i)

/-- The reference roots of a motion, as the overload for motions samples them. -/
def motionRoots (n : Nat) (step : Int) (motion : MotionSequence50Hz K) (cursor : Int)
    (playing : Bool) : Fin n → Quat K := fun f =>
  (motion.frame (targetFrame cursor f step motion.timesteps playing)).quaternion

/-- The smpl branch: the operator's whole body. -/
def smplStores (e : TokenEncoder K) (smpl : SmplPoseWindow K) (baseQuat : Quat K) :
    List (Nat × K) :=
  (kOffEncoderMode, 2) ::
    (List.finRange 10).flatMap (fun f : Fin 10 =>
      let p := smpl.frames f
      (List.finRange 24).flatMap (fun j =>
        (List.finRange 3).map fun c =>
          (kOffSmplJoints + f.val * (24 * 3) + (j.val * 3 + c.val), p.jointsLocal j c)) ++
      (List.finRange 6).map fun i => (kOffSmplWrists + f.val * 6 + i.val, p.wristJointPos i)) ++
    e.anchorStores kOffSmplAnchor (fun f => (smpl.frames f).anchorQuat) baseQuat

/-- The g1 branch: the motion drives the whole body. -/
def g1Stores (e : TokenEncoder K) (motion : MotionSequence50Hz K) (cursor : Int) (playing : Bool)
    (baseQuat : Quat K) : List (Nat × K) :=
  (kOffEncoderMode, 0) ::
    (List.finRange 10).flatMap (fun f : Fin 10 =>
      let frame := motion.frame (targetFrame cursor f kFutStep motion.timesteps playing)
      (List.finRange 29).flatMap fun j =>
        [(kOffMotionQ + f.val * 29 + j.val, frame.joints j),
          (kOffMotionDq + f.val * 29 + j.val, if playing then frame.jointVelocities j else 0)]) ++
    e.anchorStores kOffAnchorOri (motionRoots 10 kFutStep motion cursor playing) baseQuat

/-- The teleop branch: the lower body of the motion and the three points. -/
def teleopStores (e : TokenEncoder K) (motion : MotionSequence50Hz K) (cursor : Int)
    (playing : Bool) (vr3point : VR3Point K) (baseQuat : Quat K) : List (Nat × K) :=
  (kOffEncoderMode, 1) ::
    (List.finRange 10).flatMap (fun f : Fin 10 =>
      let frame := motion.frame (targetFrame cursor f kFutStep motion.timesteps playing)
      (List.finRange 12).flatMap fun j =>
        let idx := kLowerBodyIdx j
        [(kOffLowerQ + f.val * 12 + j.val, frame.joints idx),
          (kOffLowerDq + f.val * 12 + j.val, if playing then frame.jointVelocities idx else 0)]) ++
    e.anchorStores kOffAnchorSingle (motionRoots 1 1 motion cursor playing) baseQuat ++
    (List.finRange 9).map (fun i => (kOffVR3Pos + i.val, vr3point.position i)) ++
    (List.finRange 12).map fun i => (kOffVR3Orn + i.val, vr3point.orientation i)

/-- The stores of the branch that is taken. -/
def modeStores (e : TokenEncoder K) (motion : MotionSequence50Hz K) (cursor : Int)
    (playing : Bool) (logger : StateLogger K) (vr3point : Option (VR3Point K))
    (smpl : Option (SmplPoseWindow K)) : List (Nat × K) :=
  if motion.timesteps = 0 then []
  else
    let baseQuat := ((logger.getLatest 1).getD 0 {}).baseQuat
    match smpl, vr3point with
    | some smpl, _ => e.smplStores smpl baseQuat
    | none, none => e.g1Stores motion cursor playing baseQuat
    | none, some vr3point => e.teleopStores motion cursor playing vr3point baseQuat

/-- All stores of `fill_obs`: the buffer is cleared first. -/
def obsStores (e : TokenEncoder K) (motion : MotionSequence50Hz K) (cursor : Int)
    (playing : Bool) (logger : StateLogger K) (vr3point : Option (VR3Point K))
    (smpl : Option (SmplPoseWindow K)) : List (Nat × K) :=
  (List.range kInputDim).map (fun i => (i, 0)) ++
    e.modeStores motion cursor playing logger vr3point smpl

/-- `fill_obs`. -/
def fillObs (e : TokenEncoder K) (dst : Nat → K) (motion : MotionSequence50Hz K) (cursor : Int)
    (playing : Bool) (logger : StateLogger K) (vr3point : Option (VR3Point K))
    (smpl : Option (SmplPoseWindow K)) : Nat → K :=
  exec dst (e.obsStores motion cursor playing logger vr3point smpl)

end TokenEncoder

namespace PolicyDecoder

def kOffAngVel : Nat := 64
def kOffHisQ : Nat := 94
def kOffHisDq : Nat := 384
def kOffHisAction : Nat := 674
def kOffGravity : Nat := 964
def kInputDim : Nat := 994
def kHistFrames : Nat := 10

omit [LinearOrder K]

/-- The stores of `fill_obs`. -/
def historyStores (logger : StateLogger K) : List (Nat × K) :=
  let hist := logger.getLatest kHistFrames
  (List.finRange 10).flatMap fun f : Fin 10 =>
    let e := hist.getD f {}
    (List.finRange 3).map (fun i => (kOffAngVel + f.val * 3 + i.val, e.baseAngVel i)) ++
    (List.finRange 29).flatMap (fun j =>
      [(kOffHisQ + f.val * 29 + j.val, e.bodyQ j), (kOffHisDq + f.val * 29 + j.val, e.bodyDq j),
        (kOffHisAction + f.val * 29 + j.val, e.lastAction j)]) ++
    (List.finRange 3).map fun i =>
      (kOffGravity + f.val * 3 + i.val, gravityInBodyFrame e.baseQuat i)

/-- All stores of `step` into the engine's input: the token, then the history. -/
def obsStores (token : Token K) (logger : StateLogger K) : List (Nat × K) :=
  (List.finRange 64).map (fun i => (i.val, token i)) ++ historyStores logger

/-- The input that `step` runs the engine on. -/
def fillInput (input : Nat → K) (token : Token K) (logger : StateLogger K) : Nat → K :=
  exec input (obsStores token logger)

end PolicyDecoder

end Gearsonic
