import Gearsonic.Common.DataBuffer
import Gearsonic.Control.ControlArbiter

/-!
# The receiver of latent actions

`VlaLatentAction` is one message of the external token stream: the decoder's token and the two
hands' joint targets. `VlaTokenReceiver`: a sample with any float that is not finite is dropped as a whole, every
other one is the newest.
-/

namespace Gearsonic

structure VlaLatentAction (K : Type) [Field K] where
  token : Token K := fun _ => 0
  leftHand : Fin 7 → K := fun _ => 0
  rightHand : Fin 7 → K := fun _ => 0

variable {K : Type} [Field K]

/-- `LatentActionStep`: a float that is not finite is `none`. -/
structure LatentActionStep (K : Type) where
  tokenState : Fin 64 → Option K
  leftHandJoints : Fin 7 → Option K
  rightHandJoints : Fin 7 → Option K

def allFinite {n : Nat} (v : Fin n → Option K) : Bool :=
  (List.finRange n).all fun i => (v i).isSome

structure VlaTokenReceiver (K : Type) [Field K] where
  latentBuf : DataBuffer (VlaLatentAction K) := {}
  latentReceived : Nat := 0
  latentRejected : Nat := 0

namespace VlaTokenReceiver

/-- The action of a message, if all of it is finite. -/
def accept (msg : LatentActionStep K) : Option (VlaLatentAction K) :=
  if allFinite msg.tokenState && allFinite msg.leftHandJoints && allFinite msg.rightHandJoints
  then
    some
      { token := fun i => (msg.tokenState i).getD 0
        leftHand := fun i => (msg.leftHandJoints i).getD 0
        rightHand := fun i => (msg.rightHandJoints i).getD 0 }
  else none

/-- `on_latent_action`. -/
def onLatentAction (v : VlaTokenReceiver K) (msg : LatentActionStep K) (now : TimePoint) :
    VlaTokenReceiver K :=
  match accept msg with
  | none => { v with latentRejected := v.latentRejected + 1 }
  | some out =>
    { v with
      latentBuf := v.latentBuf.setData out now
      latentReceived := v.latentReceived + 1 }

/-- The buffer is never cleared. -/
theorem onLatentAction_data (v : VlaTokenReceiver K) (msg : LatentActionStep K)
    (now : TimePoint) :
    (v.onLatentAction msg now).latentBuf.data = (accept msg).or v.latentBuf.data := by
  unfold onLatentAction
  cases accept msg <;> rfl

end VlaTokenReceiver

end Gearsonic
