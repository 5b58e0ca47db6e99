import Gearsonic.Control.ControlArbiter
import Gearsonic.Common.RobotParams

/-!
# Motor commands

What the controller's loop hands to the 500 Hz command writer, and the record of the
token behind it. Arrays are in motor order.
-/

namespace Gearsonic

structure MotorCommand (K : Type) [Field K] where
  qTarget : Joints K := fun _ => 0
  dqTarget : Joints K := fun _ => 0
  kp : Joints K := fun _ => 0
  kd : Joints K := fun _ => 0
  tauFf : Joints K := fun _ => 0

namespace MotorCommand

variable (K : Type) [Field K]

/-- What `publish_damping` stores. -/
def damping : MotorCommand K := { kp := fun _ => 0, kd := fun _ => 8 }

variable {K}

/-- A position target held with the policy's gains. -/
def withPolicyGains (qTarget : Joints K) : MotorCommand K :=
  { qTarget := qTarget, kp := g1Kps K, kd := g1Kds K }

end MotorCommand

structure MotionTokenSample (K : Type) [Field K] where
  token : Token K := fun _ => 0
  seq : Nat := 0
  stampNs : Int := 0
  arbiterMode : Mode := .normal
  /-- 255 where the encoder was skipped. -/
  encoderMode : Nat := 255

end Gearsonic
