import Gearsonic.Control.MotorCommand

/-!
# The policy decoder

`PolicyDecoder`: the post-processing of the policy's action, and the raw action it keeps
for the state history. What the engine returns is an input of the step.
-/

namespace Gearsonic

variable {K : Type} [Field K]

structure PolicyDecoder (K : Type) [Field K] where
  /-- The last raw action, in IsaacLab order. -/
  lastAction : Joints K := fun _ => 0

namespace PolicyDecoder

/-- The command of an action: `q = default + scale * remap(action)`. -/
def toMotorCommand (action : Joints K) : MotorCommand K :=
  .withPolicyGains fun i => g1DefaultAngles K i + action (isaaclabToMujoco i) * g1ActionScale K i

/-- One control tick; `none` when the inference fails, and then nothing changes. -/
def step (d : PolicyDecoder K) (engine : Option (Joints K)) :
    PolicyDecoder K × Option (MotorCommand K) :=
  match engine with
  | none => (d, none)
  | some action => ({ d with lastAction := action }, some (toMotorCommand action))

end PolicyDecoder

end Gearsonic
