import Gearsonic.Common.MathUtils

/-!
# Motion sequences

A 50 Hz motion as the planner publishes it and the controller plays it. In the source
`frames.size() == timesteps` by construction (`resize` is the only writer of either), so
`timesteps` is the length here.
-/

namespace Gearsonic

variable {K : Type} [Field K]

namespace MotionSequence50Hz

/-- One frame; joints are in IsaacLab order. -/
structure Frame (K : Type) [Field K] where
  position : Vec3 K := fun _ => 0
  quaternion : Quat K := ![1, 0, 0, 0]
  joints : Joints K := fun _ => 0
  jointVelocities : Joints K := fun _ => 0

def kCapacity : Nat := 1500

end MotionSequence50Hz

structure MotionSequence50Hz (K : Type) [Field K] where
  frames : List (MotionSequence50Hz.Frame K) := []
  /-- The frame on the consumer's playback timeline this sequence was generated at. -/
  genFrame : Int := 0

namespace MotionSequence50Hz

def timesteps (m : MotionSequence50Hz K) : Nat := m.frames.length

/-- The frame at an index that the callers have clamped. -/
def frame (m : MotionSequence50Hz K) (i : Int) : Frame K := m.frames.getD i.toNat {}

end MotionSequence50Hz

end Gearsonic
