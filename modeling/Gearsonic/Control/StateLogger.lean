import Gearsonic.Common.MathUtils

/-!
# The state history

`StateLogger`, the ring buffer of robot states that the policy observes.
-/

namespace Gearsonic

variable {K : Type} [Field K]

/-- One tick's robot state, joints in IsaacLab order. The default is the zero entry that
pads a short history, with a zero quaternion. -/
structure StateLogger.Entry (K : Type) [Field K] where
  baseQuat : Quat K := fun _ => 0
  baseAngVel : Vec3 K := fun _ => 0
  bodyQ : Joints K := fun _ => 0
  bodyDq : Joints K := fun _ => 0
  lastAction : Joints K := fun _ => 0

structure StateLogger (K : Type) [Field K] where
  capacity : Nat := 100
  ring : List (StateLogger.Entry K) := List.replicate capacity {}
  start : Nat := 0
  size : Nat := 0

namespace StateLogger

def log (l : StateLogger K) (e : Entry K) : StateLogger K :=
  let l := { l with ring := l.ring.set ((l.start + l.size) % l.capacity) e }
  if l.size < l.capacity then { l with size := l.size + 1 }
  else { l with start := (l.start + 1) % l.capacity }

/-- The latest `n` entries, oldest to newest, zero entries first where fewer are held. -/
def getLatest (l : StateLogger K) (n : Nat) : List (Entry K) :=
  let held := min n l.size
  List.replicate (n - held) ({} : Entry K) ++
    (List.range held).map fun j => l.ring.getD ((l.start + l.size - held + j) % l.capacity) {}

end StateLogger

end Gearsonic
