import Mathlib.Data.Rat.Cast.OfScientific
import Mathlib.Data.Fin.VecNotation
import Mathlib.Tactic.Common
import Gearsonic.Common.MathUtils

/-!
# Hand commands

The 7-motor command of a Dex3 hand, and the mapping of the two controller axes onto it:
the trigger drives the index finger, the grip the thumb and the middle finger.
-/

namespace Gearsonic

structure HandCommand (K : Type) [Field K] where
  q : Fin 7 → K := fun _ => 0
  kp : Fin 7 → K := fun _ => 0
  kd : Fin 7 → K := fun _ => 0
  /-- Off sets the timeout bit: the safe stop. -/
  enabled : Bool := true

def kIndexBegin : Nat := 3
def kMiddleBegin : Nat := 5

/-- The motors of the index finger, which follow the trigger. -/
def motorOnTrigger (i : Fin 7) : Bool := kIndexBegin ≤ i.val && i.val < kMiddleBegin

section

variable (K : Type) [Field K]

def kThumbOpenBend : K := 0.35

def kDex3LeftOpen : Fin 7 → K := ![0, -kThumbOpenBend K, 0, 0, 0, 0, 0]
def kDex3LeftClose : Fin 7 → K := ![0, 1.05, 1.75, -1.00, -1.50, -1.00, -1.50]
def kDex3RightOpen : Fin 7 → K := ![0, kThumbOpenBend K, 0, 0, 0, 0, 0]
def kDex3RightClose : Fin 7 → K := ![0, -1.05, -1.75, 1.00, 1.50, 1.00, 1.50]
def kDex3LeftFist : Fin 7 → K := ![0, 1.05, 1.75, -1.57, -1.75, -1.57, -1.75]
def kDex3RightFist : Fin 7 → K := ![0, -1.05, -1.75, 1.57, 1.75, 1.57, 1.75]

def kDex3LeftMin : Fin 7 → K := ![-1.05, -0.724, 0, -1.57, -1.75, -1.57, -1.75]
def kDex3LeftMax : Fin 7 → K := ![1.05, 1.05, 1.75, 0, 0, 0, 0]
def kDex3RightMin : Fin 7 → K := ![-1.05, -1.05, -1.75, 0, 0, 0, 0]
def kDex3RightMax : Fin 7 → K := ![1.05, 0.742, 0, 1.57, 1.75, 1.57, 1.75]

/-- The joint limits of a hand. -/
def dex3Min (isLeft : Bool) : Fin 7 → K := if isLeft then kDex3LeftMin K else kDex3RightMin K
def dex3Max (isLeft : Bool) : Fin 7 → K := if isLeft then kDex3LeftMax K else kDex3RightMax K

end

variable {K : Type} [Field K]

namespace HandCommand

def kHandKp : K := 1.5
def kHandKd : K := 0.1

/-- `stop_command`. -/
def stop : HandCommand K :=
  { q := fun _ => 0, kp := fun _ => 0, kd := fun _ => 0, enabled := false }

end HandCommand

variable [LinearOrder K]

/-- `HoldSqueeze`: how long an axis has been held at its end. -/
structure HoldSqueeze (K : Type) [Field K] where
  heldS : K := 0

namespace HoldSqueeze

def kThreshold : K := 0.95
def kDwellS : K := 0.20
def kRampS : K := 0.30

/-- One tick: the new timer and the squeeze fraction. -/
def update (h : HoldSqueeze K) (axis dtS : K) : HoldSqueeze K × K :=
  if axis < kThreshold then ({}, 0)
  else
    let heldS := h.heldS + dtS
    let s := (heldS - kDwellS) / kRampS
    (⟨heldS⟩, if s < 0 then 0 else if 1 < s then 1 else s)

end HoldSqueeze

namespace HandCommand

def clamp01 (v : K) : K := if v < 0 then 0 else if 1 < v then 1 else v

/-- `hand_command_from_axes`: open to close with the axis, on to the fist with the
squeeze. -/
def fromAxes (grip trigger squeezeGrip squeezeTrigger : K) (isLeft : Bool) (kp kd : K) :
    HandCommand K :=
  let opened := if isLeft then kDex3LeftOpen K else kDex3RightOpen K
  let close := if isLeft then kDex3LeftClose K else kDex3RightClose K
  let fist := if isLeft then kDex3LeftFist K else kDex3RightFist K
  { q := fun i =>
      let t := if motorOnTrigger i then clamp01 trigger else clamp01 grip
      let s := if motorOnTrigger i then clamp01 squeezeTrigger else clamp01 squeezeGrip
      opened i + t * (close i - opened i) + s * (fist i - close i)
    kp := fun _ => kp
    kd := fun _ => kd
    enabled := true }

def fromGripAndTrigger (grip trigger squeezeGrip squeezeTrigger : K) (isLeft : Bool) :
    HandCommand K :=
  fromAxes grip trigger squeezeGrip squeezeTrigger isLeft kHandKp kHandKd

/-- `from_vla_joints`: the external targets, clamped to the hand's limits. -/
def fromVlaJoints (q : Fin 7 → K) (isLeft : Bool) : HandCommand K :=
  { q := fun i => clamp (q i) (dex3Min K isLeft i) (dex3Max K isLeft i)
    kp := fun _ => kHandKp
    kd := fun _ => kHandKd
    enabled := true }

end HandCommand

end Gearsonic
