import Mathlib.Tactic.Common

/-!
# Controller samples

`PicoVRController`: the face buttons, which the gestures read, and the analog axes, which
locomotion and the hands read.
-/

namespace Gearsonic

/-- The four face buttons of a controller sample. -/
structure FaceButtons where
  btnA : Bool := false
  btnB : Bool := false
  btnX : Bool := false
  btnY : Bool := false
deriving DecidableEq, Repr

namespace FaceButtons

def onlyA (b : FaceButtons) : Bool := b.btnA && !b.btnB && !b.btnX && !b.btnY

def onlyB (b : FaceButtons) : Bool := b.btnB && !b.btnA && !b.btnX && !b.btnY

/-- How many face buttons are down. -/
def nFace (b : FaceButtons) : Nat := b.btnA.toNat + b.btnB.toNat + b.btnX.toNat + b.btnY.toNat

end FaceButtons

/-- `PicoVRController`. -/
structure PicoVRController (K : Type) extends FaceButtons where
  leftAxis : K × K
  rightAxis : K × K
  leftTrigger : K
  rightTrigger : K
  leftGrip : K
  rightGrip : K

end Gearsonic
