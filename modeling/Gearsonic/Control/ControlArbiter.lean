import Mathlib.Data.Rat.Cast.OfScientific
import Mathlib.Data.Fin.VecNotation
import Mathlib.Tactic.Common

/-!
# The control-source arbiter

The stage between the token encoder and the policy decoder: first-come mutual exclusion
between the external token stream and the operator's teleop, with every exit routed
through the origin. `decideMode` is the pure transition function, `stepMode` also arms the
token blends, and `selectToken` puts exactly one token out per tick.

Tokens are over an arbitrary field `K`; the program's `float` is read as exact.
-/

namespace Gearsonic

/-- `ControlArbiter::Mode`. -/
inductive Mode where
  | normal
  | teleop
  | vla
  | recovering
deriving DecidableEq, Repr

/-- The modes in which a VLA session, or the recovery after it, holds the robot. -/
def Mode.inSession : Mode → Bool
  | .vla | .recovering => true
  | .normal | .teleop => false

abbrev Token (K : Type) := Fin 64 → K

def kVlaTokenFreshMs : ℚ := 200
def kVlaTokenHoldMs : ℚ := 500
def kVlaLossBlendTicks : Nat := 50

/-- The verified safe standing token, `kVlaSafeStandingToken`. -/
def kVlaSafeStandingToken {K : Type} [Field K] : Token K := ![
   0.0000, -0.3750, -0.1250, -0.1250,  0.1250,  0.1250, -0.0625,
  -0.0625, -0.2500, -0.0625, -0.1875, -0.0625,  0.3750,  0.1250,
   0.1250,  0.0625, -0.1250, -0.1250, -0.1250,  0.1250, -0.0625,
  -0.0625,  0.0000,  0.2500, -0.4375,  0.2500, -0.1250,  0.0625,
   0.1875, -0.2500,  0.0000,  0.1250,  0.0000,  0.0000,  0.2500,
   0.0000, -0.1250, -0.0625,  0.1250, -0.0625, -0.2500,  0.1875,
  -0.0625,  0.1250,  0.0000,  0.4375,  0.3750,  0.0000,  0.2500,
  -0.1250, -0.0625, -0.0625, -0.3125, -0.1250,  0.1250, -0.1875,
   0.4375, -0.0625,  0.0625, -0.0625, -0.2500,  0.0625, -0.1875,
   0.1250]

/-- `ControlArbiter::decide`. -/
def decideMode (current : Mode) (vlaFresh vlaAlive calibrated recoveryDone : Bool) : Mode :=
  match current with
  | .normal => if vlaFresh then .vla else if calibrated then .teleop else .normal
  | .teleop => if calibrated then .teleop else .normal
  | .vla => if vlaAlive then .vla else .recovering
  | .recovering => if recoveryDone then .normal else .recovering

/-- What one decision can do: stay, or one of the five transitions with its trigger. -/
theorem decideMode_cases (m : Mode) (fresh alive cal done : Bool) :
    decideMode m fresh alive cal done = m ∨
      (m = .normal ∧ fresh = true ∧ decideMode m fresh alive cal done = .vla) ∨
      (m = .normal ∧ cal = true ∧ decideMode m fresh alive cal done = .teleop) ∨
      (m = .teleop ∧ cal = false ∧ decideMode m fresh alive cal done = .normal) ∨
      (m = .vla ∧ alive = false ∧ decideMode m fresh alive cal done = .recovering) ∨
      (m = .recovering ∧ done = true ∧ decideMode m fresh alive cal done = .normal) := by
  cases m with
  | normal => cases fresh <;> cases cal <;> simp [decideMode]
  | teleop => cases cal <;> simp [decideMode]
  | vla => cases alive <;> simp [decideMode]
  | recovering => cases done <;> simp [decideMode]

/-- Teleop takes the robot only with the calibrated flag set. -/
theorem decideMode_teleop {m : Mode} {fresh alive cal done : Bool}
    (h : decideMode m fresh alive cal done = .teleop) : cal = true := by
  cases m <;> cases fresh <;> cases alive <;> cases cal <;> cases done <;>
    simp_all [decideMode]

/-- The stage: its mode and the blend state. -/
structure ControlArbiter (K : Type) [Field K] where
  mode : Mode := .normal
  heldToken : Token K := kVlaSafeStandingToken
  recoveryBlendTick : Nat := 0
  handoffBlendTicks : Nat := 0

namespace ControlArbiter

def kRecoveryBlendTicks : Nat := kVlaLossBlendTicks
def kHandoffBlendTicks : Nat := 35

variable {K : Type} [Field K]

/-- `decide` plus blend arming. The new mode is the new stage's `mode`. -/
def stepMode (arb : ControlArbiter K) (vlaFresh vlaAlive calibrated recoveryDone : Bool) :
    ControlArbiter K :=
  let next := decideMode arb.mode vlaFresh vlaAlive calibrated recoveryDone
  if next = arb.mode then arb
  else
    { arb with
      mode := next
      recoveryBlendTick := if next = .recovering then 0 else arb.recoveryBlendTick
      handoffBlendTicks :=
        if (arb.mode = .recovering ∧ next = .normal) ∨ next = .vla then kHandoffBlendTicks
        else arb.handoffBlendTicks }

@[simp] theorem stepMode_mode (arb : ControlArbiter K) (fresh alive cal done : Bool) :
    (arb.stepMode fresh alive cal done).mode = decideMode arb.mode fresh alive cal done := by
  unfold stepMode
  by_cases h : decideMode arb.mode fresh alive cal done = arb.mode <;> simp [h]

def recoveryBlendDone (arb : ControlArbiter K) : Bool :=
  kRecoveryBlendTicks ≤ arb.recoveryBlendTick

def armHandoff (arb : ControlArbiter K) : ControlArbiter K :=
  { arb with handoffBlendTicks := kHandoffBlendTicks }

/-- The handoff crossfade of `kVla`, `kNormal` and `kTeleop`: slide from the held token
into the supplied one while armed, else pass through. -/
def handoff (arb : ControlArbiter K) (token : Token K) : ControlArbiter K × Token K :=
  if 0 < arb.handoffBlendTicks then
    let w : K := 1 - (arb.handoffBlendTicks : K) / (kHandoffBlendTicks : K)
    let out : Token K := fun i => (1 - w) * arb.heldToken i + w * token i
    ({ arb with heldToken := out, handoffBlendTicks := arb.handoffBlendTicks - 1 }, out)
  else ({ arb with heldToken := token }, token)

/-- The standing blend of `kRecovering`. -/
def standingBlend (arb : ControlArbiter K) : ControlArbiter K × Token K :=
  let tick := if arb.recoveryBlendTick < kRecoveryBlendTicks then arb.recoveryBlendTick + 1
    else arb.recoveryBlendTick
  let a : K := (tick : K) / (kRecoveryBlendTicks : K)
  let out : Token K := fun i => (1 - a) * arb.heldToken i + a * kVlaSafeStandingToken i
  ({ arb with heldToken := out, recoveryBlendTick := tick }, out)

/-- Exactly one token per tick. The mode decides which of the two tokens is read; a null
pointer that the mode would dereference is read as the zero token. -/
def selectToken (arb : ControlArbiter K) (encoderToken vlaToken : Option (Token K)) :
    ControlArbiter K × Token K :=
  match arb.mode with
  | .vla => arb.handoff (vlaToken.getD 0)
  | .recovering => arb.standingBlend
  | .normal | .teleop => arb.handoff (encoderToken.getD 0)

@[simp] theorem armHandoff_mode (arb : ControlArbiter K) : arb.armHandoff.mode = arb.mode := rfl

theorem handoff_mode (arb : ControlArbiter K) (t : Token K) :
    (arb.handoff t).1.mode = arb.mode := by
  unfold handoff
  split <;> rfl

@[simp] theorem selectToken_mode (arb : ControlArbiter K) (e v : Option (Token K)) :
    (arb.selectToken e v).1.mode = arb.mode := by
  unfold selectToken
  split
  · exact handoff_mode _ _
  · rfl
  · exact handoff_mode _ _
  · exact handoff_mode _ _

end ControlArbiter

end Gearsonic
