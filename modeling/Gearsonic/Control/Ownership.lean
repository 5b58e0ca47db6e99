import Gearsonic.Control.TokenStage

/-!
# First-come ownership

The arbiter stage tick by tick, and what a tick can be influenced by while one side holds
the robot. `heldTrace` is what a run shows until the holder lets go: the mode and the
output of every tick, the one that goes back to the origin included.

* `heldTrace_session`: a VLA session and the recovery after it are blind to the operator's
  side. Only the tick back to the origin reads an encoder token, and there the handoff is
  armed in full, so its output is the token held before.
* `heldTrace_teleop`: an operator's session is blind to the stream's side.
* `origin_between`: two ticks with different holders have the origin between them.
-/

set_option linter.unusedSectionVars false

namespace Gearsonic

open Numeric

/-- The side that holds the robot; nobody at the origin. -/
inductive Holder where
  | stream
  | operator
deriving DecidableEq

def Mode.holder : Mode → Option Holder
  | .normal => none
  | .teleop => some .operator
  | .vla | .recovering => some .stream

theorem Mode.holder_stream {m : Mode} : m.holder = some .stream ↔ m.inSession = true := by
  cases m <;> simp [holder, inSession]

theorem Mode.holder_operator {m : Mode} : m.holder = some .operator ↔ m = .teleop := by
  cases m <;> simp [holder]

namespace ControlArbiter

/-- What one control tick gives the stage. -/
structure TickInput (K : Type) [Field K] where
  vlaFresh : Bool
  vlaAlive : Bool
  calibrated : Bool
  recoveryDone : Bool
  /-- The encoder's target steps on this tick; seen only on the encoder path. -/
  armed : Bool
  encoderToken : Token K
  vlaToken : Token K

variable {K : Type} [Field K]

/-- The stage after `step_mode`, and on the encoder path after `arm_handoff`. -/
def decided (arb : ControlArbiter K) (i : TickInput K) : ControlArbiter K :=
  let arb := arb.stepMode i.vlaFresh i.vlaAlive i.calibrated i.recoveryDone
  if i.armed ∧ arb.mode.inSession = false then arb.armHandoff else arb

/-- One control tick: the stage after it, and its output. -/
def tick (arb : ControlArbiter K) (i : TickInput K) : ControlArbiter K × Token K :=
  (arb.decided i).selectToken (some i.encoderToken) (some i.vlaToken)

def step (arb : ControlArbiter K) (i : TickInput K) : Option (ControlArbiter K) :=
  some (arb.tick i).1

/-- Mode and output of every tick, up to and including the first in kNormal. -/
def heldTrace (arb : ControlArbiter K) : List (TickInput K) → List (Mode × Token K)
  | [] => []
  | i :: is =>
    ((arb.tick i).1.mode, (arb.tick i).2) ::
      if (arb.tick i).1.mode = .normal then [] else heldTrace (arb.tick i).1 is

/-- The inputs that a VLA session and its recovery may depend on agree. -/
structure SameStream (i j : TickInput K) : Prop where
  alive : i.vlaAlive = j.vlaAlive
  done : i.recoveryDone = j.recoveryDone
  token : i.vlaToken = j.vlaToken

/-- The inputs that an operator's session may depend on agree. -/
structure SameOperator (i j : TickInput K) : Prop where
  calibrated : i.calibrated = j.calibrated
  armed : i.armed = j.armed
  token : i.encoderToken = j.encoderToken

/-! ## One tick -/

theorem decided_mode (arb : ControlArbiter K) (i : TickInput K) :
    (arb.decided i).mode =
      decideMode arb.mode i.vlaFresh i.vlaAlive i.calibrated i.recoveryDone := by
  unfold decided
  dsimp only
  split
  · rw [armHandoff_mode, stepMode_mode]
  · rw [stepMode_mode]

theorem decided_session {arb : ControlArbiter K} {i : TickInput K}
    (h : (arb.decided i).mode.inSession = true) :
    arb.decided i = arb.stepMode i.vlaFresh i.vlaAlive i.calibrated i.recoveryDone := by
  rw [decided_mode] at h
  refine if_neg fun ⟨_, hout⟩ => ?_
  rw [stepMode_mode, h] at hout
  cases hout

theorem tick_mode (arb : ControlArbiter K) (i : TickInput K) :
    (arb.tick i).1.mode =
      decideMode arb.mode i.vlaFresh i.vlaAlive i.calibrated i.recoveryDone :=
  (selectToken_mode _ _ _).trans (arb.decided_mode i)

theorem decideMode_session {m : Mode} (hm : m.inSession = true) {i j : TickInput K}
    (h : SameStream i j) :
    decideMode m i.vlaFresh i.vlaAlive i.calibrated i.recoveryDone =
      decideMode m j.vlaFresh j.vlaAlive j.calibrated j.recoveryDone := by
  cases m with
  | vla => simp only [decideMode, h.alive]
  | recovering => simp only [decideMode, h.done]
  | normal => cases hm
  | teleop => cases hm

theorem decideMode_operator {i j : TickInput K} (h : SameOperator i j) :
    decideMode .teleop i.vlaFresh i.vlaAlive i.calibrated i.recoveryDone =
      decideMode .teleop j.vlaFresh j.vlaAlive j.calibrated j.recoveryDone := by
  simp only [decideMode, h.calibrated]

/-- The stage after the decision depends on the decision alone. -/
theorem stepMode_congr {arb : ControlArbiter K} {i j : TickInput K}
    (h : decideMode arb.mode i.vlaFresh i.vlaAlive i.calibrated i.recoveryDone =
      decideMode arb.mode j.vlaFresh j.vlaAlive j.calibrated j.recoveryDone) :
    arb.stepMode i.vlaFresh i.vlaAlive i.calibrated i.recoveryDone =
      arb.stepMode j.vlaFresh j.vlaAlive j.calibrated j.recoveryDone := by
  unfold stepMode
  rw [h]

/-- Within the session the tick is the same, whatever the operator's side gives. -/
theorem tick_session {arb : ControlArbiter K} (hm : arb.mode.inSession = true)
    {i j : TickInput K} (h : SameStream i j) (hstay : (arb.tick i).1.mode ≠ .normal) :
    arb.tick i = arb.tick j := by
  have hnext := decideMode_session hm h
  have hstep := stepMode_congr hnext
  have hsession : (arb.decided i).mode.inSession = true := by
    rw [tick_mode] at hstay
    rw [decided_mode]
    cases hcur : arb.mode with
    | normal => rw [hcur] at hm; cases hm
    | teleop => rw [hcur] at hm; cases hm
    | vla =>
      unfold decideMode
      cases i.vlaAlive <;> rfl
    | recovering =>
      rw [hcur] at hstay
      unfold decideMode at hstay ⊢
      cases hdone : i.recoveryDone with
      | false => rfl
      | true =>
        rw [hdone] at hstay
        exact absurd rfl hstay
  have hdecided : arb.decided i = arb.decided j := by
    have hsession' : (arb.decided j).mode.inSession = true := by
      rw [decided_mode, ← hnext, ← decided_mode]
      exact hsession
    rw [decided_session hsession, decided_session hsession', hstep]
  unfold tick
  rw [← hdecided]
  unfold selectToken
  cases hcur : (arb.decided i).mode with
  | vla => simp only [h.token]
  | recovering => rfl
  | normal => rw [hcur] at hsession; cases hsession
  | teleop => rw [hcur] at hsession; cases hsession

theorem tick_operator {arb : ControlArbiter K} (hm : arb.mode = .teleop)
    {i j : TickInput K} (h : SameOperator i j) : arb.tick i = arb.tick j := by
  have hnext : decideMode arb.mode i.vlaFresh i.vlaAlive i.calibrated i.recoveryDone =
      decideMode arb.mode j.vlaFresh j.vlaAlive j.calibrated j.recoveryDone := by
    rw [hm]
    exact decideMode_operator h
  have hdecided : arb.decided i = arb.decided j := by
    unfold decided
    rw [stepMode_congr hnext, h.armed]
  have horigin : (arb.decided j).mode = .teleop ∨ (arb.decided j).mode = .normal := by
    rw [decided_mode, hm]
    unfold decideMode
    cases j.calibrated
    · exact Or.inr rfl
    · exact Or.inl rfl
  unfold tick
  rw [hdecided]
  unfold selectToken
  rcases horigin with hcur | hcur
  · rw [hcur, h.token]
  · rw [hcur, h.token]

variable [LinearOrder K] [IsStrictOrderedRing K]

/-- The tick that ends a session repeats the token held before it. -/
theorem tick_origin {arb : ControlArbiter K} (hm : arb.mode.inSession = true) {i : TickInput K}
    (hleave : (arb.tick i).1.mode = .normal) : (arb.tick i).2 = arb.heldToken := by
  rw [tick_mode] at hleave
  have hcur : arb.mode = .recovering := by
    cases hcur : arb.mode with
    | recovering => rfl
    | vla =>
      rw [hcur] at hleave
      unfold decideMode at hleave
      cases halive : i.vlaAlive <;> rw [halive] at hleave <;> cases hleave
    | normal => rw [hcur] at hm; cases hm
    | teleop => rw [hcur] at hm; cases hm
  have hstep : (arb.stepMode i.vlaFresh i.vlaAlive i.calibrated i.recoveryDone).handoffBlendTicks =
        kHandoffBlendTicks ∧
      (arb.stepMode i.vlaFresh i.vlaAlive i.calibrated i.recoveryDone).heldToken =
        arb.heldToken := by
    unfold stepMode
    rw [hleave, hcur]
    exact ⟨rfl, rfl⟩
  have hdecided : (arb.decided i).handoffBlendTicks = kHandoffBlendTicks ∧
      (arb.decided i).heldToken = arb.heldToken := by
    unfold decided
    dsimp only
    split
    · exact ⟨rfl, hstep.2⟩
    · exact hstep
  have hnormal : (arb.decided i).mode ≠ .recovering := by
    rw [decided_mode, hleave]
    nofun
  have hselect : arb.tick i = (arb.decided i).handoff i.encoderToken := by
    unfold tick selectToken
    rw [decided_mode, hleave]
    rfl
  rw [hselect]
  funext c
  rw [handoff_out, slideWeight_armed hdecided.1, slide_zero, hdecided.2]

/-! ## Runs until the holder lets go -/

theorem heldTrace_session {arb : ControlArbiter K} (hm : arb.mode.inSession = true)
    {is js : List (TickInput K)} (h : List.Forall₂ SameStream is js) :
    arb.heldTrace is = arb.heldTrace js := by
  induction h generalizing arb with
  | nil => rfl
  | @cons i j is js hij hrest ih =>
    unfold heldTrace
    by_cases hleave : (arb.tick i).1.mode = .normal
    · have hleave' : (arb.tick j).1.mode = .normal := by
        rw [tick_mode] at hleave ⊢
        exact (decideMode_session hm hij).symm.trans hleave
      rw [if_pos hleave, if_pos hleave', hleave, hleave', tick_origin hm hleave,
        tick_origin hm hleave']
    · have heq := tick_session hm hij hleave
      have hstay : (arb.tick i).1.mode.inSession = true := by
        rw [tick_mode] at hleave ⊢
        rcases decideMode_cases arb.mode i.vlaFresh i.vlaAlive i.calibrated i.recoveryDone with
          hd | ⟨hd, -, -⟩ | ⟨hd, -, -⟩ | ⟨hd, -, -⟩ | ⟨-, -, hd⟩ | ⟨-, -, hd⟩
        · rw [hd]; exact hm
        · rw [hd] at hm; cases hm
        · rw [hd] at hm; cases hm
        · rw [hd] at hm; cases hm
        · rw [hd]; rfl
        · exact absurd hd hleave
      rw [← heq, if_neg hleave, if_neg hleave, ih hstay]

theorem heldTrace_teleop {arb : ControlArbiter K} (hm : arb.mode = .teleop)
    {is js : List (TickInput K)} (h : List.Forall₂ SameOperator is js) :
    arb.heldTrace is = arb.heldTrace js := by
  induction h generalizing arb with
  | nil => rfl
  | @cons i j is js hij hrest ih =>
    have heq := tick_operator hm hij
    unfold heldTrace
    rw [← heq]
    by_cases hleave : (arb.tick i).1.mode = .normal
    · rw [if_pos hleave, if_pos hleave]
    · have hstay : (arb.tick i).1.mode = .teleop := by
        rw [tick_mode, hm] at hleave ⊢
        unfold decideMode at hleave ⊢
        cases hcal : i.calibrated with
        | true => rfl
        | false =>
          rw [hcal] at hleave
          exact absurd rfl hleave
      rw [if_neg hleave, if_neg hleave, ih hstay]

/-- One tick never hands the robot from one holder to the other. -/
theorem tick_holder (arb : ControlArbiter K) (i : TickInput K) {a b : Holder}
    (ha : arb.mode.holder = some a) (hb : (arb.tick i).1.mode.holder = some b) : a = b := by
  rw [tick_mode] at hb
  rcases decideMode_cases arb.mode i.vlaFresh i.vlaAlive i.calibrated i.recoveryDone with
    hd | ⟨hd, -, -⟩ | ⟨hd, -, -⟩ | ⟨-, -, hd⟩ | ⟨hd, -, hd'⟩ | ⟨-, -, hd⟩
  · rw [hd] at hb
    exact Option.some.inj (ha.symm.trans hb)
  · rw [hd] at ha; cases ha
  · rw [hd] at ha; cases ha
  · rw [hd] at hb; cases hb
  · rw [hd] at ha
    rw [hd'] at hb
    exact Option.some.inj (ha.symm.trans hb)
  · rw [hd] at hb; cases hb

/-- A run from one holder to the other visits the origin. -/
theorem origin_between {arb arb' : ControlArbiter K} {is : List (TickInput K)} {a b : Holder}
    (hrun : Transition.run step arb is = some arb') (ha : arb.mode.holder = some a)
    (hb : arb'.mode.holder = some b) (hne : a ≠ b) :
    Transition.Visits step (fun u => u.mode = .normal) arb is := by
  by_contra hnever
  have hreach := Transition.reachable_of_along (Transition.along_of_not_visits hnever) hrun
  have hlast : arb'.mode ≠ .normal := fun h => hnever (Transition.visits_last hrun h)
  have hholder : arb'.mode = .normal ∨ arb'.mode.holder = some a := by
    refine hreach.invariant (I := fun u => u.mode = .normal ∨ u.mode.holder = some a)
      (Or.inr ha) ?_
    intro u i v hu hnormal hstep
    cases hstep
    have hu := hu.resolve_left hnormal
    cases hv : (u.tick i).1.mode.holder with
    | some c => exact Or.inr (congrArg some (tick_holder u i hu hv).symm)
    | none =>
      refine Or.inl ?_
      cases hmode : (u.tick i).1.mode with
      | normal => rfl
      | _ => rw [hmode] at hv; cases hv
  have := hholder.resolve_left hlast
  exact hne (Option.some.inj (this.symm.trans hb))

/-- Two runs from one state are the same until the holder lets go when the holder's own
inputs are, and a change of holder passes through the origin. -/
theorem first_come_ownership (arb : ControlArbiter K) (is js : List (TickInput K)) :
    (arb.mode.holder = some .stream → List.Forall₂ SameStream is js →
        arb.heldTrace is = arb.heldTrace js) ∧
      (arb.mode.holder = some .operator → List.Forall₂ SameOperator is js →
        arb.heldTrace is = arb.heldTrace js) ∧
      (∀ a b arb', arb.mode.holder = some a → Transition.run step arb is = some arb' →
        arb'.mode.holder = some b → a ≠ b →
        Transition.Visits step (fun u => u.mode = .normal) arb is) := by
  refine ⟨fun hm h => ?_, fun hm h => ?_, fun a b arb' ha hrun hb hne => ?_⟩
  · exact heldTrace_session (Mode.holder_stream.mp hm) h
  · exact heldTrace_teleop (Mode.holder_operator.mp hm) h
  · exact origin_between hrun ha hb hne

/-- Nothing happens on either side. -/
def restTick : TickInput ℚ :=
  { vlaFresh := false, vlaAlive := false, calibrated := false, recoveryDone := false
    armed := false, encoderToken := 0, vlaToken := 0 }

/-- An operator who calibrates during a recovery, a stream that comes alive while an operator
holds the robot, and an operator's release before a claim. -/
theorem first_come_ownership_recovery :
    ({ mode := .recovering } : ControlArbiter ℚ).heldTrace
          [restTick, { restTick with recoveryDone := true }] =
        ({ mode := .recovering } : ControlArbiter ℚ).heldTrace
          [{ restTick with calibrated := true, encoderToken := 1 },
            { restTick with recoveryDone := true, encoderToken := 1 }] ∧
      ({ mode := .teleop } : ControlArbiter ℚ).heldTrace [restTick] =
        ({ mode := .teleop } : ControlArbiter ℚ).heldTrace
          [{ restTick with vlaFresh := true, vlaAlive := true, vlaToken := 1 }] ∧
      Transition.Visits step (fun u => u.mode = .normal) ({ mode := .teleop } : ControlArbiter ℚ)
        [restTick, { restTick with vlaFresh := true }] := by
  refine ⟨?_, ?_, ?_⟩
  · refine (first_come_ownership _ _ _).1 rfl ?_
    exact .cons ⟨rfl, rfl, rfl⟩ (.cons ⟨rfl, rfl, rfl⟩ .nil)
  · refine (first_come_ownership _ _ _).2.1 rfl ?_
    exact .cons ⟨rfl, rfl, rfl⟩ .nil
  · exact (first_come_ownership _ _ []).2.2 .operator .stream _ rfl rfl rfl nofun

end ControlArbiter

end Gearsonic
