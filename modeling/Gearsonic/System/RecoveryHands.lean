import Gearsonic.Control.ArbiterFlow
import Gearsonic.Transition.Basic
import Gearsonic.Unitree.HandCommandWriter
import Gearsonic.Vla.VlaTokenReceiver

/-!
# The hands through a recovery

The receiver, the controller and the hand writer share the arbiter's mode and the buffer of
latent actions. The controller leaves the buffer alone once the stream is lost, but the hand
writer goes on reading it through the recovery, so a stream that resumes before the recovery
is done moves the hands.

`targets` is what the last pass of the hand writer selected, before the guard. `kept` is no
member of the program: the latent action in the buffer when the session was declared lost.

* `RecoveryInv`: a session has an action in the buffer, and without new targets a recovery
  has the kept ones there.
* `recovery_keeps_targets`: what the hand writer selects in a recovery.
-/

set_option linter.unusedSectionVars false

namespace Gearsonic

variable {K : Type} [Field K] [LinearOrder K] [CMath K]

open WholeBodyController

/-- The hand targets of a latent action. -/
def VlaLatentAction.targets (vla : VlaLatentAction K) : HandCommandPair K :=
  ⟨.fromVlaJoints vla.leftHand true, .fromVlaJoints vla.rightHand false⟩

structure RecoveryHands (K : Type) [Field K] where
  body : ControllerThread K := {}
  receiver : VlaTokenReceiver K := {}
  writer : HandCommandWriter K := {}
  /-- The mode that the hand writer's pass in progress has read. -/
  arbMode : Option Mode := none
  targets : HandCommandPair K := .stop
  kept : Option (VlaLatentAction K) := none

namespace RecoveryHands

inductive Act (K : Type) [Field K] where
  | body (r : TickReads K)
  | latent (msg : LatentActionStep K) (now : TimePoint)
  /-- A pass of the hand writer reads the mode. -/
  | readMode
  /-- And the rest of it. -/
  | hands (r : HandCommandWriter.TickReads K)

/-- The arbiter's mode. -/
abbrev mode (s : RecoveryHands K) : Mode := s.body.controller.arbiter.mode

/-- The latent action in the buffer. -/
abbrev latent (s : RecoveryHands K) : Option (VlaLatentAction K) := s.receiver.latentBuf.data

/-- A step of the controller reads the latent actions from the buffer. -/
def stepBody (s : RecoveryHands K) (r : TickReads K) : RecoveryHands K :=
  let body := s.body.next
    { r with vla := s.receiver.latentBuf.getDataWithTime, vlaData := s.latent }
  { s with
    body := body
    kept :=
      if s.mode ≠ .recovering ∧ body.controller.arbiter.mode = .recovering then s.latent
      else s.kept }

/-- What the hand writer's pass reads, with the mode that it has read first. -/
def handReads (s : RecoveryHands K) (mode : Mode) (r : HandCommandWriter.TickReads K) :
    HandCommandWriter.TickReads K :=
  { r with arbMode := mode, vla := s.latent }

def step (s : RecoveryHands K) : Act K → Option (RecoveryHands K)
  | .body r => some (s.stepBody r)
  | .latent msg now => some { s with receiver := s.receiver.onLatentAction msg now }
  | .readMode =>
    match s.arbMode with
    | none => some { s with arbMode := some s.mode }
    | some _ => none
  | .hands r =>
    s.arbMode.map fun mode =>
      { s with
        writer := s.writer.loopIteration (s.handReads mode r)
        arbMode := none
        targets := ((s.writer.trackCalibration (s.handReads mode r)).selectTargets
          (s.handReads mode r)).2 }

/-- The controller, the receiver and the hand writer have just started. -/
def start (auto : Bool) : RecoveryHands K := { body := { controller := { autoStart := auto } } }

/-- A pass of the hand writer that is to select in a recovery, and was not begun before the
session. -/
def InRecovery (s : RecoveryHands K) : Prop :=
  s.arbMode.any Mode.inSession = true ∧ s.mode = .recovering

/-- In a recovery no latent action with other hand targets is received, and the emergency
stop is not read. -/
def Unmoved (s : RecoveryHands K) : Act K → Prop
  | .latent msg _ => s.mode = .recovering → ∀ vla, VlaTokenReceiver.accept msg = some vla →
      ∀ newest, s.latent = some newest → vla.targets = newest.targets
  | .hands r => s.InRecovery → r.estop = false
  | _ => True

/-! ## The step lemma -/

structure RecoveryInv (s : RecoveryHands K) : Prop where
  session : s.mode.inSession = true → s.latent.isSome = true
  kept : s.mode = .recovering → ∃ vla newest, s.kept = some vla ∧ s.latent = some newest ∧
    newest.targets = vla.targets

theorem RecoveryInv.start (auto : Bool) : RecoveryInv (start auto : RecoveryHands K) :=
  ⟨nofun, nofun⟩

theorem stepArbiter_session {c : WholeBodyController K} {r : TickReads K}
    (h : (c.stepArbiter r).mode.inSession = true) :
    c.arbiter.mode.inSession = true ∨ r.vla.hasData = true := by
  unfold stepArbiter at h
  dsimp only at h
  rw [ControlArbiter.stepMode_mode] at h
  rcases decideMode_cases c.arbiter.mode _ _ r.calibrated _ with
    h' | ⟨-, hfresh, -⟩ | ⟨-, -, h'⟩ | ⟨-, -, h'⟩ | ⟨hm, -, -⟩ | ⟨-, -, h'⟩
  · rw [h'] at h
    exact .inl h
  · rw [Bool.and_eq_true] at hfresh
    exact .inr hfresh.1
  · rw [h'] at h
    cases h
  · rw [h'] at h
    cases h
  · rw [hm]
    exact .inl rfl
  · rw [h'] at h
    cases h

theorem RecoveryInv.of_body {s : RecoveryHands K} (h : s.RecoveryInv) (r : TickReads K) :
    (s.stepBody r).RecoveryInv := by
  have hmode : (s.stepBody r).mode = if s.body.decides then
      (s.body.controller.stepArbiter
        { r with vla := s.receiver.latentBuf.getDataWithTime, vlaData := s.latent }).mode
      else s.mode := ControllerThread.next_mode
  have hsession : (s.stepBody r).mode.inSession = true → s.latent.isSome = true := by
    rw [hmode]
    split
    · intro hin
      rcases stepArbiter_session hin with hbefore | hdata
      · exact h.session hbefore
      · simpa only [TimestampedData.hasData, DataBuffer.getDataWithTime_data] using hdata
    · exact h.session
  refine ⟨hsession, fun hrec => ?_⟩
  show ∃ vla newest, (if s.mode ≠ .recovering ∧ (s.stepBody r).mode = .recovering then s.latent
    else s.kept) = some vla ∧ s.latent = some newest ∧ newest.targets = vla.targets
  by_cases hentered : s.mode ≠ .recovering
  · rw [if_pos ⟨hentered, hrec⟩]
    obtain ⟨vla, hvla⟩ := Option.isSome_iff_exists.mp (hsession (by rw [hrec]; rfl))
    exact ⟨vla, vla, hvla, hvla, rfl⟩
  · rw [if_neg fun hboth => hentered hboth.1]
    exact h.kept (not_not.mp hentered)

theorem RecoveryInv.of_latent {s : RecoveryHands K} (h : s.RecoveryInv)
    (msg : LatentActionStep K) (now : TimePoint) (hC : s.Unmoved (.latent msg now)) :
    RecoveryInv { s with receiver := s.receiver.onLatentAction msg now } := by
  have hdata := s.receiver.onLatentAction_data msg now
  refine ⟨fun hin => ?_, fun hrec => ?_⟩
  · show (s.receiver.onLatentAction msg now).latentBuf.data.isSome = true
    rw [hdata, Option.isSome_or, h.session hin, Bool.or_true]
  · obtain ⟨vla, newest, hkept, hnewest, htargets⟩ := h.kept hrec
    show ∃ vla newest, s.kept = some vla ∧
      (s.receiver.onLatentAction msg now).latentBuf.data = some newest ∧
        newest.targets = vla.targets
    rw [hdata]
    cases hmsg : VlaTokenReceiver.accept msg with
    | none => exact ⟨vla, newest, hkept, hnewest, htargets⟩
    | some resumed =>
      exact ⟨vla, resumed, hkept, rfl, (hC hrec resumed hmsg newest hnewest).trans htargets⟩

/-- The step lemma. -/
theorem RecoveryInv.of_step {s t : RecoveryHands K} {a : Act K} (h : s.RecoveryInv)
    (hC : s.Unmoved a) (hstep : s.step a = some t) : t.RecoveryInv := by
  cases a with
  | body r =>
    cases hstep
    exact h.of_body r
  | latent msg now =>
    cases hstep
    exact h.of_latent msg now hC
  | readMode =>
    unfold step at hstep
    cases hmode : s.arbMode with
    | none =>
      rw [hmode] at hstep
      cases hstep
      exact ⟨h.session, h.kept⟩
    | some mode =>
      rw [hmode] at hstep
      cases hstep
  | hands r =>
    obtain ⟨mode, -, rfl⟩ := Option.map_eq_some_iff.mp hstep
    exact ⟨h.session, h.kept⟩

/-! ## What the hand writer selects -/

/-- In a recovery a pass selects the newest targets in the buffer. -/
theorem hands_targets {s t : RecoveryHands K} (hin : s.InRecovery)
    {newest : VlaLatentAction K} (hnewest : s.latent = some newest)
    {r : HandCommandWriter.TickReads K} (hestop : r.estop = false)
    (hstep : s.step (.hands r) = some t) : t.targets = newest.targets := by
  obtain ⟨mode, hmode, rfl⟩ := Option.map_eq_some_iff.mp hstep
  have hsession : mode.inSession = true := by
    have hany := hin.1
    rw [hmode] at hany
    exact hany
  have hvla : HandCommandWriter.vlaTargets (s.handReads mode r) = some newest := by
    unfold HandCommandWriter.vlaTargets handReads
    dsimp only
    rw [if_pos hsession, hnewest]
  show (HandCommandWriter.selectTargets _ _).2 = _
  have hoff : ¬ (s.handReads mode r).estop = true := by
    show ¬ r.estop = true
    rw [hestop]
    exact Bool.false_ne_true
  unfold HandCommandWriter.selectTargets
  rw [if_neg hoff, hvla]
  rfl

/-- While no other hand targets are received in a recovery, each pass of the hand writer in
it selects the targets of the last latent action before the loss. Once others are received,
the next pass selects those. -/
theorem recovery_keeps_targets {auto : Bool} {s : RecoveryHands K}
    (h : Transition.Reachable step Unmoved (start auto) s) (hin : s.InRecovery) :
    (∀ r t, s.Unmoved (.hands r) → s.step (.hands r) = some t →
      ∃ vla, s.kept = some vla ∧ t.targets = vla.targets) ∧
    ∀ msg now t, s.step (.latent msg now) = some t → ¬ s.Unmoved (.latent msg now) →
      ∀ r u, r.estop = false → t.step (.hands r) = some u →
        ∃ vla, s.kept = some vla ∧ u.targets ≠ vla.targets := by
  have hinv : s.RecoveryInv := h.invariant (.start auto) fun _ _ _ hs hC hstep =>
    hs.of_step hC hstep
  obtain ⟨vla, newest, hkept, hnewest, htargets⟩ := hinv.kept hin.2
  constructor
  · intro r t hC hstep
    exact ⟨vla, hkept, (hands_targets hin hnewest (hC hin) hstep).trans htargets⟩
  · intro msg now t hlatent hmoved r u hestop hstep
    cases hlatent
    refine ⟨vla, hkept, fun hsame => hmoved ?_⟩
    intro _ resumed haccept newest' hnewest'
    have hdata : (s.receiver.onLatentAction msg now).latentBuf.data = some resumed := by
      rw [s.receiver.onLatentAction_data msg now, haccept]
      rfl
    have hselected : u.targets = resumed.targets :=
      hands_targets (s := { s with receiver := s.receiver.onLatentAction msg now }) hin hdata
        hestop hstep
    cases hnewest.symm.trans hnewest'
    rw [← hselected, hsame, htargets]

/-! ## A stream that is lost, and one that resumes -/

/-- A finite message with these targets for every joint of both hands. -/
def message (q : ℚ) : LatentActionStep ℚ :=
  ⟨fun _ => some 0, fun _ => some q, fun _ => some q⟩

/-- The robot stands, LowState is present at this time. -/
def bodyReads (now : TimePoint) : TickReads ℚ :=
  { now := now, lowState := ⟨some {}, now⟩, robotState := some {} }

/-- INIT and WAIT, the claim of a stream, its loss, and a pass of the hand writer. -/
def lostRun : List (Act ℚ) :=
  List.replicate (151 * 4) (.body (bodyReads 1)) ++ [.latent (message 0) 1] ++
    List.replicate 7 (.body (bodyReads 1)) ++ List.replicate 7 (.body (bodyReads 600000001)) ++
    [.readMode]

/-- A condition that implies `Unmoved` and can be evaluated. -/
def NoResume (s : RecoveryHands ℚ) : Act ℚ → Prop
  | .latent _ _ => s.mode ≠ .recovering
  | .hands r => r.estop = false
  | _ => True

instance (s : RecoveryHands ℚ) : ∀ a, Decidable (s.NoResume a)
  | .latent _ _ => inferInstanceAs (Decidable (_ ≠ _))
  | .hands r => inferInstanceAs (Decidable (r.estop = false))
  | .body _ | .readMode => .isTrue trivial

theorem NoResume.unmoved {s : RecoveryHands ℚ} {a : Act ℚ} (h : s.NoResume a) : s.Unmoved a := by
  cases a with
  | latent msg now => exact fun hrec => absurd hrec h
  | hands r => exact fun _ => h
  | _ => trivial

instance (s : RecoveryHands ℚ) : Decidable s.InRecovery := inferInstanceAs (Decidable (_ ∧ _))

theorem recovery_keeps_targets_lost : ∃ s t : RecoveryHands ℚ,
    s.InRecovery ∧ s.step (.hands {}) = some t ∧
      ∃ vla, s.kept = some vla ∧ t.targets = vla.targets := by
  have halong : Transition.Along step NoResume (start true) lostRun := by decide +kernel
  have hend : (Transition.run step (start true) lostRun).any
      (fun s => decide s.InRecovery) = true := by decide +kernel
  cases hrun : Transition.run step (start true) lostRun with
  | none => rw [hrun] at hend; cases hend
  | some s =>
    have hin : s.InRecovery := by
      rw [hrun] at hend
      exact of_decide_eq_true hend
    have hreach : Transition.Reachable step Unmoved (start true) s :=
      (Transition.reachable_of_along halong hrun).mono fun _ _ => NoResume.unmoved
    obtain ⟨mode, hmode, -⟩ := (Option.any_eq_true _ _).mp hin.1
    have hsome : (s.step (.hands {})).isSome = true := by
      unfold step
      rw [hmode]
      rfl
    obtain ⟨t, hstep⟩ := Option.isSome_iff_exists.mp hsome
    exact ⟨s, t, hin, hstep, (recovery_keeps_targets hreach hin).1 {} t (fun _ => rfl) hstep⟩

/-- A message received in the recovery moves the hands. -/
theorem resumed_stream_moves_hands : ∃ s t : RecoveryHands ℚ,
    Transition.Reachable step Transition.Always (start true) s ∧ s.InRecovery ∧
      s.step (.hands {}) = some t ∧ ∃ vla, s.kept = some vla ∧ t.targets ≠ vla.targets := by
  have hend : (Transition.run step (start true) (lostRun ++ [.latent (message 1) 600000002])).any
      (fun s => decide s.InRecovery && (s.step (.hands {})).any fun t =>
        s.kept.any fun vla => decide (t.targets.left.q 0 ≠ vla.targets.left.q 0)) = true := by
    decide +kernel
  obtain ⟨s, hs, hcheck⟩ := Transition.reachable_of_run_any hend
  rw [Bool.and_eq_true, Option.any_eq_true] at hcheck
  obtain ⟨hin, t, hstep, hkept⟩ := hcheck
  obtain ⟨vla, hvla, hne⟩ := (Option.any_eq_true _ _).mp hkept
  refine ⟨s, t, hs, of_decide_eq_true hin, hstep, vla, hvla, fun hsame => ?_⟩
  rw [hsame] at hne
  exact absurd rfl (of_decide_eq_true hne)

end RecoveryHands

end Gearsonic
