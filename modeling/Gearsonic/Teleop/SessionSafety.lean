import Gearsonic.Teleop.TrackerFlags
import Gearsonic.Teleop.Session

/-!
# No hidden teleop through a VLA session

Entering a session asks the tracker for a reset, and both gestures are ignored until the
session is over. The reset clears the two flavor flags. It does not clear
`calibrate_request_`: a capture that the B gesture has asked for and that still waits for a
body sample outlives the reset, and the sample engages teleop inside the session.

* `session_quiet`: along every run whose resets find no capture pending and are consumed
  before the session ends, no flavor is engaged between the consumed reset and the return
  to the origin, and teleop is entered by a gesture completed at the origin only.
* `pending_capture_survives_reset`: the run that leaves this condition.
-/

namespace Gearsonic

namespace TeleopSession

open Transition

variable {κ : Kernels} {s t : TeleopSession κ}

/-- The session's reset has been consumed and the session is not over. -/
def resetConsumed (s : TeleopSession κ) : Bool :=
  s.mode.inSession && !s.resetCall && !s.tracker.resetRequest

/-- The session's reset finds no capture pending, and it is consumed before the session
ends. -/
def CleanReset (s : TeleopSession κ) : Act κ → Prop
  | .consumeReset => s.mode.inSession = true → s.tracker.resetRequest = true →
      s.tracker.calibrateRequest = false
  | .updateArbiter _ _ recoveryDone => s.mode = .recovering → recoveryDone = true →
      s.tracker.resetRequest = false
  | _ => True

/-- Neither flavor is engaged and no capture is pending. -/
def Unarmed (t : TeleopTracker κ) : Prop :=
  t.calibrated = false ∧ t.calibrateRequest = false

/-- What the clean resets maintain: nothing is armed once a session's reset is consumed, a
gesture in flight has read a session mode then, and at the origin only a gesture arms. -/
structure SessionInv (s : TeleopSession κ) : Prop where
  quiet : s.resetConsumed = true → Unarmed s.tracker
  gate : s.resetConsumed = true → ∀ m, s.point.modeRead = some m → m.inSession = true
  origin : s.mode.inSession = false → s.originGesture = false → Unarmed s.tracker

theorem SessionInv.init : SessionInv ({} : TeleopSession κ) :=
  ⟨nofun, nofun, fun _ _ => ⟨rfl, rfl⟩⟩

/-! ## What keeps the tracker unarmed -/

namespace Unarmed

variable {r : TeleopTracker κ}

theorem consumeReset (h : Unarmed r) : Unarmed r.consumeReset := by
  obtain ⟨hc, hr⟩ := h
  refine ⟨?_, (r.consumeReset_frame).1.trans hr⟩
  cases hreq : r.resetRequest with
  | false => rwa [TeleopTracker.consumeReset_of_not hreq]
  | true => exact TeleopTracker.consumeReset_calibrated hreq

/-- The B gesture arms the tracker only by completing. -/
theorem checkCalibrationGesture (h : Unarmed r) (m : Mode) (ctrl : Option FaceButtons)
    (hgest : engagingGesture r (r.checkCalibrationGesture m ctrl) = false) :
    Unarmed (r.checkCalibrationGesture m ctrl) := by
  obtain ⟨hc, hr⟩ := h
  obtain ⟨hu, hf⟩ := TeleopTracker.calibrated_eq_false.mp hc
  obtain ⟨g, h' | ⟨-, -, hon, -⟩ | ⟨-, -, -, hnew, hold, h'⟩⟩ :=
    r.checkCalibrationGesture_cases m ctrl
  · rw [h']
    exact ⟨hc, hr⟩
  · rw [hu] at hon
    cases hon
  · rw [h'] at hgest
    simp [engagingGesture, TeleopTracker.requestCalibration, hnew, hold, hu] at hgest

/-- The A gesture arms the tracker only by engaging full-body. -/
theorem checkFullbodyGesture (h : Unarmed r) (m : Mode) (ctrl : Option FaceButtons)
    (idle present : Bool)
    (hgest : engagingGesture r (r.checkFullbodyGesture m ctrl idle present) = false) :
    Unarmed (r.checkFullbodyGesture m ctrl idle present) := by
  obtain ⟨hc, hr⟩ := h
  obtain ⟨hu, hf⟩ := TeleopTracker.calibrated_eq_false.mp hc
  obtain ⟨g, h' | ⟨-, -, hon, -⟩ | ⟨-, -, -, h'⟩⟩ :=
    r.checkFullbodyGesture_cases m ctrl idle present
  · rw [h']
    exact ⟨hc, hr⟩
  · rw [hf] at hon
    cases hon
  · rw [h'] at hgest
    simp [engagingGesture, hf] at hgest

/-- With a session mode read, neither gesture changes a flag. -/
theorem gated {m : Mode} (h : Unarmed r) (hm : m.inSession = true)
    (ctrl : Option FaceButtons) (idle present : Bool) :
    Unarmed (r.checkCalibrationGesture m ctrl) ∧
      Unarmed (r.checkFullbodyGesture m ctrl idle present) := by
  rw [TeleopTracker.checkCalibrationGesture_of_blocked ctrl (Or.inl hm),
    TeleopTracker.checkFullbodyGesture_of_blocked ctrl idle present (Or.inl hm)]
  exact ⟨h, h⟩

theorem bodySection (h : Unarmed r) (body : TimestampedData κ.BodyPose)
    (ref : κ.WristReference) : Unarmed (r.bodySection body ref) := by
  obtain ⟨hc, hr⟩ := h
  obtain ⟨hu, hf⟩ := TeleopTracker.calibrated_eq_false.mp hc
  obtain ⟨hu', hr'⟩ := TeleopTracker.bodySection_of_no_request body ref hr
  obtain ⟨hf', -⟩ := r.bodySection_frame body ref
  exact ⟨TeleopTracker.calibrated_eq_false.mpr ⟨hu'.trans hu, hf'.trans hf⟩, hr'⟩

theorem fullbodySection (h : Unarmed r) (body : TimestampedData κ.BodyPose) (ageMs : ℚ)
    (t0 : TimePoint) : Unarmed (r.fullbodySection body ageMs t0) := by
  obtain ⟨hc, hr⟩ := h
  obtain ⟨hu, hf⟩ := TeleopTracker.calibrated_eq_false.mp hc
  have hsame : r.fullbodySection body ageMs t0 = r := by
    simp [TeleopTracker.fullbodySection, hf]
  rw [hsame]
  exact ⟨hc, hr⟩

end Unarmed

/-! ## The invariant -/

theorem resetConsumed_iff : s.resetConsumed = true ↔
    s.mode.inSession = true ∧ s.resetCall = false ∧ s.tracker.resetRequest = false := by
  simp [resetConsumed, and_assoc]

/-- A step that keeps the mode, the reset call and the reset request, and does not arm an
unarmed tracker without a gesture, keeps the invariant. -/
theorem SessionInv.of_tracker (hinv : SessionInv s) (hmode : t.mode = s.mode)
    (hcall : t.resetCall = s.resetCall)
    (hreq : t.tracker.resetRequest = s.tracker.resetRequest)
    (hgate : ∀ m, t.point.modeRead = some m → s.point.modeRead = some m ∨ m = s.mode)
    (hquiet : s.resetConsumed = true → Unarmed s.tracker → Unarmed t.tracker)
    (horigin : t.originGesture = false → s.originGesture = false ∧
      (Unarmed s.tracker → Unarmed t.tracker)) : SessionInv t := by
  have hcons : t.resetConsumed = s.resetConsumed := by
    simp only [resetConsumed, hmode, hcall, hreq]
  refine ⟨fun h => ?_, fun h m hm => ?_, fun hm hg => ?_⟩
  · rw [hcons] at h
    exact hquiet h (hinv.quiet h)
  · rw [hcons] at h
    rcases hgate m hm with hm' | rfl
    · exact hinv.gate h m hm'
    · exact (resetConsumed_iff.mp h).1
  · rw [hmode] at hm
    obtain ⟨hg', hkeep⟩ := horigin hg
    exact hkeep (hinv.origin hm hg')

/-- The controller's step. Claiming the robot raises the reset call, so nothing is owed yet;
leaving the session, the consumed reset has left the tracker unarmed. -/
theorem SessionInv.updateArbiter (hinv : SessionInv s) {fresh alive recoveryDone : Bool}
    (hcall : s.resetCall = false)
    (hclean : CleanReset s (.updateArbiter fresh alive recoveryDone)) :
    SessionInv (s.arbitrate
      (decideMode s.mode fresh alive s.tracker.calibrated recoveryDone)) := by
  have hcons : ∀ {next}, (s.arbitrate next).resetConsumed = true → s.mode.inSession = true →
      s.resetConsumed = true := fun hc hm =>
    resetConsumed_iff.mpr ⟨hm, hcall, (resetConsumed_iff.mp hc).2.2⟩
  rcases decideMode_cases s.mode fresh alive s.tracker.calibrated recoveryDone with
    h | ⟨hm, -, h⟩ | ⟨hm, -, h⟩ | ⟨hm, -, h⟩ | ⟨hm, -, h⟩ | ⟨hm, hdone, h⟩ <;> rw [h]
  · -- no transition
    refine ⟨fun hc => ?_, fun hc => ?_, fun hm hg => ?_⟩
    · exact hinv.quiet (hcons hc (resetConsumed_iff.mp hc).1)
    · exact hinv.gate (hcons hc (resetConsumed_iff.mp hc).1)
    · refine hinv.origin hm ?_
      cases hm' : s.mode <;> simpa [arbitrate, hm'] using hg
  · -- the stream claims: the reset call is up
    refine ⟨fun hc => ?_, fun hc => ?_, nofun⟩ <;>
      have hup := (resetConsumed_iff.mp hc).2.1 <;> simp [arbitrate, hm] at hup
  · exact ⟨nofun, nofun, fun _ hg =>
      hinv.origin (by rw [hm]; rfl) (by simpa [arbitrate, hm] using hg)⟩
  · exact ⟨nofun, nofun, fun _ hg =>
      hinv.origin (by rw [hm]; rfl) (by simpa [arbitrate, hm] using hg)⟩
  · have hsess : s.mode.inSession = true := by rw [hm]; rfl
    exact ⟨fun hc => hinv.quiet (hcons hc hsess), fun hc => hinv.gate (hcons hc hsess), nofun⟩
  · have hreq := hclean hm hdone
    have hdone := resetConsumed_iff.mpr ⟨by rw [hm]; rfl, hcall, hreq⟩
    exact ⟨nofun, nofun, fun _ _ => hinv.quiet hdone⟩

/-- The step lemma: a step that meets `CleanReset` keeps the invariant. -/
theorem SessionInv.of_step {a : Act κ} (hinv : SessionInv s) (hclean : CleanReset s a)
    (h : s.step a = some t) : SessionInv t := by
  cases fires_of_step h with
  | consumeReset hp =>
    refine ⟨fun hc => ?_, fun _ m hm => (by cases hm), fun hm hg => ?_⟩
    · obtain ⟨hsess, hcall, -⟩ := resetConsumed_iff.mp hc
      cases hreq : s.tracker.resetRequest with
      | false =>
        exact (hinv.quiet (resetConsumed_iff.mpr ⟨hsess, hcall, hreq⟩)).consumeReset
      | true =>
        have hpend := hclean hsess hreq
        exact ⟨TeleopTracker.consumeReset_calibrated hreq,
          s.tracker.consumeReset_frame.1.trans hpend⟩
    · exact (hinv.origin hm hg).consumeReset
  | readCalibMode hp =>
    refine hinv.of_tracker rfl rfl rfl (fun m hm => ?_) (fun _ h => h) fun hg => ⟨hg, id⟩
    exact Or.inr (Option.some.inj hm).symm
  | calibrationGesture m ctrl hp =>
    refine hinv.of_tracker rfl rfl (s.tracker.checkCalibrationGesture_frame m ctrl).2.2.1
      (fun _ hm => (by cases hm)) (fun hc hun => ?_) fun hg => ?_
    · have hm : m.inSession = true := hinv.gate hc m (by rw [hp]; rfl)
      exact (hun.gated hm ctrl false false).1
    · obtain ⟨hg, hno⟩ := Bool.or_eq_false_iff.mp hg
      exact ⟨hg, fun hun => hun.checkCalibrationGesture m ctrl hno⟩
  | readFbMode hp =>
    refine hinv.of_tracker rfl rfl rfl (fun m hm => ?_) (fun _ h => h) fun hg => ⟨hg, id⟩
    exact Or.inr (Option.some.inj hm).symm
  | fullbodyGesture m ctrl idle present hp =>
    refine hinv.of_tracker rfl rfl
      (s.tracker.checkFullbodyGesture_frame m ctrl idle present).2.2.2.1
      (fun _ hm => (by cases hm)) (fun hc hun => ?_) fun hg => ?_
    · have hm : m.inSession = true := hinv.gate hc m (by rw [hp]; rfl)
      exact (hun.gated hm ctrl idle present).2
    · obtain ⟨hg, hno⟩ := Bool.or_eq_false_iff.mp hg
      exact ⟨hg, fun hun => hun.checkFullbodyGesture m ctrl idle present hno⟩
  | bodySample sample ref hp =>
    refine hinv.of_tracker rfl rfl (s.tracker.bodySection_frame sample ref).2.2.1
      (fun _ hm => (by cases hm)) (fun _ hun => hun.bodySection sample ref)
      fun hg => ⟨hg, fun hun => hun.bodySection sample ref⟩
  | fullbodyTick sample ageMs t0 hp =>
    refine hinv.of_tracker rfl rfl
      (s.tracker.fullbodySection_frame sample ageMs t0).2.2.2.1
      (fun _ hm => (by cases hm)) (fun _ hun => hun.fullbodySection sample ageMs t0)
      fun hg => ⟨hg, fun hun => hun.fullbodySection sample ageMs t0⟩
  | updateArbiter fresh alive recoveryDone hcall =>
    exact hinv.updateArbiter hcall hclean
  | resetCalibration hcall =>
    refine ⟨fun hc => ?_, fun hc => ?_, fun hm hg => hinv.origin hm hg⟩
    · cases (resetConsumed_iff.mp hc).2.2
    · cases (resetConsumed_iff.mp hc).2.2

theorem SessionInv.of_reachable (h : Reachable step CleanReset {} s) : SessionInv s :=
  h.invariant .init fun _ _ _ hinv hclean hstep => hinv.of_step hclean hstep

/-! ## The session -/

/-- In every run whose resets are clean: from the consumption of the session's reset until
the arbiter is back at the origin neither flavor is engaged, and teleop takes the robot only
after a gesture completed since the last session ended. -/
theorem session_quiet (h : Reachable step CleanReset {} s) :
    (s.resetConsumed = true → s.tracker.calibrated = false) ∧
      ∀ a t, s.step a = some t → s.mode ≠ .teleop → t.mode = .teleop →
        s.originGesture = true := by
  have hinv := SessionInv.of_reachable h
  refine ⟨fun hc => (hinv.quiet hc).1, fun a t hstep hne hteleop => ?_⟩
  cases fires_of_step hstep with
  | updateArbiter fresh alive recoveryDone hcall =>
    have hcal : s.tracker.calibrated = true := decideMode_teleop hteleop
    cases hg : s.originGesture with
    | true => rfl
    | false =>
      have hout : s.mode.inSession = false := by
        rcases decideMode_cases s.mode fresh alive s.tracker.calibrated recoveryDone with
          h' | ⟨hm, -, -⟩ | ⟨hm, -, -⟩ | ⟨hm, -, -⟩ | ⟨-, -, h'⟩ | ⟨-, -, h'⟩
        · exact absurd (h'.symm.trans hteleop) hne
        · rw [hm]; rfl
        · rw [hm]; rfl
        · rw [hm]; rfl
        · cases h'.symm.trans hteleop
        · cases h'.symm.trans hteleop
      rw [(hinv.origin hout hg).1] at hcal
      cases hcal
  | _ => exact absurd hteleop hne

/-- A clean claim of the robot, up to the consumed reset. -/
theorem session_quiet_claim :
    ({ mode := .vla, point := .calibMode } : TeleopSession Kernels.bare).tracker.calibrated =
      false := by
  have hrun : run step ({} : TeleopSession Kernels.bare)
      [.updateArbiter true true false, .resetCalibration, .consumeReset] =
        some { mode := .vla, point := .calibMode } := rfl
  have hclean : Along step CleanReset ({} : TeleopSession Kernels.bare)
      [.updateArbiter true true false, .resetCalibration, .consumeReset] := by
    refine ⟨nofun, fun t ht => ⟨trivial, fun u hu => ⟨fun _ _ => ?_, fun _ _ => trivial⟩⟩⟩
    cases ht
    cases hu
    rfl
  exact (session_quiet (reachable_of_along hclean hrun)).1 rfl

/-- B is held for a second with no body sample, the stream claims the robot, the reset is
consumed, and then the first body sample arrives. -/
def pendingCapture : List (Act Kernels.bare) :=
  (List.replicate 50 (iterationActs (some { btnB := true }) {} () 0 0)).flatten ++
    [.updateArbiter true true false, .resetCalibration] ++ iterationActs none {} () 0 0 ++
    iterationActs none ⟨some (), 7⟩ () 0 7

/-- The pending capture outlives the consumed reset: an iteration inside the session ends
with teleop engaged. -/
theorem pending_capture_survives_reset :
    ∃ s, Reachable step Always ({} : TeleopSession Kernels.bare) s ∧
      s.resetConsumed = true ∧ s.point.isTop = true ∧ s.tracker.calibrated = true := by
  have hrun : (run step {} pendingCapture).any (fun s =>
      s.resetConsumed && s.point.isTop && s.tracker.calibrated) = true := by
    decide +kernel
  obtain ⟨s, hs, h⟩ := reachable_of_run_any hrun
  simp only [Bool.and_eq_true] at h
  exact ⟨s, hs, h.1.1, h.1.2, h.2⟩

end TeleopSession

end Gearsonic
