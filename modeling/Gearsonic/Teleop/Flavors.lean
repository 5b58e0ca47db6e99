import Gearsonic.Teleop.TrackerFlags
import Gearsonic.Teleop.Session

/-!
# The two flavors are exclusive and releasable

Each gesture is ignored while the other flavor is engaged, so the gestures keep the
flavors apart. The capture does not look at the other flavor: one that is still pending
when A engages full-body completes with the next body sample, and from then on each
flavor's flag blocks the gesture that would release the other.

* `flavors_exclusive`: along every run in which no body sample completes a capture under
  an engaged full-body flavor, at most one flavor is engaged, each target is published by
  its own flavor only, and the engaged flavor is released by its own button.
* `capture_under_fullbody`: the run that leaves this condition.
-/

namespace Gearsonic

/-- The two teleop flavors. -/
inductive Flavor where
  | upper
  | fullbody

namespace Flavor

variable {κ : Kernels}

def engaged : Flavor → TeleopTracker κ → Bool
  | .upper, t => t.upperCalibrated
  | .fullbody, t => t.fullbodyEngaged

/-- The flavor's own button, alone among the face buttons. -/
def ownButton : Flavor → FaceButtons → Bool
  | .upper, b => b.onlyB
  | .fullbody, b => b.onlyA

def gesture : Flavor → TeleopTracker κ → HoldTrigger
  | .upper, t => t.calibGesture
  | .fullbody, t => t.fbGesture

end Flavor

namespace TeleopSession

open Transition

variable {κ : Kernels} {s t : TeleopSession κ}

/-- No body sample completes a capture while full-body is engaged. -/
def CaptureAlone (s : TeleopSession κ) : Act κ → Prop
  | .bodySample sample _ => sample.data.isSome = true →
      sample.timestamp ≠ s.tracker.lastBodyTime → s.tracker.fullbodyEngaged = true →
      s.tracker.calibrateRequest = false
  | _ => True

instance (s : TeleopSession κ) : (a : Act κ) → Decidable (CaptureAlone s a)
  | .bodySample sample _ => inferInstanceAs (Decidable (sample.data.isSome = true →
      sample.timestamp ≠ s.tracker.lastBodyTime → s.tracker.fullbodyEngaged = true →
      s.tracker.calibrateRequest = false))
  | .consumeReset | .readCalibMode | .calibrationGesture _ | .readFbMode
  | .fullbodyGesture _ _ _ | .fullbodyTick _ _ | .updateArbiter _ _ _ | .resetCalibration =>
    .isTrue trivial

/-- The step lemma: a step that meets `CaptureAlone` keeps the flavors apart. -/
theorem exclusive_step {a : Act κ} (hex : s.tracker.Exclusive) (hcap : CaptureAlone s a)
    (h : s.step a = some t) : t.tracker.Exclusive := by
  cases fires_of_step h with
  | consumeReset hp => exact hex.consumeReset
  | calibrationGesture m ctrl hp => exact hex.checkCalibrationGesture m ctrl
  | fullbodyGesture m ctrl idle present hp =>
    exact hex.checkFullbodyGesture m ctrl idle present
  | bodySample sample ref hp =>
    refine hex.bodySection fun hd hn hr => ?_
    cases hf : s.tracker.fullbodyEngaged with
    | false => rfl
    | true => rw [hcap hd hn hf] at hr; cases hr
  | fullbodyTick sample ageMs t0 hp => exact hex.fullbodySection sample ageMs t0
  | resetCalibration hc => exact ⟨hex.flags, hex.vr3, hex.smpl⟩
  | readCalibMode hp => exact hex
  | readFbMode hp => exact hex
  | updateArbiter fresh alive recoveryDone hc => exact hex

theorem exclusive_of_reachable (h : Reachable step CaptureAlone {} s) :
    s.tracker.Exclusive :=
  h.invariant ⟨nofun, nofun, nofun⟩ fun _ _ _ hex hcap hstep => exclusive_step hex hcap hstep

/-- `reset_calibration()` is called only by an arbiter that has just claimed the robot. -/
theorem resetCall_mode (h : Reachable step CaptureAlone {} s) :
    s.resetCall = true → s.mode = .vla := by
  refine h.invariant (I := fun s => s.resetCall = true → s.mode = .vla) nofun ?_
  intro s a t hinv _ hstep
  cases fires_of_step hstep with
  | updateArbiter fresh alive recoveryDone hc =>
    intro hcall
    simp only [arbitrate, Bool.and_eq_true, decide_eq_true_eq] at hcall ⊢
    exact hcall.1
  | resetCalibration hc => exact nofun
  | _ => exact hinv

/-! ## Releasing and holding the engaged flavor's button -/

/-- The operator's part of a release that starts in iteration `base`: the buttons are let
go in that iteration, and from the next one on the flavor's own button is held alone. -/
def ReleaseHold (f : Flavor) (base : Nat) (s : TeleopSession κ) : Act κ → Prop
  | .calibrationGesture ctrl => f = .upper →
      (ctrl.map f.ownButton).getD false = decide (base < s.iterations)
  | .fullbodyGesture ctrl _ _ => f = .fullbody →
      (ctrl.map f.ownButton).getD false = decide (base < s.iterations)
  | _ => True

/-- The flavor's gesture of the current iteration is done. -/
def gestureDone : Flavor → LoopPoint κ → Bool
  | .upper, .fbMode | .upper, .fbGesture _ => true
  | _, .body | _, .fullbody _ => true
  | _, _ => false

/-- How many times the flavor's gesture has been evaluated since iteration `base`. -/
def evaluations (f : Flavor) (base : Nat) (s : TeleopSession κ) : Nat :=
  s.iterations - base + (gestureDone f s.point).toNat

/-- The engaged flavor in the middle of a release: no reset is on its way, the arbiter and
the modes read are outside a session, and the gesture has counted every evaluation but the
released one. -/
structure Holding (f : Flavor) (base : Nat) (s : TeleopSession κ) : Prop where
  call : s.resetCall = false
  request : s.tracker.resetRequest = true → s.point.isTop = true
  outside : s.mode.inSession = false
  gate : ∀ m, s.point.modeRead = some m → m.inSession = false
  start : base ≤ s.iterations
  count : evaluations f base s = 0 ∨
    (f.gesture s.tracker).fired = false ∧
      (f.gesture s.tracker).ticks + 1 = evaluations f base s ∧ evaluations f base s ≤ 50

/-- A reset is on its way to the tracker. -/
def ResetPending (s : TeleopSession κ) : Prop :=
  s.resetCall = true ∨ s.tracker.resetRequest = true

/-- A step of the tracker inside its iteration that keeps the flavor's gesture and the
number of its evaluations keeps the hold. -/
theorem Holding.of_same {f : Flavor} {base : Nat} (hold : Holding f base s)
    (hcall : t.resetCall = s.resetCall) (hmode : t.mode = s.mode)
    (htop : s.point.isTop = false) (hreq : t.tracker.resetRequest = s.tracker.resetRequest)
    (hgate : ∀ m, t.point.modeRead = some m → m = s.mode)
    (hstart : s.iterations ≤ t.iterations)
    (hev : evaluations f base t = evaluations f base s)
    (hgest : f.gesture t.tracker = f.gesture s.tracker) : Holding f base t := by
  refine ⟨hcall.trans hold.call, fun hr => ?_, hmode ▸ hold.outside, fun m hm => ?_,
    hold.start.trans hstart, ?_⟩
  · rw [hreq] at hr
    rw [hold.request hr] at htop
    cases htop
  · rw [hgate m hm]
    exact hold.outside
  · rw [hev, hgest]
    exact hold.count

/-- One evaluation of the engaged flavor's own gesture. -/
theorem Holding.of_evaluation {f : Flavor} {base : Nat} (hold : Holding f base s)
    {ctrl : Option FaceButtons} (hcall : t.resetCall = s.resetCall) (hmode : t.mode = s.mode)
    (htop : s.point.isTop = false) (hreq : t.tracker.resetRequest = s.tracker.resetRequest)
    (hread : t.point.modeRead = none) (hiter : t.iterations = s.iterations)
    (hbefore : gestureDone f s.point = false) (hafter : gestureDone f t.point = true)
    (hrel : (ctrl.map f.ownButton).getD false = decide (base < s.iterations))
    (hgest : f.gesture t.tracker =
      ((f.gesture s.tracker).tick ((ctrl.map f.ownButton).getD false)
        TeleopTracker.kCalibHoldTicks).1)
    (hnofire : ((f.gesture s.tracker).tick ((ctrl.map f.ownButton).getD false)
        TeleopTracker.kCalibHoldTicks).2 = false) : Holding f base t := by
  have hs : evaluations f base s = s.iterations - base := by
    simp [evaluations, hbefore]
  have ht : evaluations f base t = s.iterations - base + 1 := by
    simp [evaluations, hafter, hiter]
  have hstart := hold.start
  refine ⟨hcall.trans hold.call, fun hr => ?_, hmode ▸ hold.outside, fun m hm => ?_,
    hiter ▸ hstart, Or.inr ?_⟩
  · rw [hreq] at hr
    rw [hold.request hr] at htop
    cases htop
  · rw [hread] at hm
    cases hm
  · have hactive : (ctrl.map f.ownButton).getD false =
        decide (0 < s.iterations - base) := by
      rw [hrel]
      exact decide_eq_decide.mpr (by omega)
    have hcount : 0 < s.iterations - base → (f.gesture s.tracker).fired = false ∧
        (f.gesture s.tracker).ticks + 1 = s.iterations - base := by
      intro hpos
      rcases hold.count with hzero | ⟨hf, hticks, -⟩
      · omega
      · exact ⟨hf, hticks.trans hs⟩
    have hpos : 0 < TeleopTracker.kCalibHoldTicks := by decide
    rcases HoldTrigger.tick_count hpos hactive hcount with hfire | hnext
    · rw [hnofire] at hfire
      cases hfire
    · rw [hgest, ht]
      exact hnext

/-- The gestures of an engaged flavor: open outside a session, counting, and released by
the evaluation that fires. -/
theorem own_gesture_release {r : TeleopTracker κ} (hex : r.Exclusive) {m : Mode}
    (hm : m.inSession = false) (ctrl : Option FaceButtons) :
    (r.upperCalibrated = true →
      (r.checkCalibrationGesture m ctrl).calibGesture =
          (r.calibGesture.tick ((ctrl.map FaceButtons.onlyB).getD false)
            TeleopTracker.kCalibHoldTicks).1 ∧
        ((r.checkCalibrationGesture m ctrl).upperCalibrated = true →
          (r.calibGesture.tick ((ctrl.map FaceButtons.onlyB).getD false)
            TeleopTracker.kCalibHoldTicks).2 = false)) ∧
      (r.fullbodyEngaged = true → ∀ idle present,
        (r.checkFullbodyGesture m ctrl idle present).fbGesture =
            (r.fbGesture.tick ((ctrl.map FaceButtons.onlyA).getD false)
              TeleopTracker.kCalibHoldTicks).1 ∧
          ((r.checkFullbodyGesture m ctrl idle present).fullbodyEngaged = true →
            (r.fbGesture.tick ((ctrl.map FaceButtons.onlyA).getD false)
              TeleopTracker.kCalibHoldTicks).2 = false)) := by
  refine ⟨fun hu => ?_, fun hf idle present => ?_⟩
  · obtain ⟨hg, hrel⟩ :=
      TeleopTracker.checkCalibrationGesture_release ctrl hm (hex.flags hu) hu
    refine ⟨hg, fun hon => Bool.eq_false_iff.mpr fun hfire => ?_⟩
    rw [hrel hfire] at hon
    cases hon
  · obtain ⟨hg, hrel⟩ :=
      TeleopTracker.checkFullbodyGesture_release ctrl idle present hm (hex.fullbody hf) hf
    refine ⟨hg, fun hon => Bool.eq_false_iff.mpr fun hfire => ?_⟩
    rw [hrel hfire] at hon
    cases hon

/-- The step lemma of a release: a step after which the flavor is still engaged keeps the
hold, unless it is the arbiter's claim of the robot. -/
theorem Holding.of_step {f : Flavor} {base : Nat} {a : Act κ} (hex : s.tracker.Exclusive)
    (hold : Holding f base s) (hrel : ReleaseHold f base s a) (h : s.step a = some t)
    (hon : f.engaged s.tracker = true) (hon' : f.engaged t.tracker = true) :
    Holding f base t ∨ (t.resetCall = true ∧ t.mode = .vla) := by
  cases fires_of_step h with
  | consumeReset hp =>
    left
    have hreq : s.tracker.resetRequest = false := by
      cases hr : s.tracker.resetRequest with
      | false => rfl
      | true =>
        obtain ⟨hu, hf⟩ := TeleopTracker.calibrated_eq_false.mp
          (TeleopTracker.consumeReset_calibrated hr)
        cases f with
        | upper => exact absurd hon' (by simp [Flavor.engaged, hu])
        | fullbody => exact absurd hon' (by simp [Flavor.engaged, hf])
    refine ⟨hold.call, fun hr => ?_, hold.outside, fun m hm => (by cases hm), hold.start, ?_⟩
    · rw [TeleopTracker.consumeReset_of_not hreq] at hr
      rw [hreq] at hr
      cases hr
    · have hc := hold.count
      rw [TeleopTracker.consumeReset_of_not hreq]
      cases f <;> simpa [evaluations, hp, gestureDone] using hc
  | readCalibMode hp =>
    left
    refine hold.of_same rfl rfl (by rw [hp]; rfl) rfl (fun m hm => ?_) le_rfl ?_ rfl
    · exact (Option.some.inj hm).symm
    · cases f <;> simp [evaluations, hp, gestureDone]
  | calibrationGesture m ctrl hp =>
    left
    have hm : m.inSession = false := hold.gate m (by rw [hp]; rfl)
    obtain ⟨-, -, hreq, hfb⟩ := s.tracker.checkCalibrationGesture_frame m ctrl
    cases f with
    | upper =>
      obtain ⟨hg, hno⟩ := (own_gesture_release hex hm ctrl).1 hon
      exact hold.of_evaluation rfl rfl (by rw [hp]; rfl) hreq rfl rfl (by rw [hp]; rfl) rfl
        (hrel rfl) hg (hno hon')
    | fullbody =>
      refine hold.of_same rfl rfl (by rw [hp]; rfl) hreq (fun m hm => (by cases hm)) le_rfl ?_
        hfb
      simp [evaluations, hp, gestureDone]
  | readFbMode hp =>
    left
    refine hold.of_same rfl rfl (by rw [hp]; rfl) rfl (fun m hm => ?_) le_rfl ?_ rfl
    · exact (Option.some.inj hm).symm
    · cases f <;> simp [evaluations, hp, gestureDone]
  | fullbodyGesture m ctrl idle present hp =>
    left
    have hm : m.inSession = false := hold.gate m (by rw [hp]; rfl)
    obtain ⟨-, -, -, hreq, hb⟩ := s.tracker.checkFullbodyGesture_frame m ctrl idle present
    cases f with
    | upper =>
      refine hold.of_same rfl rfl (by rw [hp]; rfl) hreq (fun m hm => (by cases hm)) le_rfl ?_
        hb
      simp [evaluations, hp, gestureDone]
    | fullbody =>
      obtain ⟨hg, hno⟩ := (own_gesture_release hex hm ctrl).2 hon idle present
      exact hold.of_evaluation rfl rfl (by rw [hp]; rfl) hreq rfl rfl (by rw [hp]; rfl) rfl
        (hrel rfl) hg (hno hon')
  | bodySample sample ref hp =>
    left
    obtain ⟨-, -, hreq, hb, hfb⟩ := s.tracker.bodySection_frame sample ref
    refine hold.of_same rfl rfl (by rw [hp]; rfl) hreq (fun m hm => (by cases hm)) le_rfl ?_ ?_
    · cases f <;> simp [evaluations, hp, gestureDone]
    · cases f with
      | upper => exact hb
      | fullbody => exact hfb
  | fullbodyTick sample ageMs t0 hp =>
    left
    obtain ⟨-, -, -, hreq, hb, hfb⟩ := s.tracker.fullbodySection_frame sample ageMs t0
    refine hold.of_same rfl rfl (by rw [hp]; rfl) hreq (fun m hm => (by cases hm))
      (Nat.le_succ _) ?_ ?_
    · have hstart := hold.start
      cases f <;> simp only [evaluations, hp, gestureDone, Bool.toNat_true, Bool.toNat_false]
        <;> omega
    · cases f with
      | upper => exact hb
      | fullbody => exact hfb
  | updateArbiter fresh alive recoveryDone hc =>
    rcases decideMode_cases s.mode fresh alive s.tracker.calibrated recoveryDone with
      h' | ⟨hm, -, h'⟩ | ⟨hm, -, h'⟩ | ⟨hm, -, h'⟩ | ⟨hm, -, h'⟩ | ⟨hm, -, h'⟩
    · left
      refine ⟨?_, hold.request, ?_, hold.gate, hold.start, hold.count⟩
      · simp [arbitrate, h']
      · rw [h']
        exact hold.outside
    · right
      rw [h']
      simp [arbitrate, hm]
    · left
      exact ⟨by simp [arbitrate, h'], hold.request, by rw [h']; rfl, hold.gate, hold.start,
        hold.count⟩
    · left
      exact ⟨by simp [arbitrate, h'], hold.request, by rw [h']; rfl, hold.gate, hold.start,
        hold.count⟩
    · exact absurd hold.outside (by rw [hm]; decide)
    · exact absurd hold.outside (by rw [hm]; decide)
  | resetCalibration hc =>
    rw [hold.call] at hc
    cases hc

/-- A reset on its way stays on its way until it is consumed, which releases the flavor. -/
theorem ResetPending.of_step {f : Flavor} {a : Act κ} (hpend : ResetPending s)
    (h : s.step a = some t) (hon' : f.engaged t.tracker = true) : ResetPending t := by
  cases fires_of_step h with
  | consumeReset hp =>
    rcases hpend with hc | hr
    · exact Or.inl hc
    · obtain ⟨hu, hf⟩ := TeleopTracker.calibrated_eq_false.mp
        (TeleopTracker.consumeReset_calibrated hr)
      cases f with
      | upper => exact absurd hon' (by simp [Flavor.engaged, hu])
      | fullbody => exact absurd hon' (by simp [Flavor.engaged, hf])
  | readCalibMode hp => exact hpend
  | readFbMode hp => exact hpend
  | calibrationGesture m ctrl hp =>
    exact hpend.imp id fun hr => (s.tracker.checkCalibrationGesture_frame m ctrl).2.2.1.trans hr
  | fullbodyGesture m ctrl idle present hp =>
    exact hpend.imp id fun hr =>
      (s.tracker.checkFullbodyGesture_frame m ctrl idle present).2.2.2.1.trans hr
  | bodySample sample ref hp =>
    exact hpend.imp id fun hr => (s.tracker.bodySection_frame sample ref).2.2.1.trans hr
  | fullbodyTick sample ageMs t0 hp =>
    exact hpend.imp id fun hr =>
      (s.tracker.fullbodySection_frame sample ageMs t0).2.2.2.1.trans hr
  | updateArbiter fresh alive recoveryDone hc =>
    rcases hpend with hc' | hr
    · rw [hc] at hc'
      cases hc'
    · exact Or.inr hr
  | resetCalibration hc => exact Or.inr rfl

/-- The run lemma of a release: after 51 iterations the flavor has been released, or the
stream has claimed the robot and the reset is on its way. -/
theorem release_run {f : Flavor} {as : List (Act κ)} (hex : s.tracker.Exclusive)
    (hcall : s.resetCall = false) (htop : s.point.isTop = true)
    (hout : s.mode.inSession = false) (hrun : run step s as = some t)
    (hcap : Along step CaptureAlone s as)
    (hrel : Along step (ReleaseHold f s.iterations) s as)
    (hlong : s.iterations + 51 ≤ t.iterations) :
    Visits step (fun u => f.engaged u.tracker = false) s as ∨
      (ResetPending t ∧ Visits step (fun u => u.mode = .vla) s as) := by
  by_cases hvisit : Visits step (fun u => f.engaged u.tracker = false) s as
  · exact Or.inl hvisit
  right
  generalize hV : Visits step (fun u => u.mode = .vla) s as = claimed
  have hclaim : Along step (fun u _ => u.mode = .vla → claimed) s as := by
    rw [along_iff]
    intro bs a u hpre hu hm
    rw [← hV]
    exact ⟨bs, u, (List.prefix_append bs [a]).trans hpre, hu, hm⟩
  have hall := (hcap.and hrel).and ((along_of_not_visits hvisit).and hclaim)
  have hon : f.engaged t.tracker = true := by
    cases he : f.engaged t.tracker with
    | true => rfl
    | false => exact absurd (visits_last hrun he) hvisit
  have hstart : Holding f s.iterations s := by
    cases hp : s.point <;> rw [hp] at htop <;> cases htop
    refine ⟨hcall, fun _ => by rw [hp]; rfl, hout, fun m hm => ?_, le_rfl, Or.inl ?_⟩
    · rw [hp] at hm
      cases hm
    · cases f <;> simp [evaluations, hp, gestureDone]
  have hinv := (reachable_of_along hall hrun).invariant
    (I := fun u => u.tracker.Exclusive ∧ (f.engaged u.tracker = true →
      (ResetPending u ∧ (u.mode = .vla ∨ claimed)) ∨ Holding f s.iterations u))
    ⟨hex, fun _ => Or.inr hstart⟩ ?_
  · rcases hinv.2 hon with ⟨hpend, hm | hc⟩ | hold
    · exact ⟨hpend, hV ▸ visits_last hrun hm⟩
    · exact ⟨hpend, hc⟩
    · have hev : t.iterations - s.iterations ≤ evaluations f s.iterations t :=
        Nat.le_add_right _ _
      rcases hold.count with hzero | ⟨-, -, hle⟩ <;> omega
  · rintro u a v ⟨hexu, hu⟩ ⟨⟨hcapu, hrelu⟩, honu, hclaimu⟩ hstep
    have honu : f.engaged u.tracker = true := by simpa using honu
    refine ⟨exclusive_step hexu hcapu hstep, fun honv => ?_⟩
    rcases hu honu with ⟨hpend, hm⟩ | hold
    · exact Or.inl ⟨hpend.of_step hstep honv, Or.inr (hm.elim hclaimu id)⟩
    · rcases hold.of_step hexu hrelu hstep honu honv with hold | ⟨hc, hm⟩
      · exact Or.inr hold
      · exact Or.inl ⟨Or.inl hc, Or.inl hm⟩

/-! ## The flavors -/

/-- In every run in which no body sample completes a capture under an engaged full-body
flavor: the flavors are exclusive, each target is published by its own flavor only, and
outside a session releasing the buttons and then holding the engaged flavor's own button
for 50 ticks releases it (a stream that claims the robot meanwhile releases it by the
reset it sends). -/
theorem flavors_exclusive (h : Reachable step CaptureAlone {} s) :
    ¬ (s.tracker.upperCalibrated = true ∧ s.tracker.fullbodyEngaged = true) ∧
      ¬ (s.tracker.vr3pointBuf.isSome = true ∧ s.tracker.smplWindowBuf.isSome = true) ∧
      (s.tracker.vr3pointBuf.isSome = true → s.tracker.upperCalibrated = true) ∧
      (s.tracker.smplWindowBuf.isSome = true → s.tracker.fullbodyEngaged = true) ∧
      ∀ f as t, s.point.isTop = true → s.mode.inSession = false →
        f.engaged s.tracker = true → run step s as = some t →
        Along step CaptureAlone s as → Along step (ReleaseHold f s.iterations) s as →
        s.iterations + 51 ≤ t.iterations →
        Visits step (fun u => f.engaged u.tracker = false) s as ∨
          (ResetPending t ∧ Visits step (fun u => u.mode = .vla) s as) := by
  have hex := exclusive_of_reachable h
  refine ⟨fun ⟨hu, hf⟩ => ?_, fun ⟨hv, hw⟩ => ?_, hex.vr3, hex.smpl, ?_⟩
  · rw [hex.flags hu] at hf
    cases hf
  · rw [hex.targets hv] at hw
    cases hw
  · intro f as t htop hout _ hrun hcap hrel hlong
    have hcall : s.resetCall = false := by
      cases hc : s.resetCall with
      | false => rfl
      | true => rw [resetCall_mode h hc] at hout; cases hout
    exact release_run hex hcall htop hout hrun hcap hrel hlong

/-- B is held for a second with no body sample, then `acts`. -/
def afterPendingCapture (acts : List (Act Kernels.bare)) : List (Act Kernels.bare) :=
  (List.replicate 50 (iterationActs (some { btnB := true }) {} () 0 0)).flatten ++ acts

/-- The capture completes with the next body sample: the upper flavor alone. -/
theorem flavors_exclusive_upper : ∃ s : TeleopSession Kernels.bare,
    s.tracker.upperCalibrated = true ∧ s.tracker.fullbodyEngaged = false := by
  have hrun : (run step {} (afterPendingCapture (iterationActs none ⟨some (), 7⟩ () 0 7))).any
      (fun s => s.tracker.upperCalibrated) = true := by decide +kernel
  have hcap : Along step CaptureAlone {}
      (afterPendingCapture (iterationActs none ⟨some (), 7⟩ () 0 7)) := by decide +kernel
  obtain ⟨s, hs, hu⟩ := (Option.any_eq_true _ _).mp hrun
  have hex := flavors_exclusive (reachable_of_along hcap hs)
  exact ⟨s, hu, Bool.eq_false_iff.mpr fun hf => hex.1 ⟨hu, hf⟩⟩

/-- A is held for a second while the capture is pending, and the first body sample arrives
in the iteration in which A engages full-body. -/
def captureUnderFullbody : List (Act Kernels.bare) :=
  afterPendingCapture
    ((List.replicate 49 (iterationActs (some { btnA := true }) {} () 0 0)).flatten ++
      iterationActs (some { btnA := true }) ⟨some (), 7⟩ () 0 7)

/-- Both flavors are engaged at the end of that iteration, and both targets published. -/
theorem capture_under_fullbody :
    ∃ s, Reachable step Always ({} : TeleopSession Kernels.bare) s ∧ s.point.isTop = true ∧
      s.tracker.upperCalibrated = true ∧ s.tracker.fullbodyEngaged = true ∧
      s.tracker.vr3pointBuf.isSome = true ∧ s.tracker.smplWindowBuf.isSome = true := by
  have hrun : (run step {} captureUnderFullbody).any (fun s =>
      s.point.isTop && s.tracker.upperCalibrated && s.tracker.fullbodyEngaged &&
        s.tracker.vr3pointBuf.isSome && s.tracker.smplWindowBuf.isSome) = true := by
    decide +kernel
  obtain ⟨s, hs, h⟩ := reachable_of_run_any hrun
  simp only [Bool.and_eq_true] at h
  exact ⟨s, hs, h.1.1.1.1, h.1.1.1.2, h.1.1.2, h.1.2, h.2⟩

end TeleopSession

end Gearsonic
