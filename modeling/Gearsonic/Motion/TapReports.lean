import Gearsonic.Motion.TapGroups
import Mathlib.Tactic.Linarith
import Mathlib.Tactic.Ring

/-!
# What the detector reports

The detector over a whole stream of ticks. `Tracks` says what each of its states remembers of the
stream: the void that is still on, the press in progress and the taps before it, the window that
is open after a tap, or nothing. Every tick keeps it, and reports the groups that are due.

* `Tracks.step`: what one tick does.
* `event_iff`: a report is a group, at its third release or when the window after its last release
  has passed.
-/

set_option linter.unusedSectionVars false

namespace Gearsonic

open TapDetector (kTapMaxS kDoubleGapS kMaxTaps Event)

/-- The taps that an event stands for. -/
def TapDetector.Event.taps : Event → ℕ
  | .single => 1
  | .double => 2
  | .triple => 3

namespace TapInput

variable {K : Type} [Field K] [LinearOrder K]

/-- The detector after the first `t` ticks. -/
def detector (x : TapInput K) : ℕ → TapDetector K
  | 0 => {}
  | t + 1 => ((x.detector t).update (x.pressed t) (x.voided t) x.dtS).1

/-- What it reports in tick `t`. -/
def event (x : TapInput K) (t : ℕ) : Option Event :=
  ((x.detector t).update (x.pressed t) (x.voided t) x.dtS).2

/-- The tick in which a group is due: that of its third release, or the first one past the window
after its last release. -/
def ReportedAt (x : TapInput K) (g : List Press) (t : ℕ) : Prop :=
  ∃ r b, g = r :: b ∧ if b.length = 2 then t = r.release else x.WindowPasses r.release t

/-! ## What the detector in front of tick `t` remembers -/

/-- A voided tick, and no quiet one since. -/
structure Voided (x : TapInput K) (t : ℕ) (d : TapDetector K) (s : ℕ) : Prop where
  isVoid : d.isVoid = true
  pending : d.pending = false
  lt : s < t
  voided : x.voided s = true
  since : ∀ u, s < u → u < t → ¬ x.Quiet u

/-- A press from `i` on, with the taps before it in the group that it would continue. -/
structure Pressing (x : TapInput K) (t : ℕ) (d : TapDetector K) (i : ℕ) : Prop where
  isVoid : d.isVoid = false
  wasPressed : d.wasPressed = true
  pending : d.pending = false
  lt : i < t
  starts : ∀ u, u + 1 = i → x.Quiet u
  held : ∀ u, i ≤ u → u < t → x.pressed u = true ∧ x.voided u = false
  time : d.pressS = x.span i (t - 1)
  count : ∀ r g, r.press = i → x.Group (r :: g) → g.length = d.count

/-- The window after the last tap of a group that is open. -/
structure Waiting (x : TapInput K) (t : ℕ) (d : TapDetector K) (q : Press) (g : List Press) :
    Prop where
  isVoid : d.isVoid = false
  wasPressed : d.wasPressed = false
  pending : d.pending = true
  group : x.Group (q :: g)
  short : g.length < 2
  count : d.count = g.length + 1
  lt : q.release < t
  quiet : ∀ u, q.release ≤ u → u < t → x.Quiet u
  time : d.sinceReleaseS = x.span q.release (t - 1)
  gap : d.sinceReleaseS ≤ kDoubleGapS

/-- No tap that a press could still join. -/
structure Idle (x : TapInput K) (t : ℕ) (d : TapDetector K) : Prop where
  isVoid : d.isVoid = false
  wasPressed : d.wasPressed = false
  pending : d.pending = false
  quiet : ∀ u, u + 1 = t → x.Quiet u
  full : ∀ q g, x.Group (q :: g) → x.Linked q.release t → g.length = 2

inductive Tracks (x : TapInput K) (t : ℕ) (d : TapDetector K) : Prop
  | voided (s : ℕ) (h : x.Voided t d s)
  | pressing (i : ℕ) (h : x.Pressing t d i)
  | waiting (q : Press) (g : List Press) (h : x.Waiting t d q g)
  | idle (h : x.Idle t d)

variable {x : TapInput K} {q r : Press} {g : List Press} {i s t : ℕ} {d : TapDetector K}

theorem Tracks.start : x.Tracks 0 {} :=
  .idle ⟨rfl, rfl, rfl, fun _ h => absurd h (Nat.succ_ne_zero _),
    fun _ _ _ hlinked => absurd hlinked.lt (Nat.not_lt_zero _)⟩

/-! ## What is due in a tick -/

/-- The reports of tick `t` are the groups that are due. -/
def Reports (x : TapInput K) (t : ℕ) (out : Option Event) : Prop :=
  ∀ e, out = some e ↔ ∃ g, x.Group g ∧ g.length = e.taps ∧ x.ReportedAt g t

theorem reportedAt_cons : x.ReportedAt (r :: g) t ↔
    if g.length = 2 then t = r.release else x.WindowPasses r.release t := by
  constructor
  · rintro ⟨r', b, heq, hdue⟩
    cases heq
    exact hdue
  · exact fun hdue => ⟨r, g, rfl, hdue⟩

/-- Nothing is due. -/
theorem reports_none (h : ∀ r g, x.Group (r :: g) → ¬ x.ReportedAt (r :: g) t) :
    x.Reports t none := by
  intro e
  constructor
  · nofun
  · rintro ⟨_, hgroup, -, r, b, rfl, hdue⟩
    exact absurd ⟨r, b, rfl, hdue⟩ (h r b hgroup)

/-- One group is due. -/
theorem reports_some {e : Event} (hgroup : x.Group (r :: g)) (htaps : (r :: g).length = e.taps)
    (hdue : x.ReportedAt (r :: g) t)
    (honly : ∀ q b, x.Group (q :: b) → x.ReportedAt (q :: b) t → q = r) :
    x.Reports t (some e) := by
  intro e'
  constructor
  · intro heq
    cases heq
    exact ⟨_, hgroup, htaps, hdue⟩
  · rintro ⟨_, hgroup', htaps', q, b, rfl, hdue'⟩
    obtain rfl := honly q b hgroup' (reportedAt_cons.mpr hdue')
    rw [hgroup'.unique hgroup, htaps] at htaps'
    cases e <;> cases e' <;> first | rfl | cases htaps'

/-- A due group has its last release behind it, and quiet ticks since. -/
theorem reportedAt_quiet (hr : x.Clean r) (h : x.ReportedAt (r :: g) t) :
    r.release ≤ t ∧ ∀ u, r.release ≤ u → u ≤ t → x.Quiet u := by
  rw [reportedAt_cons] at h
  split at h
  · subst h
    refine ⟨le_rfl, fun u hu hle => ?_⟩
    obtain rfl := le_antisymm hu hle
    exact hr.quiet_release
  · exact ⟨h.lt.le, h.quiet⟩

theorem reports_none_of_not_quiet (h : ¬ x.Quiet t) : x.Reports t none := by
  refine reports_none fun r g hgroup hdue => ?_
  obtain ⟨hle, hquiet⟩ := reportedAt_quiet hgroup.clean hdue
  exact h (hquiet t hle le_rfl)

theorem not_quiet_of_pressed (h : x.pressed t = true) : ¬ x.Quiet t := by
  intro hquiet
  rw [hquiet.1] at h
  cases h

theorem not_quiet_of_voided (h : x.voided t = true) : ¬ x.Quiet t := by
  intro hquiet
  rw [hquiet.2] at h
  cases h

/-- What a link to the next tick says of the last release. -/
theorem Linked.quiet_le {j : ℕ} (h : x.Linked j (t + 1)) :
    j ≤ t ∧ ∀ u, j ≤ u → u ≤ t → x.Quiet u :=
  ⟨Nat.lt_succ_iff.mp h.lt, fun u hu hut => h.quiet u hu (Nat.lt_succ_iff.mpr hut)⟩

/-- The tick before the next one. -/
theorem quiet_before (h : x.Quiet t) : ∀ u, u + 1 = t + 1 → x.Quiet u := by
  intro u hu
  obtain rfl : u = t := Nat.succ_injective hu
  exact h

/-- A tick that reports nothing and leaves nothing to join. -/
theorem idle_of_no_clean (hquiet : x.Quiet t) (hvoid : d.isVoid = false)
    (hwas : d.wasPressed = false) (hpending : d.pending = false)
    (hno : ∀ r, x.Clean r → r.release ≤ t → (∀ u, r.release ≤ u → u ≤ t → x.Quiet u) → False) :
    x.Tracks (t + 1) d ∧ x.Reports t none := by
  refine ⟨.idle ⟨hvoid, hwas, hpending, quiet_before hquiet, fun q g hgroup hlinked => ?_⟩,
    reports_none fun r g hgroup hdue => ?_⟩
  · obtain ⟨hle, hsince⟩ := hlinked.quiet_le
    exact (hno q hgroup.clean hle hsince).elim
  · obtain ⟨hle, hsince⟩ := reportedAt_quiet hgroup.clean hdue
    exact hno r hgroup.clean hle hsince

/-! ## A voided tick, and the void after it -/

/-- What one tick does to the detector, and what it reports. -/
def Steps (x : TapInput K) (t : ℕ) (d : TapDetector K) : Prop :=
  x.Tracks (t + 1) (d.update (x.pressed t) (x.voided t) x.dtS).1 ∧
    x.Reports t (d.update (x.pressed t) (x.voided t) x.dtS).2

theorem steps_of_voided (h : x.voided t = true) : x.Steps t d := by
  unfold Steps
  refine ⟨.voided t ⟨?_, ?_, Nat.lt_succ_self t, h, fun u hu hut => absurd hut (by omega)⟩, ?_⟩
  · simp [TapDetector.update, h]
  · simp [TapDetector.update, h]
  · have hnone : (d.update (x.pressed t) (x.voided t) x.dtS).2 = none := by
      simp [TapDetector.update, h]
    rw [hnone]
    exact reports_none_of_not_quiet (not_quiet_of_voided h)

/-- No clean press ends in a void, and none ended just before it. -/
theorem Voided.no_clean (h : x.Voided t d s) (hr : x.Clean r) (hle : r.release ≤ t)
    (hquiet : ∀ u, r.release ≤ u → u < t → x.Quiet u) : False := by
  have hdirty : ¬ x.Quiet s := not_quiet_of_voided h.voided
  have hlt := h.lt
  rcases Nat.lt_or_ge s r.release with hbefore | hafter
  · rcases Nat.lt_or_ge s r.press with hearly | hlate
    · obtain ⟨u, hu⟩ : ∃ u, u + 1 = r.press := ⟨r.press - 1, by omega⟩
      have hstart := hr.starts u hu
      have hshort := hr.lt
      rcases Nat.lt_or_ge s u with hsu | hus
      · exact h.since u hsu (by omega) hstart
      · obtain rfl : s = u := by omega
        exact hdirty hstart
    · have hvoided := h.voided
      rw [hr.unvoided s hlate hbefore.le] at hvoided
      cases hvoided
  · exact hdirty (hquiet s hafter hlt)

theorem Voided.steps (h : x.Voided t d s) (hclear : x.voided t = false) : x.Steps t d := by
  have hupdate : d.update (x.pressed t) (x.voided t) x.dtS =
      ({ d with isVoid := x.pressed t, wasPressed := x.pressed t }, none) := by
    simp [TapDetector.update, hclear, h.isVoid]
  have hlt := h.lt
  unfold Steps
  rw [hupdate]
  cases hpressed : x.pressed t with
  | true =>
    have hnot := not_quiet_of_pressed hpressed
    refine ⟨.voided s ⟨rfl, h.pending, by omega, h.voided, fun u hu hut => ?_⟩,
      reports_none_of_not_quiet hnot⟩
    rcases Nat.lt_or_ge u t with hbefore | hge
    · exact h.since u hu hbefore
    · obtain rfl : u = t := by omega
      exact hnot
  | false =>
    exact idle_of_no_clean ⟨hpressed, hclear⟩ rfl rfl h.pending
      fun r hr hle hquiet => h.no_clean hr hle fun u hu hut => hquiet u hu hut.le

/-! ## A press in progress -/

theorem span_self : x.span t t = 0 := by
  rw [span, Nat.sub_self, Nat.cast_zero, zero_mul]

theorem span_succ (h : i ≤ t) : x.span i (t + 1) = x.span i t + x.dtS := by
  unfold span
  rw [Nat.succ_sub h, Nat.cast_succ]
  ring

/-- The clock of a detector moves on by one tick. -/
theorem span_tick (h : i < t) : x.span i t = x.span i (t - 1) + x.dtS := by
  obtain ⟨u, rfl⟩ : ∃ u, t = u + 1 := ⟨t - 1, by omega⟩
  exact span_succ (Nat.lt_succ_iff.mp h)

/-- The press in progress is the one that its release will end. -/
theorem Pressing.eq (h : x.Pressing t d i) (hr : x.Clean r) (hle : r.release ≤ t)
    (hquiet : ∀ u, r.release ≤ u → u ≤ t → x.Quiet u) : r = ⟨i, t⟩ := by
  have hlt := h.lt
  have hrelease : r.release = t := by
    by_contra hne
    obtain ⟨u, hu⟩ : ∃ u, u + 1 = t := ⟨t - 1, by omega⟩
    exact not_quiet_of_pressed (h.held u (by omega) (by omega)).1 (hquiet u (by omega) (by omega))
  have hpress : r.press = i := by
    have hshort := hr.lt
    rcases Nat.lt_trichotomy r.press i with hearly | hsame | hlate
    · obtain ⟨u, hu⟩ : ∃ u, u + 1 = i := ⟨i - 1, by omega⟩
      exact (not_quiet_of_pressed (hr.held u (by omega) (by omega)) (h.starts u hu)).elim
    · exact hsame
    · obtain ⟨u, hu⟩ : ∃ u, u + 1 = r.press := ⟨r.press - 1, by omega⟩
      exact (not_quiet_of_pressed (h.held u (by omega) (by omega)).1 (hr.starts u hu)).elim
  obtain ⟨p, e⟩ := r
  cases hpress
  cases hrelease
  rfl

/-- The press goes on. -/
theorem Pressing.steps_held (h : x.Pressing t d i) (hpressed : x.pressed t = true)
    (hclear : x.voided t = false) : x.Steps t d := by
  have hupdate : d.update (x.pressed t) (x.voided t) x.dtS =
      ({ d with pressS := d.pressS + x.dtS }, none) := by
    simp [TapDetector.update, hpressed, hclear, h.isVoid, h.wasPressed]
  have hlt := h.lt
  unfold Steps
  rw [hupdate]
  refine ⟨.pressing i ⟨h.isVoid, h.wasPressed, h.pending, by omega, h.starts, fun u hu hut => ?_,
    ?_, h.count⟩, reports_none_of_not_quiet (not_quiet_of_pressed hpressed)⟩
  · exact forall_le_of_forall_lt h.held ⟨hpressed, hclear⟩ u hu (Nat.lt_succ_iff.mp hut)
  · dsimp only
    rw [h.time, Nat.add_sub_cancel, span_tick hlt]

/-- The release of a long press leaves nothing. -/
theorem Pressing.steps_long (h : x.Pressing t d i) (hquiet : x.Quiet t)
    (hlong : kTapMaxS ≤ d.pressS) : x.Steps t d := by
  have hupdate : d.update (x.pressed t) (x.voided t) x.dtS =
      ({ d with wasPressed := false, count := 0 }, none) := by
    simp [TapDetector.update, hquiet.1, hquiet.2, h.isVoid, h.wasPressed, hlong]
  unfold Steps
  rw [hupdate]
  refine idle_of_no_clean hquiet h.isVoid rfl h.pending fun r hr hle hsince => ?_
  obtain rfl := h.eq hr hle hsince
  rw [h.time] at hlong
  exact absurd hr.short (not_lt.mpr hlong)

theorem Pressing.clean (h : x.Pressing t d i) (hquiet : x.Quiet t)
    (hshort : ¬ kTapMaxS ≤ d.pressS) : x.Clean ⟨i, t⟩ where
  starts := h.starts
  lt := h.lt
  held u hu hut := (h.held u hu hut).1
  released := hquiet.1
  unvoided := forall_le_of_forall_lt (fun u hu hut => (h.held u hu hut).2) hquiet.2
  short := by rwa [← h.time, ← not_le]

variable [IsStrictOrderedRing K]

/-- The third release is reported. -/
theorem Pressing.steps_third (h : x.Pressing t d i) (hquiet : x.Quiet t)
    (hshort : ¬ kTapMaxS ≤ d.pressS) (hgroup : x.Group (⟨i, t⟩ :: g)) (hfull : g.length = 2) :
    x.Steps t d := by
  have hcount : g.length = d.count := h.count _ g rfl hgroup
  have hthird : kMaxTaps ≤ d.count + 1 := by
    unfold kMaxTaps
    omega
  have hupdate : d.update (x.pressed t) (x.voided t) x.dtS =
      ({ d with wasPressed := false, count := 0 }, some .triple) := by
    simp [TapDetector.update, hquiet.1, hquiet.2, h.isVoid, h.wasPressed, hshort, hthird]
  unfold Steps
  rw [hupdate]
  refine ⟨.idle ⟨h.isVoid, rfl, h.pending, quiet_before hquiet, fun q b hb hlinked => ?_⟩,
    reports_some hgroup ?_ ?_ fun q b hb hdue => ?_⟩
  · obtain ⟨hle, hsince⟩ := hlinked.quiet_le
    obtain rfl := h.eq hb.clean hle hsince
    rw [hb.unique hgroup]
    exact hfull
  · exact congrArg (· + 1) hfull
  · rw [reportedAt_cons, if_pos hfull]
  · obtain ⟨hle, hsince⟩ := reportedAt_quiet hb.clean hdue
    exact h.eq hb.clean hle hsince

/-- After the first and the second release the window opens. -/
theorem Pressing.steps_counted (h : x.Pressing t d i) (hquiet : x.Quiet t)
    (hshort : ¬ kTapMaxS ≤ d.pressS) (hgroup : x.Group (⟨i, t⟩ :: g)) (hopen : g.length < 2) :
    x.Steps t d := by
  have hcount : g.length = d.count := h.count _ g rfl hgroup
  have hthird : ¬ kMaxTaps ≤ d.count + 1 := by
    unfold kMaxTaps
    omega
  have hupdate : d.update (x.pressed t) (x.voided t) x.dtS =
      ({ d with
        wasPressed := false, count := d.count + 1, pending := true, sinceReleaseS := 0 },
        none) := by
    simp [TapDetector.update, hquiet.1, hquiet.2, h.isVoid, h.wasPressed, hshort, hthird]
  unfold Steps
  rw [hupdate]
  refine ⟨.waiting ⟨i, t⟩ g ⟨h.isVoid, rfl, rfl, hgroup, hopen, ?_, Nat.lt_succ_self t,
    fun u hu hut => ?_, ?_, ?_⟩, reports_none fun r b hb hdue => ?_⟩
  · exact congrArg (· + 1) hcount.symm
  · obtain rfl : u = t := by
      dsimp only at hu
      omega
    exact hquiet
  · exact span_self.symm
  · unfold kDoubleGapS
    norm_num
  · obtain ⟨hle, hsince⟩ := reportedAt_quiet hb.clean hdue
    obtain rfl := h.eq hb.clean hle hsince
    rw [reportedAt_cons, hb.unique hgroup, if_neg (by omega)] at hdue
    exact lt_irrefl _ hdue.lt

theorem Pressing.steps_tap (h : x.Pressing t d i) (hquiet : x.Quiet t)
    (hshort : ¬ kTapMaxS ≤ d.pressS) : x.Steps t d := by
  obtain ⟨g, hgroup⟩ := exists_group (h.clean hquiet hshort)
  rcases hgroup.length_le.eq_or_lt with hfull | hopen
  · exact h.steps_third hquiet hshort hgroup hfull
  · exact h.steps_counted hquiet hshort hgroup hopen

theorem Pressing.steps (h : x.Pressing t d i) (hclear : x.voided t = false) : x.Steps t d := by
  cases hpressed : x.pressed t with
  | true => exact h.steps_held hpressed hclear
  | false =>
    by_cases hlong : kTapMaxS ≤ d.pressS
    · exact h.steps_long ⟨hpressed, hclear⟩ hlong
    · exact h.steps_tap ⟨hpressed, hclear⟩ hlong

/-! ## A window, and the end of it -/

/-- The last tap before the window is the only one that anything can be due for. -/
theorem Waiting.eq (h : x.Waiting t d q g) (hr : x.Clean r) (hle : r.release ≤ t)
    (hquiet : ∀ u, r.release ≤ u → u < t → x.Quiet u) : r = q :=
  hr.eq_of_quiet h.group.clean hle h.lt.le hquiet h.quiet

/-- A press within the window goes on with the group. -/
theorem Waiting.steps_press (h : x.Waiting t d q g) (hpressed : x.pressed t = true)
    (hclear : x.voided t = false) : x.Steps t d := by
  have hupdate : d.update (x.pressed t) (x.voided t) x.dtS =
      ({ d with pressS := 0, pending := false, wasPressed := true }, none) := by
    simp [TapDetector.update, hpressed, hclear, h.isVoid, h.wasPressed, h.pending, h.gap]
  have hlt := h.lt
  have hlinked : x.Linked q.release t := ⟨hlt, h.quiet, h.time ▸ h.gap⟩
  unfold Steps
  rw [hupdate]
  refine ⟨.pressing t ⟨h.isVoid, rfl, rfl, Nat.lt_succ_self t, fun u hu => ?_, fun u hu hut => ?_,
    ?_, fun r b hr hb => ?_⟩, reports_none_of_not_quiet (not_quiet_of_pressed hpressed)⟩
  · exact h.quiet u (by omega) (by omega)
  · obtain rfl : u = t := by omega
    exact ⟨hpressed, hclear⟩
  · exact span_self.symm
  · subst hr
    rcases hb.tail with ⟨-, halone⟩ | ⟨q', b', hq', hlinked', htail⟩
    · exact absurd hlinked (halone q h.group.clean)
    · obtain rfl := Linked.eq h.group.clean hq'.clean hlinked hlinked'
      rw [hq'.unique h.group, if_pos h.short] at htail
      rw [htail, h.count]
      rfl

/-- The clock of the window after tick `t`. -/
theorem Waiting.time_tick (h : x.Waiting t d q g) :
    d.sinceReleaseS + x.dtS = x.span q.release t := by
  rw [h.time, span_tick h.lt]

/-- In a quiet tick nothing is due but the open group. -/
theorem Waiting.eq_of_quiet (h : x.Waiting t d q g) (hr : x.Clean r) (hle : r.release ≤ t)
    (hquiet : ∀ u, r.release ≤ u → u ≤ t → x.Quiet u) : r = q :=
  h.eq hr hle fun u hu hut => hquiet u hu hut.le

/-- The window has passed, and the group is reported. -/
theorem Waiting.steps_passed (h : x.Waiting t d q g) (hquiet : x.Quiet t)
    (hpassed : kDoubleGapS < d.sinceReleaseS + x.dtS) : x.Steps t d := by
  have hupdate : d.update (x.pressed t) (x.voided t) x.dtS =
      ({ d with pending := false, count := 0, sinceReleaseS := d.sinceReleaseS + x.dtS },
        some (if d.count = 1 then .single else .double)) := by
    simp [TapDetector.update, hquiet.1, hquiet.2, h.isVoid, h.wasPressed, h.pending, hpassed]
  have hwindow : x.WindowPasses q.release t :=
    ⟨h.lt, forall_le_of_forall_lt h.quiet hquiet, h.time_tick ▸ hpassed, h.time ▸ h.gap⟩
  unfold Steps
  rw [hupdate]
  refine ⟨.idle ⟨h.isVoid, h.wasPressed, rfl, quiet_before hquiet, fun r b hb hlinked => ?_⟩,
    reports_some h.group ?_ ?_ fun r b hb hdue => ?_⟩
  · -- A press in the next tick comes after the window.
    obtain ⟨hle, hrest⟩ := hlinked.quiet_le
    obtain rfl := h.eq_of_quiet hb.clean hle hrest
    have hgap := hlinked.gap
    rw [Nat.add_sub_cancel] at hgap
    exact absurd hgap (not_le.mpr hwindow.passed)
  · rw [List.length_cons, ← h.count]
    have hbound := h.short
    have hcount := h.count
    split
    · assumption
    · have htwo : d.count = 2 := by omega
      exact htwo
  · rw [reportedAt_cons, if_neg h.short.ne]
    exact hwindow
  · obtain ⟨hle, hrest⟩ := reportedAt_quiet hb.clean hdue
    exact h.eq_of_quiet hb.clean hle hrest

/-- The window goes on. -/
theorem Waiting.steps_open (h : x.Waiting t d q g) (hquiet : x.Quiet t)
    (hpassed : ¬ kDoubleGapS < d.sinceReleaseS + x.dtS) : x.Steps t d := by
  have hlt := h.lt
  have hupdate : d.update (x.pressed t) (x.voided t) x.dtS =
      ({ d with sinceReleaseS := d.sinceReleaseS + x.dtS }, none) := by
    simp [TapDetector.update, hquiet.1, hquiet.2, h.isVoid, h.wasPressed, h.pending, hpassed]
  have hsince : ∀ u, q.release ≤ u → u ≤ t → x.Quiet u := forall_le_of_forall_lt h.quiet hquiet
  unfold Steps
  rw [hupdate]
  refine ⟨.waiting q g ⟨h.isVoid, h.wasPressed, h.pending, h.group, h.short, h.count, by omega,
    fun u hu hut => hsince u hu (Nat.lt_succ_iff.mp hut), ?_, not_lt.mp hpassed⟩,
    reports_none fun r b hb hdue => ?_⟩
  · rw [Nat.add_sub_cancel]
    exact h.time_tick
  · obtain ⟨hle, hrest⟩ := reportedAt_quiet hb.clean hdue
    obtain rfl := h.eq_of_quiet hb.clean hle hrest
    rw [reportedAt_cons, hb.unique h.group, if_neg h.short.ne] at hdue
    exact hpassed (h.time_tick ▸ hdue.passed)

theorem Waiting.steps_quiet (h : x.Waiting t d q g) (hquiet : x.Quiet t) : x.Steps t d := by
  by_cases hpassed : kDoubleGapS < d.sinceReleaseS + x.dtS
  · exact h.steps_passed hquiet hpassed
  · exact h.steps_open hquiet hpassed

/-! ## No tap to join -/

/-- A press starts a new group. -/
theorem Idle.steps_press (h : x.Idle t d) (hpressed : x.pressed t = true)
    (hclear : x.voided t = false) : x.Steps t d := by
  have hupdate : d.update (x.pressed t) (x.voided t) x.dtS =
      ({ d with pressS := 0, count := 0, pending := false, wasPressed := true }, none) := by
    simp [TapDetector.update, hpressed, hclear, h.isVoid, h.wasPressed, h.pending]
  unfold Steps
  rw [hupdate]
  refine ⟨.pressing t ⟨h.isVoid, rfl, rfl, Nat.lt_succ_self t, h.quiet, fun u hu hut => ?_, ?_,
    fun r b hr hb => ?_⟩, reports_none_of_not_quiet (not_quiet_of_pressed hpressed)⟩
  · obtain rfl : u = t := by omega
    exact ⟨hpressed, hclear⟩
  · exact span_self.symm
  · subst hr
    rcases hb.tail with ⟨hnil, -⟩ | ⟨q, b', hq, hlinked, htail⟩
    · rw [hnil]
      rfl
    · rw [htail, if_neg (h.full q b' hq hlinked).ge.not_gt]
      rfl

/-- No press ended in this tick. -/
theorem Idle.release_lt (h : x.Idle t d) (hr : x.Clean r) (hle : r.release ≤ t) :
    r.release < t := by
  by_contra hge
  obtain ⟨u, hu⟩ : ∃ u, u + 1 = r.release := ⟨r.release - 1, Nat.sub_add_cancel (by
    have hlt := hr.lt
    omega)⟩
  exact hr.not_quiet hu (h.quiet u (by omega))

/-- A window that passes here was closed before. -/
theorem Idle.steps_quiet (hdt : 0 < x.dtS) (h : x.Idle t d) (hquiet : x.Quiet t) :
    x.Steps t d := by
  have hupdate : d.update (x.pressed t) (x.voided t) x.dtS = (d, none) := by
    simp [TapDetector.update, hquiet.1, hquiet.2, h.isVoid, h.wasPressed, h.pending]
  unfold Steps
  rw [hupdate]
  refine ⟨.idle ⟨h.isVoid, h.wasPressed, h.pending, quiet_before hquiet, fun q b hb hlinked => ?_⟩,
    reports_none fun r b hb hdue => ?_⟩
  · obtain ⟨hle, hrest⟩ := hlinked.quiet_le
    have hlt := h.release_lt hb.clean hle
    refine h.full q b hb ⟨hlt, fun u hu hut => hrest u hu hut.le, ?_⟩
    have hgap := hlinked.gap
    rw [Nat.add_sub_cancel, span_tick hlt] at hgap
    linarith only [hgap, hdt]
  · have hlt := h.release_lt hb.clean (reportedAt_quiet hb.clean hdue).1
    rw [reportedAt_cons] at hdue
    split at hdue
    · omega
    · rename_i hopen
      exact hopen (h.full r b hb ⟨hlt, fun u hu hut => hdue.quiet u hu hut.le, hdue.first⟩)

/-! ## Every tick -/

theorem Tracks.step (hdt : 0 < x.dtS) (h : x.Tracks t d) : x.Steps t d := by
  cases hclear : x.voided t with
  | true => exact steps_of_voided hclear
  | false =>
    cases h with
    | voided s h => exact h.steps hclear
    | pressing i h => exact h.steps hclear
    | waiting q g h =>
      cases hpressed : x.pressed t with
      | true => exact h.steps_press hpressed hclear
      | false => exact h.steps_quiet ⟨hpressed, hclear⟩
    | idle h =>
      cases hpressed : x.pressed t with
      | true => exact h.steps_press hpressed hclear
      | false => exact h.steps_quiet hdt ⟨hpressed, hclear⟩

theorem tracks (hdt : 0 < x.dtS) (t : ℕ) : x.Tracks t (x.detector t) := by
  induction t with
  | zero => exact Tracks.start
  | succ t ih => exact (ih.step hdt).1

/-- The detector reports the groups that are due, and nothing else. -/
theorem event_iff (hdt : 0 < x.dtS) (t : ℕ) (e : Event) :
    x.event t = some e ↔ ∃ g, x.Group g ∧ g.length = e.taps ∧ x.ReportedAt g t :=
  ((tracks hdt t).step hdt).2 e

end TapInput

end Gearsonic
