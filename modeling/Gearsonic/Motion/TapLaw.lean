import Gearsonic.Motion.TapReports
import Mathlib.Data.Rat.Floor
import Mathlib.Tactic.IntervalCases

/-!
# Every tap gesture is reported once

The law of `TapDetector`, for every stream of ticks at a fixed rate. A report stands for one group
of taps, no press is in two reported groups, and a whole group is reported once, unless the window
after its last release is cut short: by a press too long for a tap, or by a press that ends in a
void. The void itself may come after the window: it takes the whole press with it, from its first
tick on, and the taps before it were waiting for that press.
-/

namespace Gearsonic

open TapDetector (kTapMaxS kDoubleGapS Event)

namespace TapInput

variable {K : Type} [Field K] [LinearOrder K]

/-- No press goes on with the group. -/
def Whole (x : TapInput K) (g : List Press) : Prop :=
  g.length = 3 ∨ ∀ r ∈ g.head?, ∀ q, x.Clean q → ¬ x.Linked r.release q.press

/-- The ticks in which a press would still be counted with a tap released at `j`. -/
structure InWindow (x : TapInput K) (j t : ℕ) : Prop where
  lt : j < t
  gap : x.span j (t - 1) ≤ kDoubleGapS

/-- The button is down from `t` on for longer than a tap. -/
def LongPress (x : TapInput K) (t : ℕ) : Prop :=
  ∃ m, t ≤ m ∧ (∀ s, t ≤ s → s ≤ m → x.pressed s = true) ∧ kTapMaxS ≤ x.span t m

/-- A void in tick `t`, or in a press that is down from `t` on. -/
def VoidedPress (x : TapInput K) (t : ℕ) : Prop :=
  ∃ m, t ≤ m ∧ (∀ s, t ≤ s → s < m → x.pressed s = true) ∧ x.voided m = true

/-- In the window after the group comes a long press or a void. -/
def Followed (x : TapInput K) (g : List Press) : Prop :=
  ∃ r ∈ g.head?, ∃ t, x.InWindow r.release t ∧ (x.LongPress t ∨ x.voided t = true)

/-- In the window after the group comes a long press, a void, or a press that will be voided. -/
def Cancelled (x : TapInput K) (g : List Press) : Prop :=
  ∃ r ∈ g.head?, ∃ t, x.InWindow r.release t ∧ (x.LongPress t ∨ x.VoidedPress t)

/-- Tick `t` reports the group. -/
structure Reported (x : TapInput K) (g : List Press) (t : ℕ) (e : Event) : Prop where
  event : x.event t = some e
  group : x.Group g
  taps : g.length = e.taps
  due : x.ReportedAt g t

structure TapLaw (x : TapInput K) : Prop where
  reports : ∀ t e, x.event t = some e → ∃! g, x.Reported g t e
  once : ∀ g g' t t' e e' r, x.Reported g t e → x.Reported g' t' e' → r ∈ g → r ∈ g' →
    g = g' ∧ t = t'
  reported : ∀ g, x.Group g → x.Whole g → g.length = 3 ∨ ¬ x.Cancelled g →
    ∃! t, ∃ e, x.Reported g t e

variable {x : TapInput K} {q r : Press} {g g' : List Press} {i j s t t' : ℕ} {e e' : Event}

/-! ## One report for a group -/

/-- In a tick one group is due. -/
theorem ReportedAt.group_eq (hg : x.Group g) (hg' : x.Group g') (h : x.ReportedAt g t)
    (h' : x.ReportedAt g' t) : g = g' := by
  have hdue := h
  have hdue' := h'
  obtain ⟨r, b, rfl, -⟩ := h
  obtain ⟨r', b', rfl, -⟩ := h'
  obtain ⟨hle, hquiet⟩ := reportedAt_quiet hg.clean hdue
  obtain ⟨hle', hquiet'⟩ := reportedAt_quiet hg'.clean hdue'
  obtain rfl := hg.clean.eq_of_quiet hg'.clean hle hle' (fun u hu hut => hquiet u hu hut.le)
    fun u hu hut => hquiet' u hu hut.le
  rw [hg.unique hg']

variable [IsStrictOrderedRing K]

theorem span_le (hdt : 0 < x.dtS) (h : s ≤ t) : x.span i s ≤ x.span i t :=
  mul_le_mul_of_nonneg_right (Nat.cast_le.mpr (Nat.sub_le_sub_right h i)) hdt.le

/-- What is counted within the window comes before its end. -/
theorem WindowPasses.lt_of_span_le (hdt : 0 < x.dtS) (h : x.WindowPasses j t)
    (hle : x.span j s ≤ kDoubleGapS) : s < t := by
  by_contra hafter
  have hwait := span_le hdt (not_lt.mp hafter) (i := j)
  exact absurd (hwait.trans hle) (not_le.mpr h.passed)

theorem WindowPasses.eq (hdt : 0 < x.dtS) (h : x.WindowPasses j t) (h' : x.WindowPasses j t') :
    t = t' := by
  have hle : ∀ {a b : ℕ}, x.WindowPasses j a → x.WindowPasses j b → b ≤ a := by
    intro a b ha hb
    have hlt := ha.lt_of_span_le hdt hb.first
    omega
  exact le_antisymm (hle h' h) (hle h h')

/-- A group is due in one tick. -/
theorem ReportedAt.eq (hdt : 0 < x.dtS) (h : x.ReportedAt g t) (h' : x.ReportedAt g t') :
    t = t' := by
  obtain ⟨r, b, rfl, hdue⟩ := h
  rw [reportedAt_cons] at h'
  by_cases hfull : b.length = 2
  · rw [if_pos hfull] at hdue h'
    rw [hdue, h']
  · rw [if_neg hfull] at hdue h'
    exact hdue.eq hdt h'

/-- A press that goes on with a group keeps it from being reported. -/
theorem WindowPasses.not_linked (hdt : 0 < x.dtS) (h : x.WindowPasses j t) (hq : x.Clean q) :
    ¬ x.Linked j q.press := by
  intro hlinked
  have hwithin := h.lt_of_span_le hdt hlinked.gap
  apply not_quiet_of_pressed (hq.held q.press le_rfl hq.lt)
  exact h.quiet _ hlinked.lt.le (by omega)

theorem Reported.eq_of_suffix (hdt : 0 < x.dtS) (h : x.Reported g t e) (h' : x.Reported g' t' e')
    (hsuffix : g <:+ g') : g = g' := by
  obtain ⟨c, rfl⟩ := hsuffix
  rcases List.eq_nil_or_concat c with rfl | ⟨d, a, rfl⟩
  · rfl
  · -- The next press of the longer group came within the window of the shorter one.
    have hnext : x.Group (a :: g) := h'.group.of_suffix ⟨d, by rw [List.concat_append]⟩
    have hdue := h.due
    cases hnext with
    | first _ _ => obtain ⟨r, b, hnil, -⟩ := hdue; cases hnil
    | restart _ _ _ _ => obtain ⟨r, b, hnil, -⟩ := hdue; cases hnil
    | next hgroup hopen hlinked hclean =>
      rw [reportedAt_cons, if_neg hopen.ne] at hdue
      exact absurd hlinked (hdue.not_linked hdt hclean)

theorem Reported.once (hdt : 0 < x.dtS) (h : x.Reported g t e) (h' : x.Reported g' t' e')
    (hr : r ∈ g) (hr' : r ∈ g') : g = g' ∧ t = t' := by
  have heq : g = g' := by
    rcases h.group.suffix_or h'.group hr hr' with hsuffix | hsuffix
    · exact h.eq_of_suffix hdt h' hsuffix
    · exact (h'.eq_of_suffix hdt h hsuffix).symm
  subst heq
  exact ⟨rfl, h.due.eq hdt h'.due⟩

/-- A group that is due has its event. -/
theorem reported_of_due (hdt : 0 < x.dtS) (hg : x.Group g) (hdue : x.ReportedAt g t) :
    ∃ e, x.Reported g t e := by
  have hlast := hdue
  obtain ⟨r, b, rfl, -⟩ := hlast
  have hbound := hg.length_le
  obtain ⟨e, he⟩ : ∃ e : Event, (r :: b).length = e.taps := by
    rw [List.length_cons]
    interval_cases b.length
    · exact ⟨.single, rfl⟩
    · exact ⟨.double, rfl⟩
    · exact ⟨.triple, rfl⟩
  exact ⟨e, (event_iff hdt t e).mpr ⟨_, hg, he, hdue⟩, hg, he, hdue⟩

/-- A cancelled group is not reported, unless it was at its third release. -/
theorem Cancelled.not_reported (hdt : 0 < x.dtS) (h : x.Cancelled g) (hshort : g.length ≠ 3) :
    ¬ x.Reported g t e := by
  intro hreported
  obtain ⟨r, hhead, s, hwindow, hcause⟩ := h
  obtain ⟨q, b, rfl, hdue⟩ := hreported.due
  cases hhead
  rw [if_neg fun hfull => hshort (congrArg (· + 1) hfull)] at hdue
  have hwithin := hdue.lt_of_span_le hdt hwindow.gap
  have hquiet := hdue.quiet s hwindow.lt.le (by omega)
  rcases hcause with ⟨m, hle, hheld, -⟩ | ⟨m, hle, hheld, hvoid⟩
  · exact not_quiet_of_pressed (hheld s le_rfl hle) hquiet
  · rcases hle.eq_or_lt with rfl | hlt
    · exact not_quiet_of_voided hvoid hquiet
    · exact not_quiet_of_pressed (hheld s le_rfl hlt) hquiet

/-! ## A group that nothing follows -/

section

variable [Archimedean K]

/-- Time goes on. -/
theorem exists_span_ge (hdt : 0 < x.dtS) (j : ℕ) (y : K) : ∃ t, j < t ∧ y < x.span j t := by
  obtain ⟨n, hn⟩ := Archimedean.arch (y + 1) hdt
  refine ⟨j + n + 1, by omega, ?_⟩
  have hspan : x.span j (j + n + 1) = n • x.dtS + x.dtS := by
    rw [span_succ (Nat.le_add_right j n), span, Nat.add_sub_cancel_left, nsmul_eq_mul]
  linarith

/-- A press after quiet ticks is a tap, or it lasts too long, or it is voided. -/
theorem clean_or_cancelled (hdt : 0 < x.dtS) (hpressed : x.pressed t = true)
    (hstarts : ∀ u, u + 1 = t → x.Quiet u) :
    x.LongPress t ∨ x.VoidedPress t ∨ ∃ m, x.Clean ⟨t, m⟩ := by
  classical
  -- The first tick that ends the press, or decides what it is.
  have hex : ∃ m, t ≤ m ∧ (x.pressed m = false ∨ x.voided m = true ∨ kTapMaxS ≤ x.span t m) := by
    obtain ⟨m, hlt, hlong⟩ := exists_span_ge hdt t (kTapMaxS : K)
    exact ⟨m, hlt.le, Or.inr (Or.inr hlong.le)⟩
  obtain ⟨hle, hend⟩ := Nat.find_spec hex
  have hmin := fun {s : ℕ} (h : s < Nat.find hex) => Nat.find_min hex h
  generalize Nat.find hex = m at hle hend hmin
  have hheld : ∀ s, t ≤ s → s < m → x.pressed s = true := by
    intro s hs hsm
    by_contra hup
    exact hmin hsm ⟨hs, Or.inl (Bool.eq_false_iff.mpr hup)⟩
  by_cases hvoided : x.voided m = true
  · exact Or.inr (Or.inl ⟨m, hle, hheld, hvoided⟩)
  by_cases hdown : x.pressed m = true
  · refine Or.inl ⟨m, hle, forall_le_of_forall_lt hheld hdown, ?_⟩
    rcases hend with hup | hvoid | hlong
    · rw [hdown] at hup
      cases hup
    · exact absurd hvoid hvoided
    · exact hlong
  · have hlt : t < m := by
      rcases Nat.lt_or_ge t m with hlt | hge
      · exact hlt
      · obtain rfl : t = m := le_antisymm hle hge
        exact absurd hpressed hdown
    have hclear : ∀ s, t ≤ s → s < m → x.voided s = false := fun s hs hsm =>
      Bool.eq_false_iff.mpr fun hvoid => hmin hsm ⟨hs, Or.inr (Or.inl hvoid)⟩
    refine Or.inr (Or.inr ⟨m, hstarts, hlt, hheld, Bool.eq_false_iff.mpr hdown, ?_,
      not_le.mp fun hlong => ?_⟩)
    · exact forall_le_of_forall_lt hclear (Bool.eq_false_iff.mpr hvoided)
    · exact hmin (show m - 1 < m by omega) ⟨by omega, Or.inr (Or.inr hlong)⟩

/-- After a whole group that is not cancelled the window stays quiet. -/
theorem quiet_of_inWindow (hdt : 0 < x.dtS) (hr : x.Clean r)
    (hwhole : ∀ q, x.Clean q → ¬ x.Linked r.release q.press)
    (hcancelled : ¬ ∃ t, x.InWindow r.release t ∧ (x.LongPress t ∨ x.VoidedPress t))
    (h : x.InWindow r.release t) : x.Quiet t := by
  induction t using Nat.strong_induction_on with
  | _ t ih =>
    have hbefore : ∀ u, r.release ≤ u → u < t → x.Quiet u := by
      intro u hu hut
      rcases hu.eq_or_lt with rfl | hlt
      · exact hr.quiet_release
      · exact ih u hut ⟨hlt, (span_le hdt (show u - 1 ≤ t - 1 by omega)).trans h.gap⟩
    have hclear : x.voided t = false := by
      refine Bool.eq_false_iff.mpr fun hvoid => hcancelled ⟨t, h, Or.inr ⟨t, le_rfl, ?_, hvoid⟩⟩
      exact fun s hs hst => absurd hst (not_lt.mpr hs)
    refine ⟨Bool.eq_false_iff.mpr fun hpressed => ?_, hclear⟩
    have hlt := h.lt
    rcases clean_or_cancelled hdt hpressed fun u hu => hbefore u (by omega) (by omega) with
      hlong | hvoid | ⟨m, hclean⟩
    · exact hcancelled ⟨t, h, Or.inl hlong⟩
    · exact hcancelled ⟨t, h, Or.inr hvoid⟩
    · exact hwhole ⟨t, m⟩ hclean ⟨hlt, hbefore, h.gap⟩

/-- A window that stays quiet passes. -/
theorem exists_windowPasses (hdt : 0 < x.dtS) (hj : x.Quiet j)
    (hquiet : ∀ t, x.InWindow j t → x.Quiet t) : ∃ t, x.WindowPasses j t := by
  classical
  have hex := exists_span_ge hdt j (kDoubleGapS : K)
  obtain ⟨hlt, hpassed⟩ := Nat.find_spec hex
  have hmin := fun {s : ℕ} (h : s < Nat.find hex) => Nat.find_min hex h
  generalize Nat.find hex = t at hlt hpassed hmin
  have hfirst : x.span j (t - 1) ≤ kDoubleGapS := by
    rcases Nat.lt_or_ge j (t - 1) with hlater | hnow
    · exact not_lt.mp fun hpassed' => hmin (show t - 1 < t by omega) ⟨hlater, hpassed'⟩
    · obtain rfl : j = t - 1 := by omega
      rw [span_self]
      unfold kDoubleGapS
      norm_num
  refine ⟨t, hlt, fun s hs hst => ?_, hpassed, hfirst⟩
  rcases hs.eq_or_lt with rfl | hafter
  · exact hj
  · exact hquiet s ⟨hafter, (span_le hdt (show s - 1 ≤ t - 1 by omega)).trans hfirst⟩

theorem exists_due (hdt : 0 < x.dtS) (hg : x.Group g) (hwhole : x.Whole g)
    (hclear : g.length = 3 ∨ ¬ x.Cancelled g) : ∃ t, x.ReportedAt g t := by
  cases g with
  | nil => cases hg
  | cons r b =>
    by_cases hfull : b.length = 2
    · exact ⟨r.release, reportedAt_cons.mpr (by rw [if_pos hfull])⟩
    · have hshort : (r :: b).length ≠ 3 := fun h => hfull (Nat.succ_injective h)
      have hr := hg.clean
      have hlast := (hwhole.resolve_left hshort) r rfl
      have hnot := fun h => hclear.resolve_left hshort ⟨r, rfl, h⟩
      obtain ⟨t, hpasses⟩ := exists_windowPasses hdt hr.quiet_release
        fun t h => quiet_of_inWindow hdt hr hlast hnot h
      exact ⟨t, reportedAt_cons.mpr (by rwa [if_neg hfull])⟩

/-- The taps of every stream are reported as they are grouped, each once, and each group that is
not cancelled within its window is reported. -/
theorem tap_law (x : TapInput K) (hdt : 0 < x.dtS) : x.TapLaw where
  reports t e h := by
    obtain ⟨g, hg, htaps, hdue⟩ := (event_iff hdt t e).mp h
    exact ⟨g, ⟨h, hg, htaps, hdue⟩, fun g' h' => h'.due.group_eq h'.group hg hdue⟩
  once g g' t t' e e' r h h' hr hr' := h.once hdt h' hr hr'
  reported g hg hwhole hclear := by
    obtain ⟨t, hdue⟩ := exists_due hdt hg hwhole hclear
    exact ⟨t, reported_of_due hdt hg hdue, fun t' ⟨e, h'⟩ => h'.due.eq hdt hdue⟩

end

/-- One short press at ten ticks a second. -/
def oneTap : TapInput ℚ where
  pressed t := t = 1
  voided _ := false
  dtS := 1 / 10

/-- The tap is reported in the fourth tick after its release. -/
theorem tap_law_oneTap : 0 < oneTap.dtS ∧ ∃! g, oneTap.Reported g 6 .single :=
  ⟨by norm_num [oneTap],
    (tap_law oneTap (by norm_num [oneTap])).reports 6 .single (by decide +kernel)⟩

/-- One tap, then a press that starts within the window and is voided after its end. -/
def lateVoid : TapInput ℚ where
  pressed t := t = 1 ∨ t = 6 ∨ t = 7
  voided t := t = 7
  dtS := 1 / 10

theorem lateVoid_clean (h : lateVoid.Clean r) : r = ⟨1, 2⟩ := by
  have hlt := h.lt
  have hdown : ∀ t, r.press ≤ t → t < r.release → t = 1 ∨ t = 6 ∨ t = 7 := fun t ht htr =>
    of_decide_eq_true (h.held t ht htr)
  have hup : ¬ (r.release = 1 ∨ r.release = 6 ∨ r.release = 7) :=
    of_decide_eq_false h.released
  have hclear : ¬ (r.press ≤ 7 ∧ 7 ≤ r.release) := fun ⟨hpress, hrelease⟩ =>
    absurd (h.unvoided 7 hpress hrelease) (by decide)
  have hfirst := hdown r.press le_rfl hlt
  have hlast := hdown (r.release - 1) (by omega) (by omega)
  have hpress : r.press = 1 := by omega
  have hsecond : r.release ≤ 2 := by
    by_contra hlong
    have htwo := hdown 2 (by omega) (by omega)
    omega
  have hrelease : r.release = 2 := by omega
  obtain ⟨p, e⟩ := r
  cases hpress
  cases hrelease
  rfl

theorem lateVoid_tap : lateVoid.Clean ⟨1, 2⟩ where
  starts t ht := by
    obtain rfl : t = 0 := Nat.succ_injective ht
    exact ⟨rfl, rfl⟩
  lt := Nat.one_lt_two
  held t ht htr := by
    obtain rfl : t = 1 := le_antisymm (Nat.lt_succ_iff.mp htr) ht
    rfl
  released := rfl
  unvoided t _ htr := decide_eq_false fun hvoid => absurd (hvoid ▸ htr) (by decide)
  short := by
    have hspan : lateVoid.span 1 1 = 0 := span_self
    refine hspan.trans_lt ?_
    unfold kTapMaxS
    norm_num

theorem lateVoid_group : lateVoid.Group [⟨1, 2⟩] :=
  .first lateVoid_tap fun q hq hlinked => by
    have hlt := hlinked.lt
    obtain rfl := lateVoid_clean hq
    exact absurd hlt (by decide)

/-- The tap is never reported, though neither a void nor a long press comes within its window. -/
theorem late_void_unreported :
    lateVoid.Group [⟨1, 2⟩] ∧ lateVoid.Whole [⟨1, 2⟩] ∧ ¬ lateVoid.Followed [⟨1, 2⟩] ∧
      ∀ t, lateVoid.event t = none := by
  have hdt : 0 < lateVoid.dtS := by norm_num [lateVoid]
  refine ⟨lateVoid_group, Or.inr ?_, ?_, fun t => ?_⟩
  · rintro r hr q hq hlinked
    cases hr
    have hlt := hlinked.lt
    obtain rfl := lateVoid_clean hq
    exact absurd hlt (by decide)
  · rintro ⟨r, hr, t, hwindow, hcause⟩
    cases hr
    have hafter : 2 < t := hwindow.lt
    have hwithin : t ≤ 6 := by
      by_contra hlate
      have hwait := (span_le hdt (show 6 ≤ t - 1 by omega)).trans hwindow.gap
      norm_num [span, lateVoid, kDoubleGapS] at hwait
    rcases hcause with ⟨m, hle, hheld, hlong⟩ | hvoid
    · have hdown : t = 1 ∨ t = 6 ∨ t = 7 := of_decide_eq_true (hheld t le_rfl hle)
      obtain rfl : t = 6 := by omega
      have hend : m ≤ 7 := by
        by_contra hheld'
        exact absurd (hheld 8 (by decide) (by omega)) (by decide)
      have hlasts := hlong.trans (span_le hdt hend)
      norm_num [span, lateVoid, kTapMaxS] at hlasts
    · have hseven : t = 7 := of_decide_eq_true hvoid
      omega
  · refine Option.eq_none_iff_forall_ne_some.mpr fun e he => ?_
    obtain ⟨_, hg, -, r, b, rfl, hdue⟩ := (event_iff hdt t e).mp he
    obtain rfl := lateVoid_clean hg.clean
    obtain rfl := hg.unique lateVoid_group
    rw [if_neg (by decide)] at hdue
    have hlate : 6 ≤ t := by
      by_contra hearly
      have hwait := hdue.passed.trans_le (span_le hdt (show t ≤ 5 by omega))
      norm_num [span, lateVoid, kDoubleGapS] at hwait
    exact absurd (hdue.quiet 6 (by decide) hlate).1 (by decide)

end TapInput

end Gearsonic
