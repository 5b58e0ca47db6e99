import Gearsonic.Motion.TapDetector
import Mathlib.Algebra.Order.Archimedean.Basic
import Mathlib.Data.List.Infix

/-!
# Taps in a stream of ticks

What a tap gesture is, said of the whole stream of ticks and not of a detector. A press is clean
if the button was fully released before it, no other button came until its release, and it was
short. Clean presses that follow one another within the window form a group, and a group is cut
after its third tap.

Between two ticks lies one `dtS`: a press lasts from its first to its last tick, and the window is
counted from the tick of the release.

* `Group.unique`: a clean press stands in one place of one group.
* `Group.suffix_or`: of two groups with a press in common, one continues the other.
-/

namespace Gearsonic

open TapDetector (kTapMaxS kDoubleGapS)

structure TapInput (K : Type) where
  pressed : ℕ → Bool
  /-- Another face button is down. -/
  voided : ℕ → Bool
  dtS : K

/-- The first tick of a press, and the tick of its release. -/
structure Press where
  press : ℕ
  release : ℕ
deriving DecidableEq

namespace TapInput

variable {K : Type} [Field K] [LinearOrder K]

/-- Fully released, and not voided. -/
def Quiet (x : TapInput K) (t : ℕ) : Prop := x.pressed t = false ∧ x.voided t = false

/-- The time between two ticks. -/
def span (x : TapInput K) (s t : ℕ) : K := ((t - s : ℕ) : K) * x.dtS

/-- A press with no voided tick since the last fully released un-voided one, which is the tick
before it, and shorter than a hold. -/
structure Clean (x : TapInput K) (r : Press) : Prop where
  starts : ∀ t, t + 1 = r.press → x.Quiet t
  lt : r.press < r.release
  held : ∀ t, r.press ≤ t → t < r.release → x.pressed t = true
  released : x.pressed r.release = false
  unvoided : ∀ t, r.press ≤ t → t ≤ r.release → x.voided t = false
  short : x.span r.press (r.release - 1) < kTapMaxS

/-- A press at `i` follows the release at `j` within the window, with nothing in between. -/
structure Linked (x : TapInput K) (j i : ℕ) : Prop where
  lt : j < i
  quiet : ∀ t, j ≤ t → t < i → x.Quiet t
  gap : x.span j (i - 1) ≤ kDoubleGapS

/-- The window after the release at `j` has passed, undisturbed, and `t` is the first such tick. -/
structure WindowPasses (x : TapInput K) (j t : ℕ) : Prop where
  lt : j < t
  quiet : ∀ s, j ≤ s → s ≤ t → x.Quiet s
  passed : kDoubleGapS < x.span j t
  first : x.span j (t - 1) ≤ kDoubleGapS

/-- Up to three clean presses, the last one first. A group starts with a press that follows no
other, or that follows the third one of a group. -/
inductive Group (x : TapInput K) : List Press → Prop
  | first {r : Press} (hclean : x.Clean r)
      (halone : ∀ q, x.Clean q → ¬ x.Linked q.release r.press) : Group x [r]
  | next {r q : Press} {g : List Press} (hgroup : Group x (q :: g)) (hopen : g.length < 2)
      (hlinked : x.Linked q.release r.press) (hclean : x.Clean r) : Group x (r :: q :: g)
  | restart {r q : Press} {g : List Press} (hgroup : Group x (q :: g)) (hfull : g.length = 2)
      (hlinked : x.Linked q.release r.press) (hclean : x.Clean r) : Group x [r]

variable {x : TapInput K} {q r : Press} {g g' : List Press} {i j t : ℕ}

/-- What holds up to a tick and in it. -/
theorem forall_le_of_forall_lt {P : ℕ → Prop} (hbefore : ∀ u, i ≤ u → u < t → P u) (ht : P t) :
    ∀ u, i ≤ u → u ≤ t → P u := by
  intro u hu hut
  rcases hut.lt_or_eq with hlt | rfl
  · exact hbefore u hu hlt
  · exact ht

/-! ## One place for each press -/

/-- A press is where its release says. -/
theorem Clean.eq (hq : x.Clean q) (hr : x.Clean r) (h : q.release = r.release) : q = r := by
  have hle : ∀ {a b : Press}, x.Clean a → x.Clean b → a.release = b.release →
      a.press ≤ b.press := by
    intro a b ha hb hrelease
    by_contra hlt
    obtain ⟨t, ht⟩ : ∃ t, t + 1 = a.press := ⟨a.press - 1, by omega⟩
    have hquiet := (ha.starts t ht).1
    have hend := ha.lt
    rw [hb.held t (by omega) (by omega)] at hquiet
    cases hquiet
  have hpress : q.press = r.press := le_antisymm (hle hq hr h) (hle hr hq h.symm)
  obtain ⟨p, e⟩ := q
  obtain ⟨p', e'⟩ := r
  cases hpress
  cases h
  rfl

/-- The press before its release is not quiet. -/
theorem Clean.not_quiet (hr : x.Clean r) (h : t + 1 = r.release) : ¬ x.Quiet t := by
  rintro ⟨hreleased, -⟩
  have hlt := hr.lt
  rw [hr.held t (by omega) (by omega)] at hreleased
  cases hreleased

/-- Its release is quiet. -/
theorem Clean.quiet_release (hr : x.Clean r) : x.Quiet r.release :=
  ⟨hr.released, hr.unvoided _ hr.lt.le le_rfl⟩

/-- The last release before a quiet stretch. -/
theorem Clean.eq_of_quiet (hq : x.Clean q) (hr : x.Clean r) (hqt : q.release ≤ t)
    (hrt : r.release ≤ t) (hquietq : ∀ s, q.release ≤ s → s < t → x.Quiet s)
    (hquietr : ∀ s, r.release ≤ s → s < t → x.Quiet s) : q = r := by
  have hle : ∀ {a b : Press}, x.Clean a → a.release ≤ t →
      (∀ s, b.release ≤ s → s < t → x.Quiet s) → a.release ≤ b.release := by
    intro a b ha hat hquiet
    by_contra hlt
    obtain ⟨s, hs⟩ : ∃ s, s + 1 = a.release := ⟨a.release - 1, by omega⟩
    exact ha.not_quiet hs (hquiet s (by omega) (by omega))
  exact hq.eq hr (le_antisymm (hle hq hqt hquietr) (hle hr hrt hquietq))

theorem Linked.eq (hq : x.Clean q) (hr : x.Clean r) (hqi : x.Linked q.release i)
    (hri : x.Linked r.release i) : q = r :=
  hq.eq_of_quiet hr hqi.lt.le hri.lt.le hqi.quiet hri.quiet

/-- A release is followed by one press at most. -/
theorem Linked.next_eq {q r : Press} (hq : x.Clean q) (hr : x.Clean r) (hjq : x.Linked j q.press)
    (hjr : x.Linked j r.press) : q = r := by
  have hstart : ∀ {a b : Press}, x.Clean a → x.Linked j a.press → x.Linked j b.press →
      b.press ≤ a.press := by
    intro a b ha hja hjb
    by_contra hlt
    have hquiet := (hjb.quiet a.press hja.lt.le (by omega)).1
    rw [ha.held a.press le_rfl ha.lt] at hquiet
    cases hquiet
  have hpress : q.press = r.press := le_antisymm (hstart hr hjr hjq) (hstart hq hjq hjr)
  have hend : ∀ {a b : Press}, x.Clean a → x.Clean b → a.press = b.press →
      a.release ≤ b.release := by
    intro a b ha hb hsame
    by_contra hlt
    have hbound := hb.lt
    have hheld := ha.held b.release (by omega) (by omega)
    rw [hb.released] at hheld
    cases hheld
  exact hq.eq hr (le_antisymm (hend hq hr hpress) (hend hr hq hpress.symm))

/-! ## Groups -/

theorem Group.clean (h : x.Group (r :: g)) : x.Clean r := by
  cases h with
  | first hclean _ => exact hclean
  | next _ _ _ hclean => exact hclean
  | restart _ _ _ hclean => exact hclean

theorem Group.length_le (h : x.Group (r :: g)) : g.length ≤ 2 := by
  cases h with
  | first _ _ => exact Nat.zero_le _
  | next _ hopen _ _ => exact hopen
  | restart _ _ _ _ => exact Nat.zero_le _

/-- What stands before the last press of a group, by the press that it follows. -/
theorem Group.tail (h : x.Group (r :: g)) :
    (g = [] ∧ ∀ q, x.Clean q → ¬ x.Linked q.release r.press) ∨
      ∃ q b, x.Group (q :: b) ∧ x.Linked q.release r.press ∧
        g = if b.length < 2 then q :: b else [] := by
  cases h with
  | first _ halone => exact Or.inl ⟨rfl, halone⟩
  | next hgroup hopen hlinked _ => exact Or.inr ⟨_, _, hgroup, hlinked, (if_pos hopen).symm⟩
  | restart hgroup hfull hlinked _ =>
    exact Or.inr ⟨_, _, hgroup, hlinked, (if_neg (by omega)).symm⟩

/-- A clean press stands in one place of one group. -/
theorem Group.unique (h : x.Group (r :: g)) (h' : x.Group (r :: g')) : g = g' := by
  -- The press before it is earlier, and there is only one.
  induction hn : r.press using Nat.strong_induction_on generalizing r g g' with
  | _ n ih =>
    rcases h.tail with ⟨hnil, halone⟩ | ⟨q, b, hq, hlinked, htail⟩
    · rcases h'.tail with ⟨hnil', -⟩ | ⟨q', b', hq', hlinked', -⟩
      · rw [hnil, hnil']
      · exact absurd hlinked' (halone q' hq'.clean)
    · rcases h'.tail with ⟨-, halone⟩ | ⟨q', b', hq', hlinked', htail'⟩
      · exact absurd hlinked (halone q hq.clean)
      · obtain rfl := Linked.eq hq.clean hq'.clean hlinked hlinked'
        have hearlier : q.press < n := by
          have hfirst := hq.clean.lt
          have hsecond := hlinked.lt
          omega
        rw [htail, htail', ih q.press hearlier hq hq' rfl]

/-- Every clean press stands in a group. -/
theorem exists_group (hr : x.Clean r) : ∃ g, x.Group (r :: g) := by
  induction hn : r.press using Nat.strong_induction_on generalizing r with
  | _ n ih =>
    by_cases halone : ∀ q, x.Clean q → ¬ x.Linked q.release r.press
    · exact ⟨[], .first hr halone⟩
    · push Not at halone
      obtain ⟨q, hq, hlinked⟩ := halone
      have hearlier : q.press < n := by
        have hfirst := hq.lt
        have hsecond := hlinked.lt
        omega
      obtain ⟨b, hb⟩ := ih q.press hearlier hq rfl
      rcases Nat.lt_or_ge b.length 2 with hopen | hfull
      · exact ⟨q :: b, .next hb hopen hlinked hr⟩
      · exact ⟨[], .restart hb (le_antisymm hb.length_le hfull) hlinked hr⟩

/-- The presses up to one of a group are a group. -/
theorem Group.of_suffix {b : List Press} (h : x.Group g) (hsuffix : r :: b <:+ g) :
    x.Group (r :: b) := by
  induction h with
  | first hclean halone =>
    rcases List.suffix_cons_iff.mp hsuffix with heq | hnil
    · rw [heq]
      exact .first hclean halone
    · cases List.suffix_nil.mp hnil
  | restart hgroup hfull hlinked hclean _ =>
    rcases List.suffix_cons_iff.mp hsuffix with heq | hnil
    · rw [heq]
      exact .restart hgroup hfull hlinked hclean
    · cases List.suffix_nil.mp hnil
  | next hgroup hopen hlinked hclean ih =>
    rcases List.suffix_cons_iff.mp hsuffix with heq | hrest
    · rw [heq]
      exact .next hgroup hopen hlinked hclean
    · exact ih hrest

/-- A group that begins with the presses of another one up to their common press. -/
theorem Group.suffix_of_head (h : x.Group (r :: g)) (h' : x.Group g') (hr : r ∈ g') :
    r :: g <:+ g' := by
  obtain ⟨c, b, rfl⟩ := List.append_of_mem hr
  have hsuffix : r :: b <:+ c ++ r :: b := List.suffix_append _ _
  rw [h.unique (h'.of_suffix hsuffix)]
  exact hsuffix

/-- A group is continued by one press at most. -/
theorem Group.next_unique {a b : Press} (ha : x.Group (a :: q :: g)) (hb : x.Group (b :: q :: g)) :
    a = b := by
  cases ha with
  | next _ _ hlinked hclean =>
    cases hb with
    | next _ _ hlinked' hclean' => exact Linked.next_eq hclean hclean' hlinked hlinked'

/-- Of two groups with a press in common, one continues the other. -/
theorem Group.suffix_or (h : x.Group g) (h' : x.Group g') (hr : r ∈ g) (hr' : r ∈ g') :
    g <:+ g' ∨ g' <:+ g := by
  induction h with
  | first hclean halone =>
    obtain rfl := List.mem_singleton.mp hr
    exact Or.inl (Group.suffix_of_head (.first hclean halone) h' hr')
  | restart hgroup hfull hlinked hclean _ =>
    obtain rfl := List.mem_singleton.mp hr
    exact Or.inl (Group.suffix_of_head (.restart hgroup hfull hlinked hclean) h' hr')
  | @next a q g hgroup hopen hlinked hclean ih =>
    have hnext : x.Group (a :: q :: g) := .next hgroup hopen hlinked hclean
    rcases List.mem_cons.mp hr with rfl | hmem
    · exact Or.inl (hnext.suffix_of_head h' hr')
    · rcases ih hmem with ⟨c, hc⟩ | hlong
      · rcases List.eq_nil_or_concat c with rfl | ⟨d, b, rfl⟩
        · rw [List.nil_append] at hc
          rw [← hc]
          exact Or.inr (List.suffix_cons _ _)
        · -- Both groups go on after the presses they share, so with the same press.
          have hsuffix : b :: q :: g <:+ g' := ⟨d, by rw [← hc, List.concat_append]⟩
          rw [hnext.next_unique (h'.of_suffix hsuffix)]
          exact Or.inl hsuffix
      · exact Or.inr (hlong.trans (List.suffix_cons _ _))

end TapInput

end Gearsonic
