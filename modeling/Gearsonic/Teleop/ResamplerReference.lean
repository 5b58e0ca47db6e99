import Gearsonic.Numeric.LatestRing
import Gearsonic.Teleop.StreamTime
import Mathlib.Data.List.Pairwise

/-!
# The resampler and its reference

What a resampler is for: it keeps the last eight samples in time order, and a sample call
interpolates that list at its grid point (`interpolate`, which reads the list from the oldest
sample on). The ring is walked the other way, by index.

* `Holding.receive`: the ring holds the accepted samples, whatever is pushed and reset.
* `walk_eq`: the walk over the ring is one over the list; `interpolate_lookBack`: which is the
  interpolation.
* `resampler_reference`: after every sequence of calls.
-/

set_option linter.unusedSectionVars false

namespace Gearsonic

namespace SmplResampler

instance neZero_ring : NeZero kRing := ⟨by decide⟩

/-- A sample with its receive time. -/
abbrev Stamped (K : Type) : Type := SmplPose K × Int

/-- A call that changes the resampler. -/
inductive Input (K : Type) where
  | reset
  | push (pose : SmplPose K) (t : Int)

section

variable {K : Type} [Field K] [LinearOrder K]

def receive (r : SmplResampler K) : Input K → SmplResampler K
  | .reset => r.reset
  | .push pose t => r.push pose t

/-- The samples accepted since the last reset, newest first: the first one, and every one strictly
later than the newest. -/
def accept (xs : List (Stamped K)) : Input K → List (Stamped K)
  | .reset => []
  | .push pose t =>
    match xs with
    | [] => [(pose, t)]
    | newest :: older => if newest.2 < t then (pose, t) :: newest :: older else newest :: older

/-- How far `x` is from `t0` to `t1`. -/
def weight (t0 t1 x : Int) : K := ((x - t0 : Int) : K) / ((t1 - t0 : Int) : K)

/-- The interpolation of a list of samples, oldest first: before the first one the oldest, from the
last one on the newest. -/
def interpolate [CMath K] : List (Stamped K) → Int → Option (SmplPose K)
  | [], _ => none
  | [a], _ => some a.1
  | a :: b :: rest, x =>
    if x < b.2 then some (if x < a.2 then a.1 else lerp a.1 b.1 (weight a.2 b.2 x))
    else interpolate (b :: rest) x

/-- The samples that are kept, oldest first. -/
def retained (xs : List (Stamped K)) : List (Stamped K) := (xs.take kRing).reverse

/-- Strictly later samples come first. -/
def Descending (xs : List (Stamped K)) : Prop := xs.Pairwise fun a b => b.2 < a.2

/-- The ring holds the last samples of `xs`. -/
def Holding (r : SmplResampler K) (xs : List (Stamped K)) : Prop :=
  LatestRing.Holds (fun i => (r.poses i, r.times i)) r.head.val r.count xs

variable {r : SmplResampler K} {xs : List (Stamped K)}

/-! ## The ring -/

theorem cells_store (r : SmplResampler K) (pose : SmplPose K) (t : Int) :
    (fun i => ((r.store pose t).poses i, (r.store pose t).times i)) =
      Function.update (fun i => (r.poses i, r.times i)) r.head (pose, t) := by
  funext i
  unfold store
  dsimp only
  by_cases hi : i = r.head
  · rw [hi, Function.update_self, Function.update_self, Function.update_self]
  · rw [Function.update_of_ne hi, Function.update_of_ne hi, Function.update_of_ne hi]

theorem ofNat_head (r : SmplResampler K) : Fin.ofNat kRing r.head.val = r.head :=
  Fin.ext (Nat.mod_eq_of_lt r.head.isLt)

theorem Holding.count_eq_zero_iff (h : r.Holding xs) : r.count = 0 ↔ xs = [] := by
  have hcount := h.count_eq
  have hring : kRing = 8 := rfl
  rw [← List.length_eq_zero_iff]
  omega

theorem Holding.newest {newest : Stamped K} {older : List (Stamped K)}
    (h : r.Holding (newest :: older)) : newest = (r.poses r.head, r.times r.head) := by
  have hcount := h.count_eq
  have hring : kRing = 8 := rfl
  rw [List.length_cons] at hcount
  have hcell := h.cell 0 (by omega)
  rw [LatestRing.slot_zero, ofNat_head] at hcell
  exact Option.some.inj hcell

variable [IsStrictOrderedRing K]

/-- Whatever is called, the ring holds what has been accepted. -/
theorem Holding.receive (h : r.Holding xs) (input : Input K) :
    (r.receive input).Holding (accept xs input) := by
  cases input with
  | reset => exact LatestRing.Holds.empty _ (ringSlot 0).isLt
  | push pose t =>
    cases xs with
    | nil =>
      have hzero : r.count = 0 := h.count_eq_zero_iff.mpr rfl
      have hpush : r.push pose t = r.store pose t := if_neg (by omega)
      have hfirst := LatestRing.Holds.first (fun i => (r.poses i, r.times i)) r.head.isLt (pose, t)
      show LatestRing.Holds _ _ _ _
      unfold SmplResampler.receive
      dsimp only
      rw [hpush, cells_store, ← ofNat_head]
      have hone : (r.store pose t).count = 1 := by
        unfold store
        rw [hzero]
        rfl
      rw [hone]
      exact hfirst
    | cons newest older =>
      have hpos : 0 < r.count := by
        have hcount := h.count_eq
        have hring : kRing = 8 := rfl
        rw [List.length_cons] at hcount
        omega
      have htime : newest.2 = r.newestT := by
        rw [h.newest]
        rfl
      unfold accept SmplResampler.receive SmplResampler.push
      dsimp only
      rw [if_pos hpos, htime]
      by_cases hlate : t ≤ r.newestT
      · rw [if_neg (not_lt.mpr hlate), if_pos (seconds_le_zero.mpr hlate)]
        exact h
      · rw [if_pos (not_le.mp hlate), if_neg fun hle => hlate (seconds_le_zero.mp hle)]
        have hnext := LatestRing.Holds.next h (pose, t)
        show LatestRing.Holds _ _ _ _
        rw [cells_store, ← ofNat_head]
        exact hnext

theorem Descending.accept (h : Descending xs) (input : Input K) :
    Descending (accept xs input) := by
  cases input with
  | reset => exact List.Pairwise.nil
  | push pose t =>
    cases xs with
    | nil => exact List.pairwise_singleton _ _
    | cons newest older =>
      unfold SmplResampler.accept
      dsimp only
      split
      · rename_i hlater
        refine List.Pairwise.cons (fun a ha => ?_) h
        rcases List.mem_cons.mp ha with rfl | ha
        · exact hlater
        · exact (List.rel_of_pairwise_cons h ha).trans hlater
      · exact h

/-! ## The interpolation, from the newest sample on -/

section

variable [CMath K]

/-- The search of `sample`, over a list. -/
def lookBack (newer : Stamped K) : List (Stamped K) → Int → SmplPose K
  | [], _ => newer.1
  | older :: rest, x =>
    if older.2 ≤ x then lerp older.1 newer.1 (weight older.2 newer.2 x) else lookBack older rest x

/-- Before its last sample, the interpolation is on the last segment or does not need it. -/
theorem interpolate_concat {ys : List (Stamped K)} {c b : Stamped K} {x : Int}
    (hordered : (ys ++ [c]).Pairwise fun a b => a.2 < b.2) (hx : x < b.2) :
    interpolate (ys ++ [c] ++ [b]) x =
      if c.2 ≤ x then some (lerp c.1 b.1 (weight c.2 b.2 x)) else interpolate (ys ++ [c]) x := by
  induction ys with
  | nil =>
    show (if x < b.2 then some (if x < c.2 then c.1 else lerp c.1 b.1 (weight c.2 b.2 x))
      else interpolate [b] x) = if c.2 ≤ x then _ else some c.1
    rw [if_pos hx]
    by_cases hc : c.2 ≤ x
    · rw [if_pos hc, if_neg (not_lt.mpr hc)]
    · rw [if_neg hc, if_pos (not_le.mp hc)]
  | cons a ys ih =>
    have hrest := ih (List.Pairwise.of_cons hordered)
    cases ys with
    | nil =>
      show (if x < c.2 then some (if x < a.2 then a.1 else lerp a.1 c.1 (weight a.2 c.2 x))
        else interpolate ([] ++ [c] ++ [b]) x) =
          if c.2 ≤ x then _ else
            if x < c.2 then some (if x < a.2 then a.1 else lerp a.1 c.1 (weight a.2 c.2 x))
            else some c.1
      rw [hrest]
      by_cases hc : c.2 ≤ x
      · rw [if_neg (not_lt.mpr hc), if_pos hc, if_pos hc]
      · rw [if_pos (not_le.mp hc), if_neg hc, if_pos (not_le.mp hc)]
    | cons d ys =>
      have hdc : d.2 < c.2 :=
        List.rel_of_pairwise_cons (List.Pairwise.of_cons hordered) (by simp)
      show (if x < d.2 then some (if x < a.2 then a.1 else lerp a.1 d.1 (weight a.2 d.2 x))
        else interpolate (d :: ys ++ [c] ++ [b]) x) =
          if c.2 ≤ x then _ else
            if x < d.2 then some (if x < a.2 then a.1 else lerp a.1 d.1 (weight a.2 d.2 x))
            else interpolate (d :: ys ++ [c]) x
      rw [hrest]
      by_cases hc : c.2 ≤ x
      · rw [if_neg (not_lt.mpr (hdc.le.trans hc)), if_pos hc, if_pos hc]
      · rw [if_neg hc, if_neg hc]

/-- From the last sample on, the interpolation is that sample. -/
theorem interpolate_late {ys : List (Stamped K)} {b : Stamped K} {x : Int}
    (hordered : (ys ++ [b]).Pairwise fun a b => a.2 < b.2) (hx : b.2 ≤ x) :
    interpolate (ys ++ [b]) x = some b.1 := by
  induction ys with
  | nil => rfl
  | cons a ys ih =>
    have hrest := ih (List.Pairwise.of_cons hordered)
    cases ys with
    | nil =>
      show (if x < b.2 then _ else some b.1) = some b.1
      rw [if_neg (not_lt.mpr hx)]
    | cons d ys =>
      have hdb : d.2 < b.2 :=
        List.rel_of_pairwise_cons (List.Pairwise.of_cons hordered) (by simp)
      show (if x < d.2 then _ else interpolate (d :: ys ++ [b]) x) = some b.1
      rw [if_neg (not_lt.mpr (hdb.le.trans hx)), hrest]

/-- The search from the newest sample is the interpolation. -/
theorem interpolate_lookBack {newer : Stamped K} {older : List (Stamped K)} {x : Int}
    (hordered : Descending (newer :: older)) (hx : x < newer.2) :
    interpolate (newer :: older).reverse x = some (lookBack newer older x) := by
  induction older generalizing newer with
  | nil => rfl
  | cons next older ih =>
    have hreverse : (newer :: next :: older).reverse = older.reverse ++ [next] ++ [newer] := by
      simp
    have hrest : (older.reverse ++ [next]).Pairwise fun a b => a.2 < b.2 := by
      rw [← List.reverse_cons, List.pairwise_reverse]
      exact List.Pairwise.of_cons hordered
    rw [hreverse, interpolate_concat hrest hx]
    unfold lookBack
    by_cases hnext : next.2 ≤ x
    · rw [if_pos hnext, if_pos hnext]
    · rw [if_neg hnext, if_neg hnext, ← List.reverse_cons]
      exact ih (List.Pairwise.of_cons hordered) (not_le.mp hnext)

/-! ## The walk over the ring -/

/-- Inside a segment the position is not clamped. -/
theorem alphaFor_eq {t0 t1 x : Int} (h0 : t0 ≤ x) (h1 : x < t1) :
    (alphaFor t0 t1 x : K) = weight t0 t1 x := by
  have hsecond : (0 : K) < (kSecond : K) := by norm_num [kSecond]
  have hspan : (0 : K) < ((t1 - t0 : Int) : K) := by
    rw [← Int.cast_zero, Int.cast_lt]
    omega
  have hratio : (seconds t0 x : K) / seconds t0 t1 = weight t0 t1 x := by
    unfold seconds weight
    rw [div_div_div_cancel_right₀ hsecond.ne']
  have hlo : (0 : K) ≤ weight t0 t1 x := by
    apply div_nonneg _ hspan.le
    rw [← Int.cast_zero, Int.cast_le]
    omega
  have hhi : (weight t0 t1 x : K) ≤ 1 := by
    apply (div_le_one hspan).mpr
    rw [Int.cast_le]
    omega
  unfold alphaFor
  dsimp only
  rw [if_neg (fun hle => absurd (seconds_le_zero.mp hle) (by omega)), hratio]
  unfold clamp
  rw [if_neg (not_lt.mpr hlo), if_neg (not_lt.mpr hhi)]

theorem backSlot_eq (r : SmplResampler K) (k : Nat) :
    r.backSlot k = LatestRing.slot kRing r.head.val k := rfl

theorem Holding.length_take (h : r.Holding xs) : (xs.take kRing).length = r.count := by
  rw [List.length_take, h.count_eq]

/-- The walk from the sample `k` back is the search of the samples behind it. -/
theorem walk_eq (h : r.Holding xs) {x : Int} {k n : Nat} (hn : k + 1 + n = r.count)
    {newer : Stamped K} (hk : xs[k]? = some newer) (hx : x < newer.2) :
    r.walk x (r.backSlot k) (List.range' (k + 1) n) =
      lookBack newer ((xs.take kRing).drop (k + 1)) x := by
  have hcell := h.cell k (by omega)
  rw [hk, Option.some_inj, ← backSlot_eq] at hcell
  subst hcell
  induction n generalizing k with
  | zero =>
    rw [List.drop_eq_nil_of_le (by rw [h.length_take]; omega)]
    rfl
  | succ n ih =>
    have hnext := h.cell (k + 1) (by omega)
    rw [← backSlot_eq] at hnext
    have hdrop : (xs.take kRing).drop (k + 1) =
        (r.poses (r.backSlot (k + 1)), r.times (r.backSlot (k + 1))) ::
          (xs.take kRing).drop (k + 1 + 1) := by
      have hlen : k + 1 < (xs.take kRing).length := by
        rw [h.length_take]
        omega
      rw [List.drop_eq_getElem_cons hlen, List.getElem_take]
      congr 1
      have hxs := List.getElem?_eq_getElem (l := xs) (i := k + 1) (by simp at hlen; omega)
      exact Option.some.inj (hxs.symm.trans hnext)
    rw [List.range'_succ, hdrop]
    unfold walk lookBack
    dsimp only at hx ⊢
    by_cases hle : r.times (r.backSlot (k + 1)) ≤ x
    · rw [if_pos hle, if_pos hle, alphaFor_eq hle hx]
    · rw [if_neg hle, if_neg hle]
      exact ih (by omega) hnext (not_le.mp hle)

variable [FloorRing K]

/-- A sample call is the interpolation of what is kept. -/
theorem Holding.sample_eq (h : r.Holding xs) (hordered : Descending xs) (now : Int) :
    r.sample now = interpolate (retained xs) (r.target now) := by
  unfold sample
  cases xs with
  | nil =>
    rw [if_pos (h.count_eq_zero_iff.mpr rfl)]
    rfl
  | cons newest older =>
    have hne : r.count ≠ 0 := fun hzero => nomatch h.count_eq_zero_iff.mp hzero
    have hkept : (newest :: older).take kRing =
        newest :: ((newest :: older).take kRing).drop 1 := rfl
    have hdescending : Descending (newest :: ((newest :: older).take kRing).drop 1) := by
      rw [← hkept]
      exact List.Pairwise.sublist (List.take_sublist _ _) hordered
    rw [if_neg hne]
    unfold sampleAt retained
    rw [hkept]
    have hnewest := h.newest
    by_cases hlate : r.times r.head ≤ r.target now
    · rw [if_pos hlate, List.reverse_cons, interpolate_late]
      · rw [hnewest]
      · rw [← List.reverse_cons, List.pairwise_reverse]
        exact hdescending
      · rw [hnewest]
        exact hlate
    · rw [if_neg hlate, interpolate_lookBack hdescending (by rw [hnewest]; exact not_le.mp hlate)]
      have hwalk := walk_eq h (x := r.target now) (k := 0) (n := r.count - 1) (by omega) rfl
        (by rw [hnewest]; exact not_le.mp hlate)
      rw [backSlot_zero] at hwalk
      rw [hwalk]

/-- The ring and the accepted samples, over every sequence of calls. -/
theorem holding_history (r₀ : SmplResampler K) (inputs : List (Input K)) :
    (inputs.foldl SmplResampler.receive r₀.reset).Holding (inputs.foldl accept []) ∧
      Descending (inputs.foldl accept ([] : List (Stamped K))) := by
  induction inputs using List.reverseRecOn with
  | nil => exact ⟨LatestRing.Holds.empty _ (ringSlot 0).isLt, List.Pairwise.nil⟩
  | append_singleton inputs input ih =>
    rw [List.foldl_concat, List.foldl_concat]
    exact ⟨ih.1.receive input, ih.2.accept input⟩

/-- After every sequence of resets and pushes: the ring holds the last eight accepted samples, in
strict order of time, and a sample call is their interpolation at its grid point. -/
theorem resampler_reference (r₀ : SmplResampler K) (inputs : List (Input K)) :
    let r := inputs.foldl SmplResampler.receive r₀.reset
    let xs := inputs.foldl accept []
    r.head.val < 8 ∧ r.count ≤ 8 ∧ r.count = min 8 xs.length ∧
      (∀ k, k < r.count → xs[k]? = some (r.poses (r.backSlot k), r.times (r.backSlot k))) ∧
      Descending xs ∧
      ∀ now, (r.sample now = none ↔ xs = []) ∧
        r.sample now = interpolate (retained xs) (now - durationCast r.delayS) := by
  intro r xs
  obtain ⟨hholds, hordered⟩ : r.Holding xs ∧ Descending xs := holding_history r₀ inputs
  have hcount := hholds.count_eq
  have hring : kRing = 8 := rfl
  refine ⟨r.head.isLt, by omega, by omega, hholds.cell, hordered, fun now => ⟨?_, ?_⟩⟩
  · rw [← hholds.count_eq_zero_iff]
    unfold sample
    constructor
    · intro hnone
      by_contra hne
      rw [if_neg hne] at hnone
      cases hnone
    · intro hzero
      exact if_pos hzero
  · exact hholds.sample_eq hordered now

/-- A second sample, and one that comes with the same time. -/
def threePushes : List (Input ℚ) :=
  let pose : SmplPose ℚ := ⟨fun _ _ => 0, fun _ => 0, fun _ => 0⟩
  [.push pose 0, .push pose 33000000, .push pose 33000000]

theorem resampler_reference_three :
    let r := threePushes.foldl SmplResampler.receive ({} : SmplResampler ℚ).reset
    let xs := threePushes.foldl accept []
    r.count = 2 ∧ r.count = min 8 xs.length ∧
      r.sample 60000000 = interpolate (retained xs) (60000000 - durationCast r.delayS) := by
  obtain ⟨-, -, hcount, -, -, hsample⟩ := resampler_reference ({} : SmplResampler ℚ) threePushes
  exact ⟨by decide +kernel, hcount, (hsample 60000000).2⟩

end

end

end SmplResampler

end Gearsonic
