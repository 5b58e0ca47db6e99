import Mathlib.Logic.Relation
import Mathlib.Data.List.Infix

/-!
# Runs of guarded transition functions

A system is a partial step function `step : σ → α → Option σ`: the label `a` fires in
`s` when `step s a` is `some`. A run is a list of labels fired one after the other
(`run`). Safety is stated over the states that a run can reach when every label it fires
meets a side condition `C` at the state where it fires (`Reachable step C`); `C` is
`Always` for unconditional safety.

* `along_iff`: the side condition of a run, spelled out over its prefixes.
* `Reachable.invariant`: a predicate that holds initially and that every step meeting
  `C` keeps holds in every reachable state.
* `run_counted`: progress counted in labels of one kind.
* `along_congr`: two side conditions that agree under an invariant agree along a run.
* `reachable_of_run`, `reachable_of_run_any`: a concrete run gives a reachable state.
-/

namespace Transition

variable {σ α : Type*}

/-- Fire the labels in order; `none` once one of them is not enabled. -/
def run (step : σ → α → Option σ) (s : σ) : List α → Option σ
  | [] => some s
  | a :: as => (step s a).bind fun t => run step t as

/-- Every label of the run meets `C` at the state where it fires. -/
def Along (step : σ → α → Option σ) (C : σ → α → Prop) (s : σ) : List α → Prop
  | [] => True
  | a :: as => C s a ∧ ∀ t, step s a = some t → Along step C t as

/-- Some state of the run, its first and last included, satisfies `P`. -/
def Visits (step : σ → α → Option σ) (P : σ → Prop) (s : σ) (as : List α) : Prop :=
  ∃ bs u, bs <+: as ∧ run step s bs = some u ∧ P u

/-- The side condition that every label meets. -/
def Always : σ → α → Prop := fun _ _ => True

/-- One step that meets `C`. -/
def Step (step : σ → α → Option σ) (C : σ → α → Prop) (s t : σ) : Prop :=
  ∃ a, C s a ∧ step s a = some t

/-- The states reached from `s` by steps that all meet `C`. -/
abbrev Reachable (step : σ → α → Option σ) (C : σ → α → Prop) (s t : σ) : Prop :=
  Relation.ReflTransGen (Step step C) s t

variable {step : σ → α → Option σ} {C D : σ → α → Prop} {s t u : σ} {as : List α}

@[simp] theorem run_nil : run step s [] = some s := rfl

@[simp] theorem run_cons (a : α) (as : List α) :
    run step s (a :: as) = (step s a).bind fun t => run step t as := rfl

theorem run_append (as bs : List α) :
    run step s (as ++ bs) = (run step s as).bind fun t => run step t bs := by
  induction as generalizing s with
  | nil => rfl
  | cons a as ih =>
    simp only [List.cons_append, run_cons]
    cases step s a with
    | none => rfl
    | some t => exact ih

/-- Fire one more label at the end of a run. -/
theorem run_concat {a : α} (h : run step s as = some t)
    (ha : step t a = some u) : run step s (as ++ [a]) = some u := by
  rw [run_append, h]
  simp [ha]

/-- **Invariant rule.** What holds initially and is kept by every step that meets `C`
holds in every state reached by such steps. -/
theorem Reachable.invariant {I : σ → Prop} (h : Reachable step C s t) (h0 : I s)
    (hstep : ∀ s a t, I s → C s a → step s a = some t → I t) : I t := by
  induction h with
  | refl => exact h0
  | tail _ hlast ih =>
    obtain ⟨a, hC, ha⟩ := hlast
    exact hstep _ a _ ih hC ha

/-- **Counted progress.** Where each label that `p` counts takes `P` from `n` to `n + 1`, and each
other one keeps it, a run takes `P` on by the number of labels that it counts. -/
theorem run_counted {I : σ → Prop} {P : σ → Nat → Prop} {p : α → Bool}
    (hI : ∀ s a t, I s → step s a = some t → I t)
    (hP : ∀ s a t n, I s → P s n → step s a = some t → P t (if p a then n + 1 else n))
    {n : Nat} (h0 : I s) (hn : P s n) (hrun : run step s as = some t) :
    P t (n + as.countP p) := by
  induction as generalizing s n with
  | nil =>
    cases hrun
    exact hn
  | cons a as ih =>
    obtain ⟨u, hu, hrest⟩ := Option.bind_eq_some_iff.mp hrun
    have hgo := ih (hI s a u h0 hu) (hP s a u n h0 hn hu) hrest
    have hcount : (if p a = true then n + 1 else n) + as.countP p =
        n + (a :: as).countP p := by
      rw [List.countP_cons]
      split <;> omega
    rwa [hcount] at hgo

theorem Reachable.mono (hCD : ∀ s a, C s a → D s a) (h : Reachable step C s t) :
    Reachable step D s t :=
  Relation.ReflTransGen.mono (fun _ _ ⟨a, hC, ha⟩ => ⟨a, hCD _ _ hC, ha⟩) _ _ h

theorem reachable_of_along (hC : Along step C s as)
    (h : run step s as = some t) : Reachable step C s t := by
  induction as generalizing s with
  | nil => cases h; exact Relation.ReflTransGen.refl
  | cons a as ih =>
    obtain ⟨u, hu, hrest⟩ := Option.bind_eq_some_iff.mp h
    exact Relation.ReflTransGen.head ⟨a, hC.1, hu⟩ (ih (hC.2 u hu) hrest)

theorem along_always (as : List α) : Along step Always s as := by
  induction as generalizing s with
  | nil => trivial
  | cons a as ih => exact ⟨trivial, fun _ _ => ih⟩

/-- `Along`, spelled out over the prefixes of the run. -/
theorem along_iff : Along step C s as ↔
    ∀ bs a u, (bs ++ [a]) <+: as → run step s bs = some u → C u a := by
  induction as generalizing s with
  | nil => simp [Along]
  | cons b as ih =>
    constructor
    · rintro ⟨hb, has⟩ bs a u hpre hu
      cases bs with
      | nil =>
        obtain ⟨rfl, -⟩ := List.cons_prefix_cons.mp hpre
        cases hu
        exact hb
      | cons c bs =>
        obtain ⟨rfl, hrest⟩ := List.cons_prefix_cons.mp hpre
        obtain ⟨t, ht, htu⟩ := Option.bind_eq_some_iff.mp hu
        exact ih.mp (has t ht) bs a u hrest htu
    · intro h
      refine ⟨h [] b s (by simp) rfl, fun t ht => ih.mpr ?_⟩
      intro bs a u hpre hu
      refine h (b :: bs) a u (List.cons_prefix_cons.mpr ⟨rfl, hpre⟩) ?_
      rw [run_cons, ht]
      exact hu

/-- A side condition that can be evaluated can be evaluated along a run. -/
instance decidableAlong [∀ s a, Decidable (C s a)] :
    ∀ (as : List α) (s : σ), Decidable (Along step C s as)
  | [], _ => .isTrue trivial
  | a :: as, s =>
    match h : step s a with
    | none => decidable_of_iff (C s a)
        ⟨fun hC => ⟨hC, fun t ht => by rw [h] at ht; cases ht⟩, fun hC => hC.1⟩
    | some t =>
      have := decidableAlong as t
      decidable_of_iff (C s a ∧ Along step C t as)
        ⟨fun hC => ⟨hC.1, fun u hu => by rw [h] at hu; cases hu; exact hC.2⟩,
          fun hC => ⟨hC.1, hC.2 t h⟩⟩

theorem Along.and (hC : Along step C s as) (hD : Along step D s as) :
    Along step (fun s a => C s a ∧ D s a) s as := by
  rw [along_iff] at hC hD ⊢
  exact fun bs a u hpre hu => ⟨hC bs a u hpre hu, hD bs a u hpre hu⟩

/-- **Exact conditions of a run.** Where `C` and `D` agree under an invariant that the steps
meeting `D` keep, a run meets the one exactly if it meets the other. -/
theorem along_congr {I : σ → Prop} (h0 : I s) (hiff : ∀ s a, I s → (C s a ↔ D s a))
    (hstep : ∀ s a t, I s → D s a → step s a = some t → I t) (as : List α) :
    Along step C s as ↔ Along step D s as := by
  induction as generalizing s with
  | nil => exact Iff.rfl
  | cons a as ih =>
    constructor
    · rintro ⟨hC, hrest⟩
      have hD := (hiff s a h0).mp hC
      exact ⟨hD, fun t ht => (ih (hstep s a t h0 hD ht)).mp (hrest t ht)⟩
    · rintro ⟨hD, hrest⟩
      exact ⟨(hiff s a h0).mpr hD, fun t ht => (ih (hstep s a t h0 hD ht)).mpr (hrest t ht)⟩

/-- A run that never visits `P` avoids it at every state where a label fires. -/
theorem along_of_not_visits {P : σ → Prop} (h : ¬ Visits step P s as) :
    Along step (fun u _ => ¬ P u) s as := by
  rw [along_iff]
  intro bs a u hpre hu hP
  exact h ⟨bs, u, (List.prefix_append bs [a]).trans hpre, hu, hP⟩

theorem visits_last {P : σ → Prop} (hrun : run step s as = some t) (h : P t) :
    Visits step P s as :=
  ⟨as, t, List.prefix_rfl, hrun, h⟩

/-- A concrete run ends in a reachable state. -/
theorem reachable_of_run (h : run step s as = some t) :
    Reachable step Always s t :=
  reachable_of_along (along_always as) h

/-- A concrete run whose last state passes a check gives a reachable state that does. -/
theorem reachable_of_run_any {p : σ → Bool}
    (h : (run step s as).any p = true) : ∃ t, Reachable step Always s t ∧ p t = true := by
  cases ht : run step s as with
  | none => rw [ht] at h; cases h
  | some t => exact ⟨t, reachable_of_run ht, by simpa [ht] using h⟩

end Transition
