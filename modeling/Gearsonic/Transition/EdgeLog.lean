import Mathlib.Data.List.FinRange
import Mathlib.Data.List.Nodup
import Mathlib.Logic.Function.Basic

/-!
# Edge-triggered logs

A store holds a value for each condition, and a log line names a condition and its new value. A
step is edge-triggered where its lines are the difference of the stores around it: one line for
each condition whose value changed, and none for the others (`Edges`).

* `Edges.replay`: the lines of such a step, replayed on the store before it, give the store
  after it.
* `edges_of_changes`: a step that writes the changes of all conditions is edge-triggered.
* `replay_run`: the log of a run replays to the store that the run ends in.
-/

set_option linter.unusedSectionVars false

namespace EdgeLog

variable {C V : Type*} [DecidableEq C]

/-- The store after a line has been read. -/
def write (store : C → V) (line : C × V) : C → V := Function.update store line.1 line.2

def replay (store : C → V) (lines : List (C × V)) : C → V := lines.foldl write store

/-- The lines about one condition. -/
def about (c : C) (lines : List (C × V)) : List (C × V) := lines.filter fun line => line.1 = c

section

variable [DecidableEq V]

/-- The line of a value that may have changed. -/
def change (c : C) (old new : V) : List (C × V) := if old = new then [] else [(c, new)]

/-- `lines` are the edges from one store to another. -/
def Edges (before after : C → V) (lines : List (C × V)) : Prop :=
  ∀ c, about c lines = change c (before c) (after c)

end

variable {store before after : C → V} {lines : List (C × V)} {c : C}

@[simp] theorem replay_nil (store : C → V) : replay store [] = store := rfl

@[simp] theorem replay_cons (store : C → V) (line : C × V) (lines : List (C × V)) :
    replay store (line :: lines) = replay (write store line) lines := rfl

theorem replay_append (store : C → V) (lines lines' : List (C × V)) :
    replay store (lines ++ lines') = replay (replay store lines) lines' := by
  unfold replay
  rw [List.foldl_append]

@[simp] theorem about_nil (c : C) : about c ([] : List (C × V)) = [] := rfl

@[simp] theorem about_append (c : C) (lines lines' : List (C × V)) :
    about c (lines ++ lines') = about c lines ++ about c lines' := by
  unfold about
  rw [List.filter_append]

theorem about_of_ne (h : ∀ line ∈ lines, line.1 ≠ c) : about c lines = [] := by
  unfold about
  rw [List.filter_eq_nil_iff]
  intro line hline
  simpa using h line hline

theorem about_cons (c : C) (line : C × V) (lines : List (C × V)) :
    about c (line :: lines) = if line.1 = c then line :: about c lines else about c lines := by
  unfold about
  rw [List.filter_cons]
  simp only [decide_eq_true_iff]

/-- The value of a condition is the last that a line about it names. -/
theorem replay_at (store : C → V) (lines : List (C × V)) (c : C) :
    replay store lines c = (about c lines).foldl (fun _ line => line.2) (store c) := by
  induction lines generalizing store with
  | nil => rfl
  | cons line lines ih =>
    rw [replay_cons, ih, about_cons]
    unfold write
    by_cases hline : line.1 = c
    · subst hline
      rw [if_pos rfl, List.foldl_cons, Function.update_self]
    · rw [if_neg hline, Function.update_of_ne (Ne.symm hline)]

/-- In a loop, the lines about `c` are those of the one pass that writes `c`. -/
theorem about_flatMap {ι : Type*} {f : ι → List (C × V)} {passes : List ι} {i : ι}
    (hnodup : passes.Nodup) (hi : i ∈ passes)
    (hothers : ∀ j ∈ passes, j ≠ i → about c (f j) = []) :
    about c (passes.flatMap f) = about c (f i) := by
  induction passes with
  | nil => cases hi
  | cons j passes ih =>
    rw [List.flatMap_cons, about_append]
    obtain ⟨hj, hnodup⟩ := List.nodup_cons.mp hnodup
    have hrest (k : ι) (hk : k ∈ passes) (hne : k ≠ i) := hothers k (List.mem_cons_of_mem _ hk) hne
    rcases List.mem_cons.mp hi with rfl | hi
    · have hnone : about c (passes.flatMap f) = [] := by
        apply about_of_ne
        intro line hline hc
        obtain ⟨k, hk, hmem⟩ := List.mem_flatMap.mp hline
        have hempty := hrest k hk (fun heq => hj (heq ▸ hk))
        rw [about, List.filter_eq_nil_iff] at hempty
        exact hempty line hmem (decide_eq_true hc)
      rw [hnone, List.append_nil]
    · have hne : j ≠ i := fun heq => hj (heq ▸ hi)
      rw [hothers j List.mem_cons_self hne, List.nil_append]
      exact ih hnodup hi hrest

variable [DecidableEq V]

@[simp] theorem change_self (c : C) (v : V) : change c v v = [] := if_pos rfl

theorem change_of_ne {old new : V} (h : old ≠ new) (c : C) : change c old new = [(c, new)] :=
  if_neg h

/-- A change is about its own condition. -/
theorem about_change (c d : C) (old new : V) :
    about d (change c old new) = if c = d then change c old new else [] := by
  unfold change
  split
  · rw [about_nil, ite_self]
  · rw [about_cons, about_nil]

/-- **Replay rule.** The edges, replayed on the store before, give the store after. -/
theorem Edges.replay (h : Edges before after lines) : replay before lines = after := by
  funext c
  rw [replay_at, h c]
  by_cases hc : before c = after c
  · rw [hc, change_self]
    rfl
  · rw [change_of_ne hc]
    rfl

/-- A step that writes the changes of all conditions, one after the other. -/
theorem edges_of_changes {all : List C} (hnodup : all.Nodup) (hall : ∀ c, c ∈ all) :
    Edges before after (all.flatMap fun c => change c (before c) (after c)) := by
  intro c
  rw [about_flatMap hnodup (hall c), about_change, if_pos rfl]
  intro d _ hne
  rw [about_change, if_neg hne]

/-! ## Runs -/

section

variable {σ α ω : Type*} (step : σ → α → σ × List ω) (edge : ω → Option (C × V)) (view : σ → C → V)

/-- The state that a list of inputs leads to, and the whole log. -/
def run (s : σ) : List α → σ × List ω
  | [] => (s, [])
  | a :: as =>
    let next := step s a
    let rest := run next.1 as
    (rest.1, next.2 ++ rest.2)

theorem run_fst (s : σ) (as : List α) :
    (run step s as).1 = as.foldl (fun s a => (step s a).1) s := by
  induction as generalizing s with
  | nil => rfl
  | cons a as ih => exact ih _

/-- If every step is edge-triggered, the log replays to the last state. -/
theorem replay_run {good : σ → Prop}
    (hstep : ∀ s a, good s → good (step s a).1 ∧
      Edges (view s) (view (step s a).1) ((step s a).2.filterMap edge))
    {s : σ} (hs : good s) (as : List α) :
    EdgeLog.replay (view s) ((run step s as).2.filterMap edge) = view (run step s as).1 := by
  induction as generalizing s with
  | nil => rfl
  | cons a as ih =>
    obtain ⟨hgood, hedges⟩ := hstep s a hs
    unfold run
    dsimp only
    rw [List.filterMap_append, replay_append, hedges.replay]
    exact ih hgood

end

end EdgeLog
