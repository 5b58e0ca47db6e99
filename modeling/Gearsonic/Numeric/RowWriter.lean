import Mathlib.Data.List.Basic
import Mathlib.Logic.Function.Basic

/-!
# Writing a row cell by cell

A writer with an index: `put` stores a value and moves on by one, `skip` moves on and leaves what
is there. `expand` is what a list of such moves leaves in each cell.

* `run_index`: where the index ends.
* `run_row`: what each cell holds.
* `run_row_map`: the row of values that are converted on the way.
-/

/-- A row that is being written. -/
structure RowWriter (α : Type*) where
  row : Nat → α
  index : Nat

namespace RowWriter

variable {α : Type*}

/-- One move of the writer. -/
inductive Move (α : Type*) where
  | put (v : α)
  | skip (k : Nat)

/-- One move. -/
def step (w : RowWriter α) : Move α → RowWriter α
  | .put v => { row := Function.update w.row w.index v, index := w.index + 1 }
  | .skip k => { w with index := w.index + k }

/-- A move with its value converted. -/
def Move.map {β : Type*} (f : α → β) : Move α → Move β
  | .put v => .put (f v)
  | .skip k => .skip k

def run (w : RowWriter α) (moves : List (Move α)) : RowWriter α := moves.foldl step w

/-- The cells that the moves pass, with the value where there is one. -/
def Move.cells : Move α → List (Option α)
  | .put v => [some v]
  | .skip k => List.replicate k none

def expand (moves : List (Move α)) : List (Option α) := moves.flatMap Move.cells

@[simp] theorem expand_nil : expand ([] : List (Move α)) = [] := rfl

@[simp] theorem expand_append (moves moves' : List (Move α)) :
    expand (moves ++ moves') = expand moves ++ expand moves' := List.flatMap_append

@[simp] theorem expand_cons (m : Move α) (moves : List (Move α)) :
    expand (m :: moves) = m.cells ++ expand moves := List.flatMap_cons

/-- A run of values. -/
@[simp] theorem expand_map_put (vs : List α) : expand (vs.map .put) = vs.map some := by
  induction vs with
  | nil => rfl
  | cons v vs ih => rw [List.map_cons, expand_cons, ih, List.map_cons, Move.cells,
      List.singleton_append]

theorem run_index (w : RowWriter α) (moves : List (Move α)) :
    (w.run moves).index = w.index + (expand moves).length := by
  induction moves generalizing w with
  | nil => rfl
  | cons m moves ih =>
    rw [expand_cons, List.length_append]
    refine (ih (w.step m)).trans ?_
    cases m with
    | put v =>
      simp only [step, Move.cells, List.length_singleton]
      omega
    | skip k =>
      simp only [step, Move.cells, List.length_replicate]
      omega

/-- What lies before the index keeps its value. -/
theorem run_row_before (w : RowWriter α) (moves : List (Move α)) {x : Nat} (hx : x < w.index) :
    (w.run moves).row x = w.row x := by
  induction moves generalizing w with
  | nil => rfl
  | cons m moves ih =>
    cases m with
    | put v =>
      refine (ih (w.step (.put v)) (Nat.lt_succ_of_lt hx)).trans ?_
      exact Function.update_of_ne (Nat.ne_of_lt hx) v w.row
    | skip k => exact ih (w.step (.skip k)) (Nat.lt_add_right k hx)

/-- A cell that a value was put in holds it, every other one what it held. -/
theorem run_row (w : RowWriter α) (moves : List (Move α)) (k : Nat) :
    (w.run moves).row (w.index + k) =
      ((expand moves)[k]?.getD none).getD (w.row (w.index + k)) := by
  induction moves generalizing w k with
  | nil => rfl
  | cons m moves ih =>
    cases m with
    | put v =>
      cases k with
      | zero =>
        refine (run_row_before (w.step (.put v)) moves (Nat.lt_succ_self _)).trans ?_
        exact Function.update_self ..
      | succ k =>
        have hnext := ih (w.step (.put v)) k
        have hindex : (w.step (.put v)).index + k = w.index + (k + 1) := by
          simp only [step]
          omega
        have hne : w.index + (k + 1) ≠ w.index := by omega
        have hrow : (w.step (.put v)).row (w.index + (k + 1)) = w.row (w.index + (k + 1)) := by
          show Function.update w.row w.index v (w.index + (k + 1)) = _
          exact Function.update_of_ne hne v w.row
        rw [hindex, hrow] at hnext
        exact hnext
    | skip n =>
      rw [expand_cons, Move.cells]
      by_cases hk : k < n
      · rw [List.getElem?_append_left (by rw [List.length_replicate]; exact hk),
          List.getElem?_replicate, if_pos hk]
        exact run_row_before (w.step (.skip n)) moves (Nat.add_lt_add_left hk _)
      · have hnext := ih (w.step (.skip n)) (k - n)
        have hindex : (w.step (.skip n)).index + (k - n) = w.index + k := by
          simp only [step]
          omega
        rw [hindex] at hnext
        rw [List.getElem?_append_right (by rw [List.length_replicate]; omega),
          List.length_replicate]
        exact hnext

/-- A row that was cleared first holds the values put, and the default where one was skipped. -/
theorem run_row_cleared (d : α) (row : Nat → α) (moves : List (Move α)) {k : Nat}
    (hrow : row k = d) :
    (run ⟨row, 0⟩ moves).row k = ((expand moves).map fun c => c.getD d)[k]?.getD d := by
  have hcell := run_row ⟨row, 0⟩ moves k
  dsimp only at hcell
  rw [Nat.zero_add] at hcell
  rw [hcell, hrow, List.getElem?_map]
  cases (expand moves)[k]? <;> rfl

theorem expand_map {β : Type*} (f : α → β) (moves : List (Move α)) :
    expand (moves.map (Move.map f)) = (expand moves).map (Option.map f) := by
  induction moves with
  | nil => rfl
  | cons m moves ih =>
    rw [List.map_cons, expand_cons, ih, expand_cons, List.map_append]
    cases m with
    | put v => rfl
    | skip k => rw [Move.map, Move.cells, Move.cells, List.map_replicate, Option.map_none]

/-- Where the default is converted to itself, a cleared row of converted values is the converted
row. -/
theorem run_row_map {f : α → α} {d : α} (hd : f d = d) (row : Nat → α) (moves : List (Move α))
    {k : Nat} (hrow : row k = d) :
    (run ⟨row, 0⟩ (moves.map (Move.map f))).row k = f ((run ⟨row, 0⟩ moves).row k) := by
  rw [run_row_cleared d row _ hrow, run_row_cleared d row _ hrow, expand_map, List.map_map,
    List.getElem?_map, List.getElem?_map]
  cases (expand moves)[k]? with
  | none => exact hd.symm
  | some c =>
    cases c with
    | none => exact hd.symm
    | some v => rfl

end RowWriter
