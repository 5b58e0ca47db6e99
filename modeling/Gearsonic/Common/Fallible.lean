import Mathlib.Data.List.GetD

/-!
# Steps that may throw

`Except` steps, and a list of them one after the other.

* `bind_ok`: a sequence succeeds exactly if both steps do.
* `mapM_ok_iff`: all of them succeed.
* `forall_mapM_iff`: a property of the results, as one of the steps.
-/

namespace Fallible

variable {ε α β : Type}

theorem bind_ok {x : Except ε α} {f : α → Except ε β} {b : β} :
    (x >>= f) = .ok b ↔ ∃ a, x = .ok a ∧ f a = .ok b := by
  cases x with
  | error e =>
    constructor
    · intro h
      cases h
    · rintro ⟨a, ha, -⟩
      cases ha
  | ok a =>
    constructor
    · exact fun h => ⟨a, rfl, h⟩
    · rintro ⟨a', ha, h⟩
      cases ha
      exact h

variable {f : α → Except ε β}

theorem mapM_cons_ok {a : α} {l : List α} {ys : List β} :
    (a :: l).mapM f = .ok ys ↔ ∃ y rest, f a = .ok y ∧ l.mapM f = .ok rest ∧ ys = y :: rest := by
  rw [List.mapM_cons, bind_ok]
  constructor
  · rintro ⟨y, hy, hrest⟩
    obtain ⟨rest, hmap, heq⟩ := bind_ok.mp hrest
    cases heq
    exact ⟨y, rest, hy, hmap, rfl⟩
  · rintro ⟨y, rest, hy, hmap, rfl⟩
    exact ⟨y, hy, bind_ok.mpr ⟨rest, hmap, rfl⟩⟩

theorem mapM_ok_iff {l : List α} : (∃ ys, l.mapM f = .ok ys) ↔ ∀ a ∈ l, ∃ y, f a = .ok y := by
  induction l with
  | nil => exact ⟨fun _ => by rintro a ⟨⟩, fun _ => ⟨[], rfl⟩⟩
  | cons a l ih =>
    rw [List.forall_mem_cons, ← ih]
    constructor
    · rintro ⟨ys, hys⟩
      obtain ⟨y, rest, hy, hmap, -⟩ := mapM_cons_ok.mp hys
      exact ⟨⟨y, hy⟩, rest, hmap⟩
    · rintro ⟨⟨y, hy⟩, rest, hmap⟩
      exact ⟨y :: rest, mapM_cons_ok.mpr ⟨y, rest, hy, hmap, rfl⟩⟩

theorem length_mapM {l : List α} {ys : List β} (h : l.mapM f = .ok ys) :
    ys.length = l.length := by
  induction l generalizing ys with
  | nil =>
    cases h
    rfl
  | cons a l ih =>
    obtain ⟨y, rest, -, hmap, rfl⟩ := mapM_cons_ok.mp h
    rw [List.length_cons, List.length_cons, ih hmap]

/-- A property holds of every result exactly if every step that succeeds has it. -/
theorem forall_mapM_iff {P : β → Prop} {l : List α} {ys : List β} (h : l.mapM f = .ok ys) :
    (∀ y ∈ ys, P y) ↔ ∀ a ∈ l, ∀ y, f a = .ok y → P y := by
  induction l generalizing ys with
  | nil =>
    cases h
    exact ⟨fun _ => by rintro a ⟨⟩, fun _ => by rintro y ⟨⟩⟩
  | cons a l ih =>
    obtain ⟨y, rest, hy, hmap, rfl⟩ := mapM_cons_ok.mp h
    rw [List.forall_mem_cons, List.forall_mem_cons, ih hmap, hy]
    constructor
    · rintro ⟨hP, hrest⟩
      refine ⟨?_, hrest⟩
      rintro y' ⟨⟩
      exact hP
    · exact fun hall => ⟨hall.1 y rfl, hall.2⟩

/-- An array filled from a list that is not longer, with a default that has the property. -/
theorem forall_getD_iff {P : β → Prop} {n : Nat} {xs : List β} {d : β} (hlen : xs.length ≤ n)
    (hd : P d) : (∀ i : Fin n, P (xs.getD i d)) ↔ ∀ x ∈ xs, P x := by
  constructor
  · intro hall x hx
    obtain ⟨i, hi, rfl⟩ := List.mem_iff_getElem.mp hx
    have hP := hall ⟨i, by omega⟩
    rwa [List.getD_eq_getElem _ _ hi] at hP
  · intro hall i
    rcases Nat.lt_or_ge i.val xs.length with hi | hi
    · rw [List.getD_eq_getElem _ _ hi]
      exact hall _ (List.getElem_mem hi)
    · rw [List.getD_eq_default _ _ hi]
      exact hd

end Fallible
