import Gearsonic.Control.StateHistory

/-!
# The state history against a list

The ring of `StateLogger` and the list of everything logged. `logChecked` and `getLatestChecked`
are `Log` and `GetLatest` with every index of a vector and every unsigned subtraction checked: they
are `none` where the source would leave a vector or go below zero.

* `logChecked_eq`, `getLatestChecked_eq`: no check fails.
* `getLatest_eq`: the latest entries are the end of the list, behind zero entries.
* `state_logger_reference`: both, for every capacity, history and number of entries.
-/

namespace Gearsonic

namespace StateLogger

variable {K : Type} [Field K]

/-! ## Checked operations -/

/-- A subtraction of `size_t` that does not go below zero. -/
def checkedSub (a b : Nat) : Option Nat := if b ≤ a then some (a - b) else none

/-- An assignment within a vector. -/
def checkedSet {α : Type} (xs : List α) (i : Nat) (x : α) : Option (List α) :=
  if i < xs.length then some (xs.set i x) else none

/-- `Log`, checked. -/
def logChecked (l : StateLogger K) (e : Entry K) : Option (StateLogger K) := do
  let ring ← checkedSet l.ring ((l.start + l.size) % l.capacity) e
  let l := { l with ring := ring }
  if l.size < l.capacity then some { l with size := l.size + 1 }
  else some { l with start := (l.start + 1) % l.capacity }

/-- One turn of the loop of `GetLatest`, checked. -/
def copyChecked (l : StateLogger K) (n held : Nat) (out : List (Entry K)) (j : Nat) :
    Option (List (Entry K)) := do
  let oldest ← checkedSub (l.start + l.size) held
  let e ← l.ring[(oldest + j) % l.capacity]?
  let zeros ← checkedSub n held
  checkedSet out (zeros + j) e

/-- `GetLatest`, checked. -/
def getLatestChecked (l : StateLogger K) (n : Nat) : Option (List (Entry K)) :=
  let held := min n l.size
  (List.range held).foldlM (l.copyChecked n held) (List.replicate n {})

/-! ## No check fails -/

section

variable {capacity : Nat} [NeZero capacity] {l : StateLogger K} {es : List (Entry K)}

theorem logChecked_eq (h : l.KeepsLast capacity es) (e : Entry K) :
    l.logChecked e = some (l.log e) := by
  have hin : (l.start + l.size) % l.capacity < l.ring.length := by
    rw [h.capacity_eq, h.length]
    exact Nat.mod_lt _ (NeZero.pos capacity)
  unfold logChecked checkedSet log
  rw [if_pos hin]
  dsimp only [Option.bind_eq_bind, Option.bind_some]
  split <;> rfl

theorem logChecked_foldlM (h : l.KeepsLast capacity es) (logged : List (Entry K)) :
    logged.foldlM logChecked l = some (logged.foldl log l) := by
  induction logged generalizing l es with
  | nil => rfl
  | cons e logged ih =>
    rw [List.foldlM_cons, logChecked_eq h, List.foldl_cons]
    exact ih (h.log e)

/-- Entry `j` of the latest `held`, in the ring. -/
def latest (l : StateLogger K) (held j : Nat) : Entry K :=
  l.ring.getD ((l.start + l.size - held + j) % l.capacity) {}

/-- Zero entries. -/
def padding (k : Nat) : List (Entry K) := List.replicate k {}

@[simp] theorem length_padding (k : Nat) : (padding k : List (Entry K)).length = k :=
  List.length_replicate

/-- A turn of the loop writes the first entry that is still zero. -/
theorem copyChecked_eq (h : l.KeepsLast capacity es) {n held j : Nat} (hn : held ≤ n)
    (hsize : held ≤ l.size) (hj : j < held) (copied : List (Entry K)) (hlen : copied.length = j) :
    l.copyChecked n held
        (padding (n - held) ++ copied ++ padding (held - j)) j =
      some (padding (n - held) ++ (copied ++ [l.latest held j]) ++ padding (held - (j + 1))) := by
  have hin : (l.start + l.size - held + j) % l.capacity < l.ring.length := by
    rw [h.capacity_eq, h.length]
    exact Nat.mod_lt _ (NeZero.pos capacity)
  have hread : l.ring[(l.start + l.size - held + j) % l.capacity]? = some (l.latest held j) := by
    rw [latest, List.getD_eq_getElem?_getD, List.getElem?_eq_getElem hin, Option.getD_some]
  have hoff : held ≤ l.start + l.size := by omega
  have hfront : (padding (n - held) ++ copied).length = n - held + j := by
    rw [List.length_append, length_padding, hlen]
  have hroom : n - held + j < (padding (n - held) ++ copied ++ padding (held - j)).length := by
    rw [List.length_append, hfront, length_padding]
    omega
  have hrest : (padding (held - j) : List (Entry K)) = {} :: padding (held - (j + 1)) := by
    have hone : held - j = held - (j + 1) + 1 := by omega
    rw [hone]
    rfl
  unfold copyChecked checkedSub checkedSet
  rw [if_pos hoff, if_pos hn]
  dsimp only [Option.bind_eq_bind, Option.bind_some]
  rw [hread]
  dsimp only [Option.bind_some]
  rw [if_pos hroom, List.set_append_right _ _ hfront.le, hfront, Nat.sub_self, hrest,
    List.set_cons_zero]
  simp only [List.append_assoc, List.singleton_append]

theorem getLatestChecked_eq (h : l.KeepsLast capacity es) (n : Nat) :
    l.getLatestChecked n = some (l.getLatest n) := by
  have hloop : ∀ m ≤ min n l.size,
      (List.range m).foldlM (l.copyChecked n (min n l.size)) (padding n) =
        some (padding (n - min n l.size) ++ (List.range m).map (l.latest (min n l.size)) ++
          padding (min n l.size - m)) := by
    intro m hm
    induction m with
    | zero =>
      have hwhole : n = n - min n l.size + min n l.size := by omega
      rw [List.range_zero, List.foldlM_nil, List.map_nil, List.append_nil, Nat.sub_zero, padding,
        padding, padding, List.replicate_append_replicate, ← hwhole]
      rfl
    | succ m ih =>
      rw [List.range_succ, List.foldlM_append, ih (by omega), List.map_append]
      have hturn := copyChecked_eq h (Nat.min_le_left n l.size) (Nat.min_le_right n l.size) hm
        ((List.range m).map (l.latest (min n l.size))) (by simp)
      show (l.copyChecked n (min n l.size) _ m).bind some = _
      rw [hturn]
      rfl
  refine (hloop _ le_rfl).trans ?_
  have hnone : (padding 0 : List (Entry K)) = [] := rfl
  rw [Nat.sub_self, hnone, List.append_nil]
  rfl

end

/-! ## The reference -/

section

variable {capacity : Nat} [NeZero capacity] {l : StateLogger K} {logged : List (Entry K)}

/-- The latest entries, oldest first, are the end of the list of all. -/
theorem map_latest (h : l.KeepsLast capacity logged.reverse) {held : Nat} (hheld : held ≤ l.size) :
    (List.range held).map (l.latest held) = logged.drop (logged.length - held) := by
  have hsize := h.size_eq
  rw [List.length_reverse] at hsize
  apply List.ext_getElem?
  intro j
  rw [List.getElem?_drop, List.getElem?_map]
  by_cases hj : j < held
  · have hback : l.start + l.size - held + j = l.start + l.size - 1 - (held - 1 - j) := by omega
    have hfront : logged.length - held + j = logged.length - 1 - (held - 1 - j) := by omega
    have hcell := h.cell (k := held - 1 - j) (by omega)
    rw [List.getElem?_reverse (by omega)] at hcell
    rw [List.getElem?_range hj, Option.map_some, latest, h.capacity_eq, hback,
      List.getD_eq_getElem?_getD, hcell, hfront]
    have hin : logged.length - 1 - (held - 1 - j) < logged.length := by omega
    rw [List.getElem?_eq_getElem hin, Option.getD_some]
  · rw [List.getElem?_eq_none (by rw [List.length_range]; omega),
      List.getElem?_eq_none (by omega), Option.map_none]

theorem getLatest_eq (h : l.KeepsLast capacity logged.reverse) (n : Nat) :
    l.getLatest n =
      List.replicate (n - min n (min logged.length capacity)) ({} : Entry K) ++
        logged.drop (logged.length - min n (min logged.length capacity)) := by
  have hsize := h.size_eq
  rw [List.length_reverse, Nat.min_comm] at hsize
  rw [← hsize, ← map_latest h (Nat.min_le_right n l.size)]
  rfl

end

/-- **The history is its list.** Whatever the capacity, after any sequence of `Log` calls
`GetLatest(n)` is `n` entries: the last of the logged ones that the ring has room for, oldest
first, behind zero entries. On the way every index is in range and no subtraction goes below
zero. -/
theorem state_logger_reference (capacity : Nat) (hpos : 0 < capacity) (logged : List (Entry K)) :
    ∃ l : StateLogger K, logged.foldlM logChecked { capacity := capacity } = some l ∧
      logged.foldl log { capacity := capacity } = l ∧ ∀ n,
        l.getLatestChecked n = some (l.getLatest n) ∧ (l.getLatest n).length = n ∧
          l.getLatest n =
            List.replicate (n - min n (min logged.length capacity)) ({} : Entry K) ++
              logged.drop (logged.length - min n (min logged.length capacity)) := by
  have : NeZero capacity := ⟨hpos.ne'⟩
  have hnew := KeepsLast.new (K := K) capacity
  have hkeeps := keepsLast_foldl hnew logged
  rw [List.append_nil] at hkeeps
  refine ⟨_, logChecked_foldlM hnew logged, rfl, ?_⟩
  intro n
  refine ⟨getLatestChecked_eq hkeeps n, ?_, getLatest_eq hkeeps n⟩
  rw [getLatest_eq hkeeps n, List.length_append, List.length_replicate, List.length_drop]
  omega

/-- Three entries logged into a ring of two, and three asked for. -/
theorem state_logger_reference_wrapped :
    ∃ l : StateLogger ℚ,
      ([{ baseAngVel := fun _ => 1 }, { baseAngVel := fun _ => 2 },
        { baseAngVel := fun _ => 3 }] : List (Entry ℚ)).foldlM logChecked { capacity := 2 } =
          some l ∧
        (l.getLatest 3).map (fun e => e.baseAngVel 0) = [0, 2, 3] := by
  obtain ⟨l, hchecked, hlog, hlatest⟩ := state_logger_reference 2 (by decide)
    ([{ baseAngVel := fun _ => 1 }, { baseAngVel := fun _ => 2 },
      { baseAngVel := fun _ => 3 }] : List (Entry ℚ))
  refine ⟨l, hchecked, ?_⟩
  rw [(hlatest 3).2.2]
  rfl

end StateLogger

end Gearsonic
