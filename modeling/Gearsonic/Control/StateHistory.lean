import Gearsonic.Control.StateLogger
import Gearsonic.Numeric.LatestRing

/-!
# What the state history holds

`StateLogger` keeps the last entries in a ring, 100 of them in the controller. `KeepsLast` relates a
ring of any capacity to the list of all entries logged, the newest first; `Keeps` is the
controller's.

* `KeepsLast.log`: one more entry.
* `KeepsLast.cell`: the entry logged `k` entries ago, by its place in the ring.
* `Keeps.getLatest`: the latest `n` of them, oldest first, with zero entries before the first.
-/

namespace Gearsonic

namespace StateLogger

variable {K : Type} [Field K] {l : StateLogger K} {es : List (Entry K)}

/-- The entries `es` were logged, the newest first. -/
structure KeepsLast (capacity : Nat) [NeZero capacity] (l : StateLogger K)
    (es : List (Entry K)) : Prop where
  capacity_eq : l.capacity = capacity
  length : l.ring.length = capacity
  start_lt : l.start < capacity
  ring : LatestRing.Holds (fun i : Fin capacity => l.ring.getD i.val {})
    ((l.start + l.size + (capacity - 1)) % capacity) l.size es

section

variable {capacity : Nat} [NeZero capacity]

theorem KeepsLast.new (capacity : Nat) [NeZero capacity] :
    ({ capacity := capacity } : StateLogger K).KeepsLast capacity [] :=
  ⟨rfl, List.length_replicate, NeZero.pos capacity, .empty _ (Nat.mod_lt _ (NeZero.pos capacity))⟩

/-- Writing a slot of the ring. -/
theorem getD_set (ring : List (Entry K)) (hlen : ring.length = capacity) (n : Nat) (e : Entry K) :
    (fun i : Fin capacity => (ring.set (n % capacity) e).getD i.val {}) =
      Function.update (fun i : Fin capacity => ring.getD i.val {}) (Fin.ofNat capacity n) e := by
  funext i
  have hn : n % capacity < ring.length := by
    rw [hlen]
    exact Nat.mod_lt n (NeZero.pos capacity)
  by_cases hi : i = Fin.ofNat capacity n
  · rw [hi, Function.update_self]
    show (ring.set (n % capacity) e).getD (n % capacity) {} = e
    rw [List.getD_eq_getElem?_getD, List.getElem?_set_self hn]
    rfl
  · have hne : n % capacity ≠ i.val := by
      intro heq
      exact hi (Fin.ext heq.symm)
    rw [Function.update_of_ne hi, List.getD_eq_getElem?_getD, List.getElem?_set_ne hne,
      ← List.getD_eq_getElem?_getD]

/-- The slot behind the head. -/
theorem next_slot (n : Nat) : ((n + (capacity - 1)) % capacity + 1) % capacity = n % capacity := by
  have hpos := NeZero.pos capacity
  have hturn : n + (capacity - 1) + 1 = n + capacity := by omega
  rw [Nat.mod_add_mod, hturn, Nat.add_mod_right]

theorem KeepsLast.log (h : l.KeepsLast capacity es) (e : Entry K) :
    (l.log e).KeepsLast capacity (e :: es) := by
  have hpos := NeZero.pos capacity
  have hnext := h.ring.next e
  have hofNat : Fin.ofNat capacity ((l.start + l.size) % capacity) =
      Fin.ofNat capacity (l.start + l.size) := Fin.ext (Nat.mod_mod _ _)
  rw [next_slot, hofNat, ← getD_set l.ring h.length] at hnext
  have hset : (l.ring.set ((l.start + l.size) % capacity) e).length = capacity := by
    rw [List.length_set, h.length]
  unfold StateLogger.log
  dsimp only
  rw [h.capacity_eq]
  by_cases hroom : l.size < capacity
  · rw [if_pos hroom] at hnext ⊢
    have hhead : (l.start + (l.size + 1) + (capacity - 1)) % capacity =
        (l.start + l.size) % capacity := by
      have hturn : l.start + (l.size + 1) + (capacity - 1) = l.start + l.size + capacity := by omega
      rw [hturn, Nat.add_mod_right]
    refine ⟨rfl, hset, h.start_lt, ?_⟩
    dsimp only
    rw [hhead]
    exact hnext
  · have hcount := h.ring.count_eq
    have hhead : ((l.start + 1) % capacity + l.size + (capacity - 1)) % capacity =
        (l.start + l.size) % capacity := by
      have hturn : l.start + 1 + (l.size + (capacity - 1)) = l.start + l.size + capacity := by omega
      rw [Nat.add_assoc, Nat.mod_add_mod, hturn, Nat.add_mod_right]
    rw [if_neg hroom] at hnext ⊢
    refine ⟨rfl, hset, Nat.mod_lt _ hpos, ?_⟩
    dsimp only
    rw [hhead]
    exact hnext

/-- The logger after entries logged one after the other. -/
theorem keepsLast_foldl (h : l.KeepsLast capacity es) (logged : List (Entry K)) :
    (logged.foldl StateLogger.log l).KeepsLast capacity (logged.reverse ++ es) := by
  induction logged generalizing l es with
  | nil => exact h
  | cons e logged ih =>
    rw [List.foldl_cons, List.reverse_cons, List.append_assoc]
    exact ih (h.log e)

theorem KeepsLast.size_eq (h : l.KeepsLast capacity es) : l.size = min capacity es.length :=
  h.ring.count_eq

/-- The entry logged `k` entries ago. -/
theorem KeepsLast.cell (h : l.KeepsLast capacity es) {k : Nat} (hk : k < l.size) :
    l.ring[(l.start + l.size - 1 - k) % capacity]? = es[k]? := by
  have hsize := h.size_eq
  have hslot : (LatestRing.slot capacity ((l.start + l.size + (capacity - 1)) % capacity) k).val =
      (l.start + l.size - 1 - k) % capacity := by
    show ((l.start + l.size + (capacity - 1)) % capacity + capacity - k) % capacity = _
    have hturns : l.start + l.size + (capacity - 1) + (capacity - k) =
        l.start + l.size - 1 - k + 2 * capacity := by omega
    rw [Nat.add_sub_assoc (by omega), Nat.mod_add_mod, hturns, Nat.add_mul_mod_self_right]
  have hin : (l.start + l.size - 1 - k) % capacity < l.ring.length := by
    rw [h.length]
    exact Nat.mod_lt _ (NeZero.pos capacity)
  rw [h.ring.cell k hk, hslot, List.getD_eq_getElem?_getD, List.getElem?_eq_getElem hin,
    Option.getD_some]

end

/-! ## The controller's history -/

/-- The entries `es` were logged, the newest first. -/
structure Keeps (l : StateLogger K) (es : List (Entry K)) : Prop where
  capacity : l.capacity = 100
  length : l.ring.length = 100
  start_lt : l.start < 100
  ring : LatestRing.Holds (fun i : Fin 100 => l.ring.getD i.val {})
    ((l.start + l.size + 99) % 100) l.size es

theorem keeps_iff : l.Keeps es ↔ l.KeepsLast 100 es :=
  ⟨fun h => ⟨h.capacity, h.length, h.start_lt, h.ring⟩,
    fun h => ⟨h.capacity_eq, h.length, h.start_lt, h.ring⟩⟩

theorem Keeps.new : ({} : StateLogger K).Keeps [] := keeps_iff.mpr (.new 100)

theorem keeps_foldl (h : l.Keeps es) (logged : List (Entry K)) :
    (logged.foldl StateLogger.log l).Keeps (logged.reverse ++ es) :=
  keeps_iff.mpr (keepsLast_foldl (keeps_iff.mp h) logged)

/-- The entry `k` places before the end is the one logged `k` entries ago. -/
theorem Keeps.getLatest (h : l.Keeps es) {n k : Nat} (hn : n ≤ 100) (hk : k < n) :
    (l.getLatest n).getD (n - 1 - k) {} = es.getD k {} := by
  have hcount := h.ring.count_eq
  unfold StateLogger.getLatest
  dsimp only
  rw [h.capacity, List.getD_eq_getElem?_getD, List.getD_eq_getElem?_getD]
  by_cases hheld : k < l.size
  · have hindex : n - 1 - k = n - min n l.size + (min n l.size - 1 - k) := by omega
    have hplace : l.start + l.size - min n l.size + (min n l.size - 1 - k) =
        l.start + l.size - 1 - k := by omega
    rw [hindex, List.getElem?_append_right (by simp), List.length_replicate,
      Nat.add_sub_cancel_left, List.getElem?_map, List.getElem?_range (by omega), Option.map_some,
      hplace, List.getD_eq_getElem?_getD, (keeps_iff.mp h).cell hheld]
    rfl
  · have hbefore : n - 1 - k < n - min n l.size := by omega
    have hnone : es[k]? = none := List.getElem?_eq_none (by omega)
    rw [List.getElem?_append_left (by rw [List.length_replicate]; exact hbefore),
      List.getElem?_replicate, if_pos hbefore, hnone]
    rfl

end StateLogger

end Gearsonic
