import Mathlib.Algebra.GroupWithZero.Nat
import Mathlib.Algebra.Order.Group.Nat
import Mathlib.Data.List.Basic
import Mathlib.Logic.Function.Basic

/-!
# A ring of the latest values

`n` slots, the newest value at `head`, and a saturating count. `Holds` says which list of values
(newest first) such a ring holds the beginning of: the value `k` places back is in the slot `k`
before the head, around the wrap.

* `Holds.first`, `Holds.next`: the first value, and one more.
* `Holds.back`: the value `k` places back, or the first one if there are fewer.
-/

namespace LatestRing

variable {α : Type*} {n : Nat} [NeZero n] {cells : Fin n → α} {head count : Nat} {xs : List α}

/-- The slot `k` before the head. -/
def slot (n : Nat) [NeZero n] (head k : Nat) : Fin n := Fin.ofNat n (head + n - k)

/-- The ring holds the last values of `xs`, newest first. -/
structure Holds (cells : Fin n → α) (head count : Nat) (xs : List α) : Prop where
  head_lt : head < n
  count_eq : count = min n xs.length
  cell : ∀ k, k < count → xs[k]? = some (cells (slot n head k))

theorem slot_zero (n : Nat) [NeZero n] (head : Nat) : slot n head 0 = Fin.ofNat n head := by
  refine Fin.ext ?_
  show (head + n - 0) % n = head % n
  rw [Nat.sub_zero, Nat.add_mod_right]

/-- Slots less than a turn apart are different ones. -/
theorem slot_ne_zero (h : head < n) {k : Nat} (hpos : 0 < k) (hk : k < n) :
    slot n head k ≠ slot n head 0 := by
  rw [slot_zero]
  intro heq
  have hval : (head + n - k) % n = head % n := congrArg Fin.val heq
  rw [Nat.mod_eq_of_lt h] at hval
  by_cases hwrap : k ≤ head
  · have hone : head + n - k = head - k + n := by omega
    rw [hone, Nat.add_mod_right, Nat.mod_eq_of_lt (by omega)] at hval
    omega
  · rw [Nat.mod_eq_of_lt (by omega)] at hval
    omega

/-- Moving the head on puts every slot one further back. -/
theorem slot_next (h : head < n) {k : Nat} (hk : k < n) :
    slot n ((head + 1) % n) (k + 1) = slot n head k := by
  refine Fin.ext ?_
  show ((head + 1) % n + n - (k + 1)) % n = (head + n - k) % n
  by_cases hwrap : head + 1 = n
  · have hzero : (head + 1) % n = 0 := by rw [hwrap, Nat.mod_self]
    have hone : head + n - k = 0 + n - (k + 1) + n := by omega
    rw [hzero, hone, Nat.add_mod_right]
  · have hone : (head + 1) % n = head + 1 := Nat.mod_eq_of_lt (by omega)
    rw [hone]
    congr 1
    omega

theorem Holds.empty (cells : Fin n → α) (h : head < n) : Holds cells head 0 [] :=
  ⟨h, (Nat.min_zero n).symm, fun k hk => absurd hk (Nat.not_lt_zero k)⟩

/-- The first value. -/
theorem Holds.first (cells : Fin n → α) (h : head < n) (x : α) :
    Holds (Function.update cells (Fin.ofNat n head) x) head 1 [x] := by
  refine ⟨h, ?_, fun k hk => ?_⟩
  · have := NeZero.pos n
    simp
    omega
  · have hzero : k = 0 := by omega
    rw [hzero, slot_zero, Function.update_self]
    rfl

/-- One more value, behind the next head. -/
theorem Holds.next (h : Holds cells head count xs) (x : α) :
    Holds (Function.update cells (Fin.ofNat n ((head + 1) % n)) x) ((head + 1) % n)
      (if count < n then count + 1 else count) (x :: xs) := by
  have hhead : (head + 1) % n < n := Nat.mod_lt _ (NeZero.pos n)
  have hcount := h.count_eq
  refine ⟨hhead, ?_, fun k hk => ?_⟩
  · rw [List.length_cons]
    split <;> omega
  · rw [← slot_zero]
    cases k with
    | zero =>
      rw [Function.update_self]
      rfl
    | succ k =>
      have hkn : k + 1 < n := by split at hk <;> omega
      rw [Function.update_of_ne (slot_ne_zero hhead (Nat.succ_pos k) hkn),
        slot_next h.head_lt (by omega)]
      exact h.cell k (by split at hk <;> omega)

/-- Reading `k` places back, at most as far as the count reaches. -/
theorem Holds.back {x : α} (h : Holds cells head count (x :: xs)) {k : Nat} (hk : k < n) :
    cells (slot n head (min k (count - 1))) = (x :: xs)[k]?.getD (xs.getLastD x) := by
  have hcount := h.count_eq
  have hpos := NeZero.pos n
  rw [List.length_cons] at hcount
  by_cases hin : k < count
  · have hmin : min k (count - 1) = k := by omega
    rw [hmin, h.cell k hin, Option.getD_some]
  · -- fewer than `k` values, so the ring is not full and still holds the first one
    have hmin : min k (count - 1) = xs.length := by omega
    have hout : (x :: xs)[k]? = none := List.getElem?_eq_none (by rw [List.length_cons]; omega)
    have hlast : (x :: xs)[xs.length]? = some (xs.getLastD x) := by
      rw [List.getLastD_eq_getLast?, ← List.getLast?_cons, List.getLast?_eq_getElem?]
      rfl
    have hcell := h.cell xs.length (by omega)
    rw [hmin, hout, Option.getD_none]
    exact Option.some.inj (hcell.symm.trans hlast)

end LatestRing
