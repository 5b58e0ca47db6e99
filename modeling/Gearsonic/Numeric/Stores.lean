import Mathlib.Data.List.FinRange
import Mathlib.Data.List.Pairwise
import Mathlib.Data.List.Perm.Subperm
import Mathlib.Logic.Function.Basic

/-!
# Stores into a buffer

A list of stores, an address and a value each, made one after the other.

* `exec_of_not_mem`: what no store goes to keeps its value.
* `exec_of_mem`: an address that only one value is stored at holds that value.
* `Fills.exec`, `Fills.outside`: stores that fill blocks apart from each other leave each slot of
  each block with its value, and nothing else changed.
* `addresses_perm`: as many stores as there are slots, and one to each, are one to each slot.
-/

namespace Stores

variable {ι α : Type*} [DecidableEq ι]

/-- The buffer after the stores, in order. -/
def exec (mem : ι → α) (l : List (ι × α)) : ι → α :=
  l.foldl (fun m s => Function.update m s.1 s.2) mem

variable {mem mem' : ι → α} {l l' : List (ι × α)} {x : ι} {v : α}

@[simp] theorem exec_nil (mem : ι → α) : exec mem [] = mem := rfl

@[simp] theorem exec_cons (mem : ι → α) (s : ι × α) (l : List (ι × α)) :
    exec mem (s :: l) = exec (Function.update mem s.1 s.2) l := rfl

theorem exec_append (mem : ι → α) (l l' : List (ι × α)) :
    exec mem (l ++ l') = exec (exec mem l) l' := List.foldl_append

theorem exec_of_not_mem (h : ∀ s ∈ l, s.1 ≠ x) : exec mem l x = mem x := by
  induction l generalizing mem with
  | nil => rfl
  | cons s l ih =>
    obtain ⟨hs, hl⟩ := List.forall_mem_cons.mp h
    rw [exec_cons, ih hl, Function.update_of_ne hs.symm]

/-- All stores to the address agree. -/
theorem exec_of_forall (h : ∀ s ∈ l, s.1 = x → s.2 = v) (hmem : mem x = v) :
    exec mem l x = v := by
  induction l generalizing mem with
  | nil => exact hmem
  | cons s l ih =>
    obtain ⟨hs, hl⟩ := List.forall_mem_cons.mp h
    rw [exec_cons]
    refine ih hl ?_
    by_cases heq : s.1 = x
    · rw [← heq, Function.update_self, hs heq]
    · rw [Function.update_of_ne (Ne.symm heq), hmem]

theorem exec_of_mem (hin : (x, v) ∈ l) (h : ∀ s ∈ l, s.1 = x → s.2 = v) :
    exec mem l x = v := by
  induction l generalizing mem with
  | nil => cases hin
  | cons s l ih =>
    obtain ⟨-, hl⟩ := List.forall_mem_cons.mp h
    rw [exec_cons]
    rcases List.mem_cons.mp hin with rfl | hrest
    · exact exec_of_forall hl (Function.update_self ..)
    · exact ih hrest hl

/-- A loop that stores to a different address each time. -/
theorem exec_map_of_injective {β : Type*} {is : List β} {addr : β → ι} {val : β → α}
    (hinj : Function.Injective addr) {i : β} (hi : i ∈ is) :
    exec mem (is.map fun i => (addr i, val i)) (addr i) = val i := by
  refine exec_of_mem (List.mem_map_of_mem hi) fun s hs hx => ?_
  obtain ⟨i', -, rfl⟩ := List.mem_map.mp hs
  exact congrArg val (hinj hx)

/-- `n` stores that reach each of `n` slots reach each of them once. -/
theorem addresses_perm {l : List (Nat × α)} {n : Nat} (hlen : l.length = n)
    (hall : ∀ x < n, ∃ v, (x, v) ∈ l) : (l.map Prod.fst).Perm (List.range n) := by
  have hsub : List.range n ⊆ l.map Prod.fst := by
    intro x hx
    obtain ⟨v, hv⟩ := hall x (List.mem_range.mp hx)
    exact List.mem_map_of_mem hv
  have hperm := (List.subperm_of_subset List.nodup_range hsub).perm_of_length_le (by simp [hlen])
  exact hperm.symm

/-! ## Blocks -/

/-- Rows of equal length, one behind the other, with the value of each slot. -/
structure Block (α : Type*) where
  base : Nat
  rows : Nat
  cols : Nat
  val : Fin rows → Fin cols → α

namespace Block

variable {α : Type*} {b : Block α}

def slot (b : Block α) (f : Fin b.rows) (i : Fin b.cols) : Nat := b.base + f * b.cols + i

/-- Where the block begins, and how many slots it has. -/
def span (b : Block α) : Nat × Nat := (b.base, b.rows * b.cols)

def Covers (b : Block α) (x : Nat) : Prop := b.base ≤ x ∧ x < b.base + b.rows * b.cols

theorem covers_slot (f : Fin b.rows) (i : Fin b.cols) : b.Covers (b.slot f i) := by
  have hrow : (f.val + 1) * b.cols ≤ b.rows * b.cols := Nat.mul_le_mul_right _ f.isLt
  have hi := i.isLt
  rw [Nat.add_mul, Nat.one_mul] at hrow
  unfold Covers slot
  omega

theorem slot_injective {f f' : Fin b.rows} {i i' : Fin b.cols} (h : b.slot f i = b.slot f' i') :
    f = f' ∧ i = i' := by
  have hpos : 0 < b.cols := i.pos
  have hsum : i.val + b.cols * f.val = i'.val + b.cols * f'.val := by
    unfold slot at h
    rw [Nat.mul_comm b.cols, Nat.mul_comm b.cols]
    omega
  have hrow := congrArg (· / b.cols) hsum
  have hcol := congrArg (· % b.cols) hsum
  simp only [Nat.add_mul_div_left _ _ hpos, Nat.add_mul_mod_self_left, Nat.div_eq_of_lt i.isLt,
    Nat.div_eq_of_lt i'.isLt, Nat.mod_eq_of_lt i.isLt, Nat.mod_eq_of_lt i'.isLt,
    Nat.zero_add] at hrow hcol
  exact ⟨Fin.ext hrow, Fin.ext hcol⟩

theorem exists_slot {x : Nat} (h : b.Covers x) : ∃ f i, b.slot f i = x := by
  obtain ⟨hlow, hhigh⟩ := h
  have hlt : x - b.base < b.cols * b.rows := by
    rw [Nat.mul_comm]
    omega
  have hpos : 0 < b.cols := Nat.pos_of_mul_pos_right (Nat.zero_lt_of_lt hlt)
  have hdiv := Nat.div_add_mod (x - b.base) b.cols
  refine ⟨⟨(x - b.base) / b.cols, Nat.div_lt_of_lt_mul hlt⟩,
    ⟨(x - b.base) % b.cols, Nat.mod_lt _ hpos⟩, ?_⟩
  show b.base + (x - b.base) / b.cols * b.cols + (x - b.base) % b.cols = x
  rw [Nat.mul_comm ((x - b.base) / b.cols)]
  omega

end Block

/-- Two spans share no slot. -/
def Apart (s t : Nat × Nat) : Prop := s.1 + s.2 ≤ t.1 ∨ t.1 + t.2 ≤ s.1

instance (s t : Nat × Nat) : Decidable (Apart s t) := inferInstanceAs (Decidable (_ ∨ _))

theorem Apart.symm {s t : Nat × Nat} (h : Apart s t) : Apart t s := Or.symm h

/-- The stores are one to each slot of each block, in any order. -/
def Fills (l : List (Nat × α)) (blocks : List (Block α)) : Prop :=
  ∀ s, s ∈ l ↔ ∃ b ∈ blocks, ∃ f i, s = (b.slot f i, b.val f i)

variable {l l' : List (Nat × α)} {blocks blocks' : List (Block α)} {mem : Nat → α} {b : Block α}

theorem Fills.append (h : Fills l blocks) (h' : Fills l' blocks') :
    Fills (l ++ l') (blocks ++ blocks') := by
  intro s
  rw [List.mem_append, h s, h' s]
  simp only [List.mem_append, or_and_right, exists_or]

/-- The order of the stores makes no difference. -/
theorem Fills.of_mem_iff (h : Fills l blocks) (hmem : ∀ s, s ∈ l' ↔ s ∈ l) : Fills l' blocks :=
  fun s => (hmem s).trans (h s)

/-- Two stores in one loop are two loops. -/
theorem Fills.loop_append {β : Type*} {is : List β} {v w : β → List (Nat × α)}
    (h : Fills (is.flatMap v ++ is.flatMap w) blocks) :
    Fills (is.flatMap fun f => v f ++ w f) blocks := by
  refine h.of_mem_iff fun s => ?_
  simp only [List.mem_append, List.mem_flatMap, and_or_left, exists_or]

theorem fills_single (x : Nat) (v : α) : Fills [(x, v)] [⟨x, 1, 1, fun _ _ => v⟩] := by
  intro s
  simp [Block.slot]

theorem fills_row {n : Nat} (base : Nat) (v : Fin n → α) :
    Fills ((List.finRange n).map fun i => (base + i.val, v i)) [⟨base, 1, n, fun _ => v⟩] := by
  intro s
  simp [Block.slot, eq_comm]

theorem fills_rows {m n : Nat} (base : Nat) (v : Fin m → Fin n → α) :
    Fills ((List.finRange m).flatMap fun f => (List.finRange n).map fun i =>
      (base + f.val * n + i.val, v f i)) [⟨base, m, n, v⟩] := by
  intro s
  simp [Block.slot, eq_comm]

/-- Two blocks of one shape, filled in one loop. -/
theorem fills_rows_two {m n : Nat} (a b : Nat) (v w : Fin m → Fin n → α) :
    Fills ((List.finRange m).flatMap fun f => (List.finRange n).flatMap fun i =>
      [(a + f.val * n + i.val, v f i), (b + f.val * n + i.val, w f i)])
      [⟨a, m, n, v⟩, ⟨b, m, n, w⟩] := by
  intro s
  simp [Block.slot, exists_or]

theorem fills_rows_three {m n : Nat} (a b c : Nat) (u v w : Fin m → Fin n → α) :
    Fills ((List.finRange m).flatMap fun f => (List.finRange n).flatMap fun i =>
      [(a + f.val * n + i.val, u f i), (b + f.val * n + i.val, v f i),
        (c + f.val * n + i.val, w f i)])
      [⟨a, m, n, u⟩, ⟨b, m, n, v⟩, ⟨c, m, n, w⟩] := by
  intro s
  simp [Block.slot, exists_or]

theorem Fills.exec (h : Fills l blocks) (hapart : (blocks.map Block.span).Pairwise Apart)
    (hb : b ∈ blocks) (f : Fin b.rows) (i : Fin b.cols) :
    Stores.exec mem l (b.slot f i) = b.val f i := by
  refine exec_of_mem ((h _).mpr ⟨b, hb, f, i, rfl⟩) fun s hs hx => ?_
  obtain ⟨b', hb', f', i', rfl⟩ := (h s).mp hs
  by_cases heq : b' = b
  · subst heq
    obtain ⟨rfl, rfl⟩ := Block.slot_injective hx
    rfl
  · -- another block, which lies apart
    have hsymm : Std.Symm fun b b' : Block α => Apart b.span b'.span := ⟨fun _ _ h => h.symm⟩
    have happ : Apart b'.span b.span := (List.pairwise_map.mp hapart).forall hb' hb heq
    have hother : b'.Covers (b.slot f i) := hx ▸ Block.covers_slot f' i'
    have hthis : b.Covers (b.slot f i) := Block.covers_slot f i
    unfold Block.Covers at hother hthis
    unfold Apart Block.span at happ
    dsimp only at happ
    omega

theorem Fills.outside (h : Fills l blocks) {x : Nat} (hx : ∀ b ∈ blocks, ¬ b.Covers x) :
    Stores.exec mem l x = mem x := by
  refine exec_of_not_mem fun s hs heq => ?_
  obtain ⟨b, hb, f, i, rfl⟩ := (h s).mp hs
  exact hx b hb (heq ▸ Block.covers_slot f i)

end Stores
