import Mathlib.Data.List.Nodup
import Mathlib.Data.List.Perm.Basic
import Mathlib.Tactic.Common

/-!
# Blocks and their owners

Memory behind an allocator, as a program sees it: `malloc` gives a block at a fresh address, `free`
takes the block at an address away, `copy` moves bytes into or out of it. Freeing an address
without a block is a fault, and so is a copy to one or beyond the end of its block. The null
address, `none`, is freed without effect and cannot be copied to.

`Owns h owned` says that the blocks of the heap are those of a list of owners, each one's own, and
that there was no fault. Owners that allocate, copy in their own blocks and free what they own keep
it, and a heap whose owners have freed everything has no block.
-/

namespace OwnedHeap

structure Block where
  address : ℕ
  size : ℕ
deriving DecidableEq

structure Heap where
  blocks : List Block := []
  next : ℕ := 0
  /-- The copies that met a block: the bytes moved and the block's size. -/
  copies : List (ℕ × ℕ) := []
  faults : ℕ := 0

namespace Heap

/-- The new block is the one at the former `next`. -/
def malloc (h : Heap) (size : ℕ) : Heap :=
  { h with blocks := ⟨h.next, size⟩ :: h.blocks, next := h.next + 1 }

def free (h : Heap) : Option ℕ → Heap
  | none => h
  | some address =>
    if address ∈ h.blocks.map Block.address then
      { h with blocks := h.blocks.filter fun b => b.address ≠ address }
    else { h with faults := h.faults + 1 }

def freeAll (h : Heap) (addresses : List (Option ℕ)) : Heap := addresses.foldl free h

def copy (h : Heap) (address : Option ℕ) (bytes : ℕ) : Heap :=
  match address with
  | none => h
  | some address =>
    match h.blocks.find? fun b => b.address = address with
    | some b =>
      { h with
        copies := h.copies ++ [(bytes, b.size)]
        faults := if bytes ≤ b.size then h.faults else h.faults + 1 }
    | none => { h with faults := h.faults + 1 }

@[simp] theorem free_copies (h : Heap) (address : Option ℕ) :
    (h.free address).copies = h.copies := by
  unfold free
  split
  · rfl
  · split <;> rfl

@[simp] theorem freeAll_copies (h : Heap) (addresses : List (Option ℕ)) :
    (h.freeAll addresses).copies = h.copies := by
  induction addresses generalizing h with
  | nil => rfl
  | cons address addresses ih => exact (ih (h.free address)).trans (h.free_copies address)

end Heap

structure Owns (h : Heap) (owned : List Block) : Prop where
  perm : h.blocks.Perm owned
  nodup : (owned.map Block.address).Nodup
  lt : ∀ b ∈ owned, b.address < h.next
  faults : h.faults = 0

variable {h : Heap} {owned owned' : List Block} {b : Block}

theorem Owns.init : Owns {} [] := ⟨.refl _, List.nodup_nil, nofun, rfl⟩

theorem Owns.of_perm (ho : Owns h owned) (hperm : owned.Perm owned') : Owns h owned' where
  perm := ho.perm.trans hperm
  nodup := (hperm.map Block.address).nodup_iff.mp ho.nodup
  lt := fun b hb => ho.lt b (hperm.mem_iff.mpr hb)
  faults := ho.faults

theorem Owns.malloc (ho : Owns h owned) (size : ℕ) :
    Owns (h.malloc size) (⟨h.next, size⟩ :: owned) where
  perm := ho.perm.cons _
  nodup := by
    refine List.nodup_cons.mpr ⟨fun hmem => ?_, ho.nodup⟩
    obtain ⟨b, hb, haddress⟩ := List.mem_map.mp hmem
    exact Nat.ne_of_lt (ho.lt b hb) haddress
  lt := by
    intro b hb
    rcases List.mem_cons.mp hb with rfl | hb
    · exact Nat.lt_succ_self _
    · exact Nat.lt_succ_of_lt (ho.lt b hb)
  faults := ho.faults

theorem Owns.free (ho : Owns h (b :: owned)) : Owns (h.free (some b.address)) owned := by
  have hmem : b.address ∈ h.blocks.map Block.address :=
    List.mem_map_of_mem (ho.perm.mem_iff.mpr List.mem_cons_self)
  obtain ⟨hfirst, hrest⟩ := List.nodup_cons.mp ho.nodup
  have hkeep : (b :: owned).filter (fun c => c.address ≠ b.address) = owned := by
    rw [List.filter_cons_of_neg (by simp), List.filter_eq_self]
    intro c hc
    simp only [ne_eq, decide_not, Bool.not_eq_eq_eq_not, Bool.not_true, decide_eq_false_iff_not]
    intro heq
    exact hfirst (List.mem_map.mpr ⟨c, hc, heq⟩)
  simp only [Heap.free, if_pos hmem]
  refine ⟨?_, hrest, fun c hc => ho.lt c (List.mem_cons_of_mem b hc), ho.faults⟩
  have hperm := ho.perm.filter fun c => c.address ≠ b.address
  rwa [hkeep] at hperm

/-- Null addresses among the freed ones do not matter. -/
theorem Owns.freeAll (addresses : List (Option ℕ))
    (ho : Owns h owned) (hall : addresses.filterMap id = owned.map Block.address) :
    Owns (h.freeAll addresses) [] := by
  induction addresses generalizing h owned with
  | nil =>
    have hnil : owned = [] := List.map_eq_nil_iff.mp hall.symm
    subst hnil
    exact ho
  | cons address addresses ih =>
    cases address with
    | none => exact ih ho hall
    | some address =>
      cases owned with
      | nil => cases hall
      | cons b owned =>
        obtain ⟨haddress, hrest⟩ := List.cons.inj hall
        have hfree := ho.free
        rw [← haddress] at hfree
        exact ih hfree hrest

/-- A copy of exactly the bytes of an owned block. -/
theorem Owns.copy (ho : Owns h owned) (hb : b ∈ owned) :
    Owns (h.copy (some b.address) b.size) owned ∧
      (h.copy (some b.address) b.size).copies = h.copies ++ [(b.size, b.size)] := by
  have hfind : (h.blocks.find? fun c => c.address = b.address) = some b := by
    cases hc : h.blocks.find? fun c => c.address = b.address with
    | none =>
      have hnone := List.find?_eq_none.mp hc b (ho.perm.mem_iff.mpr hb)
      simp at hnone
    | some c =>
      have haddress : c.address = b.address := by
        simpa using List.find?_some hc
      have hmem := ho.perm.mem_iff.mp (List.mem_of_find?_eq_some hc)
      exact congrArg some (List.inj_on_of_nodup_map ho.nodup hmem hb haddress)
  unfold Heap.copy
  simp only [hfind, if_pos (Nat.le_refl b.size)]
  exact ⟨⟨ho.perm, ho.nodup, ho.lt, ho.faults⟩, trivial⟩

end OwnedHeap
