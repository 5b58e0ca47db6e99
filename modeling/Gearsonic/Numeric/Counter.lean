import Mathlib.Data.Nat.ModEq

/-!
# Wrapping counters

A counter of `w` bits that counts past its end. Two readings of it that are less than
`2 ^ w` apart still tell how far apart the counts are, and a ring whose size divides
`2 ^ w` finds its slots from the reading.
-/

namespace Numeric

/-- The reading of a `w`-bit counter that has counted to `n`. -/
abbrev counter (w n : Nat) : BitVec w := BitVec.ofNat w n

variable {w m n : Nat}

theorem counter_add (m n : Nat) : counter w m + BitVec.ofNat w n = counter w (m + n) :=
  (BitVec.ofNat_add m n).symm

theorem counter_sub_toNat (hle : m ≤ n) (hlt : n < m + 2 ^ w) :
    (counter w n - counter w m).toNat = n - m := by
  have hsplit : counter w n = counter w m + BitVec.ofNat w (n - m) := by
    rw [counter_add]
    congr 1
    omega
  have hdiff : counter w n - counter w m = BitVec.ofNat w (n - m) := by
    rw [hsplit, BitVec.add_comm, BitVec.add_sub_cancel]
  rw [hdiff, BitVec.toNat_ofNat]
  apply Nat.mod_eq_of_lt
  omega

theorem counter_eq_iff (hle : m ≤ n) (hlt : n < m + 2 ^ w) :
    counter w m = counter w n ↔ m = n := by
  constructor
  · intro heq
    have hzero := counter_sub_toNat (w := w) hle hlt
    rw [heq, BitVec.sub_self] at hzero
    have : (0#w).toNat = 0 := BitVec.toNat_ofNat 0 w ▸ Nat.zero_mod _
    omega
  · intro heq
    rw [heq]

/-- The slot of a ring whose size divides the counter's range. -/
theorem counter_mod {size : Nat} (hdvd : size ∣ 2 ^ w) (n : Nat) :
    (counter w n).toNat % size = n % size := by
  rw [BitVec.toNat_ofNat]
  exact Nat.mod_mod_of_dvd n hdvd

/-- Two counts less than a ring's size apart have different slots. -/
theorem mod_ne_of_close {size : Nat} (hlt : m < n) (hclose : n < m + size) :
    m % size ≠ n % size := by
  intro heq
  have hdvd : size ∣ n - m := (Nat.modEq_iff_dvd' hlt.le).mp heq
  have hle := Nat.le_of_dvd (by omega) hdvd
  omega

end Numeric
