import Gearsonic.Numeric.ShiftRegister

/-!
# The message checksum

`crc32_core`. The inner loop is the shift register of its polynomial, over the bits of the words in
turn, the most significant first.

* `crc32Core_eq`: the checksum is the register after the bits of the message.
* `crc32Core_ne`: messages that differ within 32 consecutive bits have different checksums.
-/

namespace Gearsonic

/-- `poly`. -/
def crcPoly : BitVec 32 := 0x04c11db7

/-- One turn of the inner loop, on `crc` and `xbit`. -/
def crcBit (data : BitVec 32) (s : BitVec 32 × BitVec 32) : BitVec 32 × BitVec 32 :=
  let crc := s.1
  let xbit := s.2
  let crc := if crc &&& 0x80000000 ≠ 0 then crc <<< 1 ^^^ crcPoly else crc <<< 1
  let crc := if data &&& xbit ≠ 0 then crc ^^^ crcPoly else crc
  (crc, xbit >>> 1)

/-- One turn of the outer loop. -/
def crcWord (crc data : BitVec 32) : BitVec 32 := ((crcBit data)^[32] (crc, 1#32 <<< 31)).1

/-- `crc32_core`, of the words at `ptr`. -/
def crc32Core (ptr : List (BitVec 32)) : BitVec 32 := ptr.foldl crcWord 0xFFFFFFFF

/-! ## The bits of a message -/

/-- The bits of a word, the most significant first. -/
def wordBits (data : BitVec 32) : List Bool := (List.range 32).map data.getMsbD

def messageBits (ws : List (BitVec 32)) : List Bool := ws.flatMap wordBits

/-- The messages differ only within some 32 consecutive bits. -/
def BurstApart (a b : List (BitVec 32)) : Prop :=
  ∃ p, ∀ i, (messageBits a)[i]? ≠ (messageBits b)[i]? → p ≤ i ∧ i < p + 32

theorem wordBits_length (data : BitVec 32) : (wordBits data).length = 32 := by
  rw [wordBits, List.length_map, List.length_range]

theorem wordBits_injective : Function.Injective wordBits := by
  intro x y h
  apply BitVec.eq_of_getMsbD_eq
  intro i hi
  have hbit := congrArg (fun bits => bits[i]?) h
  simpa [wordBits, List.getElem?_range hi] using hbit

theorem messageBits_cons (data : BitVec 32) (ws : List (BitVec 32)) :
    messageBits (data :: ws) = wordBits data ++ messageBits ws := List.flatMap_cons

theorem messageBits_length (ws : List (BitVec 32)) : (messageBits ws).length = 32 * ws.length := by
  induction ws with
  | nil => rfl
  | cons data ws ih =>
    rw [messageBits_cons, List.length_append, wordBits_length, ih, List.length_cons]
    omega

theorem messageBits_injective : Function.Injective messageBits := by
  intro a b h
  induction a generalizing b with
  | nil =>
    have hlen := congrArg List.length h
    rw [messageBits_length, messageBits_length, List.length_nil] at hlen
    exact (List.eq_nil_of_length_eq_zero (by omega)).symm
  | cons x a ih =>
    cases b with
    | nil =>
      have hlen := congrArg List.length h
      rw [messageBits_length, messageBits_length, List.length_cons, List.length_nil] at hlen
      omega
    | cons y b =>
      rw [messageBits_cons, messageBits_cons] at h
      have hsame : (wordBits x).length = (wordBits y).length := by
        rw [wordBits_length, wordBits_length]
      obtain ⟨hword, hrest⟩ := List.append_inj h hsame
      rw [wordBits_injective hword, ih hrest]

/-! ## The register -/

theorem and_twoPow_ne_zero (x : BitVec 32) {i : Nat} (hi : i < 32) :
    x &&& BitVec.twoPow 32 i ≠ 0 ↔ x.getLsbD i = true := by
  have hpow : BitVec.twoPow 32 i ≠ 0#32 := by
    intro hzero
    have hbit : (BitVec.twoPow 32 i).getLsbD i = false := by rw [hzero, BitVec.getLsbD_zero]
    simp [hi] at hbit
  rw [BitVec.and_twoPow]
  cases x.getLsbD i with
  | false => simp
  | true => simpa using hpow

/-- The test of the highest bit of `crc`. -/
theorem and_top_ne_zero (crc : BitVec 32) : crc &&& 0x80000000 ≠ 0 ↔ crc.msb = true := by
  rw [BitVec.msb_eq_getLsbD_last]
  exact and_twoPow_ne_zero crc (Nat.lt_succ_self 31)

/-- `xbit` after `k` turns picks bit `k`. -/
theorem and_xbit_ne_zero (data : BitVec 32) {k : Nat} (hk : k < 32) :
    data &&& (1#32 <<< 31) >>> k ≠ 0 ↔ data.getMsbD k = true := by
  have hxbit : (1#32 <<< 31) >>> k = BitVec.twoPow 32 (31 - k) := by
    apply BitVec.eq_of_toNat_eq
    have hpow : (2 : Nat) ^ 31 = 2 ^ (31 - k) * 2 ^ k := by
      rw [← Nat.pow_add, Nat.sub_add_cancel (by omega)]
    have hsmall : (2 : Nat) ^ (31 - k) < 2 ^ 32 := Nat.pow_lt_pow_right (by decide) (by omega)
    rw [BitVec.toNat_twoPow, Nat.mod_eq_of_lt hsmall, BitVec.toNat_ushiftRight,
      Nat.shiftRight_eq_div_pow]
    show 2 ^ 31 / 2 ^ k = 2 ^ (31 - k)
    rw [hpow, Nat.mul_div_cancel _ (Nat.two_pow_pos k)]
  rw [hxbit, and_twoPow_ne_zero data (by omega), BitVec.getMsbD]
  simp [hk]

theorem crcBit_eq (data crc : BitVec 32) {k : Nat} (hk : k < 32) :
    crcBit data (crc, (1#32 <<< 31) >>> k) =
      (ShiftRegister.feed crcPoly crc (data.getMsbD k), (1#32 <<< 31) >>> (k + 1)) := by
  unfold crcBit ShiftRegister.feed ShiftRegister.shift
  dsimp only
  simp only [and_top_ne_zero, and_xbit_ne_zero data hk, BitVec.shiftRight_add]

/-- The first `k` turns of the inner loop. -/
theorem iterate_crcBit (data crc : BitVec 32) {k : Nat} (hk : k ≤ 32) :
    (crcBit data)^[k] (crc, 1#32 <<< 31) =
      (ShiftRegister.run crcPoly crc ((List.range k).map data.getMsbD), (1#32 <<< 31) >>> k) := by
  induction k with
  | zero => rfl
  | succ k ih =>
    rw [Function.iterate_succ_apply', ih (by omega), crcBit_eq _ _ hk, List.range_succ,
      List.map_append, ShiftRegister.run_append]
    rfl

theorem crcWord_eq (crc data : BitVec 32) :
    crcWord crc data = ShiftRegister.run crcPoly crc (wordBits data) := by
  rw [crcWord, iterate_crcBit data crc (Nat.le_refl 32)]
  rfl

/-- The checksum is the register after the bits of the message. -/
theorem crc32Core_eq (ws : List (BitVec 32)) :
    crc32Core ws = ShiftRegister.run crcPoly 0xFFFFFFFF (messageBits ws) := by
  unfold crc32Core
  generalize (0xFFFFFFFF : BitVec 32) = crc
  induction ws generalizing crc with
  | nil => rfl
  | cons data ws ih =>
    rw [List.foldl_cons, ih, crcWord_eq, messageBits_cons, ShiftRegister.run_append]

/-- **Short bursts are detected.** Messages of one length that differ, and only within 32
consecutive bits, have different checksums. -/
theorem crc32Core_ne {a b : List (BitVec 32)} (hlen : a.length = b.length) (hne : a ≠ b)
    (h : BurstApart a b) : crc32Core a ≠ crc32Core b := by
  obtain ⟨p, hwindow⟩ := h
  have hbits : (messageBits a).length = (messageBits b).length := by
    rw [messageBits_length, messageBits_length, hlen]
  rw [crc32Core_eq, crc32Core_eq]
  exact ShiftRegister.run_ne (by decide) _ hbits (messageBits_injective.ne hne) hwindow

end Gearsonic
