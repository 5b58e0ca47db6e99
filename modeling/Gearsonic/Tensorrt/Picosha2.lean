import Gearsonic.Numeric.Sha256

/-!
# picosha2

The hash that names an engine file, as `picosha2.h` computes it: words of 64 bits that are masked to
32 now and then, a buffer that takes the message in chunks, its length as four digits of base 65536,
and a last block that is overwritten in place. The digits are natural numbers; a chunk is shorter
than 2^63 bytes, so that they never wrap.

* `hash256Block_eq`: the masks come often enough.
* `finish_eq`: the last block, overwritten in place, is the standard's padding.
* `picosha2_streams`: whatever the chunks, the hash is SHA-256 of the whole message.
-/

namespace Gearsonic

namespace Picosha2

open Sha256 (Vars)

/-- `word_t`. -/
abbrev Word := BitVec 64

def mask8Bit (x : UInt8) : UInt8 := x &&& 0xff

def mask32Bit (x : Word) : Word := x &&& 0xffffffff

def addConstant : List Word := [
  0x428a2f98, 0x71374491, 0xb5c0fbcf, 0xe9b5dba5, 0x3956c25b, 0x59f111f1,
  0x923f82a4, 0xab1c5ed5, 0xd807aa98, 0x12835b01, 0x243185be, 0x550c7dc3,
  0x72be5d74, 0x80deb1fe, 0x9bdc06a7, 0xc19bf174, 0xe49b69c1, 0xefbe4786,
  0x0fc19dc6, 0x240ca1cc, 0x2de92c6f, 0x4a7484aa, 0x5cb0a9dc, 0x76f988da,
  0x983e5152, 0xa831c66d, 0xb00327c8, 0xbf597fc7, 0xc6e00bf3, 0xd5a79147,
  0x06ca6351, 0x14292967, 0x27b70a85, 0x2e1b2138, 0x4d2c6dfc, 0x53380d13,
  0x650a7354, 0x766a0abb, 0x81c2c92e, 0x92722c85, 0xa2bfe8a1, 0xa81a664b,
  0xc24b8b70, 0xc76c51a3, 0xd192e819, 0xd6990624, 0xf40e3585, 0x106aa070,
  0x19a4c116, 0x1e376c08, 0x2748774c, 0x34b0bcb5, 0x391c0cb3, 0x4ed8aa4a,
  0x5b9cca4f, 0x682e6ff3, 0x748f82ee, 0x78a5636f, 0x84c87814, 0x8cc70208,
  0x90befffa, 0xa4506ceb, 0xbef9a3f7, 0xc67178f2]

def initialMessageDigest : Vars 64 :=
  ⟨0x6a09e667, 0xbb67ae85, 0x3c6ef372, 0xa54ff53a, 0x510e527f, 0x9b05688c, 0x1f83d9ab, 0x5be0cd19⟩

def ch (x y z : Word) : Word := (x &&& y) ^^^ (~~~x &&& z)

def maj (x y z : Word) : Word := (x &&& y) ^^^ (x &&& z) ^^^ (y &&& z)

def rotr (x : Word) (n : ℕ) : Word := mask32Bit (x >>> n ||| x <<< (32 - n))

def bsig0 (x : Word) : Word := rotr x 2 ^^^ rotr x 13 ^^^ rotr x 22

def bsig1 (x : Word) : Word := rotr x 6 ^^^ rotr x 11 ^^^ rotr x 25

def shr (x : Word) (n : ℕ) : Word := x >>> n

def ssig0 (x : Word) : Word := rotr x 7 ^^^ rotr x 18 ^^^ shr x 3

def ssig1 (x : Word) : Word := rotr x 17 ^^^ rotr x 19 ^^^ shr x 10

/-- A byte as a `word_t`. -/
def ofByte (x : UInt8) : Word := BitVec.ofNat 64 (mask8Bit x).toNat

def blockWord (block : List UInt8) (i : ℕ) : Word :=
  ofByte (block.getD (i * 4) 0) <<< 24 ||| ofByte (block.getD (i * 4 + 1) 0) <<< 16 |||
    ofByte (block.getD (i * 4 + 2) 0) <<< 8 ||| ofByte (block.getD (i * 4 + 3) 0)

/-- `w[i]` for the next `i`. -/
def extend (w : List Word) : List Word :=
  w ++ [mask32Bit (ssig1 (w.getD (w.length - 2) 0) + w.getD (w.length - 7) 0 +
    ssig0 (w.getD (w.length - 15) 0) + w.getD (w.length - 16) 0)]

def schedule (block : List UInt8) : List Word :=
  extend^[48] ((List.range 16).map (blockWord block))

def round (v : Vars 64) (kw : Word × Word) : Vars 64 :=
  let temp1 := v.h + bsig1 v.e + ch v.e v.f v.g + kw.1 + kw.2
  let temp2 := bsig0 v.a + maj v.a v.b v.c
  ⟨mask32Bit (temp1 + temp2), v.a, v.b, v.c, mask32Bit (v.d + temp1), v.e, v.f, v.g⟩

def hash256Block (messageDigest : Vars 64) (block : List UInt8) : Vars 64 :=
  let v := (addConstant.zip (schedule block)).foldl round messageDigest
  Vars.map mask32Bit
    ⟨messageDigest.a + v.a, messageDigest.b + v.b, messageDigest.c + v.c, messageDigest.d + v.d,
      messageDigest.e + v.e, messageDigest.f + v.f, messageDigest.g + v.g, messageDigest.h + v.h⟩

/-! ## The hasher -/

/-- `hash256_one_by_one`. -/
structure Hasher where
  buffer : List UInt8 := []
  /-- The lowest digit first. -/
  dataLengthDigits : List ℕ := [0, 0, 0, 0]
  h : Vars 64 := initialMessageDigest

/-- The loop of `add_to_data_length`. -/
def addCarry (carry : ℕ) : List ℕ → List ℕ
  | [] => []
  | d :: digits =>
    let d := d + carry
    if 65536 ≤ d then (d &&& 65535) :: addCarry (d >>> 16) digits else d :: digits

def addToDataLength (n : ℕ) : List ℕ → List ℕ
  | [] => []
  | d :: digits => addCarry 0 ((d + n) :: digits)

/-- The digits of the length in bits. -/
def bitLengthDigits (carry : ℕ) : List ℕ → List ℕ
  | [] => []
  | d :: digits =>
    ((d <<< 3 ||| carry) &&& 65535) :: bitLengthDigits ((d >>> 13) &&& 65535) digits

/-- What `write_data_bit_length` writes. -/
def dataBitLength (digits : List ℕ) : List UInt8 :=
  (bitLengthDigits 0 digits).reverse.flatMap fun d => [UInt8.ofNat (d >>> 8), UInt8.ofNat d]

def process (s : Hasher) (chunk : List UInt8) : Hasher :=
  let st := BlockStream.absorb 64 hash256Block ⟨s.h, s.buffer⟩ chunk
  { buffer := st.rest
    dataLengthDigits := addToDataLength chunk.length s.dataLengthDigits
    h := st.state }

/-- `std::fill` with zeros, from `first` up to `last`. -/
def fillZero (temp : List UInt8) (first last : ℕ) : List UInt8 :=
  temp.mapIdx fun i x => if first ≤ i ∧ i < last then 0 else x

def finish (s : Hasher) : Vars 64 :=
  let remains := s.buffer.length
  let temp := s.buffer ++ (List.replicate 64 0).drop remains
  let temp := temp.set remains 0x80
  if 55 < remains then
    let temp := fillZero temp (remains + 1) 64
    let h := hash256Block s.h temp
    let temp := fillZero temp 0 (64 - 4)
    hash256Block h (temp.take 56 ++ dataBitLength s.dataLengthDigits)
  else
    let temp := fillZero temp (remains + 1) (64 - 4)
    hash256Block s.h (temp.take 56 ++ dataBitLength s.dataLengthDigits)

def hashBytes (h : Vars 64) : List UInt8 :=
  h.toList.flatMap fun (x : Word) => (List.range 4).map fun i =>
    mask8Bit (UInt8.ofNat (x >>> (24 - 8 * i)).toNat)

/-- `hash256_impl` over a range in memory. -/
def hash256 (data : List UInt8) : List UInt8 := hashBytes (finish (process {} data))

/-- The buffers that the loop over a stream fills, `fuel` at most. -/
def streamBuffers (bufferSize : ℕ) : ℕ → List UInt8 → List (List UInt8)
  | 0, _ => []
  | _ + 1, [] => []
  | fuel + 1, data => data.take bufferSize :: streamBuffers bufferSize fuel (data.drop bufferSize)

def kBufferSize : ℕ := 1048576

/-- `hash256_impl` over a stream. -/
def hash256Stream (data : List UInt8) : List UInt8 :=
  hashBytes (finish ((streamBuffers kBufferSize data.length data).foldl process {}))

/-! ## Words -/

/-- A word of 32 bits, held in 64. -/
def held (x : BitVec 32) : Word := x.setWidth 64

theorem toNat_held (x : BitVec 32) : (held x).toNat = x.toNat := by
  have := x.isLt
  simp only [held, BitVec.toNat_setWidth]
  omega

theorem mask32Bit_eq (x : Word) : mask32Bit x = held (x.setWidth 32) := by
  apply BitVec.eq_of_toNat_eq
  rw [mask32Bit, BitVec.toNat_and, toNat_held, BitVec.toNat_setWidth]
  show x.toNat &&& (2 ^ 32 - 1) = x.toNat % 2 ^ 32
  exact Nat.and_two_pow_sub_one_eq_mod _ _

@[simp] theorem setWidth_held (x : BitVec 32) : (held x).setWidth 32 = x := by
  apply BitVec.eq_of_toNat_eq
  have := x.isLt
  rw [BitVec.toNat_setWidth, toNat_held]
  omega

theorem held_xor (x y : BitVec 32) : held (x ^^^ y) = held x ^^^ held y := BitVec.setWidth_xor

theorem held_and (x y : BitVec 32) : held (x &&& y) = held x &&& held y := BitVec.setWidth_and

theorem held_shr (x : BitVec 32) (n : ℕ) : held (x >>> n) = shr (held x) n := by
  apply BitVec.eq_of_toNat_eq
  rw [shr, toNat_held, BitVec.toNat_ushiftRight, BitVec.toNat_ushiftRight, toNat_held]

theorem held_rotr (x : BitVec 32) (n : ℕ) : held (Sha256.rotr x n) = rotr (held x) n := by
  have hright : (held x >>> n).setWidth 32 = x >>> n := by
    have hshr := congrArg (BitVec.setWidth 32) (held_shr x n)
    rwa [setWidth_held, shr, eq_comm] at hshr
  have hleft : ∀ m : ℕ, (held x <<< m).setWidth 32 = x <<< m := by
    intro m
    apply BitVec.eq_of_toNat_eq
    rw [BitVec.toNat_setWidth, BitVec.toNat_shiftLeft, BitVec.toNat_shiftLeft, toNat_held]
    exact Nat.mod_mod_of_dvd _ (by decide)
  rw [rotr, mask32Bit_eq, BitVec.setWidth_or, hright, hleft]
  rfl

theorem held_ch (x y z : BitVec 32) : held (Sha256.ch x y z) = ch (held x) (held y) (held z) := by
  have hnot : held (~~~x &&& z) = ~~~held x &&& held z := by
    apply BitVec.eq_of_getLsbD_eq
    intro i hi
    simp only [held, BitVec.getLsbD_setWidth, BitVec.getLsbD_and, BitVec.getLsbD_not, hi]
    by_cases h32 : i < 32
    · simp [h32]
    · have hz : z.getLsbD i = false := BitVec.getLsbD_of_ge z i (by omega)
      simp [hz]
  rw [Sha256.ch, held_xor, held_and, hnot]
  rfl

theorem held_maj (x y z : BitVec 32) :
    held (Sha256.maj x y z) = maj (held x) (held y) (held z) := by
  simp only [Sha256.maj, held_xor, held_and]
  rfl

theorem held_bigSigma0 (x : BitVec 32) : held (Sha256.bigSigma0 x) = bsig0 (held x) := by
  simp only [Sha256.bigSigma0, held_xor, held_rotr]
  rfl

theorem held_bigSigma1 (x : BitVec 32) : held (Sha256.bigSigma1 x) = bsig1 (held x) := by
  simp only [Sha256.bigSigma1, held_xor, held_rotr]
  rfl

theorem held_smallSigma0 (x : BitVec 32) : held (Sha256.smallSigma0 x) = ssig0 (held x) := by
  simp only [Sha256.smallSigma0, held_xor, held_rotr, held_shr]
  rfl

theorem held_smallSigma1 (x : BitVec 32) : held (Sha256.smallSigma1 x) = ssig1 (held x) := by
  simp only [Sha256.smallSigma1, held_xor, held_rotr, held_shr]
  rfl

theorem setWidth_add (x y : Word) : (x + y).setWidth 32 = x.setWidth 32 + y.setWidth 32 :=
  BitVec.setWidth_add x y (by decide)

/-! ## Blocks -/

/-- The table is the standard's. -/
theorem addConstant_eq : addConstant = Sha256.k.map held := by decide +kernel

theorem initialMessageDigest_eq : initialMessageDigest = Sha256.initial.map held := by
  decide +kernel

theorem mask8Bit_eq (x : UInt8) : mask8Bit x = x := by
  apply UInt8.toNat_inj.mp
  show x.toNat &&& (2 ^ 8 - 1) = x.toNat
  rw [Nat.and_two_pow_sub_one_eq_mod]
  exact Nat.mod_eq_of_lt x.toNat_lt

theorem toNat_ofByte (x : UInt8) : (ofByte x).toNat = x.toNat := by
  have := x.toNat_lt
  rw [ofByte, mask8Bit_eq, BitVec.toNat_ofNat]
  omega

theorem toNat_ofByte_shl (x : UInt8) {n : ℕ} (hn : n ≤ 24) :
    (ofByte x <<< n).toNat = x.toNat <<< n := by
  have hx := x.toNat_lt
  have hpow : 2 ^ n ≤ 2 ^ 24 := Nat.pow_le_pow_right (by decide) hn
  rw [BitVec.toNat_shiftLeft, toNat_ofByte, Nat.shiftLeft_eq]
  apply Nat.mod_eq_of_lt
  calc x.toNat * 2 ^ n < 2 ^ 8 * 2 ^ n := Nat.mul_lt_mul_of_pos_right hx (Nat.two_pow_pos n)
    _ ≤ 2 ^ 8 * 2 ^ 24 := Nat.mul_le_mul_left _ hpow
    _ ≤ 2 ^ 64 := by decide

/-- Four bytes side by side. -/
theorem or_bytes {a b c d : ℕ} (hb : b < 256) (hc : c < 256) (hd : d < 256) :
    a <<< 24 ||| b <<< 16 ||| c <<< 8 ||| d = ((a * 256 + b) * 256 + c) * 256 + d := by
  have hbyte : ∀ x {y : ℕ}, y < 256 → x <<< 8 ||| y = x * 256 + y := by
    intro x y hy
    rw [← Nat.shiftLeft_add_eq_or_of_lt hy, Nat.shiftLeft_eq]
  have h24 : a <<< 24 = (a <<< 8) <<< 16 := (Nat.shiftLeft_add a 8 16)
  have h16 : (a * 256 + b) <<< 16 = ((a * 256 + b) <<< 8) <<< 8 := (Nat.shiftLeft_add _ 8 8)
  rw [h24, ← Nat.shiftLeft_or_distrib, hbyte a hb, h16, ← Nat.shiftLeft_or_distrib, hbyte _ hc,
    hbyte _ hd]

theorem blockWord_eq (block : List UInt8) (i : ℕ) :
    blockWord block i = held (Sha256.word block i) := by
  apply BitVec.eq_of_toNat_eq
  have hlt : ∀ n, (block.getD n 0).toNat < 256 := fun n => (block.getD n 0).toNat_lt
  have h0 := hlt (4 * i)
  have h1 := hlt (4 * i + 1)
  have h2 := hlt (4 * i + 2)
  have h3 := hlt (4 * i + 3)
  rw [toNat_held, Sha256.word, BitVec.toNat_ofNat, blockWord, Nat.mul_comm i 4]
  simp only [BitVec.toNat_or, toNat_ofByte_shl _ (Nat.le_refl 24),
    toNat_ofByte_shl _ (by decide : 16 ≤ 24), toNat_ofByte_shl _ (by decide : 8 ≤ 24), toNat_ofByte]
  rw [or_bytes h1 h2 h3]
  omega

theorem getD_map_held (ws : List (BitVec 32)) (i : ℕ) :
    (ws.map held).getD i 0 = held (ws.getD i 0) := by
  rw [List.getD_eq_getElem?_getD, List.getD_eq_getElem?_getD, List.getElem?_map]
  cases ws[i]? <;> rfl

theorem semiconj_extend : Function.Semiconj (List.map held) Sha256.extend extend := by
  intro ws
  rw [Sha256.extend, extend, List.map_append, List.map_singleton, List.length_map]
  simp only [getD_map_held, mask32Bit_eq, setWidth_add, ← held_smallSigma0, ← held_smallSigma1,
    setWidth_held]

theorem schedule_eq (block : List UInt8) : schedule block = (Sha256.schedule block).map held := by
  have hwords : (List.range 16).map (blockWord block) =
      ((List.range 16).map (Sha256.word block)).map held := by
    rw [List.map_map]
    exact List.map_congr_left fun i _ => blockWord_eq block i
  rw [schedule, hwords, ← semiconj_extend.iterate_right 48]
  rfl

theorem round_eq (v : Vars 32) (kw : BitVec 32 × BitVec 32) :
    round (v.map held) (kw.map held held) = (Sha256.round v kw).map held := by
  unfold round Sha256.round
  simp only [Vars.map, Prod.map, mask32Bit_eq, setWidth_add, ← held_bigSigma0, ← held_bigSigma1,
    ← held_ch, ← held_maj, setWidth_held]

theorem rounds_eq (kws : List (BitVec 32 × BitVec 32)) (v : Vars 32) :
    (kws.map (Prod.map held held)).foldl round (v.map held) =
      (kws.foldl Sha256.round v).map held := by
  induction kws generalizing v with
  | nil => rfl
  | cons kw kws ih => rw [List.map_cons, List.foldl_cons, List.foldl_cons, round_eq, ih]

/-- **The masks come often enough**: a block in 64 bits is a block in 32. -/
theorem hash256Block_eq (h : Vars 32) (block : List UInt8) :
    hash256Block (h.map held) block = (Sha256.compress h block).map held := by
  have hzip : addConstant.zip (schedule block) =
      (Sha256.k.zip (Sha256.schedule block)).map (Prod.map held held) := by
    rw [addConstant_eq, schedule_eq, List.zip_map]
  unfold hash256Block Sha256.compress
  rw [hzip, rounds_eq]
  simp only [Vars.map, mask32Bit_eq, setWidth_add, setWidth_held]

theorem feed_eq (n k : ℕ) (h : Vars 32) (l : List UInt8) :
    BlockStream.feed n hash256Block k (h.map held) l =
      (BlockStream.feed n Sha256.compress k h l).map held := by
  induction k generalizing h l with
  | zero => rfl
  | succ k ih => rw [BlockStream.feed, BlockStream.feed, hash256Block_eq, ih]

/-! ## The length -/

/-- The lowest digits of a number. -/
def DigitsOf : ℕ → List ℕ → Prop
  | _, [] => True
  | value, d :: digits => d = value % 65536 ∧ DigitsOf (value / 65536) digits

theorem and_mask (x : ℕ) : x &&& 65535 = x % 65536 := Nat.and_two_pow_sub_one_eq_mod x 16

theorem DigitsOf.addCarry {value : ℕ} {digits : List ℕ} (h : DigitsOf value digits) (carry : ℕ) :
    DigitsOf (value + carry) (addCarry carry digits) := by
  induction digits generalizing value carry with
  | nil => trivial
  | cons d digits ih =>
    obtain ⟨rfl, hrest⟩ := h
    rw [Picosha2.addCarry]
    by_cases hge : 65536 ≤ value % 65536 + carry
    · rw [if_pos hge, and_mask, Nat.shiftRight_eq_div_pow]
      refine ⟨by omega, ?_⟩
      have hnext : (value + carry) / 65536 =
          value / 65536 + (value % 65536 + carry) / 2 ^ 16 := by omega
      rw [hnext]
      exact ih hrest _
    · rw [if_neg hge]
      refine ⟨by omega, ?_⟩
      have hnext : (value + carry) / 65536 = value / 65536 := by omega
      rw [hnext]
      exact hrest

theorem DigitsOf.addToDataLength {value : ℕ} {digits : List ℕ} (h : DigitsOf value digits)
    (n : ℕ) : DigitsOf (value + n) (addToDataLength n digits) := by
  cases digits with
  | nil => trivial
  | cons d digits => exact h.addCarry n

theorem length_addCarry (carry : ℕ) (digits : List ℕ) :
    (addCarry carry digits).length = digits.length := by
  induction digits generalizing carry with
  | nil => rfl
  | cons d digits ih =>
    rw [addCarry]
    split
    · rw [List.length_cons, List.length_cons, ih]
    · rfl

theorem length_addToDataLength (n : ℕ) (digits : List ℕ) :
    (addToDataLength n digits).length = digits.length := by
  cases digits with
  | nil => rfl
  | cons d digits => exact length_addCarry 0 ((d + n) :: digits)

theorem DigitsOf.bitLengthDigits {value : ℕ} {digits : List ℕ} (h : DigitsOf value digits)
    {carry : ℕ} (hcarry : carry < 8) :
    DigitsOf (8 * value + carry) (bitLengthDigits carry digits) := by
  induction digits generalizing value carry with
  | nil => trivial
  | cons d digits ih =>
    obtain ⟨rfl, hrest⟩ := h
    have hor : (value % 65536) <<< 3 ||| carry = value % 65536 * 8 + carry := by
      rw [← Nat.shiftLeft_add_eq_or_of_lt hcarry, Nat.shiftLeft_eq]
    rw [Picosha2.bitLengthDigits, hor, and_mask, and_mask, Nat.shiftRight_eq_div_pow]
    refine ⟨by omega, ?_⟩
    have hnext : (8 * value + carry) / 65536 =
        8 * (value / 65536) + value % 65536 / 2 ^ 13 % 65536 := by omega
    rw [hnext]
    exact ih hrest (by omega)

theorem length_bitLengthDigits (carry : ℕ) (digits : List ℕ) :
    (bitLengthDigits carry digits).length = digits.length := by
  induction digits generalizing carry with
  | nil => rfl
  | cons d digits ih => rw [bitLengthDigits, List.length_cons, List.length_cons, ih]

theorem ofNat_congr {x y : ℕ} (h : x % 256 = y % 256) : UInt8.ofNat x = UInt8.ofNat y := by
  apply UInt8.toNat_inj.mp
  rw [UInt8.toNat_ofNat', UInt8.toNat_ofNat']
  exact h

/-- The eight bytes of the length. -/
theorem dataBitLength_eq {length : ℕ} {digits : List ℕ} (hfour : digits.length = 4)
    (h : DigitsOf length digits) : dataBitLength digits = Sha256.lengthBytes length := by
  have hbits := h.bitLengthDigits (by decide : 0 < 8)
  have hlength := (length_bitLengthDigits 0 digits).trans hfour
  unfold dataBitLength
  generalize Picosha2.bitLengthDigits 0 digits = bits at hbits hlength
  match bits, hlength with
  | [d0, d1, d2, d3], _ =>
    obtain ⟨h0, h1, h2, h3, -⟩ := hbits
    rw [Nat.add_zero] at h0 h1 h2 h3
    show [_, _, _, _, _, _, _, _] = [_, _, _, _, _, _, _, _]
    simp only [Nat.shiftRight_eq_div_pow, List.cons.injEq, and_true]
    refine ⟨?_, ?_, ?_, ?_, ?_, ?_, ?_, ?_⟩
    all_goals
      apply ofNat_congr
      omega

/-! ## The last block -/

theorem length_fillZero (temp : List UInt8) (first last : ℕ) :
    (fillZero temp first last).length = temp.length := List.length_mapIdx

theorem getElem_fillZero {temp : List UInt8} {first last i : ℕ}
    (h : i < (fillZero temp first last).length) :
    (fillZero temp first last)[i] = if first ≤ i ∧ i < last then 0 else
      temp.get ⟨i, Nat.lt_of_lt_of_eq h (length_fillZero temp first last)⟩ :=
  List.getElem_mapIdx

/-- Zeros that are there already. -/
theorem fillZero_of_zero {temp : List UInt8} {first last : ℕ}
    (h : ∀ x ∈ temp.drop first, x = 0) : fillZero temp first last = temp := by
  apply List.ext_getElem (length_fillZero _ _ _)
  intro i hi hi'
  rw [getElem_fillZero]
  split
  · rename_i hbetween
    have hdrop : i - first < (temp.drop first).length := by
      rw [List.length_drop]
      omega
    have hzero := h _ (List.getElem_mem hdrop)
    rw [List.getElem_drop] at hzero
    simp only [Nat.add_sub_cancel' hbetween.1] at hzero
    exact hzero.symm
  · rfl

theorem take_fillZero {temp : List UInt8} {n last : ℕ} (hn : n ≤ last) (hlen : n ≤ temp.length) :
    (fillZero temp 0 last).take n = List.replicate n 0 := by
  rw [List.eq_replicate_iff]
  refine ⟨?_, fun x hx => ?_⟩
  · rw [List.length_take, length_fillZero]
    omega
  · obtain ⟨i, hi, rfl⟩ := List.getElem_of_mem hx
    rw [List.length_take] at hi
    rw [List.getElem_take, getElem_fillZero, if_pos (by omega)]

/-- The end bit behind what waits in the buffer. -/
theorem set_remains {buffer : List UInt8} (h : buffer.length < 64) :
    (buffer ++ (List.replicate 64 0).drop buffer.length).set buffer.length 0x80 =
      buffer ++ 0x80 :: List.replicate (63 - buffer.length) 0 := by
  rw [List.drop_replicate, List.set_append_right _ _ (Nat.le_refl _), Nat.sub_self]
  have hsucc : 64 - buffer.length = (63 - buffer.length) + 1 := by omega
  rw [hsucc, List.replicate_succ, List.set_cons_zero]

/-- **The last block is the standard's**: what `finish` does in place is to take in the padding. -/
theorem finish_eq {s : Hasher} (h : s.buffer.length < 64)
    (hbits : (dataBitLength s.dataLengthDigits).length = 8) :
    finish s = (BlockStream.absorb 64 hash256Block ⟨s.h, s.buffer⟩
      (0x80 :: (List.replicate ((119 - s.buffer.length) % 64) 0 ++
        dataBitLength s.dataLengthDigits))).state := by
  have hzeros : ∀ {k : ℕ}, ∀ x ∈ (s.buffer ++ 0x80 :: List.replicate k 0).drop
      (s.buffer.length + 1), x = (0 : UInt8) := by
    intro k x hx
    rw [← List.drop_drop, List.drop_left, List.drop_succ_cons, List.drop_zero] at hx
    exact List.eq_of_mem_replicate hx
  unfold finish BlockStream.absorb
  simp only [set_remains h, fillZero_of_zero hzeros]
  by_cases hmany : 55 < s.buffer.length
  · -- the length does not fit: a block with the end bit, and one with zeros and the length
    have hpad : (119 - s.buffer.length) % 64 = (63 - s.buffer.length) + 56 := by omega
    have hfirst : (s.buffer ++ 0x80 :: List.replicate (63 - s.buffer.length) 0).length = 64 := by
      rw [List.length_append, List.length_cons, List.length_replicate]
      omega
    have hsplit : s.buffer ++ (0x80 :: (List.replicate ((119 - s.buffer.length) % 64) 0 ++
        dataBitLength s.dataLengthDigits)) =
        (s.buffer ++ 0x80 :: List.replicate (63 - s.buffer.length) 0) ++
          (List.replicate 56 0 ++ dataBitLength s.dataLengthDigits) := by
      rw [hpad, List.replicate_add, List.append_assoc, List.append_assoc, List.cons_append]
    have hsecond : (List.replicate 56 0 ++ dataBitLength s.dataLengthDigits).length = 64 := by
      rw [List.length_append, List.length_replicate, hbits]
    rw [if_pos hmany, hsplit, List.length_append, hfirst, hsecond,
      take_fillZero (by decide) (by omega)]
    show _ = hash256Block (hash256Block s.h _) _
    rw [List.take_left' hfirst, List.drop_left' hfirst, List.take_of_length_le hsecond.le]
  · have hpad : (119 - s.buffer.length) % 64 = 55 - s.buffer.length := by omega
    have hzeros' : 63 - s.buffer.length = (55 - s.buffer.length) + 8 := by omega
    have hhead : (s.buffer ++ 0x80 :: List.replicate (55 - s.buffer.length) 0).length = 56 := by
      rw [List.length_append, List.length_cons, List.length_replicate]
      omega
    have htake : (s.buffer ++ 0x80 :: List.replicate (63 - s.buffer.length) 0).take 56 =
        s.buffer ++ 0x80 :: List.replicate (55 - s.buffer.length) 0 := by
      rw [hzeros', List.replicate_add, ← List.cons_append, ← List.append_assoc]
      exact List.take_left' hhead
    have hblock : (s.buffer ++ (0x80 :: (List.replicate (55 - s.buffer.length) 0 ++
        dataBitLength s.dataLengthDigits))).length = 64 := by
      rw [← List.cons_append, ← List.append_assoc, List.length_append, hhead, hbits]
    rw [if_neg hmany, hpad, hblock, htake, List.append_assoc, List.cons_append]
    show _ = hash256Block s.h _
    rw [List.take_of_length_le hblock.le]

/-! ## Whole messages -/

/-- The hasher has taken in the message. -/
structure Holds (message : List UInt8) (s : Hasher) : Prop where
  absorbed : BlockStream.Absorbed 64 hash256Block initialMessageDigest message ⟨s.h, s.buffer⟩
  four : s.dataLengthDigits.length = 4
  digits : DigitsOf message.length s.dataLengthDigits

theorem Holds.init : Holds [] {} where
  absorbed := BlockStream.Absorbed.init _ _ _
  four := rfl
  digits := ⟨rfl, rfl, rfl, rfl, trivial⟩

theorem Holds.process {message : List UInt8} {s : Hasher} (h : Holds message s)
    (chunk : List UInt8) : Holds (message ++ chunk) (process s chunk) where
  absorbed := h.absorbed.absorb (by decide) chunk
  four := (length_addToDataLength _ _).trans h.four
  digits := by
    rw [List.length_append]
    exact h.digits.addToDataLength chunk.length

theorem Holds.foldl {message : List UInt8} {s : Hasher} (h : Holds message s)
    (chunks : List (List UInt8)) :
    Holds (message ++ chunks.flatten) (chunks.foldl Picosha2.process s) := by
  induction chunks generalizing message s with
  | nil =>
    rw [List.flatten_nil, List.append_nil]
    exact h
  | cons chunk chunks ih =>
    rw [List.flatten_cons, ← List.append_assoc]
    exact ih (h.process chunk)

theorem Holds.finish {message : List UInt8} {s : Hasher} (h : Holds message s) :
    finish s = (Sha256.digest message).map held := by
  have hbits := dataBitLength_eq h.four h.digits
  have hrest : s.buffer.length = message.length % 64 := h.absorbed.length_rest
  have hpadded := (h.absorbed.absorb (by decide) (0x80 :: (List.replicate
    ((119 - s.buffer.length) % 64) 0 ++ dataBitLength s.dataLengthDigits))).state
  have hlt : s.buffer.length < 64 := by omega
  have height : (dataBitLength s.dataLengthDigits).length = 8 := by
    rw [hbits, Sha256.length_lengthBytes]
  rw [finish_eq hlt height, hpadded, hbits, hrest, initialMessageDigest_eq, feed_eq]
  rfl

/-! ## Bytes -/

theorem hashBytes_held (h : Vars 32) :
    hashBytes (h.map held) = h.toList.flatMap Sha256.wordBytes := by
  have hword : ∀ x : BitVec 32, ((List.range 4).map fun i =>
      mask8Bit (UInt8.ofNat (held x >>> (24 - 8 * i)).toNat)) = Sha256.wordBytes x := by
    intro x
    apply List.map_congr_left
    intro i hi
    have hi : i < 4 := List.mem_range.mp hi
    have hpow : 2 ^ (24 - 8 * i) = 256 ^ (3 - i) := by
      rw [show 256 = 2 ^ 8 from rfl, ← Nat.pow_mul, Nat.mul_sub]
    rw [mask8Bit_eq, BitVec.toNat_ushiftRight, toNat_held, Nat.shiftRight_eq_div_pow, hpow]
  rw [hashBytes]
  simp only [Vars.toList, Vars.map, List.flatMap_cons, List.flatMap_nil, hword]

theorem Holds.hash {message : List UInt8} {s : Hasher} (h : Holds message s) :
    hashBytes (Picosha2.finish s) = Sha256.hash message := by
  rw [h.finish, hashBytes_held]
  rfl

/-- The buffers of a stream, one behind the other, are the stream. -/
theorem flatten_streamBuffers {bufferSize : ℕ} (hpos : 0 < bufferSize) {fuel : ℕ}
    {data : List UInt8} (hfuel : data.length ≤ fuel) :
    (streamBuffers bufferSize fuel data).flatten = data := by
  induction fuel generalizing data with
  | zero => rw [List.eq_nil_of_length_eq_zero (Nat.le_zero.mp hfuel)]; rfl
  | succ fuel ih =>
    cases data with
    | nil => rfl
    | cons x data =>
      have hrest : ((x :: data).drop bufferSize).length ≤ fuel := by
        rw [List.length_drop]
        omega
      show ((x :: data).take bufferSize ++ (streamBuffers bufferSize fuel _).flatten) = _
      rw [ih hrest, List.take_append_drop]

theorem hash256_eq (data : List UInt8) : hash256 data = Sha256.hash data :=
  (Holds.init.process data).hash

theorem hash256Stream_eq (data : List UInt8) : hash256Stream data = Sha256.hash data := by
  have hall := (Holds.init.foldl (streamBuffers kBufferSize data.length data)).hash
  rw [List.nil_append, flatten_streamBuffers (by decide) (Nat.le_refl _)] at hall
  exact hall

/-- **The hash that names an engine file is SHA-256**, for every message: however the bytes come in
chunks, from memory in one piece or from a file a buffer at a time, the hash of what has come is
that of the standard. -/
theorem picosha2_streams :
    (∀ chunks : List (List UInt8), hashBytes (finish (chunks.foldl process {})) =
      Sha256.hash chunks.flatten) ∧
      (∀ data, hash256 data = Sha256.hash data) ∧ ∀ data, hash256Stream data = Sha256.hash data :=
  ⟨fun chunks => (Holds.init.foldl chunks).hash, hash256_eq, hash256Stream_eq⟩

/-! ## Hex strings -/

def hexDigit (n : ℕ) : UInt8 := UInt8.ofNat (if n < 10 then 0x30 + n else 0x57 + n)

def outputHex (bytes : List UInt8) : List UInt8 :=
  bytes.flatMap fun x => [hexDigit (x.toNat / 16), hexDigit (x.toNat % 16)]

def hash256HexString (data : List UInt8) : List UInt8 := outputHex (hash256 data)

/-- `hash256_hex_string` over the iterators of a stream. -/
def hash256HexStringStream (data : List UInt8) : List UInt8 := outputHex (hash256Stream data)

theorem hash256HexStringStream_eq (data : List UInt8) :
    hash256HexStringStream data = hash256HexString data := by
  rw [hash256HexStringStream, hash256HexString, hash256Stream_eq, hash256_eq]

theorem toNat_hexDigit {n : ℕ} (h : n < 16) :
    (hexDigit n).toNat = if n < 10 then 0x30 + n else 0x57 + n := by
  rw [hexDigit, UInt8.toNat_ofNat']
  split <;> omega

theorem hexDigit_injective {m n : ℕ} (hm : m < 16) (hn : n < 16) (h : hexDigit m = hexDigit n) :
    m = n := by
  have hnat := congrArg UInt8.toNat h
  rw [toNat_hexDigit hm, toNat_hexDigit hn] at hnat
  split at hnat <;> split at hnat <;> omega

theorem outputHex_injective : Function.Injective outputHex := by
  intro xs
  induction xs with
  | nil =>
    intro ys h
    cases ys with
    | nil => rfl
    | cons y ys => cases h
  | cons x xs ih =>
    intro ys h
    cases ys with
    | nil => cases h
    | cons y ys =>
      have hx := x.toNat_lt
      have hy := y.toNat_lt
      obtain ⟨hhigh, hrest⟩ := List.cons.inj h
      obtain ⟨hlow, htail⟩ := List.cons.inj hrest
      have hdiv := hexDigit_injective (by omega) (by omega) hhigh
      have hmod := hexDigit_injective (Nat.mod_lt _ (by decide)) (Nat.mod_lt _ (by decide)) hlow
      have hnat : x.toNat = y.toNat := by omega
      rw [UInt8.toNat_inj.mp hnat, ih htail]

/-- No hex digit is the zero byte. -/
theorem zero_notMem_outputHex (bytes : List UInt8) : 0 ∉ outputHex bytes := by
  intro h
  obtain ⟨x, -, hx⟩ := List.mem_flatMap.mp h
  have hlt := x.toNat_lt
  have hdigit : ∀ {n : ℕ}, n < 16 → 0 ≠ hexDigit n := by
    intro n hn hzero
    have hnat := congrArg UInt8.toNat hzero
    rw [toNat_hexDigit hn] at hnat
    split at hnat <;> exact absurd hnat (by simp; omega)
  simp only [List.mem_cons, List.not_mem_nil, or_false] at hx
  rcases hx with hx | hx
  · exact hdigit (by omega) hx
  · exact hdigit (Nat.mod_lt _ (by decide)) hx

theorem length_hash256HexString (data : List UInt8) : (hash256HexString data).length = 64 := by
  rw [hash256HexString, hash256_eq]
  have hlength := Sha256.length_hash data
  generalize Sha256.hash data = bytes at hlength
  have hpairs : ∀ bytes : List UInt8, (outputHex bytes).length = 2 * bytes.length := by
    intro bytes
    induction bytes with
    | nil => rfl
    | cons x bytes ih =>
      show (outputHex bytes).length + 2 = _
      rw [ih, List.length_cons]
      omega
  rw [hpairs, hlength]

/-- Two hex strings are the same only where the hashes are. -/
theorem hash256HexString_inj {x y : List UInt8} (h : hash256HexString x = hash256HexString y) :
    Sha256.hash x = Sha256.hash y := by
  rw [← hash256_eq, ← hash256_eq]
  exact outputHex_injective h

end Picosha2

end Gearsonic
