import Gearsonic.Numeric.BlockStream
import Mathlib.Data.BitVec

/-!
# SHA-256

The hash of FIPS 180-4 over bytes, in words of 32 bits: the padded message is folded in blocks of
64 bytes. A message of 2^61 bytes or more, which the standard leaves out, has its length taken
modulo 2^64 bits.
-/

namespace Sha256

/-- The eight words of a digest, or of a round. -/
@[ext] structure Vars (w : ℕ) where
  a : BitVec w
  b : BitVec w
  c : BitVec w
  d : BitVec w
  e : BitVec w
  f : BitVec w
  g : BitVec w
  h : BitVec w
deriving DecidableEq

def Vars.map {v w : ℕ} (z : BitVec v → BitVec w) (x : Vars v) : Vars w :=
  ⟨z x.a, z x.b, z x.c, z x.d, z x.e, z x.f, z x.g, z x.h⟩

def Vars.toList {w : ℕ} (x : Vars w) : List (BitVec w) := [x.a, x.b, x.c, x.d, x.e, x.f, x.g, x.h]

/-! ## Functions of words -/

def rotr (x : BitVec 32) (n : ℕ) : BitVec 32 := x >>> n ||| x <<< (32 - n)

def ch (x y z : BitVec 32) : BitVec 32 := (x &&& y) ^^^ (~~~x &&& z)

def maj (x y z : BitVec 32) : BitVec 32 := (x &&& y) ^^^ (x &&& z) ^^^ (y &&& z)

def bigSigma0 (x : BitVec 32) : BitVec 32 := rotr x 2 ^^^ rotr x 13 ^^^ rotr x 22

def bigSigma1 (x : BitVec 32) : BitVec 32 := rotr x 6 ^^^ rotr x 11 ^^^ rotr x 25

def smallSigma0 (x : BitVec 32) : BitVec 32 := rotr x 7 ^^^ rotr x 18 ^^^ x >>> 3

def smallSigma1 (x : BitVec 32) : BitVec 32 := rotr x 17 ^^^ rotr x 19 ^^^ x >>> 10

/-! ## Constants -/

def primes : List ℕ :=
  [2, 3, 5, 7, 11, 13, 17, 19, 23, 29, 31, 37, 41, 43, 47, 53, 59, 61, 67, 71, 73, 79, 83, 89, 97,
    101, 103, 107, 109, 113, 127, 131, 137, 139, 149, 151, 157, 163, 167, 173, 179, 181, 191, 193,
    197, 199, 211, 223, 227, 229, 233, 239, 241, 251, 257, 263, 269, 271, 277, 281, 283, 293, 307,
    311]

/-- The largest `r < 2^bits` whose power is at most `x`. -/
def rootBelow (power x : ℕ) : ℕ → ℕ
  | 0 => 0
  | bits + 1 =>
    let r := 2 * rootBelow power (x / 2 ^ power) bits
    if (r + 1) ^ power ≤ x then r + 1 else r

/-- The first 32 bits of the fractional parts of the cube roots of the first 64 primes. -/
def k : List (BitVec 32) := primes.map fun p => BitVec.ofNat 32 (rootBelow 3 (p * 2 ^ 96) 36)

/-- The same of the square roots of the first eight. -/
def initial : Vars 32 :=
  let root p := BitVec.ofNat 32 (rootBelow 2 (p * 2 ^ 64) 36)
  ⟨root 2, root 3, root 5, root 7, root 11, root 13, root 17, root 19⟩

/-! ## Blocks -/

def word (block : List UInt8) (i : ℕ) : BitVec 32 :=
  BitVec.ofNat 32 ((((block.getD (4 * i) 0).toNat * 256 + (block.getD (4 * i + 1) 0).toNat) * 256 +
    (block.getD (4 * i + 2) 0).toNat) * 256 + (block.getD (4 * i + 3) 0).toNat)

/-- One more word of the schedule. -/
def extend (ws : List (BitVec 32)) : List (BitVec 32) :=
  ws ++ [smallSigma1 (ws.getD (ws.length - 2) 0) + ws.getD (ws.length - 7) 0 +
    smallSigma0 (ws.getD (ws.length - 15) 0) + ws.getD (ws.length - 16) 0]

def schedule (block : List UInt8) : List (BitVec 32) :=
  extend^[48] ((List.range 16).map (word block))

def round (v : Vars 32) (kw : BitVec 32 × BitVec 32) : Vars 32 :=
  let t1 := v.h + bigSigma1 v.e + ch v.e v.f v.g + kw.1 + kw.2
  let t2 := bigSigma0 v.a + maj v.a v.b v.c
  ⟨t1 + t2, v.a, v.b, v.c, v.d + t1, v.e, v.f, v.g⟩

def compress (h : Vars 32) (block : List UInt8) : Vars 32 :=
  let v := (k.zip (schedule block)).foldl round h
  ⟨h.a + v.a, h.b + v.b, h.c + v.c, h.d + v.d, h.e + v.e, h.f + v.f, h.g + v.g, h.h + v.h⟩

/-! ## Messages -/

/-- The length in bits, as eight bytes. -/
def lengthBytes (length : ℕ) : List UInt8 :=
  (List.range 8).map fun i => UInt8.ofNat (8 * length / 256 ^ (7 - i))

def pad (message : List UInt8) : List UInt8 :=
  message ++ (0x80 :: (List.replicate ((119 - message.length % 64) % 64) 0 ++
    lengthBytes message.length))

def digest (message : List UInt8) : Vars 32 :=
  BlockStream.feed 64 compress ((pad message).length / 64) initial (pad message)

def wordBytes (x : BitVec 32) : List UInt8 :=
  (List.range 4).map fun i => UInt8.ofNat (x.toNat / 256 ^ (3 - i))

def hash (message : List UInt8) : List UInt8 := (digest message).toList.flatMap wordBytes

@[simp] theorem length_lengthBytes (length : ℕ) : (lengthBytes length).length = 8 := by
  simp [lengthBytes]

theorem length_hash (message : List UInt8) : (hash message).length = 32 := by
  simp [hash, Vars.toList, wordBytes]

/-- The message `abc`. -/
example : (hash [0x61, 0x62, 0x63]).take 4 = [0xba, 0x78, 0x16, 0xbf] := by decide +kernel

end Sha256
