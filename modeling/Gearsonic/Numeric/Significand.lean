import Mathlib.Algebra.Order.Field.Power
import Mathlib.Algebra.Order.Floor.Ring
import Mathlib.Data.Int.Log
import Mathlib.Tactic.Linarith
import Mathlib.Tactic.NormNum
import Mathlib.Tactic.Ring

/-!
# Rounding to a significand

The numbers with a significand of `p` bits are the `m * 2 ^ e` with `|m| < 2 ^ p`, at any
exponent. `Nearest p x v` says that `v` is one of them, and that none of them is nearer to `x`. Ties
may go either way.

* `Nearest.eq_of_fits`: a number that fits is rounded to itself.
* `fits_natCast_iff`: the naturals that fit.
* `eq_of_nearest`: a natural below `2 ^ p` shares its rounding with no other one.
* `exists_shared`: one that does not fit shares it with another one of the same width.
* `roundSignificand_nearest`: rounding half to even is to nearest.
-/

set_option linter.unusedSectionVars false

namespace Significand

variable {K : Type*} [Field K] [LinearOrder K] [IsStrictOrderedRing K] {p : Nat}

local instance atLeastTwo_two : Nat.AtLeastTwo 2 := ⟨le_rfl⟩
local instance atLeastTwo_four : Nat.AtLeastTwo 4 := ⟨by decide⟩

/-- A number with a significand of at most `p` bits. -/
def Fits (p : Nat) (x : K) : Prop := ∃ m e : ℤ, |m| < 2 ^ p ∧ x = m * 2 ^ e

/-- `v` is a number with a significand of `p` bits that is nearest to `x`. -/
structure Nearest (p : Nat) (x v : K) : Prop where
  fits : Fits p v
  le : ∀ y, Fits p y → |v - x| ≤ |y - x|

/-! ## Numbers that fit -/

theorem fits_intCast {m : ℤ} (h : |m| < 2 ^ p) : Fits p (m : K) :=
  ⟨m, 0, h, by rw [zpow_zero, mul_one]⟩

theorem Fits.mul_zpow {x : K} (h : Fits p x) (k : ℤ) : Fits p (x * 2 ^ k) := by
  obtain ⟨m, e, hm, rfl⟩ := h
  refine ⟨m, e + k, hm, ?_⟩
  rw [mul_assoc, ← zpow_add₀ two_ne_zero]

theorem Fits.neg {x : K} (h : Fits p x) : Fits p (-x) := by
  obtain ⟨m, e, hm, rfl⟩ := h
  refine ⟨-m, e, by rwa [abs_neg], ?_⟩
  rw [Int.cast_neg, neg_mul]

theorem fits_two_zpow (hp : 0 < p) (k : ℤ) : Fits p (2 ^ k : K) := by
  have hone : |(1 : ℤ)| < 2 ^ p := by
    rw [abs_one]
    exact one_lt_pow₀ one_lt_two hp.ne'
  simpa using (fits_intCast (K := K) hone).mul_zpow k

theorem fits_natCast_of_lt {n : Nat} (h : n < 2 ^ p) : Fits p (n : K) := by
  have hint : |(n : ℤ)| < 2 ^ p := by
    rw [abs_of_nonneg (Int.natCast_nonneg n)]
    exact_mod_cast h
  simpa using fits_intCast (K := K) hint

/-- From `2 ^ l` on a number that fits is a multiple of a power of two. -/
theorem Fits.exists_mul {x : K} (h : Fits p x) {l : ℤ} (hl : 2 ^ l ≤ |x|) :
    ∃ z : ℤ, x = z * 2 ^ (l + 1 - p) := by
  obtain ⟨m, e, hm, rfl⟩ := h
  have hpos : (0 : K) < 2 ^ e := zpow_pos two_pos e
  have hmK : |(m : K)| < 2 ^ (p : ℤ) := by
    rw [zpow_natCast]
    exact_mod_cast hm
  have hlt : (2 : K) ^ l < 2 ^ (p + e) := by
    calc (2 : K) ^ l ≤ |(m : K)| * 2 ^ e := by rwa [abs_mul, abs_of_pos hpos] at hl
      _ < 2 ^ (p : ℤ) * 2 ^ e := mul_lt_mul_of_pos_right hmK hpos
      _ = 2 ^ (p + e) := (zpow_add₀ two_ne_zero _ _).symm
  have hexp : l < p + e := (zpow_lt_zpow_iff_right₀ one_lt_two).mp hlt
  obtain ⟨k, hk⟩ := Int.le.dest (show l + 1 - p ≤ e by omega)
  refine ⟨m * 2 ^ k, ?_⟩
  rw [← hk, zpow_add₀ two_ne_zero, zpow_natCast]
  push_cast
  ring

/-- The naturals that fit: from the first digit to the last that is set there are at most `p`
binary places. -/
theorem fits_natCast_iff {n : Nat} :
    Fits p (n : K) ↔ ∃ m k : Nat, m < 2 ^ p ∧ n = m * 2 ^ k := by
  constructor
  · rintro ⟨m, e, hm, hx⟩
    rcases le_total 0 e with he | he
    · obtain ⟨k, rfl⟩ := Int.eq_ofNat_of_zero_le he
      have hcast : (n : ℤ) = m * 2 ^ k := by
        rw [zpow_natCast] at hx
        exact_mod_cast hx
      have hnonneg : 0 ≤ m := by
        by_contra hneg
        have hprod : m * 2 ^ k < 0 := mul_neg_of_neg_of_pos (not_le.mp hneg) (by positivity)
        omega
      obtain ⟨m, rfl⟩ := Int.eq_ofNat_of_zero_le hnonneg
      refine ⟨m, k, ?_, by exact_mod_cast hcast⟩
      rw [abs_of_nonneg hnonneg] at hm
      exact_mod_cast hm
    · obtain ⟨k, hk⟩ := Int.eq_ofNat_of_zero_le (neg_nonneg.mpr he)
      have hcast : (n : ℤ) * 2 ^ k = m := by
        have hmul : (n : K) * 2 ^ (-e) = m := by
          rw [hx, mul_assoc, ← zpow_add₀ two_ne_zero, add_neg_cancel, zpow_zero, mul_one]
        rw [hk, zpow_natCast] at hmul
        exact_mod_cast hmul
      have hle : (n : ℤ) ≤ |m| := by
        have hone : (1 : ℤ) ≤ 2 ^ k := one_le_pow₀ one_le_two
        calc (n : ℤ) ≤ n * 2 ^ k := le_mul_of_one_le_right (Int.natCast_nonneg n) hone
          _ = m := hcast
          _ ≤ |m| := le_abs_self m
      refine ⟨n, 0, ?_, by rw [pow_zero, mul_one]⟩
      exact_mod_cast hle.trans_lt hm
  · rintro ⟨m, k, hm, rfl⟩
    have hfits := (fits_natCast_of_lt (K := K) hm).mul_zpow k
    rw [zpow_natCast] at hfits
    exact_mod_cast hfits

/-! ## Nearest numbers -/

variable {x y v w : K}

/-- A number that fits is its own nearest one. -/
theorem Nearest.eq_of_fits (h : Nearest p x v) (hx : Fits p x) : v = x := by
  have hzero := h.le x hx
  rw [sub_self, abs_zero] at hzero
  exact sub_eq_zero.mp (abs_nonpos_iff.mp hzero)

/-- Rounding does not pass a number that fits. -/
theorem Nearest.le_of_le (h : Nearest p x v) (hy : Fits p y) (hyx : y ≤ x) : y ≤ v := by
  by_contra hlt
  have hnear := h.le y hy
  rw [abs_of_nonpos (sub_nonpos.mpr ((not_le.mp hlt).le.trans hyx)),
    abs_of_nonpos (sub_nonpos.mpr hyx)] at hnear
  linarith

theorem Nearest.ge_of_ge (h : Nearest p x v) (hy : Fits p y) (hxy : x ≤ y) : v ≤ y := by
  by_contra hlt
  have hnear := h.le y hy
  rw [abs_of_nonneg (sub_nonneg.mpr (hxy.trans (not_le.mp hlt).le)),
    abs_of_nonneg (sub_nonneg.mpr hxy)] at hnear
  linarith

/-- The farther of two numbers is on the near side of their midpoint. -/
theorem midpoint_le {a b : K} (hab : a < b) (h : |b - x| ≤ |a - x|) : a + b ≤ 2 * x := by
  have hsq : (b - x) ^ 2 ≤ (a - x) ^ 2 := sq_le_sq.mpr h
  have hfactor : (b - a) * (a + b - 2 * x) ≤ 0 := by linarith
  have hneg : a + b - 2 * x ≤ 0 := nonpos_of_mul_nonpos_right hfactor (sub_pos.mpr hab)
  linarith

theorem Nearest.mono (h : Nearest p x v) (h' : Nearest p y w) (hxy : x < y) : v ≤ w := by
  by_contra hlt
  have hwv : w < v := not_le.mp hlt
  have hx : w + v ≤ 2 * x := midpoint_le hwv (h.le w h'.fits)
  have hneg : |-w - -y| ≤ |-v - -y| := by
    rw [neg_sub_neg, neg_sub_neg, abs_sub_comm y w, abs_sub_comm y v]
    exact h'.le v h.fits
  have hy : -v + -w ≤ 2 * -y := midpoint_le (neg_lt_neg hwv) hneg
  linarith

/-! ## Naturals -/

/-- The rounding of a natural from `2 ^ p` on is a natural. -/
theorem Nearest.exists_natCast (hp : 0 < p) {n : Nat} (hn : 2 ^ p ≤ n)
    (h : Nearest p (n : K) v) : ∃ k : Nat, v = k := by
  have hle : (2 : K) ^ (p : ℤ) ≤ v := by
    refine h.le_of_le (fits_two_zpow hp p) ?_
    rw [zpow_natCast]
    exact_mod_cast hn
  have hpos : (0 : K) ≤ v := (zpow_pos two_pos _).le.trans hle
  obtain ⟨z, hz⟩ := h.fits.exists_mul (l := p) (by rwa [abs_of_nonneg hpos])
  have hint : v = ((z * 2 : ℤ) : K) := by
    rw [hz, add_sub_cancel_left, zpow_one, Int.cast_mul, Int.cast_ofNat]
  rw [hint] at hpos ⊢
  obtain ⟨k, hk⟩ := Int.eq_ofNat_of_zero_le (Int.cast_nonneg_iff.mp hpos)
  exact ⟨k, by rw [hk, Int.cast_natCast]⟩

/-- **A natural below `2 ^ p` shares its rounding with no other one.** -/
theorem eq_of_nearest (hp : 0 < p) {m n : Nat} (hn : n < 2 ^ p) (h : Nearest p (n : K) v)
    (h' : Nearest p (m : K) v) : m = n := by
  have hv : v = n := h.eq_of_fits (fits_natCast_of_lt hn)
  rcases Nat.lt_or_ge m (2 ^ p) with hm | hm
  · have hv' : v = m := h'.eq_of_fits (fits_natCast_of_lt hm)
    exact_mod_cast hv'.symm.trans hv
  · have hle : (2 : K) ^ (p : ℤ) ≤ v := by
      refine h'.le_of_le (fits_two_zpow hp p) ?_
      rw [zpow_natCast]
      exact_mod_cast hm
    rw [hv, zpow_natCast] at hle
    have hge : 2 ^ p ≤ n := by exact_mod_cast hle
    omega

/-- Just below `2 ^ w` no number fits where `w` has three bits more than the significand. -/
theorem Fits.eq_two_pow {w : Nat} (hw : p + 3 ≤ w) (h : Fits p v) (hlo : (2 : K) ^ w - 4 ≤ v)
    (hhi : v ≤ 2 ^ w) : v = 2 ^ w := by
  obtain ⟨d, rfl⟩ := Nat.exists_eq_add_of_le hw
  have hstep : (8 : K) ≤ 2 ^ (3 + d) := by
    calc (8 : K) = 2 ^ 3 := by norm_num
      _ ≤ 2 ^ (3 + d) := pow_le_pow_right₀ one_le_two (Nat.le_add_right 3 d)
  have hsplit : (2 : K) ^ (p + 3 + d) = 2 ^ p * 2 ^ (3 + d) := by rw [add_assoc, pow_add]
  have hone : (1 : K) ≤ 2 ^ p := one_le_pow₀ one_le_two
  have hlarge : (8 : K) ≤ 2 ^ (p + 3 + d) := by
    rw [hsplit]
    nlinarith
  have hhalf : (2 : K) ^ ((p + 2 + d : Nat) : ℤ) ≤ |v| := by
    have hdouble : (2 : K) ^ (p + 3 + d) = 2 * 2 ^ (p + 2 + d) := by ring
    rw [zpow_natCast]
    refine le_trans ?_ (le_abs_self v)
    linarith
  obtain ⟨z, hz⟩ := h.exists_mul hhalf
  have hexp : ((p + 2 + d : Nat) : ℤ) + 1 - p = (3 + d : Nat) := by
    push_cast
    ring
  rw [hexp, zpow_natCast] at hz
  rw [hz, hsplit] at hlo hhi ⊢
  have hle : z ≤ 2 ^ p := by
    have hzp : (z : K) ≤ 2 ^ p := le_of_mul_le_mul_right hhi (by linarith)
    exact_mod_cast hzp
  have hge : 2 ^ p ≤ z := by
    by_contra hlt
    have hnext : (z : K) + 1 ≤ 2 ^ p := by exact_mod_cast Int.add_one_le_iff.mpr (not_le.mp hlt)
    nlinarith
  have heq : (z : K) = 2 ^ p := by exact_mod_cast le_antisymm hle hge
  rw [heq]

/-- **A natural that does not fit shares its rounding with another one**, of the same width where
that has three bits more than the significand. -/
theorem exists_shared (hp : 0 < p) {w : Nat} (hw : p + 3 ≤ w) {f : K → K}
    (hf : ∀ n : Nat, Nearest p (n : K) (f n)) {n : Nat} (hn : n < 2 ^ w)
    (hwide : ¬ Fits p (n : K)) : ∃ m < 2 ^ w, m ≠ n ∧ f m = f n := by
  have hbig : 2 ^ p ≤ n := Nat.le_of_not_lt fun hlt => hwide (fits_natCast_of_lt hlt)
  have htop : Fits p ((2 : K) ^ w) := by
    rw [← zpow_natCast]
    exact fits_two_zpow hp w
  have hle : ∀ m : Nat, m < 2 ^ w → f m ≤ 2 ^ w := fun m hm =>
    (hf m).ge_of_ge htop (by exact_mod_cast hm.le)
  obtain ⟨k, hk⟩ := (hf n).exists_natCast hp hbig
  have hfits : Fits p (k : K) := hk ▸ (hf n).fits
  by_cases hkw : k < 2 ^ w
  · -- the number it is rounded to
    refine ⟨k, hkw, ?_, ?_⟩
    · rintro rfl
      exact hwide hfits
    · rw [(hf k).eq_of_fits hfits, hk]
  · -- it is rounded out of its width, and so is a neighbour
    have hval : f n = 2 ^ w := by
      refine le_antisymm (hle n hn) ?_
      rw [hk]
      exact_mod_cast Nat.le_of_not_lt hkw
    by_cases hnext : n + 1 < 2 ^ w
    · refine ⟨n + 1, hnext, Nat.succ_ne_self n, le_antisymm ?_ ?_⟩
      · rw [hval]
        exact hle _ hnext
      · exact (hf n).mono (hf (n + 1)) (by exact_mod_cast Nat.lt_succ_self n)
    · have hpos : 0 < n := lt_of_lt_of_le (Nat.two_pow_pos p) hbig
      obtain ⟨m, rfl⟩ := Nat.exists_eq_succ_of_ne_zero hpos.ne'
      have hnat : m + 2 = 2 ^ w := by omega
      have hm : (m : K) + 2 = 2 ^ w := by exact_mod_cast hnat
      refine ⟨m, by omega, by omega, ?_⟩
      rw [hval]
      refine (hf m).fits.eq_two_pow hw ?_ (hle m (by omega))
      have hnear := (hf m).le _ htop
      have htwo : |(2 : K) ^ w - m| = 2 := by
        rw [← hm, add_sub_cancel_left]
        exact abs_of_pos two_pos
      rw [htwo] at hnear
      linarith [(abs_le.mp hnear).1]

/-! ## Round half to even -/

section

variable [FloorRing K]

/-- The nearest integer, the even one of two. -/
def roundHalfEven (t : K) : ℤ :=
  if Int.fract t < 1 / 2 then ⌊t⌋
  else if 1 / 2 < Int.fract t then ⌊t⌋ + 1
  else ⌊t⌋ + ⌊t⌋ % 2

/-- The unit in the last place of a `p`-bit significand. -/
def lastPlace (p : Nat) (x : K) : K := 2 ^ (Int.log 2 |x| + 1 - p)

/-- Round to a `p`-bit significand, ties to even. -/
def roundSignificand (p : Nat) (x : K) : K :=
  roundHalfEven (x / lastPlace p x) * lastPlace p x

theorem lastPlace_pos (p : Nat) (x : K) : 0 < lastPlace p x := zpow_pos two_pos _

theorem roundHalfEven_error (t : K) : |(roundHalfEven t : K) - t| ≤ 1 / 2 := by
  have hfract := Int.fract_nonneg t
  have hlt := Int.fract_lt_one t
  have ht : (⌊t⌋ : K) = t - Int.fract t := eq_sub_of_add_eq (Int.floor_add_fract t)
  unfold roundHalfEven
  split
  · rw [ht, abs_le]
    constructor <;> linarith
  · split
    · push_cast
      rw [ht, abs_le]
      constructor <;> linarith
    · have hhalf : Int.fract t = 1 / 2 := by
        apply le_antisymm
        · exact not_lt.mp ‹_›
        · exact not_lt.mp ‹_›
      rcases Int.emod_two_eq_zero_or_one ⌊t⌋ with heven | hodd
      · rw [heven, add_zero, ht, abs_le]
        constructor <;> linarith
      · rw [hodd]
        push_cast
        rw [ht, abs_le]
        constructor <;> linarith

theorem roundHalfEven_nearest (t : K) (k : ℤ) : |(roundHalfEven t : K) - t| ≤ |(k : K) - t| := by
  rcases eq_or_ne (roundHalfEven t) k with heq | hne
  · rw [heq]
  · have hone : (1 : K) ≤ |(k : K) - roundHalfEven t| := by
      exact_mod_cast Int.one_le_abs (sub_ne_zero.mpr hne.symm)
    have htri := abs_sub_le (k : K) t (roundHalfEven t)
    have herror := roundHalfEven_error t
    rw [abs_sub_comm t] at htri
    linarith

/-- No multiple of the last place is nearer. -/
theorem roundSignificand_le_multiple (x : K) (k : ℤ) :
    |roundSignificand p x - x| ≤ |k * lastPlace p x - x| := by
  have hpos := lastPlace_pos p x
  have hscale : ∀ z : ℤ, |z * lastPlace p x - x| = |z - x / lastPlace p x| * lastPlace p x := by
    intro z
    conv_rhs => rw [← abs_of_pos hpos, ← abs_mul, sub_mul, abs_of_pos hpos,
      div_mul_cancel₀ x hpos.ne']
  rw [roundSignificand, hscale, hscale]
  exact mul_le_mul_of_nonneg_right (roundHalfEven_nearest _ k) hpos.le

theorem zpow_log_le {x : K} (hx : x ≠ 0) : (2 : K) ^ Int.log 2 |x| ≤ |x| := by
  have hlog := Int.zpow_log_le_self (b := 2) one_lt_two (abs_pos.mpr hx)
  exact_mod_cast hlog

theorem lt_zpow_log (x : K) : |x| < (2 : K) ^ (Int.log 2 |x| + 1) := by
  have hlog := Int.lt_zpow_succ_log_self (b := 2) one_lt_two |x|
  exact_mod_cast hlog

/-- The significand of the rounding has its `p` bits, or is the next power of two. -/
theorem roundSignificand_fits (hp : 0 < p) (x : K) : Fits p (roundSignificand p x) := by
  have hpos := lastPlace_pos p x
  have hquot : |x / lastPlace p x| < 2 ^ p := by
    rw [abs_div, abs_of_pos hpos, div_lt_iff₀ hpos, lastPlace, ← zpow_natCast,
      ← zpow_add₀ two_ne_zero]
    refine (lt_zpow_log x).trans_le (le_of_eq ?_)
    congr 1
    ring
  have hround : |roundHalfEven (x / lastPlace p x)| ≤ 2 ^ p := by
    have herror := roundHalfEven_error (x / lastPlace p x)
    have habs := abs_sub_abs_le_abs_sub (roundHalfEven (x / lastPlace p x) : K)
      (x / lastPlace p x)
    have hlt : |(roundHalfEven (x / lastPlace p x) : K)| < 2 ^ p + 1 := by linarith
    have hint : |roundHalfEven (x / lastPlace p x)| < 2 ^ p + 1 := by exact_mod_cast hlt
    exact Int.lt_add_one_iff.mp hint
  rcases hround.lt_or_eq with hlt | heq
  · exact (fits_intCast hlt).mul_zpow _
  · have htop : Fits p ((2 : K) ^ p) := by
      rw [← zpow_natCast]
      exact fits_two_zpow hp p
    rcases abs_eq (by positivity) |>.mp heq with hpow | hpow
    · rw [roundSignificand, hpow]
      push_cast
      exact htop.mul_zpow _
    · rw [roundSignificand, hpow]
      push_cast
      exact htop.neg.mul_zpow _

/-- The power of two in front of a number is a multiple of its last place. -/
theorem roundSignificand_le_log (hp : 0 < p) {x : K} (hx : x ≠ 0) :
    |roundSignificand p x - x| ≤ |x| - 2 ^ Int.log 2 |x| := by
  obtain ⟨q, rfl⟩ := Nat.exists_eq_succ_of_ne_zero hp.ne'
  have hpow : ((2 ^ q : ℤ) : K) * lastPlace (q + 1) x = 2 ^ Int.log 2 |x| := by
    rw [lastPlace, Int.cast_pow, Int.cast_ofNat, ← zpow_natCast, ← zpow_add₀ two_ne_zero]
    congr 1
    push_cast
    ring
  have hlog := zpow_log_le hx
  rcases lt_or_gt_of_ne hx with hneg | hpos
  · have hle := roundSignificand_le_multiple (p := q + 1) x (-2 ^ q)
    rw [Int.cast_neg, neg_mul, hpow, abs_of_nonneg (a := -2 ^ Int.log 2 |x| - x)] at hle
    · rw [abs_of_neg hneg]
      rw [abs_of_neg hneg] at hle
      linarith
    · rw [abs_of_neg hneg] at hlog ⊢
      linarith
  · have hle := roundSignificand_le_multiple (p := q + 1) x (2 ^ q)
    rw [hpow, abs_of_nonpos (a := 2 ^ Int.log 2 |x| - x)] at hle
    · rw [abs_of_pos hpos]
      rw [abs_of_pos hpos] at hle
      linarith
    · rw [abs_of_pos hpos] at hlog ⊢
      linarith

/-- **Rounding half to even is to nearest.** -/
theorem roundSignificand_nearest (hp : 0 < p) (x : K) : Nearest p x (roundSignificand p x) := by
  refine ⟨roundSignificand_fits hp x, fun y hy => ?_⟩
  rcases eq_or_ne x 0 with rfl | hx
  · have hzero := roundSignificand_le_multiple (p := p) (0 : K) 0
    rw [Int.cast_zero, zero_mul, sub_self, abs_zero] at hzero
    exact hzero.trans (abs_nonneg _)
  · rcases le_or_gt ((2 : K) ^ Int.log 2 |x|) |y| with hbig | hsmall
    · obtain ⟨z, rfl⟩ := hy.exists_mul hbig
      exact roundSignificand_le_multiple x z
    · have hle := roundSignificand_le_log hp hx
      have htri := abs_sub_abs_le_abs_sub x y
      rw [abs_sub_comm x y] at htri
      linarith

end

end Significand
