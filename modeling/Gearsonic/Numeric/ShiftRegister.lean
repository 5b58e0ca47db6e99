import Mathlib.Data.List.Basic
import Mathlib.Logic.Function.Iterate

/-!
# Linear shift registers

A register of `w` bits that moves up by one place a step and adds its polynomial for the bit that
falls out. `feed` takes one bit of a message, `run` a whole one. Everything is linear over
exclusive or, and where the polynomial is odd no step loses anything.

* `run_aligned`: at most `w` bits are taken as if they had been added to the register at its top
  end, before the steps.
* `run_burst`: such a burst leaves a register that was empty in a state that is not.
* `run_ne`: messages that differ within `w` consecutive bits leave different registers.
-/

namespace ShiftRegister

variable {w : Nat} (poly : BitVec w)

/-- One step without a message bit. -/
def shift (x : BitVec w) : BitVec w := if x.msb then x <<< 1 ^^^ poly else x <<< 1

/-- One step with the message bit `b`. -/
def feed (x : BitVec w) (b : Bool) : BitVec w := if b then shift poly x ^^^ poly else shift poly x

/-- The register after a message. -/
def run (x : BitVec w) (bits : List Bool) : BitVec w := bits.foldl (feed poly) x

variable {poly}

theorem run_cons (x : BitVec w) (b : Bool) (bits : List Bool) :
    run poly x (b :: bits) = run poly (feed poly x b) bits := rfl

theorem run_append (x : BitVec w) (bits bits' : List Bool) :
    run poly x (bits ++ bits') = run poly (run poly x bits) bits' := List.foldl_append

/-! ## Linearity -/

/-- The polynomial, or nothing. -/
def masked (poly : BitVec w) (b : Bool) : BitVec w := if b then poly else 0#w

theorem masked_xor (a b : Bool) : masked poly (a ^^ b) = masked poly a ^^^ masked poly b := by
  cases a <;> cases b <;> simp [masked]

theorem shift_eq (x : BitVec w) : shift poly x = x <<< 1 ^^^ masked poly x.msb := by
  unfold shift masked
  cases x.msb with
  | false => exact BitVec.xor_zero.symm
  | true => rfl

theorem feed_eq (x : BitVec w) (b : Bool) : feed poly x b = shift poly x ^^^ masked poly b := by
  cases b with
  | false => exact BitVec.xor_zero.symm
  | true => rfl

theorem shift_xor (x y : BitVec w) : shift poly (x ^^^ y) = shift poly x ^^^ shift poly y := by
  rw [shift_eq, shift_eq, shift_eq, BitVec.msb_xor, masked_xor, BitVec.shiftLeft_xor_distrib]
  ac_rfl

theorem feed_xor (x y : BitVec w) (a b : Bool) :
    feed poly (x ^^^ y) (a ^^ b) = feed poly x a ^^^ feed poly y b := by
  rw [feed_eq, feed_eq, feed_eq, shift_xor, masked_xor]
  ac_rfl

/-- The registers of two messages differ by the register of their difference. -/
theorem run_xor (x y : BitVec w) {as bs : List Bool} (hlen : as.length = bs.length) :
    run poly (x ^^^ y) (List.zipWith xor as bs) = run poly x as ^^^ run poly y bs := by
  induction as generalizing x y bs with
  | nil =>
    rw [List.eq_nil_of_length_eq_zero hlen.symm]
    rfl
  | cons a as ih =>
    cases bs with
    | nil => cases hlen
    | cons b bs =>
      rw [List.zipWith_cons_cons, run_cons, feed_xor, run_cons, run_cons]
      exact ih _ _ (Nat.succ.inj hlen)

@[simp] theorem shift_zero : shift poly 0#w = 0#w := by
  simp [shift]

theorem iterate_shift_zero (k : Nat) : (shift poly)^[k] 0#w = 0#w :=
  Function.iterate_fixed shift_zero k

/-- Zero bits only shift. -/
theorem run_zeros (x : BitVec w) {bits : List Bool} (h : ∀ b ∈ bits, b = false) :
    run poly x bits = (shift poly)^[bits.length] x := by
  induction bits generalizing x with
  | nil => rfl
  | cons b bits ih =>
    have hb : b = false := h b List.mem_cons_self
    rw [run_cons, ih _ fun b' hb' => h b' (List.mem_cons_of_mem b hb'), hb]
    rfl

/-! ## An odd polynomial -/

/-- The bit that falls out stands in the lowest place. -/
theorem getLsbD_shift_zero (hw : 0 < w) (hpoly : poly.getLsbD 0 = true) (x : BitVec w) :
    (shift poly x).getLsbD 0 = x.msb := by
  unfold shift
  cases x.msb with
  | false => simp [hw]
  | true => simp [hw, hpoly]

/-- Only the zero register shifts to zero. -/
theorem shift_eq_zero (hw : 0 < w) (hpoly : poly.getLsbD 0 = true) {x : BitVec w}
    (h : shift poly x = 0#w) : x = 0#w := by
  have hmsb : x.msb = false := by
    rw [← getLsbD_shift_zero hw hpoly x, h, BitVec.getLsbD_zero]
  have hup : x <<< 1 = 0#w := by
    unfold shift at h
    rwa [hmsb, if_neg Bool.false_ne_true] at h
  apply BitVec.eq_of_getLsbD_eq
  intro i hi
  rw [BitVec.getLsbD_zero]
  by_cases htop : i = w - 1
  · rw [htop, ← BitVec.msb_eq_getLsbD_last]
    exact hmsb
  · have hin : i + 1 < w := by omega
    have hbit : (x <<< 1).getLsbD (i + 1) = false := by rw [hup, BitVec.getLsbD_zero]
    rw [BitVec.getLsbD_shiftLeft, Nat.add_sub_cancel] at hbit
    simpa only [hin, decide_true, Nat.not_lt.mpr (Nat.le_add_left 1 i), decide_false,
      Bool.not_false, Bool.true_and] using hbit

theorem iterate_shift_ne_zero (hw : 0 < w) (hpoly : poly.getLsbD 0 = true) {x : BitVec w}
    (h : x ≠ 0#w) (k : Nat) : (shift poly)^[k] x ≠ 0#w := by
  induction k with
  | zero => exact h
  | succ k ih =>
    rw [Function.iterate_succ_apply']
    intro hzero
    exact ih (shift_eq_zero hw hpoly hzero)

/-! ## A burst -/

/-- The bits at the top end of the register, the first one highest. -/
def aligned : List Bool → BitVec w
  | [] => 0#w
  | b :: bits => masked (BitVec.twoPow w (w - 1)) b ^^^ aligned bits >>> 1

theorem msb_masked_top (hw : 0 < w) (b : Bool) :
    (masked (BitVec.twoPow w (w - 1)) b).msb = b := by
  have hlast : w - 1 < w := Nat.sub_lt hw Nat.one_pos
  cases b with
  | false => simp [masked]
  | true => simp [masked, BitVec.msb_eq_getLsbD_last, hlast]

theorem msb_ushiftRight_one (x : BitVec w) : (x >>> 1).msb = false := by
  rw [BitVec.msb_eq_getLsbD_last, BitVec.getLsbD_ushiftRight]
  apply BitVec.getLsbD_of_ge
  omega

/-- The top bit falls out, and leaves the polynomial. -/
theorem shift_masked_top (hw : 0 < w) (b : Bool) :
    shift poly (masked (BitVec.twoPow w (w - 1)) b) = masked poly b := by
  have hout : masked (BitVec.twoPow w (w - 1)) b <<< 1 = 0#w := by
    apply BitVec.eq_of_getLsbD_eq
    intro i hi
    cases b with
    | false => simp [masked]
    | true =>
      simp only [masked, if_true, BitVec.getLsbD_shiftLeft, BitVec.getLsbD_twoPow]
      simp
      omega
  rw [shift_eq, msb_masked_top hw, hout, BitVec.zero_xor]

/-- A bit fed is a bit at the top, shifted out. -/
theorem feed_eq_shift (hw : 0 < w) (x : BitVec w) (b : Bool) :
    feed poly x b = shift poly (x ^^^ masked (BitVec.twoPow w (w - 1)) b) := by
  rw [shift_xor, shift_masked_top hw, feed_eq]

/-- Below the bits the register is empty. -/
theorem getLsbD_aligned (bits : List Bool) {i : Nat} (hi : i + bits.length < w) :
    (aligned bits : BitVec w).getLsbD i = false := by
  induction bits generalizing i with
  | nil => exact BitVec.getLsbD_zero
  | cons b bits ih =>
    rw [List.length_cons] at hi
    have hne : w - 1 ≠ i := by omega
    have htop : (masked (BitVec.twoPow w (w - 1)) b).getLsbD i = false := by
      cases b with
      | false => exact BitVec.getLsbD_zero
      | true => simp [masked, BitVec.getLsbD_twoPow, hne]
    rw [aligned, BitVec.getLsbD_xor, htop, BitVec.getLsbD_ushiftRight, ih (by omega)]
    rfl

/-- What is empty in the lowest place moves down and up again. -/
theorem shift_ushiftRight {x : BitVec w} (h : x.getLsbD 0 = false) :
    shift poly (x >>> 1) = x := by
  unfold shift
  rw [msb_ushiftRight_one, if_neg Bool.false_ne_true]
  apply BitVec.eq_of_getLsbD_eq
  intro i hi
  cases i with
  | zero => simpa using h.symm
  | succ i => simp [hi, Nat.add_comm]

/-- **A short message.** Feeding at most `w` bits is adding them at the top end, and shifting. -/
theorem run_aligned (x : BitVec w) {bits : List Bool} (hlen : bits.length ≤ w) :
    run poly x bits = (shift poly)^[bits.length] (x ^^^ aligned bits) := by
  induction bits generalizing x with
  | nil => exact BitVec.xor_zero.symm
  | cons b bits ih =>
    rw [List.length_cons] at hlen
    have hpos : 0 < w := by omega
    have hrest : shift poly ((aligned bits : BitVec w) >>> 1) = aligned bits :=
      shift_ushiftRight (getLsbD_aligned bits (by omega))
    have hstep : shift poly (x ^^^ aligned (b :: bits)) = feed poly x b ^^^ aligned bits := by
      rw [aligned, ← BitVec.xor_assoc, shift_xor, hrest, feed_eq_shift hpos]
    rw [run_cons, ih _ (by omega), List.length_cons, Function.iterate_succ_apply, hstep]

/-- Bits that are not all zero are not the empty register. -/
theorem aligned_ne_zero {bits : List Bool} (hlen : bits.length ≤ w) (h : true ∈ bits) :
    (aligned bits : BitVec w) ≠ 0#w := by
  induction bits with
  | nil => cases h
  | cons b bits ih =>
    rw [List.length_cons] at hlen
    intro hzero
    rw [aligned] at hzero
    have hmsb := congrArg BitVec.msb hzero
    rw [BitVec.msb_xor, msb_masked_top (by omega), msb_ushiftRight_one, Bool.xor_false,
      BitVec.msb_zero] at hmsb
    have hmem : true ∈ bits := by
      rw [hmsb] at h
      simpa using h
    have hdown : (aligned bits : BitVec w) >>> 1 = 0#w := by
      rwa [hmsb, masked, if_neg Bool.false_ne_true, BitVec.zero_xor] at hzero
    apply ih (by omega) hmem
    have hback : shift 0#w ((aligned bits : BitVec w) >>> 1) = aligned bits :=
      shift_ushiftRight (getLsbD_aligned bits (by omega))
    rw [← hback, hdown, shift_zero]

/-- **A burst.** At most `w` bits that are not all zero leave the empty register in another
state. -/
theorem run_burst (hpoly : poly.getLsbD 0 = true) {bits : List Bool} (hlen : bits.length ≤ w)
    (h : true ∈ bits) : run poly 0#w bits ≠ 0#w := by
  have hpos := List.length_pos_of_mem h
  rw [run_aligned 0#w hlen, BitVec.zero_xor]
  exact iterate_shift_ne_zero (by omega) hpoly (aligned_ne_zero hlen h) _

/-! ## Two messages -/

/-- Where two messages differ. -/
theorem getElem?_difference {as bs : List Bool} {i : Nat}
    (h : (List.zipWith xor as bs)[i]? = some true) : as[i]? ≠ bs[i]? := by
  intro heq
  rw [List.getElem?_zipWith, heq] at h
  cases hb : bs[i]? with
  | none => simp [hb] at h
  | some b => simp [hb] at h

/-- Messages that differ have a bit in their difference. -/
theorem true_mem_difference {as bs : List Bool} (hlen : as.length = bs.length) (hne : as ≠ bs) :
    true ∈ List.zipWith xor as bs := by
  induction as generalizing bs with
  | nil => exact absurd (List.eq_nil_of_length_eq_zero hlen.symm).symm hne
  | cons a as ih =>
    cases bs with
    | nil => cases hlen
    | cons b bs =>
      rw [List.zipWith_cons_cons]
      by_cases hab : a = b
      · have htail : as ≠ bs := by
          intro heq
          exact hne (by rw [hab, heq])
        exact List.mem_cons_of_mem _ (ih (Nat.succ.inj hlen) htail)
      · have hbit : (a ^^ b) = true := by simpa using hab
        rw [hbit]
        exact List.mem_cons_self

/-- **Burst errors are detected.** Two messages of one length that differ, and only within `w`
consecutive bits, leave different registers. -/
theorem run_ne (hpoly : poly.getLsbD 0 = true) (x : BitVec w) {as bs : List Bool}
    (hlen : as.length = bs.length) (hne : as ≠ bs) {p : Nat}
    (hwindow : ∀ i, as[i]? ≠ bs[i]? → p ≤ i ∧ i < p + w) : run poly x as ≠ run poly x bs := by
  intro heq
  have hdiff : run poly 0#w (List.zipWith xor as bs) = 0#w := by
    have hxor : run poly (x ^^^ x) (List.zipWith xor as bs) = run poly x as ^^^ run poly x bs :=
      run_xor x x hlen
    rwa [heq, BitVec.xor_self, BitVec.xor_self] at hxor
  have hbits := true_mem_difference hlen hne
  have hinside : ∀ i, (List.zipWith xor as bs)[i]? = some true → p ≤ i ∧ i < p + w :=
    fun i hi => hwindow i (getElem?_difference hi)
  generalize List.zipWith xor as bs = diff at hdiff hbits hinside
  -- before the window the register stays empty, behind it no state is lost
  have hbefore : ∀ b ∈ diff.take p, b = false := by
    intro b hb
    obtain ⟨i, hi⟩ := List.mem_iff_getElem?.mp hb
    cases b with
    | false => rfl
    | true =>
      have hp : i < p := by
        have := (List.getElem?_eq_some_iff.mp hi).1
        rw [List.length_take] at this
        omega
      rw [List.getElem?_take_of_lt hp] at hi
      have hin := (hinside i hi).1
      omega
  have hbehind : ∀ b ∈ (diff.drop p).drop w, b = false := by
    intro b hb
    obtain ⟨i, hi⟩ := List.mem_iff_getElem?.mp hb
    cases b with
    | false => rfl
    | true =>
      rw [List.drop_drop, List.getElem?_drop] at hi
      have hin := (hinside _ hi).2
      omega
  have hburst : true ∈ (diff.drop p).take w := by
    rw [← List.take_append_drop p diff, List.mem_append] at hbits
    have hdrop : true ∈ diff.drop p := hbits.resolve_left fun hb => nomatch hbefore true hb
    rw [← List.take_append_drop w (diff.drop p), List.mem_append] at hdrop
    exact hdrop.resolve_right fun hb => nomatch hbehind true hb
  rw [← List.take_append_drop p diff, run_append, run_zeros _ hbefore, iterate_shift_zero,
    ← List.take_append_drop w (diff.drop p), run_append, run_zeros _ hbehind] at hdiff
  have hlength : ((diff.drop p).take w).length ≤ w := List.length_take_le _ _
  have hpos : 0 < w := by
    have := List.length_pos_of_mem hburst
    omega
  exact iterate_shift_ne_zero hpos hpoly (run_burst hpoly hlength hburst) _ hdiff

end ShiftRegister
