import Gearsonic.Unitree.HandSafety
import Mathlib.Order.Interval.Set.UnorderedInterval

/-!
# How far the guard reaches

The guard places a motor's target within reach of the measured position, and cuts it at the joint
limits last. Over every history of calls this file asks two things of each guarded target.

* `stall_torque_iff`: the torque on a blocked finger is bounded exactly if no measured position
  lies too far outside the joint limits, whose cut pulls the target away from it.
* `reach_between_iff`: the target does not pass the desired one exactly if no motor latches on an
  error smaller than the offset that it then keeps.
-/

set_option linter.unusedSectionVars false

namespace Gearsonic

open Transition

/-- How far `x` lies outside of an interval. -/
def outside {K : Type} [Field K] [LinearOrder K] (lo hi x : K) : K := max (max (lo - x) (x - hi)) 0

/-- What one call of `apply` is given. -/
structure GuardCall (K : Type) [Field K] where
  desired : HandCommand K
  meas : Option (HandState K)
  dtS : K

namespace HandGuard

variable {K : Type} [Field K] [LinearOrder K]

/-- The guard after a call. -/
def call (g : HandGuard K) (c : GuardCall K) : HandGuard K := (g.apply c.desired c.meas c.dtS).1

/-- The motor latches in a call: it is hot, or its error is large and it was latched before or has
been stalled for long enough by now. -/
def Latches (g : HandGuard K) (i : Fin 7) (m : HandMotorState K) (e dtS : K) : Prop :=
  g.hot m = true ∨
    (g.p.stallErrTh < |e| ∧
      (g.latched i = true ∨
        g.p.stallTimeS ≤ if |m.dq| < g.p.stallVelTh then g.stallS i + dtS else 0))

instance (g : HandGuard K) (i : Fin 7) (m : HandMotorState K) (e dtS : K) :
    Decidable (g.Latches i m e dtS) :=
  inferInstanceAs (Decidable (_ ∨ _))

/-- `P` of each motor of a call that the guard acts on. -/
def EachGuarded (P : HandGuard K → GuardCall K → HandState K → Fin 7 → Prop) (g : HandGuard K)
    (c : GuardCall K) : Prop :=
  g.p.enabled = true → c.desired.enabled = true → ∀ meas, c.meas = some meas → ∀ i, P g c meas i

variable {g : HandGuard K} {c : GuardCall K} {meas : HandState K} {i : Fin 7}

theorem latchAfter_iff (m : HandMotorState K) (e dtS : K) :
    g.latchAfter i m e dtS = true ↔ g.Latches i m e dtS := by
  unfold latchAfter Latches stallTimer
  by_cases hhot : g.hot m = true
  · simp [hhot]
  · by_cases herr : g.p.stallErrTh < |e|
    · simp [hhot, herr, not_le.mpr herr]
    · simp [hhot, herr, not_lt.mp herr]

/-- By how much a motor is sent away from its measured position, before the cut. -/
def shift (g : HandGuard K) (latched : Bool) (e : K) : K :=
  if latched then g.p.stallOffset * (if 0 < e then 1 else if e < 0 then -1 else 0)
  else clamp e (-(g.p.tauMax / max g.p.kp 1e-3)) (g.p.tauMax / max g.p.kp 1e-3)

/-- The error of motor `i` in a call. -/
def errorOf (c : GuardCall K) (meas : HandState K) (i : Fin 7) : K :=
  c.desired.q i - (meas.motors i).q

/-- The motor latches in this call. -/
def LatchesIn (g : HandGuard K) (c : GuardCall K) (meas : HandState K) (i : Fin 7) : Prop :=
  g.Latches i (meas.motors i) (errorOf c meas i) c.dtS

instance (g : HandGuard K) (c : GuardCall K) (meas : HandState K) (i : Fin 7) :
    Decidable (g.LatchesIn c meas i) :=
  inferInstanceAs (Decidable (g.Latches _ _ _ _))

/-- What a call that the guard acts on publishes for a motor. -/
theorem apply_guarded (hon : g.p.enabled = true) (hdesired : c.desired.enabled = true)
    (hmeas : c.meas = some meas) (i : Fin 7) :
    (g.apply c.desired c.meas c.dtS).2.q i =
        clamp ((meas.motors i).q + g.shift (decide (g.LatchesIn c meas i)) (errorOf c meas i))
          (dex3Min K g.isLeft i) (dex3Max K g.isLeft i) ∧
      (g.apply c.desired c.meas c.dtS).2.kp i =
        if g.LatchesIn c meas i then g.p.kpHold else g.p.kp := by
  have hlatch : g.latchAfter i (meas.motors i) (errorOf c meas i) c.dtS =
      decide (g.LatchesIn c meas i) :=
    Bool.eq_iff_iff.mpr ((latchAfter_iff _ _ _).trans decide_eq_true_iff.symm)
  unfold apply
  rw [hmeas]
  simp only [hon, hdesired, Bool.not_true, Bool.or_false, Bool.false_eq_true, if_false]
  change clamp (g.reach (g.latchAfter i (meas.motors i) (errorOf c meas i) c.dtS) (meas.motors i)
      (errorOf c meas i)).1 _ _ = _ ∧
    (g.reach (g.latchAfter i (meas.motors i) (errorOf c meas i) c.dtS) (meas.motors i)
      (errorOf c meas i)).2 = _
  rw [hlatch]
  unfold reach shift
  by_cases hin : g.LatchesIn c meas i
  · simp [hin]
  · simp [hin]

/-- No call changes the guard's side or its parameters. -/
theorem call_config (g : HandGuard K) (c : GuardCall K) :
    (g.call c).p = g.p ∧ (g.call c).isLeft = g.isLeft := by
  unfold call apply
  split
  · exact ⟨rfl, rfl⟩
  · split <;> exact ⟨rfl, rfl⟩

/-! ## The stall torque -/

/-- `kp * |q - q_meas|` is at most `max(tau_max, kp_hold * stall_offset)`. -/
def TorqueBounded (g : HandGuard K) (c : GuardCall K) (meas : HandState K) (i : Fin 7) : Prop :=
  (g.apply c.desired c.meas c.dtS).2.kp i *
      |(g.apply c.desired c.meas c.dtS).2.q i - (meas.motors i).q| ≤
    max g.p.tauMax (g.p.kpHold * g.p.stallOffset)

/-- The gain of the call, over the distance of the measured position from the joint limits. -/
def OutsideBounded (g : HandGuard K) (c : GuardCall K) (meas : HandState K) (i : Fin 7) : Prop :=
  (if g.LatchesIn c meas i then g.p.kpHold else g.p.kp) *
      outside (dex3Min K g.isLeft i) (dex3Max K g.isLeft i) (meas.motors i).q ≤
    max g.p.tauMax (g.p.kpHold * g.p.stallOffset)

/-- The gains and limits of the torque bound are not negative. -/
structure Params.NonNeg (p : Params K) : Prop where
  kp : 0 ≤ p.kp
  tauMax : 0 ≤ p.tauMax
  kpHold : 0 ≤ p.kpHold
  stallOffset : 0 ≤ p.stallOffset

variable [IsStrictOrderedRing K]

theorem outside_of_mem {lo hi x : K} (hlo : lo ≤ x) (hhi : x ≤ hi) : outside lo hi x = 0 :=
  max_eq_right (max_le (sub_nonpos.mpr hlo) (sub_nonpos.mpr hhi))

/-- The cut moves a target no further than the reach or out of the forbidden part. -/
theorem abs_clamp_sub_le (lo hi x s : K) :
    |clamp (x + s) lo hi - x| ≤ max (outside lo hi x) |s| := by
  have hs := abs_le.mp (le_refl |s|)
  have hout : lo - x ≤ outside lo hi x ∧ x - hi ≤ outside lo hi x :=
    ⟨(le_max_left _ _).trans (le_max_left _ _), (le_max_right _ _).trans (le_max_left _ _)⟩
  have hleft := le_max_left (outside lo hi x) |s|
  have hright := le_max_right (outside lo hi x) |s|
  unfold clamp
  rw [abs_le]
  split_ifs <;> constructor <;> linarith [hs.1, hs.2, hout.1, hout.2]

theorem outside_le_abs_clamp_sub {lo hi : K} (h : lo ≤ hi) (x y : K) :
    outside lo hi x ≤ |clamp y lo hi - x| := by
  obtain ⟨hlo, hhi⟩ := clamp_mem h y
  have hle := le_abs_self (clamp y lo hi - x)
  have hneg := neg_le_abs (clamp y lo hi - x)
  refine max_le (max_le ?_ ?_) (abs_nonneg _)
  · linarith
  · linarith

/-- A gain over a cut target: bounded where the reach is, exactly if the way back into the limits
is. -/
theorem gain_clamp_iff {lo hi gain bound s : K} (h : lo ≤ hi) (hgain : 0 ≤ gain) (x : K)
    (hs : gain * |s| ≤ bound) :
    gain * |clamp (x + s) lo hi - x| ≤ bound ↔ gain * outside lo hi x ≤ bound := by
  constructor
  · exact fun hle =>
      (mul_le_mul_of_nonneg_left (outside_le_abs_clamp_sub h x (x + s)) hgain).trans hle
  · intro hle
    calc gain * |clamp (x + s) lo hi - x|
        ≤ gain * max (outside lo hi x) |s| := 
          mul_le_mul_of_nonneg_left (abs_clamp_sub_le lo hi x s) hgain
      _ = max (gain * outside lo hi x) (gain * |s|) := mul_max_of_nonneg _ _ hgain
      _ ≤ bound := max_le hle hs

theorem eMax_nonneg {p : Params K} (htau : 0 ≤ p.tauMax) : 0 ≤ p.tauMax / max p.kp 1e-3 := by
  have hgain : (0 : K) < max p.kp 1e-3 := lt_max_of_lt_right (by norm_num)
  exact div_nonneg htau hgain.le

/-- Within reach of the measured position, the gain stays under the torque limit. -/
theorem kp_eMax_le {p : Params K} (hp : p.NonNeg) :
    p.kp * (p.tauMax / max p.kp 1e-3) ≤ p.tauMax := by
  have hgain : (0 : K) < max p.kp 1e-3 := lt_max_of_lt_right (by norm_num)
  have hle : p.kp / max p.kp 1e-3 ≤ 1 := (div_le_one hgain).mpr (le_max_left _ _)
  calc p.kp * (p.tauMax / max p.kp 1e-3)
      = p.kp / max p.kp 1e-3 * p.tauMax := by ring
    _ ≤ 1 * p.tauMax := mul_le_mul_of_nonneg_right hle hp.tauMax
    _ = p.tauMax := one_mul _

/-- The gain times the reach is within the bound, latched or not. -/
theorem gain_shift_le (hp : g.p.NonNeg) (latched : Bool) (e : K) :
    (if latched = true then g.p.kpHold else g.p.kp) * |g.shift latched e| ≤
      max g.p.tauMax (g.p.kpHold * g.p.stallOffset) := by
  unfold shift
  cases latched with
  | true =>
    apply le_max_of_le_right
    rw [if_pos rfl, if_pos rfl, abs_mul, abs_of_nonneg hp.stallOffset]
    apply mul_le_mul_of_nonneg_left _ hp.kpHold
    have hsign : |(if 0 < e then 1 else if e < 0 then -1 else 0 : K)| ≤ 1 := by
      split_ifs <;> simp
    exact mul_le_of_le_one_right hp.stallOffset hsign
  | false =>
    apply le_max_of_le_left
    rw [if_neg Bool.false_ne_true, if_neg Bool.false_ne_true]
    have hle := eMax_nonneg hp.tauMax
    obtain ⟨hlo, hhi⟩ := clamp_mem (neg_le_self hle) e
    exact (mul_le_mul_of_nonneg_left (abs_le.mpr ⟨hlo, hhi⟩) hp.kp).trans (kp_eMax_le hp)

theorem torqueBounded_iff (hp : g.p.NonNeg) :
    EachGuarded TorqueBounded g c ↔ EachGuarded OutsideBounded g c := by
  refine forall_congr' fun hon => forall_congr' fun hdesired => forall_congr' fun meas =>
    forall_congr' fun hmeas => forall_congr' fun i => ?_
  obtain ⟨hq, hkp⟩ := apply_guarded hon hdesired hmeas i
  have hgain : 0 ≤ if g.LatchesIn c meas i then g.p.kpHold else g.p.kp := by
    split
    · exact hp.kpHold
    · exact hp.kp
  have hshift := gain_shift_le hp (decide (g.LatchesIn c meas i)) (errorOf c meas i)
  simp only [decide_eq_true_iff] at hshift
  unfold TorqueBounded OutsideBounded
  rw [hq, hkp]
  exact gain_clamp_iff (dex3Min_le_dex3Max _ _) hgain _ hshift

/-- Over every history of calls: the torque that the published gain and target make on a blocked
finger is bounded in every call exactly if, in every call, the gain over the distance of each
measured position from the joint limits is. -/
theorem stall_torque_iff (isLeft : Bool) {p : Params K} (hp : p.NonNeg) (cs : List (GuardCall K)) :
    Throughout (EachGuarded TorqueBounded) call { isLeft := isLeft, p := p } cs ↔
      Throughout (EachGuarded OutsideBounded) call { isLeft := isLeft, p := p } cs :=
  throughout_congr (I := fun g => g.p = p) rfl
    (fun _ _ hg => torqueBounded_iff (hg ▸ hp))
    (fun g c hg _ => (g.call_config c).1.trans hg) cs

/-- A measured position in the joint limits is never too far outside of them. -/
theorem outsideBounded_of_within (hp : g.p.NonNeg)
    (hmeas : WithinLimits g.isLeft fun i => (meas.motors i).q) (i : Fin 7) :
    OutsideBounded g c meas i := by
  unfold OutsideBounded
  rw [outside_of_mem (hmeas i).1 (hmeas i).2, mul_zero]
  exact le_max_of_le_left hp.tauMax

/-- The index finger is measured half a radian past its open end, and opens. -/
def pastOpenEnd : GuardCall ℚ :=
  { desired := {}
    meas := some { motors := fun i => { q := if i.val = 3 then 0.5 else 0 } }
    dtS := 0.01 }

/-- With the shipped parameters the torque on it is 0.75 Nm, over the bound of 0.6. -/
theorem overshoot_exceeds :
    ¬ Throughout (EachGuarded TorqueBounded) call ({} : HandGuard ℚ) [pastOpenEnd] := by
  rintro ⟨hbounded, -⟩
  have h := hbounded rfl rfl _ rfl 3
  unfold TorqueBounded at h
  exact absurd h (by decide +kernel)

/-- A finger blocked in its range. -/
def blockedInRange : GuardCall ℚ :=
  { desired := { q := fun i => if i.val = 2 then 1.5 else 0 }
    meas := some { motors := fun i => { q := if i.val = 2 then 0.3 else 0 } }
    dtS := 0.01 }

theorem stall_torque_iff_blocked :
    Throughout (EachGuarded TorqueBounded) call
      ({ isLeft := true, p := {} } : HandGuard ℚ) [blockedInRange] := by
  have hp : ({} : Params ℚ).NonNeg := ⟨by norm_num, by norm_num, by norm_num, by norm_num⟩
  apply (stall_torque_iff true hp [blockedInRange]).mpr
  refine ⟨?_, trivial⟩
  rintro - - meas ⟨⟩
  apply outsideBounded_of_within hp
  unfold WithinLimits
  decide +kernel

/-! ## The target is not passed -/

/-- With both positions in the joint limits, the published target is between them. -/
def ReachBetween (g : HandGuard K) (c : GuardCall K) (meas : HandState K) (i : Fin 7) : Prop :=
  WithinLimits g.isLeft c.desired.q → WithinLimits g.isLeft (fun i => (meas.motors i).q) →
    (g.apply c.desired c.meas c.dtS).2.q i ∈ Set.uIcc (meas.motors i).q (c.desired.q i)

/-- A motor that latches keeps an offset of at most its error, or one that a joint limit cuts to
it. -/
def OffsetFits (g : HandGuard K) (c : GuardCall K) (meas : HandState K) (i : Fin 7) : Prop :=
  WithinLimits g.isLeft c.desired.q → WithinLimits g.isLeft (fun i => (meas.motors i).q) →
    g.LatchesIn c meas i →
    (0 < errorOf c meas i →
      (0 ≤ g.p.stallOffset ∨ (meas.motors i).q = dex3Min K g.isLeft i) ∧
        (g.p.stallOffset ≤ errorOf c meas i ∨ c.desired.q i = dex3Max K g.isLeft i)) ∧
    (errorOf c meas i < 0 →
      (0 ≤ g.p.stallOffset ∨ (meas.motors i).q = dex3Max K g.isLeft i) ∧
        (g.p.stallOffset ≤ -errorOf c meas i ∨ c.desired.q i = dex3Min K g.isLeft i))

theorem le_clamp_iff {lo hi y a : K} (ha : lo ≤ a) (hhi : a ≤ hi) :
    a ≤ clamp y lo hi ↔ a ≤ y ∨ a = lo := by
  unfold clamp
  constructor
  · intro hge
    by_contra hno
    obtain ⟨hy, hne⟩ := not_or.mp hno
    have hlt : lo < a := lt_of_le_of_ne ha (Ne.symm hne)
    split_ifs at hge <;> linarith
  · rintro (hy | rfl)
    · split_ifs <;> linarith
    · split_ifs <;> linarith

theorem clamp_le_iff {lo hi y b : K} (hlo : lo ≤ b) (hb : b ≤ hi) :
    clamp y lo hi ≤ b ↔ y ≤ b ∨ b = hi := by
  unfold clamp
  constructor
  · intro hle
    by_contra hno
    obtain ⟨hy, hne⟩ := not_or.mp hno
    have hlt : b < hi := lt_of_le_of_ne hb hne
    split_ifs at hle <;> linarith
  · rintro (hy | rfl)
    · split_ifs <;> linarith
    · split_ifs <;> linarith

theorem clamp_mem_uIcc_up {lo hi x d s : K} (hlo : lo ≤ x) (hx : x ≤ d) (hhi : d ≤ hi) :
    clamp (x + s) lo hi ∈ Set.uIcc x d ↔ (0 ≤ s ∨ x = lo) ∧ (s ≤ d - x ∨ d = hi) := by
  rw [Set.uIcc_of_le hx, Set.mem_Icc, le_clamp_iff hlo (hx.trans hhi),
    clamp_le_iff (hlo.trans hx) hhi, le_add_iff_nonneg_right, le_sub_iff_add_le']

theorem clamp_mem_uIcc_down {lo hi x d s : K} (hlo : lo ≤ d) (hx : d ≤ x) (hhi : x ≤ hi) :
    clamp (x + s) lo hi ∈ Set.uIcc x d ↔ (s ≤ 0 ∨ x = hi) ∧ (d - x ≤ s ∨ d = lo) := by
  rw [Set.uIcc_of_ge hx, Set.mem_Icc, le_clamp_iff hlo (hx.trans hhi),
    clamp_le_iff (hlo.trans hx) hhi, add_le_iff_nonpos_right, sub_le_iff_le_add', and_comm]

/-- A tracked motor is sent no further than its error. -/
theorem shift_tracking (htau : 0 ≤ g.p.tauMax) (e : K) :
    (0 ≤ e → 0 ≤ g.shift false e ∧ g.shift false e ≤ e) ∧
      (e ≤ 0 → g.shift false e ≤ 0 ∧ e ≤ g.shift false e) := by
  have hle := eMax_nonneg htau
  unfold shift clamp
  rw [if_neg Bool.false_ne_true]
  constructor
  · intro he
    split_ifs <;> constructor <;> linarith
  · intro he
    split_ifs <;> constructor <;> linarith

theorem shift_latched_pos {e : K} (he : 0 < e) : g.shift true e = g.p.stallOffset := by
  unfold shift
  rw [if_pos rfl, if_pos he, mul_one]

theorem shift_latched_neg {e : K} (he : e < 0) : g.shift true e = -g.p.stallOffset := by
  unfold shift
  rw [if_pos rfl, if_neg he.not_gt, if_pos he, mul_neg_one]

theorem shift_latched_zero : g.shift true 0 = 0 := by
  unfold shift
  rw [if_pos rfl, if_neg (lt_irrefl 0), if_neg (lt_irrefl 0), mul_zero]

section

variable {x d lo hi : K}

/-- The target of a latched motor, by the sign of its error. -/
theorem latched_mem_uIcc (hx : lo ≤ x ∧ x ≤ hi) (hd : lo ≤ d ∧ d ≤ hi) :
    clamp (x + g.shift true (d - x)) lo hi ∈ Set.uIcc x d ↔
      (0 < d - x →
        (0 ≤ g.p.stallOffset ∨ x = lo) ∧ (g.p.stallOffset ≤ d - x ∨ d = hi)) ∧
      (d - x < 0 →
        (0 ≤ g.p.stallOffset ∨ x = hi) ∧ (g.p.stallOffset ≤ -(d - x) ∨ d = lo)) := by
  rcases lt_trichotomy (d - x) 0 with hneg | hzero | hpos
  · rw [shift_latched_neg hneg, clamp_mem_uIcc_down hd.1 (by linarith) hx.2]
    constructor
    · rintro ⟨hback, hfits⟩
      refine ⟨fun hpos => absurd hpos hneg.not_gt, fun _ => ⟨?_, ?_⟩⟩
      · exact hback.imp_left neg_nonpos.mp
      · exact hfits.imp_left le_neg.mp
    · intro hfits
      obtain ⟨hback, hahead⟩ := hfits.2 hneg
      exact ⟨hback.imp_left neg_nonpos.mpr, hahead.imp_left le_neg.mpr⟩
  · have heq : clamp (x + 0) lo hi = x := by
      unfold clamp
      rw [add_zero, if_neg (not_lt.mpr hx.1), if_neg (not_lt.mpr hx.2)]
    rw [hzero, shift_latched_zero, heq]
    refine iff_of_true Set.left_mem_uIcc ⟨?_, ?_⟩
    · exact fun hpos => absurd hpos (lt_irrefl 0)
    · exact fun hneg => absurd hneg (lt_irrefl 0)
  · rw [shift_latched_pos hpos, clamp_mem_uIcc_up hx.1 (by linarith) hd.2]
    constructor
    · rintro ⟨hback, hfits⟩
      exact ⟨fun _ => ⟨hback, hfits⟩, fun hneg => absurd hneg hpos.not_gt⟩
    · intro hfits
      exact hfits.1 hpos

/-- The target of a tracked motor. -/
theorem tracking_mem_uIcc (htau : 0 ≤ g.p.tauMax) (hx : lo ≤ x ∧ x ≤ hi) (hd : lo ≤ d ∧ d ≤ hi) :
    clamp (x + g.shift false (d - x)) lo hi ∈ Set.uIcc x d := by
  obtain ⟨hup, hdown⟩ := shift_tracking htau (d - x)
  rcases le_total 0 (d - x) with hpos | hneg
  · obtain ⟨hge, hle⟩ := hup hpos
    rw [clamp_mem_uIcc_up hx.1 (by linarith) hd.2]
    exact ⟨Or.inl hge, Or.inl hle⟩
  · obtain ⟨hle, hge⟩ := hdown hneg
    rw [clamp_mem_uIcc_down hd.1 (by linarith) hx.2]
    exact ⟨Or.inl hle, Or.inl hge⟩

end

theorem reachBetween_iff (htau : 0 ≤ g.p.tauMax) :
    EachGuarded ReachBetween g c ↔ EachGuarded OffsetFits g c := by
  refine forall_congr' fun hon => forall_congr' fun hdesired => forall_congr' fun meas =>
    forall_congr' fun hmeas => forall_congr' fun i => forall_congr' fun hd =>
    forall_congr' fun hm => ?_
  obtain ⟨hq, -⟩ := apply_guarded hon hdesired hmeas i
  rw [hq]
  by_cases hin : g.LatchesIn c meas i
  · rw [decide_eq_true hin, imp_iff_right hin]
    exact latched_mem_uIcc (hm i) (hd i)
  · rw [decide_eq_false hin]
    exact iff_of_true (tracking_mem_uIcc htau (hm i) (hd i)) fun hlatches => absurd hlatches hin

/-- Over every history of calls: no published target passes the desired one exactly if no motor
latches on an error that is smaller than the offset it keeps. -/
theorem reach_between_iff (isLeft : Bool) {p : Params K} (htau : 0 ≤ p.tauMax)
    (cs : List (GuardCall K)) :
    Throughout (EachGuarded ReachBetween) call { isLeft := isLeft, p := p } cs ↔
      Throughout (EachGuarded OffsetFits) call { isLeft := isLeft, p := p } cs :=
  throughout_congr (I := fun g => g.p = p) rfl
    (fun _ _ hg => reachBetween_iff (hg ▸ htau))
    (fun g c hg _ => (g.call_config c).1.trans hg) cs

theorem reach_between_iff_blocked :
    Throughout (EachGuarded ReachBetween) call
      ({ isLeft := true, p := {} } : HandGuard ℚ) [blockedInRange] := by
  apply (reach_between_iff true (by norm_num) [blockedInRange]).mpr
  refine ⟨?_, trivial⟩
  rintro - - meas ⟨⟩ i - -
  revert i
  unfold blockedInRange
  decide +kernel

/-- A thumb joint stalls half a radian from its target, which then comes back to 0.2 rad. -/
def stalledThenNear : List (GuardCall ℚ) :=
  [{ desired := { q := fun i => if i.val = 2 then 0.5 else 0 }, meas := some {}, dtS := 0.3 },
    { desired := { q := fun i => if i.val = 2 then 0.2 else 0 }, meas := some {}, dtS := 0.01 }]

/-- With the shipped parameters it is sent 0.05 rad past the target. -/
theorem offset_passes_target :
    ¬ Throughout (EachGuarded ReachBetween) call ({} : HandGuard ℚ) stalledThenNear := by
  rintro ⟨-, hbetween, -⟩
  have h := hbetween (by decide +kernel) rfl {} rfl 2 (by unfold WithinLimits; decide +kernel)
    (by unfold WithinLimits; decide +kernel)
  rw [Set.mem_uIcc] at h
  exact absurd h (by decide +kernel)

end HandGuard

end Gearsonic
