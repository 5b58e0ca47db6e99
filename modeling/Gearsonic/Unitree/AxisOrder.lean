import Gearsonic.Unitree.HandCommandWriter
import Mathlib.Algebra.Order.Field.Basic
import Mathlib.Data.Fintype.Basic
import Mathlib.Order.Interval.Set.UnorderedInterval
import Mathlib.Tactic.FinCases
import Mathlib.Tactic.Linarith
import Mathlib.Tactic.NormNum

/-!
# Pulling harder closes further

A controller axis moves the motors of its group from open to close, and held at its end on to the
fist. Two runs over the same times are compared, the second with the axis pulled at least as far
at every tick.

* `Squeezes.heldS_le`: the squeeze timer of the second run is never behind.
* `blend_mem_uIcc`: both stages of the mapping lead towards the fist.
* `Squeezes.pulling_harder`: each motor of the second run is between the first run's and the
  fist, and a motor does not see the other axis.
-/

set_option linter.unusedSectionVars false

namespace Gearsonic

/-- What one tick feeds into the mapping of a hand. -/
structure AxisTick (K : Type) where
  grip : K
  trigger : K
  dtS : K

/-- The axis that moves motor `i`. -/
def AxisTick.axis {K : Type} (a : AxisTick K) (i : Fin 7) : K :=
  if motorOnTrigger i then a.trigger else a.grip

/-- The squeeze timers of the two axes of a hand. -/
structure Squeezes (K : Type) [Field K] where
  grip : HoldSqueeze K := {}
  trigger : HoldSqueeze K := {}

section

variable (K : Type) [Field K]

/-- The three poses of a hand, as `hand_command_from_axes` picks them. -/
def dex3Open (isLeft : Bool) : Fin 7 → K := if isLeft then kDex3LeftOpen K else kDex3RightOpen K
def dex3Close (isLeft : Bool) : Fin 7 → K :=
  if isLeft then kDex3LeftClose K else kDex3RightClose K
def dex3Fist (isLeft : Bool) : Fin 7 → K := if isLeft then kDex3LeftFist K else kDex3RightFist K

end

namespace Squeezes

variable {K : Type} [Field K] [LinearOrder K]

/-- The timer of the axis that moves motor `i`. -/
def timer (s : Squeezes K) (i : Fin 7) : HoldSqueeze K :=
  if motorOnTrigger i then s.trigger else s.grip

/-- The timers after a tick. -/
def advance (s : Squeezes K) (a : AxisTick K) : Squeezes K :=
  ⟨(s.grip.update a.grip a.dtS).1, (s.trigger.update a.trigger a.dtS).1⟩

/-- The hand's command in a tick. -/
def command (s : Squeezes K) (a : AxisTick K) (isLeft : Bool) (kp kd : K) : HandCommand K :=
  .fromAxes a.grip a.trigger (s.grip.update a.grip a.dtS).2
    (s.trigger.update a.trigger a.dtS).2 isLeft kp kd

/-- The timers before tick `k`. -/
def before (s : Squeezes K) (ticks : Nat → AxisTick K) : Nat → Squeezes K
  | 0 => s
  | k + 1 => (s.before ticks k).advance (ticks k)

/-- The command of tick `k`. -/
def commandAt (s : Squeezes K) (ticks : Nat → AxisTick K) (isLeft : Bool) (kp kd : K) (k : Nat) :
    HandCommand K :=
  (s.before ticks k).command (ticks k) isLeft kp kd

/-- The squeeze fraction of motor `i`'s axis in tick `k`. -/
def fractionAt (s : Squeezes K) (ticks : Nat → AxisTick K) (i : Fin 7) (k : Nat) : K :=
  (((s.before ticks k).timer i).update ((ticks k).axis i) (ticks k).dtS).2

variable {s : Squeezes K}

/-- The hand writer runs a pair of timers for each hand, at its own period. -/
theorem trackAxes_eq (w : HandCommandWriter K) (ctrl : PicoVRController K) :
    (w.trackAxes ctrl).2 =
      ⟨command ⟨w.squeezeLGrip, w.squeezeLTrig⟩
          ⟨ctrl.leftGrip, ctrl.leftTrigger, HandCommandWriter.kPublishPeriodS⟩ true
          HandCommand.kHandKp HandCommand.kHandKd,
        command ⟨w.squeezeRGrip, w.squeezeRTrig⟩
          ⟨ctrl.rightGrip, ctrl.rightTrigger, HandCommandWriter.kPublishPeriodS⟩ false
          HandCommand.kHandKp HandCommand.kHandKd⟩ := rfl

theorem timer_advance (s : Squeezes K) (a : AxisTick K) (i : Fin 7) :
    (s.advance a).timer i = ((s.timer i).update (a.axis i) a.dtS).1 := by
  unfold timer AxisTick.axis advance
  split <;> rfl

/-- A motor sees its own axis only. -/
theorem command_q (s : Squeezes K) (a : AxisTick K) (isLeft : Bool) (kp kd : K) (i : Fin 7) :
    (s.command a isLeft kp kd).q i =
      dex3Open K isLeft i +
        HandCommand.clamp01 (a.axis i) * (dex3Close K isLeft i - dex3Open K isLeft i) +
        HandCommand.clamp01 ((s.timer i).update (a.axis i) a.dtS).2 *
          (dex3Fist K isLeft i - dex3Close K isLeft i) := by
  unfold command HandCommand.fromAxes timer AxisTick.axis
  dsimp only
  cases motorOnTrigger i <;> rfl

/-! ## The timers -/

variable [IsStrictOrderedRing K] {h h' : HoldSqueeze K} {axis axis' dtS : K}

theorem update_below (hbelow : axis < HoldSqueeze.kThreshold) : h.update axis dtS = ({}, 0) :=
  if_pos hbelow

theorem update_held (hheld : HoldSqueeze.kThreshold ≤ axis) :
    h.update axis dtS =
      (⟨h.heldS + dtS⟩,
        HandCommand.clamp01 ((h.heldS + dtS - HoldSqueeze.kDwellS) / HoldSqueeze.kRampS)) :=
  if_neg (not_lt.mpr hheld)

theorem clamp01_mono {v v' : K} (hv : v ≤ v') :
    HandCommand.clamp01 v ≤ HandCommand.clamp01 v' := by
  unfold HandCommand.clamp01
  split_ifs <;> linarith

theorem clamp01_bounds (v : K) : 0 ≤ HandCommand.clamp01 v ∧ HandCommand.clamp01 v ≤ 1 := by
  unfold HandCommand.clamp01
  split_ifs <;> constructor <;> linarith

theorem update_heldS_nonneg (hh : 0 ≤ h.heldS) (hdt : 0 ≤ dtS) :
    0 ≤ (h.update axis dtS).1.heldS := by
  rcases lt_or_ge axis HoldSqueeze.kThreshold with hbelow | hheld
  · rw [update_below hbelow]
  · rw [update_held hheld]
    exact add_nonneg hh hdt

theorem update_snd_bounds (h : HoldSqueeze K) (axis dtS : K) :
    0 ≤ (h.update axis dtS).2 ∧ (h.update axis dtS).2 ≤ 1 := by
  rcases lt_or_ge axis HoldSqueeze.kThreshold with hbelow | hheld
  · rw [update_below hbelow]
    exact ⟨le_rfl, zero_le_one⟩
  · rw [update_held hheld]
    exact clamp01_bounds _

/-- A timer that is not behind, under an axis pulled at least as far, does not fall behind, and
neither does its squeeze. -/
theorem update_le_update (hdt : 0 ≤ dtS) (hh : 0 ≤ h.heldS) (hle : h.heldS ≤ h'.heldS)
    (haxis : axis ≤ axis') :
    (h.update axis dtS).1.heldS ≤ (h'.update axis' dtS).1.heldS ∧
      (h.update axis dtS).2 ≤ (h'.update axis' dtS).2 := by
  rcases lt_or_ge axis HoldSqueeze.kThreshold with hbelow | hheld
  · rw [update_below hbelow]
    exact ⟨update_heldS_nonneg (hh.trans hle) hdt, (update_snd_bounds h' axis' dtS).1⟩
  · rw [update_held hheld, update_held (hheld.trans haxis)]
    have hsum : h.heldS + dtS ≤ h'.heldS + dtS := by linarith
    refine ⟨hsum, clamp01_mono ?_⟩
    apply div_le_div_of_nonneg_right (sub_le_sub_right hsum _)
    norm_num [HoldSqueeze.kRampS]

/-- Neither timer is negative, as after any ticks of nonnegative length. -/
def NonNeg (s : Squeezes K) : Prop := ∀ i, 0 ≤ (s.timer i).heldS

theorem NonNeg.start : NonNeg ({} : Squeezes K) := by
  intro i
  unfold timer
  split <;> exact le_rfl

theorem NonNeg.advance (hs : NonNeg s) {a : AxisTick K} (hdt : 0 ≤ a.dtS) :
    NonNeg (s.advance a) := by
  intro i
  rw [timer_advance]
  exact update_heldS_nonneg (hs i) hdt

variable {ticks ticks' : Nat → AxisTick K} {i : Fin 7}

theorem NonNeg.before (hs : NonNeg s) (hdt : ∀ k, 0 ≤ (ticks k).dtS) (k : Nat) :
    NonNeg (s.before ticks k) := by
  induction k with
  | zero => exact hs
  | succ k ih => exact ih.advance (hdt k)

theorem heldS_le (hs : NonNeg s) (hdt : ∀ k, (ticks' k).dtS = (ticks k).dtS ∧ 0 ≤ (ticks k).dtS)
    (haxis : ∀ k, (ticks k).axis i ≤ (ticks' k).axis i) (k : Nat) :
    ((s.before ticks k).timer i).heldS ≤ ((s.before ticks' k).timer i).heldS := by
  induction k with
  | zero => exact le_rfl
  | succ k ih =>
    have hnonneg := hs.before (fun k => (hdt k).2) k i
    unfold Squeezes.before
    rw [timer_advance, timer_advance, (hdt k).1]
    exact (update_le_update (hdt k).2 hnonneg ih (haxis k)).1

/-! ## The mapping -/

theorem toward_fist (isLeft : Bool) (i : Fin 7) :
    (dex3Open K isLeft i ≤ dex3Close K isLeft i ∧ dex3Close K isLeft i ≤ dex3Fist K isLeft i) ∨
      (dex3Close K isLeft i ≤ dex3Open K isLeft i ∧
        dex3Fist K isLeft i ≤ dex3Close K isLeft i) := by
  cases isLeft <;> fin_cases i <;>
    norm_num [dex3Open, dex3Close, dex3Fist, kDex3LeftOpen, kDex3RightOpen, kDex3LeftClose,
      kDex3RightClose, kDex3LeftFist, kDex3RightFist, kThumbOpenBend]

/-- Two stages that lead upwards, at most to their end. -/
theorem blend_mem_Icc {opened close fist t t' s s' : K} (hclose : opened ≤ close)
    (hfist : close ≤ fist) (ht : t ≤ t') (ht1 : t' ≤ 1) (hs : s ≤ s') (hs1 : s' ≤ 1) :
    opened + t' * (close - opened) + s' * (fist - close) ∈
      Set.Icc (opened + t * (close - opened) + s * (fist - close)) fist := by
  have hc : 0 ≤ close - opened := sub_nonneg.mpr hclose
  have hf : 0 ≤ fist - close := sub_nonneg.mpr hfist
  constructor
  · have ht' := mul_le_mul_of_nonneg_right ht hc
    have hs' := mul_le_mul_of_nonneg_right hs hf
    linarith
  · have ht' := mul_le_mul_of_nonneg_right ht1 hc
    have hs' := mul_le_mul_of_nonneg_right hs1 hf
    linarith

theorem blend_mem_uIcc {opened close fist t t' s s' : K}
    (hsame : (opened ≤ close ∧ close ≤ fist) ∨ (close ≤ opened ∧ fist ≤ close))
    (ht : t ≤ t') (ht1 : t' ≤ 1) (hs : s ≤ s') (hs1 : s' ≤ 1) :
    opened + t' * (close - opened) + s' * (fist - close) ∈
      Set.uIcc (opened + t * (close - opened) + s * (fist - close)) fist := by
  rcases hsame with ⟨hclose, hfist⟩ | ⟨hclose, hfist⟩
  · exact Set.Icc_subset_uIcc (blend_mem_Icc hclose hfist ht ht1 hs hs1)
  · -- the same upside down
    have hneg := blend_mem_Icc (neg_le_neg hclose) (neg_le_neg hfist) ht ht1 hs hs1
    apply Set.Icc_subset_uIcc'
    constructor
    · linarith [hneg.2]
    · linarith [hneg.1]

theorem right_eq_neg_left (isLeft : Bool) (i : Fin 7) :
    dex3Open K (!isLeft) i = -dex3Open K isLeft i ∧
      dex3Close K (!isLeft) i = -dex3Close K isLeft i ∧
      dex3Fist K (!isLeft) i = -dex3Fist K isLeft i := by
  cases isLeft <;> fin_cases i <;>
    norm_num [dex3Open, dex3Close, dex3Fist, kDex3LeftOpen, kDex3RightOpen, kDex3LeftClose,
      kDex3RightClose, kDex3LeftFist, kDex3RightFist, kThumbOpenBend]

/-! ## Two runs -/

theorem commandAt_mem_uIcc (hs : NonNeg s)
    (hdt : ∀ k, (ticks' k).dtS = (ticks k).dtS ∧ 0 ≤ (ticks k).dtS)
    (haxis : ∀ k, (ticks k).axis i ≤ (ticks' k).axis i) (isLeft : Bool) (kp kd : K) (k : Nat) :
    (s.commandAt ticks' isLeft kp kd k).q i ∈
      Set.uIcc ((s.commandAt ticks isLeft kp kd k).q i) (dex3Fist K isLeft i) := by
  have hnonneg := hs.before (fun k => (hdt k).2) k i
  have hfraction := (update_le_update (hdt k).2 hnonneg (heldS_le hs hdt haxis k) (haxis k)).2
  unfold commandAt
  rw [command_q, command_q, (hdt k).1]
  exact blend_mem_uIcc (toward_fist isLeft i) (clamp01_mono (haxis k)) (clamp01_bounds _).2
    (clamp01_mono hfraction) (clamp01_bounds _).2

theorem timer_congr (hdt : ∀ k, (ticks' k).dtS = (ticks k).dtS)
    (haxis : ∀ k, (ticks k).axis i = (ticks' k).axis i) (k : Nat) :
    (s.before ticks' k).timer i = (s.before ticks k).timer i := by
  induction k with
  | zero => rfl
  | succ k ih =>
    unfold Squeezes.before
    rw [timer_advance, timer_advance, ih, hdt k, haxis k]

/-- Over every two histories of the same nonnegative tick lengths, from the same timers: where the
axis of motor `i` is pulled at least as far at every tick, the motor is at every tick between the
other run and the fist; a motor depends on the axis of its own group alone; the squeeze fraction
is in [0, 1], and 0 below the threshold; and the other hand's command is the negation. -/
theorem pulling_harder (hs : NonNeg s)
    (hdt : ∀ k, (ticks' k).dtS = (ticks k).dtS ∧ 0 ≤ (ticks k).dtS) (isLeft : Bool) (kp kd : K) :
    (∀ i, (∀ k, (ticks k).axis i ≤ (ticks' k).axis i) → ∀ k,
        (s.commandAt ticks' isLeft kp kd k).q i ∈
          Set.uIcc ((s.commandAt ticks isLeft kp kd k).q i) (dex3Fist K isLeft i)) ∧
      (∀ i, (∀ k, (ticks k).axis i = (ticks' k).axis i) → ∀ k,
        (s.commandAt ticks' isLeft kp kd k).q i = (s.commandAt ticks isLeft kp kd k).q i) ∧
      (∀ i k, 0 ≤ s.fractionAt ticks i k ∧ s.fractionAt ticks i k ≤ 1 ∧
        ((ticks k).axis i < HoldSqueeze.kThreshold → s.fractionAt ticks i k = 0)) ∧
      ∀ i k,
        (s.commandAt ticks (!isLeft) kp kd k).q i = -(s.commandAt ticks isLeft kp kd k).q i := by
  refine ⟨fun i haxis k => commandAt_mem_uIcc hs hdt haxis isLeft kp kd k, fun i haxis k => ?_,
    fun i k => ?_, fun i k => ?_⟩
  · unfold commandAt
    rw [command_q, command_q, timer_congr (fun k => (hdt k).1) haxis, (hdt k).1, haxis k]
  · obtain ⟨hlow, hhigh⟩ := update_snd_bounds ((s.before ticks k).timer i) ((ticks k).axis i)
      (ticks k).dtS
    refine ⟨hlow, hhigh, fun hbelow => ?_⟩
    unfold fractionAt
    rw [update_below hbelow]
  · obtain ⟨hopen, hclose, hfist⟩ := right_eq_neg_left (K := K) isLeft i
    unfold commandAt
    rw [command_q, command_q, hopen, hclose, hfist]
    ring

theorem pulling_harder_grip :
    ((({} : Squeezes ℚ).commandAt (fun _ => ⟨1, 0, 1⟩) true 1 0 3).q 5 ∈
      Set.uIcc ((({} : Squeezes ℚ).commandAt (fun _ => ⟨0, 0, 1⟩) true 1 0 3).q 5)
        (dex3Fist ℚ true 5)) ∧
    (({} : Squeezes ℚ).commandAt (fun _ => ⟨0, 0, 1⟩) false 1 0 3).q 5 =
      -(({} : Squeezes ℚ).commandAt (fun _ => ⟨0, 0, 1⟩) true 1 0 3).q 5 := by
  obtain ⟨hmem, -, -, hneg⟩ := @pulling_harder ℚ _ _ {} _ (fun _ => ⟨0, 0, 1⟩)
    (fun _ => ⟨1, 0, 1⟩) NonNeg.start (fun _ => ⟨rfl, zero_le_one⟩) true 1 0
  refine ⟨hmem 5 (fun _ => ?_) 3, hneg 5 3⟩
  unfold AxisTick.axis
  split
  · exact le_rfl
  · exact zero_le_one

end Squeezes

end Gearsonic
