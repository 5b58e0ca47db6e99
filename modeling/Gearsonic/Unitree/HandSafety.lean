import Gearsonic.Numeric.Slide
import Gearsonic.Transition.Loop
import Gearsonic.Unitree.FloatHand
import Mathlib.Data.Fintype.Basic
import Mathlib.Tactic.FinCases
import Mathlib.Tactic.NormNum

/-!
# Published hand commands

Whatever the hand writer reads, tick after tick, each published command of a hand is a stop or an
enabled command. The enabled ones keep their joints in that hand's limits, with one exception:
`std::clamp` lets NaN through, from an axis, from a measured position or from the guard's
parameters.

* `axes_within`: the axis mapping slides twice between poses that lie in the limits.
* `reach_iff`: when the guard's reach is no NaN.
* `published_safe_iff`: in which runs every published command is safe.
-/

set_option linter.unusedSectionVars false

namespace Gearsonic

open Numeric Transition
open FloatVal (finite fabs inf nan)

variable {K : Type} [Field K] [LinearOrder K] [IsStrictOrderedRing K]

/-- Every joint is in the limits of the hand. -/
def WithinLimits (isLeft : Bool) (q : Fin 7 → K) : Prop :=
  ∀ i, dex3Min K isLeft i ≤ q i ∧ q i ≤ dex3Max K isLeft i

theorem dex3Min_le_dex3Max (isLeft : Bool) (i : Fin 7) :
    dex3Min K isLeft i ≤ dex3Max K isLeft i := by
  cases isLeft <;> fin_cases i <;>
    norm_num [dex3Min, dex3Max, kDex3LeftMin, kDex3LeftMax, kDex3RightMin, kDex3RightMax]

/-! ## The axes -/

/-- Open, close, and what either is with the squeeze added, lie in the limits. -/
theorem poses_within (isLeft : Bool) (i : Fin 7) :
    let opened := if isLeft then kDex3LeftOpen K else kDex3RightOpen K
    let close := if isLeft then kDex3LeftClose K else kDex3RightClose K
    let fist := if isLeft then kDex3LeftFist K else kDex3RightFist K
    (dex3Min K isLeft i ≤ opened i ∧ opened i ≤ dex3Max K isLeft i) ∧
      (dex3Min K isLeft i ≤ close i ∧ close i ≤ dex3Max K isLeft i) ∧
      (dex3Min K isLeft i ≤ opened i + (fist i - close i) ∧
        opened i + (fist i - close i) ≤ dex3Max K isLeft i) ∧
      dex3Min K isLeft i ≤ fist i ∧ fist i ≤ dex3Max K isLeft i := by
  cases isLeft <;> fin_cases i <;>
    norm_num [dex3Min, dex3Max, kDex3LeftMin, kDex3LeftMax, kDex3RightMin, kDex3RightMax,
      kDex3LeftOpen, kDex3RightOpen, kDex3LeftClose, kDex3RightClose, kDex3LeftFist,
      kDex3RightFist, kThumbOpenBend]

/-- The mapping of one joint: a slide of the squeeze between two slides of the axis. -/
theorem axes_slide (opened close fist t s : K) :
    opened + t * (close - opened) + s * (fist - close) =
      slide (slide opened close t) (slide (opened + (fist - close)) fist t) s := by
  unfold slide
  ring

theorem axes_within (isLeft : Bool) (i : Fin 7) {t s : K} (ht : 0 ≤ t ∧ t ≤ 1)
    (hs : 0 ≤ s ∧ s ≤ 1) :
    let opened := if isLeft then kDex3LeftOpen K else kDex3RightOpen K
    let close := if isLeft then kDex3LeftClose K else kDex3RightClose K
    let fist := if isLeft then kDex3LeftFist K else kDex3RightFist K
    dex3Min K isLeft i ≤ opened i + t * (close i - opened i) + s * (fist i - close i) ∧
      opened i + t * (close i - opened i) + s * (fist i - close i) ≤ dex3Max K isLeft i := by
  obtain ⟨⟨ho, ho'⟩, ⟨hc, hc'⟩, ⟨hq, hq'⟩, hf, hf'⟩ := poses_within (K := K) isLeft i
  dsimp only
  rw [axes_slide]
  constructor
  · exact le_slide hs.1 hs.2 (le_slide ht.1 ht.2 ho hc) (le_slide ht.1 ht.2 hq hf)
  · exact slide_le hs.1 hs.2 (slide_le ht.1 ht.2 ho' hc') (slide_le ht.1 ht.2 hq' hf')

theorem clamp01_mem (v : K) : 0 ≤ HandCommand.clamp01 v ∧ HandCommand.clamp01 v ≤ 1 :=
  clamp_mem zero_le_one v

/-- A number within the limits of the motor. -/
def InLimits (isLeft : Bool) (i : Fin 7) (q : FloatVal K) : Prop :=
  ∃ x, q = finite x ∧ dex3Min K isLeft i ≤ x ∧ x ≤ dex3Max K isLeft i

theorem not_inLimits_nan (isLeft : Bool) (i : Fin 7) : ¬ InLimits isLeft i (nan : FloatVal K) := by
  rintro ⟨x, hx, -⟩
  cases hx

theorem inLimits_clamp_iff (isLeft : Bool) (i : Fin 7) (q : FloatVal K) :
    InLimits isLeft i (FloatVal.clamp q (finite (dex3Min K isLeft i))
      (finite (dex3Max K isLeft i))) ↔ q ≠ nan :=
  FloatVal.clamp_mem_iff (dex3Min_le_dex3Max isLeft i) q

namespace FloatHandCommand

/-- A stop, or an enabled command within the limits. -/
def Safe (isLeft : Bool) (cmd : FloatHandCommand K) : Prop :=
  (cmd.enabled = false ∧ ∀ i, cmd.kp i = 0 ∧ cmd.kd i = 0) ∨
    (cmd.enabled = true ∧ ∀ i, InLimits isLeft i (cmd.q i))

theorem stop_safe (isLeft : Bool) : Safe isLeft (stop : FloatHandCommand K) :=
  Or.inl ⟨rfl, fun _ => ⟨rfl, rfl⟩⟩

theorem safe_iff {isLeft : Bool} {cmd : FloatHandCommand K} (h : cmd.enabled = true) :
    cmd.Safe isLeft ↔ ∀ i, InLimits isLeft i (cmd.q i) := by
  unfold Safe
  rw [h]
  simp

/-- A target is a number within the limits, or NaN where what it comes from is. -/
def Target (isLeft : Bool) (i : Fin 7) (sourced : Prop) (q : FloatVal K) : Prop :=
  (sourced → InLimits isLeft i q) ∧ (¬ sourced → q = nan)

theorem fromVlaJoints_target (q : Fin 7 → FloatVal K) (isLeft : Bool) (i : Fin 7) :
    Target isLeft i (q i ≠ nan) ((fromVlaJoints q isLeft).q i) := by
  refine ⟨(inLimits_clamp_iff isLeft i (q i)).mpr, fun hnan => ?_⟩
  rw [not_not] at hnan
  show FloatVal.clamp (q i) _ _ = nan
  rw [hnan, FloatVal.clamp_nan]

theorem fromGripAndTrigger_target (grip trigger : FloatVal K) (squeezeGrip squeezeTrigger : K)
    (isLeft : Bool) (i : Fin 7) :
    Target isLeft i ((if motorOnTrigger i then trigger else grip) ≠ nan)
      ((fromGripAndTrigger grip trigger squeezeGrip squeezeTrigger isLeft).q i) := by
  have haxis : (if motorOnTrigger i then clamp01 trigger else clamp01 grip) =
      FloatVal.clamp (if motorOnTrigger i then trigger else grip) (finite 0) (finite 1) := by
    split <;> rfl
  have hsqueeze : 0 ≤ (if motorOnTrigger i then HandCommand.clamp01 squeezeTrigger
      else HandCommand.clamp01 squeezeGrip) ∧ (if motorOnTrigger i then
        HandCommand.clamp01 squeezeTrigger else HandCommand.clamp01 squeezeGrip) ≤ 1 := by
    split
    · exact clamp01_mem squeezeTrigger
    · exact clamp01_mem squeezeGrip
  simp only [fromGripAndTrigger, fromAxes, haxis]
  constructor
  · intro hne
    obtain ⟨t, ht, ht0, ht1⟩ := (FloatVal.clamp_mem_iff zero_le_one _).mpr hne
    rw [ht]
    exact ⟨_, rfl, axes_within isLeft i ⟨ht0, ht1⟩ hsqueeze⟩
  · intro hnan
    rw [not_not] at hnan
    rw [hnan, FloatVal.clamp_nan, FloatVal.nan_mul, FloatVal.add_nan, FloatVal.nan_add]

end FloatHandCommand

/-! ## The guard -/

namespace FloatGuard

variable {g : FloatGuard K} {i : Fin 7} {m : FloatMotorState K} {d : FloatVal K} {dtS : K}

/-- The motor latches in a call: it is hot, or its error is not small and it was latched before or
has been stalled for long enough by now. -/
def Latches (g : FloatGuard K) (i : Fin 7) (m : FloatMotorState K) (e : FloatVal K) (dtS : K) :
    Prop :=
  g.hot m = true ∨
    (¬ fabs e ≤ g.p.stallErrTh ∧
      (g.latched i = true ∨
        g.p.stallTimeS ≤ finite (if g.p.stallErrTh < fabs e ∧ fabs m.dq < g.p.stallVelTh then
          g.stallS i + dtS else 0)))

theorem latchAfter_iff (e : FloatVal K) : g.latchAfter i m e dtS = true ↔ g.Latches i m e dtS := by
  unfold latchAfter Latches stallTimer
  cases g.hot m <;> cases g.latched i <;> simp [and_comm]

/-- The reach of a motor that is not latched is a number, or without a lower end. -/
structure BoundsTorque (p : FloatGuard.Params K) : Prop where
  kp : p.kp ≠ nan
  tauMax : p.tauMax ≠ nan
  bounded : p.tauMax ≠ inf false
  below : p.tauMax = inf true → p.kp ≠ inf false

/-- No NaN reaches the position command of motor `i`, whose target is `d`: the measured position is
none; where the motor latches the offset is a number, or infinite towards a target that lies
elsewhere; where it does not the target is none, and an infinite position meets a bound. -/
structure Readable (g : FloatGuard K) (i : Fin 7) (m : FloatMotorState K) (sourced : Prop)
    (d : FloatVal K) (dtS : K) : Prop where
  measured : m.q ≠ nan
  held : g.Latches i m (d - m.q) dtS → g.p.stallOffset ≠ nan ∧
    (g.p.stallOffset.isFinite = false → sourced ∧ d ≠ m.q ∧
      (g.p.stallOffset = inf false → m.q.isFinite = true))
  tracked : ¬ g.Latches i m (d - m.q) dtS →
    sourced ∧ (m.q.isFinite = true ∨ BoundsTorque g.p)

/-- The sign of an error, as the guard takes it. -/
def sign (e : FloatVal K) : FloatVal K :=
  if 0 < e then finite 1 else if e < 0 then finite (-1) else 0

theorem sign_finite (x : K) : ∃ y, sign (finite x) = finite y ∧ (y = 0 ↔ x = 0) := by
  unfold sign
  rcases lt_trichotomy x 0 with hneg | rfl | hpos
  · refine ⟨-1, ?_, by simp [hneg.ne]⟩
    rw [if_neg (fun h => (FloatVal.zero_lt.mp h).not_gt hneg), if_pos (FloatVal.lt_zero.mpr hneg)]
  · refine ⟨0, ?_, by simp⟩
    rw [if_neg (fun h => lt_irrefl _ (FloatVal.zero_lt.mp h)),
      if_neg (fun h => lt_irrefl _ (FloatVal.lt_zero.mp h))]
    rfl
  · exact ⟨1, if_pos (FloatVal.zero_lt.mpr hpos), by simp [hpos.ne']⟩

theorem sign_inf (neg : Bool) : sign (inf neg : FloatVal K) = finite (if neg then -1 else 1) := by
  cases neg <;> rfl

theorem sign_nan : sign (nan : FloatVal K) = finite 0 := rfl

theorem sign_isFinite (e : FloatVal K) : ∃ y, sign e = finite y := by
  unfold sign
  split
  · exact ⟨1, rfl⟩
  · split
    · exact ⟨-1, rfl⟩
    · exact ⟨0, rfl⟩

/-- The command of a latched motor. -/
theorem held_iff (off x : FloatVal K) (hd : d = nan ∨ d.isFinite = true) :
    x + off * sign (d - x) ≠ nan ↔ x ≠ nan ∧ off ≠ nan ∧
      (off.isFinite = false → d ≠ nan ∧ d ≠ x ∧ (off = inf false → x.isFinite = true)) := by
  cases off with
  | nan =>
    rw [FloatVal.nan_mul, FloatVal.add_nan]
    exact ⟨fun h => absurd rfl h, fun h => absurd rfl h.2.1⟩
  | finite off =>
    obtain ⟨y, hy⟩ := sign_isFinite (d - x)
    rw [hy, FloatVal.finite_mul]
    cases x with
    | nan => exact ⟨fun h => absurd rfl h, fun h => absurd rfl h.1⟩
    | _ => exact ⟨fun _ => ⟨nofun, nofun, nofun⟩, fun _ => nofun⟩
  | inf neg =>
    rcases hd with rfl | hd
    · rw [FloatVal.nan_sub, sign_nan, FloatVal.inf_mul_finite, if_pos rfl, FloatVal.add_nan]
      exact ⟨fun h => absurd rfl h, fun h => absurd rfl (h.2.2 rfl).1⟩
    · obtain ⟨d, rfl⟩ := FloatVal.isFinite_iff.mp hd
      cases x with
      | nan =>
        rw [FloatVal.nan_add]
        exact ⟨fun h => absurd rfl h, fun h => absurd rfl h.1⟩
      | finite x =>
        obtain ⟨y, hy, hzero⟩ := sign_finite (d - x)
        rw [FloatVal.finite_sub, hy, FloatVal.inf_mul_finite, Ne, FloatVal.finite_add_eq_nan_iff]
        by_cases hdx : d = x
        · rw [if_pos (hzero.mpr (sub_eq_zero.mpr hdx))]
          exact ⟨fun h => absurd rfl h,
            fun h => absurd (congrArg finite hdx) (h.2.2 rfl).2.1⟩
        · rw [if_neg (fun h => hdx (sub_eq_zero.mp (hzero.mp h)))]
          refine ⟨fun _ => ⟨nofun, nofun, fun _ => ⟨nofun, ?_, fun _ => rfl⟩⟩, fun _ => nofun⟩
          intro h
          cases h
          exact hdx rfl
      | inf side =>
        have hsign : sign (finite d - inf side) = finite (if !side then -1 else 1) :=
          sign_inf (!side)
        rw [hsign, FloatVal.inf_mul_finite]
        -- an offset towards the target leads away from an infinite position
        cases side <;> cases neg <;> simp [FloatVal.inf_add_inf, not_lt.mpr zero_le_one]

/-- What bounds an infinite error. -/
theorem clamp_inf (neg : Bool) (x : FloatVal K) :
    inf (!neg) + FloatVal.clamp (inf neg) (-x) x ≠ nan ↔ x ≠ nan ∧ x ≠ inf false := by
  cases x with
  | finite x => cases neg <;> exact ⟨fun _ => ⟨nofun, nofun⟩, fun _ => nofun⟩
  | inf side =>
    cases side with
    | false => cases neg <;> exact ⟨fun h => absurd rfl h, fun h => absurd rfl h.2⟩
    | true => cases neg <;> exact ⟨fun _ => ⟨nofun, nofun⟩, fun _ => nofun⟩
  | nan => cases neg <;> exact ⟨fun h => absurd rfl h, fun h => absurd rfl h.1⟩

theorem clamp_finite_ne_nan (e : K) (x : FloatVal K) :
    FloatVal.clamp (finite e) (-x) x ≠ nan := by
  unfold FloatVal.clamp
  split
  · intro hnan
    rename_i hlt
    rw [hnan] at hlt
    exact FloatVal.not_lt_nan _ hlt
  · split
    · intro hnan
      rename_i hlt
      rw [hnan] at hlt
      exact FloatVal.not_nan_lt _ hlt
    · nofun

/-- The command of a motor that is not latched. -/
theorem tracked_iff (eMax x : FloatVal K) (hd : d = nan ∨ d.isFinite = true) :
    x + FloatVal.clamp (d - x) (-eMax) eMax ≠ nan ↔
      x ≠ nan ∧ d ≠ nan ∧ (x.isFinite = true ∨ eMax ≠ nan ∧ eMax ≠ inf false) := by
  rcases hd with rfl | hd
  · rw [FloatVal.nan_sub, FloatVal.clamp_nan, FloatVal.add_nan]
    exact ⟨fun h => absurd rfl h, fun h => absurd rfl h.2.1⟩
  · obtain ⟨d, rfl⟩ := FloatVal.isFinite_iff.mp hd
    cases x with
    | finite x =>
      rw [FloatVal.finite_sub, Ne, FloatVal.finite_add_eq_nan_iff]
      exact ⟨fun _ => ⟨nofun, nofun, Or.inl rfl⟩, fun _ => clamp_finite_ne_nan _ _⟩
    | inf side =>
      have hclamp := clamp_inf (!side) eMax
      rw [Bool.not_not] at hclamp
      rw [show finite d - inf side = (inf (!side) : FloatVal K) from rfl, hclamp]
      exact ⟨fun h => ⟨nofun, nofun, Or.inr h⟩, fun h => h.2.2.resolve_left nofun⟩
    | nan =>
      rw [FloatVal.nan_add]
      exact ⟨fun h => absurd rfl h, fun h => absurd rfl h.1⟩

/-- The gain that the bound is divided by. -/
theorem gain_cases (kp : FloatVal K) :
    (kp = nan ∧ FloatVal.max kp (finite 1e-3) = nan) ∨
      (kp = inf false ∧ FloatVal.max kp (finite 1e-3) = inf false) ∨
      (kp ≠ nan ∧ kp ≠ inf false ∧ ∃ y, 0 < y ∧ FloatVal.max kp (finite 1e-3) = finite y) := by
  have hpos : (0 : K) < 1e-3 := by norm_num
  cases kp with
  | nan => exact Or.inl ⟨rfl, rfl⟩
  | inf neg =>
    cases neg with
    | false => exact Or.inr (Or.inl ⟨rfl, rfl⟩)
    | true => exact Or.inr (Or.inr ⟨nofun, nofun, _, hpos, rfl⟩)
  | finite k =>
    exact Or.inr (Or.inr ⟨nofun, nofun, _, hpos.trans_le (le_max_right k _),
      FloatVal.finite_max k _⟩)

/-- When the bound on the error is a number, or negative. -/
theorem bound_iff (tau kp : FloatVal K) :
    tau / FloatVal.max kp (finite 1e-3) ≠ nan ∧ tau / FloatVal.max kp (finite 1e-3) ≠ inf false ↔
      kp ≠ nan ∧ tau ≠ nan ∧ tau ≠ inf false ∧ (tau = inf true → kp ≠ inf false) := by
  rcases gain_cases kp with ⟨rfl, hgain⟩ | ⟨rfl, hgain⟩ | ⟨hkp, hkp', y, hy, hgain⟩
  · rw [hgain, FloatVal.div_nan]
    exact ⟨fun h => absurd rfl h.1, fun h => absurd rfl h.1⟩
  · rw [hgain]
    cases tau with
    | finite tau => exact ⟨fun _ => ⟨nofun, nofun, nofun, nofun⟩, fun _ => ⟨nofun, nofun⟩⟩
    | inf neg =>
      cases neg with
      | false => exact ⟨fun h => absurd rfl h.1, fun h => absurd rfl h.2.2.1⟩
      | true => exact ⟨fun h => absurd rfl h.1, fun h => absurd rfl (h.2.2.2 rfl)⟩
    | nan => exact ⟨fun h => absurd rfl h.1, fun h => absurd rfl h.2.1⟩
  · rw [hgain]
    cases tau with
    | finite tau =>
      rw [FloatVal.finite_div _ hy.ne']
      exact ⟨fun _ => ⟨hkp, nofun, nofun, nofun⟩, fun _ => ⟨nofun, nofun⟩⟩
    | inf neg =>
      have hquot : (inf neg / finite y : FloatVal K) = inf neg := by
        show inf (neg ^^ decide (y < 0)) = inf neg
        simp [hy.not_gt]
      rw [hquot]
      cases neg with
      | false => exact ⟨fun h => absurd rfl h.2, fun h => absurd rfl h.2.2.1⟩
      | true => exact ⟨fun _ => ⟨hkp, nofun, nofun, fun _ => hkp'⟩, fun _ => ⟨nofun, nofun⟩⟩
    | nan => exact ⟨fun h => absurd rfl h.1, fun h => absurd rfl h.2.1⟩

theorem boundsTorque_iff (p : FloatGuard.Params K) :
    BoundsTorque p ↔ p.tauMax / FloatVal.max p.kp (finite 1e-3) ≠ nan ∧
      p.tauMax / FloatVal.max p.kp (finite 1e-3) ≠ inf false := by
  rw [bound_iff]
  exact ⟨fun h => ⟨h.kp, h.tauMax, h.bounded, h.below⟩,
    fun h => ⟨h.1, h.2.1, h.2.2.1, h.2.2.2⟩⟩

/-- **What the guard places in reach is no NaN exactly if none comes in.** -/
theorem reach_iff (hd : d = nan ∨ d.isFinite = true) :
    (g.reach (g.latchAfter i m (d - m.q) dtS) m (d - m.q)).1 ≠ nan ↔
      g.Readable i m (d ≠ nan) d dtS := by
  cases hlatch : g.latchAfter i m (d - m.q) dtS with
  | true =>
    have hl := (latchAfter_iff _).mp hlatch
    have hheld := held_iff g.p.stallOffset m.q hd
    simp only [reach, if_true]
    rw [show (if 0 < d - m.q then finite 1 else if d - m.q < 0 then finite (-1) else 0) =
      sign (d - m.q) from rfl, hheld]
    exact ⟨fun h => ⟨h.1, fun _ => h.2, fun hnot => absurd hl hnot⟩,
      fun h => ⟨h.measured, h.held hl⟩⟩
  | false =>
    have hl : ¬ g.Latches i m (d - m.q) dtS := by
      rw [← latchAfter_iff, hlatch]
      exact Bool.false_ne_true
    simp only [reach, Bool.false_eq_true, if_false]
    rw [tracked_iff _ _ hd, ← boundsTorque_iff]
    exact ⟨fun h => ⟨h.1, fun hyes => absurd hyes hl, fun _ => h.2⟩,
      fun h => ⟨h.measured, h.tracked hl⟩⟩

end FloatGuard

/-- `P` of what the guard acts on, `sourced` where it lets the target through. -/
def FloatGuard.ActsOn (g : FloatGuard K) (meas : Option (FloatHandState K)) (sourced : Prop)
    (P : FloatHandState K → Prop) : Prop :=
  match if g.p.enabled then meas else none with
  | none => sourced
  | some meas => P meas

namespace FloatHandCommand.Target

variable {isLeft : Bool} {i : Fin 7} {sourced : Prop} {q : FloatVal K}

theorem ne_nan_iff (h : Target isLeft i sourced q) : q ≠ nan ↔ sourced := by
  constructor
  · intro hne
    by_contra hnot
    exact hne (h.2 hnot)
  · intro hsourced hnan
    rw [hnan] at h
    exact not_inLimits_nan isLeft i (h.1 hsourced)

theorem inLimits_iff (h : Target isLeft i sourced q) : InLimits isLeft i q ↔ sourced := by
  refine ⟨fun hin => h.ne_nan_iff.mp ?_, h.1⟩
  rintro rfl
  exact not_inLimits_nan isLeft i hin

theorem nan_or_finite (h : Target isLeft i sourced q) : q = nan ∨ q.isFinite = true := by
  by_cases hsourced : sourced
  · obtain ⟨x, rfl, -⟩ := h.1 hsourced
    exact Or.inr rfl
  · exact Or.inl (h.2 hsourced)

end FloatHandCommand.Target

/-- **What the guard makes of a command.** -/
theorem FloatGuard.apply_safe_iff {g : FloatGuard K} {isLeft : Bool} (hside : g.isLeft = isLeft)
    {desired : FloatHandCommand K} (hon : desired.enabled = true) {sourced : Fin 7 → Prop}
    (h : ∀ i, FloatHandCommand.Target isLeft i (sourced i) (desired.q i))
    (meas : Option (FloatHandState K)) (dtS : K) :
    (g.apply desired meas dtS).2.Safe isLeft ↔ ∀ i, g.ActsOn meas (sourced i) fun meas =>
      g.Readable i (meas.motors i) (sourced i) (desired.q i) dtS := by
  have hthrough : desired.Safe isLeft ↔ ∀ i, sourced i := by
    rw [FloatHandCommand.safe_iff hon]
    exact forall_congr' fun i => (h i).inLimits_iff
  unfold apply ActsOn
  cases meas with
  | none =>
    simp only [ite_self]
    exact hthrough
  | some meas =>
    cases henabled : g.p.enabled with
    | false =>
      simp only [Bool.not_false, Bool.true_or, if_true, Bool.false_eq_true, if_false]
      exact hthrough
    | true =>
      simp only [hon, Bool.not_true, Bool.or_self, Bool.false_eq_true, if_false, if_true]
      rw [FloatHandCommand.safe_iff rfl]
      refine forall_congr' fun i => ?_
      dsimp only
      rw [hside, inLimits_clamp_iff, reach_iff (h i).nan_or_finite, propext (h i).ne_nan_iff]

/-! ## The loop -/

/-- One hand's part. -/
def FloatHandPair.hand (cmds : FloatHandPair K) (isLeft : Bool) : FloatHandCommand K :=
  if isLeft then cmds.left else cmds.right

def LatentFloats.hand {K : Type} (vla : LatentFloats K) (isLeft : Bool) : Fin 7 → FloatVal K :=
  if isLeft then vla.leftHand else vla.rightHand

/-- The axis that moves motor `i`. -/
def PicoVRController.axis {K : Type} (c : PicoVRController (FloatVal K)) (isLeft : Bool)
    (i : Fin 7) : FloatVal K :=
  if motorOnTrigger i then (if isLeft then c.leftTrigger else c.rightTrigger)
  else (if isLeft then c.leftGrip else c.rightGrip)

def FloatHandPair.Safe (cmds : FloatHandPair K) : Prop :=
  ∀ isLeft, (cmds.hand isLeft).Safe isLeft

namespace FloatHandWriter

open HandCommandWriter (kPublishPeriodS)

variable {w : FloatHandWriter K} {r : TickReads K}

def TickReads.state (r : TickReads K) (isLeft : Bool) : TimestampedData (FloatHandState K) :=
  if isLeft then r.leftState else r.rightState

def guard (w : FloatHandWriter K) (isLeft : Bool) : FloatGuard K :=
  if isLeft then w.leftGuard else w.rightGuard

/-- Each guard knows its hand. -/
def Sides (w : FloatHandWriter K) : Prop := ∀ isLeft, (w.guard isLeft).isLeft = isLeft

/-- The target of motor `i` comes from a number: the session's target, or the axis where the hands
follow the axes. -/
def Sourced (w : FloatHandWriter K) (r : TickReads K) (isLeft : Bool) (i : Fin 7) : Prop :=
  match vlaTargets r with
  | some vla => vla.hand isLeft i ≠ nan
  | none => w.holdFist r = true ∨ ∀ ctrl, r.ctrl = some ctrl → ctrl.axis isLeft i ≠ nan

/-- No NaN comes into a tick's commands: without the emergency stop, none into any motor's target
where it is let through, and none into its guard where that acts on a fresh measurement. -/
def Readable (w : FloatHandWriter K) (r : TickReads K) : Prop :=
  let w := w.trackCalibration r
  r.estop = false → ∀ isLeft i,
    (w.guard isLeft).ActsOn (w.freshState (r.state isLeft) r.t0) (w.Sourced r isLeft i) fun meas =>
      (w.guard isLeft).Readable i (meas.motors i) (w.Sourced r isLeft i)
        (((w.selectTargets r).2.hand isLeft).q i) kPublishPeriodS

theorem fixedPose_target (grip trigger squeeze : K) (isLeft : Bool) (sourced : Fin 7 → Prop)
    (hsourced : ∀ i, sourced i) :
    ((fixedPose grip trigger squeeze).hand isLeft).enabled = true ∧ ∀ i,
      FloatHandCommand.Target isLeft i (sourced i)
        (((fixedPose grip trigger squeeze).hand isLeft).q i) := by
  have hne : ∀ i, (if motorOnTrigger i then finite trigger else finite grip : FloatVal K) ≠ nan := by
    intro i
    split <;> nofun
  cases isLeft with
  | true =>
    refine ⟨rfl, fun i => ⟨fun _ => ?_, fun hnot => absurd (hsourced i) hnot⟩⟩
    exact (FloatHandCommand.fromGripAndTrigger_target _ _ squeeze squeeze true i).1 (hne i)
  | false =>
    refine ⟨rfl, fun i => ⟨fun _ => ?_, fun hnot => absurd (hsourced i) hnot⟩⟩
    exact (FloatHandCommand.fromGripAndTrigger_target _ _ squeeze squeeze false i).1 (hne i)

/-- **The five target sources.** Without the emergency stop each is enabled, and NaN comes through
where it comes in. -/
theorem selectTargets_target (hestop : r.estop = false) (isLeft : Bool) :
    ((w.selectTargets r).2.hand isLeft).enabled = true ∧ ∀ i,
      FloatHandCommand.Target isLeft i (w.Sourced r isLeft i)
        (((w.selectTargets r).2.hand isLeft).q i) := by
  cases hvla : vlaTargets r with
  | some vla =>
    have hsourced : ∀ i, w.Sourced r isLeft i ↔ vla.hand isLeft i ≠ nan := by
      intro i
      rw [Sourced, hvla]
    have hselect : (w.selectTargets r).2 =
        ⟨.fromVlaJoints vla.leftHand true, .fromVlaJoints vla.rightHand false⟩ := by
      simp [selectTargets, hestop, hvla]
    simp only [hsourced, hselect]
    cases isLeft with
    | true => exact ⟨rfl, FloatHandCommand.fromVlaJoints_target vla.leftHand true⟩
    | false => exact ⟨rfl, FloatHandCommand.fromVlaJoints_target vla.rightHand false⟩
  | none =>
    have hsourced : ∀ i, w.Sourced r isLeft i ↔
        (w.holdFist r = true ∨ ∀ ctrl, r.ctrl = some ctrl → ctrl.axis isLeft i ≠ nan) := by
      intro i
      rw [Sourced, hvla]
    cases hfist : w.holdFist r with
    | true =>
      have hselect : (w.selectTargets r).2 = fixedPose 1 1 1 := by
        simp [selectTargets, hestop, hvla, hfist]
      rw [hselect]
      exact fixedPose_target 1 1 1 isLeft _ fun i => (hsourced i).mpr (Or.inl hfist)
    | false =>
      cases hctrl : r.ctrl with
      | none =>
        have hselect : (w.selectTargets r).2 = fixedPose 0 0 0 := by
          simp [selectTargets, hestop, hvla, hfist, hctrl]
        rw [hselect]
        refine fixedPose_target 0 0 0 isLeft _ fun i => (hsourced i).mpr (Or.inr ?_)
        intro ctrl hsome
        rw [hctrl] at hsome
        cases hsome
      | some ctrl =>
        have haxis : ∀ i, w.Sourced r isLeft i ↔ ctrl.axis isLeft i ≠ nan := by
          intro i
          rw [hsourced, hctrl, hfist]
          simp
        have hselect : (w.selectTargets r).2 = (w.trackAxes ctrl).2 := by
          simp [selectTargets, hestop, hvla, hfist, hctrl]
        simp only [haxis, hselect]
        cases isLeft with
        | true => exact ⟨rfl, FloatHandCommand.fromGripAndTrigger_target _ _ _ _ true⟩
        | false => exact ⟨rfl, FloatHandCommand.fromGripAndTrigger_target _ _ _ _ false⟩

theorem selectTargets_guard (isLeft : Bool) :
    ((w.selectTargets r).1.guard isLeft) = w.guard isLeft := by
  unfold selectTargets
  split
  · rfl
  · split
    · rfl
    · split
      · rfl
      · split <;> rfl

/-- What the guard's stage does to one hand of an enabled pair. -/
theorem guardTargets_hand {cmds : FloatHandPair K} (hon : ∀ isLeft, (cmds.hand isLeft).enabled = true)
    (isLeft : Bool) :
    (w.guardTargets r cmds).2.hand isLeft =
        ((w.guard isLeft).apply (cmds.hand isLeft) (w.freshState (r.state isLeft) r.t0)
          kPublishPeriodS).2 ∧
      (w.guardTargets r cmds).1.guard isLeft =
        ((w.guard isLeft).apply (cmds.hand isLeft) (w.freshState (r.state isLeft) r.t0)
          kPublishPeriodS).1 := by
  have hleft : cmds.left.enabled = true := hon true
  unfold guardTargets
  simp only [hleft, Bool.true_or, if_true]
  cases isLeft <;> exact ⟨rfl, rfl⟩

theorem apply_isLeft (g : FloatGuard K) (desired : FloatHandCommand K)
    (meas : Option (FloatHandState K)) (dtS : K) :
    (g.apply desired meas dtS).1.isLeft = g.isLeft := by
  unfold FloatGuard.apply
  split
  · rfl
  · split <;> rfl

/-- **One tick.** What it publishes is safe exactly if no NaN comes into it. -/
theorem tick_safe_iff (hsides : w.Sides) (r : TickReads K) :
    ((w.computeTargets r).2.Safe ↔ w.Readable r) ∧ (w.computeTargets r).1.Sides := by
  have hguard : ∀ isLeft, ((w.trackCalibration r).selectTargets r).1.guard isLeft =
      (w.trackCalibration r).guard isLeft := fun isLeft => selectTargets_guard isLeft
  have hsame : ∀ isLeft, (w.trackCalibration r).guard isLeft = w.guard isLeft := fun _ => rfl
  cases hestop : r.estop with
  | true =>
    have hstop : (w.trackCalibration r).selectTargets r =
        ((w.trackCalibration r).resetSqueezes, .stop) := by
      unfold selectTargets
      rw [if_pos hestop]
    have hcompute : w.computeTargets r = ((w.trackCalibration r).resetSqueezes, .stop) := by
      unfold computeTargets
      rw [hstop]
      rfl
    rw [hcompute]
    refine ⟨⟨fun _ hoff => ?_, fun _ isLeft => ?_⟩, hsides⟩
    · rw [hestop] at hoff
      cases hoff
    · cases isLeft <;> exact FloatHandCommand.stop_safe _
  | false =>
    have htarget := fun isLeft =>
      selectTargets_target (w := w.trackCalibration r) hestop isLeft
    have hfresh : ∀ isLeft, ((w.trackCalibration r).selectTargets r).1.freshState (r.state isLeft)
        r.t0 = (w.trackCalibration r).freshState (r.state isLeft) r.t0 := by
      intro isLeft
      have hleft : ((w.trackCalibration r).selectTargets r).1.leftGuard =
        (w.trackCalibration r).leftGuard := hguard true
      unfold freshState
      rw [hleft]
    have hhand := fun isLeft => guardTargets_hand (r := r)
      (w := ((w.trackCalibration r).selectTargets r).1) (fun isLeft => (htarget isLeft).1) isLeft
    simp only [hguard, hfresh] at hhand
    constructor
    · unfold Readable FloatHandPair.Safe computeTargets
      simp only [hestop, forall_true_left]
      refine forall_congr' fun isLeft => ?_
      rw [(hhand isLeft).1]
      exact FloatGuard.apply_safe_iff (hsides isLeft) (htarget isLeft).1 (htarget isLeft).2 _ _
    · intro isLeft
      unfold computeTargets
      dsimp only
      rw [(hhand isLeft).2, apply_isLeft]
      exact hsides isLeft

/-- **Published hand commands are safe exactly where no NaN comes in**, in every run of the loop,
under any guard parameters. -/
theorem published_safe_iff (w : FloatHandWriter K) (guard : FloatGuard.Params K)
    (rs : List (TickReads K)) :
    Throughout (fun w r => ∃ cmds, (w.loopIteration r).lastCmdBuf.data = some cmds ∧ cmds.Safe)
        loopIteration (w.start guard) rs ↔
      Throughout Readable loopIteration (w.start guard) rs := by
  have hstart : (w.start guard).Sides := by
    intro isLeft
    cases isLeft <;> rfl
  refine throughout_congr (I := Sides) hstart (fun w r hsides => ?_) (fun w r hsides _ => ?_) rs
  · rw [← (tick_safe_iff hsides r).1]
    constructor
    · rintro ⟨cmds, hcmds, hsafe⟩
      cases hcmds
      exact hsafe
    · exact fun hsafe => ⟨_, rfl, hsafe⟩
  · exact (tick_safe_iff hsides r).2

/-- On numbers every target comes from a number. -/
theorem sourced_toFloat (w : FloatHandWriter K) (r : HandCommandWriter.TickReads K) (isLeft : Bool)
    (i : Fin 7) : w.Sourced r.toFloat isLeft i := by
  unfold Sourced
  cases hvla : vlaTargets r.toFloat with
  | some vla =>
    have hsome : r.toFloat.vla = some vla := by
      unfold vlaTargets at hvla
      split at hvla
      · exact hvla
      · cases hvla
    obtain ⟨action, -, rfl⟩ := Option.map_eq_some_iff.mp hsome
    cases isLeft <;> exact fun h => by cases h
  | none =>
    refine Or.inr fun ctrl hctrl => ?_
    obtain ⟨c, -, rfl⟩ := Option.map_eq_some_iff.mp hctrl
    unfold PicoVRController.axis
    cases isLeft <;> split <;> exact fun h => by cases h

theorem freshState_toFloat {w : HandCommandWriter K} {r : HandCommandWriter.TickReads K}
    {isLeft : Bool} {meas : FloatHandState K}
    (h : w.toFloat.freshState (r.toFloat.state isLeft) r.toFloat.t0 = some meas) :
    ∃ state : HandState K, meas = state.toFloat := by
  have hstate : w.toFloat.freshState (r.toFloat.state isLeft) r.toFloat.t0 =
      (w.freshState (if isLeft then r.leftState else r.rightState) r.t0).map
        HandState.toFloat := by
    rw [← HandCommandWriter.toFloat_freshState]
    cases isLeft <;> rfl
  rw [hstate] at h
  obtain ⟨state, -, hmeas⟩ := Option.map_eq_some_iff.mp h
  exact ⟨state, hmeas.symm⟩

/-- On numbers no NaN comes in. -/
theorem readable_toFloat (w : HandCommandWriter K) (r : HandCommandWriter.TickReads K) :
    w.toFloat.Readable r.toFloat := by
  intro _ isLeft i
  have hsourced := sourced_toFloat (w.toFloat.trackCalibration r.toFloat) r isLeft i
  unfold FloatGuard.ActsOn
  split
  · exact hsourced
  · rename_i meas hmeas
    obtain ⟨state, rfl⟩ : ∃ state : HandState K, meas = state.toFloat := by
      split at hmeas
      · exact freshState_toFloat (w := w.trackCalibration r) hmeas
      · cases hmeas
    obtain ⟨offset, hoffset⟩ : ∃ offset, ((w.toFloat.trackCalibration r.toFloat).guard
        isLeft).p.stallOffset = finite offset := by
      cases isLeft <;> exact ⟨_, rfl⟩
    refine ⟨(fun h => by cases h), fun _ => ?_, fun _ => ⟨hsourced, Or.inl rfl⟩⟩
    rw [hoffset]
    exact ⟨(fun h => by cases h), fun hoff => by cases hoff⟩

/-- So every run over numbers is readable. -/
theorem readable_run (w : HandCommandWriter K) (rs : List (HandCommandWriter.TickReads K)) :
    Throughout Readable loopIteration w.toFloat
      (rs.map HandCommandWriter.TickReads.toFloat) := by
  induction rs generalizing w with
  | nil => trivial
  | cons r rs ih =>
    refine ⟨readable_toFloat w r, ?_⟩
    rw [HandCommandWriter.toFloat_loopIteration]
    exact ih (w.loopIteration r)

/-- The fist before teleop, on a left hand that does not move. -/
def stalledTick : TickReads ℚ := { leftState := ⟨some {}, 0⟩ }

/-- Under the default parameters, with a hand that latches in between. -/
theorem published_safe_fist :
    Throughout (fun w r => ∃ cmds, (w.loopIteration r).lastCmdBuf.data = some cmds ∧ cmds.Safe)
      loopIteration (({} : FloatHandWriter ℚ).start {}) (List.replicate 60 stalledTick) := by
  have hstart : ({} : FloatHandWriter ℚ).start {} = ({} : HandCommandWriter ℚ).toFloat := rfl
  have hticks : List.replicate 60 stalledTick =
      (List.replicate 60 { leftState := ⟨some {}, 0⟩ }).map
        HandCommandWriter.TickReads.toFloat := by
    rw [List.map_replicate]
    rfl
  refine (published_safe_iff {} {} _).mpr ?_
  rw [hstart, hticks]
  exact readable_run _ _

/-- With an offset that is NaN the thumb, once it is latched, is published enabled at NaN. -/
theorem published_nan :
    ¬ Throughout (fun w r => ∃ cmds, (w.loopIteration r).lastCmdBuf.data = some cmds ∧ cmds.Safe)
      loopIteration (({} : FloatHandWriter ℚ).start { stallOffset := nan })
      (List.replicate 30 stalledTick) := by
  have hnan : (((List.replicate 29 stalledTick).foldl loopIteration
      (({} : FloatHandWriter ℚ).start { stallOffset := nan })).loopIteration
        stalledTick).lastCmdBuf.data.any (fun cmds =>
          cmds.left.enabled && (cmds.left.q 1).isNan) = true := by decide +kernel
  intro hsafe
  obtain ⟨cmds, hcmds, hpair⟩ := (throughout_iff _).mp hsafe (List.replicate 29 stalledTick)
    stalledTick (List.prefix_refl _)
  rw [hcmds, Option.any_some, Bool.and_eq_true] at hnan
  obtain ⟨x, hx, -⟩ := (FloatHandCommand.safe_iff hnan.1).mp (hpair true) 1
  have hx : cmds.left.q 1 = finite x := hx
  rw [hx] at hnan
  cases hnan.2

end FloatHandWriter

end Gearsonic
