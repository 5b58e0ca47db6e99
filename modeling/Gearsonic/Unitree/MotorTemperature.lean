import Mathlib.Algebra.Order.Ring.Int
import Mathlib.Tactic.Common

/-!
# Motor temperatures

The temperature part of `MotorHealthRules`: two sensors for each motor, each with a level that
`temp_transition` moves with hysteresis, and a line for each move.

* `next_le_next`: one step keeps the order of two levels, where the bands of the two thresholds
  meet.
* `cooler_never_worse_iff`: over whole histories, for exactly those thresholds.
-/

namespace Gearsonic

/-- The level of a sensor: 0, 1 and 2 in the source. -/
inductive TempLevel where
  | ok
  | warn
  | critical
deriving DecidableEq, Repr

namespace TempLevel

/-- The level's number. -/
def severity : TempLevel → Nat
  | ok => 0
  | warn => 1
  | critical => 2

end TempLevel

/-- A line that a change of level logs: the motor, the sensor, the reading and the threshold. -/
inductive TempLine where
  | emergency (who sensor : String) (temp critical : Int)
  | warning (who sensor : String) (temp warn : Int)
  | back (who sensor : String) (temp : Int)
deriving DecidableEq, Repr

/-- The line as it is logged. -/
def TempLine.text : TempLine → String
  | emergency who sensor temp critical =>
    s!"[MotorHealth] EMERGENCY {who}: {sensor} temperature {temp}C >= {critical}C — 10% under " ++
      "the firmware cut-out; at the cut-out this motor faults and the WHOLE robot loses torque"
  | warning who sensor temp warn =>
    s!"[MotorHealth] WARNING {who}: {sensor} temperature {temp}C >= {warn}C — running hot, " ++
      "watch the trend"
  | back who sensor temp => s!"[MotorHealth] {who}: {sensor} temperature back to {temp}C"

/-- The thresholds of the two sensors. -/
structure TempParams where
  casingWarnC : Int := 72
  casingCriticalC : Int := 76
  windingWarnC : Int := 110
  windingCriticalC : Int := 117

namespace MotorHealthRules

/-- The level that a reading leads to. -/
def nextLevel (level : TempLevel) (temp warn critical : Int) : TempLevel :=
  if critical ≤ temp then .critical
  else if warn ≤ temp then
    if level = .critical ∧ critical - 5 ≤ temp then .critical else .warn
  else if temp < warn - 5 then .ok
  else level

/-- `temp_transition`: the new level, and the line where it changes. -/
def tempTransition (level : TempLevel) (temp warn critical : Int) (sensor who : String) :
    TempLevel × List TempLine :=
  let next := nextLevel level temp warn critical
  if next = level then (level, [])
  else
    match next with
    | .critical => (next, [.emergency who sensor temp critical])
    | .warn => (next, [.warning who sensor temp warn])
    | .ok => (next, [.back who sensor temp])

/-- The levels of one motor's two sensors. -/
structure TempTrack where
  casingLevel : TempLevel := .ok
  windingLevel : TempLevel := .ok

/-- The level after `k` readings of a history. -/
def levelAt (level : TempLevel) (warn critical : Int) (sensor who : String) (temps : Nat → Int) :
    Nat → TempLevel
  | 0 => level
  | k + 1 =>
    (tempTransition (levelAt level warn critical sensor who temps k) (temps k) warn critical sensor
      who).1

variable {level level' : TempLevel} {temp temp' warn critical : Int}

theorem tempTransition_fst (level : TempLevel) (temp warn critical : Int) (sensor who : String) :
    (tempTransition level temp warn critical sensor who).1 =
      nextLevel level temp warn critical := by
  unfold tempTransition
  dsimp only
  split
  · rename_i heq
    exact heq.symm
  · split <;> simp_all

/-- A line is logged exactly where the level changes, and names the new one. -/
theorem tempTransition_silent_iff (sensor who : String) :
    (tempTransition level temp warn critical sensor who).2 = [] ↔
      (tempTransition level temp warn critical sensor who).1 = level := by
  rw [tempTransition_fst]
  unfold tempTransition
  dsimp only
  split
  · rename_i heq
    exact ⟨fun _ => heq, fun _ => rfl⟩
  · rename_i hne
    split <;> exact ⟨nofun, fun heq => absurd heq hne⟩

/-! ## Order -/

theorem severity_le_critical (level : TempLevel) :
    level.severity ≤ TempLevel.critical.severity := by
  cases level <;> decide

/-- From `critical - 5` on, an emergency is kept. -/
theorem nextLevel_of_band (hband : critical - 5 ≤ temp) (hwarn : warn ≤ temp) :
    nextLevel .critical temp warn critical = .critical := by
  unfold nextLevel
  by_cases hcrit : critical ≤ temp
  · rw [if_pos hcrit]
  · rw [if_neg hcrit, if_pos hwarn, if_pos ⟨rfl, hband⟩]

theorem warn_le_nextLevel (hwarn : warn ≤ temp) :
    TempLevel.warn.severity ≤ (nextLevel level temp warn critical).severity := by
  unfold nextLevel
  split
  · decide
  · split <;> decide

theorem nextLevel_below (hcrit : temp < critical) (hwarn : temp < warn) :
    nextLevel level temp warn critical = if temp < warn - 5 then .ok else level := by
  unfold nextLevel
  rw [if_neg (by omega), if_neg (by omega)]

/-- Where the bands meet, a cooler reading and a lower level lead to a lower level. -/
theorem next_le_next (hbands : critical ≤ warn + 5) (htemp : temp ≤ temp')
    (hlevel : level.severity ≤ level'.severity) :
    (nextLevel level temp warn critical).severity ≤
      (nextLevel level' temp' warn critical).severity := by
  by_cases hcrit' : critical ≤ temp'
  · have hnext : nextLevel level' temp' warn critical = .critical := if_pos hcrit'
    rw [hnext]
    exact severity_le_critical _
  · have hcrit : temp < critical := by omega
    by_cases hwarn' : warn ≤ temp'
    · by_cases hemergency : level' = .critical
      · subst hemergency
        rw [nextLevel_of_band (by omega) hwarn']
        exact severity_le_critical _
      · -- neither level is an emergency, and the hotter reading warns
        have hle : level.severity ≤ TempLevel.warn.severity := by
          cases level' with
          | ok => exact le_trans hlevel (by decide)
          | warn => exact hlevel
          | critical => exact absurd rfl hemergency
        apply le_trans _ (warn_le_nextLevel hwarn')
        by_cases hwarn : warn ≤ temp
        · unfold nextLevel
          rw [if_neg (by omega), if_pos hwarn, if_neg]
          rintro ⟨rfl, -⟩
          exact absurd hle (by decide)
        · rw [nextLevel_below hcrit (by omega)]
          split
          · decide
          · exact hle
    · rw [nextLevel_below hcrit (by omega), nextLevel_below (by omega) (by omega)]
      by_cases hback : temp < warn - 5
      · rw [if_pos hback]
        exact Nat.zero_le _
      · rw [if_neg hback, if_neg (by omega)]
        exact hlevel

/-- A sensor that has been cooler at every step reports no higher level at any step. -/
def CoolerNeverWorse (warn critical : Int) : Prop :=
  ∀ (level : TempLevel) (sensor who : String) (temps temps' : Nat → Int),
    (∀ k, temps k ≤ temps' k) → ∀ k,
      (levelAt level warn critical sensor who temps k).severity ≤
        (levelAt level warn critical sensor who temps' k).severity

/-- No reading below `warn` keeps an emergency that a reading from `warn` on would lower. -/
def NeverKeptBelowWarn (warn critical : Int) : Prop :=
  ∀ (sensor who : String) (temp temp' : Int), temp < warn → warn ≤ temp' →
    ¬ ((tempTransition .critical temp warn critical sensor who).1 = .critical ∧
      (tempTransition .critical temp' warn critical sensor who).1 = .warn)

theorem levelAt_mono (hbands : critical ≤ warn + 5) (level : TempLevel) (sensor who : String)
    {temps temps' : Nat → Int} (htemps : ∀ k, temps k ≤ temps' k) (k : Nat) :
    (levelAt level warn critical sensor who temps k).severity ≤
      (levelAt level warn critical sensor who temps' k).severity := by
  induction k with
  | zero => exact le_rfl
  | succ k ih =>
    unfold levelAt
    rw [tempTransition_fst, tempTransition_fst]
    exact next_le_next hbands (htemps k) ih

/-- A gap between `warn` and `critical - 5`: the reading one below `warn` keeps an emergency,
and `warn` itself lowers it. -/
theorem gap_lowers (hgap : warn + 5 < critical) :
    nextLevel .critical (warn - 1) warn critical = .critical ∧
      nextLevel .critical warn warn critical = .warn := by
  constructor
  · rw [nextLevel_below (by omega) (by omega), if_neg (by omega)]
  · unfold nextLevel
    rw [if_neg (by omega), if_pos le_rfl, if_neg]
    rintro ⟨-, hband⟩
    omega

/-- The levels are monotone in the temperature exactly if `critical` is at most 5 degrees above
`warn`. -/
theorem cooler_never_worse_iff (warn critical : Int) :
    CoolerNeverWorse warn critical ∧ NeverKeptBelowWarn warn critical ↔ critical ≤ warn + 5 := by
  constructor
  · rintro ⟨-, hkept⟩
    by_contra hgap
    obtain ⟨hkeeps, hlowers⟩ := gap_lowers (not_le.mp hgap)
    apply hkept "" "" (warn - 1) warn (by omega) le_rfl
    rw [tempTransition_fst, tempTransition_fst]
    exact ⟨hkeeps, hlowers⟩
  · intro hbands
    refine ⟨fun level sensor who _ _ htemps k => levelAt_mono hbands level sensor who htemps k,
      fun sensor who temp temp' _ hwarn => ?_⟩
    rw [tempTransition_fst, tempTransition_fst]
    rintro ⟨-, hlowers⟩
    rw [nextLevel_of_band (by omega) hwarn] at hlowers
    cases hlowers

/-- A winding at 117 that drops to 109 stays an emergency; at 110 it would be a warning. -/
theorem cooler_winding_worse :
    ¬ (CoolerNeverWorse ({} : TempParams).windingWarnC ({} : TempParams).windingCriticalC ∧
      NeverKeptBelowWarn ({} : TempParams).windingWarnC ({} : TempParams).windingCriticalC) := by
  rintro ⟨hnever, -⟩
  have h := hnever .ok "winding" "motor 0" (fun k => if k = 0 then 117 else 109)
    (fun k => if k = 0 then 117 else 110)
    (fun k => by split <;> decide) 2
  exact absurd h (by decide)

end MotorHealthRules

end Gearsonic
