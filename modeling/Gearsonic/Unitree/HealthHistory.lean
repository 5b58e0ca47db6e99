import Gearsonic.Unitree.MotorHealthRules
import Mathlib.Data.List.Induction

/-!
# Histories of the health rules

A call of `step` is what the monitor has at that moment: the snapshots that are there, and the time
since the call before. Over a history of calls, each motor's track is a fold of its own.

* `stepBodyMotor_eq`: the four conditions of a motor touch fields of their own.
* `after_body_some`: what a call does to a motor's track.
-/

set_option linter.unusedSectionVars false

namespace Gearsonic

/-- The snapshots of one call. -/
structure HealthCall (K : Type) [Field K] where
  body : Option (UnitreeState K) := none
  cmd : Option (MotorCommand K) := none
  left : Option (HandState K) := none
  right : Option (HandState K) := none
  dtS : K := 0

namespace MotorHealthRules

variable {K : Type} [Field K] [LinearOrder K]

def call (r : MotorHealthRules K) (c : HealthCall K) :
    MotorHealthRules K × List (HealthLine K) :=
  r.step c.body c.cmd c.left c.right c.dtS

/-- The rules after a history. -/
def after (p : Params K) (cs : List (HealthCall K)) : MotorHealthRules K :=
  cs.foldl (fun r c => (r.call c).1) { p := p }

/-- The calls that carried a body state, newest first. -/
def seen (cs : List (HealthCall K)) : List (HealthCall K) :=
  cs.reverse.filter fun c => c.body.isSome

variable {p : Params K} {i : Fin 29} {m : MotorState K} {cmd : Option (MotorCommand K)} {dtS : K}
  {t : BodyTrack K} {r : MotorHealthRules K} {c : HealthCall K} {cs : List (HealthCall K)}

/-! ## The conditions apart -/

/-- `unresp_s` after a step. -/
def nextUnrespS (p : Params K) (i : Fin 29) (m : MotorState K) (cmd : Option (MotorCommand K))
    (dtS unrespS : K) : K :=
  match cmd with
  | some c => if unrespCond p i m c then unrespS + dtS else 0
  | none => 0

/-- `unresp` after a step that leaves the timer at `unrespS`. -/
def nextUnresp (p : Params K) (i : Fin 29) (m : MotorState K) (cmd : Option (MotorCommand K))
    (unrespS : K) (unresp : Bool) : Bool :=
  match cmd with
  | some c =>
    if unresp then !unrespConfirmed p i m c else decide (p.unrespTimeS ≤ unrespS)
  | none => unresp

/-- `frozen` after a step that `countFrozen` takes from `t` to `t'`. -/
def nextFrozen (p : Params K) (i : Fin 29) (m : MotorState K) (cmd : Option (MotorCommand K))
    (t t' : BodyTrack K) : Bool :=
  if t.frozen then decide (m.q = t.qLast)
  else decide (p.frozenTimeS ≤ t'.frozenS) && cmdMoved p i cmd t'

theorem stepFault_track (i : Fin 29) (m : MotorState K) (t : BodyTrack K) :
    (stepFault i m t).1 = { t with errorLast := m.error } := by
  unfold stepFault
  split
  · rfl
  · rename_i heq
    rw [not_not.mp heq]

theorem stepUnresp_track (p : Params K) (i : Fin 29) (m : MotorState K)
    (cmd : Option (MotorCommand K)) (dtS : K) (t : BodyTrack K) :
    (stepUnresp p i m cmd dtS t).1 =
      { t with
        unrespS := nextUnrespS p i m cmd dtS t.unrespS
        unresp := nextUnresp p i m cmd (nextUnrespS p i m cmd dtS t.unrespS) t.unresp } := by
  unfold stepUnresp nextUnresp nextUnrespS
  cases cmd with
  | none => rfl
  | some c =>
    dsimp only
    cases hunresp : t.unresp with
    | false =>
      by_cases htime : p.unrespTimeS ≤ if unrespCond p i m c then t.unrespS + dtS else 0
      · simp [htime]
      · simp [htime]
    | true => cases hconf : unrespConfirmed p i m c <;> simp

theorem countFrozen_track (i : Fin 29) (m : MotorState K) (cmd : Option (MotorCommand K)) (dtS : K)
    (t : BodyTrack K) :
    countFrozen i m cmd dtS t =
      { t with
        frozenS := (countFrozen i m cmd dtS t).frozenS
        cmdAtFreezeStart := (countFrozen i m cmd dtS t).cmdAtFreezeStart } := by
  unfold countFrozen
  split <;> rfl

/-- The first reading is only recorded. -/
theorem stepFrozen_first (hlast : t.haveLast = false) :
    stepFrozen p i m cmd dtS t = ({ t with qLast := m.q, haveLast := true }, []) := by
  unfold stepFrozen
  rw [hlast]
  rfl

theorem stepFrozen_track (hlast : t.haveLast = true) :
    (stepFrozen p i m cmd dtS t).1 =
      { countFrozen i m cmd dtS t with
        frozen := nextFrozen p i m cmd t (countFrozen i m cmd dtS t)
        qLast := m.q
        haveLast := true } := by
  have hfrozen : (countFrozen i m cmd dtS t).frozen = t.frozen := by rw [countFrozen_track]
  unfold stepFrozen nextFrozen
  rw [hlast, if_pos rfl]
  dsimp only
  rw [hfrozen]
  cases ht : t.frozen with
  | false =>
    rw [ht] at hfrozen
    cases hset : decide (p.frozenTimeS ≤ (countFrozen i m cmd dtS t).frozenS) &&
      cmdMoved p i cmd (countFrozen i m cmd dtS t) <;> simp [hset]
  | true =>
    rw [ht] at hfrozen
    by_cases hsame : m.q = t.qLast <;> simp [hsame]

theorem countFrozen_frame (t : BodyTrack K) (temps : TempTrack) (errorLast : UInt32) (unrespS : K)
    (unresp : Bool) :
    countFrozen i m cmd dtS
        { t with
          toTempTrack := temps, errorLast := errorLast, unrespS := unrespS, unresp := unresp } =
      { countFrozen i m cmd dtS t with
        toTempTrack := temps, errorLast := errorLast, unrespS := unrespS, unresp := unresp } := by
  unfold countFrozen
  split <;> rfl

/-- The frozen condition neither reads nor writes the fields of the others. -/
theorem stepFrozen_frame (t : BodyTrack K) (temps : TempTrack) (errorLast : UInt32) (unrespS : K)
    (unresp : Bool) :
    stepFrozen p i m cmd dtS
        { t with
          toTempTrack := temps, errorLast := errorLast, unrespS := unrespS, unresp := unresp } =
      ({ (stepFrozen p i m cmd dtS t).1 with
          toTempTrack := temps, errorLast := errorLast, unrespS := unrespS, unresp := unresp },
        (stepFrozen p i m cmd dtS t).2) := by
  by_cases hlast : t.haveLast = true
  · unfold stepFrozen
    rw [countFrozen_frame, if_pos hlast, if_pos hlast]
    generalize countFrozen i m cmd dtS t = u
    have hmoved : cmdMoved p i cmd { u with
        toTempTrack := temps, errorLast := errorLast, unrespS := unrespS, unresp := unresp } =
      cmdMoved p i cmd u := rfl
    dsimp only
    rw [hmoved]
    generalize cmdMoved p i cmd u = moved
    split
    · rfl
    · split <;> rfl
  · have hfirst := Bool.eq_false_of_not_eq_true hlast
    rw [stepFrozen_first hfirst]
    exact stepFrozen_first (by exact hfirst)

/-- The temperatures of a motor after a step. -/
def nextTemps (p : Params K) (i : Fin 29) (m : MotorState K) (temps : TempTrack) :
    TempTrack × List (HealthLine K) :=
  stepTemps p.toTempParams temps m.tempCasing m.tempWinding (bodyWho i) (.temp i)

/-- A motor's step, condition by condition. -/
theorem stepBodyMotor_eq (p : Params K) (i : Fin 29) (m : MotorState K)
    (cmd : Option (MotorCommand K)) (dtS : K) (t : BodyTrack K) :
    stepBodyMotor p i m cmd dtS t =
      ({ (stepFrozen p i m cmd dtS t).1 with
          toTempTrack := (nextTemps p i m t.toTempTrack).1
          errorLast := m.error
          unrespS := nextUnrespS p i m cmd dtS t.unrespS
          unresp := nextUnresp p i m cmd (nextUnrespS p i m cmd dtS t.unrespS) t.unresp },
        (stepFault i m t).2 ++ (nextTemps p i m t.toTempTrack).2 ++
          (stepUnresp p i m cmd dtS t).2 ++ (stepFrozen p i m cmd dtS t).2) := by
  have hunresp : (stepUnresp p i m cmd dtS { t with
      toTempTrack := (nextTemps p i m t.toTempTrack).1, errorLast := m.error }).2 =
      (stepUnresp p i m cmd dtS t).2 := by
    unfold stepUnresp
    cases cmd with
    | none => rfl
    | some c => simp only [apply_ite Prod.snd]
  unfold stepBodyMotor
  dsimp only
  rw [stepFault_track, ← hunresp, ← nextTemps, stepUnresp_track]
  dsimp only
  rw [stepFrozen_frame t]

/-! ## Histories -/

theorem after_concat (p : Params K) (cs : List (HealthCall K)) (c : HealthCall K) :
    after p (cs ++ [c]) = ((after p cs).call c).1 := by
  unfold after
  rw [List.foldl_concat]

theorem call_off (hoff : r.p.enabled = false) : r.call c = (r, []) := by
  unfold call step
  rw [hoff]
  rfl

theorem stepSummary_frame (r : MotorHealthRules K) (body : Option (UnitreeState K))
    (left right : Option (HandState K)) (dtS : K) :
    (stepSummary r body left right dtS).1 =
      { r with summaryS := (stepSummary r body left right dtS).1.summaryS } := by
  unfold stepSummary
  split
  · split <;> rfl
  · rfl

theorem stepSide_frame (r : MotorHealthRules K) (side : HandSide) (hand : Option (HandState K)) :
    (stepSide r side hand).1 = { r with hand := (stepSide r side hand).1.hand } := by
  cases hand <;> rfl

theorem stepBody_frame (r : MotorHealthRules K) (body : Option (UnitreeState K))
    (cmd : Option (MotorCommand K)) (dtS : K) :
    (stepBody r body cmd dtS).1 = { r with body := (stepBody r body cmd dtS).1.body } := by
  cases body <;> rfl

theorem call_p (r : MotorHealthRules K) (c : HealthCall K) : (r.call c).1.p = r.p := by
  unfold call step
  split
  · dsimp only
    rw [stepSummary_frame, stepSide_frame, stepSide_frame, stepBody_frame]
  · rfl

theorem call_body (hon : r.p.enabled = true) :
    (r.call c).1.body = (stepBody r c.body c.cmd c.dtS).1.body := by
  unfold call step
  rw [if_pos hon]
  dsimp only
  rw [stepSummary_frame, stepSide_frame, stepSide_frame]

theorem after_p (p : Params K) (cs : List (HealthCall K)) : (after p cs).p = p := by
  induction cs using List.reverseRecOn with
  | nil => rfl
  | append_singleton cs c ih =>
    rw [after_concat, call_p]
    exact ih

theorem after_off (hoff : p.enabled = false) (cs : List (HealthCall K)) :
    after p cs = { p := p } := by
  induction cs using List.reverseRecOn with
  | nil => rfl
  | append_singleton cs c ih =>
    rw [after_concat, ih]
    exact congrArg Prod.fst (call_off hoff)

/-- A call without a body state leaves the motors as they are. -/
theorem after_body_none (cs : List (HealthCall K)) (hbody : c.body = none) :
    (after p (cs ++ [c])).body = (after p cs).body := by
  rw [after_concat]
  cases hon : (after p cs).p.enabled with
  | false => rw [call_off hon]
  | true =>
    rw [call_body hon, hbody]
    rfl

/-- A call with a body state steps every motor. -/
theorem after_body_some (hon : p.enabled = true) (cs : List (HealthCall K)) {s : UnitreeState K}
    (hbody : c.body = some s) (i : Fin 29) :
    (after p (cs ++ [c])).body i =
      (stepBodyMotor p i (s.motors i) c.cmd c.dtS ((after p cs).body i)).1 := by
  rw [after_concat, call_body (by rwa [after_p]), hbody]
  unfold stepBody
  rw [after_p]

theorem seen_concat (cs : List (HealthCall K)) (c : HealthCall K) :
    seen (cs ++ [c]) = if c.body.isSome then c :: seen cs else seen cs := by
  unfold seen
  rw [List.reverse_concat, List.filter_cons]

end MotorHealthRules

end Gearsonic
