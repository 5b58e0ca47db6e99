import Gearsonic.Control.MotorCommand
import Gearsonic.Unitree.HandGuard
import Gearsonic.Unitree.MotorTemperature
import Gearsonic.Unitree.UnitreeState

/-!
# The motor health rules

`MotorHealthRules`: what a step makes of the latest snapshots of the body, the command and the two
hands. It tracks a few conditions for each motor, and returns the lines to log. A line is a value
here, with the data that its text prints; `HealthLine.text` is the text.
-/

namespace Gearsonic

def kG1MotorNames : Fin 29 → String := ![
  "left_hip_pitch", "left_hip_roll", "left_hip_yaw", "left_knee", "left_ankle_pitch",
  "left_ankle_roll",
  "right_hip_pitch", "right_hip_roll", "right_hip_yaw", "right_knee", "right_ankle_pitch",
  "right_ankle_roll",
  "waist_yaw", "waist_roll", "waist_pitch",
  "left_shoulder_pitch", "left_shoulder_roll", "left_shoulder_yaw", "left_elbow",
  "left_wrist_roll", "left_wrist_pitch", "left_wrist_yaw",
  "right_shoulder_pitch", "right_shoulder_roll", "right_shoulder_yaw", "right_elbow",
  "right_wrist_roll", "right_wrist_pitch", "right_wrist_yaw"]

inductive HandSide where
  | left
  | right
deriving DecidableEq, Repr

inductive Sensor where
  | casing
  | winding
deriving DecidableEq, Repr

namespace MotorHealthRules

structure Params (K : Type) [Field K] extends TempParams where
  enabled : Bool := true
  unrespTauMin : K := 5
  unrespTauRatio : K := 0.3
  unrespTimeS : K := 1
  frozenTimeS : K := 1
  frozenCmdMove : K := 0.02
  summaryPeriodS : K := 0

structure BodyTrack (K : Type) [Field K] extends TempTrack where
  errorLast : UInt32 := 0
  unrespS : K := 0
  unresp : Bool := false
  frozenS : K := 0
  frozen : Bool := false
  qLast : K := 0
  cmdAtFreezeStart : K := 0
  haveLast : Bool := false

structure HandTrack where
  errorLast : UInt32 := 0
  temps : Fin 7 → TempTrack := fun _ => {}

/-- `who` of a body motor. -/
def bodyWho (i : Fin 29) : String := s!"motor {i} {kG1MotorNames i}"

def handName : HandSide → String
  | .left => "left hand"
  | .right => "right hand"

/-- `who` of a finger motor. -/
def handWho (side : HandSide) (i : Fin 7) : String := s!"{handName side} motor {i}"

end MotorHealthRules

/-- A line of the log, with what its text prints. -/
inductive HealthLine (K : Type) [Field K] where
  | fault (i : Fin 29) (m : MotorState K)
  | faultCleared (i : Fin 29) (was : UInt32)
  | temp (i : Fin 29) (sensor : Sensor) (line : TempLine)
  | notResponding (i : Fin 29) (expected kp qCmd : K) (m : MotorState K) (timeS : K)
  | producing (i : Fin 29) (tau expected : K)
  | stateFrozen (i : Fin 29) (q frozenS moved : K)
  | updating (i : Fin 29)
  | handFault (side : HandSide) (error : UInt32) (powerA : K)
  | handFaultCleared (side : HandSide) (was : UInt32)
  | handTemp (side : HandSide) (i : Fin 7) (sensor : Sensor) (line : TempLine)
  | summary (body : Option (UnitreeState K)) (left right : Option (HandState K))
      (activeFaults : Nat)

structure MotorHealthRules (K : Type) [Field K] where
  p : MotorHealthRules.Params K := {}
  body : Fin 29 → MotorHealthRules.BodyTrack K := fun _ => {}
  hand : HandSide → MotorHealthRules.HandTrack := fun _ => {}
  summaryS : K := 0

namespace MotorHealthRules

variable {K : Type} [Field K] [LinearOrder K]

def reset (r : MotorHealthRules K) : MotorHealthRules K := { p := r.p }

/-- The bits `kFault`, `kFrozen` and `kUnresp` of a body motor. -/
def bodyFlags (r : MotorHealthRules K) (i : Fin 29) : UInt8 :=
  (if (r.body i).errorLast ≠ 0 then 1 else 0) ||| (if (r.body i).frozen then 2 else 0) |||
    (if (r.body i).unresp then 4 else 0)

/-- A motor's sensors that are critical. -/
def TempTrack.criticals (t : TempTrack) : Nat :=
  (decide (t.casingLevel = .critical)).toNat + (decide (t.windingLevel = .critical)).toNat

def BodyTrack.faults (t : BodyTrack K) : Nat :=
  (decide (t.errorLast ≠ 0)).toNat + t.unresp.toNat + t.frozen.toNat + t.toTempTrack.criticals

def HandTrack.faults (t : HandTrack) : Nat :=
  (decide (t.errorLast ≠ 0)).toNat + ((List.finRange 7).map fun i => (t.temps i).criticals).sum

def activeFaults (r : MotorHealthRules K) : Nat :=
  ((List.finRange 29).map fun i => (r.body i).faults).sum +
    ((r.hand .left).faults + (r.hand .right).faults)

/-! ## One motor -/

section

variable (p : Params K) (i : Fin 29) (m : MotorState K) (cmd : Option (MotorCommand K)) (dtS : K)

/-- The fault word. -/
def stepFault (t : BodyTrack K) : BodyTrack K × List (HealthLine K) :=
  if m.error ≠ t.errorLast then
    ({ t with errorLast := m.error },
      if m.error ≠ 0 then [.fault i m] else [.faultCleared i t.errorLast])
  else (t, [])

/-- The two temperatures of a motor, with the lines that their changes log. -/
def stepTemps (p : TempParams) (t : TempTrack) (tempCasing tempWinding : Int) (who : String)
    (line : Sensor → TempLine → HealthLine K) : TempTrack × List (HealthLine K) :=
  let casing := tempTransition t.casingLevel tempCasing p.casingWarnC p.casingCriticalC "casing" who
  let winding :=
    tempTransition t.windingLevel tempWinding p.windingWarnC p.windingCriticalC "winding" who
  (⟨casing.1, winding.1⟩, casing.2.map (line .casing) ++ winding.2.map (line .winding))

/-- The torque that a command asks for. -/
def expectedTau (c : MotorCommand K) : K :=
  c.kp i * (c.qTarget i - m.q) + c.kd i * (c.dqTarget i - m.dq) + c.tauFf i

/-- The torque asked for is not being produced. -/
def unrespCond (c : MotorCommand K) : Bool :=
  decide (p.unrespTauMin < |expectedTau i m c|) &&
    decide (|m.tau| < p.unrespTauRatio * |expectedTau i m c|)

/-- The torque asked for is being produced. -/
def unrespConfirmed (c : MotorCommand K) : Bool :=
  decide (p.unrespTauMin < |expectedTau i m c|) &&
    decide (p.unrespTauRatio * |expectedTau i m c| ≤ |m.tau|)

/-- Not responding. -/
def stepUnresp (t : BodyTrack K) : BodyTrack K × List (HealthLine K) :=
  match cmd with
  | none => ({ t with unrespS := 0 }, [])
  | some c =>
    let expected := expectedTau i m c
    let t := { t with unrespS := if unrespCond p i m c then t.unrespS + dtS else 0 }
    if !t.unresp && decide (p.unrespTimeS ≤ t.unrespS) then
      ({ t with unresp := true },
        [.notResponding i expected (c.kp i) (c.qTarget i) m p.unrespTimeS])
    else if t.unresp && unrespConfirmed p i m c then
      ({ t with unresp := false }, [.producing i m.tau expected])
    else (t, [])

/-- The timer of an unchanged reading, and the command it is compared with from then on. -/
def countFrozen (t : BodyTrack K) : BodyTrack K :=
  if m.q = t.qLast then
    { t with
      cmdAtFreezeStart :=
        match cmd with
        | some c => if t.frozenS = 0 then c.qTarget i else t.cmdAtFreezeStart
        | none => t.cmdAtFreezeStart
      frozenS := t.frozenS + dtS }
  else { t with frozenS := 0 }

/-- `cmd_moved`. -/
def cmdMoved (t : BodyTrack K) : Bool :=
  match cmd with
  | some c => decide (p.frozenCmdMove < |c.qTarget i - t.cmdAtFreezeStart|)
  | none => false

/-- The reading is unchanged while the command moves. -/
def stepFrozen (t : BodyTrack K) : BodyTrack K × List (HealthLine K) :=
  let last (t : BodyTrack K) : BodyTrack K := { t with qLast := m.q, haveLast := true }
  if t.haveLast then
    let same := decide (m.q = t.qLast)
    let t := countFrozen i m cmd dtS t
    if !t.frozen && decide (p.frozenTimeS ≤ t.frozenS) && cmdMoved p i cmd t then
      let moved := (cmd.elim 0 fun c => c.qTarget i) - t.cmdAtFreezeStart
      (last { t with frozen := true }, [.stateFrozen i m.q t.frozenS moved])
    else if t.frozen && !same then (last { t with frozen := false }, [.updating i])
    else (last t, [])
  else (last t, [])

def stepBodyMotor (t : BodyTrack K) : BodyTrack K × List (HealthLine K) :=
  let fault := stepFault i m t
  let temps := stepTemps p.toTempParams fault.1.toTempTrack m.tempCasing m.tempWinding (bodyWho i)
    (.temp i)
  let unresp := stepUnresp p i m cmd dtS { fault.1 with toTempTrack := temps.1 }
  let frozen := stepFrozen p i m cmd dtS unresp.1
  (frozen.1, fault.2 ++ temps.2 ++ unresp.2 ++ frozen.2)

end

/-! ## A step -/

/-- The fault word of a hand. -/
def stepHandFault (side : HandSide) (h : HandState K) (t : HandTrack) :
    HandTrack × List (HealthLine K) :=
  if h.error ≠ t.errorLast then
    ({ t with errorLast := h.error },
      if h.error ≠ 0 then [.handFault side h.error h.powerA]
      else [.handFaultCleared side t.errorLast])
  else (t, [])

def stepFinger (p : Params K) (side : HandSide) (h : HandState K) (t : HandTrack) (i : Fin 7) :
    TempTrack × List (HealthLine K) :=
  stepTemps p.toTempParams (t.temps i) (h.motors i).tempCasing (h.motors i).tempWinding
    (handWho side i) (.handTemp side i)

def stepHand (p : Params K) (side : HandSide) (h : HandState K) (t : HandTrack) :
    HandTrack × List (HealthLine K) :=
  let fault := stepHandFault side h t
  ({ fault.1 with temps := fun i => (stepFinger p side h t i).1 },
    fault.2 ++ (List.finRange 7).flatMap fun i => (stepFinger p side h t i).2)

/-- The body's part of a step. -/
def stepBody (r : MotorHealthRules K) (body : Option (UnitreeState K))
    (cmd : Option (MotorCommand K)) (dtS : K) : MotorHealthRules K × List (HealthLine K) :=
  match body with
  | none => (r, [])
  | some s =>
    let motor (i : Fin 29) := stepBodyMotor r.p i (s.motors i) cmd dtS (r.body i)
    ({ r with body := fun i => (motor i).1 }, (List.finRange 29).flatMap fun i => (motor i).2)

/-- A hand's part of a step. -/
def stepSide (r : MotorHealthRules K) (side : HandSide) (hand : Option (HandState K)) :
    MotorHealthRules K × List (HealthLine K) :=
  match hand with
  | none => (r, [])
  | some h =>
    let next := stepHand r.p side h (r.hand side)
    ({ r with hand := fun s => if s = side then next.1 else r.hand s }, next.2)

/-- The periodic line. -/
def stepSummary (r : MotorHealthRules K) (body : Option (UnitreeState K))
    (left right : Option (HandState K)) (dtS : K) : MotorHealthRules K × List (HealthLine K) :=
  if 0 < r.p.summaryPeriodS then
    if r.p.summaryPeriodS ≤ r.summaryS + dtS then
      ({ r with summaryS := 0 }, [.summary body left right r.activeFaults])
    else ({ r with summaryS := r.summaryS + dtS }, [])
  else (r, [])

def step (r : MotorHealthRules K) (body : Option (UnitreeState K))
    (cmd : Option (MotorCommand K)) (left right : Option (HandState K)) (dtS : K) :
    MotorHealthRules K × List (HealthLine K) :=
  if r.p.enabled then
    let body' := stepBody r body cmd dtS
    let left' := stepSide body'.1 .left left
    let right' := stepSide left'.1 .right right
    let summary' := stepSummary right'.1 body left right dtS
    (summary'.1, body'.2 ++ left'.2 ++ right'.2 ++ summary'.2)
  else (r, [])

end MotorHealthRules

/-! ## The text of a line -/

namespace HealthLine

open MotorHealthRules

/-- `%08x`. -/
def hexWord (w : UInt32) : String :=
  let digits := Nat.toDigits 16 w.toNat
  String.ofList (List.replicate (8 - digits.length) '0' ++ digits)

/-- The first motor with the highest temperature. -/
def hottest (temp : Fin 29 → Int) : Fin 29 :=
  (List.finRange 29).foldl (fun h i => if temp h < temp i then i else h) 0

/-- `hand_max`. -/
def handMax {K : Type} [Field K] (h : HandState K) : Int :=
  (List.finRange 7).foldl (fun t i => max t (h.motors i).tempCasing) 0

variable {K : Type} [Field K]

/-- `summary`. -/
def summaryText (body : Option (UnitreeState K)) (left right : Option (HandState K))
    (activeFaults : Nat) : String :=
  let hand (h : Option (HandState K)) : String := h.elim "-" fun h => s!"{handMax h}C"
  "[MotorHealth] " ++
    (match body with
      | some s =>
        let hc := hottest fun i => (s.motors i).tempCasing
        let hw := hottest fun i => (s.motors i).tempWinding
        s!"hottest casing motor {hc} {kG1MotorNames hc} {(s.motors hc).tempCasing}C, " ++
          s!"winding motor {hw} {kG1MotorNames hw} {(s.motors hw).tempWinding}C"
      | none => "body state: none") ++
    s!"; hand casing L {hand left} R {hand right}" ++
    (if activeFaults = 0 then "; faults: none" else s!"; active faults: {activeFaults}")

/-- The line as it is logged; `fixed d x` prints `x` with `d` decimals. -/
def text (fixed : Nat → K → String) : HealthLine K → String
  | fault i m =>
    s!"[MotorHealth] EMERGENCY {bodyWho i}: fault word 0x{hexWord m.error} (SDK motorstate; " ++
      s!"decode in the Unitree app) — q={fixed 3 m.q} dq={fixed 3 m.dq} tau={fixed 2 m.tau} " ++
      s!"casing {m.tempCasing}C winding {m.tempWinding}C. The controller still receives " ++
      "commands but this motor may not execute them, and its reported state may be stale."
  | faultCleared i was => s!"[MotorHealth] {bodyWho i}: fault cleared (was 0x{hexWord was})"
  | temp _ _ line => line.text
  | notResponding i expected kp qCmd m timeS =>
    s!"[MotorHealth] EMERGENCY {bodyWho i}: NOT RESPONDING — command asks for " ++
      s!"{fixed 1 expected} Nm (kp={fixed 0 kp}, q_cmd={fixed 3 qCmd}, q={fixed 3 m.q}, " ++
      s!"dq={fixed 3 m.dq}) but tau_est is {fixed 1 m.tau} Nm for {fixed 1 timeS}s. The motor " ++
      "is not producing torque: dead driver or power loss."
  | producing i tau expected =>
    s!"[MotorHealth] {bodyWho i}: producing torque again (tau_est {fixed 1 tau} Nm of " ++
      s!"{fixed 1 expected} expected)"
  | stateFrozen i q frozenS moved =>
    s!"[MotorHealth] EMERGENCY {bodyWho i}: STATE FROZEN — q={fixed 4 q} bit-identical for " ++
      s!"{fixed 1 frozenS}s while the command moved {fixed 3 moved} rad. The motor stopped " ++
      "reporting: the policy is observing a stale value, not the real joint."
  | updating i => s!"[MotorHealth] {bodyWho i}: state updating again"
  | handFault side error powerA =>
    s!"[MotorHealth] EMERGENCY {handName side}: fault word 0x{hexWord error} (Dex3 error[0]) " ++
      s!"— bus {fixed 1 powerA}A. Finger commands may not execute."
  | handFaultCleared side was =>
    s!"[MotorHealth] {handName side}: fault cleared (was 0x{hexWord was})"
  | handTemp _ _ _ line => line.text
  | summary body left right activeFaults => summaryText body left right activeFaults

end HealthLine

end Gearsonic
