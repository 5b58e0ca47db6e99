import Gearsonic.Transition.EdgeLog
import Gearsonic.Unitree.HealthHistory
import Mathlib.Algebra.BigOperators.Group.List.Basic
import Mathlib.Data.List.TakeWhile

/-!
# The health log

Every condition that the rules track has one stored value, and a call logs a line for exactly the
values that it changes. The log is therefore enough to know the flags.

* `call_edges`: the lines of a call are the changes of all conditions, in the code's order.
* `unrespLaw`: when a motor becomes one that does not respond, and when it is cleared.
* `health_log_laws`: both, over every history, and the replay of the log.
-/

set_option linter.unusedSectionVars false

namespace Gearsonic

inductive BodyCondition where
  | fault
  | temp (sensor : Sensor)
  | unresp
  | frozen
deriving DecidableEq, Repr

inductive HandCondition where
  | fault
  | temp (i : Fin 7) (sensor : Sensor)
deriving DecidableEq, Repr

/-- A condition of one motor, or of one hand. -/
inductive HealthCondition where
  | body (i : Fin 29) (condition : BodyCondition)
  | hand (side : HandSide) (condition : HandCondition)
deriving DecidableEq, Repr

/-- The level that a temperature line reports. -/
def TempLine.level : TempLine → TempLevel
  | emergency .. => .critical
  | warning .. => .warn
  | back .. => .ok

namespace HealthLine

variable {K : Type} [Field K]

/-- The condition that a line is about, and the value it reports. -/
def edge : HealthLine K → Option (HealthCondition × Nat)
  | fault i m => some (.body i .fault, m.error.toNat)
  | faultCleared i _ => some (.body i .fault, 0)
  | temp i sensor line => some (.body i (.temp sensor), line.level.severity)
  | notResponding i .. => some (.body i .unresp, 1)
  | producing i .. => some (.body i .unresp, 0)
  | stateFrozen i .. => some (.body i .frozen, 1)
  | updating i => some (.body i .frozen, 0)
  | handFault side error _ => some (.hand side .fault, error.toNat)
  | handFaultCleared side _ => some (.hand side .fault, 0)
  | handTemp side i sensor line => some (.hand side (.temp i sensor), line.level.severity)
  | summary .. => none

end HealthLine

namespace HealthCall

variable {K : Type} [Field K] [LinearOrder K]

/-- There is a command that asks motor `i` for torque, and the motor does not produce it. -/
def lacks (c : HealthCall K) (p : MotorHealthRules.Params K) (i : Fin 29) : Bool :=
  match c.body, c.cmd with
  | some s, some k => MotorHealthRules.unrespCond p i (s.motors i) k
  | _, _ => false

/-- There is a command that asks motor `i` for torque, and the motor produces it. -/
def Produces (c : HealthCall K) (p : MotorHealthRules.Params K) (i : Fin 29) : Prop :=
  ∃ s k, c.body = some s ∧ c.cmd = some k ∧
    p.unrespTauMin < |MotorHealthRules.expectedTau i (s.motors i) k| ∧
    p.unrespTauRatio * |MotorHealthRules.expectedTau i (s.motors i) k| ≤ |(s.motors i).tau|

end HealthCall

namespace MotorHealthRules

variable {K : Type} [Field K] [LinearOrder K]

def edges (lines : List (HealthLine K)) : List (HealthCondition × Nat) :=
  lines.filterMap HealthLine.edge

def TempTrack.stored (t : TempTrack) : Sensor → Nat
  | .casing => t.casingLevel.severity
  | .winding => t.windingLevel.severity

def BodyTrack.stored (t : BodyTrack K) : BodyCondition → Nat
  | .fault => t.errorLast.toNat
  | .temp sensor => t.toTempTrack.stored sensor
  | .unresp => t.unresp.toNat
  | .frozen => t.frozen.toNat

def HandTrack.stored (t : HandTrack) : HandCondition → Nat
  | .fault => t.errorLast.toNat
  | .temp i sensor => (t.temps i).stored sensor

/-- The value that the rules hold for each condition. -/
def stored (r : MotorHealthRules K) : HealthCondition → Nat
  | .body i condition => (r.body i).stored condition
  | .hand side condition => (r.hand side).stored condition

/-- `body_flags`, of stored values. -/
def flagsOf (store : HealthCondition → Nat) (i : Fin 29) : UInt8 :=
  (if store (.body i .fault) ≠ 0 then 1 else 0) |||
    (if store (.body i .frozen) = 1 then 2 else 0) |||
    (if store (.body i .unresp) = 1 then 4 else 0)

/-- The critical sensors of a motor, of stored values. -/
def criticalsOf (store : Sensor → Nat) : Nat :=
  (decide (store .casing = 2)).toNat + (decide (store .winding = 2)).toNat

/-- `active_faults`, of stored values. -/
def faultsOf (store : HealthCondition → Nat) : Nat :=
  let body (i : Fin 29) : Nat :=
    (decide (store (.body i .fault) ≠ 0)).toNat + store (.body i .unresp) +
      store (.body i .frozen) + criticalsOf fun sensor => store (.body i (.temp sensor))
  let hand (side : HandSide) : Nat :=
    (decide (store (.hand side .fault) ≠ 0)).toNat +
      ((List.finRange 7).map fun i =>
        criticalsOf fun sensor => store (.hand side (.temp i sensor))).sum
  ((List.finRange 29).map body).sum + (hand .left + hand .right)

/-- The calls in a row, ending with the last that carried a body state, in which motor `i` did not
produce the torque asked for; newest first. -/
def lackRun (p : Params K) (i : Fin 29) (cs : List (HealthCall K)) : List (HealthCall K) :=
  (seen cs).takeWhile fun c => c.lacks p i

/-- That has been so for `unresp_time_s`. -/
def UnrespDue (p : Params K) (i : Fin 29) (cs : List (HealthCall K)) : Prop :=
  p.unrespTimeS ≤ ((lackRun p i cs).map HealthCall.dtS).sum

/-- What a call does to the unresp flag of motor `i` after a history: it is set at the first call
at which it is due, counted from the last one that saw the torque, and cleared only by one that
sees it. -/
structure UnrespLaw (p : Params K) (cs : List (HealthCall K)) (c : HealthCall K) (i : Fin 29) :
    Prop where
  becomes : (((after p cs).body i).unresp = false ∧
      ((after p (cs ++ [c])).body i).unresp = true) ↔
    UnrespDue p i (cs ++ [c]) ∧
      ∀ before later, cs = before ++ later → UnrespDue p i before →
        ∃ d ∈ later, d.Produces p i
  clears : (((after p cs).body i).unresp = true ∧
      ((after p (cs ++ [c])).body i).unresp = false) ↔
    ((after p cs).body i).unresp = true ∧ c.Produces p i

/-- The log of a history. -/
def log (p : Params K) (cs : List (HealthCall K)) : List (HealthLine K) :=
  (EdgeLog.run call { p := p } cs).2

variable {p : Params K} {i : Fin 29} {m : MotorState K} {cmd : Option (MotorCommand K)} {dtS : K}
  {t : BodyTrack K} {r : MotorHealthRules K} {c : HealthCall K} {cs : List (HealthCall K)}

/-! ## The lines of a motor -/

theorem severity_injective : Function.Injective TempLevel.severity := by
  intro level level' h
  cases level <;> cases level' <;> first | rfl | cases h

/-- A temperature line reports the level it has changed to. -/
theorem tempTransition_lines (level : TempLevel) (temp warn critical : Int)
    (sensor who : String) {f : TempLine → HealthLine K} {x : HealthCondition}
    (hf : ∀ line, (f line).edge = some (x, line.level.severity)) :
    edges ((tempTransition level temp warn critical sensor who).2.map f) =
      EdgeLog.change x level.severity
        (tempTransition level temp warn critical sensor who).1.severity := by
  rw [tempTransition_fst]
  unfold tempTransition
  dsimp only
  by_cases hsame : nextLevel level temp warn critical = level
  · rw [if_pos hsame, hsame, EdgeLog.change_self]
    rfl
  · rw [if_neg hsame, EdgeLog.change_of_ne fun h => hsame (severity_injective h).symm]
    cases nextLevel level temp warn critical <;> simp [edges, hf, TempLine.level]

theorem edges_append (lines lines' : List (HealthLine K)) :
    edges (lines ++ lines') = edges lines ++ edges lines' := List.filterMap_append

theorem stepTemps_edges (p : TempParams) (t : TempTrack) (tempCasing tempWinding : Int)
    (who : String) {line : Sensor → TempLine → HealthLine K} {x : Sensor → HealthCondition}
    (hline : ∀ sensor l, (line sensor l).edge = some (x sensor, l.level.severity)) :
    edges (stepTemps p t tempCasing tempWinding who line).2 =
      [Sensor.casing, .winding].flatMap fun sensor => EdgeLog.change (x sensor) (t.stored sensor)
        ((stepTemps p t tempCasing tempWinding who line).1.stored sensor) := by
  unfold stepTemps
  dsimp only
  rw [edges_append, tempTransition_lines _ _ _ _ _ _ (hline .casing),
    tempTransition_lines _ _ _ _ _ _ (hline .winding), List.flatMap_cons, List.flatMap_cons,
    List.flatMap_nil, List.append_nil]
  rfl

/-- The lines of a fault word report the word. -/
theorem word_edges {x : HealthCondition} {old new : UInt32} {set cleared : HealthLine K}
    (hset : set.edge = some (x, new.toNat)) (hcleared : cleared.edge = some (x, 0)) :
    edges (if new ≠ old then if new ≠ 0 then [set] else [cleared] else []) =
      EdgeLog.change x old.toNat new.toNat := by
  by_cases hsame : new = old
  · rw [if_neg (not_not.mpr hsame), hsame, EdgeLog.change_self]
    rfl
  · rw [if_pos hsame, EdgeLog.change_of_ne fun h => hsame (UInt32.toNat_inj.mp h).symm]
    by_cases hzero : new = 0
    · rw [if_neg (not_not.mpr hzero), hzero]
      simp [edges, hcleared]
    · rw [if_pos hzero]
      simp [edges, hset]

theorem stepFault_edges (i : Fin 29) (m : MotorState K) (t : BodyTrack K) :
    edges (stepFault i m t).2 =
      EdgeLog.change (.body i .fault) t.errorLast.toNat m.error.toNat := by
  unfold stepFault
  rw [apply_ite Prod.snd]
  exact word_edges rfl rfl

theorem stepUnresp_edges (p : Params K) (i : Fin 29) (m : MotorState K)
    (cmd : Option (MotorCommand K)) (dtS : K) (t : BodyTrack K) :
    edges (stepUnresp p i m cmd dtS t).2 =
      EdgeLog.change (.body i .unresp) t.unresp.toNat
        (nextUnresp p i m cmd (nextUnrespS p i m cmd dtS t.unrespS) t.unresp).toNat := by
  unfold stepUnresp nextUnresp nextUnrespS
  cases cmd with
  | none =>
    rw [EdgeLog.change_self]
    rfl
  | some c =>
    dsimp only
    cases hunresp : t.unresp with
    | false =>
      by_cases htime : p.unrespTimeS ≤ if unrespCond p i m c then t.unrespS + dtS else 0
      · simp [htime, edges, HealthLine.edge, EdgeLog.change]
      · simp [htime, edges]
    | true =>
      cases hconf : unrespConfirmed p i m c with
      | false => simp [edges]
      | true => simp [edges, HealthLine.edge, EdgeLog.change]

theorem stepFrozen_edges (p : Params K) (i : Fin 29) (m : MotorState K)
    (cmd : Option (MotorCommand K)) (dtS : K) (t : BodyTrack K) :
    edges (stepFrozen p i m cmd dtS t).2 =
      EdgeLog.change (.body i .frozen) t.frozen.toNat
        (stepFrozen p i m cmd dtS t).1.frozen.toNat := by
  cases hlast : t.haveLast with
  | false =>
    rw [stepFrozen_first hlast, EdgeLog.change_self]
    rfl
  | true =>
    have hfrozen : (countFrozen i m cmd dtS t).frozen = t.frozen := by rw [countFrozen_track]
    unfold stepFrozen
    rw [hlast, if_pos rfl]
    dsimp only
    rw [hfrozen]
    cases ht : t.frozen with
    | false =>
      cases hset : decide (p.frozenTimeS ≤ (countFrozen i m cmd dtS t).frozenS) &&
          cmdMoved p i cmd (countFrozen i m cmd dtS t) with
      | false => simp [hset, edges]
      | true => simp [hset, edges, HealthLine.edge, EdgeLog.change]
    | true =>
      by_cases hsame : m.q = t.qLast
      · simp [hsame, edges]
      · simp [hsame, edges, HealthLine.edge, EdgeLog.change]

/-- The conditions of a body motor, as the code checks them. -/
def bodyConditions : List BodyCondition :=
  [.fault, .temp .casing, .temp .winding, .unresp, .frozen]

/-- The conditions of a hand, as the code checks them. -/
def handConditions : List HandCondition :=
  .fault :: (List.finRange 7).flatMap fun i => [.temp i .casing, .temp i .winding]

theorem stepBodyMotor_edges (p : Params K) (i : Fin 29) (m : MotorState K)
    (cmd : Option (MotorCommand K)) (dtS : K) (t : BodyTrack K) :
    edges (stepBodyMotor p i m cmd dtS t).2 =
      bodyConditions.flatMap fun condition =>
        EdgeLog.change (.body i condition) (t.stored condition)
          ((stepBodyMotor p i m cmd dtS t).1.stored condition) := by
  rw [stepBodyMotor_eq]
  unfold nextTemps
  rw [edges_append, edges_append, edges_append, stepFault_edges, stepUnresp_edges,
    stepFrozen_edges, stepTemps_edges _ _ _ _ _ fun _ _ => rfl]
  unfold bodyConditions
  simp only [List.flatMap_cons, List.flatMap_nil, List.append_nil, List.append_assoc]
  rfl

theorem stepHandFault_track (side : HandSide) (h : HandState K) (t : HandTrack) :
    (stepHandFault side h t).1 = { t with errorLast := h.error } := by
  unfold stepHandFault
  split
  · rfl
  · rename_i heq
    rw [not_not.mp heq]

theorem stepHandFault_edges (side : HandSide) (h : HandState K) (t : HandTrack) :
    edges (stepHandFault side h t).2 =
      EdgeLog.change (.hand side .fault) t.errorLast.toNat h.error.toNat := by
  unfold stepHandFault
  rw [apply_ite Prod.snd]
  exact word_edges rfl rfl

theorem edges_flatMap {ι : Type} (is : List ι) (f : ι → List (HealthLine K)) :
    edges (is.flatMap f) = is.flatMap fun i => edges (f i) := List.filterMap_flatMap

theorem stepHand_edges (p : Params K) (side : HandSide) (h : HandState K) (t : HandTrack) :
    edges (stepHand p side h t).2 =
      handConditions.flatMap fun condition =>
        EdgeLog.change (.hand side condition) (t.stored condition)
          ((stepHand p side h t).1.stored condition) := by
  have hfinger (i : Fin 7) : edges (stepFinger p side h t i).2 =
      [Sensor.casing, .winding].flatMap fun sensor =>
        EdgeLog.change (.hand side (.temp i sensor)) ((t.temps i).stored sensor)
          ((stepFinger p side h t i).1.stored sensor) :=
    stepTemps_edges _ _ _ _ _ fun _ _ => rfl
  unfold stepHand
  dsimp only
  rw [edges_append, stepHandFault_edges, stepHandFault_track, edges_flatMap]
  unfold handConditions
  rw [List.flatMap_cons, List.flatMap_assoc]
  congr 1
  apply List.flatMap_congr
  intro i _
  rw [hfinger]
  rfl

/-! ## The lines of a call -/

def ofBody : List HealthCondition :=
  (List.finRange 29).flatMap fun i => bodyConditions.map (.body i)

def ofHand (side : HandSide) : List HealthCondition := handConditions.map (.hand side)

/-- The conditions of the body, then those of the left hand, then those of the right. -/
def allConditions : List HealthCondition := ofBody ++ (ofHand .left ++ ofHand .right)

theorem allConditions_nodup : allConditions.Nodup := by decide +kernel

theorem mem_allConditions (x : HealthCondition) : x ∈ allConditions := by
  unfold allConditions ofBody ofHand
  simp only [List.mem_append, List.mem_flatMap, List.mem_map, List.mem_finRange, true_and]
  cases x with
  | body i condition =>
    refine Or.inl ⟨i, condition, ?_, rfl⟩
    rcases condition with _ | sensor | _ | _
    · decide
    · cases sensor <;> decide
    · decide
    · decide
  | hand side condition =>
    have hmem : condition ∈ handConditions := by
      unfold handConditions
      cases condition with
      | fault => exact List.mem_cons_self
      | temp i sensor =>
        apply List.mem_cons_of_mem
        rw [List.mem_flatMap]
        refine ⟨i, List.mem_finRange i, ?_⟩
        cases sensor <;> simp
    cases side with
    | left => exact Or.inr (Or.inl ⟨condition, hmem, rfl⟩)
    | right => exact Or.inr (Or.inr ⟨condition, hmem, rfl⟩)

/-- The changes of the given conditions from one state of the rules to another. -/
def changes (r r' : MotorHealthRules K) (xs : List HealthCondition) :
    List (HealthCondition × Nat) :=
  xs.flatMap fun x => EdgeLog.change x (r.stored x) (r'.stored x)

theorem changes_self (r : MotorHealthRules K) (xs : List HealthCondition) :
    changes r r xs = [] := by
  unfold changes
  simp

theorem changes_append (r r' : MotorHealthRules K) (xs ys : List HealthCondition) :
    changes r r' (xs ++ ys) = changes r r' xs ++ changes r r' ys := List.flatMap_append

theorem changes_congr {r₁ r₂ r₁' r₂' : MotorHealthRules K} {xs : List HealthCondition}
    (h : ∀ x ∈ xs, r₁.stored x = r₂.stored x ∧ r₁'.stored x = r₂'.stored x) :
    changes r₁ r₁' xs = changes r₂ r₂' xs := by
  unfold changes
  apply List.flatMap_congr
  intro x hx
  rw [(h x hx).1, (h x hx).2]

/-- The body's changes depend on the body's tracks only. -/
theorem changes_ofBody {r₁ r₂ r₁' r₂' : MotorHealthRules K} (h : r₁.body = r₂.body)
    (h' : r₁'.body = r₂'.body) : changes r₁ r₁' ofBody = changes r₂ r₂' ofBody := by
  apply changes_congr
  intro x hx
  obtain ⟨i, -, hi⟩ := List.mem_flatMap.mp hx
  obtain ⟨condition, -, rfl⟩ := List.mem_map.mp hi
  unfold stored
  dsimp only
  rw [h, h']
  exact ⟨rfl, rfl⟩

theorem changes_ofHand {r₁ r₂ r₁' r₂' : MotorHealthRules K} {side : HandSide}
    (h : r₁.hand side = r₂.hand side) (h' : r₁'.hand side = r₂'.hand side) :
    changes r₁ r₁' (ofHand side) = changes r₂ r₂' (ofHand side) := by
  apply changes_congr
  intro x hx
  obtain ⟨condition, -, rfl⟩ := List.mem_map.mp hx
  unfold stored
  dsimp only
  rw [h, h']
  exact ⟨rfl, rfl⟩

theorem stepBody_edges (r : MotorHealthRules K) (body : Option (UnitreeState K))
    (cmd : Option (MotorCommand K)) (dtS : K) :
    edges (stepBody r body cmd dtS).2 = changes r (stepBody r body cmd dtS).1 ofBody := by
  cases body with
  | none => exact (changes_self r _).symm
  | some s =>
    unfold stepBody changes ofBody
    dsimp only
    rw [edges_flatMap, List.flatMap_assoc]
    apply List.flatMap_congr
    intro i _
    rw [stepBodyMotor_edges, List.flatMap_map]
    rfl

theorem stepSide_edges (r : MotorHealthRules K) (side : HandSide)
    (hand : Option (HandState K)) :
    edges (stepSide r side hand).2 = changes r (stepSide r side hand).1 (ofHand side) := by
  cases hand with
  | none => exact (changes_self r _).symm
  | some h =>
    unfold stepSide changes ofHand
    dsimp only
    rw [stepHand_edges, List.flatMap_map]
    apply List.flatMap_congr
    intro condition _
    unfold stored
    dsimp only
    rw [if_pos rfl]

/-- A hand's part touches neither the body nor the other hand. -/
theorem stepSide_others (r : MotorHealthRules K) {side side' : HandSide} (h : side' ≠ side)
    (hand : Option (HandState K)) : (stepSide r side hand).1.hand side' = r.hand side' := by
  cases hand with
  | none => rfl
  | some _ => exact if_neg h

/-- Without the periodic line a call is its three parts. -/
theorem call_eq (hon : r.p.enabled = true) (hsummary : r.p.summaryPeriodS ≤ 0)
    (c : HealthCall K) :
    let body := stepBody r c.body c.cmd c.dtS
    let left := stepSide body.1 .left c.left
    let right := stepSide left.1 .right c.right
    r.call c = (right.1, body.2 ++ left.2 ++ right.2) := by
  dsimp only
  have hoff (r' : MotorHealthRules K) (hp : r'.p = r.p) :
      stepSummary r' c.body c.left c.right c.dtS = (r', []) := by
    unfold stepSummary
    rw [hp, if_neg (not_lt.mpr hsummary)]
  unfold call step
  rw [if_pos hon]
  dsimp only
  rw [hoff, List.append_nil]
  rw [stepSide_frame, stepSide_frame, stepBody_frame]

/-- The lines of a call are the changes of all conditions, one after the other. -/
theorem call_edges (hon : r.p.enabled = true) (hsummary : r.p.summaryPeriodS ≤ 0)
    (c : HealthCall K) : edges (r.call c).2 = changes r (r.call c).1 allConditions := by
  have hcall := call_eq hon hsummary c
  dsimp only at hcall
  rw [hcall]
  generalize hb : stepBody r c.body c.cmd c.dtS = body
  generalize hl : stepSide body.1 .left c.left = left
  generalize hr : stepSide left.1 .right c.right = right
  have hbody : body.1.hand = r.hand := by
    rw [← hb, stepBody_frame]
  have hleft : left.1.body = body.1.body ∧ left.1.hand .right = body.1.hand .right := by
    rw [← hl]
    exact ⟨by rw [stepSide_frame], stepSide_others _ (by decide) _⟩
  have hright : right.1.body = left.1.body ∧ right.1.hand .left = left.1.hand .left := by
    rw [← hr]
    exact ⟨by rw [stepSide_frame], stepSide_others _ (by decide) _⟩
  have hpart : edges body.2 = changes r right.1 ofBody := by
    rw [changes_ofBody rfl (hright.1.trans hleft.1), ← hb]
    exact stepBody_edges r c.body c.cmd c.dtS
  have hpart' : edges left.2 = changes r right.1 (ofHand .left) := by
    rw [changes_ofHand (congrFun hbody.symm _) hright.2, ← hl]
    exact stepSide_edges body.1 .left c.left
  have hpart'' : edges right.2 = changes r right.1 (ofHand .right) := by
    rw [changes_ofHand ((congrFun hbody.symm _).trans hleft.2.symm) rfl, ← hr]
    exact stepSide_edges left.1 .right c.right
  dsimp only
  rw [edges_append, edges_append, hpart, hpart', hpart'', List.append_assoc]
  unfold allConditions
  rw [changes_append, changes_append]

/-! ## Not responding -/

/-- The motor has been due, and has not produced its torque since. -/
def Overdue (p : Params K) (i : Fin 29) (cs : List (HealthCall K)) : Prop :=
  ∃ before later, cs = before ++ later ∧ UnrespDue p i before ∧ ∀ d ∈ later, ¬ d.Produces p i

theorem overdue_concat (p : Params K) (i : Fin 29) (cs : List (HealthCall K))
    (c : HealthCall K) :
    Overdue p i (cs ++ [c]) ↔
      UnrespDue p i (cs ++ [c]) ∨ Overdue p i cs ∧ ¬ c.Produces p i := by
  constructor
  · rintro ⟨before, later, heq, hdue, hlater⟩
    rcases List.eq_nil_or_concat later with rfl | ⟨later, d, rfl⟩
    · rw [List.append_nil] at heq
      exact Or.inl (heq ▸ hdue)
    · rw [List.concat_eq_append, ← List.append_assoc] at heq
      obtain ⟨rfl, hd⟩ := List.append_inj' heq rfl
      obtain rfl := (List.singleton_inj.mp hd)
      exact Or.inr ⟨⟨before, later, rfl, hdue, fun e he => hlater e (by simp [he])⟩,
        hlater c (by simp)⟩
  · rintro (hdue | ⟨⟨before, later, rfl, hdue, hlater⟩, hc⟩)
    · exact ⟨cs ++ [c], [], (List.append_nil _).symm, hdue, nofun⟩
    · refine ⟨before, later ++ [c], (List.append_assoc _ _ _), hdue, ?_⟩
      intro d hd
      rcases List.mem_append.mp hd with hd | hd
      · exact hlater d hd
      · exact List.mem_singleton.mp hd ▸ hc

theorem not_overdue_iff : ¬ Overdue p i cs ↔
    ∀ before later, cs = before ++ later → UnrespDue p i before → ∃ d ∈ later, d.Produces p i := by
  unfold Overdue
  push Not
  rfl

theorem lackRun_concat_none (cs : List (HealthCall K)) (hbody : c.body = none) :
    lackRun p i (cs ++ [c]) = lackRun p i cs := by
  unfold lackRun
  rw [seen_concat, hbody]
  rfl

theorem lackRun_concat_some (cs : List (HealthCall K)) (hbody : c.body.isSome = true) :
    lackRun p i (cs ++ [c]) = if c.lacks p i then c :: lackRun p i cs else [] := by
  unfold lackRun
  rw [seen_concat, if_pos hbody, List.takeWhile_cons]

theorem not_produces_of_lacks (h : c.lacks p i = true) : ¬ c.Produces p i := by
  rintro ⟨s, k, hs, hk, -, hproduced⟩
  unfold HealthCall.lacks at h
  rw [hs, hk] at h
  obtain ⟨-, hlacks⟩ := (Bool.and_eq_true _ _).mp h
  exact absurd hproduced (not_le.mpr (of_decide_eq_true hlacks))

theorem produces_iff {s : UnitreeState K} {k : MotorCommand K} (hbody : c.body = some s)
    (hcmd : c.cmd = some k) : c.Produces p i ↔ unrespConfirmed p i (s.motors i) k = true := by
  unfold unrespConfirmed
  rw [Bool.and_eq_true, decide_eq_true_iff, decide_eq_true_iff]
  constructor
  · rintro ⟨s', k', hs, hk, hproduces⟩
    obtain rfl := Option.some.inj (hbody.symm.trans hs)
    obtain rfl := Option.some.inj (hcmd.symm.trans hk)
    exact hproduces
  · intro hproduces
    exact ⟨s, k, hbody, hcmd, hproduces⟩

theorem not_produces_of_none (h : c.body = none ∨ c.cmd = none) : ¬ c.Produces p i := by
  rintro ⟨s, k, hs, hk, -⟩
  rcases h with h | h
  · cases h.symm.trans hs
  · cases h.symm.trans hk

/-- The fields of the condition after a call with a body state. -/
theorem after_unresp (hon : p.enabled = true) (cs : List (HealthCall K)) {s : UnitreeState K}
    (hbody : c.body = some s) (i : Fin 29) :
    let t := (after p cs).body i
    let unrespS := nextUnrespS p i (s.motors i) c.cmd c.dtS t.unrespS
    ((after p (cs ++ [c])).body i).unrespS = unrespS ∧
      ((after p (cs ++ [c])).body i).unresp =
        nextUnresp p i (s.motors i) c.cmd unrespS t.unresp := by
  dsimp only
  rw [after_body_some hon cs hbody, stepBodyMotor_eq]
  exact ⟨rfl, rfl⟩

/-- The timer is the total of the calls that lacked the torque. -/
theorem unrespS_history (hon : p.enabled = true) (i : Fin 29) (cs : List (HealthCall K)) :
    ((after p cs).body i).unrespS = ((lackRun p i cs).map HealthCall.dtS).sum := by
  induction cs using List.reverseRecOn with
  | nil => rfl
  | append_singleton cs c ih =>
    cases hbody : c.body with
    | none => rw [after_body_none cs hbody, lackRun_concat_none cs hbody, ih]
    | some s =>
      rw [(after_unresp hon cs hbody i).1, lackRun_concat_some cs (by rw [hbody]; rfl), ih]
      unfold nextUnrespS HealthCall.lacks
      rw [hbody]
      cases c.cmd with
      | none => rfl
      | some k =>
        dsimp only
        split
        · rw [List.map_cons, List.sum_cons, add_comm]
        · rfl

/-- A motor that is due has just lacked its torque. -/
theorem UnrespDue.not_produces (htime : 0 < p.unrespTimeS) (hdue : UnrespDue p i (cs ++ [c])) :
    ¬ c.Produces p i := by
  rintro ⟨s, k, hbody, hrest⟩
  unfold UnrespDue at hdue
  rw [lackRun_concat_some cs (by rw [hbody]; rfl)] at hdue
  by_cases hlacks : c.lacks p i = true
  · exact not_produces_of_lacks hlacks ⟨s, k, hbody, hrest⟩
  · rw [if_neg hlacks] at hdue
    exact absurd hdue (not_le.mpr htime)

/-- A motor is flagged exactly while it is overdue. -/
theorem unresp_history (hon : p.enabled = true) (htime : 0 < p.unrespTimeS) (i : Fin 29)
    (cs : List (HealthCall K)) : ((after p cs).body i).unresp = true ↔ Overdue p i cs := by
  induction cs using List.reverseRecOn with
  | nil =>
    refine ⟨nofun, ?_⟩
    rintro ⟨before, later, heq, hdue, -⟩
    obtain ⟨rfl, -⟩ := List.append_eq_nil_iff.mp heq.symm
    exact absurd hdue (not_le.mpr htime)
  | append_singleton cs c ih =>
    rw [overdue_concat, ← ih]
    cases hbody : c.body with
    | none =>
      -- nothing is judged, and what was due has been flagged
      have hdue : UnrespDue p i (cs ++ [c]) → Overdue p i cs := by
        unfold UnrespDue
        rw [lackRun_concat_none cs hbody]
        exact fun hdue => ⟨cs, [], (List.append_nil _).symm, hdue, nofun⟩
      rw [after_body_none cs hbody]
      exact ⟨fun h => Or.inr ⟨h, not_produces_of_none (Or.inl hbody)⟩,
        fun h => h.elim (fun h => ih.mpr (hdue h)) And.left⟩
    | some s =>
      have hdue : UnrespDue p i (cs ++ [c]) ↔
          p.unrespTimeS ≤ ((after p (cs ++ [c])).body i).unrespS := by
        rw [unrespS_history hon]
        rfl
      obtain ⟨hS, hunresp⟩ := after_unresp hon cs hbody i
      rw [hdue, hunresp, ← hS]
      cases hcmd : c.cmd with
      | none =>
        have hzero : ((after p (cs ++ [c])).body i).unrespS = 0 := by
          rw [hS, hcmd]
          rfl
        rw [hzero]
        exact ⟨fun h => Or.inr ⟨h, not_produces_of_none (Or.inr hcmd)⟩,
          fun h => h.elim (fun h => absurd h (not_le.mpr htime)) And.left⟩
      | some k =>
        have hproduces := produces_iff (i := i) (p := p) hbody hcmd
        unfold nextUnresp
        dsimp only
        cases hset : ((after p cs).body i).unresp with
        | false =>
          rw [if_neg Bool.false_ne_true, decide_eq_true_iff]
          exact ⟨Or.inl, fun h => h.resolve_right fun h => Bool.false_ne_true h.1⟩
        | true =>
          rw [if_pos rfl, Bool.not_eq_true', Bool.eq_false_iff, Ne, ← hproduces]
          exact ⟨fun h => Or.inr ⟨rfl, h⟩,
            fun h => h.elim (fun hlong => (hdue.mpr hlong).not_produces htime) And.right⟩

theorem unrespLaw (hon : p.enabled = true) (htime : 0 < p.unrespTimeS)
    (cs : List (HealthCall K)) (c : HealthCall K) (i : Fin 29) : UnrespLaw p cs c i := by
  have hnext := unresp_history hon htime i (cs ++ [c])
  rw [overdue_concat] at hnext
  constructor
  · rw [← not_overdue_iff, ← unresp_history hon htime, Bool.not_eq_true, hnext,
      ← unresp_history hon htime]
    constructor
    · rintro ⟨hclear, hdue | hset⟩
      · exact ⟨hdue, hclear⟩
      · rw [hclear] at hset
        exact absurd hset.1 Bool.false_ne_true
    · rintro ⟨hdue, hclear⟩
      exact ⟨hclear, Or.inl hdue⟩
  · rw [Bool.eq_false_iff, Ne, hnext, ← unresp_history hon htime]
    constructor
    · rintro ⟨hset, hkept⟩
      refine ⟨hset, ?_⟩
      by_contra hc
      exact hkept (Or.inr ⟨hset, hc⟩)
    · rintro ⟨hset, hc⟩
      exact ⟨hset, fun h => h.elim (fun hdue => hdue.not_produces htime hc) fun h => h.2 hc⟩

/-! ## The laws of the log -/

theorem stored_reset (p : Params K) : stored ({ p := p } : MotorHealthRules K) = fun _ => 0 := by
  funext x
  rcases x with ⟨i, _ | sensor | _ | _⟩ | ⟨side, _ | ⟨j, sensor⟩⟩
  all_goals first | rfl | cases sensor <;> rfl

theorem toNat_eq_zero_iff (w : UInt32) : w.toNat = 0 ↔ w = 0 := by
  rw [← UInt32.toNat_inj]
  rfl

theorem toNat_eq_one_iff (b : Bool) : b.toNat = 1 ↔ b = true := by cases b <;> decide

theorem severity_eq_two_iff (level : TempLevel) : level.severity = 2 ↔ level = .critical := by
  cases level <;> decide

theorem bodyFlags_eq (r : MotorHealthRules K) (i : Fin 29) :
    r.bodyFlags i = flagsOf r.stored i := by
  unfold bodyFlags flagsOf stored BodyTrack.stored
  simp only [Ne, toNat_eq_zero_iff, toNat_eq_one_iff]

theorem criticals_eq (t : TempTrack) : t.criticals = criticalsOf t.stored := by
  unfold TempTrack.criticals criticalsOf TempTrack.stored
  simp only [severity_eq_two_iff]

theorem activeFaults_eq (r : MotorHealthRules K) : r.activeFaults = faultsOf r.stored := by
  unfold activeFaults faultsOf BodyTrack.faults HandTrack.faults
  simp only [criticals_eq, stored, BodyTrack.stored, HandTrack.stored, Ne, toNat_eq_zero_iff]

theorem call_good (p : Params K) (hon : p.enabled = true) (hsummary : p.summaryPeriodS ≤ 0)
    (r : MotorHealthRules K) (c : HealthCall K) (hp : r.p = p) :
    (r.call c).1.p = p ∧
      EdgeLog.Edges r.stored (r.call c).1.stored ((r.call c).2.filterMap HealthLine.edge) := by
  subst hp
  refine ⟨call_p r c, ?_⟩
  have hedges : (r.call c).2.filterMap HealthLine.edge = _ := call_edges hon hsummary c
  rw [hedges]
  exact EdgeLog.edges_of_changes allConditions_nodup mem_allConditions

/-- The log of a history, replayed from reset, gives every stored value. -/
theorem replay_log (p : Params K) (hon : p.enabled = true) (hsummary : p.summaryPeriodS ≤ 0)
    (cs : List (HealthCall K)) :
    EdgeLog.replay (fun _ => 0) (edges (log p cs)) = (after p cs).stored := by
  have hrun := EdgeLog.replay_run call HealthLine.edge stored
    (fun r c => call_good p hon hsummary r c) (rfl : ({ p := p } : MotorHealthRules K).p = p) cs
  rw [stored_reset, EdgeLog.run_fst] at hrun
  exact hrun

/-- Over every history of calls: the flag of a motor that does not respond is set where it is due
and cleared where its torque is seen; a line is logged exactly for the conditions whose value
changes, once; and the log, replayed from reset, gives the flags and the number of faults. -/
theorem health_log_laws (p : Params K) (hon : p.enabled = true) (htime : 0 < p.unrespTimeS)
    (hsummary : p.summaryPeriodS ≤ 0) (cs : List (HealthCall K)) (c : HealthCall K) :
    (∀ i, UnrespLaw p cs c i) ∧
      (∀ x, EdgeLog.about x (edges ((after p cs).call c).2) =
        if (after p cs).stored x = (after p (cs ++ [c])).stored x then []
        else [(x, (after p (cs ++ [c])).stored x)]) ∧
      (∀ i, flagsOf (EdgeLog.replay (fun _ => 0) (edges (log p cs))) i =
        (after p cs).bodyFlags i) ∧
      faultsOf (EdgeLog.replay (fun _ => 0) (edges (log p cs))) = (after p cs).activeFaults := by
  refine ⟨unrespLaw hon htime cs c, fun x => ?_, fun i => ?_, ?_⟩
  · rw [after_concat]
    exact (call_good p hon hsummary _ c (after_p p cs)).2 x
  · rw [replay_log p hon hsummary, bodyFlags_eq]
  · rw [replay_log p hon hsummary, activeFaults_eq]

/-- Half a second of a command that asks for torque, and of a motor that gives none. -/
def dead : HealthCall ℚ where
  body := some {}
  cmd := some { kp := fun _ => 29, qTarget := fun _ => 1 }
  dtS := 1 / 2

theorem health_log_laws_dead :
    ((after {} [dead]).body 4).unresp = false ∧ ((after {} [dead, dead]).body 4).unresp = true ∧
      (∀ i, UnrespLaw {} [dead] dead i) ∧
      flagsOf (EdgeLog.replay (fun _ => 0) (edges (log {} [dead]))) 4 =
        (after {} [dead]).bodyFlags 4 := by
  obtain ⟨hlaw, -, hflags, -⟩ :=
    health_log_laws ({} : Params ℚ) rfl (by norm_num) le_rfl [dead] dead
  exact ⟨by decide +kernel, by decide +kernel, hlaw, hflags 4⟩

end MotorHealthRules

end Gearsonic
