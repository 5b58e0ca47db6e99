import Gearsonic.Control.TraceRow

/-!
# The row and its names

`state_trace_columns` and `fill` are two lists of the same columns. `columns` is the list that both
are compared with: each column by its name, with the value that belongs under it, zero where its
module is absent.

* `columns_names`: the names are those of the header.
* `columns_values`: the values are what the moves leave in the row.
* `fill_law`: every column holds its value, and the index ends at their number.
-/

set_option linter.unusedSectionVars false

namespace Gearsonic

namespace StateTrace

open RowWriter

variable {K : Type} [Field K]

/-- A column by itself. -/
def one (name : String) (v : K) : List (String × K) := [(name, v)]

/-- The columns of an array, numbered. -/
def numbered {n : Nat} (name : String) (v : Fin n → K) : List (String × K) :=
  (List.finRange n).map fun i => (name ++ "_" ++ toString i.val, v i)

namespace TraceReads

variable (r : TraceReads K)

theorem three_dvd (i : Fin 72) : i.val / 3 < 24 := by omega
theorem three_mod (i : Fin 72) : i.val % 3 < 3 := by omega

def tickColumns : List (String × K) :=
  one "t_s" r.elapsedS ++ one "tick" (r.tick : K) ++
    one "wbc_state" (stateNumber r.info.wbcState : K) ++
    one "arb_mode" (modeNumber r.arbMode : K) ++
    one "enc_mode" (r.info.encoderMode : K) ++ one "planner_cursor" (r.info.plannerCursor : K) ++
    one "timing_enc_us" (r.timingEncUs : K) ++ one "timing_dec_us" (r.timingDecUs : K) ++
    one "timing_total_us" (r.timingTotalUs : K) ++ one "trace_dropped" (r.dropped : K)

def smplColumns : List (String × K) :=
  let pose := r.smplWindow.map fun w => w.frames (Fin.last 9)
  one "smpl_valid" (boolNumber r.smplWindow.isSome) ++
    numbered "smpl_j" (fun i : Fin 72 =>
      pose.elim 0 fun p => p.jointsLocal ⟨i.val / 3, three_dvd i⟩ ⟨i.val % 3, three_mod i⟩) ++
    numbered "smpl_anchor" (fun i : Fin 4 => pose.elim 0 fun p => p.anchorQuat i) ++
    numbered "smpl_wrist" (fun i : Fin 6 => pose.elim 0 fun p => p.wristJointPos i)

def vr3Columns : List (String × K) :=
  one "vr3_valid" (boolNumber r.vr3point.isSome) ++
    numbered "vr3_pos" (fun i : Fin 9 => r.vr3point.elim 0 fun v => v.position i) ++
    numbered "vr3_orn" (fun i : Fin 12 => r.vr3point.elim 0 fun v => v.orientation i)

def plannerColumns : List (String × K) :=
  one "planner_valid" (boolNumber r.info.plannerFrame.isSome) ++
    numbered "planner_q" (fun j : Fin 29 => r.info.plannerFrame.elim 0 fun fr => fr.joints j)

def tokenColumns : List (String × K) :=
  one "token_valid" (boolNumber r.motionToken.isSome) ++
    numbered "token" (fun i : Fin 64 => r.motionToken.elim 0 fun tok => tok.token i)

def targetColumns : List (String × K) :=
  numbered "q_target" fun j : Fin 29 => r.motorCommand.elim 0 fun cmd => cmd.qTarget j

def decoderColumns : List (String × K) := numbered "action" r.lastAction ++ r.targetColumns

/-- A number of each motor, zero without a robot state. -/
def ofMotors (f : MotorState K → K) (m : Fin 29) : K :=
  r.unitreeState.elim 0 fun st => f (st.motors m)

def robotColumns : List (String × K) :=
  one "state_valid" (boolNumber r.unitreeState.isSome) ++ numbered "q" (r.ofMotors MotorState.q) ++
    numbered "dq" (r.ofMotors MotorState.dq) ++ numbered "tau" (r.ofMotors MotorState.tau) ++
    numbered "temp_casing" (r.ofMotors fun m => (m.tempCasing : K)) ++
    numbered "temp_winding" (r.ofMotors fun m => (m.tempWinding : K)) ++
    numbered "fault" (r.ofMotors fun m => (m.error.toNat : K)) ++
    numbered "imu_quat" (fun i : Fin 4 =>
      r.unitreeState.elim 0 fun st => st.imuPelvis.quaternion i) ++
    numbered "imu_gyro" (fun i : Fin 3 =>
      r.unitreeState.elim 0 fun st => st.imuPelvis.gyroscope i)

def healthColumns : List (String × K) := numbered "health" fun m : Fin 29 => (r.healthFlags m : K)

def leftColumns : List (String × K) :=
  numbered "hand_l_q" fun i : Fin 7 => r.leftHand.elim 0 fun h => (h.motors i).q

def rightColumns : List (String × K) :=
  numbered "hand_r_q" fun i : Fin 7 => r.rightHand.elim 0 fun h => (h.motors i).q

def handCmdColumns : List (String × K) :=
  numbered "hand_l_cmd" (fun i : Fin 7 => r.lastCmd.elim 0 fun c => c.1.q i) ++
    numbered "hand_r_cmd" (fun i : Fin 7 => r.lastCmd.elim 0 fun c => c.2.q i)

def handColumns : List (String × K) :=
  one "hand_l_valid" (boolNumber r.leftHand.isSome) ++
    one "hand_r_valid" (boolNumber r.rightHand.isSome) ++
    r.leftColumns ++ r.rightColumns ++ r.handCmdColumns

def ctrlColumns : List (String × K) :=
  let number (f : PicoVRController K → K) : K := r.ctrl.elim 0 f
  one "ctrl_valid" (boolNumber r.ctrl.isSome) ++
    numbered "ctrl_laxis" ![number fun c => c.leftAxis.1, number fun c => c.leftAxis.2] ++
    numbered "ctrl_raxis" ![number fun c => c.rightAxis.1, number fun c => c.rightAxis.2] ++
    one "btn_a" (number fun c => boolNumber c.btnA) ++
    one "btn_b" (number fun c => boolNumber c.btnB) ++
    one "btn_x" (number fun c => boolNumber c.btnX) ++
    one "btn_y" (number fun c => boolNumber c.btnY) ++
    one "trig_l" (number fun c => c.leftTrigger) ++ one "trig_r" (number fun c => c.rightTrigger) ++
    one "grip_l" (number fun c => c.leftGrip) ++ one "grip_r" (number fun c => c.rightGrip)

/-- Every column of a tick, with its value. -/
def columns : List (String × K) :=
  r.tickColumns ++ r.smplColumns ++ r.vr3Columns ++ r.plannerColumns ++ r.tokenColumns ++
    r.decoderColumns ++ r.robotColumns ++ r.healthColumns ++ r.handColumns ++ r.ctrlColumns ++
    one "record_state" (r.recordState.number : K)

end TraceReads

/-! ## The names -/

@[simp] theorem one_names (name : String) (v : K) : (one name v).map Prod.fst = [name] := rfl

@[simp] theorem numbered_names {n : Nat} (name : String) (v : Fin n → K) :
    (numbered name v).map Prod.fst = addn name n := by
  unfold numbered addn
  rw [List.map_map, ← List.map_coe_finRange_eq_range, List.map_map]
  rfl

theorem columns_names (r : TraceReads K) : r.columns.map Prod.fst = stateTraceColumns := by
  unfold TraceReads.columns TraceReads.tickColumns TraceReads.smplColumns TraceReads.vr3Columns
    TraceReads.plannerColumns TraceReads.tokenColumns TraceReads.decoderColumns
    TraceReads.targetColumns TraceReads.robotColumns TraceReads.healthColumns
    TraceReads.handColumns TraceReads.leftColumns TraceReads.rightColumns
    TraceReads.handCmdColumns TraceReads.ctrlColumns stateTraceColumns
  simp only [List.map_append, one_names, numbered_names, List.append_assoc, List.cons_append,
    List.nil_append]

/-! ## The values -/

/-- What moves over a cleared row leave in the cells they pass. -/
def values (moves : List (Move K)) : List K := (expand moves).map fun c => c.getD 0

@[simp] theorem values_nil : values ([] : List (Move K)) = [] := rfl

@[simp] theorem values_append (ms ms' : List (Move K)) :
    values (ms ++ ms') = values ms ++ values ms' := by
  unfold values
  rw [expand_append, List.map_append]

@[simp] theorem values_put (v : K) (ms : List (Move K)) :
    values (.put v :: ms) = v :: values ms := rfl

@[simp] theorem values_skip (k : Nat) (ms : List (Move K)) :
    values (.skip k :: ms) = List.replicate k 0 ++ values ms := by
  unfold values
  rw [expand_cons, List.map_append, Move.cells, List.map_replicate]
  rfl

@[simp] theorem values_putEach {n : Nat} (v : Fin n → K) :
    values (putEach v) = (List.finRange n).map v := by
  unfold values putEach
  rw [expand_map_put, List.map_map, List.map_map]
  rfl

@[simp] theorem one_values (name : String) (v : K) : (one name v).map Prod.snd = [v] := rfl

@[simp] theorem numbered_values {n : Nat} (name : String) (v : Fin n → K) :
    (numbered name v).map Prod.snd = (List.finRange n).map v := by
  unfold numbered
  rw [List.map_map]
  rfl

/-- Every value is zero. -/
def AllZero (cs : List (String × K)) : Prop := ∀ c ∈ cs, c.2 = 0

@[simp] theorem allZero_append (cs cs' : List (String × K)) :
    AllZero (cs ++ cs') ↔ AllZero cs ∧ AllZero cs' := List.forall_mem_append

@[simp] theorem allZero_one (name : String) (v : K) : AllZero (one name v) ↔ v = 0 :=
  List.forall_mem_singleton

@[simp] theorem allZero_numbered {n : Nat} (name : String) (v : Fin n → K) :
    AllZero (numbered name v) ↔ ∀ i, v i = 0 := by
  unfold AllZero numbered
  simp

theorem values_joints (v : Fin 24 → Vec3 K) :
    values ((List.finRange 24).flatMap fun j => putEach (v j)) = (List.finRange 72).map fun i =>
      v ⟨i.val / 3, TraceReads.three_dvd i⟩ ⟨i.val % 3, TraceReads.three_mod i⟩ := by
  rfl

namespace TraceReads

variable (r : TraceReads K)

theorem tick_values : values r.tickMoves = r.tickColumns.map Prod.snd := rfl

theorem smpl_values : values r.smplMoves = r.smplColumns.map Prod.snd := by
  unfold smplMoves smplColumns boolNumber
  cases r.smplWindow with
  | none => simp
  | some w => simp [values_joints]

theorem vr3_values : values r.vr3Moves = r.vr3Columns.map Prod.snd := by
  unfold vr3Moves vr3Columns boolNumber
  cases r.vr3point with
  | none => simp
  | some v => simp

theorem planner_values : values r.plannerMoves = r.plannerColumns.map Prod.snd := by
  unfold plannerMoves plannerColumns boolNumber
  cases r.info.plannerFrame with
  | none => simp
  | some frame => simp

theorem token_values : values r.tokenMoves = r.tokenColumns.map Prod.snd := by
  unfold tokenMoves tokenColumns boolNumber
  cases r.motionToken with
  | none => simp
  | some tok => simp

theorem decoder_values : values r.decoderMoves = r.decoderColumns.map Prod.snd := by
  unfold decoderMoves decoderColumns targetColumns
  cases r.motorCommand with
  | none => simp
  | some cmd => simp

theorem robot_values : values r.robotMoves = r.robotColumns.map Prod.snd := by
  unfold robotMoves robotColumns ofMotors boolNumber
  cases r.unitreeState with
  | none => simp
  | some st => simp

theorem health_values : values r.healthMoves = r.healthColumns.map Prod.snd := by
  unfold healthMoves healthColumns
  simp

theorem hand_values : values r.handMoves = r.handColumns.map Prod.snd := by
  unfold handMoves handColumns leftColumns rightColumns handCmdColumns
  cases r.leftHand <;> cases r.rightHand <;> cases r.lastCmd <;> simp

theorem ctrl_values : values r.ctrlMoves = r.ctrlColumns.map Prod.snd := by
  unfold ctrlMoves ctrlColumns
  cases r.ctrl with
  | none => rfl
  | some c => rfl

/-- The moves leave the values of the columns. -/
theorem columns_values : values r.moves = r.columns.map Prod.snd := by
  unfold moves columns
  simp only [values_append, List.map_append, tick_values, smpl_values, vr3_values, planner_values,
    token_values, decoder_values, robot_values, health_values, hand_values, ctrl_values]
  rfl

/-- The columns of an absent module are zero. -/
structure AbsentZero : Prop where
  smpl : r.smplWindow = none → AllZero r.smplColumns
  vr3 : r.vr3point = none → AllZero r.vr3Columns
  planner : r.info.plannerFrame = none → AllZero r.plannerColumns
  token : r.motionToken = none → AllZero r.tokenColumns
  target : r.motorCommand = none → AllZero r.targetColumns
  robot : r.unitreeState = none → AllZero r.robotColumns
  left : r.leftHand = none → AllZero r.leftColumns
  right : r.rightHand = none → AllZero r.rightColumns
  handCmd : r.lastCmd = none → AllZero r.handCmdColumns
  ctrl : r.ctrl = none → AllZero r.ctrlColumns

theorem absentZero : r.AbsentZero := by
  constructor
  case smpl => exact fun h => by simp [smplColumns, boolNumber, h]
  case vr3 => exact fun h => by simp [vr3Columns, boolNumber, h]
  case planner => exact fun h => by simp [plannerColumns, boolNumber, h]
  case token => exact fun h => by simp [tokenColumns, boolNumber, h]
  case target => exact fun h => by simp [targetColumns, h]
  case robot => exact fun h => by simp [robotColumns, ofMotors, boolNumber, h]
  case left => exact fun h => by simp [leftColumns, h]
  case right => exact fun h => by simp [rightColumns, h]
  case handCmd => exact fun h => by simp [handCmdColumns, h]
  case ctrl => exact fun h => by simp [ctrlColumns, boolNumber, h, Fin.forall_fin_two]

end TraceReads

/-! ## The row -/

theorem expand_length (r : TraceReads K) : (expand r.moves).length = numColumns := by
  have hvalues := congrArg List.length (TraceReads.columns_values r)
  unfold values at hvalues
  rw [List.length_map, List.length_map] at hvalues
  rw [hvalues, numColumns, ← columns_names r, List.length_map]

/-- A column of the tick is a cell of the row. -/
theorem fill_column (r : TraceReads K) (row : Nat → K) {k : Nat} {name : String} {v : K}
    (hcol : r.columns[k]? = some (name, v)) :
    stateTraceColumns[k]? = some name ∧ (fill r row).row k = v := by
  have hk : k < numColumns := by
    rw [numColumns, ← columns_names r, List.length_map]
    exact (List.getElem?_eq_some_iff.mp hcol).1
  have hcleared : clearRow row k = 0 := if_pos hk
  refine ⟨?_, ?_⟩
  · rw [← columns_names r, List.getElem?_map, hcol]
    rfl
  · have hrow := run_row_cleared 0 (clearRow row) r.moves hcleared
    have hvalues : (expand r.moves).map (fun c => c.getD 0) = r.columns.map Prod.snd :=
      TraceReads.columns_values r
    rw [hvalues, List.getElem?_map, hcol] at hrow
    exact hrow

/-- **The row lines up with its names.** Column `k` of the header is column `k` of the tick, and
the row holds its value there, zero where its module is absent. The index ends at the number of
columns, and nothing behind the row is written. -/
theorem fill_law (r : TraceReads K) (row : Nat → K) :
    r.columns.map Prod.fst = stateTraceColumns ∧
      (∀ k name v, r.columns[k]? = some (name, v) →
        stateTraceColumns[k]? = some name ∧ (fill r row).row k = v) ∧
      r.AbsentZero ∧ (fill r row).index = numColumns ∧
      ∀ x, numColumns ≤ x → (fill r row).row x = row x := by
  refine ⟨columns_names r, fun k name v hcol => fill_column r row hcol, r.absentZero, ?_,
    fun x hx => ?_⟩
  · rw [fill, run_index, expand_length, Nat.zero_add]
  · have hrow := run_row ⟨clearRow row, 0⟩ r.moves x
    have hnone : (expand r.moves)[x]? = none :=
      List.getElem?_eq_none ((expand_length r).trans_le hx)
    have hkeep : clearRow row x = row x := if_neg (Nat.not_lt.mpr hx)
    dsimp only at hrow
    rw [Nat.zero_add, hnone, hkeep] at hrow
    exact hrow

end StateTrace

end Gearsonic
