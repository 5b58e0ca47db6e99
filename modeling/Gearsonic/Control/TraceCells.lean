import Gearsonic.Control.TraceLayout

/-!
# The cells of a row

Where a numbered column stands in the row, and what it holds.

* `row_of_group`: a numbered column of a group of columns, behind other groups.
* `cell_planner`, `cell_action`, `cell_target`, `cell_measured`: the columns of the joints.
-/

set_option linter.unusedSectionVars false

namespace Gearsonic

namespace StateTrace

variable {K : Type} [Field K]

/-- The number of a numbered column. -/
def columnOf (name : String) (j : Fin 29) : Nat :=
  stateTraceColumns.idxOf (name ++ "_" ++ toString j.val)

theorem columnOf_planner (j : Fin 29) : columnOf "planner_q" j = 116 + j := by
  revert j
  decide +kernel

theorem columnOf_action (j : Fin 29) : columnOf "action" j = 210 + j := by
  revert j
  decide +kernel

theorem columnOf_target (j : Fin 29) : columnOf "q_target" j = 239 + j := by
  revert j
  decide +kernel

theorem columnOf_measured (j : Fin 29) : columnOf "q" j = 269 + j := by
  revert j
  decide +kernel

@[simp] theorem one_length (name : String) (v : K) : (one name v).length = 1 := rfl

@[simp] theorem numbered_length {n : Nat} (name : String) (v : Fin n → K) :
    (numbered name v).length = n := by
  unfold numbered
  rw [List.length_map, List.length_finRange]

variable (r : TraceReads K) (row : Nat → K)

/-- A numbered column of a group of columns behind others. -/
theorem row_of_group {before group first : List (String × K)} {name : String} {v : Fin 29 → K}
    (hcolumns : before ++ group <+: r.columns) (hgroup : first ++ numbered name v <+: group)
    (j : Fin 29) (hcolumn : columnOf name j = before.length + (first.length + j)) :
    (fill r row).row (columnOf name j) = v j := by
  have hcol : r.columns[before.length + (first.length + j.val)]? =
      some (name ++ "_" ++ toString j.val, v j) := by
    obtain ⟨last, rfl⟩ := hgroup
    obtain ⟨after, hafter⟩ := hcolumns
    have hlt : j.val < (numbered name v).length := by
      rw [numbered_length]
      exact j.isLt
    rw [← hafter, List.append_assoc, List.append_assoc, List.append_assoc,
      List.getElem?_append_right (Nat.le_add_right _ _), Nat.add_sub_cancel_left,
      List.getElem?_append_right (Nat.le_add_right _ _), Nat.add_sub_cancel_left,
      List.getElem?_append_left hlt, List.getElem?_eq_getElem hlt]
    simp [numbered]
  rw [hcolumn]
  exact (fill_column r row hcol).2

@[simp] theorem tickColumns_length : r.tickColumns.length = 10 := rfl

@[simp] theorem smplColumns_length : r.smplColumns.length = 83 := by simp [TraceReads.smplColumns]

@[simp] theorem vr3Columns_length : r.vr3Columns.length = 22 := by simp [TraceReads.vr3Columns]

@[simp] theorem plannerColumns_length : r.plannerColumns.length = 30 := by
  simp [TraceReads.plannerColumns]

@[simp] theorem tokenColumns_length : r.tokenColumns.length = 65 := by
  simp [TraceReads.tokenColumns]

@[simp] theorem decoderColumns_length : r.decoderColumns.length = 58 := by
  simp [TraceReads.decoderColumns, TraceReads.targetColumns]

/-- The columns in front of the planner's. -/
def beforePlanner : List (String × K) := r.tickColumns ++ r.smplColumns ++ r.vr3Columns

/-- The columns in front of the decoder's. -/
def beforeDecoder : List (String × K) := beforePlanner r ++ r.plannerColumns ++ r.tokenColumns

theorem beforePlanner_length : (beforePlanner r).length = 115 := by simp [beforePlanner]

theorem beforeDecoder_length : (beforeDecoder r).length = 210 := by
  simp [beforeDecoder, beforePlanner_length]

theorem upTo_robot : (beforeDecoder r ++ r.decoderColumns) ++ r.robotColumns <+: r.columns := by
  have hhealth := List.prefix_append ((beforeDecoder r ++ r.decoderColumns) ++ r.robotColumns)
    r.healthColumns
  have hhand := hhealth.trans (List.prefix_append _ r.handColumns)
  have hctrl := hhand.trans (List.prefix_append _ r.ctrlColumns)
  exact hctrl.trans (List.prefix_append _ _)

theorem upTo_decoder : beforeDecoder r ++ r.decoderColumns <+: r.columns :=
  (List.prefix_append _ _).trans (upTo_robot r)

theorem upTo_planner : beforePlanner r ++ r.plannerColumns <+: r.columns := by
  have htoken := List.prefix_append (beforePlanner r ++ r.plannerColumns) r.tokenColumns
  exact (htoken.trans (List.prefix_append _ _)).trans (upTo_decoder r)

/-! ## The joints -/

section

variable [LinearOrder K] [CMath K]

/-- The cell of a numbered column. -/
def cell (row : Nat → K) (name : String) (j : Fin 29) : K := row (columnOf name j)

theorem cell_planner (j : Fin 29) : cell (fill r row).row "planner_q" j =
    r.info.plannerFrame.elim 0 fun frame => frame.joints j := by
  refine row_of_group r row
    (v := fun j => r.info.plannerFrame.elim 0 fun frame => frame.joints j)
    (upTo_planner r) List.prefix_rfl j ?_
  rw [columnOf_planner, beforePlanner_length, one_length]
  omega

theorem cell_action (j : Fin 29) : cell (fill r row).row "action" j = r.lastAction j := by
  have hgroup : [] ++ numbered "action" r.lastAction <+: r.decoderColumns :=
    List.prefix_append _ _
  refine row_of_group r row (upTo_decoder r) hgroup j ?_
  rw [columnOf_action, beforeDecoder_length, List.length_nil, Nat.zero_add]

theorem cell_target (j : Fin 29) : cell (fill r row).row "q_target" j =
    r.motorCommand.elim 0 fun cmd => cmd.qTarget j := by
  have hgroup : numbered "action" r.lastAction ++
      numbered "q_target" (fun j : Fin 29 => r.motorCommand.elim 0 fun cmd => cmd.qTarget j) <+:
        r.decoderColumns := List.prefix_rfl
  refine row_of_group r row (upTo_decoder r) hgroup j ?_
  rw [columnOf_target, beforeDecoder_length, numbered_length]
  omega

theorem cell_measured (j : Fin 29) : cell (fill r row).row "q" j =
    r.unitreeState.elim 0 fun st => (st.motors j).q := by
  have hgroup : one "state_valid" (boolNumber r.unitreeState.isSome) ++
      numbered "q" (r.ofMotors MotorState.q) <+: r.robotColumns := by
    unfold TraceReads.robotColumns
    simp only [List.append_assoc]
    exact ⟨_, rfl⟩
  refine row_of_group r row (upTo_robot r) hgroup j ?_
  rw [columnOf_measured, List.length_append, beforeDecoder_length, decoderColumns_length,
    one_length]
  omega

end

end StateTrace

end Gearsonic
