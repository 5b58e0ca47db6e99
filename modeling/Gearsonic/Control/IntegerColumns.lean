import Gearsonic.Control.TraceCells
import Gearsonic.Numeric.Significand

/-!
# The integer columns of the trace

`put` converts every value to `float`. For the counters and the fault words that is a rounding to
24 bits: `fault_j`, `tick` and `trace_dropped` hold integers of 32 and 64 bits. Here the conversion
is a parameter, of which no more is used than that it rounds an integer to nearest.

* `fillFloat_integer`: what stands in an integer column.
* `ColumnLaw`: which integers can be told from it.
* `fillAll_tick`: the ticks of a run.
* `integer_columns`: the law for every integer column, and the first ticks of a run.
-/

set_option linter.unusedSectionVars false

namespace Gearsonic

namespace StateTrace

open RowWriter Significand

variable {K : Type} [Field K]

/-- `fill`, with the `static_cast<float>` of its `put`. -/
def fillFloat (conv : K → K) (r : TraceReads K) (row : Nat → K) : RowWriter K :=
  run ⟨clearRow row, 0⟩ (r.moves.map (Move.map conv))

/-- `fill` for one tick after another; `tick_++` numbers the rows. -/
def fillAll (conv : K → K) : Nat → List (TraceReads K) → List (Nat → K)
  | _, [] => []
  | tick, r :: rs =>
    (fillFloat conv { r with tick := tick } fun _ => 0).row :: fillAll conv (tick + 1) rs

/-- The counters and the fault words. -/
inductive IntegerColumn where
  | tick
  | traceDropped
  | fault (j : Fin 29)
deriving DecidableEq

namespace IntegerColumn

def name : IntegerColumn → String
  | .tick => "tick"
  | .traceDropped => "trace_dropped"
  | .fault j => "fault" ++ "_" ++ toString j.val

/-- Its number in the header. -/
def number (c : IntegerColumn) : Nat := stateTraceColumns.idxOf c.name

/-- The bits of its integer. -/
def width : IntegerColumn → Nat
  | .tick => 64
  | .traceDropped => 32
  | .fault _ => 32

/-- The integer of a tick; the fault word is zero without a robot state. -/
def value (r : TraceReads K) : IntegerColumn → Nat
  | .tick => r.tick
  | .traceDropped => r.dropped
  | .fault j => r.unitreeState.elim 0 fun st => (st.motors j).error.toNat

/-- A tick with another integer in the column. -/
def set (r : TraceReads K) (n : Nat) : IntegerColumn → TraceReads K
  | .tick => { r with tick := n }
  | .traceDropped => { r with dropped := n }
  | .fault j =>
    let st := r.unitreeState.getD {}
    let motor : MotorState K := { st.motors j with error := .ofNat n }
    { r with unitreeState := some { st with motors := Function.update st.motors j motor } }

variable (c : IntegerColumn) (r : TraceReads K)

theorem lt_width : 27 ≤ c.width := by
  cases c with
  | tick => decide
  | traceDropped => decide
  | fault j => exact (by decide : 27 ≤ 32)

theorem value_set {n : Nat} (h : n < 2 ^ c.width) : c.value (c.set r n) = n := by
  cases c with
  | tick => rfl
  | traceDropped => rfl
  | fault j =>
    unfold set value
    dsimp only [Option.elim_some]
    rw [Function.update_self]
    exact Nat.mod_eq_of_lt h

/-! ## What stands in the columns -/

theorem number_tick : IntegerColumn.tick.number = 1 := by decide +kernel

theorem number_traceDropped : IntegerColumn.traceDropped.number = 9 := by decide +kernel

theorem columnOf_fault (j : Fin 29) : columnOf "fault" j = 414 + j := by
  revert j
  decide +kernel

theorem number_fault (j : Fin 29) : (IntegerColumn.fault j).number = columnOf "fault" j := rfl

theorem number_lt : c.number < numColumns := by
  have hcolumns : numColumns = 523 := by decide +kernel
  cases c with
  | tick => rw [number_tick, hcolumns]; decide
  | traceDropped => rw [number_traceDropped, hcolumns]; decide
  | fault j =>
    rw [number_fault, columnOf_fault, hcolumns]
    omega

/-- The columns of the robot in front of the fault words. -/
def beforeFault : List (String × K) :=
  one "state_valid" (boolNumber r.unitreeState.isSome) ++ numbered "q" (r.ofMotors MotorState.q) ++
    numbered "dq" (r.ofMotors MotorState.dq) ++ numbered "tau" (r.ofMotors MotorState.tau) ++
    numbered "temp_casing" (r.ofMotors fun m => (m.tempCasing : K)) ++
    numbered "temp_winding" (r.ofMotors fun m => (m.tempWinding : K))

theorem beforeFault_length : (beforeFault r).length = 146 := by
  unfold beforeFault
  simp only [List.length_append, one_length, numbered_length]

theorem fill_fault (row : Nat → K) (j : Fin 29) :
    (fill r row).row (columnOf "fault" j) = r.ofMotors (fun m => (m.error.toNat : K)) j := by
  have hgroup : beforeFault r ++ numbered "fault" (r.ofMotors fun m => (m.error.toNat : K)) <+:
      r.robotColumns := by
    unfold TraceReads.robotColumns
    rw [List.append_assoc (_ ++ _)]
    exact List.prefix_append _ _
  refine row_of_group r row (upTo_robot r) hgroup j ?_
  rw [columnOf_fault, beforeFault_length, List.length_append, beforeDecoder_length,
    decoderColumns_length]
  omega

/-- A column of the first group. -/
theorem fill_tick {k : Nat} {name : String} {v : K} (h : r.tickColumns[k]? = some (name, v))
    (row : Nat → K) : (fill r row).row k = v := by
  obtain ⟨after, hafter⟩ : r.tickColumns <+: r.columns := by
    refine List.IsPrefix.trans ?_ (upTo_planner r)
    unfold beforePlanner
    rw [List.append_assoc, List.append_assoc]
    exact List.prefix_append _ _
  have hlt := (List.getElem?_eq_some_iff.mp h).1
  have hcol : r.columns[k]? = some (name, v) := by
    rw [← hafter, List.getElem?_append_left hlt, h]
  exact (fill_column r row hcol).2

/-- Read as exact, the column holds its integer. -/
theorem fill_integer (row : Nat → K) : (fill r row).row c.number = (c.value r : K) := by
  cases c with
  | tick =>
    have hcol : r.tickColumns[1]? = some ("tick", (r.tick : K)) := rfl
    rw [number_tick]
    exact fill_tick r hcol row
  | traceDropped =>
    have hcol : r.tickColumns[9]? = some ("trace_dropped", (r.dropped : K)) := rfl
    rw [number_traceDropped]
    exact fill_tick r hcol row
  | fault j =>
    rw [number_fault, fill_fault]
    unfold TraceReads.ofMotors value
    cases r.unitreeState with
    | none => exact Nat.cast_zero.symm
    | some st => rfl

end IntegerColumn

/-! ## The law of a column -/

variable [LinearOrder K]

/-- The conversion to `float` rounds an integer to a nearest value with a 24-bit significand. -/
def RoundsToNearest (conv : K → K) : Prop := ∀ n : Nat, Nearest 24 (n : K) (conv n)

/-- From its first to its last set digit the integer has at most 24 binary places. -/
def Narrow (n : Nat) : Prop := ∃ m k : Nat, m < 2 ^ 24 ∧ n = m * 2 ^ k

/-- What stands in an integer column. -/
def readBack (conv : K → K) (c : IntegerColumn) (r : TraceReads K) (row : Nat → K) : K :=
  (fillFloat conv r row).row c.number

/-- Which integers can be told from a column. -/
structure ColumnLaw (conv : K → K) (c : IntegerColumn) : Prop where
  /-- The column holds its integer exactly if that is narrow. -/
  exact_iff : ∀ r row, readBack conv c r row = (c.value r : K) ↔ Narrow (c.value r)
  /-- An integer below 2^24 is told from every other one. -/
  identified : ∀ r row r' row', c.value r < 2 ^ 24 →
    readBack conv c r' row' = readBack conv c r row → c.value r' = c.value r
  /-- Narrow integers are told from each other. -/
  distinct : ∀ r row r' row', Narrow (c.value r) → Narrow (c.value r') →
    readBack conv c r' row' = readBack conv c r row → c.value r' = c.value r
  /-- Any other integer of the column is mistaken for a second one of its width. -/
  shared : ∀ r row, c.value r < 2 ^ c.width → ¬ Narrow (c.value r) →
    ∃ r', c.value r' < 2 ^ c.width ∧ c.value r' ≠ c.value r ∧
      readBack conv c r' row = readBack conv c r row

section

variable [IsStrictOrderedRing K] {conv : K → K}

theorem narrow_iff_fits {n : Nat} : Narrow n ↔ Fits 24 (n : K) := fits_natCast_iff.symm

/-- An integer column holds its integer, rounded. -/
theorem fillFloat_integer (hconv : RoundsToNearest conv) (c : IntegerColumn) (r : TraceReads K)
    (row : Nat → K) : readBack conv c r row = conv (c.value r) := by
  have hzero : conv 0 = 0 := by
    have hfits : Fits 24 ((0 : Nat) : K) := fits_natCast_of_lt (by decide)
    have hround := (hconv 0).eq_of_fits hfits
    rwa [Nat.cast_zero] at hround
  have hcleared : clearRow row c.number = 0 := if_pos c.number_lt
  unfold readBack fillFloat
  rw [run_row_map hzero _ _ hcleared]
  exact congrArg conv (c.fill_integer r row)

theorem columnLaw (hconv : RoundsToNearest conv) (c : IntegerColumn) : ColumnLaw conv c := by
  have hcell := fun r row => fillFloat_integer hconv c r row
  constructor
  · intro r row
    rw [hcell, narrow_iff_fits (K := K)]
    constructor
    · intro heq
      rw [← heq]
      exact (hconv _).fits
    · exact (hconv _).eq_of_fits
  · intro r row r' row' hlt heq
    rw [hcell, hcell] at heq
    have hround := hconv (c.value r')
    rw [heq] at hround
    exact eq_of_nearest (by decide) hlt (hconv _) hround
  · intro r row r' row' hnarrow hnarrow' heq
    rw [hcell, hcell, (hconv _).eq_of_fits (narrow_iff_fits.mp hnarrow),
      (hconv _).eq_of_fits (narrow_iff_fits.mp hnarrow')] at heq
    exact_mod_cast heq
  · intro r row hlt hwide
    rw [narrow_iff_fits (K := K)] at hwide
    obtain ⟨n, hn, hne, hsame⟩ := exists_shared (by decide) c.lt_width hconv hlt hwide
    refine ⟨c.set r n, ?_, ?_, ?_⟩
    · rw [c.value_set r hn]
      exact hn
    · rw [c.value_set r hn]
      exact hne
    · rw [hcell, hcell, c.value_set r hn]
      exact hsame

/-! ## The ticks of a run -/

/-- The rows of a run are numbered, and their tick columns hold the rounded numbers. -/
theorem fillAll_tick (hconv : RoundsToNearest conv) (rs : List (TraceReads K)) (tick : Nat)
    {k : Nat} {row : Nat → K} (h : (fillAll conv tick rs)[k]? = some row) :
    row IntegerColumn.tick.number = conv ((tick + k : Nat) : K) := by
  induction rs generalizing tick k with
  | nil => cases h
  | cons r rs ih =>
    cases k with
    | zero =>
      rw [← Option.some.inj h]
      exact fillFloat_integer hconv .tick { r with tick := tick } _
    | succ k =>
      rw [Nat.add_comm k 1, ← Nat.add_assoc]
      exact ih (tick + 1) h

/-- In a run no two of the rows up to tick 2^24 have the same tick column. -/
def TicksDistinct (conv : K → K) : Prop :=
  ∀ (rs : List (TraceReads K)) (i j : Nat) (row row' : Nat → K), i < j → j ≤ 2 ^ 24 →
    (fillAll conv 0 rs)[i]? = some row → (fillAll conv 0 rs)[j]? = some row' →
    row IntegerColumn.tick.number ≠ row' IntegerColumn.tick.number

theorem narrow_of_le {n : Nat} (h : n ≤ 2 ^ 24) : Narrow n := by
  rcases h.lt_or_eq with hlt | heq
  · exact ⟨n, 0, hlt, by omega⟩
  · exact ⟨1, 24, by decide, by omega⟩

theorem ticksDistinct (hconv : RoundsToNearest conv) : TicksDistinct conv := by
  intro rs i j row row' hij hj hi hi' heq
  rw [fillAll_tick hconv rs 0 hi, fillAll_tick hconv rs 0 hi', Nat.zero_add, Nat.zero_add,
    (hconv i).eq_of_fits (narrow_iff_fits.mp (narrow_of_le (hij.le.trans hj))),
    (hconv j).eq_of_fits (narrow_iff_fits.mp (narrow_of_le hj))] at heq
  have hsame : i = j := by exact_mod_cast heq
  omega

/-- **The integer columns.** Of every column it is known which integers can be told from it, and
the rows of a run can be told by their ticks up to 2^24. -/
theorem integer_columns (hconv : RoundsToNearest conv) :
    (∀ c, ColumnLaw conv c) ∧ TicksDistinct conv :=
  ⟨columnLaw hconv, ticksDistinct hconv⟩

end

/-- The conversion to binary32, in the range of its exponents. -/
def binary32 : ℚ → ℚ := roundSignificand 24

theorem binary32_nearest : RoundsToNearest binary32 := fun n =>
  roundSignificand_nearest (by decide) (n : ℚ)

theorem integer_columns_binary32 :
    (∀ c, ColumnLaw binary32 c) ∧ TicksDistinct binary32 := integer_columns binary32_nearest

/-- What `fill` reads before any module has anything. -/
def quietReads : TraceReads ℚ :=
  { t0 := 0
    startTime := 0
    tick := 0
    info := { wbcState := .init, encoderMode := -1, plannerCursor := 0, plannerFrame := none }
    timingEncUs := 0
    timingDecUs := 0
    timingTotalUs := 0
    arbMode := .normal
    dropped := 0
    smplWindow := none
    vr3point := none
    motionToken := none
    lastAction := fun _ => 0
    motorCommand := none
    unitreeState := none
    healthFlags := fun _ => 0
    leftHand := none
    rightHand := none
    lastCmd := none
    ctrl := none
    recordState := .idle }

/-- Two integers of a column that have one column value. -/
def Mistaken (c : IntegerColumn) (m n : Nat) : Prop :=
  c.value (c.set quietReads m) ≠ c.value (c.set quietReads n) ∧
    readBack binary32 c (c.set quietReads m) (fun _ => 0) =
      readBack binary32 c (c.set quietReads n) fun _ => 0

theorem mistaken_odd (c : IntegerColumn) : Mistaken c 0x01000001 0x01000000 := by
  have hwide : 2 ^ 27 ≤ 2 ^ c.width := Nat.pow_le_pow_right (by decide) c.lt_width
  have hround : binary32 (0x01000001 : Nat) = binary32 (0x01000000 : Nat) := by decide +kernel
  unfold Mistaken
  rw [fillFloat_integer binary32_nearest, fillFloat_integer binary32_nearest,
    c.value_set _ (by omega), c.value_set _ (by omega)]
  exact ⟨by decide, hround⟩

/-- Two fault words, and two ticks, with one column value. -/
theorem integer_columns_lossy :
    RoundsToNearest binary32 ∧ Mistaken (.fault 0) 0x01000001 0x01000000 ∧
      Mistaken .tick 0x01000001 0x01000000 :=
  ⟨binary32_nearest, mistaken_odd _, mistaken_odd _⟩

end StateTrace

end Gearsonic
