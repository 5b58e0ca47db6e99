import Mathlib.Algebra.Group.Nat.Defs
import Mathlib.Tactic.Common

/-!
# The trace file's bytes

The header that `StateTrace::start` prints, and the rows that `writer_loop` writes behind it:
raw float32 words, as a little-endian host stores them.
-/

namespace Gearsonic

namespace StateTrace

/-- `addn`: the columns `name_0` to `name_{k-1}`. -/
def addn (name : String) (k : Nat) : List String :=
  (List.range k).map fun i => name ++ "_" ++ toString i

/-- `state_trace_columns`. -/
def stateTraceColumns : List String :=
  -- tick
  ["t_s", "tick", "wbc_state", "arb_mode", "enc_mode",
    "planner_cursor", "timing_enc_us", "timing_dec_us", "timing_total_us", "trace_dropped"] ++
  -- smpl
  ["smpl_valid"] ++ addn "smpl_j" 72 ++ addn "smpl_anchor" 4 ++ addn "smpl_wrist" 6 ++
  -- vr3point
  ["vr3_valid"] ++ addn "vr3_pos" 9 ++ addn "vr3_orn" 12 ++
  ["planner_valid"] ++ addn "planner_q" 29 ++
  ["token_valid"] ++ addn "token" 64 ++
  -- decoder
  addn "action" 29 ++ addn "q_target" 29 ++
  -- robot
  ["state_valid"] ++ addn "q" 29 ++ addn "dq" 29 ++ addn "tau" 29 ++
  addn "temp_casing" 29 ++ addn "temp_winding" 29 ++ addn "fault" 29 ++
  addn "imu_quat" 4 ++ addn "imu_gyro" 3 ++
  addn "health" 29 ++
  -- hands
  ["hand_l_valid", "hand_r_valid"] ++
  addn "hand_l_q" 7 ++ addn "hand_r_q" 7 ++ addn "hand_l_cmd" 7 ++ addn "hand_r_cmd" 7 ++
  -- operator controller
  ["ctrl_valid"] ++ addn "ctrl_laxis" 2 ++ addn "ctrl_raxis" 2 ++
  ["btn_a", "btn_b", "btn_x", "btn_y", "trig_l", "trig_r", "grip_l", "grip_r"] ++
  ["record_state"]

/-- `num_columns()`. -/
def numColumns : Nat := stateTraceColumns.length

example : numColumns = 523 := by decide +kernel

/-- A row of float32 words. -/
abbrev Row : Type := Vector (BitVec 32) numColumns

/-- The lines of the header. -/
def headerLines (columns : List String) : List (List Char) :=
  ["STATETRACE v1".toList,
    "columns=".toList ++ Nat.toDigits 10 columns.length,
    "rate_hz=50".toList,
    [','].intercalate (columns.map String.toList),
    "END".toList]

/-- The bytes of a text that `fprintf` writes. -/
def textBytes (text : List Char) : List UInt8 := text.flatMap String.utf8EncodeChar

def header (columns : List String) : List UInt8 :=
  textBytes ((headerLines columns).flatMap fun line => line ++ ['\n'])

/-- A word in memory, its least byte first. -/
def wordBytes (word : BitVec 32) : List UInt8 :=
  [.ofNat word.toNat, .ofNat (word.toNat / 2 ^ 8), .ofNat (word.toNat / 2 ^ 16),
    .ofNat (word.toNat / 2 ^ 24)]

/-- The rows as `fwrite` lays them out. -/
def rowBytes (rows : List (List (BitVec 32))) : List UInt8 := rows.flatten.flatMap wordBytes

/-- The whole file. -/
def fileBytes (rows : List Row) : List UInt8 :=
  header stateTraceColumns ++ rowBytes (rows.map Vector.toList)

end StateTrace

end Gearsonic
