import Gearsonic.Control.MotorCommand
import Gearsonic.Unitree.Crc32
import Gearsonic.Unitree.UnitreeState

/-!
# Checked packets

`UnitreeStateReader::on_lowstate_update` and `UnitreeCommandWriter::publish`, the two ends of the
link that use the checksum. A packet is the words it covers and the checksum behind them. How the
SDK lays its messages out in these words is not in this repository: `fields` reads a LowState out
of them, and `memory` is a LowCmd in them.

* `onLowstateUpdate_sealed`: a packet that came through whole is stored.
* `burst_detected`: one with a short burst in its words never is.
-/

namespace Gearsonic

variable {K : Type} [Field K]

/-- The covered words of a message, and its `crc()`. -/
structure Packet where
  words : List (BitVec 32)
  crc : BitVec 32

/-! ## The reader -/

structure UnitreeStateReader (K : Type) [Field K] where
  unitreeStateBuf : DataBuffer (UnitreeState K) := {}
  imuTorsoBuf : DataBuffer (IMU K) := {}

namespace UnitreeStateReader

/-- `on_lowstate_update`: a corrupted packet is dropped. -/
def onLowstateUpdate (fields : List (BitVec 32) → SdkLowState K) (reader : UnitreeStateReader K)
    (lowState : Packet) (now : TimePoint) : UnitreeStateReader K :=
  let crc := crc32Core lowState.words
  if crc ≠ lowState.crc then reader
  else
    { reader with
      unitreeStateBuf := reader.unitreeStateBuf.setData (convert (fields lowState.words)) now }

variable {fields : List (BitVec 32) → SdkLowState K} {lowState : Packet}

/-- A packet with its own checksum is the newest state. -/
theorem onLowstateUpdate_sealed (reader : UnitreeStateReader K) (now : TimePoint)
    (h : crc32Core lowState.words = lowState.crc) :
    (reader.onLowstateUpdate fields lowState now).unitreeStateBuf =
      ⟨some (convert (fields lowState.words)), now⟩ := by
  unfold onLowstateUpdate
  dsimp only
  rw [if_neg (not_not_intro h)]
  rfl

theorem onLowstateUpdate_corrupted (reader : UnitreeStateReader K) (now : TimePoint)
    (h : crc32Core lowState.words ≠ lowState.crc) :
    reader.onLowstateUpdate fields lowState now = reader := if_pos h

end UnitreeStateReader

/-! ## The writer -/

structure SdkMotorCmd (K : Type) where
  mode : Nat
  q : K
  dq : K
  kp : K
  kd : K
  tau : K

structure SdkLowCmd (K : Type) where
  modePr : Nat
  modeMachine : Nat
  motorCmd : Fin 29 → SdkMotorCmd K

namespace UnitreeCommandWriter

def kModePR : Nat := 0

/-- The message of a command; `modeMachine` is that of the newest state, if there is one. -/
def lowCmd (cmd : MotorCommand K) (modeMachine : Option Nat) : SdkLowCmd K :=
  { modePr := kModePR
    modeMachine := modeMachine.getD 0
    motorCmd := fun i =>
      { mode := 1
        q := cmd.qTarget i
        dq := cmd.dqTarget i
        kp := cmd.kp i
        kd := cmd.kd i
        tau := cmd.tauFf i } }

/-- The packet that `publish` writes. -/
def published (memory : SdkLowCmd K → List (BitVec 32)) (cmd : MotorCommand K)
    (modeMachine : Option Nat) : Packet :=
  let words := memory (lowCmd cmd modeMachine)
  ⟨words, crc32Core words⟩

end UnitreeCommandWriter

/-! ## Bursts -/

/-- **The checksum detects every short burst.** Messages of one length that differ, and only within
32 consecutive bits, have different checksums: the one is dropped under the checksum of the other,
on its way from the robot and on its way to it. -/
theorem burst_detected {a b : List (BitVec 32)} (hlen : a.length = b.length) (hne : a ≠ b)
    (hburst : BurstApart a b) :
    crc32Core a ≠ crc32Core b ∧
      (∀ (fields : List (BitVec 32) → SdkLowState K) (reader : UnitreeStateReader K)
        (crc : BitVec 32) (now : TimePoint), crc32Core a = crc →
          reader.onLowstateUpdate fields ⟨b, crc⟩ now = reader) ∧
      ∀ (memory : SdkLowCmd K → List (BitVec 32)) (cmd : MotorCommand K) (modeMachine : Option Nat),
        (UnitreeCommandWriter.published memory cmd modeMachine).words = a →
          crc32Core b ≠ (UnitreeCommandWriter.published memory cmd modeMachine).crc := by
  have hcrc := crc32Core_ne hlen hne hburst
  refine ⟨hcrc, ?_, ?_⟩
  · intro fields reader crc now hsealed
    refine reader.onLowstateUpdate_corrupted now ?_
    rw [← hsealed]
    exact hcrc.symm
  · intro memory cmd modeMachine hwords
    have hsealed : (UnitreeCommandWriter.published memory cmd modeMachine).crc = crc32Core a :=
      congrArg crc32Core hwords
    rw [hsealed]
    exact hcrc.symm

/-- A burst of two bits, the last of one word and the first of the next. -/
theorem burst_detected_across :
    BurstApart [0#32, 0#32] [1#32, 0x80000000#32] ∧
      crc32Core [0#32, 0#32] ≠ crc32Core [1#32, 0x80000000#32] := by
  have hburst : BurstApart [0#32, 0#32] [1#32, 0x80000000#32] := by
    refine ⟨31, fun i => ?_⟩
    by_cases hi : i < 64
    · have hall : ∀ j < 64, (messageBits [0#32, 0#32])[j]? ≠
          (messageBits [1#32, 0x80000000#32])[j]? → 31 ≤ j ∧ j < 31 + 32 := by
        decide +kernel
      exact hall i hi
    · intro hdiff
      rw [List.getElem?_eq_none (by rw [messageBits_length]; exact Nat.le_of_not_lt hi),
        List.getElem?_eq_none (by rw [messageBits_length]; exact Nat.le_of_not_lt hi)] at hdiff
      exact absurd rfl hdiff
  have hlen : [0#32, 0#32].length = [1#32, 0x80000000#32].length := rfl
  have hdetected := burst_detected (K := ℚ) hlen (by decide) hburst
  exact ⟨hburst, hdetected.1⟩

end Gearsonic
