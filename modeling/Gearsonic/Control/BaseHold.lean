import Gearsonic.Control.CommandFlow
import Gearsonic.Transition.Loop
import Mathlib.Algebra.Order.Field.Basic
import Mathlib.Tactic.Linarith
import Mathlib.Tactic.Ring

/-!
# The hold over a LowState loss

Through the grace window a loss stores nothing, then it ramps from the command that was
last stored to the standing pose. The ramp's start is captured once, at the 26th missing
tick, into a member that survives the loss.

`LossWatch` follows the loop over runs without the emergency stop, and records what
`motor_command_buf` held when the loss in progress began. `LossOutput` is the hold as the
policy note of the source states it.

* `holdsBase_iff`: a missing tick stores that, if a command was there to ramp from.
* `base_hold_iff`: a run keeps to it exactly if no loss outlasts the grace window without
  a command stored before it. Without one the code ramps from the zero command.
-/

set_option linter.unusedSectionVars false

namespace Gearsonic

variable {K : Type} [Field K] [LinearOrder K] [CMath K]

open WholeBodyController

/-! ## The ramp -/

/-- How far the hold is at the `k`-th missing tick. -/
def lossRatio (k : Nat) : K := min (((k : K) - 25) / 50) 1

section

variable [IsStrictOrderedRing K] {k : Nat}

theorem baseRampRatio_eq (h : kStateGraceTicks < k) : baseRampRatio k = (lossRatio k : K) := by
  have hk : (25 : K) ≤ k := by exact_mod_cast h.le
  have hpos : (0 : K) ≤ ((k : K) - 25) / 50 := div_nonneg (sub_nonneg.mpr hk) (by norm_num)
  have hcast : ((((k : Int) - kStateGraceTicks : Int) : K) / kBaseRampTicks) =
      ((k : K) - 25) / 50 := by
    simp [kStateGraceTicks, kBaseRampTicks]
  unfold baseRampRatio lossRatio clamp
  rw [hcast, if_neg (not_lt.mpr hpos)]
  rcases lt_or_ge 1 (((k : K) - 25) / 50) with hlt | hge
  · rw [if_pos hlt, min_eq_right hlt.le]
  · rw [if_neg (not_lt.mpr hge), min_eq_left hge]

theorem lossRatio_first : (lossRatio 26 : K) = 1 / 50 := by
  unfold lossRatio
  rw [min_eq_left]
  · norm_num
  · norm_num

theorem lossRatio_done (h : 75 ≤ k) : (lossRatio k : K) = 1 := by
  have hk : (75 : K) ≤ k := by exact_mod_cast h
  refine min_eq_right ?_
  rw [le_div_iff₀ (by norm_num)]
  linarith

theorem rampTarget_apply (start : Joints K) (ratio : K) (i : Fin 29) :
    rampTarget start ratio i = start i * (1 - ratio) + g1DefaultAngles K i * ratio := by
  have hone : (1.0 : K) = 1 := by norm_num
  rw [rampTarget, hone]

/-- The first target of the ramp is a fiftieth of the way. -/
theorem rampTarget_first (start : Joints K) (i : Fin 29) :
    rampTarget start (lossRatio 26) i - start i = (g1DefaultAngles K i - start i) / 50 := by
  rw [rampTarget_apply, lossRatio_first]
  ring

theorem rampTarget_done (start : Joints K) (h : 75 ≤ k) :
    rampTarget start (lossRatio k) = g1DefaultAngles K := by
  funext i
  rw [rampTarget_apply, lossRatio_done h]
  ring

end

/-- What the `k`-th missing tick of a loss stores, when `motor_command_buf` held `last`
before the loss: nothing through the grace window and nothing without a last command, else
the ramp from its target to the standing pose, with the policy's gains. -/
def LossOutput (last : Option (MotorCommand K)) (k : Nat)
    (out : List (Writer × MotorCommand K)) : Prop :=
  if k ≤ 25 then out = []
  else
    match last with
    | none => out = []
    | some last => ∃ cmd : MotorCommand K, out = [(.baseHold, cmd)] ∧
        (cmd.kp = g1Kps K ∧ cmd.kd = g1Kds K) ∧
        (∀ i, cmd.qTarget i =
          last.qTarget i * (1 - lossRatio k) + g1DefaultAngles K i * lossRatio k) ∧
        (k = 26 → ∀ i, cmd.qTarget i - last.qTarget i =
          (g1DefaultAngles K i - last.qTarget i) / 50) ∧
        (75 ≤ k → cmd.qTarget = g1DefaultAngles K)

/-- Beyond the grace window the code stores a hold that is the stated one exactly if it
ramps from the last command. -/
theorem lossOutput_some [IsStrictOrderedRing K] {k : Nat} (h : kStateGraceTicks < k)
    (last : MotorCommand K) :
    LossOutput (some last) k
      [(.baseHold, .withPolicyGains (rampTarget last.qTarget (baseRampRatio k)))] := by
  have hlong : ¬ k ≤ 25 := Nat.not_le.mpr h
  unfold LossOutput
  rw [if_neg hlong, baseRampRatio_eq h]
  refine ⟨_, rfl, ⟨rfl, rfl⟩, fun i => rampTarget_apply _ _ i, ?_, fun hk => rampTarget_done _ hk⟩
  rintro rfl i
  exact rampTarget_first _ i

/-! ## Missing ticks -/

namespace WholeBodyController

variable {c : WholeBodyController K} {now : TimePoint}

/-- Through the grace window a missing tick only counts. -/
theorem tickMissing_grace (h : c.stateMissingTicks < kStateGraceTicks) :
    c.tickMissing now = { c with stateMissingTicks := c.stateMissingTicks + 1 } := by
  unfold tickMissing
  exact if_neg (Nat.not_lt.mpr h)

theorem tickMissing_count (c : WholeBodyController K) (now : TimePoint) :
    (c.tickMissing now).stateMissingTicks = c.stateMissingTicks + 1 := by
  unfold tickMissing
  dsimp only
  split
  · split <;> rfl
  · rfl

/-- The ramp's start: captured at the 26th missing tick, kept from then on. -/
theorem tickMissing_rampFrom (h : kStateGraceTicks ≤ c.stateMissingTicks) :
    (c.tickMissing now).baseRampFrom =
      if c.stateMissingTicks = kStateGraceTicks then c.motorCommandBuf.data.getD c.baseRampFrom
      else c.baseRampFrom := by
  unfold tickMissing
  dsimp only
  rw [if_pos (Nat.lt_succ_of_le h)]
  by_cases heq : c.stateMissingTicks = kStateGraceTicks
  · rw [if_pos heq, if_pos (congrArg (· + 1) heq)]
    rfl
  · rw [if_neg heq, if_neg fun hc => heq (Nat.succ_injective hc)]
    rfl

end WholeBodyController

/-! ## The watch over a run -/

/-- The loop, the number of missing ticks in a row, and what `motor_command_buf` held when
they began. -/
structure LossWatch (K : Type) [Field K] where
  controller : WholeBodyController K := {}
  missing : Nat := 0
  last : Option (MotorCommand K) := none

namespace LossWatch

def start (auto : Bool) : LossWatch K := { controller := { autoStart := auto } }

/-- The reads of a tick without the emergency stop. -/
def calm (r : TickReads K) : TickReads K := { r with estop := false }

/-- The last command before the loss that this missing tick belongs to. -/
def lossStart (w : LossWatch K) : Option (MotorCommand K) :=
  if w.missing = 0 then w.controller.motorCommandBuf.data else w.last

def tick (w : LossWatch K) (r : TickReads K) : LossWatch K :=
  let c := w.controller.loopIteration (calm r)
  if checkSafety r.lowState r.now then { controller := c }
  else { controller := c, missing := w.missing + 1, last := w.lossStart }

/-- A missing tick stores what the policy of the loss says. -/
def HoldsBase (w : LossWatch K) (r : TickReads K) : Prop :=
  checkSafety r.lowState r.now = false →
    LossOutput w.lossStart (w.missing + 1) (w.controller.loopIteration (calm r)).commands

/-- A loss that outlasts the grace window began with a command to ramp from. -/
def CommandBefore (w : LossWatch K) (r : TickReads K) : Prop :=
  checkSafety r.lowState r.now = false → kStateGraceTicks ≤ w.missing →
    w.lossStart.isSome = true

instance (w : LossWatch K) (r : TickReads K) : Decidable (CommandBefore w r) :=
  inferInstanceAs (Decidable (_ → _ → _))

/-- The counter counts the loss; through the grace window the buffer still holds the last
command, and beyond it the ramp starts from that command. -/
structure LossInv (w : LossWatch K) : Prop where
  count : w.controller.stateMissingTicks = w.missing
  kept : 0 < w.missing → w.missing ≤ kStateGraceTicks →
    w.controller.motorCommandBuf.data = w.last
  captured : kStateGraceTicks < w.missing → ∀ cmd, w.last = some cmd →
    w.controller.baseRampFrom = cmd

variable {w : LossWatch K} {r : TickReads K}

theorem lossInv_start (auto : Bool) : LossInv (start auto : LossWatch K) :=
  ⟨rfl, fun h => absurd h (lt_irrefl 0), fun h => absurd h (Nat.not_lt_zero _)⟩

theorem missing_iteration (h : checkSafety r.lowState r.now = false) :
    w.controller.loopIteration (calm r) =
      ({ w.controller with outputs := [] } : WholeBodyController K).tickMissing r.now := by
  rcases loopIteration_cases w.controller (calm r) with ⟨he, -⟩ | ⟨-, -, hc⟩ | ⟨-, hsafe, -⟩
  · cases he
  · exact hc
  · exact Bool.noConfusion (hsafe.symm.trans h)

/-- The ramp of a missing tick beyond the grace window starts from the last command. -/
theorem LossInv.rampFrom (hinv : LossInv w) (hlong : kStateGraceTicks ≤ w.missing)
    {cmd : MotorCommand K} (hlast : w.last = some cmd) :
    (({ w.controller with outputs := [] } : WholeBodyController K).tickMissing r.now).baseRampFrom
      = cmd := by
  have hcount : kStateGraceTicks ≤ ({ w.controller with outputs := [] } :
      WholeBodyController K).stateMissingTicks := hlong.trans hinv.count.ge
  rw [tickMissing_rampFrom hcount]
  by_cases heq : w.missing = kStateGraceTicks
  · have hbuf := hinv.kept (heq ▸ by decide) heq.le
    rw [if_pos (hinv.count.trans heq), hbuf, hlast]
    rfl
  · have hlt : kStateGraceTicks < w.missing := lt_of_le_of_ne hlong (Ne.symm heq)
    rw [if_neg fun h => heq (hinv.count.symm.trans h)]
    exact hinv.captured hlt cmd hlast

theorem holdsBase_iff [IsStrictOrderedRing K] (hinv : LossInv w) :
    HoldsBase w r ↔ CommandBefore w r := by
  unfold HoldsBase CommandBefore
  refine imp_congr_right fun hmiss => ?_
  rw [missing_iteration hmiss, tickMissing_commands _ _ rfl]
  have hcount : ({ w.controller with outputs := [] } :
      WholeBodyController K).stateMissingTicks = w.missing := hinv.count
  rw [hcount]
  rcases Nat.lt_or_ge w.missing kStateGraceTicks with hshort | hlong
  · have hgrace : w.missing + 1 ≤ 25 := hshort
    simp [LossOutput, hgrace, Nat.not_le.mpr hshort]
  · have hstart : w.lossStart = w.last := if_neg (Nat.pos_iff_ne_zero.mp
      (lt_of_lt_of_le (by decide) hlong))
    rw [if_pos hlong, hstart]
    cases hlast : w.last with
    | none =>
      have hgrace : ¬ w.missing + 1 ≤ 25 := Nat.not_le.mpr (Nat.lt_succ_of_le hlong)
      simp [LossOutput, hgrace, hlong]
    | some cmd =>
      rw [hinv.rampFrom hlong hlast]
      simpa [hlong] using lossOutput_some (Nat.lt_succ_of_le hlong) cmd

theorem LossInv.tick (hinv : LossInv w) : LossInv (w.tick r) := by
  cases hsafe : checkSafety r.lowState r.now with
  | true =>
    rcases loopIteration_cases w.controller (calm r) with ⟨he, -⟩ | ⟨-, hno, -⟩ | ⟨-, -, hst⟩
    · cases he
    · exact Bool.noConfusion (hno.symm.trans hsafe)
    · simp only [LossWatch.tick, hsafe, if_true]
      exact ⟨hst.missing, fun h => absurd h (lt_irrefl 0), fun h => absurd h (Nat.not_lt_zero _)⟩
  | false =>
    have htick : w.tick r =
        { controller := ({ w.controller with outputs := [] } :
            WholeBodyController K).tickMissing r.now
          missing := w.missing + 1
          last := w.lossStart } := by
      simp only [LossWatch.tick, hsafe, Bool.false_eq_true, if_false, missing_iteration hsafe]
    rw [htick]
    refine ⟨?_, fun _ hle => ?_, fun hlt cmd hlast => ?_⟩
    · rw [tickMissing_count]
      exact congrArg (· + 1) hinv.count
    · have hgrace : ({ w.controller with outputs := [] } :
          WholeBodyController K).stateMissingTicks < kStateGraceTicks :=
        lt_of_eq_of_lt hinv.count hle
      rw [tickMissing_grace hgrace]
      unfold lossStart
      split
      · rfl
      · exact hinv.kept (Nat.pos_of_ne_zero ‹_›) (Nat.le_of_lt hle)
    · have hlong : kStateGraceTicks ≤ w.missing := Nat.le_of_lt_succ hlt
      have hstart : w.lossStart = w.last := if_neg (Nat.pos_iff_ne_zero.mp
        (lt_of_lt_of_le (by decide) hlong))
      exact hinv.rampFrom hlong (hstart.symm.trans hlast)

/-- Over every run without the emergency stop: every missing tick of every loss stores what
the policy says exactly if no loss outlasts the grace window that began before the first
command. -/
theorem base_hold_iff [IsStrictOrderedRing K] (auto : Bool) (rs : List (TickReads K)) :
    Transition.Throughout HoldsBase tick (start auto) rs ↔
      Transition.Throughout CommandBefore tick (start auto) rs :=
  Transition.throughout_congr (I := LossInv) (lossInv_start auto)
    (fun _ _ hinv => holdsBase_iff hinv) (fun _ _ hinv _ => hinv.tick) rs

/-- A tick without LowState. -/
def lostTick : TickReads ℚ := {}

/-- A tick of the INIT ramp. -/
def presentTick : TickReads ℚ :=
  { now := 1, lowState := ⟨some {}, 1⟩, robotState := some {} }

/-- One command, then a loss of 80 ticks. -/
theorem base_hold_iff_loss :
    Transition.Throughout HoldsBase tick (start false : LossWatch ℚ)
      (presentTick :: List.replicate 80 lostTick) :=
  (base_hold_iff false _).mpr (by decide +kernel)

/-- LowState is missing from the first tick on: the 26th missing tick stores a target although
nothing was ever commanded. -/
theorem base_hold_without_command :
    ¬ Transition.Throughout HoldsBase tick (start false : LossWatch ℚ)
      (List.replicate 25 lostTick ++ [lostTick]) := by
  intro hall
  have hlast := (Transition.throughout_iff _).mp hall (List.replicate 25 lostTick) lostTick
    List.prefix_rfl
  have hnone : ((List.replicate 25 lostTick).foldl tick
      (start false : LossWatch ℚ)).lossStart.isNone = true := by decide +kernel
  have hcount : ((List.replicate 25 lostTick).foldl tick
      (start false : LossWatch ℚ)).missing = 25 := by decide +kernel
  have hstores : (((List.replicate 25 lostTick).foldl tick
      (start false : LossWatch ℚ)).controller.loopIteration (calm lostTick)).commands.isEmpty =
      false := by decide +kernel
  have hout := hlast (by decide +kernel)
  rw [Option.isNone_iff_eq_none.mp hnone, hcount] at hout
  have hempty := List.isEmpty_iff.mpr (show _ = [] from hout)
  exact Bool.noConfusion (hstores.symm.trans hempty)

end LossWatch

end Gearsonic
