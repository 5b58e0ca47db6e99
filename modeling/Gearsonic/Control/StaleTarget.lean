import Gearsonic.Control.CommandFlow
import Gearsonic.Transition.Loop

/-!
# Stale policy targets

Between two motor commands the 500 Hz writer repeats the last one, so a tick that stores
nothing keeps the robot on its last target. Only the LowState loss counts its silent ticks;
the other early returns of `tick_control` do not.

`stalled` says from a tick's reads and the controller before it that the tick stores
nothing (`stalled_iff`). `CommandWatch` follows the loop and records who stored the command
in `motor_command_buf` and for how many ticks it has been kept.

* `command_kept_iff`: a policy command is never kept for more than the grace window exactly
  in the runs without 26 consecutive stalled ticks after one.
* `stalls_of_overLimit`: an over-limit joint velocity stalls every tick it lasts.
-/

set_option linter.unusedSectionVars false

namespace Gearsonic

variable {K : Type} [Field K] [LinearOrder K] [CMath K]

namespace WholeBodyController

/-! ## Ticks that store nothing -/

/-- The ticket of the planner reseed that a CONTROL tick waits for. -/
def ticketInForce (c : WholeBodyController K) (r : TickReads K) : Nat :=
  if c.reentryDue then r.stateTicket else c.stateReseedTicket

/-- The owner's path of this tick ends before its command. -/
def ownerStalled (c : WholeBodyController K) (r : TickReads K) : Bool :=
  match (c.stepArbiter r).mode with
  | .vla => r.vlaData.isNone || r.decoderOut.isNone
  | .recovering => r.decoderOut.isNone
  | .normal | .teleop =>
    c.reentryDue || c.leavesRecovery r || decide (c.playbackMotion.timesteps = 0) ||
      r.encoderOut.isNone || r.decoderOut.isNone

/-- A CONTROL tick that takes one of its early returns: LowState missing within the grace
window, LowState gone between the gate and the tick, a joint over the velocity limit, a
reseed awaited, no playback, no token, or a failed inference. -/
def stalled (c : WholeBodyController K) (r : TickReads K) : Bool :=
  !r.estop &&
    if checkSafety r.lowState r.now then
      match r.robotState with
      | none => true
      | some st =>
        overLimit st ||
          (decide (c.ticketInForce r ≠ 0) && decide (r.stateReinitDone < c.ticketInForce r)) ||
          c.ownerStalled r
    else decide (c.stateMissingTicks < kStateGraceTicks)

variable {c : WholeBodyController K} {r : TickReads K}

theorem resumed_awaits (c : WholeBodyController K) (r : TickReads K) :
    (c.resumed r).awaitsReseed r.stateReinitDone =
      (decide (c.ticketInForce r ≠ 0) && decide (r.stateReinitDone < c.ticketInForce r)) := by
  unfold resumed tickRecovered ticketInForce
  rw [show ({ c with outputs := [] } : WholeBodyController K).reentryDue = c.reentryDue from rfl]
  split <;> rfl

theorem resumed_owner (c : WholeBodyController K) (r : TickReads K) :
    (c.resumed r).stepArbiter r = c.stepArbiter r ∧
      (c.resumed r).leavesRecovery r = c.leavesRecovery r := by
  unfold resumed tickRecovered
  split <;> exact ⟨rfl, rfl⟩

theorem resumed_playback (c : WholeBodyController K) (r : TickReads K) :
    decide ((c.resumed r).playbackMotion.timesteps = 0) =
      (c.reentryDue || decide (c.playbackMotion.timesteps = 0)) := by
  unfold resumed tickRecovered
  rw [show ({ c with outputs := [] } : WholeBodyController K).reentryDue = c.reentryDue from rfl]
  cases c.reentryDue with
  | true => rfl
  | false => rfl

theorem policyOut_eq_none : r.policyOut = none ↔ r.decoderOut.isNone = true := by
  unfold TickReads.policyOut
  cases r.decoderOut <;> simp

theorem bind_policyOut_eq_none {α : Type} (o : Option α) :
    (o.bind fun _ => r.policyOut) = none ↔ (o.isNone || r.decoderOut.isNone) = true := by
  cases o with
  | none => simp
  | some v => simpa using policyOut_eq_none

theorem ownerOut_eq_none : ownerOut (c.stepArbiter r).mode
    (c.leavesRecovery r || (c.reentryDue || decide (c.playbackMotion.timesteps = 0))) r = none ↔
      c.ownerStalled r = true := by
  have hpath : (if (c.leavesRecovery r ||
      (c.reentryDue || decide (c.playbackMotion.timesteps = 0))) then none
      else r.encoderOut.bind fun _ => r.policyOut) = none ↔
      (c.reentryDue || c.leavesRecovery r || decide (c.playbackMotion.timesteps = 0) ||
        r.encoderOut.isNone || r.decoderOut.isNone) = true := by
    cases c.leavesRecovery r <;> cases c.reentryDue <;>
      cases decide (c.playbackMotion.timesteps = 0) <;>
      simp only [Bool.or_true, Bool.true_or, Bool.or_false, Bool.false_or, Bool.false_eq_true,
        if_true, if_false, bind_policyOut_eq_none]
  unfold ownerOut ownerStalled
  cases (c.stepArbiter r).mode with
  | vla => exact bind_policyOut_eq_none _
  | recovering => exact policyOut_eq_none
  | normal => exact hpath
  | teleop => exact hpath

theorem controlOut_resumed_eq_none : (c.resumed r).controlOut r = none ↔
    (match r.robotState with
      | none => true
      | some st =>
        overLimit st ||
          (decide (c.ticketInForce r ≠ 0) && decide (r.stateReinitDone < c.ticketInForce r)) ||
          c.ownerStalled r) = true := by
  unfold controlOut
  cases r.robotState with
  | none => simp
  | some st =>
    dsimp only
    rw [resumed_awaits, (resumed_owner c r).1, (resumed_owner c r).2, resumed_playback]
    by_cases hearly : (overLimit st || (decide (c.ticketInForce r ≠ 0) &&
        decide (r.stateReinitDone < c.ticketInForce r))) = true
    · simp only [hearly, if_true, Bool.true_or]
    · simp only [hearly, Bool.false_eq_true, if_false, Bool.false_or]
      exact ownerOut_eq_none

/-- **A CONTROL tick stores no command exactly when it is stalled.** -/
theorem stalled_iff (hs : c.state = .control) :
    c.stalled r = true ↔ (c.loopIteration r).commands = [] := by
  unfold stalled
  rcases loopIteration_cases c r with ⟨hestop, hc⟩ | ⟨hestop, hsafe, hc⟩ | ⟨hestop, hsafe, hst⟩
  · rw [hc]
    simp [hestop, tickEstop, publishDamping, publish, emit, commands, Output.command]
  · rw [hc, tickMissing_commands _ _ rfl]
    by_cases hgrace : kStateGraceTicks ≤ c.stateMissingTicks
    · simp [hestop, hsafe, hgrace]
    · simp [hestop, hsafe, hgrace, Nat.lt_of_not_le hgrace]
  · have hstate : (c.resumed r).state = .control := by
      rw [resumed, tickRecovered_state]
      exact hs
    have hcommands : (c.loopIteration r).commands = ((c.resumed r).controlOut r).toList := by
      rw [hst.commands, stateOut, hstate]
      rfl
    rw [hcommands, Option.toList_eq_nil_iff, controlOut_resumed_eq_none]
    simp [hestop, hsafe]

/-- CONTROL ends only with the emergency stop. -/
theorem loopIteration_control (hs : c.state = .control) (hestop : r.estop = false) :
    (c.loopIteration r).state = .control := by
  rcases loopIteration_cases c r with ⟨h, -⟩ | ⟨-, -, hc⟩ | ⟨-, -, hst⟩
  · exact Bool.noConfusion (hestop.symm.trans h)
  · rw [hc]
    unfold tickMissing
    dsimp only
    split
    · split <;> exact hs
    · exact hs
  · exact hst.control hs

/-- A policy command comes from a CONTROL tick without the emergency stop. -/
theorem policy_of_control {cmd : MotorCommand K}
    (h : (c.loopIteration r).commands.getLast? = some (.policy, cmd)) :
    c.state = .control ∧ r.estop = false := by
  rcases loopIteration_cases c r with ⟨-, hc⟩ | ⟨-, -, hc⟩ | ⟨hestop, -, hst⟩
  · rw [hc] at h
    simp [tickEstop, publishDamping, publish, emit, commands, Output.command] at h
  · rw [hc, tickMissing_commands _ _ rfl] at h
    split at h <;> simp at h
  · refine ⟨?_, hestop⟩
    have hcommands : (c.loopIteration r).commands = ((c.resumed r).stateOut r).toList :=
      hst.commands
    have hsame : (c.resumed r).state = c.state := tickRecovered_state _ _
    rw [hcommands, stateOut, hsame] at h
    cases hs : c.state with
    | control => rfl
    | init =>
      rw [hs] at h
      cases hq : r.robotState <;> simp [initOut, hq] at h
    | waitForControl => simp [hs] at h
    | estop => simp [hs] at h

end WholeBodyController

/-! ## The watch over a run -/

open WholeBodyController

/-- The loop, who stored the command in `motor_command_buf`, the number of ticks it has been
kept since, and the number of stalled ticks in a row. -/
structure CommandWatch (K : Type) [Field K] where
  controller : WholeBodyController K := {}
  writer : Option Writer := none
  kept : Nat := 0
  stalls : Nat := 0

namespace CommandWatch

def start (auto : Bool) : CommandWatch K := { controller := { autoStart := auto } }

def tick (w : CommandWatch K) (r : TickReads K) : CommandWatch K :=
  let c := w.controller.loopIteration r
  { controller := c
    writer := (c.commands.getLast?.map Prod.fst).or w.writer
    kept := if c.commands.isEmpty then w.kept + 1 else 0
    stalls := if w.controller.stalled r then w.stalls + 1 else 0 }

/-- After the tick, a policy command has been kept for at most the grace window. -/
def NotStale (w : CommandWatch K) (r : TickReads K) : Prop :=
  (w.tick r).writer = some .policy → (w.tick r).kept ≤ kStateGraceTicks

/-- The tick is not the 26th stalled one in a row over a policy command. -/
def StallsBounded (w : CommandWatch K) (r : TickReads K) : Prop :=
  w.writer = some .policy → w.controller.stalled r = true → w.stalls < kStateGraceTicks

instance (w : CommandWatch K) (r : TickReads K) : Decidable (NotStale w r) :=
  inferInstanceAs (Decidable (_ → _))

/-- A policy command in the buffer means CONTROL, and it is kept exactly by stalls. -/
def WatchInv (w : CommandWatch K) : Prop :=
  w.writer = some .policy → w.controller.state = .control ∧ w.kept = w.stalls

variable {w : CommandWatch K} {r : TickReads K}

/-- A tick that stores nothing over a policy command is a stalled one, and keeps it. -/
theorem tick_quiet (hinv : WatchInv w) (hq : (w.controller.loopIteration r).commands = [])
    (hw : w.writer = some .policy) :
    w.controller.stalled r = true ∧ (w.tick r).kept = w.kept + 1 ∧
      (w.tick r).stalls = w.stalls + 1 := by
  have hstall := (stalled_iff (hinv hw).1).mpr hq
  exact ⟨hstall, by simp [tick, hq], by simp [tick, hstall]⟩

theorem tick_writer_quiet (hq : (w.controller.loopIteration r).commands = []) :
    (w.tick r).writer = w.writer := by
  simp [tick, hq]

/-- A new policy command starts both counts again. -/
theorem tick_policy {cmd : Writer × MotorCommand K}
    (hlast : (w.controller.loopIteration r).commands.getLast? = some cmd)
    (hpol : cmd.1 = .policy) :
    w.controller.state = .control ∧ r.estop = false ∧ (w.tick r).kept = 0 ∧
      (w.tick r).stalls = 0 := by
  obtain ⟨writer, cmd⟩ := cmd
  obtain rfl : writer = .policy := hpol
  obtain ⟨hs, hestop⟩ := policy_of_control hlast
  have hne : (w.controller.loopIteration r).commands ≠ [] := by
    intro h
    rw [h] at hlast
    cases hlast
  have hstall : w.controller.stalled r = false := by
    cases hst : w.controller.stalled r with
    | true => exact absurd ((stalled_iff hs).mp hst) hne
    | false => rfl
  exact ⟨hs, hestop, by simp [tick, hne], by simp [tick, hstall]⟩

/-- After a tick the writer is the policy because it already was and the tick was quiet, or
because the tick stored a policy command. -/
theorem tick_writer_cases (hw : (w.tick r).writer = some .policy) :
    ((w.controller.loopIteration r).commands = [] ∧ w.writer = some .policy) ∨
      ∃ cmd, (w.controller.loopIteration r).commands.getLast? = some cmd ∧ cmd.1 = .policy := by
  cases hlast : (w.controller.loopIteration r).commands.getLast? with
  | none =>
    have hq := List.getLast?_eq_none_iff.mp hlast
    exact Or.inl ⟨hq, (tick_writer_quiet hq).symm.trans hw⟩
  | some cmd =>
    right
    exact ⟨cmd, rfl, by simpa [tick, hlast] using hw⟩

theorem watchInv_start (auto : Bool) : WatchInv (start auto : CommandWatch K) := by
  intro hw
  cases hw

theorem WatchInv.tick (hinv : WatchInv w) : WatchInv (w.tick r) := by
  intro hw
  rcases tick_writer_cases hw with ⟨hq, hpol⟩ | ⟨cmd, hlast, hpol⟩
  · obtain ⟨hstall, hkept, hstalls⟩ := tick_quiet hinv hq hpol
    obtain ⟨hs, hcount⟩ := hinv hpol
    have hestop : r.estop = false := by
      cases he : r.estop with
      | false => rfl
      | true => simp [stalled, he] at hstall
    refine ⟨loopIteration_control hs hestop, ?_⟩
    rw [hkept, hstalls, hcount]
  · obtain ⟨hs, hestop, hkept, hstalls⟩ := tick_policy hlast hpol
    exact ⟨loopIteration_control hs hestop, hkept.trans hstalls.symm⟩

theorem notStale_iff (hinv : WatchInv w) : NotStale w r ↔ StallsBounded w r := by
  constructor
  · intro hfresh hw hstall
    obtain ⟨hs, hcount⟩ := hinv hw
    have hq := (stalled_iff hs).mp hstall
    have hkept := hfresh ((tick_writer_quiet hq).trans hw)
    rw [(tick_quiet hinv hq hw).2.1] at hkept
    omega
  · intro hbound hw
    rcases tick_writer_cases hw with ⟨hq, hpol⟩ | ⟨cmd, hlast, hpol⟩
    · obtain ⟨hstall, hkept, -⟩ := tick_quiet hinv hq hpol
      have hlt := hbound hpol hstall
      have hcount := (hinv hpol).2
      omega
    · rw [(tick_policy hlast hpol).2.2.1]
      exact Nat.zero_le _

/-- Over every run from the start: a policy command is never kept for more than the grace
window exactly if no 26 stalled ticks in a row follow one. -/
theorem command_kept_iff (auto : Bool) (rs : List (TickReads K)) :
    Transition.Throughout NotStale tick (start auto) rs ↔
      Transition.Throughout StallsBounded tick (start auto) rs :=
  Transition.throughout_congr (I := WatchInv) (watchInv_start auto)
    (fun _ _ hinv => notStale_iff hinv) (fun _ _ hinv _ => hinv.tick) rs

/-- An over-limit joint velocity stalls every tick it lasts: the last policy target stays
for as long. -/
theorem stalls_of_overLimit (hinv : WatchInv w) (hw : w.writer = some .policy)
    {rs : List (TickReads K)}
    (hover : ∀ r ∈ rs, r.estop = false ∧ checkSafety r.lowState r.now = true ∧
      ∃ st, r.robotState = some st ∧ overLimit st = true) :
    (rs.foldl tick w).writer = some .policy ∧ (rs.foldl tick w).kept = w.kept + rs.length := by
  induction rs generalizing w with
  | nil => exact ⟨hw, rfl⟩
  | cons r rs ih =>
    obtain ⟨hestop, hsafe, st, hst, hlim⟩ := hover r List.mem_cons_self
    have hstall : w.controller.stalled r = true := by simp [stalled, hestop, hsafe, hst, hlim]
    have hq := (stalled_iff (hinv hw).1).mp hstall
    obtain ⟨hwriter, hkept⟩ := ih hinv.tick ((tick_writer_quiet hq).trans hw)
      fun r' hr' => hover r' (List.mem_cons_of_mem r hr')
    refine ⟨hwriter, ?_⟩
    rw [List.foldl_cons, hkept, (tick_quiet hinv hq hw).2.1, List.length_cons]
    omega

/-- A tick in order, but with a joint at 36 rad/s. -/
def overspeedTick : TickReads ℚ :=
  { healthyTick with robotState := some { motors := fun _ => { dq := 36 } } }

/-- The INIT ramp, the transition to CONTROL, the adoption of the plan, one policy command,
then 26 ticks over the limit. -/
def overspeedRun : List (TickReads ℚ) :=
  List.replicate 153 healthyTick ++ List.replicate 26 overspeedTick

theorem overspeed_keeps_target :
    ¬ Transition.Throughout NotStale tick (start true) overspeedRun := by
  decide +kernel

end CommandWatch

end Gearsonic
