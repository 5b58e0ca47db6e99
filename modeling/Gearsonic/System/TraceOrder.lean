import Gearsonic.Control.JointTimeline
import Gearsonic.Control.NewestCommand
import Gearsonic.Control.TraceCells
import Gearsonic.System.BlendTimeline

/-!
# The joint order of the trace

`planner_q_j`, `action_j`, `q_target_j` and `q_j` of one row, against the joints that they are of.
`TracedLoops` is the planner and the controller with the history that the columns are compared
with: what the planner has produced for each MuJoCo joint, through every blend, and the newest
motor command.

The header declares the planner's columns in MuJoCo order. `fill` writes the frame's joints as they
are stored, in IsaacLab order.

* `TraceInv`: the motions carry the timelines, and the newest command is known.
* `trace_joint_order`: when a row is in the declared order.
-/

set_option linter.unusedSectionVars false

namespace Gearsonic

variable {K : Type} [Field K] [LinearOrder K] [CMath K]

open WholeBodyController

/-- The two loops, what the planner has produced, and the newest motor command. -/
structure TracedLoops (K : Type) [Field K] where
  loops : PlaybackLoops K := {}
  /-- The joints of the plan in the buffer, in MuJoCo order. -/
  planned : Nat → Joints K := fun _ _ => 0
  /-- Those of the playback. -/
  played : Nat → Joints K := fun _ _ => 0
  command : Option (Writer × MotorCommand K) := none

namespace TracedLoops

abbrev p (s : TracedLoops K) : PlannerInference K := s.loops.p

abbrev c (s : TracedLoops K) : WholeBodyController K := s.loops.c

def start (auto : Bool) : TracedLoops K := { loops := PlaybackLoops.start auto }

/-- The output that a step of the planner publishes. -/
def published (p : PlannerInference K) : PlannerThread.Act K → Option (EngineOutput K)
  | .finishInitialize engine now | .publish engine now =>
    if (p.runAndPublish engine now).2 then engine else none
  | _ => none

/-- The timeline of the playback once it has advanced. -/
def adoptJoints (s : TracedLoops K) : Nat → Joints K :=
  match s.p.motion50hzBuf.data with
  | some gen =>
    if s.loops.adopts then
      if s.c.playbackMotion.timesteps = 0 then s.planned
      else blendJoints s.c.playbackMotion gen s.c.cursor s.played s.planned
    else s.played
  | none => s.played

def step (s : TracedLoops K) : PlaybackLoops.Act K → Option (TracedLoops K)
  | .planner a => (s.loops.step (.planner a)).map fun t =>
    { s with
      loops := t
      planned := (published s.p (s.loops.plannerAct a)).elim s.planned EngineOutput.mujocoJoints }
  | .controller r =>
    some
      { s with
        loops := s.loops.stepController r
        played := if s.loops.controller.point.advances then s.adoptJoints else s.played
        command := (s.loops.stepController r).c.newestCommand s.command }

/-! ## What the motions carry -/

/-- A plan in the buffer has frames, and they carry the timeline. -/
def PlanCarries (p : PlannerInference K) (planned : Nat → Joints K) : Prop :=
  ∀ gen, p.motion50hzBuf.data = some gen → gen.timesteps ≠ 0 ∧ Carries gen planned

structure TraceInv (s : TracedLoops K) : Prop where
  plan : PlanCarries s.p s.planned
  playback : Carries s.c.playbackMotion s.played
  command : NewestCommand s.c s.command

theorem TraceInv.init (auto : Bool) : TraceInv (start auto : TracedLoops K) :=
  ⟨nofun, .empty rfl, .init auto⟩

section

variable {p : PlannerInference K} {planned : Nat → Joints K} {engine : Option (EngineOutput K)}
  {now : TimePoint}

/-- What an inference publishes carries its output's timeline. -/
theorem carries_runAndPublish (hok : (p.runAndPublish engine now).2 = true) :
    PlanCarries (p.runAndPublish engine now).1
      (engine.elim planned EngineOutput.mujocoJoints) := by
  unfold PlannerInference.runAndPublish at hok ⊢
  cases hseq : engine.bind (resample30HzTo50Hz p.motionSeq) with
  | none =>
    rw [hseq] at hok
    cases hok
  | some seq =>
    obtain ⟨out, rfl, hout⟩ := Option.bind_eq_some_iff.mp hseq
    obtain ⟨hne, hcarries⟩ := carries_resample hout
    intro gen hgen
    cases hgen
    exact ⟨hne, hcarries.withGenFrame p.genFrame⟩

/-- A step of the planner publishes a plan with its timeline, or keeps or drops the last one. -/
theorem PlanCarries.of_fires {t u : PlannerThread K} {a : PlannerThread.Act K}
    (h : PlanCarries t.planner planned) (hf : PlannerThread.Fires t a u) :
    PlanCarries u.planner
      ((published t.planner a).elim planned EngineOutput.mujocoJoints) := by
  have hkeep : ∀ q : PlannerInference K,
      q.motion50hzBuf = t.planner.motion50hzBuf → PlanCarries q planned := by
    intro q hq gen hgen
    rw [hq] at hgen
    exact h gen hgen
  cases hf with
  | load hp => exact h
  | clear req hp hdue hinit => exact nofun
  | keep req hp hno => exact h
  | noState req hp hinit => exact h
  | startInitialize req q hp hinit => exact hkeep _ (t.planner.startInitialize_handshake q).buf
  | finishInitialize req engine now hp hok =>
    have hpublished : published t.planner (.finishInitialize engine now) = engine := if_pos hok
    rw [hpublished]
    exact carries_runAndPublish hok
  | failInitialize req engine now hp hok =>
    have hpublished : published t.planner (.finishInitialize engine now) = none := by
      simp [published, hok]
    rw [hpublished]
    exact h
  | ack req hp => exact h
  | noCommand req hp hinit => exact hkeep _ t.planner.countPeriod_handshake.buf
  | readCommand req ms hp hinit =>
    have hsame := (t.planner.countPeriod.needReplan_handshake ms).trans
      t.planner.countPeriod_handshake
    exact hkeep _ hsame.buf
  | snapshot ms playback t0 hp => exact hkeep _ (t.planner.startReplan_handshake ms playback t0).buf
  | publish engine now hp =>
    cases hok : (t.planner.runAndPublish engine now).2 with
    | true =>
      have hpublished : published t.planner (.publish engine now) = engine := if_pos hok
      rw [hpublished]
      exact carries_runAndPublish hok
    | false =>
      have hpublished : published t.planner (.publish engine now) = none := by
        simp [published, hok]
      rw [hpublished, PlannerInference.runAndPublish_eq_self hok]
      exact h

end

variable {s t : TracedLoops K}

theorem TraceInv.advance (h : TraceInv s) :
    Carries (s.c.advancePlayback s.p.motion50hzBuf.getDataWithTime).playbackMotion
      s.adoptJoints := by
  unfold adoptJoints
  cases hadopts : s.loops.adopts with
  | false =>
    have hkeep : Carries (s.c.advancePlayback s.p.motion50hzBuf.getDataWithTime).playbackMotion
        s.played := by
      rw [PlaybackLoops.advancePlayback_of_not_adopts hadopts]
      exact h.playback
    cases s.p.motion50hzBuf.data with
    | none => exact hkeep
    | some gen => exact hkeep
  | true =>
    cases hgen : s.p.motion50hzBuf.data with
    | none => simp [PlaybackLoops.adopts, hgen] at hadopts
    | some gen =>
      obtain ⟨hne, hcarries⟩ := h.plan gen hgen
      rw [PlaybackLoops.advancePlayback_of_adopts hadopts hgen]
      dsimp only
      by_cases hempty : s.c.playbackMotion.timesteps = 0
      · rw [if_pos hempty, if_pos rfl, if_pos hempty]
        exact hcarries
      · rw [if_neg hempty, if_pos rfl, if_neg hempty]
        exact h.playback.blendPlayback hcarries hempty hne

/-- A step of the controller discards the playback, advances it or leaves it. -/
theorem TraceInv.playback_of_step (h : TraceInv s) (r : TickReads K) :
    Carries (s.loops.stepController r).c.playbackMotion
      (if s.loops.controller.point.advances then s.adoptJoints else s.played) := by
  have hplayback := h.playback
  have hadvance : Carries (s.c.advancePlayback s.p.motion50hzBuf.getDataWithTime).playbackMotion
      s.adoptJoints := h.advance
  have hf := (ControllerThread.fires_next s.loops.controller (s.loops.feed r)).reenters
  show Carries (s.loops.controller.next (s.loops.feed r)).controller.playbackMotion _
  generalize s.loops.controller.next (s.loops.feed r) = t' at hf ⊢
  generalize hcur : s.loops.controller = cur at hf ⊢
  have hc : s.c = cur.controller := congrArg _ hcur
  rw [hc] at hplayback
  cases hf with
  | quiet hkept hp hleaves hq =>
    have hstill : ∀ q : ControllerPoint K, q.reenters = false → q.advances = false := by
      intro q hq
      cases q with
      | advancing => cases hq
      | _ => rfl
    rw [hstill _ hp, hkept.playback]
    exact hplayback
  | discard c => exact .empty rfl
  | request c => exact hplayback
  | acked c hw => exact hplayback
  | leave c hw =>
    rw [(decideOwner_entry c (s.loops.feed r)).1]
    exact hplayback
  | decide c hw =>
    rw [(decideOwner_entry c (s.loops.feed r)).1]
    exact hplayback
  | origin c => exact .empty rfl
  | reseed c c' token hkept =>
    rw [hkept.playback]
    exact hplayback
  | advance c =>
    rw [hc] at hadvance
    exact hadvance

/-- **The step lemma.** -/
theorem TraceInv.of_step (h : TraceInv s) {a : PlaybackLoops.Act K} (hstep : s.step a = some t) :
    TraceInv t := by
  cases a with
  | planner a =>
    obtain ⟨loops, hloops, rfl⟩ := Option.map_eq_some_iff.mp hstep
    obtain ⟨u, hu, -, rfl⟩ := PlaybackLoops.step_planner hloops
    exact ⟨h.plan.of_fires hu, h.playback, h.command⟩
  | controller r =>
    cases hstep
    have hkeeps := s.loops.keeps_advanceController
    refine ⟨fun gen hgen => h.plan gen ?_, h.playback_of_step r, ?_⟩
    · rw [← hkeeps.buf]
      exact hgen
    · exact h.command.of_fires
        (ControllerThread.fires_next s.loops.controller (s.loops.feed r))

theorem TraceInv.of_reachable {auto : Bool}
    (h : Transition.Reachable step Transition.Always (start auto) s) : TraceInv s :=
  h.invariant (.init auto) fun _ _ _ hinv _ hstep => hinv.of_step hstep

/-- What the planner has produced for MuJoCo joint `j` at the playback cursor. -/
def atCursor (s : TracedLoops K) (j : Fin 29) : K :=
  s.played (clamp s.c.cursor 0 (s.c.playbackMotion.timesteps - 1)).toNat j

end TracedLoops

/-! ## The declared order -/

open StateTrace

/-- A row that is recorded with the controller as it is now. -/
structure Traced (c : WholeBodyController K) (r : TraceReads K) : Prop where
  info : (c.traceTick true).outputs = c.outputs ++ [.trace r.info]
  action : r.lastAction = c.decoder.lastAction
  command : r.motorCommand = c.motorCommandBuf.getData

theorem Traced.plannerFrame {c : WholeBodyController K} {r : TraceReads K} (h : Traced c r) :
    r.info.plannerFrame =
      if 0 < c.playbackMotion.timesteps then
        some (c.playbackMotion.frame (clamp c.cursor 0 (c.playbackMotion.timesteps - 1)))
      else none := by
  have hinfo : c.outputs ++ [Output.trace _] = c.outputs ++ [.trace r.info] := h.info
  rw [List.append_cancel_left_eq, List.cons.injEq, Output.trace.injEq] at hinfo
  rw [← hinfo.1]

namespace TracedLoops

variable {s : TracedLoops K} {r : TraceReads K}

/-- The columns of index `j` are of MuJoCo joint `j`. -/
structure DeclaredOrder (s : TracedLoops K) (r : TraceReads K) (row : Nat → K) (j : Fin 29) :
    Prop where
  planner : s.c.playbackMotion.timesteps ≠ 0 → cell row "planner_q" j = s.atCursor j
  command : ∀ w cmd, s.command = some (w, cmd) → cell row "q_target" j = cmd.qTarget j
  target : ∀ cmd, s.command = some (.policy, cmd) → cell row "q_target" j =
    g1DefaultAngles K j + g1ActionScale K j * cell row "action" (isaaclabToMujoco j)
  measured : ∀ st, r.unitreeState = some st → cell row "q" j = (st.motors j).q

/-- `planner_q_j` is MuJoCo joint `mujoco_to_isaaclab[j]`. -/
theorem TraceInv.cell_planner (h : TraceInv s) (hr : Traced s.c r) (row : Nat → K) (j : Fin 29)
    (hplays : s.c.playbackMotion.timesteps ≠ 0) :
    cell (fill r row).row "planner_q" j = s.atCursor (mujocoToIsaaclab j) := by
  rw [StateTrace.cell_planner, hr.plannerFrame, if_pos (Nat.pos_of_ne_zero hplays)]
  exact h.playback.frame_clamp hplays s.c.cursor j

theorem TraceInv.cell_target (h : TraceInv s) (hr : Traced s.c r) (row : Nat → K) (j : Fin 29)
    {w : Writer} {cmd : MotorCommand K} (hcommand : s.command = some (w, cmd)) :
    cell (fill r row).row "q_target" j = cmd.qTarget j := by
  have hdata : r.motorCommand = some cmd := by
    rw [hr.command]
    show s.c.motorCommandBuf.data = some cmd
    rw [h.command.data, hcommand]
    rfl
  rw [StateTrace.cell_target, hdata]
  rfl

theorem TraceInv.declaredOrder_iff (h : TraceInv s) (hr : Traced s.c r) (row : Nat → K)
    (j : Fin 29) : DeclaredOrder s r (fill r row).row j ↔
      (s.c.playbackMotion.timesteps ≠ 0 → s.atCursor (mujocoToIsaaclab j) = s.atCursor j) := by
  constructor
  · intro horder hplays
    rw [← h.cell_planner hr row j hplays]
    exact horder.planner hplays
  · intro hsame
    refine ⟨fun hplays => ?_, fun w cmd hcommand => h.cell_target hr row j hcommand,
      fun cmd hcommand => ?_, fun st hst => ?_⟩
    · rw [h.cell_planner hr row j hplays]
      exact hsame hplays
    · rw [h.cell_target hr row j hcommand, cell_action, hr.action,
        h.command.policy cmd hcommand]
      show g1DefaultAngles K j + _ * _ = _
      rw [mul_comm]
    · rw [cell_measured, hst]
      rfl

/-- The joints with the same index in both orders. -/
theorem mujocoToIsaaclab_eq_self {j : Fin 29} : mujocoToIsaaclab j = j ↔ j = 0 ∨ j = 28 := by
  revert j
  decide

/-! ## A run to a policy's command -/

/-- Rows whose joint values are the joints' own numbers. -/
def numberedOutput : EngineOutput ℚ :=
  { mujocoQpos := fun _ i => some (if i.val < 7 then if i.val = 3 then 1 else 0 else i.val - 7)
    numPredFrames := 2 }

/-- A plan from these rows, INIT, WAIT, the tick that adopts the plan, and the tick that encodes
it, up to its trace. -/
def numberedRun : List (PlaybackLoops.Act ℚ) :=
  [.planner .load, .planner .clear, .planner (.startInitialize (some fun _ => 0)),
    .planner (.finishInitialize (some numberedOutput) 1), .planner .ack] ++
    List.replicate (151 * 4 + 8) (.controller PlaybackLoops.presentReads) ++
    List.replicate 7 (.controller PlaybackLoops.playingReads)

/-- What `fill` reads where no other module has anything. -/
def recordReads (c : WholeBodyController ℚ) : TraceReads ℚ :=
  { t0 := 1
    startTime := 0
    tick := 0
    info :=
      { wbcState := c.state
        encoderMode := c.encoder.lastMode
        plannerCursor := c.cursor
        plannerFrame :=
          if 0 < c.playbackMotion.timesteps then
            some (c.playbackMotion.frame (clamp c.cursor 0 (c.playbackMotion.timesteps - 1)))
          else none }
    timingEncUs := 0
    timingDecUs := 0
    timingTotalUs := 0
    arbMode := c.arbiter.mode
    dropped := 0
    smplWindow := none
    vr3point := none
    motionToken := none
    lastAction := c.decoder.lastAction
    motorCommand := c.motorCommandBuf.getData
    unitreeState := some {}
    healthFlags := fun _ => 0
    leftHand := none
    rightHand := none
    lastCmd := none
    ctrl := none
    recordState := .idle }

theorem traced_recordReads (c : WholeBodyController ℚ) : Traced c (recordReads c) := ⟨rfl, rfl, rfl⟩

/-- A policy's command is the newest, the playback has the numbered joints at its cursor, and the
row is about to be recorded. -/
def tracesNumbers (s : TracedLoops ℚ) : Bool :=
  (match s.loops.controller.point with
    | .tracing => true
    | _ => false) &&
    decide (s.c.playbackMotion.timesteps ≠ 0) && s.command.any (fun x => decide (x.1 = .policy)) &&
    (List.finRange 29).all fun j => decide (s.atCursor j = j.val)

/-- `tracesNumbers`, as facts. -/
structure TracesNumbers (s : TracedLoops ℚ) : Prop where
  point : s.loops.controller.point = .tracing
  plays : s.c.playbackMotion.timesteps ≠ 0
  command : ∃ cmd, s.command = some (.policy, cmd)
  joints : ∀ j, s.atCursor j = j.val

theorem tracesNumbers_of {s : TracedLoops ℚ} (h : s.tracesNumbers = true) : TracesNumbers s := by
  unfold tracesNumbers at h
  simp only [Bool.and_eq_true, decide_eq_true_iff, Option.any_eq_true, List.all_eq_true,
    List.mem_finRange, forall_const] at h
  obtain ⟨⟨⟨hpoint, hplays⟩, ⟨w, cmd⟩, hcommand, rfl⟩, hjoints⟩ := h
  refine ⟨?_, hplays, ⟨cmd, hcommand⟩, hjoints⟩
  cases hp : s.loops.controller.point with
  | tracing => rfl
  | _ => simp [hp] at hpoint

theorem numberedRun_traces : ∃ s : TracedLoops ℚ,
    Transition.Reachable step Transition.Always (start true) s ∧ TracesNumbers s := by
  have hrun : (Transition.run step (start true) numberedRun).any tracesNumbers = true := by
    decide +kernel
  obtain ⟨s, hs, hnumbers⟩ := Transition.reachable_of_run_any hrun
  exact ⟨s, hs, tracesNumbers_of hnumbers⟩

/-! ## Over every run -/

/-- **The trace's joint order.** A row of any run is in the declared order at index `j` exactly
where nothing is played or the planner has the same value for MuJoCo joints `j` and
`mujoco_to_isaaclab[j]` at the cursor. So it always is at the two indices that both orders share. -/
theorem trace_joint_order {s : TracedLoops K} {r : TraceReads K} {auto : Bool}
    (h : Transition.Reachable step Transition.Always (start auto) s) (hr : Traced s.c r)
    (row : Nat → K) (j : Fin 29) :
    (DeclaredOrder s r (fill r row).row j ↔
      s.c.playbackMotion.timesteps = 0 ∨ s.atCursor (mujocoToIsaaclab j) = s.atCursor j) ∧
      (j = 0 ∨ j = 28 → DeclaredOrder s r (fill r row).row j) := by
  have hiff := (TraceInv.of_reachable h).declaredOrder_iff hr row j
  refine ⟨hiff.trans Decidable.or_iff_not_imp_left.symm, fun hfixed => hiff.mpr fun _ => ?_⟩
  rw [mujocoToIsaaclab_eq_self.mpr hfixed]

/-- The last joint of the numbered plan. -/
theorem trace_joint_order_last : ∃ s : TracedLoops ℚ,
    s.c.playbackMotion.timesteps ≠ 0 ∧ (∃ cmd, s.command = some (.policy, cmd)) ∧
      DeclaredOrder s (recordReads s.c) (fill (recordReads s.c) fun _ => 0).row 28 := by
  obtain ⟨s, hs, hnumbers⟩ := numberedRun_traces
  have hlast := (trace_joint_order hs (traced_recordReads s.c) (fun _ => 0) 28).2 (Or.inr rfl)
  exact ⟨s, hnumbers.plays, hnumbers.command, hlast⟩

/-- Every other column has the number of another joint. -/
theorem numbered_joints_permuted : ∃ s : TracedLoops ℚ,
    Transition.Reachable step Transition.Always (start true) s ∧
      s.loops.controller.point = .tracing ∧ Traced s.c (recordReads s.c) ∧
      (∀ j, s.atCursor j = j.val) ∧
      (∀ j, cell (fill (recordReads s.c) fun _ => 0).row "planner_q" j =
        (mujocoToIsaaclab j).val) ∧
      ∀ j, j ≠ 0 → j ≠ 28 →
        ¬ DeclaredOrder s (recordReads s.c) (fill (recordReads s.c) fun _ => 0).row j := by
  obtain ⟨s, hs, hnumbers⟩ := numberedRun_traces
  have hinv := TraceInv.of_reachable hs
  have htraced := traced_recordReads s.c
  have hcell : ∀ j, cell (fill (recordReads s.c) fun _ => 0).row "planner_q" j =
      (mujocoToIsaaclab j).val := by
    intro j
    rw [hinv.cell_planner htraced _ j hnumbers.plays]
    exact hnumbers.joints _
  refine ⟨s, hs, hnumbers.point, htraced, hnumbers.joints, hcell, fun j hzero hlast horder => ?_⟩
  have hvalue := horder.planner hnumbers.plays
  rw [hcell j, hnumbers.joints j, Nat.cast_inj, Fin.val_inj] at hvalue
  exact (mujocoToIsaaclab_eq_self.mp hvalue).elim hzero hlast

end TracedLoops

end Gearsonic
