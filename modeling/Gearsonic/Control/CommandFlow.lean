import Gearsonic.Control.TickFrame

/-!
# What a tick stores

Every part of a tick stores at most one motor command. `Stores c c' out` says that going
from `c` to `c'` stored exactly the command `out`, and that it left the members of the
LowState-loss policy alone. There is one lemma for each function of the tick;
`stores_tickControl` and `loopIteration_cases` are what the later modules use.
-/

set_option linter.unusedSectionVars false

namespace Gearsonic

namespace WholeBodyController

variable {K : Type} [Field K] [LinearOrder K] [CMath K]

/-- The motor command that an output stores, and the path it comes from. -/
def Output.command : Output K → Option (Writer × MotorCommand K)
  | .motorCommand w cmd => some (w, cmd)
  | _ => none

/-- The motor commands of the tick in progress. -/
def commands (c : WholeBodyController K) : List (Writer × MotorCommand K) :=
  c.outputs.filterMap Output.command

structure Stores (c c' : WholeBodyController K) (out : Option (Writer × MotorCommand K)) :
    Prop where
  commands : c'.commands = c.commands ++ out.toList
  data : c'.motorCommandBuf.data = (out.map Prod.snd).or c.motorCommandBuf.data
  missing : c'.stateMissingTicks = c.stateMissingTicks
  rampFrom : c'.baseRampFrom = c.baseRampFrom
  control : c.state = .control → c'.state = .control

section

variable {a b c c' : WholeBodyController K} {out : Option (Writer × MotorCommand K)}

theorem Stores.trans (h : Stores a b none) (h' : Stores b c out) : Stores a c out where
  commands := by rw [h'.commands, h.commands, Option.toList_none, List.append_nil]
  data := by rw [h'.data, h.data, Option.map_none, Option.none_or]
  missing := h'.missing.trans h.missing
  rampFrom := h'.rampFrom.trans h.rampFrom
  control := fun hc => h'.control (h.control hc)

theorem Stores.andThen (h : Stores a b out) (h' : Stores b c none) : Stores a c out where
  commands := by rw [h'.commands, h.commands, Option.toList_none, List.append_nil]
  data := by rw [h'.data, h.data, Option.map_none, Option.none_or]
  missing := h'.missing.trans h.missing
  rampFrom := h'.rampFrom.trans h.rampFrom
  control := fun hc => h'.control (h.control hc)

/-- A step that touches neither the outputs nor the loss policy. -/
theorem Stores.of_frame (hout : c'.outputs = c.outputs)
    (hbuf : c'.motorCommandBuf = c.motorCommandBuf)
    (hmiss : c'.stateMissingTicks = c.stateMissingTicks)
    (hramp : c'.baseRampFrom = c.baseRampFrom) (hstate : c'.state = c.state) :
    Stores c c' none where
  commands := by simp only [WholeBodyController.commands, hout, Option.toList_none,
    List.append_nil]
  data := by rw [hbuf, Option.map_none, Option.none_or]
  missing := hmiss
  rampFrom := hramp
  control := fun hc => hstate.trans hc

/-- A step whose only output is not a motor command. -/
theorem Stores.of_emit {o : Output K} (ho : o.command = none)
    (hout : c'.outputs = c.outputs ++ [o]) (hbuf : c'.motorCommandBuf = c.motorCommandBuf)
    (hmiss : c'.stateMissingTicks = c.stateMissingTicks)
    (hramp : c'.baseRampFrom = c.baseRampFrom) (hstate : c'.state = c.state) :
    Stores c c' none where
  commands := by simp [WholeBodyController.commands, hout, ho]
  data := by rw [hbuf, Option.map_none, Option.none_or]
  missing := hmiss
  rampFrom := hramp
  control := fun hc => hstate.trans hc

theorem Stores.refl (c : WholeBodyController K) : Stores c c none :=
  .of_frame rfl rfl rfl rfl rfl

end

section

variable (c : WholeBodyController K) (r : TickReads K)

theorem stores_publish (w : Writer) (cmd : MotorCommand K) (now : TimePoint) :
    Stores c (c.publish w cmd now) (some (w, cmd)) where
  commands := by simp [commands, publish, emit, Output.command]
  data := rfl
  missing := rfl
  rampFrom := rfl
  control := id

theorem stores_enterOrigin : Stores c c.enterOrigin none :=
  .of_emit  rfl rfl rfl rfl rfl rfl

theorem stores_advancePlayback (plan : TimestampedData (MotionSequence50Hz K)) :
    Stores c (c.advancePlayback plan) none := by
  obtain ⟨_, _, _, _, _, h⟩ := c.advancePlayback_frame plan
  rw [h]
  exact .of_frame rfl rfl rfl rfl rfl

/-! ## The owner's part -/

/-- What the decoder makes of the tick's token. -/
def TickReads.policyOut (r : TickReads K) : Option (Writer × MotorCommand K) :=
  r.decoderOut.map fun action => (.policy, PolicyDecoder.toMotorCommand action)

theorem stores_selectToken (e v : Option (Token K)) :
    Stores c (c.selectToken e v).1 none := .of_frame rfl rfl rfl rfl rfl

theorem stores_publishDecoded (token : Token K) (encoderRan : Bool) :
    (c.publishDecoded token encoderRan r = none ∧ r.policyOut = none) ∨
      ∃ c', c.publishDecoded token encoderRan r = some c' ∧ r.policyOut.isSome = true ∧
        Stores c c' r.policyOut := by
  cases hout : r.decoderOut with
  | none =>
    left
    simp [publishDecoded, PolicyDecoder.step, TickReads.policyOut, hout]
  | some action =>
    right
    simp only [publishDecoded, PolicyDecoder.step, TickReads.policyOut, hout, Option.map_some]
    refine ⟨_, rfl, rfl, ?_⟩
    have hdecoder : Stores c { c with decoder := ⟨action⟩ } none := .of_frame rfl rfl rfl rfl rfl
    have hpublish := hdecoder.trans
      (stores_publish _ .policy (PolicyDecoder.toMotorCommand action) r.now)
    exact hpublish.andThen (.of_emit rfl rfl rfl rfl rfl rfl)

theorem stores_decodeAndPublish (token : Token K) :
    Stores c (c.decodeAndPublish token r) r.policyOut := by
  unfold decodeAndPublish
  rcases stores_publishDecoded c r token false with ⟨hnone, hout⟩ | ⟨c', hsome, -, hst⟩
  · rw [hnone, hout]
    exact .refl c
  · rw [hsome]
    exact hst

theorem stores_tickVla :
    Stores c (c.tickVla r) (r.vlaData.bind fun _ => r.policyOut) := by
  unfold tickVla
  cases r.vlaData with
  | none => exact .refl c
  | some vla => exact (stores_selectToken c none _).trans (stores_decodeAndPublish _ r _)

theorem stores_requestRecoveryReseed (ticket : Nat) :
    Stores c (c.requestRecoveryReseed ticket) none :=
  .of_emit  rfl rfl rfl rfl rfl rfl

theorem stores_tickRecovery : Stores c (c.tickRecovery r) r.policyOut := by
  unfold tickRecovery
  refine (stores_selectToken c none none).trans ?_
  dsimp only
  split
  · exact (stores_requestRecoveryReseed _ _).trans (stores_decodeAndPublish _ r _)
  · exact stores_decodeAndPublish _ r _

theorem stores_vr3Edge (present : Bool) : Stores c (c.vr3Edge present) none := by
  unfold vr3Edge
  split <;> exact .of_frame rfl rfl rfl rfl rfl

theorem stores_smplEdge (present : Bool) : Stores c (c.smplEdge present) none := by
  unfold smplEdge
  split
  · exact .of_emit  rfl rfl rfl rfl rfl rfl
  · exact .refl c

/-- The encoder path reaches its end exactly when it stores a command. -/
theorem stores_tickEncoder :
    Stores c (c.tickEncoder r).1 (r.encoderOut.bind fun _ => r.policyOut) ∧
      (c.tickEncoder r).2 = (r.encoderOut.bind fun _ => r.policyOut).isSome := by
  have hedges := (stores_vr3Edge c r.vr3point.isSome).trans (stores_smplEdge _ r.smpl.isSome)
  unfold tickEncoder
  dsimp only [TokenEncoder.step]
  cases r.encoderOut with
  | none => exact ⟨hedges.trans (.of_frame rfl rfl rfl rfl rfl), rfl⟩
  | some token =>
    dsimp only [Option.bind_some]
    generalize hsel : selectToken _ (some token) none = sel
    have hst : Stores c sel.1 none := by
      rw [← hsel]
      exact hedges.trans (.of_frame rfl rfl rfl rfl rfl)
    rcases stores_publishDecoded sel.1 r sel.2 true with ⟨hnone, hout⟩ | ⟨c', hsome, hout, hst'⟩
    · rw [hnone, hout]
      exact ⟨hst, rfl⟩
    · rw [hsome, hout]
      exact ⟨hst.trans hst', rfl⟩

theorem stores_tickPlayback :
    Stores c (c.tickPlayback r)
      (if c.playbackMotion.timesteps = 0 then none
        else r.encoderOut.bind fun _ => r.policyOut) := by
  unfold tickPlayback
  split
  · exact stores_advancePlayback c _
  · dsimp only
    split
    · exact (stores_tickEncoder c r).1.andThen (stores_advancePlayback _ _)
    · exact (stores_tickEncoder c r).1

/-- The command of the owner's part of a tick. -/
def ownerOut (mode : Mode) (playbackEmpty : Bool) (r : TickReads K) :
    Option (Writer × MotorCommand K) :=
  match mode with
  | .vla => r.vlaData.bind fun _ => r.policyOut
  | .recovering => r.policyOut
  | .normal | .teleop => if playbackEmpty then none else r.encoderOut.bind fun _ => r.policyOut

theorem stores_tickOwner :
    Stores c (c.tickOwner r)
      (ownerOut c.arbiter.mode (decide (c.playbackMotion.timesteps = 0)) r) := by
  unfold tickOwner
  cases c.arbiter.mode with
  | vla => exact stores_tickVla c r
  | recovering => exact stores_tickRecovery c r
  | normal => simpa [ownerOut] using stores_tickPlayback c r
  | teleop => simpa [ownerOut] using stores_tickPlayback c r

/-! ## The whole tick -/

theorem stores_decideOwner : Stores c (c.decideOwner r) none := by
  unfold decideOwner
  dsimp only
  split
  · split
    · exact .of_emit rfl rfl rfl rfl rfl rfl
    · exact .of_frame rfl rfl rfl rfl rfl
    · exact .of_frame rfl rfl rfl rfl rfl
    · exact .of_frame rfl rfl rfl rfl rfl
  · exact .of_frame rfl rfl rfl rfl rfl

@[simp] theorem decideOwner_mode : (c.decideOwner r).arbiter.mode = (c.stepArbiter r).mode := by
  obtain ⟨_, _, h⟩ := c.decideOwner_frame r
  rw [h]

theorem stores_updateArbiter : Stores c (c.updateArbiter r) none := by
  unfold updateArbiter
  split
  · exact (stores_decideOwner c r).trans (stores_enterOrigin _)
  · exact stores_decideOwner c r

theorem updateArbiter_mode : (c.updateArbiter r).arbiter.mode = (c.stepArbiter r).mode := by
  unfold updateArbiter
  split
  · exact decideOwner_mode c r
  · exact decideOwner_mode c r

/-- After the arbiter the playback is empty where it was, or where the recovery ended. -/
theorem updateArbiter_playback :
    decide ((c.updateArbiter r).playbackMotion.timesteps = 0) =
      (c.leavesRecovery r || decide (c.playbackMotion.timesteps = 0)) := by
  unfold updateArbiter
  cases c.leavesRecovery r with
  | true => rfl
  | false =>
    obtain ⟨_, _, h⟩ := c.decideOwner_frame r
    rw [if_neg Bool.false_ne_true, h, Bool.false_or]

/-- The command of a CONTROL tick. -/
def controlOut (c : WholeBodyController K) (r : TickReads K) :
    Option (Writer × MotorCommand K) :=
  match r.robotState with
  | none => none
  | some st =>
    if overLimit st || c.awaitsReseed r.stateReinitDone then none
    else ownerOut (c.stepArbiter r).mode
      (c.leavesRecovery r || decide (c.playbackMotion.timesteps = 0)) r

theorem stores_tickControl : Stores c (c.tickControl r) (c.controlOut r) := by
  unfold tickControl controlOut gatherRobotState
  cases r.robotState with
  | none => exact .refl c
  | some st =>
    dsimp only
    cases overLimit st with
    | true => exact .refl c
    | false =>
      simp only [Bool.false_eq_true, if_false, Bool.false_or]
      have hlog : Stores c { c with logger := c.logger.log (c.loggerEntry st) } none :=
        .of_frame rfl rfl rfl rfl rfl
      rw [show awaitsReseed { c with logger := c.logger.log (c.loggerEntry st) }
        r.stateReinitDone = c.awaitsReseed r.stateReinitDone from rfl]
      cases c.awaitsReseed r.stateReinitDone with
      | true => exact hlog
      | false =>
        have hgo : Stores c { { c with logger := c.logger.log (c.loggerEntry st) } with
          stateReseedTicket := 0 } none := .of_frame rfl rfl rfl rfl rfl
        have howner := stores_tickOwner (updateArbiter { { c with
          logger := c.logger.log (c.loggerEntry st) } with stateReseedTicket := 0 } r) r
        rw [updateArbiter_mode, updateArbiter_playback] at howner
        exact (hgo.trans (stores_updateArbiter _ r)).trans howner

/-- The command of the INIT ramp. -/
def initOut (c : WholeBodyController K) (r : TickReads K) : Option (Writer × MotorCommand K) :=
  r.robotState.map fun st =>
    (.initRamp, .withPolicyGains (rampTarget (fun i => (st.motors i).q)
      (clamp ((c.initTicks : K) / kInitTicks) 0 1)))

theorem stores_tickInit (h : c.state = .init) (now : TimePoint) :
    Stores c (c.tickInit r.robotState now) (c.initOut r) := by
  unfold tickInit initOut
  cases r.robotState with
  | none => exact .refl c
  | some st =>
    have hpub := stores_publish c .initRamp (.withPolicyGains (rampTarget
      (fun i => (st.motors i).q) (clamp ((c.initTicks : K) / kInitTicks) 0 1))) now
    dsimp only [Option.map_some]
    split
    · exact ⟨hpub.commands, hpub.data, hpub.missing, hpub.rampFrom,
        fun hc => State.noConfusion (h.symm.trans hc)⟩
    · exact hpub.andThen (.of_frame rfl rfl rfl rfl rfl)

/-- The command of the switch over the state. -/
def stateOut (c : WholeBodyController K) (r : TickReads K) : Option (Writer × MotorCommand K) :=
  match c.state with
  | .init => c.initOut r
  | .control => c.controlOut r
  | .waitForControl | .estop => none

theorem stores_tickState : Stores c (c.tickState r) (c.stateOut r) := by
  unfold tickState stateOut
  cases hs : c.state with
  | init => exact stores_tickInit c r hs r.now
  | waitForControl =>
    unfold tickWait
    dsimp only
    split
    · exact ⟨(Stores.refl c).commands, (Stores.refl c).data, rfl, rfl, fun _ => rfl⟩
    · exact .refl c
  | control => exact stores_tickControl c r
  | estop => exact .refl c

theorem stores_traceTick (enabled : Bool) : Stores c (c.traceTick enabled) none := by
  unfold traceTick
  split
  · exact .of_emit rfl rfl rfl rfl rfl rfl
  · exact .refl c

theorem stores_tickRecovered (ticket : Nat) :
    Stores { c with stateMissingTicks := 0 } (c.tickRecovered ticket) none := by
  unfold tickRecovered
  split
  · have horigin := stores_enterOrigin { c with stateMissingTicks := 0 }
    exact horigin.trans (.of_emit rfl rfl rfl rfl rfl rfl)
  · exact .refl _

@[simp] theorem tickRecovered_state (ticket : Nat) :
    (c.tickRecovered ticket).state = c.state := by
  unfold tickRecovered
  split <;> rfl

/-- A missing tick stores the base hold, beyond the grace window. -/
theorem tickMissing_commands (now : TimePoint) (hout : c.outputs = []) :
    (c.tickMissing now).commands =
      if kStateGraceTicks ≤ c.stateMissingTicks then
        [(Writer.baseHold, .withPolicyGains
          (rampTarget (c.tickMissing now).baseRampFrom.qTarget
            (baseRampRatio (c.stateMissingTicks + 1))))]
      else [] := by
  unfold tickMissing
  dsimp only
  by_cases hgrace : kStateGraceTicks ≤ c.stateMissingTicks
  · have hlt : kStateGraceTicks < c.stateMissingTicks + 1 := Nat.lt_succ_of_le hgrace
    simp only [hlt, hgrace, if_true]
    split <;> simp [publishBaseHold, publish, emit, commands, Output.command, hout]
  · have hlt : ¬ kStateGraceTicks < c.stateMissingTicks + 1 := fun h =>
      hgrace (Nat.le_of_lt_succ h)
    simp [hlt, hgrace, commands, hout]

/-- The controller as a tick with LowState present goes on with it. -/
def resumed (c : WholeBodyController K) (r : TickReads K) : WholeBodyController K :=
  ({ c with outputs := [] }).tickRecovered r.stateTicket

/-- **The tick, by its three ways.** It starts from empty outputs, so what it stores is all
that it lists. -/
theorem loopIteration_cases :
    (r.estop = true ∧ c.loopIteration r = ({ c with outputs := [] }).tickEstop r.now) ∨
      (r.estop = false ∧ checkSafety r.lowState r.now = false ∧
        c.loopIteration r = ({ c with outputs := [] }).tickMissing r.now) ∨
      (r.estop = false ∧ checkSafety r.lowState r.now = true ∧
        Stores { c with outputs := [], stateMissingTicks := 0 } (c.loopIteration r)
          ((c.resumed r).stateOut r)) := by
  unfold loopIteration
  cases r.estop with
  | true => exact Or.inl ⟨rfl, rfl⟩
  | false =>
    right
    cases hsafe : checkSafety r.lowState r.now with
    | false => exact Or.inl ⟨rfl, rfl, rfl⟩
    | true =>
      right
      refine ⟨rfl, rfl, ?_⟩
      have hrec := stores_tickRecovered { c with outputs := [] } r.stateTicket
      exact (hrec.trans (stores_tickState _ r)).andThen (stores_traceTick _ _)

end

/-- A tick that finds everything in order: the robot stands, a plan is there, and both
engines answer. -/
def healthyTick : TickReads ℚ :=
  { now := 1
    lowState := ⟨some {}, 1⟩
    robotState := some {}
    encoderOut := some fun _ => 0
    decoderOut := some fun _ => 0
    plan := ⟨some { frames := [{}, {}] }, 1⟩ }

end WholeBodyController

end Gearsonic
