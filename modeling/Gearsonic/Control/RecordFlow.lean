import Gearsonic.Control.CommandFlow

/-!
# What a tick records

Two other modules keep a record of the loop: the token stream and the trace. `Records c c'`
says what going from `c` to `c'` adds to them. A token sample comes with every policy
command and with nothing else, under the next sequence number; a trace row comes from
`trace_tick` alone. There is one lemma for each function of the tick, as for the commands;
`iteration_samples` and `iteration_rows` are what the later modules use.
-/

set_option linter.unusedSectionVars false

namespace Gearsonic

namespace WholeBodyController

variable {K : Type} [Field K] [LinearOrder K] [CMath K]

/-! ## Records -/

def Output.sample : Output K → Option (MotionTokenSample K)
  | .motionToken s => some s
  | _ => none

def Output.row : Output K → Option (TickInfo K)
  | .trace info => some info
  | _ => none

/-- The token samples of the tick in progress. -/
def samples (c : WholeBodyController K) : List (MotionTokenSample K) :=
  c.outputs.filterMap Output.sample

/-- The rows that `StateTrace::record` is called with in the tick in progress. -/
def rows (c : WholeBodyController K) : List (TickInfo K) := c.outputs.filterMap Output.row

/-- The policy commands of the tick in progress. -/
def policies (c : WholeBodyController K) : List (Writer × MotorCommand K) :=
  c.commands.filter fun command => command.1 = .policy

/-- An output that neither records anything nor is a policy command. -/
def Output.plain : Output K → Bool
  | .motorCommand w _ => w ≠ .policy
  | .motionToken _ | .trace _ => false
  | _ => true

/-- The samples taken from one controller to another, a policy command for each. -/
structure Takes (a b : WholeBodyController K) (taken : List (MotionTokenSample K)) : Prop where
  samples : b.samples = a.samples ++ taken
  tokenSeq : b.tokenSeq = a.tokenSeq + taken.length
  seqs : taken.map MotionTokenSample.seq = List.range' (a.tokenSeq + 1) taken.length
  policies : b.policies.length = a.policies.length + taken.length

structure Records (a b : WholeBodyController K) : Prop where
  takes : ∃ taken, Takes a b taken
  rows : b.rows = a.rows

variable {a b c c' : WholeBodyController K}

theorem Takes.trans {xs ys : List (MotionTokenSample K)} (h : Takes a b xs) (h' : Takes b c ys) :
    Takes a c (xs ++ ys) where
  samples := by rw [h'.samples, h.samples, List.append_assoc]
  tokenSeq := by rw [h'.tokenSeq, h.tokenSeq, List.length_append, Nat.add_assoc]
  seqs := by
    rw [List.map_append, h.seqs, h'.seqs, h.tokenSeq, List.length_append, ← List.range'_append_1]
    congr 2
    omega
  policies := by rw [h'.policies, h.policies, List.length_append, Nat.add_assoc]

theorem Records.trans (h : Records a b) (h' : Records b c) : Records a c := by
  obtain ⟨xs, hx⟩ := h.takes
  obtain ⟨ys, hy⟩ := h'.takes
  exact ⟨⟨xs ++ ys, hx.trans hy⟩, h'.rows.trans h.rows⟩

/-- A step that touches neither the outputs nor the sequence number. -/
theorem Records.of_frame (hout : c'.outputs = c.outputs) (hseq : c'.tokenSeq = c.tokenSeq) :
    Records c c' where
  takes := by
    refine ⟨[], ?_, hseq, rfl, ?_⟩
    · simp [samples, hout]
    · simp [policies, commands, hout]
  rows := by simp [WholeBodyController.rows, hout]

theorem Records.refl (c : WholeBodyController K) : Records c c := .of_frame rfl rfl

theorem Records.of_emit {o : Output K} (ho : o.plain = true)
    (hout : c'.outputs = c.outputs ++ [o]) (hseq : c'.tokenSeq = c.tokenSeq) : Records c c' := by
  cases o with
  | motionToken s => cases ho
  | trace info => cases ho
  | motorCommand w cmd =>
    have hw : w ≠ .policy := of_decide_eq_true ho
    refine ⟨⟨[], ?_, hseq, rfl, ?_⟩, ?_⟩
    · simp [samples, hout, Output.sample]
    · simp [policies, commands, hout, Output.command, hw]
    · simp [WholeBodyController.rows, hout, Output.row]
  | _ =>
    refine ⟨⟨[], ?_, hseq, rfl, ?_⟩, ?_⟩
    · simp [samples, hout, Output.sample]
    · simp [policies, commands, hout, Output.command]
    · simp [WholeBodyController.rows, hout, Output.row]

/-- A policy command and its sample. -/
theorem Records.of_sample {cmd : MotorCommand K} {s : MotionTokenSample K}
    (hout : c'.outputs = c.outputs ++ [.motorCommand .policy cmd, .motionToken s])
    (hseq : s.seq = c.tokenSeq + 1) (hnext : c'.tokenSeq = c.tokenSeq + 1) : Records c c' where
  takes := by
    refine ⟨[s], ?_, hnext, congrArg (fun n => [n]) hseq, ?_⟩
    · simp only [samples, hout, List.filterMap_append]
      rfl
    · simp [policies, commands, hout, Output.command]
  rows := by simp [WholeBodyController.rows, hout, Output.row]

/-! ## The owner's part -/

section

variable (c : WholeBodyController K) (r : TickReads K)

theorem records_publish {w : Writer} (hw : w ≠ .policy) (cmd : MotorCommand K) (now : TimePoint) :
    Records c (c.publish w cmd now) :=
  .of_emit (o := .motorCommand w cmd) (decide_eq_true hw) rfl rfl

/-- A policy command is published together with a sample. -/
theorem records_publishDecoded {token : Token K} {encoderRan : Bool}
    (h : c.publishDecoded token encoderRan r = some c') : Records c c' := by
  unfold publishDecoded at h
  split at h
  · cases h
  · cases h
    exact .of_sample (List.append_assoc _ _ _) rfl rfl

theorem records_decodeAndPublish (token : Token K) : Records c (c.decodeAndPublish token r) := by
  unfold decodeAndPublish
  cases h : c.publishDecoded token false r with
  | none => exact .refl c
  | some c' => exact records_publishDecoded c r h

theorem records_tickVla : Records c (c.tickVla r) := by
  unfold tickVla
  cases r.vlaData with
  | none => exact .refl c
  | some vla =>
    have hselect : Records c (c.selectToken none (some vla.token)).1 := .of_frame rfl rfl
    exact hselect.trans (records_decodeAndPublish _ r _)

theorem records_tickRecovery : Records c (c.tickRecovery r) := by
  have hselect : Records c (c.selectToken none none).1 := .of_frame rfl rfl
  unfold tickRecovery
  refine hselect.trans ?_
  dsimp only
  split
  · have hask : Records (c.selectToken none none).1
        ((c.selectToken none none).1.requestRecoveryReseed r.recoveryTicket) :=
      .of_emit (o := .requestReinit) rfl rfl rfl
    exact hask.trans (records_decodeAndPublish _ r _)
  · exact records_decodeAndPublish _ r _

theorem records_edges (vr3 smpl : Bool) : Records c ((c.vr3Edge vr3).smplEdge smpl) := by
  have hvr3 : Records c (c.vr3Edge vr3) := by
    unfold vr3Edge
    split <;> exact .of_frame rfl rfl
  apply hvr3.trans
  unfold smplEdge
  split
  · exact .of_emit (o := .disarm) rfl rfl rfl
  · exact .refl _

theorem records_tickEncoder : Records c (c.tickEncoder r).1 := by
  have hedges := records_edges c r.vr3point.isSome r.smpl.isSome
  unfold tickEncoder
  dsimp only [TokenEncoder.step]
  cases r.encoderOut with
  | none => exact hedges.trans (.of_frame rfl rfl)
  | some token =>
    dsimp only
    split
    · exact hedges.trans (.of_frame rfl rfl)
    · rename_i hsome
      apply hedges.trans
      refine Records.trans ?_ (records_publishDecoded _ r hsome)
      exact .of_frame rfl rfl

theorem records_advancePlayback (plan : TimestampedData (MotionSequence50Hz K)) :
    Records c (c.advancePlayback plan) := by
  obtain ⟨_, _, _, _, _, h⟩ := c.advancePlayback_frame plan
  rw [h]
  exact .of_frame rfl rfl

theorem records_tickPlayback : Records c (c.tickPlayback r) := by
  unfold tickPlayback
  dsimp only
  split
  · exact records_advancePlayback c _
  · split
    · exact (records_tickEncoder c r).trans (records_advancePlayback _ _)
    · exact records_tickEncoder c r

theorem records_tickOwner : Records c (c.tickOwner r) := by
  unfold tickOwner
  cases c.arbiter.mode with
  | vla => exact records_tickVla c r
  | recovering => exact records_tickRecovery c r
  | normal => exact records_tickPlayback c r
  | teleop => exact records_tickPlayback c r

/-! ## The tick -/

theorem records_decideOwner : Records c (c.decideOwner r) := by
  unfold decideOwner
  dsimp only
  split
  · split
    · exact .of_emit (o := .resetCalibration) rfl rfl rfl
    · exact .of_frame rfl rfl
    · exact .of_frame rfl rfl
    · exact .of_frame rfl rfl
  · exact .of_frame rfl rfl

theorem records_enterOrigin : Records c c.enterOrigin := .of_emit (o := .disarm) rfl rfl rfl

theorem records_updateArbiter : Records c (c.updateArbiter r) := by
  unfold updateArbiter
  split
  · exact (records_decideOwner c r).trans (records_enterOrigin _)
  · exact records_decideOwner c r

theorem records_tickControl : Records c (c.tickControl r) := by
  unfold tickControl gatherRobotState
  cases r.robotState with
  | none => exact .refl c
  | some st =>
    dsimp only
    cases overLimit st with
    | true => exact .refl c
    | false =>
      simp only [Bool.false_eq_true, if_false]
      split
      · exact .of_frame rfl rfl
      · have hstart : Records c
            { c with logger := c.logger.log (c.loggerEntry st), stateReseedTicket := 0 } :=
          .of_frame rfl rfl
        exact (hstart.trans (records_updateArbiter _ r)).trans (records_tickOwner _ r)

theorem records_tickInit (robotState : Option (UnitreeState K)) (now : TimePoint) :
    Records c (c.tickInit robotState now) := by
  unfold tickInit
  cases robotState with
  | none => exact .refl c
  | some st =>
    have hramp : ∀ cmd, Records c (c.publish .initRamp cmd now) :=
      fun cmd => records_publish c (by decide) cmd now
    dsimp only
    split
    · exact (hramp _).trans (.of_frame rfl rfl)
    · exact (hramp _).trans (.of_frame rfl rfl)

theorem records_tickState : Records c (c.tickState r) := by
  unfold tickState
  cases c.state with
  | init => exact records_tickInit c _ _
  | control => exact records_tickControl c r
  | estop => exact .refl c
  | waitForControl =>
    unfold tickWait
    dsimp only
    split <;> exact .of_frame rfl rfl

theorem records_tickRecovered (ticket : Nat) : Records c (c.tickRecovered ticket) := by
  unfold tickRecovered
  split
  · exact (records_enterOrigin c).trans (.of_emit (o := .requestReinit) rfl rfl rfl)
  · exact .of_frame rfl rfl

theorem records_tickMissing (now : TimePoint) : Records c (c.tickMissing now) := by
  unfold tickMissing
  dsimp only
  split
  · have hhold : ∀ (c : WholeBodyController K) cmd, Records c (c.publish .baseHold cmd now) :=
      fun c cmd => records_publish c (by decide) cmd now
    refine Records.trans ?_ (hhold _ _)
    split <;> exact .of_frame rfl rfl
  · exact .of_frame rfl rfl

theorem records_tickEstop (now : TimePoint) : Records c (c.tickEstop now) := by
  have hestop : Records c { c with state := .estop } := .of_frame rfl rfl
  exact hestop.trans (records_publish _ (by decide) _ now)

/-- A tick with LowState present, up to its trace row. -/
theorem records_resumed : Records { c with outputs := [] } ((c.resumed r).tickState r) :=
  (records_tickRecovered _ r.stateTicket).trans (records_tickState _ r)

/-! ## One iteration of the loop -/

/-- The branches that `continue` record no row; every other iteration records one. -/
theorem iteration_rows (htrace : r.traceEnabled = true) :
    (c.loopIteration r).rows.length =
      if r.estop = false ∧ checkSafety r.lowState r.now = true then 1 else 0 := by
  have hnone : ∀ {c' : WholeBodyController K}, Records { c with outputs := [] } c' →
      c'.rows = [] := fun h => h.rows
  unfold loopIteration
  dsimp only
  cases r.estop with
  | true => exact congrArg List.length (hnone (records_tickEstop _ r.now))
  | false =>
    cases checkSafety r.lowState r.now with
    | false => exact congrArg List.length (hnone (records_tickMissing _ r.now))
    | true =>
      have hrow : ∀ c : WholeBodyController K, (c.traceTick true).rows.length =
          c.rows.length + 1 := by
        intro c
        simp [traceTick, rows, emit, Output.row]
      rw [htrace]
      exact (hrow _).trans (congrArg (List.length · + 1) (hnone (c.records_resumed r)))

theorem takes_traceTick (enabled : Bool) : Takes c (c.traceTick enabled) [] := by
  unfold traceTick
  split
  · refine ⟨?_, rfl, rfl, ?_⟩
    · simp [samples, emit, Output.sample]
    · simp [policies, commands, emit, Output.command]
  · exact ⟨(List.append_nil _).symm, rfl, rfl, rfl⟩

/-- An iteration takes the samples of its policy commands and numbers them on. -/
theorem iteration_takes :
    Takes { c with outputs := [] } (c.loopIteration r) (c.loopIteration r).samples := by
  have hall : ∀ {c' : WholeBodyController K} {taken}, Takes { c with outputs := [] } c' taken →
      Takes { c with outputs := [] } c' c'.samples := by
    intro c' taken h
    have hsame : c'.samples = taken := h.samples
    rwa [hsame]
  unfold loopIteration
  dsimp only
  cases r.estop with
  | true =>
    obtain ⟨_, htaken⟩ := (records_tickEstop { c with outputs := [] } r.now).takes
    exact hall htaken
  | false =>
    cases checkSafety r.lowState r.now with
    | false =>
      obtain ⟨_, htaken⟩ := (records_tickMissing { c with outputs := [] } r.now).takes
      exact hall htaken
    | true =>
      obtain ⟨_, htaken⟩ := (c.records_resumed r).takes
      exact hall (htaken.trans (takes_traceTick _ r.traceEnabled))

end

end WholeBodyController

end Gearsonic
