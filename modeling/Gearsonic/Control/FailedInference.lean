import Gearsonic.Control.RecordFlow
import Gearsonic.Control.ReentryHandoff
import Gearsonic.Control.StaleTarget
import Mathlib.Data.Fintype.Basic

/-!
# The token blend and the decoder

`select_token` advances the blend and stores the held token before the decoder runs, on each of
the three paths of a CONTROL tick. When the inference fails, no command goes out, but the blend
has moved on and the held token was never commanded.

`BlendWatch` follows the loop and keeps what the stage would hold if only published commands
counted: the token of the last one, and the two counters.

* `loopIteration_arbiter`, `loopIteration_tokens`: an iteration selects at most one token, and
  publishes it if the decoder answers.
* `blend_untouched_iff`: the stage follows the published commands exactly in the runs in which
  the decoder fails only where nothing was to blend.
-/

set_option linter.unusedSectionVars false

namespace Gearsonic

variable {K : Type} [Field K] [LinearOrder K] [CMath K]

namespace WholeBodyController

/-! ## The commanded tokens of a tick -/

/-- The tokens of the policy commands of the tick in progress. -/
def tokens (c : WholeBodyController K) : List (Token K) :=
  c.samples.map MotionTokenSample.token

/-- The token is commanded if the decoder answers. -/
def TickReads.commanded (r : TickReads K) (token : Token K) : List (Token K) :=
  if r.decoderOut.isSome then [token] else []

variable {c c' : WholeBodyController K} {r : TickReads K}

theorem tokens_of_outputs (h : c'.outputs = c.outputs) : c'.tokens = c.tokens := by
  unfold tokens samples
  rw [h]

theorem tokens_emit {o : Output K} (ho : o.sample = none) : (c.emit o).tokens = c.tokens := by
  simp [tokens, samples, emit, ho]

theorem publishDecoded_eq_none {token : Token K} {encoderRan : Bool} :
    c.publishDecoded token encoderRan r = none ↔ r.decoderOut = none := by
  unfold publishDecoded PolicyDecoder.step
  cases r.decoderOut <;> simp

theorem publishDecoded_tokens {token : Token K} {encoderRan : Bool}
    (h : c.publishDecoded token encoderRan r = some c') :
    c'.tokens = c.tokens ++ r.commanded token := by
  have hsome : r.decoderOut.isSome = true := by
    rw [Option.isSome_iff_ne_none]
    intro hnone
    rw [publishDecoded_eq_none.mpr hnone] at h
    cases h
  unfold publishDecoded at h
  split at h
  · cases h
  · cases h
    unfold TickReads.commanded
    rw [if_pos hsome]
    simp only [tokens, samples, recordToken, publish, emit, List.append_assoc,
      List.filterMap_append, List.map_append]
    rfl

theorem decodeAndPublish_tokens (token : Token K) :
    (c.decodeAndPublish token r).tokens = c.tokens ++ r.commanded token := by
  unfold decodeAndPublish
  cases h : c.publishDecoded token false r with
  | none =>
    unfold TickReads.commanded
    rw [publishDecoded_eq_none.mp h]
    exact (List.append_nil _).symm
  | some c' => exact publishDecoded_tokens h

theorem edges_tokens : (c.edges r).tokens = c.tokens := by
  unfold edges vr3Edge smplEdge
  split
  · split
    · exact tokens_emit rfl
    · exact tokens_of_outputs rfl
  · split
    · exact tokens_emit rfl
    · rfl

theorem tickEncoder_tokens : (c.tickEncoder r).1.tokens = c.tokens ++
    r.encoderOut.elim [] fun token =>
      r.commanded ((c.edges r).arbiter.selectToken (some token) none).2 := by
  have hedges : (c.edges r).tokens = c.tokens := edges_tokens
  unfold tickEncoder TokenEncoder.step
  unfold edges at *
  dsimp only
  cases r.encoderOut with
  | none =>
    rw [Option.elim_none, List.append_nil, ← hedges]
    exact tokens_of_outputs rfl
  | some token =>
    dsimp only [Option.elim_some]
    rw [← hedges]
    cases h : publishDecoded _ _ true r with
    | none =>
      unfold TickReads.commanded
      rw [publishDecoded_eq_none.mp h]
      exact (List.append_nil _).symm
    | some c' =>
      have htokens := publishDecoded_tokens h
      exact htokens

theorem advancePlayback_tokens (plan : TimestampedData (MotionSequence50Hz K)) :
    (c.advancePlayback plan).tokens = c.tokens := by
  obtain ⟨_, _, _, _, _, h⟩ := c.advancePlayback_frame plan
  rw [h]
  exact tokens_of_outputs rfl

theorem tickPlayback_tokens : (c.tickPlayback r).tokens =
    if c.playbackMotion.timesteps = 0 then c.tokens else (c.tickEncoder r).1.tokens := by
  unfold tickPlayback
  split
  · exact advancePlayback_tokens _
  · dsimp only
    split
    · exact advancePlayback_tokens _
    · rfl

theorem tickPlayback_arbiter : (c.tickPlayback r).arbiter =
    if c.playbackMotion.timesteps = 0 then c.arbiter else (c.tickEncoder r).1.arbiter := by
  unfold tickPlayback
  split
  · exact advancePlayback_arbiter c r.plan
  · dsimp only
    split
    · exact advancePlayback_arbiter _ r.plan
    · rfl

/-! ## The owner's part -/

/-- The loop in front of the owner's part of its tick. -/
def deciding (c : WholeBodyController K) : ControllerThread K := ⟨c, .deciding⟩

/-- What the owner's part calls `select_token` with, if it does. -/
def chosen (c : WholeBodyController K) (r : TickReads K) :
    Option (Option (Token K) × Option (Token K)) :=
  c.deciding.selection r

/-- The stage in front of that call. -/
def stage (c : WholeBodyController K) (r : TickReads K) : ControlArbiter K := c.deciding.staged r

theorem tickOwner_arbiter : (c.tickOwner r).arbiter =
    (c.chosen r).elim (c.stage r) fun tokens =>
      ((c.stage r).selectToken tokens.1 tokens.2).1 := by
  unfold chosen stage
  rw [← ControllerThread.next_arbiter]
  unfold tickOwner deciding ControllerThread.next
  dsimp only
  cases hm : c.arbiter.mode with
  | vla => rfl
  | recovering =>
    dsimp only
    unfold tickRecovery
    dsimp only
    split
    · exact decodeAndPublish_arbiter _ r _
    · rfl
  | normal =>
    dsimp only
    rw [tickPlayback_arbiter]
    split <;> rfl
  | teleop =>
    dsimp only
    rw [tickPlayback_arbiter]
    split <;> rfl

theorem stage_of_inSession (hm : c.arbiter.mode.inSession = true) : c.stage r = c.arbiter := by
  unfold stage deciding ControllerThread.staged ControllerThread.onEncoderPath
  dsimp only
  rw [hm]
  rfl

theorem stage_of_playback (hm : c.arbiter.mode.inSession = false)
    (hne : c.playbackMotion.timesteps ≠ 0) : c.stage r = (c.edges r).arbiter := by
  rw [edges_arbiter]
  unfold stage deciding ControllerThread.staged ControllerThread.onEncoderPath
  dsimp only
  rw [hm, decide_eq_true hne]
  rfl

theorem tickVla_tokens : (c.tickVla r).tokens = c.tokens ++
    r.vlaData.elim [] fun vla =>
      r.commanded (c.arbiter.selectToken none (some vla.token)).2 := by
  unfold tickVla
  cases r.vlaData with
  | none => exact (List.append_nil _).symm
  | some vla => exact decodeAndPublish_tokens _

theorem tickRecovery_tokens : (c.tickRecovery r).tokens = c.tokens ++
    r.commanded (c.arbiter.selectToken none none).2 := by
  unfold tickRecovery
  dsimp only
  rw [decodeAndPublish_tokens]
  split
  · rw [requestRecoveryReseed, tokens_emit rfl]
    rfl
  · rfl

/-- The owner's part commands the token that it selects, if the decoder answers. -/
theorem tickOwner_tokens : (c.tickOwner r).tokens = c.tokens ++
    (c.chosen r).elim [] fun tokens =>
      r.commanded ((c.stage r).selectToken tokens.1 tokens.2).2 := by
  have hplayback : c.arbiter.mode.inSession = false → (c.tickPlayback r).tokens = c.tokens ++
      (if c.playbackMotion.timesteps = 0 then none
        else r.encoderOut.map fun token => (some token, (none : Option (Token K)))).elim []
        fun tokens => r.commanded ((c.stage r).selectToken tokens.1 tokens.2).2 := by
    intro hm
    rw [tickPlayback_tokens]
    by_cases hempty : c.playbackMotion.timesteps = 0
    · rw [if_pos hempty, if_pos hempty]
      exact (List.append_nil _).symm
    · rw [if_neg hempty, if_neg hempty, tickEncoder_tokens, stage_of_playback hm hempty]
      cases r.encoderOut <;> rfl
  unfold tickOwner chosen deciding ControllerThread.selection
  dsimp only
  cases hm : c.arbiter.mode with
  | vla =>
    have hstage : c.stage r = c.arbiter := stage_of_inSession (by rw [hm]; rfl)
    dsimp only
    rw [tickVla_tokens, hstage]
    cases r.vlaData <;> rfl
  | recovering =>
    have hstage : c.stage r = c.arbiter := stage_of_inSession (by rw [hm]; rfl)
    dsimp only
    rw [tickRecovery_tokens, hstage]
    rfl
  | normal => exact hplayback (by rw [hm]; rfl)
  | teleop => exact hplayback (by rw [hm]; rfl)

/-! ## The iteration -/

/-- The controller in front of the owner's part of its tick, where the iteration gets there. -/
def atOwner (c : WholeBodyController K) (r : TickReads K) : Option (WholeBodyController K) :=
  if r.estop || !checkSafety r.lowState r.now || decide (c.state ≠ .control) then none
  else
    ((c.resumed r).gatherRobotState r.robotState).bind fun c =>
      if c.awaitsReseed r.stateReinitDone then none
      else some (({ c with stateReseedTicket := 0 }).updateArbiter r)

theorem publish_tokens (w : Writer) (cmd : MotorCommand K) (now : TimePoint) :
    (c.publish w cmd now).tokens = c.tokens := by
  unfold publish
  rw [tokens_emit rfl]
  exact tokens_of_outputs rfl

theorem tickMissing_tokens (now : TimePoint) : (c.tickMissing now).tokens = c.tokens := by
  unfold tickMissing publishBaseHold
  dsimp only
  split
  · rw [publish_tokens]
    split <;> exact tokens_of_outputs rfl
  · exact tokens_of_outputs rfl

theorem tickState_tokens (hs : c.state ≠ .control) : (c.tickState r).tokens = c.tokens := by
  unfold tickState
  cases hstate : c.state with
  | control => exact absurd hstate hs
  | estop => rfl
  | waitForControl =>
    dsimp only
    unfold tickWait
    split
    · exact tokens_of_outputs rfl
    · rfl
  | init =>
    dsimp only
    unfold tickInit
    split
    · rfl
    · dsimp only
      split
      · exact publish_tokens _ _ _
      · exact publish_tokens _ _ _

theorem traceTick_tokens (enabled : Bool) : (c.traceTick enabled).tokens = c.tokens := by
  unfold traceTick
  split
  · exact tokens_emit rfl
  · rfl

theorem updateArbiter_arbiter : (c.updateArbiter r).arbiter = c.stepArbiter r := by
  rw [← decideOwner_arbiter]
  unfold updateArbiter
  split <;> rfl

theorem updateArbiter_tokens : (c.updateArbiter r).tokens = c.tokens := by
  have hdecide : (c.decideOwner r).tokens = c.tokens := by
    unfold decideOwner
    dsimp only
    split
    · split
      · exact tokens_emit rfl
      · exact tokens_of_outputs rfl
      · exact tokens_of_outputs rfl
      · exact tokens_of_outputs rfl
    · exact tokens_of_outputs rfl
  unfold updateArbiter
  split
  · unfold enterOrigin
    rw [tokens_emit rfl, ← hdecide]
    exact tokens_of_outputs rfl
  · exact hdecide

/-- What a tick with LowState present goes on with. -/
theorem resumed_facts : (c.resumed r).tokens = [] ∧ (c.resumed r).state = c.state ∧
    (c.resumed r).arbiter = c.arbiter ∧ (c.resumed r).stepArbiter r = c.stepArbiter r := by
  unfold resumed tickRecovered
  split
  · refine ⟨?_, rfl, rfl, rfl⟩
    unfold requestStateReseed enterOrigin
    rw [tokens_emit rfl]
    exact tokens_emit rfl
  · exact ⟨rfl, rfl, rfl, rfl⟩

theorem gatherRobotState_frame {robotState : Option (UnitreeState K)}
    (h : c.gatherRobotState robotState = some c') : ∃ logger, c' = { c with logger := logger } := by
  unfold gatherRobotState at h
  split at h
  · cases h
  · split at h
    · cases h
    · cases h
      exact ⟨_, rfl⟩

/-- An iteration that does not reach the owner's part leaves the stage alone and commands no
token. -/
theorem loopIteration_of_none (h : c.atOwner r = none) :
    (c.loopIteration r).arbiter = c.arbiter ∧ (c.loopIteration r).tokens = [] := by
  unfold loopIteration
  dsimp only
  cases hestop : r.estop with
  | true => exact ⟨rfl, publish_tokens _ _ _⟩
  | false =>
    cases hsafe : checkSafety r.lowState r.now with
    | false => exact ⟨tickMissing_arbiter _ _, tickMissing_tokens _⟩
    | true =>
      obtain ⟨htokens, hstate, harbiter, -⟩ := c.resumed_facts (r := r)
      simp only [Bool.false_eq_true, if_false, Bool.not_true]
      show ((c.resumed r).tickState r |>.traceTick r.traceEnabled).arbiter = c.arbiter ∧
        ((c.resumed r).tickState r |>.traceTick r.traceEnabled).tokens = []
      rw [traceTick_arbiter, traceTick_tokens]
      by_cases hs : c.state = .control
      · have htick : (c.resumed r).tickState r = (c.resumed r).tickControl r := by
          unfold tickState
          rw [hstate, hs]
        unfold atOwner at h
        simp only [hestop, hsafe, hs, ne_eq, not_true, decide_false, Bool.not_true, Bool.or_self,
          Bool.false_eq_true, if_false] at h
        rw [htick]
        unfold tickControl
        cases hgather : (c.resumed r).gatherRobotState r.robotState with
        | none => exact ⟨harbiter, htokens⟩
        | some c' =>
          obtain ⟨logger, rfl⟩ := gatherRobotState_frame hgather
          rw [hgather, Option.bind_some] at h
          dsimp only
          split
          · exact ⟨harbiter, htokens⟩
          · rename_i hgo
            rw [if_neg hgo] at h
            cases h
      · have hs' : (c.resumed r).state ≠ .control := by rwa [hstate]
        rw [tickState_arbiter _ _ hs', tickState_tokens hs']
        exact ⟨harbiter, htokens⟩

/-- An iteration that reaches the owner's part ends with it. -/
theorem loopIteration_of_some (h : c.atOwner r = some c') :
    (c.loopIteration r).arbiter = (c'.tickOwner r).arbiter ∧
      (c.loopIteration r).tokens = (c'.tickOwner r).tokens ∧
      c'.tokens = [] ∧ c'.arbiter = c.stepArbiter r := by
  unfold atOwner at h
  split at h
  · cases h
  · rename_i hreaches
    simp only [Bool.or_eq_true, Bool.not_eq_true', decide_eq_true_iff, not_or, ne_eq, not_not,
      Bool.not_eq_true, Bool.not_eq_false] at hreaches
    obtain ⟨⟨hestop, hsafe⟩, hs⟩ := hreaches
    obtain ⟨htokens, hstate, -, hstep⟩ := c.resumed_facts (r := r)
    obtain ⟨gathered, hgather, hgo⟩ := Option.bind_eq_some_iff.mp h
    split at hgo
    · cases hgo
    · rename_i hawaits
      cases hgo
      have htick : c.loopIteration r =
          (({ gathered with stateReseedTicket := 0 }.updateArbiter r).tickOwner r).traceTick
            r.traceEnabled := by
        have hcontrol : (c.resumed r).tickState r =
            ({ gathered with stateReseedTicket := 0 }.updateArbiter r).tickOwner r := by
          unfold tickState
          rw [hstate, hs]
          dsimp only
          unfold tickControl
          rw [hgather]
          dsimp only
          rw [if_neg hawaits]
        rw [← hcontrol]
        unfold loopIteration
        dsimp only
        rw [hestop, hsafe]
        rfl
      rw [htick, traceTick_arbiter, traceTick_tokens, updateArbiter_tokens, updateArbiter_arbiter]
      obtain ⟨logger, rfl⟩ := gatherRobotState_frame hgather
      exact ⟨rfl, rfl, htokens, hstep⟩

/-- What the iteration calls `select_token` with, if it does. -/
def selection (c : WholeBodyController K) (r : TickReads K) :
    Option (Option (Token K) × Option (Token K)) :=
  (c.atOwner r).bind fun c' => c'.chosen r

/-- The stage as `select_token` finds it: decided and armed. -/
def staged (c : WholeBodyController K) (r : TickReads K) : ControlArbiter K :=
  (c.atOwner r).elim c.arbiter fun c' => c'.stage r

/-- The iteration arms the handoff. -/
def armsHandoff (c : WholeBodyController K) (r : TickReads K) : Bool :=
  (c.atOwner r).elim false fun c' =>
    c.arbiter.mode.handsOver c'.arbiter.mode || c'.deciding.arms r

/-- The iteration enters the recovery, and its blend starts anew. -/
def entersRecovery (c : WholeBodyController K) (r : TickReads K) : Bool :=
  (c.atOwner r).elim false fun c' =>
    decide (c.arbiter.mode ≠ .recovering) && decide (c'.arbiter.mode = .recovering)

/-- **An iteration selects at most one token**, out of the staged arbiter. -/
theorem loopIteration_arbiter : (c.loopIteration r).arbiter =
    (c.selection r).elim (c.staged r) fun tokens =>
      ((c.staged r).selectToken tokens.1 tokens.2).1 := by
  unfold selection staged
  cases h : c.atOwner r with
  | none => exact (loopIteration_of_none h).1
  | some c' => exact (loopIteration_of_some h).1.trans tickOwner_arbiter

/-- **It commands the token if the decoder answers.** -/
theorem loopIteration_tokens : (c.loopIteration r).tokens =
    (c.selection r).elim [] fun tokens =>
      r.commanded ((c.staged r).selectToken tokens.1 tokens.2).2 := by
  unfold selection staged
  cases h : c.atOwner r with
  | none => exact (loopIteration_of_none h).2
  | some c' =>
    obtain ⟨-, htokens, hempty, -⟩ := loopIteration_of_some h
    rw [htokens, tickOwner_tokens, hempty]
    rfl

theorem stage_frame : (c.stage r).heldToken = c.arbiter.heldToken ∧
    (c.stage r).recoveryBlendTick = c.arbiter.recoveryBlendTick := by
  unfold stage deciding ControllerThread.staged ControllerThread.decides
  dsimp only
  rw [if_neg Bool.false_ne_true]
  split <;> exact ⟨rfl, rfl⟩

theorem stepArbiter_frame : (c.stepArbiter r).heldToken = c.arbiter.heldToken ∧
    (c.stepArbiter r).recoveryBlendTick =
      if c.arbiter.mode ≠ .recovering ∧ (c.stepArbiter r).mode = .recovering then 0
      else c.arbiter.recoveryBlendTick := by
  unfold stepArbiter
  dsimp only
  rw [ControlArbiter.stepMode_mode]
  unfold ControlArbiter.stepMode
  generalize decideMode c.arbiter.mode _ _ r.calibrated _ = next
  dsimp only
  by_cases hstay : next = c.arbiter.mode
  · rw [if_pos hstay, hstay, if_neg fun h => h.1 h.2]
    exact ⟨rfl, rfl⟩
  · rw [if_neg hstay]
    refine ⟨rfl, ?_⟩
    by_cases hnext : next = .recovering
    · have hold : c.arbiter.mode ≠ .recovering := fun hm => hstay (hnext.trans hm.symm)
      simp only [hnext, hold, ne_eq, not_false_eq_true, and_self, if_true]
    · simp only [hnext, and_false, if_false]

/-- Deciding and arming keep the held token, and set a counter only to start its blend. -/
theorem staged_facts : (c.staged r).heldToken = c.arbiter.heldToken ∧
    (c.staged r).handoffBlendTicks =
      (if c.armsHandoff r then ControlArbiter.kHandoffBlendTicks
        else c.arbiter.handoffBlendTicks) ∧
    (c.staged r).recoveryBlendTick =
      (if c.entersRecovery r then 0 else c.arbiter.recoveryBlendTick) := by
  cases h : c.atOwner r with
  | none =>
    unfold staged armsHandoff entersRecovery
    rw [h]
    exact ⟨rfl, rfl, rfl⟩
  | some c' =>
    obtain ⟨-, -, -, harbiter⟩ := loopIteration_of_some h
    obtain ⟨hheld, hrecovery⟩ := c'.stage_frame (r := r)
    obtain ⟨hkept, hzero⟩ := c.stepArbiter_frame (r := r)
    have hticks : (c'.stage r).handoffBlendTicks = _ := c'.deciding.staged_ticks r
    have hdecide : (c.stepArbiter r).handoffBlendTicks = _ := c.arbiter.stepMode_ticks _ _ _ _
    have hstaged : c.staged r = c'.stage r := by
      unfold staged
      rw [h]
      rfl
    have harms : c.armsHandoff r =
        (c.arbiter.mode.handsOver (c.stepArbiter r).mode || c'.deciding.arms r) := by
      unfold armsHandoff
      rw [h, ← harbiter]
      rfl
    have henters : c.entersRecovery r =
        (decide (c.arbiter.mode ≠ .recovering) &&
          decide ((c.stepArbiter r).mode = .recovering)) := by
      unfold entersRecovery
      rw [h, ← harbiter]
      rfl
    have hsame : c'.deciding.controller.arbiter = c.stepArbiter r := harbiter
    rw [hstaged, harms, henters]
    refine ⟨hheld.trans (harbiter ▸ hkept), ?_, ?_⟩
    · rw [hticks, hsame, hdecide]
      unfold stepArbiter
      cases c'.deciding.arms r <;> simp
    · rw [hrecovery, harbiter, hzero]
      simp only [Bool.and_eq_true, decide_eq_true_iff]

end WholeBodyController

/-! ## A stage at rest -/

open WholeBodyController Numeric

namespace ControlArbiter

/-- Nothing is left to blend, and the token that the mode supplies is the held one. -/
def AtRest (arb : ControlArbiter K) (tokens : Option (Token K) × Option (Token K)) : Prop :=
  if arb.mode = .recovering then
    kRecoveryBlendTicks ≤ arb.recoveryBlendTick ∧ arb.heldToken = kVlaSafeStandingToken
  else arb.handoffBlendTicks = 0 ∧ arb.supplied tokens = arb.heldToken

instance (arb : ControlArbiter K) (tokens : Option (Token K) × Option (Token K)) :
    Decidable (arb.AtRest tokens) := by
  unfold AtRest
  infer_instance

/-- The held token and the two counters of two stages agree. -/
structure SameBlend (a b : ControlArbiter K) : Prop where
  held : a.heldToken = b.heldToken
  handoff : a.handoffBlendTicks = b.handoffBlendTicks
  recovery : a.recoveryBlendTick = b.recoveryBlendTick

variable [IsStrictOrderedRing K] {arb : ControlArbiter K}
  {tokens : Option (Token K) × Option (Token K)}

/-- A selection leaves the blend as it was exactly at rest. -/
theorem sameBlend_select_iff (hbound : arb.recoveryBlendTick ≤ kRecoveryBlendTicks) :
    SameBlend (arb.selectToken tokens.1 tokens.2).1 arb ↔ arb.AtRest tokens := by
  unfold AtRest
  by_cases hm : arb.mode = .recovering
  · have hselect : arb.selectToken tokens.1 tokens.2 = arb.standingBlend := by
      unfold selectToken
      rw [hm]
    obtain ⟨hheld, hticks, htick⟩ := arb.standingBlend_held hbound
    have hout : kRecoveryBlendTicks ≤ arb.recoveryBlendTick →
        arb.standingBlend.1.heldToken = kVlaSafeStandingToken := by
      intro hdone
      rw [hheld]
      funext i
      rw [arb.standingBlend_out hbound, standingWeight_landed (Nat.le_succ_of_le hdone), slide_one]
    rw [if_pos hm, hselect]
    constructor
    · rintro ⟨hsame, -, hrecovery⟩
      have hdone : kRecoveryBlendTicks ≤ arb.recoveryBlendTick := by omega
      exact ⟨hdone, hsame.symm.trans (hout hdone)⟩
    · rintro ⟨hdone, hstanding⟩
      exact ⟨(hout hdone).trans hstanding.symm, hticks, by omega⟩
  · obtain ⟨hheld, hticks, htick⟩ := arb.handoff_held (arb.supplied tokens)
    have hout : arb.handoffBlendTicks = 0 →
        (arb.handoff (arb.supplied tokens)).1.heldToken = arb.supplied tokens := by
      intro hused
      rw [hheld]
      funext i
      rw [arb.handoff_out, slideWeight_used hused, slide_one]
    rw [if_neg hm, selectToken_supplied hm]
    constructor
    · rintro ⟨hsame, hhandoff, -⟩
      have hused : arb.handoffBlendTicks = 0 := by omega
      exact ⟨hused, (hout hused).symm.trans hsame⟩
    · rintro ⟨hused, hsupplied⟩
      exact ⟨(hout hused).trans hsupplied, by omega, htick⟩

end ControlArbiter

/-! ## The watch over a run -/

/-- The loop, the token of the last command that the decoder published, and the blend counters
as the published commands advance them. -/
structure BlendWatch (K : Type) [Field K] where
  controller : WholeBodyController K := {}
  token : Token K := kVlaSafeStandingToken
  handoff : Nat := 0
  recovery : Nat := 0

namespace BlendWatch

open ControlArbiter

def start (auto : Bool) : BlendWatch K := { controller := { autoStart := auto } }

/-- The counters after the arming of the iteration. -/
def armed (w : BlendWatch K) (r : TickReads K) : Nat × Nat :=
  (if w.controller.armsHandoff r then kHandoffBlendTicks else w.handoff,
    if w.controller.entersRecovery r then 0 else w.recovery)

def tick (w : BlendWatch K) (r : TickReads K) : BlendWatch K :=
  let c := w.controller.loopIteration r
  let (handoff, recovery) := w.armed r
  match c.tokens.getLast? with
  | none => { w with controller := c, handoff := handoff, recovery := recovery }
  | some token =>
    if c.arbiter.mode = .recovering then
      ⟨c, token, handoff, min (recovery + 1) kRecoveryBlendTicks⟩
    else ⟨c, token, handoff - 1, recovery⟩

/-- The stage holds what the published commands left. -/
structure Follows (w : BlendWatch K) : Prop where
  held : w.controller.arbiter.heldToken = w.token
  handoff : w.controller.arbiter.handoffBlendTicks = w.handoff
  recovery : w.controller.arbiter.recoveryBlendTick = w.recovery

instance (w : BlendWatch K) : Decidable w.Follows :=
  decidable_of_iff (w.controller.arbiter.heldToken = w.token ∧
      w.controller.arbiter.handoffBlendTicks = w.handoff ∧
      w.controller.arbiter.recoveryBlendTick = w.recovery)
    ⟨fun ⟨h, h', h''⟩ => ⟨h, h', h''⟩, fun ⟨h, h', h''⟩ => ⟨h, h', h''⟩⟩

/-- After the iteration the stage holds what the published commands left. -/
def Untouched (w : BlendWatch K) (r : TickReads K) : Prop := (w.tick r).Follows

instance (w : BlendWatch K) (r : TickReads K) : Decidable (w.Untouched r) :=
  inferInstanceAs (Decidable (Follows _))

/-- If a token is selected and the decoder fails, the stage is at rest on that token. -/
def FailsAtRest (w : BlendWatch K) (r : TickReads K) : Prop :=
  r.decoderOut = none → ∀ tokens ∈ w.controller.selection r,
    (w.controller.staged r).AtRest tokens

instance (w : BlendWatch K) (r : TickReads K) : Decidable (w.FailsAtRest r) :=
  inferInstanceAs (Decidable (_ → _))

structure BlendInv (w : BlendWatch K) : Prop where
  follows : w.Follows
  bound : w.recovery ≤ kRecoveryBlendTicks

theorem BlendInv.start (auto : Bool) : BlendInv (start auto : BlendWatch K) :=
  ⟨⟨rfl, rfl, rfl⟩, Nat.zero_le _⟩

variable {w : BlendWatch K} {r : TickReads K}

theorem tick_quiet (h : (w.controller.loopIteration r).tokens = []) :
    w.tick r = ⟨w.controller.loopIteration r, w.token, (w.armed r).1, (w.armed r).2⟩ := by
  unfold tick
  dsimp only
  rw [h]
  rfl

theorem tick_published {token : Token K} (h : (w.controller.loopIteration r).tokens = [token]) :
    w.tick r =
      if (w.controller.loopIteration r).arbiter.mode = .recovering then
        ⟨w.controller.loopIteration r, token, (w.armed r).1,
          min ((w.armed r).2 + 1) kRecoveryBlendTicks⟩
      else ⟨w.controller.loopIteration r, token, (w.armed r).1 - 1, (w.armed r).2⟩ := by
  unfold tick
  dsimp only
  rw [h]
  rfl

/-- The staged arbiter holds the token of the last command, and the counters as armed. -/
theorem BlendInv.staged (h : w.BlendInv) (r : TickReads K) :
    (w.controller.staged r).heldToken = w.token ∧
      (w.controller.staged r).handoffBlendTicks = (w.armed r).1 ∧
      (w.controller.staged r).recoveryBlendTick = (w.armed r).2 ∧
      (w.armed r).2 ≤ kRecoveryBlendTicks := by
  obtain ⟨hheld, hhandoff, hrecovery⟩ := w.controller.staged_facts (r := r)
  rw [hheld, hhandoff, hrecovery, h.follows.held, h.follows.handoff, h.follows.recovery]
  refine ⟨rfl, rfl, rfl, ?_⟩
  unfold armed
  dsimp only
  split
  · exact Nat.zero_le _
  · exact h.bound

/-- After a tick that selects nothing the stage is the staged one. -/
theorem BlendInv.follows_none (h : w.BlendInv) (hnone : w.controller.selection r = none) :
    (w.tick r).Follows := by
  have harbiter := w.controller.loopIteration_arbiter (r := r)
  have htokens := w.controller.loopIteration_tokens (r := r)
  rw [hnone] at harbiter htokens
  obtain ⟨hheld, hhandoff, hrecovery, -⟩ := h.staged r
  rw [tick_quiet htokens]
  refine ⟨?_, ?_, ?_⟩
  · exact (congrArg heldToken harbiter).trans hheld
  · exact (congrArg handoffBlendTicks harbiter).trans hhandoff
  · exact (congrArg recoveryBlendTick harbiter).trans hrecovery

/-- A published token is the held one, and advances the counter of its mode. -/
theorem BlendInv.follows_published (h : w.BlendInv)
    {tokens : Option (Token K) × Option (Token K)}
    (hsome : w.controller.selection r = some tokens) (hdecoder : r.decoderOut.isSome = true) :
    (w.tick r).Follows := by
  have harbiter : (w.controller.loopIteration r).arbiter = _ := loopIteration_arbiter
  have htokens : (w.controller.loopIteration r).tokens = _ := loopIteration_tokens
  rw [hsome, Option.elim_some] at harbiter htokens
  unfold TickReads.commanded at htokens
  rw [if_pos hdecoder] at htokens
  obtain ⟨hheld, hhandoff, hrecovery, hbound⟩ := h.staged r
  generalize w.controller.staged r = arb at *
  have hmode := arb.selectToken_mode tokens.1 tokens.2
  rw [tick_published htokens, harbiter, hmode]
  by_cases hm : arb.mode = .recovering
  · have hselect : arb.selectToken tokens.1 tokens.2 = arb.standingBlend := by
      unfold ControlArbiter.selectToken
      rw [hm]
    obtain ⟨hout, hticks, htick⟩ := arb.standingBlend_held (hrecovery.trans_le hbound)
    rw [if_pos hm]
    refine ⟨?_, ?_, ?_⟩
    · dsimp only
      rw [harbiter, hselect, hout]
    · dsimp only
      rw [harbiter, hselect, hticks, hhandoff]
    · dsimp only
      rw [harbiter, hselect, htick, hrecovery]
  · obtain ⟨hout, hticks, htick⟩ := arb.handoff_held (arb.supplied tokens)
    rw [if_neg hm]
    refine ⟨?_, ?_, ?_⟩
    · dsimp only
      rw [harbiter, selectToken_supplied hm, hout]
    · dsimp only
      rw [harbiter, selectToken_supplied hm, hticks, hhandoff]
    · dsimp only
      rw [harbiter, selectToken_supplied hm, htick, hrecovery]

theorem BlendInv.tick_bound (h : w.BlendInv) (r : TickReads K) :
    (w.tick r).recovery ≤ kRecoveryBlendTicks := by
  obtain ⟨-, -, -, hbound⟩ := h.staged r
  unfold tick
  dsimp only
  split
  · exact hbound
  · split
    · exact min_le_right _ _
    · exact hbound

variable [IsStrictOrderedRing K]

theorem BlendInv.untouched_iff (h : w.BlendInv) (r : TickReads K) :
    w.Untouched r ↔ w.FailsAtRest r := by
  unfold Untouched FailsAtRest
  cases hselects : w.controller.selection r with
  | none => exact iff_of_true (h.follows_none hselects) (fun _ => nofun)
  | some tokens =>
    cases hdecoder : r.decoderOut with
    | some action =>
      have hanswers : r.decoderOut.isSome = true := by rw [hdecoder]; rfl
      exact iff_of_true (h.follows_published hselects hanswers) nofun
    | none =>
      have harbiter : (w.controller.loopIteration r).arbiter = _ := loopIteration_arbiter
      have htokens : (w.controller.loopIteration r).tokens = _ := loopIteration_tokens
      obtain ⟨hheld, hhandoff, hrecovery, hbound⟩ := h.staged r
      have hrest : SameBlend (ControlArbiter.selectToken (w.controller.staged r) tokens.1
          tokens.2).1 (w.controller.staged r) ↔ _ :=
        sameBlend_select_iff (hrecovery.trans_le hbound)
      rw [hselects, Option.elim_some] at harbiter htokens
      have hquiet : (w.controller.loopIteration r).tokens = [] := by
        rw [htokens, TickReads.commanded, hdecoder]
        rfl
      have hsame : (w.tick r).Follows ↔
          SameBlend (w.controller.loopIteration r).arbiter (w.controller.staged r) := by
        rw [tick_quiet hquiet]
        exact ⟨fun ⟨h, h', h''⟩ => ⟨h.trans hheld.symm, h'.trans hhandoff.symm,
            h''.trans hrecovery.symm⟩,
          fun ⟨h, h', h''⟩ => ⟨h.trans hheld, h'.trans hhandoff, h''.trans hrecovery⟩⟩
      rw [hsame, harbiter, hrest]
      simp

/-- In every run of the controller the stage follows the published commands, tick by tick, exactly
if the decoder never fails on a selected token, unless the stage is at rest on it. -/
theorem blend_untouched_iff (auto : Bool) (rs : List (TickReads K)) :
    Transition.Throughout Untouched tick (start auto) rs ↔
      Transition.Throughout FailsAtRest tick (start auto) rs :=
  Transition.throughout_congr (I := BlendInv) (BlendInv.start auto)
    (fun _ r h => h.untouched_iff r)
    (fun _ r h hrest => ⟨(h.untouched_iff r).mpr hrest, h.tick_bound r⟩) rs

/-- The INIT ramp, the transition to CONTROL, the adoption of the plan, and one policy command. -/
def commandedRun : List (TickReads ℚ) := List.replicate 153 healthyTick

theorem blend_untouched_iff_healthy :
    Transition.Throughout Untouched tick (start true : BlendWatch ℚ) commandedRun := by
  refine (blend_untouched_iff true _).mpr ((Transition.throughout_iff _).mpr ?_)
  intro pre r hpre hfails
  have hr : r = healthyTick :=
    List.eq_of_mem_replicate (hpre.subset (List.mem_append_right _ List.mem_cons_self))
  rw [hr] at hfails
  cases hfails

/-- Teleop engages in a tick whose decoder fails. -/
def failedEngage : TickReads ℚ :=
  { healthyTick with calibrated := true, vr3point := some {}, decoderOut := none }

/-- One of the 35 outputs of the handoff is used up, and no command was published. -/
theorem failed_output_counts :
    ¬ Transition.Throughout Untouched tick (start true : BlendWatch ℚ)
      (commandedRun ++ [failedEngage]) := by
  intro hall
  have hlast := (Transition.throughout_iff _).mp hall commandedRun failedEngage List.prefix_rfl
  have hcounts : ((commandedRun.foldl tick
      (start true)).tick failedEngage).controller.arbiter.handoffBlendTicks ≠
        ((commandedRun.foldl tick (start true)).tick failedEngage).handoff := by decide +kernel
  exact hcounts hlast.handoff

end BlendWatch

end Gearsonic
