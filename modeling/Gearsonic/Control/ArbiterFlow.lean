import Gearsonic.Control.ControllerThread
import Gearsonic.Control.TickFrame

/-!
# What a step does to the arbiter

Every step of the controller decides, arms or selects, or leaves the arbiter alone. `staged`
is the arbiter in front of `select_token`, `selection` the tokens that `select_token` is then
given, and `next_arbiter` says that nothing else happens to it.
-/

set_option linter.unusedSectionVars false

namespace Gearsonic

variable {K : Type} [Field K] [LinearOrder K] [CMath K]

namespace WholeBodyController

/-- Both presence edges of the encoder path. -/
def edges (c : WholeBodyController K) (r : TickReads K) : WholeBodyController K :=
  (c.vr3Edge r.vr3point.isSome).smplEdge r.smpl.isSome

/-- Some teleop target has come or gone since the encoder path last ran. -/
def edgeDue (c : WholeBodyController K) (r : TickReads K) : Bool :=
  decide (r.vr3point.isSome ≠ c.lastVr3Present) || decide (r.smpl.isSome ≠ c.lastSmplPresent)

variable (c : WholeBodyController K) (r : TickReads K)

theorem edges_arbiter :
    (c.edges r).arbiter = if c.edgeDue r then c.arbiter.armHandoff else c.arbiter := by
  unfold edges edgeDue vr3Edge smplEdge
  by_cases hvr3 : r.vr3point.isSome = c.lastVr3Present
  · by_cases hsmpl : r.smpl.isSome = c.lastSmplPresent
    · simp [hvr3, hsmpl]
    · simp [hvr3, hsmpl, emit]
  · by_cases hsmpl : r.smpl.isSome = c.lastSmplPresent
    · simp [hvr3, hsmpl]
    · simp [hvr3, hsmpl, emit, ControlArbiter.armHandoff]

/-! ## Parts of a tick that leave the arbiter alone -/

theorem tickMissing_arbiter (now : TimePoint) : (c.tickMissing now).arbiter = c.arbiter := by
  obtain ⟨_, _, _, _, h⟩ := c.tickMissing_frame now
  rw [h]

theorem tickState_arbiter (hs : c.state ≠ .control) : (c.tickState r).arbiter = c.arbiter := by
  obtain ⟨_, _, _, _, h⟩ := c.tickState_frame r hs
  rw [h]

theorem publishDecoded_arbiter {token : Token K} {encoderRan : Bool} {c' : WholeBodyController K}
    (h : c.publishDecoded token encoderRan r = some c') : c'.arbiter = c.arbiter := by
  obtain ⟨_, _, _, _, _, rfl⟩ := publishDecoded_frame r h
  rfl

theorem decodeAndPublish_arbiter (token : Token K) :
    (c.decodeAndPublish token r).arbiter = c.arbiter := by
  obtain ⟨_, _, _, _, _, h⟩ := c.decodeAndPublish_frame r token
  rw [h]

theorem advancePlayback_arbiter (plan : TimestampedData (MotionSequence50Hz K)) :
    (c.advancePlayback plan).arbiter = c.arbiter := by
  obtain ⟨_, _, _, _, _, h⟩ := c.advancePlayback_frame plan
  rw [h]

theorem traceTick_arbiter (enabled : Bool) : (c.traceTick enabled).arbiter = c.arbiter := by
  obtain ⟨_, h⟩ := c.traceTick_frame enabled
  rw [h]

theorem decideOwner_arbiter : (c.decideOwner r).arbiter = c.stepArbiter r := by
  obtain ⟨_, _, h⟩ := c.decideOwner_frame r
  rw [h]

theorem tickEncoder_arbiter : (c.tickEncoder r).1.arbiter =
    r.encoderOut.elim (c.edges r).arbiter
      fun token => ((c.edges r).arbiter.selectToken (some token) none).1 := by
  unfold tickEncoder TokenEncoder.step edges
  dsimp only
  cases r.encoderOut with
  | none => rfl
  | some token =>
    dsimp only [Option.elim_some]
    cases h : publishDecoded _ _ true r with
    | none => rfl
    | some c' => exact publishDecoded_arbiter _ r h

theorem tickEncoder_mode : (c.tickEncoder r).1.arbiter.mode = c.arbiter.mode := by
  have hedges : (c.edges r).arbiter.mode = c.arbiter.mode := by
    rw [edges_arbiter]
    split <;> rfl
  rw [tickEncoder_arbiter]
  cases r.encoderOut with
  | none => exact hedges
  | some token => exact (ControlArbiter.selectToken_mode _ _ _).trans hedges

end WholeBodyController

namespace ControllerThread

open WholeBodyController

/-- The step reaches the encoder path of a playback that is not empty. -/
def onEncoderPath (s : ControllerThread K) : Bool :=
  match s.point with
  | .deciding => !s.controller.arbiter.mode.inSession &&
      decide (s.controller.playbackMotion.timesteps ≠ 0)
  | _ => false

/-- The step decides the owner of the tick. -/
def decides (s : ControllerThread K) : Bool :=
  match s.point with
  | .arbitrating => true
  | _ => false

/-- The arbiter of the step, in front of its `select_token`. -/
def staged (s : ControllerThread K) (r : TickReads K) : ControlArbiter K :=
  if s.decides then s.controller.stepArbiter r
  else if s.onEncoderPath && s.controller.edgeDue r then s.controller.arbiter.armHandoff
  else s.controller.arbiter

/-- What the step calls `select_token` with, if it does: the encoder's token and the
stream's. -/
def selection (s : ControllerThread K) (r : TickReads K) :
    Option (Option (Token K) × Option (Token K)) :=
  match s.point with
  | .deciding =>
    match s.controller.arbiter.mode with
    | .vla => r.vlaData.map fun vla => (none, some vla.token)
    | .recovering => some (none, none)
    | .normal | .teleop =>
      if s.controller.playbackMotion.timesteps = 0 then none
      else r.encoderOut.map fun token => (some token, none)
  | _ => none

variable {r : TickReads K} {s : ControllerThread K}

theorem next_arbiter : (s.next r).controller.arbiter =
    (s.selection r).elim (s.staged r) fun tokens =>
      ((s.staged r).selectToken tokens.1 tokens.2).1 := by
  obtain ⟨c, point⟩ := s
  cases point with
  | top =>
    unfold next
    dsimp only
    split <;> rfl
  | checking =>
    unfold next
    dsimp only
    split
    · exact c.tickMissing_arbiter r.now
    · split <;> rfl
  | discarding => rfl
  | requesting => rfl
  | switching =>
    unfold next gatherRobotState
    dsimp only
    split
    · cases r.robotState with
      | none => rfl
      | some st =>
        dsimp only
        cases overLimit st <;> rfl
    · next hs => exact c.tickState_arbiter r hs
  | waiting =>
    unfold next
    dsimp only
    split <;> rfl
  | arbitrating => exact c.decideOwner_arbiter r
  | leaving => rfl
  | deciding =>
    unfold next staged selection onEncoderPath decides
    dsimp only
    have hplayback : c.arbiter.mode.inSession = false →
        (if c.playbackMotion.timesteps = 0 then ⟨c, .advancing⟩
          else (⟨(c.tickEncoder r).1, if (c.tickEncoder r).2 then .advancing else .tracing⟩ :
            ControllerThread K)).controller.arbiter =
        (if c.playbackMotion.timesteps = 0 then none
          else r.encoderOut.map fun token => (some token, (none : Option (Token K)))).elim
          (if (!c.arbiter.mode.inSession && decide (c.playbackMotion.timesteps ≠ 0)) &&
            c.edgeDue r then c.arbiter.armHandoff else c.arbiter)
          fun tokens => ((if (!c.arbiter.mode.inSession &&
            decide (c.playbackMotion.timesteps ≠ 0)) && c.edgeDue r then c.arbiter.armHandoff
            else c.arbiter).selectToken tokens.1 tokens.2).1 := by
      intro hm
      by_cases hempty : c.playbackMotion.timesteps = 0
      · simp [hempty]
      · simp only [hempty, hm, if_false, Bool.not_false, ne_eq, not_false_eq_true, decide_true,
          Bool.true_and]
        rw [c.tickEncoder_arbiter r, c.edges_arbiter r]
        cases r.encoderOut <;> rfl
    cases hm : c.arbiter.mode with
    | vla =>
      simp only [Mode.inSession, Bool.not_true, Bool.false_and, Bool.false_eq_true, if_false]
      unfold tickVla
      cases r.vlaData with
      | none => rfl
      | some vla => exact decodeAndPublish_arbiter _ r _
    | recovering =>
      simp only [Mode.inSession, Bool.not_true, Bool.false_and, Bool.false_eq_true, if_false]
      split
      · rfl
      · exact decodeAndPublish_arbiter _ r _
    | normal => simpa [hm] using hplayback (by rw [hm]; rfl)
    | teleop => simpa [hm] using hplayback (by rw [hm]; rfl)
  | asking token => exact decodeAndPublish_arbiter _ r _
  | advancing => exact c.advancePlayback_arbiter r.plan
  | tracing => exact c.traceTick_arbiter r.traceEnabled

/-- Only the decision changes the mode. -/
theorem next_mode : (s.next r).controller.arbiter.mode =
    if s.decides then (s.controller.stepArbiter r).mode else s.controller.arbiter.mode := by
  have hstaged : (s.staged r).mode =
      if s.decides then (s.controller.stepArbiter r).mode else s.controller.arbiter.mode := by
    unfold staged
    split
    · rfl
    · split <;> rfl
  rw [next_arbiter, ← hstaged]
  cases s.selection r with
  | none => rfl
  | some tokens => exact ControlArbiter.selectToken_mode _ _ _

end ControllerThread

end Gearsonic
