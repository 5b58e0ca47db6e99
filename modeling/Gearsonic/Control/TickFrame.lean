import Gearsonic.Control.WholeBodyController

/-!
# What each part of a tick can write

For each function of a tick, the controller after it is the controller before it with the
listed members replaced. What another member is afterwards follows by rewriting with the
lemma.
-/

set_option linter.unusedSectionVars false

namespace Gearsonic

namespace WholeBodyController

variable {K : Type} [Field K] [LinearOrder K] [CMath K]

variable (c : WholeBodyController K) (r : TickReads K)

theorem tickMissing_frame (now : TimePoint) : ∃ missing buf start outs,
    c.tickMissing now =
      { c with
        stateMissingTicks := missing, motorCommandBuf := buf, baseRampFrom := start
        outputs := outs } := by
  unfold tickMissing
  dsimp only
  split
  · split <;> exact ⟨_, _, _, _, rfl⟩
  · exact ⟨_, _, _, _, rfl⟩

/-- Outside CONTROL a tick moves its ramp or the state. -/
theorem tickState_frame (hs : c.state ≠ .control) : ∃ state ticks buf outs,
    c.tickState r =
      { c with state := state, initTicks := ticks, motorCommandBuf := buf, outputs := outs } := by
  unfold tickState
  cases hstate : c.state with
  | control => exact absurd hstate hs
  | estop => exact ⟨_, _, _, _, rfl⟩
  | waitForControl =>
    dsimp only
    unfold tickWait
    split
    · exact ⟨_, _, _, _, rfl⟩
    · exact ⟨_, _, _, _, rfl⟩
  | init =>
    dsimp only
    unfold tickInit
    split
    · exact ⟨_, _, _, _, rfl⟩
    · dsimp only
      split
      · exact ⟨_, _, _, _, rfl⟩
      · exact ⟨_, _, _, _, rfl⟩

theorem decideOwner_frame : ∃ issued outs,
    c.decideOwner r =
      { c with
        arbiter := c.stepArbiter r, reinitTicketIssued := issued, outputs := outs } := by
  unfold decideOwner
  dsimp only
  split
  · split <;> exact ⟨_, _, rfl⟩
  · exact ⟨_, _, rfl⟩

variable {c} in
theorem publishDecoded_frame {c' : WholeBodyController K} {token : Token K} {encoderRan : Bool}
    (h : c.publishDecoded token encoderRan r = some c') : ∃ decoder buf seq tokens outs,
    c' =
      { c with
        decoder := decoder, motorCommandBuf := buf, tokenSeq := seq, motionTokenBuf := tokens
        outputs := outs } := by
  unfold publishDecoded at h
  split at h
  · cases h
  · cases h
    exact ⟨_, _, _, _, _, rfl⟩

theorem decodeAndPublish_frame (token : Token K) : ∃ decoder buf seq tokens outs,
    c.decodeAndPublish token r =
      { c with
        decoder := decoder, motorCommandBuf := buf, tokenSeq := seq, motionTokenBuf := tokens
        outputs := outs } := by
  unfold decodeAndPublish
  cases h : c.publishDecoded token false r with
  | none => exact ⟨_, _, _, _, _, rfl⟩
  | some c' => exact publishDecoded_frame r h

theorem tickVla_frame : ∃ arbiter decoder buf seq tokens outs,
    c.tickVla r =
      { c with
        arbiter := arbiter, decoder := decoder, motorCommandBuf := buf, tokenSeq := seq
        motionTokenBuf := tokens, outputs := outs } := by
  unfold tickVla
  split
  · exact ⟨_, _, _, _, _, _, rfl⟩
  · obtain ⟨decoder, buf, seq, tokens, outs, h⟩ := decodeAndPublish_frame
      (c.selectToken none _).1 r (c.selectToken none _).2
    exact ⟨_, decoder, buf, seq, tokens, outs, h⟩

/-- The encoder path remembers which targets it found. -/
theorem tickEncoder_frame : ∃ arbiter encoder decoder buf seq tokens outs,
    (c.tickEncoder r).1 =
      { c with
        lastVr3Present := r.vr3point.isSome, lastSmplPresent := r.smpl.isSome
        arbiter := arbiter, encoder := encoder, decoder := decoder, motorCommandBuf := buf
        tokenSeq := seq, motionTokenBuf := tokens, outputs := outs } := by
  have hvr3 : ∃ arbiter,
      c.vr3Edge r.vr3point.isSome =
        { c with lastVr3Present := r.vr3point.isSome, arbiter := arbiter } := by
    unfold vr3Edge
    split
    · exact ⟨_, rfl⟩
    · rename_i heq
      rw [not_not.mp heq]
      exact ⟨_, rfl⟩
  have hsmpl : ∀ c : WholeBodyController K, ∃ arbiter encoder outs,
      c.smplEdge r.smpl.isSome =
        { c with
          lastSmplPresent := r.smpl.isSome, arbiter := arbiter, encoder := encoder
          outputs := outs } := by
    intro c
    unfold smplEdge
    split
    · exact ⟨_, _, _, rfl⟩
    · rename_i heq
      rw [not_not.mp heq]
      exact ⟨_, _, _, rfl⟩
  obtain ⟨_, hvr3⟩ := hvr3
  obtain ⟨_, _, _, hsmpl⟩ := hsmpl (c.vr3Edge r.vr3point.isSome)
  unfold tickEncoder TokenEncoder.step
  dsimp only
  rw [hsmpl, hvr3]
  cases r.encoderOut with
  | none => exact ⟨_, _, _, _, _, _, _, rfl⟩
  | some token =>
    dsimp only
    cases h : publishDecoded _ _ true r with
    | none => exact ⟨_, _, _, _, _, _, _, rfl⟩
    | some c' =>
      obtain ⟨decoder, buf, seq, tokens, outs, rfl⟩ := publishDecoded_frame r h
      exact ⟨_, _, decoder, buf, seq, tokens, outs, rfl⟩

theorem advanceCursor_frame : ∃ cursor, c.advanceCursor = { c with cursor := cursor } := by
  unfold advanceCursor
  split
  · exact ⟨_, rfl⟩
  · exact ⟨_, rfl⟩

theorem advanceCursor_playbackMotion : c.advanceCursor.playbackMotion = c.playbackMotion := by
  obtain ⟨_, h⟩ := c.advanceCursor_frame
  rw [h]

theorem adoptPlan_frame (gen : MotionSequence50Hz K) (stamp : TimePoint) :
    ∃ motion cursor playing encoder,
      c.adoptPlan gen stamp =
        { c with
          playbackMotion := motion, cursor := cursor, playing := playing, encoder := encoder
          lastPlanStamp := stamp } := by
  unfold adoptPlan
  dsimp only
  split
  · exact ⟨_, _, _, _, rfl⟩
  · split <;> exact ⟨_, _, _, _, rfl⟩

theorem advancePlayback_frame (plan : TimestampedData (MotionSequence50Hz K)) :
    ∃ motion cursor playing encoder stamp,
      c.advancePlayback plan =
        { c with
          playbackMotion := motion, cursor := cursor, playing := playing, encoder := encoder
          lastPlanStamp := stamp } := by
  unfold advancePlayback
  dsimp only
  split
  · split
    · rename_i gen _ _
      obtain ⟨_, _, _, _, hadopt⟩ := c.adoptPlan_frame gen plan.timestamp
      obtain ⟨_, hcursor⟩ := (c.adoptPlan gen plan.timestamp).advanceCursor_frame
      rw [hcursor, hadopt]
      exact ⟨_, _, _, _, _, rfl⟩
    · obtain ⟨_, hcursor⟩ := c.advanceCursor_frame
      exact ⟨_, _, _, _, _, hcursor⟩
  · obtain ⟨_, hcursor⟩ := c.advanceCursor_frame
    exact ⟨_, _, _, _, _, hcursor⟩

theorem traceTick_frame (enabled : Bool) : ∃ outs,
    c.traceTick enabled = { c with outputs := outs } := by
  unfold traceTick
  split
  · exact ⟨_, rfl⟩
  · exact ⟨_, rfl⟩

end WholeBodyController

end Gearsonic
