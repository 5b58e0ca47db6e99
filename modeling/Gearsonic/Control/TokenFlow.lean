import Gearsonic.Control.ControllerThread
import Gearsonic.Control.RecordFlow

/-!
# What a step leaves in the token buffer

The samples that a step of the controller's thread records are numbered on from the last one, and
`motion_token_buf` holds the newest of them. `TokenFlow a b` says so of going from `a` to `b`; there
is one lemma for each part of a tick that can stand alone in a step, and `Fires.tokens` puts them
together.
-/

set_option linter.unusedSectionVars false

namespace Gearsonic

namespace WholeBodyController

variable {K : Type} [Field K] [LinearOrder K] [CMath K]

/-- Going from `a` to `b` recorded exactly the samples `new`. -/
structure TokenFlow (a b : WholeBodyController K) (new : List (MotionTokenSample K)) : Prop where
  samples : b.samples = a.samples ++ new
  data : b.motionTokenBuf.data = new.getLast?.or a.motionTokenBuf.data
  tokenSeq : b.tokenSeq = a.tokenSeq + new.length
  seqs : new.map MotionTokenSample.seq = List.range' (a.tokenSeq + 1) new.length

section

variable {a b c c' : WholeBodyController K} {xs ys : List (MotionTokenSample K)}

theorem TokenFlow.trans (h : TokenFlow a b xs) (h' : TokenFlow b c ys) :
    TokenFlow a c (xs ++ ys) where
  samples := by rw [h'.samples, h.samples, List.append_assoc]
  data := by rw [h'.data, h.data, List.getLast?_append, Option.or_assoc]
  tokenSeq := by rw [h'.tokenSeq, h.tokenSeq, List.length_append, Nat.add_assoc]
  seqs := by
    have hstart : b.tokenSeq + 1 = a.tokenSeq + 1 + xs.length := by
      rw [h.tokenSeq]
      omega
    rw [List.map_append, h.seqs, h'.seqs, List.length_append, hstart, List.range'_append_1]

theorem TokenFlow.quiet (h : TokenFlow a b xs) (h' : TokenFlow b c []) : TokenFlow a c xs := by
  simpa using h.trans h'

theorem TokenFlow.after (h : TokenFlow a b []) (h' : TokenFlow b c ys) : TokenFlow a c ys :=
  h.trans h'

theorem TokenFlow.of_frame (hout : c'.outputs = c.outputs)
    (hbuf : c'.motionTokenBuf = c.motionTokenBuf) (hseq : c'.tokenSeq = c.tokenSeq) :
    TokenFlow c c' [] :=
  ⟨by simp [WholeBodyController.samples, hout], by rw [hbuf]; rfl, hseq, rfl⟩

theorem TokenFlow.refl (c : WholeBodyController K) : TokenFlow c c [] := .of_frame rfl rfl rfl

/-- Another output is no sample. -/
theorem TokenFlow.of_emit {o : Output K} (ho : o.sample = none)
    (hout : c'.outputs = c.outputs ++ [o]) (hbuf : c'.motionTokenBuf = c.motionTokenBuf)
    (hseq : c'.tokenSeq = c.tokenSeq) : TokenFlow c c' [] :=
  ⟨by simp [WholeBodyController.samples, hout, ho], by rw [hbuf]; rfl, hseq, rfl⟩

/-- A command and its sample. -/
theorem TokenFlow.of_sample {w : Writer} {cmd : MotorCommand K} {s : MotionTokenSample K}
    (hout : c'.outputs = c.outputs ++ [.motorCommand w cmd, .motionToken s])
    (hbuf : c'.motionTokenBuf.data = some s) (hseq : s.seq = c.tokenSeq + 1)
    (hnext : c'.tokenSeq = c.tokenSeq + 1) : TokenFlow c c' [s] := by
  refine ⟨?_, hbuf, hnext, congrArg (fun n => [n]) hseq⟩
  simp only [WholeBodyController.samples, hout, List.filterMap_append]
  rfl

end

section

variable (c : WholeBodyController K) (r : TickReads K)

theorem tokens_publish (w : Writer) (cmd : MotorCommand K) (now : TimePoint) :
    TokenFlow c (c.publish w cmd now) [] :=
  .of_emit (o := .motorCommand w cmd) rfl rfl rfl rfl

theorem tokens_enterOrigin : TokenFlow c c.enterOrigin [] :=
  .of_emit (o := .disarm) rfl rfl rfl rfl

theorem tokens_decideOwner : TokenFlow c (c.decideOwner r) [] := by
  unfold decideOwner
  dsimp only
  split
  · split
    · exact .of_emit (o := .resetCalibration) rfl rfl rfl rfl
    · exact .of_frame rfl rfl rfl
    · exact .of_frame rfl rfl rfl
    · exact .of_frame rfl rfl rfl
  · exact .of_frame rfl rfl rfl

theorem tokens_advancePlayback (plan : TimestampedData (MotionSequence50Hz K)) :
    TokenFlow c (c.advancePlayback plan) [] := by
  obtain ⟨_, _, _, _, _, h⟩ := c.advancePlayback_frame plan
  rw [h]
  exact .of_frame rfl rfl rfl

theorem tokens_traceTick (enabled : Bool) : TokenFlow c (c.traceTick enabled) [] := by
  unfold traceTick
  split
  · exact .of_emit (o := .trace _) rfl rfl rfl rfl
  · exact .refl c

theorem tokens_tickMissing (now : TimePoint) : TokenFlow c (c.tickMissing now) [] := by
  have hhold : ∀ (c : WholeBodyController K), TokenFlow c (c.publishBaseHold now) [] :=
    fun c => tokens_publish c _ _ now
  unfold tickMissing
  dsimp only
  split
  · refine TokenFlow.after ?_ (hhold _)
    split <;> exact .of_frame rfl rfl rfl
  · exact .of_frame rfl rfl rfl

/-- The states before and after CONTROL record nothing. -/
theorem tokens_tickState (hs : c.state ≠ .control) : TokenFlow c (c.tickState r) [] := by
  unfold tickState
  cases hstate : c.state with
  | control => exact absurd hstate hs
  | estop => exact .refl c
  | waitForControl =>
    dsimp only
    unfold tickWait
    split <;> exact .of_frame rfl rfl rfl
  | init =>
    dsimp only
    unfold tickInit
    cases r.robotState with
    | none => exact .refl c
    | some st =>
      dsimp only
      split
      · exact (tokens_publish c _ _ _).quiet (.of_frame rfl rfl rfl)
      · exact (tokens_publish c _ _ _).quiet (.of_frame rfl rfl rfl)

/-! ## Decoding -/

/-- A decoded token is recorded under the next number, and the buffer holds its sample. -/
theorem tokens_publishDecoded {c' : WholeBodyController K} {token : Token K} {encoderRan : Bool}
    (h : c.publishDecoded token encoderRan r = some c') : ∃ s, TokenFlow c c' [s] := by
  unfold publishDecoded at h
  split at h
  · cases h
  · cases h
    exact ⟨_, .of_sample (List.append_assoc _ _ _) rfl rfl rfl⟩

theorem tokens_decodeAndPublish (token : Token K) :
    ∃ new, TokenFlow c (c.decodeAndPublish token r) new := by
  unfold decodeAndPublish
  cases h : c.publishDecoded token false r with
  | none => exact ⟨[], .refl c⟩
  | some c' =>
    obtain ⟨s, hs⟩ := tokens_publishDecoded c r h
    exact ⟨[s], hs⟩

theorem tokens_tickVla : ∃ new, TokenFlow c (c.tickVla r) new := by
  unfold tickVla
  cases r.vlaData with
  | none => exact ⟨[], .refl c⟩
  | some vla =>
    have hselect : TokenFlow c (c.selectToken none (some vla.token)).1 [] := .of_frame rfl rfl rfl
    obtain ⟨new, hnew⟩ := tokens_decodeAndPublish (c.selectToken none (some vla.token)).1 r
      (c.selectToken none (some vla.token)).2
    exact ⟨new, hselect.after hnew⟩

theorem tokens_tickEncoder : ∃ new, TokenFlow c (c.tickEncoder r).1 new := by
  have hvr3 : TokenFlow c (c.vr3Edge r.vr3point.isSome) [] := by
    unfold vr3Edge
    split <;> exact .of_frame rfl rfl rfl
  have hsmpl : ∀ c : WholeBodyController K, TokenFlow c (c.smplEdge r.smpl.isSome) [] := by
    intro c
    unfold smplEdge
    split
    · exact .of_emit (o := .disarm) rfl rfl rfl rfl
    · exact .refl c
  have hedges := hvr3.quiet (hsmpl _)
  unfold tickEncoder
  dsimp only [TokenEncoder.step]
  cases r.encoderOut with
  | none => exact ⟨[], hedges.quiet (.of_frame rfl rfl rfl)⟩
  | some token =>
    dsimp only
    split
    · exact ⟨[], hedges.quiet (.of_frame rfl rfl rfl)⟩
    · rename_i hsome
      obtain ⟨s, hs⟩ := tokens_publishDecoded _ r hsome
      refine ⟨[s], hedges.after ?_⟩
      refine TokenFlow.after ?_ hs
      exact .of_frame rfl rfl rfl

end

end WholeBodyController

/-! ## One step of the thread -/

open WholeBodyController

variable {K : Type} [Field K] [LinearOrder K] [CMath K]

/-- Within a tick, each step records what it leaves in the buffer. -/
theorem ControllerThread.Fires.tokens {r : TickReads K} {s t : ControllerThread K}
    (h : Fires r s t) (hpoint : s.point ≠ .top) :
    ∃ new, TokenFlow s.controller t.controller new := by
  have hselect : ∀ c : WholeBodyController K, TokenFlow c (c.selectToken none none).1 [] :=
    fun c => .of_frame rfl rfl rfl
  cases h with
  | estop c h => exact absurd rfl hpoint
  | start c h => exact absurd rfl hpoint
  | missing c h => exact ⟨[], tokens_tickMissing c r.now⟩
  | reenter c hdue => exact ⟨[], .refl c⟩
  | present c hdue => exact ⟨[], .of_frame rfl rfl rfl⟩
  | discard c => exact ⟨[], tokens_enterOrigin c⟩
  | request c => exact ⟨[], .of_emit (o := .requestReinit) rfl rfl rfl rfl⟩
  | other c hs => exact ⟨[], tokens_tickState c r hs⟩
  | ungathered c hs => exact ⟨[], .refl c⟩
  | gather c hs e => exact ⟨[], .of_frame rfl rfl rfl⟩
  | wait c h => exact ⟨[], .refl c⟩
  | acked c h => exact ⟨[], .of_frame rfl rfl rfl⟩
  | leave c h => exact ⟨[], tokens_decideOwner c r⟩
  | decide c h => exact ⟨[], tokens_decideOwner c r⟩
  | origin c => exact ⟨[], tokens_enterOrigin c⟩
  | vla c hm => exact tokens_tickVla c r
  | ask c hm hdue => exact ⟨[], hselect c⟩
  | recover c hm =>
    obtain ⟨new, hnew⟩ := tokens_decodeAndPublish (c.selectToken none none).1 r
      (c.selectToken none none).2
    exact ⟨new, (hselect c).after hnew⟩
  | empty c hm hempty => exact ⟨[], .refl c⟩
  | encode c hm hne => exact tokens_tickEncoder c r
  | reseed c token =>
    obtain ⟨new, hnew⟩ := tokens_decodeAndPublish (c.requestRecoveryReseed r.recoveryTicket) r token
    have hask : TokenFlow c (c.requestRecoveryReseed r.recoveryTicket) [] :=
      .of_emit (o := .requestReinit) rfl rfl rfl rfl
    exact ⟨new, hask.after hnew⟩
  | advance c => exact ⟨[], tokens_advancePlayback c r.plan⟩
  | trace c => exact ⟨[], tokens_traceTick c r.traceEnabled⟩

namespace ControllerThread

/-- The samples that a step has recorded. The first step of a tick clears the outputs. -/
def recorded (before after : ControllerThread K) : List (MotionTokenSample K) :=
  match before.point with
  | .top => []
  | _ => after.controller.samples.drop before.controller.samples.length

/-- **A step of the controller and the token buffer.** -/
theorem next_tokens (b : ControllerThread K) (r : TickReads K) :
    (b.next r).controller.motionTokenBuf.data =
        (recorded b (b.next r)).getLast?.or b.controller.motionTokenBuf.data ∧
      (b.next r).controller.tokenSeq =
        b.controller.tokenSeq + (recorded b (b.next r)).length ∧
      (recorded b (b.next r)).map MotionTokenSample.seq =
        List.range' (b.controller.tokenSeq + 1) (recorded b (b.next r)).length := by
  obtain ⟨c, point⟩ := b
  by_cases htop : point = .top
  · subst htop
    have hkeeps : (next ⟨c, .top⟩ r).controller.motionTokenBuf = c.motionTokenBuf ∧
        (next ⟨c, .top⟩ r).controller.tokenSeq = c.tokenSeq := by
      unfold next
      dsimp only
      split <;> exact ⟨rfl, rfl⟩
    refine ⟨?_, hkeeps.2, rfl⟩
    rw [hkeeps.1]
    rfl
  · obtain ⟨new, hnew⟩ := (fires_next ⟨c, point⟩ r).tokens htop
    have hrecorded : recorded ⟨c, point⟩ (next ⟨c, point⟩ r) = new := by
      unfold recorded
      split
      · exact absurd ‹_› htop
      · rw [hnew.samples, List.drop_left]
    rw [hrecorded]
    exact ⟨hnew.data, hnew.tokenSeq, hnew.seqs⟩

end ControllerThread

end Gearsonic
