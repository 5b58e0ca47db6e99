import Gearsonic.Control.CommandFlow
import Gearsonic.Control.ControllerThread

/-!
# The newest motor command

Every path of the controller stores its commands in one buffer, and only the policy's have an
action behind them. Where the newest command is the policy's, it is the command of the last raw
action.

* `Puts`: what a step stores, and that the decoder moves with the policy's commands only.
* `NewestCommand`: the buffer and the decoder beside the newest command of a run.
-/

set_option linter.unusedSectionVars false

namespace Gearsonic

namespace WholeBodyController

variable {K : Type} [Field K] [LinearOrder K] [CMath K]

structure Puts (c c' : WholeBodyController K) (out : Option (Writer × MotorCommand K)) :
    Prop where
  commands : c'.commands = c.commands ++ out.toList
  data : c'.motorCommandBuf.data = (out.map Prod.snd).or c.motorCommandBuf.data
  policy : ∀ cmd, out = some (.policy, cmd) →
    cmd = PolicyDecoder.toMotorCommand c'.decoder.lastAction
  keeps : (∀ cmd, out ≠ some (.policy, cmd)) → c'.decoder = c.decoder

section

variable {a b c c' : WholeBodyController K} {out : Option (Writer × MotorCommand K)}

theorem Puts.trans (h : Puts a b none) (h' : Puts b c out) : Puts a c out where
  commands := by rw [h'.commands, h.commands, Option.toList_none, List.append_nil]
  data := by rw [h'.data, h.data, Option.map_none, Option.none_or]
  policy := h'.policy
  keeps := fun hout => (h'.keeps hout).trans (h.keeps nofun)

theorem Puts.andThen (h : Puts a b out) (h' : Puts b c none) : Puts a c out where
  commands := by rw [h'.commands, h.commands, Option.toList_none, List.append_nil]
  data := by rw [h'.data, h.data, Option.map_none, Option.none_or]
  policy := by
    intro cmd hcmd
    rw [h'.keeps nofun]
    exact h.policy cmd hcmd
  keeps := fun hout => (h'.keeps nofun).trans (h.keeps hout)

/-- A step that stores no command. -/
theorem Puts.of_nothing (hcommands : c'.commands = c.commands)
    (hbuf : c'.motorCommandBuf = c.motorCommandBuf) (hdecoder : c'.decoder = c.decoder) :
    Puts c c' none where
  commands := by rw [hcommands, Option.toList_none, List.append_nil]
  data := by rw [hbuf, Option.map_none, Option.none_or]
  policy := nofun
  keeps := fun _ => hdecoder

theorem Puts.of_stores (h : Stores c c' none) (hdecoder : c'.decoder = c.decoder) :
    Puts c c' none :=
  ⟨h.commands, h.data, nofun, fun _ => hdecoder⟩

theorem Puts.refl (c : WholeBodyController K) : Puts c c none := .of_nothing rfl rfl rfl

end

section

variable (c : WholeBodyController K) (r : TickReads K)

theorem puts_publish (w : Writer) (cmd : MotorCommand K) (now : TimePoint) (hw : w ≠ .policy) :
    Puts c (c.publish w cmd now) (some (w, cmd)) where
  commands := (stores_publish c w cmd now).commands
  data := rfl
  policy := by
    intro cmd' hcmd
    cases hcmd
    exact absurd rfl hw
  keeps := fun _ => rfl

theorem puts_tickEstop (now : TimePoint) : ∃ out, Puts c (c.tickEstop now) out := by
  have hstate : Puts c { c with state := .estop } none := .of_nothing rfl rfl rfl
  exact ⟨_, hstate.trans (puts_publish _ .damping (MotorCommand.damping K) now nofun)⟩

theorem puts_requestStateReseed (ticket : Nat) : Puts c (c.requestStateReseed ticket) none := by
  refine .of_nothing ?_ rfl rfl
  simp [commands, requestStateReseed, emit, Output.command]

theorem puts_enterOrigin : Puts c c.enterOrigin none :=
  .of_stores (stores_enterOrigin c) rfl

theorem puts_tickMissing (now : TimePoint) : ∃ out, Puts c (c.tickMissing now) out := by
  have hhold : ∀ b : WholeBodyController K, Puts c b none →
      ∃ out, Puts c (b.publishBaseHold now) out :=
    fun b hb => ⟨_, hb.trans (puts_publish b .baseHold _ now nofun)⟩
  unfold tickMissing
  dsimp only
  split
  · split
    · exact hhold _ (.of_nothing rfl rfl rfl)
    · exact hhold _ (.of_nothing rfl rfl rfl)
  · exact ⟨none, .of_nothing rfl rfl rfl⟩

/-- Outside CONTROL a tick can store the ramp's command. -/
theorem puts_tickState (hs : c.state ≠ .control) : ∃ out, Puts c (c.tickState r) out := by
  unfold tickState
  cases hstate : c.state with
  | control => exact absurd hstate hs
  | estop => exact ⟨none, .refl c⟩
  | waitForControl =>
    dsimp only
    unfold tickWait
    split
    · exact ⟨none, .of_nothing rfl rfl rfl⟩
    · exact ⟨none, .refl c⟩
  | init =>
    dsimp only
    unfold tickInit
    split
    · exact ⟨none, .refl c⟩
    · dsimp only
      split
      · exact ⟨_, (puts_publish c .initRamp _ r.now nofun).andThen (.of_nothing rfl rfl rfl)⟩
      · exact ⟨_, (puts_publish c .initRamp _ r.now nofun).andThen (.of_nothing rfl rfl rfl)⟩

/-- A decoded token: the command is the action's, and the action is kept. -/
theorem puts_publishDecoded {token : Token K} {encoderRan : Bool} {c' : WholeBodyController K}
    (h : c.publishDecoded token encoderRan r = some c') : ∃ out, Puts c c' out := by
  rcases stores_publishDecoded c r token encoderRan with ⟨hnone, -⟩ | ⟨b, hsome, -, hst⟩
  · rw [hnone] at h
    cases h
  · obtain rfl : b = c' := Option.some.inj (hsome.symm.trans h)
    unfold publishDecoded PolicyDecoder.step at h
    unfold TickReads.policyOut at hst
    cases haction : r.decoderOut with
    | none =>
      rw [haction] at h
      cases h
    | some action =>
      rw [haction] at h hst
      cases h
      refine ⟨_, hst.commands, hst.data, fun cmd hcmd => ?_, fun hout => ?_⟩
      · cases hcmd
        rfl
      · exact absurd rfl (hout _)

theorem puts_decodeAndPublish (token : Token K) :
    ∃ out, Puts c (c.decodeAndPublish token r) out := by
  unfold decodeAndPublish
  cases h : c.publishDecoded token false r with
  | none => exact ⟨none, .refl c⟩
  | some c' => exact puts_publishDecoded c r h

theorem puts_selectToken (e v : Option (Token K)) : Puts c (c.selectToken e v).1 none :=
  .of_nothing rfl rfl rfl

theorem puts_tickVla : ∃ out, Puts c (c.tickVla r) out := by
  unfold tickVla
  cases r.vlaData with
  | none => exact ⟨none, .refl c⟩
  | some vla =>
    obtain ⟨out, h⟩ := puts_decodeAndPublish (c.selectToken none (some vla.token)).1 r
      (c.selectToken none (some vla.token)).2
    exact ⟨out, (puts_selectToken c none _).trans h⟩

theorem puts_edges : Puts c ((c.vr3Edge r.vr3point.isSome).smplEdge r.smpl.isSome) none := by
  have hvr3 : Puts c (c.vr3Edge r.vr3point.isSome) none := by
    refine .of_stores (stores_vr3Edge c _) ?_
    unfold vr3Edge
    split <;> rfl
  refine hvr3.trans (.of_stores (stores_smplEdge _ _) ?_)
  unfold smplEdge
  split <;> rfl

theorem puts_tickEncoder : ∃ out, Puts c (c.tickEncoder r).1 out := by
  have hedges := puts_edges c r
  unfold tickEncoder
  dsimp only [TokenEncoder.step]
  cases r.encoderOut with
  | none => exact ⟨none, hedges.trans (.of_nothing rfl rfl rfl)⟩
  | some token =>
    dsimp only
    generalize hsel : selectToken _ (some token) none = sel
    have hput : Puts c sel.1 none := by
      rw [← hsel]
      exact hedges.trans (.of_nothing rfl rfl rfl)
    cases h : sel.1.publishDecoded sel.2 true r with
    | none => exact ⟨none, hput⟩
    | some c' =>
      obtain ⟨out, hout⟩ := puts_publishDecoded sel.1 r h
      exact ⟨out, hput.trans hout⟩

theorem puts_decideOwner : Puts c (c.decideOwner r) none := by
  refine .of_stores (stores_decideOwner c r) ?_
  obtain ⟨_, _, h⟩ := c.decideOwner_frame r
  rw [h]

theorem puts_advancePlayback (plan : TimestampedData (MotionSequence50Hz K)) :
    Puts c (c.advancePlayback plan) none := by
  refine .of_stores (stores_advancePlayback c plan) ?_
  obtain ⟨_, _, _, _, _, h⟩ := c.advancePlayback_frame plan
  rw [h]

theorem puts_traceTick (enabled : Bool) : Puts c (c.traceTick enabled) none := by
  refine .of_stores (stores_traceTick c enabled) ?_
  obtain ⟨_, h⟩ := c.traceTick_frame enabled
  rw [h]

end

/-! ## Over the steps -/

structure NewestCommand (c : WholeBodyController K) (command : Option (Writer × MotorCommand K)) :
    Prop where
  data : c.motorCommandBuf.data = command.map Prod.snd
  policy : ∀ cmd, command = some (.policy, cmd) →
    cmd = PolicyDecoder.toMotorCommand c.decoder.lastAction
  /-- The commands of the tick in progress are taken into account. -/
  settled : c.commands.getLast?.or command = command

/-- The newest command after a step to `c`. -/
def newestCommand (c : WholeBodyController K) (command : Option (Writer × MotorCommand K)) :
    Option (Writer × MotorCommand K) :=
  c.commands.getLast?.or command

variable {c c' : WholeBodyController K} {command out : Option (Writer × MotorCommand K)}

theorem NewestCommand.init (auto : Bool) :
    NewestCommand ({ autoStart := auto } : WholeBodyController K) none :=
  ⟨rfl, nofun, rfl⟩

/-- The top of the loop forgets the outputs of the tick before. -/
theorem NewestCommand.clear (h : NewestCommand c command) :
    NewestCommand { c with outputs := [] } command :=
  ⟨h.data, h.policy, rfl⟩

theorem NewestCommand.puts (h : NewestCommand c command) (hp : Puts c c' out) :
    NewestCommand c' (c'.newestCommand command) := by
  have hsettled := h.settled
  unfold newestCommand
  rw [hp.commands]
  cases out with
  | none =>
    rw [Option.toList_none, List.append_nil, hsettled]
    refine ⟨?_, fun cmd hcmd => ?_, ?_⟩
    · rw [hp.data, h.data, Option.map_none, Option.none_or]
    · rw [hp.keeps nofun]
      exact h.policy cmd hcmd
    · rw [hp.commands, Option.toList_none, List.append_nil, hsettled]
  | some x =>
    rw [Option.toList_some, List.getLast?_concat, Option.some_or]
    refine ⟨?_, fun cmd hcmd => hp.policy cmd hcmd, ?_⟩
    · rw [hp.data, Option.map_some, Option.some_or]
    · rw [hp.commands, Option.toList_some, List.getLast?_concat, Option.some_or]

/-- **Every step keeps it.** -/
theorem NewestCommand.of_fires {r : TickReads K} {t t' : ControllerThread K}
    (h : NewestCommand t.controller command) (hf : ControllerThread.Fires r t t') :
    NewestCommand t'.controller (t'.controller.newestCommand command) := by
  have hput : ∀ {c c' : WholeBodyController K}, NewestCommand c command →
      (∃ out, Puts c c' out) → NewestCommand c' (c'.newestCommand command) :=
    fun hc ⟨_, hp⟩ => hc.puts hp
  cases hf with
  | estop c he => exact hput h.clear (puts_tickEstop _ r.now)
  | start c he => exact h.clear.puts (.refl _)
  | missing c hm => exact hput h (puts_tickMissing c r.now)
  | reenter c hdue => exact h.puts (.refl c)
  | present c hdue => exact h.puts (.of_nothing rfl rfl rfl)
  | discard c => exact h.puts (puts_enterOrigin c)
  | request c => exact h.puts (puts_requestStateReseed c _)
  | other c hs => exact hput h (puts_tickState c r hs)
  | ungathered c hs => exact h.puts (.refl c)
  | gather c hs e => exact h.puts (.of_nothing rfl rfl rfl)
  | wait c hw => exact h.puts (.refl c)
  | acked c hw => exact h.puts (.of_nothing rfl rfl rfl)
  | leave c hl => exact h.puts (puts_decideOwner c r)
  | decide c hl => exact h.puts (puts_decideOwner c r)
  | origin c => exact h.puts (puts_enterOrigin c)
  | vla c hm => exact hput h (puts_tickVla c r)
  | ask c hm hdue => exact h.puts (puts_selectToken c none none)
  | recover c hm =>
    obtain ⟨out, hp⟩ := puts_decodeAndPublish (c.selectToken none none).1 r
      (c.selectToken none none).2
    exact h.puts ((puts_selectToken c none none).trans hp)
  | empty c hm hempty => exact h.puts (.refl c)
  | encode c hm hne => exact hput h (puts_tickEncoder c r)
  | reseed c token =>
    obtain ⟨out, hp⟩ := puts_decodeAndPublish (c.requestRecoveryReseed r.recoveryTicket) r token
    exact h.puts ((Puts.of_stores (stores_requestRecoveryReseed c _) rfl).trans hp)
  | advance c => exact h.puts (puts_advancePlayback c r.plan)
  | trace c => exact h.puts (puts_traceTick c r.traceEnabled)

end WholeBodyController

end Gearsonic
