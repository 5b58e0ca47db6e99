import Gearsonic.System.EstopProgress
import Gearsonic.Unitree.UnitreeCommandWriter

/-!
# The command wire

The controller and the emergency stop (`StopSystem`) with the LowCmd writer that polls the
controller's command buffer. Every step of the one can fall between two steps of the other.
`stored`, all that the buffer ever held, is not the program's.

* `Fires.stores_hold`: apart from damping, the controller stores pose holds with the policy's
  gains.
* `Refines.step`: the writer is a poller of what the controller stores.
* `lowcmd_wire`: what a message on the wire can be, in which order the messages come, and how
  they end.
* `estop_wire`: what is written once the stop is latched.
-/

set_option linter.unusedSectionVars false

namespace Gearsonic

variable {K : Type} [Field K] [LinearOrder K] [CMath K]

open WholeBodyController Polling

/-! ## What the controller stores -/

/-- A pose held with the policy's gains. -/
def MotorCommand.IsHold (cmd : MotorCommand K) : Prop := ∃ q, cmd = .withPolicyGains q

/-- What is stored, if anything, is a pose hold. -/
def StoresHold (out : Option (Writer × MotorCommand K)) : Prop :=
  ∀ w cmd, out = some (w, cmd) → cmd.IsHold

theorem storesHold_none : StoresHold (K := K) none := nofun

theorem storesHold_policyOut (r : TickReads K) : StoresHold r.policyOut := by
  intro w cmd h
  obtain ⟨action, -, haction⟩ := Option.map_eq_some_iff.mp h
  cases haction
  exact ⟨_, rfl⟩

theorem StoresHold.bind {α : Type} {out : Option (Writer × MotorCommand K)} (h : StoresHold out)
    (read : Option α) : StoresHold (read.bind fun _ => out) := by
  cases read with
  | none => exact storesHold_none
  | some a => exact h

theorem storesHold_ownerOut (mode : Mode) (empty : Bool) (r : TickReads K) :
    StoresHold (ownerOut mode empty r) := by
  have hpolicy := storesHold_policyOut r
  have hplayback : StoresHold (if empty then none else r.encoderOut.bind fun _ => r.policyOut) := by
    split
    · exact storesHold_none
    · exact hpolicy.bind _
  cases mode with
  | vla => exact hpolicy.bind _
  | recovering => exact hpolicy
  | normal => exact hplayback
  | teleop => exact hplayback

theorem storesHold_stateOut (c : WholeBodyController K) (r : TickReads K) :
    StoresHold (c.stateOut r) := by
  unfold stateOut
  cases c.state with
  | init =>
    intro w cmd h
    obtain ⟨st, -, hst⟩ := Option.map_eq_some_iff.mp h
    cases hst
    exact ⟨_, rfl⟩
  | control =>
    unfold controlOut
    cases r.robotState with
    | none => exact storesHold_none
    | some st =>
      dsimp only
      split
      · exact storesHold_none
      · exact storesHold_ownerOut _ _ r
  | waitForControl => exact storesHold_none
  | estop => exact storesHold_none

theorem tickMissing_hold (c : WholeBodyController K) (now : TimePoint) :
    ∃ out, StepStores c (c.tickMissing now) out ∧ StoresHold out := by
  have hhold : ∀ q, StoresHold (some (Writer.baseHold, MotorCommand.withPolicyGains (K := K) q)) := by
    intro q w cmd h
    cases h
    exact ⟨q, rfl⟩
  unfold tickMissing
  dsimp only
  split
  · split
    · exact ⟨_, StepStores.of_publish rfl, hhold _⟩
    · exact ⟨_, StepStores.of_publish rfl, hhold _⟩
  · exact ⟨none, StepStores.of_eq rfl rfl, storesHold_none⟩

open StepStores in
/-- **Within a tick the controller stores pose holds only.** -/
theorem ControllerThread.Fires.stores_hold {r : TickReads K} {s t : ControllerThread K}
    (h : Fires r s t) (htop : s.point.isTop = false) :
    ∃ out, StepStores s.controller t.controller out ∧ StoresHold out := by
  have hpolicy := storesHold_policyOut r
  cases h with
  | estop c h => cases htop
  | start c h => cases htop
  | missing c h => exact tickMissing_hold c r.now
  | reenter c hdue => exact ⟨none, refl c, storesHold_none⟩
  | present c hdue => exact ⟨none, of_eq rfl rfl, storesHold_none⟩
  | discard c => exact ⟨none, of_stores (stores_enterOrigin c), storesHold_none⟩
  | request c =>
    have hreq : Stores { c with stateMissingTicks := 0 } (c.requestStateReseed r.stateTicket)
        none := .of_emit rfl rfl rfl rfl rfl rfl
    exact ⟨none, ⟨hreq.commands, hreq.data⟩, storesHold_none⟩
  | other c hs => exact ⟨_, of_stores (stores_tickState c r), storesHold_stateOut c r⟩
  | ungathered c hs => exact ⟨none, refl c, storesHold_none⟩
  | gather c hs e => exact ⟨none, of_eq rfl rfl, storesHold_none⟩
  | wait c h => exact ⟨none, refl c, storesHold_none⟩
  | acked c h => exact ⟨none, of_eq rfl rfl, storesHold_none⟩
  | leave c h => exact ⟨none, of_stores (stores_decideOwner c r), storesHold_none⟩
  | decide c h => exact ⟨none, of_stores (stores_decideOwner c r), storesHold_none⟩
  | origin c => exact ⟨none, of_stores (stores_enterOrigin c), storesHold_none⟩
  | vla c hm => exact ⟨_, of_stores (stores_tickVla c r), hpolicy.bind _⟩
  | ask c hm hdue => exact ⟨none, of_stores (stores_selectToken c none none), storesHold_none⟩
  | recover c hm =>
    exact ⟨_, of_stores ((stores_selectToken c none none).trans
      (stores_decodeAndPublish _ r _)), hpolicy⟩
  | empty c hm hempty => exact ⟨none, refl c, storesHold_none⟩
  | encode c hm hne => exact ⟨_, of_stores (stores_tickEncoder c r).1, hpolicy.bind _⟩
  | reseed c token =>
    exact ⟨_, of_stores ((stores_requestRecoveryReseed c r.recoveryTicket).trans
      (stores_decodeAndPublish _ r token)), hpolicy⟩
  | advance c => exact ⟨none, of_stores (stores_advancePlayback c r.plan), storesHold_none⟩
  | trace c => exact ⟨none, of_stores (stores_traceTick c r.traceEnabled), storesHold_none⟩

namespace StopSystem

variable {s t : StopSystem K} {a : Act K}

/-- What the loop stores is damping or a pose hold, and the buffer holds the last of it. -/
theorem stored_next (b : ControllerThread K) (r : TickReads K) :
    (b.next r).controller.motorCommandBuf.data =
        (stored b (b.next r)).getLast?.or b.controller.motorCommandBuf.data ∧
      ∀ cmd ∈ stored b (b.next r), cmd = MotorCommand.damping K ∨ cmd.IsHold := by
  cases htop : b.point.isTop with
  | true =>
    obtain ⟨c, point⟩ := b
    obtain rfl := eq_top htop
    cases hr : r.estop with
    | true =>
      have hr' : r = { r with estop := true } := by rw [← hr]
      rw [hr']
      obtain ⟨-, hbuf, hstored⟩ := next_top (b := ⟨c, .top⟩) (r := r) htop
      rw [hbuf, hstored]
      exact ⟨rfl, fun cmd hcmd => Or.inl (List.mem_singleton.mp hcmd)⟩
    | false =>
      have hnone : stored ⟨c, .top⟩ (ControllerThread.next ⟨c, .top⟩ r) = [] := by
        simp [stored, next_start (b := ⟨c, .top⟩) htop hr]
      rw [hnone]
      refine ⟨?_, fun cmd hcmd => absurd hcmd List.not_mem_nil⟩
      simp only [ControllerThread.next, hr, Bool.false_eq_true, if_false]
      rfl
  | false =>
    obtain ⟨out, hst, hhold⟩ := (ControllerThread.fires_next b r).stores_hold htop
    rw [stored_of_stores htop hst, hst.2]
    cases out with
    | none => exact ⟨rfl, fun cmd hcmd => absurd hcmd List.not_mem_nil⟩
    | some v =>
      refine ⟨rfl, fun cmd hcmd => Or.inr ?_⟩
      obtain rfl := List.mem_singleton.mp hcmd
      exact hhold v.1 v.2 rfl

/-- The buffer holds the last command that was stored. -/
theorem storedBy_spec (hstep : s.step a = some t) :
    t.body.controller.motorCommandBuf.data =
        (storedBy s a t).getLast?.or s.body.controller.motorCommandBuf.data ∧
      ∀ cmd ∈ storedBy s a t, cmd = MotorCommand.damping K ∨ cmd.IsHold := by
  cases controls_step hstep with
  | none hpoint hbuf hstored hlate hexit =>
    rw [hstored, hbuf]
    exact ⟨rfl, nofun⟩
  | loop r ha hlife ht =>
    subst ha
    subst ht
    rw [storedBy_loop hlife, (stepBody_body s r).1]
    exact stored_next s.body _
  | join now ha hlife ht =>
    subst ha
    subst ht
    rw [(stepJoin_body s now).1]
    exact ⟨rfl, fun cmd hcmd => Or.inl (List.mem_singleton.mp hcmd)⟩

end StopSystem

/-! ## The wire -/

structure LowCmdWire (K : Type) [Field K] where
  system : StopSystem K := {}
  writer : UnitreeCommandWriter K := {}
  stored : List (MotorCommand K) := []

namespace LowCmdWire

inductive Act (K : Type) [Field K] where
  | system (a : StopSystem.Act K)
  | start (first : ModeReply) (after : Fin 5 → ModeReply)
  | loop (modeMachine : Option Nat)
  | stop
  | shutdown (modeMachine : Option Nat)

/-- A label that is a step of the controller's loop. -/
def Act.isBody : Act K → Bool
  | .system b => b.isBody
  | _ => false

/-- The command buffer. -/
def buffer (w : LowCmdWire K) : Option (MotorCommand K) :=
  w.system.body.controller.motorCommandBuf.data

def step (w : LowCmdWire K) : Act K → Option (LowCmdWire K)
  | .system a =>
    (w.system.step a).map fun s =>
      { w with system := s, stored := w.stored ++ StopSystem.storedBy w.system a s }
  | .start first after =>
    match w.writer.point with
    | .idle => some { w with writer := w.writer.start first after }
    | _ => none
  | .loop modeMachine =>
    (w.writer.loop w.buffer modeMachine).map fun writer => { w with writer := writer }
  | .stop => some { w with writer := { w.writer with stop := true } }
  | .shutdown modeMachine =>
    (w.writer.shutdown modeMachine).map fun writer => { w with writer := writer }

variable {w w' u : LowCmdWire K} {l : Link (MotorCommand K)} {a : Act K} {as : List (Act K)}

/-! ## The writer polls the controller -/

/-- The writer is the poller of a link over what the controller has stored. -/
structure Refines (w : LowCmdWire K) (l : Link (MotorCommand K)) : Prop where
  stored : l.stored = w.stored
  polls : w.writer.Polls l
  buffer : w.buffer = w.stored.getLast?

theorem Refines.init : Refines ({} : LowCmdWire K) {} := ⟨rfl, .init [], rfl⟩

/-- The producer's moves: everything is stored, in order. -/
theorem run_store (l : Link (MotorCommand K)) (cmds : List (MotorCommand K)) :
    (l.run UnitreeCommandWriter.passAll (cmds.map Move.store)).stored = l.stored ++ cmds ∧
      (l.run UnitreeCommandWriter.passAll (cmds.map Move.store)).held = l.held ∧
      (l.run UnitreeCommandWriter.passAll (cmds.map Move.store)).sent = l.sent := by
  induction cmds generalizing l with
  | nil => exact ⟨(List.append_nil _).symm, rfl, rfl⟩
  | cons cmd cmds ih =>
    obtain ⟨hstored, hheld, hsent⟩ := ih (l.move UnitreeCommandWriter.passAll (.store cmd))
    rw [List.map_cons, Link.run_cons]
    refine ⟨?_, hheld, hsent⟩
    rw [hstored]
    exact List.append_assoc _ _ _

/-- **One step of the system is a run of the link.** -/
theorem Refines.step (h : Refines w l) (hstep : w.step a = some w') :
    ∃ moves, Refines w' (l.run UnitreeCommandWriter.passAll moves) := by
  obtain ⟨hstored, hpolls, hbuffer⟩ := h
  cases a with
  | system a =>
    obtain ⟨s, hs, rfl⟩ := Option.map_eq_some_iff.mp hstep
    obtain ⟨hstored', hheld, hsent⟩ := run_store l (StopSystem.storedBy w.system a s)
    refine ⟨(StopSystem.storedBy w.system a s).map Move.store, ?_, ?_, ?_⟩
    · rw [hstored', hstored]
    · exact hpolls.of_sent hheld hsent
    · refine (StopSystem.storedBy_spec hs).1.trans ?_
      rw [List.getLast?_append]
      exact congrArg _ hbuffer
  | start first after =>
    simp only [LowCmdWire.step] at hstep
    split at hstep
    · rename_i hidle
      cases hstep
      exact ⟨[], hstored, hpolls.start hidle, hbuffer⟩
    · cases hstep
  | loop modeMachine =>
    obtain ⟨writer, hwriter, rfl⟩ := Option.map_eq_some_iff.mp hstep
    rw [hbuffer, ← hstored] at hwriter
    obtain ⟨moves, hpolls', hnone⟩ := hpolls.loop hwriter
    refine ⟨moves, ?_, hpolls', hbuffer⟩
    rw [Link.run_stored, hnone, List.append_nil, hstored]
  | stop =>
    cases hstep
    exact ⟨[], hstored, ⟨hpolls.held, hpolls.wire⟩, hbuffer⟩
  | shutdown modeMachine =>
    obtain ⟨writer, hwriter, rfl⟩ := Option.map_eq_some_iff.mp hstep
    exact ⟨[], hstored, hpolls.shutdown hwriter, hbuffer⟩

/-- **A run of the system is a run of the link.** -/
theorem Refines.run (h : Refines w l)
    (hrun : Transition.Reachable LowCmdWire.step Transition.Always w w') :
    ∃ moves, Refines w' (l.run UnitreeCommandWriter.passAll moves) := by
  induction hrun with
  | refl => exact ⟨[], h⟩
  | tail _ hlast ih =>
    obtain ⟨a, -, ha⟩ := hlast
    obtain ⟨moves, hmoves⟩ := ih
    obtain ⟨moves', hmoves'⟩ := hmoves.step ha
    refine ⟨moves ++ moves', ?_⟩
    rw [Link.run_append]
    exact hmoves'

/-- What a step does to the controller and to the buffer. -/
theorem system_step (hstep : w.step a = some w') :
    (w'.system = w.system ∧ w'.stored = w.stored ∧ a.isBody = false) ∨
      ∃ b, a = .system b ∧ w.system.step b = some w'.system ∧
        w'.stored = w.stored ++ StopSystem.storedBy w.system b w'.system := by
  cases a with
  | system a =>
    obtain ⟨s, hs, rfl⟩ := Option.map_eq_some_iff.mp hstep
    exact Or.inr ⟨a, rfl, hs, rfl⟩
  | start first after =>
    simp only [LowCmdWire.step] at hstep
    split at hstep
    · cases hstep
      exact Or.inl ⟨rfl, rfl, rfl⟩
    · cases hstep
  | loop modeMachine =>
    obtain ⟨writer, -, rfl⟩ := Option.map_eq_some_iff.mp hstep
    exact Or.inl ⟨rfl, rfl, rfl⟩
  | stop =>
    cases hstep
    exact Or.inl ⟨rfl, rfl, rfl⟩
  | shutdown modeMachine =>
    obtain ⟨writer, -, rfl⟩ := Option.map_eq_some_iff.mp hstep
    exact Or.inl ⟨rfl, rfl, rfl⟩

/-- An invariant of the controller and its stop. -/
theorem system_invariant {I : StopSystem K → Prop}
    (hstep : ∀ s b t, I s → s.step b = some t → I t)
    (h : Transition.Reachable step Transition.Always w w') (h0 : I w.system) : I w'.system := by
  refine h.invariant (I := fun u => I u.system) h0 ?_
  rintro u a v hI - ha
  rcases system_step ha with ⟨hsame, -⟩ | ⟨b, -, hb, -⟩
  · rw [hsame]
    exact hI
  · exact hstep _ b _ hI hb

/-! ## What a message can be -/

local instance atLeastTwo_eight : Nat.AtLeastTwo 8 := ⟨by decide⟩

/-- All motors are on, and damped without a target. -/
def Damps (msg : SdkLowCmd K) : Prop :=
  ∀ i, msg.motorCmd i = { mode := 1, q := 0, dq := 0, kp := 0, kd := 8, tau := 0 }

/-- All motors are on, and hold a pose with the policy's gains. -/
def Holds (msg : SdkLowCmd K) : Prop :=
  ∃ q : Joints K, ∀ i, msg.motorCmd i =
    { mode := 1, q := q i, dq := 0, kp := g1Kps K i, kd := g1Kds K i, tau := 0 }

/-- What the controller has stored is damping or a pose hold. -/
def StoredSafe (w : LowCmdWire K) : Prop :=
  ∀ cmd ∈ w.stored, cmd = MotorCommand.damping K ∨ cmd.IsHold

theorem StoredSafe.step (h : StoredSafe w) (hstep : w.step a = some w') : StoredSafe w' := by
  rcases system_step hstep with ⟨-, hstored, -⟩ | ⟨b, -, hb, hstored⟩
  · unfold StoredSafe
    rw [hstored]
    exact h
  · intro cmd hcmd
    rw [hstored] at hcmd
    rcases List.mem_append.mp hcmd with hold | hnew
    · exact h cmd hold
    · exact (StopSystem.storedBy_spec hb).2 cmd hnew

theorem lowCmd_safe {cmd : MotorCommand K} (h : cmd = MotorCommand.damping K ∨ cmd.IsHold)
    (modeMachine : Option Nat) :
    Damps (UnitreeCommandWriter.lowCmd cmd modeMachine) ∨
      Holds (UnitreeCommandWriter.lowCmd cmd modeMachine) := by
  rcases h with rfl | ⟨q, rfl⟩
  · exact Or.inl fun _ => rfl
  · exact Or.inr ⟨q, fun _ => rfl⟩

/-- The writer has stopped for good. -/
theorem stopped_wire (hstopped : w.writer.point = .stopped)
    (h : Transition.Reachable step Transition.Always w u) :
    u.writer.point = .stopped ∧ u.writer.wire = w.writer.wire := by
  refine h.invariant (I := fun u => u.writer.point = .stopped ∧ u.writer.wire = w.writer.wire)
    ⟨hstopped, rfl⟩ ?_
  rintro u a v ⟨hpoint, hwire⟩ - hstep
  cases a with
  | system a =>
    obtain ⟨s, hs, rfl⟩ := Option.map_eq_some_iff.mp hstep
    exact ⟨hpoint, hwire⟩
  | start first after => simp [LowCmdWire.step, hpoint] at hstep
  | loop modeMachine => simp [LowCmdWire.step, UnitreeCommandWriter.loop, hpoint] at hstep
  | stop =>
    cases hstep
    exact ⟨hpoint, hwire⟩
  | shutdown modeMachine =>
    simp [LowCmdWire.step, UnitreeCommandWriter.shutdown, hpoint] at hstep

/-- **The command wire.** In every reachable state: each message switches all motors on and is
damping or a pose hold with the policy's gains, without velocity or torque; the loop's messages
carry commands that the controller stored, never one from before an earlier message's; and a writer
that has stopped has put five damping messages behind them, after which nothing is written. -/
theorem lowcmd_wire (h : Transition.Reachable step Transition.Always {} w) :
    (∀ msg ∈ w.writer.packets, msg.modePr = 0 ∧ (Damps msg ∨ Holds msg)) ∧
      (∃ polled, InOrder w.stored polled ∧ w.writer.wire.map Prod.fst =
        polled ++ List.replicate w.writer.burst (MotorCommand.damping K)) ∧
      (w.writer.point = .stopped → w.writer.burst = 5 ∧
        ∀ u, Transition.Reachable step Transition.Always w u →
          u.writer.wire = w.writer.wire) := by
  obtain ⟨moves, href⟩ := Refines.init.run h
  have hsafe : StoredSafe w := h.invariant nofun fun _ _ _ hinv _ hstep => hinv.step hstep
  have horder := Link.sent_inOrder UnitreeCommandWriter.passAll moves
  rw [href.stored] at horder
  refine ⟨?_, ⟨_, horder, href.polls.wire⟩, ?_⟩
  · intro msg hmsg
    obtain ⟨call, hcall, rfl⟩ := List.mem_map.mp hmsg
    refine ⟨rfl, lowCmd_safe ?_ call.2⟩
    have hfst : call.1 ∈ w.writer.wire.map Prod.fst := List.mem_map_of_mem hcall
    rw [href.polls.wire] at hfst
    rcases List.mem_append.mp hfst with hsent | hburst
    · exact hsafe _ (horder.mem hsent)
    · exact Or.inl (List.eq_of_mem_replicate hburst)
  · intro hstopped
    refine ⟨by rw [UnitreeCommandWriter.burst, hstopped]; rfl, fun u hu => ?_⟩
    exact (stopped_wire hstopped hu).2

/-- Two starts, a tick of the INIT ramp up to its command, and the writer has it in hand. -/
def wireRun : List (Act ℚ) :=
  [.start {} fun _ => {}, .system (.start false)] ++
    List.replicate 3 (.system (.body StopSystem.rampTick)) ++ List.replicate 2 (.loop none)

/-- The command goes out, and the writer is stopped. -/
theorem lowcmd_wire_stopped : ∃ w : LowCmdWire ℚ, w.writer.wire.length = 6 ∧
    (∀ msg ∈ w.writer.packets, msg.modePr = 0 ∧ (Damps msg ∨ Holds msg)) ∧
      ∃ polled, InOrder w.stored polled ∧ w.writer.wire.map Prod.fst =
        polled ++ List.replicate 5 (MotorCommand.damping ℚ) := by
  have hrun : (Transition.run step {} (wireRun ++ [.loop (some 5), .stop, .loop none] ++
      List.replicate 6 (.shutdown none))).any (fun w =>
        decide (w.writer.wire.length = 6 ∧ w.writer.burst = 5)) = true := by decide +kernel
  obtain ⟨w, hw, hdone⟩ := Transition.reachable_of_run_any hrun
  obtain ⟨hlength, hburst⟩ := of_decide_eq_true hdone
  obtain ⟨hsafe, ⟨polled, horder, hwire⟩, -⟩ := lowcmd_wire hw
  rw [hburst] at hwire
  exact ⟨w, hlength, hsafe, polled, horder, hwire⟩

/-! ## The wire after the latch -/

/-- `since` is what a step, or a run, has added to the wire; in the burst it is damping. -/
def Adds (w w' : LowCmdWire K) (since : List (MotorCommand K × Option Nat)) : Prop :=
  w'.writer.wire = w.writer.wire ++ since ∧ (0 < w.writer.burst → 0 < w'.writer.burst ∧
    ∀ call ∈ since, call.1 = MotorCommand.damping K)

theorem Adds.refl (w : LowCmdWire K) : Adds w w [] :=
  ⟨(List.append_nil _).symm, fun h => ⟨h, nofun⟩⟩

theorem Adds.trans {xs ys : List (MotorCommand K × Option Nat)} (h : Adds w w' xs)
    (h' : Adds w' u ys) : Adds w u (xs ++ ys) := by
  refine ⟨by rw [h'.1, h.1, List.append_assoc], fun hburst => ?_⟩
  obtain ⟨hburst', hxs⟩ := h.2 hburst
  obtain ⟨hburst'', hys⟩ := h'.2 hburst'
  exact ⟨hburst'', fun call hcall => (List.mem_append.mp hcall).elim (hxs call) (hys call)⟩

theorem adds_step (hstep : w.step a = some w') : ∃ since, Adds w w' since := by
  cases a with
  | system a =>
    obtain ⟨s, hs, rfl⟩ := Option.map_eq_some_iff.mp hstep
    exact ⟨[], .refl w⟩
  | start first after =>
    simp only [LowCmdWire.step] at hstep
    split at hstep
    · rename_i hidle
      cases hstep
      have hburst : w.writer.burst = 0 := by rw [UnitreeCommandWriter.burst, hidle]
      exact ⟨[], by simp, fun hpos => absurd hburst hpos.ne'⟩
    · cases hstep
  | loop modeMachine =>
    obtain ⟨writer, hwriter, rfl⟩ := Option.map_eq_some_iff.mp hstep
    obtain ⟨hburst, since, hwire⟩ := UnitreeCommandWriter.loop_wire hwriter
    exact ⟨since, hwire, fun hpos => absurd hburst hpos.ne'⟩
  | stop =>
    cases hstep
    exact ⟨[], .refl w⟩
  | shutdown modeMachine =>
    obtain ⟨writer, hwriter, rfl⟩ := Option.map_eq_some_iff.mp hstep
    obtain ⟨since, hwire, hdamping, hburst⟩ := UnitreeCommandWriter.shutdown_wire hwriter
    exact ⟨since, hwire, fun hpos => ⟨hburst hpos, hdamping⟩⟩

theorem adds_run (h : Transition.Reachable step Transition.Always w w') :
    ∃ since, Adds w w' since := by
  induction h with
  | refl => exact ⟨[], .refl w⟩
  | tail _ hlast ih =>
    obtain ⟨a, -, ha⟩ := hlast
    obtain ⟨xs, hxs⟩ := ih
    obtain ⟨ys, hys⟩ := adds_step ha
    exact ⟨xs ++ ys, hxs.trans hys⟩

/-- **The wire follows the buffer.** Where the buffer holds a command with `P`, and only such
commands and damping are stored, these alone are written, except that the command in the writer's
hand may come first. -/
theorem Refines.settles {P : MotorCommand K → Prop} (href : Refines w l)
    (hrun : Transition.Reachable LowCmdWire.step Transition.Always w w')
    (hbuffer : ∀ cmd, w.buffer = some cmd → P cmd) (hdamping : P (MotorCommand.damping K))
    {new : List (MotorCommand K)} (hnew : w'.stored = w.stored ++ new)
    (hstored : ∀ cmd ∈ new, P cmd) :
    ∃ hand late, w'.writer.wire = w.writer.wire ++ (hand ++ late) ∧
      (hand.map Prod.fst).Sublist w.writer.held.toList ∧ ∀ call ∈ late, P call.1 := by
  obtain ⟨since, hwire, hburst⟩ := adds_run hrun
  cases hzero : w.writer.burst with
  | succ n =>
    obtain ⟨-, hsince⟩ := hburst (by omega)
    refine ⟨[], since, hwire, List.nil_sublist _, fun call hcall => ?_⟩
    rw [hsince call hcall]
    exact hdamping
  | zero =>
    obtain ⟨moves, href'⟩ := href.run hrun
    have hvalues : moves.filterMap Move.value = new := by
      refine @List.append_cancel_left _ l.stored _ _ ?_
      rw [← Link.run_stored UnitreeCommandWriter.passAll, href'.stored, hnew, href.stored]
    obtain ⟨hand, late, hsent, hhand, hlate⟩ :=
      Link.sent_settles UnitreeCommandWriter.passAll (P := P) (s := l)
        (fun cmd hcmd => hbuffer cmd (by rw [href.buffer, ← href.stored, hcmd]))
        (fun m hm cmd hcmd => hstored cmd (by
          rw [← hvalues]
          exact List.mem_filterMap.mpr ⟨m, hm, hcmd⟩))
    -- all that the link has sent is on the wire, and the burst follows it
    have hold := href.polls.wire
    have hall := href'.polls.wire
    rw [hzero, List.replicate_zero, List.append_nil] at hold
    rw [hwire, List.map_append, hold, hsent, List.append_assoc] at hall
    obtain hsince := List.append_cancel_left hall
    rw [List.append_assoc] at hsince
    obtain ⟨front, rest, rfl, hfront, hrest⟩ := List.map_eq_append_iff.mp hsince
    refine ⟨front, rest, hwire, ?_, fun call hcall => ?_⟩
    · rw [hfront, href.polls.held]
      exact hhand
    · have hmem : call.1 ∈ rest.map Prod.fst := List.mem_map_of_mem hcall
      rw [hrest] at hmem
      rcases List.mem_append.mp hmem with hmem | hmem
      · exact hlate _ hmem
      · rw [List.eq_of_mem_replicate hmem]
        exact hdamping

/-- Since the latch at `w`, damping was stored, or what the tick in flight had to store. -/
theorem stored_latched (hinv : StopSystem.BodyInv w.system)
    (hl : w.system.handler.estop = true)
    (h : Transition.Reachable step Transition.Always w w') :
    ∃ new, w'.stored = w.stored ++ new ∧
      ∀ cmd ∈ new, cmd = MotorCommand.damping K ∨ cmd ∈ w'.system.bodyLate := by
  have hall : StopSystem.BodyInv w'.system ∧ w'.system.handler.estop = true ∧
      ∃ new, w'.stored = w.stored ++ new ∧
        ∀ cmd ∈ new, cmd = MotorCommand.damping K ∨ cmd ∈ w'.system.bodyLate := by
    refine h.invariant (I := fun u => StopSystem.BodyInv u.system ∧
      u.system.handler.estop = true ∧ ∃ new, u.stored = w.stored ++ new ∧
        ∀ cmd ∈ new, cmd = MotorCommand.damping K ∨ cmd ∈ u.system.bodyLate)
      ⟨hinv, hl, [], (List.append_nil _).symm, nofun⟩ ?_
    rintro u a v ⟨hinv, hl, new, hstored, hnew⟩ - hstep
    rcases system_step hstep with ⟨hsame, hsame', -⟩ | ⟨b, -, hb, hstored'⟩
    · rw [hsame, hsame']
      exact ⟨hinv, hl, new, hstored, hnew⟩
    · refine ⟨hinv.of_step hb, StopSystem.step_latched hl hb,
        new ++ StopSystem.storedBy u.system b v.system, ?_, fun cmd hcmd => ?_⟩
      · rw [hstored', hstored, List.append_assoc]
      · rcases List.mem_append.mp hcmd with hcmd | hcmd
        · exact (hnew cmd hcmd).imp_right (StopSystem.bodyLate_mono hb cmd)
        · exact StopSystem.storedBy_latched hinv hl hb cmd hcmd
  exact hall.2.2

/-- From silence on, damping is stored. -/
theorem stored_silenced (hsil : StopSystem.Silenced w.system)
    (h : Transition.Reachable step Transition.Always w w') :
    ∃ new, w'.stored = w.stored ++ new ∧ ∀ cmd ∈ new, cmd = MotorCommand.damping K := by
  have hall : StopSystem.Silenced w'.system ∧ ∃ new, w'.stored = w.stored ++ new ∧
      ∀ cmd ∈ new, cmd = MotorCommand.damping K := by
    refine h.invariant (I := fun u => StopSystem.Silenced u.system ∧
      ∃ new, u.stored = w.stored ++ new ∧ ∀ cmd ∈ new, cmd = MotorCommand.damping K)
      ⟨hsil, [], (List.append_nil _).symm, nofun⟩ ?_
    rintro u a v ⟨hsil, new, hstored, hnew⟩ - hstep
    rcases system_step hstep with ⟨hsame, hsame', -⟩ | ⟨b, -, hb, hstored'⟩
    · rw [hsame, hsame']
      exact ⟨hsil, new, hstored, hnew⟩
    · obtain ⟨hsil', hdamping⟩ := hsil.step hb
      refine ⟨hsil', new ++ StopSystem.storedBy u.system b v.system, ?_, fun cmd hcmd => ?_⟩
      · rw [hstored', hstored, List.append_assoc]
      · exact (List.mem_append.mp hcmd).elim (hnew cmd) (hdamping cmd)
  exact hall.2

theorem silencing_run (hinv : StopSystem.BodyInv w.system) (hl : w.system.handler.estop = true)
    (hrun : Transition.run step w as = some w') :
    StopSystem.Silencing w'.system (as.countP Act.isBody) := by
  have h0 : StopSystem.Silencing w.system 0 := Or.inr (Or.inr (ControllerPoint.rank_le _))
  have hrun' := Transition.run_counted (p := Act.isBody)
    (I := fun w : LowCmdWire K => StopSystem.BodyInv w.system ∧ w.system.handler.estop = true)
    (P := fun w n => StopSystem.Silencing w.system n) ?_ ?_ ⟨hinv, hl⟩ h0 hrun
  · rwa [Nat.zero_add] at hrun'
  · rintro u a v ⟨hinv, hl⟩ hstep
    rcases system_step hstep with ⟨hsame, -, -⟩ | ⟨b, -, hb, -⟩
    · rw [hsame]
      exact ⟨hinv, hl⟩
    · exact ⟨hinv.of_step hb, StopSystem.step_latched hl hb⟩
  · rintro u a v n ⟨hinv, hl⟩ hsil hstep
    rcases system_step hstep with ⟨hsame, -, hbody⟩ | ⟨b, rfl, hb, -⟩
    · rw [hsame, hbody]
      exact hsil
    · exact hsil.step hinv hl hb

/-- **The emergency stop on the wire.** Once the stop is latched, at `w`: what is written is damping,
or the command that was in the writer's hand, or the one that was in the buffer, or the one command
that the tick in flight still stored. When the controller's loop has taken eleven more steps, or
`stop()` has ended, only damping is written from then on, behind the command in the writer's hand,
whatever happens. -/
theorem estop_wire (h : Transition.Reachable step Transition.Always {} w)
    (hl : w.system.handler.estop = true) (hrun : Transition.run step w as = some w') :
    (w'.system.bodyLate.length ≤ 1 ∧ ∃ since, w'.writer.wire = w.writer.wire ++ since ∧
      ∀ call ∈ since, call.1 = MotorCommand.damping K ∨ w.writer.held = some call.1 ∨
        w.buffer = some call.1 ∨ call.1 ∈ w'.system.bodyLate) ∧
      (w'.system.life = .running ∧ 11 ≤ as.countP Act.isBody ∨ w'.system.life = .stopped →
        ∀ u, Transition.Reachable step Transition.Always w' u →
          ∃ hand late, u.writer.wire = w'.writer.wire ++ (hand ++ late) ∧
            (hand.map Prod.fst).Sublist w'.writer.held.toList ∧
            ∀ call ∈ late, call.1 = MotorCommand.damping K) := by
  have hinv : StopSystem.BodyInv w.system :=
    system_invariant (fun _ _ _ hinv hstep => hinv.of_step hstep) h .init
  have hreach := Transition.reachable_of_run hrun
  have hinv' : StopSystem.BodyInv w'.system :=
    system_invariant (fun _ _ _ hinv hstep => hinv.of_step hstep) hreach hinv
  have hl' : w'.system.handler.estop = true :=
    system_invariant (I := fun s => s.handler.estop = true)
      (fun _ _ _ hl hstep => StopSystem.step_latched hl hstep) hreach hl
  obtain ⟨moves, href⟩ := Refines.init.run h
  constructor
  · refine ⟨hinv'.late, ?_⟩
    obtain ⟨new, hnew, hstored⟩ := stored_latched hinv hl hreach
    obtain ⟨hand, late, hwire, hhand, hlate⟩ := href.settles
      (P := fun cmd => cmd = MotorCommand.damping K ∨ w.buffer = some cmd ∨
        cmd ∈ w'.system.bodyLate)
      hreach (fun cmd hcmd => Or.inr (Or.inl hcmd)) (Or.inl rfl) hnew
      fun cmd hcmd => (hstored cmd hcmd).imp_right Or.inr
    refine ⟨hand ++ late, hwire, fun call hcall => ?_⟩
    rcases List.mem_append.mp hcall with hcall | hcall
    · have hheld : call.1 ∈ w.writer.held.toList :=
        hhand.subset (List.mem_map_of_mem hcall)
      exact Or.inr (Or.inl (Option.mem_toList.mp hheld))
    · rcases hlate call hcall with hdamping | hbuffer | htick
      · exact Or.inl hdamping
      · exact Or.inr (Or.inr (Or.inl hbuffer))
      · exact Or.inr (Or.inr (Or.inr htick))
  · intro hdone u hu
    have hsil : StopSystem.Silenced w'.system := by
      rcases hdone with ⟨hrunning, hcount⟩ | hstopped
      · rcases silencing_run hinv hl hrun with hsil | hexit | hrank
        · exact hsil
        · rw [hrunning] at hexit
          cases hexit
        · omega
      · exact ⟨hl', hinv'.rests (by rw [hstopped]; decide) (by rw [hstopped]; decide),
          hinv'.stopped hstopped⟩
    obtain ⟨moves', href'⟩ := href.run hreach
    obtain ⟨new, hnew, hstored⟩ := stored_silenced hsil hu
    refine href'.settles (P := fun cmd => cmd = MotorCommand.damping K) hu
      (fun cmd hcmd => ?_) rfl hnew hstored
    exact Option.some.inj (hcmd.symm.trans hsil.data)

/-- The buttons latch the stop there. -/
theorem estop_wire_latched : ∃ w w' u : LowCmdWire ℚ, w.system.handler.estop = true ∧
    w'.writer.wire = [] ∧ u.writer.wire.length = 3 ∧ ∃ hand late, u.writer.wire = hand ++ late ∧
      hand.length ≤ 1 ∧ ∀ call ∈ late, call.1 = MotorCommand.damping ℚ := by
  have hruns : (Transition.run step {} (wireRun ++
      List.replicate 500 (.system (.input StopSystem.allButtons)))).any (fun w =>
        w.system.handler.estop && (Transition.run step w
          (List.replicate 11 (.system (.body StopSystem.rampTick)))).any fun w' =>
            decide (w'.system.life = .running) && w'.writer.wire.isEmpty &&
              (Transition.run step w' (List.replicate 7 (.loop none))).any fun u =>
                decide (u.writer.wire.length = 3)) = true := by decide +kernel
  obtain ⟨w, hw, hdone⟩ := Transition.reachable_of_run_any hruns
  rw [Bool.and_eq_true] at hdone
  obtain ⟨hl, hdone⟩ := hdone
  cases hrun : Transition.run step w (List.replicate 11 (.system (.body StopSystem.rampTick))) with
  | none =>
    rw [hrun] at hdone
    cases hdone
  | some w' =>
    rw [hrun, Option.any_some] at hdone
    simp only [Bool.and_eq_true, decide_eq_true_eq] at hdone
    obtain ⟨⟨hlife, hempty⟩, hdone⟩ := hdone
    obtain ⟨u, hu, hlength⟩ := Transition.reachable_of_run_any hdone
    have hnil : w'.writer.wire = [] := List.isEmpty_iff.mp hempty
    obtain ⟨hand, late, hwire, hhand, hlate⟩ :=
      (estop_wire hw hl hrun).2 (Or.inl ⟨hlife, by decide⟩) u hu
    rw [hnil, List.nil_append] at hwire
    refine ⟨w, w', u, hl, hnil, of_decide_eq_true hlength, hand, late, hwire, ?_, hlate⟩
    have hone := hhand.length_le
    rw [List.length_map] at hone
    cases hheld : w'.writer.held with
    | none =>
      rw [hheld] at hone
      exact hone.trans (Nat.zero_le 1)
    | some cmd =>
      rw [hheld] at hone
      exact hone

end LowCmdWire

end Gearsonic
