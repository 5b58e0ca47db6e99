import Gearsonic.Control.CommandFlow
import Gearsonic.Control.ControllerThread
import Gearsonic.Motion.InputHandler
import Gearsonic.Transition.Basic
import Gearsonic.Unitree.HandCommandWriter

/-!
# The emergency stop

Three loops run beside each other: the input handler, which latches the stop, the
controller, and the hand writer. `StopSystem` is the three together with the controller's
`start()` and `stop()`. The controller's loop is cut at its shared accesses
(`ControllerThread`), the hand writer's between the targets and their publication, so the
latch can fall between the read of `estop()` and the command computed from it. What the
loops read from elsewhere is chosen freely at each step.

Six members are not the program's. `bodyLate` and `handLate` list what the tick in flight
at the latch has published since, `bodyAfter` and `handAfter` what came after that tick;
`bodyInFlight` and `handInFlight` say that the tick has not ended.

* `Fires.stores`: one step of the controller stores at most one command, and at most one
  step of a tick stores one.
* `BodyInv.of_step`, `HandInv.of_step`: what the loops publish once the stop is latched.
-/

set_option linter.unusedSectionVars false

namespace Gearsonic

variable {K : Type} [Field K] [LinearOrder K] [CMath K]

open WholeBodyController

/-! ## What one step of the controller stores -/

namespace ControllerPoint

def isTop : ControllerPoint K → Bool
  | .top => true
  | _ => false

/-- The tick has not stored a command before this point. -/
def fresh : ControllerPoint K → Bool
  | .top | .advancing | .tracing => false
  | _ => true

end ControllerPoint

/-- Going from `c` to `c'` stored exactly the command `out`. -/
def StepStores (c c' : WholeBodyController K) (out : Option (Writer × MotorCommand K)) : Prop :=
  c'.commands = c.commands ++ out.toList ∧
    c'.motorCommandBuf.data = (out.map Prod.snd).or c.motorCommandBuf.data

namespace StepStores

variable {c c' : WholeBodyController K} {out : Option (Writer × MotorCommand K)}

theorem of_stores (h : Stores c c' out) : StepStores c c' out := ⟨h.commands, h.data⟩

theorem refl (c : WholeBodyController K) : StepStores c c none := of_stores (.refl c)

/-- Members that hold no command do not matter. -/
theorem of_eq (hout : c'.outputs = c.outputs) (hbuf : c'.motorCommandBuf = c.motorCommandBuf) :
    StepStores c c' none := by
  refine ⟨?_, by rw [hbuf]; rfl⟩
  simp [commands, hout]

theorem of_publish {c₀ : WholeBodyController K} {w : Writer} {cmd : MotorCommand K}
    {now : TimePoint} (hout : c₀.outputs = c.outputs) :
    StepStores c (c₀.publish w cmd now) (some (w, cmd)) := by
  refine ⟨?_, rfl⟩
  simp [commands, publish, emit, hout, Output.command]

theorem tickMissing_stores (c : WholeBodyController K) (now : TimePoint) :
    ∃ out, StepStores c (c.tickMissing now) out := by
  unfold tickMissing
  dsimp only
  split
  · split
    · exact ⟨_, of_publish rfl⟩
    · exact ⟨_, of_publish rfl⟩
  · exact ⟨none, of_eq rfl rfl⟩

end StepStores

open StepStores in
/-- **A tick stores at most one command**: a step stores at most one, only before the tick
has stored any, and then the tick is past that part. -/
theorem ControllerThread.Fires.stores {r : TickReads K} {s t : ControllerThread K}
    (h : Fires r s t) (htop : s.point.isTop = false) :
    ∃ out, StepStores s.controller t.controller out ∧
      (out.isSome = true → s.point.fresh = true ∧ t.point.fresh = false) ∧
      (s.point.fresh = false → t.point.fresh = false) := by
  cases h with
  | estop c h => cases htop
  | start c h => cases htop
  | missing c h =>
    obtain ⟨out, hst⟩ := tickMissing_stores c r.now
    exact ⟨out, hst, fun _ => ⟨rfl, rfl⟩, fun _ => rfl⟩
  | reenter c hdue => exact ⟨none, refl c, nofun, nofun⟩
  | present c hdue => exact ⟨none, of_eq rfl rfl, nofun, nofun⟩
  | discard c => exact ⟨none, of_stores (stores_enterOrigin c), nofun, nofun⟩
  | request c =>
    have hreq : Stores { c with stateMissingTicks := 0 } (c.requestStateReseed r.stateTicket)
        none := .of_emit rfl rfl rfl rfl rfl rfl
    exact ⟨none, ⟨hreq.commands, hreq.data⟩, nofun, nofun⟩
  | other c hs => exact ⟨_, of_stores (stores_tickState c r), fun _ => ⟨rfl, rfl⟩, fun _ => rfl⟩
  | ungathered c hs => exact ⟨none, refl c, nofun, nofun⟩
  | gather c hs e => exact ⟨none, of_eq rfl rfl, nofun, nofun⟩
  | wait c h => exact ⟨none, refl c, nofun, nofun⟩
  | acked c h => exact ⟨none, of_eq rfl rfl, nofun, nofun⟩
  | leave c h => exact ⟨none, of_stores (stores_decideOwner c r), nofun, nofun⟩
  | decide c h => exact ⟨none, of_stores (stores_decideOwner c r), nofun, nofun⟩
  | origin c => exact ⟨none, of_stores (stores_enterOrigin c), nofun, nofun⟩
  | vla c hm => exact ⟨_, of_stores (stores_tickVla c r), fun _ => ⟨rfl, rfl⟩, fun _ => rfl⟩
  | ask c hm hdue => exact ⟨none, of_stores (stores_selectToken c none none), nofun, nofun⟩
  | recover c hm =>
    exact ⟨_, of_stores ((stores_selectToken c none none).trans
      (stores_decodeAndPublish _ r _)), fun _ => ⟨rfl, rfl⟩, fun _ => rfl⟩
  | empty c hm hempty => exact ⟨none, refl c, nofun, nofun⟩
  | encode c hm hne =>
    have hpast : ControllerPoint.fresh (K := K)
        (if (c.tickEncoder r).2 then .advancing else .tracing) = false := by
      split <;> rfl
    exact ⟨_, of_stores (stores_tickEncoder c r).1, fun _ => ⟨rfl, hpast⟩, fun _ => hpast⟩
  | reseed c token =>
    exact ⟨_, of_stores ((stores_requestRecoveryReseed c r.recoveryTicket).trans
      (stores_decodeAndPublish _ r token)), fun _ => ⟨rfl, rfl⟩, fun _ => rfl⟩
  | advance c =>
    exact ⟨none, of_stores (stores_advancePlayback c r.plan), nofun, fun _ => rfl⟩
  | trace c =>
    exact ⟨none, of_stores (stores_traceTick c r.traceEnabled), nofun, fun _ => rfl⟩

/-! ## The latch -/

namespace InputHandler

theorem tickEstop_latched {h : InputHandler K} (b : FaceButtons) (hl : h.estop = true) :
    (h.tickEstop b).estop = true := by
  unfold tickEstop
  split
  · simp [hl]
  · exact hl

theorem tickControls_estop (h : InputHandler K) (c : PicoVRController K) :
    (h.tickControls c).1.estop = (h.tickEstop c.toFaceButtons).estop := by
  have hheight : ∀ h : InputHandler K, h.tickHeight.estop = h.estop := by
    intro h
    unfold tickHeight
    split <;> rfl
  have hfacing : ∀ (h : InputHandler K) (rx : K), (h.tickFacing rx).estop = h.estop := by
    intro h rx
    unfold tickFacing
    split <;> rfl
  simp only [tickControls, hfacing, hheight]
  rfl

theorem buildCommand_estop (h : InputHandler K) (r : TickReads K) (c : PicoVRController K) :
    (h.buildCommand r c).1.estop = h.estop := by
  have hnav : ∀ nav : NavCommand K, (h.navCommand nav).1.estop = h.estop := by
    intro nav
    unfold navCommand
    dsimp only
    split <;> rfl
  unfold buildCommand
  dsimp only
  split
  · split
    · split
      · exact hnav _
      · rfl
    · rfl
  · rfl

/-- The latch stays. -/
theorem tick_latched {h : InputHandler K} (r : TickReads K) (hl : h.estop = true) :
    (h.tick r).1.estop = true := by
  unfold tick
  cases r.ctrl with
  | none => exact hl
  | some c =>
    dsimp only
    rw [buildCommand_estop, tickControls_estop]
    exact tickEstop_latched _ hl

end InputHandler

/-! ## The three loops -/

inductive Lifecycle where
  | idle
  | running
  | stopping
  | exited
  | stopped
deriving DecidableEq, Repr

structure StopSystem (K : Type) [Field K] where
  handler : InputHandler K := {}
  body : ControllerThread K := {}
  life : Lifecycle := .idle
  writer : HandCommandWriter K := {}
  /-- The hand commands of the tick in progress, computed and not yet published. -/
  pending : Option (HandCommandPair K × TimePoint) := none
  handEnded : Bool := false
  bodyInFlight : Bool := false
  bodyLate : List (MotorCommand K) := []
  bodyAfter : List (MotorCommand K) := []
  handInFlight : Bool := false
  handLate : List (HandCommandPair K) := []
  handAfter : List (HandCommandPair K) := []

namespace StopSystem

inductive Act (K : Type) [Field K] where
  | input (r : InputHandler.TickReads K)
  | disarm
  | start (auto : Bool)
  | body (r : TickReads K)
  | stop
  | join (now : TimePoint)
  | hand (r : HandCommandWriter.TickReads K)
  | publishHand
  | stopHand (now : TimePoint)

/-- Note what the controller has stored since the latch. -/
def recordBody (s : StopSystem K) (cmds : List (MotorCommand K)) : StopSystem K :=
  if s.handler.estop then
    if s.bodyInFlight then { s with bodyLate := s.bodyLate ++ cmds }
    else { s with bodyAfter := s.bodyAfter ++ cmds }
  else s

def recordHand (s : StopSystem K) (cmds : HandCommandPair K) : StopSystem K :=
  if s.handler.estop then
    if s.handInFlight then { s with handLate := s.handLate ++ [cmds] }
    else { s with handAfter := s.handAfter ++ [cmds] }
  else s

/-- The commands that a step of the controller has stored. The first step of a tick starts
the list of outputs again. -/
def stored (before after : ControllerThread K) : List (MotorCommand K) :=
  (after.controller.commands.drop
    (if before.point.isTop then 0 else before.controller.commands.length)).map Prod.snd

/-- One tick of the input handler. -/
def stepInput (s : StopSystem K) (r : InputHandler.TickReads K) : StopSystem K :=
  let handler := (s.handler.tick r).1
  let latches := handler.estop && !s.handler.estop
  { s with
    handler := handler
    bodyInFlight := if latches then !s.body.point.isTop else s.bodyInFlight
    handInFlight := if latches then s.pending.isSome else s.handInFlight }

/-- One step of the controller, which reads the latch. -/
def stepBody (s : StopSystem K) (r : TickReads K) : StopSystem K :=
  let body := s.body.next { r with estop := s.handler.estop }
  let s' := { s with
    body := body
    bodyInFlight := if s.body.point.isTop then false else s.bodyInFlight }
  s'.recordBody (stored s.body body)

/-- The end of `stop()`: the buffer's last word. -/
def stepJoin (s : StopSystem K) (now : TimePoint) : StopSystem K :=
  { s with
    body := { s.body with controller := s.body.controller.publishDamping now }
    life := .stopped }.recordBody [MotorCommand.damping K]

def step (s : StopSystem K) : Act K → Option (StopSystem K)
  | .input r => some (s.stepInput r)
  | .disarm => some { s with handler := s.handler.disarm }
  | .start auto =>
    if s.life = .idle ∨ s.life = .stopped then
      some { s with
        life := .running
        body := { s.body with controller := { s.body.controller with autoStart := auto } } }
    else none
  | .body r =>
    if s.life = .running then some (s.stepBody r)
    else if s.life = .stopping then
      -- `while (!stop_)`: the loop ends only between two ticks
      if s.body.point.isTop then some { s with life := .exited, bodyInFlight := false }
      else some (s.stepBody r)
    else none
  | .stop =>
    match s.life with
    | .running => some { s with life := .stopping }
    | .idle => some { s with life := .exited, bodyInFlight := false }
    | _ => none
  | .join now => if s.life = .exited then some (s.stepJoin now) else none
  | .hand r =>
    if s.pending.isNone && !s.handEnded then
      let (writer, cmds) := s.writer.computeTargets { r with estop := s.handler.estop }
      some { s with writer := writer, pending := some (cmds, r.t0), handInFlight := false }
    else none
  | .publishHand =>
    match s.pending with
    | some (cmds, now) =>
      some ({ s with writer := s.writer.publish cmds now, pending := none }.recordHand cmds)
    | none => none
  | .stopHand now =>
    if s.pending.isNone then
      some ({ s with
        writer := s.writer.publish .stop now
        handEnded := true
        handInFlight := false }.recordHand .stop)
    else none

/-! ## The body command -/

/-- What holds of the controller beside the latch. While the tick in flight goes on, what
follows it has not begun. -/
structure BodyInv (s : StopSystem K) : Prop where
  fresh : s.body.point.fresh = true → s.body.controller.commands = []
  rests : s.life ≠ .running → s.life ≠ .stopping → s.body.point.isTop = true
  unlatched : s.handler.estop = false → s.bodyLate = [] ∧ s.bodyAfter = []
  ended : s.handler.estop = true → s.bodyInFlight = false → s.body.point.isTop = true
  exited : s.life = .exited → s.bodyInFlight = false
  late : s.bodyLate.length ≤ 1
  lateFresh : s.handler.estop = true → s.body.point.fresh = true → s.bodyLate = []
  after : ∀ cmd ∈ s.bodyAfter, cmd = MotorCommand.damping K
  last : s.bodyAfter ≠ [] → s.bodyInFlight = false ∧
    s.body.controller.motorCommandBuf.data = some (MotorCommand.damping K)
  stopped : s.life = .stopped →
    s.body.controller.motorCommandBuf.data = some (MotorCommand.damping K)

variable {s t : StopSystem K} {r : TickReads K}

theorem BodyInv.init : BodyInv ({} : StopSystem K) :=
  ⟨nofun, fun _ _ => rfl, fun _ => ⟨rfl, rfl⟩, nofun, nofun, Nat.zero_le _, nofun, nofun,
    fun h => absurd rfl h, nofun⟩

theorem eq_top {point : ControllerPoint K} (h : point.isTop = true) : point = .top := by
  cases point <;> first | rfl | cases h

theorem top_not_fresh {point : ControllerPoint K} (h : point.isTop = true) :
    point.fresh = false := by
  rw [eq_top h]
  rfl

/-- Without the stop, a tick starts from empty outputs. -/
theorem next_start {b : ControllerThread K} (htop : b.point.isTop = true)
    (hr : r.estop = false) : (b.next r).controller.commands = [] := by
  obtain ⟨c, point⟩ := b
  obtain rfl := eq_top htop
  simp [ControllerThread.next, hr, commands]

/-- At its top with the stop latched, the loop stores damping and stays at its top. -/
theorem next_top {b : ControllerThread K} (htop : b.point.isTop = true) :
    (b.next { r with estop := true }).point.isTop = true ∧
      (b.next { r with estop := true }).controller.motorCommandBuf.data =
        some (MotorCommand.damping K) ∧
      stored b (b.next { r with estop := true }) = [MotorCommand.damping K] := by
  obtain ⟨c, point⟩ := b
  obtain rfl := eq_top htop
  refine ⟨rfl, rfl, ?_⟩
  simp [stored, ControllerThread.next, ControllerPoint.isTop, tickEstop, publishDamping, publish,
    emit, commands, Output.command]

theorem stored_of_stores {b b' : ControllerThread K} {out : Option (Writer × MotorCommand K)}
    (htop : b.point.isTop = false) (h : StepStores b.controller b'.controller out) :
    stored b b' = (out.map Prod.snd).toList := by
  unfold stored
  rw [htop, h.1]
  cases out <;> simp

/-- A loop that runs has neither exited nor stopped. -/
theorem not_resting (h : s.life = .running ∨ s.life = .stopping) :
    s.life ≠ .exited ∧ s.life ≠ .stopped := by
  rcases h with h | h <;> rw [h] <;> decide

/-- A step of the controller before the latch. -/
theorem BodyInv.of_unlatched (h : BodyInv s) (hl : s.handler.estop = false)
    (hlife : s.life = .running ∨ s.life = .stopping) : BodyInv (s.stepBody r) := by
  have hrecord : s.stepBody r =
      { s with
        body := s.body.next { r with estop := s.handler.estop }
        bodyInFlight := if s.body.point.isTop then false else s.bodyInFlight } := by
    simp only [stepBody, recordBody, hl, Bool.false_eq_true, if_false]
  have hrest := not_resting hlife
  obtain ⟨hlate, hafter⟩ := h.unlatched hl
  rw [hrecord]
  refine ⟨fun hfresh => ?_, fun h1 h2 => ?_, fun _ => ⟨hlate, hafter⟩,
    fun h1 => Bool.noConfusion (hl.symm.trans h1), fun hexit => absurd hexit hrest.1,
    h.late, fun h1 => Bool.noConfusion (hl.symm.trans h1), h.after,
    fun hne => absurd hafter hne, fun hstop => absurd hstop hrest.2⟩
  · cases htop : s.body.point.isTop with
    | true => exact next_start htop hl
    | false =>
      obtain ⟨out, hst, hsome, hpast⟩ := (ControllerThread.fires_next s.body
        { r with estop := s.handler.estop }).stores htop
      have hout : out = none := by
        cases out with
        | none => rfl
        | some v => exact Bool.noConfusion ((hsome rfl).2.symm.trans hfresh)
      have hbefore : s.body.point.fresh = true := by
        cases hf : s.body.point.fresh with
        | true => rfl
        | false => exact Bool.noConfusion ((hpast hf).symm.trans hfresh)
      subst hout
      rw [hst.1, h.fresh hbefore]
      rfl
  · exact (hlife.elim h1 h2).elim

/-- A step of the controller after the latch. -/
theorem BodyInv.of_latched (h : BodyInv s) (hl : s.handler.estop = true)
    (hlife : s.life = .running ∨ s.life = .stopping) : BodyInv (s.stepBody r) := by
  have hrest := not_resting hlife
  have hrun : s.life ≠ .running → s.life ≠ .stopping → (s.stepBody r).body.point.isTop = true :=
    fun h1 h2 => (hlife.elim h1 h2).elim
  cases htop : s.body.point.isTop with
  | true =>
    obtain ⟨htop', hbuf, hstored⟩ := next_top (r := r) htop
    have hrecord : s.stepBody r =
        { s with
          body := s.body.next { r with estop := true }
          bodyInFlight := false
          bodyAfter := s.bodyAfter ++ [MotorCommand.damping K] } := by
      simp only [stepBody, recordBody, hl, htop, hstored, if_true, Bool.false_eq_true, if_false]
    rw [hrecord] at hrun ⊢
    have hnofresh := top_not_fresh htop'
    refine ⟨fun hf => Bool.noConfusion (hnofresh.symm.trans hf), hrun,
      fun h1 => Bool.noConfusion (hl.symm.trans h1), fun _ _ => htop', fun _ => rfl, h.late,
      fun _ hf => Bool.noConfusion (hnofresh.symm.trans hf), fun cmd hcmd => ?_,
      fun _ => ⟨rfl, hbuf⟩, fun _ => hbuf⟩
    rcases List.mem_append.mp hcmd with hold | hnew
    · exact h.after cmd hold
    · exact List.mem_singleton.mp hnew
  | false =>
    have hflight : s.bodyInFlight = true := by
      cases hf : s.bodyInFlight with
      | true => rfl
      | false => exact Bool.noConfusion (htop.symm.trans (h.ended hl hf))
    obtain ⟨out, hst, hsome, hpast⟩ := (ControllerThread.fires_next s.body
      { r with estop := s.handler.estop }).stores htop
    have hrecord : s.stepBody r =
        { s with
          body := s.body.next { r with estop := s.handler.estop }
          bodyLate := s.bodyLate ++ (out.map Prod.snd).toList } := by
      simp only [stepBody, recordBody, hl, htop, hflight, if_true, Bool.false_eq_true, if_false]
      rw [hl] at hst
      rw [stored_of_stores htop hst]
    rw [hrecord] at hrun ⊢
    have hnoafter : s.bodyAfter = [] := by
      by_contra hne
      exact Bool.noConfusion ((h.last hne).1.symm.trans hflight)
    -- a tick that has stored a command is past the points where it can
    have hlate : (s.body.next { r with estop := s.handler.estop }).point.fresh = true →
        out = none ∧ s.body.point.fresh = true := by
      intro hf
      constructor
      · cases out with
        | none => rfl
        | some v => exact Bool.noConfusion ((hsome rfl).2.symm.trans hf)
      · cases hf' : s.body.point.fresh with
        | true => rfl
        | false => exact Bool.noConfusion ((hpast hf').symm.trans hf)
    refine ⟨fun hf => ?_, hrun, fun h1 => Bool.noConfusion (hl.symm.trans h1),
      fun _ h1 => Bool.noConfusion (hflight.symm.trans h1),
      fun hexit => absurd hexit hrest.1, ?_, fun _ hf => ?_, h.after,
      fun hne => absurd hnoafter hne, fun hstop => absurd hstop hrest.2⟩
    · obtain ⟨rfl, hbefore⟩ := hlate hf
      rw [hst.1, h.fresh hbefore]
      rfl
    · cases out with
      | none => simpa using h.late
      | some v =>
        rw [h.lateFresh hl (hsome rfl).1]
        exact le_rfl
    · obtain ⟨rfl, hbefore⟩ := hlate hf
      rw [h.lateFresh hl hbefore]
      rfl

theorem BodyInv.of_stepBody (h : BodyInv s) (hlife : s.life = .running ∨ s.life = .stopping) :
    BodyInv (s.stepBody r) := by
  cases hl : s.handler.estop with
  | true => exact h.of_latched hl hlife
  | false => exact h.of_unlatched hl hlife

/-- A tick of the input handler after the latch. -/
theorem stepInput_of_latched (hl : s.handler.estop = true) (r : InputHandler.TickReads K) :
    s.stepInput r = { s with handler := (s.handler.tick r).1 } := by
  simp [stepInput, hl]

/-- A tick of the input handler, which may latch the stop. -/
theorem BodyInv.of_input (h : BodyInv s) (r : InputHandler.TickReads K) :
    BodyInv (s.stepInput r) := by
  cases hl : s.handler.estop with
  | true =>
    have hl' := InputHandler.tick_latched r hl
    rw [stepInput_of_latched hl r]
    exact ⟨h.fresh, h.rests, fun h1 => Bool.noConfusion (hl'.symm.trans h1), fun _ => h.ended hl,
      h.exited, h.late, fun _ => h.lateFresh hl, h.after, h.last, h.stopped⟩
  | false =>
    obtain ⟨hlate, hafter⟩ := h.unlatched hl
    refine ⟨h.fresh, h.rests, fun _ => ⟨hlate, hafter⟩, fun hl' hflight => ?_, fun hexit => ?_,
      h.late, fun _ _ => hlate, h.after, fun hne => absurd hafter hne, h.stopped⟩
    · have hlatch : (s.handler.tick r).1.estop = true := hl'
      simpa [stepInput, hl, hlatch] using hflight
    · have hexit : s.life = .exited := hexit
      have htop := h.rests (by rw [hexit]; decide) (by rw [hexit]; decide)
      simp [stepInput, htop, h.exited hexit]

/-- The end of `stop()`. -/
theorem BodyInv.of_join (h : BodyInv s) (hlife : s.life = .exited) (now : TimePoint) :
    BodyInv (s.stepJoin now) := by
  have htop := h.rests (by rw [hlife]; decide) (by rw [hlife]; decide)
  have hflight := h.exited hlife
  have hnofresh := top_not_fresh htop
  cases hl : s.handler.estop with
  | true =>
    have hrecord : s.stepJoin now =
        { s with
          body := { s.body with controller := s.body.controller.publishDamping now }
          life := .stopped
          bodyAfter := s.bodyAfter ++ [MotorCommand.damping K] } := by
      simp only [stepJoin, recordBody, hl, hflight, if_true, Bool.false_eq_true, if_false]
    rw [hrecord]
    refine ⟨fun hf => Bool.noConfusion (hnofresh.symm.trans hf), fun _ _ => htop,
      fun h1 => Bool.noConfusion (hl.symm.trans h1), fun _ _ => htop, nofun, h.late,
      fun _ hf => Bool.noConfusion (hnofresh.symm.trans hf), fun cmd hcmd => ?_,
      fun _ => ⟨hflight, rfl⟩, fun _ => rfl⟩
    rcases List.mem_append.mp hcmd with hold | hnew
    · exact h.after cmd hold
    · exact List.mem_singleton.mp hnew
  | false =>
    have hrecord : s.stepJoin now =
        { s with
          body := { s.body with controller := s.body.controller.publishDamping now }
          life := .stopped } := by
      simp only [stepJoin, recordBody, hl, Bool.false_eq_true, if_false]
    obtain ⟨hlate, hafter⟩ := h.unlatched hl
    rw [hrecord]
    exact ⟨fun hf => Bool.noConfusion (hnofresh.symm.trans hf), fun _ _ => htop,
      fun _ => ⟨hlate, hafter⟩, fun _ _ => htop, nofun, h.late,
      fun _ hf => Bool.noConfusion (hnofresh.symm.trans hf), h.after,
      fun hne => absurd hafter hne, fun _ => rfl⟩

theorem BodyInv.of_step {a : Act K} (h : BodyInv s) (hstep : s.step a = some t) : BodyInv t := by
  cases a with
  | input r =>
    cases hstep
    exact h.of_input r
  | disarm =>
    cases hstep
    exact ⟨h.fresh, h.rests, h.unlatched, h.ended, h.exited, h.late, h.lateFresh, h.after, h.last,
      h.stopped⟩
  | start auto =>
    simp only [step] at hstep
    split at hstep
    · rename_i hlife
      cases hstep
      exact ⟨h.fresh, fun h1 => absurd rfl h1, h.unlatched, h.ended, nofun, h.late, h.lateFresh,
        h.after, h.last, nofun⟩
    · cases hstep
  | body r =>
    simp only [step] at hstep
    split at hstep
    · cases hstep
      exact h.of_stepBody (Or.inl ‹_›)
    · split at hstep
      · split at hstep
        · rename_i htop
          cases hstep
          exact ⟨h.fresh, fun _ _ => htop, h.unlatched, fun _ _ => htop, fun _ => rfl, h.late,
            h.lateFresh, h.after, fun hne => ⟨rfl, (h.last hne).2⟩, nofun⟩
        · cases hstep
          exact h.of_stepBody (Or.inr ‹_›)
      · cases hstep
  | stop =>
    simp only [step] at hstep
    split at hstep
    · rename_i hlife
      cases hstep
      exact ⟨h.fresh, fun _ h2 => absurd rfl h2, h.unlatched, h.ended, nofun, h.late, h.lateFresh,
        h.after, h.last, nofun⟩
    · rename_i hlife
      cases hstep
      have htop := h.rests (by rw [hlife]; decide) (by rw [hlife]; decide)
      exact ⟨h.fresh, fun _ _ => htop, h.unlatched, fun _ _ => htop, fun _ => rfl, h.late,
        h.lateFresh, h.after, fun hne => ⟨rfl, (h.last hne).2⟩, nofun⟩
    · cases hstep
  | join now =>
    simp only [step] at hstep
    split at hstep
    · cases hstep
      exact h.of_join ‹_› now
    · cases hstep
  | hand r =>
    simp only [step] at hstep
    split at hstep
    · cases hstep
      exact ⟨h.fresh, h.rests, h.unlatched, h.ended, h.exited, h.late, h.lateFresh, h.after,
        h.last, h.stopped⟩
    · cases hstep
  | publishHand =>
    simp only [step] at hstep
    split at hstep
    · cases hstep
      unfold recordHand
      split
      · split <;> exact ⟨h.fresh, h.rests, h.unlatched, h.ended, h.exited, h.late, h.lateFresh,
          h.after, h.last, h.stopped⟩
      · exact ⟨h.fresh, h.rests, h.unlatched, h.ended, h.exited, h.late, h.lateFresh,
          h.after, h.last, h.stopped⟩
    · cases hstep
  | stopHand now =>
    simp only [step] at hstep
    split at hstep
    · cases hstep
      unfold recordHand
      split
      · exact ⟨h.fresh, h.rests, h.unlatched, h.ended, h.exited, h.late, h.lateFresh,
          h.after, h.last, h.stopped⟩
      · exact ⟨h.fresh, h.rests, h.unlatched, h.ended, h.exited, h.late, h.lateFresh,
          h.after, h.last, h.stopped⟩
    · cases hstep

/-! ## The hand command -/

structure HandInv (s : StopSystem K) : Prop where
  unlatched : s.handler.estop = false → s.handLate = [] ∧ s.handAfter = []
  pending : s.handler.estop = true → s.handInFlight = false →
    ∀ p, s.pending = some p → p.1 = .stop
  late : s.handLate.length ≤ 1
  lateNone : s.handler.estop = true → s.handInFlight = true → s.pending.isSome = true →
    s.handLate = []
  after : ∀ cmds ∈ s.handAfter, cmds = .stop
  last : s.handAfter ≠ [] → s.handInFlight = false ∧ s.writer.lastCmdBuf.data = some .stop

theorem HandInv.init : HandInv ({} : StopSystem K) :=
  ⟨fun _ => ⟨rfl, rfl⟩, nofun, Nat.zero_le _, nofun, nofun, fun h => absurd rfl h⟩

/-- What the hand invariant is about is the same. -/
theorem HandInv.of_eq (h : HandInv s) (hhandler : t.handler.estop = s.handler.estop)
    (hw : t.writer = s.writer) (hp : t.pending = s.pending)
    (hf : t.handInFlight = s.handInFlight) (hl : t.handLate = s.handLate)
    (ha : t.handAfter = s.handAfter) : HandInv t := by
  obtain ⟨h1, h2, h3, h4, h5, h6⟩ := h
  rw [← hhandler, ← hl, ← ha] at h1
  rw [← hhandler, ← hf, ← hp] at h2
  rw [← hl] at h3
  rw [← hhandler, ← hf, ← hp, ← hl] at h4
  rw [← ha] at h5
  rw [← ha, ← hf, ← hw] at h6
  exact ⟨h1, h2, h3, h4, h5, h6⟩

theorem recordBody_hand (s : StopSystem K) (cmds : List (MotorCommand K)) :
    (s.recordBody cmds).handler = s.handler ∧ (s.recordBody cmds).writer = s.writer ∧
      (s.recordBody cmds).pending = s.pending ∧
      (s.recordBody cmds).handInFlight = s.handInFlight ∧
      (s.recordBody cmds).handLate = s.handLate ∧ (s.recordBody cmds).handAfter = s.handAfter := by
  unfold recordBody
  split
  · split <;> exact ⟨rfl, rfl, rfl, rfl, rfl, rfl⟩
  · exact ⟨rfl, rfl, rfl, rfl, rfl, rfl⟩

theorem HandInv.of_recordBody (h : HandInv s) {s' : StopSystem K} {cmds : List (MotorCommand K)}
    (hhandler : s'.handler = s.handler) (hw : s'.writer = s.writer) (hp : s'.pending = s.pending)
    (hf : s'.handInFlight = s.handInFlight) (hl : s'.handLate = s.handLate)
    (ha : s'.handAfter = s.handAfter) : HandInv (s'.recordBody cmds) := by
  obtain ⟨h1, h2, h3, h4, h5, h6⟩ := recordBody_hand s' cmds
  exact h.of_eq (by rw [h1, hhandler]) (h2.trans hw) (h3.trans hp) (h4.trans hf) (h5.trans hl)
    (h6.trans ha)

theorem HandInv.of_input (h : HandInv s) (r : InputHandler.TickReads K) :
    HandInv (s.stepInput r) := by
  cases hl : s.handler.estop with
  | true =>
    have hl' := InputHandler.tick_latched r hl
    rw [stepInput_of_latched hl r]
    exact h.of_eq (hl'.trans hl.symm) rfl rfl rfl rfl rfl
  | false =>
    obtain ⟨hlate, hafter⟩ := h.unlatched hl
    refine ⟨fun _ => ⟨hlate, hafter⟩, fun hl' hflight p hp => ?_, h.late, fun _ _ _ => hlate,
      h.after, fun hne => absurd hafter hne⟩
    have hlatch : (s.handler.tick r).1.estop = true := hl'
    have hp : s.pending = some p := hp
    simp [stepInput, hl, hlatch, hp] at hflight

/-- A hand tick reads the latch. -/
theorem HandInv.of_hand (h : HandInv s) (r : HandCommandWriter.TickReads K) :
    HandInv { s with
      writer := (s.writer.computeTargets { r with estop := s.handler.estop }).1
      pending := some ((s.writer.computeTargets { r with estop := s.handler.estop }).2, r.t0)
      handInFlight := false } := by
  refine ⟨h.unlatched, fun hl _ p hp => ?_, h.late, nofun, h.after, fun hne => ⟨rfl, ?_⟩⟩
  · cases hp
    exact HandCommandWriter.computeTargets_estop hl
  · rw [HandCommandWriter.computeTargets_lastCmdBuf]
    exact (h.last hne).2

theorem HandInv.of_publish (h : HandInv s) {cmds : HandCommandPair K} {now : TimePoint}
    (hp : s.pending = some (cmds, now)) :
    HandInv ({ s with writer := s.writer.publish cmds now, pending := none }.recordHand cmds) := by
  cases hl : s.handler.estop with
  | false =>
    obtain ⟨hlate, hafter⟩ := h.unlatched hl
    simp only [recordHand, hl, Bool.false_eq_true, if_false]
    exact ⟨h.unlatched, nofun, h.late, nofun, h.after,
      fun hne => absurd hafter hne⟩
  | true =>
    cases hf : s.handInFlight with
    | true =>
      have hnone := h.lateNone hl hf (by rw [hp]; rfl)
      simp only [recordHand, hl, if_true]
      refine ⟨fun h1 => Bool.noConfusion (hl.symm.trans h1), nofun, ?_,
        nofun, h.after, fun hne => ?_⟩
      · rw [hnone]
        exact le_rfl
      · exact Bool.noConfusion ((h.last hne).1.symm.trans hf)
    | false =>
      obtain rfl : cmds = .stop := h.pending hl hf _ hp
      simp only [recordHand, hl, if_true, Bool.false_eq_true, if_false]
      refine ⟨fun h1 => Bool.noConfusion (hl.symm.trans h1), nofun, h.late,
        nofun, fun c hc => ?_, fun _ => ⟨rfl, rfl⟩⟩
      exact (List.mem_append.mp hc).elim (h.after c) List.mem_singleton.mp

theorem HandInv.of_stopHand (h : HandInv s) (hp : s.pending = none) (now : TimePoint) :
    HandInv ({ s with
      writer := s.writer.publish .stop now
      handEnded := true
      handInFlight := false }.recordHand .stop) := by
  have hnone : ∀ p, s.pending = some p → p.1 = HandCommandPair.stop := by
    rw [hp]
    nofun
  unfold recordHand
  split
  · rename_i hl
    have hl : s.handler.estop = true := hl
    refine ⟨fun h1 => Bool.noConfusion (hl.symm.trans h1), fun _ _ => hnone, h.late, nofun,
      fun c hc => ?_, fun _ => ⟨rfl, rfl⟩⟩
    exact (List.mem_append.mp hc).elim (h.after c) List.mem_singleton.mp
  · exact ⟨h.unlatched, fun _ _ => hnone, h.late, nofun, h.after, fun _ => ⟨rfl, rfl⟩⟩

theorem HandInv.of_step {a : Act K} (h : HandInv s) (hstep : s.step a = some t) : HandInv t := by
  cases a with
  | input r =>
    cases hstep
    exact h.of_input r
  | disarm =>
    cases hstep
    exact h.of_eq rfl rfl rfl rfl rfl rfl
  | start auto =>
    simp only [step] at hstep
    split at hstep
    · cases hstep
      exact h.of_eq rfl rfl rfl rfl rfl rfl
    · cases hstep
  | body r =>
    simp only [step] at hstep
    split at hstep
    · cases hstep
      exact h.of_recordBody rfl rfl rfl rfl rfl rfl
    · split at hstep
      · split at hstep
        · cases hstep
          exact h.of_eq rfl rfl rfl rfl rfl rfl
        · cases hstep
          exact h.of_recordBody rfl rfl rfl rfl rfl rfl
      · cases hstep
  | stop =>
    simp only [step] at hstep
    split at hstep
    · cases hstep
      exact h.of_eq rfl rfl rfl rfl rfl rfl
    · cases hstep
      exact h.of_eq rfl rfl rfl rfl rfl rfl
    · cases hstep
  | join now =>
    simp only [step] at hstep
    split at hstep
    · cases hstep
      exact h.of_recordBody rfl rfl rfl rfl rfl rfl
    · cases hstep
  | hand r =>
    simp only [step] at hstep
    split at hstep
    · cases hstep
      exact h.of_hand r
    · cases hstep
  | publishHand =>
    simp only [step] at hstep
    split at hstep
    · cases hstep
      exact h.of_publish ‹_›
    · cases hstep
  | stopHand now =>
    simp only [step] at hstep
    split at hstep
    · cases hstep
      exact h.of_stopHand (Option.isNone_iff_eq_none.mp ‹_›) now
    · cases hstep

/-! ## The latch stays -/

theorem step_latched {a : Act K} (hl : s.handler.estop = true) (hstep : s.step a = some t) :
    t.handler.estop = true := by
  have hbody : ∀ (s' : StopSystem K) cmds, (s'.recordBody cmds).handler = s'.handler :=
    fun s' cmds => (recordBody_hand s' cmds).1
  have hhand : ∀ (s' : StopSystem K) cmds, (s'.recordHand cmds).handler = s'.handler := by
    intro s' cmds
    unfold recordHand
    split
    · split <;> rfl
    · rfl
  cases a with
  | input r =>
    cases hstep
    exact InputHandler.tick_latched r hl
  | disarm =>
    cases hstep
    exact hl
  | start auto =>
    simp only [step, Option.ite_none_right_eq_some, Option.some.injEq] at hstep
    exact hstep.2 ▸ hl
  | body r =>
    have hstepBody : (s.stepBody r).handler.estop = true := by
      rw [stepBody, hbody]
      exact hl
    simp only [step] at hstep
    split at hstep
    · cases hstep
      exact hstepBody
    · split at hstep
      · split at hstep
        · cases hstep
          exact hl
        · cases hstep
          exact hstepBody
      · cases hstep
  | stop =>
    simp only [step] at hstep
    split at hstep
    · cases hstep
      exact hl
    · cases hstep
      exact hl
    · cases hstep
  | join now =>
    simp only [step, Option.ite_none_right_eq_some, Option.some.injEq] at hstep
    rw [← hstep.2, stepJoin, hbody]
    exact hl
  | hand r =>
    simp only [step, Option.ite_none_right_eq_some, Option.some.injEq] at hstep
    exact hstep.2 ▸ hl
  | publishHand =>
    simp only [step] at hstep
    split at hstep
    · cases hstep
      rw [hhand]
      exact hl
    · cases hstep
  | stopHand now =>
    simp only [step, Option.ite_none_right_eq_some, Option.some.injEq] at hstep
    rw [← hstep.2, hhand]
    exact hl

end StopSystem

end Gearsonic
