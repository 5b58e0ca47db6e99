import Gearsonic.Control.ArbiterFlow
import Gearsonic.Control.CommandFlow
import Gearsonic.Planner.Handshake

/-!
# The planner and the controller

The two loops that hand motion to each other: the controller plays a timeline and lets the
planner take snapshots of it, the planner publishes plans that the controller adopts, and
the controller asks for reseeds. `PlaybackLoops` is both threads with their steps
interleaved freely. What they exchange is taken from each other; everything else they read
is chosen freely at each step.

The other members are history. Discards number the playback timelines, adoptions count the
motions that have been taken into the playback, and a `PlanRecord` travels with each plan:
where its chain of contexts began, which timelines it has frames of, and which snapshot its
own context was sampled from.

* `EntryInv`: what holds of the controller's two re-entries beside the reseed counters.
* `LoopsInv`: the planner's part is a run of the handshake, and the re-entries fit it.
-/

set_option linter.unusedSectionVars false

namespace Gearsonic

variable {K : Type} [Field K] [LinearOrder K]

variable [CMath K]

open WholeBodyController

/-! ## What a step of the controller leaves alone -/

/-- The members that the two re-entries are about are the same. -/
structure SameEntry (c c' : WholeBodyController K) : Prop where
  playback : c'.playbackMotion = c.playbackMotion
  stamp : c'.lastPlanStamp = c.lastPlanStamp
  stateTicket : c'.stateReseedTicket = c.stateReseedTicket
  issued : c'.reinitTicketIssued = c.reinitTicketIssued
  ticket : c'.reinitTicket = c.reinitTicket
  mode : c'.arbiter.mode = c.arbiter.mode

namespace SameEntry

variable {c c' c'' : WholeBodyController K}

theorem refl (c : WholeBodyController K) : SameEntry c c := ⟨rfl, rfl, rfl, rfl, rfl, rfl⟩

theorem trans (h : SameEntry c c') (h' : SameEntry c' c'') : SameEntry c c'' :=
  ⟨h'.playback.trans h.playback, h'.stamp.trans h.stamp, h'.stateTicket.trans h.stateTicket,
    h'.issued.trans h.issued, h'.ticket.trans h.ticket, h'.mode.trans h.mode⟩

theorem tickMissing (c : WholeBodyController K) (now : TimePoint) :
    SameEntry c (c.tickMissing now) := by
  obtain ⟨_, _, _, _, h⟩ := c.tickMissing_frame now
  rw [h]
  exact ⟨rfl, rfl, rfl, rfl, rfl, rfl⟩

theorem tickState (hs : c.state ≠ .control) (r : TickReads K) : SameEntry c (c.tickState r) := by
  obtain ⟨_, _, _, _, h⟩ := c.tickState_frame r hs
  rw [h]
  exact ⟨rfl, rfl, rfl, rfl, rfl, rfl⟩

theorem selectToken (c : WholeBodyController K) (e v : Option (Token K)) :
    SameEntry c (c.selectToken e v).1 :=
  ⟨rfl, rfl, rfl, rfl, rfl, ControlArbiter.selectToken_mode _ _ _⟩

theorem decodeAndPublish (c : WholeBodyController K) (token : Token K) (r : TickReads K) :
    SameEntry c (c.decodeAndPublish token r) := by
  obtain ⟨_, _, _, _, _, h⟩ := c.decodeAndPublish_frame r token
  rw [h]
  exact ⟨rfl, rfl, rfl, rfl, rfl, rfl⟩

theorem tickVla (c : WholeBodyController K) (r : TickReads K) : SameEntry c (c.tickVla r) := by
  unfold WholeBodyController.tickVla
  split
  · exact refl c
  · exact (selectToken c none _).trans (decodeAndPublish _ _ r)

theorem tickEncoder (c : WholeBodyController K) (r : TickReads K) :
    SameEntry c (c.tickEncoder r).1 := by
  have hmode := c.tickEncoder_mode r
  obtain ⟨_, _, _, _, _, _, _, h⟩ := c.tickEncoder_frame r
  rw [h] at hmode ⊢
  exact ⟨rfl, rfl, rfl, rfl, rfl, hmode⟩

theorem traceTick (c : WholeBodyController K) (enabled : Bool) :
    SameEntry c (c.traceTick enabled) := by
  obtain ⟨_, h⟩ := c.traceTick_frame enabled
  rw [h]
  exact ⟨rfl, rfl, rfl, rfl, rfl, rfl⟩

end SameEntry

/-- The arbiter's transition changes the mode, and forgets a ticket only on the way into a
recovery. -/
theorem decideOwner_entry (c : WholeBodyController K) (r : TickReads K) :
    (c.decideOwner r).playbackMotion = c.playbackMotion ∧
      (c.decideOwner r).lastPlanStamp = c.lastPlanStamp ∧
      (c.decideOwner r).stateReseedTicket = c.stateReseedTicket ∧
      (c.decideOwner r).reinitTicket = c.reinitTicket := by
  obtain ⟨_, _, h⟩ := c.decideOwner_frame r
  rw [h]
  exact ⟨rfl, rfl, rfl, rfl⟩

theorem decideOwner_issued (c : WholeBodyController K) (r : TickReads K) :
    (c.arbiter.mode = .recovering →
        (c.decideOwner r).reinitTicketIssued = c.reinitTicketIssued) ∧
      ((c.decideOwner r).reinitTicketIssued = true → c.reinitTicketIssued = true ∧
        ((c.decideOwner r).arbiter.mode = .recovering → c.arbiter.mode = .recovering)) := by
  unfold decideOwner
  dsimp only
  split
  · rename_i hne
    split
    · rename_i hm
      exact ⟨fun _ => rfl, fun h => ⟨h, fun h' => nomatch hm.symm.trans h'⟩⟩
    · rename_i hm
      exact ⟨fun h => absurd (hm.trans h.symm) hne, nofun⟩
    · rename_i hm
      exact ⟨fun _ => rfl, fun h => ⟨h, fun h' => nomatch hm.symm.trans h'⟩⟩
    · rename_i hm
      exact ⟨fun _ => rfl, fun h => ⟨h, fun h' => nomatch hm.symm.trans h'⟩⟩
  · rename_i heq
    exact ⟨fun _ => rfl, fun h => ⟨h, fun h' => (not_not.mp heq).symm.trans h'⟩⟩

/-- A recovery goes on, or the transition leaves it: then its reseed is acknowledged. -/
theorem decideOwner_recovering {c : WholeBodyController K} {r : TickReads K}
    (hm : c.arbiter.mode = .recovering) :
    (c.leavesRecovery r = false ∧ (c.decideOwner r).arbiter.mode = .recovering) ∨
      (c.leavesRecovery r = true ∧ (c.decideOwner r).arbiter.mode = .normal ∧
        c.reinitTicketIssued = true ∧ c.reinitTicket ≤ r.reinitDone) := by
  have hmode : (c.stepArbiter r).mode = decideMode .recovering
      (r.vla.hasData && decide (r.vla.getAgeMs r.now ≤ kVlaTokenFreshMs))
      (r.vla.hasData && decide (r.vla.getAgeMs r.now ≤ kVlaTokenHoldMs)) r.calibrated
      (c.reinitTicketIssued && decide (c.reinitTicket ≤ r.reinitDone)) := by
    rw [stepArbiter, ControlArbiter.stepMode_mode, hm]
  rw [decideOwner_mode, leavesRecovery, hm, hmode]
  cases hdone : c.reinitTicketIssued && decide (c.reinitTicket ≤ r.reinitDone) with
  | true =>
    right
    have hboth := hdone
    rw [Bool.and_eq_true, decide_eq_true_eq] at hboth
    exact ⟨rfl, rfl, hboth⟩
  | false => exact Or.inl ⟨rfl, rfl⟩

/-- Playback does not touch the tickets. -/
theorem advancePlayback_entry (c : WholeBodyController K)
    (plan : TimestampedData (MotionSequence50Hz K)) :
    (c.advancePlayback plan).stateReseedTicket = c.stateReseedTicket ∧
      (c.advancePlayback plan).reinitTicketIssued = c.reinitTicketIssued ∧
      (c.advancePlayback plan).reinitTicket = c.reinitTicket ∧
      (c.advancePlayback plan).arbiter = c.arbiter := by
  obtain ⟨_, _, _, _, _, h⟩ := c.advancePlayback_frame plan
  rw [h]
  exact ⟨rfl, rfl, rfl, rfl⟩

namespace ControllerPoint

/-- The point is in front of a `request_reinit()`. -/
def requests : ControllerPoint K → Bool
  | .requesting | .asking _ => true
  | _ => false

/-- The point is in front of a discard, a reseed request or an adoption. -/
def reenters : ControllerPoint K → Bool
  | .discarding | .requesting | .leaving | .asking _ | .advancing => true
  | _ => false

/-- The point is in front of the discard at the end of a recovery. -/
def leaves : ControllerPoint K → Bool
  | .leaving => true
  | _ => false

def advances : ControllerPoint K → Bool
  | .advancing => true
  | _ => false

theorem advances_iff {p : ControllerPoint K} : p.advances = true ↔ p = .advancing := by
  cases p <;> simp [advances]

theorem of_not_reenters {p : ControllerPoint K} (h : p.reenters = false) :
    p ≠ .discarding ∧ p ≠ .requesting ∧ p.leaves = false := by
  cases p with
  | discarding => cases h
  | requesting => cases h
  | leaving => cases h
  | _ => exact ⟨nofun, nofun, rfl⟩

end ControllerPoint

/-- The recovery's reseed is acknowledged, or the recovery is over, and the playback is not
discarded yet. -/
def ControllerThread.discardDue (t : ControllerThread K) (done : Nat) : Bool :=
  (t.controller.arbiter.mode = .recovering && t.controller.reinitTicketIssued &&
    decide (t.controller.reinitTicket ≤ done)) || t.point.leaves

/-- The history of a plan. -/
structure PlanRecord (K : Type) [Field K] where
  /-- When the earliest `initialize_once` in its chain of contexts was started. -/
  oldestInit : Nat := 0
  /-- The playback timelines that its chain of contexts has frames of. -/
  timelines : List Nat := []
  /-- The adoptions before its own context was set up. -/
  adoptions : Nat := 0
  /-- The timeline, the motion and the cursor of the snapshot its context is from. -/
  snapshot : Option (Nat × MotionSequence50Hz K × Int) := none
  context : Fin 4 → Fin 36 → K := fun _ _ => 0

structure PlaybackLoops (K : Type) [Field K] where
  planner : Reseed K := {}
  controller : ControllerThread K := {}
  /-- The number of discards: the number of the current timeline. -/
  timeline : Nat := 0
  adoptions : Nat := 0
  /-- The ticket of the last re-entry. -/
  entryTicket : Nat := 0
  /-- The earliest initialization behind the frames of the playback. -/
  playbackOldest : Nat := 0
  /-- The timelines that the plans in the playback have frames of. -/
  playbackTimelines : List Nat := []
  /-- The record of the context in the planner's input tensors. -/
  context : PlanRecord K := {}
  /-- The record of `motion_seq_`, the planner's last own output. -/
  seq : PlanRecord K := {}
  /-- The record of the motion in the plan buffer. -/
  buf : PlanRecord K := {}
  /-- The planner's snapshot is of a playback about to be discarded. -/
  lateSnapshot : Bool := false

namespace PlaybackLoops

abbrev p (s : PlaybackLoops K) : PlannerInference K := s.planner.planner

abbrev c (s : PlaybackLoops K) : WholeBodyController K := s.controller.controller

inductive Act (K : Type) [Field K] where
  | planner (a : PlannerThread.Act K)
  | controller (r : TickReads K)

def start (auto : Bool) : PlaybackLoops K :=
  { controller := { controller := { autoStart := auto } } }

/-! ## The planner's steps -/

/-- A planner step with the snapshot that the controller gives out now. -/
def plannerAct (s : PlaybackLoops K) : PlannerThread.Act K → PlannerThread.Act K
  | .snapshot _ t0 => .snapshot s.c.playbackSnapshot t0
  | a => a

/-- The record of the context that a snapshot gives. -/
def snapshotRecord (s : PlaybackLoops K) (context : Fin 4 → Fin 36 → K) : PlanRecord K :=
  match s.c.playbackSnapshot with
  | some (motion, cursor) =>
    { oldestInit := s.playbackOldest
      timelines := s.timeline :: s.playbackTimelines
      adoptions := s.adoptions
      snapshot := some (s.timeline, motion, cursor)
      context := context }
  | none => { s.seq with adoptions := s.adoptions, snapshot := none, context := context }

/-- The step publishes a replan. -/
def publishesReplan (s : PlaybackLoops K) : Act K → Bool
  | .planner (.publish engine now) => s.planner.publishes (.publish engine now)
  | _ => false

/-- The history after a step of the planner to `t`. -/
def advancePlanner (s : PlaybackLoops K) (a : PlannerThread.Act K) (t : Reseed K) :
    PlaybackLoops K :=
  { s with
    planner := t
    context :=
      match a with
      | .startInitialize (some _) =>
        { oldestInit := s.planner.clock, adoptions := s.adoptions, context := t.planner.context }
      | .snapshot _ _ => s.snapshotRecord t.planner.context
      | _ => s.context
    lateSnapshot :=
      match a with
      | .snapshot _ _ => s.c.playbackSnapshot.isSome && s.controller.discardDue s.p.reinitDone
      | _ => s.lateSnapshot
    seq := if s.planner.publishes a then s.context else s.seq
    buf := if s.planner.publishes a then s.context else s.buf }

/-! ## The controller's steps -/

/-- The controller's reads, with what the planner shows it now. -/
def feed (s : PlaybackLoops K) (r : TickReads K) : TickReads K :=
  { r with
    stateTicket := s.p.requestReinit.2
    stateReinitDone := s.p.reinitDone
    reinitDone := s.p.reinitDone
    recoveryTicket := s.p.requestReinit.2
    plan := s.p.motion50hzBuf.getDataWithTime }

/-- The plan in the buffer would be taken into the playback now. -/
def adopts (s : PlaybackLoops K) : Bool :=
  match s.p.motion50hzBuf.data with
  | some gen => s.c.newPlan s.p.motion50hzBuf.getDataWithTime &&
      (decide (s.c.playbackMotion.timesteps = 0) || decide (0 < blendLength gen s.c.cursor))
  | none => false

/-- The history of an adoption. -/
def adopt (s : PlaybackLoops K) : PlaybackLoops K :=
  if s.c.playbackMotion.timesteps = 0 then
    { s with
      adoptions := s.adoptions + 1
      playbackOldest := s.buf.oldestInit
      playbackTimelines := s.buf.timelines }
  else
    { s with
      adoptions := s.adoptions + 1
      playbackOldest := min s.playbackOldest s.buf.oldestInit
      playbackTimelines := s.playbackTimelines ++ s.buf.timelines }

/-- The planner and the history after a step of the controller from this point. -/
def advanceController (s : PlaybackLoops K) : PlaybackLoops K :=
  match s.controller.point with
  | .discarding => { s with timeline := s.timeline + 1 }
  | .leaving => { s with timeline := s.timeline + 1, entryTicket := s.c.reinitTicket }
  | .requesting => { s with planner := s.planner.request, entryTicket := s.p.requestReinit.2 }
  | .asking _ => { s with planner := s.planner.request }
  | .advancing => if s.adopts then s.adopt else s
  | _ => s

/-- The state after a step of the controller to `t`. -/
def afterController (s : PlaybackLoops K) (t : ControllerThread K) : PlaybackLoops K :=
  { s.advanceController with controller := t }

def stepController (s : PlaybackLoops K) (r : TickReads K) : PlaybackLoops K :=
  s.afterController (s.controller.next (s.feed r))

def step (s : PlaybackLoops K) : Act K → Option (PlaybackLoops K)
  | .planner a =>
    (s.planner.step (.planner (s.plannerAct a))).map (s.advancePlanner (s.plannerAct a))
  | .controller r => some (s.stepController r)

end PlaybackLoops

/-! ## The two re-entries -/

/-- What the point of the loop says about the re-entries. -/
def PointInv (done : Nat) (c : WholeBodyController K) : ControllerPoint K → Prop
  | .requesting => c.playbackMotion.timesteps = 0
  | .arbitrating | .deciding => c.stateReseedTicket = 0
  | .leaving => c.stateReseedTicket = 0 ∧ 1 ≤ c.reinitTicket ∧ c.reinitTicket ≤ done
  | .asking _ => c.stateReseedTicket = 0 ∧ c.arbiter.mode = .recovering
  | .advancing => c.stateReseedTicket = 0 ∧ c.arbiter.mode.inSession = false
  | _ => True

/-- Beside the counters of the handshake: an unanswered request is the last one, and either
the controller waits for it with an empty playback, or the recovery does. -/
structure EntryInv (done requested : Nat) (t : ControllerThread K) : Prop where
  pending : done < requested →
    (t.controller.stateReseedTicket = requested ∧ t.controller.playbackMotion.timesteps = 0) ∨
      (t.controller.arbiter.mode = .recovering ∧ t.controller.reinitTicketIssued = true ∧
        t.controller.reinitTicket = requested)
  waits : t.controller.stateReseedTicket ≠ 0 → t.controller.playbackMotion.timesteps = 0
  ticket : t.controller.reinitTicketIssued = true → 1 ≤ t.controller.reinitTicket
  point : PointInv done t.controller t.point

namespace EntryInv

variable {done requested : Nat} {t t' : ControllerThread K} {c c' : WholeBodyController K}
  {p p' : ControllerPoint K}

theorem init (auto : Bool) :
    EntryInv 0 0 ({ controller := { autoStart := auto } } : ControllerThread K) :=
  ⟨fun h => absurd h (Nat.lt_irrefl 0), fun _ => rfl, nofun, trivial⟩

/-- An acknowledgement of the planner. -/
theorem of_done (h : EntryInv done requested t) {done' : Nat} (hle : done ≤ done') :
    EntryInv done' requested t := by
  refine ⟨fun hlt => h.pending (hle.trans_lt hlt), h.waits, h.ticket, ?_⟩
  have hpoint := h.point
  obtain ⟨c, point⟩ := t
  cases point with
  | leaving => exact ⟨hpoint.1, hpoint.2.1, hpoint.2.2.trans hle⟩
  | _ => exact hpoint

/-- A step that leaves the members of the re-entries alone. -/
theorem of_same (h : EntryInv done requested ⟨c, p⟩) (hsame : SameEntry c c')
    (hpoint : PointInv done c' p') : EntryInv done requested ⟨c', p'⟩ := by
  refine ⟨fun hlt => ?_, fun hne => ?_, fun hi => ?_, hpoint⟩
  · show (c'.stateReseedTicket = _ ∧ c'.playbackMotion.timesteps = 0) ∨
      (c'.arbiter.mode = .recovering ∧ c'.reinitTicketIssued = true ∧ c'.reinitTicket = _)
    rw [hsame.playback, hsame.stateTicket, hsame.mode, hsame.issued, hsame.ticket]
    exact h.pending hlt
  · show c'.playbackMotion.timesteps = 0
    rw [hsame.playback]
    exact h.waits (hsame.stateTicket ▸ hne)
  · show 1 ≤ c'.reinitTicket
    rw [hsame.ticket]
    exact h.ticket (hsame.issued ▸ hi)

/-- Without a wait for a long loss, an unanswered request is the recovery's. -/
theorem pending_recovering (h : EntryInv done requested ⟨c, p⟩) (hzero : c.stateReseedTicket = 0)
    (hlt : done < requested) :
    c.arbiter.mode = .recovering ∧ c.reinitTicketIssued = true ∧ c.reinitTicket = requested := by
  rcases h.pending hlt with ⟨hwait, -⟩ | hrec
  · have hwait : c.stateReseedTicket = requested := hwait
    omega
  · exact hrec

/-- The playback is discarded. -/
theorem of_discard (h : EntryInv done requested ⟨c, p⟩) (hpoint : PointInv done c.enterOrigin p') :
    EntryInv done requested ⟨c.enterOrigin, p'⟩ := by
  refine ⟨fun hlt => ?_, fun _ => rfl, h.ticket, hpoint⟩
  rcases h.pending hlt with ⟨hwait, -⟩ | hrec
  · exact Or.inl ⟨hwait, rfl⟩
  · exact Or.inr hrec

/-- The arbiter steps: a recovery with an unanswered reseed goes on. -/
theorem of_decide (h : EntryInv done requested ⟨c, .arbitrating⟩) {r : TickReads K}
    (hr : r.reinitDone = done) (hpoint : PointInv done (c.decideOwner r) p') :
    EntryInv done requested ⟨c.decideOwner r, p'⟩ := by
  obtain ⟨-, -, hstate, hticket⟩ := decideOwner_entry c r
  obtain ⟨hissued, hkept⟩ := decideOwner_issued c r
  have hzero : c.stateReseedTicket = 0 := h.point
  refine ⟨fun hlt => Or.inr ?_, fun hne => absurd (hstate.trans hzero) hne, fun hi => ?_, hpoint⟩
  swap
  · exact (h.ticket (hkept hi).1).trans hticket.ge
  obtain ⟨hm, hi, ht⟩ := h.pending_recovering hzero hlt
  rcases decideOwner_recovering hm with ⟨-, hm'⟩ | ⟨-, -, -, hle⟩
  · exact ⟨hm', (hissued hm).trans hi, hticket.trans ht⟩
  · have hle' : c.reinitTicket ≤ done := hr ▸ hle
    omega

/-- A plan is adopted or the cursor advances, which happens outside sessions only. -/
theorem of_advance (h : EntryInv done requested ⟨c, .advancing⟩)
    (plan : TimestampedData (MotionSequence50Hz K)) :
    EntryInv done requested ⟨c.advancePlayback plan, .tracing⟩ := by
  obtain ⟨hzero, hm⟩ : c.stateReseedTicket = 0 ∧ c.arbiter.mode.inSession = false := h.point
  have hstate : (c.advancePlayback plan).stateReseedTicket = 0 :=
    (advancePlayback_entry c plan).1.trans hzero
  have hsame := advancePlayback_entry c plan
  refine ⟨fun hlt => ?_, fun hne => absurd hstate hne,
    fun hi => (h.ticket (hsame.2.1.symm.trans hi)).trans hsame.2.2.1.ge, trivial⟩
  obtain ⟨hrec, -, -⟩ := h.pending_recovering hzero hlt
  rw [hrec] at hm
  cases hm

theorem of_requestState (h : EntryInv done requested ⟨c, .requesting⟩) :
    EntryInv done (requested + 1) ⟨c.requestStateReseed (requested + 1), .switching⟩ := by
  have hempty : c.playbackMotion.timesteps = 0 := h.point
  exact ⟨fun _ => Or.inl ⟨rfl, hempty⟩, fun _ => hempty, h.ticket, trivial⟩

theorem of_requestRecovery {token : Token K} (h : EntryInv done requested ⟨c, .asking token⟩)
    (r : TickReads K) :
    EntryInv done (requested + 1)
      ⟨(c.requestRecoveryReseed (requested + 1)).decodeAndPublish token r, .tracing⟩ := by
  obtain ⟨hzero, hm⟩ : c.stateReseedTicket = 0 ∧ c.arbiter.mode = .recovering := h.point
  have hreq : EntryInv done (requested + 1)
      ⟨c.requestRecoveryReseed (requested + 1), .asking token⟩ :=
    ⟨fun _ => Or.inr ⟨hm, rfl, rfl⟩, fun hne => absurd hzero hne,
      fun _ => Nat.succ_le_succ (Nat.zero_le _), ⟨hzero, hm⟩⟩
  exact hreq.of_same (.decodeAndPublish _ token r) trivial

end EntryInv

/-- **The controller keeps the re-entry invariant**, whatever it reads of the reseeds being
what the planner's counters say. -/
theorem EntryInv.of_fires {done requested : Nat} {t t' : ControllerThread K} {r : TickReads K}
    (h : EntryInv done requested t) (hf : ControllerThread.Fires r t t')
    (hdone : r.stateReinitDone = done ∧ r.reinitDone = done)
    (hticket : r.stateTicket = requested + 1 ∧ r.recoveryTicket = requested + 1) :
    EntryInv done (if t.point.requests then requested + 1 else requested) t' := by
  obtain ⟨hwaitDone, harbDone⟩ := hdone
  cases hf with
  | estop c he => exact h.of_same ⟨rfl, rfl, rfl, rfl, rfl, rfl⟩ trivial
  | start c he => exact h.of_same ⟨rfl, rfl, rfl, rfl, rfl, rfl⟩ trivial
  | missing c hm => exact h.of_same (.tickMissing c r.now) trivial
  | reenter c hdue => exact h.of_same (.refl c) trivial
  | present c hdue => exact h.of_same ⟨rfl, rfl, rfl, rfl, rfl, rfl⟩ trivial
  | discard c => exact h.of_discard rfl
  | request c =>
    rw [hticket.1]
    exact h.of_requestState
  | other c hs => exact h.of_same (.tickState hs r) trivial
  | ungathered c hs => exact h.of_same (.refl c) trivial
  | gather c hs e => exact h.of_same ⟨rfl, rfl, rfl, rfl, rfl, rfl⟩ trivial
  | wait c hw => exact h.of_same (.refl c) trivial
  | acked c hw =>
    refine ⟨fun hlt => Or.inr ?_, fun hne => absurd rfl hne, h.ticket, rfl⟩
    rcases h.pending hlt with ⟨hwait, -⟩ | hrec
    · have hwait : c.stateReseedTicket = requested := hwait
      rw [awaitsReseed, hwait, hwaitDone] at hw
      have hpos : requested ≠ 0 := Nat.ne_of_gt (Nat.zero_lt_of_lt hlt)
      have hlt : done < requested := hlt
      simp [hpos, hlt] at hw
    · exact hrec
  | leave c hl =>
    have hm : c.arbiter.mode = .recovering := by
      simp only [leavesRecovery, Bool.and_eq_true, decide_eq_true_eq] at hl
      exact hl.1
    obtain ⟨-, -, hstate, hkeep⟩ := decideOwner_entry c r
    rcases decideOwner_recovering (r := r) hm with ⟨hno, -⟩ | ⟨-, -, hi, hle⟩
    · exact Bool.noConfusion (hl.symm.trans hno)
    · refine h.of_decide harbDone ⟨hstate.trans h.point, ?_, ?_⟩
      · exact (h.ticket hi).trans hkeep.ge
      · exact hkeep.trans_le (hle.trans harbDone.le)
  | decide c hl =>
    obtain ⟨-, -, hstate, -⟩ := decideOwner_entry c r
    exact h.of_decide harbDone (hstate.trans h.point)
  | origin c => exact h.of_discard h.point.1
  | vla c hm => exact h.of_same (.tickVla c r) trivial
  | ask c hm hdue =>
    exact h.of_same (.selectToken c none none)
      ⟨(SameEntry.selectToken c none none).stateTicket.trans h.point,
        (SameEntry.selectToken c none none).mode.trans hm⟩
  | recover c hm =>
    exact h.of_same ((SameEntry.selectToken c none none).trans (.decodeAndPublish _ _ r)) trivial
  | empty c hm hempty => exact h.of_same (.refl c) ⟨h.point, hm⟩
  | encode c hm hne =>
    have hsame := SameEntry.tickEncoder c r
    refine h.of_same hsame ?_
    split
    · exact ⟨hsame.stateTicket.trans h.point, hsame.mode ▸ hm⟩
    · trivial
  | reseed c token =>
    rw [hticket.2]
    exact h.of_requestRecovery r
  | advance c => exact h.of_advance r.plan
  | trace c => exact h.of_same (.traceTick c r.traceEnabled) trivial

/-! ## What a step can do to the re-entries -/

/-- A step of the controller as the re-entries see it. -/
inductive Reenters (r : TickReads K) : ControllerThread K → ControllerThread K → Prop
  | quiet {c c' : WholeBodyController K} {p p' : ControllerPoint K} (hsame : SameEntry c c')
      (hp : p.reenters = false) (hl : p'.leaves = false) (hq : p' ≠ .requesting) :
      Reenters r ⟨c, p⟩ ⟨c', p'⟩
  | discard (c : _) : Reenters r ⟨c, .discarding⟩ ⟨c.enterOrigin, .requesting⟩
  | request (c : _) :
      Reenters r ⟨c, .requesting⟩ ⟨c.requestStateReseed r.stateTicket, .switching⟩
  | acked (c : _) (h : c.awaitsReseed r.stateReinitDone = false) :
      Reenters r ⟨c, .waiting⟩ ⟨{ c with stateReseedTicket := 0 }, .arbitrating⟩
  | leave (c : _) (h : c.leavesRecovery r = true) :
      Reenters r ⟨c, .arbitrating⟩ ⟨c.decideOwner r, .leaving⟩
  | decide (c : _) (h : c.leavesRecovery r = false) :
      Reenters r ⟨c, .arbitrating⟩ ⟨c.decideOwner r, .deciding⟩
  | origin (c : _) : Reenters r ⟨c, .leaving⟩ ⟨c.enterOrigin, .deciding⟩
  | reseed (c c' : _) (token) (h : SameEntry (c.requestRecoveryReseed r.recoveryTicket) c') :
      Reenters r ⟨c, .asking token⟩ ⟨c', .tracing⟩
  | advance (c : _) : Reenters r ⟨c, .advancing⟩ ⟨c.advancePlayback r.plan, .tracing⟩

section

variable {r : TickReads K} {t t' : ControllerThread K} {done : Nat}

theorem ControllerThread.Fires.reenters (hf : ControllerThread.Fires r t t') :
    Reenters r t t' := by
  cases hf with
  | estop c he => exact .quiet ⟨rfl, rfl, rfl, rfl, rfl, rfl⟩ rfl rfl nofun
  | start c he => exact .quiet ⟨rfl, rfl, rfl, rfl, rfl, rfl⟩ rfl rfl nofun
  | missing c hm => exact .quiet (.tickMissing c r.now) rfl rfl nofun
  | reenter c hdue => exact .quiet (.refl c) rfl rfl nofun
  | present c hdue => exact .quiet ⟨rfl, rfl, rfl, rfl, rfl, rfl⟩ rfl rfl nofun
  | discard c => exact .discard c
  | request c => exact .request c
  | other c hs => exact .quiet (.tickState hs r) rfl rfl nofun
  | ungathered c hs => exact .quiet (.refl c) rfl rfl nofun
  | gather c hs e => exact .quiet ⟨rfl, rfl, rfl, rfl, rfl, rfl⟩ rfl rfl nofun
  | wait c hw => exact .quiet (.refl c) rfl rfl nofun
  | acked c hw => exact .acked c hw
  | leave c hl => exact .leave c hl
  | decide c hl => exact .decide c hl
  | origin c => exact .origin c
  | vla c hm => exact .quiet (.tickVla c r) rfl rfl nofun
  | ask c hm hdue => exact .quiet (.selectToken c none none) rfl rfl nofun
  | recover c hm =>
    exact .quiet ((SameEntry.selectToken c none none).trans (.decodeAndPublish _ _ r)) rfl rfl
      nofun
  | empty c hm hempty => exact .quiet (.refl c) rfl rfl nofun
  | encode c hm hne =>
    cases h : (c.tickEncoder r).2 with
    | true => exact .quiet (.tickEncoder c r) rfl (by simp; rfl) (by simp)
    | false => exact .quiet (.tickEncoder c r) rfl (by simp; rfl) (by simp)
  | reseed c token => exact .reseed c _ token (.decodeAndPublish _ token r)
  | advance c => exact .advance c
  | trace c => exact .quiet (.traceTick c r.traceEnabled) rfl rfl nofun

theorem discardDue_iff : t.discardDue done = true ↔
    (t.controller.arbiter.mode = .recovering ∧ t.controller.reinitTicketIssued = true ∧
      t.controller.reinitTicket ≤ done) ∨ t.point.leaves = true := by
  simp [ControllerThread.discardDue, and_assoc]

/-- A discard after a recovery becomes due by an acknowledgement only. -/
theorem Reenters.discardDue (hf : Reenters r t t') (hdone : r.reinitDone = done)
    (hticket : done < r.recoveryTicket) (h : t'.discardDue done = true) :
    t.discardDue done = true ∧ t'.controller.reinitTicket = t.controller.reinitTicket := by
  rw [discardDue_iff] at h ⊢
  cases hf with
  | quiet hsame hp hl hq =>
    obtain ⟨hm, hi, hle⟩ := h.resolve_right (by rw [hl]; exact Bool.false_ne_true)
    refine ⟨Or.inl ⟨?_, ?_, ?_⟩, hsame.ticket⟩
    · exact hsame.mode.symm.trans hm
    · exact hsame.issued.symm.trans hi
    · exact hsame.ticket.symm.trans_le hle
  | discard c => exact ⟨Or.inl (h.resolve_right nofun), rfl⟩
  | request c => exact ⟨Or.inl (h.resolve_right nofun), rfl⟩
  | acked c hw => exact ⟨Or.inl (h.resolve_right nofun), rfl⟩
  | leave c hl =>
    have hm : c.arbiter.mode = .recovering := by
      simp only [leavesRecovery, Bool.and_eq_true, decide_eq_true_eq] at hl
      exact hl.1
    refine ⟨Or.inl ?_, (decideOwner_entry c r).2.2.2⟩
    rcases decideOwner_recovering (r := r) hm with ⟨hno, -⟩ | ⟨-, -, hi, hle⟩
    · exact Bool.noConfusion (hl.symm.trans hno)
    · exact ⟨hm, hi, hle.trans hdone.le⟩
  | decide c hl =>
    obtain ⟨-, -, -, hkeep⟩ := decideOwner_entry c r
    obtain ⟨hm, hi, hle⟩ := h.resolve_right nofun
    obtain ⟨hi', hm'⟩ := (decideOwner_issued c r).2 hi
    exact ⟨Or.inl ⟨hm' hm, hi', hkeep.symm.trans_le hle⟩, hkeep⟩
  | origin c => exact ⟨Or.inr rfl, rfl⟩
  | reseed c c' token hsame =>
    obtain ⟨-, -, hle⟩ := h.resolve_right nofun
    exact absurd (hsame.ticket.symm.trans_le hle) hticket.not_ge
  | advance c =>
    obtain ⟨-, hi, ht, ha⟩ := advancePlayback_entry c r.plan
    obtain ⟨hm, hi', hle⟩ := h.resolve_right nofun
    refine ⟨Or.inl ⟨?_, ?_, ?_⟩, ht⟩
    · exact (congrArg _ ha).symm.trans hm
    · exact hi.symm.trans hi'
    · exact ht.symm.trans_le hle

end

/-! ## The two loops together -/

/-- A step of the planner's thread issues no ticket. -/
theorem PlannerThread.Fires.requested {s u : PlannerThread K} {a : PlannerThread.Act K}
    (h : PlannerThread.Fires s a u) : u.planner.reinitRequested = s.planner.reinitRequested := by
  cases h with
  | finishInitialize req engine now hp hok => exact (PlannerInference.runAndPublish_ok hok).2.1
  | readCommand req ms hp hinit =>
    exact ((s.planner.countPeriod.needReplan_handshake ms).trans
      s.planner.countPeriod_handshake).requested
  | snapshot ms playback t0 hp =>
    exact (s.planner.startReplan_handshake ms playback t0).requested
  | publish engine now hp =>
    cases hok : (s.planner.runAndPublish engine now).2 with
    | true => exact (PlannerInference.runAndPublish_ok hok).2.1
    | false => rw [PlannerInference.runAndPublish_eq_self hok]
  | _ => rfl

namespace PlaybackLoops

variable {s t : PlaybackLoops K}

theorem step_planner {a : PlannerThread.Act K} (h : s.step (.planner a) = some t) :
    ∃ u, PlannerThread.Fires s.planner.thread (s.plannerAct a) u ∧
      s.planner.step (.planner (s.plannerAct a)) = some (s.planner.advance (s.plannerAct a) u) ∧
      t = s.advancePlanner (s.plannerAct a) (s.planner.advance (s.plannerAct a) u) := by
  obtain ⟨v, hv, rfl⟩ := Option.map_eq_some_iff.mp h
  obtain ⟨u, hu, rfl⟩ := Reseed.step_planner hv
  exact ⟨u, hu, hv, rfl⟩

/-- A reseed request leaves the plans and the issued tickets alone. -/
structure KeepsPlans (s t : Reseed K) : Prop where
  point : t.point = s.point
  initialized : t.planner.initialized = s.planner.initialized
  done : t.planner.reinitDone = s.planner.reinitDone
  requested : s.planner.reinitRequested ≤ t.planner.reinitRequested
  buf : t.planner.motion50hzBuf = s.planner.motion50hzBuf
  genFrame : t.planner.genFrame = s.planner.genFrame
  initStart : t.initStart = s.initStart
  issued : ∀ ticket, ticket ≤ s.planner.reinitRequested → t.issued ticket = s.issued ticket

theorem KeepsPlans.request (s : Reseed K) : KeepsPlans s s.request := by
  refine ⟨rfl, rfl, rfl, Nat.le_succ _, rfl, rfl, rfl, fun ticket hle => ?_⟩
  have hne : ticket ≠ s.planner.reinitRequested + 1 := by omega
  exact Function.update_of_ne hne _ _

/-- The controller touches the planner with its reseed requests only. -/
theorem advanceController_planner (s : PlaybackLoops K) :
    s.advanceController.planner =
      if s.controller.point.requests then s.planner.request else s.planner := by
  unfold advanceController
  cases hp : s.controller.point with
  | advancing =>
    dsimp only [ControllerPoint.requests]
    split
    · unfold adopt
      split <;> rfl
    · rfl
  | _ => rfl

theorem keeps_advanceController (s : PlaybackLoops K) :
    KeepsPlans s.planner s.advanceController.planner := by
  rw [advanceController_planner]
  split
  · exact .request s.planner
  · exact ⟨rfl, rfl, rfl, le_rfl, rfl, rfl, rfl, fun _ _ => rfl⟩

/-- Only a discard and a request move the timeline and the ticket. -/
theorem advanceController_entry (hd : s.controller.point ≠ .discarding)
    (hq : s.controller.point ≠ .requesting) (hl : s.controller.point.leaves = false) :
    s.advanceController.timeline = s.timeline ∧
      s.advanceController.entryTicket = s.entryTicket := by
  unfold advanceController
  cases hp : s.controller.point with
  | discarding => exact absurd hp hd
  | requesting => exact absurd hp hq
  | leaving =>
    rw [hp] at hl
    cases hl
  | advancing =>
    dsimp only
    split
    · unfold adopt
      split <;> exact ⟨rfl, rfl⟩
    · exact ⟨rfl, rfl⟩
  | _ => exact ⟨rfl, rfl⟩

/-- The planner's records are the planner's. -/
theorem advanceController_records (s : PlaybackLoops K) :
    s.advanceController.context = s.context ∧ s.advanceController.seq = s.seq ∧
      s.advanceController.buf = s.buf ∧ s.advanceController.lateSnapshot = s.lateSnapshot := by
  unfold advanceController
  cases hp : s.controller.point with
  | advancing =>
    dsimp only
    split
    · unfold adopt
      split <;> exact ⟨rfl, rfl, rfl, rfl⟩
    · exact ⟨rfl, rfl, rfl, rfl⟩
  | _ => exact ⟨rfl, rfl, rfl, rfl⟩

/-- A snapshot step gets what the controller gives out. -/
theorem plannerAct_snapshot {a : PlannerThread.Act K}
    {playback : Option (MotionSequence50Hz K × Int)} {t0 : TimePoint}
    (h : s.plannerAct a = .snapshot playback t0) : playback = s.c.playbackSnapshot := by
  cases a with
  | snapshot playback' t0' =>
    cases h
    rfl
  | _ => cases h

structure LoopsInv (s : PlaybackLoops K) : Prop where
  handshake : Reseed.HandshakeInv s.planner
  entry : EntryInv s.p.reinitDone s.p.reinitRequested s.controller

theorem LoopsInv.init (auto : Bool) : LoopsInv (start auto : PlaybackLoops K) :=
  ⟨.init, .init auto⟩

/-- The step lemma of what both loops keep. -/
theorem LoopsInv.of_step (h : LoopsInv s) {a : Act K} (hstep : s.step a = some t) :
    LoopsInv t := by
  cases a with
  | planner a =>
    obtain ⟨u, hu, hseed, rfl⟩ := step_planner hstep
    refine ⟨h.handshake.of_step hseed, ?_⟩
    have hentry := h.entry.of_done (Reseed.done_mono h.handshake hseed)
    have hreq : u.planner.reinitRequested = s.p.reinitRequested := hu.requested
    show EntryInv u.planner.reinitDone u.planner.reinitRequested s.controller
    rw [hreq]
    exact hentry
  | controller r =>
    cases hstep
    have hfires := ControllerThread.fires_next s.controller (s.feed r)
    have hentry := h.entry.of_fires hfires ⟨rfl, rfl⟩ ⟨rfl, rfl⟩
    have hplanner : (s.stepController r).planner = _ := s.advanceController_planner
    cases hreq : s.controller.point.requests with
    | true =>
      rw [hreq, if_pos rfl] at hplanner hentry
      refine ⟨hplanner ▸ h.handshake.request, ?_⟩
      rw [p, hplanner]
      exact hentry
    | false =>
      rw [hreq, if_neg Bool.false_ne_true] at hplanner hentry
      refine ⟨hplanner ▸ h.handshake, ?_⟩
      rw [p, hplanner]
      exact hentry

/-! ## A run to the first adoption -/

/-- The robot stands and is present. -/
def presentReads : TickReads ℚ := { now := 1, lowState := ⟨some {}, 1⟩, robotState := some {} }

/-- One iteration of the planner that initializes. -/
def seedRun : List (Act ℚ) :=
  [.planner .load, .planner .clear, .planner (.startInitialize (some fun _ => 0)),
    .planner (.finishInitialize (some standingOutput) 1), .planner .ack]

/-- A plan, INIT and WAIT, and the tick that adopts the plan. -/
def adoptionRun : List (Act ℚ) :=
  seedRun ++ List.replicate (151 * 4 + 8) (.controller presentReads)

end PlaybackLoops

end Gearsonic
