import Gearsonic.Control.WholeBodyController

/-!
# The controller's thread

The loop body cut at the places where it touches what another thread reads or writes: the
emergency stop, the playback that the planner takes snapshots of, the reseed counters, and
the plan buffer. `next` is one step; it reads from other threads only what is current at
that step, so other threads can move between any two steps.

* `run_loopIteration`: with nothing in between, the steps are the loop body.
* `Fires`, `fires_next`: what one step can be.
-/

set_option linter.unusedSectionVars false

namespace Gearsonic

/-- Where the loop stands. A point named for an action stands in front of it. -/
inductive ControllerPoint (K : Type) where
  | top
  | checking
  | discarding
  | requesting
  | switching
  | waiting
  | arbitrating
  | leaving
  | deciding
  | asking (token : Token K)
  | advancing
  | tracing

structure ControllerThread (K : Type) [Field K] where
  controller : WholeBodyController K := {}
  point : ControllerPoint K := .top

namespace ControllerThread

variable {K : Type} [Field K] [LinearOrder K] [CMath K]

open WholeBodyController

/-- The step in front of which the loop stands, with these reads. -/
def next (s : ControllerThread K) (r : TickReads K) : ControllerThread K :=
  let c := s.controller
  match s.point with
  | .top =>
    if r.estop then ⟨({ c with outputs := [] }).tickEstop r.now, .top⟩
    else ⟨{ c with outputs := [] }, .checking⟩
  | .checking =>
    if !checkSafety r.lowState r.now then ⟨c.tickMissing r.now, .top⟩
    else if c.reentryDue then ⟨c, .discarding⟩
    else ⟨{ c with stateMissingTicks := 0 }, .switching⟩
  | .discarding => ⟨c.enterOrigin, .requesting⟩
  | .requesting => ⟨c.requestStateReseed r.stateTicket, .switching⟩
  | .switching =>
    if c.state = .control then
      match c.gatherRobotState r.robotState with
      | none => ⟨c, .tracing⟩
      | some c => ⟨c, .waiting⟩
    else ⟨c.tickState r, .tracing⟩
  | .waiting =>
    if c.awaitsReseed r.stateReinitDone then ⟨c, .tracing⟩
    else ⟨{ c with stateReseedTicket := 0 }, .arbitrating⟩
  | .arbitrating => ⟨c.decideOwner r, if c.leavesRecovery r then .leaving else .deciding⟩
  | .leaving => ⟨c.enterOrigin, .deciding⟩
  | .deciding =>
    match c.arbiter.mode with
    | .vla => ⟨c.tickVla r, .tracing⟩
    | .recovering =>
      let (c, token) := c.selectToken none none
      if c.reseedDue then ⟨c, .asking token⟩ else ⟨c.decodeAndPublish token r, .tracing⟩
    | .normal | .teleop =>
      if c.playbackMotion.timesteps = 0 then ⟨c, .advancing⟩
      else ⟨(c.tickEncoder r).1, if (c.tickEncoder r).2 then .advancing else .tracing⟩
  | .asking token =>
    ⟨(c.requestRecoveryReseed r.recoveryTicket).decodeAndPublish token r, .tracing⟩
  | .advancing => ⟨c.advancePlayback r.plan, .tracing⟩
  | .tracing => ⟨c.traceTick r.traceEnabled, .top⟩

/-! ## Back to back, the steps are the loop body -/

/-- With the same reads in every step, the loop comes to its top with this controller. -/
def Completes (r : TickReads K) (s : ControllerThread K) (c : WholeBodyController K) : Prop :=
  ∃ n, (fun s => next s r)^[n] s = ⟨c, .top⟩

variable {r : TickReads K} {s : ControllerThread K} {c c' : WholeBodyController K}

theorem Completes.step (h : Completes r (s.next r) c') : Completes r s c' := by
  obtain ⟨n, hn⟩ := h
  exact ⟨n + 1, hn⟩

theorem Completes.done : Completes r ⟨c, .top⟩ c := ⟨0, rfl⟩

theorem completes_tracing : Completes r ⟨c, .tracing⟩ (c.traceTick r.traceEnabled) :=
  .step .done

theorem completes_deciding :
    Completes r ⟨c, .deciding⟩ ((c.tickOwner r).traceTick r.traceEnabled) := by
  have hplayback : Completes r
      (if c.playbackMotion.timesteps = 0 then ⟨c, .advancing⟩
        else ⟨(c.tickEncoder r).1, if (c.tickEncoder r).2 then .advancing else .tracing⟩)
      ((c.tickPlayback r).traceTick r.traceEnabled) := by
    unfold tickPlayback
    by_cases hempty : c.playbackMotion.timesteps = 0
    · simp only [hempty, if_true]
      exact .step completes_tracing
    · simp only [hempty, if_false]
      cases (c.tickEncoder r).2 with
      | true => exact .step completes_tracing
      | false => exact completes_tracing
  refine .step ?_
  unfold next tickOwner
  dsimp only
  cases hm : c.arbiter.mode with
  | vla => exact completes_tracing
  | recovering =>
    unfold tickRecovery
    dsimp only
    split
    · exact .step completes_tracing
    · exact completes_tracing
  | normal => exact hplayback
  | teleop => exact hplayback

theorem completes_arbitrating :
    Completes r ⟨c, .arbitrating⟩
      (((c.updateArbiter r).tickOwner r).traceTick r.traceEnabled) := by
  refine .step ?_
  unfold next updateArbiter
  dsimp only
  cases c.leavesRecovery r with
  | true => exact .step completes_deciding
  | false => exact completes_deciding

theorem completes_switching :
    Completes r ⟨c, .switching⟩ ((c.tickState r).traceTick r.traceEnabled) := by
  refine .step ?_
  unfold next
  dsimp only
  by_cases hs : c.state = .control
  · have hstate : c.tickState r = c.tickControl r := by simp only [tickState, hs]
    rw [if_pos hs, hstate]
    unfold tickControl
    cases c.gatherRobotState r.robotState with
    | none => exact completes_tracing
    | some c =>
      refine .step ?_
      unfold next
      dsimp only
      cases c.awaitsReseed r.stateReinitDone with
      | true => exact completes_tracing
      | false => exact completes_arbitrating
  · rw [if_neg hs]
    exact completes_tracing

/-- Run back to back, the steps are the loop body. -/
theorem run_loopIteration (c : WholeBodyController K) (r : TickReads K) :
    ∃ n, (fun s => next s r)^[n + 1] ⟨c, .top⟩ = ⟨c.loopIteration r, .top⟩ := by
  suffices h : Completes r (next ⟨c, .top⟩ r) (c.loopIteration r) from h
  unfold loopIteration
  cases hestop : r.estop with
  | true =>
    have hnext : next ⟨c, .top⟩ r = ⟨({ c with outputs := [] }).tickEstop r.now, .top⟩ := by
      simp only [next, hestop, if_true]
    rw [hnext]
    exact .done
  | false =>
    have hnext : next ⟨c, .top⟩ r = ⟨{ c with outputs := [] }, .checking⟩ := by
      simp only [next, hestop, Bool.false_eq_true, if_false]
    rw [hnext]
    refine .step ?_
    unfold next
    dsimp only
    cases hsafe : checkSafety r.lowState r.now with
    | false => exact .done
    | true =>
      unfold tickRecovered
      cases hdue : ({ c with outputs := [] } : WholeBodyController K).reentryDue with
      | true =>
        simp only [Bool.not_true, Bool.false_eq_true, if_false, if_true]
        exact .step (.step completes_switching)
      | false =>
        simp only [Bool.not_true, Bool.false_eq_true, if_false]
        exact completes_switching

/-! ## What one step can be -/

/-- The inversion of `next`. -/
inductive Fires (r : TickReads K) : ControllerThread K → ControllerThread K → Prop
  | estop (c : _) (h : r.estop = true) :
      Fires r ⟨c, .top⟩ ⟨({ c with outputs := [] }).tickEstop r.now, .top⟩
  | start (c : _) (h : r.estop = false) : Fires r ⟨c, .top⟩ ⟨{ c with outputs := [] }, .checking⟩
  | missing (c : _) (h : checkSafety r.lowState r.now = false) :
      Fires r ⟨c, .checking⟩ ⟨c.tickMissing r.now, .top⟩
  | reenter (c : _) (hdue : c.reentryDue = true) : Fires r ⟨c, .checking⟩ ⟨c, .discarding⟩
  | present (c : _) (hdue : c.reentryDue = false) :
      Fires r ⟨c, .checking⟩ ⟨{ c with stateMissingTicks := 0 }, .switching⟩
  | discard (c : _) : Fires r ⟨c, .discarding⟩ ⟨c.enterOrigin, .requesting⟩
  | request (c : _) : Fires r ⟨c, .requesting⟩ ⟨c.requestStateReseed r.stateTicket, .switching⟩
  | other (c : _) (hs : c.state ≠ .control) : Fires r ⟨c, .switching⟩ ⟨c.tickState r, .tracing⟩
  | ungathered (c : _) (hs : c.state = .control) : Fires r ⟨c, .switching⟩ ⟨c, .tracing⟩
  | gather (c : _) (hs : c.state = .control) (e : StateLogger.Entry K) :
      Fires r ⟨c, .switching⟩ ⟨{ c with logger := c.logger.log e }, .waiting⟩
  | wait (c : _) (h : c.awaitsReseed r.stateReinitDone = true) : Fires r ⟨c, .waiting⟩ ⟨c, .tracing⟩
  | acked (c : _) (h : c.awaitsReseed r.stateReinitDone = false) :
      Fires r ⟨c, .waiting⟩ ⟨{ c with stateReseedTicket := 0 }, .arbitrating⟩
  | leave (c : _) (h : c.leavesRecovery r = true) :
      Fires r ⟨c, .arbitrating⟩ ⟨c.decideOwner r, .leaving⟩
  | decide (c : _) (h : c.leavesRecovery r = false) :
      Fires r ⟨c, .arbitrating⟩ ⟨c.decideOwner r, .deciding⟩
  | origin (c : _) : Fires r ⟨c, .leaving⟩ ⟨c.enterOrigin, .deciding⟩
  | vla (c : _) (hm : c.arbiter.mode = .vla) : Fires r ⟨c, .deciding⟩ ⟨c.tickVla r, .tracing⟩
  | ask (c : _) (hm : c.arbiter.mode = .recovering)
      (hdue : (c.selectToken none none).1.reseedDue = true) :
      Fires r ⟨c, .deciding⟩
        ⟨(c.selectToken none none).1, .asking (c.selectToken none none).2⟩
  | recover (c : _) (hm : c.arbiter.mode = .recovering) :
      Fires r ⟨c, .deciding⟩ ⟨(c.selectToken none none).1.decodeAndPublish
        (c.selectToken none none).2 r, .tracing⟩
  | empty (c : _) (hm : c.arbiter.mode.inSession = false)
      (hempty : c.playbackMotion.timesteps = 0) : Fires r ⟨c, .deciding⟩ ⟨c, .advancing⟩
  | encode (c : _) (hm : c.arbiter.mode.inSession = false)
      (hne : c.playbackMotion.timesteps ≠ 0) :
      Fires r ⟨c, .deciding⟩
        ⟨(c.tickEncoder r).1, if (c.tickEncoder r).2 then .advancing else .tracing⟩
  | reseed (c : _) (token) :
      Fires r ⟨c, .asking token⟩
        ⟨(c.requestRecoveryReseed r.recoveryTicket).decodeAndPublish token r, .tracing⟩
  | advance (c : _) : Fires r ⟨c, .advancing⟩ ⟨c.advancePlayback r.plan, .tracing⟩
  | trace (c : _) : Fires r ⟨c, .tracing⟩ ⟨c.traceTick r.traceEnabled, .top⟩

theorem fires_next (s : ControllerThread K) (r : TickReads K) : Fires r s (s.next r) := by
  obtain ⟨c, point⟩ := s
  cases point with
  | top =>
    cases h : r.estop with
    | true => simpa [next, h] using Fires.estop c h
    | false => simpa [next, h] using Fires.start c h
  | checking =>
    cases hsafe : checkSafety r.lowState r.now with
    | false => simpa [next, hsafe] using Fires.missing c hsafe
    | true =>
      cases hdue : c.reentryDue with
      | true => simpa [next, hsafe, hdue] using Fires.reenter c hdue
      | false => simpa [next, hsafe, hdue] using Fires.present c hdue
  | discarding => exact .discard c
  | requesting => exact .request c
  | switching =>
    by_cases hs : c.state = .control
    · unfold next gatherRobotState
      dsimp only
      rw [if_pos hs]
      cases r.robotState with
      | none => exact .ungathered c hs
      | some st =>
        cases hlim : overLimit st with
        | true => simpa [hlim] using Fires.ungathered c hs
        | false => simpa [hlim] using Fires.gather c hs (c.loggerEntry st)
    · simpa [next, hs] using Fires.other c hs
  | waiting =>
    cases h : c.awaitsReseed r.stateReinitDone with
    | true => simpa [next, h] using Fires.wait c h
    | false => simpa [next, h] using Fires.acked c h
  | arbitrating =>
    cases h : c.leavesRecovery r with
    | true => simpa [next, h] using Fires.leave c h
    | false => simpa [next, h] using Fires.decide c h
  | leaving => exact .origin c
  | deciding =>
    have hplayback : c.arbiter.mode.inSession = false →
        Fires r ⟨c, .deciding⟩ (if c.playbackMotion.timesteps = 0 then ⟨c, .advancing⟩
          else ⟨(c.tickEncoder r).1, if (c.tickEncoder r).2 then .advancing else .tracing⟩) := by
      intro hm
      split
      · exact .empty c hm ‹_›
      · exact .encode c hm ‹_›
    cases hm : c.arbiter.mode with
    | vla => simpa [next, hm] using Fires.vla c hm
    | recovering =>
      cases hdue : (c.selectToken none none).1.reseedDue with
      | true => simpa [next, hm, hdue] using Fires.ask c hm hdue
      | false => simpa [next, hm, hdue] using Fires.recover c hm
    | normal => simpa [next, hm] using hplayback (by rw [hm]; rfl)
    | teleop => simpa [next, hm] using hplayback (by rw [hm]; rfl)
  | asking token => exact .reseed c token
  | advancing => exact .advance c
  | tracing => exact .trace c

end ControllerThread

end Gearsonic
