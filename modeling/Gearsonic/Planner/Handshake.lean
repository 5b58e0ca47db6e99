import Gearsonic.Planner.Thread

/-!
# The reseed handshake

Any number of `request_reinit()` calls beside the planner's thread. A request takes the
next ticket; the loop stores the request number it has loaded once `initialize_once` has
succeeded. `reinit_done() >= ticket` is meant to say that the plan in the buffer is newer
than the request.

`Reseed` carries the history the statement is about: a clock that counts steps, when each
ticket was issued, when `initialize_once` was last started, the start and the publication
of the last successful one, and when the motion in the buffer was published.

* `HandshakeInv`: the invariant that links the counters, `initialized_`, the buffer and
  the history.
* `request_answered`: a request that arrives at any point of an iteration causes an
  `initialize_once` before the next iteration ends.
* `reseed_handshake`: the guarantees together.
-/

set_option linter.unusedSectionVars false

namespace Gearsonic

variable {K : Type} [Field K] [LinearOrder K]

/-- The step calls `initialize_once`. -/
def PlannerThread.Act.startsInit : PlannerThread.Act K → Bool
  | .startInitialize _ => true
  | _ => false

namespace PlannerPoint

def isTop : PlannerPoint K → Bool
  | .top => true
  | _ => false

def isAcking : PlannerPoint K → Bool
  | .acking _ => true
  | _ => false

end PlannerPoint

structure Reseed (K : Type) [Field K] where
  thread : PlannerThread K := {}
  clock : Nat := 0
  /-- When each ticket was issued. -/
  issued : Nat → Nat := fun _ => 0
  /-- When the last `initialize_once` was started. -/
  initStart : Nat := 0
  initCalls : Nat := 0
  /-- The start and the publication of the last `initialize_once` that succeeded. -/
  lastInit : Option (Nat × Nat) := none
  /-- When the motion in the buffer was published. -/
  bufStamp : Nat := 0
  iterations : Nat := 0

namespace Reseed

/-- The planner's members, seen from the whole. -/
abbrev planner (s : Reseed K) : PlannerInference K := s.thread.planner

abbrev point (s : Reseed K) : PlannerPoint K := s.thread.point

inductive Act (K : Type) [Field K] where
  | requestReinit
  | planner (a : PlannerThread.Act K)

variable [CMath K]

/-- The step publishes a motion. -/
def publishes (s : Reseed K) : PlannerThread.Act K → Bool
  | .finishInitialize engine now | .publish engine now =>
    (s.planner.runAndPublish engine now).2
  | _ => false

/-- The history after a step of the planner's thread to `t`. -/
def advance (s : Reseed K) (a : PlannerThread.Act K) (t : PlannerThread K) : Reseed K :=
  { s with
    thread := t
    clock := s.clock + 1
    initStart := if a.startsInit then s.clock else s.initStart
    initCalls := if a.startsInit then s.initCalls + 1 else s.initCalls
    lastInit := if t.point.isAcking then some (s.initStart, s.clock) else s.lastInit
    bufStamp := if s.publishes a then s.clock else s.bufStamp
    iterations := if t.point.isTop then s.iterations + 1 else s.iterations }

/-- `request_reinit()` from another thread. -/
def request (s : Reseed K) : Reseed K :=
  { s with
    thread := { s.thread with planner := s.planner.requestReinit.1 }
    issued := Function.update s.issued s.planner.requestReinit.2 s.clock
    clock := s.clock + 1 }

def step (s : Reseed K) : Act K → Option (Reseed K)
  | .requestReinit => some s.request
  | .planner a => (s.thread.step a).map (s.advance a)

theorem step_planner {s t : Reseed K} {a : PlannerThread.Act K}
    (h : s.step (.planner a) = some t) :
    ∃ u, PlannerThread.Fires s.thread a u ∧ t = s.advance a u := by
  obtain ⟨u, hu, rfl⟩ := Option.map_eq_some_iff.mp h
  exact ⟨u, PlannerThread.fires_of_step hu, rfl⟩

/-! ## The invariant -/

/-- Every ticket up to `req` was issued before `time`. -/
def IssuedBefore (s : Reseed K) (req time : Nat) : Prop :=
  ∀ ticket, 1 ≤ ticket → ticket ≤ req → s.issued ticket < time

/-- The last successful `initialize_once` was started after every ticket up to `req`. -/
def Answered (s : Reseed K) (req : Nat) : Prop :=
  ∃ start published, s.lastInit = some (start, published) ∧ s.IssuedBefore req start

structure HandshakeInv (s : Reseed K) : Prop where
  done_le : s.planner.reinitDone ≤ s.planner.reinitRequested
  loaded : ∀ req, s.point.request = some req →
    s.planner.reinitDone ≤ req ∧ req ≤ s.planner.reinitRequested
  past : s.IssuedBefore s.planner.reinitRequested s.clock
  starting : ∀ req, s.point = .initializing req →
    s.planner.initialized = false ∧ s.IssuedBefore req s.initStart
  acking : ∀ req, s.point = .acking req →
    s.planner.initialized = true ∧ s.Answered req
  planning : s.point.request = none → s.point.isTop = false → s.planner.initialized = true
  acked : 1 ≤ s.planner.reinitDone → s.Answered s.planner.reinitDone
  empty : s.planner.initialized = false → s.planner.motion50hzBuf.data = none
  seeded : s.planner.initialized = true → s.lastInit.isSome = true
  fresh : ∀ start published, s.lastInit = some (start, published) →
    published ≤ s.clock ∧
      (s.planner.motion50hzBuf.data.isSome = true → published ≤ s.bufStamp)

theorem HandshakeInv.init : HandshakeInv ({} : Reseed K) where
  done_le := le_rfl
  loaded := nofun
  past := fun _ h1 h0 => absurd h1 (Nat.not_le.mpr (Nat.lt_succ_of_le h0))
  starting := nofun
  acking := nofun
  planning := nofun
  acked := nofun
  empty := fun _ => rfl
  seeded := nofun
  fresh := nofun

theorem IssuedBefore.mono {s : Reseed K} {req req' time time' : Nat}
    (h : s.IssuedBefore req time) (hreq : req' ≤ req) (htime : time ≤ time') :
    s.IssuedBefore req' time' :=
  fun ticket h1 hle => (h ticket h1 (hle.trans hreq)).trans_le htime

/-- A step that leaves the handshake's members alone and starts nothing. -/
theorem HandshakeInv.of_local {s t : Reseed K} (h : HandshakeInv s)
    (hsame : t.planner.SameHandshake s.planner) (hissued : t.issued = s.issued)
    (hclock : t.clock = s.clock + 1) (hlast : t.lastInit = s.lastInit)
    (hstamp : t.bufStamp = s.bufStamp)
    (hload : ∀ req, t.point.request = some req →
      s.planner.reinitDone ≤ req ∧ req ≤ s.planner.reinitRequested)
    (hstart : ∀ req, t.point ≠ .initializing req) (hack : ∀ req, t.point ≠ .acking req)
    (hplan : t.point.request = none → t.point.isTop = false → s.planner.initialized = true) :
    HandshakeInv t := by
  obtain ⟨hinit, hreq, hdone, hbuf⟩ := hsame
  have hbefore : ∀ {req time}, s.IssuedBefore req time → t.IssuedBefore req time := by
    intro req time hb ticket h1 hle
    rw [hissued]
    exact hb ticket h1 hle
  refine ⟨?_, ?_, ?_, fun req hp => absurd hp (hstart req), fun req hp => absurd hp (hack req),
    ?_, ?_, ?_, ?_, ?_⟩
  · rw [hdone, hreq]
    exact h.done_le
  · rw [hdone, hreq]
    exact hload
  · rw [hreq, hclock]
    exact hbefore (h.past.mono le_rfl (Nat.le_succ _))
  · rw [hinit]
    exact hplan
  · rw [hdone]
    intro h1
    obtain ⟨start, published, hl, hb⟩ := h.acked h1
    exact ⟨start, published, hlast.trans hl, hbefore hb⟩
  · rw [hinit, hbuf]
    exact h.empty
  · rw [hinit, hlast]
    exact h.seeded
  · intro start published hl
    rw [hlast] at hl
    obtain ⟨hle, hfresh⟩ := h.fresh start published hl
    rw [hbuf, hclock, hstamp]
    exact ⟨hle.trans (Nat.le_succ _), hfresh⟩

theorem HandshakeInv.request {s : Reseed K} (h : HandshakeInv s) : HandshakeInv s.request := by
  have hkeep : ∀ {req time}, req ≤ s.planner.reinitRequested → s.IssuedBefore req time →
      s.request.IssuedBefore req time := by
    intro req time hle hb ticket h1 ht
    have hne : ticket ≠ s.planner.reinitRequested + 1 := by omega
    simp only [Reseed.request, PlannerInference.requestReinit, Function.update_of_ne hne]
    exact hb ticket h1 ht
  refine ⟨?_, ?_, ?_, ?_, ?_, h.planning, ?_, h.empty, h.seeded, ?_⟩
  · exact h.done_le.trans (Nat.le_succ _)
  · intro req hreq
    obtain ⟨hd, hle⟩ := h.loaded req hreq
    exact ⟨hd, hle.trans (Nat.le_succ _)⟩
  · intro ticket h1 hle
    have hle' : ticket ≤ s.planner.reinitRequested + 1 := hle
    by_cases heq : ticket = s.planner.reinitRequested + 1
    · simp [Reseed.request, PlannerInference.requestReinit, heq]
    · have hb := hkeep le_rfl h.past ticket h1 (by omega)
      exact hb.trans (Nat.lt_succ_self _)
  · intro req hp
    obtain ⟨hinit, hb⟩ := h.starting req hp
    have hpoint : s.point = .initializing req := hp
    exact ⟨hinit, hkeep (h.loaded req (by rw [hpoint]; rfl)).2 hb⟩
  · intro req hp
    obtain ⟨hinit, start, published, hl, hb⟩ := h.acking req hp
    have hpoint : s.point = .acking req := hp
    exact ⟨hinit, start, published, hl, hkeep (h.loaded req (by rw [hpoint]; rfl)).2 hb⟩
  · intro h1
    obtain ⟨start, published, hl, hb⟩ := h.acked h1
    exact ⟨start, published, hl, hkeep h.done_le hb⟩
  · intro start published hl
    obtain ⟨hle, hfresh⟩ := h.fresh start published hl
    exact ⟨hle.trans (Nat.le_succ _), hfresh⟩

/-- The step lemma. -/
theorem HandshakeInv.of_step {s t : Reseed K} (h : HandshakeInv s) {a : Act K}
    (hstep : s.step a = some t) : HandshakeInv t := by
  cases a with
  | requestReinit =>
    cases hstep
    exact h.request
  | planner a =>
    obtain ⟨u, hu, rfl⟩ := step_planner hstep
    have hself : s.planner.SameHandshake s.planner := ⟨rfl, rfl, rfl, rfl⟩
    cases hu with
    | load hp =>
      refine h.of_local hself rfl rfl rfl rfl (fun req hreq => ?_) nofun nofun nofun
      cases hreq
      exact ⟨h.done_le, le_rfl⟩
    | keep req hp hno =>
      refine h.of_local hself rfl rfl rfl rfl (fun req' hreq => ?_) nofun nofun nofun
      cases hreq
      exact h.loaded req (by rw [point, hp]; rfl)
    | clear req hp hdue hinit =>
      have hreq := h.loaded req (by rw [point, hp]; rfl)
      refine ⟨h.done_le, fun req' hreq' => ?_, h.past.mono le_rfl (Nat.le_succ _), nofun, nofun,
        nofun, h.acked, fun _ => rfl, nofun, fun start published hl => ?_⟩
      · cases hreq'
        exact hreq
      · obtain ⟨hle, -⟩ := h.fresh start published hl
        exact ⟨hle.trans (Nat.le_succ _), nofun⟩
    | noState req hp hinit =>
      exact h.of_local hself rfl rfl rfl rfl nofun nofun nofun nofun
    | startInitialize req q hp hinit =>
      have hreq := h.loaded req (by rw [point, hp]; rfl)
      have hinv := h.past
      refine ⟨h.done_le, fun req' hreq' => ?_, hinv.mono le_rfl (Nat.le_succ _),
        fun req' hp' => ?_, nofun, nofun, h.acked, h.empty, h.seeded,
        fun start published hl => ?_⟩
      · cases hreq'
        exact hreq
      · cases hp'
        exact ⟨hinit, hinv.mono hreq.2 le_rfl⟩
      · obtain ⟨hle, hfresh⟩ := h.fresh start published hl
        exact ⟨hle.trans (Nat.le_succ _), hfresh⟩
    | finishInitialize req engine now hp hok =>
      have hreq := h.loaded req (by rw [point, hp]; rfl)
      obtain ⟨-, hstart⟩ := h.starting req hp
      obtain ⟨-, hr, hd, hdata⟩ := PlannerInference.runAndPublish_ok hok
      have hanswered : ∀ {req'}, req' ≤ req →
          (s.advance (.finishInitialize engine now)
            { planner := (s.planner.runAndPublish engine now).1.finishInitialize
              point := .acking req }).Answered req' := fun hle =>
        ⟨s.initStart, s.clock, rfl, hstart.mono hle le_rfl⟩
      refine ⟨?_, fun req' hreq' => ?_, ?_, nofun, fun req' hp' => ?_, nofun, fun _ => ?_, nofun,
        fun _ => rfl, fun start published hl => ?_⟩
      · exact (hd.trans_le h.done_le).trans hr.ge
      · cases hreq'
        exact ⟨hd.trans_le hreq.1, hreq.2.trans hr.ge⟩
      · exact h.past.mono hr.le (Nat.le_succ _)
      · cases hp'
        exact ⟨rfl, hanswered le_rfl⟩
      · exact hanswered (hd.trans_le hreq.1)
      · cases hl
        refine ⟨Nat.le_succ _, fun _ => ?_⟩
        simp only [advance, publishes, hok, if_true]
        exact le_rfl
    | failInitialize req engine now hp hok =>
      exact h.of_local hself rfl rfl rfl (by simp [advance, publishes, hok]) nofun nofun nofun
        nofun
    | ack req hp =>
      have hreq := h.loaded req (by rw [point, hp]; rfl)
      obtain ⟨hinit, hans⟩ := h.acking req hp
      exact ⟨hreq.2, nofun, h.past.mono le_rfl (Nat.le_succ _), nofun, nofun, nofun,
        fun _ => hans, h.empty, h.seeded, fun start published hl =>
          ⟨(h.fresh start published hl).1.trans (Nat.le_succ _),
            (h.fresh start published hl).2⟩⟩
    | noCommand req hp hinit =>
      exact h.of_local s.planner.countPeriod_handshake rfl rfl rfl rfl nofun nofun nofun nofun
    | readCommand req ms hp hinit =>
      have hsame := (s.planner.countPeriod.needReplan_handshake ms).trans
        s.planner.countPeriod_handshake
      cases hneed : (s.planner.countPeriod.needReplan ms).2 with
      | true =>
        simp only [if_true]
        exact h.of_local hsame rfl rfl rfl rfl nofun nofun nofun fun _ _ => hinit
      | false =>
        simp only [Bool.false_eq_true, if_false]
        exact h.of_local hsame rfl rfl rfl rfl nofun nofun nofun nofun
    | snapshot ms playback t0 hp =>
      refine h.of_local (s.planner.startReplan_handshake ms playback t0) rfl rfl rfl rfl nofun
        nofun nofun fun _ _ => h.planning (by rw [point, hp]; rfl) (by rw [point, hp]; rfl)
    | publish engine now hp =>
      have hinit := h.planning (by rw [point, hp]; rfl) (by rw [point, hp]; rfl)
      cases hok : (s.planner.runAndPublish engine now).2 with
      | false =>
        rw [PlannerInference.runAndPublish_eq_self hok]
        exact h.of_local hself rfl rfl rfl (by simp [advance, publishes, hok]) nofun nofun nofun
          nofun
      | true =>
        obtain ⟨hi, hr, hd, -⟩ := PlannerInference.runAndPublish_ok hok
        have hinit' : (s.planner.runAndPublish engine now).1.initialized = true :=
          hi.trans hinit
        refine ⟨(hd.trans_le h.done_le).trans hr.ge, nofun, h.past.mono hr.le (Nat.le_succ _),
          nofun, nofun, nofun, fun h1 => ?_, fun hno => ?_, fun _ => h.seeded hinit,
          fun start published hl => ?_⟩
        · obtain ⟨start, published, hl, hb⟩ := h.acked (h1.trans hd.le)
          exact ⟨start, published, hl, hb.mono hd.le le_rfl⟩
        · exact absurd (hinit'.symm.trans hno) (by decide)
        · obtain ⟨hle, -⟩ := h.fresh start published hl
          refine ⟨hle.trans (Nat.le_succ _), fun _ => ?_⟩
          simp only [advance, publishes, hok, if_true]
          exact hle

theorem HandshakeInv.of_reachable {s : Reseed K}
    (h : Transition.Reachable step Transition.Always {} s) : HandshakeInv s :=
  h.invariant .init fun _ _ _ hinv _ hstep => hinv.of_step hstep

/-! ## No request is lost -/

/-- The iteration in flight has loaded an older number than this ticket. -/
def InFlight (ticket : Nat) (s : Reseed K) : Prop :=
  s.point.isTop = false ∧ ∀ req, s.point.request = some req → req < ticket

/-- The iteration sees the request: it starts, has loaded it, or is bound to initialize. -/
def Sees (ticket : Nat) (s : Reseed K) : Prop :=
  s.point.isTop = true ∨ (∃ req, s.point = .loaded req ∧ ticket ≤ req) ∨
    (∃ req, s.point = .polled req ∧ s.planner.initialized = false)

/-- The way of a request from a state with these counts of calls and iterations:
`initialize_once` has been called since, or the request is still in front of the loop. -/
def Pending (ticket calls iterations : Nat) (s : Reseed K) : Prop :=
  calls < s.initCalls ∨
    (s.planner.reinitDone < ticket ∧ ticket ≤ s.planner.reinitRequested ∧
      calls ≤ s.initCalls ∧
      ((s.iterations = iterations ∧ InFlight ticket s) ∨
        (s.iterations ≤ iterations + 1 ∧ Sees ticket s)))

section

variable {ticket calls iterations : Nat} {s : Reseed K} {a : PlannerThread.Act K}
  {u : PlannerThread K}

theorem calls_le_advance (h : calls ≤ s.initCalls) : calls ≤ (s.advance a u).initCalls := by
  simp only [advance]
  split
  · omega
  · exact h

/-- A call of `initialize_once` answers the request. -/
theorem Pending.of_call (hcalls : calls ≤ s.initCalls) (ha : a.startsInit = true) :
    Pending ticket calls iterations (s.advance a u) := by
  left
  simp only [advance, ha, if_true]
  omega

/-- A step inside the iteration in flight. -/
theorem Pending.of_inside (hdone : u.planner.reinitDone < ticket)
    (hreq : ticket ≤ u.planner.reinitRequested) (hcalls : calls ≤ s.initCalls)
    (hiter : s.iterations = iterations) (htop : u.point.isTop = false)
    (hload : ∀ req, u.point.request = some req → req < ticket) :
    Pending ticket calls iterations (s.advance a u) := by
  refine Or.inr ⟨hdone, hreq, calls_le_advance hcalls, Or.inl ⟨?_, htop, hload⟩⟩
  simp only [advance, htop, Bool.false_eq_true, if_false]
  exact hiter

/-- A step that ends the iteration in flight. -/
theorem Pending.of_end (hdone : u.planner.reinitDone < ticket)
    (hreq : ticket ≤ u.planner.reinitRequested) (hcalls : calls ≤ s.initCalls)
    (hiter : s.iterations = iterations) (htop : u.point.isTop = true) :
    Pending ticket calls iterations (s.advance a u) := by
  refine Or.inr ⟨hdone, hreq, calls_le_advance hcalls, Or.inr ⟨?_, Or.inl htop⟩⟩
  simp only [advance, htop, if_true]
  omega

/-- The iteration in flight runs to its end. -/
theorem Pending.of_inFlight (hdone : s.planner.reinitDone < ticket)
    (hreq : ticket ≤ s.planner.reinitRequested) (hcalls : calls ≤ s.initCalls)
    (hiter : s.iterations = iterations) (hin : InFlight ticket s)
    (hu : PlannerThread.Fires s.thread a u) : Pending ticket calls iterations (s.advance a u) := by
  obtain ⟨htop, hload⟩ := hin
  cases hu with
  | load hp => rw [point, hp] at htop; cases htop
  | clear req hp hdue hinit =>
    refine .of_inside hdone hreq hcalls hiter rfl fun req' h => ?_
    exact hload req' (by rw [point, hp]; exact h)
  | keep req hp hno =>
    refine .of_inside hdone hreq hcalls hiter rfl fun req' h => ?_
    exact hload req' (by rw [point, hp]; exact h)
  | noState req hp hinit => exact .of_call hcalls rfl
  | startInitialize req q hp hinit => exact .of_call hcalls rfl
  | finishInitialize req engine now hp hok =>
    obtain ⟨-, hr, hd, -⟩ := PlannerInference.runAndPublish_ok hok
    refine .of_inside (hd.trans_lt hdone) (hreq.trans hr.ge) hcalls hiter rfl fun req' h => ?_
    exact hload req' (by rw [point, hp]; exact h)
  | failInitialize req engine now hp hok => exact .of_end hdone hreq hcalls hiter rfl
  | ack req hp => exact .of_end (hload req (by rw [point, hp]; rfl)) hreq hcalls hiter rfl
  | noCommand req hp hinit => exact .of_end hdone hreq hcalls hiter rfl
  | readCommand req ms hp hinit =>
    obtain ⟨-, hr, hd, -⟩ := (s.planner.countPeriod.needReplan_handshake ms).trans
      s.planner.countPeriod_handshake
    cases hneed : (s.planner.countPeriod.needReplan ms).2 with
    | true =>
      simp only [if_true]
      exact .of_inside (hd.trans_lt hdone) (hreq.trans hr.ge) hcalls hiter rfl nofun
    | false =>
      simp only [Bool.false_eq_true, if_false]
      exact .of_end (hd.trans_lt hdone) (hreq.trans hr.ge) hcalls hiter rfl
  | snapshot ms playback t0 hp =>
    obtain ⟨-, hr, hd, -⟩ := s.planner.startReplan_handshake ms playback t0
    exact .of_inside (hd.trans_lt hdone) (hreq.trans hr.ge) hcalls hiter rfl nofun
  | publish engine now hp =>
    cases hok : (s.planner.runAndPublish engine now).2 with
    | true =>
      obtain ⟨-, hr, hd, -⟩ := PlannerInference.runAndPublish_ok hok
      exact .of_end (hd.trans_lt hdone) (hreq.trans hr.ge) hcalls hiter rfl
    | false =>
      rw [PlannerInference.runAndPublish_eq_self hok]
      exact .of_end hdone hreq hcalls hiter rfl

/-- The next iteration loads the request, drops the plan and initializes. -/
theorem Pending.of_sees (hdone : s.planner.reinitDone < ticket)
    (hreq : ticket ≤ s.planner.reinitRequested) (hcalls : calls ≤ s.initCalls)
    (hiter : s.iterations ≤ iterations + 1) (hsees : Sees ticket s)
    (hu : PlannerThread.Fires s.thread a u) : Pending ticket calls iterations (s.advance a u) := by
  have hstay : u.planner.reinitDone = s.planner.reinitDone →
      u.planner.reinitRequested = s.planner.reinitRequested → u.point.isTop = false →
      Sees ticket (s.advance a u) → Pending ticket calls iterations (s.advance a u) := by
    intro hd hr htop hsees
    refine Or.inr ⟨hd.trans_lt hdone, hreq.trans hr.ge, calls_le_advance hcalls,
      Or.inr ⟨?_, hsees⟩⟩
    simp only [advance, htop, Bool.false_eq_true, if_false]
    exact hiter
  rcases hsees with htop | ⟨req, hpoint, hle⟩ | ⟨req, hpoint, hno⟩
  · have hp : s.thread.point = .top := by
      cases hp : s.thread.point <;> simp_all [PlannerPoint.isTop]
    obtain rfl := hu.of_top hp
    exact hstay rfl rfl rfl (Or.inr (Or.inl ⟨_, rfl, hreq⟩))
  · obtain ⟨hp, hd, hr, hinit⟩ := hu.of_loaded hpoint
    have hdue : req ≠ s.planner.reinitDone := by omega
    exact hstay hd hr (by rw [hp]; rfl) (Or.inr (Or.inr ⟨req, hp, hinit hdue⟩))
  · obtain ⟨robotState, rfl⟩ := hu.of_polled hpoint hno
    exact .of_call hcalls rfl

end

theorem Pending.of_step {ticket calls iterations : Nat} {s t : Reseed K} {a : Act K}
    (h : Pending ticket calls iterations s) (hstep : s.step a = some t) :
    Pending ticket calls iterations t := by
  cases a with
  | requestReinit =>
    cases hstep
    refine h.imp id ?_
    rintro ⟨hdone, hreq, hcalls, hway⟩
    exact ⟨hdone, hreq.trans (Nat.le_succ _), hcalls, hway⟩
  | planner a =>
    obtain ⟨u, hu, rfl⟩ := step_planner hstep
    rcases h with hcall | ⟨hdone, hreq, hcalls, ⟨hiter, hin⟩ | ⟨hiter, hsees⟩⟩
    · exact Or.inl (calls_le_advance hcall)
    · exact .of_inFlight hdone hreq hcalls hiter hin hu
    · exact .of_sees hdone hreq hcalls hiter hsees hu

/-- A request that arrives at any point of an iteration causes an `initialize_once` before
the next iteration ends. -/
theorem request_answered {s t u : Reseed K} (hinv : HandshakeInv s)
    (hreq : s.step .requestReinit = some t)
    (hrun : Transition.Reachable step Transition.Always t u)
    (hiter : t.iterations + 2 ≤ u.iterations) : t.initCalls < u.initCalls := by
  cases hreq
  have hstart : Pending (s.planner.reinitRequested + 1) s.initCalls s.iterations s.request := by
    refine Or.inr ⟨Nat.lt_succ_of_le hinv.done_le, le_rfl, le_rfl, ?_⟩
    cases htop : s.point.isTop with
    | true => exact Or.inr ⟨Nat.le_succ _, Or.inl htop⟩
    | false =>
      refine Or.inl ⟨rfl, htop, fun req hload => ?_⟩
      exact Nat.lt_succ_of_le (hinv.loaded req hload).2
  have hend := hrun.invariant hstart fun _ _ _ h _ hstep => h.of_step hstep
  have hiter' : s.iterations + 2 ≤ u.iterations := hiter
  rcases hend with hcall | ⟨-, -, -, ⟨hk, -⟩ | ⟨hk, -⟩⟩
  · exact hcall
  · omega
  · omega

/-! ## The guarantees -/

/-- `reinit_done_` never decreases. -/
theorem done_mono {s t : Reseed K} {a : Act K} (hinv : HandshakeInv s)
    (hstep : s.step a = some t) : s.planner.reinitDone ≤ t.planner.reinitDone := by
  cases a with
  | requestReinit =>
    cases hstep
    exact le_rfl
  | planner a =>
    obtain ⟨u, hu, rfl⟩ := step_planner hstep
    cases hu with
    | ack req hp => exact (hinv.loaded req (by rw [point, hp]; rfl)).1
    | finishInitialize req engine now hp hok =>
      exact (PlannerInference.runAndPublish_ok hok).2.2.1.ge
    | readCommand req ms hp hinit =>
      exact ((s.planner.countPeriod.needReplan_handshake ms).trans
        s.planner.countPeriod_handshake).done.ge
    | snapshot ms playback t0 hp => exact (s.planner.startReplan_handshake ms playback t0).done.ge
    | publish engine now hp =>
      cases hok : (s.planner.runAndPublish engine now).2 with
      | true => exact (PlannerInference.runAndPublish_ok hok).2.2.1.ge
      | false => exact (congrArg _ (PlannerInference.runAndPublish_eq_self hok)).ge
    | _ => exact le_rfl

/-- In every reachable state: the acknowledged number never decreases and never exceeds the
requested one; no request is lost; the buffer is empty while the planner is not
initialized; and an acknowledged ticket means that an `initialize_once` started after the
ticket was issued has succeeded, and that the motion in the buffer was published by it or
later. -/
theorem reseed_handshake {s : Reseed K}
    (h : Transition.Reachable step Transition.Always {} s) :
    s.planner.reinitDone ≤ s.planner.reinitRequested ∧
      (∀ a t, s.step a = some t → s.planner.reinitDone ≤ t.planner.reinitDone) ∧
      (∀ t u, s.step .requestReinit = some t →
        Transition.Reachable step Transition.Always t u → t.iterations + 2 ≤ u.iterations →
        t.initCalls < u.initCalls) ∧
      (s.planner.initialized = false → s.planner.motion50hzBuf.data = none) ∧
      ∀ ticket, 1 ≤ ticket → ticket ≤ s.planner.reinitDone →
        ∃ start published, s.lastInit = some (start, published) ∧
          s.issued ticket < start ∧
          (s.planner.motion50hzBuf.data.isSome = true → published ≤ s.bufStamp) := by
  have hinv := HandshakeInv.of_reachable h
  refine ⟨hinv.done_le, fun a t hstep => done_mono hinv hstep,
    fun t u hreq hrun hiter => request_answered hinv hreq hrun hiter, hinv.empty,
    fun ticket h1 hle => ?_⟩
  obtain ⟨start, published, hl, hb⟩ := hinv.acked (h1.trans hle)
  exact ⟨start, published, hl, hb ticket h1 hle, (hinv.fresh start published hl).2⟩

/-- One request, answered by one iteration. -/
def answeredRequest : List (Act ℚ) :=
  [.requestReinit, .planner .load, .planner .clear, .planner (.startInitialize (some fun _ => 0)),
    .planner (.finishInitialize (some standingOutput) 1), .planner .ack]

theorem reseed_handshake_answered : ∃ s : Reseed ℚ, s.planner.reinitDone = 1 ∧
    ∃ start published, s.lastInit = some (start, published) ∧ s.issued 1 < start := by
  have hrun : (Transition.run step {} answeredRequest).any
      (fun s => s.planner.reinitDone = 1) = true := by decide +kernel
  obtain ⟨s, hs, hdone⟩ := Transition.reachable_of_run_any hrun
  have hdone : s.planner.reinitDone = 1 := by simpa using hdone
  obtain ⟨-, -, -, -, hacked⟩ := reseed_handshake hs
  obtain ⟨start, published, hl, hlt, -⟩ := hacked 1 le_rfl hdone.ge
  exact ⟨s, hdone, start, published, hl, hlt⟩

end Reseed

end Gearsonic
