import Gearsonic.Planner.PlannerInference
import Gearsonic.Transition.Basic

/-!
# The planner's thread

The planner's loop cut at its shared accesses: the load of `reinit_requested_`, the clear
of the motion buffer, the read of the robot state that starts `initialize_once`, the
publication that ends it, the store of `reinit_done_`, the read of the movement command,
the playback snapshot, and the publication of a replan. Each step is one such access with
the thread-local work that follows it; `initialized_`, the baseline and the timer are
touched by this thread only.

`Fires` is the inversion of one step, and `run_iterationActs` says that the steps, run
back to back, are the loop body.
-/

namespace Gearsonic

variable {K : Type} [Field K] [LinearOrder K]

/-- Where the planner's loop stands, with the locals it holds there. -/
inductive PlannerPoint (K : Type) [Field K] where
  | top
  | loaded (reinitReq : Nat)
  | polled (reinitReq : Nat)
  | initializing (reinitReq : Nat)
  | acking (reinitReq : Nat)
  | planning (ms : MovementState K)
  | inferring

/-- The request number the iteration has loaded and may still store. -/
def PlannerPoint.request : PlannerPoint K → Option Nat
  | .loaded req | .polled req | .initializing req | .acking req => some req
  | .top | .planning _ | .inferring => none

structure PlannerThread (K : Type) [Field K] where
  planner : PlannerInference K := {}
  point : PlannerPoint K := .top

namespace PlannerThread

inductive Act (K : Type) [Field K] where
  | load
  | clear
  | startInitialize (robotState : Option (Joints K))
  | finishInitialize (engine : Option (EngineOutput K)) (now : TimePoint)
  | ack
  | readCommand (movement : Option (MovementState K))
  | snapshot (playback : Option (MotionSequence50Hz K × Int)) (t0 : TimePoint)
  | publish (engine : Option (EngineOutput K)) (now : TimePoint)

variable [CMath K]

/-- One step of the thread; `none` where the step is not the next one of the loop. -/
def step (s : PlannerThread K) : Act K → Option (PlannerThread K)
  | .load =>
    match s.point with
    | .top => some { s with point := .loaded s.planner.reinitRequested }
    | _ => none
  | .clear =>
    match s.point with
    | .loaded req =>
      let due := req ≠ s.planner.reinitDone && s.planner.initialized
      some { planner := if due then
               { s.planner with
                 motion50hzBuf := s.planner.motion50hzBuf.clear, initialized := false }
               else s.planner
             point := .polled req }
    | _ => none
  | .startInitialize robotState =>
    match s.point with
    | .polled req =>
      if s.planner.initialized then none
      else match robotState with
        | none => some { s with point := .top }
        | some q => some { planner := s.planner.startInitialize q, point := .initializing req }
    | _ => none
  | .finishInitialize engine now =>
    match s.point with
    | .initializing req =>
      let (p, ok) := s.planner.runAndPublish engine now
      if ok then some { planner := p.finishInitialize, point := .acking req }
      else some { planner := p, point := .top }
    | _ => none
  | .ack =>
    match s.point with
    | .acking req => some { planner := { s.planner with reinitDone := req }, point := .top }
    | _ => none
  | .readCommand movement =>
    match s.point with
    | .polled _ =>
      if s.planner.initialized then
        match movement with
        | none => some { planner := s.planner.countPeriod, point := .top }
        | some ms =>
          let (p, need) := s.planner.countPeriod.needReplan ms
          some { planner := p, point := if need then .planning ms else .top }
      else none
    | _ => none
  | .snapshot playback t0 =>
    match s.point with
    | .planning ms =>
      some { planner := s.planner.startReplan ms playback t0, point := .inferring }
    | _ => none
  | .publish engine now =>
    match s.point with
    | .inferring =>
      some { planner := (s.planner.runAndPublish engine now).1, point := .top }
    | _ => none

/-- What a step does, one constructor per outcome. -/
inductive Fires : PlannerThread K → Act K → PlannerThread K → Prop
  | load {s : PlannerThread K} (hp : s.point = .top) :
      Fires s .load { s with point := .loaded s.planner.reinitRequested }
  | clear {s : PlannerThread K} (req : Nat) (hp : s.point = .loaded req)
      (hdue : req ≠ s.planner.reinitDone) (hinit : s.planner.initialized = true) :
      Fires s .clear
        { planner := { s.planner with
            motion50hzBuf := s.planner.motion50hzBuf.clear, initialized := false }
          point := .polled req }
  | keep {s : PlannerThread K} (req : Nat) (hp : s.point = .loaded req)
      (hno : req = s.planner.reinitDone ∨ s.planner.initialized = false) :
      Fires s .clear { s with point := .polled req }
  | noState {s : PlannerThread K} (req : Nat) (hp : s.point = .polled req)
      (hinit : s.planner.initialized = false) :
      Fires s (.startInitialize none) { s with point := .top }
  | startInitialize {s : PlannerThread K} (req : Nat) (q : Joints K)
      (hp : s.point = .polled req) (hinit : s.planner.initialized = false) :
      Fires s (.startInitialize (some q))
        { planner := s.planner.startInitialize q, point := .initializing req }
  | finishInitialize {s : PlannerThread K} (req : Nat) (engine : Option (EngineOutput K))
      (now : TimePoint) (hp : s.point = .initializing req)
      (hok : (s.planner.runAndPublish engine now).2 = true) :
      Fires s (.finishInitialize engine now)
        { planner := (s.planner.runAndPublish engine now).1.finishInitialize
          point := .acking req }
  | failInitialize {s : PlannerThread K} (req : Nat) (engine : Option (EngineOutput K))
      (now : TimePoint) (hp : s.point = .initializing req)
      (hok : (s.planner.runAndPublish engine now).2 = false) :
      Fires s (.finishInitialize engine now) { s with point := .top }
  | ack {s : PlannerThread K} (req : Nat) (hp : s.point = .acking req) :
      Fires s .ack { planner := { s.planner with reinitDone := req }, point := .top }
  | noCommand {s : PlannerThread K} (req : Nat) (hp : s.point = .polled req)
      (hinit : s.planner.initialized = true) :
      Fires s (.readCommand none) { planner := s.planner.countPeriod, point := .top }
  | readCommand {s : PlannerThread K} (req : Nat) (ms : MovementState K)
      (hp : s.point = .polled req) (hinit : s.planner.initialized = true) :
      Fires s (.readCommand (some ms))
        { planner := (s.planner.countPeriod.needReplan ms).1
          point := if (s.planner.countPeriod.needReplan ms).2 then .planning ms else .top }
  | snapshot {s : PlannerThread K} (ms : MovementState K)
      (playback : Option (MotionSequence50Hz K × Int)) (t0 : TimePoint)
      (hp : s.point = .planning ms) :
      Fires s (.snapshot playback t0)
        { planner := s.planner.startReplan ms playback t0, point := .inferring }
  | publish {s : PlannerThread K} (engine : Option (EngineOutput K)) (now : TimePoint)
      (hp : s.point = .inferring) :
      Fires s (.publish engine now)
        { planner := (s.planner.runAndPublish engine now).1, point := .top }

theorem fires_of_step {s t : PlannerThread K} {a : Act K} (h : s.step a = some t) :
    Fires s a t := by
  cases a with
  | load =>
    cases hp : s.point <;> simp only [step, hp, reduceCtorEq, Option.some.injEq] at h
    exact h ▸ .load hp
  | clear =>
    cases hp : s.point <;> simp only [step, hp, reduceCtorEq, Option.some.injEq] at h
    rename_i req
    by_cases hdue : req ≠ s.planner.reinitDone
    · cases hinit : s.planner.initialized with
      | true =>
        simp only [hdue, hinit, ne_eq, not_false_eq_true, decide_true, Bool.and_self,
          if_true] at h
        exact h ▸ .clear req hp hdue hinit
      | false =>
        simp only [hinit, Bool.and_false, Bool.false_eq_true, if_false] at h
        exact h ▸ .keep req hp (Or.inr hinit)
    · have hdue' : req = s.planner.reinitDone := not_not.mp hdue
      simp only [hdue', ne_eq, not_true_eq_false, decide_false, Bool.false_and,
        Bool.false_eq_true, if_false] at h
      exact h ▸ hdue' ▸ .keep req hp (Or.inl hdue')
  | startInitialize robotState =>
    cases hp : s.point <;> simp only [step, hp, reduceCtorEq] at h
    rename_i req
    cases hinit : s.planner.initialized with
    | true => simp [hinit] at h
    | false =>
      cases robotState with
      | none =>
        simp only [hinit, Bool.false_eq_true, if_false, Option.some.injEq] at h
        exact h ▸ .noState req hp hinit
      | some q =>
        simp only [hinit, Bool.false_eq_true, if_false, Option.some.injEq] at h
        exact h ▸ .startInitialize req q hp hinit
  | finishInitialize engine now =>
    cases hp : s.point <;> simp only [step, hp, reduceCtorEq] at h
    rename_i req
    cases hok : (s.planner.runAndPublish engine now).2 with
    | true =>
      simp only [hok, if_true, Option.some.injEq] at h
      exact h ▸ .finishInitialize req engine now hp hok
    | false =>
      simp only [hok, Bool.false_eq_true, if_false, Option.some.injEq,
        PlannerInference.runAndPublish_eq_self hok] at h
      exact h ▸ .failInitialize req engine now hp hok
  | ack =>
    cases hp : s.point <;> simp only [step, hp, reduceCtorEq, Option.some.injEq] at h
    exact h ▸ .ack _ hp
  | readCommand movement =>
    cases hp : s.point <;> simp only [step, hp, reduceCtorEq] at h
    rename_i req
    cases hinit : s.planner.initialized with
    | false => simp [hinit] at h
    | true =>
      cases movement with
      | none =>
        simp only [hinit, if_true, Option.some.injEq] at h
        exact h ▸ .noCommand req hp hinit
      | some ms =>
        simp only [hinit, if_true, Option.some.injEq] at h
        exact h ▸ .readCommand req ms hp hinit
  | snapshot playback t0 =>
    cases hp : s.point <;> simp only [step, hp, reduceCtorEq, Option.some.injEq] at h
    exact h ▸ .snapshot _ playback t0 hp
  | publish engine now =>
    cases hp : s.point <;> simp only [step, hp, reduceCtorEq, Option.some.injEq] at h
    exact h ▸ .publish engine now hp

/-! ### What can fire at a given point -/

section

variable {s t : PlannerThread K} {a : Act K}

theorem Fires.of_top (h : Fires s a t) (hp : s.point = .top) :
    t = { s with point := .loaded s.planner.reinitRequested } := by
  cases h with
  | load => rfl
  | _ => simp_all

/-- After the poll a planner with an unanswered request is not initialized. -/
theorem Fires.of_loaded (h : Fires s a t) {req : Nat} (hp : s.point = .loaded req) :
    t.point = .polled req ∧ t.planner.reinitDone = s.planner.reinitDone ∧
      t.planner.reinitRequested = s.planner.reinitRequested ∧
      (req ≠ s.planner.reinitDone → t.planner.initialized = false) := by
  cases h with
  | clear req' hp' hdue hinit =>
    cases hp.symm.trans hp'
    exact ⟨rfl, rfl, rfl, fun _ => rfl⟩
  | keep req' hp' hno =>
    cases hp.symm.trans hp'
    exact ⟨rfl, rfl, rfl, fun hne => hno.resolve_left hne⟩
  | _ => simp_all

/-- A polled planner that is not initialized can only start `initialize_once`. -/
theorem Fires.of_polled (h : Fires s a t) {req : Nat} (hp : s.point = .polled req)
    (hinit : s.planner.initialized = false) : ∃ robotState, a = .startInitialize robotState := by
  cases h with
  | noState => exact ⟨none, rfl⟩
  | startInitialize _ q => exact ⟨some q, rfl⟩
  | _ => simp_all

end

/-- The steps of one iteration that starts in `p` and reads `i`, when nothing comes
between them. -/
def iterationActs (p : PlannerInference K) (i : PlannerInference.IterationReads K) :
    List (Act K) :=
  [.load, .clear] ++
    if p.pollReinit.initialized then
      .readCommand i.movement ::
        match i.movement with
        | none => []
        | some ms =>
          if (p.pollReinit.countPeriod.needReplan ms).2 then
            [.snapshot i.playback i.t0, .publish i.engine i.now]
          else []
    else
      .startInitialize i.robotState ::
        match i.robotState with
        | none => []
        | some q =>
          .finishInitialize i.engine i.now ::
            if ((p.pollReinit.startInitialize q).runAndPublish i.engine i.now).2 then [.ack]
            else []

theorem step_clear (p : PlannerInference K) :
    step ⟨p, .loaded p.reinitRequested⟩ .clear =
      some ⟨p.pollReinit, .polled p.reinitRequested⟩ := rfl

/-- Run back to back, the steps are the loop body. -/
theorem run_iterationActs (p : PlannerInference K) (i : PlannerInference.IterationReads K) :
    Transition.run step ⟨p, .top⟩ (iterationActs p i) = some ⟨p.loopIteration i, .top⟩ := by
  have hload : step ⟨p, .top⟩ .load = some ⟨p, .loaded p.reinitRequested⟩ := rfl
  simp only [iterationActs, List.cons_append, List.nil_append, Transition.run_cons, hload,
    Option.bind_some, step_clear]
  cases hinit : p.pollReinit.initialized with
  | true =>
    cases hms : i.movement with
    | none => simp [step, hinit, hms, PlannerInference.loopIteration]
    | some ms =>
      cases hneed : (p.pollReinit.countPeriod.needReplan ms).2 <;>
        simp [step, hinit, hms, hneed, PlannerInference.loopIteration]
  | false =>
    cases hq : i.robotState with
    | none =>
      simp [step, hinit, hq, PlannerInference.loopIteration, PlannerInference.initializeOnce]
    | some q =>
      cases hok : ((p.pollReinit.startInitialize q).runAndPublish i.engine i.now).2 <;>
        simp [step, hinit, hq, hok, PlannerInference.loopIteration,
          PlannerInference.initializeOnce]

end PlannerThread

end Gearsonic
