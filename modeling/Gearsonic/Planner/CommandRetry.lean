import Gearsonic.Planner.PlannerInference
import Gearsonic.Transition.Loop
import Mathlib.Algebra.Order.Field.Basic
import Mathlib.Tactic.NormNum
import Mathlib.Tactic.Linarith

/-!
# Whether a failed replan is retried

`need_replan` compares a command with `last_movement_state_`, and the loop writes that
member before it runs the inference. When the inference fails, the command counts as
handled although the published plan is still the old one's; only the interval timer of a
moving, non-static mode tries it again. `initialize_once` commits its baseline after the
publication.

A run is a list of loop iterations, with any number of `request_reinit()` calls before
each. `published` is not a member of the planner: it records the command that the last
published plan was computed for.

* `command_retried_iff`: a run retries every unpublished command exactly when each failed
  replan was for a command the published plan already serves, or for one whose timer is
  due in the next iteration.
* `stop_command_lost`: a run in which a stop is lost.
-/

set_option linter.unusedSectionVars false

namespace Gearsonic

variable {K : Type} [Field K] [LinearOrder K]

/-! ## What the decision depends on -/

/-- A plan for `last` does not serve the command `ms`. -/
def differs (ms last : MovementState K) : Bool :=
  PlannerInference.poseChanged ms last ||
    (!isStaticMotionMode ms.locomotionMode && PlannerInference.velocityChanged ms last)

/-- A command the interval timer applies to. -/
def moving (ms : MovementState K) : Bool :=
  !isStaticMotionMode ms.locomotionMode && ms.movementSpeed ≠ 0

theorem differs_eq_false {ms last : MovementState K} : differs ms last = false ↔
    ms.locomotionMode = last.locomotionMode ∧ ms.facingDirection = last.facingDirection ∧
      ms.height = last.height ∧ (isStaticMotionMode ms.locomotionMode = false →
        ms.movementSpeed = last.movementSpeed ∧
          ms.movementDirection = last.movementDirection) := by
  cases h : isStaticMotionMode ms.locomotionMode <;>
    simp [differs, PlannerInference.poseChanged, PlannerInference.velocityChanged, h, and_assoc]

theorem differs_self (ms : MovementState K) : differs ms ms = false :=
  differs_eq_false.mpr ⟨rfl, rfl, rfl, fun _ => ⟨rfl, rfl⟩⟩

/-- A command served by the plan for `last` is served by whatever serves `last`. -/
theorem differs_trans {ms last published : MovementState K} (h : differs ms last = false)
    (h' : differs last published = false) : differs ms published = false := by
  obtain ⟨hmode, hface, hheight, hvel⟩ := differs_eq_false.mp h
  obtain ⟨hmode', hface', hheight', hvel'⟩ := differs_eq_false.mp h'
  refine differs_eq_false.mpr
    ⟨hmode.trans hmode', hface.trans hface', hheight.trans hheight', fun hs => ?_⟩
  obtain ⟨hspeed, hdir⟩ := hvel hs
  obtain ⟨hspeed', hdir'⟩ := hvel' (hmode ▸ hs)
  exact ⟨hspeed.trans hspeed', hdir.trans hdir'⟩

theorem moving_congr {ms last : MovementState K} (h : differs ms last = false)
    (hm : moving last = true) : moving ms = true := by
  obtain ⟨hmode, -, -, hvel⟩ := differs_eq_false.mp h
  simp only [moving, Bool.and_eq_true, Bool.not_eq_true', decide_eq_true_eq] at hm ⊢
  obtain ⟨hs, hspeed⟩ := hm
  have hs' : isStaticMotionMode ms.locomotionMode = false := by rw [hmode]; exact hs
  exact ⟨hs', by rw [(hvel hs').1]; exact hspeed⟩

namespace PlannerInference

variable {p : PlannerInference K} {ms : MovementState K}

/-- The decision: the command differs, or its timer has expired. -/
theorem needReplan_snd (p : PlannerInference K) (ms : MovementState K) :
    (p.needReplan ms).2 = (differs ms p.lastMovementState ||
      (moving ms && decide (replanInterval ms.locomotionMode ≤ p.replanIntervalCounter))) := by
  simp only [needReplan, differs, moving]
  cases poseChanged ms p.lastMovementState <;>
    cases isStaticMotionMode ms.locomotionMode <;>
    cases velocityChanged ms p.lastMovementState <;>
    simp [Bool.and_comm]

@[simp] theorem needReplan_initialized (p : PlannerInference K) (ms : MovementState K) :
    (p.needReplan ms).1.initialized = p.initialized := by
  unfold needReplan
  dsimp only
  split <;> rfl

@[simp] theorem needReplan_last (p : PlannerInference K) (ms : MovementState K) :
    (p.needReplan ms).1.lastMovementState = p.lastMovementState := by
  unfold needReplan
  dsimp only
  split <;> rfl

section

variable [CMath K]

@[simp] theorem startReplan_last (p : PlannerInference K) (ms : MovementState K)
    (playback : Option (MotionSequence50Hz K × Int)) (t0 : TimePoint) :
    (p.startReplan ms playback t0).lastMovementState = ms := by
  cases playback <;> rfl

@[simp] theorem startReplan_counter (p : PlannerInference K) (ms : MovementState K)
    (playback : Option (MotionSequence50Hz K × Int)) (t0 : TimePoint) :
    (p.startReplan ms playback t0).replanIntervalCounter = p.replanIntervalCounter := by
  cases playback <;> rfl

@[simp] theorem startReplan_initialized (p : PlannerInference K) (ms : MovementState K)
    (playback : Option (MotionSequence50Hz K × Int)) (t0 : TimePoint) :
    (p.startReplan ms playback t0).initialized = p.initialized := by
  cases playback <;> rfl

/-- An inference touches neither the baseline nor the timer. -/
theorem runAndPublish_frame (p : PlannerInference K) (engine : Option (EngineOutput K))
    (now : TimePoint) :
    (p.runAndPublish engine now).1.initialized = p.initialized ∧
      (p.runAndPublish engine now).1.lastMovementState = p.lastMovementState ∧
      (p.runAndPublish engine now).1.replanIntervalCounter = p.replanIntervalCounter := by
  unfold runAndPublish
  split <;> exact ⟨rfl, rfl, rfl⟩

/-- The engine's result is accepted. -/
def accepted (engine : Option (EngineOutput K)) : Bool :=
  (engine.bind (resample30HzTo50Hz ({} : MotionSequence50Hz K))).isSome

theorem resample_isSome (m m' : MotionSequence50Hz K) (out : EngineOutput K) :
    (resample30HzTo50Hz m out).isSome = (resample30HzTo50Hz m' out).isSome := by
  simp only [resample30HzTo50Hz]
  split_ifs <;> rfl

theorem runAndPublish_snd (p : PlannerInference K) (engine : Option (EngineOutput K))
    (now : TimePoint) : (p.runAndPublish engine now).2 = accepted engine := by
  have hsome : (engine.bind (resample30HzTo50Hz p.motionSeq)).isSome = accepted engine := by
    cases engine with
    | none => rfl
    | some out => exact resample_isSome _ _ out
  rw [← hsome]
  unfold runAndPublish
  split <;> rename_i h <;> rw [h] <;> rfl

/-- A failed inference leaves the planner as it is. -/
theorem runAndPublish_failed (p : PlannerInference K) {engine : Option (EngineOutput K)}
    (now : TimePoint) (h : accepted engine = false) : p.runAndPublish engine now = (p, false) := by
  rw [← runAndPublish_snd p engine now] at h
  exact Prod.ext (runAndPublish_eq_self h) h

end

/-- An iteration that starts in `p` and reads `ms` tries to replan. -/
def attempts (p : PlannerInference K) (ms : MovementState K) : Bool :=
  (p.countPeriod.needReplan ms).2

theorem attempts_of_differs (h : differs ms p.lastMovementState = true) :
    p.attempts ms = true := by
  have h' : differs ms p.countPeriod.lastMovementState = true := h
  rw [attempts, needReplan_snd, h', Bool.true_or]

/-- The timer of `ms` has expired in the iteration that starts in `p`. -/
def timerDue (p : PlannerInference K) (ms : MovementState K) : Bool :=
  moving ms && decide (replanInterval ms.locomotionMode ≤ p.countPeriod.replanIntervalCounter)

theorem attempts_of_timerDue (h : p.timerDue ms = true) : p.attempts ms = true := by
  rw [attempts, needReplan_snd]
  rw [timerDue] at h
  rw [h, Bool.or_true]

end PlannerInference

/-! ## Runs -/

open PlannerInference Transition

/-- One iteration, after `requests` calls of `request_reinit()`. -/
structure CommandInput (K : Type) [Field K] extends IterationReads K where
  requests : Nat := 0

structure CommandRun (K : Type) [Field K] where
  planner : PlannerInference K := {}
  published : MovementState K := {}

namespace CommandRun

/-- The planner at the start of the iteration. -/
def requested (r : CommandRun K) (i : CommandInput K) : PlannerInference K :=
  { r.planner with reinitRequested := r.planner.reinitRequested + i.requests }

/-- The planner as the iteration's poll leaves it. -/
def polled (r : CommandRun K) (i : CommandInput K) : PlannerInference K :=
  (r.requested i).pollReinit

/-- The baseline is served by the published plan, or its timer is due. -/
def Recoverable (r : CommandRun K) : Prop :=
  differs r.planner.lastMovementState r.published = false ∨
    r.planner.timerDue r.planner.lastMovementState = true

/-- A recoverable planner tries every command that its published plan does not serve. -/
theorem Recoverable.attempts {r : CommandRun K} (h : r.Recoverable) {ms : MovementState K}
    (hms : differs ms r.published = true) : r.planner.attempts ms = true := by
  cases hlast : differs ms r.planner.lastMovementState with
  | true => exact attempts_of_differs hlast
  | false =>
    rcases h with h | h
    · rw [differs_trans hlast h] at hms
      cases hms
    · have hmode : ms.locomotionMode = r.planner.lastMovementState.locomotionMode :=
        (differs_eq_false.mp hlast).1
      apply attempts_of_timerDue
      simp only [timerDue, Bool.and_eq_true, decide_eq_true_eq] at h ⊢
      exact ⟨moving_congr hlast h.1, hmode ▸ h.2⟩

theorem polled_frame (r : CommandRun K) (i : CommandInput K) :
    (r.polled i).lastMovementState = r.planner.lastMovementState ∧
      (r.polled i).replanIntervalCounter = r.planner.replanIntervalCounter := by
  unfold polled pollReinit requested
  split <;> exact ⟨rfl, rfl⟩

/-- The poll does not change what an iteration tries. -/
theorem polled_attempts (r : CommandRun K) (i : CommandInput K) (ms : MovementState K) :
    (r.polled i).attempts ms = r.planner.attempts ms := by
  obtain ⟨hlast, hcount⟩ := r.polled_frame i
  simp only [PlannerInference.attempts, needReplan_snd, countPeriod, hlast, hcount]

variable [CMath K]

/-- The command that the last published plan was computed for, after the iteration. -/
def publishedAfter (r : CommandRun K) (i : CommandInput K) : MovementState K :=
  if (r.polled i).initialized then
    match i.movement with
    | none => r.published
    | some ms => if (r.polled i).attempts ms && accepted i.engine then ms else r.published
  else if i.robotState.isSome && accepted i.engine then {}
  else r.published

def iteration (r : CommandRun K) (i : CommandInput K) : CommandRun K :=
  { planner := (r.requested i).loopIteration i.toIterationReads
    published := r.publishedAfter i }

/-- After the iteration: if the planner is initialized and the movement buffer holds a
command that the published plan does not serve, the next iteration tries it. -/
def Retried (r : CommandRun K) (i : CommandInput K) : Prop :=
  (r.iteration i).planner.initialized = true → ∀ ms, i.movement = some ms →
    differs ms (r.iteration i).published = true → (r.iteration i).planner.attempts ms = true

/-- If a replan is due and its inference fails, the published plan already serves the
command, or the command's timer is due in the next iteration. -/
def FailureHarmless (r : CommandRun K) (i : CommandInput K) : Prop :=
  (r.polled i).initialized = true → ∀ ms, i.movement = some ms →
    r.planner.attempts ms = true → accepted i.engine = false →
      differs ms r.published = false ∨
        ((r.polled i).countPeriod.needReplan ms).1.timerDue ms = true

/-! ### What an iteration leaves -/

variable {r : CommandRun K} {i : CommandInput K} {ms : MovementState K}

/-- An iteration that initializes. -/
theorem iteration_init (h : (r.polled i).initialized = false)
    (hok : (i.robotState.isSome && accepted i.engine) = true) :
    (r.iteration i).planner.lastMovementState = {} ∧ (r.iteration i).published = {} := by
  obtain ⟨hrobot, hacc⟩ := Bool.and_eq_true_iff.mp hok
  obtain ⟨q, hq⟩ := Option.isSome_iff_exists.mp hrobot
  have hrun := runAndPublish_snd ((r.polled i).startInitialize q) i.engine i.now
  rw [hacc] at hrun
  refine ⟨?_, by simp [iteration, publishedAfter, h, hok]⟩
  have h' : (r.requested i).pollReinit.initialized = false := h
  have hrun' : (((r.requested i).pollReinit.startInitialize q).runAndPublish i.engine
    i.now).2 = true := hrun
  simp [iteration, loopIteration, h', initializeOnce, hq, hrun', finishInitialize]

/-- An iteration whose initialization fails. -/
theorem iteration_init_failed (h : (r.polled i).initialized = false)
    (hok : (i.robotState.isSome && accepted i.engine) = false) :
    (r.iteration i).planner.initialized = false ∧
      (r.iteration i).planner.lastMovementState = r.planner.lastMovementState ∧
      (r.iteration i).planner.replanIntervalCounter = r.planner.replanIntervalCounter ∧
      (r.iteration i).published = r.published := by
  have h' : (r.requested i).pollReinit.initialized = false := h
  have hplanner : (r.iteration i).planner.initialized = false ∧
      (r.iteration i).planner.lastMovementState = (r.polled i).lastMovementState ∧
      (r.iteration i).planner.replanIntervalCounter = (r.polled i).replanIntervalCounter := by
    cases hrobot : i.robotState with
    | none => simp [iteration, loopIteration, h', initializeOnce, hrobot, polled]
    | some q =>
      have hacc : accepted i.engine = false := by simpa [hrobot] using hok
      simp [iteration, loopIteration, h', initializeOnce, hrobot, polled,
        runAndPublish_failed _ i.now hacc, startInitialize, setInputTensors]
  obtain ⟨hlast, hcount⟩ := r.polled_frame i
  refine ⟨hplanner.1, hplanner.2.1.trans hlast, hplanner.2.2.trans hcount, ?_⟩
  simp [iteration, publishedAfter, h, hok]

/-- An iteration with no command to read. -/
theorem iteration_no_command (h : (r.polled i).initialized = true) (hms : i.movement = none) :
    (r.iteration i).planner = (r.polled i).countPeriod ∧
      (r.iteration i).published = r.published := by
  have h' : (r.requested i).pollReinit.initialized = true := h
  constructor
  · simp [iteration, loopIteration, h', hms, polled]
  · simp [iteration, publishedAfter, h, hms]

/-- An iteration that finds nothing to replan. -/
theorem iteration_idle (h : (r.polled i).initialized = true) (hms : i.movement = some ms)
    (hno : r.planner.attempts ms = false) :
    (r.iteration i).planner.lastMovementState = r.planner.lastMovementState ∧
      (r.iteration i).published = r.published := by
  have hno' : (r.polled i).attempts ms = false := (r.polled_attempts i ms).trans hno
  have h' : (r.requested i).pollReinit.initialized = true := h
  have hneed : ((r.requested i).pollReinit.countPeriod.needReplan ms).2 = false := hno'
  constructor
  · have hlast := (r.polled_frame i).1
    simp only [iteration, loopIteration, h', hms, hneed, Bool.not_true, Bool.false_eq_true,
      if_false, needReplan_last]
    exact hlast
  · simp [iteration, publishedAfter, h, hms, hno']

/-- An iteration that replans, whether its inference succeeds or not. -/
theorem iteration_replan (h : (r.polled i).initialized = true) (hms : i.movement = some ms)
    (hyes : r.planner.attempts ms = true) :
    (r.iteration i).planner.initialized = true ∧
      (r.iteration i).planner.lastMovementState = ms ∧
      (r.iteration i).planner.replanIntervalCounter =
        ((r.polled i).countPeriod.needReplan ms).1.replanIntervalCounter ∧
      (r.iteration i).published = if accepted i.engine then ms else r.published := by
  have hyes' : (r.polled i).attempts ms = true := (r.polled_attempts i ms).trans hyes
  have h' : (r.requested i).pollReinit.initialized = true := h
  have hneed : ((r.requested i).pollReinit.countPeriod.needReplan ms).2 = true := hyes'
  have hplanner : (r.iteration i).planner =
      (((((r.polled i).countPeriod.needReplan ms).1.startReplan ms i.playback i.t0)
        ).runAndPublish i.engine i.now).1 := by
    simp only [iteration, loopIteration, h', hms, hneed, Bool.not_true, Bool.false_eq_true,
      if_false, if_true]
    rfl
  obtain ⟨hinit, hlast, hcount⟩ := runAndPublish_frame
    (((r.polled i).countPeriod.needReplan ms).1.startReplan ms i.playback i.t0) i.engine i.now
  rw [hplanner]
  refine ⟨hinit.trans ?_, hlast.trans (startReplan_last ..),
    hcount.trans (startReplan_counter ..), ?_⟩
  · rw [startReplan_initialized, needReplan_initialized]
    exact h
  · simp [iteration, publishedAfter, h, hms, hyes']

/-! ### The invariant -/

/-- What the timer says depends on the counter only. -/
theorem timerDue_congr {p q : PlannerInference K}
    (h : p.replanIntervalCounter = q.replanIntervalCounter) (ms : MovementState K) :
    p.timerDue ms = q.timerDue ms := by
  have hcount : p.countPeriod.replanIntervalCounter = q.countPeriod.replanIntervalCounter := by
    simp only [countPeriod, h]
  rw [timerDue, timerDue, hcount]

variable [IsStrictOrderedRing K]

/-- A timer that is due stays due while nothing is replanned. -/
theorem timerDue_countPeriod {p : PlannerInference K} (h : p.timerDue ms = true) :
    p.countPeriod.timerDue ms = true := by
  simp only [timerDue, Bool.and_eq_true, decide_eq_true_eq] at h ⊢
  obtain ⟨hmov, hdue⟩ := h
  have hpos : (0 : K) ≤ kLoopPeriodS := by norm_num [kLoopPeriodS]
  have hstep : p.countPeriod.replanIntervalCounter ≤
      p.countPeriod.countPeriod.replanIntervalCounter := by
    simp only [countPeriod]
    linarith
  exact ⟨hmov, hdue.trans hstep⟩

/-- The step lemma: an iteration whose failure is harmless leaves the run recoverable. -/
theorem Recoverable.iteration (hrec : r.Recoverable) (hharm : r.FailureHarmless i) :
    (r.iteration i).Recoverable := by
  cases h : (r.polled i).initialized with
  | false =>
    cases hok : i.robotState.isSome && accepted i.engine with
    | true =>
      obtain ⟨hlast, hpub⟩ := iteration_init h hok
      left
      rw [hlast, hpub]
      exact differs_self _
    | false =>
      obtain ⟨-, hlast, hcount, hpub⟩ := iteration_init_failed h hok
      unfold Recoverable
      rw [hlast, hpub, timerDue_congr hcount]
      exact hrec
  | true =>
    cases hms : i.movement with
    | none =>
      obtain ⟨hplanner, hpub⟩ := iteration_no_command h hms
      obtain ⟨hlast, hcount⟩ := r.polled_frame i
      unfold Recoverable
      rw [hplanner, hpub]
      have hlast' : (r.polled i).countPeriod.lastMovementState =
          r.planner.lastMovementState := hlast
      rw [hlast']
      refine hrec.imp id fun hdue => timerDue_countPeriod ?_
      rw [timerDue_congr hcount]
      exact hdue
    | some ms =>
      cases hyes : r.planner.attempts ms with
      | false =>
        obtain ⟨hlast, hpub⟩ := iteration_idle h hms hyes
        left
        rw [hlast, hpub]
        rcases hrec with hrec | hdue
        · exact hrec
        · -- an expired timer would have replanned
          exfalso
          have hserved : differs ms r.planner.lastMovementState = false := by
            cases hd : differs ms r.planner.lastMovementState with
            | false => rfl
            | true => rw [attempts_of_differs hd] at hyes; cases hyes
          have hmode := (differs_eq_false.mp hserved).1
          simp only [timerDue, Bool.and_eq_true, decide_eq_true_eq] at hdue
          have hdue' : r.planner.timerDue ms = true := by
            simp only [timerDue, Bool.and_eq_true, decide_eq_true_eq]
            exact ⟨moving_congr hserved hdue.1, hmode ▸ hdue.2⟩
          rw [attempts_of_timerDue hdue'] at hyes
          cases hyes
      | true =>
        obtain ⟨-, hlast, hcount, hpub⟩ := iteration_replan h hms hyes
        unfold Recoverable
        rw [hlast, hpub, timerDue_congr hcount]
        cases hacc : accepted i.engine with
        | true =>
          left
          rw [if_pos rfl]
          exact differs_self ms
        | false =>
          rw [if_neg Bool.false_ne_true]
          exact hharm h ms hms hyes hacc

/-- In a recoverable run, an iteration retries exactly when its failure is harmless. -/
theorem Recoverable.retried_iff (hrec : r.Recoverable) :
    r.Retried i ↔ r.FailureHarmless i := by
  constructor
  · intro hretry h ms hms hyes hacc
    obtain ⟨hinit, hlast, hcount, hpub⟩ := iteration_replan h hms hyes
    rw [hacc, if_neg Bool.false_ne_true] at hpub
    cases hd : differs ms r.published with
    | false => exact Or.inl rfl
    | true =>
      right
      have hnext := hretry hinit ms hms (hpub ▸ hd)
      rw [PlannerInference.attempts, needReplan_snd] at hnext
      have hsame : (r.iteration i).planner.countPeriod.lastMovementState = ms := hlast
      rw [hsame, differs_self, Bool.false_or] at hnext
      rw [← timerDue_congr hcount]
      exact hnext
  · intro hharm _ ms _ hd
    exact (hrec.iteration hharm).attempts hd

theorem Recoverable.init : ({} : CommandRun K).Recoverable := Or.inl (differs_self _)

/-- A run retries every command that its published plan does not serve exactly when each
failed replan was for a command the published plan already serves, or for one whose timer
is due in the next iteration. -/
theorem command_retried_iff (is : List (CommandInput K)) :
    Throughout Retried iteration {} is ↔ Throughout FailureHarmless iteration {} is :=
  throughout_congr Recoverable.init (fun _ _ hrec => hrec.retried_iff)
    (fun _ _ hrec hharm => hrec.iteration hharm) is

def walkForward : MovementState ℚ :=
  { locomotionMode := LocomotionMode.walk.toInt, movementDirection := ![1, 0, 0] }

/-- The planner initializes, plans a walk, and the inference for the stop fails. -/
def stopFails : List (CommandInput ℚ) :=
  [{ robotState := some fun _ => 0, engine := some standingOutput, now := 1 },
   { movement := some walkForward, engine := some standingOutput, t0 := 2, now := 3 },
   { movement := some {}, t0 := 4 }]

/-- The stop is lost: the published plan walks, and the next iteration does not try the
stop again. -/
theorem stop_command_lost :
    ¬ Throughout Retried iteration ({} : CommandRun ℚ) stopFails := by
  intro h
  have hlast := (throughout_iff stopFails).mp h (stopFails.take 2) { movement := some {}, t0 := 4 }
    (by exact List.prefix_rfl)
  have hinit : ((stopFails.foldl iteration ({} : CommandRun ℚ)).planner.initialized) = true := by
    decide +kernel
  have hdiff : differs {} (stopFails.foldl iteration ({} : CommandRun ℚ)).published = true := by
    decide +kernel
  have hno : (stopFails.foldl iteration ({} : CommandRun ℚ)).planner.attempts {} = false := by
    decide +kernel
  have hyes := hlast hinit {} rfl hdiff
  exact Bool.false_ne_true (hno.symm.trans hyes)

/-- The same run over the rationals, without the failing stop. -/
theorem command_retried_iff_walk :
    Throughout Retried iteration ({} : CommandRun ℚ) (stopFails.take 2) ↔
      Throughout FailureHarmless iteration ({} : CommandRun ℚ) (stopFails.take 2) :=
  command_retried_iff (stopFails.take 2)

end CommandRun

end Gearsonic
