import Gearsonic.System.GearsonicInference
import Mathlib.Data.List.Count
import Mathlib.Data.List.Nodup

/-!
# Startup rolls back

What a failed `start` leaves behind. Every stage after the VR reader either throws or rolls
back what came up before it; the two stages in front of it return without closing the
console mirror.

* `Tracks`: the log agrees with the flags, and only performed stages have set one.
* `stop_allStopped`: a rollback stops every module that is up, once.
* `start_rollback_iff`: when a call of `start` meets its contract.
-/

namespace Gearsonic

namespace GearsonicInference

variable {K : Type} [Field K]

/-! ## What is up -/

/-- The flag behind a module. -/
def flag (s : GearsonicInference K) : Module → Bool
  | .vrReader | .inputHandler | .teleopTracker => s.vrStarted
  | .stateReader => s.robotStarted
  | .handStateReader => s.handStateStarted
  | .motorHealth => s.healthStarted
  | .vlaReceiver => s.vlaStarted
  | .navReceiver => s.navRxStarted
  | .recordCommander => s.recordCtlStarted
  | .planner => s.plannerStarted
  | .commandWriter => s.writerStarted
  | .handWriter => s.handWriterStarted
  | .tokenPublisher => s.tokenPubStarted
  | .stateTrace => s.traceStarted
  | .controller => s.controlStarted

/-- The stage that brings a module up. -/
def stageOf : Module → StartStage
  | .vrReader | .inputHandler | .teleopTracker => .vrReader
  | .stateReader => .stateReader
  | .handStateReader => .handStateReader
  | .motorHealth => .motorHealth
  | .vlaReceiver => .vlaReceiver
  | .navReceiver => .navReceiver
  | .recordCommander => .recordCommander
  | .planner => .planner
  | .commandWriter => .commandWriter
  | .handWriter => .handWriter
  | .tokenPublisher => .tokenPublisher
  | .stateTrace => .stateTrace
  | .controller => .controller

/-- `stop` stops each module whose flag is set, once. -/
theorem running_count (s : GearsonicInference K) (m : Module) :
    s.running.count m = (s.flag m).toNat := by
  have hcount : ∀ (b : Bool) (ms : List Module),
      (if b then ms else []).count m = if b then ms.count m else 0 := by
    intro b ms
    cases b <;> rfl
  unfold running
  simp only [List.count_append, hcount]
  cases m <;> simp [flag, Bool.toNat, Bool.cond_eq_ite]

/-- Everything is down: no flag is set, each module that came up was stopped once, and the
console mirror is closed. -/
structure AllStopped (s : GearsonicInference K) : Prop where
  flags : ∀ m, s.flag m = false
  console : s.consoleOpen = false
  once : ∀ m, s.log.count (.stopped m) = s.log.count (.started m) ∧
    s.log.count (.started m) ≤ 1

/-- The log agrees with the flags, nothing was stopped, and what is up came up in one of
these stages. -/
structure Tracks (s : GearsonicInference K) (performed : List StartStage) : Prop where
  started : ∀ m, s.log.count (.started m) = (s.flag m).toNat
  stopped : ∀ m, s.log.count (.stopped m) = 0
  stage : ∀ m, s.flag m = true → stageOf m ∈ performed

theorem count_started (ms : List Module) (m : Module) :
    (ms.map LifeEvent.started).count (.started m) = ms.count m :=
  List.count_map_of_injective ms _ (fun _ _ h => LifeEvent.started.inj h) m

theorem count_stopped (ms : List Module) (m : Module) :
    (ms.map LifeEvent.stopped).count (.stopped m) = ms.count m :=
  List.count_map_of_injective ms _ (fun _ _ h => LifeEvent.stopped.inj h) m

theorem count_started_stopped (ms : List Module) (m : Module) :
    (ms.map LifeEvent.stopped).count (.started m) = 0 ∧
      (ms.map LifeEvent.started).count (.stopped m) = 0 := by
  constructor
  · apply List.count_eq_zero.mpr
    simp
  · apply List.count_eq_zero.mpr
    simp

/-- Before the first stage everything is down. -/
theorem Tracks.down (console : Bool) :
    ({ consoleOpen := console } : GearsonicInference K).Tracks [] where
  started m := by cases m <;> rfl
  stopped m := by cases m <;> rfl
  stage m hm := by cases m <;> cases hm

/-- A stage brings up modules of its own. -/
theorem Tracks.up {s s' : GearsonicInference K} {performed : List StartStage} {stage : StartStage}
    (h : s.Tracks performed) (hnew : stage ∉ performed) (ms : List Module) (hnodup : ms.Nodup)
    (hstage : ∀ m ∈ ms, stageOf m = stage) (hlog : s'.log = s.log ++ ms.map .started)
    (hflag : ∀ m, s'.flag m = (s.flag m || decide (m ∈ ms))) :
    s'.Tracks (stage :: performed) where
  started m := by
    rw [hlog, List.count_append, h.started, count_started, hflag]
    by_cases hm : m ∈ ms
    · have hdown : s.flag m = false := by
        by_contra hup
        rw [Bool.not_eq_false] at hup
        exact hnew (hstage m hm ▸ h.stage m hup)
      rw [List.count_eq_one_of_mem hnodup hm, hdown]
      simp [hm]
    · rw [List.count_eq_zero_of_not_mem hm]
      simp [hm]
  stopped m := by
    rw [hlog, List.count_append, h.stopped, (count_started_stopped ms m).2]
  stage m hm := by
    rw [hflag, Bool.or_eq_true, decide_eq_true_iff] at hm
    rcases hm with hup | hmem
    · exact List.mem_cons_of_mem _ (h.stage m hup)
    · rw [hstage m hmem]
      exact List.mem_cons_self

/-- A stage that brings nothing up. -/
theorem Tracks.idle {s : GearsonicInference K} {performed : List StartStage} (stage : StartStage)
    (h : s.Tracks performed) : s.Tracks (stage :: performed) :=
  ⟨h.started, h.stopped, fun m hm => List.mem_cons_of_mem _ (h.stage m hm)⟩

theorem stop_allStopped {s : GearsonicInference K} {performed : List StartStage}
    (h : s.Tracks performed) (loop : List (MotorCommand K)) : (s.stop loop).AllStopped where
  flags m := by cases m <;> rfl
  console := rfl
  once m := by
    have hlog : (s.stop loop).log = s.log ++ s.running.map LifeEvent.stopped := rfl
    rw [hlog, List.count_append, List.count_append, h.stopped, h.started, count_stopped,
      (count_started_stopped _ m).1, running_count]
    cases s.flag m <;> simp

/-! ## The stages -/

/-- Nothing goes wrong at this stage. -/
def passes (i : StartInputs K) : StartStage → Bool
  | .consoleTee => true
  | .configLoad => i.configLoads
  | .vrReader => i.vrReader
  | .stateReader => i.config.unitree.any fun c => i.stateReader c.1 c.2
  | .handStateReader => i.handStateReader
  | .motorHealth => i.config.motorHealth.isSome
  | .vlaReceiver => i.vlaReceiver
  | .navReceiver => i.navReceiver
  | .recordCommander => i.config.recordEnabled.isSome
  | .waitForState => i.stateArrives
  | .planner => i.config.plannerModel.any i.planner
  | .commandWriter => i.commandWriter
  | .handWriter => i.config.hand.any i.handWriter
  | .tokenPublisher => i.tokenPublisher
  | .stateTrace => i.config.trace.isSome
  | .controller => i.config.control.any fun c => i.controller c.1 c.2

/-- The stage reads a configuration entry that is missing or of the wrong type. -/
def throwsAt (i : StartInputs K) : StartStage → Bool
  | .stateReader => i.config.unitree.isNone
  | .motorHealth => i.config.motorHealth.isNone
  | .recordCommander => i.config.recordEnabled.isNone
  | .planner => i.config.plannerModel.isNone
  | .handWriter => i.config.hand.isNone
  | .stateTrace => i.config.trace.isNone
  | .controller => i.config.control.isNone
  | _ => false

/-- The first stage at which something goes wrong. -/
def firstFailure (i : StartInputs K) : Option StartStage :=
  startStages.find? fun stage => !passes i stage

/-- What a guarded stage does: it goes on and keeps track, it throws, or it rolls back. -/
inductive Performs (i : StartInputs K) (s : GearsonicInference K) (stage : StartStage)
    (performed : List StartStage) : Prop where
  | through (s' : GearsonicInference K) (hpass : passes i stage = true)
      (heq : perform i s stage = (s', none)) (htracks : s'.Tracks (stage :: performed))
  | threw (hpass : passes i stage = false) (hthrow : throwsAt i stage = true)
      (heq : perform i s stage = (s, some .threw))
  | rolledBack (hpass : passes i stage = false) (hthrow : throwsAt i stage = false)
      (heq : perform i s stage = (s.stop i.loopPublished, some (.returned false)))

/-- A stage that only starts one module. -/
theorem Performs.of_start {i : StartInputs K} {s s' : GearsonicInference K} {stage : StartStage}
    {performed : List StartStage} {ok : Bool} (hpass : passes i stage = ok)
    (hthrow : throwsAt i stage = false)
    (heq : perform i s stage = if ok then s'.goOn else s.rollBack i)
    (htracks : s'.Tracks (stage :: performed)) : Performs i s stage performed := by
  cases ok with
  | true => exact .through s' hpass heq htracks
  | false => exact .rolledBack hpass hthrow heq

/-- A stage that reads the configuration first. -/
theorem Performs.of_read {i : StartInputs K} {s : GearsonicInference K} {stage : StartStage}
    {performed : List StartStage} {α : Type} {read : Option α} (ok : α → Bool)
    (s' : α → GearsonicInference K) (hpass : passes i stage = read.any ok)
    (hthrow : throwsAt i stage = read.isNone)
    (heq : perform i s stage =
      read.elim s.escape fun c => if ok c then (s' c).goOn else s.rollBack i)
    (htracks : ∀ c, (s' c).Tracks (stage :: performed)) : Performs i s stage performed := by
  cases read with
  | none => exact .threw hpass hthrow heq
  | some c => exact .of_start hpass hthrow heq (htracks c)

/-- The state with a guarded module up. -/
def up (s : GearsonicInference K) : Module → GearsonicInference K
  | .stateReader => { s with robotStarted := true }.record [.stateReader]
  | .handStateReader => { s with handStateStarted := true }.record [.handStateReader]
  | .motorHealth => { s with healthStarted := true }.record [.motorHealth]
  | .vlaReceiver => { s with vlaStarted := true }.record [.vlaReceiver]
  | .navReceiver => { s with navRxStarted := true }.record [.navReceiver]
  | .recordCommander => { s with recordCtlStarted := true }.record [.recordCommander]
  | .planner => { s with plannerStarted := true }.record [.planner]
  | .commandWriter => { s with writerStarted := true }.record [.commandWriter]
  | .handWriter => { s with handWriterStarted := true }.record [.handWriter]
  | .tokenPublisher => { s with tokenPubStarted := true }.record [.tokenPublisher]
  | .stateTrace => { s with traceStarted := true }.record [.stateTrace]
  | .controller => { s with controlStarted := true }.record [.controller]
  | .vrReader | .inputHandler | .teleopTracker => s

/-- A guarded module has a flag of its own. -/
theorem Tracks.guarded {s : GearsonicInference K} {performed : List StartStage}
    (h : s.Tracks performed) (m : Module) (hm : stageOf m ∈ guardedStages)
    (hnew : stageOf m ∉ performed) : (s.up m).Tracks (stageOf m :: performed) := by
  have hvr : stageOf m ≠ .vrReader := by
    intro hvr
    rw [hvr] at hm
    simp [guardedStages] at hm
  refine h.up hnew [m] (List.nodup_singleton m) ?_ ?_ ?_
  · intro m' hm'
    rw [List.mem_singleton.mp hm']
  · cases m with
    | vrReader | inputHandler | teleopTracker => exact absurd rfl hvr
    | _ => rfl
  · intro m'
    cases m with
    | vrReader | inputHandler | teleopTracker => exact absurd rfl hvr
    | _ => cases m' <;> simp [flag, GearsonicInference.up, record]

theorem performs {i : StartInputs K} {s : GearsonicInference K} {performed : List StartStage}
    (h : s.Tracks performed) {stage : StartStage} (hguarded : stage ∈ guardedStages)
    (hnew : stage ∉ performed) : Performs i s stage performed := by
  cases stage with
  | consoleTee => simp [guardedStages] at hguarded
  | configLoad => simp [guardedStages] at hguarded
  | vrReader => simp [guardedStages] at hguarded
  | handStateReader => exact .of_start rfl rfl rfl (h.guarded .handStateReader hguarded hnew)
  | vlaReceiver => exact .of_start rfl rfl rfl (h.guarded .vlaReceiver hguarded hnew)
  | navReceiver => exact .of_start rfl rfl rfl (h.guarded .navReceiver hguarded hnew)
  | commandWriter => exact .of_start rfl rfl rfl (h.guarded .commandWriter hguarded hnew)
  | tokenPublisher => exact .of_start rfl rfl rfl (h.guarded .tokenPublisher hguarded hnew)
  | waitForState => exact .of_start rfl rfl rfl (h.idle _)
  | stateReader =>
    refine .of_read (fun c => i.stateReader c.1 c.2) (fun _ => s.up .stateReader) rfl rfl ?_
      fun _ => h.guarded .stateReader hguarded hnew
    simp only [perform]
    cases i.config.unitree with
    | none => rfl
    | some c => rfl
  | planner =>
    refine .of_read i.planner (fun _ => s.up .planner) rfl rfl ?_
      fun _ => h.guarded .planner hguarded hnew
    simp only [perform]
    cases i.config.plannerModel <;> rfl
  | handWriter =>
    refine .of_read i.handWriter (fun _ => s.up .handWriter) rfl rfl ?_
      fun _ => h.guarded .handWriter hguarded hnew
    simp only [perform]
    cases i.config.hand <;> rfl
  | controller =>
    refine .of_read (fun c => i.controller c.1 c.2) (fun _ => s.up .controller) rfl rfl ?_
      fun _ => h.guarded .controller hguarded hnew
    simp only [perform]
    cases i.config.control with
    | none => rfl
    | some c => rfl
  | motorHealth =>
    refine .of_read (fun _ => true) (fun _ => s.up .motorHealth) ?_ rfl ?_
      fun _ => h.guarded .motorHealth hguarded hnew
    · simp only [passes]
      cases i.config.motorHealth <;> rfl
    · simp only [perform]
      cases i.config.motorHealth <;> rfl
  | recordCommander =>
    refine .of_read (fun _ => true)
      (fun on => if on && i.recordCommander then s.up .recordCommander else s) ?_ rfl ?_ ?_
    · simp only [passes]
      cases i.config.recordEnabled <;> rfl
    · simp only [perform]
      cases i.config.recordEnabled with
      | none => rfl
      | some on => cases on <;> cases i.recordCommander <;> rfl
    · intro on
      cases on && i.recordCommander with
      | false => exact h.idle _
      | true => exact h.guarded .recordCommander hguarded hnew
  | stateTrace =>
    refine .of_read (fun _ => true)
      (fun c => if c.1 && i.stateTrace c.2 then s.up .stateTrace else s) ?_ rfl ?_ ?_
    · simp only [passes]
      cases i.config.trace <;> rfl
    · simp only [perform]
      cases i.config.trace with
      | none => rfl
      | some c =>
        obtain ⟨on, path⟩ := c
        cases on with
        | false => rfl
        | true => cases hstart : i.stateTrace path <;> simp [hstart, GearsonicInference.up]
    · intro c
      cases c.1 && i.stateTrace c.2 with
      | false => exact h.idle _
      | true => exact h.guarded .stateTrace hguarded hnew

/-! ## Whole calls -/

/-- A call from one state on ends in one of these ways, for the first stage that fails. -/
inductive Ends (i : StartInputs K) (failure : Option StartStage)
    (out : GearsonicInference K × StartResult) : Prop where
  | up (performed : List StartStage) (hfail : failure = none) (hout : out.2 = .returned true)
      (htracks : out.1.Tracks performed)
  | threw (performed : List StartStage) (stage : StartStage) (hfail : failure = some stage)
      (hthrow : throwsAt i stage = true) (hout : out.2 = .threw)
      (htracks : out.1.Tracks performed)
  | rolledBack (performed : List StartStage) (stage : StartStage) (hfail : failure = some stage)
      (hthrow : throwsAt i stage = false) (hout : out.2 = .returned false)
      (hstop : ∃ s : GearsonicInference K, s.Tracks performed ∧ out.1 = s.stop i.loopPublished)

theorem performAll_guarded {i : StartInputs K} {s : GearsonicInference K}
    {performed : List StartStage} (h : s.Tracks performed) {stages : List StartStage}
    (hguarded : stages ⊆ guardedStages) (hnodup : stages.Nodup)
    (hnew : ∀ stage ∈ stages, stage ∉ performed) :
    Ends i (stages.find? fun stage => !passes i stage) (performAll i s stages) := by
  induction stages generalizing s performed with
  | nil => exact .up performed rfl rfl h
  | cons stage stages ih =>
    obtain ⟨hstage, hnodup⟩ := List.nodup_cons.mp hnodup
    unfold performAll
    cases performs (i := i) h (hguarded List.mem_cons_self) (hnew stage List.mem_cons_self) with
    | through s' hpass heq htracks =>
      rw [heq, List.find?_cons_of_neg (by simp [hpass])]
      refine ih htracks (fun _ hmem => hguarded (List.mem_cons_of_mem _ hmem)) hnodup ?_
      intro other hother hperformed
      rcases List.mem_cons.mp hperformed with rfl | hold
      · exact hstage hother
      · exact hnew other (List.mem_cons_of_mem _ hother) hold
    | threw hpass hthrow heq =>
      rw [heq, List.find?_cons_of_pos (by simp [hpass])]
      exact .threw performed stage rfl hthrow rfl h
    | rolledBack hpass hthrow heq =>
      rw [heq, List.find?_cons_of_pos (by simp [hpass])]
      exact .rolledBack performed stage rfl hthrow rfl ⟨s, h, rfl⟩

/-- What the header promises of one call of `start`: where a stage fails it returns false, no
exception leaves it, and with false everything is down again. -/
structure Contract (i : StartInputs K) (out : GearsonicInference K × StartResult) : Prop where
  fails : firstFailure i ≠ none → out.2 = .returned false
  caught : out.2 ≠ .threw
  down : out.2 = .returned false → out.1.AllStopped

/-- Any number of `stop` calls is as good as one, and leaves damping as the last command of
a command writer that came up. -/
def StopsSafely (s : GearsonicInference K) : Prop :=
  ∀ loop loops, (loop :: loops).foldl stop s = s.stop loop ∧
    (LifeEvent.started .commandWriter ∈ s.log →
      (s.stop loop).published.getLast? = some (MotorCommand.damping K))

theorem stop_stop (s : GearsonicInference K) (loop loop' : List (MotorCommand K)) :
    (s.stop loop).stop loop' = s.stop loop := by
  unfold stop
  simp [running]

theorem stop_foldl (s : GearsonicInference K) (loop : List (MotorCommand K))
    (loops : List (List (MotorCommand K))) : (loop :: loops).foldl stop s = s.stop loop := by
  rw [List.foldl_cons]
  induction loops with
  | nil => rfl
  | cons loop' loops ih => rw [List.foldl_cons, stop_stop, ih]

theorem stopWriter_getLast (published loop : List (MotorCommand K)) :
    (stopWriter published loop).getLast? = some (MotorCommand.damping K) := by
  unfold stopWriter
  rw [List.getLast?_append]
  rfl

theorem Tracks.writer {s : GearsonicInference K} {performed : List StartStage}
    (h : s.Tracks performed) (hmem : LifeEvent.started .commandWriter ∈ s.log) :
    s.writerStarted = true := by
  have hpos := List.count_pos_iff.mpr hmem
  rw [h.started] at hpos
  by_contra hdown
  rw [Bool.not_eq_true] at hdown
  rw [show s.flag .commandWriter = s.writerStarted from rfl, hdown] at hpos
  exact Nat.lt_irrefl 0 hpos

theorem Tracks.damping {s : GearsonicInference K} {performed : List StartStage}
    (h : s.Tracks performed) (hmem : LifeEvent.started .commandWriter ∈ s.log)
    (loop : List (MotorCommand K)) :
    (s.stop loop).published.getLast? = some (MotorCommand.damping K) := by
  have hpublished : (s.stop loop).published = stopWriter s.published loop :=
    if_pos (h.writer hmem)
  rw [hpublished]
  exact stopWriter_getLast _ _

theorem stopsSafely_of_tracks {s : GearsonicInference K} {performed : List StartStage}
    (h : s.Tracks performed) : s.StopsSafely := by
  intro loop loops
  exact ⟨s.stop_foldl loop loops, fun hmem => h.damping hmem loop⟩

theorem stopsSafely_stop {s : GearsonicInference K} {performed : List StartStage}
    (h : s.Tracks performed) (loop : List (MotorCommand K)) : (s.stop loop).StopsSafely := by
  intro loop' loops
  refine ⟨stop_foldl _ loop' loops, fun hmem => ?_⟩
  rw [stop_stop]
  have hbefore : LifeEvent.started .commandWriter ∈ s.log := by
    rcases List.mem_append.mp hmem with hlog | hstopped
    · exact hlog
    · obtain ⟨m, -, hm⟩ := List.mem_map.mp hstopped
      cases hm
  exact h.damping hbefore loop

theorem Ends.stopsSafely {i : StartInputs K} {failure : Option StartStage}
    {out : GearsonicInference K × StartResult} (h : Ends i failure out) : out.1.StopsSafely := by
  cases h with
  | up performed hfail hout htracks => exact stopsSafely_of_tracks htracks
  | threw performed stage hfail hthrow hout htracks => exact stopsSafely_of_tracks htracks
  | rolledBack performed stage hfail hthrow hout hstop =>
    obtain ⟨s, htracks, heq⟩ := hstop
    rw [heq]
    exact stopsSafely_stop htracks _

theorem Ends.contract_iff {i : StartInputs K} {out : GearsonicInference K × StartResult}
    (h : Ends i (firstFailure i) out) :
    Contract i out ↔ ∀ stage, firstFailure i = some stage → throwsAt i stage = false := by
  cases h with
  | up performed hfail hout htracks =>
    constructor
    · intro _ stage hstage
      rw [hfail] at hstage
      cases hstage
    · intro _
      refine ⟨fun hne => absurd hfail hne, ?_, ?_⟩
      · rw [hout]
        nofun
      · rw [hout]
        nofun
  | threw performed stage hfail hthrow hout htracks =>
    refine ⟨fun h => absurd hout h.caught, fun h => ?_⟩
    have hfalse := h stage hfail
    rw [hthrow] at hfalse
    cases hfalse
  | rolledBack performed stage hfail hthrow hout hstop =>
    obtain ⟨s, htracks, heq⟩ := hstop
    constructor
    · intro _ stage' hstage'
      rw [hfail] at hstage'
      cases hstage'
      exact hthrow
    · intro _
      refine ⟨fun _ => hout, ?_, fun _ => ?_⟩
      · rw [hout]
        nofun
      · rw [heq]
        exact stop_allStopped htracks _

/-- The stages in front of the guarded ones. -/
theorem start_cases (i : StartInputs K) :
    (∃ stage, (stage = .configLoad ∨ stage = .vrReader) ∧ firstFailure i = some stage ∧
        start i {} = ({ consoleOpen := i.consoleOpens }, .returned false)) ∨
      (Ends i (firstFailure i) (start i {}) ∧ firstFailure i ≠ some .configLoad ∧
        firstFailure i ≠ some .vrReader) := by
  unfold firstFailure start startStages
  cases hload : i.configLoads with
  | false =>
    refine Or.inl ⟨.configLoad, Or.inl rfl, ?_, ?_⟩
    · simp [passes, hload]
    · simp [performAll, perform, goOn, returnFalse, hload]
  | true =>
    cases hvr : i.vrReader with
    | false =>
      refine Or.inl ⟨.vrReader, Or.inr rfl, ?_, ?_⟩
      · simp [passes, hload, hvr]
      · simp [performAll, perform, goOn, returnFalse, hload, hvr]
    | true =>
      have hup : ({ consoleOpen := i.consoleOpens, vrStarted := true :
          GearsonicInference K }.record [.vrReader, .inputHandler, .teleopTracker]).Tracks
            [.vrReader] := by
        refine (Tracks.down i.consoleOpens).up (by simp)
          [.vrReader, .inputHandler, .teleopTracker] (by simp) ?_ rfl ?_
        · simp [stageOf]
        · intro m
          cases m <;> simp [flag, record]
      have hfind : ([StartStage.consoleTee, .configLoad, .vrReader] ++ guardedStages).find?
          (fun stage => !passes i stage) = guardedStages.find? fun stage => !passes i stage := by
        have hconsole : passes i .consoleTee = true := rfl
        simp [hconsole, show passes i .configLoad = true from hload,
          show passes i .vrReader = true from hvr]
      have hperform : performAll i {} ([.consoleTee, .configLoad, .vrReader] ++ guardedStages) =
          performAll i ({ consoleOpen := i.consoleOpens, vrStarted := true :
            GearsonicInference K }.record [.vrReader, .inputHandler, .teleopTracker])
              guardedStages := by
        simp [performAll, perform, goOn, hload, hvr]
      have hnot : ∀ stage, guardedStages.find? (fun stage => !passes i stage) = some stage →
          stage ∈ guardedStages := fun stage h => List.mem_of_find?_eq_some h
      rw [hfind, hperform]
      refine Or.inr ⟨?_, fun h => ?_, fun h => ?_⟩
      · refine performAll_guarded hup (List.Subset.refl _) (by decide) ?_
        intro stage hstage hperformed
        rw [List.mem_singleton.mp hperformed] at hstage
        exact absurd hstage (by decide)
      · exact absurd (hnot _ h) (by decide)
      · exact absurd (hnot _ h) (by decide)

/-- A call of `start` on a system that is down meets its contract, and `stop` is safe after
it, exactly when the first stage that fails is no read of the configuration, and is neither
the configuration file nor the VR reader unless the console mirror could not be opened. -/
theorem start_rollback_iff (i : StartInputs K) :
    (Contract i (start i {}) ∧ (start i {}).1.StopsSafely) ↔
      ∀ stage, firstFailure i = some stage → throwsAt i stage = false ∧
        (stage = .configLoad ∨ stage = .vrReader → i.consoleOpens = false) := by
  rcases start_cases i with ⟨stage, hfront, hfail, hstart⟩ | ⟨hends, hload, hvr⟩
  · rw [hfail, hstart]
    constructor
    · rintro ⟨⟨-, -, hdown⟩, -⟩ stage' hstage'
      cases hstage'
      refine ⟨?_, fun _ => (hdown rfl).console⟩
      rcases hfront with rfl | rfl <;> rfl
    · intro h
      refine ⟨⟨fun _ => rfl, nofun, fun _ => ⟨?_, (h stage rfl).2 hfront, ?_⟩⟩,
        stopsSafely_of_tracks (.down _)⟩
      · intro m
        cases m <;> rfl
      · intro m
        exact ⟨rfl, Nat.zero_le _⟩
  · constructor
    · rintro ⟨hcontract, -⟩ stage hstage
      refine ⟨hends.contract_iff.mp hcontract stage hstage, ?_⟩
      rintro (rfl | rfl)
      · exact absurd hstage hload
      · exact absurd hstage hvr
    · intro h
      exact ⟨hends.contract_iff.mpr fun stage hstage => (h stage hstage).1, hends.stopsSafely⟩

/-! ## Two failures that are not rolled back -/

/-- Everything comes up. -/
def goodStart : StartInputs ℚ where
  config :=
    { unitree := some (0, "lo"), motorHealth := some (), recordEnabled := some true
      plannerModel := some "planner", hand := some {}, trace := some (true, "trace")
      control := some ("encoder", "decoder") }
  consoleOpens := true
  configLoads := true
  vrReader := true
  stateReader _ _ := true
  handStateReader := true
  vlaReceiver := true
  navReceiver := true
  recordCommander := true
  stateArrives := true
  planner _ := true
  commandWriter := true
  handWriter _ := true
  tokenPublisher := true
  stateTrace _ := true
  controller _ _ := true
  loopPublished := []

/-- Without the headset service the console mirror stays open; without the encoder's path in
the configuration the exception leaves `start` with the command writer running. -/
theorem start_not_rolled_back :
    (start { goodStart with vrReader := false } {}).2 = .returned false ∧
      (start { goodStart with vrReader := false } {}).1.consoleOpen = true ∧
      (start { goodStart with config := { goodStart.config with control := none } } {}).2 =
        .threw ∧
      (start { goodStart with config := { goodStart.config with control := none } }
        {}).1.writerStarted = true :=
  ⟨rfl, rfl, rfl, rfl⟩

end GearsonicInference

end Gearsonic
