import Gearsonic.Common.FloatMath
import Gearsonic.Motion.InputHandler
import Gearsonic.Planner.CommandRetry

/-!
# Standing still after the origin is re-entered

A reseed puts the planner's baseline back to the default command: IDLE, facing along
`(1, 0, 0)`, default height. The input handler's facing angle is kept on purpose while the
robot idles, and nothing resets it with the reseed, so the next idle command still carries
the old facing and the planner replans for it.

* `origin_quiescent_iff`: after a completed reseed and a `disarm()`, no neutral run of the
  two loops ever replans exactly when the kept facing is the zero yaw and the command left
  in the buffer is none or served by the baseline.
* `facing_kept_over_reseed`: a reachable handler that has turned replans at once.
-/

set_option linter.unusedSectionVars false

namespace Gearsonic

open Transition PlannerInference InputHandler

variable {K : Type} [Field K] [LinearOrder K] [CMath K]

/-- The operator's inputs are neutral and no navigation command is fresh. -/
def InputHandler.TickReads.Neutral (r : TickReads K) : Prop :=
  (∀ c, r.ctrl = some c → CMath.hypot c.leftAxis.1 c.leftAxis.2 < kDeadZone ∧
    ¬ kDeadZone < |c.rightAxis.1| ∧ c.toFaceButtons = {}) ∧
  ∀ nav, r.nav = some nav → kNavStaleMs ≤ r.navAgeMs

/-- The two loops at the origin: the handler publishes, the planner reads. -/
structure OriginState (K : Type) [Field K] where
  input : InputHandler K
  planner : PlannerInference K

namespace OriginState

/-- One pass of either loop. The planner's reads are completed by the movement buffer. -/
inductive Event (K : Type) [Field K] where
  | input (r : TickReads K)
  | planner (r : IterationReads K)

def Neutral : Event K → Prop
  | .input r => r.Neutral
  | .planner _ => True

def next (s : OriginState K) : Event K → OriginState K
  | .input r => { s with input := (s.input.tick r).1 }
  | .planner r =>
    { s with
      planner := s.planner.loopIteration ({ r with movement := s.input.movementBuf.getData }) }

/-- The iteration does not replan. -/
def Quiet (s : OriginState K) : Event K → Prop
  | .input _ => True
  | .planner _ => ∀ ms, s.input.movementBuf.getData = some ms → s.planner.attempts ms = false

/-! ## Neutral ticks -/

/-- A neutral tick of a disarmed handler publishes the idle command at the kept facing. -/
theorem tick_neutral (h : InputHandler K) (hmode : h.modeIndex = 0) {r : TickReads K}
    (hr : r.Neutral) :
    (h.tick r).1.modeIndex = 0 ∧ (h.tick r).1.facingAngle = h.facingAngle ∧
      (h.tick r).1.movementBuf.getData =
        some (idleCommand (facingVector h.facingAngle) (-1)) := by
  unfold tick
  cases hc : r.ctrl with
  | none => exact ⟨hmode, rfl, rfl⟩
  | some c =>
    obtain ⟨hstick, hyaw, hbuttons⟩ := hr.1 c hc
    have hstanding : h.modeIndex < kCrouchFirst := by
      rw [hmode]
      decide
    obtain ⟨hmode', hface, hheight⟩ := tickControls_neutral hstanding hbuttons hyaw
    have hbuild := buildCommand_neutral (h := (h.tickControls c).1) hstick hr.2
    simp only [hbuild]
    refine ⟨hmode'.trans hmode, hface, ?_⟩
    rw [hface, hheight, DataBuffer.getData_setData]

/-! ## Quiet runs -/

/-- A command that the baseline of a reseed serves. -/
def Served (ms : MovementState K) : Prop := differs ms {} = false

theorem served_idleCommand (face : Vec3 K) :
    Served (idleCommand face (-1)) ↔ face = ![1, 0, 0] := by
  rw [Served, differs_eq_false]
  constructor
  · intro h
    exact h.2.1
  · rintro rfl
    exact ⟨rfl, rfl, rfl, fun _ => ⟨rfl, rfl⟩⟩

theorem facingVector_eq (angle : K) :
    facingVector angle = ![1, 0, 0] ↔ CMath.cos angle = 1 ∧ CMath.sin angle = 0 := by
  constructor
  · intro h
    exact ⟨congrFun h 0, congrFun h 1⟩
  · rintro ⟨hcos, hsin⟩
    simp only [facingVector, hcos, hsin]

/-- With the default baseline, an iteration replans for exactly the commands that the
baseline does not serve: IDLE has no timer. -/
theorem attempts_eq_false_iff {p : PlannerInference K} (hlast : p.lastMovementState = {})
    (ms : MovementState K) : p.attempts ms = false ↔ Served ms := by
  have hlast' : p.countPeriod.lastMovementState = {} := hlast
  rw [PlannerInference.attempts, needReplan_snd, hlast', Bool.or_eq_false_iff]
  constructor
  · exact fun h => h.1
  · intro h
    have hidle : ms.locomotionMode = 0 := (differs_eq_false.mp h).1
    refine ⟨h, ?_⟩
    simp [moving, hidle, isStaticMotionMode, LocomotionMode.staticModes, LocomotionMode.toInt]

/-- A planner that has been reseeded: nothing is requested any more and the baseline is the
default command. -/
structure Reseeded (p : PlannerInference K) : Prop where
  initialized : p.initialized = true
  answered : p.reinitRequested = p.reinitDone
  last : p.lastMovementState = {}

/-- The quiet state: the handler faces along the zero yaw and holds no mode, the buffer is
empty or holds a command that the baseline serves. -/
structure Still (s : OriginState K) : Prop where
  mode : s.input.modeIndex = 0
  face : facingVector s.input.facingAngle = ![1, 0, 0]
  buf : ∀ ms, s.input.movementBuf.getData = some ms → Served ms
  planner : Reseeded s.planner

/-- An iteration that finds nothing to replan leaves a reseeded planner reseeded. -/
theorem Reseeded.loopIteration {p : PlannerInference K} (h : Reseeded p)
    {i : IterationReads K} (hquiet : ∀ ms, i.movement = some ms → p.attempts ms = false) :
    Reseeded (p.loopIteration i) := by
  have hpoll : p.pollReinit = p := by
    simp [pollReinit, reseedDue, h.answered]
  simp only [PlannerInference.loopIteration, hpoll, h.initialized, Bool.not_true,
    Bool.false_eq_true, if_false]
  cases hms : i.movement with
  | none => exact ⟨h.initialized, h.answered, h.last⟩
  | some ms =>
    have hneed : (p.countPeriod.needReplan ms).2 = false := hquiet ms hms
    obtain ⟨hinit, hreq, hdone, -⟩ := p.countPeriod.needReplan_handshake ms
    simp only [hneed, Bool.false_eq_true, if_false]
    exact ⟨hinit.trans h.initialized, hreq.trans (h.answered.trans hdone.symm),
      (needReplan_last _ _).trans h.last⟩

theorem Still.quiet {s : OriginState K} (h : Still s) (e : Event K) : s.Quiet e := by
  cases e with
  | input r => trivial
  | planner r => exact fun ms hms => (attempts_eq_false_iff h.planner.last ms).mpr (h.buf ms hms)

/-- The step lemma: neutral events keep the quiet state. -/
theorem Still.next {s : OriginState K} (h : Still s) {e : Event K} (he : Neutral e) :
    Still (s.next e) := by
  cases e with
  | input r =>
    obtain ⟨hmode, hface, hbuf⟩ := tick_neutral s.input h.mode he
    refine ⟨hmode, ?_, fun ms hms => ?_, h.planner⟩
    · rw [OriginState.next, hface]
      exact h.face
    · have hms' : some (idleCommand (facingVector s.input.facingAngle) (-1)) = some ms :=
        hbuf.symm.trans hms
      cases hms'
      exact (served_idleCommand _).mpr h.face
  | planner r =>
    exact ⟨h.mode, h.face, h.buf, h.planner.loopIteration fun ms hms => h.quiet (.planner r) ms hms⟩

/-- The two loops as a reseed leaves them: the planner's iteration that initialized, and the
handler after the `disarm()`. -/
def afterReseed (h : InputHandler K) (p : PlannerInference K) (i : IterationReads K) :
    OriginState K :=
  { input := h.disarm, planner := p.loopIteration i }

theorem reseeded_of_initialized {p : PlannerInference K} {i : IterationReads K}
    (hinit : p.pollReinit.initialized = false)
    (hok : (p.pollReinit.initializeOnce i.robotState i.engine i.now).2 = true) :
    Reseeded (p.loopIteration i) := by
  cases hq : i.robotState with
  | none => rw [hq] at hok; cases hok
  | some q =>
    cases hrun : ((p.pollReinit.startInitialize q).runAndPublish i.engine i.now).2 with
    | false => rw [hq] at hok; simp [initializeOnce, hrun] at hok
    | true =>
      obtain ⟨-, hreq, -, -⟩ := runAndPublish_ok hrun
      have hreq' : p.pollReinit.reinitRequested = p.reinitRequested := by
        unfold pollReinit
        split <;> rfl
      have hstart := (p.pollReinit.startInitialize_handshake q).requested
      simp only [PlannerInference.loopIteration, hinit, initializeOnce, hq, hrun, Bool.not_false,
        if_true]
      exact ⟨rfl, hreq.trans (hstart.trans hreq'), rfl⟩

/-- The command left in the buffer is the first one the planner reads. -/
theorem served_of_quiet {s : OriginState K} (hp : Reseeded s.planner)
    (hquiet : ∀ es : List (Event K), (∀ e ∈ es, Neutral e) → Throughout Quiet next s es)
    {ms : MovementState K} (hms : s.input.movementBuf.getData = some ms) : Served ms := by
  have hrun := hquiet [.planner {}] (by simp [Neutral])
  exact (attempts_eq_false_iff hp.last ms).mp (hrun.1 ms hms)

/-- The safe stop of one tick without a controller carries the kept facing to the planner. -/
theorem facing_of_quiet {s : OriginState K} (hp : Reseeded s.planner)
    (hquiet : ∀ es : List (Event K), (∀ e ∈ es, Neutral e) → Throughout Quiet next s es) :
    facingVector s.input.facingAngle = ![1, 0, 0] := by
  have hrun := hquiet [.input {}, .planner {}] (by
    simp [Neutral, InputHandler.TickReads.Neutral])
  have hattempt := hrun.2.1 (idleCommand (facingVector s.input.facingAngle) (-1)) rfl
  exact (served_idleCommand _).mp ((attempts_eq_false_iff hp.last _).mp hattempt)

/-- After any handler history and any completed reseed, every neutral run of the two loops
is quiet exactly when the kept facing is the zero yaw and the command left in the buffer is
none or one that the baseline serves. -/
theorem origin_quiescent_iff (h : InputHandler K) (p : PlannerInference K)
    (i : IterationReads K) (hinit : p.pollReinit.initialized = false)
    (hok : (p.pollReinit.initializeOnce i.robotState i.engine i.now).2 = true) :
    (∀ es : List (Event K), (∀ e ∈ es, Neutral e) →
        Throughout Quiet next (afterReseed h p i) es) ↔
      (CMath.cos h.facingAngle = 1 ∧ CMath.sin h.facingAngle = 0) ∧
        ∀ ms, h.movementBuf.getData = some ms → Served ms := by
  have hp := reseeded_of_initialized hinit hok
  rw [← facingVector_eq]
  constructor
  · intro hquiet
    exact ⟨facing_of_quiet (s := afterReseed h p i) hp hquiet,
      fun ms hms => served_of_quiet (s := afterReseed h p i) hp hquiet hms⟩
  · rintro ⟨hface, hbuf⟩ es hes
    have hstill : Still (afterReseed h p i) := ⟨rfl, hface, hbuf, hp⟩
    exact throughout_of_forall (N := Neutral) hstill (fun _ hs e => hs.quiet e)
      (fun _ hs _ he => hs.next he) hes

/-- A handler that has never turned. -/
theorem origin_quiescent_start : ({} : InputHandler ℚ).facingAngle = 0 ∧
    ∀ es : List (Event ℚ), (∀ e ∈ es, Neutral e) → Throughout Quiet next
      (afterReseed ({} : InputHandler ℚ) {}
        { robotState := some fun _ => 0, engine := some standingOutput, now := 1 }) es := by
  have hok : ((({} : PlannerInference ℚ).pollReinit).initializeOnce (some fun _ => 0)
      (some standingOutput) 1).2 = true := by decide +kernel
  have hiff := origin_quiescent_iff ({} : InputHandler ℚ) {}
    { robotState := some fun _ => 0, engine := some standingOutput, now := 1 } rfl hok
  exact ⟨rfl, hiff.mpr ⟨⟨rfl, rfl⟩, nofun⟩⟩

/-! ## A kept facing -/

theorem standing_accepted : accepted (some (standingOutput : EngineOutput ℝ)) = true := by
  have hfloor : ⌊((2 : ℝ) / 30.0 * 50.0)⌋ = 3 := by
    rw [Int.floor_eq_iff]
    norm_num
  have hcount : (standingOutput : EngineOutput ℝ).numPredFrames = 2 := rfl
  have hlen : CMath.floor (((2 : Int) : ℝ) / 30.0 * 50.0) = 3 := by
    have hcast : ((2 : Int) : ℝ) = 2 := by norm_num
    rw [hcast]
    exact hfloor
  simp only [accepted, Option.bind_some, resample30HzTo50Hz, hcount, hlen,
    kMaxPlannerFrames, MotionSequence50Hz.kCapacity]
  rfl

/-- One tick with the right stick pushed over. -/
def turnTick : TickReads ℝ :=
  { ctrl := some { leftAxis := (0, 0), rightAxis := (1, 0), leftTrigger := 0, rightTrigger := 0,
                   leftGrip := 0, rightGrip := 0 } }

theorem turnTick_facing :
    (({} : InputHandler ℝ).tick turnTick).1.facingAngle = -(1.5 * 1 * 0.002) := by
  have hturned : (kDeadZone : ℝ) < |1| := by
    norm_num [kDeadZone]
  have hneutral : CMath.hypot (0 : ℝ) 0 < kDeadZone := by
    norm_num [kDeadZone]
  have hcontrols : ∀ h : InputHandler ℝ,
      (h.tickFacing 1).facingAngle = h.facingAngle - 1.5 * 1 * 0.002 := by
    intro h
    simp only [tickFacing, hturned, if_true, kFacingRate, kLoopDt]
  have hheight : ∀ h : InputHandler ℝ, h.tickHeight.facingAngle = h.facingAngle := by
    intro h
    unfold tickHeight
    split <;> rfl
  simp only [tick, turnTick, buildCommand, hneutral, if_true, tickControls, hcontrols, hheight]
  norm_num [tickEstop, tickEscape, tickTaps, tickModeSteps, FaceButtons.nFace]

/-- A handler that has turned for one tick keeps the facing over the reseed, and a neutral
run replans for it. -/
theorem facing_kept_over_reseed :
    ¬ ∀ es : List (Event ℝ), (∀ e ∈ es, Neutral e) → Throughout Quiet next
      (afterReseed (({} : InputHandler ℝ).tick turnTick).1 {}
        { robotState := some fun _ => 0, engine := some standingOutput, now := 1 }) es := by
  intro hquiet
  have hok : ((({} : PlannerInference ℝ).pollReinit).initializeOnce (some fun _ => 0)
      (some standingOutput) 1).2 = true := by
    have hrun := runAndPublish_snd (({} : PlannerInference ℝ).pollReinit.startInitialize fun _ => 0)
      (some standingOutput) 1
    rw [standing_accepted] at hrun
    simp [initializeOnce, hrun]
  have hp := reseeded_of_initialized (p := ({} : PlannerInference ℝ))
    (i := { robotState := some fun _ => 0, engine := some standingOutput, now := 1 }) rfl hok
  have hface := facing_of_quiet (s := afterReseed (({} : InputHandler ℝ).tick turnTick).1 {}
    { robotState := some fun _ => 0, engine := some standingOutput, now := 1 }) hp hquiet
  have hcos := (facingVector_eq _).mp hface |>.1
  have hangle : (afterReseed (({} : InputHandler ℝ).tick turnTick).1 {}
      { robotState := some fun _ => 0, engine := some standingOutput,
        now := 1 }).input.facingAngle = -(1.5 * 1 * 0.002) := turnTick_facing
  rw [hangle, cmath_cos] at hcos
  have hpi := Real.two_le_pi
  have hzero := (Real.cos_eq_one_iff_of_lt_of_lt (by linarith) (by linarith)).mp hcos
  norm_num at hzero

end OriginState

end Gearsonic
