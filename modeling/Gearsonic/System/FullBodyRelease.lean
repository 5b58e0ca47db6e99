import Gearsonic.Control.ArbiterFlow
import Gearsonic.Motion.InputHandler
import Gearsonic.System.BlendTimeline
import Gearsonic.Teleop.Session

/-!
# The playback after full-body teleop

While the operator's body drives the robot nobody plays the planner's motion, but the
planner goes on planning for the selected mode and the controller goes on blending its plans
into the playback. Locomotion is disarmed on the two edges of the body target only, so a
mode selected in between is planned and blended, and the encoder resumes on it.

`FullBodyLoops` is the four loops that this takes: the input handler selects modes and
publishes commands, the tracker engages and releases, and `PlaybackLoops` is the planner and
the controller. The last two members are history: which frames of the playback a plan for
another mode than IDLE is in, and whether the plan in the buffer is one. Both count plans
published since the last engagement.

* `mode_shared`, `armed_length`: the tracker sees the controller's arbiter, and the history of
  the frames has one entry for each frame of the playback.
* `ReleaseInv`: the body target is published by an engaged tracker only, and no frame is
  armed while it is there.
* `release_unarmed`: where no such plan is taken into the playback from the engagement up to
  the release, the encoder resumes on a playback that has no frame of one.
-/

set_option linter.unusedSectionVars false

namespace Gearsonic

variable {K : Type} [Field K] [LinearOrder K] [CMath K] {κ : Kernels}

namespace WholeBodyController

/-- The weight of a new plan in frame `f` of the playback it is blended into. -/
def blendWeight (gen : MotionSequence50Hz K) (cursor : Int) (f : Nat) : K :=
  clamp ((((f : Int) - max 0 (gen.genFrame - cursor) : Int) : K) / kBlendFrames) 0 1

/-- The frame of the old playback that is blended into frame `f`. -/
def blendSource (old : MotionSequence50Hz K) (cursor : Int) (f : Nat) : Int :=
  clamp (f + cursor) 0 (old.timesteps - 1)

theorem blendFrame_joints (old gen : MotionSequence50Hz K) (cursor : Int) (f : Nat) :
    (blendFrame old gen cursor f).joints = fun j =>
      (1.0 - blendWeight gen cursor f) * (old.frame (blendSource old cursor f)).joints j +
        blendWeight gen cursor f *
          (gen.frame (clamp (f + cursor - gen.genFrame) 0 (gen.timesteps - 1))).joints j :=
  rfl

/-- How many frames a blend has. -/
def blendCount (gen : MotionSequence50Hz K) (cursor : Int) : Nat :=
  (min (blendLength gen cursor) (MotionSequence50Hz.kCapacity : Int)).toNat

/-- `disarm()` was called between the two. -/
def disarms (c c' : WholeBodyController K) : Bool :=
  (c'.outputs.drop c.outputs.length).any fun
    | .disarm => true
    | _ => false

end WholeBodyController

open WholeBodyController

structure FullBodyLoops (K : Type) [Field K] (κ : Kernels) where
  loops : PlaybackLoops K := {}
  input : InputHandler K := {}
  teleop : TeleopSession κ := {}
  /-- The plan in the buffer was published since the last engagement, for another mode than
  IDLE. -/
  armedBuf : Bool := false
  /-- For each frame of the playback: such a plan is in it. -/
  armed : List Bool := []

namespace FullBodyLoops

abbrev tracker (s : FullBodyLoops K κ) : TeleopTracker κ := s.teleop.tracker

abbrev c (s : FullBodyLoops K κ) : WholeBodyController K := s.loops.c

inductive Act (K : Type) [Field K] (κ : Kernels) where
  | input (r : InputHandler.TickReads K)
  | tracker (a : TeleopSession.Act κ)
  | planner (a : PlannerThread.Act K)
  | controller (r : TickReads K)

def start (auto : Bool) : FullBodyLoops K κ := { loops := .start auto }

/-! ## The tracker's steps -/

/-- A step of the tracker's loop with the locomotion mode it reads now. The arbiter steps with
the controller; the call of `reset_calibration()` that may follow is a step here. -/
def trackerAct (s : FullBodyLoops K κ) : TeleopSession.Act κ → Option (TeleopSession.Act κ)
  | .updateArbiter _ _ _ => none
  | .fullbodyGesture ctrl _ present =>
    some (.fullbodyGesture ctrl (decide (s.input.modeIndex = LocomotionMode.idle.toInt)) present)
  | a => some a

/-- The history after a step of the tracker to `t`: an engagement starts it afresh. -/
def afterTracker (s : FullBodyLoops K κ) (t : TeleopSession κ) : FullBodyLoops K κ :=
  if t.tracker.fullbodyEngaged && !s.tracker.fullbodyEngaged then
    { s with teleop := t, armedBuf := false, armed := s.armed.map fun _ => false }
  else { s with teleop := t }

/-! ## The planner's steps -/

/-- A step of the planner with the command that the input handler shows it now. -/
def plannerAct (s : FullBodyLoops K κ) : PlannerThread.Act K → PlannerThread.Act K
  | .readCommand _ => .readCommand s.input.movementBuf.getData
  | a => a

def afterPlanner (s : FullBodyLoops K κ) (a : PlannerThread.Act K) (t : PlaybackLoops K) :
    FullBodyLoops K κ :=
  { s with
    loops := t
    armedBuf :=
      if s.loops.planner.publishes a then
        decide (s.loops.p.inputs.mode ≠ LocomotionMode.idle.toInt)
      else s.armedBuf }

/-! ## The controller's steps -/

/-- The controller's reads, with what the input handler and the tracker show it now. The
content of the targets is free. -/
def feed (s : FullBodyLoops K κ) (r : TickReads K) : TickReads K :=
  { r with
    estop := s.input.estop
    calibrated := s.tracker.calibrated
    vr3point := s.tracker.vr3pointBuf.map fun _ => r.vr3point.getD {}
    smpl := s.tracker.smplWindowBuf.map fun _ =>
      r.smpl.getD ⟨fun _ => ⟨fun _ _ => 0, ![1, 0, 0, 0], fun _ => 0⟩⟩ }

/-- The plan is in frame `f` of the blend, or an earlier one still is. -/
def blendArmed (s : FullBodyLoops K κ) (gen : MotionSequence50Hz K) (f : Nat) : Bool :=
  (s.armedBuf && decide (blendWeight gen s.c.cursor f ≠ 0)) ||
    (s.armed.getD (blendSource s.c.playbackMotion s.c.cursor f).toNat false &&
      decide (1.0 - blendWeight gen s.c.cursor f ≠ 0))

/-- The history of the frames after the plan in the buffer is taken. -/
def adoptArmed (s : FullBodyLoops K κ) : List Bool :=
  match s.loops.p.motion50hzBuf.data with
  | none => s.armed
  | some gen =>
    if s.c.playbackMotion.timesteps = 0 then List.replicate gen.timesteps s.armedBuf
    else (List.range (blendCount gen s.c.cursor)).map (s.blendArmed gen)

def advanceArmed (s : FullBodyLoops K κ) : List Bool :=
  match s.loops.controller.point with
  | .discarding | .leaving => []
  | .advancing => if s.loops.adopts then s.adoptArmed else s.armed
  | _ => s.armed

def stepController (s : FullBodyLoops K κ) (r : TickReads K) : FullBodyLoops K κ :=
  let loops := s.loops.stepController (s.feed r)
  { s with
    loops := loops
    input := if disarms s.c loops.c then s.input.disarm else s.input
    teleop :=
      if s.loops.controller.decides then s.teleop.arbitrate loops.c.arbiter.mode else s.teleop
    armed := s.advanceArmed }

def step (s : FullBodyLoops K κ) : Act K κ → Option (FullBodyLoops K κ)
  | .input r =>
    some { s with input := (s.input.tick { r with arbMode := s.c.arbiter.mode }).1 }
  | .tracker a => (s.trackerAct a).bind fun a => (s.teleop.step a).map s.afterTracker
  | .planner a =>
    (s.loops.step (.planner (s.plannerAct a))).map (s.afterPlanner (s.plannerAct a))
  | .controller r => if s.teleop.resetCall then none else some (s.stepController r)

/-- The controller's tick is about to run the encoder, and finds the body target gone that
its last one had. -/
def releases (s : FullBodyLoops K κ) : Bool :=
  s.loops.controller.onEncoderPath && s.c.lastSmplPresent && s.tracker.smplWindowBuf.isNone

/-- Full-body teleop is engaged, or the controller has not run the encoder since. -/
def bodyDriven (s : FullBodyLoops K κ) : Bool :=
  s.tracker.fullbodyEngaged || s.c.lastSmplPresent

/-- The plan in the buffer is for another mode than IDLE, and taking it puts it into some
frame of the playback. -/
def armsPlayback (s : FullBodyLoops K κ) : Bool :=
  s.armedBuf && s.loops.p.motion50hzBuf.data.any fun gen =>
    if s.c.playbackMotion.timesteps = 0 then decide (gen.timesteps ≠ 0)
    else (List.range (blendCount gen s.c.cursor)).any fun f =>
      decide (blendWeight gen s.c.cursor f ≠ 0)

/-- From the engagement up to the release no plan for another mode than IDLE, published
since the engagement, is taken into the playback. -/
def Unarmed (s : FullBodyLoops K κ) : Act K κ → Prop
  | .controller _ => s.loops.controller.point.advances = true → s.loops.adopts = true →
      s.bodyDriven = true → s.armsPlayback = false
  | _ => True

instance (s : FullBodyLoops K κ) : ∀ a, Decidable (s.Unarmed a)
  | .controller _ => inferInstanceAs (Decidable (_ → _))
  | .input _ | .tracker _ | .planner _ => .isTrue trivial

end FullBodyLoops

/-! ## The body target -/

/-- A step of the tracker's loop keeps the window behind the flag. -/
theorem TeleopSession.step_window {s t : TeleopSession κ} {a : TeleopSession.Act κ}
    (hinv : s.tracker.smplWindowBuf.isSome = true → s.tracker.fullbodyEngaged = true)
    (h : s.step a = some t) (hw : t.tracker.smplWindowBuf.isSome = true) :
    t.tracker.fullbodyEngaged = true := by
  cases TeleopSession.fires_of_step h with
  | consumeReset hp => exact TeleopTracker.consumeReset_window hinv hw
  | calibrationGesture m ctrl hp =>
    obtain ⟨hflag, hwindow, -⟩ := s.tracker.checkCalibrationGesture_frame m ctrl
    exact hflag.trans (hinv (hwindow ▸ hw))
  | fullbodyGesture m ctrl idle present hp =>
    exact TeleopTracker.checkFullbodyGesture_window hinv hw
  | bodySample sample ref hp =>
    obtain ⟨hflag, hwindow, -⟩ := s.tracker.bodySection_frame sample ref
    exact hflag.trans (hinv (hwindow ▸ hw))
  | fullbodyTick sample ageMs t0 hp => exact TeleopTracker.fullbodySection_window hinv hw
  | readCalibMode hp => exact hinv hw
  | readFbMode hp => exact hinv hw
  | updateArbiter fresh alive recoveryDone hc => exact hinv hw
  | resetCalibration hc => exact hinv hw

/-- Only the encoder path moves what the controller remembers of the body target. -/
theorem ControllerThread.Fires.lastSmplPresent {r : TickReads K} {s t : ControllerThread K}
    (h : ControllerThread.Fires r s t) :
    t.controller.lastSmplPresent = s.controller.lastSmplPresent ∨
      t.controller.lastSmplPresent = r.smpl.isSome := by
  cases h with
  | missing c hm =>
    obtain ⟨_, _, _, _, h⟩ := c.tickMissing_frame r.now
    exact Or.inl (h ▸ rfl)
  | other c hs =>
    obtain ⟨_, _, _, _, h⟩ := c.tickState_frame r hs
    exact Or.inl (h ▸ rfl)
  | leave c hl | decide c hl =>
    obtain ⟨_, _, h⟩ := c.decideOwner_frame r
    exact Or.inl (h ▸ rfl)
  | vla c hm =>
    obtain ⟨_, _, _, _, _, _, h⟩ := c.tickVla_frame r
    exact Or.inl (h ▸ rfl)
  | recover c hm =>
    obtain ⟨_, _, _, _, _, h⟩ := (c.selectToken none none).1.decodeAndPublish_frame r
      (c.selectToken none none).2
    exact Or.inl (h ▸ rfl)
  | reseed c token =>
    obtain ⟨_, _, _, _, _, h⟩ := (c.requestRecoveryReseed r.recoveryTicket).decodeAndPublish_frame
      r token
    exact Or.inl (h ▸ rfl)
  | encode c hm hne =>
    obtain ⟨_, _, _, _, _, _, _, h⟩ := c.tickEncoder_frame r
    exact Or.inr (h ▸ rfl)
  | advance c =>
    obtain ⟨_, _, _, _, _, h⟩ := c.advancePlayback_frame r.plan
    exact Or.inl (h ▸ rfl)
  | trace c =>
    obtain ⟨_, h⟩ := c.traceTick_frame r.traceEnabled
    exact Or.inl (h ▸ rfl)
  | _ => exact Or.inl rfl

namespace FullBodyLoops

variable {s t : FullBodyLoops K κ}

/-- What the releases keep: the body target is published by an engaged tracker only, and
while it drives the robot no frame of the playback is armed. -/
structure ReleaseInv (s : FullBodyLoops K κ) : Prop where
  window : s.tracker.smplWindowBuf.isSome = true → s.tracker.fullbodyEngaged = true
  unarmed : s.bodyDriven = true → true ∉ s.armed

theorem ReleaseInv.start (auto : Bool) :
    ReleaseInv (FullBodyLoops.start auto : FullBodyLoops K κ) :=
  ⟨nofun, nofun⟩

/-- A taken plan that arms no frame leaves an unarmed playback unarmed. -/
theorem not_mem_adoptArmed (hplan : s.armsPlayback = false) (harmed : true ∉ s.armed) :
    true ∉ s.adoptArmed := by
  unfold adoptArmed
  unfold armsPlayback at hplan
  cases hdata : s.loops.p.motion50hzBuf.data with
  | none => exact harmed
  | some gen =>
    rw [hdata, Option.any_some, Bool.and_eq_false_iff] at hplan
    dsimp only
    by_cases hempty : s.c.playbackMotion.timesteps = 0
    · rw [if_pos hempty] at hplan ⊢
      intro hmem
      obtain ⟨hpos, hbuf⟩ := List.mem_replicate.mp hmem
      rcases hplan with hno | hno
      · exact Bool.noConfusion (hno.symm.trans hbuf.symm)
      · exact hpos (not_not.mp (of_decide_eq_false hno))
    · rw [if_neg hempty] at hplan ⊢
      intro hmem
      obtain ⟨f, hf, hframe⟩ := List.mem_map.mp hmem
      have hold :
          s.armed.getD (blendSource s.c.playbackMotion s.c.cursor f).toNat false = false := by
        by_contra hne
        have htrue := eq_true_of_ne_false hne
        refine harmed ?_
        rw [List.getD_eq_getElem?_getD] at htrue
        cases hget : s.armed[(blendSource s.c.playbackMotion s.c.cursor f).toNat]? with
        | none => simp [hget] at htrue
        | some tag =>
          rw [hget] at htrue
          exact htrue ▸ List.mem_of_getElem? hget
      unfold blendArmed at hframe
      rw [hold, Bool.false_and, Bool.or_false, Bool.and_eq_true] at hframe
      rcases hplan with hno | hno
      · exact Bool.noConfusion (hno.symm.trans hframe.1)
      · have hzero := List.any_eq_false.mp hno f hf
        exact hzero hframe.2

/-- A taken plan that arms a frame arms the playback. -/
theorem mem_adoptArmed (hplan : s.armsPlayback = true) : true ∈ s.adoptArmed := by
  unfold armsPlayback at hplan
  rw [Bool.and_eq_true, Option.any_eq_true] at hplan
  obtain ⟨hbuf, gen, hdata, harms⟩ := hplan
  unfold adoptArmed
  rw [hdata]
  dsimp only
  by_cases hempty : s.c.playbackMotion.timesteps = 0
  · rw [if_pos hempty] at harms ⊢
    exact List.mem_replicate.mpr ⟨of_decide_eq_true harms, hbuf.symm⟩
  · rw [if_neg hempty, List.any_eq_true] at harms
    rw [if_neg hempty]
    obtain ⟨f, hf, hweight⟩ := harms
    refine List.mem_map.mpr ⟨f, hf, ?_⟩
    unfold blendArmed
    rw [hbuf, hweight]
    rfl

/-- An advance that adopts moves the history of the frames with the frames. -/
theorem advanceArmed_advancing (hpoint : s.loops.controller.point = .advancing)
    (hadopts : s.loops.adopts = true) : s.advanceArmed = s.adoptArmed := by
  unfold advanceArmed
  rw [hpoint]
  dsimp only
  rw [if_pos hadopts]

/-! ## The parts fit -/

/-- The tracker's gestures read the mode of the controller's arbiter. -/
theorem mode_shared {auto : Bool}
    (h : Transition.Reachable step Transition.Always
      (FullBodyLoops.start auto : FullBodyLoops K κ) s) : s.teleop.mode = s.c.arbiter.mode := by
  refine h.invariant (I := fun s => s.teleop.mode = s.c.arbiter.mode) rfl ?_
  intro s a t hmode _ hstep
  cases a with
  | input r =>
    cases hstep
    exact hmode
  | tracker a =>
    obtain ⟨b, hact, hb⟩ := Option.bind_eq_some_iff.mp hstep
    obtain ⟨u, hu, rfl⟩ := Option.map_eq_some_iff.mp hb
    have hkept : u.mode = s.teleop.mode := by
      cases TeleopSession.fires_of_step hu with
      | updateArbiter fresh alive recoveryDone hc => cases a <;> cases hact
      | _ => rfl
    unfold afterTracker
    split
    · exact hkept.trans hmode
    · exact hkept.trans hmode
  | planner a =>
    obtain ⟨u, hu, rfl⟩ := Option.map_eq_some_iff.mp hstep
    obtain ⟨v, -, -, rfl⟩ := PlaybackLoops.step_planner hu
    exact hmode
  | controller r =>
    unfold step at hstep
    dsimp only at hstep
    split at hstep
    · cases hstep
    cases hstep
    have hnext : (s.stepController r).c.arbiter.mode =
        if s.loops.controller.decides then _ else s.c.arbiter.mode :=
      ControllerThread.next_mode
    show (if s.loops.controller.decides then s.teleop.arbitrate _ else s.teleop).mode = _
    by_cases hdecides : s.loops.controller.decides = true
    · rw [if_pos hdecides]
      rfl
    · rw [if_neg hdecides] at hnext ⊢
      exact hmode.trans hnext.symm

theorem adoptArmed_length {gen : MotionSequence50Hz K}
    (hdata : s.loops.p.motion50hzBuf.data = some gen) :
    s.adoptArmed.length =
      (if s.c.playbackMotion.timesteps = 0 then gen
        else blendPlayback s.c.playbackMotion gen s.c.cursor).timesteps := by
  unfold adoptArmed
  rw [hdata]
  dsimp only
  split
  · exact List.length_replicate
  · unfold blendPlayback MotionSequence50Hz.timesteps blendCount
    rw [List.length_map, List.length_map]

theorem advanceArmed_length (hlen : s.armed.length = s.c.playbackMotion.timesteps)
    {r : TickReads K} {t' : ControllerThread K}
    (hf : Reenters (s.loops.feed r) s.loops.controller t') :
    s.advanceArmed.length = t'.controller.playbackMotion.timesteps := by
  unfold advanceArmed
  generalize hcur : s.loops.controller = cur at hf
  have hc : s.c = cur.controller := congrArg _ hcur
  rw [hc] at hlen
  cases hf with
  | quiet hkept hp hleaves hq =>
    rw [hkept.playback, ← hlen]
    rename_i p _
    cases p <;> first | rfl | cases hp
  | discard c => rfl
  | request c => exact hlen
  | acked c hw => exact hlen
  | leave c hw | decide c hw =>
    obtain ⟨hplay, -⟩ := decideOwner_entry c (s.loops.feed r)
    exact hlen.trans (congrArg _ hplay).symm
  | origin c => rfl
  | reseed c c' token hkept => exact hlen.trans (congrArg _ hkept.playback).symm
  | advance c =>
    dsimp only
    have hc : s.loops.c = c := hc
    by_cases hadopts : s.loops.adopts = true
    · cases hdata : s.loops.p.motion50hzBuf.data with
      | none => simp [PlaybackLoops.adopts, hdata] at hadopts
      | some gen =>
        have htaken := PlaybackLoops.advancePlayback_of_adopts hadopts hdata
        rw [if_pos hadopts, adoptArmed_length hdata, ← htaken, hc]
        rfl
    · have hkept := PlaybackLoops.advancePlayback_of_not_adopts (eq_false_of_ne_true hadopts)
      rw [hc] at hkept
      rw [if_neg hadopts, hlen]
      exact (congrArg MotionSequence50Hz.timesteps hkept).symm

/-- The history has one entry for each frame of the playback. -/
theorem armed_length {auto : Bool}
    (h : Transition.Reachable step Transition.Always
      (FullBodyLoops.start auto : FullBodyLoops K κ) s) :
    s.armed.length = s.c.playbackMotion.timesteps := by
  refine h.invariant (I := fun s => s.armed.length = s.c.playbackMotion.timesteps) rfl ?_
  intro s a t hlen _ hstep
  cases a with
  | input r =>
    cases hstep
    exact hlen
  | tracker a =>
    obtain ⟨b, -, hb⟩ := Option.bind_eq_some_iff.mp hstep
    obtain ⟨u, -, rfl⟩ := Option.map_eq_some_iff.mp hb
    unfold afterTracker
    split
    · exact (List.length_map _).trans hlen
    · exact hlen
  | planner a =>
    obtain ⟨u, hu, rfl⟩ := Option.map_eq_some_iff.mp hstep
    obtain ⟨v, -, -, rfl⟩ := PlaybackLoops.step_planner hu
    exact hlen
  | controller r =>
    unfold step at hstep
    dsimp only at hstep
    split at hstep
    · cases hstep
    cases hstep
    have hfires := ControllerThread.fires_next s.loops.controller (s.loops.feed (s.feed r))
    exact advanceArmed_length hlen hfires.reenters

/-! ## The steps -/

theorem ReleaseInv.of_tracker (h : ReleaseInv s) {a : TeleopSession.Act κ} {u : TeleopSession κ}
    (hstep : s.teleop.step a = some u) : ReleaseInv (s.afterTracker u) := by
  have hwindow : u.tracker.smplWindowBuf.isSome = true → u.tracker.fullbodyEngaged = true :=
    TeleopSession.step_window h.window hstep
  unfold afterTracker
  by_cases hengages : (u.tracker.fullbodyEngaged && !s.tracker.fullbodyEngaged) = true
  · rw [if_pos hengages]
    refine ⟨hwindow, fun _ hmem => ?_⟩
    obtain ⟨_, -, htag⟩ := List.mem_map.mp hmem
    cases htag
  · rw [if_neg hengages]
    refine ⟨hwindow, fun hdriven => h.unarmed ?_⟩
    have hdriven : (u.tracker.fullbodyEngaged || s.c.lastSmplPresent) = true := hdriven
    show (s.tracker.fullbodyEngaged || s.c.lastSmplPresent) = true
    cases hold : s.tracker.fullbodyEngaged with
    | true => rfl
    | false =>
      rw [hold, Bool.not_false, Bool.and_true] at hengages
      rw [eq_false_of_ne_true hengages] at hdriven
      exact hdriven

/-- The controller touches the tracker with its reset request only. -/
theorem stepController_tracker (s : FullBodyLoops K κ) (r : TickReads K) :
    (s.stepController r).tracker = s.tracker := by
  show (if s.loops.controller.decides then s.teleop.arbitrate _ else s.teleop).tracker = s.tracker
  split <;> rfl

theorem ReleaseInv.of_controller (h : ReleaseInv s) {r : TickReads K}
    (hC : s.Unarmed (.controller r)) : ReleaseInv (s.stepController r) := by
  have htracker := s.stepController_tracker r
  refine ⟨?_, fun hdriven => ?_⟩
  · rw [htracker]
    exact h.window
  -- the controller remembers what it did, or what it has read of the tracker
  have hold : s.bodyDriven = true := by
    have hfires := ControllerThread.fires_next s.loops.controller (s.loops.feed (s.feed r))
    have hlast : (s.stepController r).c.lastSmplPresent = s.c.lastSmplPresent ∨
        (s.stepController r).c.lastSmplPresent = (s.feed r).smpl.isSome := hfires.lastSmplPresent
    unfold bodyDriven at hdriven ⊢
    rw [htracker, Bool.or_eq_true] at hdriven
    rw [Bool.or_eq_true]
    rcases hdriven with hengaged | hpresent
    · exact Or.inl hengaged
    · rcases hlast with hsame | hread
      · exact Or.inr (hsame ▸ hpresent)
      · left
        apply h.window
        rw [hread] at hpresent
        simpa [feed] using hpresent
  show true ∉ s.advanceArmed
  cases hpoint : s.loops.controller.point with
  | advancing =>
    by_cases hadopts : s.loops.adopts = true
    · rw [advanceArmed_advancing hpoint hadopts]
      refine not_mem_adoptArmed (hC ?_ hadopts hold) (h.unarmed hold)
      rw [hpoint]
      rfl
    · unfold advanceArmed
      rw [hpoint]
      dsimp only
      rw [if_neg hadopts]
      exact h.unarmed hold
  | discarding | leaving =>
    unfold advanceArmed
    rw [hpoint]
    exact List.not_mem_nil
  | _ =>
    unfold advanceArmed
    rw [hpoint]
    exact h.unarmed hold

/-- Taking a plan that arms a frame, from the engagement up to the release. -/
theorem stepController_arms {r : TickReads K} (hpoint : s.loops.controller.point = .advancing)
    (hadopts : s.loops.adopts = true) (hdriven : s.bodyDriven = true)
    (harms : s.armsPlayback = true) :
    (s.stepController r).bodyDriven = true ∧ true ∈ (s.stepController r).armed := by
  have hnext : (s.stepController r).c = s.c.advancePlayback (s.loops.feed (s.feed r)).plan := by
    show (s.loops.controller.next _).controller = _
    unfold ControllerThread.next
    rw [hpoint]
  constructor
  · unfold bodyDriven
    obtain ⟨_, _, _, _, _, hframe⟩ := s.c.advancePlayback_frame (s.loops.feed (s.feed r)).plan
    rw [stepController_tracker, hnext, hframe]
    exact hdriven
  · show true ∈ s.advanceArmed
    rw [advanceArmed_advancing hpoint hadopts]
    exact mem_adoptArmed harms

/-- The step lemma. -/
theorem ReleaseInv.of_step (h : ReleaseInv s) {a : Act K κ} (hC : s.Unarmed a)
    (hstep : s.step a = some t) : ReleaseInv t := by
  cases a with
  | input r =>
    cases hstep
    exact ⟨h.window, h.unarmed⟩
  | tracker a =>
    obtain ⟨b, -, hb⟩ := Option.bind_eq_some_iff.mp hstep
    obtain ⟨u, hu, rfl⟩ := Option.map_eq_some_iff.mp hb
    exact h.of_tracker hu
  | planner a =>
    obtain ⟨u, hu, rfl⟩ := Option.map_eq_some_iff.mp hstep
    have hlast : u.c.lastSmplPresent = s.c.lastSmplPresent := by
      obtain ⟨v, -, -, rfl⟩ := PlaybackLoops.step_planner hu
      rfl
    refine ⟨h.window, fun hdriven => h.unarmed ?_⟩
    unfold bodyDriven at hdriven ⊢
    rw [← hlast]
    exact hdriven
  | controller r =>
    unfold step at hstep
    dsimp only at hstep
    split at hstep
    · cases hstep
    · cases hstep
      exact h.of_controller hC

/-- While no plan for another mode than IDLE is taken into the playback from the engagement
up to the release, a release finds no frame of one in the playback. A step that takes such a
plan leaves a frame of it there. -/
theorem release_unarmed {auto : Bool}
    (h : Transition.Reachable step Unarmed (FullBodyLoops.start auto : FullBodyLoops K κ) s) :
    (s.releases = true → true ∉ s.armed) ∧
      ∀ a t, s.step a = some t → ¬ s.Unarmed a → t.bodyDriven = true ∧ true ∈ t.armed := by
  have hinv : ReleaseInv s := h.invariant (.start auto) fun _ _ _ hs hC hstep =>
    hs.of_step hC hstep
  constructor
  · intro hrelease
    apply hinv.unarmed
    unfold releases at hrelease
    rw [Bool.and_eq_true, Bool.and_eq_true] at hrelease
    unfold bodyDriven
    rw [hrelease.1.2, Bool.or_true]
  · intro a t hstep hbreaks
    cases a with
    | input r => exact absurd trivial hbreaks
    | tracker a => exact absurd trivial hbreaks
    | planner a => exact absurd trivial hbreaks
    | controller r =>
      unfold Unarmed at hbreaks
      push Not at hbreaks
      obtain ⟨hpoint, hadopts, hdriven, harms⟩ := hbreaks
      unfold step at hstep
      dsimp only at hstep
      split at hstep
      · cases hstep
      cases hstep
      exact stepController_arms (ControllerPoint.advances_iff.mp hpoint) hadopts hdriven
        (eq_true_of_ne_false harms)

/-! ## A mode selected while the operator's body drives the robot -/

def ofLoops : PlaybackLoops.Act ℚ → Act ℚ Kernels.bare
  | .planner a => .planner a
  | .controller r => .controller r

/-- A pass of the tracker's loop, with A held or not and a body sample of this age. -/
def trackerPass (a : Bool) (ageMs : ℚ) : List (Act ℚ Kernels.bare) :=
  (TeleopSession.iterationActs (some { btnA := a }) ⟨some (), 1⟩ () ageMs 1).map .tracker

def controllerSteps (n : Nat) : List (Act ℚ Kernels.bare) :=
  List.replicate n (.controller PlaybackLoops.playingReads)

/-- A pass of the input handler, with Y held or not and these sticks. -/
def inputPass (y : Bool) (left right : ℚ × ℚ) : Act ℚ Kernels.bare :=
  .input
    { ctrl := some
        { btnY := y, leftAxis := left, rightAxis := right, leftTrigger := 0, rightTrigger := 0
          leftGrip := 0, rightGrip := 0 } }

/-- The first plan is adopted, A is held for a second, and the controller's next tick finds
the body target. -/
def engageRun : List (Act ℚ Kernels.bare) :=
  PlaybackLoops.adoptionRun.map ofLoops ++ (List.replicate 50 (trackerPass true 0)).flatten ++
    controllerSteps 8

/-- The planner plans for the command it is shown and the controller takes the plan; then the
body stream goes stale and the next tick finds the target gone. -/
def planAndRelease : List (Act ℚ Kernels.bare) :=
  (PlaybackLoops.replanStart 0).map ofLoops ++ [.planner (.publish (some standingOutput) 2)] ++
    controllerSteps 8 ++ trackerPass false 501 ++ controllerSteps 5

/-- The operator turns on the spot in IDLE. -/
def turningRun : List (Act ℚ Kernels.bare) :=
  engageRun ++ [inputPass false (0, 0) (1, 0)] ++ planAndRelease

/-- The operator taps Y to SLOW_WALK, with the stick forward. -/
def walkingRun : List (Act ℚ Kernels.bare) :=
  engageRun ++ List.replicate 15 (inputPass true (0, 1) (0, 0)) ++ planAndRelease

theorem release_unarmed_turning : ∃ s : FullBodyLoops ℚ Kernels.bare,
    Transition.run step (start true) turningRun = some s ∧ s.loops.adoptions = 2 ∧
      s.releases = true ∧ true ∉ s.armed := by
  have halong : Transition.Along step Unarmed (start true) turningRun := by decide +kernel
  have hend : (Transition.run step (start true) turningRun).any
      (fun s => s.releases && decide (s.loops.adoptions = 2)) = true := by decide +kernel
  obtain ⟨s, hs, hrelease⟩ := (Option.any_eq_true _ _).mp hend
  rw [Bool.and_eq_true, decide_eq_true_eq] at hrelease
  have hreach := Transition.reachable_of_along halong hs
  exact ⟨s, hs, hrelease.2, hrelease.1, (release_unarmed hreach).1 hrelease.1⟩

/-- The encoder resumes on a playback that the walk has been blended into. -/
theorem walk_armed_in_full_body : ∃ s : FullBodyLoops ℚ Kernels.bare,
    Transition.Reachable step Transition.Always (start true) s ∧ s.releases = true ∧
      true ∈ s.armed := by
  have hend : (Transition.run step (start true) walkingRun).any
      (fun s => s.releases && decide (true ∈ s.armed)) = true := by decide +kernel
  obtain ⟨s, hs, hrelease⟩ := Transition.reachable_of_run_any hend
  rw [Bool.and_eq_true, decide_eq_true_eq] at hrelease
  exact ⟨s, hs, hrelease.1, hrelease.2⟩

end FullBodyLoops

end Gearsonic
