import Gearsonic.Teleop.Session

/-!
# One firing for each press

The B gesture calibrates or turns teleop off, the A gesture turns full-body on or off, and each is
latched until its button is released. The latch is also cleared by an iteration that finds the
gesture gated: by a VLA session, by the recovery, or by the other flavor. A button that is still
down after that counts up and fires again.

`GestureWatch` runs the tracker beside the arbiter, with a record of the press of each button.

* `PressRecord.Fits`: what the record says of the detector; kept by every evaluation of a gesture.
* `once_per_press_iff`: no press fires twice, exactly in the runs where no press that was gated
  after a whole second is then held for a whole second again.
-/

namespace Gearsonic

/-- The press of a button that is held alone, iteration after iteration. -/
structure PressRecord where
  /-- The iterations of the press since it began or was last gated. -/
  openTicks : Nat := 0
  /-- The gesture has fired in this press. -/
  fired : Bool := false
  /-- A hold was completed in this press. -/
  completed : Bool := false
  /-- The gesture was gated after that. -/
  regated : Bool := false
deriving DecidableEq

namespace PressRecord

/-- The iteration completes the hold. -/
def Completes (p : PressRecord) (held gated : Bool) (threshold : Nat) : Prop :=
  held = true ∧ gated = false ∧ p.openTicks + 1 = threshold

instance (p : PressRecord) (held gated : Bool) (threshold : Nat) :
    Decidable (p.Completes held gated threshold) :=
  inferInstanceAs (Decidable (_ ∧ _ ∧ _))

/-- An iteration of the tracker: the press goes on or is over. A completed hold counts if there is
something that it `toggles`. -/
def observe (p : PressRecord) (held gated toggles : Bool) (threshold : Nat) (fires : Bool) :
    PressRecord :=
  if held then
    { openTicks := if gated then 0 else p.openTicks + 1
      fired := p.fired || fires
      completed := p.completed || (decide (p.Completes held gated threshold) && toggles)
      regated := p.regated || (gated && p.completed) }
  else {}

/-- One evaluation of a gated detector: gating clears it. -/
def gatedTick (h : HoldTrigger) (held gated : Bool) (threshold : Nat) : HoldTrigger × Bool :=
  if gated then ({}, false) else h.tick held threshold

/-- The detector counts the open iterations. A press that has completed a hold has fired, and is
latched unless it was gated since. -/
structure Fits (p : PressRecord) (h : HoldTrigger) (threshold : Nat) : Prop where
  detector : h = .afterRun p.openTicks threshold
  latched : p.completed = true → threshold ≤ p.openTicks ∨ p.regated = true
  completed : p.regated = true → p.completed = true
  fired : p.fired = p.completed

variable {p : PressRecord} {h : HoldTrigger} {held gated toggles fires : Bool}
  {threshold : Nat}

theorem Fits.start (hpos : 0 < threshold) : Fits {} {} threshold :=
  ⟨(HoldTrigger.afterRun_zero hpos).symm, nofun, nofun, rfl⟩

/-- The detector fires where the press completes the hold. -/
theorem Fits.tick_iff (hp : p.Fits h threshold) :
    (gatedTick h held gated threshold).2 = true ↔ p.Completes held gated threshold := by
  unfold gatedTick Completes
  rw [hp.detector]
  cases gated with
  | true => simp
  | false =>
    cases held with
    | false => simp
    | true =>
      rw [if_neg Bool.false_ne_true, HoldTrigger.tick_afterRun]
      simp

/-- An evaluation that fires where the hold is completed and toggles something. -/
theorem Fits.observe (hp : p.Fits h threshold) (hpos : 0 < threshold)
    (hfires : fires = true ↔ p.Completes held gated threshold ∧ toggles = true) :
    (p.observe held gated toggles threshold fires).Fits (gatedTick h held gated threshold).1
      threshold := by
  have hzero := HoldTrigger.afterRun_zero hpos
  have hsame : fires = (decide (p.Completes held gated threshold) && toggles) := by
    rw [Bool.eq_iff_iff, hfires, Bool.and_eq_true, decide_eq_true_iff]
  unfold PressRecord.observe gatedTick
  cases held with
  | false =>
    have hclear : (if gated = true then (({}, false) : HoldTrigger × Bool)
        else h.tick false threshold).1 = {} := by
      cases gated <;> rfl
    rw [hclear]
    exact .start hpos
  | true =>
    rw [if_pos rfl]
    cases gated with
    | true =>
      have hno : decide (p.Completes true true threshold) = false :=
        decide_eq_false fun hcompletes => absurd hcompletes.2.1 nofun
      rw [hno, Bool.false_and] at hsame ⊢
      refine ⟨hzero.symm, fun hcompleted => Or.inr ?_, fun hregated => ?_, ?_⟩
      · simpa using Or.inr hcompleted
      · rcases Bool.or_eq_true_iff.mp hregated with hbefore | hnow
        · simp [hp.completed hbefore]
        · simpa using hnow
      · rw [hsame]
        simpa using hp.fired
    | false =>
      refine ⟨?_, fun hcompleted => ?_, fun hregated => ?_, ?_⟩
      · simp only [Bool.false_eq_true, if_false]
        rw [hp.detector, HoldTrigger.tick_afterRun]
      · simp only [Bool.false_eq_true, if_false] at hcompleted ⊢
        rcases Bool.or_eq_true_iff.mp hcompleted with hbefore | hnow
        · rcases hp.latched hbefore with hopen | hgated
          · exact Or.inl (Nat.le_succ_of_le hopen)
          · exact Or.inr (by rw [hgated]; rfl)
        · have hcompletes := of_decide_eq_true (Bool.and_eq_true_iff.mp hnow).1
          exact Or.inl hcompletes.2.2.ge
      · simp only [Bool.false_and, Bool.or_false] at hregated
        rw [hp.completed hregated]
        rfl
      · dsimp only
        rw [hp.fired, ← hsame]

/-- A press that completes the hold has fired before exactly if it was gated since. -/
theorem Fits.fired_iff (hp : p.Fits h threshold) (hcompletes : p.Completes held gated threshold) :
    p.fired = false ↔ p.regated = false := by
  rw [hp.fired]
  constructor
  · intro hcompleted
    apply Bool.eq_false_of_not_eq_true
    intro hregated
    rw [hp.completed hregated] at hcompleted
    cases hcompleted
  · intro hregated
    apply Bool.eq_false_of_not_eq_true
    intro hcompleted
    have hcount := hcompletes.2.2
    rcases hp.latched hcompleted with hopen | hgated
    · omega
    · rw [hregated] at hgated
      cases hgated

end PressRecord

/-! ## The two gestures -/

namespace TeleopTracker

variable {κ : Kernels}

/-- B is ignored: in a session, and while full-body is engaged. -/
def calibrationGated (t : TeleopTracker κ) (arbMode : Mode) : Bool :=
  arbMode.inSession || t.fullbodyEngaged

/-- A is ignored: in a session, and while the upper flavor is engaged. -/
def fullbodyGated (t : TeleopTracker κ) (arbMode : Mode) : Bool :=
  arbMode.inSession || t.upperCalibrated

def holdsB (ctrl : Option FaceButtons) : Bool := (ctrl.map FaceButtons.onlyB).getD false
def holdsA (ctrl : Option FaceButtons) : Bool := (ctrl.map FaceButtons.onlyA).getD false

/-- What the B gesture does when it fires: teleop off, or a capture requested. -/
def toggleCalibration (t : TeleopTracker κ) : TeleopTracker κ :=
  if t.upperCalibrated then t.dropCalibration else t.requestCalibration

/-- The B gesture fires. -/
def calibrationFires (t : TeleopTracker κ) (arbMode : Mode) (ctrl : Option FaceButtons) : Bool :=
  !t.calibrationGated arbMode && (t.calibGesture.tick (holdsB ctrl) kCalibHoldTicks).2

/-- There is something for the A gesture to toggle: full-body is on, or can be turned on. -/
def togglesFullbody (t : TeleopTracker κ) (idle present : Bool) : Bool :=
  t.fullbodyEngaged || (idle && present)

/-- The A gesture turns full-body on or off. -/
def fullbodyFires (t : TeleopTracker κ) (arbMode : Mode) (ctrl : Option FaceButtons)
    (idle present : Bool) : Bool :=
  (t.checkFullbodyGesture arbMode ctrl idle present).fullbodyEngaged != t.fullbodyEngaged

variable {t : TeleopTracker κ} {m : Mode} {ctrl : Option FaceButtons} {idle present : Bool}

/-- `check_calibration_gesture` is the gated detector, then the toggle where it fires. -/
theorem checkCalibrationGesture_eq : t.checkCalibrationGesture m ctrl =
    let g := (PressRecord.gatedTick t.calibGesture (holdsB ctrl) (t.calibrationGated m)
      kCalibHoldTicks).1
    if t.calibrationFires m ctrl then { t with calibGesture := g }.toggleCalibration
    else { t with calibGesture := g } := by
  unfold checkCalibrationGesture calibrationFires calibrationGated PressRecord.gatedTick holdsB
    toggleCalibration
  cases m.inSession || t.fullbodyEngaged <;> simp

theorem checkCalibrationGesture_detector : (t.checkCalibrationGesture m ctrl).calibGesture =
    (PressRecord.gatedTick t.calibGesture (holdsB ctrl) (t.calibrationGated m)
      kCalibHoldTicks).1 := by
  rw [checkCalibrationGesture_eq]
  unfold toggleCalibration
  dsimp only
  split_ifs <;> rfl

theorem calibrationFires_iff : t.calibrationFires m ctrl = true ↔
    (PressRecord.gatedTick t.calibGesture (holdsB ctrl) (t.calibrationGated m)
      kCalibHoldTicks).2 = true := by
  unfold calibrationFires PressRecord.gatedTick
  cases t.calibrationGated m <;> simp

theorem checkFullbodyGesture_detector :
    (t.checkFullbodyGesture m ctrl idle present).fbGesture =
      (PressRecord.gatedTick t.fbGesture (holdsA ctrl) (t.fullbodyGated m)
        kCalibHoldTicks).1 := by
  unfold checkFullbodyGesture fullbodyGated PressRecord.gatedTick holdsA
  cases m.inSession || t.upperCalibrated with
  | true => rfl
  | false =>
    simp only [Bool.false_eq_true, if_false]
    split_ifs <;> rfl

/-- Full-body changes where the detector fires, off or with its two conditions on. -/
theorem fullbodyFires_iff : t.fullbodyFires m ctrl idle present = true ↔
    (PressRecord.gatedTick t.fbGesture (holdsA ctrl) (t.fullbodyGated m)
        kCalibHoldTicks).2 = true ∧ t.togglesFullbody idle present = true := by
  unfold fullbodyFires checkFullbodyGesture fullbodyGated PressRecord.gatedTick holdsA
    togglesFullbody
  cases m.inSession || t.upperCalibrated with
  | true => simp
  | false =>
    simp only [Bool.false_eq_true, if_false]
    cases (t.fbGesture.tick ((ctrl.map FaceButtons.onlyA).getD false) kCalibHoldTicks).2 <;>
      cases hf : t.fullbodyEngaged <;> cases idle <;> cases present <;>
      simp [disengageFullbody]

end TeleopTracker

/-! ## The run -/

/-- The session beside a record of the press of either button. -/
structure GestureWatch (κ : Kernels) where
  session : TeleopSession κ := {}
  b : PressRecord := {}
  a : PressRecord := {}

namespace GestureWatch

open TeleopTracker TeleopSession Transition

variable {κ : Kernels}

/-- The press records after a step of the session. -/
def observe (w : GestureWatch κ) (next : TeleopSession κ) : TeleopSession.Act κ → GestureWatch κ
  | .calibrationGesture ctrl =>
    match w.session.point with
    | .calibGesture m =>
      { w with
        session := next
        b := w.b.observe (holdsB ctrl) (w.session.tracker.calibrationGated m) true kCalibHoldTicks
          (w.session.tracker.calibrationFires m ctrl) }
    | _ => { w with session := next }
  | .fullbodyGesture ctrl idle present =>
    match w.session.point with
    | .fbGesture m =>
      { w with
        session := next
        a := w.a.observe (holdsA ctrl) (w.session.tracker.fullbodyGated m)
          (w.session.tracker.togglesFullbody idle present) kCalibHoldTicks
          (w.session.tracker.fullbodyFires m ctrl idle present) }
    | _ => { w with session := next }
  | _ => { w with session := next }

def step (w : GestureWatch κ) (a : TeleopSession.Act κ) : Option (GestureWatch κ) :=
  (w.session.step a).map fun next => w.observe next a

/-- The step is a B gesture that fires. -/
def bFires (w : GestureWatch κ) : TeleopSession.Act κ → Bool
  | .calibrationGesture ctrl =>
    match w.session.point with
    | .calibGesture m => w.session.tracker.calibrationFires m ctrl
    | _ => false
  | _ => false

/-- The step is an A gesture that turns full-body on or off. -/
def aFires (w : GestureWatch κ) : TeleopSession.Act κ → Bool
  | .fullbodyGesture ctrl idle present =>
    match w.session.point with
    | .fbGesture m => w.session.tracker.fullbodyFires m ctrl idle present
    | _ => false
  | _ => false

/-- A gesture that fires has not fired in this press before. -/
def OncePerPress (w : GestureWatch κ) (a : TeleopSession.Act κ) : Prop :=
  (w.bFires a = true → w.b.fired = false) ∧ (w.aFires a = true → w.a.fired = false)

instance (w : GestureWatch κ) (a : TeleopSession.Act κ) : Decidable (w.OncePerPress a) :=
  inferInstanceAs (Decidable (_ ∧ _))

/-- The step completes the hold of B, with the gesture open since 50 iterations. -/
def CompletesB (w : GestureWatch κ) : TeleopSession.Act κ → Prop
  | .calibrationGesture ctrl => ∃ m, w.session.point = .calibGesture m ∧
    w.b.Completes (holdsB ctrl) (w.session.tracker.calibrationGated m) kCalibHoldTicks
  | _ => False

/-- The step completes the hold of A, and there is something to toggle. -/
def CompletesA (w : GestureWatch κ) : TeleopSession.Act κ → Prop
  | .fullbodyGesture ctrl idle present => ∃ m, w.session.point = .fbGesture m ∧
    w.a.Completes (holdsA ctrl) (w.session.tracker.fullbodyGated m) kCalibHoldTicks ∧
      w.session.tracker.togglesFullbody idle present = true
  | _ => False

/-- No press that was gated after a completed hold completes it again. -/
def NotRegated (w : GestureWatch κ) (a : TeleopSession.Act κ) : Prop :=
  (w.CompletesB a → w.b.regated = false) ∧ (w.CompletesA a → w.a.regated = false)

/-- Either record says what its detector holds. -/
structure Fits (w : GestureWatch κ) : Prop where
  b : w.b.Fits w.session.tracker.calibGesture kCalibHoldTicks
  a : w.a.Fits w.session.tracker.fbGesture kCalibHoldTicks

theorem Fits.start : Fits ({} : GestureWatch κ) :=
  ⟨.start (by decide), .start (by decide)⟩

variable {w w' : GestureWatch κ}

/-- What leaves both detectors alone leaves the records alone. -/
theorem Fits.frame (h : w.Fits) (hb : w'.b = w.b) (ha : w'.a = w.a)
    (hcalib : w'.session.tracker.calibGesture = w.session.tracker.calibGesture)
    (hfb : w'.session.tracker.fbGesture = w.session.tracker.fbGesture) : w'.Fits := by
  refine ⟨?_, ?_⟩
  · rw [hb, hcalib]
    exact h.b
  · rw [ha, hfb]
    exact h.a

theorem Fits.step {a : TeleopSession.Act κ} (h : w.Fits) (hstep : w.step a = some w') :
    w'.Fits := by
  obtain ⟨next, hnext, rfl⟩ := Option.map_eq_some_iff.mp hstep
  cases fires_of_step hnext with
  | consumeReset _ =>
    obtain ⟨-, hcalib, hfb⟩ := consumeReset_frame w.session.tracker
    exact h.frame rfl rfl hcalib hfb
  | readCalibMode _ => exact h.frame rfl rfl rfl rfl
  | calibrationGesture m ctrl hp =>
    obtain ⟨-, -, -, hfb⟩ := checkCalibrationGesture_frame w.session.tracker m ctrl
    have hfires : w.session.tracker.calibrationFires m ctrl = true ↔
        w.b.Completes (holdsB ctrl) (w.session.tracker.calibrationGated m) kCalibHoldTicks ∧
          true = true := by
      rw [calibrationFires_iff, h.b.tick_iff]
      exact (and_iff_left rfl).symm
    have hb := h.b.observe (by decide) hfires
    rw [← checkCalibrationGesture_detector] at hb
    simp only [GestureWatch.observe, hp]
    refine ⟨hb, ?_⟩
    dsimp only
    rw [hfb]
    exact h.a
  | readFbMode _ => exact h.frame rfl rfl rfl rfl
  | fullbodyGesture m ctrl idle present hp =>
    obtain ⟨-, -, -, -, hcalib⟩ := checkFullbodyGesture_frame w.session.tracker m ctrl idle present
    have hfires : w.session.tracker.fullbodyFires m ctrl idle present = true ↔
        w.a.Completes (holdsA ctrl) (w.session.tracker.fullbodyGated m) kCalibHoldTicks ∧
          w.session.tracker.togglesFullbody idle present = true := by
      rw [fullbodyFires_iff, h.a.tick_iff]
    have ha := h.a.observe (by decide) hfires
    rw [← checkFullbodyGesture_detector] at ha
    simp only [GestureWatch.observe, hp]
    refine ⟨?_, ha⟩
    dsimp only
    rw [hcalib]
    exact h.b
  | bodySample sample ref _ =>
    obtain ⟨-, -, -, hcalib, hfb⟩ := bodySection_frame w.session.tracker sample ref
    exact h.frame rfl rfl hcalib hfb
  | fullbodyTick sample ageMs t0 _ =>
    obtain ⟨-, -, -, -, hcalib, hfb⟩ := fullbodySection_frame w.session.tracker sample ageMs t0
    exact h.frame rfl rfl hcalib hfb
  | updateArbiter _ _ _ _ => exact h.frame rfl rfl rfl rfl
  | resetCalibration _ => exact h.frame rfl rfl rfl rfl

theorem Fits.bFires_iff (h : w.Fits) (a : TeleopSession.Act κ) :
    w.bFires a = true ↔ w.CompletesB a := by
  cases a with
  | calibrationGesture ctrl =>
    unfold bFires CompletesB
    cases hp : w.session.point with
    | calibGesture m =>
      simp only [LoopPoint.calibGesture.injEq, exists_eq_left']
      rw [calibrationFires_iff, h.b.tick_iff]
    | _ => simp
  | _ => simp [bFires, CompletesB]

theorem Fits.aFires_iff (h : w.Fits) (a : TeleopSession.Act κ) :
    w.aFires a = true ↔ w.CompletesA a := by
  cases a with
  | fullbodyGesture ctrl idle present =>
    unfold aFires CompletesA
    cases hp : w.session.point with
    | fbGesture m =>
      simp only [LoopPoint.fbGesture.injEq, exists_eq_left']
      rw [fullbodyFires_iff, h.a.tick_iff]
    | _ => simp
  | _ => simp [aFires, CompletesA]

theorem CompletesB.completes {a : TeleopSession.Act κ} (h : w.CompletesB a) :
    ∃ held gated, w.b.Completes held gated kCalibHoldTicks := by
  cases a with
  | calibrationGesture ctrl =>
    obtain ⟨m, -, hcompletes⟩ := h
    exact ⟨_, _, hcompletes⟩
  | _ => exact h.elim

theorem CompletesA.completes {a : TeleopSession.Act κ} (h : w.CompletesA a) :
    ∃ held gated, w.a.Completes held gated kCalibHoldTicks := by
  cases a with
  | fullbodyGesture ctrl idle present =>
    obtain ⟨m, -, hcompletes, -⟩ := h
    exact ⟨_, _, hcompletes⟩
  | _ => exact h.elim

theorem Fits.oncePerPress_iff (h : w.Fits) (a : TeleopSession.Act κ) :
    w.OncePerPress a ↔ w.NotRegated a := by
  unfold OncePerPress NotRegated
  rw [h.bFires_iff, h.aFires_iff]
  refine and_congr (imp_congr_right fun hcompletes => ?_) (imp_congr_right fun hcompletes => ?_)
  · obtain ⟨held, gated, hhold⟩ := hcompletes.completes
    exact h.b.fired_iff hhold
  · obtain ⟨held, gated, hhold⟩ := hcompletes.completes
    exact h.a.fired_iff hhold

/-- In every run of the tracker beside the arbiter, each press fires once exactly if none that was
gated after a completed hold completes it again. -/
theorem once_per_press_iff (κ : Kernels) (as : List (TeleopSession.Act κ)) :
    Along step OncePerPress {} as ↔ Along step NotRegated {} as :=
  along_congr Fits.start (fun _ a h => h.oncePerPress_iff a) (fun _ _ _ h _ hstep => h.step hstep)
    as

/-- B is held for a second, through a VLA session and a recovery, and for a second more. -/
def heldThroughSession : List (TeleopSession.Act .bare) :=
  (List.replicate 50 (iterationActs (some { btnB := true }) {} () 0 0)).flatten ++
    [.updateArbiter true true false, .resetCalibration] ++
    iterationActs (some { btnB := true }) {} () 0 0 ++
    [.updateArbiter false false false, .updateArbiter false false true] ++
    (List.replicate 50 (iterationActs (some { btnB := true }) {} () 0 0)).flatten

/-- The gesture fires a second time, though the button was never released. -/
theorem second_firing : ¬ Along step OncePerPress ({} : GestureWatch .bare) heldThroughSession := by
  decide +kernel

end GestureWatch

end Gearsonic
