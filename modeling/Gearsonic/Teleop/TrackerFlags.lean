import Gearsonic.Teleop.TeleopTracker

/-!
# What each part of the tracker's loop does to its flags

The engage state of the tracker is six values: the two flavor flags, the pending capture,
the pending reset and the presence of the two published targets. For each part of the loop
body this file says which of them it can change and how. Two facts carry the rest:

* the upper flavor is engaged by a captured body sample only (`bodySection_upper`), and
  only for a pending request;
* the full-body flavor is engaged by its gesture only, while the upper one is off
  (`checkFullbodyGesture_engages`).

`Exclusive` is the state the two flavors are meant to be in. Every part keeps it, the body
sample under the proviso that no capture is pending while full-body is engaged.
-/

namespace Gearsonic

namespace TeleopTracker

variable {κ : Kernels} {t : TeleopTracker κ}

theorem calibrated_eq_false : t.calibrated = false ↔
    t.upperCalibrated = false ∧ t.fullbodyEngaged = false := by
  simp [calibrated]

/-! ## The reset -/

theorem consumeReset_of_not (h : t.resetRequest = false) : t.consumeReset = t := by
  simp [consumeReset, h]

/-- What consuming a reset leaves alone. -/
theorem consumeReset_frame (t : TeleopTracker κ) :
    t.consumeReset.calibrateRequest = t.calibrateRequest ∧
      t.consumeReset.calibGesture = t.calibGesture ∧
      t.consumeReset.fbGesture = t.fbGesture := by
  cases h : t.resetRequest <;> cases hf : t.fullbodyEngaged <;>
    simp [consumeReset, h, hf, dropCalibration, disengageFullbody]

/-- A consumed reset leaves neither flavor engaged. -/
theorem consumeReset_calibrated (h : t.resetRequest = true) :
    t.consumeReset.calibrated = false := by
  cases hf : t.fullbodyEngaged <;>
    simp [consumeReset, calibrated, h, hf, dropCalibration, disengageFullbody]

/-- A reset that releases full-body takes its window back. -/
theorem consumeReset_window (hinv : t.smplWindowBuf.isSome = true → t.fullbodyEngaged = true)
    (h : t.consumeReset.smplWindowBuf.isSome = true) :
    t.consumeReset.fullbodyEngaged = true := by
  cases hr : t.resetRequest with
  | false =>
    rw [consumeReset_of_not hr] at h ⊢
    exact hinv h
  | true =>
    cases hf : t.fullbodyEngaged with
    | true => simp [consumeReset, hr, hf, dropCalibration, disengageFullbody] at h
    | false =>
      have hw : t.smplWindowBuf.isSome = true := by
        simpa [consumeReset, hr, hf, dropCalibration] using h
      rw [hinv hw] at hf
      cases hf

/-! ## The B gesture -/

theorem checkCalibrationGesture_of_blocked {m : Mode} (ctrl : Option FaceButtons)
    (h : m.inSession = true ∨ t.fullbodyEngaged = true) :
    t.checkCalibrationGesture m ctrl = { t with calibGesture := {} } := by
  rcases h with h | h <;> simp [checkCalibrationGesture, h]

/-- The B gesture either does nothing to the flags, drops the calibration, or asks for a
capture. -/
theorem checkCalibrationGesture_cases (t : TeleopTracker κ) (m : Mode)
    (ctrl : Option FaceButtons) :
    ∃ g : HoldTrigger,
      t.checkCalibrationGesture m ctrl = { t with calibGesture := g } ∨
      (m.inSession = false ∧ t.fullbodyEngaged = false ∧ t.upperCalibrated = true ∧
        t.checkCalibrationGesture m ctrl = { t with calibGesture := g }.dropCalibration) ∨
      (m.inSession = false ∧ t.fullbodyEngaged = false ∧ t.upperCalibrated = false ∧
        g.fired = true ∧ t.calibGesture.fired = false ∧
        t.checkCalibrationGesture m ctrl = { t with calibGesture := g }.requestCalibration) := by
  cases hm : m.inSession with
  | true => exact ⟨{}, Or.inl (checkCalibrationGesture_of_blocked ctrl (Or.inl hm))⟩
  | false =>
    cases hf : t.fullbodyEngaged with
    | true =>
      exact ⟨{}, Or.inl (by rw [checkCalibrationGesture_of_blocked ctrl (Or.inr hf), hf])⟩
    | false =>
      refine ⟨(t.calibGesture.tick ((ctrl.map FaceButtons.onlyB).getD false)
        kCalibHoldTicks).1, ?_⟩
      cases hfires : (t.calibGesture.tick ((ctrl.map FaceButtons.onlyB).getD false)
        kCalibHoldTicks).2 with
      | false =>
        left
        simp [checkCalibrationGesture, hm, hf, hfires]
      | true =>
        cases hu : t.upperCalibrated with
        | true =>
          right; left
          refine ⟨rfl, rfl, rfl, ?_⟩
          simp [checkCalibrationGesture, hm, hf, hfires, hu]
        | false =>
          right; right
          obtain ⟨-, hold, hnew⟩ := HoldTrigger.tick_snd hfires
          refine ⟨rfl, rfl, rfl, hnew, hold, ?_⟩
          simp [checkCalibrationGesture, hm, hf, hfires, hu]

/-- What the B gesture leaves alone. -/
theorem checkCalibrationGesture_frame (t : TeleopTracker κ) (m : Mode)
    (ctrl : Option FaceButtons) :
    (t.checkCalibrationGesture m ctrl).fullbodyEngaged = t.fullbodyEngaged ∧
      (t.checkCalibrationGesture m ctrl).smplWindowBuf = t.smplWindowBuf ∧
      (t.checkCalibrationGesture m ctrl).resetRequest = t.resetRequest ∧
      (t.checkCalibrationGesture m ctrl).fbGesture = t.fbGesture := by
  obtain ⟨g, h | ⟨-, -, -, h⟩ | ⟨-, -, -, -, -, h⟩⟩ := checkCalibrationGesture_cases t m ctrl <;>
    rw [h] <;> exact ⟨rfl, rfl, rfl, rfl⟩

/-- With the gesture open and the flavor engaged, the detector ticks, and firing releases. -/
theorem checkCalibrationGesture_release {m : Mode} (ctrl : Option FaceButtons)
    (hm : m.inSession = false) (hf : t.fullbodyEngaged = false)
    (hu : t.upperCalibrated = true) :
    (t.checkCalibrationGesture m ctrl).calibGesture =
        (t.calibGesture.tick ((ctrl.map FaceButtons.onlyB).getD false) kCalibHoldTicks).1 ∧
      ((t.calibGesture.tick ((ctrl.map FaceButtons.onlyB).getD false) kCalibHoldTicks).2 = true →
        (t.checkCalibrationGesture m ctrl).upperCalibrated = false) := by
  cases hfires : (t.calibGesture.tick ((ctrl.map FaceButtons.onlyB).getD false)
    kCalibHoldTicks).2 <;>
    simp [checkCalibrationGesture, hm, hf, hfires, hu, dropCalibration]

/-! ## The A gesture -/

theorem checkFullbodyGesture_of_blocked {m : Mode} (ctrl : Option FaceButtons)
    (idle present : Bool) (h : m.inSession = true ∨ t.upperCalibrated = true) :
    t.checkFullbodyGesture m ctrl idle present = { t with fbGesture := {} } := by
  rcases h with h | h <;> simp [checkFullbodyGesture, h]

/-- The A gesture either does nothing to the flags, releases full-body, or engages it
while the upper flavor is off. -/
theorem checkFullbodyGesture_cases (t : TeleopTracker κ) (m : Mode)
    (ctrl : Option FaceButtons) (idle present : Bool) :
    ∃ g : HoldTrigger,
      t.checkFullbodyGesture m ctrl idle present = { t with fbGesture := g } ∨
      (m.inSession = false ∧ t.upperCalibrated = false ∧ t.fullbodyEngaged = true ∧
        t.checkFullbodyGesture m ctrl idle present =
          { t with fbGesture := g }.disengageFullbody) ∨
      (m.inSession = false ∧ t.upperCalibrated = false ∧ t.fullbodyEngaged = false ∧
        t.checkFullbodyGesture m ctrl idle present =
          { t with
            fbGesture := g, histCount := 0, armReach := κ.noReach,
            fbResampler := κ.resetResampler, fullbodyEngaged := true }) := by
  cases hm : m.inSession with
  | true => exact ⟨{}, Or.inl (checkFullbodyGesture_of_blocked ctrl idle present (Or.inl hm))⟩
  | false =>
    cases hu : t.upperCalibrated with
    | true =>
      exact ⟨{}, Or.inl (by
        rw [checkFullbodyGesture_of_blocked ctrl idle present (Or.inr hu), hu])⟩
    | false =>
      refine ⟨(t.fbGesture.tick ((ctrl.map FaceButtons.onlyA).getD false)
        kCalibHoldTicks).1, ?_⟩
      cases hfires : (t.fbGesture.tick ((ctrl.map FaceButtons.onlyA).getD false)
        kCalibHoldTicks).2 with
      | false =>
        left
        simp [checkFullbodyGesture, hm, hu, hfires]
      | true =>
        cases hf : t.fullbodyEngaged with
        | true =>
          right; left
          refine ⟨rfl, rfl, rfl, ?_⟩
          simp [checkFullbodyGesture, hm, hu, hfires, hf]
        | false =>
          cases idle with
          | false => left; simp [checkFullbodyGesture, hm, hu, hfires, hf]
          | true =>
            cases present with
            | false => left; simp [checkFullbodyGesture, hm, hu, hfires, hf]
            | true =>
              right; right
              refine ⟨rfl, rfl, rfl, ?_⟩
              simp [checkFullbodyGesture, hm, hu, hfires, hf]

/-- What the A gesture leaves alone. -/
theorem checkFullbodyGesture_frame (t : TeleopTracker κ) (m : Mode)
    (ctrl : Option FaceButtons) (idle present : Bool) :
    (t.checkFullbodyGesture m ctrl idle present).upperCalibrated = t.upperCalibrated ∧
      (t.checkFullbodyGesture m ctrl idle present).vr3pointBuf = t.vr3pointBuf ∧
      (t.checkFullbodyGesture m ctrl idle present).calibrateRequest = t.calibrateRequest ∧
      (t.checkFullbodyGesture m ctrl idle present).resetRequest = t.resetRequest ∧
      (t.checkFullbodyGesture m ctrl idle present).calibGesture = t.calibGesture := by
  obtain ⟨g, h | ⟨-, -, -, h⟩ | ⟨-, -, -, h⟩⟩ :=
    checkFullbodyGesture_cases t m ctrl idle present <;>
    rw [h] <;> exact ⟨rfl, rfl, rfl, rfl, rfl⟩

/-- With the gesture open and the flavor engaged, the detector ticks, and firing releases. -/
theorem checkFullbodyGesture_release {m : Mode} (ctrl : Option FaceButtons)
    (idle present : Bool) (hm : m.inSession = false) (hu : t.upperCalibrated = false)
    (hf : t.fullbodyEngaged = true) :
    (t.checkFullbodyGesture m ctrl idle present).fbGesture =
        (t.fbGesture.tick ((ctrl.map FaceButtons.onlyA).getD false) kCalibHoldTicks).1 ∧
      ((t.fbGesture.tick ((ctrl.map FaceButtons.onlyA).getD false) kCalibHoldTicks).2 = true →
        (t.checkFullbodyGesture m ctrl idle present).fullbodyEngaged = false) := by
  cases hfires : (t.fbGesture.tick ((ctrl.map FaceButtons.onlyA).getD false)
    kCalibHoldTicks).2 <;>
    simp [checkFullbodyGesture, hm, hu, hfires, hf, disengageFullbody]

/-- The A gesture takes the window back where it releases. -/
theorem checkFullbodyGesture_window {m : Mode} {ctrl : Option FaceButtons} {idle present : Bool}
    (hinv : t.smplWindowBuf.isSome = true → t.fullbodyEngaged = true)
    (h : (t.checkFullbodyGesture m ctrl idle present).smplWindowBuf.isSome = true) :
    (t.checkFullbodyGesture m ctrl idle present).fullbodyEngaged = true := by
  obtain ⟨g, h' | ⟨-, -, -, h'⟩ | ⟨-, -, -, h'⟩⟩ :=
    checkFullbodyGesture_cases t m ctrl idle present <;> rw [h'] at h ⊢
  · exact hinv h
  · cases h

/-! ## The body sample -/

/-- What a body sample leaves alone. -/
theorem bodySection_frame (t : TeleopTracker κ) (body : TimestampedData κ.BodyPose)
    (ref : κ.WristReference) :
    (t.bodySection body ref).fullbodyEngaged = t.fullbodyEngaged ∧
      (t.bodySection body ref).smplWindowBuf = t.smplWindowBuf ∧
      (t.bodySection body ref).resetRequest = t.resetRequest ∧
      (t.bodySection body ref).calibGesture = t.calibGesture ∧
      (t.bodySection body ref).fbGesture = t.fbGesture := by
  unfold bodySection
  split
  · exact ⟨rfl, rfl, rfl, rfl, rfl⟩
  · split
    · unfold process captureCalibration ingestFullbodySample
      dsimp only
      split_ifs <;> exact ⟨rfl, rfl, rfl, rfl, rfl⟩
    · exact ⟨rfl, rfl, rfl, rfl, rfl⟩

/-- Without a pending capture a body sample changes neither flag. -/
theorem bodySection_of_no_request (body : TimestampedData κ.BodyPose)
    (ref : κ.WristReference) (h : t.calibrateRequest = false) :
    (t.bodySection body ref).upperCalibrated = t.upperCalibrated ∧
      (t.bodySection body ref).calibrateRequest = false := by
  unfold bodySection
  split
  · exact ⟨rfl, h⟩
  · split
    · unfold process ingestFullbodySample
      simp only [h, Bool.false_eq_true, if_false]
      split_ifs <;> exact ⟨rfl, rfl⟩
    · exact ⟨rfl, h⟩

/-- The upper flavor becomes engaged by a new body sample, for a pending capture. -/
theorem bodySection_upper {body : TimestampedData κ.BodyPose} {ref : κ.WristReference}
    (h : (t.bodySection body ref).upperCalibrated = true) :
    t.upperCalibrated = true ∨
      (t.calibrateRequest = true ∧ body.data.isSome = true ∧
        body.timestamp ≠ t.lastBodyTime) := by
  cases hr : t.calibrateRequest with
  | false => exact Or.inl ((bodySection_of_no_request body ref hr).1 ▸ h)
  | true =>
    unfold bodySection at h
    split at h
    · exact Or.inl h
    · rename_i pose hpose
      split at h
      · rename_i hnew
        exact Or.inr ⟨rfl, by simp [hpose], hnew⟩
      · exact Or.inl h

theorem bodySection_vr3 {body : TimestampedData κ.BodyPose} {ref : κ.WristReference}
    (hinv : t.vr3pointBuf.isSome = true → t.upperCalibrated = true)
    (h : (t.bodySection body ref).vr3pointBuf.isSome = true) :
    (t.bodySection body ref).upperCalibrated = true := by
  unfold bodySection at h ⊢
  split at h
  · cases h
  · split at h
    · cases hr : t.calibrateRequest <;> cases hu : t.upperCalibrated <;>
        cases hf : t.fullbodyEngaged <;>
        simp_all [process, captureCalibration, ingestFullbodySample]
    · simp_all

/-! ## The full-body tick -/

/-- What the full-body tick leaves alone. -/
theorem fullbodySection_frame (t : TeleopTracker κ) (body : TimestampedData κ.BodyPose)
    (ageMs : ℚ) (t0 : TimePoint) :
    (t.fullbodySection body ageMs t0).upperCalibrated = t.upperCalibrated ∧
      (t.fullbodySection body ageMs t0).vr3pointBuf = t.vr3pointBuf ∧
      (t.fullbodySection body ageMs t0).calibrateRequest = t.calibrateRequest ∧
      (t.fullbodySection body ageMs t0).resetRequest = t.resetRequest ∧
      (t.fullbodySection body ageMs t0).calibGesture = t.calibGesture ∧
      (t.fullbodySection body ageMs t0).fbGesture = t.fbGesture := by
  unfold fullbodySection
  split
  · split
    · exact ⟨rfl, rfl, rfl, rfl, rfl, rfl⟩
    · split
      · exact ⟨rfl, rfl, rfl, rfl, rfl, rfl⟩
      · dsimp only
        split <;> unfold processFullbody <;> split <;>
          exact ⟨rfl, rfl, rfl, rfl, rfl, rfl⟩
  · exact ⟨rfl, rfl, rfl, rfl, rfl, rfl⟩

/-- The full-body tick can only release the flavor. -/
theorem fullbodySection_engaged {body : TimestampedData κ.BodyPose} {ageMs : ℚ}
    {t0 : TimePoint} (h : (t.fullbodySection body ageMs t0).fullbodyEngaged = true) :
    t.fullbodyEngaged = true := by
  unfold fullbodySection at h
  split at h
  · assumption
  · exact h

/-- The window is published by an engaged tick only, and a release clears it. -/
theorem fullbodySection_window {body : TimestampedData κ.BodyPose} {ageMs : ℚ}
    {t0 : TimePoint} (hinv : t.smplWindowBuf.isSome = true → t.fullbodyEngaged = true)
    (h : (t.fullbodySection body ageMs t0).smplWindowBuf.isSome = true) :
    (t.fullbodySection body ageMs t0).fullbodyEngaged = true := by
  unfold fullbodySection at h ⊢
  cases hf : t.fullbodyEngaged with
  | false =>
    simp only [hf, Bool.false_eq_true, if_false] at h
    exact absurd (hinv h) (by simp [hf])
  | true =>
    simp only [hf, if_true] at h ⊢
    split at h
    · cases h
    · split at h
      · cases h
      · rename_i hage
        simp only [hage, if_false]
        split <;> unfold processFullbody <;> split <;> exact hf

/-! ## The two flavors are exclusive -/

/-- At most one flavor is engaged, and each target is published only by its own. -/
structure Exclusive (t : TeleopTracker κ) : Prop where
  flags : t.upperCalibrated = true → t.fullbodyEngaged = false
  vr3 : t.vr3pointBuf.isSome = true → t.upperCalibrated = true
  smpl : t.smplWindowBuf.isSome = true → t.fullbodyEngaged = true

namespace Exclusive

theorem fullbody (h : t.Exclusive) (hf : t.fullbodyEngaged = true) :
    t.upperCalibrated = false := by
  cases hu : t.upperCalibrated with
  | false => rfl
  | true => rw [h.flags hu] at hf; cases hf

/-- The two targets are never both there. -/
theorem targets (h : t.Exclusive) (hv : t.vr3pointBuf.isSome = true) :
    t.smplWindowBuf = none := by
  cases hw : t.smplWindowBuf with
  | none => rfl
  | some w =>
    have hf := h.smpl (by simp [hw])
    rw [h.flags (h.vr3 hv)] at hf
    cases hf

theorem consumeReset (h : t.Exclusive) : t.consumeReset.Exclusive := by
  cases hr : t.resetRequest with
  | false => rwa [consumeReset_of_not hr]
  | true =>
    refine ⟨?_, ?_, consumeReset_window h.smpl⟩ <;>
      cases hf : t.fullbodyEngaged <;>
      simp [TeleopTracker.consumeReset, hr, hf, dropCalibration, disengageFullbody]

theorem checkCalibrationGesture (h : t.Exclusive) (m : Mode) (ctrl : Option FaceButtons) :
    (t.checkCalibrationGesture m ctrl).Exclusive := by
  obtain ⟨g, h' | ⟨-, -, -, h'⟩ | ⟨-, -, -, -, -, h'⟩⟩ := checkCalibrationGesture_cases t m ctrl <;>
    rw [h']
  · exact ⟨h.flags, h.vr3, h.smpl⟩
  · exact ⟨nofun, nofun, h.smpl⟩
  · exact ⟨h.flags, h.vr3, h.smpl⟩

theorem checkFullbodyGesture (h : t.Exclusive) (m : Mode) (ctrl : Option FaceButtons)
    (idle present : Bool) : (t.checkFullbodyGesture m ctrl idle present).Exclusive := by
  have hwindow : (t.checkFullbodyGesture m ctrl idle present).smplWindowBuf.isSome = true →
      (t.checkFullbodyGesture m ctrl idle present).fullbodyEngaged = true :=
    checkFullbodyGesture_window h.smpl
  obtain ⟨g, h' | ⟨-, hu, -, h'⟩ | ⟨-, hu, -, h'⟩⟩ :=
    checkFullbodyGesture_cases t m ctrl idle present <;> rw [h'] at hwindow ⊢
  · exact ⟨h.flags, h.vr3, hwindow⟩
  · exact ⟨fun _ => rfl, h.vr3, hwindow⟩
  · exact ⟨fun hu' => absurd hu' (by simp [hu]), h.vr3, hwindow⟩

/-- A body sample keeps the flavors apart unless it completes a pending capture under an
engaged full-body flavor. -/
theorem bodySection (h : t.Exclusive) {body : TimestampedData κ.BodyPose}
    {ref : κ.WristReference}
    (hpend : body.data.isSome = true → body.timestamp ≠ t.lastBodyTime →
      t.calibrateRequest = true → t.fullbodyEngaged = false) :
    (t.bodySection body ref).Exclusive := by
  obtain ⟨hf, hw, -⟩ := bodySection_frame t body ref
  refine ⟨fun hu => ?_, bodySection_vr3 h.vr3, fun hs => ?_⟩
  · rw [hf]
    rcases bodySection_upper hu with hu | ⟨hr, hd, hn⟩
    · exact h.flags hu
    · exact hpend hd hn hr
  · rw [hf]
    exact h.smpl (hw ▸ hs)

theorem fullbodySection (h : t.Exclusive) (body : TimestampedData κ.BodyPose) (ageMs : ℚ)
    (t0 : TimePoint) : (t.fullbodySection body ageMs t0).Exclusive := by
  obtain ⟨hu, hv, -⟩ := fullbodySection_frame t body ageMs t0
  refine ⟨fun hu' => ?_, fun hv' => ?_, fullbodySection_window h.smpl⟩
  · cases hf : (t.fullbodySection body ageMs t0).fullbodyEngaged with
    | false => rfl
    | true =>
      have := h.flags (hu ▸ hu')
      rw [fullbodySection_engaged hf] at this
      cases this
  · rw [hu]
    exact h.vr3 (hv ▸ hv')

end Exclusive

end TeleopTracker

end Gearsonic
