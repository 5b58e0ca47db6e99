import Gearsonic.Numeric.LatestRing
import Gearsonic.Teleop.Session

/-!
# The full-body delay line

One resampled pose a tick goes into a ring of 16, and the window that the encoder reads is taken
from the ring: frame `f` lies `5 - f` ticks back. The ring is not cleared between engagements; its
count is, and its head starts over with it.

`DelayWatch` runs the tracker beside the arbiter, with the list of the poses that the current
engagement has sampled, the newest first. `referenceWindow` is the window over that list.

* `delayLine_of_step`: what a step does to the delay line.
* `delay_line_reference`: the published window is the reference window, after every run.
-/

namespace Gearsonic

/-- The delay line of the tracker. -/
structure DelayLine (α : Type) where
  history : Fin 16 → α
  histHead : Nat
  histCount : Nat
  window : Option (Fin 10 → α)
  engaged : Bool

/-- The window over the poses of an engagement, the newest first: frame `f` is the pose of
`max(0, 5 - f)` ticks ago, or the first one of the engagement. -/
def referenceWindow {α : Type} : List α → Option (Fin 10 → α)
  | [] => none
  | x :: xs => some fun f => (x :: xs)[5 - f.val]?.getD (xs.getLastD x)

namespace TeleopTracker

variable {κ : Kernels}

def delayLine (t : TeleopTracker κ) : DelayLine κ.SmplPose :=
  ⟨t.history, t.histHead, t.histCount, t.smplWindowBuf, t.fullbodyEngaged⟩

/-- How far behind the newest pose frame `f` is read. -/
def lookDepth (count : Nat) (f : Fin 10) : Int :=
  max 0 (min (kLookaheadTicks - f) ((count : Int) - 1))

/-- The pose that the full-body tick samples, if it does. -/
def tickSample (t : TeleopTracker κ) (body : TimestampedData κ.BodyPose) (ageMs : ℚ)
    (t0 : TimePoint) : Option κ.SmplPose :=
  if t.fullbodyEngaged then
    body.data.bind fun pose =>
      if kFullBodyStaleMs < ageMs then none
      else
        let t := if κ.count t.fbResampler = 0 then t.ingestFullbodySample pose body.timestamp
          else t
        κ.sample t.fbResampler t0
  else none

/-- The index of the history as it is computed there: `%` rounds towards zero. -/
def rawIndex (head : Nat) (depth : Int) : Int := ((head : Int) - depth + kHistory).tmod kHistory

/-- The head and every index that the window is read at lie in the history. -/
def HistoryInRange (t : TeleopTracker κ) : Prop :=
  t.histHead < kHistory ∧
    ∀ f : Fin 10, 0 ≤ rawIndex t.histHead (lookDepth t.histCount f) ∧
      rawIndex t.histHead (lookDepth t.histCount f) < kHistory ∧
      (historyIndex t.histHead (lookDepth t.histCount f) : Int) =
        rawIndex t.histHead (lookDepth t.histCount f)

end TeleopTracker

namespace DelayLine

local instance neZero_sixteen : NeZero 16 := ⟨by decide⟩

variable {α : Type}

def release (d : DelayLine α) : DelayLine α :=
  { d with histCount := 0, window := none, engaged := false }

def engage (d : DelayLine α) : DelayLine α := { d with histCount := 0, engaged := true }

/-- One grid pose into the ring, and the window over it. -/
def take (d : DelayLine α) (pose : α) : DelayLine α :=
  let head := if d.histCount = 0 then 0 else (d.histHead + 1) % TeleopTracker.kHistory
  let history := Function.update d.history (Fin.ofNat 16 head) pose
  let count := if d.histCount < TeleopTracker.kHistory then d.histCount + 1 else d.histCount
  { d with
    history := history, histHead := head, histCount := count
    window := some fun f =>
      history (TeleopTracker.historyIndex head (TeleopTracker.lookDepth count f)) }

/-- The delay line holds what the engagement has sampled. -/
structure Follows (d : DelayLine α) (sampled : List α) : Prop where
  ring : LatestRing.Holds d.history d.histHead d.histCount sampled
  window : d.window = referenceWindow sampled
  engaged : d.engaged = false → sampled = []

theorem Follows.release {d : DelayLine α} {sampled : List α} (h : d.Follows sampled) :
    d.release.Follows [] :=
  ⟨.empty d.history h.ring.head_lt, rfl, fun _ => rfl⟩

theorem Follows.engage {d : DelayLine α} (h : d.Follows []) : d.engage.Follows [] :=
  ⟨.empty d.history h.ring.head_lt, h.window, fun _ => rfl⟩

/-- The clamped depth is a number of slots back in the ring. -/
theorem historyIndex_lookDepth {head count : Nat} (hcount : 0 < count) (f : Fin 10) :
    TeleopTracker.historyIndex head (TeleopTracker.lookDepth count f) =
      LatestRing.slot 16 head (min (5 - f.val) (count - 1)) := by
  have hdepth : TeleopTracker.lookDepth count f = ((min (5 - f.val) (count - 1) : Nat) : Int) := by
    unfold TeleopTracker.lookDepth TeleopTracker.kLookaheadTicks
    omega
  rw [hdepth]
  refine Fin.ext ?_
  show (((head : Int) - ((min (5 - f.val) (count - 1) : Nat) : Int) + 16) % 16).toNat % 16 =
    (head + 16 - min (5 - f.val) (count - 1)) % 16
  omega

theorem Follows.take {d : DelayLine α} {sampled : List α} (h : d.Follows sampled)
    (hengaged : d.engaged = true) (pose : α) : (d.take pose).Follows (pose :: sampled) := by
  have hring : LatestRing.Holds (d.take pose).history (d.take pose).histHead
      (d.take pose).histCount (pose :: sampled) := by
    unfold DelayLine.take
    have hcount := h.ring.count_eq
    by_cases hzero : d.histCount = 0
    · have hnil : sampled = [] := by
        apply List.eq_nil_of_length_eq_zero
        omega
      simp only [hzero, if_true, hnil]
      exact .first d.history (by decide) pose
    · simp only [hzero, if_false]
      exact h.ring.next pose
  refine ⟨hring, ?_, fun hoff => ?_⟩
  · refine congrArg some (funext fun f => ?_)
    have hpos : 0 < (d.take pose).histCount := by
      rw [hring.count_eq, List.length_cons]
      omega
    have hf : 5 - f.val < 16 := by omega
    exact (congrArg _ (historyIndex_lookDepth hpos f)).trans (hring.back hf)
  · exact absurd (hengaged.symm.trans hoff) nofun

/-- A window in an engagement under way is the last one moved up by a frame, and a new one
behind. -/
theorem referenceWindow_next {sampled : List α} {pose : α} {frames next : Fin 10 → α}
    (hframes : referenceWindow sampled = some frames)
    (hnext : referenceWindow (pose :: sampled) = some next) (f : Fin 10) (hf : f.val < 5) :
    next f = frames ⟨f.val + 1, by omega⟩ := by
  cases sampled with
  | nil => cases hframes
  | cons x xs =>
    cases hframes
    cases hnext
    have hindex : 5 - f.val = (5 - (f.val + 1)) + 1 := by omega
    dsimp only
    rw [hindex, List.getElem?_cons_succ, List.getLastD_cons]

theorem referenceWindow_mem {sampled : List α} {frames : Fin 10 → α}
    (h : referenceWindow sampled = some frames) (f : Fin 10) : frames f ∈ sampled := by
  cases sampled with
  | nil => cases h
  | cons x xs =>
    cases h
    dsimp only
    cases hget : (x :: xs)[5 - f.val]? with
    | some y => exact List.mem_of_getElem? hget
    | none =>
      rw [Option.getD_none, List.getLastD_eq_getLast?]
      exact List.mem_of_getLast? List.getLast?_cons

end DelayLine

/-! ## The steps of the loop -/

namespace TeleopTracker

variable {κ : Kernels} {t : TeleopTracker κ}

theorem rawIndex_lookDepth {head : Nat} (hhead : head < 16) (count : Nat) (f : Fin 10) :
    0 ≤ rawIndex head (lookDepth count f) ∧ rawIndex head (lookDepth count f) < kHistory ∧
      (historyIndex head (lookDepth count f) : Int) = rawIndex head (lookDepth count f) := by
  have hlow : 0 ≤ lookDepth count f := le_max_left _ _
  have hhigh : lookDepth count f ≤ 5 := by
    unfold lookDepth kLookaheadTicks
    omega
  generalize lookDepth count f = depth at hlow hhigh
  have hraw : rawIndex head depth = ((head : Int) - depth + 16) % 16 :=
    Int.tmod_eq_emod_of_nonneg (by unfold kHistory; omega)
  have hindex : (historyIndex head depth).val =
      (((head : Int) - depth + 16) % 16).toNat % 16 := rfl
  rw [hraw, hindex]
  unfold kHistory
  omega

theorem consumeReset_delayLine (t : TeleopTracker κ) :
    t.consumeReset.delayLine = t.delayLine ∨ t.consumeReset.delayLine = t.delayLine.release := by
  unfold consumeReset
  split
  · dsimp only [dropCalibration]
    split
    · exact Or.inr rfl
    · exact Or.inl rfl
  · exact Or.inl rfl

theorem checkCalibrationGesture_delayLine (t : TeleopTracker κ) (m : Mode)
    (ctrl : Option FaceButtons) :
    (t.checkCalibrationGesture m ctrl).delayLine = t.delayLine := by
  obtain ⟨g, h | ⟨-, -, -, h⟩ | ⟨-, -, -, -, -, h⟩⟩ := checkCalibrationGesture_cases t m ctrl <;>
    rw [h] <;> rfl

theorem checkFullbodyGesture_delayLine (t : TeleopTracker κ) (m : Mode)
    (ctrl : Option FaceButtons) (idle present : Bool) :
    (t.checkFullbodyGesture m ctrl idle present).delayLine = t.delayLine ∨
      (t.checkFullbodyGesture m ctrl idle present).delayLine = t.delayLine.release ∨
      t.fullbodyEngaged = false ∧
        (t.checkFullbodyGesture m ctrl idle present).delayLine = t.delayLine.engage := by
  obtain ⟨g, h | ⟨-, -, -, h⟩ | ⟨-, -, hoff, h⟩⟩ :=
    checkFullbodyGesture_cases t m ctrl idle present <;> rw [h]
  · exact Or.inl rfl
  · exact Or.inr (Or.inl rfl)
  · exact Or.inr (Or.inr ⟨hoff, rfl⟩)

theorem bodySection_delayLine (t : TeleopTracker κ) (body : TimestampedData κ.BodyPose)
    (ref : κ.WristReference) : (t.bodySection body ref).delayLine = t.delayLine := by
  unfold bodySection
  split
  · rfl
  · split
    · unfold process captureCalibration ingestFullbodySample
      dsimp only
      split_ifs <;> rfl
    · rfl

theorem processFullbody_delayLine (t : TeleopTracker κ) (now : TimePoint) :
    (t.processFullbody now).delayLine =
      match κ.sample t.fbResampler now with
      | none => t.delayLine
      | some pose => t.delayLine.take pose := by
  unfold processFullbody
  cases κ.sample t.fbResampler now <;> rfl

/-- The full-body tick does nothing, releases the flavor, or takes the pose it samples. -/
theorem fullbodySection_delayLine (t : TeleopTracker κ) (body : TimestampedData κ.BodyPose)
    (ageMs : ℚ) (t0 : TimePoint) :
    t.tickSample body ageMs t0 = none ∧
        (t.fullbodySection body ageMs t0).delayLine = t.delayLine ∨
      t.tickSample body ageMs t0 = none ∧
        (t.fullbodySection body ageMs t0).delayLine = t.delayLine.release ∨
      ∃ pose, t.tickSample body ageMs t0 = some pose ∧ t.fullbodyEngaged = true ∧
        (t.fullbodySection body ageMs t0).delayLine = t.delayLine.take pose := by
  unfold fullbodySection tickSample
  by_cases hon : t.fullbodyEngaged = true
  · simp only [hon, if_true]
    cases hdata : body.data with
    | none => exact Or.inr (Or.inl ⟨rfl, rfl⟩)
    | some pose =>
      simp only [Option.bind_some]
      by_cases hold : kFullBodyStaleMs < ageMs
      · simp only [hold, if_true]
        exact Or.inr (Or.inl ⟨trivial, rfl⟩)
      · simp only [hold, if_false]
        have hsame : (if κ.count t.fbResampler = 0 then
            t.ingestFullbodySample pose body.timestamp else t).delayLine = t.delayLine := by
          split <;> rfl
        rw [processFullbody_delayLine, hsame]
        cases κ.sample (if κ.count t.fbResampler = 0 then
            t.ingestFullbodySample pose body.timestamp else t).fbResampler t0 with
        | none => exact Or.inl ⟨rfl, rfl⟩
        | some sampled => exact Or.inr (Or.inr ⟨sampled, rfl, trivial, rfl⟩)
  · rw [if_neg hon, if_neg hon]
    exact Or.inl ⟨rfl, rfl⟩

end TeleopTracker

namespace TeleopSession

open TeleopTracker

variable {κ : Kernels} {s next : TeleopSession κ} {a : Act κ}

/-- The pose that a step puts into the delay line. -/
def sample (s : TeleopSession κ) : Act κ → Option κ.SmplPose
  | .fullbodyTick ageMs t0 =>
    match s.point with
    | .fullbody body => s.tracker.tickSample body ageMs t0
    | _ => none
  | _ => none

/-- **What a step does to the delay line.** -/
theorem delayLine_of_step (h : s.step a = some next) :
    (s.sample a = none ∧ next.tracker.delayLine = s.tracker.delayLine) ∨
      (s.sample a = none ∧ next.tracker.delayLine = s.tracker.delayLine.release) ∨
      (s.sample a = none ∧ s.tracker.fullbodyEngaged = false ∧
        next.tracker.delayLine = s.tracker.delayLine.engage) ∨
      ∃ pose, s.sample a = some pose ∧ s.tracker.fullbodyEngaged = true ∧
        next.tracker.delayLine = s.tracker.delayLine.take pose := by
  cases fires_of_step h with
  | consumeReset _ =>
    obtain heq | heq := consumeReset_delayLine s.tracker
    · exact Or.inl ⟨rfl, heq⟩
    · exact Or.inr (Or.inl ⟨rfl, heq⟩)
  | readCalibMode _ => exact Or.inl ⟨rfl, rfl⟩
  | calibrationGesture m ctrl _ =>
    exact Or.inl ⟨rfl, checkCalibrationGesture_delayLine s.tracker m ctrl⟩
  | readFbMode _ => exact Or.inl ⟨rfl, rfl⟩
  | fullbodyGesture m ctrl idle present _ =>
    obtain heq | heq | ⟨hoff, heq⟩ :=
      checkFullbodyGesture_delayLine s.tracker m ctrl idle present
    · exact Or.inl ⟨rfl, heq⟩
    · exact Or.inr (Or.inl ⟨rfl, heq⟩)
    · exact Or.inr (Or.inr (Or.inl ⟨rfl, hoff, heq⟩))
  | bodySample body ref _ => exact Or.inl ⟨rfl, bodySection_delayLine s.tracker body ref⟩
  | fullbodyTick body ageMs t0 hp =>
    have hsample : s.sample (.fullbodyTick ageMs t0) = s.tracker.tickSample body ageMs t0 := by
      simp only [sample, hp]
    rw [hsample]
    obtain heq | heq | heq := fullbodySection_delayLine s.tracker body ageMs t0
    · exact Or.inl heq
    · exact Or.inr (Or.inl heq)
    · exact Or.inr (Or.inr (Or.inr heq))
  | updateArbiter _ _ _ _ => exact Or.inl ⟨rfl, rfl⟩
  | resetCalibration _ => exact Or.inl ⟨rfl, rfl⟩

end TeleopSession

/-! ## The run -/

/-- The session beside the poses that the current engagement has sampled, the newest first. -/
structure DelayWatch (κ : Kernels) where
  session : TeleopSession κ := {}
  sampled : List κ.SmplPose := []

namespace DelayWatch

open TeleopTracker Transition

variable {κ : Kernels} {w w' : DelayWatch κ} {a : TeleopSession.Act κ}

/-- One step. Where full-body is not engaged, or has just been, nothing is sampled yet. -/
def step (w : DelayWatch κ) (a : TeleopSession.Act κ) : Option (DelayWatch κ) :=
  (w.session.step a).map fun next =>
    { session := next
      sampled :=
        if w.session.tracker.fullbodyEngaged && next.tracker.fullbodyEngaged then
          (w.session.sample a).toList ++ w.sampled
        else [] }

def window (w : DelayWatch κ) : Option (Fin 10 → κ.SmplPose) := w.session.tracker.smplWindowBuf

def Follows (w : DelayWatch κ) : Prop := w.session.tracker.delayLine.Follows w.sampled

/-- A tick that samples a pose puts it on the list and publishes the window over it. -/
theorem step_sample (hstep : w.step a = some w') {pose : κ.SmplPose}
    (hsome : w.session.sample a = some pose) : w'.sampled = pose :: w.sampled := by
  obtain ⟨next, hnext, rfl⟩ := Option.map_eq_some_iff.mp hstep
  obtain ⟨hnone, -⟩ | ⟨hnone, -⟩ | ⟨hnone, -⟩ | ⟨pose', -, hon, heq⟩ :=
    TeleopSession.delayLine_of_step hnext
  · exact absurd (hsome.symm.trans hnone) nofun
  · exact absurd (hsome.symm.trans hnone) nofun
  · exact absurd (hsome.symm.trans hnone) nofun
  · have hstill : next.tracker.fullbodyEngaged = true :=
      (congrArg DelayLine.engaged heq).trans hon
    dsimp only
    rw [hon, hstill, hsome]
    rfl

theorem Follows.start : Follows ({} : DelayWatch κ) :=
  ⟨.empty _ (Nat.zero_lt_succ 15), rfl, fun _ => rfl⟩

theorem Follows.step (h : w.Follows) (hstep : w.step a = some w') : w'.Follows := by
  obtain ⟨next, hnext, rfl⟩ := Option.map_eq_some_iff.mp hstep
  unfold Follows at h ⊢
  obtain ⟨hnone, heq⟩ | ⟨-, heq⟩ | ⟨-, hoff, heq⟩ | ⟨pose, hsome, hon, heq⟩ :=
    TeleopSession.delayLine_of_step hnext
  · -- the engagement goes on as it is, or there is none
    have hsame : next.tracker.fullbodyEngaged = w.session.tracker.fullbodyEngaged :=
      congrArg DelayLine.engaged heq
    dsimp only
    rw [heq, hsame, Bool.and_self, hnone]
    by_cases hon : w.session.tracker.fullbodyEngaged = true
    · rw [if_pos hon]
      exact h
    · rw [if_neg hon, ← h.engaged (Bool.eq_false_of_not_eq_true hon)]
      exact h
  · have hoff : next.tracker.fullbodyEngaged = false := congrArg DelayLine.engaged heq
    dsimp only
    rw [heq, hoff, Bool.and_false, if_neg Bool.false_ne_true]
    exact h.release
  · dsimp only
    rw [heq, hoff, Bool.false_and, if_neg Bool.false_ne_true]
    rw [h.engaged hoff] at h
    exact h.engage
  · have hstill : next.tracker.fullbodyEngaged = true :=
      (congrArg DelayLine.engaged heq).trans hon
    dsimp only
    rw [heq, hon, hstill, hsome]
    exact h.take hon pose

theorem Follows.inRange (h : w.Follows) : w.session.tracker.HistoryInRange := by
  have hhead : w.session.tracker.histHead < 16 := h.ring.head_lt
  exact ⟨hhead, fun f => rawIndex_lookDepth hhead _ f⟩

theorem follows_of_run {as : List (TeleopSession.Act κ)} (hrun : run step {} as = some w) :
    w.Follows :=
  (reachable_of_run hrun).invariant Follows.start fun _ _ _ h _ hstep => h.step hstep

/-- **The delay line is its reference.** After every run of the tracker beside the arbiter, the
window is the one over the poses of the current engagement, every index of the history is in range,
and the next pose moves the frames up by one. -/
theorem delay_line_reference (κ : Kernels) (as : List (TeleopSession.Act κ)) (w : DelayWatch κ)
    (hrun : run step {} as = some w) :
    w.window = referenceWindow w.sampled ∧
      (∀ frames, w.window = some frames → ∀ f, frames f ∈ w.sampled) ∧
      w.session.tracker.HistoryInRange ∧
      ∀ a w' pose frames, w.step a = some w' → w.session.sample a = some pose →
        w.window = some frames → ∃ frames', w'.window = some frames' ∧
          ∀ (f : Fin 10) (hf : f.val < 5), frames' f = frames ⟨f.val + 1, by omega⟩ := by
  have h := follows_of_run hrun
  refine ⟨h.window, fun frames hframes => ?_, h.inRange, ?_⟩
  · exact DelayLine.referenceWindow_mem (h.window.symm.trans hframes)
  · intro a w' pose frames hstep hsome hframes
    have hnext : w'.window = referenceWindow (pose :: w.sampled) := by
      rw [← step_sample hstep hsome]
      exact (h.step hstep).window
    refine ⟨_, hnext, fun f hf => ?_⟩
    exact DelayLine.referenceWindow_next (h.window.symm.trans hframes) rfl f hf

/-- Kernels whose pose is the time it is sampled at. -/
def timed : Kernels where
  BodyPose := Unit
  Raw3Point := Unit
  Calibration := Unit
  WristReference := Unit
  VR3Point := Unit
  SmplPose := TimePoint
  ArmReachState := Unit
  Resampler := Nat
  noCalibration := ()
  noReach := ()
  noPose := 0
  extractRaw _ := ()
  captureCalibration _ _ _ _ := ()
  applyCalibration _ _ := ()
  smplFk _ := 0
  smplArmsFromTrackedWrists _ pose _ := (pose, ())
  resetResampler := 0
  push n _ _ := n + 1
  sample n now := if n = 0 then none else some now
  count n := n

/-- A is held for a second and full-body engages, at time 0. Three more ticks follow. -/
def threeTicks : List (TeleopSession.Act timed) :=
  let body : TimestampedData timed.BodyPose := { data := some () }
  (List.replicate 50 (TeleopSession.iterationActs (some { btnA := true }) body () 0 0)).flatten ++
    TeleopSession.iterationActs none body () 0 1 ++
    TeleopSession.iterationActs none body () 0 2 ++
    TeleopSession.iterationActs none body () 0 3

/-- The first pose fills the frames that look further back than there are poses. -/
def warmingUp (w : DelayWatch timed) : Bool :=
  let times (frames : Fin 10 → TimePoint) : List TimePoint := List.ofFn frames
  w.window.map times == some [0, 0, 0, 1, 2, 3, 3, 3, 3, 3]

theorem threeTicks_runs : (run step {} threeTicks).any warmingUp = true := by decide +kernel

theorem delay_line_reference_three : ∃ w, run step {} threeTicks = some w ∧ warmingUp w = true ∧
    w.window = referenceWindow w.sampled ∧ w.session.tracker.HistoryInRange := by
  obtain ⟨w, hrun, hwarm⟩ := (Option.any_eq_true _ _).mp threeTicks_runs
  obtain ⟨hwindow, -, hrange, -⟩ := delay_line_reference timed threeTicks w hrun
  exact ⟨w, hrun, hwarm, hwindow, hrange⟩

end DelayWatch

end Gearsonic
