import Gearsonic.Common.Quaternions
import Gearsonic.Numeric.SampleLine
import Gearsonic.Planner.FloatResample

/-!
# From 30 Hz to 50 Hz

`resample_30hz_to_50hz` in exact arithmetic. 50 Hz frame `f` lies at position `3f/5` of the source
frames: it is read between frames `⌊3f/5⌋` and the next one, which is held at the last.

* `resample_eq_none_iff`: what is refused.
* `Resampled`: what an accepted output gives.
* `resample_law`: both, and that no row from `num_pred_frames` on is read.
-/

set_option linter.unusedSectionVars false

namespace Gearsonic

open SampleLine

namespace EngineOutput

variable {K : Type}

/-- One of the first `num_pred_frames` rows holds a NaN. -/
def HasNan (out : EngineOutput K) : Prop :=
  ∃ (f : Fin 64) (i : Fin 36), (f.val : Int) < out.numPredFrames ∧ out.mujocoQpos f i = none

/-- What the resampler refuses. -/
def Refused (out : EngineOutput K) : Prop :=
  out.numPredFrames ≤ 0 ∨ 64 < out.numPredFrames ∨ out.HasNan ∨ 5 * out.numPredFrames / 3 < 2

variable [Field K]

/-- The root position in a row. -/
def rowPosition (row : Fin 36 → K) : Vec3 K := fun i => row (i.castLE FloatOutput.three_le)

def rowQuaternion (row : Fin 36 → K) : Quat K :=
  fun i => row ((i.natAdd 3).castLE FloatOutput.seven_le)

variable [LinearOrder K] [CMath K]

/-- 50 Hz frame `f` of `n`; the last one repeats the velocities of the one before. -/
def frameOf (out : EngineOutput K) (n f : Nat) : MotionSequence50Hz.Frame K :=
  { resampledFrame out f with
    jointVelocities := forwardDifference out (if f < n - 1 then f else n - 2) }

/-- The frames of an accepted output. -/
def resampledFrames (out : EngineOutput K) (n : Nat) : List (MotionSequence50Hz.Frame K) :=
  (List.range n).map (out.frameOf n)

end EngineOutput

open EngineOutput

variable {out out' : EngineOutput ℝ} {N f : Nat} {m : MotionSequence50Hz ℝ}

theorem f30hz_eq (f : Nat) : (f : ℝ) / 50.0 * 30.0 = 3 * f / 5 := by
  norm_num
  ring

theorem floor_f30hz (f : Nat) : ⌊(3 * f / 5 : ℝ)⌋ = ((3 * f / 5 : Nat) : Int) := by
  have h := FloatOutput.firstFrame_eq f
  have hpos : (FloatOutput.f30hz f : ℝ) = 3 * f / 5 := f30hz_eq f
  rw [← hpos]
  exact h

/-! ## One frame -/

theorem resampledFrame_position (out : EngineOutput ℝ) (f : Nat) (i : Fin 3) :
    (resampledFrame out f).position i =
      sampleLine (fun r => rowPosition (out.row r) i) (out.numPredFrames - 1) (3 * f / 5 : ℝ) := by
  have hone : (1.0 : ℝ) = 1 := by norm_num
  unfold resampledFrame sampleLine
  dsimp only
  rw [f30hz_eq, hone]
  rfl

theorem resampledFrame_joints (out : EngineOutput ℝ) (f : Nat) (j : Fin 29) :
    (resampledFrame out f).joints j =
      sampleLine (fun r => gatherJoints (out.row r) j) (out.numPredFrames - 1)
        (3 * f / 5 : ℝ) := by
  have hone : (1.0 : ℝ) = 1 := by norm_num
  unfold resampledFrame sampleLine
  dsimp only
  rw [f30hz_eq, hone]
  rfl

theorem resampledFrame_quaternion (out : EngineOutput ℝ) (f : Nat) :
    (resampledFrame out f).quaternion =
      quatSlerp (rowQuaternion (out.row ⌊(3 * f / 5 : ℝ)⌋))
        (rowQuaternion (out.row (min (⌊(3 * f / 5 : ℝ)⌋ + 1) (out.numPredFrames - 1))))
        (Int.fract (3 * f / 5 : ℝ)) := by
  unfold resampledFrame
  dsimp only
  rw [f30hz_eq]
  rfl

/-! ## Acceptance -/

theorem hasNan_iff (out : EngineOutput ℝ) : ((List.finRange 64).any fun f =>
    decide ((f.val : Int) < out.numPredFrames) &&
      (List.finRange 36).any fun i => (out.mujocoQpos f i).isNone) = true ↔ out.HasNan := by
  unfold HasNan
  simp only [List.any_eq_true, List.mem_finRange, true_and, Bool.and_eq_true, decide_eq_true_iff,
    Option.isNone_iff_eq_none, exists_and_left]

theorem n50hz_eq (hN : out.numPredFrames = N) (hmax : N ≤ 64) :
    min (CMath.floor ((out.numPredFrames : ℝ) / 30.0 * 50.0))
      (MotionSequence50Hz.kCapacity : Int) = (5 * N / 3 : Nat) := by
  have hcount : (FloatOutput.ofEngine out).numPredFrames = N := hN
  have hframes := FloatOutput.n50hz_eq hcount hmax
  unfold FloatOutput.n50hz at hframes
  rwa [hcount, ← hN] at hframes

theorem resample_of_accepted (m : MotionSequence50Hz ℝ) (hN : out.numPredFrames = N)
    (h : ¬ out.Refused) : resample30HzTo50Hz m out =
      some { m with frames := out.resampledFrames (5 * N / 3) } := by
  unfold Refused at h
  rw [not_or, not_or, not_or, ← hasNan_iff] at h
  obtain ⟨hlow, hhigh, hnan, hlong⟩ := h
  have hcount : ¬ (out.numPredFrames ≤ 0 ∨ (kMaxPlannerFrames : Int) < out.numPredFrames) :=
    fun hbad => hbad.elim hlow hhigh
  have hframes := n50hz_eq hN (by omega)
  unfold resample30HzTo50Hz
  rw [if_neg hcount, if_neg hnan]
  dsimp only
  rw [hframes, if_neg (by omega), Int.toNat_natCast]
  rfl

theorem resample_of_refused (m : MotionSequence50Hz ℝ) (h : out.Refused) :
    resample30HzTo50Hz m out = none := by
  unfold resample30HzTo50Hz
  split
  · rfl
  · rename_i hcount
    split
    · rfl
    · rename_i hnan
      have hmax : kMaxPlannerFrames = 64 := rfl
      obtain ⟨N, hN⟩ : ∃ N : Nat, out.numPredFrames = N := ⟨out.numPredFrames.toNat, by omega⟩
      dsimp only
      rw [n50hz_eq hN (by omega)]
      rw [hasNan_iff] at hnan
      rcases h with hlow | hhigh | hbad | hshort
      · exact absurd (Or.inl hlow) hcount
      · exact absurd (Or.inr hhigh) hcount
      · exact absurd hbad hnan
      · rw [if_pos (by omega)]

theorem resample_eq_none_iff (m : MotionSequence50Hz ℝ) (out : EngineOutput ℝ) :
    resample30HzTo50Hz m out = none ↔ out.Refused := by
  refine ⟨fun hnone => ?_, resample_of_refused m⟩
  by_contra h
  have hN : out.numPredFrames = (out.numPredFrames.toNat : Int) := by
    unfold Refused at h
    omega
  rw [resample_of_accepted m hN h] at hnone
  cases hnone

theorem frame_resampledFrames {n : Nat} (hf : f < n) :
    ({ m with frames := out.resampledFrames n } : MotionSequence50Hz ℝ).frame f =
      out.frameOf n f := by
  unfold MotionSequence50Hz.frame resampledFrames
  dsimp only
  rw [Int.toNat_natCast, List.getD_eq_getElem?_getD, List.getElem?_map, List.getElem?_range hf]
  rfl

/-! ## The law -/

/-- A motion resampled from the first `N` rows: how many frames, which rows each is read from and
with what weights, and the velocities. -/
structure Resampled (out : EngineOutput ℝ) (N : Nat) (seq : MotionSequence50Hz ℝ) : Prop where
  numbers : ∀ r < N, ∀ i, out.mujocoQpos (Fin.ofNat 64 r) i = some (out.row r i)
  timesteps : seq.timesteps = 5 * N / 3
  rows_lt : ∀ f < 5 * N / 3, 3 * f / 5 < N ∧ min (3 * f / 5 + 1) (N - 1) < N
  position : ∀ f < 5 * N / 3, ∀ i, (seq.frame f).position i =
    (1 - Int.fract (3 * f / 5 : ℝ)) * rowPosition (out.row (3 * f / 5 : Nat)) i +
      Int.fract (3 * f / 5 : ℝ) * rowPosition (out.row (min (3 * f / 5 + 1) (N - 1) : Nat)) i
  joints : ∀ f < 5 * N / 3, ∀ j, (seq.frame f).joints j =
    (1 - Int.fract (3 * f / 5 : ℝ)) *
        out.row (3 * f / 5 : Nat) (Fin.natAdd 7 (mujocoToIsaaclab j)) +
      Int.fract (3 * f / 5 : ℝ) *
        out.row (min (3 * f / 5 + 1) (N - 1) : Nat) (Fin.natAdd 7 (mujocoToIsaaclab j))
  everyFifth : ∀ k, 5 * k < 5 * N / 3 →
    (seq.frame (5 * k : Nat)).position = rowPosition (out.row (3 * k : Nat)) ∧
      (seq.frame (5 * k : Nat)).joints = gatherJoints (out.row (3 * k : Nat)) ∧
      (UnitQuat (rowQuaternion (out.row (3 * k : Nat))) →
        (seq.frame (5 * k : Nat)).quaternion = rowQuaternion (out.row (3 * k : Nat)))
  velocities : ∀ f, f + 1 < 5 * N / 3 → ∀ j,
    (seq.frame (f + 1 : Nat)).joints j - (seq.frame f).joints j =
      (seq.frame f).jointVelocities j / 50
  lastVelocities : (seq.frame (5 * N / 3 - 1 : Nat)).jointVelocities =
    (seq.frame (5 * N / 3 - 2 : Nat)).jointVelocities

theorem numbers_of_not_refused (hN : out.numPredFrames = N) (h : ¬ out.Refused) {r : Nat}
    (hr : r < N) (i : Fin 36) :
    out.mujocoQpos (Fin.ofNat 64 r) i = some (out.row r i) := by
  unfold Refused at h
  rw [not_or, not_or, not_or] at h
  have hval : (Fin.ofNat 64 r).val = r := Nat.mod_eq_of_lt (by omega)
  unfold row
  rw [Int.toNat_natCast]
  cases hx : out.mujocoQpos (Fin.ofNat 64 r) i with
  | some x => rfl
  | none => exact absurd ⟨Fin.ofNat 64 r, i, by omega, hx⟩ h.2.2.1

/-- The neighbours of position `3f/5`, by number. -/
theorem sampleLine_rows (u : Int → ℝ) (hN : 1 ≤ N) (f : Nat) :
    sampleLine u ((N : Int) - 1) (3 * f / 5 : ℝ) =
      (1 - Int.fract (3 * f / 5 : ℝ)) * u (3 * f / 5 : Nat) +
        Int.fract (3 * f / 5 : ℝ) * u (min (3 * f / 5 + 1) (N - 1) : Nat) := by
  have hnext : min (((3 * f / 5 : Nat) : Int) + 1) ((N : Int) - 1) =
      (min (3 * f / 5 + 1) (N - 1) : Nat) := by omega
  unfold sampleLine
  rw [floor_f30hz, hnext]

theorem position_everyFifth (k : Nat) : (3 * (5 * k : Nat) / 5 : ℝ) = (3 * k : Nat) := by
  push_cast
  ring

theorem resampledFrame_everyFifth (out : EngineOutput ℝ) (k : Nat) :
    (resampledFrame out (5 * k)).position = rowPosition (out.row (3 * k : Nat)) ∧
      (resampledFrame out (5 * k)).joints = gatherJoints (out.row (3 * k : Nat)) ∧
      (UnitQuat (rowQuaternion (out.row (3 * k : Nat))) →
        (resampledFrame out (5 * k)).quaternion = rowQuaternion (out.row (3 * k : Nat))) := by
  refine ⟨funext fun i => ?_, funext fun j => ?_, fun hunit => ?_⟩
  · rw [resampledFrame_position, position_everyFifth, sampleLine_natCast]
  · rw [resampledFrame_joints, position_everyFifth, sampleLine_natCast]
  · rw [resampledFrame_quaternion, position_everyFifth, Int.fract_natCast, Int.floor_natCast]
    exact (quatSlerp_zero _ _).unit hunit

theorem resampled_of_not_refused (m : MotionSequence50Hz ℝ) (hN : out.numPredFrames = N)
    (h : ¬ out.Refused) :
    Resampled out N { m with frames := out.resampledFrames (5 * N / 3) } := by
  have hsize : 2 ≤ 5 * N / 3 ∧ 1 ≤ N := by
    unfold Refused at h
    omega
  have hlast : out.numPredFrames - 1 = (N : Int) - 1 := by rw [hN]
  constructor
  case numbers => exact fun r hr i => numbers_of_not_refused hN h hr i
  case timesteps =>
    unfold MotionSequence50Hz.timesteps resampledFrames
    dsimp only
    rw [List.length_map, List.length_range]
  case rows_lt => exact fun f hf => by omega
  case position =>
    intro f hf i
    rw [frame_resampledFrames hf]
    show (resampledFrame out f).position i = _
    rw [resampledFrame_position, hlast, sampleLine_rows _ hsize.2]
  case joints =>
    intro f hf j
    rw [frame_resampledFrames hf]
    show (resampledFrame out f).joints j = _
    rw [resampledFrame_joints, hlast, sampleLine_rows _ hsize.2]
    rfl
  case everyFifth =>
    intro k hk
    rw [frame_resampledFrames hk]
    exact resampledFrame_everyFifth out k
  case velocities =>
    intro f hf j
    have hthis : f < 5 * N / 3 - 1 := by omega
    rw [frame_resampledFrames hf, frame_resampledFrames (Nat.lt_of_succ_lt hf)]
    unfold frameOf forwardDifference
    rw [if_pos hthis]
    have hfifty : (50.0 : ℝ) = 50 := by norm_num
    dsimp only
    rw [hfifty, mul_div_assoc, div_self (by norm_num), mul_one]
  case lastVelocities =>
    have hend : ¬ 5 * N / 3 - 1 < 5 * N / 3 - 1 := lt_irrefl _
    have hbefore : 5 * N / 3 - 2 < 5 * N / 3 - 1 := by omega
    rw [frame_resampledFrames (by omega), frame_resampledFrames (by omega)]
    unfold frameOf
    rw [if_neg hend, if_pos hbefore]

/-! ## What is read -/

/-- Two outputs with the same count that agree on the rows below it. -/
structure SamePredicted (out out' : EngineOutput ℝ) : Prop where
  count : out'.numPredFrames = out.numPredFrames
  rows : ∀ f : Fin 64, (f.val : Int) < out.numPredFrames →
    out'.mujocoQpos f = out.mujocoQpos f

theorem SamePredicted.refused (h : SamePredicted out out') : out'.Refused ↔ out.Refused := by
  have hnan : out'.HasNan ↔ out.HasNan := by
    unfold HasNan
    refine exists_congr fun f => exists_congr fun i => ?_
    rw [h.count]
    exact and_congr_right fun hf => by rw [h.rows f hf]
  unfold Refused
  rw [h.count, hnan]

theorem SamePredicted.row (h : SamePredicted out out') (hN : out.numPredFrames = N)
    (hmax : N ≤ 64) {r : Nat} (hr : r < N) : out'.row r = out.row r := by
  have hval : (Fin.ofNat 64 r).val = r := Nat.mod_eq_of_lt (by omega)
  funext i
  unfold EngineOutput.row
  rw [Int.toNat_natCast, h.rows _ (by omega)]

theorem SamePredicted.resampledFrame (h : SamePredicted out out') (hN : out.numPredFrames = N)
    (hmax : N ≤ 64) (hf : f < 5 * N / 3) : resampledFrame out' f = resampledFrame out f := by
  have hfloor : CMath.floor ((f : ℝ) / 50.0 * 30.0) = ((3 * f / 5 : Nat) : Int) := by
    rw [f30hz_eq]
    exact floor_f30hz f
  have hnext : min (((3 * f / 5 : Nat) : Int) + 1) (out.numPredFrames - 1) =
      (min (3 * f / 5 + 1) (N - 1) : Nat) := by omega
  unfold Gearsonic.resampledFrame
  dsimp only
  rw [h.count, hfloor, hnext, h.row hN hmax (by omega), h.row hN hmax (by omega)]

theorem SamePredicted.resample (h : SamePredicted out out') (m : MotionSequence50Hz ℝ) :
    resample30HzTo50Hz m out' = resample30HzTo50Hz m out := by
  by_cases hrefused : out.Refused
  · rw [resample_of_refused m hrefused, resample_of_refused m (h.refused.mpr hrefused)]
  · obtain ⟨N, hN⟩ : ∃ N : Nat, out.numPredFrames = N := by
      refine ⟨out.numPredFrames.toNat, ?_⟩
      unfold Refused at hrefused
      omega
    have hsize : 2 ≤ 5 * N / 3 ∧ N ≤ 64 := by
      unfold Refused at hrefused
      omega
    have hframe : ∀ f < 5 * N / 3, out'.frameOf (5 * N / 3) f = out.frameOf (5 * N / 3) f := by
      intro f hf
      have hdiff : ∀ g, g + 1 < 5 * N / 3 → forwardDifference out' g = forwardDifference out g := by
        intro g hg
        unfold forwardDifference
        rw [h.resampledFrame hN hsize.2 hg, h.resampledFrame hN hsize.2 (Nat.lt_of_succ_lt hg)]
      have hend : (if f < 5 * N / 3 - 1 then f else 5 * N / 3 - 2) + 1 < 5 * N / 3 := by
        split <;> omega
      unfold frameOf
      rw [h.resampledFrame hN hsize.2 hf, hdiff _ hend]
    rw [resample_of_accepted m hN hrefused,
      resample_of_accepted m (h.count.trans hN) (mt h.refused.mp hrefused)]
    have hframes : out'.resampledFrames (5 * N / 3) = out.resampledFrames (5 * N / 3) :=
      List.map_congr_left fun f hf => hframe f (List.mem_range.mp hf)
    rw [hframes]

/-- **Resampling, in exact arithmetic.** What is refused leaves the planner as it was. What is
accepted gives `⌊5N/3⌋` frames, read from the first `N` rows at their positions, and nothing that
lies behind those rows makes a difference. -/
theorem resample_law (p : PlannerInference ℝ) (out : EngineOutput ℝ) (now : TimePoint) :
    ((p.runAndPublish (some out) now).2 = false ↔ out.Refused) ∧
      (out.Refused → (p.runAndPublish (some out) now).1 = p) ∧
      (∀ seq, resample30HzTo50Hz p.motionSeq out = some seq →
        ∃ N : Nat, out.numPredFrames = N ∧ Resampled out N seq) ∧
      (¬ out.Refused → ∃ seq, resample30HzTo50Hz p.motionSeq out = some seq ∧
        (p.runAndPublish (some out) now).1.motionSeq = { seq with genFrame := p.genFrame }) ∧
      ∀ out', SamePredicted out out' →
        resample30HzTo50Hz p.motionSeq out' = resample30HzTo50Hz p.motionSeq out := by
  have hfails : (p.runAndPublish (some out) now).2 = false ↔ out.Refused := by
    rw [← resample_eq_none_iff p.motionSeq]
    unfold PlannerInference.runAndPublish
    rw [Option.bind_some]
    cases resample30HzTo50Hz p.motionSeq out with
    | none => exact ⟨fun _ => rfl, fun _ => rfl⟩
    | some seq => exact ⟨nofun, nofun⟩
  refine ⟨hfails, fun h => ?_, fun seq hseq => ?_, fun h => ?_, fun out' h => h.resample _⟩
  · exact PlannerInference.runAndPublish_eq_self (hfails.mpr h)
  · have h : ¬ out.Refused := by
      rw [← resample_eq_none_iff p.motionSeq, hseq]
      nofun
    have hN : out.numPredFrames = (out.numPredFrames.toNat : Int) := by
      unfold Refused at h
      omega
    rw [resample_of_accepted _ hN h] at hseq
    cases hseq
    exact ⟨_, hN, resampled_of_not_refused _ hN h⟩
  · cases hseq : resample30HzTo50Hz p.motionSeq out with
    | none => exact absurd ((resample_eq_none_iff _ _).mp hseq) h
    | some seq =>
      refine ⟨seq, rfl, ?_⟩
      unfold PlannerInference.runAndPublish
      rw [Option.bind_some, hseq]

end Gearsonic
