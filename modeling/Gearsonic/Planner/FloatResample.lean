import Gearsonic.Common.FloatMath
import Gearsonic.Planner.PlannerInference

/-!
# The resampler on raw floats

`resample_30hz_to_50hz` once more, over the floats that the engine can write. The check
rejects NaN; an infinity passes it.

* `toFrames_ofEngine`: without infinities this is the resampler of the planner's model.
* `toFrames_of_rejected`, `toFrames_of_accepted`: which outputs are rejected.
* `frames_finite_iff`: what is stored is finite exactly if every float of the predicted
  frames is. Every predicted frame is read, and no weight hides an infinity.
-/

set_option linter.unusedSectionVars false

namespace Gearsonic

open Numeric

/-- What one inference returns, float by float. -/
structure FloatOutput (K : Type) where
  mujocoQpos : Fin 64 → Fin 36 → FloatVal K
  numPredFrames : Int

/-- One 50 Hz frame of floats. -/
structure FloatFrame (K : Type) where
  position : Vec3 (FloatVal K)
  quaternion : Quat (FloatVal K)
  joints : Joints (FloatVal K)
  jointVelocities : Joints (FloatVal K)

/-- Every float of a row is finite. -/
def AllFinite {K : Type} {n : Nat} (v : Fin n → FloatVal K) : Prop := ∀ i, (v i).isFinite = true

structure FloatFrame.Finite {K : Type} (fr : FloatFrame K) : Prop where
  position : AllFinite fr.position
  quaternion : AllFinite fr.quaternion
  joints : AllFinite fr.joints
  jointVelocities : AllFinite fr.jointVelocities

namespace FloatOutput

variable {K : Type} [Field K] [LinearOrder K] [CMath K]

-- A row of 36 floats: three of position, four of orientation, the joints.
theorem three_le : 3 ≤ 36 := by decide
theorem seven_le : 3 + 4 ≤ 36 := by decide

instance neZero_rows : NeZero 64 := ⟨by decide⟩

def row (out : FloatOutput K) (f : Int) : Fin 36 → FloatVal K :=
  out.mujocoQpos (Fin.ofNat 64 f.toNat)

/-- The position in the 30 Hz frames of 50 Hz frame `f`. -/
def f30hz (f : Nat) : K := (f : K) / 50.0 * 30.0

def firstFrame (K : Type) [Field K] [CMath K] (f : Nat) : Int := CMath.floor (f30hz f : K)

def secondFrame (out : FloatOutput K) (f : Nat) : Int :=
  min (firstFrame K f + 1) (out.numPredFrames - 1)

/-- Position, orientation and joints of 50 Hz frame `f`. -/
def resampledPosition (out : FloatOutput K) (f : Nat) : Vec3 (FloatVal K) :=
  let w1 : K := f30hz f - firstFrame K f
  let w0 : K := 1.0 - w1
  let p0 := out.row (firstFrame K f)
  let p1 := out.row (out.secondFrame f)
  fun i => .finite w0 * p0 (i.castLE three_le) + .finite w1 * p1 (i.castLE three_le)

def resampledQuaternion (out : FloatOutput K) (f : Nat) : Quat (FloatVal K) :=
  let w1 : K := f30hz f - firstFrame K f
  let p0 := out.row (firstFrame K f)
  let p1 := out.row (out.secondFrame f)
  FloatMath.quatSlerp (fun i => p0 ((i.natAdd 3).castLE seven_le))
    (fun i => p1 ((i.natAdd 3).castLE seven_le)) (.finite w1)

def resampledJoints (out : FloatOutput K) (f : Nat) : Joints (FloatVal K) :=
  let w1 : K := f30hz f - firstFrame K f
  let w0 : K := 1.0 - w1
  let p0 := out.row (firstFrame K f)
  let p1 := out.row (out.secondFrame f)
  fun j => .finite w0 * gatherJoints p0 j + .finite w1 * gatherJoints p1 j

/-- Forward difference of the joints of frame `f`. -/
def forwardDifference (out : FloatOutput K) (f : Nat) : Joints (FloatVal K) := fun j =>
  (out.resampledJoints (f + 1) j - out.resampledJoints f j) * .finite 50.0

/-- How many 50 Hz frames the predicted frames give. -/
def n50hz (out : FloatOutput K) : Int :=
  min (CMath.floor ((out.numPredFrames : K) / 30.0 * 50.0)) (MotionSequence50Hz.kCapacity : Int)

/-- A float of the predicted frames is NaN. -/
def hasNan (out : FloatOutput K) : Bool :=
  (List.finRange 64).any fun f =>
    decide ((f.val : Int) < out.numPredFrames) &&
      (List.finRange 36).any fun i => (out.mujocoQpos f i).isNan

/-- 50 Hz frame `f` of `n`; the last one repeats the velocities of the one before. -/
def frameAt (out : FloatOutput K) (n f : Nat) : FloatFrame K :=
  { position := out.resampledPosition f
    quaternion := out.resampledQuaternion f
    joints := out.resampledJoints f
    jointVelocities := out.forwardDifference (if f < n - 1 then f else n - 2) }

/-- `resample_30hz_to_50hz`: the frames that it leaves in `motion_seq_`, `none` where it
reports a failure. -/
def toFrames (out : FloatOutput K) : Option (List (FloatFrame K)) :=
  if out.numPredFrames ≤ 0 ∨ (kMaxPlannerFrames : Int) < out.numPredFrames then none
  else if out.hasNan then none
  else if out.n50hz < 2 then none
  else some ((List.range out.n50hz.toNat).map (out.frameAt out.n50hz.toNat))

/-- No two frames, more than the buffer holds, or a NaN. -/
def Rejected (out : FloatOutput K) : Prop :=
  out.numPredFrames ≤ 1 ∨ 64 < out.numPredFrames ∨ out.hasNan = true

/-! ## Frame numbers -/

theorem firstFrame_eq (f : Nat) : firstFrame ℝ f = (3 * f / 5 : Nat) := by
  have hfrac : (f30hz f : ℝ) = ((3 * f : Nat) : ℝ) / ((5 : Nat) : ℝ) := by
    unfold f30hz
    push_cast
    norm_num
    ring
  show ⌊(f30hz f : ℝ)⌋ = _
  rw [hfrac, Int.floor_div_natCast, Int.floor_natCast]
  push_cast
  rfl

theorem n50hz_eq {out : FloatOutput ℝ} {n : Nat} (hn : out.numPredFrames = n) (hmax : n ≤ 64) :
    out.n50hz = (5 * n / 3 : Nat) := by
  have hfrac : ((n : Int) : ℝ) / 30.0 * 50.0 = ((5 * n : Nat) : ℝ) / ((3 : Nat) : ℝ) := by
    push_cast
    norm_num
    ring
  have hfloor : CMath.floor (((n : Int) : ℝ) / 30.0 * 50.0) = ((5 * n / 3 : Nat) : Int) := by
    show ⌊((n : Int) : ℝ) / 30.0 * 50.0⌋ = _
    rw [hfrac, Int.floor_div_natCast, Int.floor_natCast]
    push_cast
    rfl
  unfold n50hz
  rw [hn, hfloor]
  have hcap : MotionSequence50Hz.kCapacity = 1500 := rfl
  omega

variable {out : FloatOutput ℝ} {n f : Nat}

theorem firstFrame_lt (hf : f < 5 * n / 3) : ∃ r < n, firstFrame ℝ f = (r : Int) := by
  refine ⟨3 * f / 5, ?_, firstFrame_eq f⟩
  omega

theorem secondFrame_lt (hn : out.numPredFrames = n) (hf : f < 5 * n / 3) :
    ∃ r < n, out.secondFrame f = (r : Int) := by
  obtain ⟨r, hr, hfirst⟩ := firstFrame_lt hf
  unfold secondFrame
  rw [hfirst, hn]
  rcases Nat.lt_or_ge (r + 1) n with hlt | hge
  · exact ⟨r + 1, hlt, by omega⟩
  · exact ⟨n - 1, by omega, by omega⟩

/-- Every predicted frame is the first one of some 50 Hz frame. -/
theorem exists_firstFrame {r : Nat} (hr : r < n) :
    ∃ f < 5 * n / 3, firstFrame ℝ f = (r : Int) := by
  refine ⟨(5 * r + 2) / 3, by omega, ?_⟩
  rw [firstFrame_eq]
  omega

/-! ## Acceptance -/

theorem toFrames_of_rejected (h : out.Rejected) : out.toFrames = none := by
  unfold toFrames
  split
  · rfl
  · rename_i hcount
    split
    · rfl
    · rename_i hnan
      rcases h with hone | hmany | hnan'
      · have hpos : out.numPredFrames = ((1 : Nat) : Int) := by omega
        rw [n50hz_eq hpos (by decide)]
        rfl
      · exact absurd (Or.inr hmany) hcount
      · exact absurd hnan' hnan

theorem toFrames_of_accepted (hn : out.numPredFrames = n) (hlo : 2 ≤ n) (hhi : n ≤ 64)
    (hnan : out.hasNan = false) :
    out.toFrames = some ((List.range (5 * n / 3)).map (out.frameAt (5 * n / 3))) := by
  have hcount : ¬ (out.numPredFrames ≤ 0 ∨ (kMaxPlannerFrames : Int) < out.numPredFrames) := by
    have hmax : kMaxPlannerFrames = 64 := rfl
    omega
  have hframes := n50hz_eq hn hhi
  have hlong : ¬ out.n50hz < 2 := by omega
  unfold toFrames
  rw [if_neg hcount, hnan, if_neg Bool.false_ne_true, if_neg hlong, hframes, Int.toNat_natCast]

theorem accepted_of_not_rejected (h : ¬ out.Rejected) :
    ∃ n : Nat, out.numPredFrames = n ∧ 2 ≤ n ∧ n ≤ 64 ∧ out.hasNan = false := by
  unfold Rejected at h
  rw [not_or, not_or] at h
  obtain ⟨hlo, hhi, hnan⟩ := h
  refine ⟨out.numPredFrames.toNat, ?_, ?_, ?_, Bool.eq_false_of_not_eq_true hnan⟩
  · omega
  · omega
  · omega

/-! ## Finite rows -/

/-- The three parts of a row that a frame reads, the joints in another order. -/
theorem allFinite_row_iff (v : Fin 36 → FloatVal ℝ) :
    AllFinite v ↔ (∀ i : Fin 3, (v (i.castLE (by decide))).isFinite = true) ∧
      (∀ i : Fin 4, (v ((i.natAdd 3).castLE (by decide))).isFinite = true) ∧
      AllFinite (gatherJoints v) := by
  constructor
  · exact fun h => ⟨fun i => h _, fun i => h _, fun j => h _⟩
  · rintro ⟨hpos, hquat, hjoints⟩ i
    rcases Nat.lt_or_ge i.val 3 with h3 | h3
    · exact hpos ⟨i.val, h3⟩
    · rcases Nat.lt_or_ge i.val 7 with h7 | h7
      · have hi : i = ((⟨i.val - 3, by omega⟩ : Fin 4).natAdd 3).castLE (by decide) := by
          apply Fin.ext
          show i.val = 3 + (i.val - 3)
          omega
        rw [hi]
        exact hquat _
      · have hi : i = Fin.natAdd 7 (⟨i.val - 7, by omega⟩ : Fin 29) := by
          apply Fin.ext
          show i.val = 7 + (i.val - 7)
          omega
        have hj := hjoints (isaaclabToMujoco ⟨i.val - 7, by omega⟩)
        unfold gatherJoints at hj
        rw [mujocoToIsaaclab_isaaclabToMujoco, ← hi] at hj
        exact hj

theorem resampledJoints_finite_iff (out : FloatOutput ℝ) (f : Nat) :
    AllFinite (out.resampledJoints f) ↔
      AllFinite (gatherJoints (out.row (firstFrame ℝ f))) ∧
        AllFinite (gatherJoints (out.row (out.secondFrame f))) := by
  simp only [AllFinite, resampledJoints, FloatVal.isFinite_add, FloatVal.isFinite_mul,
    FloatVal.isFinite_finite, Bool.true_and, Bool.and_eq_true, forall_and]

/-- A frame is finite exactly if both rows it reads are. -/
theorem resampled_finite_iff (out : FloatOutput ℝ) (f : Nat) :
    (AllFinite (out.resampledPosition f) ∧ AllFinite (out.resampledQuaternion f) ∧
        AllFinite (out.resampledJoints f)) ↔
      AllFinite (out.row (firstFrame ℝ f)) ∧ AllFinite (out.row (out.secondFrame f)) := by
  have hposition : AllFinite (out.resampledPosition f) ↔
      (∀ i : Fin 3, (out.row (firstFrame ℝ f) (i.castLE (by decide))).isFinite = true) ∧
        ∀ i : Fin 3, (out.row (out.secondFrame f) (i.castLE (by decide))).isFinite = true := by
    simp only [AllFinite, resampledPosition, FloatVal.isFinite_add, FloatVal.isFinite_mul,
      FloatVal.isFinite_finite, Bool.true_and, Bool.and_eq_true, forall_and]
  have hquaternion := FloatMath.isFinite_quatSlerp_iff
    (fun i => out.row (firstFrame ℝ f) ((i.natAdd 3).castLE (by decide)))
    (fun i => out.row (out.secondFrame f) ((i.natAdd 3).castLE (by decide)))
    (f30hz f - firstFrame ℝ f)
  rw [hposition, resampledJoints_finite_iff, allFinite_row_iff, allFinite_row_iff]
  unfold AllFinite resampledQuaternion
  rw [hquaternion]
  tauto

/-- What is stored is finite exactly if the predicted frames are. -/
theorem frames_finite_iff (hn : out.numPredFrames = n) (hlo : 2 ≤ n) (hhi : n ≤ 64) :
    (∀ fr ∈ (List.range (5 * n / 3)).map (out.frameAt (5 * n / 3)), fr.Finite) ↔
      ∀ f : Fin 64, (f.val : Int) < out.numPredFrames → AllFinite (out.mujocoQpos f) := by
  have hrow : ∀ r : Nat, (hr : r < n) → out.row (r : Int) = out.mujocoQpos ⟨r, by omega⟩ := by
    intro r hr
    have hmod : Fin.ofNat 64 r = ⟨r, by omega⟩ := by
      apply Fin.ext
      show r % 64 = r
      omega
    unfold row
    rw [Int.toNat_natCast, hmod]
  constructor
  · intro hframes r hr
    rw [hn] at hr
    have hlt : r.val < n := by omega
    obtain ⟨f, hf, hfirst⟩ := exists_firstFrame hlt
    have hfinite := hframes _ (List.mem_map_of_mem (List.mem_range.mpr hf))
    have hrows := (resampled_finite_iff out f).mp
      ⟨hfinite.position, hfinite.quaternion, hfinite.joints⟩
    rw [hfirst, hrow r.val hlt] at hrows
    exact hrows.1
  · intro hrows fr hfr
    have hread : ∀ f < 5 * n / 3, AllFinite (out.resampledPosition f) ∧
        AllFinite (out.resampledQuaternion f) ∧ AllFinite (out.resampledJoints f) := by
      intro f hf
      obtain ⟨r, hr, hfirst⟩ := firstFrame_lt hf
      obtain ⟨r', hr', hsecond⟩ := secondFrame_lt hn hf
      rw [resampled_finite_iff, hfirst, hsecond, hrow r hr, hrow r' hr']
      refine ⟨hrows _ ?_, hrows _ ?_⟩
      · show (r : Int) < out.numPredFrames
        omega
      · show (r' : Int) < out.numPredFrames
        omega
    obtain ⟨f, hf, rfl⟩ := List.mem_map.mp hfr
    rw [List.mem_range] at hf
    obtain ⟨hposition, hquaternion, hjoints⟩ := hread f hf
    have hvelocity : ∀ g, g + 1 < 5 * n / 3 → AllFinite (out.forwardDifference g) := by
      intro g hg j
      have hnext := (hread (g + 1) hg).2.2 j
      have hthis := (hread g (by omega)).2.2 j
      simp only [forwardDifference, FloatVal.isFinite_mul, FloatVal.isFinite_sub, hnext, hthis,
        FloatVal.isFinite_finite, Bool.and_self]
    refine ⟨hposition, hquaternion, hjoints, hvelocity _ ?_⟩
    split
    · omega
    · omega

/-! ## Without infinities -/

/-- An output of the planner's model, whose numbers are finite or NaN. -/
def ofEngine (out : EngineOutput K) : FloatOutput K :=
  { mujocoQpos := fun f i => (out.mujocoQpos f i).elim .nan .finite
    numPredFrames := out.numPredFrames }

def ofFrame (fr : MotionSequence50Hz.Frame K) : FloatFrame K :=
  { position := fun i => .finite (fr.position i)
    quaternion := fun i => .finite (fr.quaternion i)
    joints := fun j => .finite (fr.joints j)
    jointVelocities := fun j => .finite (fr.jointVelocities j) }

theorem hasNan_ofEngine (out : EngineOutput ℝ) :
    (ofEngine out).hasNan = (List.finRange 64).any fun f =>
      decide ((f.val : Int) < out.numPredFrames) &&
        (List.finRange 36).any fun i => (out.mujocoQpos f i).isNone := by
  have hnone : ∀ x : Option ℝ, (x.elim FloatVal.nan FloatVal.finite).isNan = x.isNone := by
    intro x
    cases x <;> rfl
  unfold hasNan ofEngine
  simp only [hnone]

theorem row_ofEngine {out : EngineOutput ℝ} (hnan : (ofEngine out).hasNan = false) {r : Nat}
    (hr : (r : Int) < out.numPredFrames) (hmax : r < 64) :
    (ofEngine out).row (r : Int) = fun i => .finite (out.row (r : Int) i) := by
  have hmod : Fin.ofNat 64 r = ⟨r, hmax⟩ := Fin.ext (Nat.mod_eq_of_lt hmax)
  rw [hasNan_ofEngine, List.any_eq_false] at hnan
  have hrow := hnan ⟨r, hmax⟩ (List.mem_finRange _)
  rw [decide_eq_true hr, Bool.true_and, Bool.not_eq_true, List.any_eq_false] at hrow
  funext i
  have hsome := hrow i (List.mem_finRange _)
  simp only [row, EngineOutput.row, ofEngine, Int.toNat_natCast, hmod]
  cases hx : out.mujocoQpos ⟨r, hmax⟩ i with
  | none =>
    rw [hx] at hsome
    exact absurd rfl hsome
  | some x => rfl

/-- Where both rows are finite, so are position, orientation and joints, and they are the
model's. -/
theorem resampled_ofEngine {out : EngineOutput ℝ}
    (h0 : (ofEngine out).row (firstFrame ℝ f) = fun i => .finite (out.row (firstFrame ℝ f) i))
    (h1 : (ofEngine out).row ((ofEngine out).secondFrame f) =
      fun i => .finite (out.row ((ofEngine out).secondFrame f) i)) :
    ((ofEngine out).resampledPosition f = fun i => .finite ((resampledFrame out f).position i)) ∧
      ((ofEngine out).resampledQuaternion f =
        fun i => .finite ((resampledFrame out f).quaternion i)) ∧
      (ofEngine out).resampledJoints f = fun j => .finite ((resampledFrame out f).joints j) := by
  refine ⟨?_, ?_, ?_⟩
  · unfold resampledPosition
    rw [h0, h1]
    rfl
  · unfold resampledQuaternion
    rw [h0, h1]
    exact FloatMath.quatSlerp_finite _ _ _
  · unfold resampledJoints
    rw [h0, h1]
    rfl

/-- So it is in every 50 Hz frame of an output that holds no NaN. -/
theorem resampled_of_accepted {out : EngineOutput ℝ} (hn : (ofEngine out).numPredFrames = n)
    (hhi : n ≤ 64) (hnan : (ofEngine out).hasNan = false) (hf : f < 5 * n / 3) :
    ((ofEngine out).resampledPosition f = fun i => .finite ((resampledFrame out f).position i)) ∧
      ((ofEngine out).resampledQuaternion f =
        fun i => .finite ((resampledFrame out f).quaternion i)) ∧
      (ofEngine out).resampledJoints f = fun j => .finite ((resampledFrame out f).joints j) := by
  have hcount : out.numPredFrames = n := hn
  obtain ⟨r, hr, hfirst⟩ := firstFrame_lt hf
  obtain ⟨r', hr', hsecond⟩ := secondFrame_lt hn hf
  apply resampled_ofEngine
  · rw [hfirst]
    exact row_ofEngine hnan (by omega) (by omega)
  · rw [hsecond]
    exact row_ofEngine hnan (by omega) (by omega)

theorem frameAt_ofEngine {out : EngineOutput ℝ} (hn : (ofEngine out).numPredFrames = n)
    (hhi : n ≤ 64) (hnan : (ofEngine out).hasNan = false) (hf : f < 5 * n / 3)
    (hlong : 2 ≤ 5 * n / 3) :
    (ofEngine out).frameAt (5 * n / 3) f = ofFrame
      { resampledFrame out f with
        jointVelocities := Gearsonic.forwardDifference out
          (if f < 5 * n / 3 - 1 then f else 5 * n / 3 - 2) } := by
  obtain ⟨hposition, hquaternion, hjoints⟩ := resampled_of_accepted hn hhi hnan hf
  have hvelocity : ∀ g, g + 1 < 5 * n / 3 → (ofEngine out).forwardDifference g =
      fun j => .finite (Gearsonic.forwardDifference out g j) := by
    intro g hg
    funext j
    unfold forwardDifference Gearsonic.forwardDifference
    rw [(resampled_of_accepted hn hhi hnan hg).2.2,
      (resampled_of_accepted hn hhi hnan (Nat.lt_of_succ_lt hg)).2.2]
    rfl
  have hlast : (if f < 5 * n / 3 - 1 then f else 5 * n / 3 - 2) + 1 < 5 * n / 3 := by
    split
    · omega
    · omega
  unfold frameAt
  rw [hposition, hquaternion, hjoints, hvelocity _ hlast]
  rfl

/-- Without infinities the frames are those of `resample30HzTo50Hz`. -/
theorem toFrames_ofEngine (m : MotionSequence50Hz ℝ) (out : EngineOutput ℝ) :
    (ofEngine out).toFrames =
      (resample30HzTo50Hz m out).map fun seq => seq.frames.map ofFrame := by
  have hcount : (ofEngine out).numPredFrames = out.numPredFrames := rfl
  unfold toFrames resample30HzTo50Hz
  rw [hcount, ← hasNan_ofEngine]
  split
  · rfl
  · rename_i hrange
    split
    · rfl
    · rename_i hnan
      obtain ⟨n, hn⟩ : ∃ n : Nat, (ofEngine out).numPredFrames = n :=
        ⟨out.numPredFrames.toNat, by omega⟩
      have hmax : kMaxPlannerFrames = 64 := rfl
      have hhi : n ≤ 64 := by omega
      have hsame : min (CMath.floor ((out.numPredFrames : ℝ) / 30.0 * 50.0))
          (MotionSequence50Hz.kCapacity : Int) = (ofEngine out).n50hz := rfl
      dsimp only
      rw [hsame, n50hz_eq hn hhi]
      split
      · rfl
      · rename_i hlong
        rw [Int.toNat_natCast, Option.map_some, List.map_map]
        refine congrArg some (List.map_congr_left fun f hf => ?_)
        rw [List.mem_range] at hf
        exact frameAt_ofEngine hn hhi (Bool.eq_false_of_not_eq_true hnan) hf (by omega)

end FloatOutput

end Gearsonic
