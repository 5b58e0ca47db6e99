import Gearsonic.Numeric.Stores
import Gearsonic.Planner.Resampling

/-!
# The context of a replan

`update_context_from_motion` reads four rows at 30 Hz out of a 50 Hz motion, and puts the joints
back into MuJoCo order. The motion was resampled from 30 Hz rows itself, with the joints the other
way.

* `updateContextFromMotion_eq`: which frames a row is read from, for every motion.
* `affine_context`: on an affine motion the two are inverse to each other.
-/

set_option linter.unusedSectionVars false

namespace Gearsonic

open EngineOutput SampleLine

/-! ## The permutation -/

theorem mujocoToIsaaclab_injective : Function.Injective mujocoToIsaaclab := by
  intro i j h
  rw [← isaaclabToMujoco_mujocoToIsaaclab i, h, isaaclabToMujoco_mujocoToIsaaclab]

/-- A joint arrives in the slot it came from. -/
theorem scatterJoints_apply (v : Joints ℝ) (j : Fin 29) :
    scatterJoints v (mujocoToIsaaclab j) = v j := by
  have hloop : scatterJoints v = Stores.exec (fun _ => 0)
      ((List.finRange 29).map fun j => (mujocoToIsaaclab j, v j)) := by
    unfold scatterJoints Stores.exec
    rw [List.foldl_map]
  rw [hloop]
  exact Stores.exec_map_of_injective mujocoToIsaaclab_injective (List.mem_finRange j)

theorem scatterJoints_eq (v : Joints ℝ) (i : Fin 29) :
    scatterJoints v i = v (isaaclabToMujoco i) := by
  have h := scatterJoints_apply v (isaaclabToMujoco i)
  rwa [mujocoToIsaaclab_isaaclabToMujoco] at h

/-! ## The frames a row is read from -/

/-- Where context row `k` lies in the 50 Hz frames. -/
noncomputable def contextPosition (genFrame : Int) (k : Fin 4) : ℝ := genFrame + 5 * k.val / 3

/-- The two frame indices of row `k`. -/
noncomputable def contextFirst (genFrame : Int) (motion : MotionSequence50Hz ℝ) (k : Fin 4) :
    Int :=
  clamp ⌊contextPosition genFrame k⌋ 0 (motion.timesteps - 1)

noncomputable def contextSecond (genFrame : Int) (motion : MotionSequence50Hz ℝ) (k : Fin 4) :
    Int :=
  min (contextFirst genFrame motion k + 1) (motion.timesteps - 1)

variable {motion : MotionSequence50Hz ℝ} {genFrame : Int} {k : Fin 4}

theorem f50hz_eq (genFrame : Int) (k : Fin 4) :
    ((genFrame : ℝ) / 50.0 + (k.val : ℝ) / 30.0) * 50.0 = contextPosition genFrame k := by
  unfold contextPosition
  norm_num
  ring

/-- A row, as it is read from its two frames. -/
theorem updateContextFromMotion_eq (genFrame : Int) (motion : MotionSequence50Hz ℝ) (k : Fin 4) :
    updateContextFromMotion genFrame motion k =
      let w := Int.fract (contextPosition genFrame k)
      let a := motion.frame (contextFirst genFrame motion k)
      let b := motion.frame (contextSecond genFrame motion k)
      qposRow (fun i => (1 - w) * a.position i + w * b.position i)
        (quatSlerp a.quaternion b.quaternion w)
        (scatterJoints fun j => (1 - w) * a.joints j + w * b.joints j) := by
  have hone : (1.0 : ℝ) = 1 := by norm_num
  unfold updateContextFromMotion
  dsimp only
  rw [f50hz_eq, hone]
  rfl

theorem contextFirst_mem (hpos : 0 < motion.timesteps) :
    0 ≤ contextFirst genFrame motion k ∧ contextFirst genFrame motion k ≤ motion.timesteps - 1 :=
  clamp_mem (by omega) _

theorem contextSecond_mem (hpos : 0 < motion.timesteps) :
    0 ≤ contextSecond genFrame motion k ∧
      contextSecond genFrame motion k ≤ motion.timesteps - 1 := by
  have hfirst : 0 ≤ contextFirst genFrame motion k := (contextFirst_mem hpos).1
  unfold contextSecond
  omega

/-- Inside the motion nothing is clamped. -/
theorem contextFirst_eq (h0 : 0 ≤ ⌊contextPosition genFrame k⌋)
    (h1 : ⌊contextPosition genFrame k⌋ ≤ motion.timesteps - 1) :
    contextFirst genFrame motion k = ⌊contextPosition genFrame k⌋ := by
  unfold contextFirst clamp
  rw [if_neg (not_lt.mpr h0), if_neg (not_lt.mpr h1)]

/-- At the end of the motion and behind it, both are the last frame. -/
theorem context_held (hpos : 0 < motion.timesteps)
    (hend : (motion.timesteps : Int) - 1 ≤ ⌊contextPosition genFrame k⌋) :
    contextFirst genFrame motion k = motion.timesteps - 1 ∧
      contextSecond genFrame motion k = motion.timesteps - 1 := by
  have hfirst : contextFirst genFrame motion k = motion.timesteps - 1 := by
    unfold contextFirst clamp
    rw [if_neg (by omega)]
    split
    · rfl
    · omega
  refine ⟨hfirst, ?_⟩
  unfold contextSecond
  omega

/-- Two equal frames are interpolated to the frame. -/
theorem row_held {fr : MotionSequence50Hz.Frame ℝ} (hunit : UnitQuat fr.quaternion) (w : ℝ) :
    qposRow (fun i => (1 - w) * fr.position i + w * fr.position i)
        (quatSlerp fr.quaternion fr.quaternion w)
        (scatterJoints fun j => (1 - w) * fr.joints j + w * fr.joints j) =
      qposRow fr.position fr.quaternion (scatterJoints fr.joints) := by
  have hweights : ∀ x : ℝ, (1 - w) * x + w * x = x := fun x => by ring
  simp only [hweights, quatSlerp_self hunit]

/-! ## Affine motions -/

/-- Root position and joints of the predicted rows lie on lines. -/
def AffineRows (out : EngineOutput ℝ) (start slope : Fin 36 → ℝ) : Prop :=
  ∀ r : Nat, (r : Int) < out.numPredFrames → ∀ i : Fin 36, (i.val < 3 ∨ 7 ≤ i.val) →
    out.mujocoQpos (Fin.ofNat 64 r) i = some (start i + slope i * r)

variable {out : EngineOutput ℝ} {start slope : Fin 36 → ℝ} {N : Nat}
  {seq : MotionSequence50Hz ℝ}

theorem AffineRows.row (h : AffineRows out start slope) (hN : out.numPredFrames = N) {i : Fin 36}
    (hi : i.val < 3 ∨ 7 ≤ i.val) (n : Int) (h0 : 0 ≤ n) (h1 : n ≤ (N : Int) - 1) :
    out.row n i = start i + slope i * n := by
  obtain ⟨r, rfl⟩ : ∃ r : Nat, n = r := ⟨n.toNat, by omega⟩
  unfold EngineOutput.row
  rw [Int.toNat_natCast, h r (by omega) i hi]
  rfl

/-- The 50 Hz frames of lines are lines, as far as the last source frame. -/
theorem affine_frame (haffine : AffineRows out start slope) (hN : out.numPredFrames = N)
    (h : Resampled out N seq) {f : Nat} (hf : f < 5 * N / 3) (hlate : (3 * f : ℝ) / 5 ≤ N - 1) :
    (∀ i : Fin 3, (seq.frame f).position i =
        start (i.castLE FloatOutput.three_le) +
          slope (i.castLE FloatOutput.three_le) * (3 * f / 5)) ∧
      ∀ j : Fin 29, (seq.frame f).joints j = start (Fin.natAdd 7 (mujocoToIsaaclab j)) +
        slope (Fin.natAdd 7 (mujocoToIsaaclab j)) * (3 * f / 5) := by
  have hlow : (0 : ℝ) ≤ 3 * f / 5 := by positivity
  have hhigh : (3 * f / 5 : ℝ) ≤ (((N : Int) - 1 : Int) : ℝ) := by
    push_cast
    exact hlate
  refine ⟨fun i => ?_, fun j => ?_⟩
  · rw [h.position f hf i, ← sampleLine_rows (fun r => rowPosition (out.row r) i) (by omega) f]
    exact sampleLine_affine (fun n h0 h1 => haffine.row hN (Or.inl i.isLt) n h0 h1) hlow hhigh
  · have hslot : 7 ≤ (Fin.natAdd 7 (mujocoToIsaaclab j)).val := Nat.le_add_right 7 _
    rw [h.joints f hf j,
      ← sampleLine_rows (fun r => out.row r (Fin.natAdd 7 (mujocoToIsaaclab j))) (by omega) f]
    exact sampleLine_affine (fun n h0 h1 => haffine.row hN (Or.inr hslot) n h0 h1) hlow hhigh

/-- Between frames `f` and `f + 1` of a line lies the line. -/
theorem line_between {g f : Nat} {k : Fin 4} (hf : ⌊contextPosition g k⌋ = f) (a b : ℝ) :
    (1 - Int.fract (contextPosition g k)) * (a + b * (3 * f / 5)) +
        Int.fract (contextPosition g k) * (a + b * (3 * (f + 1 : Nat) / 5)) =
      a + b * (30 * ((g : ℝ) / 50 + k.val / 30)) := by
  have hfract : Int.fract (contextPosition g k) = contextPosition g k - f := by
    rw [Int.fract, hf]
    rfl
  rw [hfract]
  unfold contextPosition
  push_cast
  ring

theorem qposRow_position (position : Vec3 ℝ) (quaternion : Quat ℝ) (joints : Joints ℝ) {i : Fin 36}
    (hi : i.val < 3) : qposRow position quaternion joints i = position ⟨i.val, hi⟩ := by
  unfold qposRow
  rw [dif_pos hi]

/-- A joint slot of a row whose joints have been scattered. -/
theorem qposRow_scatter {i : Fin 36} (hi : 7 ≤ i.val) :
    ∃ j : Fin 29, Fin.natAdd 7 (mujocoToIsaaclab j) = i ∧
      ∀ (position : Vec3 ℝ) (quaternion : Quat ℝ) (v : Joints ℝ),
        qposRow position quaternion (scatterJoints v) i = v j := by
  refine ⟨isaaclabToMujoco ⟨i.val - 7, by omega⟩, ?_, fun position quaternion v => ?_⟩
  · rw [mujocoToIsaaclab_isaaclabToMujoco]
    refine Fin.ext ?_
    show 7 + (i.val - 7) = i.val
    omega
  · have hnot : ¬ i.val < 3 := by omega
    have hnot' : ¬ i.val < 7 := by omega
    unfold qposRow
    rw [dif_neg hnot, dif_neg hnot', scatterJoints_eq]

/-- A row of the context is the affine motion at its own time. -/
theorem affine_context (haffine : AffineRows out start slope) (hN : out.numPredFrames = N)
    (h : Resampled out N seq) {g : Nat} {k : Fin 4}
    (hexists : ⌊contextPosition g k⌋ + 1 < (seq.timesteps : Int))
    (hlate : (⌊contextPosition g k⌋ + 1 : ℝ) / 50 ≤ ((N : ℝ) - 1) / 30) {i : Fin 36}
    (hi : i.val < 3 ∨ 7 ≤ i.val) :
    updateContextFromMotion g seq k i = start i + slope i * (30 * ((g : ℝ) / 50 + k.val / 30)) := by
  have hpos : 0 ≤ contextPosition g k := by
    unfold contextPosition
    positivity
  obtain ⟨f, hf⟩ : ∃ f : Nat, ⌊contextPosition g k⌋ = f :=
    ⟨⌊contextPosition g k⌋.toNat, by have := Int.floor_nonneg.mpr hpos; omega⟩
  have hcount := h.timesteps
  have hfirst : contextFirst g seq k = f := by rw [contextFirst_eq (by omega) (by omega), hf]
  have hsecond : contextSecond g seq k = (f + 1 : Nat) := by
    unfold contextSecond
    rw [hfirst]
    omega
  rw [hf] at hlate
  have hthis := affine_frame haffine hN h (f := f) (by omega)
    (by push_cast at hlate ⊢; linarith)
  have hnext := affine_frame haffine hN h (f := f + 1) (by omega)
    (by push_cast at hlate ⊢; linarith)
  rw [updateContextFromMotion_eq, hfirst, hsecond]
  dsimp only
  -- both frames lie on the line, so what lies between them does
  rcases hi with hi | hi
  · rw [qposRow_position _ _ _ hi, hthis.1, hnext.1]
    exact line_between hf _ _
  · obtain ⟨j, hj, hslot⟩ := qposRow_scatter hi
    rw [hslot, hthis.2, hnext.2, hj]
    exact line_between hf _ _

/-- **The context undoes the resampling.** On an affine motion, as long as the two 50 Hz frames of
a row exist and lie no later than the last source frame, position and joints of the row are the
motion at the time of the row. For every motion with a frame, the frames read exist, and from its
end on they are the last one. -/
theorem context_sampling_law :
    (∀ (m : MotionSequence50Hz ℝ) (out : EngineOutput ℝ) (start slope : Fin 36 → ℝ)
        (seq : MotionSequence50Hz ℝ) (g : Nat) (k : Fin 4), AffineRows out start slope →
      resample30HzTo50Hz m out = some seq →
      ⌊(g : ℝ) + 5 * k.val / 3⌋ + 1 < (seq.timesteps : Int) →
      (⌊(g : ℝ) + 5 * k.val / 3⌋ + 1 : ℝ) / 50 ≤ ((out.numPredFrames : ℝ) - 1) / 30 →
      ∀ i : Fin 36, (i.val < 3 ∨ 7 ≤ i.val) → updateContextFromMotion g seq k i =
        start i + slope i * (30 * ((g : ℝ) / 50 + k.val / 30))) ∧
      ∀ (motion : MotionSequence50Hz ℝ) (g : Nat) (k : Fin 4), 0 < motion.timesteps →
        (0 ≤ contextFirst g motion k ∧ contextFirst g motion k < motion.timesteps) ∧
          (0 ≤ contextSecond g motion k ∧ contextSecond g motion k < motion.timesteps) ∧
          (updateContextFromMotion g motion k =
            let w := Int.fract (contextPosition g k)
            let a := motion.frame (contextFirst g motion k)
            let b := motion.frame (contextSecond g motion k)
            qposRow (fun i => (1 - w) * a.position i + w * b.position i)
              (quatSlerp a.quaternion b.quaternion w)
              (scatterJoints fun j => (1 - w) * a.joints j + w * b.joints j)) ∧
          ((motion.timesteps : Int) - 1 ≤ ⌊(g : ℝ) + 5 * k.val / 3⌋ →
            contextFirst g motion k = motion.timesteps - 1 ∧
              contextSecond g motion k = motion.timesteps - 1 ∧
              (UnitQuat (motion.frame (motion.timesteps - 1)).quaternion →
                updateContextFromMotion g motion k =
                  qposRow (motion.frame (motion.timesteps - 1)).position
                    (motion.frame (motion.timesteps - 1)).quaternion
                    (scatterJoints (motion.frame (motion.timesteps - 1)).joints))) := by
  have hposition : ∀ (g : Nat) (k : Fin 4), contextPosition g k = (g : ℝ) + 5 * k.val / 3 :=
    fun g k => rfl
  refine ⟨?_, ?_⟩
  · intro m out start slope seq g k haffine hseq hexists hlate i hi
    have hnot : ¬ out.Refused := by
      rw [← resample_eq_none_iff m, hseq]
      nofun
    obtain ⟨N, hN⟩ : ∃ N : Nat, out.numPredFrames = N := by
      refine ⟨out.numPredFrames.toNat, ?_⟩
      unfold Refused at hnot
      omega
    rw [resample_of_accepted m hN hnot] at hseq
    cases hseq
    rw [hN] at hlate
    exact affine_context haffine hN (resampled_of_not_refused m hN hnot) hexists hlate hi
  · intro motion g k hpos
    have hfirst : 0 ≤ contextFirst g motion k ∧
        contextFirst g motion k ≤ motion.timesteps - 1 := contextFirst_mem hpos
    have hsecond : 0 ≤ contextSecond g motion k ∧
        contextSecond g motion k ≤ motion.timesteps - 1 := contextSecond_mem hpos
    refine ⟨⟨hfirst.1, by omega⟩, ⟨hsecond.1, by omega⟩,
      updateContextFromMotion_eq g motion k, ?_⟩
    intro hend
    rw [← hposition] at hend
    obtain ⟨hfirst, hsecond⟩ := context_held hpos hend
    refine ⟨hfirst, hsecond, fun hunit => ?_⟩
    rw [updateContextFromMotion_eq, hfirst, hsecond]
    exact row_held hunit _

/-- Thirty rows on which the root and the joints move evenly, in a steady orientation. -/
noncomputable def slidingOutput : EngineOutput ℝ where
  mujocoQpos r i :=
    some (if i.val < 3 ∨ 7 ≤ i.val then i.val + r.val else if i.val = 3 then 1 else 0)
  numPredFrames := 30

/-- A row between two frames, and one behind the end of the motion. -/
theorem context_sampling_law_sliding : ∃ seq : MotionSequence50Hz ℝ,
    resample30HzTo50Hz {} slidingOutput = some seq ∧
      updateContextFromMotion 1 seq 2 20 = 22.6 ∧
      contextFirst 60 seq 0 = 49 ∧ contextSecond 60 seq 0 = 49 := by
  have haccepted : ¬ slidingOutput.Refused := by
    have hnan : ¬ slidingOutput.HasNan := by
      rintro ⟨r, i, -, hnone⟩
      cases hnone
    have hrows : slidingOutput.numPredFrames = 30 := rfl
    unfold Refused
    rw [hrows]
    rintro (h | h | h | h)
    · exact absurd h (by decide)
    · exact absurd h (by decide)
    · exact hnan h
    · exact absurd h (by decide)
  have haffine : AffineRows slidingOutput (fun i => i.val) fun _ => 1 := by
    intro r hr i hi
    have hlt : (r : Int) < 30 := hr
    have hmod : r % 64 = r := Nat.mod_eq_of_lt (by omega)
    show some (if i.val < 3 ∨ 7 ≤ i.val then (i.val : ℝ) + ((r % 64 : ℕ) : ℝ) else _) = _
    rw [if_pos hi, hmod, one_mul]
  have hrows : slidingOutput.numPredFrames = (30 : ℕ) := rfl
  have hresample := resample_of_accepted {} hrows haccepted
  have hcount := (resampled_of_not_refused {} hrows haccepted).timesteps
  have hfloor : ⌊((1 : ℕ) : ℝ) + 5 * (2 : Fin 4).val / 3⌋ = 4 := by
    norm_num [Int.floor_eq_iff]
  have hend : ((50 : ℕ) : Int) - 1 ≤ ⌊((60 : ℕ) : ℝ) + 5 * (0 : Fin 4).val / 3⌋ := by
    norm_num
  have hrow := context_sampling_law.1 {} slidingOutput _ _ _ 1 2 haffine hresample
    (by rw [hfloor, hcount]; decide) (by rw [hfloor]; norm_num [slidingOutput]) 20
    (Or.inr (by decide))
  have hlaw := context_sampling_law.2 { frames := slidingOutput.resampledFrames (5 * 30 / 3) } 60 0
    (by rw [hcount]; decide)
  obtain ⟨hfirst, hsecond, -⟩ := hlaw.2.2.2 (by rw [hcount]; exact hend)
  rw [hcount] at hfirst hsecond
  refine ⟨_, hresample, hrow.trans ?_, hfirst, hsecond⟩
  norm_num

end Gearsonic
