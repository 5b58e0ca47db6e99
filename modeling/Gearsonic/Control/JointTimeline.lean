import Gearsonic.Control.PlaybackStorage
import Gearsonic.Planner.PlannerInference

/-!
# The joints of a motion, in MuJoCo order

What the planner produces for a joint, before anything is gathered: a timeline gives the 29 joint
values of each 50 Hz frame in the engine's own order. An output has one, and blending two motions
blends theirs.

* `mujocoJoints`: the timeline of an output.
* `Carries`: a motion has the values of a timeline, gathered into IsaacLab order.
* `carries_resample`, `Carries.blendPlayback`: the resampler and the blend keep it.
-/

set_option linter.unusedSectionVars false

namespace Gearsonic

variable {K : Type} [Field K] [LinearOrder K] [CMath K]

open WholeBodyController

/-- What an output has for each MuJoCo joint at 50 Hz frame `f`: slot `7 + j` of its rows, between
the two that lie around the frame. -/
def EngineOutput.mujocoJoints (out : EngineOutput K) (f : Nat) : Joints K :=
  let f30hz : K := (f : K) / 50.0 * 30.0
  let f0 := CMath.floor f30hz
  let w1 : K := f30hz - f0
  fun j =>
    (1.0 - w1) * out.row f0 (Fin.natAdd 7 j) +
      w1 * out.row (min (f0 + 1) (out.numPredFrames - 1)) (Fin.natAdd 7 j)

/-- The timeline of a playback into which a plan has been blended. -/
def blendJoints (old gen : MotionSequence50Hz K) (cursor : Int) (played planned : Nat → Joints K)
    (f : Nat) : Joints K :=
  let wNew : K := StoredPlayback.blendWeight (max 0 (gen.genFrame - cursor)) f
  fun j =>
    (1.0 - wNew) * played (clamp (f + cursor) 0 (old.timesteps - 1)).toNat j +
      wNew * planned (clamp (f + cursor - gen.genFrame) 0 (gen.timesteps - 1)).toNat j

/-- Joint `i` of each frame is MuJoCo joint `mujocoToIsaaclab i` of the timeline. -/
def Carries (m : MotionSequence50Hz K) (v : Nat → Joints K) : Prop :=
  ∀ f : Nat, f < m.timesteps → ∀ i, (m.frame f).joints i = v f (mujocoToIsaaclab i)

variable {m old gen seq : MotionSequence50Hz K} {v played planned : Nat → Joints K}
  {out : EngineOutput K} {cursor : Int}

theorem resampledFrame_mujocoJoints (out : EngineOutput K) (f : Nat) (i : Fin 29) :
    (resampledFrame out f).joints i = out.mujocoJoints f (mujocoToIsaaclab i) := rfl

theorem Carries.empty (h : m.timesteps = 0) : Carries m v := by
  intro f hf
  rw [h] at hf
  exact absurd hf (Nat.not_lt_zero f)

/-- The frame number does not matter. -/
theorem Carries.withGenFrame (h : Carries m v) (genFrame : Int) :
    Carries { m with genFrame := genFrame } v := h

/-- The frames of a motion that was filled by number. -/
theorem frame_of_range {n : Nat} {g : Nat → MotionSequence50Hz.Frame K}
    (h : m.frames = (List.range n).map g) {f : Nat} (hf : f < m.timesteps) : m.frame f = g f := by
  unfold MotionSequence50Hz.timesteps at hf
  rw [h, List.length_map, List.length_range] at hf
  unfold MotionSequence50Hz.frame
  rw [h, Int.toNat_natCast, List.getD_eq_getElem?_getD, List.getElem?_map, List.getElem?_range hf]
  rfl

/-- What the resampler accepts has frames, and they carry the output's timeline. -/
theorem carries_resample (h : resample30HzTo50Hz m out = some seq) :
    seq.timesteps ≠ 0 ∧ Carries seq out.mujocoJoints := by
  unfold resample30HzTo50Hz at h
  split at h
  · cases h
  · split at h
    · cases h
    · dsimp only at h
      split at h
      · cases h
      · rename_i hlong
        cases h
        refine ⟨?_, fun f hf i => ?_⟩
        · unfold MotionSequence50Hz.timesteps
          rw [List.length_map, List.length_range]
          omega
        · rw [frame_of_range rfl hf]
          exact resampledFrame_mujocoJoints out f i

/-- A frame at a clamped index. -/
theorem Carries.frame_clamp (h : Carries m v) (hne : m.timesteps ≠ 0) (x : Int) (i : Fin 29) :
    (m.frame (clamp x 0 (m.timesteps - 1))).joints i =
      v (clamp x 0 (m.timesteps - 1)).toNat (mujocoToIsaaclab i) := by
  obtain ⟨h0, hle⟩ := clamp_mem (show (0 : Int) ≤ m.timesteps - 1 by omega) x
  have hlt : (clamp x 0 ((m.timesteps : Int) - 1)).toNat < m.timesteps := by omega
  have hframe := h _ hlt i
  rwa [Int.toNat_of_nonneg h0] at hframe

theorem Carries.blendFrame (hold : Carries old played) (hgen : Carries gen planned)
    (hT : old.timesteps ≠ 0) (hn : gen.timesteps ≠ 0) (f : Nat) (i : Fin 29) :
    (blendFrame old gen cursor f).joints i =
      blendJoints old gen cursor played planned f (mujocoToIsaaclab i) := by
  unfold WholeBodyController.blendFrame blendJoints
  dsimp only
  rw [hold.frame_clamp hT, hgen.frame_clamp hn]
  rfl

theorem Carries.blendPlayback (hold : Carries old played) (hgen : Carries gen planned)
    (hT : old.timesteps ≠ 0) (hn : gen.timesteps ≠ 0) :
    Carries (blendPlayback old gen cursor) (blendJoints old gen cursor played planned) := by
  intro f hf i
  rw [frame_of_range rfl hf]
  exact hold.blendFrame hgen hT hn f i

end Gearsonic
