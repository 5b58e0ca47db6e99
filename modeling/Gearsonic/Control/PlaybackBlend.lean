import Gearsonic.Common.Quaternions
import Gearsonic.Control.PlaybackStorage
import Gearsonic.Numeric.Slide
import Gearsonic.Planner.PlannerInference
import Gearsonic.Transition.Basic
import Mathlib.Order.Interval.Set.UnorderedInterval

/-!
# What a blended plan plays

A plan is blended in from frame `max 0 (gen_frame - cursor)` of the new timeline on, over eight
frames, whether it comes early, in time, or late. Over exact arithmetic the new timeline starts
at the old cursor's frame, is the old one up to there and the plan after that, and in between each
number lies between the two.

* `blendedAt`: one frame of the loop.
* `InBounds`: the frames and the cursor after any sequence of advances and resets.
* `playback_blending`: the law of one advance, and the bounds of every sequence of them.
-/

namespace Gearsonic

open MotionSequence50Hz (Frame kCapacity)
open WholeBodyController (kBlendFrames)
open Numeric

/-- The joints, velocities and position of a frame. -/
structure SamePose (o p : Frame ℝ) : Prop where
  joints : o.joints = p.joints
  jointVelocities : o.jointVelocities = p.jointVelocities
  position : o.position = p.position

/-- Every joint, velocity and position value lies between those of two frames. -/
structure BetweenPoses (a b o : Frame ℝ) : Prop where
  joints : ∀ j, o.joints j ∈ Set.uIcc (a.joints j) (b.joints j)
  jointVelocities : ∀ j,
    o.jointVelocities j ∈ Set.uIcc (a.jointVelocities j) (b.jointVelocities j)
  position : ∀ i, o.position i ∈ Set.uIcc (a.position i) (b.position i)

/-- Frame `f` of a plan blended into a playback, and the accesses it is made of. -/
structure BlendedAt (old gen : StoredSequence ℝ) (cursor f : Int) (o : Frame ℝ) : Prop where
  between : ∃ a b, old.load (min (cursor + f) (old.timesteps - 1)) = some a ∧
    gen.load (clamp (f + cursor - gen.genFrame) 0 (gen.timesteps - 1)) = some b ∧
    BetweenPoses a b o
  before : f ≤ max 0 (gen.genFrame - cursor) → ∃ a,
    old.load (min (cursor + f) (old.timesteps - 1)) = some a ∧ SamePose o a ∧
      Oriented o.quaternion a.quaternion
  after : max 0 (gen.genFrame - cursor) + 8 ≤ f → ∃ b,
    gen.load (f + cursor - gen.genFrame) = some b ∧ SamePose o b ∧
      (Oriented o.quaternion b.quaternion ∨ Oriented o.quaternion (-b.quaternion))

namespace StoredPlayback

/-! ## One frame -/

section

variable {a b : Frame ℝ} {w : ℝ}

theorem slide_mem {x y : ℝ} (h0 : 0 ≤ w) (h1 : w ≤ 1) :
    (1.0 - w) * x + w * y ∈ Set.uIcc x y := by
  have hslide : (1.0 - w) * x + w * y = slide x y w := by
    unfold slide
    norm_num
  rw [hslide]
  exact ⟨le_slide h0 h1 inf_le_left inf_le_right, slide_le h0 h1 le_sup_left le_sup_right⟩

theorem crossfade_between (h0 : 0 ≤ w) (h1 : w ≤ 1) : BetweenPoses a b (crossfade a b w) where
  joints _ := slide_mem h0 h1
  jointVelocities _ := slide_mem h0 h1
  position _ := slide_mem h0 h1

theorem crossfade_zero :
    SamePose (crossfade a b 0) a ∧ Oriented (crossfade a b 0).quaternion a.quaternion := by
  have hold : ∀ x y : ℝ, (1.0 - 0) * x + 0 * y = x := by
    intro x y
    norm_num
  refine ⟨⟨?_, ?_, ?_⟩, quatSlerp_zero _ _⟩
  · exact funext fun j => hold _ _
  · exact funext fun j => hold _ _
  · exact funext fun i => hold _ _

theorem crossfade_one :
    SamePose (crossfade a b 1) b ∧
      (Oriented (crossfade a b 1).quaternion b.quaternion ∨
        Oriented (crossfade a b 1).quaternion (-b.quaternion)) := by
  have hnew : ∀ x y : ℝ, (1.0 - 1) * x + 1 * y = y := by
    intro x y
    norm_num
  refine ⟨⟨?_, ?_, ?_⟩, quatSlerp_one _ _⟩
  · exact funext fun j => hnew _ _
  · exact funext fun j => hnew _ _
  · exact funext fun i => hnew _ _

end

variable {blendStart : Int} {f : Nat}

theorem blendWeight_mem :
    (blendWeight blendStart f : ℝ) ∈ Set.Icc 0 1 :=
  clamp_mem zero_le_one _

theorem blendWeight_before (h : (f : Int) ≤ blendStart) : (blendWeight blendStart f : ℝ) = 0 := by
  have hle : ((((f : Int) - blendStart : Int) : ℝ)) / (kBlendFrames : ℝ) ≤ 0 :=
    div_nonpos_of_nonpos_of_nonneg (Int.cast_nonpos.mpr (by omega)) (Nat.cast_nonneg _)
  unfold blendWeight clamp
  split
  · rfl
  · rename_i hnot
    rw [le_antisymm hle (not_lt.mp hnot), if_neg (not_lt.mpr zero_le_one)]

theorem blendWeight_after (h : blendStart + 8 ≤ (f : Int)) :
    (blendWeight blendStart f : ℝ) = 1 := by
  have hcast : (8 : ℝ) ≤ (((f : Int) - blendStart : Int) : ℝ) := by
    exact_mod_cast (show (8 : Int) ≤ (f : Int) - blendStart by omega)
  have hge : 1 ≤ ((((f : Int) - blendStart : Int) : ℝ)) / (kBlendFrames : ℝ) := by
    have hframes : (kBlendFrames : ℝ) = 8 := by norm_num [kBlendFrames]
    rw [hframes, le_div_iff₀ (by norm_num)]
    linarith
  unfold blendWeight clamp
  rw [if_neg (not_lt.mpr (zero_le_one.trans hge))]
  split
  · rfl
  · rename_i hnot
    exact le_antisymm (not_lt.mp hnot) hge

theorem clamp_of_mem {x lo hi : Int} (hlo : lo ≤ x) (hhi : x ≤ hi) : clamp x lo hi = x := by
  unfold clamp
  rw [if_neg (not_lt.mpr hlo), if_neg (not_lt.mpr hhi)]

theorem clamp_of_nonneg {x hi : Int} (h0 : 0 ≤ x) : clamp x 0 hi = min x hi := by
  unfold clamp
  rw [if_neg (not_lt.mpr h0)]
  split <;> omega

variable {old gen : StoredSequence ℝ} {cursor : Int}

/-- Frame `f` of the loop. -/
theorem blendedAt (hold : old.Counted) (hgen : gen.Counted) (hT : 0 < old.timesteps)
    (hn : 0 < gen.timesteps) (hcursor : 0 ≤ cursor)
    (hf : (f : Int) < gen.genFrame - cursor + gen.timesteps) :
    BlendedAt old gen cursor f (blended old gen cursor f) := by
  have holdIndex : clamp ((f : Int) + cursor) 0 (old.timesteps - 1) =
      min (cursor + f) (old.timesteps - 1) := by
    rw [clamp_of_nonneg (by omega), add_comm]
  have ha := StoredSequence.load_clamp hold hT ((f : Int) + cursor)
  have hb := StoredSequence.load_clamp hgen hn ((f : Int) + cursor - gen.genFrame)
  unfold blended
  rw [holdIndex] at ha ⊢
  refine ⟨⟨_, _, ha, hb, ?_⟩, fun hbefore => ⟨_, ha, ?_⟩, fun hafter => ?_⟩
  · exact crossfade_between blendWeight_mem.1 blendWeight_mem.2
  · rw [blendWeight_before hbefore]
    exact crossfade_zero
  · have hindex : clamp ((f : Int) + cursor - gen.genFrame) 0 (gen.timesteps - 1) =
        f + cursor - gen.genFrame := clamp_of_mem (by omega) (by omega)
    rw [hindex] at hb ⊢
    rw [blendWeight_after hafter]
    exact ⟨_, hb, crossfade_one⟩

/-! ## One advance -/

/-- A playback that has begun, and a new plan with frames. -/
structure BlendCase (s : StoredPlayback ℝ) (gen : StoredSequence ℝ) (stamp : TimePoint) :
    Prop where
  old_counted : s.motion.Counted
  gen_counted : gen.Counted
  old_pos : 0 < s.motion.timesteps
  gen_pos : 0 < gen.timesteps
  cursor_nonneg : 0 ≤ s.cursor
  cursor_lt : s.cursor < s.motion.timesteps
  new : stamp ≠ s.lastPlanStamp

/-- The plan is dropped, or the playback from the cursor on is blended into it. -/
structure BlendLaw (s : StoredPlayback ℝ) (gen : StoredSequence ℝ) (s' : StoredPlayback ℝ) :
    Prop where
  dropped : gen.genFrame - s.cursor + gen.timesteps ≤ 0 → s'.motion = s.motion
  length : 0 < gen.genFrame - s.cursor + gen.timesteps →
    s'.motion.timesteps = min (gen.genFrame - s.cursor + gen.timesteps) 1500
  first : 0 < gen.genFrame - s.cursor + gen.timesteps → ∃ a o,
    s.motion.load s.cursor = some a ∧ s'.motion.load 0 = some o ∧ SamePose o a ∧
      Oriented o.quaternion a.quaternion
  frames : 0 < gen.genFrame - s.cursor + gen.timesteps → ∀ f : Int, 0 ≤ f →
    f < s'.motion.timesteps → ∃ o, s'.motion.load f = some o ∧
      BlendedAt s.motion gen s.cursor f o
  counted : s'.motion.Counted
  capacity : s.motion.timesteps ≤ 1500 → s'.motion.timesteps ≤ 1500
  cursor_nonneg : 0 ≤ s'.cursor
  cursor_lt : s'.cursor < s'.motion.timesteps

/-- The cursor of a playback with frames stays on them. -/
theorem advanceCursor_bounds {s : StoredPlayback ℝ} (h0 : 0 ≤ s.cursor)
    (hlt : s.cursor < s.motion.timesteps) :
    s.advanceCursor.motion = s.motion ∧ 0 ≤ s.advanceCursor.cursor ∧
      s.advanceCursor.cursor < s.motion.timesteps := by
  unfold advanceCursor
  split
  · refine ⟨rfl, ?_, ?_⟩ <;> dsimp only <;> omega
  · exact ⟨rfl, h0, hlt⟩

variable {s : StoredPlayback ℝ} {stamp : TimePoint}

/-- The plan has frames past the cursor. -/
def Reaches (s : StoredPlayback ℝ) (gen : StoredSequence ℝ) : Prop :=
  0 < gen.genFrame - s.cursor + gen.timesteps

/-- The playback with the plan blended in, before its cursor moves on. -/
noncomputable def blendedIn (s : StoredPlayback ℝ) (gen : StoredSequence ℝ) (stamp : TimePoint) :
    StoredPlayback ℝ :=
  let newLen := min (gen.genFrame - s.cursor + gen.timesteps) (kCapacity : Int)
  { s with
    lastPlanStamp := stamp
    motion :=
      { frames := (List.range newLen.toNat).map (blended s.motion gen s.cursor)
        timesteps := newLen }
    cursor := 0 }

theorem blendedIn_timesteps : (s.blendedIn gen stamp).motion.timesteps =
    min (gen.genFrame - s.cursor + gen.timesteps) 1500 := rfl

theorem blendedIn_counted (h : s.Reaches gen) : (s.blendedIn gen stamp).motion.Counted := by
  unfold Reaches at h
  unfold StoredSequence.Counted
  rw [blendedIn_timesteps]
  unfold blendedIn
  dsimp only
  rw [List.length_map, List.length_range]
  have hcap : ((kCapacity : Nat) : Int) = 1500 := rfl
  omega

theorem blendedIn_load {f : Nat} (hf : (f : Int) < (s.blendedIn gen stamp).motion.timesteps) :
    (s.blendedIn gen stamp).motion.load f = some (blended s.motion gen s.cursor f) := by
  have hlt : f < (s.blendedIn gen stamp).motion.timesteps.toNat := by omega
  unfold StoredSequence.load
  rw [if_pos (Int.natCast_nonneg f), Int.toNat_natCast]
  unfold blendedIn at hlt ⊢
  dsimp only at hlt ⊢
  rw [List.getElem?_map, List.getElem?_range hlt]
  rfl

/-- The advance that takes a new plan into a playback that has begun. -/
theorem BlendCase.advance_eq (h : BlendCase s gen stamp) :
    s.advance ⟨some gen, stamp⟩ =
      some (if 0 < gen.genFrame - s.cursor + gen.timesteps then
        (s.blendedIn gen stamp).advanceCursor
      else ({ s with lastPlanStamp := stamp }).advanceCursor) := by
  have hpos := h.old_pos
  unfold advance adopt
  dsimp only
  rw [if_pos h.new, if_neg (show ¬ s.motion.timesteps = 0 by omega)]
  split
  · rw [blend_eq h.old_counted h.gen_counted h.old_pos h.gen_pos]
    rfl
  · rfl

theorem BlendCase.law_blended (h : BlendCase s gen stamp) (hreaches : s.Reaches gen) :
    BlendLaw s gen (s.blendedIn gen stamp).advanceCursor := by
  have hlen := hreaches
  unfold Reaches at hlen
  have htimesteps : (s.blendedIn gen stamp).motion.timesteps = _ := blendedIn_timesteps
  obtain ⟨hmotion, h0, hlt⟩ := advanceCursor_bounds (s := s.blendedIn gen stamp) le_rfl
    (show (0 : Int) < _ by omega)
  have hframes : ∀ f : Int, 0 ≤ f → f < (s.blendedIn gen stamp).motion.timesteps →
      ∃ o, (s.blendedIn gen stamp).motion.load f = some o ∧
        BlendedAt s.motion gen s.cursor f o := by
    intro f hf0 hf
    obtain ⟨n, rfl⟩ := Int.eq_ofNat_of_zero_le hf0
    exact ⟨_, blendedIn_load hf, blendedAt h.old_counted h.gen_counted h.old_pos h.gen_pos
      h.cursor_nonneg (by omega)⟩
  have hfirst : ∃ a o, s.motion.load s.cursor = some a ∧
      (s.blendedIn gen stamp).motion.load 0 = some o ∧ SamePose o a ∧
        Oriented o.quaternion a.quaternion := by
    obtain ⟨o, ho, hat⟩ := hframes 0 le_rfl (by omega)
    obtain ⟨a, ha, hsame, horiented⟩ := hat.before (le_max_left _ _)
    have hindex : min (s.cursor + 0) (s.motion.timesteps - 1) = s.cursor := by
      have hinside := h.cursor_lt
      omega
    rw [hindex] at ha
    exact ⟨a, o, ha, ho, hsame, horiented⟩
  refine ⟨fun hle => absurd hlen (not_lt.mpr hle), fun _ => ?_, fun _ => ?_, fun _ => ?_, ?_,
    fun _ => ?_, h0, ?_⟩
  · rw [hmotion]
    exact htimesteps
  · rw [hmotion]
    exact hfirst
  · rw [hmotion]
    exact hframes
  · rw [hmotion]
    exact blendedIn_counted hreaches
  · rw [hmotion, htimesteps]
    exact min_le_right _ _
  · rw [hmotion]
    exact hlt

theorem BlendCase.law_dropped (h : BlendCase s gen stamp) (hdropped : ¬ s.Reaches gen) :
    BlendLaw s gen ({ s with lastPlanStamp := stamp } : StoredPlayback ℝ).advanceCursor := by
  obtain ⟨hmotion, h0, hlt⟩ := advanceCursor_bounds
    (s := ({ s with lastPlanStamp := stamp } : StoredPlayback ℝ)) h.cursor_nonneg h.cursor_lt
  refine ⟨fun _ => hmotion, fun hpos => absurd hpos hdropped, fun hpos => absurd hpos hdropped,
    fun hpos => absurd hpos hdropped, ?_, fun hle => ?_, h0, ?_⟩
  · rw [hmotion]
    exact h.old_counted
  · rw [hmotion]
    exact hle
  · rw [hmotion]
    exact hlt

theorem BlendCase.law (h : BlendCase s gen stamp) :
    ∃ s', s.advance ⟨some gen, stamp⟩ = some s' ∧ BlendLaw s gen s' := by
  refine ⟨_, h.advance_eq, ?_⟩
  split
  · rename_i hreaches
    exact h.law_blended hreaches
  · rename_i hdropped
    exact h.law_dropped hdropped

/-! ## Every sequence of advances and resets -/

section

variable {K : Type} [Field K] [LinearOrder K] [CMath K]

inductive Op (K : Type) [Field K] where
  | advance (plan : TimestampedData (StoredSequence K))
  | reset

/-- The plan that an advance finds has been through `resize`. -/
def Op.Sized : Op K → Prop
  | .advance plan => ∀ gen, plan.data = some gen →
    gen.Counted ∧ 0 < gen.timesteps ∧ gen.timesteps ≤ 1500
  | .reset => True

def step (s : StoredPlayback K) : Op K → Option (StoredPlayback K)
  | .advance plan => s.advance plan
  | .reset => some {}

structure InBounds (s : StoredPlayback K) : Prop where
  counted : s.motion.Counted
  capacity : s.motion.timesteps ≤ 1500
  cursor : s.motion.timesteps = 0 ∧ s.cursor = 0 ∨
    0 ≤ s.cursor ∧ s.cursor < s.motion.timesteps

end

theorem InBounds.start : InBounds ({} : StoredPlayback ℝ) := ⟨rfl, by decide, Or.inl ⟨rfl, rfl⟩⟩

theorem InBounds.advanceCursor (h : s.InBounds) : s.advanceCursor.InBounds := by
  rcases h.cursor with ⟨hempty, hzero⟩ | ⟨h0, hlt⟩
  · have hstays : s.advanceCursor = s := by
      unfold StoredPlayback.advanceCursor
      rw [if_neg]
      simp [hempty]
    rw [hstays]
    exact h
  · obtain ⟨hmotion, h0', hlt'⟩ := advanceCursor_bounds h0 hlt
    refine ⟨?_, ?_, Or.inr ⟨h0', ?_⟩⟩
    · rw [hmotion]
      exact h.counted
    · rw [hmotion]
      exact h.capacity
    · rw [hmotion]
      exact hlt'

theorem InBounds.step (h : s.InBounds) {op : Op ℝ} (hop : op.Sized) :
    ∃ s', s.step op = some s' ∧ s'.InBounds := by
  cases op with
  | reset => exact ⟨_, rfl, .start⟩
  | advance plan =>
    obtain ⟨data, stamp⟩ := plan
    cases data with
    | none => exact ⟨_, rfl, h.advanceCursor⟩
    | some gen =>
      obtain ⟨hgen, hn, hcap⟩ := hop gen rfl
      by_cases hnew : stamp ≠ s.lastPlanStamp
      · rcases h.cursor with ⟨hempty, hzero⟩ | ⟨h0, hlt⟩
        · have hadopted : ({ s with
              motion := gen, cursor := 0, playing := true, lastPlanStamp := stamp } :
              StoredPlayback ℝ).InBounds := ⟨hgen, hcap, Or.inr ⟨le_rfl, hn⟩⟩
          refine ⟨_, ?_, hadopted.advanceCursor⟩
          unfold StoredPlayback.step advance adopt
          dsimp only
          rw [if_pos hnew, if_pos hempty]
          rfl
        · have hpos : 0 < s.motion.timesteps := by omega
          obtain ⟨s', hadvance, hlaw⟩ := BlendCase.law
            ⟨h.counted, hgen, hpos, hn, h0, hlt, hnew⟩
          exact ⟨s', hadvance, hlaw.counted, hlaw.capacity h.capacity,
            Or.inr ⟨hlaw.cursor_nonneg, hlaw.cursor_lt⟩⟩
      · refine ⟨_, ?_, h.advanceCursor⟩
        unfold StoredPlayback.step advance
        dsimp only
        rw [if_neg hnew]
        rfl

/-- No access of any sequence of advances and resets is out of range, and the bounds hold after
it. -/
theorem InBounds.run (h : s.InBounds) {ops : List (Op ℝ)} (hops : ∀ op ∈ ops, op.Sized) :
    ∃ s', Transition.run StoredPlayback.step s ops = some s' ∧ s'.InBounds := by
  induction ops generalizing s with
  | nil => exact ⟨s, rfl, h⟩
  | cons op ops ih =>
    obtain ⟨t, hstep, ht⟩ := h.step (hops op List.mem_cons_self)
    obtain ⟨s', hrun, hs'⟩ := ih ht fun o ho => hops o (List.mem_cons_of_mem op ho)
    refine ⟨s', ?_, hs'⟩
    rw [Transition.run_cons, hstep]
    exact hrun

/-- **Playback blending.** An advance that takes a new plan drops it or blends it in frame by
frame, and after any sequence of advances and resets the frames are counted, within the capacity,
and the cursor is one of them. -/
theorem playback_blending :
    (∀ (s : StoredPlayback ℝ) (gen : StoredSequence ℝ) (stamp : TimePoint),
      BlendCase s gen stamp →
        ∃ s', s.advance ⟨some gen, stamp⟩ = some s' ∧ BlendLaw s gen s') ∧
      ∀ ops : List (Op ℝ), (∀ op ∈ ops, op.Sized) →
        ∃ s, Transition.run step {} ops = some s ∧ s.InBounds :=
  ⟨fun _ _ _ h => h.law, fun _ hops => InBounds.start.run hops⟩

/-- A plan of five frames that comes one frame late. -/
theorem playback_blending_late :
    ∃ s' : StoredPlayback ℝ,
      ({ motion := ⟨[{}, {}, {}], 3, 0⟩, cursor := 1, playing := true } :
        StoredPlayback ℝ).advance ⟨some ⟨[{}, {}, {}, {}, {}], 5, 0⟩, 1⟩ = some s' ∧
        s'.motion.timesteps = 4 ∧ 0 ≤ s'.cursor ∧ s'.cursor < 4 := by
  obtain ⟨s', hadvance, hlaw⟩ := playback_blending.1
    { motion := ⟨[{}, {}, {}], 3, 0⟩, cursor := 1, playing := true }
    ⟨[{}, {}, {}, {}, {}], 5, 0⟩ 1
    ⟨rfl, rfl, by decide, by decide, by decide, by decide, by decide⟩
  have hlength : s'.motion.timesteps = 4 := hlaw.length (by decide)
  have hlt := hlaw.cursor_lt
  rw [hlength] at hlt
  exact ⟨s', hadvance, hlength, hlaw.cursor_nonneg, hlt⟩

/-! ## The planner's plans and the controller -/

/-- What the planner publishes has been through `resize`. -/
theorem runAndPublish_sized {p : PlannerInference ℝ} {engine : Option (EngineOutput ℝ)}
    {now : TimePoint} (hok : (p.runAndPublish engine now).2 = true) :
    ∃ gen, (p.runAndPublish engine now).1.motion50hzBuf.data = some gen ∧
      0 < gen.stored.timesteps ∧ gen.stored.timesteps ≤ 1500 := by
  unfold PlannerInference.runAndPublish at *
  cases hseq : engine.bind (resample30HzTo50Hz p.motionSeq) with
  | none =>
    rw [hseq] at hok
    cases hok
  | some seq =>
    refine ⟨_, rfl, ?_⟩
    obtain ⟨out, -, hout⟩ := Option.bind_eq_some_iff.mp hseq
    have hcap : (kCapacity : Int) = 1500 := rfl
    unfold resample30HzTo50Hz at hout
    split at hout
    · cases hout
    · split at hout
      · cases hout
      · dsimp only at hout
        split at hout
        · cases hout
        · cases hout
          unfold MotionSequence50Hz.stored MotionSequence50Hz.timesteps
          dsimp only
          rw [List.length_map, List.length_range]
          omega

/-- The controller's playback stays in its bounds over plans of such a size. -/
theorem InBounds.advancePlayback {c : WholeBodyController ℝ} (h : c.playback.InBounds)
    {plan : TimestampedData (MotionSequence50Hz ℝ)}
    (hplan : ∀ gen, plan.data = some gen →
      0 < gen.stored.timesteps ∧ gen.stored.timesteps ≤ 1500) :
    (c.advancePlayback plan).playback.InBounds := by
  have hframes : ∀ gen, plan.data = some gen → gen.timesteps ≠ 0 := fun gen hgen =>
    (Int.natCast_pos.mp (hplan gen hgen).1).ne'
  have hsized : Op.Sized (.advance ⟨plan.data.map MotionSequence50Hz.stored, plan.timestamp⟩) := by
    intro gen hgen
    obtain ⟨m, hm, rfl⟩ := Option.map_eq_some_iff.mp hgen
    exact ⟨m.stored_counted, hplan m hm⟩
  obtain ⟨s', hstep, hs'⟩ := h.step hsized
  have hadvance : some _ = some s' := (c.advancePlayback_playback hframes).symm.trans hstep
  rw [Option.some.inj hadvance]
  exact hs'

end StoredPlayback

end Gearsonic
