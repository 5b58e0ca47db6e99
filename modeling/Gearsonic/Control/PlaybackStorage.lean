import Gearsonic.Control.WholeBodyController
import Mathlib.Data.List.GetD

/-!
# The playback as it is stored

`MotionSequence50Hz` has its frames in a vector and their number in a member beside it, and
`advance_playback` indexes the vectors by numbers that it clamps to the members. Here an access out
of range is `none`, so that a result says that every access of the loop was in range.

* `blend_eq`: over two sequences with frames, whose counts are right, the loop of the blend fills
  the new sequence frame by frame.
* `advancePlayback_playback`: the controller's `advancePlayback` is the stored one.
-/

set_option linter.unusedSectionVars false

namespace Gearsonic

variable {K : Type} [Field K]

open MotionSequence50Hz (Frame kCapacity)

structure StoredSequence (K : Type) [Field K] where
  frames : List (Frame K) := []
  timesteps : Int := 0
  genFrame : Int := 0

namespace StoredSequence

/-- `resize`, to at least one frame. -/
def resize (m : StoredSequence K) (n : Int) : StoredSequence K :=
  let timesteps := min n (kCapacity : Int)
  { m with timesteps := timesteps, frames := m.frames.takeD timesteps.toNat {} }

/-- The value of `frames[i]`. -/
def load (m : StoredSequence K) (i : Int) : Option (Frame K) :=
  if 0 ≤ i then m.frames[i.toNat]? else none

/-- `frames[i] = frame`. -/
def store (m : StoredSequence K) (i : Int) (frame : Frame K) : Option (StoredSequence K) :=
  if 0 ≤ i ∧ i < m.frames.length then some { m with frames := m.frames.set i.toNat frame }
  else none

/-- The frame at an index that is in range. -/
def frame (m : StoredSequence K) (i : Int) : Frame K := m.frames.getD i.toNat {}

/-- `frames.size() == timesteps`. -/
def Counted (m : StoredSequence K) : Prop := m.timesteps = m.frames.length

variable {m : StoredSequence K} {i : Int}

theorem load_eq (hcount : m.Counted) (h0 : 0 ≤ i) (hlt : i < m.timesteps) :
    m.load i = some (m.frame i) := by
  unfold Counted at hcount
  have hbound : i.toNat < m.frames.length := by omega
  unfold load frame
  rw [if_pos h0, List.getElem?_eq_getElem hbound, List.getD_eq_getElem _ _ hbound]

/-- An index clamped to a sequence that has frames. -/
theorem load_clamp (hcount : m.Counted) (hpos : 0 < m.timesteps) (x : Int) :
    m.load (clamp x 0 (m.timesteps - 1)) = some (m.frame (clamp x 0 (m.timesteps - 1))) := by
  obtain ⟨h0, hle⟩ := clamp_mem (show (0 : Int) ≤ m.timesteps - 1 by omega) x
  exact load_eq hcount h0 (by omega)

end StoredSequence

/-- The members that `advance_playback` reads and writes. -/
structure StoredPlayback (K : Type) [Field K] where
  motion : StoredSequence K := {}
  cursor : Int := 0
  playing : Bool := false
  lastPlanStamp : TimePoint := 0

namespace StoredPlayback

open WholeBodyController (kBlendFrames)

/-- One frame faded into another. -/
def crossfade (a b : Frame K) (wNew : K) [LinearOrder K] [CMath K] : Frame K :=
  let wOld : K := 1.0 - wNew
  { joints := fun j => wOld * a.joints j + wNew * b.joints j
    jointVelocities := fun j => wOld * a.jointVelocities j + wNew * b.jointVelocities j
    position := fun i => wOld * a.position i + wNew * b.position i
    quaternion := quatSlerp a.quaternion b.quaternion wNew }

variable [LinearOrder K] [CMath K]

/-- How far frame `f` is on the way to the plan. -/
def blendWeight (blendStart : Int) (f : Nat) : K :=
  clamp ((((f : Int) - blendStart : Int) : K) / kBlendFrames) 0 1

/-- One pass of the loop. -/
def blendInto (old gen : StoredSequence K) (cursor blendStart : Int) (out : StoredSequence K)
    (f : Nat) : Option (StoredSequence K) := do
  let a ← old.load (clamp (f + cursor) 0 (old.timesteps - 1))
  let b ← gen.load (clamp (f + cursor - gen.genFrame) 0 (gen.timesteps - 1))
  out.store f (crossfade a b (blendWeight blendStart f))

/-- The loop. -/
def blend (old gen : StoredSequence K) (cursor newLen : Int) : Option (StoredSequence K) :=
  let newLen := min newLen (kCapacity : Int)
  let blendStart := max 0 (gen.genFrame - cursor)
  (List.range newLen.toNat).foldlM (blendInto old gen cursor blendStart)
    (({} : StoredSequence K).resize newLen)

/-- A new plan: wholesale into an empty playback, else blended, or dropped. -/
def adopt (s : StoredPlayback K) (gen : StoredSequence K) : Option (StoredPlayback K) :=
  if s.motion.timesteps = 0 then some { s with motion := gen, cursor := 0, playing := true }
  else
    let newLen := gen.genFrame - s.cursor + gen.timesteps
    if 0 < newLen then do
      let out ← blend s.motion gen s.cursor newLen
      some { s with motion := out, cursor := 0 }
    else some s

def advanceCursor (s : StoredPlayback K) : StoredPlayback K :=
  if s.playing && decide (0 < s.motion.timesteps) then
    { s with cursor := min (s.cursor + 1) (s.motion.timesteps - 1) }
  else s

/-- `advance_playback`. -/
def advance (s : StoredPlayback K) (plan : TimestampedData (StoredSequence K)) :
    Option (StoredPlayback K) := do
  let s ← match plan.data with
    | some gen =>
      if plan.timestamp ≠ s.lastPlanStamp then
        ({ s with lastPlanStamp := plan.timestamp }).adopt gen
      else some s
    | none => some s
  some s.advanceCursor

/-! ## The loop of the blend -/

variable {old gen out : StoredSequence K} {cursor blendStart newLen : Int}

/-- What the loop stores at `f`. -/
def blended (old gen : StoredSequence K) (cursor : Int) (f : Nat) : Frame K :=
  crossfade (old.frame (clamp (f + cursor) 0 (old.timesteps - 1)))
    (gen.frame (clamp (f + cursor - gen.genFrame) 0 (gen.timesteps - 1)))
    (blendWeight (max 0 (gen.genFrame - cursor)) f)

theorem blendInto_eq (hold : old.Counted) (hgen : gen.Counted) (hT : 0 < old.timesteps)
    (hn : 0 < gen.timesteps) {f : Nat} (hf : f < out.frames.length) :
    blendInto old gen cursor (max 0 (gen.genFrame - cursor)) out f =
      some { out with frames := out.frames.set f (blended old gen cursor f) } := by
  unfold blendInto
  rw [StoredSequence.load_clamp hold hT, StoredSequence.load_clamp hgen hn]
  show out.store f (blended old gen cursor f) = _
  unfold StoredSequence.store
  rw [if_pos ⟨Int.natCast_nonneg f, Int.ofNat_lt.mpr hf⟩]
  rfl

/-- The passes so far have filled the sequence from the front. -/
theorem foldlM_blendInto (hold : old.Counted) (hgen : gen.Counted) (hT : 0 < old.timesteps)
    (hn : 0 < gen.timesteps) {k : Nat} (hk : k ≤ out.frames.length) :
    (List.range k).foldlM (blendInto old gen cursor (max 0 (gen.genFrame - cursor))) out =
      some { out with
        frames := (List.range k).map (blended old gen cursor) ++ out.frames.drop k } := by
  induction k with
  | zero => rfl
  | succ k ih =>
    have hfilled : ((List.range k).map (blended old gen cursor)).length = k := by simp
    rw [List.range_succ, List.foldlM_append, ih (by omega)]
    rw [Option.bind_eq_bind, Option.bind_some, List.foldlM_cons, blendInto_eq hold hgen hT hn]
    · rw [Option.bind_eq_bind, Option.bind_some, List.foldlM_nil]
      congr 2
      dsimp only
      rw [List.set_append_right _ _ hfilled.le, hfilled, Nat.sub_self,
        List.drop_eq_getElem_cons (by omega), List.set_cons_zero, List.map_append,
        List.append_assoc]
      rfl
    · simp only [List.length_append, hfilled, List.length_drop]
      omega

/-- Every access of the loop is in range, and the new sequence is filled frame by frame. -/
theorem blend_eq (hold : old.Counted) (hgen : gen.Counted) (hT : 0 < old.timesteps)
    (hn : 0 < gen.timesteps) :
    blend old gen cursor newLen =
      some
        { frames := (List.range (min newLen (kCapacity : Int)).toNat).map (blended old gen cursor)
          timesteps := min newLen (kCapacity : Int) } := by
  have hlen : ((({} : StoredSequence K).resize (min newLen (kCapacity : Int))).frames).length =
      (min newLen (kCapacity : Int)).toNat := by
    unfold StoredSequence.resize
    rw [List.takeD_length, min_assoc, min_self]
  unfold blend
  dsimp only
  rw [foldlM_blendInto hold hgen hT hn hlen.ge, List.drop_of_length_le hlen.le, List.append_nil]
  unfold StoredSequence.resize
  rw [min_assoc, min_self]

end StoredPlayback

/-! ## The controller's playback -/

variable [LinearOrder K] [CMath K]

def MotionSequence50Hz.stored (m : MotionSequence50Hz K) : StoredSequence K :=
  ⟨m.frames, m.timesteps, m.genFrame⟩

theorem MotionSequence50Hz.stored_counted (m : MotionSequence50Hz K) : m.stored.Counted := rfl

namespace WholeBodyController

def playback (c : WholeBodyController K) : StoredPlayback K :=
  ⟨c.playbackMotion.stored, c.cursor, c.playing, c.lastPlanStamp⟩

variable {c : WholeBodyController K} {gen : MotionSequence50Hz K}

theorem resetPlayback_playback : c.resetPlayback.playback = {} := rfl

theorem advanceCursor_playback : c.advanceCursor.playback = c.playback.advanceCursor := by
  have hpos : decide (0 < c.playback.motion.timesteps) = decide (0 < c.playbackMotion.timesteps) :=
    decide_eq_decide.mpr Int.natCast_pos
  unfold advanceCursor StoredPlayback.advanceCursor
  rw [hpos, show c.playback.playing = c.playing from rfl]
  split <;> rfl

theorem blendPlayback_stored {old : MotionSequence50Hz K} {cursor : Int}
    (hT : old.timesteps ≠ 0) (hn : gen.timesteps ≠ 0) (hlen : 0 < blendLength gen cursor) :
    StoredPlayback.blend old.stored gen.stored cursor (blendLength gen cursor) =
      some (blendPlayback old gen cursor).stored := by
  rw [StoredPlayback.blend_eq old.stored_counted gen.stored_counted
    (Int.natCast_pos.mpr (Nat.pos_of_ne_zero hT)) (Int.natCast_pos.mpr (Nat.pos_of_ne_zero hn))]
  have hcap : (0 : Int) ≤ min (blendLength gen cursor) (kCapacity : Int) :=
    le_min hlen.le (Int.natCast_nonneg _)
  have hcount : ((blendPlayback old gen cursor).timesteps : Int) =
      min (blendLength gen cursor) (kCapacity : Int) := by
    unfold blendPlayback MotionSequence50Hz.timesteps
    rw [List.length_map, List.length_range, Int.toNat_of_nonneg hcap]
  unfold MotionSequence50Hz.stored
  rw [hcount]
  rfl

theorem adoptPlan_playback (hn : gen.timesteps ≠ 0) (stamp : TimePoint) :
    ({ c.playback with lastPlanStamp := stamp }).adopt gen.stored =
      some (c.adoptPlan gen stamp).playback := by
  unfold StoredPlayback.adopt adoptPlan
  by_cases hempty : c.playbackMotion.timesteps = 0
  · rw [if_pos (show c.playback.motion.timesteps = 0 from Int.natCast_eq_zero.mpr hempty)]
    dsimp only
    rw [if_pos hempty]
    rfl
  · rw [if_neg (show ¬ c.playback.motion.timesteps = 0 from
      fun h => hempty (Int.natCast_eq_zero.mp h))]
    dsimp only
    rw [if_neg hempty]
    by_cases hlen : 0 < blendLength gen c.cursor
    · rw [if_pos (show 0 < gen.stored.genFrame - c.playback.cursor + gen.stored.timesteps from
        hlen), if_pos hlen]
      have hblend := blendPlayback_stored hempty hn hlen
      show (StoredPlayback.blend c.playbackMotion.stored gen.stored c.cursor
        (blendLength gen c.cursor)).bind _ = _
      rw [hblend]
      rfl
    · rw [if_neg (show ¬ 0 < gen.stored.genFrame - c.playback.cursor + gen.stored.timesteps from
        hlen), if_neg hlen]
      rfl

/-- The controller's `advance_playback` over a plan with frames is the stored one, and makes no
access out of range. -/
theorem advancePlayback_playback {plan : TimestampedData (MotionSequence50Hz K)}
    (hplan : ∀ gen, plan.data = some gen → gen.timesteps ≠ 0) :
    c.playback.advance ⟨plan.data.map MotionSequence50Hz.stored, plan.timestamp⟩ =
      some (c.advancePlayback plan).playback := by
  unfold StoredPlayback.advance advancePlayback
  rw [advanceCursor_playback]
  cases hdata : plan.data with
  | none => rfl
  | some gen =>
    dsimp only [Option.map_some]
    by_cases hnew : plan.timestamp ≠ c.lastPlanStamp
    · rw [if_pos hnew, if_pos (show plan.timestamp ≠ c.playback.lastPlanStamp from hnew),
        adoptPlan_playback (hplan gen hdata)]
      rfl
    · rw [if_neg hnew, if_neg (show ¬ plan.timestamp ≠ c.playback.lastPlanStamp from hnew)]
      rfl

end WholeBodyController

end Gearsonic
