import Gearsonic.Control.Observations
import Gearsonic.Control.StateHistory

/-!
# Where the observations lie

The documented layouts, as blocks of rows, against the stores that are made.

* `TokenEncoder.fills_mode`: the stores of a mode fill the documented blocks of that mode.
* `TokenEncoder.fillObs_block`, `fillObs_outside`: what the cleared buffer holds after them.
* `PolicyDecoder.obsStores_addresses`: the decoder's stores, one to each slot.
* `observation_layouts`: the two buffers together.
-/

set_option linter.unusedSectionVars false

namespace Gearsonic

open Stores

variable {K : Type} [Field K] [LinearOrder K] [CMath K]

namespace TokenEncoder

attribute [local instance] atLeastTwo_two

/-- The six numbers of a reference root. -/
def anchorSix (e : TokenEncoder K) (baseQuat refRoot : Quat K) : Fin 6 → K :=
  firstTwoColumns (quatToRotationMatrix (e.baseToRef baseQuat refRoot))

theorem three_dvd (i : Fin 72) : i.val / 3 < 24 := by omega
theorem three_mod (i : Fin 72) : i.val % 3 < 3 := by omega
theorem twelve_le : 12 ≤ 29 := by decide

/-- The documented blocks of g1 mode, over the ten future frames. -/
def g1Layout (e : TokenEncoder K) (frame : Fin 10 → MotionSequence50Hz.Frame K) (playing : Bool)
    (baseQuat : Quat K) : List (Block K) :=
  [⟨0, 1, 1, fun _ _ => 0⟩,
    ⟨4, 10, 29, fun f j => (frame f).joints j⟩,
    ⟨294, 10, 29, fun f j => if playing then (frame f).jointVelocities j else 0⟩,
    ⟨584, 10, 6, fun f => e.anchorSix baseQuat (frame f).quaternion⟩]

/-- The documented blocks of teleop mode; the lower body is in MuJoCo order. -/
def teleopLayout (e : TokenEncoder K) (frame : Fin 10 → MotionSequence50Hz.Frame K)
    (playing : Bool) (vr3point : VR3Point K) (baseQuat : Quat K) : List (Block K) :=
  [⟨0, 1, 1, fun _ _ => 1⟩,
    ⟨650, 10, 12, fun f j => (frame f).joints (isaaclabToMujoco (j.castLE twelve_le))⟩,
    ⟨770, 10, 12, fun f j =>
      if playing then (frame f).jointVelocities (isaaclabToMujoco (j.castLE twelve_le)) else 0⟩,
    ⟨644, 1, 6, fun f => e.anchorSix baseQuat (frame (f.castLE (Nat.le_add_left 1 9))).quaternion⟩,
    ⟨890, 1, 9, fun _ i => vr3point.position i⟩,
    ⟨899, 1, 12, fun _ i => vr3point.orientation i⟩]

/-- The documented blocks of smpl mode; the 24 joints have three numbers each. -/
def smplLayout (e : TokenEncoder K) (smpl : SmplPoseWindow K) (baseQuat : Quat K) :
    List (Block K) :=
  [⟨0, 1, 1, fun _ _ => 2⟩,
    ⟨911, 10, 72, fun f i =>
      (smpl.frames f).jointsLocal ⟨i.val / 3, three_dvd i⟩ ⟨i.val % 3, three_mod i⟩⟩,
    ⟨1691, 10, 6, fun f i => (smpl.frames f).wristJointPos i⟩,
    ⟨1631, 10, 6, fun f => e.anchorSix baseQuat (smpl.frames f).anchorQuat⟩]

/-- The documented blocks of the mode that is selected: smpl wins over the three points. -/
def layout (e : TokenEncoder K) (motion : MotionSequence50Hz K) (cursor : Int) (playing : Bool)
    (logger : StateLogger K) (vr3point : Option (VR3Point K)) (smpl : Option (SmplPoseWindow K)) :
    List (Block K) :=
  let frame (f : Fin 10) :=
    motion.frame (targetFrame cursor f.val kFutStep motion.timesteps playing)
  let baseQuat := ((logger.getLatest 1).getD 0 {}).baseQuat
  match smpl, vr3point with
  | some smpl, _ => e.smplLayout smpl baseQuat
  | none, none => e.g1Layout frame playing baseQuat
  | none, some vr3point => e.teleopLayout frame playing vr3point baseQuat

/-! ## Each branch fills its blocks -/

theorem kLowerBodyIdx_eq (j : Fin 12) :
    kLowerBodyIdx j = isaaclabToMujoco (j.castLE twelve_le) := by
  revert j
  decide

theorem fills_anchor {n : Nat} (e : TokenEncoder K) (out : Nat) (refRoots : Fin n → Quat K)
    (baseQuat : Quat K) : Fills (e.anchorStores out refRoots baseQuat)
      [⟨out, n, 6, fun f => e.anchorSix baseQuat (refRoots f)⟩] :=
  fills_rows out fun f => e.anchorSix baseQuat (refRoots f)

theorem fills_g1 (e : TokenEncoder K) (motion : MotionSequence50Hz K) (cursor : Int)
    (playing : Bool) (baseQuat : Quat K) :
    Fills (e.g1Stores motion cursor playing baseQuat) (e.g1Layout (fun f =>
      motion.frame (targetFrame cursor f.val kFutStep motion.timesteps playing)) playing
        baseQuat) := by
  have hjoints := fills_rows_two kOffMotionQ kOffMotionDq
    (fun (f : Fin 10) (j : Fin 29) =>
      (motion.frame (targetFrame cursor f.val kFutStep motion.timesteps playing)).joints j)
    fun (f : Fin 10) (j : Fin 29) => if playing then
      (motion.frame (targetFrame cursor f.val kFutStep motion.timesteps playing)).jointVelocities j
      else 0
  exact ((fills_single kOffEncoderMode 0).append hjoints).append (e.fills_anchor kOffAnchorOri
    (motionRoots 10 kFutStep motion cursor playing) baseQuat)

theorem fills_teleop (e : TokenEncoder K) (motion : MotionSequence50Hz K) (cursor : Int)
    (playing : Bool) (vr3point : VR3Point K) (baseQuat : Quat K) :
    Fills (e.teleopStores motion cursor playing vr3point baseQuat) (e.teleopLayout (fun f =>
      motion.frame (targetFrame cursor f.val kFutStep motion.timesteps playing)) playing vr3point
        baseQuat) := by
  have hjoints := fills_rows_two kOffLowerQ kOffLowerDq
    (fun (f : Fin 10) (j : Fin 12) =>
      (motion.frame (targetFrame cursor f.val kFutStep motion.timesteps playing)).joints
        (kLowerBodyIdx j))
    fun (f : Fin 10) (j : Fin 12) => if playing then
      (motion.frame (targetFrame cursor f.val kFutStep motion.timesteps playing)).jointVelocities
        (kLowerBodyIdx j) else 0
  have hall := ((((fills_single kOffEncoderMode (1 : K)).append hjoints).append
    (e.fills_anchor kOffAnchorSingle (motionRoots 1 1 motion cursor playing) baseQuat)).append
    (fills_row kOffVR3Pos vr3point.position)).append (fills_row kOffVR3Orn vr3point.orientation)
  have hsingle : ∀ f : Fin 1, motionRoots 1 1 motion cursor playing f =
      (motion.frame (targetFrame cursor (f.castLE (Nat.le_add_left 1 9)).val kFutStep
        motion.timesteps playing)).quaternion := by
    intro f
    have hzero : f.val = 0 := by omega
    unfold motionRoots
    rw [Fin.val_castLE, hzero]
    unfold targetFrame
    simp only [Nat.cast_zero, zero_mul, add_zero]
  simp only [hsingle, kLowerBodyIdx_eq] at hall
  exact hall

/-- The loop over joints and coordinates, as one row. -/
theorem fills_smplJoints (base : Nat) (v : Fin 10 → Fin 24 → Fin 3 → K) :
    Fills ((List.finRange 10).flatMap fun f : Fin 10 => (List.finRange 24).flatMap fun j =>
      (List.finRange 3).map fun c => (base + f.val * (24 * 3) + (j.val * 3 + c.val), v f j c))
      [⟨base, 10, 72, fun f i => v f ⟨i.val / 3, three_dvd i⟩ ⟨i.val % 3, three_mod i⟩⟩] := by
  have hrow : ∀ f : Fin 10, ∀ s, s ∈ ((List.finRange 24).flatMap fun j =>
      (List.finRange 3).map fun c => (base + f.val * (24 * 3) + (j.val * 3 + c.val), v f j c)) ↔
      s ∈ (List.finRange 72).map fun i => (base + f.val * 72 + i.val,
        v f ⟨i.val / 3, three_dvd i⟩ ⟨i.val % 3, three_mod i⟩) := by
    intro f s
    simp only [List.mem_flatMap, List.mem_map, List.mem_finRange, true_and]
    constructor
    · rintro ⟨j, c, rfl⟩
      refine ⟨⟨j.val * 3 + c.val, by omega⟩, ?_⟩
      have hj : (j.val * 3 + c.val) / 3 = j.val := by omega
      have hc : (j.val * 3 + c.val) % 3 = c.val := by omega
      simp only [hj, hc]
    · rintro ⟨i, rfl⟩
      refine ⟨⟨i.val / 3, three_dvd i⟩, ⟨i.val % 3, three_mod i⟩, ?_⟩
      have hi : i.val / 3 * 3 + i.val % 3 = i.val := by omega
      simp only [hi]
  refine (fills_rows base fun (f : Fin 10) (i : Fin 72) =>
    v f ⟨i.val / 3, three_dvd i⟩ ⟨i.val % 3, three_mod i⟩).of_mem_iff fun s => ?_
  simp only [List.mem_flatMap, hrow]

theorem fills_smpl (e : TokenEncoder K) (smpl : SmplPoseWindow K) (baseQuat : Quat K) :
    Fills (e.smplStores smpl baseQuat) (e.smplLayout smpl baseQuat) := by
  have hjoints := fills_smplJoints kOffSmplJoints fun f => (smpl.frames f).jointsLocal
  have hwrists := fills_rows kOffSmplWrists fun f => (smpl.frames f).wristJointPos
  exact ((fills_single kOffEncoderMode 2).append (hjoints.append hwrists).loop_append).append
    (e.fills_anchor kOffSmplAnchor (fun f => (smpl.frames f).anchorQuat) baseQuat)

variable (e : TokenEncoder K) (dst : Nat → K) {motion : MotionSequence50Hz K} (cursor : Int)
  (playing : Bool) (logger : StateLogger K) (vr3point : Option (VR3Point K))
  (smpl : Option (SmplPoseWindow K))

theorem fills_mode (hpos : 1 ≤ motion.timesteps) :
    Fills (e.modeStores motion cursor playing logger vr3point smpl)
      (e.layout motion cursor playing logger vr3point smpl) := by
  have hsome : ¬ motion.timesteps = 0 := by omega
  unfold modeStores layout
  rw [if_neg hsome]
  cases smpl with
  | some smpl => exact e.fills_smpl smpl _
  | none =>
    cases vr3point with
    | none => exact e.fills_g1 motion cursor playing _
    | some vr3point => exact e.fills_teleop motion cursor playing vr3point _

/-- The spans of the documented blocks. -/
def spans (vr3point smpl : Bool) : List (Nat × Nat) :=
  match smpl, vr3point with
  | true, _ => [(0, 1), (911, 720), (1691, 60), (1631, 60)]
  | false, false => [(0, 1), (4, 290), (294, 290), (584, 60)]
  | false, true => [(0, 1), (650, 120), (770, 120), (644, 6), (890, 9), (899, 12)]

theorem layout_spans (motion : MotionSequence50Hz K) :
    (e.layout motion cursor playing logger vr3point smpl).map Block.span =
      spans vr3point.isSome smpl.isSome := by
  cases smpl <;> cases vr3point <;> rfl

theorem spans_apart (a b : Bool) : (spans a b).Pairwise Apart := by
  cases a <;> cases b <;> decide

theorem spans_le (a b : Bool) : ∀ s ∈ spans a b, s.1 + s.2 ≤ kInputDim := by
  cases a <;> cases b <;> decide

/-- A block lies in the buffer. -/
theorem lt_of_covers {b : Block K} {x : Nat}
    (hb : b ∈ e.layout motion cursor playing logger vr3point smpl) (hx : b.Covers x) :
    x < kInputDim := by
  have hspan : b.span ∈ spans vr3point.isSome smpl.isSome := by
    rw [← e.layout_spans cursor playing logger vr3point smpl motion]
    exact List.mem_map_of_mem hb
  have hle := spans_le _ _ _ hspan
  exact lt_of_lt_of_le hx.2 hle

theorem obsStores_lt (hpos : 1 ≤ motion.timesteps) :
    ∀ s ∈ e.obsStores motion cursor playing logger vr3point smpl, s.1 < kInputDim := by
  intro s hs
  rcases List.mem_append.mp hs with hclear | hmode
  · obtain ⟨x, hx, rfl⟩ := List.mem_map.mp hclear
    exact List.mem_range.mp hx
  · obtain ⟨b, hb, f, i, rfl⟩ := (e.fills_mode cursor playing logger vr3point smpl hpos s).mp hmode
    exact e.lt_of_covers cursor playing logger vr3point smpl hb (Block.covers_slot f i)

/-- The cleared buffer. -/
theorem exec_clear {x : Nat} (hx : x < kInputDim) :
    exec dst ((List.range kInputDim).map fun i => (i, 0)) x = 0 :=
  exec_map_of_injective (fun _ _ h => h) (List.mem_range.mpr hx)

theorem fillObs_block (hpos : 1 ≤ motion.timesteps) {b : Block K}
    (hb : b ∈ e.layout motion cursor playing logger vr3point smpl) (f : Fin b.rows)
    (i : Fin b.cols) :
    e.fillObs dst motion cursor playing logger vr3point smpl (b.slot f i) = b.val f i := by
  have hapart : ((e.layout motion cursor playing logger vr3point smpl).map Block.span).Pairwise
      Apart := by
    rw [e.layout_spans cursor playing logger vr3point smpl motion]
    exact spans_apart _ _
  unfold fillObs obsStores
  rw [exec_append]
  exact (e.fills_mode cursor playing logger vr3point smpl hpos).exec hapart hb f i

theorem fillObs_outside (hpos : 1 ≤ motion.timesteps) {x : Nat} (hx : x < kInputDim)
    (hout : ∀ b ∈ e.layout motion cursor playing logger vr3point smpl, ¬ b.Covers x) :
    e.fillObs dst motion cursor playing logger vr3point smpl x = 0 := by
  unfold fillObs obsStores
  rw [exec_append, (e.fills_mode cursor playing logger vr3point smpl hpos).outside hout]
  exact exec_clear dst hx

theorem fillObs_beyond (hpos : 1 ≤ motion.timesteps) {x : Nat} (hx : kInputDim ≤ x) :
    e.fillObs dst motion cursor playing logger vr3point smpl x = dst x := by
  refine exec_of_not_mem fun s hs heq => ?_
  have hlt := e.obsStores_lt cursor playing logger vr3point smpl hpos s hs
  omega

theorem targetFrame_mem {timesteps : Int} (hpos : 1 ≤ timesteps) (frameIdx : Nat) (step : Int) :
    0 ≤ targetFrame cursor frameIdx step timesteps playing ∧
      targetFrame cursor frameIdx step timesteps playing ≤ timesteps - 1 :=
  clamp_mem (by omega) _

/-- While playing, the frame sampled is `step` further for each index, as far as there are any. -/
theorem targetFrame_playing {timesteps : Int} (h0 : 0 ≤ cursor) (h1 : cursor < timesteps)
    (frameIdx : Nat) : targetFrame cursor frameIdx kFutStep timesteps true =
      min (cursor + 5 * frameIdx) (timesteps - 1) := by
  unfold targetFrame kFutStep clamp
  dsimp only
  rw [if_pos rfl]
  split_ifs <;> omega

end TokenEncoder

/-! ## The decoder -/

namespace PolicyDecoder

omit [LinearOrder K] [CMath K]

/-- The documented blocks of the policy's input, over ten entries of the history. -/
def layout (token : Token K) (hist : Fin 10 → StateLogger.Entry K) : List (Block K) :=
  [⟨0, 1, 64, fun _ => token⟩,
    ⟨64, 10, 3, fun f => (hist f).baseAngVel⟩,
    ⟨94, 10, 29, fun f => (hist f).bodyQ⟩,
    ⟨384, 10, 29, fun f => (hist f).bodyDq⟩,
    ⟨674, 10, 29, fun f => (hist f).lastAction⟩,
    ⟨964, 10, 3, fun f => gravityInBodyFrame (hist f).baseQuat⟩]

/-- Entry `f` of the ten that are read. -/
def histEntry (logger : StateLogger K) (f : Fin 10) : StateLogger.Entry K :=
  (logger.getLatest kHistFrames).getD f.val {}

variable (input : Nat → K) (token : Token K) (logger : StateLogger K)

theorem fills_obs : Fills (obsStores token logger) (layout token (histEntry logger)) := by
  have htoken := fills_row 0 token
  simp only [Nat.zero_add] at htoken
  have hangVel := fills_rows kOffAngVel fun f => (histEntry logger f).baseAngVel
  have hjoints := fills_rows_three kOffHisQ kOffHisDq kOffHisAction
    (fun f => (histEntry logger f).bodyQ) (fun f => (histEntry logger f).bodyDq)
    fun f => (histEntry logger f).lastAction
  have hgravity := fills_rows kOffGravity fun f =>
    gravityInBodyFrame (histEntry logger f).baseQuat
  exact htoken.append ((hangVel.append hjoints).loop_append.append hgravity).loop_append

/-- Every slot of the input lies in a block. -/
theorem exists_covers {x : Nat} (hx : x < kInputDim) :
    ∃ b ∈ layout token (histEntry logger), b.Covers x := by
  unfold layout Block.Covers
  simp only [List.exists_mem_cons_iff]
  unfold kInputDim at hx
  omega

theorem fillInput_block {b : Block K} (hb : b ∈ layout token (histEntry logger))
    (f : Fin b.rows) (i : Fin b.cols) :
    fillInput input token logger (b.slot f i) = b.val f i := by
  have hspans : (layout token (histEntry logger)).map Block.span =
      [(0, 64), (64, 30), (94, 290), (384, 290), (674, 290), (964, 30)] := rfl
  have hapart : ((layout token (histEntry logger)).map Block.span).Pairwise Apart := by
    rw [hspans]
    decide
  exact (fills_obs token logger).exec hapart hb f i

/-- Nothing of the buffer before is left. -/
theorem fillInput_congr (input' : Nat → K) {x : Nat} (hx : x < kInputDim) :
    fillInput input token logger x = fillInput input' token logger x := by
  obtain ⟨b, hb, hcovers⟩ := exists_covers token logger hx
  obtain ⟨f, i, rfl⟩ := Block.exists_slot hcovers
  rw [fillInput_block input token logger hb, fillInput_block input' token logger hb]

theorem length_obsStores : (obsStores token logger).length = kInputDim := by
  unfold obsStores historyStores
  simp [kInputDim, List.length_flatMap]

theorem obsStores_addresses :
    ((obsStores token logger).map Prod.fst).Perm (List.range kInputDim) := by
  refine addresses_perm (length_obsStores token logger) fun x hx => ?_
  obtain ⟨b, hb, hcovers⟩ := exists_covers token logger hx
  obtain ⟨f, i, rfl⟩ := Block.exists_slot hcovers
  exact ⟨b.val f i, (fills_obs token logger _).mpr ⟨b, hb, f, i, rfl⟩⟩

theorem take_obsStores : (obsStores token logger).take 64 =
    (List.finRange 64).map fun i => (i.val, token i) := by
  unfold obsStores
  exact List.take_left' (by rw [List.length_map, List.length_finRange])

/-- The ten entries are the last ten logged, the oldest first. -/
theorem histEntry_logged (logged : List (StateLogger.Entry K)) (f : Fin 10) :
    histEntry (logged.foldl StateLogger.log {}) f = logged.reverse.getD (9 - f.val) {} := by
  have hkeeps := StateLogger.keeps_foldl StateLogger.Keeps.new logged
  rw [List.append_nil] at hkeeps
  have hten : kHistFrames ≤ 100 := by decide
  have hk : 9 - f.val < kHistFrames := by
    unfold kHistFrames
    omega
  have hindex : kHistFrames - 1 - (9 - f.val) = f.val := by
    unfold kHistFrames
    omega
  have hlast := hkeeps.getLatest hten hk
  rwa [hindex] at hlast

end PolicyDecoder

/-- **The layouts of the two observations.** Every store of the encoder's goes into its buffer;
each documented block of the selected mode receives its values, and all other slots are zero. The
decoder stores once to each of its slots, the token first, and the history oldest to newest. -/
theorem observation_layouts (K : Type) [Field K] [LinearOrder K] [CMath K] :
    (∀ (e : TokenEncoder K) (dst : Nat → K) (motion : MotionSequence50Hz K) (cursor : Int)
        (playing : Bool) (logger : StateLogger K) (vr3point : Option (VR3Point K))
        (smpl : Option (SmplPoseWindow K)), 1 ≤ motion.timesteps →
      (∀ s ∈ e.obsStores motion cursor playing logger vr3point smpl, s.1 < 1751) ∧
        (∀ x, 1751 ≤ x → e.fillObs dst motion cursor playing logger vr3point smpl x = dst x) ∧
        (∀ b ∈ e.layout motion cursor playing logger vr3point smpl, ∀ f i,
          e.fillObs dst motion cursor playing logger vr3point smpl (b.slot f i) = b.val f i) ∧
        (∀ x < 1751, (∀ b ∈ e.layout motion cursor playing logger vr3point smpl, ¬ b.Covers x) →
          e.fillObs dst motion cursor playing logger vr3point smpl x = 0) ∧
        (∀ (frameIdx : Nat) (step : Int),
          0 ≤ TokenEncoder.targetFrame cursor frameIdx step motion.timesteps playing ∧
            TokenEncoder.targetFrame cursor frameIdx step motion.timesteps playing <
              motion.timesteps) ∧
        (0 ≤ cursor → cursor < motion.timesteps → ∀ f : Nat,
          TokenEncoder.targetFrame cursor f TokenEncoder.kFutStep motion.timesteps true =
            min (cursor + 5 * f) (motion.timesteps - 1))) ∧
      (∀ (input : Nat → K) (token : Token K) (logger : StateLogger K),
        ((PolicyDecoder.obsStores token logger).map Prod.fst).Perm (List.range 994) ∧
          (PolicyDecoder.obsStores token logger).take 64 =
            (List.finRange 64).map (fun i => (i.val, token i)) ∧
          (∀ b ∈ PolicyDecoder.layout token (PolicyDecoder.histEntry logger), ∀ f i,
            PolicyDecoder.fillInput input token logger (b.slot f i) = b.val f i) ∧
          ∀ (input' : Nat → K) (x : Nat), x < 994 →
            PolicyDecoder.fillInput input token logger x =
              PolicyDecoder.fillInput input' token logger x) ∧
      ∀ (logged : List (StateLogger.Entry K)) (f : Fin 10),
        PolicyDecoder.histEntry (logged.foldl StateLogger.log {}) f =
          logged.reverse.getD (9 - f.val) {} := by
  refine ⟨?_, ?_, PolicyDecoder.histEntry_logged⟩
  · intro e dst motion cursor playing logger vr3point smpl hpos
    refine ⟨e.obsStores_lt cursor playing logger vr3point smpl hpos, fun x hx => ?_,
      fun b hb f i => ?_, fun x hx hout => ?_, fun frameIdx step => ?_, fun h0 h1 f => ?_⟩
    · exact e.fillObs_beyond dst cursor playing logger vr3point smpl hpos hx
    · exact e.fillObs_block dst cursor playing logger vr3point smpl hpos hb f i
    · exact e.fillObs_outside dst cursor playing logger vr3point smpl hpos hx hout
    · have hrange := TokenEncoder.targetFrame_mem cursor playing
        (show (1 : Int) ≤ motion.timesteps by omega) frameIdx step
      omega
    · exact TokenEncoder.targetFrame_playing cursor h0 h1 f
  · intro input token logger
    refine ⟨PolicyDecoder.obsStores_addresses token logger,
      PolicyDecoder.take_obsStores token logger, fun b hb f i => ?_, fun input' x hx => ?_⟩
    · exact PolicyDecoder.fillInput_block input token logger hb f i
    · exact PolicyDecoder.fillInput_congr input token logger input' hx

end Gearsonic
