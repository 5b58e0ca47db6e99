import Gearsonic.Motion.InputThread
import Gearsonic.Transition.Loop

/-!
# One hold for each hard mode

Above WALK the mode is raised by holding Y for a full second, once for each hold. The hold
detector counts the samples with Y alone; a pass without a sample leaves it as it is, so what
was counted before the link was lost is still there when it comes back.

`HoldWatch` runs the loop against `disarm()`. Beside the detector's count it keeps how long Y
has been held without a gap, and how often the index was raised above WALK since then.

* `Holds`: the detector as a function of the count, at each point of a pass.
* `one_hold_iff`: each hard step has an uninterrupted hold of its own, and no tap leads above
  WALK, exactly in the runs where no counted hold that raises the mode had a gap.
* `full_hold_raises`: with one full hold the next mode is reached.
-/

set_option linter.unusedSectionVars false

namespace Gearsonic

open InputHandler

/-- Y is down, and A, B and X are up. -/
def FaceButtons.onlyY (b : FaceButtons) : Bool := b.btnY && !b.btnA && !b.btnB && !b.btnX

/-- The loop against `disarm()`, with the history of Y. A hold is counted over its gaps and
ends with a sample on which Y is not alone. -/
structure HoldWatch (K : Type) [Field K] where
  thread : InputThread K := {}
  /-- The passes in a row whose sample has Y alone. -/
  run : Nat := 0
  /-- The samples in a row with Y alone, gaps left out. -/
  count : Nat := 0
  /-- A gap has come since the count began. -/
  gapped : Bool := false
  /-- How often the index was raised above WALK in this run. -/
  hardSteps : Nat := 0

namespace HoldWatch

variable {K : Type} [Field K] [LinearOrder K]

theorem onlyY_eq (c : PicoVRController K) :
    (c.btnY && !InputThread.combo c) = c.onlyY := by
  obtain ⟨⟨a, b, x, y⟩, _⟩ := c
  cases a <;> cases b <;> cases x <;> cases y <;> rfl

/-- A pass begins, with its sample or a gap. -/
def read (w : HoldWatch K) : Option (PicoVRController K) → HoldWatch K
  | some c =>
    if c.onlyY then { w with run := w.run + 1, count := w.count + 1 }
    else { w with run := 0, count := 0, gapped := false, hardSteps := 0 }
  | none => { w with run := 0, gapped := w.gapped || decide (0 < w.count), hardSteps := 0 }

variable [CMath K]

/-- The step raises the index from WALK or above. -/
def Raises (s : InputThread K) (a : InputThread.Act K) : Prop :=
  kBasicModeMax ≤ s.handler.modeIndex ∧
    (s.move a).handler.modeIndex = s.handler.modeIndex + 1

instance (s : InputThread K) (a : InputThread.Act K) : Decidable (Raises s a) :=
  inferInstanceAs (Decidable (_ ∧ _))

/-- One step of the loop, or a `disarm()`. -/
def move (w : HoldWatch K) (a : InputThread.Act K) : HoldWatch K :=
  match a, w.thread.point with
  | .loop r, .top => { w.read r.ctrl with thread := w.thread.move a }
  | _, _ =>
    { w with
      thread := w.thread.move a
      hardSteps := if Raises w.thread a then w.hardSteps + 1 else w.hardSteps }

/-- The index is raised above WALK only by the pass that completes an uninterrupted hold, and
for the first time in it; a tap leads to WALK at most. -/
def OneHold (w : HoldWatch K) (a : InputThread.Act K) : Prop :=
  (Raises w.thread a → w.run = kHardHoldTicks ∧ w.hardSteps = 0) ∧
    ∀ c, w.thread.point = .yTapInc c → (w.thread.move a).handler.modeIndex ≤ kBasicModeMax

/-- The hold that raises the index above WALK had no gap. -/
def NoGapInHold (w : HoldWatch K) : InputThread.Act K → Prop
  | .loop _ =>
    match w.thread.point with
    | .yHoldInc _ => kBasicModeMax ≤ w.thread.handler.modeIndex → w.gapped = false
    | _ => True
  | .disarm => True

/-! ## The detector along a pass -/

/-- The sample of the pass is counted, and the detector has not ticked yet. -/
def Due (h : InputHandler K) (c : PicoVRController K) (n : Nat) : Prop :=
  h.yHold.tick (c.btnY && !InputThread.combo c) kHardHoldTicks =
    (.afterRun n kHardHoldTicks, decide (n = kHardHoldTicks))

/-- Count and hard steps where the loop stands, and what Y's check of the basic range found. -/
def Holds (n k : Nat) (s : InputThread K) : Prop :=
  match s.point with
  | .escape c | .yTap c => Due s.handler c n ∧ (0 < k → kHardHoldTicks < n)
  | .yTapInc c =>
    Due s.handler c n ∧ (0 < k → kHardHoldTicks < n) ∧ s.handler.modeIndex < kBasicModeMax
  | .yHold _ | .yHoldInc _ =>
    s.handler.yHold = .afterRun n kHardHoldTicks ∧ n = kHardHoldTicks ∧ k = 0
  | _ => s.handler.yHold = .afterRun n kHardHoldTicks ∧ (0 < k → kHardHoldTicks ≤ n)

variable {h : InputHandler K} {s : InputThread K} {c : PicoVRController K} {n k : Nat}
  {taps : List (TapButton × TapDetector.Event)} {r : TickReads K}

theorem holds_throughX (hy : h.yHold = .afterRun n kHardHoldTicks)
    (hk : 0 < k → kHardHoldTicks ≤ n) : Holds n k (InputThread.throughX h taps c) := by
  obtain ⟨_, point, heq, rfl | rfl⟩ := InputThread.throughX_eq h taps c
  · rw [heq]
    exact ⟨hy, hk⟩
  · rw [heq]
    exact ⟨hy, hk⟩

/-- The detector ticks. It fires where the count is complete, before any hard step. -/
theorem holds_throughYHold (hdue : Due h c n) (hk : 0 < k → kHardHoldTicks < n) :
    Holds n k (InputThread.throughYHold h taps c) := by
  have hle : 0 < k → kHardHoldTicks ≤ n := fun hpos => Nat.le_of_lt (hk hpos)
  obtain ⟨_, point, heq, hpoint⟩ := InputThread.throughYHold_eq h taps c
  rw [hdue] at heq hpoint
  rw [heq]
  rcases hpoint with ⟨rfl, hfires⟩ | rfl | rfl
  · have hn : n = kHardHoldTicks := of_decide_eq_true hfires
    refine ⟨rfl, hn, ?_⟩
    by_contra hpos
    exact absurd (hk (Nat.pos_of_ne_zero hpos)) (by omega)
  · exact ⟨rfl, hle⟩
  · exact ⟨rfl, hle⟩

theorem holds_throughTaps (hdue : Due h c n) (hk : 0 < k → kHardHoldTicks < n) :
    Holds n k (InputThread.throughTaps h c) := by
  unfold InputThread.throughTaps
  dsimp only
  obtain ⟨yPress, heq | heq⟩ := InputThread.throughYPress_eq (h.tickTaps c.toFaceButtons).1
    (h.tickTaps c.toFaceButtons).2 c
  · rw [heq]
    exact ⟨hdue, hk⟩
  · rw [heq]
    exact holds_throughYHold hdue hk

/-- A step inside a pass, except for the hard step. -/
theorem Holds.next (hs : Holds n k s) (htop : s.point ≠ .top)
    (hinc : ∀ c, s.point ≠ .yHoldInc c) : Holds n k (s.next r) := by
  obtain ⟨h, point, taps⟩ := s
  cases point with
  | top => exact absurd rfl htop
  | escape c => exact holds_throughTaps hs.1 hs.2
  | yTap c =>
    simp only [InputThread.next]
    split
    · rename_i hlt
      exact ⟨hs.1, hs.2, hlt⟩
    · exact holds_throughYHold hs.1 hs.2
  | yTapInc c => exact holds_throughYHold hs.1 hs.2.1
  | yHold c =>
    obtain ⟨hy, hn, hk⟩ := hs
    simp only [InputThread.next]
    split
    · exact ⟨hy, hn, hk⟩
    · exact holds_throughX hy fun _ => hn.ge
  | yHoldInc c => exact absurd rfl (hinc c)
  | xTap c =>
    simp only [InputThread.next]
    split
    · exact hs
    · exact hs
  | xDec c => exact hs
  | crouchFirst c =>
    obtain ⟨angle, hangle⟩ := tickFacing_frame { h with height := -1 } c.rightAxis.1
    simp only [InputThread.next, hangle]
    split
    · exact hs
    · exact hs
  | crouchLast c =>
    obtain ⟨angle, hangle⟩ := tickFacing_frame { h with
      height := if h.modeIndex ≤ kCrouchLast then if h.height < 0 then kHeightSeed else h.height
        else -1 } c.rightAxis.1
    simp only [InputThread.next, hangle]
    exact hs
  | command c =>
    obtain ⟨angle, hangle⟩ := buildCommand_frame h r c
    simp only [InputThread.next, hangle]
    exact hs

/-- The hard step itself. From here on the run has one. -/
theorem Holds.hardStep (hs : Holds n k s) (hpoint : s.point = .yHoldInc c) (k' : Nat) :
    Holds n k' (s.next r) := by
  obtain ⟨h, point, taps⟩ := s
  dsimp only at hpoint
  subst hpoint
  exact holds_throughX hs.1 fun _ => hs.2.1.ge

/-- A pass begins with a sample, which the count `n` has taken in. -/
theorem holds_begin (hctrl : r.ctrl = some c)
    (hdue : ∀ g : InputHandler K, g.yHold = h.yHold → Due g c n)
    (hk : 0 < k → kHardHoldTicks < n) : Holds n k (InputThread.next ⟨h, .top, taps⟩ r) := by
  obtain ⟨ticks, estop, hestop⟩ := tickEstop_frame h c.toFaceButtons
  simp only [InputThread.next, hctrl, hestop]
  split
  · exact ⟨hdue _ rfl, hk⟩
  · exact holds_throughTaps (hdue _ rfl) hk

theorem Holds.top {w : HoldWatch K} (hs : Holds w.count w.hardSteps w.thread)
    (hpoint : w.thread.point = .top) :
    Holds (w.read r.ctrl).count (w.read r.ctrl).hardSteps (w.thread.next r) := by
  obtain ⟨⟨h, point, taps⟩, run, count, gapped, hardSteps⟩ := w
  dsimp only at hpoint
  subst hpoint
  obtain ⟨hy, hk⟩ := hs
  dsimp only at hy hk
  cases hctrl : r.ctrl with
  | none =>
    simp only [InputThread.next, hctrl]
    exact ⟨hy, fun hpos => absurd hpos (lt_irrefl 0)⟩
  | some c =>
    unfold read
    dsimp only
    split
    · rename_i honly
      refine holds_begin hctrl (fun g hg => ?_) fun hpos => Nat.lt_succ_of_le (hk hpos)
      unfold Due
      rw [hg, hy, onlyY_eq, honly]
      exact HoldTrigger.tick_afterRun count
    · rename_i honly
      refine holds_begin hctrl (fun g hg => ?_) fun hpos => absurd hpos (lt_irrefl 0)
      unfold Due
      rw [hg, onlyY_eq, Bool.eq_false_of_not_eq_true honly]
      rfl

theorem Holds.disarm (hs : Holds n k s) : Holds n k (s.move .disarm) := by
  obtain ⟨h, point, taps⟩ := s
  cases point with
  | yTapInc c => exact ⟨hs.1, hs.2.1, (by decide : (0 : Int) < kBasicModeMax)⟩
  | _ => exact hs

/-- Only the hard step raises the index above WALK. -/
theorem Raises.point {a : InputThread.Act K} (hraises : Raises s a) (hs : Holds n k s) :
    ∃ r c, a = .loop r ∧ s.point = .yHoldInc c := by
  obtain ⟨hmin, hmode⟩ := hraises
  have hbasic : kBasicModeMax = 2 := rfl
  cases a with
  | disarm =>
    have hzero : (0 : Int) = s.handler.modeIndex + 1 := hmode
    omega
  | loop r =>
    have hnext : s.point.moved s.handler.modeIndex = s.handler.modeIndex + 1 :=
      (InputThread.next_modeIndex s r).symm.trans hmode
    unfold Holds at hs
    cases hpoint : s.point with
    | yHoldInc c => exact ⟨r, c, rfl, rfl⟩
    | yTapInc c =>
      rw [hpoint] at hs
      obtain ⟨-, -, hlt⟩ := hs
      omega
    | _ =>
      rw [hpoint] at hnext
      simp only [InputPoint.moved] at hnext
      omega

/-! ## Runs -/

/-- The run is the count, up to the gaps. -/
structure HoldInv (w : HoldWatch K) : Prop where
  holds : Holds w.count w.hardSteps w.thread
  run_le : w.run ≤ w.count
  run_eq : w.run = w.count ↔ w.gapped = false

variable {w : HoldWatch K}

theorem HoldInv.start : HoldInv ({} : HoldWatch K) where
  holds := ⟨(HoldTrigger.afterRun_zero (by decide)).symm, fun hpos => absurd hpos (lt_irrefl 0)⟩
  run_le := le_rfl
  run_eq := ⟨fun _ => rfl, fun _ => rfl⟩

theorem move_top (hpoint : w.thread.point = .top) :
    w.move (.loop r) = { w.read r.ctrl with thread := w.thread.move (.loop r) } := by
  simp only [move, hpoint]

/-- A step that does not begin a pass leaves the history of Y, up to a hard step. -/
theorem move_inside {a : InputThread.Act K} (hinside : ∀ r, a = .loop r → w.thread.point ≠ .top) :
    w.move a = { w with
      thread := w.thread.move a
      hardSteps := if Raises w.thread a then w.hardSteps + 1 else w.hardSteps } := by
  cases a with
  | disarm => rfl
  | loop r =>
    unfold move
    split
    · rename_i heq hpoint
      exact absurd hpoint (hinside _ rfl)
    · rfl

theorem HoldInv.read (hinv : HoldInv w) (ctrl : Option (PicoVRController K)) :
    (w.read ctrl).run ≤ (w.read ctrl).count ∧
      ((w.read ctrl).run = (w.read ctrl).count ↔ (w.read ctrl).gapped = false) := by
  have hle := hinv.run_le
  have heq := hinv.run_eq
  cases ctrl with
  | none =>
    refine ⟨Nat.zero_le _, ?_⟩
    simp only [HoldWatch.read, Bool.or_eq_false_iff, decide_eq_false_iff_not]
    constructor
    · intro hzero
      exact ⟨heq.mp (by omega), by omega⟩
    · rintro ⟨-, hzero⟩
      omega
  | some c =>
    simp only [HoldWatch.read]
    split
    · exact ⟨Nat.succ_le_succ hle, Nat.succ_inj.trans heq⟩
    · exact ⟨le_rfl, fun _ => rfl, fun _ => rfl⟩

theorem HoldInv.of_move (hinv : HoldInv w) (a : InputThread.Act K) : HoldInv (w.move a) := by
  by_cases hbegins : ∃ r, a = .loop r ∧ w.thread.point = .top
  · obtain ⟨r, rfl, hpoint⟩ := hbegins
    obtain ⟨hle, heq⟩ := hinv.read r.ctrl
    rw [move_top hpoint]
    exact ⟨hinv.holds.top hpoint, hle, heq⟩
  · have hinside : ∀ r, a = .loop r → w.thread.point ≠ .top :=
      fun r hr hpoint => hbegins ⟨r, hr, hpoint⟩
    rw [move_inside hinside]
    refine ⟨?_, hinv.run_le, hinv.run_eq⟩
    by_cases hraises : Raises w.thread a
    · obtain ⟨r, c, rfl, hpoint⟩ := hraises.point hinv.holds
      exact hinv.holds.hardStep hpoint _
    · dsimp only
      rw [if_neg hraises]
      cases a with
      | disarm => exact hinv.holds.disarm
      | loop r =>
        by_cases hinc : ∃ c, w.thread.point = .yHoldInc c
        · obtain ⟨c, hpoint⟩ := hinc
          exact hinv.holds.hardStep hpoint _
        · exact hinv.holds.next (hinside r rfl) fun c hpoint => hinc ⟨c, hpoint⟩

theorem HoldInv.oneHold_iff (hinv : HoldInv w) (a : InputThread.Act K) :
    OneHold w a ↔ NoGapInHold w a := by
  have hholds := hinv.holds
  by_cases hinc : ∃ r c, a = .loop r ∧ w.thread.point = .yHoldInc c
  · obtain ⟨r, c, rfl, hpoint⟩ := hinc
    have hraises : Raises w.thread (.loop r) ↔ kBasicModeMax ≤ w.thread.handler.modeIndex := by
      have hmode : (w.thread.move (.loop r)).handler.modeIndex =
          w.thread.handler.modeIndex + 1 := by
        have hnext := InputThread.next_modeIndex w.thread r
        rw [hpoint] at hnext
        exact hnext
      exact ⟨fun h => h.1, fun h => ⟨h, hmode⟩⟩
    unfold Holds at hholds
    rw [hpoint] at hholds
    obtain ⟨-, hcount, hsteps⟩ := hholds
    have htap : ∀ c, w.thread.point = .yTapInc c →
        (w.thread.move (.loop r)).handler.modeIndex ≤ kBasicModeMax := by
      intro c' hc'
      rw [hpoint] at hc'
      cases hc'
    have hrun : w.run = kHardHoldTicks ↔ w.gapped = false := by
      rw [← hcount]
      exact hinv.run_eq
    unfold OneHold
    simp only [NoGapInHold, hpoint, hraises, hrun, hsteps, and_true]
    exact ⟨fun h => h.1, fun h => ⟨h, by rintro c ⟨⟩⟩⟩
  · have hfits : NoGapInHold w a := by
      unfold NoGapInHold
      split
      · split
        · rename_i hpoint
          exact absurd ⟨_, _, rfl, hpoint⟩ hinc
        · trivial
      · trivial
    refine ⟨fun _ => hfits, fun _ => ⟨fun hraises => ?_, fun c hpoint => ?_⟩⟩
    · exact absurd (hraises.point hholds) hinc
    · unfold Holds at hholds
      rw [hpoint] at hholds
      obtain ⟨-, -, hlt⟩ := hholds
      cases a with
      | disarm => exact (by decide : (0 : Int) ≤ kBasicModeMax)
      | loop r =>
        have hnext := InputThread.next_modeIndex w.thread r
        rw [hpoint] at hnext
        exact hnext.le.trans hlt

/-- Over every interleaving of the loop with `disarm()`: the index rises above WALK only with
the sample that completes 500 passes in a row with Y alone, once in each such run, and taps
lead to WALK at most, exactly if no counted hold that raises it had a gap. -/
theorem one_hold_iff (as : List (InputThread.Act K)) :
    Transition.Throughout OneHold move ({} : HoldWatch K) as ↔
      Transition.Throughout NoGapInHold move ({} : HoldWatch K) as :=
  Transition.throughout_congr (I := HoldInv) .start (fun _ a hinv => hinv.oneHold_iff a)
    (fun _ a hinv _ => hinv.of_move a) as

/-- One full hold is enough for the next mode, from every mode it is meant for. -/
theorem full_hold_raises {c : PicoVRController K} (hc : r.ctrl = some c)
    (hy : c.toFaceButtons = { btnY := true }) (hpress : h.yPress = {}) (hhold : h.yHold = {})
    (hlo : kBasicModeMax ≤ h.modeIndex) (hhi : h.modeIndex < kFullModeMax) :
    ∃ s : InputThread K, InputThread.Reaches ⟨h, .top, taps⟩ s ∧ s.point = .top ∧
      s.handler.modeIndex = h.modeIndex + 1 := by
  obtain ⟨taps', hreach⟩ := InputThread.reaches_passes h r kHardHoldTicks taps
  refine ⟨_, hreach, rfl, ?_⟩
  obtain ⟨-, -, hmode⟩ := holdY_eq hc hy hpress hhold kHardHoldTicks
  refine hmode.trans ?_
  unfold heldMode
  have hno : ¬ (kSingleHoldTicks ≤ kHardHoldTicks ∧ h.modeIndex < kBasicModeMax) :=
    fun hlt => absurd hlt.2 (not_lt.mpr hlo)
  dsimp only
  rw [if_neg hno, if_pos ⟨le_rfl, hhi⟩]

/-! ## A hold across a lost link -/

/-- Two taps of Y; Y for 499 samples; the link is lost for a pass; one sample with Y, up to
the increment. -/
def acrossGap : List (InputThread.Act ℚ) :=
  List.replicate 47 (.loop (neutral { btnY := true })) ++ List.replicate 3 (.loop (neutral {})) ++
    List.replicate 47 (.loop (neutral { btnY := true })) ++ List.replicate 3 (.loop (neutral {})) ++
    List.replicate 1498 (.loop (neutral { btnY := true })) ++ [.loop {}] ++
    List.replicate 2 (.loop (neutral { btnY := true }))

set_option maxRecDepth 100000 in
theorem acrossGap_raises :
    Raises (acrossGap.foldl move ({} : HoldWatch ℚ)).thread (.loop (neutral { btnY := true })) ∧
      (acrossGap.foldl move ({} : HoldWatch ℚ)).run = 1 := by
  decide +kernel

/-- RUN is reached with a hold of one sample. -/
theorem hold_survives_gap :
    ¬ Transition.Throughout OneHold move ({} : HoldWatch ℚ)
      (acrossGap ++ [.loop (neutral { btnY := true })]) := by
  intro hall
  have hone := (Transition.throughout_iff _).mp hall acrossGap
    (.loop (neutral { btnY := true })) List.prefix_rfl
  obtain ⟨hraises, hrun⟩ := acrossGap_raises
  generalize acrossGap.foldl move ({} : HoldWatch ℚ) = w at hone hraises hrun
  have hlong := (hone.1 hraises).1
  rw [hrun] at hlong
  exact absurd hlong (by decide)

end HoldWatch

end Gearsonic
