import Gearsonic.Motion.Gestures
import Gearsonic.Transition.Loop

/-!
# Chords and single buttons

The rule of the face buttons: two of them down at once cancel the single-button actions until
the buttons are released. The hold detectors see whether a button is held alone right now, so
what they cancel is the count, and it starts again when the other button is gone.

`PressWatch` follows the loop over a stream of samples and gaps. For each button it keeps for
how many samples in a row the button has been held alone, and whether another one was down
since its press edge.

* `PressInv`: the detectors as functions of the runs.
* `chord_cancels_iff`: the rule is kept exactly where no button is held alone for the grace
  period at the end of a press that was part of a chord.
-/

set_option linter.unusedSectionVars false

namespace Gearsonic

open InputHandler

/-- A face button other than this one is down. -/
def FaceButtons.otherDown (btns : FaceButtons) (f : Face) : Bool :=
  [Face.a, .b, .x, .y].any fun g => g ≠ f && btns.down g

theorem FaceButtons.otherDown_of_single {b : FaceButtons} {f : Face} (hdown : b.down f = true)
    (hcombo : ¬ 2 ≤ b.nFace) : b.otherDown f = false := by
  obtain ⟨a, b, x, y⟩ := b
  revert hdown hcombo
  cases f <;> cases a <;> cases b <;> cases x <;> cases y <;> decide

/-- The loop, the last sample's buttons, and for each button the samples in a row it was held
alone for and whether another one was down during its current press. -/
structure PressWatch (K : Type) [Field K] where
  handler : InputHandler K := {}
  last : FaceButtons := {}
  run : Face → Nat := fun _ => 0
  chord : Face → Bool := fun _ => false

namespace PressWatch

variable {K : Type} [Field K] [LinearOrder K] [CMath K]

/-- A gap leaves the presses as they are. -/
def tick (w : PressWatch K) (r : TickReads K) : PressWatch K :=
  match r.ctrl with
  | none => { w with handler := (w.handler.tick r).1 }
  | some c =>
    { handler := (w.handler.tick r).1
      last := c.toFaceButtons
      run := fun f => if alone c f then w.run f + 1 else 0
      chord := fun f => c.down f && ((w.last.down f && w.chord f) || c.otherDown f) }

/-- Whatever fires, no other face button was down during the press. -/
def CancelLaw (w : PressWatch K) (r : TickReads K) : Prop :=
  ∀ c, r.ctrl = some c → ∀ g, w.handler.fires c g = true → (w.tick r).chord g.button = false

/-- No press that was part of a chord ends with A, X or Y held alone for the grace period. -/
def NoLoneRest (w : PressWatch K) (r : TickReads K) : Prop :=
  ∀ c, r.ctrl = some c → ∀ f, f ≠ .b → alone c f = true → w.run f + 1 = kSingleHoldTicks →
    (w.tick r).chord f = false

structure PressInv (w : PressWatch K) : Prop where
  detector : ∀ g : Gesture, g.detector w.handler = .afterRun (w.run g.button) g.threshold
  down : ∀ f, 0 < w.run f → w.last.down f = true
  clean : ∀ f, f ≠ .b → kSingleHoldTicks ≤ w.run f → w.chord f = false

variable {w : PressWatch K} {r : TickReads K} {c : PicoVRController K}

theorem PressInv.start : PressInv ({} : PressWatch K) where
  detector := by
    intro g
    rw [HoldTrigger.afterRun_zero (by cases g <;> decide)]
    cases g <;> rfl
  down := fun _ h => absurd h (lt_irrefl 0)
  clean := fun _ _ _ => rfl

theorem PressInv.fires_iff (h : PressInv w) (g : Gesture) :
    w.handler.fires c g = true ↔
      alone c g.button = true ∧ w.run g.button + 1 = g.threshold := by
  unfold fires
  rw [h.detector g]
  cases alone c g.button with
  | false => simp
  | true =>
    rw [HoldTrigger.tick_afterRun]
    simp

theorem alone_single {f : Face} (halone : alone c f = true) :
    c.down f = true ∧ c.otherDown f = false := by
  unfold alone at halone
  simp only [Bool.and_eq_true, Bool.not_eq_true', decide_eq_false_iff_not] at halone
  exact ⟨halone.1.1, FaceButtons.otherDown_of_single halone.1.1 halone.1.2⟩

/-- A button that stays alone beyond the grace period stays clean. -/
theorem PressInv.stays_clean (h : PressInv w) (hc : r.ctrl = some c) {f : Face} (hf : f ≠ .b)
    (halone : alone c f = true) (hlong : kSingleHoldTicks ≤ w.run f) :
    (w.tick r).chord f = false := by
  have hother := (alone_single halone).2
  simp [tick, hc, h.clean f hf hlong, hother]

theorem PressInv.cancelLaw_iff (h : PressInv w) : CancelLaw w r ↔ NoLoneRest w r := by
  constructor
  · intro hlaw c hc f hf halone hrun
    cases f with
    | a => exact hlaw c hc .aPress ((h.fires_iff .aPress).mpr ⟨halone, hrun⟩)
    | b => exact absurd rfl hf
    | x => exact hlaw c hc .xPress ((h.fires_iff .xPress).mpr ⟨halone, hrun⟩)
    | y => exact hlaw c hc .yPress ((h.fires_iff .yPress).mpr ⟨halone, hrun⟩)
  · intro hrest c hc g hfires
    obtain ⟨halone, hrun⟩ := (h.fires_iff g).mp hfires
    cases g with
    | aPress => exact hrest c hc .a (by decide) halone hrun
    | xPress => exact hrest c hc .x (by decide) halone hrun
    | yPress => exact hrest c hc .y (by decide) halone hrun
    | yHold =>
      -- the press has been alone for longer than the grace period
      have hlong : kSingleHoldTicks ≤ w.run .y := by
        have hhard : w.run .y + 1 = kHardHoldTicks := hrun
        unfold kHardHoldTicks at hhard
        unfold kSingleHoldTicks
        omega
      exact h.stays_clean hc (by decide) halone hlong

theorem PressInv.tick (h : PressInv w) (hrest : NoLoneRest w r) : PressInv (w.tick r) := by
  cases hc : r.ctrl with
  | none =>
    have htick : w.tick r = { w with handler := (w.handler.tick r).1 } := by
      simp only [PressWatch.tick, hc]
    rw [htick]
    refine ⟨fun g => ?_, h.down, h.clean⟩
    rw [tick_detector, hc]
    exact h.detector g
  | some c =>
    have hrun : ∀ f, (w.tick r).run f = if alone c f then w.run f + 1 else 0 := by
      intro f
      simp only [PressWatch.tick, hc]
    have hhandler : (w.tick r).handler = (w.handler.tick r).1 := by
      simp only [PressWatch.tick, hc]
    have hlast : (w.tick r).last = c.toFaceButtons := by
      simp only [PressWatch.tick, hc]
    refine ⟨fun g => ?_, fun f hpos => ?_, fun f hf hlong => ?_⟩
    · rw [hhandler, tick_detector, hc, hrun]
      dsimp only
      rw [h.detector g]
      cases alone c g.button with
      | true => rw [HoldTrigger.tick_afterRun, if_pos rfl]
      | false =>
        rw [HoldTrigger.tick_released, if_neg Bool.false_ne_true,
          HoldTrigger.afterRun_zero (by cases g <;> decide)]
    · rw [hrun] at hpos
      cases halone : alone c f with
      | true =>
        rw [hlast]
        exact (alone_single halone).1
      | false =>
        rw [halone] at hpos
        exact absurd hpos (lt_irrefl 0)
    · rw [hrun] at hlong
      cases halone : alone c f with
      | true =>
        rw [halone, if_pos rfl] at hlong
        rcases Nat.eq_or_lt_of_le hlong with heq | hlt
        · exact hrest c hc f hf halone heq.symm
        · exact h.stays_clean hc hf halone (Nat.le_of_lt_succ hlt)
      | false =>
        rw [halone, if_neg Bool.false_ne_true] at hlong
        exact absurd hlong (by decide)

/-- Over every stream of samples and gaps: a gesture never fires in a press that was part of
a chord, exactly if no such press ends with A, X or Y held alone for the grace period. -/
theorem chord_cancels_iff (rs : List (TickReads K)) :
    Transition.Throughout CancelLaw tick ({} : PressWatch K) rs ↔
      Transition.Throughout NoLoneRest tick ({} : PressWatch K) rs :=
  Transition.throughout_congr (I := PressInv) .start (fun _ _ h => h.cancelLaw_iff)
    (fun _ _ h hrest => h.tick hrest) rs

/-- All four buttons, and then A alone: an aborted e-stop. -/
def unevenLift : List (TickReads ℚ) :=
  neutral ⟨true, true, true, true⟩ :: List.replicate 14 (neutral ⟨true, false, false, false⟩)

/-- On the fifteenth sample with A left alone, A fires. -/
theorem last_button_fires :
    ¬ Transition.Throughout CancelLaw tick ({} : PressWatch ℚ)
      (unevenLift ++ [neutral ⟨true, false, false, false⟩]) := by
  intro hall
  have hlaw := (Transition.throughout_iff _).mp hall unevenLift
    (neutral ⟨true, false, false, false⟩) List.prefix_rfl _ rfl .aPress (by decide +kernel)
  have hchord : ((unevenLift.foldl tick ({} : PressWatch ℚ)).tick
      (neutral ⟨true, false, false, false⟩)).chord .a = true := by decide +kernel
  exact Bool.noConfusion (hchord.symm.trans hlaw)

end PressWatch

end Gearsonic
