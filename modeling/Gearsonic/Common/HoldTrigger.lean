import Mathlib.Tactic.Common

/-!
# Hold gestures

`InputHandler::HoldTrigger`, the "held alone for N ticks" edge detector. The tracker's two
1 s gestures keep the same pair (a tick counter and a latch) in members of their own and
drive it the same way, so both use this definition.

* `HoldTrigger.tick_fires`: a tick fires exactly when it completes `threshold` consecutive
  held ticks on an unlatched detector.
* `HoldTrigger.tick_held`: until then a held tick counts one up.
* `HoldTrigger.tick_count`: the same over a whole hold that starts with a release.
* `HoldTrigger.tick_afterRun`: the detector as a function of the held ticks in a row.
-/

namespace Gearsonic

structure HoldTrigger where
  ticks : Nat := 0
  fired : Bool := false
deriving DecidableEq, Repr

namespace HoldTrigger

/-- One tick: the new detector, and whether the gesture fires. -/
def tick (h : HoldTrigger) (activeAlone : Bool) (threshold : Nat) : HoldTrigger × Bool :=
  if !activeAlone then ({}, false)
  else if h.fired then (h, false)
  else if threshold ≤ h.ticks + 1 then (⟨h.ticks + 1, true⟩, true)
  else (⟨h.ticks + 1, false⟩, false)

variable {h : HoldTrigger} {threshold : Nat}

@[simp] theorem tick_released (h : HoldTrigger) (threshold : Nat) :
    h.tick false threshold = ({}, false) := rfl

theorem tick_latched (hf : h.fired = true) : h.tick true threshold = (h, false) := by
  simp [tick, hf]

theorem tick_fires (hf : h.fired = false) (ht : threshold ≤ h.ticks + 1) :
    h.tick true threshold = (⟨h.ticks + 1, true⟩, true) := by
  simp [tick, hf, ht]

theorem tick_held (hf : h.fired = false) (ht : h.ticks + 1 < threshold) :
    h.tick true threshold = (⟨h.ticks + 1, false⟩, false) := by
  simp [tick, hf, Nat.not_le.mpr ht]

/-- A gesture that fires leaves the detector latched, and was not latched before. -/
theorem tick_snd {active : Bool} (h2 : (h.tick active threshold).2 = true) :
    active = true ∧ h.fired = false ∧ (h.tick active threshold).1.fired = true := by
  unfold tick at h2 ⊢
  cases active with
  | false => cases h2
  | true =>
    cases hf : h.fired with
    | true => simp [hf] at h2
    | false =>
      by_cases ht : threshold ≤ h.ticks + 1
      · simp [ht]
      · simp [hf, ht] at h2

/-- Counting evaluations from a released one on: as long as the button is held alone and the
gesture has not fired, the ticks are one behind the evaluations. -/
theorem tick_count {count : Nat} {active : Bool} (hpos : 0 < threshold)
    (hactive : active = decide (0 < count))
    (hcount : 0 < count → h.fired = false ∧ h.ticks + 1 = count) :
    (h.tick active threshold).2 = true ∨
      (h.tick active threshold).1.fired = false ∧
        (h.tick active threshold).1.ticks + 1 = count + 1 ∧ count + 1 ≤ threshold := by
  rcases Nat.eq_zero_or_pos count with hzero | hheld
  · subst hactive hzero
    exact Or.inr ⟨rfl, rfl, hpos⟩
  · obtain ⟨hf, hticks⟩ := hcount hheld
    have hon : active = true := by rw [hactive]; exact decide_eq_true hheld
    subst hon
    rcases Nat.lt_or_ge (h.ticks + 1) threshold with hlt | hge
    · right
      rw [tick_held hf hlt]
      refine ⟨rfl, ?_, ?_⟩
      · simp only
        omega
      · omega
    · left
      rw [tick_fires hf hge]

/-- The detector after `n` held ticks in a row. -/
def afterRun (n threshold : Nat) : HoldTrigger := ⟨min n threshold, decide (threshold ≤ n)⟩

theorem afterRun_zero (hpos : 0 < threshold) : afterRun 0 threshold = {} := by
  simp [afterRun]
  omega

/-- A held tick continues the run, and fires where it completes the threshold. -/
theorem tick_afterRun (n : Nat) :
    (afterRun n threshold).tick true threshold =
      (afterRun (n + 1) threshold, decide (n + 1 = threshold)) := by
  rcases Nat.lt_trichotomy (n + 1) threshold with hlt | heq | hgt
  · have hopen : (afterRun n threshold).fired = false := by
      simp [afterRun]
      omega
    rw [tick_held hopen (by simp [afterRun]; omega)]
    simp [afterRun]
    omega
  · have hopen : (afterRun n threshold).fired = false := by
      simp [afterRun]
      omega
    rw [tick_fires hopen (by simp [afterRun]; omega)]
    simp [afterRun]
    omega
  · have hlatched : (afterRun n threshold).fired = true := by
      simp [afterRun]
      omega
    rw [tick_latched hlatched]
    simp [afterRun]
    omega

end HoldTrigger

end Gearsonic
