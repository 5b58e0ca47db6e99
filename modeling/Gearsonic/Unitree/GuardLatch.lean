import Gearsonic.Unitree.GuardReach
import Mathlib.Data.List.Forall2
import Mathlib.Data.List.Induction

/-!
# When a motor latches

Over every history of calls: a motor becomes latched where it is hot, or where the stall condition
has held for long enough, and it stays latched until its error is small and it is not hot, or until
a call that the guard does not act on.

* `stallS_history`: the timer is the total of the calls that the condition has held on.
* `latched_concat`: what a call does to the latch, in terms of that timer.
* `latch_law_iff`: the law holds of every history, for exactly the parameters whose stall time is
  positive. With a stall time of zero a motor that moves latches as well.
-/

set_option linter.unusedSectionVars false

namespace Gearsonic

namespace GuardCall

variable {K : Type} [Field K] [LinearOrder K]

/-- The measurement of a call that has one. -/
def measured (c : GuardCall K) : HandState K := c.meas.getD {}

/-- The error of motor `i`. -/
def error (c : GuardCall K) (i : Fin 7) : K := HandGuard.errorOf c c.measured i

variable (p : HandGuard.Params K) (c : GuardCall K) (i : Fin 7)

/-- The guard is on, the command is enabled and there is a fresh measurement. -/
def Acts : Prop := p.enabled = true ∧ c.desired.enabled = true ∧ c.meas.isSome = true

def Hot : Prop := 0 < p.tempMaxC ∧ p.tempMaxC ≤ (c.measured.motors i).tempCasing

/-- Large error and no motion. -/
def Stalls : Prop :=
  c.Acts p ∧ p.stallErrTh < |c.error i| ∧ |(c.measured.motors i).dq| < p.stallVelTh

/-- The error is within the threshold, and the motor is not hot. -/
def Near : Prop := |c.error i| ≤ p.stallErrTh ∧ ¬ c.Hot p i

instance : Decidable (c.Acts p) := inferInstanceAs (Decidable (_ ∧ _))
instance : Decidable (c.Hot p i) := inferInstanceAs (Decidable (_ ∧ _))
instance : Decidable (c.Stalls p i) := inferInstanceAs (Decidable (_ ∧ _))
instance : Decidable (c.Near p i) := inferInstanceAs (Decidable (_ ∧ _))

/-- Two calls that motor `i` cannot tell apart. -/
structure SameAt (i : Fin 7) (c c' : GuardCall K) : Prop where
  enabled : c.desired.enabled = c'.desired.enabled
  fresh : c.meas.isSome = c'.meas.isSome
  desired : c.desired.q i = c'.desired.q i
  measured : c.measured.motors i = c'.measured.motors i
  dtS : c.dtS = c'.dtS

end GuardCall

namespace HandGuard

variable {K : Type} [Field K] [LinearOrder K]

/-- The calls in a row, ending with the last one, on which motor `i` is stalled; newest first. -/
def stallRun (p : Params K) (i : Fin 7) (cs : List (GuardCall K)) : List (GuardCall K) :=
  cs.reverse.takeWhile fun c => decide (c.Stalls p i)

/-- The stall condition has held on calls up to the last one, for the stall time in total. -/
def StalledLong (p : Params K) (i : Fin 7) (cs : List (GuardCall K)) : Prop :=
  stallRun p i cs ≠ [] ∧ p.stallTimeS ≤ ((stallRun p i cs).map GuardCall.dtS).sum

/-- The guard after a history. -/
def after (isLeft : Bool) (p : Params K) (cs : List (GuardCall K)) : HandGuard K :=
  cs.foldl call { isLeft := isLeft, p := p }

/-- What a call does to the latch of motor `i` after a history. -/
structure LatchLaw (isLeft : Bool) (p : Params K) (cs : List (GuardCall K)) (c : GuardCall K)
    (i : Fin 7) : Prop where
  becomes : ((after isLeft p cs).latched i = false ∧
      (after isLeft p (cs ++ [c])).latched i = true) ↔
    c.Acts p ∧ (after isLeft p cs).latched i = false ∧
      (c.Hot p i ∨ StalledLong p i (cs ++ [c])) ∧ ¬ c.Near p i
  stays : (after isLeft p cs).latched i = true →
    ((after isLeft p (cs ++ [c])).latched i = true ↔ c.Acts p ∧ ¬ c.Near p i)
  clears : ¬ c.Acts p → (∀ j, (after isLeft p (cs ++ [c])).latched j = false) ∧
    ((after isLeft p cs).apply c.desired c.meas c.dtS).2 = c.desired

/-- Every call keeps the law, and the latch of a motor depends on what the calls say of that motor
only. -/
def LatchLaws (p : Params K) : Prop :=
  (∀ isLeft cs c i, LatchLaw isLeft p cs c i) ∧
    ∀ isLeft cs cs' i, List.Forall₂ (GuardCall.SameAt i) cs cs' →
      (after isLeft p cs).latched i = (after isLeft p cs').latched i

variable {g : HandGuard K} {p : Params K} {c c' : GuardCall K} {i : Fin 7}
  {cs cs' : List (GuardCall K)} {isLeft : Bool}

/-! ## One call -/

theorem apply_passes (h : ¬ c.Acts g.p) :
    g.apply c.desired c.meas c.dtS = (g.reset, c.desired) := by
  unfold apply
  cases hmeas : c.meas with
  | none => rfl
  | some meas =>
    dsimp only
    rw [if_pos]
    unfold GuardCall.Acts at h
    rw [hmeas] at h
    cases hon : g.p.enabled <;> cases hd : c.desired.enabled <;> simp_all

theorem call_acts (h : c.Acts g.p) (i : Fin 7) :
    (g.call c).stallS i = g.stallTimer i (c.measured.motors i) (c.error i) c.dtS ∧
      (g.call c).latched i = g.latchAfter i (c.measured.motors i) (c.error i) c.dtS := by
  obtain ⟨hon, hdesired, hfresh⟩ := h
  obtain ⟨meas, hmeas⟩ := Option.isSome_iff_exists.mp hfresh
  have hmeasured : c.measured = meas := by
    unfold GuardCall.measured
    rw [hmeas]
    rfl
  have hactive : ¬ ((!g.p.enabled || !c.desired.enabled) = true) := by
    rw [hon, hdesired]
    decide
  unfold call apply GuardCall.error errorOf
  rw [hmeasured, hmeas]
  dsimp only
  rw [if_neg hactive]
  exact ⟨rfl, rfl⟩

theorem hot_iff : g.hot (c.measured.motors i) = true ↔ c.Hot g.p i := by
  unfold hot GuardCall.Hot
  rw [Bool.and_eq_true, decide_eq_true_iff, decide_eq_true_iff]

theorem stallTimer_eq (h : c.Acts g.p) :
    g.stallTimer i (c.measured.motors i) (c.error i) c.dtS =
      if c.Stalls g.p i then g.stallS i + c.dtS else 0 := by
  unfold stallTimer GuardCall.Stalls
  simp only [h, true_and]

/-! ## The history -/

theorem after_concat (isLeft : Bool) (p : Params K) (cs : List (GuardCall K)) (c : GuardCall K) :
    after isLeft p (cs ++ [c]) = (after isLeft p cs).call c := by
  unfold after
  rw [List.foldl_concat]

theorem after_p (isLeft : Bool) (p : Params K) (cs : List (GuardCall K)) :
    (after isLeft p cs).p = p := by
  induction cs using List.reverseRecOn with
  | nil => rfl
  | append_singleton cs c ih =>
    rw [after_concat, (call_config _ _).1]
    exact ih

theorem stallRun_concat (p : Params K) (i : Fin 7) (cs : List (GuardCall K)) (c : GuardCall K) :
    stallRun p i (cs ++ [c]) = if c.Stalls p i then c :: stallRun p i cs else [] := by
  unfold stallRun
  rw [List.reverse_concat, List.takeWhile_cons]
  simp only [decide_eq_true_iff]

/-- The timer is the total of the calls that the stall condition has held on. -/
theorem stallS_history (isLeft : Bool) (p : Params K) (i : Fin 7) (cs : List (GuardCall K)) :
    (after isLeft p cs).stallS i = ((stallRun p i cs).map GuardCall.dtS).sum := by
  induction cs using List.reverseRecOn with
  | nil => rfl
  | append_singleton cs c ih =>
    rw [after_concat, stallRun_concat]
    have hp := after_p isLeft p cs
    by_cases hacts : c.Acts p
    · rw [(call_acts (by rwa [hp]) i).1, stallTimer_eq (by rwa [hp]), hp, ih]
      by_cases hstalls : c.Stalls p i
      · rw [if_pos hstalls, if_pos hstalls, List.map_cons, List.sum_cons, add_comm]
      · rw [if_neg hstalls, if_neg hstalls]
        rfl
    · have hstalls : ¬ c.Stalls p i := fun h => hacts h.1
      unfold call
      rw [apply_passes (by rwa [hp]), if_neg hstalls]
      rfl

/-- With a positive stall time, the test of the timer is about the history. -/
theorem stalledLong_concat (htime : 0 < p.stallTimeS) (hacts : c.Acts p) :
    StalledLong p i (cs ++ [c]) ↔
      p.stallTimeS ≤ (after isLeft p cs).stallTimer i (c.measured.motors i) (c.error i) c.dtS := by
  have hp := after_p isLeft p cs
  rw [stallTimer_eq (by rwa [hp]), hp, stallS_history]
  unfold StalledLong
  rw [stallRun_concat]
  by_cases hstalls : c.Stalls p i
  · rw [if_pos hstalls, if_pos hstalls, List.map_cons, List.sum_cons, add_comm]
    exact ⟨fun h => h.2, fun h => ⟨List.cons_ne_nil _ _, h⟩⟩
  · rw [if_neg hstalls, if_neg hstalls]
    exact ⟨fun h => absurd rfl h.1, fun h => absurd h (not_le.mpr htime)⟩

/-- The guard's latch after a call that it acts on. -/
theorem latched_concat (hacts : c.Acts p) :
    (after isLeft p (cs ++ [c])).latched i = true ↔
      ((after isLeft p cs).latched i = true ∨ c.Hot p i ∨
        p.stallTimeS ≤ (after isLeft p cs).stallTimer i (c.measured.motors i) (c.error i) c.dtS) ∧
      ¬ c.Near p i := by
  have hp := after_p isLeft p cs
  have hhot : (after isLeft p cs).hot (c.measured.motors i) = true ↔ c.Hot p i := by
    rw [hot_iff, hp]
  rw [after_concat, (call_acts (by rwa [hp]) i).2]
  unfold latchAfter GuardCall.Near
  rw [hp]
  simp only [Bool.and_eq_true, Bool.or_eq_true, Bool.not_eq_true', Bool.and_eq_false_iff,
    Bool.not_eq_false', decide_eq_true_iff, decide_eq_false_iff_not, hhot, or_assoc]
  tauto

theorem latched_concat_passes (hpasses : ¬ c.Acts p) (j : Fin 7) :
    (after isLeft p (cs ++ [c])).latched j = false := by
  rw [after_concat]
  unfold call
  rw [apply_passes (by rwa [after_p])]
  rfl

/-- The law of one call, where the stall time is positive or the guard is off. -/
theorem latchLaw (htime : p.enabled = true → 0 < p.stallTimeS) (isLeft : Bool)
    (cs : List (GuardCall K)) (c : GuardCall K) (i : Fin 7) : LatchLaw isLeft p cs c i := by
  have hclears : ¬ c.Acts p → (∀ j, (after isLeft p (cs ++ [c])).latched j = false) ∧
      ((after isLeft p cs).apply c.desired c.meas c.dtS).2 = c.desired := by
    intro hpasses
    refine ⟨latched_concat_passes hpasses, ?_⟩
    rw [apply_passes (by rwa [after_p])]
  by_cases hacts : c.Acts p
  · have hlatched : (after isLeft p (cs ++ [c])).latched i = true ↔ _ := latched_concat hacts
    refine ⟨?_, fun hbefore => ?_, hclears⟩
    · rw [hlatched, ← stalledLong_concat (htime hacts.1) hacts]
      constructor
      · rintro ⟨hbefore, hcause, hnear⟩
        rw [hbefore] at hcause
        exact ⟨hacts, hbefore, hcause.resolve_left Bool.false_ne_true, hnear⟩
      · rintro ⟨-, hbefore, hcause, hnear⟩
        exact ⟨hbefore, Or.inr hcause, hnear⟩
    · rw [hlatched]
      exact ⟨fun h => ⟨hacts, h.2⟩, fun h => ⟨Or.inl hbefore, h.2⟩⟩
  · refine ⟨⟨fun h => ?_, fun h => absurd h.1 hacts⟩,
      fun _ => ⟨fun h => ?_, fun h => absurd h.1 hacts⟩, hclears⟩
    · rw [latched_concat_passes hacts] at h
      exact absurd h.2 Bool.false_ne_true
    · rw [latched_concat_passes hacts] at h
      exact absurd h Bool.false_ne_true

/-! ## A motor on its own -/

theorem sameAt_acts (h : GuardCall.SameAt i c c') : c.Acts p ↔ c'.Acts p := by
  unfold GuardCall.Acts
  rw [h.enabled, h.fresh]

theorem sameAt_error (h : GuardCall.SameAt i c c') : c.error i = c'.error i := by
  unfold GuardCall.error errorOf
  rw [h.desired, h.measured]

/-- Two guards that agree on motor `i`. -/
structure AgreeAt (i : Fin 7) (g g' : HandGuard K) : Prop where
  p : g.p = g'.p
  stallS : g.stallS i = g'.stallS i
  latched : g.latched i = g'.latched i

theorem AgreeAt.call {g g' : HandGuard K} (h : AgreeAt i g g') (hsame : GuardCall.SameAt i c c') :
    AgreeAt i (g.call c) (g'.call c') := by
  have hp : (g.call c).p = (g'.call c').p := by
    rw [(g.call_config c).1, (g'.call_config c').1, h.p]
  by_cases hacts : c.Acts g.p
  · have hacts' : c'.Acts g'.p := by rwa [← h.p, ← sameAt_acts hsame]
    obtain ⟨hstall, hlatched⟩ := call_acts hacts i
    obtain ⟨hstall', hlatched'⟩ := call_acts hacts' i
    refine ⟨hp, ?_, ?_⟩
    · rw [hstall, hstall', ← hsame.measured, ← sameAt_error hsame, ← hsame.dtS]
      unfold stallTimer
      rw [h.p, h.stallS]
    · rw [hlatched, hlatched', ← hsame.measured, ← sameAt_error hsame, ← hsame.dtS]
      unfold latchAfter stallTimer hot
      rw [h.p, h.stallS, h.latched]
  · have hacts' : ¬ c'.Acts g'.p := by rwa [← h.p, ← sameAt_acts hsame]
    refine ⟨hp, ?_, ?_⟩
    · unfold HandGuard.call
      rw [apply_passes hacts, apply_passes hacts']
      rfl
    · unfold HandGuard.call
      rw [apply_passes hacts, apply_passes hacts']
      rfl

/-- Timer and latch of a motor depend on what the calls say of that motor. -/
theorem AgreeAt.foldl {g g' : HandGuard K} (h : AgreeAt i g g')
    (hsame : List.Forall₂ (GuardCall.SameAt i) cs cs') :
    AgreeAt i (cs.foldl HandGuard.call g) (cs'.foldl HandGuard.call g') := by
  induction hsame generalizing g g' with
  | nil => exact h
  | cons hhead _ ih => exact ih (h.call hhead)

/-! ## The exact parameters -/

variable [IsStrictOrderedRing K]

/-- A moving motor with a large error, cool enough. -/
def moving (p : Params K) : GuardCall K :=
  { desired := { q := fun _ => |p.stallErrTh| + 1 }
    meas := some { motors := fun _ => { dq := |p.stallVelTh|, tempCasing := p.tempMaxC - 1 } }
    dtS := 0 }

/-- With a stall time of zero it latches at once, though it is neither hot nor stalled. -/
theorem moving_latches (hon : p.enabled = true) (htime : p.stallTimeS ≤ 0) (i : Fin 7) :
    ¬ LatchLaw true p [] (moving p) i := by
  have hacts : (moving p).Acts p := ⟨hon, rfl, rfl⟩
  have herror : (moving p).error i = |p.stallErrTh| + 1 := sub_zero _
  have hlarge : p.stallErrTh < |(moving p).error i| := by
    rw [herror, abs_of_pos (add_pos_of_nonneg_of_pos (abs_nonneg _) one_pos)]
    exact lt_add_of_le_of_pos (le_abs_self _) one_pos
  have hmoves : ¬ |((moving p).measured.motors i).dq| < p.stallVelTh := by
    have hdq : ((moving p).measured.motors i).dq = |p.stallVelTh| := rfl
    rw [hdq, abs_abs]
    exact not_lt.mpr (le_abs_self _)
  have hcool : ¬ (moving p).Hot p i := by
    rintro ⟨-, hle⟩
    have htemp : ((moving p).measured.motors i).tempCasing = p.tempMaxC - 1 := rfl
    omega
  have hstalls : ¬ (moving p).Stalls p i := fun h => hmoves h.2.2
  intro hlaw
  have hlatched : (after true p ([] ++ [moving p])).latched i = true := by
    rw [latched_concat hacts, stallTimer_eq hacts, after_p, if_neg hstalls]
    exact ⟨Or.inr (Or.inr htime), fun h => absurd h.1 (not_le.mpr hlarge)⟩
  obtain ⟨-, -, hcause, -⟩ := hlaw.becomes.mp ⟨rfl, hlatched⟩
  rcases hcause with hhot | hlong
  · exact hcool hhot
  · apply hlong.1
    rw [stallRun_concat, if_neg hstalls]

/-- The latch law holds of every history exactly if the guard is off or its stall time is
positive. -/
theorem latch_law_iff (p : Params K) : LatchLaws p ↔ (p.enabled = true → 0 < p.stallTimeS) := by
  constructor
  · rintro ⟨hlaw, -⟩ hon
    by_contra htime
    exact moving_latches hon (not_lt.mp htime) 0 (hlaw true [] (moving p) 0)
  · intro htime
    exact ⟨latchLaw htime, fun _ _ _ _ hsame =>
      (AgreeAt.foldl ⟨rfl, rfl, rfl⟩ hsame).latched⟩

theorem latch_law_iff_shipped : LatchLaws ({} : Params ℚ) :=
  (latch_law_iff _).mpr fun _ => by norm_num

/-- With `stall_time_s: 0` a finger that moves towards its target latches. -/
theorem moving_finger_latches : ¬ LatchLaws ({ stallTimeS := 0 } : Params ℚ) := by
  rintro ⟨hlaw, -⟩
  exact moving_latches rfl le_rfl 0 (hlaw true [] (moving _) 0)

end HandGuard

end Gearsonic
