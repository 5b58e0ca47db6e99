import Gearsonic.Control.ControlArbiter
import Gearsonic.Numeric.Slide
import Gearsonic.Transition.Basic
import Mathlib.Data.Rat.Cast.Order
import Mathlib.Tactic.NormNum

/-!
# The token blends

Any sequence of `step_mode`, `arm_handoff` and `select_token` calls on the arbiter stage,
with the tokens the modes ask for. `TokenStage` adds what the statements speak of: the
tokens supplied so far, the last output, and which first outputs are still to come.

* `slideWeight`: the handoff of the three token modes is one `slide`.
* `StageInv`: the held token is the last output and lies within the tokens so far, and a
  first output that is still to come finds its blend armed in full.
* `token_blends`: both counters stay in their bounds, outputs stay within the tokens so
  far, first outputs repeat the previous one, a constant token is approached and reached,
  and the recovery lands on the standing token.
-/

set_option linter.unusedSectionVars false

namespace Gearsonic

variable {K : Type} [Field K]

open Numeric

namespace ControlArbiter

/-! ## One output as a slide -/

/-- How far an output of the token modes is on the way to the supplied token. -/
def slideWeight (arb : ControlArbiter K) : K :=
  1 - (arb.handoffBlendTicks : K) / (kHandoffBlendTicks : K)

/-- How far an output of the recovery is on the way to the standing token. -/
def standingWeight (arb : ControlArbiter K) : K :=
  ((min (arb.recoveryBlendTick + 1) kRecoveryBlendTicks : Nat) : K) / (kRecoveryBlendTicks : K)

theorem handoff_out (arb : ControlArbiter K) (token : Token K) (i : Fin 64) :
    (arb.handoff token).2 i = slide (arb.heldToken i) (token i) arb.slideWeight := by
  unfold handoff
  by_cases hticks : 0 < arb.handoffBlendTicks
  · rw [if_pos hticks]
    rfl
  · have hzero : arb.handoffBlendTicks = 0 := by omega
    rw [if_neg hticks, slideWeight, hzero]
    simp

theorem handoff_held (arb : ControlArbiter K) (token : Token K) :
    (arb.handoff token).1.heldToken = (arb.handoff token).2 ∧
      (arb.handoff token).1.handoffBlendTicks = arb.handoffBlendTicks - 1 ∧
      (arb.handoff token).1.recoveryBlendTick = arb.recoveryBlendTick := by
  unfold handoff
  by_cases hticks : 0 < arb.handoffBlendTicks
  · rw [if_pos hticks]
    exact ⟨rfl, rfl, rfl⟩
  · rw [if_neg hticks]
    refine ⟨rfl, ?_, rfl⟩
    show arb.handoffBlendTicks = arb.handoffBlendTicks - 1
    omega

theorem standingBlend_out (arb : ControlArbiter K) (h : arb.recoveryBlendTick ≤ kRecoveryBlendTicks)
    (i : Fin 64) :
    arb.standingBlend.2 i =
      slide (arb.heldToken i) (kVlaSafeStandingToken i) arb.standingWeight := by
  have htick : (if arb.recoveryBlendTick < kRecoveryBlendTicks then arb.recoveryBlendTick + 1
      else arb.recoveryBlendTick) = min (arb.recoveryBlendTick + 1) kRecoveryBlendTicks := by
    split <;> omega
  unfold standingBlend
  rw [htick]
  rfl

theorem standingBlend_held (arb : ControlArbiter K)
    (h : arb.recoveryBlendTick ≤ kRecoveryBlendTicks) :
    arb.standingBlend.1.heldToken = arb.standingBlend.2 ∧
      arb.standingBlend.1.handoffBlendTicks = arb.handoffBlendTicks ∧
      arb.standingBlend.1.recoveryBlendTick =
        min (arb.recoveryBlendTick + 1) kRecoveryBlendTicks := by
  refine ⟨rfl, rfl, ?_⟩
  unfold standingBlend
  dsimp only
  split <;> omega

end ControlArbiter

namespace ControlArbiter

theorem selectToken_recovering {arb : ControlArbiter K} (h : arb.mode = .recovering)
    (token : Token K) : arb.selectToken (some token) (some token) = arb.standingBlend := by
  unfold selectToken
  rw [h]

theorem selectToken_token {arb : ControlArbiter K} (h : arb.mode ≠ .recovering)
    (token : Token K) : arb.selectToken (some token) (some token) = arb.handoff token := by
  unfold selectToken
  cases hm : arb.mode with
  | recovering => exact absurd hm h
  | _ => rfl

variable [LinearOrder K] [IsStrictOrderedRing K]

theorem slideWeight_armed {arb : ControlArbiter K}
    (h : arb.handoffBlendTicks = kHandoffBlendTicks) : arb.slideWeight = 0 := by
  have hne : (kHandoffBlendTicks : K) ≠ 0 := by norm_num [kHandoffBlendTicks]
  rw [slideWeight, h, div_self hne, sub_self]

theorem slideWeight_used {arb : ControlArbiter K} (h : arb.handoffBlendTicks = 0) :
    arb.slideWeight = 1 := by
  simp [slideWeight, h]

theorem slideWeight_mem {arb : ControlArbiter K} (h : arb.handoffBlendTicks ≤ kHandoffBlendTicks) :
    0 ≤ arb.slideWeight ∧ arb.slideWeight ≤ 1 := by
  have hpos : (0 : K) < (kHandoffBlendTicks : K) := by norm_num [kHandoffBlendTicks]
  have hcast : (arb.handoffBlendTicks : K) ≤ (kHandoffBlendTicks : K) := Nat.cast_le.mpr h
  unfold slideWeight
  constructor
  · exact sub_nonneg.mpr ((div_le_one hpos).mpr hcast)
  · exact sub_le_self 1 (div_nonneg (Nat.cast_nonneg _) hpos.le)

theorem standingWeight_mem (arb : ControlArbiter K) :
    0 ≤ arb.standingWeight ∧ arb.standingWeight ≤ 1 := by
  have hpos : (0 : K) < (kRecoveryBlendTicks : K) := by
    norm_num [kRecoveryBlendTicks, kVlaLossBlendTicks]
  unfold standingWeight
  constructor
  · exact div_nonneg (Nat.cast_nonneg _) hpos.le
  · exact (div_le_one hpos).mpr (Nat.cast_le.mpr (min_le_right _ _))

theorem standingWeight_landed {arb : ControlArbiter K}
    (h : kRecoveryBlendTicks ≤ arb.recoveryBlendTick + 1) : arb.standingWeight = 1 := by
  have hne : (kRecoveryBlendTicks : K) ≠ 0 := by
    norm_num [kRecoveryBlendTicks, kVlaLossBlendTicks]
  rw [standingWeight, min_eq_right h, div_self hne]

end ControlArbiter

/-- The stage with its history. -/
structure TokenStage (K : Type) [Field K] where
  arb : ControlArbiter K := {}
  /-- The tokens that `select_token` has read. -/
  supplied : List (Token K) := []
  output : Option (Token K) := none
  /-- The first output in kVla after a claim is still to come. -/
  claimed : Bool := false
  /-- The first output in kNormal or kTeleop after kRecovering was left, or after a handoff
  was armed, is still to come. -/
  armed : Bool := false

namespace TokenStage

inductive Op (K : Type) [Field K] where
  | stepMode (vlaFresh vlaAlive calibrated recoveryDone : Bool)
  | armHandoff
  /-- With the token that the mode asks for; in kRecovering none is read. -/
  | selectToken (token : Token K)

/-- The output before: the standing token if there is none. -/
def previous (s : TokenStage K) : Token K := s.output.getD kVlaSafeStandingToken

/-- The tokens an output may lie between. -/
def known (s : TokenStage K) : List (Token K) := kVlaSafeStandingToken :: s.supplied

def afterStepMode (s : TokenStage K) (arb : ControlArbiter K) : TokenStage K :=
  { s with
    arb := arb
    claimed := s.claimed || (decide (arb.mode = .vla) && decide (s.arb.mode ≠ .vla))
    armed := s.armed || (decide (s.arb.mode = .recovering) && decide (arb.mode = .normal)) }

def afterSelectToken (s : TokenStage K) (token : Token K) : TokenStage K :=
  { arb := (s.arb.selectToken (some token) (some token)).1
    supplied := if s.arb.mode = .recovering then s.supplied else token :: s.supplied
    output := some (s.arb.selectToken (some token) (some token)).2
    claimed := s.claimed && decide (s.arb.mode ≠ .vla)
    armed := s.armed && s.arb.mode.inSession }

def step (s : TokenStage K) : Op K → Option (TokenStage K)
  | .stepMode vlaFresh vlaAlive calibrated recoveryDone =>
    some (s.afterStepMode (s.arb.stepMode vlaFresh vlaAlive calibrated recoveryDone))
  | .armHandoff => some { s with arb := s.arb.armHandoff, armed := true }
  | .selectToken token => some (s.afterSelectToken token)

/-! ## The invariant -/

variable [LinearOrder K]

/-- Coordinate `i` of `x` lies between the least and the greatest of these tokens. -/
def Within (ts : List (Token K)) (i : Fin 64) (x : K) : Prop :=
  (∃ t ∈ ts, t i ≤ x) ∧ ∃ t ∈ ts, x ≤ t i

theorem Within.of_mem {ts : List (Token K)} {t : Token K} (h : t ∈ ts) (i : Fin 64) :
    Within ts i (t i) :=
  ⟨⟨t, h, le_rfl⟩, ⟨t, h, le_rfl⟩⟩

theorem Within.mono {ts ts' : List (Token K)} {i : Fin 64} {x : K} (h : Within ts i x)
    (hsub : ts ⊆ ts') : Within ts' i x := by
  obtain ⟨⟨a, ha, hle⟩, ⟨b, hb, hle'⟩⟩ := h
  exact ⟨⟨a, hsub ha, hle⟩, ⟨b, hsub hb, hle'⟩⟩

variable [IsStrictOrderedRing K]

theorem Within.slide {ts : List (Token K)} {i : Fin 64} {x y w : K} (hx : Within ts i x)
    (hy : Within ts i y) (h0 : 0 ≤ w) (h1 : w ≤ 1) : Within ts i (slide x y w) := by
  obtain ⟨⟨a, ha, hax⟩, ⟨b, hb, hxb⟩⟩ := hx
  obtain ⟨⟨c, hc, hcy⟩, ⟨d, hd, hyd⟩⟩ := hy
  constructor
  · rcases le_total (a i) (c i) with hac | hca
    · exact ⟨a, ha, le_slide h0 h1 hax (hac.trans hcy)⟩
    · exact ⟨c, hc, le_slide h0 h1 (hca.trans hax) hcy⟩
  · rcases le_total (b i) (d i) with hbd | hdb
    · exact ⟨d, hd, slide_le h0 h1 (hxb.trans hbd) hyd⟩
    · exact ⟨b, hb, slide_le h0 h1 hxb (hyd.trans hdb)⟩

structure StageInv (s : TokenStage K) : Prop where
  handoff : s.arb.handoffBlendTicks ≤ ControlArbiter.kHandoffBlendTicks
  recovery : s.arb.recoveryBlendTick ≤ ControlArbiter.kRecoveryBlendTicks
  held : s.arb.heldToken = s.previous
  within : ∀ i, Within s.known i (s.previous i)
  claimed : s.arb.mode = .vla → s.claimed = true →
    s.arb.handoffBlendTicks = ControlArbiter.kHandoffBlendTicks
  armed : s.arb.mode.inSession = false → s.armed = true →
    s.arb.handoffBlendTicks = ControlArbiter.kHandoffBlendTicks

theorem StageInv.init : StageInv ({} : TokenStage K) where
  handoff := Nat.zero_le _
  recovery := Nat.zero_le _
  held := rfl
  within i := .of_mem List.mem_cons_self i
  claimed := nofun
  armed := nofun

/-- Whatever the inputs, a new mode is kVla with a full handoff, or kNormal after
kRecovering with one, or neither is new. -/
theorem stepMode_armed (arb : ControlArbiter K) (vlaFresh vlaAlive calibrated recoveryDone : Bool) :
    let next := arb.stepMode vlaFresh vlaAlive calibrated recoveryDone
    (next.mode = .vla → arb.mode ≠ .vla →
        next.handoffBlendTicks = ControlArbiter.kHandoffBlendTicks) ∧
      (next.mode.inSession = false → arb.mode.inSession = true →
        next.handoffBlendTicks = ControlArbiter.kHandoffBlendTicks) ∧
      (next.handoffBlendTicks = arb.handoffBlendTicks ∨
        next.handoffBlendTicks = ControlArbiter.kHandoffBlendTicks) ∧
      (next.recoveryBlendTick = arb.recoveryBlendTick ∨ next.recoveryBlendTick = 0) ∧
      next.heldToken = arb.heldToken := by
  have hcases := decideMode_cases arb.mode vlaFresh vlaAlive calibrated recoveryDone
  intro next
  by_cases hstay : decideMode arb.mode vlaFresh vlaAlive calibrated recoveryDone = arb.mode
  · have hnext : next = arb := if_pos hstay
    rw [hnext]
    refine ⟨fun hm hne => absurd hm hne, fun hm hs => ?_, Or.inl rfl, Or.inl rfl, rfl⟩
    rw [hm] at hs
    cases hs
  · have hnext : next = _ := if_neg hstay
    rw [hnext]
    refine ⟨fun hm _ => ?_, fun hm hs => ?_, ?_, ?_, rfl⟩
    · exact if_pos (Or.inr hm)
    · refine if_pos (Or.inl ?_)
      have hm : (decideMode arb.mode vlaFresh vlaAlive calibrated recoveryDone).inSession =
        false := hm
      rcases hcases with h | ⟨h, -, -⟩ | ⟨h, -, -⟩ | ⟨h, -, -⟩ | ⟨-, -, h⟩ | ⟨h, -, h'⟩
      · exact absurd h hstay
      · rw [h] at hs; cases hs
      · rw [h] at hs; cases hs
      · rw [h] at hs; cases hs
      · rw [h] at hm; cases hm
      · exact ⟨h, h'⟩
    · dsimp only
      split
      · exact Or.inr rfl
      · exact Or.inl rfl
    · dsimp only
      split
      · exact Or.inr rfl
      · exact Or.inl rfl

theorem StageInv.of_stepMode {s : TokenStage K} (h : StageInv s)
    (vlaFresh vlaAlive calibrated recoveryDone : Bool) :
    StageInv (s.afterStepMode (s.arb.stepMode vlaFresh vlaAlive calibrated recoveryDone)) := by
  obtain ⟨hvla, horigin, hticks, htick, hheld⟩ :=
    stepMode_armed s.arb vlaFresh vlaAlive calibrated recoveryDone
  generalize s.arb.stepMode vlaFresh vlaAlive calibrated recoveryDone = next at *
  refine ⟨?_, ?_, hheld.trans h.held, h.within, fun hm hc => ?_, fun hm ha => ?_⟩
  · rcases hticks with heq | heq
    · exact heq.trans_le h.handoff
    · exact heq.le
  · rcases htick with heq | heq
    · exact heq.trans_le h.recovery
    · exact heq.trans_le (Nat.zero_le _)
  · by_cases hold : s.arb.mode = .vla
    · have hflag : s.claimed = true := by
        simpa [afterStepMode, hold] using hc
      rcases hticks with heq | heq
      · exact heq.trans (h.claimed hold hflag)
      · exact heq
    · exact hvla hm hold
  · cases hold : s.arb.mode.inSession with
    | true => exact horigin hm hold
    | false =>
      have hne : s.arb.mode ≠ .recovering := by
        intro heq
        rw [heq] at hold
        cases hold
      have hflag : s.armed = true := by
        simpa [afterStepMode, hne] using ha
      rcases hticks with heq | heq
      · exact heq.trans (h.armed hold hflag)
      · exact heq

theorem StageInv.of_armHandoff {s : TokenStage K} (h : StageInv s) :
    StageInv { s with arb := s.arb.armHandoff, armed := true } where
  handoff := le_rfl
  recovery := h.recovery
  held := h.held
  within := h.within
  claimed _ _ := rfl
  armed _ _ := rfl

/-- What one `select_token` does in kVla, kNormal and kTeleop. -/
theorem afterSelectToken_token {s : TokenStage K} (hinv : StageInv s)
    (hm : s.arb.mode ≠ .recovering) (token : Token K) :
    (∀ i, (s.afterSelectToken token).previous i =
        slide (s.previous i) (token i) s.arb.slideWeight) ∧
      (s.afterSelectToken token).arb.heldToken = (s.afterSelectToken token).previous ∧
      (s.afterSelectToken token).arb.handoffBlendTicks = s.arb.handoffBlendTicks - 1 ∧
      (s.afterSelectToken token).arb.recoveryBlendTick = s.arb.recoveryBlendTick := by
  have hsel := ControlArbiter.selectToken_token hm token
  obtain ⟨hheld, hticks, htick⟩ := s.arb.handoff_held token
  simp only [afterSelectToken, previous, Option.getD_some, hsel]
  refine ⟨fun i => ?_, hheld, hticks, htick⟩
  rw [s.arb.handoff_out token i, hinv.held]
  rfl

/-- What one `select_token` does in kRecovering. -/
theorem afterSelectToken_recovering {s : TokenStage K} (hinv : StageInv s)
    (hm : s.arb.mode = .recovering) (token : Token K) :
    (∀ i, (s.afterSelectToken token).previous i =
        slide (s.previous i) (kVlaSafeStandingToken i) s.arb.standingWeight) ∧
      (s.afterSelectToken token).arb.heldToken = (s.afterSelectToken token).previous ∧
      (s.afterSelectToken token).arb.handoffBlendTicks = s.arb.handoffBlendTicks ∧
      (s.afterSelectToken token).arb.recoveryBlendTick =
        min (s.arb.recoveryBlendTick + 1) ControlArbiter.kRecoveryBlendTicks := by
  have hsel := ControlArbiter.selectToken_recovering hm token
  obtain ⟨hheld, hticks, htick⟩ := s.arb.standingBlend_held hinv.recovery
  simp only [afterSelectToken, previous, Option.getD_some, hsel]
  refine ⟨fun i => ?_, hheld, hticks, htick⟩
  rw [s.arb.standingBlend_out hinv.recovery i, hinv.held]
  rfl

theorem afterSelectToken_mode (s : TokenStage K) (token : Token K) :
    (s.afterSelectToken token).arb.mode = s.arb.mode :=
  s.arb.selectToken_mode _ _

theorem known_subset (s : TokenStage K) (token : Token K) :
    s.known ⊆ (s.afterSelectToken token).known := by
  unfold known afterSelectToken
  split
  · exact List.Subset.refl _
  · exact List.cons_subset_cons _ (List.subset_cons_self _ _)

theorem StageInv.of_selectToken {s : TokenStage K} (h : StageInv s) (token : Token K) :
    StageInv (s.afterSelectToken token) := by
  have hmode := s.afterSelectToken_mode token
  have hknown : ∀ i, Within (s.afterSelectToken token).known i (s.previous i) :=
    fun i => (h.within i).mono (s.known_subset token)
  by_cases hm : s.arb.mode = .recovering
  · obtain ⟨hout, hheld, hticks, htick⟩ := afterSelectToken_recovering h hm token
    obtain ⟨hw0, hw1⟩ := s.arb.standingWeight_mem
    refine ⟨hticks.trans_le h.handoff, htick.trans_le (min_le_right _ _), hheld,
      fun i => ?_, fun hvla => ?_, fun horigin => ?_⟩
    · rw [hout i]
      exact (hknown i).slide (.of_mem List.mem_cons_self i) hw0 hw1
    · rw [hmode, hm] at hvla
      cases hvla
    · rw [hmode, hm] at horigin
      cases horigin
  · obtain ⟨hout, hheld, hticks, htick⟩ := afterSelectToken_token h hm token
    obtain ⟨hw0, hw1⟩ := ControlArbiter.slideWeight_mem h.handoff
    have hle := h.handoff
    refine ⟨by omega, htick.trans_le h.recovery, hheld, fun i => ?_, fun hvla hc => ?_,
      fun horigin ha => ?_⟩
    · have hmem : token ∈ (s.afterSelectToken token).known := by
        simp [known, afterSelectToken, hm]
      rw [hout i]
      exact (hknown i).slide (.of_mem hmem i) hw0 hw1
    · rw [hmode] at hvla
      simp [afterSelectToken, hvla] at hc
    · rw [hmode] at horigin
      simp [afterSelectToken, horigin] at ha

theorem StageInv.of_step {s t : TokenStage K} (h : StageInv s) {op : Op K}
    (hstep : step s op = some t) : StageInv t := by
  cases op with
  | stepMode vlaFresh vlaAlive calibrated recoveryDone =>
    cases hstep
    exact h.of_stepMode _ _ _ _
  | armHandoff =>
    cases hstep
    exact h.of_armHandoff
  | selectToken token =>
    cases hstep
    exact h.of_selectToken token

theorem StageInv.of_reachable {s : TokenStage K}
    (h : Transition.Reachable step Transition.Always {} s) : StageInv s :=
  h.invariant .init fun _ _ _ hs _ hstep => hs.of_step hstep

/-! ## The blends over a run -/

/-- The supplied token is `token` throughout, outside kRecovering. -/
def Constant (token : Token K) (s : TokenStage K) : Op K → Prop
  | .selectToken token' => s.arb.mode ≠ .recovering ∧ token' = token
  | _ => True

theorem distance_of_step {s t : TokenStage K} (h : StageInv s) {token : Token K} {op : Op K}
    (hC : Constant token s op) (hstep : step s op = some t) (i : Fin 64) :
    |t.previous i - token i| ≤ |s.previous i - token i| := by
  cases op with
  | stepMode vlaFresh vlaAlive calibrated recoveryDone =>
    cases hstep
    exact le_rfl
  | armHandoff =>
    cases hstep
    exact le_rfl
  | selectToken token' =>
    obtain ⟨hm, rfl⟩ := hC
    cases hstep
    obtain ⟨hw0, hw1⟩ := ControlArbiter.slideWeight_mem h.handoff
    rw [(afterSelectToken_token h hm token').1 i]
    exact abs_slide_sub_le hw0 hw1

/-- While the supplied token is constant, the distance to it never grows. -/
theorem distance_of_reachable {s t : TokenStage K} (h : StageInv s) {token : Token K}
    (ht : Transition.Reachable step (Constant token) s t) (i : Fin 64) :
    |t.previous i - token i| ≤ |s.previous i - token i| := by
  have hboth : StageInv t ∧ |t.previous i - token i| ≤ |s.previous i - token i| := by
    refine ht.invariant (I := fun u => StageInv u ∧
      |u.previous i - token i| ≤ |s.previous i - token i|) ⟨h, le_rfl⟩ ?_
    intro u op v ⟨hu, hle⟩ hC hstep
    exact ⟨hu.of_step hstep, (distance_of_step hu hC hstep i).trans hle⟩
  exact hboth.2

/-- A first output that is still to come: in kVla after a claim, in kNormal or kTeleop after
kRecovering was left or a handoff was armed. -/
def FirstOutput (s : TokenStage K) : Prop :=
  (s.arb.mode = .vla ∧ s.claimed = true) ∨ (s.arb.mode.inSession = false ∧ s.armed = true)

theorem first_output {s : TokenStage K} (h : StageInv s) (hfirst : FirstOutput s)
    (token : Token K) : (s.afterSelectToken token).previous = s.previous := by
  have hfull : s.arb.mode ≠ .recovering ∧
      s.arb.handoffBlendTicks = ControlArbiter.kHandoffBlendTicks := by
    rcases hfirst with ⟨hm, hc⟩ | ⟨hm, ha⟩
    · refine ⟨?_, h.claimed hm hc⟩
      rw [hm]
      nofun
    · refine ⟨fun heq => ?_, h.armed hm ha⟩
      rw [heq] at hm
      cases hm
  funext i
  rw [(afterSelectToken_token h hfull.1 token).1 i, ControlArbiter.slideWeight_armed hfull.2,
    slide_zero]

/-- Once the armed outputs are used up, the supplied token is output exactly. -/
theorem passes_through {s : TokenStage K} (h : StageInv s) (hm : s.arb.mode ≠ .recovering)
    (hused : s.arb.handoffBlendTicks = 0) (token : Token K) :
    (s.afterSelectToken token).previous = token := by
  funext i
  rw [(afterSelectToken_token h hm token).1 i, ControlArbiter.slideWeight_used hused, slide_one]

/-- Once the recovery blend is done, the standing token is output exactly. -/
theorem landed {s : TokenStage K} (h : StageInv s) (hm : s.arb.mode = .recovering)
    (token : Token K) (hdone : (s.afterSelectToken token).arb.recoveryBlendDone = true) :
    (s.afterSelectToken token).previous = kVlaSafeStandingToken := by
  obtain ⟨hout, -, -, htick⟩ := afterSelectToken_recovering h hm token
  have hle := of_decide_eq_true hdone
  rw [htick] at hle
  funext i
  rw [hout i, ControlArbiter.standingWeight_landed (hle.trans (min_le_left _ _)), slide_one]

/-- Any sequence of `step_mode`, `arm_handoff` and `select_token` calls keeps both counters in
their bounds and the last output between the tokens so far; a first output repeats the
previous one; towards a constant token the distance never grows, each output uses up one of
those armed, and after them the token itself comes out; and the recovery, once its blend is
done, puts the standing token out. -/
theorem token_blends {s : TokenStage K}
    (hs : Transition.Reachable step Transition.Always {} s) :
    s.arb.handoffBlendTicks ≤ 35 ∧ s.arb.recoveryBlendTick ≤ 50 ∧
      (∀ out, s.output = some out → ∀ i, Within s.known i (out i)) ∧
      (FirstOutput s → ∀ token, (s.afterSelectToken token).output = some s.previous) ∧
      (∀ token t, Transition.Reachable step (Constant token) s t →
        ∀ i, |t.previous i - token i| ≤ |s.previous i - token i|) ∧
      (s.arb.mode ≠ .recovering → ∀ token,
        (s.afterSelectToken token).arb.handoffBlendTicks = s.arb.handoffBlendTicks - 1 ∧
          (s.arb.handoffBlendTicks = 0 → (s.afterSelectToken token).output = some token)) ∧
      (s.arb.mode = .recovering → ∀ token,
        (s.afterSelectToken token).arb.recoveryBlendDone = true →
          (s.afterSelectToken token).output = some kVlaSafeStandingToken) := by
  have h := StageInv.of_reachable hs
  refine ⟨h.handoff, h.recovery, ?_, fun hfirst token => ?_, ?_, fun hm token => ⟨?_, ?_⟩, ?_⟩
  · intro out hout i
    have hwithin := h.within i
    rw [previous, hout] at hwithin
    exact hwithin
  · exact congrArg some (first_output h hfirst token)
  · intro token t ht i
    exact distance_of_reachable h ht i
  · exact (afterSelectToken_token h hm token).2.2.1
  · intro hused
    exact congrArg some (passes_through h hm hused token)
  · intro hm token hdone
    exact congrArg some (landed h hm token hdone)

/-- A claim, three outputs of the stream and the loss, over the rationals. -/
def claimRun : List (Op ℚ) :=
  [.stepMode true true false false, .selectToken 1, .selectToken 1, .selectToken 1,
    .stepMode false false false false]

theorem token_blends_claim :
    ∃ s : TokenStage ℚ, s.arb.mode = .recovering ∧ s.arb.handoffBlendTicks ≤ 35 ∧
      ∀ token, (s.afterSelectToken token).arb.recoveryBlendDone = true →
        (s.afterSelectToken token).output = some kVlaSafeStandingToken := by
  have hrun : (Transition.run step {} claimRun).any
      (fun s => s.arb.mode = .recovering) = true := by decide +kernel
  obtain ⟨s, hs, hm⟩ := Transition.reachable_of_run_any hrun
  have hmode : s.arb.mode = .recovering := of_decide_eq_true hm
  obtain ⟨hticks, -, -, -, -, -, hland⟩ := token_blends hs
  exact ⟨s, hmode, hticks, hland hmode⟩

end TokenStage

end Gearsonic
