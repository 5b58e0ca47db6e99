import Gearsonic.Control.ArbiterFlow
import Gearsonic.Control.TokenStage

/-!
# The handoff after the origin is re-entered

The controller discards its playback after a long LowState loss and at the end of a recovery.
The first token after that comes from another source, or from the same one with another
motion. The end of a recovery arms the handoff. The long loss does not: the token slides only
where the stream claims or a teleop target comes or goes in between.

`EntryWatch` adds three members to the controller: how many tokens were selected since the
last re-entry, whether that was the end of a recovery, and whether the handoff has been armed
since a token went through it.

* `HandoffInv`: the handoff is armed exactly when its counter is full.
* `reentry_crossfade`: the first token after a re-entry is the held one exactly when the
  handoff was armed, and then the next ones slide.
-/

set_option linter.unusedSectionVars false

namespace Gearsonic

variable {K : Type} [Field K] [LinearOrder K] [CMath K]

open Numeric WholeBodyController

/-- The transitions that arm the handoff. -/
def Mode.handsOver (m next : Mode) : Bool :=
  decide (next ≠ m) && (decide (m = .recovering ∧ next = .normal) || decide (next = .vla))

namespace ControlArbiter

/-- The token that the mode supplies to the handoff. -/
def supplied (arb : ControlArbiter K) (tokens : Option (Token K) × Option (Token K)) : Token K :=
  match arb.mode with
  | .vla => tokens.2.getD 0
  | _ => tokens.1.getD 0

theorem selectToken_supplied {arb : ControlArbiter K} (h : arb.mode ≠ .recovering)
    (tokens : Option (Token K) × Option (Token K)) :
    arb.selectToken tokens.1 tokens.2 = arb.handoff (arb.supplied tokens) := by
  unfold selectToken supplied
  cases hm : arb.mode with
  | recovering => exact absurd hm h
  | _ => rfl

theorem selectToken_ticks (arb : ControlArbiter K)
    (tokens : Option (Token K) × Option (Token K)) :
    (arb.selectToken tokens.1 tokens.2).1.handoffBlendTicks =
      if arb.mode = .recovering then arb.handoffBlendTicks else arb.handoffBlendTicks - 1 := by
  by_cases hm : arb.mode = .recovering
  · rw [if_pos hm]
    unfold selectToken
    rw [hm]
    rfl
  · rw [if_neg hm, selectToken_supplied hm, (handoff_held arb _).2.1]

theorem stepMode_ticks (arb : ControlArbiter K) (vlaFresh vlaAlive calibrated done : Bool) :
    (arb.stepMode vlaFresh vlaAlive calibrated done).handoffBlendTicks =
      if arb.mode.handsOver (arb.stepMode vlaFresh vlaAlive calibrated done).mode
      then kHandoffBlendTicks else arb.handoffBlendTicks := by
  rw [stepMode_mode]
  unfold stepMode Mode.handsOver
  dsimp only
  by_cases hstay : decideMode arb.mode vlaFresh vlaAlive calibrated done = arb.mode
  · simp [hstay]
  · simp [hstay]

end ControlArbiter

namespace ControllerThread

/-- The step arms the handoff. -/
def arms (s : ControllerThread K) (r : TickReads K) : Bool :=
  if s.decides then s.controller.arbiter.mode.handsOver (s.controller.stepArbiter r).mode
  else s.onEncoderPath && s.controller.edgeDue r

theorem staged_ticks (s : ControllerThread K) (r : TickReads K) :
    (s.staged r).handoffBlendTicks =
      if s.arms r then ControlArbiter.kHandoffBlendTicks
      else s.controller.arbiter.handoffBlendTicks := by
  unfold staged arms
  cases s.decides with
  | true => exact ControlArbiter.stepMode_ticks _ _ _ _ _
  | false =>
    rw [if_neg Bool.false_ne_true, if_neg Bool.false_ne_true]
    split <;> rfl

end ControllerThread

structure EntryWatch (K : Type) [Field K] where
  thread : ControllerThread K := {}
  since : Option Nat := none
  recovered : Bool := false
  armed : Bool := false

namespace EntryWatch

/-- The arbiter in front of the step's `select_token`. -/
abbrev staged (s : EntryWatch K) (r : TickReads K) : ControlArbiter K := s.thread.staged r

/-- The handoff has been armed since a token went through it, this step included. -/
def armedBy (s : EntryWatch K) (r : TickReads K) : Bool := s.armed || s.thread.arms r

def step (s : EntryWatch K) (r : TickReads K) : Option (EntryWatch K) :=
  let selects := (s.thread.selection r).isSome
  some
    { thread := s.thread.next r
      since :=
        match s.thread.point with
        | .discarding | .leaving => some 0
        | _ => if selects then s.since.map (· + 1) else s.since
      recovered :=
        match s.thread.point with
        | .discarding => false
        | .leaving => true
        | _ => s.recovered
      armed := if selects ∧ (s.staged r).mode ≠ .recovering then false else s.armedBy r }

def start (auto : Bool) : EntryWatch K := { thread := { controller := { autoStart := auto } } }

/-- The first token after a re-entry, if the step selects it, is the start of a crossfade: the
handoff is armed in full, and the token is the held one. -/
def FirstHeld (s : EntryWatch K) (r : TickReads K) : Prop :=
  s.since = some 0 → ∀ tokens, s.thread.selection r = some tokens →
    (s.staged r).mode ≠ .recovering ∧
      (s.staged r).handoffBlendTicks = ControlArbiter.kHandoffBlendTicks ∧
      ((s.staged r).selectToken tokens.1 tokens.2).2 = (s.staged r).heldToken

/-- The tokens after it, up to the end of the window, slide into what their mode supplies. -/
def Slides (s : EntryWatch K) (r : TickReads K) : Prop :=
  ∀ n tokens, s.since = some n → 1 ≤ n → n < ControlArbiter.kHandoffBlendTicks →
    s.thread.selection r = some tokens → (s.staged r).mode ≠ .recovering →
    ∃ w : K, 0 ≤ w ∧ w ≤ (n : K) / (ControlArbiter.kHandoffBlendTicks : K) ∧
      ∀ i, ((s.staged r).selectToken tokens.1 tokens.2).2 i =
        slide ((s.staged r).heldToken i) ((s.staged r).supplied tokens i) w

/-- Where the step selects the first token after a re-entry, the robot is not in a recovery
and the handoff has been armed. -/
def Armed (s : EntryWatch K) (r : TickReads K) : Prop :=
  s.since = some 0 → (s.thread.selection r).isSome = true →
    (s.staged r).mode ≠ .recovering ∧ s.armedBy r = true

/-! ## The counter -/

structure HandoffInv (s : EntryWatch K) : Prop where
  bound : s.thread.controller.arbiter.handoffBlendTicks ≤ ControlArbiter.kHandoffBlendTicks
  armed : s.armed = true ↔
    s.thread.controller.arbiter.handoffBlendTicks = ControlArbiter.kHandoffBlendTicks
  leaving : s.thread.point = .leaving → s.armed = true
  recovered : s.since = some 0 → s.recovered = true → s.armed = true

theorem HandoffInv.start (auto : Bool) : HandoffInv (start auto : EntryWatch K) :=
  ⟨Nat.zero_le _, ⟨nofun, nofun⟩, nofun, nofun⟩

theorem HandoffInv.staged {s : EntryWatch K} (h : s.HandoffInv) (r : TickReads K) :
    (s.staged r).handoffBlendTicks ≤ ControlArbiter.kHandoffBlendTicks ∧
      (s.armedBy r = true ↔
        (s.staged r).handoffBlendTicks = ControlArbiter.kHandoffBlendTicks) := by
  have hticks := s.thread.staged_ticks r
  unfold armedBy
  cases harms : s.thread.arms r with
  | true =>
    rw [harms, if_pos rfl] at hticks
    rw [hticks, Bool.or_true]
    exact ⟨le_rfl, iff_of_true rfl rfl⟩
  | false =>
    rw [harms, if_neg Bool.false_ne_true] at hticks
    rw [hticks, Bool.or_false]
    exact ⟨h.bound, h.armed⟩

/-- A step into the end of a recovery has just armed the handoff. -/
theorem leaving_arms {s : ControllerThread K} {r : TickReads K}
    (h : (s.next r).point = .leaving) : s.arms r = true ∧ s.selection r = none := by
  have hfires := ControllerThread.fires_next s r
  generalize s.next r = t at h hfires
  cases hfires with
  | leave c hleaves =>
    refine ⟨?_, rfl⟩
    unfold leavesRecovery at hleaves
    rw [Bool.and_eq_true, decide_eq_true_iff, decide_eq_true_iff] at hleaves
    show c.arbiter.mode.handsOver (c.stepArbiter r).mode = true
    rw [hleaves.1, hleaves.2]
    rfl
  | encode c hm hne =>
    dsimp only at h
    split at h <;> cases h
  | _ => cases h

/-- At the two points where the playback is discarded no token is selected. -/
theorem selection_discard {s : ControllerThread K} {r : TickReads K}
    (h : s.point = .discarding ∨ s.point = .leaving) : s.selection r = none := by
  unfold ControllerThread.selection
  rcases h with h | h
  · rw [h]
  · rw [h]

theorem HandoffInv.of_step {s t : EntryWatch K} (h : s.HandoffInv) {r : TickReads K}
    (hstep : s.step r = some t) : t.HandoffInv := by
  obtain ⟨hbound, harmed⟩ := h.staged r
  have harbiter := ControllerThread.next_arbiter (s := s.thread) (r := r)
  cases hstep
  have hcounter : (s.thread.next r).controller.arbiter.handoffBlendTicks ≤
      ControlArbiter.kHandoffBlendTicks ∧
      ((if (s.thread.selection r).isSome ∧ (s.staged r).mode ≠ .recovering then false
        else s.armedBy r) = true ↔
        (s.thread.next r).controller.arbiter.handoffBlendTicks =
          ControlArbiter.kHandoffBlendTicks) := by
    cases hsel : s.thread.selection r with
    | none =>
      rw [hsel] at harbiter
      rw [harbiter, if_neg fun hboth => Bool.false_ne_true hboth.1]
      exact ⟨hbound, harmed⟩
    | some tokens =>
      rw [hsel] at harbiter
      have hticks := (s.staged r).selectToken_ticks tokens
      rw [harbiter]
      dsimp only [Option.elim_some]
      by_cases hm : (s.staged r).mode = .recovering
      · rw [if_pos hm] at hticks
        rw [hticks, if_neg fun hboth => hboth.2 hm]
        exact ⟨hbound, harmed⟩
      · rw [if_neg hm] at hticks
        rw [hticks, if_pos ⟨rfl, hm⟩]
        refine ⟨by omega, nofun, fun hfull => ?_⟩
        unfold ControlArbiter.kHandoffBlendTicks at hbound hfull
        omega
  refine ⟨hcounter.1, hcounter.2, fun hpoint => ?_, fun hsince hrecovered => ?_⟩
  · obtain ⟨harms, hnone⟩ := leaving_arms hpoint
    show (if (s.thread.selection r).isSome ∧ _ then false else s.armedBy r) = true
    rw [hnone, if_neg fun hboth => Bool.false_ne_true hboth.1]
    unfold armedBy
    rw [harms, Bool.or_true]
  · -- no token since the re-entry, so the flag stands as it was raised
    have hkept : s.armed = true → (s.thread.selection r).isSome = false →
        (if (s.thread.selection r).isSome ∧ (s.staged r).mode ≠ .recovering then false
          else s.armedBy r) = true := by
      intro hset hnone
      rw [hnone, if_neg fun hboth => Bool.false_ne_true hboth.1]
      unfold armedBy
      rw [hset, Bool.true_or]
    dsimp only at hsince hrecovered
    cases hpoint : s.thread.point with
    | discarding =>
      rw [hpoint] at hrecovered
      cases hrecovered
    | leaving =>
      exact hkept (h.leaving hpoint) (by rw [selection_discard (.inr hpoint)]; rfl)
    | _ =>
      rw [hpoint] at hsince hrecovered
      dsimp only at hsince hrecovered
      cases hselects : (s.thread.selection r).isSome with
      | true =>
        rw [hselects, if_pos rfl] at hsince
        obtain ⟨n, -, hn⟩ := Option.map_eq_some_iff.mp hsince
        cases hn
      | false =>
        rw [hselects, if_neg Bool.false_ne_true] at hsince
        have := hkept (h.recovered hsince hrecovered) hselects
        rwa [hselects] at this

theorem HandoffInv.of_reachable {auto : Bool} {s : EntryWatch K}
    {C : EntryWatch K → TickReads K → Prop}
    (h : Transition.Reachable step C (EntryWatch.start auto) s) : s.HandoffInv :=
  h.invariant (.start auto) fun _ _ _ hs _ hstep => hs.of_step hstep

/-! ## The first token -/

section

variable [IsStrictOrderedRing K]

/-- The first token after a re-entry starts a crossfade exactly where the handoff was armed. -/
theorem HandoffInv.firstHeld_iff {s : EntryWatch K} (h : s.HandoffInv) (r : TickReads K) :
    s.FirstHeld r ↔ s.Armed r := by
  obtain ⟨-, harmed⟩ := h.staged r
  constructor
  · intro hfirst hsince hselects
    obtain ⟨tokens, htokens⟩ := Option.isSome_iff_exists.mp hselects
    obtain ⟨hm, hticks, -⟩ := hfirst hsince tokens htokens
    exact ⟨hm, harmed.mpr hticks⟩
  · intro hC hsince tokens htokens
    obtain ⟨hm, hset⟩ := hC hsince (by rw [htokens]; rfl)
    have hticks := harmed.mp hset
    refine ⟨hm, hticks, ?_⟩
    rw [ControlArbiter.selectToken_supplied hm]
    ext i
    rw [ControlArbiter.handoff_out, ControlArbiter.slideWeight_armed hticks, slide_zero]

/-! ## The tokens after it -/

/-- Each token since the re-entry has used at most one tick of the handoff. -/
def Windowed (s : EntryWatch K) : Prop :=
  ∀ n, s.since = some n → 1 ≤ n →
    ControlArbiter.kHandoffBlendTicks ≤ s.thread.controller.arbiter.handoffBlendTicks + n

theorem Windowed.staged {s : EntryWatch K} (h : s.Windowed) (r : TickReads K) {n : Nat}
    (hn : s.since = some n) (hpos : 1 ≤ n) :
    ControlArbiter.kHandoffBlendTicks ≤ (s.staged r).handoffBlendTicks + n := by
  have hticks := s.thread.staged_ticks r
  have hwindow := h n hn hpos
  split at hticks
  · show _ ≤ (s.thread.staged r).handoffBlendTicks + n
    omega
  · show _ ≤ (s.thread.staged r).handoffBlendTicks + n
    omega

theorem Windowed.of_step {s t : EntryWatch K} (hinv : s.HandoffInv) (h : s.Windowed)
    {r : TickReads K} (hC : s.Armed r) (hstep : s.step r = some t) : t.Windowed := by
  have harbiter := ControllerThread.next_arbiter (s := s.thread) (r := r)
  have hfull := (hinv.staged r).2
  cases hstep
  intro n hn hpos
  show _ ≤ (s.thread.next r).controller.arbiter.handoffBlendTicks + n
  have hrest : s.thread.point ≠ .discarding ∧ s.thread.point ≠ .leaving := by
    constructor
    · intro hpoint
      dsimp only at hn
      rw [hpoint] at hn
      cases hn
      omega
    · intro hpoint
      dsimp only at hn
      rw [hpoint] at hn
      cases hn
      omega
  have hsince : (if (s.thread.selection r).isSome then s.since.map (· + 1) else s.since) =
      some n := by
    dsimp only at hn
    cases hpoint : s.thread.point with
    | discarding => exact absurd hpoint hrest.1
    | leaving => exact absurd hpoint hrest.2
    | _ =>
      rw [hpoint] at hn
      exact hn
  cases hsel : s.thread.selection r with
  | none =>
    rw [hsel] at harbiter hsince
    rw [harbiter]
    exact h.staged r hsince hpos
  | some tokens =>
    rw [hsel] at harbiter hsince
    rw [harbiter]
    dsimp only [Option.elim_some]
    obtain ⟨m, hm, rfl⟩ := Option.map_eq_some_iff.mp hsince
    have hticks := (s.staged r).selectToken_ticks tokens
    by_cases hzero : m = 0
    · subst hzero
      obtain ⟨hmode, harmed⟩ := hC hm (by rw [hsel]; rfl)
      have := hfull.mp harmed
      rw [if_neg hmode] at hticks
      show _ ≤ ((s.staged r).selectToken tokens.1 tokens.2).1.handoffBlendTicks + (0 + 1)
      omega
    · have hwindow := h.staged r hm (Nat.one_le_iff_ne_zero.mpr hzero)
      show _ ≤ ((s.staged r).selectToken tokens.1 tokens.2).1.handoffBlendTicks + (m + 1)
      split at hticks <;> omega

theorem Windowed.slides {s : EntryWatch K} (hinv : s.HandoffInv) (h : s.Windowed)
    (r : TickReads K) : s.Slides r := by
  intro n tokens hn hpos hlt htokens hm
  have hwindow := h.staged r hn hpos
  have hbound := (hinv.staged r).1
  refine ⟨(s.staged r).slideWeight, (ControlArbiter.slideWeight_mem hbound).1, ?_, fun i => ?_⟩
  · have hcast : (ControlArbiter.kHandoffBlendTicks : K) ≤
        ((s.staged r).handoffBlendTicks : K) + (n : K) := by
      exact_mod_cast hwindow
    have hpos' : (0 : K) < (ControlArbiter.kHandoffBlendTicks : K) := by
      norm_num [ControlArbiter.kHandoffBlendTicks]
    unfold ControlArbiter.slideWeight
    rw [sub_le_iff_le_add, ← add_div, le_div_iff₀ hpos', one_mul, add_comm]
    exact hcast
  · rw [ControlArbiter.selectToken_supplied hm, ControlArbiter.handoff_out]

/-- In every run the first token after a re-entry is the start of a crossfade exactly where
the robot is not in a recovery and the handoff has been armed, which the end of a recovery
does by itself; and where all first tokens are, the tokens after them slide. -/
theorem reentry_crossfade {auto : Bool} :
    (∀ s : EntryWatch K, Transition.Reachable step Transition.Always (start auto) s →
      (∀ r, s.FirstHeld r ↔ s.Armed r) ∧
      (s.since = some 0 → s.recovered = true → s.armed = true)) ∧
    (∀ s : EntryWatch K, Transition.Reachable step Armed (start auto) s →
      ∀ r, s.Armed r → s.Slides r) := by
  constructor
  · intro s h
    have hinv := HandoffInv.of_reachable h
    exact ⟨hinv.firstHeld_iff, hinv.recovered⟩
  · intro s h r _
    have hboth : s.HandoffInv ∧ s.Windowed := by
      refine h.invariant (I := fun s => s.HandoffInv ∧ s.Windowed) ⟨.start auto, nofun⟩ ?_
      intro s r t hs hC hstep
      exact ⟨hs.1.of_step hstep, hs.2.of_step hs.1 hC hstep⟩
    exact hboth.2.slides hboth.1 r

end

/-! ## A long loss in kNormal -/

/-- The robot stands and is present, the encoder returns this token, the planner has this
plan. -/
def standReads (token : ℚ) (stamp : TimePoint) : TickReads ℚ :=
  { now := 1, lowState := ⟨some {}, 1⟩, robotState := some {}, stateTicket := 1
    stateReinitDone := 1, encoderOut := some fun _ => token, decoderOut := some fun _ => 0
    plan := ⟨some { frames := [{}] }, stamp⟩ }

/-- INIT and WAIT, a plan, a token of ones, 26 ticks without LowState, the re-entry with the
next plan, and the next tick up to the encoder. -/
def lossRun : List (TickReads ℚ) :=
  List.replicate (151 * 4 + 8 + 8) (standReads 1 1) ++ List.replicate (26 * 2) ({} : TickReads ℚ) ++
    List.replicate (10 + 5) (standReads 2 2)

/-- The last reads, and the operator engages upper-body teleop. -/
def engageReads : TickReads ℚ := { standReads 2 2 with vr3point := some {} }

instance (s : EntryWatch ℚ) (r : TickReads ℚ) : Decidable (s.Armed r) :=
  inferInstanceAs (Decidable (_ → _ → _))

/-- Where teleop engages on the tick of the first token, it is held and the next one slides. -/
theorem reentry_crossfade_engaged : ∃ s t : EntryWatch ℚ,
    s.since = some 0 ∧ s.step engageReads = some t ∧ t.since = some 1 ∧
      s.FirstHeld engageReads ∧ t.Slides engageReads := by
  have halong : Transition.Along step Armed (start true) (lossRun ++ [engageReads]) := by
    decide +kernel
  have hend : (Transition.run step (start true) lossRun).any (fun s => decide (s.since = some 0) &&
      decide (s.Armed engageReads) && (s.step engageReads).any fun t =>
        decide (t.since = some 1) && decide (t.Armed engageReads)) = true := by decide +kernel
  obtain ⟨s, hs, hcheck⟩ := (Option.any_eq_true _ _).mp hend
  simp only [Bool.and_eq_true, decide_eq_true_iff, Option.any_eq_true] at hcheck
  obtain ⟨⟨hsince, harmed⟩, t, hstep, hnext, hlast⟩ := hcheck
  have hrun : Transition.run step (start true) (lossRun ++ [engageReads]) = some t :=
    Transition.run_concat hs hstep
  obtain ⟨hfirst, hslides⟩ := @reentry_crossfade ℚ _ _ _ _ true
  exact ⟨s, t, hsince, hstep, hnext,
    ((hfirst s (Transition.reachable_of_run hs)).1 engageReads).mpr harmed,
    hslides t (Transition.reachable_of_along halong hrun) engageReads hlast⟩

/-- In kNormal with nothing engaged, the first token is the encoder's and not the held one. -/
theorem loss_reentry_steps : ∃ s : EntryWatch ℚ,
    Transition.Reachable step Transition.Always (start true) s ∧
      ¬ s.FirstHeld (standReads 2 2) := by
  have hend : (Transition.run step (start true) lossRun).any (fun s => decide (s.since = some 0) &&
      (s.thread.selection (standReads 2 2)).any fun tokens =>
        decide (((s.staged (standReads 2 2)).selectToken tokens.1 tokens.2).2 0 ≠
          (s.staged (standReads 2 2)).heldToken 0)) = true := by decide +kernel
  obtain ⟨s, hs, hcheck⟩ := Transition.reachable_of_run_any hend
  simp only [Bool.and_eq_true, decide_eq_true_iff, Option.any_eq_true] at hcheck
  obtain ⟨hsince, tokens, htokens, hne⟩ := hcheck
  exact ⟨s, hs, fun hfirst => hne (congrFun (hfirst hsince tokens htokens).2.2 0)⟩

end EntryWatch

end Gearsonic
