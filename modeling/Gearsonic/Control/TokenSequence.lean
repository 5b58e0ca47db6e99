import Gearsonic.Control.RecordFlow
import Gearsonic.Control.StaleTarget

/-!
# The sequence numbers of the token stream

The counter moves in `record_token` alone, so two samples that follow each other differ by
one, however many ticks without a token lie between them. `TokenWatch` follows the loop and
keeps the last sample and the number of iterations since that decoded nothing.

* `iteration_sample`: which iterations write a sample, read off their state and their reads.
* `seq_marks_iff`: the numbers mark the interruptions exactly in the runs that have none.
-/

set_option linter.unusedSectionVars false

namespace Gearsonic

variable {K : Type} [Field K] [LinearOrder K] [CMath K]

namespace WholeBodyController

/-- The iteration is a CONTROL tick that decodes a token. -/
def decodes (c : WholeBodyController K) (r : TickReads K) : Bool :=
  decide (c.state = .control) && !r.estop && checkSafety r.lowState r.now && !c.stalled r

variable {c : WholeBodyController K} {r : TickReads K}

/-- What a CONTROL tick stores is the policy's. -/
theorem controlOut_policy {out : Writer × MotorCommand K} (h : c.controlOut r = some out) :
    out.1 = .policy := by
  have hpolicy : ∀ {out : Writer × MotorCommand K}, r.policyOut = some out → out.1 = .policy := by
    intro out hout
    obtain ⟨action, -, rfl⟩ := Option.map_eq_some_iff.mp hout
    rfl
  have hbind : ∀ {α : Type} {o : Option α} {out : Writer × MotorCommand K},
      (o.bind fun _ => r.policyOut) = some out → out.1 = .policy := by
    intro α o out hout
    obtain ⟨_, -, hout⟩ := Option.bind_eq_some_iff.mp hout
    exact hpolicy hout
  unfold controlOut at h
  cases hr : r.robotState with
  | none =>
    rw [hr] at h
    cases h
  | some st =>
    rw [hr] at h
    dsimp only at h
    split at h
    · cases h
    · unfold ownerOut at h
      split at h
      · exact hbind h
      · exact hpolicy h
      · split at h
        · cases h
        · exact hbind h
      · split at h
        · cases h
        · exact hbind h

/-- A tick stores at most one policy command, and stores one exactly when it decodes. -/
theorem policies_length :
    (c.loopIteration r).policies.length = if c.decodes r then 1 else 0 := by
  rcases loopIteration_cases c r with ⟨hestop, hc⟩ | ⟨hestop, hsafe, hc⟩ | ⟨hestop, hsafe, hst⟩
  · have hno : c.decodes r = false := by simp [decodes, hestop]
    rw [hno, hc]
    simp [policies, commands, tickEstop, publishDamping, publish, emit, Output.command]
  · have hno : c.decodes r = false := by simp [decodes, hsafe]
    rw [hno, hc, policies, tickMissing_commands _ _ rfl]
    split <;> simp
  · have hcommands : (c.loopIteration r).commands = ((c.resumed r).stateOut r).toList :=
      hst.commands
    have hsame : (c.resumed r).state = c.state := tickRecovered_state _ _
    rw [policies, hcommands]
    by_cases hs : c.state = .control
    · have hstall := stalled_iff (r := r) hs
      rw [hcommands] at hstall
      have hout : (c.resumed r).stateOut r = (c.resumed r).controlOut r := by
        rw [stateOut, hsame, hs]
      rw [hout] at hstall ⊢
      cases hcontrol : (c.resumed r).controlOut r with
      | none =>
        rw [hcontrol] at hstall
        have hyes : c.decodes r = false := by simp [decodes, hstall.mpr rfl]
        rw [hyes]
        rfl
      | some out =>
        rw [hcontrol] at hstall
        have hgo : c.stalled r = false := by
          cases h : c.stalled r with
          | false => rfl
          | true => exact absurd (hstall.mp h) (by simp)
        have hyes : c.decodes r = true := by simp [decodes, hs, hestop, hsafe, hgo]
        simp [hyes, controlOut_policy hcontrol]
    · have hno : c.decodes r = false := by simp [decodes, hs]
      rw [hno, stateOut, hsame]
      cases hstate : c.state with
      | control => exact absurd hstate hs
      | init => cases hq : r.robotState <;> simp [initOut, hq]
      | waitForControl => rfl
      | estop => rfl

/-- **Exactly the decoding iterations write a sample, one each, under the next number.** -/
theorem iteration_sample :
    (c.decodes r = false ∧ (c.loopIteration r).samples = [] ∧
        (c.loopIteration r).tokenSeq = c.tokenSeq) ∨
      ∃ s, c.decodes r = true ∧ (c.loopIteration r).samples = [s] ∧ s.seq = c.tokenSeq + 1 ∧
        (c.loopIteration r).tokenSeq = c.tokenSeq + 1 := by
  have htakes := c.iteration_takes r
  have hcount : (c.loopIteration r).samples.length = if c.decodes r then 1 else 0 := by
    rw [← policies_length]
    exact (htakes.policies.trans (Nat.zero_add _)).symm
  have hseq : (c.loopIteration r).tokenSeq = c.tokenSeq + (c.loopIteration r).samples.length :=
    htakes.tokenSeq
  cases hdecodes : c.decodes r with
  | false =>
    rw [hdecodes] at hcount
    have hnone := List.length_eq_zero_iff.mp hcount
    rw [hnone] at hseq
    exact Or.inl ⟨rfl, hnone, hseq⟩
  | true =>
    rw [hdecodes] at hcount
    obtain ⟨s, hs⟩ := List.length_eq_one_iff.mp hcount
    have hseqs := htakes.seqs
    rw [hs] at hseq hseqs
    exact Or.inr ⟨s, rfl, hs, List.head_eq_of_cons_eq hseqs, hseq⟩

end WholeBodyController

/-! ## The watch over a run -/

open WholeBodyController

/-- The loop, the last sample written, and the iterations since that wrote none. -/
structure TokenWatch (K : Type) [Field K] where
  controller : WholeBodyController K := {}
  last : Option (MotionTokenSample K) := none
  silent : Nat := 0

namespace TokenWatch

def start (auto : Bool) : TokenWatch K := { controller := { autoStart := auto } }

def tick (w : TokenWatch K) (r : TickReads K) : TokenWatch K :=
  let c := w.controller.loopIteration r
  { controller := c
    last := c.samples.getLast?.or w.last
    silent := if c.samples.isEmpty then w.silent + 1 else 0 }

/-- Two samples in a row: adjacent numbers from adjacent iterations, a gap in the numbers
where an iteration between them wrote none. -/
def SeqMarks (w : TokenWatch K) (r : TickReads K) : Prop :=
  ∀ s t, w.last = some s → (w.controller.loopIteration r).samples.head? = some t →
    (w.silent = 0 → t.seq = s.seq + 1) ∧ (0 < w.silent → s.seq + 1 < t.seq)

/-- The iteration does not resume the stream after an interruption. -/
def Uninterrupted (w : TokenWatch K) (r : TickReads K) : Prop :=
  w.last.isSome = true → 0 < w.silent → w.controller.decodes r = false

/-- The counter is the number of the last sample. -/
def SeqInv (w : TokenWatch K) : Prop := ∀ s, w.last = some s → s.seq = w.controller.tokenSeq

variable {w : TokenWatch K} {r : TickReads K}

theorem SeqInv.tick (hinv : SeqInv w) : SeqInv (w.tick r) := by
  intro s hs
  rcases iteration_sample (c := w.controller) (r := r) with
    ⟨-, hnone, hseq⟩ | ⟨t, -, ht, hnum, hseq⟩
  · have hlast : w.last = some s := by simpa [TokenWatch.tick, hnone] using hs
    exact (hinv s hlast).trans hseq.symm
  · have hlast : t = s := by simpa [TokenWatch.tick, ht] using hs
    rw [← hlast]
    exact hnum.trans hseq.symm

theorem seqMarks_iff (hinv : SeqInv w) : SeqMarks w r ↔ Uninterrupted w r := by
  unfold SeqMarks Uninterrupted
  rcases iteration_sample (c := w.controller) (r := r) with
    ⟨hno, hnone, -⟩ | ⟨t, hyes, ht, hnum, -⟩
  · rw [hnone, hno]
    exact ⟨fun _ _ _ => rfl, by rintro - s t - ⟨⟩⟩
  · rw [ht, hyes]
    constructor
    · intro h hsome hsilent
      obtain ⟨s, hs⟩ := Option.isSome_iff_exists.mp hsome
      have hgap := (h s t hs rfl).2 hsilent
      rw [hnum, hinv s hs] at hgap
      exact absurd hgap (lt_irrefl _)
    · intro h s u hs hu
      obtain rfl : t = u := Option.some.inj hu
      rw [hnum, hinv s hs]
      refine ⟨fun _ => rfl, fun hsilent => ?_⟩
      exact Bool.noConfusion (h (by rw [hs]; rfl) hsilent)

/-- Over every run from the start: the numbers tell adjacent samples from interrupted ones
exactly if no iteration decodes again after one that did not. -/
theorem seq_marks_iff (auto : Bool) (rs : List (TickReads K)) :
    Transition.Throughout SeqMarks tick (start auto) rs ↔
      Transition.Throughout Uninterrupted tick (start auto) rs :=
  Transition.throughout_congr (I := SeqInv) (by rintro s ⟨⟩)
    (fun _ _ hinv => seqMarks_iff hinv) (fun _ _ hinv _ => hinv.tick) rs

open CommandWatch in
/-- The INIT ramp, the transition to CONTROL, the plan, one token, and a tick over the
velocity limit. -/
def interruptedRun : List (TickReads ℚ) := List.replicate 153 healthyTick ++ [overspeedTick]

open CommandWatch in
/-- The next token after the interruption has the next number. -/
theorem interruption_unmarked :
    ¬ Transition.Throughout SeqMarks tick (start true) (interruptedRun ++ [healthyTick]) := by
  intro hall
  have hmarks := (Transition.throughout_iff _).mp hall interruptedRun healthyTick List.prefix_rfl
  have hbefore : (interruptedRun.foldl tick (start true)).last.any (fun s => s.seq = 1) = true := by
    decide +kernel
  have hsilent : (interruptedRun.foldl tick (start true)).silent = 1 := by decide +kernel
  have hafter : ((interruptedRun.foldl tick (start true)).controller.loopIteration
      healthyTick).samples.head?.any (fun s => s.seq = 2) = true := by decide +kernel
  obtain ⟨s, hs, hseq⟩ := (Option.any_eq_true _ _).mp hbefore
  obtain ⟨t, ht, hnext⟩ := (Option.any_eq_true _ _).mp hafter
  have hgap := (hmarks s t hs ht).2 (by rw [hsilent]; exact Nat.one_pos)
  rw [of_decide_eq_true hseq, of_decide_eq_true hnext] at hgap
  exact absurd hgap (by decide)

end TokenWatch

end Gearsonic
