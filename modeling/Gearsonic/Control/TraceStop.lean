import Gearsonic.Control.TraceRing

/-!
# `stop` returns

Once the flag is set and no `record` call is under way, every step of the writer lowers
`remaining`, so the writer exits and the join in `stop` ends.
-/

namespace Gearsonic

open Numeric

namespace StateTrace

variable {ρ : Type}

/-- A step of the writer or of the `stop` call. -/
def Closing (_ : StateTrace ρ) : Act ρ → Prop
  | .write | .stopping => True
  | _ => False

/-- The rows that the file lacks. -/
def pendingRows (s : StateTrace ρ) : Nat := s.accepted.length - s.file.length

/-- Where the writer stands on its way to the next row it writes, or to its exit. -/
def rank (s : StateTrace ρ) : Nat :=
  match s.writer with
  | .asleep => if s.pendingRows = 0 then 7 else 2
  | .headRead head => if head = counter 32 s.file.length then 6 else 1
  | .draining head tail => if tail = head then 5 else 0
  | .stored _ => 4
  | .stopRead _ => 3
  | .exited => 0

/-- Bounds the writer's steps up to its exit. -/
def remaining (s : StateTrace ρ) : Nat := 8 * s.pendingRows + s.rank

theorem rank_lt (s : StateTrace ρ) : s.rank < 8 := by
  unfold rank
  cases s.writer <;> dsimp only <;> (try split) <;> omega

theorem TraceInv.head_eq_iff {s : StateTrace ρ} (h : s.TraceInv) :
    s.head = counter 32 s.file.length ↔ s.pendingRows = 0 := by
  have hpending := h.pending
  have hwritten := h.written
  have hwindow := h.window
  unfold pendingRows
  rw [h.head, eq_comm, window_eq_iff hpending (by omega)]
  omega

/-- A batch is never empty. -/
theorem batch_pos {head tail : BitVec 32} (h : tail ≠ head) : 0 < batch head tail := by
  have hsub : (head - tail).toNat ≠ 0 := by
    intro hzero
    have heq : head - tail = 0#32 := BitVec.eq_of_toNat_eq hzero
    exact h (by rw [← BitVec.sub_add_cancel head tail, heq, BitVec.zero_add])
  have hmod := Nat.mod_lt tail.toNat (show 0 < kRing by decide)
  unfold batch
  omega

/-- What no step of the writer changes. -/
theorem write_frame {s t : StateTrace ρ} (hstep : s.write = some t) :
    t.stopper = s.stopper ∧ t.stop = s.stop ∧ t.producer = s.producer ∧
      t.accepted = s.accepted := by
  unfold write at hstep
  cases hw : s.writer with
  | draining head tail =>
    rw [hw] at hstep
    dsimp only at hstep
    split at hstep
    · cases hstep; exact ⟨rfl, rfl, rfl, rfl⟩
    · cases hstep; exact ⟨rfl, rfl, rfl, rfl⟩
  | exited =>
    rw [hw] at hstep
    cases hstep
  | _ =>
    rw [hw] at hstep
    cases hstep
    exact ⟨rfl, rfl, rfl, rfl⟩

theorem TraceInv.write_remaining {s : StateTrace ρ} (h : s.TraceInv) (hstop : s.stop = true)
    (hw : s.writer ≠ .exited) : ∃ t, s.write = some t ∧ t.remaining < s.remaining := by
  have hwriter := h.writer
  have hhead := h.head_eq_iff
  unfold WriterInv at hwriter
  unfold write
  cases hpoint : s.writer with
  | exited => exact absurd hpoint hw
  | asleep =>
    refine ⟨_, rfl, ?_⟩
    unfold remaining rank
    rw [hpoint]
    show 8 * s.pendingRows + (if s.head = counter 32 s.file.length then 6 else 1) <
      8 * s.pendingRows + (if s.pendingRows = 0 then 7 else 2)
    simp only [hhead]
    split <;> omega
  | headRead head =>
    rw [hpoint] at hwriter
    refine ⟨_, rfl, ?_⟩
    unfold remaining rank
    rw [hpoint]
    show 8 * s.pendingRows + (if s.tail = head then 5 else 0) <
      8 * s.pendingRows + (if head = counter 32 s.file.length then 6 else 1)
    rw [h.tail, hwriter.1]
    simp only [eq_comm (a := head)]
    split <;> omega
  | draining head tail =>
    rw [hpoint] at hwriter
    obtain ⟨htail, n, hn, hfile, hle⟩ := hwriter
    dsimp only
    by_cases hdone : tail = head
    · rw [if_pos hdone]
      refine ⟨_, rfl, ?_⟩
      unfold remaining rank
      rw [hpoint]
      show 8 * s.pendingRows + 4 < 8 * s.pendingRows + (if tail = head then 5 else 0)
      rw [if_pos hdone]
      omega
    · rw [if_neg hdone]
      have hpos := batch_pos hdone
      refine ⟨_, rfl, ?_⟩
      generalize ht : StateTrace.mk _ _ _ _ _ _ _ _ _ _ _ _ _ _ = t
      have hrank := rank_lt t
      have hlen : t.file.length = s.file.length + StateTrace.batch head tail := by
        rw [← ht, List.length_append, List.length_map, List.length_range]
      have hacc : t.accepted = s.accepted := by rw [← ht]
      have hsize := (h.batch hfile hle).1
      rw [← hn, ← htail] at hsize
      unfold remaining pendingRows
      rw [hacc, hlen]
      omega
  | stored tail =>
    refine ⟨_, rfl, ?_⟩
    unfold remaining rank
    rw [hpoint, hstop]
    show 8 * s.pendingRows + 3 < 8 * s.pendingRows + 4
    omega
  | stopRead tail =>
    rw [hpoint] at hwriter
    refine ⟨_, rfl, ?_⟩
    unfold remaining rank
    rw [hpoint]
    dsimp only
    by_cases hempty : s.head = tail
    · rw [if_pos hempty]
      show 8 * s.pendingRows + 0 < 8 * s.pendingRows + 3
      omega
    · rw [if_neg hempty]
      have hrows : s.pendingRows ≠ 0 := fun hzero =>
        hempty ((hhead.mpr hzero).trans hwriter.2.symm)
      show 8 * s.pendingRows + (if s.pendingRows = 0 then 7 else 2) < 8 * s.pendingRows + 3
      rw [if_neg hrows]
      omega

/-- The flag is set before the join. -/
theorem flag_of_flagged {blank : ρ} {s : StateTrace ρ} {C : StateTrace ρ → Act ρ → Prop}
    (h : Transition.Reachable step C (StateTrace.started blank) s) :
    s.stopper = .flagged → s.stop = true := by
  refine h.invariant (I := fun s => s.stopper = .flagged → s.stop = true) nofun ?_
  intro s a t hs _ hstep hflagged
  cases a with
  | produce =>
    obtain ⟨hstopper, hstop, -⟩ := produce_frame hstep
    exact hstop.trans (hs (hstopper.symm.trans hflagged))
  | write =>
    obtain ⟨hstopper, hstop, -, -⟩ := write_frame hstep
    exact hstop.trans (hs (hstopper.symm.trans hflagged))
  | record row =>
    unfold step at hstep
    cases hp : s.producer with
    | idle =>
      rw [hp] at hstep
      cases hstep
      split at hflagged
      · next henabled => rw [if_pos henabled]; exact hs hflagged
      · next henabled => rw [if_neg henabled]; exact hs hflagged
    | _ =>
      rw [hp] at hstep
      cases hstep
  | stopCall =>
    unfold step at hstep
    cases hcall : s.stopper with
    | notCalled =>
      rw [hcall] at hstep
      cases hstep
      split at hflagged
      · cases hflagged
      · rw [hcall] at hflagged
        cases hflagged
    | _ =>
      rw [hcall] at hstep
      cases hstep
  | stopping =>
    unfold step stopping at hstep
    cases hcall : s.stopper with
    | entered => rw [hcall] at hstep; cases hstep; cases hflagged
    | disabled => rw [hcall] at hstep; cases hstep; rfl
    | flagged =>
      rw [hcall] at hstep
      dsimp only at hstep
      split at hstep
      · cases hstep; cases hflagged
      · cases hstep
    | _ =>
      rw [hcall] at hstep
      cases hstep

/-- With the flag set, the writer and the `stop` call alone come to the end of `stop`. -/
theorem returns_of_flag {s : StateTrace ρ} (h : s.TraceInv) (hflagged : s.stopper = .flagged)
    (hstop : s.stop = true) :
    ∃ t, Transition.Reachable step Closing s t ∧ t.stopper = .returned := by
  induction hn : s.remaining using Nat.strong_induction_on generalizing s with
  | _ n ih =>
    by_cases hw : s.writer = .exited
    · refine ⟨{ s with stopper := .returned }, ?_, rfl⟩
      refine Relation.ReflTransGen.single ⟨.stopping, trivial, ?_⟩
      unfold step stopping
      dsimp only
      rw [hflagged, hw]
    · obtain ⟨t, ht, hlt⟩ := h.write_remaining hstop hw
      obtain ⟨hstopper, hflag, -, -⟩ := write_frame ht
      obtain ⟨u, hu, hreturned⟩ := ih t.remaining (hn ▸ hlt) (h.of_write ht)
        (hstopper.trans hflagged) (hflag.trans hstop) rfl
      exact ⟨u, Relation.ReflTransGen.head ⟨.write, trivial, ht⟩ hu, hreturned⟩

/-- A `stop` call that no `record` call overlaps with returns, and the file is then complete. -/
theorem stop_returns {blank : ρ} {s : StateTrace ρ}
    (h : Transition.Reachable step NoOverlap (StateTrace.started blank) s)
    (hcalled : s.stopper ≠ .notCalled) :
    ∃ t, Transition.Reachable step Closing s t ∧ t.stopper = .returned ∧ t.file = t.accepted := by
  have hreturn : ∃ t, Transition.Reachable step Closing s t ∧ t.stopper = .returned := by
    have hring := TraceInv.of_reachable h
    have hdisabled : ∀ u : StateTrace ρ, u.TraceInv → u.stopper = .disabled →
        ∃ t, Transition.Reachable step Closing u t ∧ t.stopper = .returned := by
      intro u hu hstopper
      have hstep : u.stopping = some { u with stop := true, stopper := .flagged } := by
        unfold stopping
        rw [hstopper]
      obtain ⟨t, ht, hreturned⟩ := returns_of_flag (hu.of_stopping hstep) rfl rfl
      exact ⟨t, Relation.ReflTransGen.head ⟨.stopping, trivial, hstep⟩ ht, hreturned⟩
    cases hs : s.stopper with
    | notCalled => exact absurd hs hcalled
    | entered =>
      have hstep : s.stopping = some { s with enabled := false, stopper := .disabled } := by
        unfold stopping
        rw [hs]
      obtain ⟨t, ht, hreturned⟩ := hdisabled _ (hring.of_stopping hstep) rfl
      exact ⟨t, Relation.ReflTransGen.head ⟨.stopping, trivial, hstep⟩ ht, hreturned⟩
    | disabled => exact hdisabled s hring hs
    | flagged => exact returns_of_flag hring hs (flag_of_flagged h hs)
    | returned => exact ⟨s, Relation.ReflTransGen.refl, hs⟩
  obtain ⟨t, ht, hreturned⟩ := hreturn
  have hclosing : Transition.Reachable step NoOverlap s t :=
    ht.mono fun u a hC => by
      cases a with
      | record row => exact hC.elim
      | stopCall => exact hC.elim
      | _ => trivial
  exact ⟨t, ht, hreturned, file_eq_accepted (h.trans hclosing) hreturned⟩

end StateTrace

end Gearsonic
