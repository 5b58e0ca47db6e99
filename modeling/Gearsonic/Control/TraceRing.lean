import Gearsonic.Control.StateTrace

/-!
# The trace file is the accepted rows

Over every interleaving of the producer, the writer and a `stop` call. The counters wrap at
2^32, but at most 512 rows are ever between them, so their difference and the ring's slots
are those of the counts.

* `TraceInv`: the window from the released rows to the accepted ones lies in the ring.
* `TraceInv.of_produce`, `TraceInv.of_write`: what one step of either side keeps.
* `StopInv`: without an overlapping `record` call, the writer leaves only an empty ring.
-/

namespace Gearsonic

open Numeric

namespace StateTrace

variable {ρ : Type}

/-! ## Counters and slots -/

theorem slot_counter (n : Nat) : slot (counter 32 n).toNat = slot n :=
  Fin.ext (counter_mod (by decide) n)

theorem slot_ne {m n : Nat} (hlt : m < n) (hclose : n < m + kRing) : slot m ≠ slot n :=
  fun heq => mod_ne_of_close hlt hclose (congrArg Fin.val heq)

/-- The two counters of the window. -/
theorem window_sub {m n : Nat} (hle : m ≤ n) (hclose : n ≤ m + kRing) :
    (counter 32 n - counter 32 m).toNat = n - m := by
  apply counter_sub_toNat hle
  unfold kRing at hclose
  omega

theorem window_eq_iff {m n : Nat} (hle : m ≤ n) (hclose : n ≤ m + kRing) :
    counter 32 m = counter 32 n ↔ m = n := by
  apply counter_eq_iff hle
  unfold kRing at hclose
  omega

/-! ## The invariant -/

def ProducerInv (s : StateTrace ρ) : Prop :=
  match s.producer with
  | .idle | .called _ => True
  | .headRead _ head => head = counter 32 s.accepted.length
  | .tailRead _ head tail =>
    head = counter 32 s.accepted.length ∧
      ∃ r, r ≤ s.released ∧ tail = counter 32 r ∧ s.accepted.length ≤ r + kRing
  | .filled row head =>
    head = counter 32 s.accepted.length ∧ s.accepted.length < s.released + kRing ∧
      s.ring (slot s.accepted.length) = row

def WriterInv (s : StateTrace ρ) : Prop :=
  match s.writer with
  | .asleep | .exited => s.released = s.file.length
  | .headRead head =>
    s.released = s.file.length ∧
      ∃ h, head = counter 32 h ∧ s.file.length ≤ h ∧ h ≤ s.accepted.length
  | .draining head tail =>
    tail = counter 32 s.file.length ∧
      ∃ h, head = counter 32 h ∧ s.file.length ≤ h ∧ h ≤ s.accepted.length
  | .stored tail | .stopRead tail =>
    s.released = s.file.length ∧ tail = counter 32 s.file.length

/-- A `record` call is under way. -/
def busy (s : StateTrace ρ) : Nat :=
  match s.producer with
  | .idle => 0
  | _ => 1

structure TraceInv (s : StateTrace ρ) : Prop where
  written : s.released ≤ s.file.length
  pending : s.file.length ≤ s.accepted.length
  window : s.accepted.length ≤ s.released + kRing
  head : s.head = counter 32 s.accepted.length
  tail : s.tail = counter 32 s.released
  ring : ∀ k, s.released ≤ k → k < s.accepted.length → s.accepted[k]? = some (s.ring (slot k))
  file : s.file <+: s.accepted
  calls : s.calls = s.accepted.length + s.drops + s.busy
  dropped : s.dropped = counter 32 s.drops
  producer : s.ProducerInv
  writer : s.WriterInv

theorem TraceInv.started (blank : ρ) : TraceInv (started blank) where
  written := le_rfl
  pending := le_rfl
  window := Nat.zero_le _
  head := rfl
  tail := rfl
  ring := nofun
  file := List.nil_prefix
  calls := rfl
  dropped := rfl
  producer := trivial
  writer := rfl

/-! ## The producer -/

/-- The slot that the producer fills holds no row of the window. -/
theorem TraceInv.free {s : StateTrace ρ} (h : s.TraceInv) {row : ρ} {head tail : BitVec 32}
    (hp : s.producer = .tailRead row head tail) (hroom : (head - tail).toNat < kRing) :
    head = counter 32 s.accepted.length ∧ s.accepted.length < s.released + kRing := by
  have hproducer := h.producer
  unfold ProducerInv at hproducer
  rw [hp] at hproducer
  obtain ⟨hhead, r, hr, htail, hclose⟩ := hproducer
  refine ⟨hhead, ?_⟩
  have hle : r ≤ s.accepted.length := hr.trans (h.written.trans h.pending)
  rw [hhead, htail, window_sub hle hclose] at hroom
  omega

theorem TraceInv.of_produce {s t : StateTrace ρ} (h : s.TraceInv) (hstep : s.produce = some t) :
    t.TraceInv := by
  have hproducer := h.producer
  have hcalls := h.calls
  unfold produce at hstep
  unfold ProducerInv at hproducer
  unfold busy at hcalls
  cases hp : s.producer with
  | idle =>
    rw [hp] at hstep
    cases hstep
  | called row =>
    rw [hp] at hstep hcalls
    cases hstep
    exact { h with calls := hcalls, producer := h.head, writer := h.writer }
  | headRead row head =>
    rw [hp] at hstep hcalls hproducer
    cases hstep
    exact { h with
      calls := hcalls
      producer := ⟨hproducer, s.released, le_rfl, h.tail, h.window⟩
      writer := h.writer }
  | tailRead row head tail =>
    rw [hp] at hstep hcalls
    dsimp only at hstep hcalls
    by_cases hfull : kRing ≤ (head - tail).toNat
    · rw [if_pos hfull] at hstep
      cases hstep
      refine { h with calls := ?_, dropped := ?_, producer := trivial, writer := h.writer }
      · show s.calls = s.accepted.length + (s.drops + 1) + 0
        omega
      · show s.dropped + 1 = counter 32 (s.drops + 1)
        rw [h.dropped]
        exact counter_add _ _
    · rw [if_neg hfull] at hstep
      cases hstep
      obtain ⟨hhead, hroom⟩ := h.free hp (by omega)
      have hslot : slot head.toNat = slot s.accepted.length := by
        rw [hhead, slot_counter]
      refine { h with calls := hcalls, ring := ?_, producer := ?_, writer := h.writer }
      · intro k (hk : s.released ≤ k) (hlt : k < s.accepted.length)
        show s.accepted[k]? = some (Function.update s.ring (slot head.toNat) row (slot k))
        have hne : slot k ≠ slot head.toNat := by
          rw [hslot]
          apply slot_ne hlt
          omega
        rw [Function.update_of_ne hne]
        exact h.ring k hk hlt
      · refine ⟨hhead, hroom, ?_⟩
        show Function.update s.ring (slot head.toNat) row (slot s.accepted.length) = row
        rw [hslot, Function.update_self]
  | filled row head =>
    rw [hp] at hstep hcalls hproducer
    cases hstep
    dsimp only at hcalls
    obtain ⟨hhead, hroom, hrow⟩ := hproducer
    have hlen : (s.accepted ++ [row]).length = s.accepted.length + 1 := List.length_append
    refine { h with
      pending := ?_, window := ?_, head := ?_, ring := ?_, file := ?_, calls := ?_
      producer := trivial, writer := ?_ }
    · show s.file.length ≤ (s.accepted ++ [row]).length
      have := h.pending
      omega
    · show (s.accepted ++ [row]).length ≤ s.released + kRing
      omega
    · show head + 1 = counter 32 (s.accepted ++ [row]).length
      rw [hhead, hlen]
      exact counter_add _ _
    · intro k hk hlt
      show (s.accepted ++ [row])[k]? = some (s.ring (slot k))
      by_cases hold : k < s.accepted.length
      · rw [List.getElem?_append_left hold]
        exact h.ring k hk hold
      · have hlast : k = s.accepted.length := by
          have : k < (s.accepted ++ [row]).length := hlt
          omega
        rw [hlast, List.getElem?_concat_length, hrow]
    · exact h.file.trans (List.prefix_append _ _)
    · show s.calls = (s.accepted ++ [row]).length + s.drops + 0
      omega
    · have hwriter := h.writer
      unfold WriterInv at hwriter ⊢
      cases hw : s.writer with
      | headRead head' =>
        rw [hw] at hwriter
        obtain ⟨hrel, n, hn, hfile, hle⟩ := hwriter
        exact ⟨hrel, n, hn, hfile, by dsimp only; omega⟩
      | draining head' tail =>
        rw [hw] at hwriter
        obtain ⟨htail, n, hn, hfile, hle⟩ := hwriter
        exact ⟨htail, n, hn, hfile, by dsimp only; omega⟩
      | _ =>
        rw [hw] at hwriter
        exact hwriter

/-! ## The writer -/

/-- The next batch is what follows the written rows, up to the head that the writer saw. -/
theorem TraceInv.batch {s : StateTrace ρ} (h : s.TraceInv) {n : Nat} (hfile : s.file.length ≤ n)
    (hn : n ≤ s.accepted.length) :
    let size := StateTrace.batch (counter 32 n) (counter 32 s.file.length)
    s.file.length + size ≤ n ∧
      s.file ++ (List.range size).map (fun j =>
          s.ring (slot ((counter 32 s.file.length).toNat % kRing + j))) =
        s.accepted.take (s.file.length + size) := by
  intro size
  have hwindow := h.window
  have hwritten := h.written
  have hsub : (counter 32 n - counter 32 s.file.length).toNat = n - s.file.length := by
    apply window_sub hfile
    omega
  have hmod : (counter 32 s.file.length).toNat % kRing = s.file.length % kRing :=
    counter_mod (by decide) _
  have hsize : size ≤ n - s.file.length ∧ size ≤ kRing - s.file.length % kRing := by
    have hmin : size = min (n - s.file.length) (kRing - s.file.length % kRing) := by
      show StateTrace.batch _ _ = _
      unfold StateTrace.batch
      rw [hsub, hmod]
    omega
  refine ⟨by omega, ?_⟩
  apply List.ext_getElem?
  intro k
  obtain ⟨rest, hrest⟩ := h.file
  by_cases hold : k < s.file.length
  · rw [List.getElem?_append_left hold, List.getElem?_take_of_lt (by omega), ← hrest,
      List.getElem?_append_left hold]
  · rw [List.getElem?_append_right (by omega)]
    by_cases hlt : k < s.file.length + size
    · have hslot : slot ((counter 32 s.file.length).toNat % kRing + (k - s.file.length)) =
          slot k := by
        rw [hmod]
        refine Fin.ext ?_
        show (s.file.length % 512 + (k - s.file.length)) % 512 = k % 512
        omega
      rw [List.getElem?_take_of_lt hlt, h.ring k (by omega) (by omega), List.getElem?_map,
        List.getElem?_range (by omega), Option.map_some, hslot]
    · rw [List.getElem?_eq_none, List.getElem?_eq_none]
      · rw [List.length_take]
        omega
      · rw [List.length_map, List.length_range]
        omega

theorem TraceInv.of_write {s t : StateTrace ρ} (h : s.TraceInv) (hstep : s.write = some t) :
    t.TraceInv := by
  have hwriter := h.writer
  unfold write at hstep
  unfold WriterInv at hwriter
  cases hw : s.writer with
  | asleep =>
    rw [hw] at hstep hwriter
    cases hstep
    exact { h with
      writer := ⟨hwriter, s.accepted.length, h.head, h.pending, le_rfl⟩
      producer := h.producer }
  | headRead head =>
    rw [hw] at hstep hwriter
    cases hstep
    obtain ⟨hrel, hhead⟩ := hwriter
    exact { h with writer := ⟨hrel ▸ h.tail, hhead⟩, producer := h.producer }
  | draining head tail =>
    rw [hw] at hstep hwriter
    obtain ⟨htail, n, hn, hfile, hle⟩ := hwriter
    have hwritten := h.written
    have hwindow := h.window
    dsimp only at hstep
    by_cases hdone : tail = head
    · rw [if_pos hdone] at hstep
      cases hstep
      refine { h with
        written := le_rfl, window := ?_, tail := htail, ring := ?_, producer := ?_
        writer := ⟨rfl, htail⟩ }
      · show s.accepted.length ≤ s.file.length + kRing
        omega
      · intro k (hk : s.file.length ≤ k) hlt
        exact h.ring k (hwritten.trans hk) hlt
      · have hproducer := h.producer
        unfold ProducerInv at hproducer ⊢
        cases hp : s.producer with
        | tailRead row head tail =>
          rw [hp] at hproducer
          obtain ⟨hhead, r, hr, hrest⟩ := hproducer
          exact ⟨hhead, r, hr.trans hwritten, hrest⟩
        | filled row head =>
          rw [hp] at hproducer
          obtain ⟨hhead, hroom, hrow⟩ := hproducer
          refine ⟨hhead, ?_, hrow⟩
          show s.accepted.length < s.file.length + kRing
          omega
        | _ =>
          rw [hp] at hproducer
          exact hproducer
    · rw [if_neg hdone] at hstep
      cases hstep
      obtain ⟨hsize, htake⟩ := h.batch hfile hle
      rw [hn, htail, htake]
      have hlen : (s.accepted.take (s.file.length +
          StateTrace.batch (counter 32 n) (counter 32 s.file.length))).length =
            s.file.length + StateTrace.batch (counter 32 n) (counter 32 s.file.length) := by
        rw [List.length_take]
        omega
      refine { h with
        written := ?_, pending := ?_, file := List.take_prefix _ _, producer := h.producer
        writer := ⟨?_, n, rfl, ?_, hle⟩ }
      · show s.released ≤ (s.accepted.take _).length
        omega
      · show (s.accepted.take _).length ≤ s.accepted.length
        omega
      · show _ = counter 32 (s.accepted.take _).length
        rw [hlen]
        exact counter_add _ _
      · show (s.accepted.take _).length ≤ n
        omega
  | stored tail =>
    rw [hw] at hstep hwriter
    cases hstep
    refine { h with writer := ?_, producer := h.producer }
    unfold WriterInv
    dsimp only
    cases s.stop with
    | true => exact hwriter
    | false => exact hwriter.1
  | stopRead tail =>
    rw [hw] at hstep hwriter
    cases hstep
    refine { h with writer := ?_, producer := h.producer }
    unfold WriterInv
    dsimp only
    by_cases hempty : s.head = tail
    · rw [if_pos hempty]
      exact hwriter.1
    · rw [if_neg hempty]
      exact hwriter.1
  | exited =>
    rw [hw] at hstep
    cases hstep

/-! ## Runs -/

/-- What a `stop` call changes is read by no invariant of the ring. -/
theorem TraceInv.of_stopping {s t : StateTrace ρ} (h : s.TraceInv) (hstep : s.stopping = some t) :
    t.TraceInv := by
  unfold stopping at hstep
  cases hs : s.stopper with
  | notCalled => rw [hs] at hstep; cases hstep
  | returned => rw [hs] at hstep; cases hstep
  | entered =>
    rw [hs] at hstep
    cases hstep
    exact { h with producer := h.producer, writer := h.writer }
  | disabled =>
    rw [hs] at hstep
    cases hstep
    exact { h with producer := h.producer, writer := h.writer }
  | flagged =>
    rw [hs] at hstep
    cases hw : s.writer with
    | exited =>
      have hwriter := h.writer
      unfold WriterInv at hwriter
      rw [hw] at hstep hwriter
      cases hstep
      exact { h with producer := h.producer, writer := hwriter }
    | _ =>
      rw [hw] at hstep
      cases hstep

theorem TraceInv.of_step {s t : StateTrace ρ} {a : Act ρ} (h : s.TraceInv)
    (hstep : s.step a = some t) : t.TraceInv := by
  cases a with
  | produce => exact h.of_produce hstep
  | write => exact h.of_write hstep
  | stopping => exact h.of_stopping hstep
  | record row =>
    unfold step at hstep
    have hcalls := h.calls
    unfold busy at hcalls
    cases hp : s.producer with
    | idle =>
      rw [hp] at hstep hcalls
      cases hstep
      dsimp only at hcalls
      split
      · refine { h with calls := ?_, producer := trivial, writer := h.writer }
        show s.calls + 1 = s.accepted.length + s.drops + 1
        omega
      · exact h
    | _ =>
      rw [hp] at hstep
      cases hstep
  | stopCall =>
    unfold step at hstep
    cases hs : s.stopper with
    | notCalled =>
      rw [hs] at hstep
      cases hstep
      split
      · exact { h with producer := h.producer, writer := h.writer }
      · exact h
    | _ =>
      rw [hs] at hstep
      cases hstep

theorem TraceInv.of_reachable {blank : ρ} {s : StateTrace ρ}
    {C : StateTrace ρ → Act ρ → Prop}
    (h : Transition.Reachable step C (StateTrace.started blank) s) : s.TraceInv :=
  h.invariant (.started blank) fun _ _ _ hs _ hstep => hs.of_step hstep

/-- Without an overlapping call: once `stop` was called the producer rests, the flag is seen
only after that, and the writer leaves an empty ring. -/
structure StopInv (s : StateTrace ρ) : Prop where
  rests : s.stopper ≠ .notCalled → s.producer = .idle
  flag : s.stop = true → s.stopper ≠ .notCalled
  seen : ∀ tail, s.writer = .stopRead tail → s.stop = true
  drained : s.writer = .exited → s.stop = true ∧ s.file.length = s.accepted.length
  joined : s.stopper = .returned → s.writer = .exited

theorem StopInv.started (blank : ρ) : StopInv (StateTrace.started blank) :=
  ⟨fun h => absurd rfl h, nofun, nofun, nofun, nofun⟩

/-- What no step of a `record` call changes. -/
theorem produce_frame {s t : StateTrace ρ} (hstep : s.produce = some t) :
    t.stopper = s.stopper ∧ t.stop = s.stop ∧ t.writer = s.writer := by
  unfold produce at hstep
  cases hp : s.producer with
  | idle =>
    rw [hp] at hstep
    cases hstep
  | tailRead row head tail =>
    rw [hp] at hstep
    dsimp only at hstep
    split at hstep
    · cases hstep; exact ⟨rfl, rfl, rfl⟩
    · cases hstep; exact ⟨rfl, rfl, rfl⟩
  | _ =>
    rw [hp] at hstep
    cases hstep
    exact ⟨rfl, rfl, rfl⟩

/-- The producer's steps, while `stop` has not been called. -/
theorem StopInv.of_produce {s t : StateTrace ρ} (h : s.StopInv) (hstep : s.produce = some t) :
    t.StopInv := by
  have hresting : s.producer ≠ .idle := by
    intro hp
    unfold produce at hstep
    rw [hp] at hstep
    cases hstep
  have hcall : s.stopper = .notCalled := by
    by_contra hne
    exact hresting (h.rests hne)
  have hflag : s.stop = false := by
    by_contra hset
    rw [Bool.not_eq_false] at hset
    exact h.flag hset hcall
  obtain ⟨hstopper, hstop, hwriter⟩ := produce_frame hstep
  refine ⟨fun hne => ?_, fun hset => ?_, fun tail hw => ?_, fun hw => ?_, fun hret => ?_⟩
  · exact absurd (hstopper.trans hcall) hne
  · rw [hstop, hflag] at hset
    cases hset
  · have hset := h.seen tail (hwriter.symm.trans hw)
    rw [hflag] at hset
    cases hset
  · have hset := (h.drained (hwriter.symm.trans hw)).1
    rw [hflag] at hset
    cases hset
  · rw [hstopper, hcall] at hret
    cases hret

theorem StopInv.of_write {s t : StateTrace ρ} (hring : s.TraceInv) (h : s.StopInv)
    (hstep : s.write = some t) : t.StopInv := by
  unfold write at hstep
  cases hw : s.writer with
  | exited =>
    rw [hw] at hstep
    cases hstep
  | stored tail =>
    rw [hw] at hstep
    cases hstep
    have hrunning : s.stopper ≠ .returned := fun hret => by
      have := h.joined hret
      rw [hw] at this
      cases this
    refine ⟨h.rests, h.flag, fun tail' hseen => ?_, fun hexit => ?_, fun hret => ?_⟩
    · by_contra hset
      rw [Bool.not_eq_true] at hset
      have hset : s.stop = false := hset
      dsimp only at hseen
      rw [hset] at hseen
      cases hseen
    · dsimp only at hexit
      split at hexit <;> cases hexit
    · exact absurd hret hrunning
  | stopRead tail =>
    rw [hw] at hstep
    cases hstep
    have hset := h.seen tail hw
    refine ⟨h.rests, h.flag, fun tail' hseen => ?_, fun hexit => ⟨hset, ?_⟩, fun hret => ?_⟩
    · dsimp only at hseen
      split at hseen <;> cases hseen
    · -- the head that the writer saw is the tail it has stored
      dsimp only at hexit
      by_cases hempty : s.head = tail
      · have hwriter := hring.writer
        unfold WriterInv at hwriter
        rw [hw] at hwriter
        obtain ⟨hrel, htail⟩ := hwriter
        have hpending := hring.pending
        have hwindow := hring.window
        rw [hring.head, htail] at hempty
        exact (window_eq_iff hpending (by omega)).mp hempty.symm
      · rw [if_neg hempty] at hexit
        cases hexit
    · have := h.joined hret
      rw [hw] at this
      cases this
  | draining head tail =>
    rw [hw] at hstep
    have hrunning : s.stopper ≠ .returned := fun hret => by
      have := h.joined hret
      rw [hw] at this
      cases this
    dsimp only at hstep
    split at hstep
    · cases hstep
      exact ⟨h.rests, h.flag, nofun, nofun, fun hret => absurd hret hrunning⟩
    · cases hstep
      exact ⟨h.rests, h.flag, nofun, nofun, fun hret => absurd hret hrunning⟩
  | asleep =>
    rw [hw] at hstep
    cases hstep
    refine ⟨h.rests, h.flag, nofun, nofun, fun hret => ?_⟩
    have := h.joined hret
    rw [hw] at this
    cases this
  | headRead head =>
    rw [hw] at hstep
    cases hstep
    refine ⟨h.rests, h.flag, nofun, nofun, fun hret => ?_⟩
    have := h.joined hret
    rw [hw] at this
    cases this

theorem StopInv.of_stopping {s t : StateTrace ρ} (h : s.StopInv) (hstep : s.stopping = some t) :
    t.StopInv := by
  have hcalled : s.stopper ≠ .notCalled := by
    intro hs
    unfold stopping at hstep
    rw [hs] at hstep
    cases hstep
  have hrests := h.rests hcalled
  unfold stopping at hstep
  cases hs : s.stopper with
  | notCalled => exact absurd hs hcalled
  | returned =>
    rw [hs] at hstep
    cases hstep
  | entered =>
    rw [hs] at hstep
    cases hstep
    exact ⟨fun _ => hrests, fun _ => nofun, h.seen, h.drained, nofun⟩
  | disabled =>
    rw [hs] at hstep
    cases hstep
    exact ⟨fun _ => hrests, fun _ => nofun, fun _ _ => rfl, fun hw => ⟨rfl, (h.drained hw).2⟩,
      nofun⟩
  | flagged =>
    rw [hs] at hstep
    cases hw : s.writer with
    | exited =>
      rw [hw] at hstep
      cases hstep
      exact ⟨fun _ => hrests, fun _ => nofun, nofun, fun _ => h.drained hw, fun _ => rfl⟩
    | _ =>
      rw [hw] at hstep
      cases hstep

theorem StopInv.of_step {s t : StateTrace ρ} {a : Act ρ} (hring : s.TraceInv) (h : s.StopInv)
    (hC : NoOverlap s a) (hstep : s.step a = some t) : t.StopInv := by
  cases a with
  | produce => exact h.of_produce hstep
  | write => exact h.of_write hring hstep
  | stopping => exact h.of_stopping hstep
  | record row =>
    have hcall : s.stopper = .notCalled := hC
    unfold step at hstep
    cases hp : s.producer with
    | idle =>
      rw [hp] at hstep
      cases hstep
      split
      · exact ⟨fun hne => absurd hcall hne, h.flag, h.seen, h.drained, h.joined⟩
      · exact h
    | _ =>
      rw [hp] at hstep
      cases hstep
  | stopCall =>
    have hrests : s.producer = .idle := by
      unfold NoOverlap at hC
      cases hp : s.producer with
      | idle => rfl
      | _ => rw [hp] at hC; exact hC.elim
    unfold step at hstep
    cases hs : s.stopper with
    | notCalled =>
      rw [hs] at hstep
      cases hstep
      split
      · exact ⟨fun _ => hrests, fun _ => nofun, h.seen, h.drained, nofun⟩
      · exact h
    | _ =>
      rw [hs] at hstep
      cases hstep

theorem StopInv.of_reachable {blank : ρ} {s : StateTrace ρ}
    (h : Transition.Reachable step NoOverlap (StateTrace.started blank) s) : s.StopInv := by
  have hboth : s.TraceInv ∧ s.StopInv := by
    refine h.invariant (I := fun s => s.TraceInv ∧ s.StopInv)
      ⟨.started blank, .started blank⟩ ?_
    intro s a t hs hC hstep
    exact ⟨hs.1.of_step hstep, hs.2.of_step hs.1 hC hstep⟩
  exact hboth.2

/-- After a `stop` that no `record` call overlaps with or follows, the file holds every
accepted row. -/
theorem file_eq_accepted {blank : ρ} {s : StateTrace ρ}
    (h : Transition.Reachable step NoOverlap (StateTrace.started blank) s)
    (hstopped : s.stopper = .returned) : s.file = s.accepted := by
  have hstop := StopInv.of_reachable h
  exact (TraceInv.of_reachable h).file.eq_of_length (hstop.drained (hstop.joined hstopped)).2

end StateTrace

end Gearsonic
