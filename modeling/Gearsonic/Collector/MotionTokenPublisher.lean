import Gearsonic.Control.TokenFlow
import Gearsonic.Transition.Basic
import Gearsonic.Transition.Polling

/-!
# The token stream

`MotionTokenPublisher`: a thread that polls the controller's token buffer and publishes a sample
when its number is not the last one published. The loop is cut at its shared accesses: the stop
flag, the buffer, the write. `TokenStream` is the controller's thread and the publisher, each step
of the one possible between two of the other; `stored` and `polled` are not the program's: all
samples that the buffer held, and those that the publisher found in it.

* `Polls.loop`: the publisher is a poller that looks for a new number.
* `token_stream`: every sample that the publisher has found is published once, in order, and
  nothing else is.
-/

set_option linter.unusedSectionVars false

namespace Gearsonic

variable {K : Type} [Field K] [LinearOrder K] [CMath K]

open WholeBodyController Polling

/-! ## The publisher -/

/-- The enumeration as it is sent. -/
def Mode.octet : Mode → Nat
  | .normal => 0
  | .teleop => 1
  | .vla => 2
  | .recovering => 3

/-- The message of `rt/kist/motion_token`. -/
structure MotionTokenState (K : Type) [Field K] where
  seq : Nat
  stampNs : Int
  tokenState : Token K
  arbiterMode : Nat
  encoderMode : Nat

/-- A point named for an action stands in front of it. -/
inductive PublisherPoint (K : Type) [Field K] where
  | idle
  | checking
  | reading
  | writing (s : MotionTokenSample K)
  | exited

structure MotionTokenPublisher (K : Type) [Field K] where
  point : PublisherPoint K := .idle
  stop : Bool := false
  /-- 0 before anything is published. -/
  lastSeq : Nat := 0
  published : List (MotionTokenState K) := []

namespace MotionTokenPublisher

def message (s : MotionTokenSample K) : MotionTokenState K :=
  { seq := s.seq
    stampNs := s.stampNs
    tokenState := s.token
    arbiterMode := s.arbiterMode.octet
    encoderMode := s.encoderMode }

/-- `start`; `ready` says that the channel came up. -/
def start (p : MotionTokenPublisher K) (ready : Bool) : MotionTokenPublisher K :=
  if ready then { p with point := .checking, stop := false } else p

/-- One step of the loop, with this in the buffer. -/
def loop (p : MotionTokenPublisher K) (data : Option (MotionTokenSample K)) :
    Option (MotionTokenPublisher K) :=
  match p.point with
  | .checking => some { p with point := if p.stop then .exited else .reading }
  | .reading =>
    match data with
    | some s =>
      if s.seq ≠ p.lastSeq then some { p with lastSeq := s.seq, point := .writing s }
      else some { p with point := .checking }
    | none => some { p with point := .checking }
  | .writing s => some { p with published := p.published ++ [message s], point := .checking }
  | .idle | .exited => none

/-- The sample that is about to be written. -/
def held (p : MotionTokenPublisher K) : Option (MotionTokenSample K) :=
  match p.point with
  | .writing s => some s
  | _ => none

/-- The sample that this step finds in the buffer. -/
def found (p : MotionTokenPublisher K) (data : Option (MotionTokenSample K)) :
    Option (MotionTokenSample K) :=
  match p.point with
  | .reading => data
  | _ => none

/-- The publisher has polled this link for new numbers. -/
structure Polls (p : MotionTokenPublisher K) (l : Link (MotionTokenSample K))
    (polled : List (MotionTokenSample K)) : Prop where
  held : p.held = l.held
  published : p.published = l.sent.map message
  last : p.lastSeq = ((l.sent ++ l.held.toList).getLast?.map MotionTokenSample.seq).getD 0
  fresh : ∀ s, l.held = some s → Link.newKey MotionTokenSample.seq l.sent.getLast? s = true
  polled : polled = l.looked ++ l.held.toList

variable {p p' : MotionTokenPublisher K} {l : Link (MotionTokenSample K)}
  {polled : List (MotionTokenSample K)}

theorem Polls.init : Polls ({} : MotionTokenPublisher K) {} [] := ⟨rfl, rfl, rfl, nofun, rfl⟩

theorem Polls.start (h : Polls p l polled) (hidle : p.point = .idle) (ready : Bool) :
    Polls (p.start ready) l polled := by
  obtain ⟨hheld, hpublished, hlast, hfresh, hpolled⟩ := h
  unfold MotionTokenPublisher.start
  split
  · refine ⟨?_, hpublished, hlast, hfresh, hpolled⟩
    rw [← hheld, MotionTokenPublisher.held, MotionTokenPublisher.held, hidle]
  · exact ⟨hheld, hpublished, hlast, hfresh, hpolled⟩

/-- **One step of the loop is at most one poll.** Numbers start at 1. -/
theorem Polls.loop (h : Polls p l polled) (hpos : ∀ s ∈ l.stored, 1 ≤ s.seq)
    (hp : p.loop l.stored.getLast? = some p') :
    ∃ moves : List (Move (MotionTokenSample K)),
      Polls p' (l.run (Link.newKey MotionTokenSample.seq) moves)
        (polled ++ (p.found l.stored.getLast?).toList) ∧ moves.filterMap Move.value = [] := by
  obtain ⟨hheld, hpublished, hlast, hfresh, hpolled⟩ := h
  unfold MotionTokenPublisher.loop at hp
  cases hpoint : p.point with
  | checking =>
    simp only [hpoint, Option.some.injEq] at hp
    subst hp
    have hnone : l.held = none := by
      rw [← hheld, MotionTokenPublisher.held, hpoint]
    refine ⟨[], ⟨?_, hpublished, hlast, hfresh, ?_⟩, rfl⟩
    · rw [Link.run_nil, hnone]
      cases p.stop <;> rfl
    · simp [found, hpoint, hpolled]
  | reading =>
    have hnone : l.held = none := by
      rw [← hheld, MotionTokenPublisher.held, hpoint]
    have hfound : p.found l.stored.getLast? = l.stored.getLast? := by
      rw [found, hpoint]
    rw [hnone, Option.toList_none, List.append_nil] at hlast hpolled
    rw [hfound]
    cases hdata : l.stored.getLast? with
    | none =>
      simp only [hpoint, hdata, Option.some.injEq] at hp
      subst hp
      refine ⟨[.take], ⟨?_, hpublished, ?_, ?_, ?_⟩, rfl⟩
      · simp [MotionTokenPublisher.held, Link.move, hdata]
      · simp [Link.move, hdata, hlast]
      · simp [Link.move, hdata]
      · simp [Link.move, hdata, hpolled]
    | some s =>
      simp only [hpoint, hdata] at hp
      have hone : 1 ≤ s.seq := hpos s (List.mem_of_getLast? hdata)
      split at hp
      · rename_i hne
        cases hp
        refine ⟨[.take], ⟨?_, hpublished, ?_, ?_, ?_⟩, rfl⟩
        · simp [MotionTokenPublisher.held, Link.move, hdata]
        · simp [Link.move, hdata]
        · intro s' hs'
          have hs : s = s' := by simpa [Link.move, hdata] using hs'
          subst hs
          cases hsent : l.sent.getLast? with
          | none => simp [Link.move, hsent, Link.newKey]
          | some b => simpa [Link.move, hsent, Link.newKey, hlast] using hne
        · simp [Link.move, hdata, hpolled]
      · rename_i heq
        cases hp
        have hseq : s.seq = p.lastSeq := not_not.mp heq
        -- the sample was published before: the poll passes nothing on
        have hpass : Link.newKey MotionTokenSample.seq l.sent.getLast? s = false := by
          cases hsent : l.sent.getLast? with
          | none =>
            rw [hsent] at hlast
            rw [hlast] at hseq
            exact absurd hseq (by simp; omega)
          | some b =>
            rw [hsent] at hlast
            simp [Link.newKey, hseq, hlast]
        refine ⟨[.take, .send], ⟨?_, ?_, ?_, ?_, ?_⟩, rfl⟩
        · simp [MotionTokenPublisher.held, Link.move, hdata]
        · simp [Link.move, hdata, hpass, hpublished]
        · simp [Link.move, hdata, hpass, hlast]
        · simp [Link.move, hdata]
        · simp [Link.move, hdata, hpolled]
  | writing s =>
    simp only [hpoint, Option.some.injEq] at hp
    subst hp
    have hs : l.held = some s := by
      rw [← hheld, MotionTokenPublisher.held, hpoint]
    have hpass := hfresh s hs
    refine ⟨[.send], ⟨?_, ?_, ?_, ?_, ?_⟩, rfl⟩
    · simp [MotionTokenPublisher.held, Link.move, hs]
    · simp [Link.move, hs, hpass, hpublished]
    · simp [Link.move, hs, hpass, hlast]
    · simp [Link.move, hs]
    · simp [Link.move, hs, hpolled, found, hpoint]
  | idle | exited => simp [hpoint] at hp

end MotionTokenPublisher

/-! ## The controller and the publisher -/

structure TokenStream (K : Type) [Field K] where
  controller : ControllerThread K := {}
  publisher : MotionTokenPublisher K := {}
  stored : List (MotionTokenSample K) := []
  polled : List (MotionTokenSample K) := []

namespace TokenStream

inductive Act (K : Type) [Field K] where
  | startControl (auto : Bool)
  | controller (r : TickReads K)
  | start (ready : Bool)
  | publisher
  | stop
  | join

/-- The token buffer. -/
def buffer (w : TokenStream K) : Option (MotionTokenSample K) :=
  w.controller.controller.motionTokenBuf.data

def step (w : TokenStream K) : Act K → Option (TokenStream K)
  | .startControl auto =>
    some { w with
      controller :=
        { w.controller with controller := { w.controller.controller with autoStart := auto } } }
  | .controller r =>
    some { w with
      controller := w.controller.next r
      stored := w.stored ++ ControllerThread.recorded w.controller (w.controller.next r) }
  | .start ready =>
    match w.publisher.point with
    | .idle => some { w with publisher := w.publisher.start ready }
    | _ => none
  | .publisher =>
    (w.publisher.loop w.buffer).map fun publisher =>
      { w with
        publisher := publisher
        polled := w.polled ++ (w.publisher.found w.buffer).toList }
  | .stop => some { w with publisher := { w.publisher with stop := true } }
  | .join =>
    match w.publisher.point with
    | .exited => some { w with publisher := { w.publisher with point := .idle } }
    | _ => none

variable {w w' : TokenStream K} {l : Link (MotionTokenSample K)} {a : Act K}

/-- The controller numbers its samples from 1, and the publisher polls them. -/
structure Refines (w : TokenStream K) (l : Link (MotionTokenSample K)) : Prop where
  stored : l.stored = w.stored
  polls : w.publisher.Polls l w.polled
  buffer : w.buffer = w.stored.getLast?
  tokenSeq : w.controller.controller.tokenSeq = w.stored.length
  seqs : w.stored.map MotionTokenSample.seq = List.range' 1 w.stored.length

theorem Refines.init : Refines ({} : TokenStream K) {} := ⟨rfl, .init, rfl, rfl, rfl⟩

theorem Refines.pos (h : Refines w l) : ∀ s ∈ w.stored, 1 ≤ s.seq := by
  intro s hs
  have hseq : s.seq ∈ List.range' 1 w.stored.length := by
    rw [← h.seqs]
    exact List.mem_map_of_mem hs
  exact (List.mem_range'_1.mp hseq).1

theorem Refines.increasing (h : Refines w l) :
    w.stored.Pairwise fun a b => a.seq < b.seq := by
  have hseqs : (w.stored.map MotionTokenSample.seq).Pairwise (· < ·) := by
    rw [h.seqs]
    exact List.pairwise_lt_range'
  exact List.pairwise_map.mp hseqs

/-- The producer's moves: everything is stored, in order. -/
theorem run_store (l : Link (MotionTokenSample K)) (new : List (MotionTokenSample K)) :
    l.run (Link.newKey MotionTokenSample.seq) (new.map Move.store) =
      { l with stored := l.stored ++ new } := by
  induction new generalizing l with
  | nil => simp
  | cons s new ih =>
    rw [List.map_cons, Link.run_cons, ih]
    simp [Link.move]

/-- **One step of the system is a run of the link.** -/
theorem Refines.step (h : Refines w l) (hstep : w.step a = some w') :
    ∃ moves, Refines w' (l.run (Link.newKey MotionTokenSample.seq) moves) := by
  obtain ⟨hstored, hpolls, hbuffer, htokenSeq, hseqs⟩ := h
  cases a with
  | startControl auto =>
    cases hstep
    exact ⟨[], hstored, hpolls, hbuffer, htokenSeq, hseqs⟩
  | controller r =>
    cases hstep
    obtain ⟨hdata, hseq, hnew⟩ := ControllerThread.next_tokens w.controller r
    refine ⟨(ControllerThread.recorded w.controller (w.controller.next r)).map Move.store, ?_⟩
    rw [run_store]
    refine ⟨congrArg (· ++ _) hstored, ⟨hpolls.held, hpolls.published, hpolls.last, hpolls.fresh,
      hpolls.polled⟩, ?_, ?_, ?_⟩
    · refine hdata.trans ?_
      rw [List.getLast?_append]
      exact congrArg _ hbuffer
    · rw [hseq, htokenSeq, List.length_append]
    · rw [List.map_append, hseqs, hnew, htokenSeq, List.length_append, Nat.add_comm _ 1,
        List.range'_append_1]
  | start ready =>
    simp only [TokenStream.step] at hstep
    split at hstep
    · rename_i hidle
      cases hstep
      exact ⟨[], hstored, hpolls.start hidle ready, hbuffer, htokenSeq, hseqs⟩
    · cases hstep
  | publisher =>
    have hpos := Refines.pos ⟨hstored, hpolls, hbuffer, htokenSeq, hseqs⟩
    obtain ⟨publisher, hpublisher, rfl⟩ := Option.map_eq_some_iff.mp hstep
    rw [hbuffer, ← hstored] at hpublisher
    rw [← hstored] at hpos
    obtain ⟨moves, hpolls', hnone⟩ := hpolls.loop hpos hpublisher
    rw [hstored, ← hbuffer] at hpolls'
    refine ⟨moves, ?_, hpolls', hbuffer, htokenSeq, hseqs⟩
    rw [Link.run_stored, hnone, List.append_nil, hstored]
  | stop =>
    cases hstep
    exact ⟨[], hstored, ⟨hpolls.held, hpolls.published, hpolls.last, hpolls.fresh,
      hpolls.polled⟩, hbuffer, htokenSeq, hseqs⟩
  | join =>
    simp only [TokenStream.step] at hstep
    split at hstep
    · rename_i hexited
      cases hstep
      have hheld : l.held = none := by
        rw [← hpolls.held, MotionTokenPublisher.held, hexited]
      exact ⟨[], hstored, ⟨hheld.symm, hpolls.published, hpolls.last, hpolls.fresh,
        hpolls.polled⟩, hbuffer, htokenSeq, hseqs⟩
    · cases hstep

theorem exists_refines (h : Transition.Reachable step Transition.Always {} w) :
    ∃ moves, Refines w
      (({} : Link (MotionTokenSample K)).run (Link.newKey MotionTokenSample.seq) moves) := by
  induction h with
  | refl => exact ⟨[], .init⟩
  | tail _ hlast ih =>
    obtain ⟨a, -, ha⟩ := hlast
    obtain ⟨moves, hmoves⟩ := ih
    obtain ⟨moves', hmoves'⟩ := hmoves.step ha
    refine ⟨moves ++ moves', ?_⟩
    rw [Link.run_append]
    exact hmoves'

/-- **The token stream.** In every reachable state, over any starts and stops of the publisher: the
samples that the buffer has held are numbered 1, 2, 3 and so on; and the messages, with the one
that is about to be written, are the samples that the publisher has found in the buffer, each once
and in order. -/
theorem token_stream (h : Transition.Reachable step Transition.Always {} w) :
    w.stored.map MotionTokenSample.seq = List.range' 1 w.stored.length ∧
      w.publisher.published ++ (w.publisher.held.map MotionTokenPublisher.message).toList =
        (w.stored.filter fun s => s.seq ∈ w.polled.map MotionTokenSample.seq).map
          MotionTokenPublisher.message ∧
      ∀ s ∈ w.polled, s ∈ w.stored := by
  obtain ⟨moves, href⟩ := exists_refines h
  have hpolls := href.polls
  -- with the pending sample written, the link has sent what it has looked at
  have hall := Link.sent_eq_filter MotionTokenSample.seq (moves ++ [.send])
  have hfresh := Link.fresh_run MotionTokenSample.seq (moves ++ [.send])
  have horder := Link.sent_inOrder (Link.newKey MotionTokenSample.seq) (moves ++ [.send])
  rw [Link.run_append] at hall hfresh horder
  generalize ({} : Link (MotionTokenSample K)).run (Link.newKey MotionTokenSample.seq) moves = l
    at *
  have hsend : (l.run (Link.newKey MotionTokenSample.seq) [.send]).sent =
        l.sent ++ l.held.toList ∧
      (l.run (Link.newKey MotionTokenSample.seq) [.send]).looked = w.polled ∧
      (l.run (Link.newKey MotionTokenSample.seq) [.send]).stored = w.stored := by
    cases hheld : l.held with
    | none => simp [Link.move, hheld, hpolls.polled, href.stored]
    | some s => simp [Link.move, hheld, hpolls.fresh s hheld, hpolls.polled, href.stored]
  rw [hsend.2.2] at hfresh
  have hlooked := (hfresh href.increasing).looked
  rw [hsend.1, hsend.2.1, hsend.2.2] at hall
  rw [hsend.2.2] at horder
  refine ⟨href.seqs, ?_, fun s hs => horder.mem ((hlooked s).mp (by rwa [hsend.2.1]))⟩
  rw [← hall href.increasing, List.map_append, hpolls.published, hpolls.held]
  cases l.held <;> rfl

/-- The INIT ramp and three tokens. The publisher polls the first one twice, misses the second one
and polls the third. -/
def streamRun : List (Act ℚ) :=
  [.startControl true, .start true] ++ List.replicate 618 (.controller healthyTick) ++
    List.replicate 5 .publisher ++ List.replicate 16 (.controller healthyTick) ++
    List.replicate 3 .publisher

theorem token_stream_missed : ∃ w : TokenStream ℚ,
    w.stored.map MotionTokenSample.seq = [1, 2, 3] ∧
      w.publisher.published.map MotionTokenState.seq = [1, 3] ∧
      w.publisher.published = (w.stored.filter fun s => s.seq ∈ [1, 1, 3]).map
        MotionTokenPublisher.message := by
  have hrun : (Transition.run step {} streamRun).any (fun w =>
      decide (w.stored.map MotionTokenSample.seq = [1, 2, 3] ∧
        w.publisher.published.map MotionTokenState.seq = [1, 3] ∧
        w.polled.map MotionTokenSample.seq = [1, 1, 3]) && w.publisher.held.isNone) = true := by
    decide +kernel
  obtain ⟨w, hw, hdone⟩ := Transition.reachable_of_run_any hrun
  simp only [Bool.and_eq_true, decide_eq_true_eq] at hdone
  obtain ⟨⟨hstored, hpublished, hpolled⟩, hheld⟩ := hdone
  obtain ⟨-, hall, -⟩ := token_stream hw
  rw [hpolled, Option.isNone_iff_eq_none.mp hheld] at hall
  exact ⟨w, hstored, hpublished, (List.append_nil _).symm.trans hall⟩

end TokenStream

end Gearsonic
