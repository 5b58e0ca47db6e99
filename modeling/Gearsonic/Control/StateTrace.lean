import Gearsonic.Numeric.Counter
import Gearsonic.Transition.Basic
import Mathlib.Logic.Function.Basic

/-!
# The trace ring

`StateTrace::record`, `writer_loop` and `stop` on the ring between the control thread and
the file. Each atomic load or store, the fill of a row, and each `fwrite` of a contiguous
run of rows is one step; any interleaving of them is a run.

What a row holds does not matter here. `accepted`, `released`, `drops` and `calls` are
history: no step reads them.
-/

namespace Gearsonic

open Numeric

namespace StateTrace

/-- `StateTrace::kRing`. -/
def kRing : Nat := 512

/-- Index `n` of the ring. -/
def slot (n : Nat) : Fin kRing := ⟨n % kRing, Nat.mod_lt n (by decide)⟩

/-- How far a `record` call has come, with the counters it has loaded. -/
inductive ProducerPoint (ρ : Type) where
  | idle
  | called (row : ρ)
  | headRead (row : ρ) (head : BitVec 32)
  | tailRead (row : ρ) (head tail : BitVec 32)
  | filled (row : ρ) (head : BitVec 32)

/-- Where the writer stands in its loop. -/
inductive WriterPoint where
  | asleep
  | headRead (head : BitVec 32)
  | draining (head tail : BitVec 32)
  | stored (tail : BitVec 32)
  /-- `stop_` was set. -/
  | stopRead (tail : BitVec 32)
  | exited

/-- How far a `stop` call has come. -/
inductive StopPoint where
  | notCalled
  | entered
  | disabled
  | flagged
  | returned
deriving DecidableEq

end StateTrace

structure StateTrace (ρ : Type) where
  ring : Fin StateTrace.kRing → ρ
  /-- Rows produced. -/
  head : BitVec 32 := 0
  /-- Rows written. -/
  tail : BitVec 32 := 0
  dropped : BitVec 32 := 0
  enabled : Bool := true
  stop : Bool := false
  /-- The rows in the file, behind its header. -/
  file : List ρ := []
  producer : StateTrace.ProducerPoint ρ := .idle
  writer : StateTrace.WriterPoint := .asleep
  stopper : StateTrace.StopPoint := .notCalled
  accepted : List ρ := []
  /-- The rows that the writer has released. -/
  released : Nat := 0
  drops : Nat := 0
  calls : Nat := 0

namespace StateTrace

variable {ρ : Type}

inductive Act (ρ : Type) where
  /-- The control thread calls `record`. -/
  | record (row : ρ)
  | produce
  | write
  /-- `stop` is called. -/
  | stopCall
  | stopping

/-- The next step of the `record` call. -/
def produce (s : StateTrace ρ) : Option (StateTrace ρ) :=
  match s.producer with
  | .idle => none
  | .called row => some { s with producer := .headRead row s.head }
  | .headRead row head => some { s with producer := .tailRead row head s.tail }
  | .tailRead row head tail =>
    if kRing ≤ (head - tail).toNat then
      some { s with dropped := s.dropped + 1, drops := s.drops + 1, producer := .idle }
    else
      some { s with
        ring := Function.update s.ring (slot head.toNat) row
        producer := .filled row head }
  | .filled row head =>
    some { s with head := head + 1, accepted := s.accepted ++ [row], producer := .idle }

/-- How many rows the next `fwrite` takes: up to the ring's end. -/
def batch (head tail : BitVec 32) : Nat :=
  min (head - tail).toNat (kRing - tail.toNat % kRing)

/-- The next step of the writer. -/
def write (s : StateTrace ρ) : Option (StateTrace ρ) :=
  match s.writer with
  | .asleep => some { s with writer := .headRead s.head }
  | .headRead head => some { s with writer := .draining head s.tail }
  | .draining head tail =>
    if tail = head then
      some { s with tail := tail, released := s.file.length, writer := .stored tail }
    else
      let n := batch head tail
      some { s with
        file := s.file ++ (List.range n).map fun j => s.ring (slot (tail.toNat % kRing + j))
        writer := .draining head (tail + BitVec.ofNat 32 n) }
  | .stored tail => some { s with writer := if s.stop then .stopRead tail else .asleep }
  | .stopRead tail => some { s with writer := if s.head = tail then .exited else .asleep }
  | .exited => none

/-- The next step of the `stop` call; the join waits for the writer. -/
def stopping (s : StateTrace ρ) : Option (StateTrace ρ) :=
  match s.stopper with
  | .notCalled | .returned => none
  | .entered => some { s with enabled := false, stopper := .disabled }
  | .disabled => some { s with stop := true, stopper := .flagged }
  | .flagged =>
    match s.writer with
    | .exited => some { s with stopper := .returned }
    | _ => none

def step (s : StateTrace ρ) : Act ρ → Option (StateTrace ρ)
  | .record row =>
    match s.producer with
    | .idle =>
      some (if s.enabled then { s with producer := .called row, calls := s.calls + 1 } else s)
    | _ => none
  | .produce => s.produce
  | .write => s.write
  | .stopCall =>
    match s.stopper with
    | .notCalled => some (if s.enabled then { s with stopper := .entered } else s)
    | _ => none
  | .stopping => s.stopping

/-- No `record` call overlaps with `stop` or follows it. -/
def NoOverlap (s : StateTrace ρ) : Act ρ → Prop
  | .record _ => s.stopper = .notCalled
  | .stopCall => match s.producer with
    | .idle => True
    | _ => False
  | _ => True

/-- After `StateTrace::start`. -/
def started (blank : ρ) : StateTrace ρ := { ring := fun _ => blank }

end StateTrace

end Gearsonic
