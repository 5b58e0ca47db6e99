import Gearsonic.Common.DataBuffer
import Gearsonic.Transition.Basic
import Mathlib.Algebra.Order.Field.Rat
import Mathlib.Data.Rat.Cast.Order
import Mathlib.Logic.Function.Basic

/-!
# The stale-stream watchdogs

`UnitreeStateReader::watchdog_loop` and `PicoVRReader::watchdog_loop` beside the producers
of the streams they watch. Each `DataBuffer` method and each reading of the clock is one
step, and the clock moves on between any two steps.

A watchdog tests the age of what it has read and clears what is in the buffer by then. The
two are the same sample as long as nothing arrives in between: `arrived` says whether
something did.

* `WatchInv`: without an arrival, what is about to be cleared is stale.
* `clear_keeps_fresh_iff`: no fresh sample is ever cleared exactly in the runs where nothing
  arrives between a watchdog's read and its clear.
-/

namespace Gearsonic

namespace Watchdogs

/-- The streams that are cleared when they go stale. -/
inductive Stream where
  | lowState
  | torsoImu
  | ctrl
deriving DecidableEq

/-- `stale_ms` of the stream's watchdog. -/
def Stream.staleMs : Stream → ℚ
  | .lowState | .torsoImu => 60
  | .ctrl => 350

/-- The two watchdog threads. -/
inductive Dog where
  | unitree
  | pico
deriving DecidableEq

/-- The streams of one pass, in order. -/
def Dog.streams : Dog → List Stream
  | .unitree => [.lowState, .torsoImu]
  | .pico => [.ctrl]

/-- Where a watchdog stands: in front of its sleep, or in front of the next step for a
stream, with the streams that remain of its pass. -/
inductive DogPoint (α : Type) where
  | asleep
  | reading (s : Stream) (rest : List Stream)
  | testing (s : Stream) (read : TimestampedData α) (rest : List Stream)
  | clearing (s : Stream) (rest : List Stream)

/-- The point in front of the next stream of the pass. -/
def proceed {α : Type} : List Stream → DogPoint α
  | [] => .asleep
  | s :: rest => .reading s rest

end Watchdogs

open Watchdogs

structure Watchdogs (α : Type) where
  now : TimePoint := 0
  buffer : Stream → DataBuffer α := fun _ => {}
  point : Dog → DogPoint α := fun _ => .asleep
  /-- A sample has been stored since the watchdog's last read; history. -/
  arrived : Stream → Bool := fun _ => false

namespace Watchdogs

variable {α : Type}

inductive Act (α : Type) where
  | elapse (ns : Nat)
  | setData (s : Stream) (v : α)
  | watch (d : Dog)

/-- The next step of a watchdog. -/
def watch (w : Watchdogs α) (d : Dog) : Watchdogs α :=
  match w.point d with
  | .asleep => { w with point := Function.update w.point d (proceed d.streams) }
  | .reading s rest =>
    { w with
      point := Function.update w.point d (.testing s (w.buffer s).getDataWithTime rest)
      arrived := Function.update w.arrived s false }
  | .testing s read rest =>
    let stale := read.hasData && decide (s.staleMs < read.getAgeMs w.now)
    { w with point := Function.update w.point d (if stale then .clearing s rest else proceed rest) }
  | .clearing s rest =>
    { w with
      buffer := Function.update w.buffer s (w.buffer s).clear
      point := Function.update w.point d (proceed rest) }

def step (w : Watchdogs α) : Act α → Option (Watchdogs α)
  | .elapse ns => some { w with now := w.now + ns }
  | .setData s v =>
    some { w with
      buffer := Function.update w.buffer s ((w.buffer s).setData v w.now)
      arrived := Function.update w.arrived s true }
  | .watch d => some (w.watch d)

/-! ## The two laws -/

/-- What the buffer of the stream holds is older than the threshold. -/
def Stale (w : Watchdogs α) (s : Stream) : Prop :=
  s.staleMs < (w.buffer s).getDataWithTime.getAgeMs w.now

/-- A clear removes a stale sample or none, and leaves what arrived since the read. -/
def KeepsFresh (w : Watchdogs α) : Act α → Prop
  | .watch d =>
    match w.point d with
    | .clearing s _ =>
      ((w.buffer s).data ≠ none → w.Stale s) ∧
        (w.arrived s = true → ((w.watch d).buffer s).data ≠ none)
    | _ => True
  | _ => True

/-- Nothing arrived on the stream between the read and the clear. -/
def NoArrival (w : Watchdogs α) : Act α → Prop
  | .watch d =>
    match w.point d with
    | .clearing s _ => w.arrived s = false
    | _ => True
  | _ => True

/-! ## The invariant -/

theorem getAgeMs_mono (d : TimestampedData α) {now later : TimePoint} (h : now ≤ later) :
    d.getAgeMs now ≤ d.getAgeMs later := by
  unfold TimestampedData.getAgeMs
  split
  · apply div_le_div_of_nonneg_right _ (by norm_num)
    exact_mod_cast Nat.div_le_div_right (Nat.sub_le_sub_right h _)
  · exact le_rfl

/-- What a watchdog at this point knows of a buffer that nothing was stored in since. -/
def Knows (w : Watchdogs α) : DogPoint α → Prop
  | .asleep | .reading _ _ => True
  | .testing s read _ => w.arrived s = false → (w.buffer s).getDataWithTime = read
  | .clearing s _ => w.arrived s = false → w.Stale s

/-- The stream that a watchdog is busy with. -/
def DogPoint.stream : DogPoint α → Option Stream
  | .asleep => none
  | .reading s _ | .testing s _ _ | .clearing s _ => some s

/-- The streams that remain of a pass. -/
def DogPoint.rest : DogPoint α → List Stream
  | .asleep => []
  | .reading _ rest | .testing _ _ rest | .clearing _ rest => rest

structure WatchInv (w : Watchdogs α) : Prop where
  own : ∀ d, ∀ s ∈ (w.point d).stream, s ∈ d.streams
  rest : ∀ d, (w.point d).rest ⊆ d.streams
  knows : ∀ d, w.Knows (w.point d)

theorem WatchInv.start : WatchInv ({} : Watchdogs α) :=
  ⟨by rintro d s ⟨⟩, fun _ => List.nil_subset _, fun _ => trivial⟩

/-- No stream has two watchdogs. -/
theorem streams_disjoint {d e : Dog} {s : Stream} (hd : s ∈ d.streams) (he : s ∈ e.streams) :
    d = e := by
  cases d <;> cases e <;> simp_all [Dog.streams]

/-- What a watchdog knows depends on its own stream and on the clock, which only advances. -/
theorem Knows.of_frame {w v : Watchdogs α} {p : DogPoint α} (h : w.Knows p)
    (hnow : w.now ≤ v.now)
    (hstream : ∀ s ∈ p.stream, v.arrived s = false →
      w.arrived s = false ∧ v.buffer s = w.buffer s) : v.Knows p := by
  cases p with
  | asleep => trivial
  | reading s rest => trivial
  | testing s read rest =>
    intro harrived
    obtain ⟨hbefore, hbuffer⟩ := hstream s rfl harrived
    rw [hbuffer]
    exact h hbefore
  | clearing s rest =>
    intro harrived
    obtain ⟨hbefore, hbuffer⟩ := hstream s rfl harrived
    unfold Stale
    rw [hbuffer]
    exact lt_of_lt_of_le (h hbefore) (getAgeMs_mono _ hnow)

theorem proceed_own {streams rest : List Stream} (h : rest ⊆ streams) :
    (∀ s ∈ (proceed rest : DogPoint α).stream, s ∈ streams) ∧
      (proceed rest : DogPoint α).rest ⊆ streams := by
  cases rest with
  | nil => exact ⟨by rintro s ⟨⟩, List.nil_subset _⟩
  | cons s rest =>
    refine ⟨fun t ht => ?_, fun t ht => h (List.mem_cons_of_mem s ht)⟩
    obtain rfl : s = t := Option.some.inj ht
    exact h List.mem_cons_self

/-! ## One step -/

variable {w v : Watchdogs α}

/-- A step of one watchdog: its own point, and what the other one knows. -/
theorem WatchInv.of_watch (h : WatchInv w) (d : Dog) : WatchInv (w.watch d) := by
  -- the other watchdog has other streams
  have hother : ∀ e, e ≠ d → ∀ s ∈ (w.point e).stream, s ∉ d.streams := by
    intro e hne s hs hd
    exact hne (streams_disjoint (h.own e s hs) hd)
  have hassemble : ∀ (v : Watchdogs α) (p : DogPoint α), v.now = w.now →
      v.point = Function.update w.point d p → (∀ s ∈ p.stream, s ∈ d.streams) →
      p.rest ⊆ d.streams → v.Knows p →
      (∀ s, s ∉ d.streams → v.arrived s = w.arrived s ∧ v.buffer s = w.buffer s) →
      WatchInv v := by
    intro v p hnow hpoint hown hrest hknows hframe
    refine ⟨fun e => ?_, fun e => ?_, fun e => ?_⟩
    all_goals
      rw [hpoint]
      by_cases he : e = d
    · subst he
      rw [Function.update_self]
      exact hown
    · rw [Function.update_of_ne he]
      exact h.own e
    · subst he
      rw [Function.update_self]
      exact hrest
    · rw [Function.update_of_ne he]
      exact h.rest e
    · subst he
      rw [Function.update_self]
      exact hknows
    · rw [Function.update_of_ne he]
      apply (h.knows e).of_frame hnow.ge
      intro s hs harrived
      obtain ⟨ha, hb⟩ := hframe s (hother e he s hs)
      exact ⟨ha.symm.trans harrived, hb⟩
  have hproceed : ∀ (v : Watchdogs α) (rest : List Stream), v.Knows (proceed rest) := by
    intro v rest
    cases rest <;> trivial
  have hown := h.own d
  have hrest := h.rest d
  have hknows := h.knows d
  unfold watch
  cases hp : w.point d with
  | asleep =>
    obtain ⟨hs, hr⟩ := proceed_own (α := α) (List.Subset.refl d.streams)
    exact hassemble _ _ rfl rfl hs hr (hproceed _ _) fun _ _ => ⟨rfl, rfl⟩
  | reading s rest =>
    rw [hp] at hown hrest
    refine hassemble _ _ rfl rfl hown hrest (fun _ => rfl) fun t ht => ⟨?_, rfl⟩
    apply Function.update_of_ne
    rintro rfl
    exact ht (hown t rfl)
  | testing s read rest =>
    rw [hp] at hown hrest hknows
    dsimp only
    split
    · rename_i hstale
      refine hassemble _ _ rfl rfl hown hrest (fun harrived => ?_) fun _ _ => ⟨rfl, rfl⟩
      have hread : (w.buffer s).getDataWithTime = read := hknows harrived
      show s.staleMs < (w.buffer s).getDataWithTime.getAgeMs w.now
      rw [hread]
      exact of_decide_eq_true (Bool.and_eq_true_iff.mp hstale).2
    · obtain ⟨hs, hr⟩ := proceed_own (α := α) hrest
      exact hassemble _ _ rfl rfl hs hr (hproceed _ _) fun _ _ => ⟨rfl, rfl⟩
  | clearing s rest =>
    rw [hp] at hown hrest
    obtain ⟨hs, hr⟩ := proceed_own (α := α) hrest
    refine hassemble _ _ rfl rfl hs hr (hproceed _ _) fun t ht => ⟨rfl, ?_⟩
    apply Function.update_of_ne
    rintro rfl
    exact ht (hown t rfl)

theorem WatchInv.of_step (h : WatchInv w) {a : Act α} (hstep : w.step a = some v) :
    WatchInv v := by
  cases a with
  | watch d =>
    cases hstep
    exact h.of_watch d
  | elapse ns =>
    cases hstep
    refine ⟨h.own, h.rest, fun d => ?_⟩
    refine (h.knows d).of_frame (Nat.le_add_right _ _) ?_
    intro s _ harrived
    exact ⟨harrived, rfl⟩
  | setData s x =>
    cases hstep
    refine ⟨h.own, h.rest, fun d => ?_⟩
    refine (h.knows d).of_frame le_rfl ?_
    intro t _ harrived
    dsimp only at harrived ⊢
    have hne : t ≠ s := by
      rintro rfl
      rw [Function.update_self] at harrived
      cases harrived
    rw [Function.update_of_ne hne] at harrived
    exact ⟨harrived, Function.update_of_ne hne _ _⟩

/-- What a clear does is lawful exactly if nothing arrived. -/
theorem WatchInv.keepsFresh_iff (h : WatchInv w) (a : Act α) :
    w.KeepsFresh a ↔ w.NoArrival a := by
  cases a with
  | elapse ns => exact Iff.rfl
  | setData s x => exact Iff.rfl
  | watch d =>
    have hknows := h.knows d
    cases hp : w.point d with
    | clearing s rest =>
      rw [hp] at hknows
      have hcleared : ((w.watch d).buffer s).data = none := by
        simp [watch, hp]
      simp only [KeepsFresh, NoArrival, hp, hcleared]
      constructor
      · rintro ⟨-, hvisible⟩
        cases harrived : w.arrived s with
        | false => rfl
        | true => exact absurd rfl (hvisible harrived)
      · intro harrived
        refine ⟨fun _ => hknows harrived, fun hyes => ?_⟩
        rw [harrived] at hyes
        cases hyes
    | _ => simp only [KeepsFresh, NoArrival, hp]

/-! ## Every interleaving -/

/-- Over every interleaving of the producers with the watchdogs: a watchdog clears stale
samples only, and none that arrived since its read, exactly if no sample of the stream
arrives between the read and the clear. -/
theorem clear_keeps_fresh_iff (as : List (Act α)) :
    Transition.Along step KeepsFresh {} as ↔ Transition.Along step NoArrival {} as := by
  have hinv : ∀ bs u, Transition.run step {} bs = some u → WatchInv (u : Watchdogs α) := by
    intro bs u hrun
    exact (Transition.reachable_of_run hrun).invariant .start
      fun _ _ _ h _ hstep => h.of_step hstep
  rw [Transition.along_iff, Transition.along_iff]
  constructor
  · intro h bs a u hpre hrun
    exact ((hinv bs u hrun).keepsFresh_iff a).mp (h bs a u hpre hrun)
  · intro h bs a u hpre hrun
    exact ((hinv bs u hrun).keepsFresh_iff a).mpr (h bs a u hpre hrun)

instance (w : Watchdogs Nat) : ∀ a, Decidable (w.KeepsFresh a)
  | .elapse _ => .isTrue trivial
  | .setData _ _ => .isTrue trivial
  | .watch d =>
    match h : w.point d with
    | .clearing s _ =>
      have : Decidable (w.Stale s) := inferInstanceAs (Decidable (_ < _))
      decidable_of_iff (((w.buffer s).data ≠ none → w.Stale s) ∧
        (w.arrived s = true → ((w.watch d).buffer s).data ≠ none)) (by simp only [KeepsFresh, h])
    | .asleep | .reading _ _ | .testing _ _ _ => .isTrue (by simp only [KeepsFresh, h])

/-- A stream that was silent for 351 ms, so many steps of its watchdog, and its next sample
right before the clear. -/
def recovery (s : Stream) (d : Dog) (steps : Nat) : List (Act Nat) :=
  [.setData s 0, .elapse 351000000] ++ List.replicate steps (.watch d) ++ [.setData s 1, .watch d]

/-- Each of the three streams can lose the sample it recovers with. -/
theorem recovered_sample_cleared :
    ¬ Transition.Along step KeepsFresh {} (recovery .lowState .unitree 3) ∧
      ¬ Transition.Along step KeepsFresh {} (recovery .torsoImu .unitree 5) ∧
      ¬ Transition.Along step KeepsFresh {} (recovery .ctrl .pico 3) := by
  decide +kernel

end Watchdogs

end Gearsonic
