import Gearsonic.Transition.Polling
import Gearsonic.Unitree.PacketCheck

/-!
# The LowCmd writer

`UnitreeCommandWriter`: the loop that polls the controller's command buffer and publishes what it
finds, and the damping burst of `stop()`. The loop is cut at its shared accesses: the stop flag,
the buffer, the write. What the built-in motion service answers is an input of `start`.

The wire is the list of the calls of `publish`, each with the `mode_machine` that it echoes;
`packets` are the messages. While the loop runs, the writer is a poller of the command buffer that
passes everything on (`Polls`).
-/

namespace Gearsonic

variable {K : Type} [Field K]

open Polling

/-! ## Exclusive use of the topic -/

/-- What `CheckMode` returns, and the name it sets. -/
structure ModeReply where
  code : Int := 0
  name : String := ""

def ModeReply.released (r : ModeReply) : Bool := r.code == 0 && r.name.isEmpty

/-- `ensure_exclusive_lowcmd`. `after` are the replies that follow the releases. -/
def ensureExclusiveLowcmd (first : ModeReply) (after : Fin 5 → ModeReply) : Bool :=
  if first.code ≠ 0 then true
  else if first.name.isEmpty then true
  else (List.finRange 5).any fun attempt => (after attempt).released

/-! ## The thread -/

/-- The length of the damping burst. -/
def kBurst : Nat := 5

/-- A point named for an action stands in front of it. -/
inductive WriterPoint (K : Type) [Field K] where
  | idle
  | checking
  | reading
  | publishing (cmd : MotorCommand K)
  | exited
  /-- `stop()` has joined the loop and published this much of its burst. -/
  | bursting (n : Fin kBurst)
  | stopped

structure UnitreeCommandWriter (K : Type) [Field K] where
  point : WriterPoint K := .idle
  stop : Bool := false
  wire : List (MotorCommand K × Option Nat) := []

namespace UnitreeCommandWriter

/-- The messages on the wire. -/
def packets (w : UnitreeCommandWriter K) : List (SdkLowCmd K) :=
  w.wire.map fun call => lowCmd call.1 call.2

def publish (w : UnitreeCommandWriter K) (cmd : MotorCommand K) (modeMachine : Option Nat) :
    UnitreeCommandWriter K :=
  { w with wire := w.wire ++ [(cmd, modeMachine)] }

/-- `start`, over a source that is there. -/
def start (w : UnitreeCommandWriter K) (first : ModeReply) (after : Fin 5 → ModeReply) :
    UnitreeCommandWriter K :=
  if ensureExclusiveLowcmd first after then { w with point := .checking, stop := false } else w

/-- One step of the loop: the buffer holds `data`, the newest state `modeMachine`. -/
def loop (w : UnitreeCommandWriter K) (data : Option (MotorCommand K))
    (modeMachine : Option Nat) : Option (UnitreeCommandWriter K) :=
  match w.point with
  | .checking => some { w with point := if w.stop then .exited else .reading }
  | .reading =>
    match data with
    | some cmd => some { w with point := .publishing cmd }
    | none => some { w with point := .checking }
  | .publishing cmd => some { w.publish cmd modeMachine with point := .checking }
  | .idle | .exited | .bursting _ | .stopped => none

/-- The rest of `stop()`, one step after the other. -/
def shutdown (w : UnitreeCommandWriter K) (modeMachine : Option Nat) :
    Option (UnitreeCommandWriter K) :=
  match w.point with
  | .exited => some { w with point := .bursting ⟨0, by decide⟩ }
  | .bursting n =>
    some { w.publish (MotorCommand.damping K) modeMachine with
      point := if h : n.val + 1 < kBurst then .bursting ⟨n.val + 1, h⟩ else .stopped }
  | .idle | .checking | .reading | .publishing _ | .stopped => none

/-- The command in the writer's hand. -/
def held (w : UnitreeCommandWriter K) : Option (MotorCommand K) :=
  match w.point with
  | .publishing cmd => some cmd
  | _ => none

/-- How much of the burst is out. -/
def burst (w : UnitreeCommandWriter K) : Nat :=
  match w.point with
  | .bursting n => n
  | .stopped => kBurst
  | _ => 0

variable {w w' : UnitreeCommandWriter K} {data : Option (MotorCommand K)}
  {modeMachine : Option Nat} {l : Link (MotorCommand K)}

/-! ## What is added to the wire -/

@[simp] theorem start_wire (first : ModeReply) (after : Fin 5 → ModeReply) :
    (w.start first after).wire = w.wire := by
  unfold start
  split <;> rfl

/-- The loop has ended before the burst begins. -/
theorem loop_wire (h : w.loop data modeMachine = some w') :
    w.burst = 0 ∧ ∃ since, w'.wire = w.wire ++ since := by
  unfold loop at h
  cases hpoint : w.point with
  | checking =>
    simp only [hpoint, Option.some.injEq] at h
    subst h
    exact ⟨by rw [burst, hpoint], [], (List.append_nil _).symm⟩
  | reading =>
    refine ⟨by rw [burst, hpoint], [], ?_⟩
    cases data with
    | some cmd =>
      simp only [hpoint, Option.some.injEq] at h
      subst h
      exact (List.append_nil _).symm
    | none =>
      simp only [hpoint, Option.some.injEq] at h
      subst h
      exact (List.append_nil _).symm
  | publishing cmd =>
    simp only [hpoint, Option.some.injEq] at h
    subst h
    exact ⟨by rw [burst, hpoint], _, rfl⟩
  | idle | exited | bursting n | stopped => simp [hpoint] at h

/-- `stop()` adds damping, and a burst is not taken back. -/
theorem shutdown_wire (h : w.shutdown modeMachine = some w') :
    ∃ since, w'.wire = w.wire ++ since ∧ (∀ call ∈ since, call.1 = MotorCommand.damping K) ∧
      (0 < w.burst → 0 < w'.burst) := by
  unfold shutdown at h
  cases hpoint : w.point with
  | exited =>
    simp only [hpoint, Option.some.injEq] at h
    subst h
    have hburst : w.burst = 0 := by rw [burst, hpoint]
    exact ⟨[], (List.append_nil _).symm, nofun, fun hpos => absurd hburst hpos.ne'⟩
  | bursting n =>
    simp only [hpoint, Option.some.injEq] at h
    subst h
    refine ⟨_, rfl, fun call hcall => by rw [List.mem_singleton.mp hcall], fun _ => ?_⟩
    by_cases hmore : n.val + 1 < kBurst
    · simp only [hmore, dif_pos, burst]
      omega
    · simp only [hmore, dif_neg, not_false_eq_true, burst]
      decide
  | idle | checking | reading | publishing cmd | stopped => simp [hpoint] at h

/-! ## The writer as a poller -/

/-- Everything is passed on. -/
def passAll : Option (MotorCommand K) → MotorCommand K → Bool := fun _ _ => true

/-- The writer has polled this link, and then put out its burst. -/
structure Polls (w : UnitreeCommandWriter K) (l : Link (MotorCommand K)) : Prop where
  held : w.held = l.held
  wire : w.wire.map Prod.fst = l.sent ++ List.replicate w.burst (MotorCommand.damping K)

theorem Polls.init (stored : List (MotorCommand K)) :
    Polls ({} : UnitreeCommandWriter K) { stored := stored } := ⟨rfl, rfl⟩

/-- What the producer does is no move of the writer. -/
theorem Polls.of_sent {l' : Link (MotorCommand K)} (h : Polls w l) (hheld : l'.held = l.held)
    (hsent : l'.sent = l.sent) : Polls w l' :=
  ⟨h.held.trans hheld.symm, by rw [h.wire, hsent]⟩

theorem Polls.start {first : ModeReply} {after : Fin 5 → ModeReply} (h : Polls w l)
    (hidle : w.point = .idle) : Polls (w.start first after) l := by
  obtain ⟨hheld, hwire⟩ := h
  unfold UnitreeCommandWriter.start
  split
  · refine ⟨?_, ?_⟩
    · rw [← hheld, UnitreeCommandWriter.held, UnitreeCommandWriter.held, hidle]
    · simpa [burst, hidle] using hwire
  · exact ⟨hheld, hwire⟩

/-- **One step of the loop is at most one move of the poller.** -/
theorem Polls.loop (h : Polls w l) (hw : w.loop l.stored.getLast? modeMachine = some w') :
    ∃ moves : List (Move (MotorCommand K)), Polls w' (l.run passAll moves) ∧
      moves.filterMap Move.value = [] := by
  obtain ⟨hheld, hwire⟩ := h
  unfold UnitreeCommandWriter.loop at hw
  cases hpoint : w.point with
  | checking =>
    simp only [hpoint, Option.some.injEq] at hw
    subst hw
    have hnone : l.held = none := by
      rw [← hheld, UnitreeCommandWriter.held, hpoint]
    refine ⟨[], ⟨?_, ?_⟩, rfl⟩
    · rw [Link.run_nil, hnone]
      cases w.stop <;> rfl
    · rw [Link.run_nil]
      simp only [burst, hpoint] at hwire ⊢
      cases w.stop <;> exact hwire
  | reading =>
    have hburst : w.burst = 0 := by rw [burst, hpoint]
    rw [hburst] at hwire
    refine ⟨[.take], ?_, rfl⟩
    rw [Link.run_cons, Link.run_nil]
    cases hdata : l.stored.getLast? with
    | some cmd =>
      simp only [hpoint, hdata, Option.some.injEq] at hw
      subst hw
      exact ⟨hdata.symm, hwire⟩
    | none =>
      simp only [hpoint, hdata, Option.some.injEq] at hw
      subst hw
      exact ⟨hdata.symm, hwire⟩
  | publishing cmd =>
    simp only [hpoint, Option.some.injEq] at hw
    subst hw
    have hheld : l.held = some cmd := by
      rw [← hheld, UnitreeCommandWriter.held, hpoint]
    have hburst : w.burst = 0 := by rw [burst, hpoint]
    rw [hburst, List.replicate_zero, List.append_nil] at hwire
    refine ⟨[.send], ?_, rfl⟩
    rw [Link.run_cons, Link.run_nil]
    refine ⟨?_, ?_⟩
    · simp [UnitreeCommandWriter.held, Link.move, hheld]
    · simp [publish, Link.move, hheld, passAll, burst, hwire]
  | idle | exited | bursting n | stopped => simp [hpoint] at hw

theorem Polls.shutdown (h : Polls w l) (hw : w.shutdown modeMachine = some w') :
    Polls w' l := by
  obtain ⟨hheld, hwire⟩ := h
  unfold UnitreeCommandWriter.shutdown at hw
  cases hpoint : w.point with
  | exited =>
    simp only [hpoint, Option.some.injEq] at hw
    subst hw
    refine ⟨?_, ?_⟩
    · rw [← hheld, UnitreeCommandWriter.held, UnitreeCommandWriter.held, hpoint]
    · simpa [burst, hpoint] using hwire
  | bursting n =>
    simp only [hpoint, Option.some.injEq] at hw
    subst hw
    have hnone : l.held = none := by
      rw [← hheld, UnitreeCommandWriter.held, hpoint]
    simp only [burst, hpoint] at hwire
    have hone : List.replicate (n.val + 1) (MotorCommand.damping K) =
        List.replicate n.val (MotorCommand.damping K) ++ [MotorCommand.damping K] :=
      List.replicate_succ'
    by_cases hmore : n.val + 1 < kBurst
    · simp only [hmore, dif_pos]
      refine ⟨hnone.symm, ?_⟩
      show (w.wire ++ [_]).map Prod.fst = l.sent ++ List.replicate (n.val + 1) _
      rw [List.map_append, hwire, hone, List.append_assoc]
      rfl
    · have hlast : List.replicate kBurst (MotorCommand.damping K) =
          List.replicate (n.val + 1) (MotorCommand.damping K) :=
        congrArg (List.replicate · _) (by omega)
      simp only [hmore, dif_neg, not_false_eq_true]
      refine ⟨hnone.symm, ?_⟩
      show (w.wire ++ [_]).map Prod.fst = l.sent ++ List.replicate kBurst _
      rw [List.map_append, hwire, hlast, hone, List.append_assoc]
      rfl
  | idle | checking | reading | publishing cmd | stopped => simp [hpoint] at hw

end UnitreeCommandWriter

end Gearsonic
