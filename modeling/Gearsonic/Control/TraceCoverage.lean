import Gearsonic.Control.RecordFlow
import Gearsonic.Control.TraceRing

/-!
# Which iterations the trace covers

The control loop and the trace ring together: an iteration calls `StateTrace::record` with
the rows it lists, and the writer and `stop` move between any two steps. The loop passes
`trace_tick` only at the end of its body; the e-stop and the LowState-loss branch `continue`
before it.

* `calls_eq`: every iteration is a call, except those of the two branches.
* `trace_covers_iff`: a run is covered exactly if it takes neither branch.
-/

set_option linter.unusedSectionVars false

namespace Gearsonic

open WholeBodyController

/-- The loop with its trace. `iterations` and `skipped` are history: all iterations, and
those of the e-stop and the LowState-loss branch. -/
structure TracedLoop (K : Type) [Field K] where
  controller : WholeBodyController K := {}
  trace : StateTrace (TickInfo K)
  iterations : Nat := 0
  skipped : Nat := 0

/-- Only `record` is a call, and `enabled_` is cleared by `stop` alone. -/
theorem StateTrace.quiet_step {ρ : Type} {s t : StateTrace ρ} {act : StateTrace.Act ρ}
    (hquiet : ∀ row, act ≠ .record row) (hstep : s.step act = some t) :
    t.calls = s.calls ∧ (t.stopper = .notCalled → s.stopper = .notCalled ∧
      t.enabled = s.enabled) := by
  cases act with
  | record row => exact absurd rfl (hquiet row)
  | produce =>
    simp only [step, produce] at hstep
    split at hstep
    · cases hstep
    · cases hstep
      exact ⟨rfl, fun h => ⟨h, rfl⟩⟩
    · cases hstep
      exact ⟨rfl, fun h => ⟨h, rfl⟩⟩
    · split at hstep <;> cases hstep <;> exact ⟨rfl, fun h => ⟨h, rfl⟩⟩
    · cases hstep
      exact ⟨rfl, fun h => ⟨h, rfl⟩⟩
  | write =>
    simp only [step, write] at hstep
    split at hstep
    · cases hstep
      exact ⟨rfl, fun h => ⟨h, rfl⟩⟩
    · cases hstep
      exact ⟨rfl, fun h => ⟨h, rfl⟩⟩
    · split at hstep <;> cases hstep <;> exact ⟨rfl, fun h => ⟨h, rfl⟩⟩
    · cases hstep
      exact ⟨rfl, fun h => ⟨h, rfl⟩⟩
    · cases hstep
      exact ⟨rfl, fun h => ⟨h, rfl⟩⟩
    · cases hstep
  | stopCall =>
    simp only [step] at hstep
    split at hstep
    · split at hstep
      · cases hstep
        exact ⟨rfl, by rintro ⟨⟩⟩
      · cases hstep
        exact ⟨rfl, fun h => ⟨h, rfl⟩⟩
    · cases hstep
  | stopping =>
    simp only [step, stopping] at hstep
    split at hstep
    · cases hstep
    · cases hstep
    · cases hstep
      exact ⟨rfl, by rintro ⟨⟩⟩
    · cases hstep
      exact ⟨rfl, by rintro ⟨⟩⟩
    · split at hstep
      · cases hstep
        exact ⟨rfl, by rintro ⟨⟩⟩
      · cases hstep

namespace TracedLoop

variable {K : Type} [Field K] [LinearOrder K] [CMath K]

inductive Act (K : Type) [Field K] where
  | iterate (r : TickReads K)
  | trace (act : StateTrace.Act (TickInfo K))

/-- The iteration comes to its end, past the e-stop and the LowState gate. -/
def reachesEnd (r : TickReads K) : Bool := !r.estop && checkSafety r.lowState r.now

/-- The loop goes on once its `record` call has returned. -/
def iterate (s : TracedLoop K) (r : TickReads K) : Option (TracedLoop K) :=
  let c := s.controller.loopIteration r
  let skipped := if reachesEnd r then s.skipped else s.skipped + 1
  match s.trace.producer, c.rows with
  | .idle, [] => some ⟨c, s.trace, s.iterations + 1, skipped⟩
  | .idle, row :: _ =>
    (s.trace.step (.record row)).map fun trace => ⟨c, trace, s.iterations + 1, skipped⟩
  | _, _ => none

/-- Only the loop calls `record`. -/
def step (s : TracedLoop K) : Act K → Option (TracedLoop K)
  | .iterate r => s.iterate r
  | .trace (.record _) => none
  | .trace act => (s.trace.step act).map fun trace => { s with trace := trace }

/-- The trace is on in every iteration, and `stop` comes after the last one. -/
def Recording (s : TracedLoop K) : Act K → Prop
  | .iterate r => r.traceEnabled = true ∧ s.trace.stopper = .notCalled
  | .trace act => s.trace.NoOverlap act

/-- The iteration calls `record` exactly once. -/
def OneRow (s : TracedLoop K) : Act K → Prop
  | .iterate r => (s.controller.loopIteration r).rows.length = 1
  | .trace _ => True

/-- The iteration takes neither the e-stop nor the LowState-loss branch. -/
def Present (_ : TracedLoop K) : Act K → Prop
  | .iterate r => reachesEnd r = true
  | .trace _ => True

/-- The controller and the trace are started. -/
def start (auto : Bool) : TracedLoop K :=
  { controller := { autoStart := auto }
    trace := .started
      { wbcState := .init, encoderMode := -1, plannerCursor := 0, plannerFrame := none } }

variable {s t : TracedLoop K} {a : Act K} {as : List (Act K)}

theorem rows_length (c : WholeBodyController K) {r : TickReads K} (h : r.traceEnabled = true) :
    (c.loopIteration r).rows.length = if reachesEnd r then 1 else 0 := by
  rw [c.iteration_rows r h]
  cases hestop : r.estop <;> cases hsafe : checkSafety r.lowState r.now <;>
    simp [reachesEnd, hestop, hsafe]

theorem oneRow_iff (hrec : Recording s a) : OneRow s a ↔ Present s a := by
  cases a with
  | trace act => exact Iff.rfl
  | iterate r =>
    show (s.controller.loopIteration r).rows.length = 1 ↔ reachesEnd r = true
    rw [rows_length s.controller hrec.1]
    cases reachesEnd r <;> simp

/-- The trace has been started, and every iteration that reached its end is a call. -/
structure CallsInv (s : TracedLoop K) : Prop where
  ring : ∃ blank, Transition.Reachable StateTrace.step StateTrace.NoOverlap
    (StateTrace.started blank) s.trace
  enabled : s.trace.stopper = .notCalled → s.trace.enabled = true
  calls : s.trace.calls + s.skipped = s.iterations

theorem callsInv_start (auto : Bool) : CallsInv (start auto : TracedLoop K) :=
  ⟨⟨_, .refl⟩, fun _ => rfl, rfl⟩

theorem CallsInv.iterate (h : CallsInv s) {r : TickReads K} (hrec : Recording s (.iterate r))
    (hstep : s.step (.iterate r) = some t) : CallsInv t := by
  obtain ⟨htrace, hcalled⟩ := hrec
  have hlength := rows_length s.controller htrace
  have hcalls := h.calls
  obtain ⟨blank, hring⟩ := h.ring
  simp only [step, TracedLoop.iterate] at hstep
  cases hp : s.trace.producer with
  | idle =>
    cases hrows : (s.controller.loopIteration r).rows with
    | nil =>
      rw [hp, hrows] at hstep
      cases hstep
      have hskip : reachesEnd r = false := by
        cases hend : reachesEnd r with
        | false => rfl
        | true =>
          rw [hrows, hend] at hlength
          cases hlength
      refine ⟨⟨blank, hring⟩, h.enabled, ?_⟩
      simp only [hskip, Bool.false_eq_true, if_false]
      omega
    | cons row rest =>
      rw [hp, hrows] at hstep
      obtain ⟨trace, hrecord, rfl⟩ := Option.map_eq_some_iff.mp hstep
      have hend : reachesEnd r = true := by
        cases hend : reachesEnd r with
        | true => rfl
        | false =>
          rw [hrows, hend] at hlength
          cases hlength
      have hon := h.enabled hcalled
      have hring' := hring.tail ⟨.record row, hcalled, hrecord⟩
      simp only [StateTrace.step, hp, hon, if_true] at hrecord
      cases hrecord
      refine ⟨⟨blank, hring'⟩, fun _ => rfl, ?_⟩
      simp only [hend, if_true]
      omega
  | _ =>
    rw [hp] at hstep
    cases hstep

/-- A step of the writer, of `stop` or of a `record` call under way. -/
theorem CallsInv.trace (h : CallsInv s) {act : StateTrace.Act (TickInfo K)}
    (hrec : Recording s (.trace act)) (hstep : s.step (.trace act) = some t) : CallsInv t := by
  obtain ⟨blank, hring⟩ := h.ring
  have hmoves : ∃ trace, s.trace.step act = some trace ∧ t = { s with trace := trace } ∧
      ∀ row, act ≠ .record row := by
    cases act with
    | record row => cases hstep
    | _ =>
      obtain ⟨trace, htrace, rfl⟩ := Option.map_eq_some_iff.mp hstep
      exact ⟨trace, htrace, rfl, by rintro row ⟨⟩⟩
  obtain ⟨trace, htrace, rfl, hquiet⟩ := hmoves
  obtain ⟨hcalls, hkept⟩ := StateTrace.quiet_step hquiet htrace
  refine ⟨⟨blank, hring.tail ⟨act, hrec, htrace⟩⟩, fun hs => ?_, ?_⟩
  · exact (hkept hs).2.trans (h.enabled (hkept hs).1)
  · exact (congrArg (· + s.skipped) hcalls).trans h.calls

theorem CallsInv.of_step (h : CallsInv s) (hrec : Recording s a) (hstep : s.step a = some t) :
    CallsInv t := by
  cases a with
  | iterate r => exact h.iterate hrec hstep
  | trace act => exact h.trace hrec hstep

/-- Every iteration is a `record` call, except those of the two branches. -/
theorem calls_eq {auto : Bool} (h : Transition.Reachable step Recording (start auto) s) :
    s.trace.calls + s.skipped = s.iterations := by
  have hinv : CallsInv s :=
    h.invariant (callsInv_start auto) fun _ _ _ hs hrec hstep => hs.of_step hrec hstep
  exact hinv.calls

/-! ## Covered runs -/

theorem skipped_step (hstep : s.step a = some t) :
    s.skipped ≤ t.skipped ∧ (t.skipped = s.skipped ↔ Present s a) := by
  cases a with
  | iterate r =>
    have hskipped : t.skipped = if reachesEnd r then s.skipped else s.skipped + 1 := by
      simp only [step, TracedLoop.iterate] at hstep
      split at hstep
      · cases hstep
        rfl
      · obtain ⟨trace, -, rfl⟩ := Option.map_eq_some_iff.mp hstep
        rfl
      · cases hstep
    rw [hskipped]
    show _ ∧ (_ ↔ reachesEnd r = true)
    cases reachesEnd r <;> simp
  | trace act =>
    have hsame : t.skipped = s.skipped := by
      cases act with
      | record row => cases hstep
      | _ =>
        obtain ⟨trace, -, rfl⟩ := Option.map_eq_some_iff.mp hstep
        rfl
    exact ⟨hsame.ge, fun _ => trivial, fun _ => hsame⟩

theorem skipped_run (hrun : Transition.run step s as = some t) :
    s.skipped ≤ t.skipped ∧ (t.skipped = s.skipped ↔ Transition.Along step Present s as) := by
  induction as generalizing s with
  | nil =>
    cases hrun
    exact ⟨le_rfl, fun _ => trivial, fun _ => rfl⟩
  | cons a as ih =>
    obtain ⟨u, hu, hrest⟩ := Option.bind_eq_some_iff.mp hrun
    obtain ⟨hle, hiff⟩ := skipped_step hu
    obtain ⟨hle', hiff'⟩ := ih hrest
    refine ⟨hle.trans hle', ?_⟩
    constructor
    · intro heq
      refine ⟨hiff.mp (by omega), fun v hv => ?_⟩
      obtain rfl : u = v := Option.some.inj (hu.symm.trans hv)
      exact hiff'.mp (by omega)
    · rintro ⟨hhead, htail⟩
      exact (hiff'.mpr (htail u hu)).trans (hiff.mpr hhead)

theorem along_oneRow_iff (hrec : Transition.Along step Recording s as) :
    Transition.Along step OneRow s as ↔ Transition.Along step Present s as := by
  rw [Transition.along_iff] at hrec ⊢
  rw [Transition.along_iff]
  constructor
  · intro h bs a u hpre hu
    exact (oneRow_iff (hrec bs a u hpre hu)).mp (h bs a u hpre hu)
  · intro h bs a u hpre hu
    exact (oneRow_iff (hrec bs a u hpre hu)).mpr (h bs a u hpre hu)

/-- In every run with the trace on: each iteration records exactly one row if and only if
none takes the e-stop or the LowState-loss branch, and only then do the rows in the finished
file and the dropped ones add up to the iterations. -/
theorem trace_covers_iff (auto : Bool) (hrec : Transition.Along step Recording (start auto) as)
    (hrun : Transition.run step (start auto) as = some s) :
    (Transition.Along step OneRow (start auto) as ↔
        Transition.Along step Present (start auto) as) ∧
      (s.trace.stopper = .returned →
        (s.trace.file.length + s.trace.drops = s.iterations ↔
          Transition.Along step Present (start auto) as)) := by
  refine ⟨along_oneRow_iff hrec, fun hstopped => ?_⟩
  have hreach := Transition.reachable_of_along hrec hrun
  have hinv : CallsInv s :=
    hreach.invariant (callsInv_start auto) fun _ _ _ hs hC hstep => hs.of_step hC hstep
  obtain ⟨blank, hring⟩ := hinv.ring
  have hcalls := (StateTrace.TraceInv.of_reachable hring).calls
  have hrests : s.trace.producer = .idle :=
    (StateTrace.StopInv.of_reachable hring).rests (by rw [hstopped]; rintro ⟨⟩)
  have hidle : s.trace.busy = 0 := by simp only [StateTrace.busy, hrests]
  have hfile := congrArg List.length (StateTrace.file_eq_accepted hring hstopped)
  have hsum := hinv.calls
  rw [← (skipped_run hrun).2]
  show _ ↔ s.skipped = 0
  omega

/-! ## Stopping before the first row -/

/-- The operator presses the e-stop, and the trace is on. -/
def estopReads : TickReads ℚ := { estop := true, traceEnabled := true }

/-- The robot is present in the INIT ramp. -/
def initReads : TickReads ℚ :=
  { now := 1, lowState := ⟨some {}, 1⟩, robotState := some {}, traceEnabled := true }

/-- One iteration with its `record` call, if there is one, and the stop of the trace. -/
def stopAfter (r : TickReads ℚ) (calls : Nat) (writes : Nat) : List (Act ℚ) :=
  .iterate r :: (List.replicate calls (.trace .produce) ++
    [.trace .stopCall, .trace .stopping, .trace .stopping] ++
    List.replicate writes (.trace .write) ++ [.trace .stopping])

instance (s : StateTrace (TickInfo ℚ)) : ∀ act, Decidable (s.NoOverlap act)
  | .record _ => inferInstanceAs (Decidable (s.stopper = .notCalled))
  | .stopCall => match h : s.producer with
    | .idle => .isTrue (by unfold StateTrace.NoOverlap; rw [h]; trivial)
    | .called _ | .headRead _ _ | .tailRead _ _ _ | .filled _ _ =>
      .isFalse (by unfold StateTrace.NoOverlap; rw [h]; exact id)
  | .produce | .write | .stopping => .isTrue trivial

instance (s : TracedLoop ℚ) : ∀ a, Decidable (s.Recording a)
  | .iterate _ => inferInstanceAs (Decidable (_ ∧ _))
  | .trace act => inferInstanceAs (Decidable (s.trace.NoOverlap act))

instance (s : TracedLoop ℚ) : ∀ a, Decidable (s.OneRow a)
  | .iterate _ => inferInstanceAs (Decidable (_ = _))
  | .trace _ => .isTrue trivial

instance (s : TracedLoop ℚ) : ∀ a, Decidable (s.Present a)
  | .iterate _ => inferInstanceAs (Decidable (_ = _))
  | .trace _ => .isTrue trivial

/-- One iteration of the INIT ramp is one row in the file. -/
theorem trace_covers_iff_ramp : ∃ s : TracedLoop ℚ,
    Transition.run step (start false) (stopAfter initReads 4 6) = some s ∧
      s.trace.stopper = .returned ∧ s.trace.file.length + s.trace.drops = s.iterations := by
  have hrec : Transition.Along step Recording (start false) (stopAfter initReads 4 6) := by
    decide +kernel
  have hpresent : Transition.Along step Present (start false) (stopAfter initReads 4 6) := by
    decide +kernel
  have hend : (Transition.run step (start false) (stopAfter initReads 4 6)).any
      (fun s => decide (s.trace.stopper = .returned)) = true := by decide +kernel
  obtain ⟨s, hs, hstopped⟩ := (Option.any_eq_true _ _).mp hend
  have hreturned := of_decide_eq_true hstopped
  exact ⟨s, hs, hreturned, ((trace_covers_iff false hrec hs).2 hreturned).mpr hpresent⟩

/-- An iteration under the e-stop leaves no row and no drop. -/
theorem estop_leaves_no_row :
    Transition.Along step Recording (start false) (stopAfter estopReads 0 5) ∧
      ¬ Transition.Along step OneRow (start false) (stopAfter estopReads 0 5) ∧
      (Transition.run step (start false) (stopAfter estopReads 0 5)).any (fun s =>
        decide (s.trace.stopper = .returned) &&
          decide (s.trace.file.length + s.trace.drops ≠ s.iterations)) = true := by
  decide +kernel

end TracedLoop

end Gearsonic
