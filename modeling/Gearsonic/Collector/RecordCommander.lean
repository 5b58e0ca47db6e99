import Gearsonic.Control.TraceRow
import Gearsonic.Motion.InputHandler
import Gearsonic.Transition.Basic

/-!
# Recording control

`record_control.hpp` and `RecordCommander`: taps of A and B become commands for the data collector.
The link is one-way, so the commander keeps a mirror of the collector's state. A tap is handled on
the input handler's thread, cut at its shared accesses; `start()` and `stop()` run on another one,
store by store. `RecordLink` is the two threads with the input handler whose ticks emit the taps.

Five members are not the program's. `reported` lists the taps that the handler's ticks have found,
and `passed` those of them that have been emitted since, each with whether the link was started
then; `offered` those that found a sink, and `handled` those that found `started_` set. `torn` says
that a command was written to a publisher that was gone.

* `decisions_accepted`: what the decision table sends, a collector can execute.
* `record_link`: the commands are the decisions over the handled taps, numbered from 1.
-/

set_option linter.unusedSectionVars false

namespace Gearsonic

open StateTrace (RecordState)

/-! ## The decision table -/

inductive RecordAction where
  | none
  | start
  | stop
  | labelSuccess
  | labelFail
  | labelPartial
deriving DecidableEq, Repr

/-- A tap: the button and how often it was pressed. -/
abbrev Tap := TapButton × TapDetector.Event

def recordDecide (state : RecordState) (tap : Tap) : RecordAction :=
  let state := if state = .unknown then .idle else state
  match tap with
  | (.b, .single) => if state ≠ .recording then .start else .none
  | (.b, .double) => if state = .recording then .stop else .none
  | (.b, .triple) => .none
  | (.a, kind) =>
    if state ≠ .awaitingLabel then .none
    else
      match kind with
      | .single => .labelSuccess
      | .double => .labelFail
      | .triple => .labelPartial

def recordNextState (current : RecordState) : RecordAction → RecordState
  | .start => .recording
  | .stop => .awaitingLabel
  | .labelSuccess | .labelFail | .labelPartial => .idle
  | .none => current

/-- The commands of a list of taps, from a state of the mirror. -/
def decisions (state : RecordState) : List Tap → List RecordAction
  | [] => []
  | tap :: taps =>
    match recordDecide state tap with
    | .none => decisions state taps
    | action => action :: decisions (recordNextState state action) taps

/-- The mirror after a list of taps. -/
def mirror (state : RecordState) (taps : List Tap) : RecordState :=
  taps.foldl (fun state tap => recordNextState state (recordDecide state tap)) state

/-! ## What a collector can execute -/

/-- A command that makes sense in a state: a start unless an episode is being recorded, a stop
while it is, a label once it is over. -/
inductive Executes : RecordState → RecordAction → RecordState → Prop
  | start {s} (h : s ≠ .recording) : Executes s .start .recording
  | stop : Executes .recording .stop .awaitingLabel
  | success : Executes .awaitingLabel .labelSuccess .idle
  | fail : Executes .awaitingLabel .labelFail .idle
  | partly : Executes .awaitingLabel .labelPartial .idle

/-- A collector can execute the commands one after the other. -/
inductive Accepts : RecordState → List RecordAction → RecordState → Prop
  | nil (s) : Accepts s [] s
  | cons {s t u} {action : RecordAction} {actions : List RecordAction}
      (h : Executes s action t) (hrest : Accepts t actions u) : Accepts s (action :: actions) u

theorem recordDecide_executes {state : RecordState} (tap : Tap) (h : state ≠ .unknown) :
    recordDecide state tap = .none ∨
      Executes state (recordDecide state tap) (recordNextState state (recordDecide state tap)) := by
  obtain ⟨button, kind⟩ := tap
  cases button with
  | a =>
    by_cases hs : state = .awaitingLabel
    · subst hs
      right
      cases kind with
      | single => exact .success
      | double => exact .fail
      | triple => exact .partly
    · left
      simp [recordDecide, h, hs]
  | b =>
    by_cases hs : state = .recording
    · subst hs
      cases kind with
      | single => exact Or.inl rfl
      | double => exact Or.inr .stop
      | triple => exact Or.inl rfl
    · cases kind with
      | single =>
        right
        have haction : recordDecide state (.b, .single) = .start := by
          simp [recordDecide, h, hs]
        rw [haction]
        exact .start hs
      | double =>
        left
        simp [recordDecide, h, hs]
      | triple => exact Or.inl rfl

theorem recordNextState_known {state : RecordState} (h : state ≠ .unknown)
    (action : RecordAction) : recordNextState state action ≠ .unknown := by
  cases action with
  | none => exact h
  | _ => exact nofun

/-- **Every word of the decision table makes sense to a collector**, and takes it to the mirror. -/
theorem decisions_accepted {state : RecordState} (h : state ≠ .unknown) (taps : List Tap) :
    Accepts state (decisions state taps) (mirror state taps) := by
  induction taps generalizing state with
  | nil => exact .nil state
  | cons tap taps ih =>
    have hnext := recordNextState_known h (recordDecide state tap)
    have hrest := ih hnext
    rcases recordDecide_executes tap h with hnone | hexec
    · rw [hnone] at hrest
      simp only [decisions, mirror, List.foldl_cons, hnone]
      exact hrest
    · have hcons : decisions state (tap :: taps) = recordDecide state tap ::
          decisions (recordNextState state (recordDecide state tap)) taps := by
        rw [decisions]
        split
        · rename_i hnone
          rw [hnone] at hexec
          cases hexec
        · rfl
      rw [hcons]
      exact .cons hexec hrest

theorem decisions_append (state : RecordState) (taps taps' : List Tap) :
    decisions state (taps ++ taps') =
      decisions state taps ++ decisions (mirror state taps) taps' := by
  induction taps generalizing state with
  | nil => rfl
  | cons tap taps ih =>
    simp only [List.cons_append, decisions, mirror, List.foldl_cons]
    split
    · rename_i hnone
      rw [ih, hnone]
      rfl
    · rw [ih, List.cons_append]
      rfl

theorem mirror_concat (state : RecordState) (taps : List Tap) (tap : Tap) :
    mirror state (taps ++ [tap]) =
      recordNextState (mirror state taps) (recordDecide (mirror state taps) tap) :=
  List.foldl_concat _ _ _ _

/-- One more tap, which sends nothing or one command. -/
theorem decisions_concat (state : RecordState) (taps : List Tap) (tap : Tap) :
    decisions state (taps ++ [tap]) = decisions state taps ++
      if recordDecide (mirror state taps) tap = .none then []
      else [recordDecide (mirror state taps) tap] := by
  rw [decisions_append]
  congr 1
  rw [decisions]
  split
  · rename_i hnone
    rw [if_pos hnone]
    rfl
  · rename_i hsome
    rw [if_neg hsome]
    rfl

/-! ## The threads -/

/-- The message of `rt/kist/record_cmd`. -/
structure RecordCommand where
  seq : Nat
  stampNs : Int
  action : RecordAction

/-- Where the handling of a tap stands. A point named for an action stands in front of it. -/
inductive TapPoint where
  | ready
  /-- The sink was copied; in front of the read of `started_`. -/
  | entering (tap : Tap)
  | deciding (tap : Tap)
  /-- In front of the look at `pub_`. -/
  | publishing (state : RecordState) (action : RecordAction)
  | writing (state : RecordState) (action : RecordAction)
  /-- In front of the store of the mirror. -/
  | updating (state : RecordState) (action : RecordAction)
deriving DecidableEq

/-- How far `start()` and `stop()` have come: after the publisher, the mirror, `started_`, the sink;
and after `started_`, the sink, the publisher. -/
inductive LinkPoint where
  | idle
  | opened
  | mirrored
  | flagged
  | started
  | unflagged
  | unhooked
  | closed
deriving DecidableEq

structure RecordLink (K : Type) [Field K] where
  handler : InputHandler K := {}
  /-- The taps of the handler's tick that are still to be emitted. -/
  emitted : List Tap := []
  point : TapPoint := .ready
  link : LinkPoint := .idle
  sink : Bool := false
  started : Bool := false
  publisher : Bool := false
  assumed : RecordState := .idle
  seq : Nat := 0
  sent : List RecordCommand := []
  reported : List Tap := []
  passed : List (Bool × Tap) := []
  offered : List Tap := []
  handled : List Tap := []
  torn : Bool := false

namespace RecordLink

variable {K : Type} [Field K] [LinearOrder K] [CMath K]

inductive Act (K : Type) where
  | input (r : InputHandler.TickReads K)
  | emit
  | tap (stampNs : Int)
  | start (ready : Bool)
  | stop

/-- The next tap of the tick goes to the sink, if there is one. -/
def emitTap (w : RecordLink K) (tap : Tap) (rest : List Tap) : RecordLink K :=
  if w.sink then
    { w with emitted := rest, point := .entering tap, offered := w.offered ++ [tap] }
  else { w with emitted := rest }

/-- One step of `on_tap` and `publish`. -/
def onTap (w : RecordLink K) (stampNs : Int) : Option (RecordLink K) :=
  match w.point with
  | .ready => none
  | .entering tap =>
    if w.started then some { w with point := .deciding tap, handled := w.handled ++ [tap] }
    else some { w with point := .ready }
  | .deciding tap =>
    let action := recordDecide w.assumed tap
    if action = .none then some { w with point := .ready }
    else some { w with point := .publishing w.assumed action }
  | .publishing state action =>
    if w.publisher then some { w with point := .writing state action }
    else some { w with point := .updating state action }
  | .writing state action =>
    if w.publisher then
      some { w with
        seq := w.seq + 1
        sent := w.sent ++ [⟨w.seq + 1, stampNs, action⟩]
        point := .updating state action }
    else some { w with torn := true, point := .updating state action }
  | .updating state action =>
    some { w with assumed := recordNextState state action, point := .ready }

/-- One store of `start()`; `ready` says that the channel came up. -/
def startLink (w : RecordLink K) (ready : Bool) : Option (RecordLink K) :=
  match w.link with
  | .idle => if ready then some { w with publisher := true, link := .opened } else some w
  | .opened => some { w with assumed := .idle, link := .mirrored }
  | .mirrored => some { w with started := true, link := .flagged }
  | .flagged => some { w with sink := true, link := .started }
  | _ => none

/-- One store of `stop()`. -/
def stopLink (w : RecordLink K) : Option (RecordLink K) :=
  match w.link with
  | .started => some { w with started := false, link := .unflagged }
  | .unflagged => some { w with sink := false, link := .unhooked }
  | .unhooked => some { w with publisher := false, link := .closed }
  | _ => none

def step (w : RecordLink K) : Act K → Option (RecordLink K)
  | .input r =>
    if w.point = .ready ∧ w.emitted = [] then
      let (handler, taps) := w.handler.tick r
      some { w with handler := handler, emitted := taps, reported := w.reported ++ taps }
    else none
  | .emit =>
    match w.point, w.emitted with
    | .ready, tap :: rest =>
      some { w.emitTap tap rest with passed := w.passed ++ [(decide (w.link = .started), tap)] }
    | _, _ => none
  | .tap stampNs => w.onTap stampNs
  | .start ready => w.startLink ready
  | .stop => w.stopLink

/-! ## What a step of the handling can do -/

/-- The ways `on_tap` goes on, one for each shared access. -/
inductive TapStep (w : RecordLink K) : RecordLink K → Prop
  | refused {tap} (hpoint : w.point = .entering tap) (h : w.started = false) :
    TapStep w { w with point := .ready }
  | entered {tap} (hpoint : w.point = .entering tap) (h : w.started = true) :
    TapStep w { w with point := .deciding tap, handled := w.handled ++ [tap] }
  | ignored {tap} (hpoint : w.point = .deciding tap) (h : recordDecide w.assumed tap = .none) :
    TapStep w { w with point := .ready }
  | decided {tap} (hpoint : w.point = .deciding tap) (h : recordDecide w.assumed tap ≠ .none) :
    TapStep w { w with point := .publishing w.assumed (recordDecide w.assumed tap) }
  | found {state action} (hpoint : w.point = .publishing state action) (h : w.publisher = true) :
    TapStep w { w with point := .writing state action }
  | missed {state action} (hpoint : w.point = .publishing state action)
      (h : w.publisher = false) : TapStep w { w with point := .updating state action }
  | wrote {state action} (stampNs : Int) (hpoint : w.point = .writing state action)
      (h : w.publisher = true) :
    TapStep w { w with
      seq := w.seq + 1
      sent := w.sent ++ [⟨w.seq + 1, stampNs, action⟩]
      point := .updating state action }
  | tore {state action} (hpoint : w.point = .writing state action) (h : w.publisher = false) :
    TapStep w { w with torn := true, point := .updating state action }
  | updated {state action} (hpoint : w.point = .updating state action) :
    TapStep w { w with assumed := recordNextState state action, point := .ready }

theorem onTap_cases {w w' : RecordLink K} {stampNs : Int} (h : w.onTap stampNs = some w') :
    TapStep w w' := by
  unfold onTap at h
  split at h
  · cases h
  · rename_i tap hpoint
    split at h <;> cases h
    · exact .entered hpoint ‹_›
    · exact .refused hpoint (Bool.eq_false_iff.mpr ‹_›)
  · rename_i tap hpoint
    dsimp only at h
    split at h <;> cases h
    · exact .ignored hpoint ‹_›
    · exact .decided hpoint ‹_›
  · rename_i state action hpoint
    split at h <;> cases h
    · exact .found hpoint ‹_›
    · exact .missed hpoint (Bool.eq_false_iff.mpr ‹_›)
  · rename_i state action hpoint
    split at h <;> cases h
    · exact .wrote stampNs hpoint ‹_›
    · exact .tore hpoint (Bool.eq_false_iff.mpr ‹_›)
  · rename_i state action hpoint
    cases h
    exact .updated hpoint

/-! ## The invariant -/

/-- What holds of the link because of how far `start()` and `stop()` have come. -/
structure LinkInv (w : RecordLink K) : Prop where
  sink : w.sink = true ↔ w.link = .started ∨ w.link = .unflagged
  started : w.started = true ↔ w.link = .flagged ∨ w.link = .started
  publisher : w.publisher = true ↔ w.link ≠ .idle ∧ w.link ≠ .closed
  before : w.link = .idle ∨ w.link = .opened ∨ w.link = .mirrored ∨ w.link = .flagged →
    w.point = .ready ∧ w.assumed = .idle ∧ w.handled = [] ∧ w.offered = []
  torn : w.torn = true → w.link = .closed

/-- The taps that found the link started, cut where the commands end: `rest` is the tap in hand, or
the one that the reset of the publisher has swallowed. -/
def Handles (w : RecordLink K) (done rest : List Tap) : Prop :=
  match w.point with
  | .ready | .entering _ =>
    rest.length ≤ 1 ∧ (w.link ≠ .closed → rest = [] ∧ w.assumed = mirror .idle done)
  | .deciding tap => rest = [tap] ∧ w.assumed = mirror .idle done
  | .publishing state action | .writing state action =>
    ∃ tap, rest = [tap] ∧ state = mirror .idle done ∧ action = recordDecide state tap ∧
      action ≠ .none
  | .updating state action =>
    rest = [] ∧ recordNextState state action = mirror .idle done ∨
      w.link = .closed ∧ rest.length ≤ 1

/-- The commands so far, numbered from 1, are the decisions over the taps that are done. -/
structure SentInv (w : RecordLink K) : Prop where
  seq : w.seq = w.sent.length
  seqs : w.sent.map RecordCommand.seq = List.range' 1 w.sent.length
  handled : ∃ done rest, w.handled = done ++ rest ∧
    w.sent.map RecordCommand.action = decisions .idle done ∧ Handles w done rest

/-- The taps that a started link has been offered have been handled, but for the one that is in
front of the read of `started_`. -/
def OfferedInv (w : RecordLink K) : Prop :=
  w.link = .started → w.offered = w.handled ++
    match w.point with
    | .entering tap => [tap]
    | _ => []

/-- What the handler reports is emitted or about to be, and what was emitted to a started link was
offered. -/
structure PassedInv (w : RecordLink K) : Prop where
  reported : w.reported = w.passed.map Prod.snd ++ w.emitted
  before : w.link = .idle ∨ w.link = .opened ∨ w.link = .mirrored ∨ w.link = .flagged →
    w.passed.filter Prod.fst = []
  started : w.link = .started → (w.passed.filter Prod.fst).map Prod.snd = w.offered

variable {w w' : RecordLink K} {a : Act K}

theorem LinkInv.init : LinkInv ({} : RecordLink K) :=
  ⟨by simp, by simp, by simp, fun _ => ⟨rfl, rfl, rfl, rfl⟩, nofun⟩

theorem LinkInv.startLink (h : LinkInv w) {ready : Bool} (hstep : w.startLink ready = some w') :
    LinkInv w' := by
  obtain ⟨hsink, hstarted, hpublisher, hbefore, htorn⟩ := h
  unfold RecordLink.startLink at hstep
  split at hstep
  · rename_i hidle
    split at hstep <;> cases hstep
    · constructor <;> simp_all
    · exact ⟨hsink, hstarted, hpublisher, hbefore, htorn⟩
  · cases hstep
    constructor <;> simp_all
  · cases hstep
    constructor <;> simp_all
  · cases hstep
    constructor <;> simp_all
  · cases hstep

theorem LinkInv.stopLink (h : LinkInv w) (hstep : w.stopLink = some w') : LinkInv w' := by
  obtain ⟨hsink, hstarted, hpublisher, hbefore, htorn⟩ := h
  unfold RecordLink.stopLink at hstep
  split at hstep
  · cases hstep
    constructor <;> simp_all
  · cases hstep
    constructor <;> simp_all
  · cases hstep
    constructor <;> simp_all
  · cases hstep

/-- The handling of a tap leaves the link alone, and goes on only where the link was started. -/
theorem LinkInv.onTap (h : LinkInv w) (hstep : TapStep w w') : LinkInv w' := by
  obtain ⟨hsink, hstarted, hpublisher, hbefore, htorn⟩ := h
  have hlink : w.point ≠ .ready →
      ¬ (w.link = .idle ∨ w.link = .opened ∨ w.link = .mirrored ∨ w.link = .flagged) :=
    fun hpoint hlink => hpoint (hbefore hlink).1
  cases hstep with
  | refused hpoint _ | entered hpoint _ | ignored hpoint _ | decided hpoint _ | found hpoint _
  | missed hpoint _ | wrote _ hpoint _ | updated hpoint =>
    exact ⟨hsink, hstarted, hpublisher,
      fun hearly => absurd hearly (hlink (by rw [hpoint]; exact nofun)), htorn⟩
  | tore hpoint hnone =>
    have hlate := hlink (by rw [hpoint]; exact nofun)
    refine ⟨hsink, hstarted, hpublisher, fun hearly => absurd hearly hlate, fun _ => ?_⟩
    by_contra hopen
    have hgone := hpublisher.mpr ⟨fun hidle => hlate (Or.inl hidle), hopen⟩
    rw [hnone] at hgone
    cases hgone

theorem LinkInv.emit (h : LinkInv w) (tap : Tap) (rest : List Tap) (passed : List (Bool × Tap)) :
    LinkInv { w.emitTap tap rest with passed := passed } := by
  obtain ⟨hsink, hstarted, hpublisher, hbefore, htorn⟩ := h
  unfold emitTap
  split
  · rename_i hfound
    refine ⟨hsink, hstarted, hpublisher, fun hearly => ?_, htorn⟩
    rcases hsink.mp hfound with hlink | hlink <;> simp [hlink] at hearly
  · exact ⟨hsink, hstarted, hpublisher, hbefore, htorn⟩

theorem LinkInv.of_step (h : LinkInv w) (hstep : w.step a = some w') : LinkInv w' := by
  cases a with
  | input r =>
    simp only [RecordLink.step] at hstep
    split at hstep <;> cases hstep
    exact ⟨h.sink, h.started, h.publisher, h.before, h.torn⟩
  | emit =>
    simp only [RecordLink.step] at hstep
    split at hstep <;> cases hstep
    exact h.emit _ _ _
  | tap stampNs => exact h.onTap (onTap_cases hstep)
  | start ready => exact h.startLink hstep
  | stop => exact h.stopLink hstep

/-- A started link has found every tap that it was offered. -/
theorem OfferedInv.of_step (h : OfferedInv w) (hlink : LinkInv w) (hstep : w.step a = some w') :
    OfferedInv w' := by
  cases a with
  | input r =>
    simp only [RecordLink.step] at hstep
    split at hstep <;> cases hstep
    exact h
  | emit =>
    simp only [RecordLink.step] at hstep
    split at hstep <;> cases hstep
    rename_i hpoint hemitted
    intro hstarted
    unfold emitTap at *
    split
    · rename_i hsink
      rw [if_pos hsink] at hstarted
      have hoffered := h hstarted
      rw [hpoint, List.append_nil] at hoffered
      exact congrArg (· ++ _) hoffered
    · rename_i hnone
      rw [if_neg hnone] at hstarted
      exact absurd (hlink.sink.mpr (Or.inl hstarted)) hnone
  | tap stampNs =>
    have hcases := onTap_cases hstep
    cases hcases with
    | refused hpoint hnone =>
      intro hstarted
      rw [hlink.started.mpr (Or.inr hstarted)] at hnone
      cases hnone
    | entered hpoint _ =>
      intro hstarted
      have hoffered := h hstarted
      rw [hpoint] at hoffered
      exact hoffered.trans (List.append_nil _).symm
    | ignored hpoint _ | decided hpoint _ | found hpoint _ | missed hpoint _ | wrote _ hpoint _
    | tore hpoint _ | updated hpoint =>
      intro hstarted
      have hoffered := h hstarted
      rw [hpoint] at hoffered
      exact hoffered
  | start ready =>
    simp only [RecordLink.step, RecordLink.startLink] at hstep
    split at hstep
    · rename_i hidle
      split at hstep <;> cases hstep
      · exact nofun
      · exact h
    · cases hstep
      exact nofun
    · cases hstep
      exact nofun
    · rename_i hflagged
      cases hstep
      intro _
      obtain ⟨hpoint, -, hhandled, hoffered⟩ :=
        hlink.before (Or.inr (Or.inr (Or.inr hflagged)))
      rw [hpoint, hhandled, hoffered]
      rfl
    · cases hstep
  | stop =>
    simp only [RecordLink.step, RecordLink.stopLink] at hstep
    split at hstep <;> cases hstep
    · exact nofun
    · exact nofun
    · exact nofun

theorem emitTap_link (tap : Tap) (rest : List Tap) :
    (w.emitTap tap rest).link = w.link ∧ (w.emitTap tap rest).emitted = rest ∧
      (w.emitTap tap rest).reported = w.reported := by
  unfold emitTap
  split <;> exact ⟨rfl, rfl, rfl⟩

theorem PassedInv.emit (h : PassedInv w) (hlink : LinkInv w) {tap : Tap} {rest : List Tap}
    (hemitted : w.emitted = tap :: rest) :
    PassedInv { w.emitTap tap rest with
      passed := w.passed ++ [(decide (w.link = .started), tap)] } := by
  obtain ⟨hsame, hrest, hreported⟩ := emitTap_link (w := w) tap rest
  constructor
  · rw [hreported, hrest, List.map_append, List.append_assoc, h.reported, hemitted]
    rfl
  · intro hearly
    rw [hsame] at hearly
    have hnot : w.link ≠ .started := by
      intro hstarted
      rw [hstarted] at hearly
      simp at hearly
    rw [List.filter_append, h.before hearly, decide_eq_false hnot]
    rfl
  · intro hstarted
    rw [hsame] at hstarted
    -- a started link has its sink
    have hsink := hlink.sink.mpr (Or.inl hstarted)
    have hoffered : (w.emitTap tap rest).offered = w.offered ++ [tap] := by
      rw [emitTap, if_pos hsink]
    rw [hoffered, List.filter_append, List.map_append, h.started hstarted, decide_eq_true hstarted]
    rfl

/-- The handling of a tap passes no other. -/
theorem PassedInv.onTap (h : PassedInv w) (hstep : TapStep w w') : PassedInv w' := by
  obtain ⟨hreported, hbefore, hstarted⟩ := h
  cases hstep <;> exact ⟨hreported, hbefore, hstarted⟩

theorem PassedInv.startLink (h : PassedInv w) (hlink : LinkInv w) {ready : Bool}
    (hstep : w.startLink ready = some w') : PassedInv w' := by
  unfold RecordLink.startLink at hstep
  split at hstep
  · rename_i hidle
    split at hstep <;> cases hstep
    · exact ⟨h.reported, fun _ => h.before (Or.inl hidle), nofun⟩
    · exact h
  · rename_i hopened
    cases hstep
    exact ⟨h.reported, fun _ => h.before (Or.inr (Or.inl hopened)), nofun⟩
  · rename_i hmirrored
    cases hstep
    exact ⟨h.reported, fun _ => h.before (Or.inr (Or.inr (Or.inl hmirrored))), nofun⟩
  · rename_i hflagged
    cases hstep
    obtain ⟨-, -, -, hoffered⟩ := hlink.before (Or.inr (Or.inr (Or.inr hflagged)))
    refine ⟨h.reported, by simp, fun _ => ?_⟩
    rw [h.before (Or.inr (Or.inr (Or.inr hflagged))), hoffered]
    rfl
  · cases hstep

theorem PassedInv.stopLink (h : PassedInv w) (hstep : w.stopLink = some w') : PassedInv w' := by
  unfold RecordLink.stopLink at hstep
  split at hstep <;> cases hstep <;> exact ⟨h.reported, by simp, nofun⟩

theorem PassedInv.of_step (h : PassedInv w) (hlink : LinkInv w) (hstep : w.step a = some w') :
    PassedInv w' := by
  cases a with
  | input r =>
    simp only [RecordLink.step] at hstep
    split at hstep <;> cases hstep
    rename_i hready
    have hreported := h.reported
    rw [hready.2, List.append_nil] at hreported
    exact ⟨congrArg (· ++ _) hreported, h.before, h.started⟩
  | emit =>
    simp only [RecordLink.step] at hstep
    split at hstep <;> cases hstep
    exact h.emit hlink ‹_›
  | tap stampNs => exact h.onTap (onTap_cases hstep)
  | start ready => exact h.startLink hlink hstep
  | stop => exact h.stopLink hstep

/-! ## The commands -/

theorem SentInv.init : SentInv ({} : RecordLink K) :=
  ⟨rfl, rfl, [], [], rfl, rfl, Nat.zero_le 1, fun _ => ⟨rfl, rfl⟩⟩

theorem SentInv.onTap (h : SentInv w) (hlink : LinkInv w) (hstep : TapStep w w') : SentInv w' := by
  obtain ⟨hseq, hseqs, done, rest, hhandled, hactions, hhandles⟩ := h
  cases hstep with
  | refused hpoint _ =>
    rw [Handles, hpoint] at hhandles
    exact ⟨hseq, hseqs, done, rest, hhandled, hactions, hhandles⟩
  | entered hpoint hstarted =>
    rw [Handles, hpoint] at hhandles
    have hopen : w.link ≠ .closed := by
      rcases hlink.started.mp hstarted with h | h <;> simp [h]
    obtain ⟨rfl, hassumed⟩ := hhandles.2 hopen
    refine ⟨hseq, hseqs, done, [_], ?_, hactions, rfl, hassumed⟩
    rw [hhandled, List.append_nil]
  | @ignored tap hpoint hnone =>
    rw [Handles, hpoint] at hhandles
    obtain ⟨rfl, hassumed⟩ := hhandles
    rw [hassumed] at hnone
    refine ⟨hseq, hseqs, done ++ [tap], [], ?_, ?_, Nat.zero_le 1, fun _ => ⟨rfl, ?_⟩⟩
    · rw [hhandled, List.append_nil]
    · rw [decisions_concat, if_pos hnone, List.append_nil]
      exact hactions
    · rw [mirror_concat, hnone]
      exact hassumed
  | @decided tap hpoint hsome =>
    rw [Handles, hpoint] at hhandles
    obtain ⟨rfl, hassumed⟩ := hhandles
    exact ⟨hseq, hseqs, done, [tap], hhandled, hactions, tap, rfl, hassumed, rfl, hsome⟩
  | found hpoint _ =>
    rw [Handles, hpoint] at hhandles
    exact ⟨hseq, hseqs, done, rest, hhandled, hactions, hhandles⟩
  | missed hpoint hgone | tore hpoint hgone =>
    rw [Handles, hpoint] at hhandles
    obtain ⟨tap, rfl, -⟩ := hhandles
    have hclosed : w.link = .closed := by
      by_contra hopen
      have hlate : w.link ≠ .idle := by
        intro hidle
        rw [(hlink.before (Or.inl hidle)).1] at hpoint
        cases hpoint
      rw [hlink.publisher.mpr ⟨hlate, hopen⟩] at hgone
      cases hgone
    exact ⟨hseq, hseqs, done, [tap], hhandled, hactions, Or.inr ⟨hclosed, Nat.le_refl 1⟩⟩
  | @wrote state action stampNs hpoint _ =>
    rw [Handles, hpoint] at hhandles
    obtain ⟨tap, rfl, rfl, haction, hsome⟩ := hhandles
    refine ⟨?_, ?_, done ++ [tap], [], ?_, ?_, Or.inl ⟨rfl, ?_⟩⟩
    · rw [List.length_append, hseq]
      rfl
    · rw [List.map_append, hseqs, List.length_append, List.range'_append_1.symm, hseq, Nat.add_comm]
      rfl
    · rw [hhandled, List.append_nil]
    · rw [decisions_concat, ← haction, if_neg hsome, List.map_append, hactions]
      rfl
    · rw [mirror_concat, ← haction]
  | updated hpoint =>
    rw [Handles, hpoint] at hhandles
    refine ⟨hseq, hseqs, done, rest, hhandled, hactions, ?_⟩
    rcases hhandles with ⟨rfl, hnext⟩ | ⟨hclosed, hrest⟩
    · exact ⟨Nat.zero_le 1, fun _ => ⟨rfl, hnext⟩⟩
    · exact ⟨hrest, fun hopen => absurd hclosed hopen⟩

theorem Handles.length_le {done rest : List Tap} (h : Handles w done rest) : rest.length ≤ 1 := by
  unfold Handles at h
  split at h
  · exact h.1
  · exact h.1
  · exact Nat.le_of_eq (congrArg List.length h.1)
  · obtain ⟨tap, rfl, -⟩ := h
    exact Nat.le_refl 1
  · obtain ⟨tap, rfl, -⟩ := h
    exact Nat.le_refl 1
  · rcases h with ⟨rfl, -⟩ | ⟨-, hrest⟩
    · exact Nat.zero_le 1
    · exact hrest

/-- Whoever moves the link on does not open it again. -/
theorem Handles.of_link {done rest : List Tap} (h : Handles w done rest)
    (hpoint : w'.point = w.point) (hassumed : w'.assumed = w.assumed)
    (hclosed : w.link = .closed → w'.link = .closed) : Handles w' done rest := by
  unfold Handles at *
  rw [hpoint]
  split at h
  · exact ⟨h.1, fun hopen => hassumed ▸ h.2 fun hlink => hopen (hclosed hlink)⟩
  · exact ⟨h.1, fun hopen => hassumed ▸ h.2 fun hlink => hopen (hclosed hlink)⟩
  · exact ⟨h.1, hassumed.trans h.2⟩
  · exact h
  · exact h
  · exact h.imp_right fun hlink => ⟨hclosed hlink.1, hlink.2⟩

theorem SentInv.startLink (h : SentInv w) (hlink : LinkInv w) {ready : Bool}
    (hstep : w.startLink ready = some w') : SentInv w' := by
  obtain ⟨hseq, hseqs, done, rest, hhandled, hactions, hhandles⟩ := h
  unfold RecordLink.startLink at hstep
  split at hstep
  · rename_i hidle
    split at hstep <;> cases hstep
    · exact ⟨hseq, hseqs, done, rest, hhandled, hactions,
        hhandles.of_link rfl rfl (by simp [hidle])⟩
    · exact ⟨hseq, hseqs, done, rest, hhandled, hactions, hhandles⟩
  · rename_i hopened
    cases hstep
    have hassumed := (hlink.before (Or.inr (Or.inl hopened))).2.1
    exact ⟨hseq, hseqs, done, rest, hhandled, hactions,
      hhandles.of_link rfl hassumed.symm (by simp [hopened])⟩
  · rename_i hmirrored
    cases hstep
    exact ⟨hseq, hseqs, done, rest, hhandled, hactions,
      hhandles.of_link rfl rfl (by simp [hmirrored])⟩
  · rename_i hflagged
    cases hstep
    exact ⟨hseq, hseqs, done, rest, hhandled, hactions,
      hhandles.of_link rfl rfl (by simp [hflagged])⟩
  · cases hstep

theorem SentInv.stopLink (h : SentInv w) (hstep : w.stopLink = some w') : SentInv w' := by
  obtain ⟨hseq, hseqs, done, rest, hhandled, hactions, hhandles⟩ := h
  unfold RecordLink.stopLink at hstep
  split at hstep <;> cases hstep
  · exact ⟨hseq, hseqs, done, rest, hhandled, hactions,
      hhandles.of_link rfl rfl (by simp [*])⟩
  · exact ⟨hseq, hseqs, done, rest, hhandled, hactions,
      hhandles.of_link rfl rfl (by simp [*])⟩
  · exact ⟨hseq, hseqs, done, rest, hhandled, hactions, hhandles.of_link rfl rfl fun _ => rfl⟩

theorem SentInv.of_step (h : SentInv w) (hlink : LinkInv w) (hstep : w.step a = some w') :
    SentInv w' := by
  cases a with
  | input r =>
    simp only [RecordLink.step] at hstep
    split at hstep <;> cases hstep
    exact ⟨h.seq, h.seqs, h.handled⟩
  | emit =>
    simp only [RecordLink.step] at hstep
    split at hstep <;> cases hstep
    rename_i tap rest hpoint hemitted
    obtain ⟨hseq, hseqs, done, rest, hhandled, hactions, hhandles⟩ := h
    rw [Handles, hpoint] at hhandles
    unfold emitTap
    split
    · exact ⟨hseq, hseqs, done, rest, hhandled, hactions, hhandles⟩
    · refine ⟨hseq, hseqs, done, rest, hhandled, hactions, ?_⟩
      rw [Handles, hpoint]
      exact hhandles
  | tap stampNs => exact h.onTap hlink (onTap_cases hstep)
  | start ready => exact h.startLink hlink hstep
  | stop => exact h.stopLink hstep

/-! ## The link -/

theorem reachable_invariant (h : Transition.Reachable step Transition.Always {} w) :
    LinkInv w ∧ SentInv w ∧ OfferedInv w ∧ PassedInv w := by
  refine h.invariant (I := fun w => LinkInv w ∧ SentInv w ∧ OfferedInv w ∧ PassedInv w)
    ⟨.init, .init, nofun, rfl, fun _ => rfl, nofun⟩ ?_
  rintro s a t ⟨hlink, hsent, hoffered, hpassed⟩ - hstep
  exact ⟨hlink.of_step hstep, hsent.of_step hlink hstep, hoffered.of_step hlink hstep,
    hpassed.of_step hlink hstep⟩

/-- **The recording link.** In every reachable state, whatever the buttons and whenever the link
starts and stops: the commands are numbered 1, 2, 3 and so on; they are the decisions over the taps
that found the link started, but for one tap at most, which is still in hand or has met the reset
of the publisher; a collector can execute them one after the other and is then in the state that
the mirror shows. Every tap that the handler reports is emitted, or about to be. Between two taps a
link that is not stopped has handled all that were emitted since it started, and only `stop()` lets
a command be written to a publisher that is gone. -/
theorem record_link (h : Transition.Reachable step Transition.Always {} w) :
    w.sent.map RecordCommand.seq = List.range' 1 w.sent.length ∧
      (∃ done cut, w.handled = done ++ cut ∧ cut.length ≤ 1 ∧
        w.sent.map RecordCommand.action = decisions .idle done ∧
        Accepts .idle (w.sent.map RecordCommand.action) (mirror .idle done) ∧
        (w.link ≠ .closed → w.point = .ready → cut = [] ∧ w.assumed = mirror .idle done)) ∧
      w.reported = w.passed.map Prod.snd ++ w.emitted ∧
      (w.link = .started → w.point = .ready →
        w.handled = w.offered ∧ w.handled = (w.passed.filter Prod.fst).map Prod.snd) ∧
      (w.torn = true → w.link = .closed) := by
  obtain ⟨hlink, hsent, hoffered, hpassed⟩ := reachable_invariant h
  obtain ⟨done, rest, hhandled, hactions, hhandles⟩ := hsent.handled
  refine ⟨hsent.seqs, ⟨done, rest, hhandled, hhandles.length_le, hactions, ?_, ?_⟩,
    hpassed.reported, ?_, hlink.torn⟩
  · rw [hactions]
    exact decisions_accepted (by decide : RecordState.idle ≠ .unknown) done
  · intro hopen hpoint
    rw [Handles, hpoint] at hhandles
    exact hhandles.2 hopen
  · intro hstarted hpoint
    have hall := hoffered hstarted
    rw [hpoint, List.append_nil] at hall
    exact ⟨hall.symm, hall.symm.trans (hpassed.started hstarted).symm⟩

/-- A tick with B up or down. -/
def buttonTick (down : Bool) : InputHandler.TickReads ℚ :=
  { ctrl := some
      { btnB := down, leftAxis := (0, 0), rightAxis := (0, 0), leftTrigger := 0, rightTrigger := 0
        leftGrip := 0, rightGrip := 0 } }

/-- B is tapped once and, after the gap, twice. The second gesture meets `stop()` between the look
at the publisher and the write. -/
def tornRun : List (Act ℚ) :=
  List.replicate 4 (.start true) ++ List.replicate 5 (.input (buttonTick true)) ++
    List.replicate 177 (.input (buttonTick false)) ++ [.emit] ++ List.replicate 5 (.tap 0) ++
    List.replicate 5 (.input (buttonTick true)) ++ List.replicate 5 (.input (buttonTick false)) ++
    List.replicate 5 (.input (buttonTick true)) ++
    List.replicate 177 (.input (buttonTick false)) ++ [.emit] ++ List.replicate 3 (.tap 0) ++
    List.replicate 3 .stop ++ List.replicate 2 (.tap 0)

theorem record_link_torn : ∃ w : RecordLink ℚ,
    w.handled = [(.b, .single), (.b, .double)] ∧
      w.sent.map (fun command => (command.seq, command.action)) = [(1, .start)] ∧
      w.torn = true ∧ w.link = .closed := by
  have hrun : (Transition.run step {} tornRun).any (fun w =>
      decide (w.handled = [(.b, .single), (.b, .double)] ∧
        w.sent.map (fun command => (command.seq, command.action)) = [(1, .start)] ∧
        w.torn = true)) = true := by
    decide +kernel
  obtain ⟨w, hw, hdone⟩ := Transition.reachable_of_run_any hrun
  obtain ⟨hhandled, hsent, htorn⟩ := of_decide_eq_true hdone
  obtain ⟨-, -, -, -, hclosed⟩ := record_link hw
  exact ⟨w, hhandled, hsent, htorn, hclosed htorn⟩

end RecordLink

end Gearsonic
