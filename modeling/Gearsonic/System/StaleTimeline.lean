import Gearsonic.System.PlaybackLoops

/-!
# The plan after a discard

Both re-entries discard the playback and ask the planner for a reseed, so that what is
adopted next does not come from the discarded timeline. The loss of the robot's state
discards first and asks then: a later snapshot is empty. The recovery asks first and
discards when the reseed is acknowledged, and in between the planner may take a snapshot
of the frozen playback: its plan replaces the reseeded motion.

* `FreshInv`: what the planner holds of a re-entry whose reseed is acknowledged.
* `discarded_timeline_gone`: where no replan with such a late snapshot is published, the
  motion adopted after a discard has no frame of a discarded timeline, and goes back to an
  `initialize_once` that began after the reseed was requested.
-/

set_option linter.unusedSectionVars false

namespace Gearsonic

variable {K : Type} [Field K] [LinearOrder K] [CMath K]

open WholeBodyController

/-- A playback is not emptied by playing it. -/
theorem advancePlayback_empty {c : WholeBodyController K}
    {plan : TimestampedData (MotionSequence50Hz K)}
    (h : (c.advancePlayback plan).playbackMotion.timesteps = 0) :
    c.playbackMotion.timesteps = 0 := by
  have hadopt : ∀ gen stamp, (c.adoptPlan gen stamp).playbackMotion.timesteps = 0 →
      c.playbackMotion.timesteps = 0 := by
    intro gen stamp h
    by_contra hne
    unfold adoptPlan at h
    dsimp only at h
    rw [if_neg hne] at h
    split at h
    · rename_i hpos
      simp [blendPlayback, MotionSequence50Hz.timesteps, MotionSequence50Hz.kCapacity] at h
      omega
    · exact hne h
  unfold advancePlayback at h
  rw [advanceCursor_playbackMotion] at h
  split at h
  · split at h
    · exact hadopt _ _ h
    · exact h
  · exact h

namespace PlaybackLoops

/-! ## Fresh plans -/

/-- The plan's chain of contexts began after the ticket was issued and has no frame of any
playback. -/
structure Fresh (s : PlaybackLoops K) (ticket : Nat) (rec : PlanRecord K) : Prop where
  after : s.planner.issued ticket < rec.oldestInit
  clean : rec.timelines = []

/-- Everything that the planner could publish or has published is fresh, except a replan
from a late snapshot. -/
structure FreshPlans (s : PlaybackLoops K) (ticket : Nat) : Prop where
  seq : s.Fresh ticket s.seq
  buf : s.p.motion50hzBuf.data.isSome = true → s.Fresh ticket s.buf
  context : s.planner.point = .inferring → s.lateSnapshot = true ∨ s.Fresh ticket s.context

/-- The playback is discarded and its reseed requested. -/
structure Entered (s : PlaybackLoops K) : Prop where
  empty : s.c.playbackMotion.timesteps = 0
  discarded : 1 ≤ s.timeline
  point : s.controller.point ≠ .requesting

/-- The ticket of a re-entry whose reseed is acknowledged and whose plan is not adopted. -/
def Due (s : PlaybackLoops K) (ticket : Nat) : Prop :=
  (s.controller.discardDue s.p.reinitDone = true ∧ ticket = s.c.reinitTicket) ∨
    (s.Entered ∧ ticket ≤ s.p.reinitDone ∧ ticket = s.entryTicket)

structure FreshInv (s : PlaybackLoops K) : Prop where
  starting : ∀ req, s.planner.point = .initializing req →
    s.context.oldestInit = s.planner.initStart ∧ s.context.timelines = []
  acking : ∀ req, s.planner.point = .acking req → ∀ ticket, 1 ≤ ticket → ticket ≤ req →
    s.Fresh ticket s.seq ∧ s.Fresh ticket s.buf
  due : ∀ ticket, s.Due ticket → s.FreshPlans ticket
  waits : s.c.stateReseedTicket ≠ 0 → s.entryTicket = s.c.stateReseedTicket
  entered : s.Entered → s.c.stateReseedTicket = 0 →
    1 ≤ s.entryTicket ∧ s.entryTicket ≤ s.p.reinitDone

variable {s t : PlaybackLoops K} {ticket : Nat}

/-- Such a ticket is a real one, and is acknowledged. -/
theorem Due.bounds (h : s.Due ticket) (hl : LoopsInv s)
    (hwaits : s.c.stateReseedTicket ≠ 0 → s.entryTicket = s.c.stateReseedTicket)
    (hentered : s.Entered → s.c.stateReseedTicket = 0 → 1 ≤ s.entryTicket) :
    1 ≤ ticket ∧ ticket ≤ s.p.reinitDone := by
  rcases h with ⟨hdue, rfl⟩ | ⟨hent, hle, rfl⟩
  · rcases discardDue_iff.mp hdue with ⟨-, hi, hle⟩ | hleave
    · exact ⟨hl.entry.ticket hi, hle⟩
    · have hpoint := hl.entry.point
      cases hp : s.controller.point with
      | leaving =>
        rw [hp] at hpoint
        exact hpoint.2
      | _ => simp [hp, ControllerPoint.leaves] at hleave
  · refine ⟨?_, hle⟩
    by_cases hzero : s.c.stateReseedTicket = 0
    · exact hentered hent hzero
    · have hwait := hwaits hzero
      omega

/-! ## The planner's steps -/

section

variable {a : PlannerThread.Act K} {u : PlannerThread K}

/-- A step that publishes nothing and takes no snapshot. -/
theorem FreshPlans.of_idle (h : s.FreshPlans ticket) (hpub : s.planner.publishes a = false)
    (hbuf : u.planner.motion50hzBuf.data.isSome = true → s.p.motion50hzBuf.data.isSome = true)
    (hpoint : u.point ≠ .inferring) :
    (s.advancePlanner a (s.planner.advance a u)).FreshPlans ticket := by
  refine ⟨?_, fun hdata => ?_, fun hp => absurd hp hpoint⟩
  · have hseq : (s.advancePlanner a (s.planner.advance a u)).seq = s.seq := by
      simp only [advancePlanner, hpub, Bool.false_eq_true, if_false]
    exact ⟨hseq ▸ h.seq.after, hseq ▸ h.seq.clean⟩
  · have hrec : (s.advancePlanner a (s.planner.advance a u)).buf = s.buf := by
      simp only [advancePlanner, hpub, Bool.false_eq_true, if_false]
    have hfresh := h.buf (hbuf hdata)
    exact ⟨hrec ▸ hfresh.after, hrec ▸ hfresh.clean⟩

/-- What a publication leaves behind is its context. -/
theorem fresh_of_publish (h : s.Fresh ticket s.context) (hpub : s.planner.publishes a = true) :
    (s.advancePlanner a (s.planner.advance a u)).Fresh ticket
        (s.advancePlanner a (s.planner.advance a u)).seq ∧
      (s.advancePlanner a (s.planner.advance a u)).Fresh ticket
        (s.advancePlanner a (s.planner.advance a u)).buf := by
  have hseq : (s.advancePlanner a (s.planner.advance a u)).seq = s.context := by
    simp only [advancePlanner, hpub, if_true]
  have hbuf : (s.advancePlanner a (s.planner.advance a u)).buf = s.context := by
    simp only [advancePlanner, hpub, if_true]
  rw [hseq, hbuf]
  exact ⟨⟨h.after, h.clean⟩, ⟨h.after, h.clean⟩⟩

/-- The context of an `initialize_once` is fresh for every request it has loaded. -/
theorem FreshInv.starting_fresh (h : FreshInv s) (hl : LoopsInv s) {req : Nat}
    (hp : s.planner.point = .initializing req) (hpos : 1 ≤ ticket) (hle : ticket ≤ req) :
    s.Fresh ticket s.context := by
  obtain ⟨hstart, hclean⟩ := h.starting req hp
  exact ⟨hstart ▸ (hl.handshake.starting req hp).2 ticket hpos hle, hclean⟩

/-- A snapshot is empty, or of a playback that the recovery is about to discard. -/
theorem FreshPlans.of_snapshot (h : s.FreshPlans ticket) (hdue : s.Due ticket)
    {context : Fin 4 → Fin 36 → K} :
    (s.c.playbackSnapshot.isSome && s.controller.discardDue s.p.reinitDone) = true ∨
      s.Fresh ticket (s.snapshotRecord context) := by
  by_cases hempty : s.c.playbackMotion.timesteps = 0
  · right
    have hnone : s.c.playbackSnapshot = none := if_pos hempty
    unfold snapshotRecord
    rw [hnone]
    exact ⟨h.seq.after, h.seq.clean⟩
  · left
    have hsome : s.c.playbackSnapshot = some (s.c.playbackMotion, s.c.cursor) := if_neg hempty
    rcases hdue with ⟨hdiscard, -⟩ | ⟨hent, -⟩
    · simp [hsome, hdiscard]
    · exact absurd hent.empty hempty

/-- A step that acknowledges nothing. -/
theorem FreshInv.of_planner (h : FreshInv s) (hdone : u.planner.reinitDone = s.p.reinitDone)
    (hstart : ∀ req, u.point = .initializing req →
      (s.advancePlanner a (s.planner.advance a u)).context.oldestInit =
          (s.planner.advance a u).initStart ∧
        (s.advancePlanner a (s.planner.advance a u)).context.timelines = [])
    (hack : ∀ req, u.point = .acking req → ∀ ticket, 1 ≤ ticket → ticket ≤ req →
      s.Fresh ticket (s.advancePlanner a (s.planner.advance a u)).seq ∧
        s.Fresh ticket (s.advancePlanner a (s.planner.advance a u)).buf)
    (hplans : ∀ ticket, s.Due ticket → s.FreshPlans ticket →
      (s.advancePlanner a (s.planner.advance a u)).FreshPlans ticket) :
    FreshInv (s.advancePlanner a (s.planner.advance a u)) := by
  have hsame : (s.advancePlanner a (s.planner.advance a u)).p.reinitDone = s.p.reinitDone := hdone
  refine ⟨hstart, fun req hp ticket hpos hle => ?_, fun ticket hdue => ?_, h.waits, fun hent => ?_⟩
  · obtain ⟨hseq, hbuf⟩ := hack req hp ticket hpos hle
    exact ⟨⟨hseq.after, hseq.clean⟩, ⟨hbuf.after, hbuf.clean⟩⟩
  · have hdue' : s.Due ticket := by
      unfold Due at hdue
      rw [hsame] at hdue
      exact hdue.imp id fun ⟨hent, hrest⟩ => ⟨⟨hent.empty, hent.discarded, hent.point⟩, hrest⟩
    exact hplans ticket hdue' (h.due ticket hdue')
  · rw [hsame]
    exact h.entered ⟨hent.empty, hent.discarded, hent.point⟩

/-- A step that publishes nothing, to a point from which nothing is published or acknowledged. -/
theorem FreshInv.of_quiet (h : FreshInv s) (hdone : u.planner.reinitDone = s.p.reinitDone)
    (hpub : s.planner.publishes a = false)
    (hbuf : u.planner.motion50hzBuf.data.isSome = true → s.p.motion50hzBuf.data.isSome = true)
    (hinit : ∀ req, u.point ≠ .initializing req) (hack : ∀ req, u.point ≠ .acking req)
    (hpoint : u.point ≠ .inferring) : FreshInv (s.advancePlanner a (s.planner.advance a u)) :=
  h.of_planner hdone (fun req hp => absurd hp (hinit req)) (fun req hp => absurd hp (hack req))
    fun _ _ hf => hf.of_idle hpub hbuf hpoint

end

/-- A replan is not published when its snapshot was late. -/
def TimelyPublish (s : PlaybackLoops K) (a : Act K) : Prop :=
  s.publishesReplan a = true → s.lateSnapshot = false

instance (s : PlaybackLoops K) (a : Act K) : Decidable (s.TimelyPublish a) :=
  inferInstanceAs (Decidable (_ → _))

theorem FreshInv.of_planner_step (h : FreshInv s) (hl : LoopsInv s) {a : PlannerThread.Act K}
    (hC : s.TimelyPublish (.planner a)) (hstep : s.step (.planner a) = some t) : FreshInv t := by
  have hl' := hl.of_step hstep
  obtain ⟨u, hu, -, rfl⟩ := step_planner hstep
  have hbounds : ∀ {ticket}, s.Due ticket → 1 ≤ ticket ∧ ticket ≤ s.p.reinitDone :=
    fun hdue => hdue.bounds hl h.waits fun hent hzero => (h.entered hent hzero).1
  have hpublish : ∀ engine now, s.plannerAct a = .publish engine now →
      s.planner.publishes (.publish engine now) = true → s.lateSnapshot = false := by
    intro engine now ha
    cases a <;> cases ha
    exact hC
  generalize s.plannerAct a = b at *
  cases hu with
  | load hp =>
    exact h.of_quiet rfl rfl id (by rintro _ ⟨⟩) (by rintro _ ⟨⟩) (by rintro ⟨⟩)
  | clear req hp hdue hinit =>
    exact h.of_quiet rfl rfl (by rintro ⟨⟩) (by rintro _ ⟨⟩) (by rintro _ ⟨⟩) (by rintro ⟨⟩)
  | keep req hp hno =>
    exact h.of_quiet rfl rfl id (by rintro _ ⟨⟩) (by rintro _ ⟨⟩) (by rintro ⟨⟩)
  | noState req hp hinit =>
    exact h.of_quiet rfl rfl id (by rintro _ ⟨⟩) (by rintro _ ⟨⟩) (by rintro ⟨⟩)
  | startInitialize req q hp hinit =>
    exact h.of_planner rfl (fun _ _ => ⟨rfl, rfl⟩) (by rintro _ ⟨⟩) fun ticket _ hf =>
      hf.of_idle rfl id (by rintro ⟨⟩)
  | finishInitialize req engine now hp hok =>
    obtain ⟨-, -, hd, -⟩ := PlannerInference.runAndPublish_ok hok
    have hreq := hl.handshake.loaded req (by rw [Reseed.point, hp]; rfl)
    have hpub : s.planner.publishes (.finishInitialize engine now) = true := hok
    refine h.of_planner hd (by rintro _ ⟨⟩) (fun req' hp' ticket hpos hle => ?_)
      fun ticket hdue hf => ?_
    · cases hp'
      obtain ⟨hseq, hbuf⟩ := fresh_of_publish (h.starting_fresh hl hp hpos hle) hpub
      exact ⟨⟨hseq.after, hseq.clean⟩, ⟨hbuf.after, hbuf.clean⟩⟩
    · obtain ⟨hpos, hle⟩ := hbounds hdue
      have hfresh := h.starting_fresh hl hp hpos (hle.trans hreq.1)
      obtain ⟨hseq, hbuf⟩ := fresh_of_publish hfresh hpub
      exact ⟨hseq, fun _ => hbuf, by rintro ⟨⟩⟩
  | failInitialize req engine now hp hok =>
    exact h.of_quiet rfl hok id (by rintro _ ⟨⟩) (by rintro _ ⟨⟩) (by rintro ⟨⟩)
  | ack req hp =>
    have hreq := hl.handshake.loaded req (by rw [Reseed.point, hp]; rfl)
    have hentered : s.Entered → s.c.stateReseedTicket = 0 →
        1 ≤ s.entryTicket ∧ s.entryTicket ≤ req :=
      fun hent hzero => ⟨(h.entered hent hzero).1, (h.entered hent hzero).2.trans hreq.1⟩
    refine ⟨by rintro _ ⟨⟩, by rintro _ ⟨⟩, fun ticket hdue => ?_, h.waits, fun hent hzero => ?_⟩
    · obtain ⟨hpos, hle⟩ := hdue.bounds hl' h.waits fun hent hzero =>
        (hentered ⟨hent.empty, hent.discarded, hent.point⟩ hzero).1
      obtain ⟨hseq, hbuf⟩ := h.acking req hp ticket hpos hle
      exact ⟨⟨hseq.after, hseq.clean⟩, fun _ => ⟨hbuf.after, hbuf.clean⟩, by rintro ⟨⟩⟩
    · exact hentered ⟨hent.empty, hent.discarded, hent.point⟩ hzero
  | noCommand req hp hinit =>
    exact h.of_quiet rfl rfl id (by rintro _ ⟨⟩) (by rintro _ ⟨⟩) (by rintro ⟨⟩)
  | readCommand req ms hp hinit =>
    obtain ⟨-, -, hd, hb⟩ := (s.p.countPeriod.needReplan_handshake ms).trans
      s.p.countPeriod_handshake
    refine h.of_planner hd (fun _ hp' => ?_) (fun _ hp' => ?_) fun ticket _ hf =>
      hf.of_idle rfl (fun hdata => ?_) fun hp' => ?_
    · dsimp only at hp'
      split at hp' <;> cases hp'
    · dsimp only at hp'
      split at hp' <;> cases hp'
    · rw [← hb]
      exact hdata
    · dsimp only at hp'
      split at hp' <;> cases hp'
  | snapshot ms playback t0 hp =>
    obtain ⟨-, -, hd, hb⟩ := s.p.startReplan_handshake ms playback t0
    refine h.of_planner hd (by rintro _ ⟨⟩) (by rintro _ ⟨⟩) fun ticket hdue hf =>
      ⟨⟨hf.seq.after, hf.seq.clean⟩, fun hdata => ?_, fun _ => ?_⟩
    · have hfresh := hf.buf (by rw [← hb]; exact hdata)
      exact ⟨hfresh.after, hfresh.clean⟩
    · exact (hf.of_snapshot hdue).imp id fun hfresh => ⟨hfresh.after, hfresh.clean⟩
  | publish engine now hp =>
    cases hok : (s.p.runAndPublish engine now).2 with
    | false =>
      rw [PlannerInference.runAndPublish_eq_self hok]
      exact h.of_quiet rfl hok id (by rintro _ ⟨⟩) (by rintro _ ⟨⟩) (by rintro ⟨⟩)
    | true =>
      obtain ⟨-, -, hd, -⟩ := PlannerInference.runAndPublish_ok hok
      refine h.of_planner hd (by rintro _ ⟨⟩) (by rintro _ ⟨⟩) fun ticket _ hf => ?_
      have htimely := hpublish engine now rfl hok
      have hfresh := (hf.context hp).resolve_left (by rw [htimely]; exact Bool.false_ne_true)
      have hpub : s.planner.publishes (.publish engine now) = true := hok
      obtain ⟨hseq, hbuf⟩ := fresh_of_publish hfresh hpub
      exact ⟨hseq, fun _ => hbuf, by rintro ⟨⟩⟩

/-! ## The controller's steps -/

section

variable {r : TickReads K} {t' : ControllerThread K}

theorem Fresh.of_controller {rec : PlanRecord K} (h : s.Fresh ticket rec)
    (hle : ticket ≤ s.p.reinitRequested) : (s.afterController t').Fresh ticket rec :=
  ⟨((keeps_advanceController s).issued ticket hle).trans_lt h.after, h.clean⟩

theorem FreshPlans.of_controller (h : s.FreshPlans ticket) (hle : ticket ≤ s.p.reinitRequested) :
    (s.afterController t').FreshPlans ticket := by
  have hkeeps := keeps_advanceController s
  obtain ⟨hcontext, hseq, hbuf, hlate⟩ := advanceController_records s
  have hcontext : (s.afterController t').context = s.context := hcontext
  have hseq : (s.afterController t').seq = s.seq := hseq
  have hbuf : (s.afterController t').buf = s.buf := hbuf
  have hlate : (s.afterController t').lateSnapshot = s.lateSnapshot := hlate
  refine ⟨?_, fun hdata => ?_, fun hp => ?_⟩
  · rw [hseq]
    exact h.seq.of_controller hle
  · rw [hbuf]
    exact (h.buf (hkeeps.buf ▸ hdata)).of_controller hle
  · rw [hcontext, hlate]
    exact (h.context (hkeeps.point.symm.trans hp)).imp id fun hfresh => hfresh.of_controller hle

theorem afterController_entry (hd : s.controller.point ≠ .discarding)
    (hq : s.controller.point ≠ .requesting) (hl : s.controller.point.leaves = false) :
    (s.afterController t').timeline = s.timeline ∧
      (s.afterController t').entryTicket = s.entryTicket :=
  advanceController_entry hd hq hl

theorem afterController_discarding (h : s.controller.point = .discarding) :
    (s.afterController t').entryTicket = s.entryTicket := by
  unfold afterController advanceController
  rw [h]

theorem afterController_requesting (h : s.controller.point = .requesting) :
    (s.afterController t').entryTicket = s.p.reinitRequested + 1 := by
  unfold afterController advanceController
  rw [h]
  rfl

theorem afterController_leaving (h : s.controller.point = .leaving) :
    (s.afterController t').entryTicket = s.c.reinitTicket := by
  unfold afterController advanceController
  rw [h]

/-- No re-entry becomes due by a step of the controller. -/
theorem Due.of_controller (hl : LoopsInv s) (hf : Reenters (s.feed r) s.controller t')
    (h : (s.afterController t').Due ticket) : s.Due ticket := by
  have hdone : (s.afterController t').p.reinitDone = s.p.reinitDone :=
    (keeps_advanceController s).done
  have hnext : s.p.reinitDone < s.p.reinitRequested + 1 := Nat.lt_succ_of_le hl.handshake.done_le
  unfold Due at h
  rw [hdone] at h
  rcases h with ⟨hdue, rfl⟩ | ⟨⟨hempty, hdiscarded, hpoint⟩, hle, rfl⟩
  · obtain ⟨hdue', hticket⟩ := hf.discardDue rfl hnext hdue
    exact Or.inl ⟨hdue', hticket⟩
  · have hsame : s.controller.point ≠ .discarding → s.controller.point ≠ .requesting →
        s.controller.point.leaves = false → s.c.playbackMotion.timesteps = 0 →
        s.Due (s.afterController t').entryTicket := by
      intro hd hq hleaves hempty'
      have hkept : (s.afterController t').timeline = s.timeline ∧
          (s.afterController t').entryTicket = s.entryTicket :=
        afterController_entry hd hq hleaves
      obtain ⟨htimeline, hticket⟩ := hkept
      exact Or.inr ⟨⟨hempty', hdiscarded.trans htimeline.le, hq⟩, hle, hticket⟩
    generalize hcur : s.controller = cur at hf hsame
    have hc : s.c = cur.controller := congrArg _ hcur
    rw [hc] at hsame
    cases hf with
    | quiet hkept hp hleaves hq =>
      obtain ⟨hd, hq', hl'⟩ := ControllerPoint.of_not_reenters hp
      exact hsame hd hq' hl' (hkept.playback ▸ hempty)
    | discard c => exact absurd rfl hpoint
    | request c =>
      rw [afterController_requesting (congrArg _ hcur)] at hle
      omega
    | acked c hw => exact hsame nofun nofun rfl hempty
    | leave c hw => exact hsame nofun nofun rfl ((decideOwner_entry c _).1 ▸ hempty)
    | decide c hw => exact hsame nofun nofun rfl ((decideOwner_entry c _).1 ▸ hempty)
    | origin c =>
      refine Or.inl ⟨discardDue_iff.mpr (Or.inr ?_), afterController_leaving (congrArg _ hcur)⟩
      rw [hcur]
      rfl
    | reseed c c' token hkept => exact hsame nofun nofun rfl (hkept.playback ▸ hempty)
    | advance c => exact hsame nofun nofun rfl (advancePlayback_empty hempty)

/-- The ticket of the last re-entry after a step of the controller. -/
theorem FreshInv.entry_of_controller (h : FreshInv s) (hl : LoopsInv s)
    (hf : Reenters (s.feed r) s.controller t') :
    (t'.controller.stateReseedTicket ≠ 0 →
        (s.afterController t').entryTicket = t'.controller.stateReseedTicket) ∧
      ((s.afterController t').Entered → t'.controller.stateReseedTicket = 0 →
        1 ≤ (s.afterController t').entryTicket ∧
          (s.afterController t').entryTicket ≤ s.p.reinitDone) := by
  have hkeep : s.controller.point ≠ .discarding → s.controller.point ≠ .requesting →
      s.controller.point.leaves = false →
      t'.controller.stateReseedTicket = s.c.stateReseedTicket →
      (t'.controller.playbackMotion.timesteps = 0 → s.c.playbackMotion.timesteps = 0) →
      (t'.controller.stateReseedTicket ≠ 0 →
          (s.afterController t').entryTicket = t'.controller.stateReseedTicket) ∧
        ((s.afterController t').Entered → t'.controller.stateReseedTicket = 0 →
          1 ≤ (s.afterController t').entryTicket ∧
            (s.afterController t').entryTicket ≤ s.p.reinitDone) := by
    intro hd hq hleaves hstate hempty
    have hkept : (s.afterController t').timeline = s.timeline ∧
        (s.afterController t').entryTicket = s.entryTicket :=
      afterController_entry hd hq hleaves
    obtain ⟨htimeline, hticket⟩ := hkept
    rw [hticket, hstate]
    refine ⟨h.waits, fun hent => h.entered ⟨hempty hent.empty, ?_, hq⟩⟩
    exact hent.discarded.trans htimeline.le
  have hpoint := hl.entry.point
  generalize hcur : s.controller = cur at hf hkeep hpoint
  have hc : s.c = cur.controller := congrArg _ hcur
  rw [hc] at hkeep
  cases hf with
  | quiet hkept hp hleaves hq =>
    obtain ⟨hd, hq', hl'⟩ := ControllerPoint.of_not_reenters hp
    exact hkeep hd hq' hl' hkept.stateTicket (hkept.playback ▸ id)
  | discard c =>
    refine ⟨fun hne => ?_, fun hent => absurd rfl hent.point⟩
    rw [afterController_discarding (congrArg _ hcur)]
    have hwaits := h.waits
    rw [hc] at hwaits
    exact hwaits hne
  | request c =>
    refine ⟨fun _ => ?_, fun _ hzero => absurd hzero (Nat.succ_ne_zero _)⟩
    exact afterController_requesting (congrArg _ hcur)
  | acked c hw =>
    refine ⟨fun hne => absurd rfl hne, fun hent _ => ?_⟩
    have hpoint' : s.controller.point = .waiting := congrArg _ hcur
    have hkept : ∀ t', (s.afterController t').timeline = s.timeline ∧
        (s.afterController t').entryTicket = s.entryTicket := by
      intro t'
      exact afterController_entry (by rw [hpoint']; rintro ⟨⟩) (by rw [hpoint']; rintro ⟨⟩)
        (by rw [hpoint']; rfl)
    rw [(hkept _).2]
    by_cases hzero : s.c.stateReseedTicket = 0
    · refine h.entered ⟨hc ▸ hent.empty, hent.discarded.trans (hkept _).1.le, ?_⟩ hzero
      rw [hpoint']
      rintro ⟨⟩
    · -- the wait was for this ticket, and it is over
      rw [h.waits hzero]
      rw [hc] at hzero ⊢
      have hpos : c.stateReseedTicket ≠ 0 := hzero
      rw [awaitsReseed, decide_eq_true hpos, Bool.true_and, decide_eq_false_iff_not] at hw
      exact ⟨Nat.one_le_iff_ne_zero.mpr hpos, not_lt.mp hw⟩
  | leave c hw =>
    obtain ⟨hplay, -, hstate, -⟩ := decideOwner_entry c (s.feed r)
    exact hkeep (by rintro ⟨⟩) (by rintro ⟨⟩) rfl hstate (hplay ▸ id)
  | decide c hw =>
    obtain ⟨hplay, -, hstate, -⟩ := decideOwner_entry c (s.feed r)
    exact hkeep (by rintro ⟨⟩) (by rintro ⟨⟩) rfl hstate (hplay ▸ id)
  | origin c =>
    obtain ⟨hzero, hpos, hle⟩ := hpoint
    refine ⟨fun hne => absurd hzero hne, fun _ _ => ?_⟩
    rw [afterController_leaving (congrArg _ hcur), hc]
    exact ⟨hpos, hle⟩
  | reseed c c' token hkept =>
    exact hkeep (by rintro ⟨⟩) (by rintro ⟨⟩) rfl hkept.stateTicket (hkept.playback ▸ id)
  | advance c =>
    exact hkeep (by rintro ⟨⟩) (by rintro ⟨⟩) rfl (advancePlayback_entry c _).1
      advancePlayback_empty

theorem FreshInv.of_controller (h : FreshInv s) (hl : LoopsInv s)
    (hf : Reenters (s.feed r) s.controller t') : FreshInv (s.afterController t') := by
  have hkeeps := keeps_advanceController s
  have hdone : (s.afterController t').p.reinitDone = s.p.reinitDone := hkeeps.done
  obtain ⟨hcontext, hseq, hbuf, -⟩ := advanceController_records s
  have hcontext : (s.afterController t').context = s.context := hcontext
  have hseq : (s.afterController t').seq = s.seq := hseq
  have hbuf : (s.afterController t').buf = s.buf := hbuf
  refine ⟨fun req hp => ?_, fun req hp ticket hpos hle => ?_, fun ticket hdue => ?_, ?_, ?_⟩
  · rw [hcontext]
    have hstart := h.starting req (hkeeps.point.symm.trans hp)
    exact ⟨hstart.1.trans hkeeps.initStart.symm, hstart.2⟩
  · have hp' : s.planner.point = .acking req := hkeeps.point.symm.trans hp
    have hreq := hl.handshake.loaded req (by rw [hp']; rfl)
    obtain ⟨hfresh, hfresh'⟩ := h.acking req hp' ticket hpos hle
    rw [hseq, hbuf]
    exact ⟨hfresh.of_controller (hle.trans hreq.2), hfresh'.of_controller (hle.trans hreq.2)⟩
  · have hdue' : s.Due ticket := hdue.of_controller hl hf
    obtain ⟨-, hle⟩ := hdue'.bounds hl h.waits fun hent hzero => (h.entered hent hzero).1
    exact (h.due ticket hdue').of_controller (hle.trans hl.handshake.done_le)
  · exact (h.entry_of_controller hl hf).1
  · rw [hdone]
    exact (h.entry_of_controller hl hf).2

end

/-! ## Over runs -/

theorem FreshInv.init (auto : Bool) : FreshInv (start auto : PlaybackLoops K) where
  starting := nofun
  acking := nofun
  due ticket hdue := by
    rcases hdue with ⟨hdue, -⟩ | ⟨hent, -⟩
    · cases hdue
    · exact absurd hent.discarded (Nat.not_succ_le_zero 0)
  waits hne := absurd rfl hne
  entered hent := absurd hent.discarded (Nat.not_succ_le_zero 0)

/-- The step lemma. -/
theorem FreshInv.of_step (h : FreshInv s) (hl : LoopsInv s) {a : Act K} (hC : s.TimelyPublish a)
    (hstep : s.step a = some t) : FreshInv t := by
  cases a with
  | planner a => exact h.of_planner_step hl hC hstep
  | controller r =>
    cases hstep
    exact h.of_controller hl (ControllerThread.fires_next s.controller (s.feed r)).reenters

theorem invariants_of_reachable {auto : Bool}
    (h : Transition.Reachable step TimelyPublish (start auto) s) : LoopsInv s ∧ FreshInv s := by
  refine h.invariant (I := fun s => LoopsInv s ∧ FreshInv s) ⟨.init auto, .init auto⟩ ?_
  intro s a t hinv hC hstep
  exact ⟨hinv.1.of_step hstep, hinv.2.of_step hinv.1 hC hstep⟩

/-- Where no replan with a late snapshot is published: the new motion that the controller
takes into a discarded playback was generated from contexts without a frame of an earlier
timeline, and their chain began after the reseed was requested. -/
theorem discarded_timeline_gone {auto : Bool}
    (h : Transition.Reachable step TimelyPublish (start auto) s)
    (hpoint : s.controller.point = .advancing) (hdiscarded : 1 ≤ s.timeline)
    (hempty : s.c.playbackMotion.timesteps = 0)
    (hplan : s.c.newPlan s.p.motion50hzBuf.getDataWithTime = true) :
    (∀ n ∈ s.buf.timelines, s.timeline ≤ n) ∧
      s.planner.issued s.entryTicket < s.buf.oldestInit := by
  obtain ⟨hl, hs⟩ := invariants_of_reachable h
  have hentry := hl.entry.point
  rw [hpoint] at hentry
  have hent : s.Entered := ⟨hempty, hdiscarded, by rw [hpoint]; nofun⟩
  have hdue : s.Due s.entryTicket := Or.inr ⟨hent, (hs.entered hent hentry.1).2, rfl⟩
  have hdata : s.p.motion50hzBuf.data.isSome = true := by
    simp only [newPlan, TimestampedData.hasData, DataBuffer.getDataWithTime_data,
      Bool.and_eq_true] at hplan
    exact hplan.1
  obtain ⟨hafter, hclean⟩ := (hs.due _ hdue).buf hdata
  refine ⟨fun n hn => ?_, hafter⟩
  rw [hclean] at hn
  cases hn

/-! ## One recovery, with and without the late replan -/

/-- The robot is present, and so is the first sample of a token stream. -/
def claimReads : TickReads ℚ := { presentReads with vla := ⟨some {}, 1⟩ }

/-- After the first adoption the claim of the stream, its loss and 50 ticks of the standing
blend with the reseed request in the last one, and the reseed. -/
def recoveryRun : List (Act ℚ) :=
  adoptionRun ++ List.replicate 7 (.controller claimReads) ++
    List.replicate (50 * 7 + 1) (.controller presentReads) ++ seedRun

/-- One iteration of the planner that replans for a walk. -/
def replanRun : List (Act ℚ) :=
  [.planner .load, .planner .clear, .planner (.readCommand (some { locomotionMode := 2 })),
    .planner (.snapshot none 0), .planner (.publish (some standingOutput) 2)]

/-- The way from the top of the loop to the adoption, through the end of the recovery. -/
def handBack : List (Act ℚ) := List.replicate 7 (.controller presentReads)

/-- The controller is about to take a new plan into a discarded playback. -/
def seeding (s : PlaybackLoops ℚ) : Bool :=
  s.controller.point.advances && decide (1 ≤ s.timeline) &&
    decide (s.c.playbackMotion.timesteps = 0) && s.c.newPlan s.p.motion50hzBuf.getDataWithTime

theorem seeding_iff {s : PlaybackLoops ℚ} : s.seeding = true ↔
    s.controller.point = .advancing ∧ 1 ≤ s.timeline ∧ s.c.playbackMotion.timesteps = 0 ∧
      s.c.newPlan s.p.motion50hzBuf.getDataWithTime = true := by
  simp only [seeding, Bool.and_eq_true, decide_eq_true_eq, ControllerPoint.advances_iff, and_assoc]

theorem discarded_timeline_gone_recovery : ∃ s : PlaybackLoops ℚ,
    Transition.run step (start true) (recoveryRun ++ handBack) = some s ∧
      (∀ n ∈ s.buf.timelines, s.timeline ≤ n) ∧
      s.planner.issued s.entryTicket < s.buf.oldestInit := by
  have halong : Transition.Along step TimelyPublish (start true) (recoveryRun ++ handBack) := by
    decide +kernel
  have hrun : (Transition.run step (start true) (recoveryRun ++ handBack)).any seeding = true := by
    decide +kernel
  obtain ⟨s, hs, hseeding⟩ := (Option.any_eq_true _ _).mp hrun
  obtain ⟨hpoint, hdiscarded, hempty, hplan⟩ := seeding_iff.mp hseeding
  exact ⟨s, hs, discarded_timeline_gone (Transition.reachable_of_along halong hs) hpoint
    hdiscarded hempty hplan⟩

/-- Between the acknowledged reseed and the discard the planner replans from the frozen
playback, and the controller adopts that plan. -/
theorem late_replan_adopted : ∃ s : PlaybackLoops ℚ,
    Transition.Reachable step Transition.Always (start true) s ∧
      s.controller.point = .advancing ∧ 1 ≤ s.timeline ∧
      s.c.playbackMotion.timesteps = 0 ∧
      s.c.newPlan s.p.motion50hzBuf.getDataWithTime = true ∧
      ∃ n ∈ s.buf.timelines, n < s.timeline := by
  have hrun : (Transition.run step (start true) (recoveryRun ++ replanRun ++ handBack)).any
      (fun s => s.seeding && s.buf.timelines.any fun n => decide (n < s.timeline)) = true := by
    decide +kernel
  obtain ⟨s, hs, hseeding⟩ := Transition.reachable_of_run_any hrun
  rw [Bool.and_eq_true, List.any_eq_true] at hseeding
  obtain ⟨hpoint, hdiscarded, hempty, hplan⟩ := seeding_iff.mp hseeding.1
  obtain ⟨n, hn, hlt⟩ := hseeding.2
  exact ⟨s, hs, hpoint, hdiscarded, hempty, hplan, n, hn, by simpa using hlt⟩

end PlaybackLoops

end Gearsonic
