import Gearsonic.System.PlaybackLoops

/-!
# The timeline of a blended plan

A replan takes its context from frame `cursor + 2` of the playback it is given, and the
controller blends the plan in at that frame number. An adoption rebases the numbers, and
nothing in a plan says which playback its own number is of.

* `BlendInv`: what the planner holds of the current playback.
* `blended_on_own_timeline`: where no replan is published that saw an adoption between its
  snapshot and its publication, every plan is blended on the playback it was generated for.
-/

set_option linter.unusedSectionVars false

namespace Gearsonic

variable {K : Type} [Field K] [LinearOrder K] [CMath K]

open WholeBodyController

/-- A plan in the buffer has been taken or dropped once the playback has advanced. -/
theorem advancePlayback_stamp {c : WholeBodyController K}
    {plan : TimestampedData (MotionSequence50Hz K)} :
    (c.advancePlayback plan).newPlan plan = false := by
  have hcursor : ∀ c : WholeBodyController K, c.advanceCursor.lastPlanStamp = c.lastPlanStamp := by
    intro c
    obtain ⟨_, h⟩ := c.advanceCursor_frame
    rw [h]
  have hadopt : ∀ gen stamp, (c.adoptPlan gen stamp).lastPlanStamp = stamp := by
    intro gen stamp
    obtain ⟨_, _, _, _, h⟩ := c.adoptPlan_frame gen stamp
    rw [h]
  unfold newPlan advancePlayback
  rw [hcursor]
  cases hdata : plan.data with
  | none => simp [TimestampedData.hasData, hdata]
  | some gen =>
    dsimp only
    split
    · simp [hadopt]
    · rename_i heq
      simp [not_not.mp heq]

namespace PlaybackLoops

variable {s t : PlaybackLoops K}

/-- An advance that takes nothing leaves the motion. -/
theorem advancePlayback_of_not_adopts (h : s.adopts = false) :
    (s.c.advancePlayback s.p.motion50hzBuf.getDataWithTime).playbackMotion =
      s.c.playbackMotion := by
  unfold advancePlayback
  rw [advanceCursor_playbackMotion, DataBuffer.getDataWithTime_data]
  unfold adopts newPlan TimestampedData.hasData at h
  rw [DataBuffer.getDataWithTime_data] at h
  cases hdata : s.p.motion50hzBuf.data with
  | none => rfl
  | some gen =>
    dsimp only
    split
    · rename_i hne
      simp only [hdata, Option.isSome_some, hne, ne_eq, not_false_eq_true, decide_true,
        Bool.true_and, Bool.or_eq_false_iff, decide_eq_false_iff_not] at h
      unfold adoptPlan
      dsimp only
      rw [if_neg h.1, if_neg h.2]
    · rfl

/-- The motion after an advance that takes the plan. -/
theorem advancePlayback_of_adopts (h : s.adopts = true) {gen : MotionSequence50Hz K}
    (hgen : s.p.motion50hzBuf.data = some gen) :
    (s.c.advancePlayback s.p.motion50hzBuf.getDataWithTime).playbackMotion =
      if s.c.playbackMotion.timesteps = 0 then gen
      else blendPlayback s.c.playbackMotion gen s.c.cursor := by
  unfold adopts newPlan at h
  rw [hgen] at h
  simp only [Bool.and_eq_true, Bool.or_eq_true, decide_eq_true_eq] at h
  obtain ⟨⟨-, hstamp⟩, htaken⟩ := h
  unfold advancePlayback
  rw [advanceCursor_playbackMotion, DataBuffer.getDataWithTime_data, hgen]
  dsimp only
  rw [if_pos hstamp]
  unfold adoptPlan
  dsimp only
  by_cases hempty : s.c.playbackMotion.timesteps = 0
  · rw [if_pos hempty, if_pos hempty]
  · rw [if_neg hempty, if_neg hempty, if_pos (htaken.resolve_left hempty)]

/-! ## Plans of the current playback -/

/-- The plan's context is from the current playback, at the plan's own frame number. -/
structure OnTimeline (s : PlaybackLoops K) (rec : PlanRecord K) (genFrame : Int) : Prop where
  snapshot : ∃ cursor, rec.snapshot = some (s.timeline, s.c.playbackMotion, cursor) ∧
    genFrame = cursor + kLookAheadSteps
  context : rec.context = updateContextFromMotion genFrame s.c.playbackMotion
  adoptions : rec.adoptions = s.adoptions

/-- The recovery has asked for its reseed and has not discarded the playback yet. -/
def Reseeding (t : ControllerThread K) : Prop :=
  (t.controller.arbiter.mode = .recovering ∧ t.controller.reinitTicketIssued = true) ∨
    t.point.leaves = true

structure BlendInv (s : PlaybackLoops K) : Prop where
  unseeded : s.p.initialized = false →
    s.c.playbackMotion.timesteps = 0 ∨ s.p.reinitDone < s.p.reinitRequested
  earlier : s.context.adoptions ≤ s.adoptions
  inferring : s.planner.point = .inferring → s.context.adoptions = s.adoptions →
    s.c.playbackMotion.timesteps = 0 ∨ s.OnTimeline s.context s.p.genFrame
  buf : ∀ gen, s.p.motion50hzBuf.data = some gen →
    s.c.newPlan s.p.motion50hzBuf.getDataWithTime = true →
    s.c.playbackMotion.timesteps = 0 ∨ s.OnTimeline s.buf gen.genFrame ∨ Reseeding s.controller

theorem BlendInv.init (auto : Bool) : BlendInv (start auto : PlaybackLoops K) where
  unseeded _ := Or.inl rfl
  earlier := le_rfl
  inferring := nofun
  buf := nofun

/-! ## The planner's steps -/

section

variable {a : PlannerThread.Act K} {u : PlannerThread K}

/-- A step that publishes nothing and starts no inference. -/
theorem BlendInv.of_idle (h : BlendInv s) (hpub : s.planner.publishes a = false)
    (hunseeded : u.planner.initialized = false →
      s.c.playbackMotion.timesteps = 0 ∨ u.planner.reinitDone < u.planner.reinitRequested)
    (hcontext : (s.advancePlanner a (s.planner.advance a u)).context.adoptions ≤ s.adoptions)
    (hpoint : u.point ≠ .inferring)
    (hbuf : u.planner.motion50hzBuf.data = none ∨
      u.planner.motion50hzBuf = s.p.motion50hzBuf) :
    BlendInv (s.advancePlanner a (s.planner.advance a u)) := by
  refine ⟨hunseeded, hcontext, fun hp => absurd hp hpoint, fun gen hgen hplan => ?_⟩
  have hgen : u.planner.motion50hzBuf.data = some gen := hgen
  have hplan : s.c.newPlan u.planner.motion50hzBuf.getDataWithTime = true := hplan
  rcases hbuf with hnone | hsame
  · rw [hnone] at hgen
    cases hgen
  · rw [hsame] at hgen hplan
    have hrec : (s.advancePlanner a (s.planner.advance a u)).buf = s.buf := by
      simp only [advancePlanner, hpub, Bool.false_eq_true, if_false]
    rw [hrec]
    refine (h.buf gen hgen hplan).imp id fun hrest => hrest.imp (fun hon => ?_) id
    exact ⟨hon.snapshot, hon.context, hon.adoptions⟩

end

/-- No plan is adopted between the snapshot of a replan and its publication. -/
def UninterruptedReplan (s : PlaybackLoops K) (a : Act K) : Prop :=
  s.publishesReplan a = true → s.context.adoptions = s.adoptions

instance (s : PlaybackLoops K) (a : Act K) : Decidable (s.UninterruptedReplan a) :=
  inferInstanceAs (Decidable (_ → _))

/-- The motion that a publication leaves behind has the planner's frame number. -/
theorem runAndPublish_genFrame {p : PlannerInference K} {engine : Option (EngineOutput K)}
    {now : TimePoint} {gen : MotionSequence50Hz K} (hok : (p.runAndPublish engine now).2 = true)
    (hgen : (p.runAndPublish engine now).1.motion50hzBuf.data = some gen) :
    gen.genFrame = p.genFrame := by
  unfold PlannerInference.runAndPublish at hok hgen
  split at hok
  · cases hok
  · rename_i seq hseq
    rw [hseq] at hgen
    cases hgen
    rfl

theorem snapshotRecord_adoptions (s : PlaybackLoops K) {context : Fin 4 → Fin 36 → K} :
    (s.snapshotRecord context).adoptions = s.adoptions := by
  unfold snapshotRecord
  split <;> rfl

/-- The context of a replan that starts now is from the current playback. -/
theorem onTimeline_snapshot (hne : s.c.playbackMotion.timesteps ≠ 0) (ms : MovementState K)
    (t0 : TimePoint) :
    s.OnTimeline (s.snapshotRecord (s.p.startReplan ms s.c.playbackSnapshot t0).context)
      (s.p.startReplan ms s.c.playbackSnapshot t0).genFrame := by
  have hsome : s.c.playbackSnapshot = some (s.c.playbackMotion, s.c.cursor) := if_neg hne
  unfold snapshotRecord
  rw [hsome]
  exact ⟨⟨s.c.cursor, rfl, rfl⟩, rfl, rfl⟩

theorem BlendInv.of_planner_step (h : BlendInv s) (hl : LoopsInv s) {a : PlannerThread.Act K}
    (hC : s.UninterruptedReplan (.planner a)) (hstep : s.step (.planner a) = some t) :
    BlendInv t := by
  obtain ⟨u, hu, -, rfl⟩ := step_planner hstep
  have hsnap : ∀ playback t0, s.plannerAct a = .snapshot playback t0 →
      playback = s.c.playbackSnapshot := fun _ _ => plannerAct_snapshot
  have hpublish : ∀ engine now, s.plannerAct a = .publish engine now →
      s.planner.publishes (.publish engine now) = true → s.context.adoptions = s.adoptions := by
    intro engine now ha
    cases a <;> cases ha
    exact hC
  generalize s.plannerAct a = b at *
  cases hu with
  | load hp => exact h.of_idle rfl h.unseeded h.earlier (by rintro ⟨⟩) (Or.inr rfl)
  | clear req hp hdue hinit =>
    obtain ⟨hle, hle'⟩ := hl.handshake.loaded req (by rw [Reseed.point, hp]; rfl)
    have hlt : s.p.reinitDone < req := lt_of_le_of_ne hle (Ne.symm hdue)
    exact h.of_idle rfl (fun _ => Or.inr (hlt.trans_le hle')) h.earlier (by rintro ⟨⟩)
      (Or.inl rfl)
  | keep req hp hno => exact h.of_idle rfl h.unseeded h.earlier (by rintro ⟨⟩) (Or.inr rfl)
  | noState req hp hinit => exact h.of_idle rfl h.unseeded h.earlier (by rintro ⟨⟩) (Or.inr rfl)
  | startInitialize req q hp hinit =>
    exact h.of_idle rfl h.unseeded le_rfl (by rintro ⟨⟩) (Or.inr rfl)
  | finishInitialize req engine now hp hok =>
    refine ⟨by rintro ⟨⟩, h.earlier, by rintro ⟨⟩, fun gen hgen hplan => ?_⟩
    -- the planner was not initialized, so either nothing is played or a reseed is awaited
    have hinit : s.p.initialized = false := (hl.handshake.starting req hp).1
    rcases h.unseeded hinit with hempty | hlt
    · exact Or.inl hempty
    · rcases hl.entry.pending hlt with ⟨-, hempty⟩ | ⟨hm, hi, -⟩
      · exact Or.inl hempty
      · exact Or.inr (Or.inr (Or.inl ⟨hm, hi⟩))
  | failInitialize req engine now hp hok =>
    exact h.of_idle hok h.unseeded h.earlier (by rintro ⟨⟩) (Or.inr rfl)
  | ack req hp =>
    have hinit : s.p.initialized = true := (hl.handshake.acking req hp).1
    exact h.of_idle rfl (fun hno => Bool.noConfusion (hinit.symm.trans hno)) h.earlier
      (by rintro ⟨⟩) (Or.inr rfl)
  | noCommand req hp hinit => exact h.of_idle rfl h.unseeded h.earlier (by rintro ⟨⟩) (Or.inr rfl)
  | readCommand req ms hp hinit =>
    obtain ⟨hi, hr, hd, hb⟩ := (s.p.countPeriod.needReplan_handshake ms).trans
      s.p.countPeriod_handshake
    refine h.of_idle rfl ?_ h.earlier ?_ (Or.inr hb)
    · dsimp only
      rw [hi, hr, hd]
      exact h.unseeded
    · dsimp only
      split <;> rintro ⟨⟩
  | snapshot ms playback t0 hp =>
    obtain ⟨hi, hr, hd, hb⟩ := s.p.startReplan_handshake ms playback t0
    obtain rfl := hsnap playback t0 rfl
    refine ⟨fun hno => ?_, ?_, fun _ _ => ?_, fun gen hgen hplan => ?_⟩
    · have hdone := h.unseeded (hi.symm.trans hno)
      exact hdone.imp id fun hlt => hd.trans_lt (hlt.trans_le hr.ge)
    · exact (snapshotRecord_adoptions s).le
    · by_cases hempty : s.c.playbackMotion.timesteps = 0
      · exact Or.inl hempty
      · have hon := onTimeline_snapshot hempty ms t0
        exact Or.inr ⟨hon.snapshot, hon.context, hon.adoptions⟩
    · have hgen : (s.p.startReplan ms s.c.playbackSnapshot t0).motion50hzBuf.data = some gen := hgen
      have hplan : s.c.newPlan
          (s.p.startReplan ms s.c.playbackSnapshot t0).motion50hzBuf.getDataWithTime = true := hplan
      rw [hb] at hgen hplan
      refine (h.buf gen hgen hplan).imp id fun hrest => hrest.imp (fun hon => ?_) id
      exact ⟨hon.snapshot, hon.context, hon.adoptions⟩
  | publish engine now hp =>
    cases hok : (s.p.runAndPublish engine now).2 with
    | false =>
      rw [PlannerInference.runAndPublish_eq_self hok]
      exact h.of_idle hok h.unseeded h.earlier (by rintro ⟨⟩) (Or.inr rfl)
    | true =>
      obtain ⟨hi, hr, hd, -⟩ := PlannerInference.runAndPublish_ok hok
      have hpub : s.planner.publishes (.publish engine now) = true := hok
      refine ⟨fun hno => ?_, h.earlier, by rintro ⟨⟩, fun gen hgen hplan => ?_⟩
      · have hdone := h.unseeded (hi.symm.trans hno)
        exact hdone.imp id fun hlt => hd.trans_lt (hlt.trans_le hr.ge)
      · have hframe : gen.genFrame = s.p.genFrame := runAndPublish_genFrame hok hgen
        have hrec : ∀ u, (s.advancePlanner (.publish engine now) u).buf = s.context := by
          intro u
          simp only [advancePlanner, hpub, if_true]
        rw [hrec, hframe]
        refine (h.inferring hp (hpublish engine now rfl hpub)).imp id fun hon => Or.inl ?_
        exact ⟨hon.snapshot, hon.context, hon.adoptions⟩

/-! ## The controller's steps -/

section

variable {r : TickReads K} {t' : ControllerThread K}

theorem adoptions_le_afterController : s.adoptions ≤ (s.afterController t').adoptions := by
  unfold afterController advanceController adopt
  split <;> dsimp only
  all_goals try exact le_rfl
  split
  · split <;> exact Nat.le_succ _
  · exact le_rfl

/-- A step that discards nothing and takes nothing. -/
theorem BlendInv.of_kept (h : BlendInv s) (htimeline : s.advanceController.timeline = s.timeline)
    (hadoptions : s.advanceController.adoptions = s.adoptions)
    (hplay : t'.controller.playbackMotion = s.c.playbackMotion)
    (hplan : t'.controller.newPlan s.p.motion50hzBuf.getDataWithTime = true →
      s.c.newPlan s.p.motion50hzBuf.getDataWithTime = true)
    (hreseeding : Reseeding s.controller → Reseeding t') : BlendInv (s.afterController t') := by
  have hkeeps := keeps_advanceController s
  obtain ⟨hcontext, -, hbuf, -⟩ := advanceController_records s
  have hplay' : (s.afterController t').c.playbackMotion = s.c.playbackMotion := hplay
  have hon : ∀ {rec g}, s.OnTimeline rec g → (s.afterController t').OnTimeline rec g := by
    intro rec g hon
    obtain ⟨cursor, hsnap, hg⟩ := hon.snapshot
    refine ⟨⟨cursor, ?_, hg⟩, ?_, hon.adoptions.trans hadoptions.symm⟩
    · rw [hsnap, hplay', show (s.afterController t').timeline = s.timeline from htimeline]
    · rw [hplay']
      exact hon.context
  refine ⟨fun hno => ?_, ?_, fun hp heq => ?_, fun gen hgen hnew => ?_⟩
  · rw [hplay']
    have hdone := h.unseeded (hkeeps.initialized.symm.trans hno)
    exact hdone.imp id fun hlt => hkeeps.done.trans_lt (hlt.trans_le hkeeps.requested)
  · exact (congrArg PlanRecord.adoptions hcontext).trans_le (h.earlier.trans hadoptions.ge)
  · have hcontext' : (s.afterController t').context = s.context := hcontext
    have hframe : (s.afterController t').p.genFrame = s.p.genFrame := hkeeps.genFrame
    rw [hcontext'] at heq ⊢
    rw [hplay', hframe]
    exact (h.inferring (hkeeps.point.symm.trans hp) (heq.trans hadoptions)).imp id hon
  · have hrec : (s.afterController t').buf = s.buf := hbuf
    have hdata : (s.afterController t').p.motion50hzBuf = s.p.motion50hzBuf := hkeeps.buf
    rw [hdata] at hgen hnew
    rw [hplay', hrec]
    exact (h.buf gen hgen (hplan hnew)).imp id fun hrest => hrest.imp hon hreseeding

/-- A step into an empty playback. -/
theorem BlendInv.of_emptied (h : BlendInv s) (hempty : t'.controller.playbackMotion.timesteps = 0) :
    BlendInv (s.afterController t') := by
  have hcontext : (s.afterController t').context = s.context := (advanceController_records s).1
  refine ⟨fun _ => Or.inl hempty, ?_, fun _ _ => Or.inl hempty, fun _ _ _ => Or.inl hempty⟩
  rw [hcontext]
  exact h.earlier.trans adoptions_le_afterController

theorem afterController_advancing (h : s.controller.point = .advancing) :
    (s.afterController t').timeline = s.timeline ∧
      (s.afterController t').adoptions = if s.adopts then s.adoptions + 1 else s.adoptions := by
  unfold afterController advanceController
  rw [h]
  dsimp only
  by_cases hadopts : s.adopts = true
  · rw [if_pos hadopts, if_pos hadopts]
    unfold adopt
    split <;> exact ⟨rfl, rfl⟩
  · rw [if_neg hadopts, if_neg hadopts]
    exact ⟨rfl, rfl⟩

/-- Plans are taken outside a recovery only. -/
theorem not_reseeding (hl : LoopsInv s) (hpoint : s.controller.point = .advancing) :
    ¬ Reseeding s.controller := by
  have hentry := hl.entry.point
  rw [hpoint] at hentry
  rintro (⟨hm, -⟩ | hleaves)
  · have hout := hentry.2
    rw [hm] at hout
    cases hout
  · rw [hpoint] at hleaves
    cases hleaves

/-- The step that takes or drops the plan in the buffer. -/
theorem BlendInv.of_advance (h : BlendInv s) (hl : LoopsInv s)
    (hpoint : s.controller.point = .advancing)
    (ht : t'.controller = s.c.advancePlayback s.p.motion50hzBuf.getDataWithTime) :
    BlendInv (s.afterController t') := by
  have hkeeps := keeps_advanceController s
  have hmoved : (s.afterController t').timeline = s.timeline ∧
      (s.afterController t').adoptions = if s.adopts then s.adoptions + 1 else s.adoptions :=
    afterController_advancing hpoint
  obtain ⟨htimeline, hadoptions⟩ := hmoved
  have hold : t'.controller.newPlan s.p.motion50hzBuf.getDataWithTime = false := by
    rw [ht]
    exact advancePlayback_stamp
  cases hadopts : s.adopts with
  | false =>
    rw [hadopts, if_neg Bool.false_ne_true] at hadoptions
    refine h.of_kept htimeline hadoptions ?_ (fun hnew => ?_) fun hreseeding => ?_
    · rw [ht]
      exact advancePlayback_of_not_adopts hadopts
    · exact Bool.noConfusion (hold.symm.trans hnew)
    · exact absurd hreseeding (not_reseeding hl hpoint)
  | true =>
    have hcontext : (s.afterController t').context = s.context := (advanceController_records s).1
    rw [hadopts, if_pos rfl] at hadoptions
    refine ⟨fun hno => ?_, ?_, fun hp heq => ?_, fun gen hgen hnew => ?_⟩
    · have hnone := hl.handshake.empty (hkeeps.initialized.symm.trans hno)
      have hnone : s.p.motion50hzBuf.data = none := hnone
      simp [adopts, hnone] at hadopts
    · rw [hcontext, hadoptions]
      exact h.earlier.trans (Nat.le_succ _)
    · rw [hcontext, hadoptions] at heq
      have hearlier := h.earlier
      omega
    · have hdata : (s.afterController t').p.motion50hzBuf = s.p.motion50hzBuf := hkeeps.buf
      rw [hdata] at hnew
      exact Bool.noConfusion (hold.symm.trans hnew)

/-- Only a discard and an adoption move the timeline and the count. -/
theorem advanceController_still (hd : s.controller.point ≠ .discarding)
    (ha : s.controller.point ≠ .advancing) (hl : s.controller.point.leaves = false) :
    s.advanceController.timeline = s.timeline ∧ s.advanceController.adoptions = s.adoptions := by
  unfold advanceController
  cases hp : s.controller.point with
  | discarding => exact absurd hp hd
  | advancing => exact absurd hp ha
  | leaving =>
    rw [hp] at hl
    cases hl
  | _ => exact ⟨rfl, rfl⟩

theorem BlendInv.of_controller (h : BlendInv s) (hl : LoopsInv s)
    (hf : Reenters (s.feed r) s.controller t') : BlendInv (s.afterController t') := by
  have hkeep : s.controller.point ≠ .discarding → s.controller.point ≠ .advancing →
      s.controller.point.leaves = false →
      t'.controller.playbackMotion = s.c.playbackMotion ∧
        t'.controller.lastPlanStamp = s.c.lastPlanStamp →
      (s.c.arbiter.mode = .recovering → s.c.reinitTicketIssued = true → Reseeding t') →
      BlendInv (s.afterController t') := by
    intro hd ha hleaves ⟨hplay, hstamp⟩ hreseeding
    obtain ⟨htimeline, hadoptions⟩ := advanceController_still hd ha hleaves
    refine h.of_kept htimeline hadoptions hplay (fun hnew => ?_) fun hold => ?_
    · unfold newPlan at hnew ⊢
      rw [← hstamp]
      exact hnew
    · rcases hold with ⟨hm, hi⟩ | hno
      · exact hreseeding hm hi
      · exact Bool.noConfusion (hleaves.symm.trans hno)
  have hadvance : s.controller.point = .advancing →
      t'.controller = s.c.advancePlayback s.p.motion50hzBuf.getDataWithTime →
      BlendInv (s.afterController t') := h.of_advance hl
  generalize hcur : s.controller = cur at hf hadvance hkeep
  have hc : s.c = cur.controller := congrArg _ hcur
  rw [hc] at hkeep
  cases hf with
  | quiet hkept hp hleaves hq =>
    obtain ⟨hd, -, hl'⟩ := ControllerPoint.of_not_reenters hp
    refine hkeep hd ?_ hl' ⟨hkept.playback, hkept.stamp⟩ fun hm hi => Or.inl ⟨?_, ?_⟩
    · rintro rfl
      cases hp
    · exact hkept.mode.trans hm
    · exact hkept.issued.trans hi
  | discard c => exact h.of_emptied rfl
  | request c => exact hkeep nofun nofun rfl ⟨rfl, rfl⟩ fun hm hi => Or.inl ⟨hm, hi⟩
  | acked c hw => exact hkeep nofun nofun rfl ⟨rfl, rfl⟩ fun hm hi => Or.inl ⟨hm, hi⟩
  | leave c hw =>
    obtain ⟨hplay, hstamp, -, -⟩ := decideOwner_entry c (s.feed r)
    exact hkeep nofun nofun rfl ⟨hplay, hstamp⟩ fun _ _ => Or.inr rfl
  | decide c hw =>
    obtain ⟨hplay, hstamp, -, -⟩ := decideOwner_entry c (s.feed r)
    refine hkeep nofun nofun rfl ⟨hplay, hstamp⟩ fun hm hi => Or.inl ?_
    rcases decideOwner_recovering (r := s.feed r) hm with ⟨-, hm'⟩ | ⟨hyes, -⟩
    · exact ⟨hm', ((decideOwner_issued c _).1 hm).trans hi⟩
    · exact Bool.noConfusion (hw.symm.trans hyes)
  | origin c => exact h.of_emptied rfl
  | reseed c c' token hkept =>
    refine hkeep nofun nofun rfl ⟨hkept.playback, hkept.stamp⟩ fun hm _ => Or.inl ⟨?_, ?_⟩
    · exact hkept.mode.trans hm
    · exact hkept.issued
  | advance c => exact hadvance rfl (by rw [hc]; rfl)

end

/-! ## Over runs -/

/-- The step lemma. -/
theorem BlendInv.of_step (h : BlendInv s) (hl : LoopsInv s) {a : Act K}
    (hC : s.UninterruptedReplan a) (hstep : s.step a = some t) : BlendInv t := by
  cases a with
  | planner a => exact h.of_planner_step hl hC hstep
  | controller r =>
    cases hstep
    exact h.of_controller hl (ControllerThread.fires_next s.controller (s.feed r)).reenters

/-- Where no replan is published that saw an adoption: a new plan that meets a playback was
generated from a snapshot of that very playback on the current timeline, with no adoption
since, at the frame number it carries. -/
theorem blended_on_own_timeline {auto : Bool}
    (h : Transition.Reachable step UninterruptedReplan (start auto) s)
    (hpoint : s.controller.point = .advancing) (hplaying : s.c.playbackMotion.timesteps ≠ 0)
    {gen : MotionSequence50Hz K} (hgen : s.p.motion50hzBuf.data = some gen)
    (hplan : s.c.newPlan s.p.motion50hzBuf.getDataWithTime = true) :
    (∃ cursor, s.buf.snapshot = some (s.timeline, s.c.playbackMotion, cursor) ∧
        gen.genFrame = cursor + kLookAheadSteps) ∧
      s.buf.adoptions = s.adoptions ∧
      s.buf.context = updateContextFromMotion gen.genFrame s.c.playbackMotion := by
  have hinv : LoopsInv s ∧ BlendInv s := by
    refine h.invariant (I := fun s => LoopsInv s ∧ BlendInv s) ⟨.init auto, .init auto⟩ ?_
    intro s a t hinv hC hstep
    exact ⟨hinv.1.of_step hstep, hinv.2.of_step hinv.1 hC hstep⟩
  obtain ⟨hl, hs⟩ := hinv
  rcases hs.buf gen hgen hplan with hempty | hon | hreseeding
  · exact absurd hempty hplaying
  · exact ⟨hon.snapshot, hon.adoptions, hon.context⟩
  · exact absurd hreseeding (not_reseeding hl hpoint)

/-- A tick of the encoder path that publishes. -/
def playingReads : TickReads ℚ :=
  { presentReads with encoderOut := some fun _ => 0, decoderOut := some fun _ => 0 }

/-- An iteration of the planner for this mode, up to its snapshot. -/
def replanStart (mode : Int) : List (Act ℚ) :=
  [.planner .load, .planner .clear, .planner (.readCommand (some { locomotionMode := mode })),
    .planner (.snapshot none 0)]

/-- A walk is planned and published, and the controller comes to its adoption. -/
def walkRun : List (Act ℚ) :=
  adoptionRun ++ replanStart 2 ++ [.planner (.publish (some standingOutput) 2)] ++
    List.replicate 6 (.controller playingReads)

/-- The next replan takes its snapshot before the walk is adopted and is published after. -/
def interruptedRun : List (Act ℚ) :=
  walkRun ++ replanStart 3 ++ List.replicate 2 (.controller playingReads) ++
    [.planner (.publish (some standingOutput) 3)] ++ List.replicate 6 (.controller playingReads)

/-- The controller is about to blend a new plan into a playback. -/
def blending (s : PlaybackLoops ℚ) : Bool :=
  s.controller.point.advances && decide (s.c.playbackMotion.timesteps ≠ 0) &&
    s.c.newPlan s.p.motion50hzBuf.getDataWithTime &&
    s.p.motion50hzBuf.data.any fun gen => decide (0 < blendLength gen s.c.cursor)

theorem blending_iff {s : PlaybackLoops ℚ} : s.blending = true ↔
    s.controller.point = .advancing ∧ s.c.playbackMotion.timesteps ≠ 0 ∧
      s.c.newPlan s.p.motion50hzBuf.getDataWithTime = true ∧
      ∃ gen, s.p.motion50hzBuf.data = some gen ∧ 0 < blendLength gen s.c.cursor := by
  simp only [blending, Bool.and_eq_true, decide_eq_true_eq, ControllerPoint.advances_iff,
    Option.any_eq_true, and_assoc]

theorem blended_on_own_timeline_walk : ∃ s : PlaybackLoops ℚ,
    Transition.run step (start true) walkRun = some s ∧
      (∃ cursor, s.buf.snapshot = some (s.timeline, s.c.playbackMotion, cursor)) ∧
      s.buf.adoptions = s.adoptions := by
  have halong : Transition.Along step UninterruptedReplan (start true) walkRun := by
    decide +kernel
  have hrun : (Transition.run step (start true) walkRun).any blending = true := by decide +kernel
  obtain ⟨s, hs, hblending⟩ := (Option.any_eq_true _ _).mp hrun
  obtain ⟨hpoint, hplaying, hplan, gen, hgen, -⟩ := blending_iff.mp hblending
  obtain ⟨⟨cursor, hsnap, -⟩, hadoptions, -⟩ := blended_on_own_timeline
    (Transition.reachable_of_along halong hs) hpoint hplaying hgen hplan
  exact ⟨s, hs, ⟨cursor, hsnap⟩, hadoptions⟩

/-- The second replan, planned on one motion, is blended into the one that replaced it. -/
theorem interrupted_replan_blended : ∃ s : PlaybackLoops ℚ,
    Transition.Reachable step Transition.Always (start true) s ∧
      s.controller.point = .advancing ∧ s.c.playbackMotion.timesteps ≠ 0 ∧
      s.c.newPlan s.p.motion50hzBuf.getDataWithTime = true ∧
      (∃ gen, s.p.motion50hzBuf.data = some gen ∧ 0 < blendLength gen s.c.cursor) ∧
      ∃ planned, s.buf.snapshot = some planned ∧
        planned.2.1.timesteps ≠ s.c.playbackMotion.timesteps := by
  have hrun : (Transition.run step (start true) interruptedRun).any
      (fun s => s.blending && s.buf.snapshot.any fun planned =>
        decide (planned.2.1.timesteps ≠ s.c.playbackMotion.timesteps)) = true := by
    decide +kernel
  obtain ⟨s, hs, hblending⟩ := Transition.reachable_of_run_any hrun
  rw [Bool.and_eq_true, Option.any_eq_true] at hblending
  obtain ⟨hpoint, hplaying, hplan, hgen⟩ := blending_iff.mp hblending.1
  obtain ⟨planned, hsnap, hne⟩ := hblending.2
  exact ⟨s, hs, hpoint, hplaying, hplan, hgen, planned, hsnap, of_decide_eq_true hne⟩

end PlaybackLoops

end Gearsonic
