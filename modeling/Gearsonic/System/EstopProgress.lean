import Gearsonic.System.EmergencyStop

/-!
# The emergency stop comes through

What `EmergencyStop` says of the commands that the loops publish says nothing of loops that
publish none. Here each of them does: a tick of the controller has at most ten steps to go, and
the next one stores damping at its first; the hand writer's next pass publishes the safe stop.

* `Controls`: what a step does to the controller; `Hands`, to the hand writer.
* `Silencing.step`, `HandSilencing.step`: progress, counted in steps of the loop.
* `estop_outranks`: what the loops publish once the stop is latched, and that they do.
-/

set_option linter.unusedSectionVars false

namespace Gearsonic

variable {K : Type} [Field K] [LinearOrder K] [CMath K]

open WholeBodyController

/-! ## The steps of a tick -/

/-- How many steps a tick can still take. -/
def ControllerPoint.rank : ControllerPoint K → Nat
  | .top => 0
  | .tracing => 1
  | .advancing => 2
  | .asking _ => 2
  | .deciding => 3
  | .leaving => 4
  | .arbitrating => 5
  | .waiting => 6
  | .switching => 7
  | .requesting => 8
  | .discarding => 9
  | .checking => 10

theorem ControllerPoint.rank_le (p : ControllerPoint K) : p.rank ≤ 10 := by
  cases p <;> dsimp only [rank] <;> omega

/-- A tick goes on to its end. -/
theorem ControllerThread.Fires.rank {r : TickReads K} {s t : ControllerThread K}
    (h : Fires r s t) (htop : s.point.isTop = false) : t.point.rank < s.point.rank := by
  cases h with
  | estop c h => cases htop
  | start c h => cases htop
  | encode c hm hne =>
    dsimp only
    split <;> (dsimp only [ControllerPoint.rank]; omega)
  | _ => dsimp only [ControllerPoint.rank]; omega

/-! ## A step of the controller and its stop -/

namespace StopSystem

/-- The commands that a step has stored. -/
def storedBy (s : StopSystem K) (a : Act K) (t : StopSystem K) : List (MotorCommand K) :=
  match a with
  | .body _ => if t.life = .exited then [] else stored s.body t.body
  | .join _ => [MotorCommand.damping K]
  | _ => []

variable {s t : StopSystem K} {a : Act K}

@[simp] theorem recordBody_body (s : StopSystem K) (cmds : List (MotorCommand K)) :
    (s.recordBody cmds).body = s.body ∧ (s.recordBody cmds).life = s.life := by
  unfold recordBody
  split
  · split <;> exact ⟨rfl, rfl⟩
  · exact ⟨rfl, rfl⟩

theorem recordHand_body (s : StopSystem K) (cmds : HandCommandPair K) :
    (s.recordHand cmds).body = s.body ∧ (s.recordHand cmds).life = s.life ∧
      (s.recordHand cmds).bodyLate = s.bodyLate := by
  unfold recordHand
  split
  · split <;> exact ⟨rfl, rfl, rfl⟩
  · exact ⟨rfl, rfl, rfl⟩

/-- What a step does to the controller, by its three ways. -/
inductive Controls (s : StopSystem K) (a : Act K) (t : StopSystem K) : Prop
  /-- Nothing, apart from the lifecycle. -/
  | none (hpoint : t.body.point = s.body.point)
      (hbuf : t.body.controller.motorCommandBuf = s.body.controller.motorCommandBuf)
      (hstored : storedBy s a t = []) (hlate : t.bodyLate = s.bodyLate)
      (hexit : ∀ r, a = .body r → t.life = .exited)
  /-- A step of the loop. -/
  | loop (r : TickReads K) (ha : a = .body r)
      (hlife : s.life = .running ∨ s.life = .stopping ∧ s.body.point.isTop = false)
      (ht : t = s.stepBody r)
  /-- The end of `stop()`. -/
  | join (now : TimePoint) (ha : a = .join now) (hlife : s.life = .exited) (ht : t = s.stepJoin now)

theorem controls_step (hstep : s.step a = some t) : Controls s a t := by
  cases a with
  | input r =>
    cases hstep
    exact .none rfl rfl rfl rfl (fun _ h => by cases h)
  | disarm =>
    cases hstep
    exact .none rfl rfl rfl rfl (fun _ h => by cases h)
  | start auto =>
    simp only [step, Option.ite_none_right_eq_some, Option.some.injEq] at hstep
    obtain ⟨-, rfl⟩ := hstep
    exact .none rfl rfl rfl rfl (fun _ h => by cases h)
  | body r =>
    simp only [step] at hstep
    split at hstep
    · cases hstep
      exact .loop r rfl (Or.inl ‹_›) rfl
    · split at hstep
      · split at hstep
        · cases hstep
          exact .none rfl rfl rfl rfl fun _ _ => rfl
        · rename_i hlife htop
          cases hstep
          exact .loop r rfl (Or.inr ⟨hlife, by simpa using htop⟩) rfl
      · cases hstep
  | stop =>
    simp only [step] at hstep
    split at hstep
    · cases hstep
      exact .none rfl rfl rfl rfl (fun _ h => by cases h)
    · cases hstep
      exact .none rfl rfl rfl rfl (fun _ h => by cases h)
    · cases hstep
  | join now =>
    simp only [step, Option.ite_none_right_eq_some, Option.some.injEq] at hstep
    exact .join now rfl hstep.1 hstep.2.symm
  | hand r =>
    simp only [step, Option.ite_none_right_eq_some, Option.some.injEq] at hstep
    obtain ⟨-, rfl⟩ := hstep
    exact .none rfl rfl rfl rfl (fun _ h => by cases h)
  | publishHand =>
    simp only [step] at hstep
    split at hstep
    · cases hstep
      obtain ⟨hbody, -, hlate⟩ := recordHand_body (K := K) _ _
      exact .none (by rw [hbody]) (by rw [hbody]) rfl hlate (fun _ h => by cases h)
    · cases hstep
  | stopHand now =>
    simp only [step, Option.ite_none_right_eq_some, Option.some.injEq] at hstep
    obtain ⟨-, rfl⟩ := hstep
    obtain ⟨hbody, -, hlate⟩ := recordHand_body (K := K) _ _
    exact .none (by rw [hbody]) (by rw [hbody]) rfl hlate (fun _ h => by cases h)

theorem stepBody_body (s : StopSystem K) (r : TickReads K) :
    (s.stepBody r).body = s.body.next { r with estop := s.handler.estop } ∧
      (s.stepBody r).life = s.life := recordBody_body _ _

theorem stepJoin_body (s : StopSystem K) (now : TimePoint) :
    (s.stepJoin now).body =
        { s.body with controller := s.body.controller.publishDamping now } ∧
      (s.stepJoin now).life = .stopped := recordBody_body _ _

theorem storedBy_loop {r : TickReads K}
    (hlife : s.life = .running ∨ s.life = .stopping ∧ s.body.point.isTop = false) :
    storedBy s (.body r) (s.stepBody r) = stored s.body (s.stepBody r).body := by
  have hlife' : (s.stepBody r).life ≠ .exited := by
    rw [(stepBody_body s r).2]
    exact (not_resting (hlife.imp_right And.left)).1
  exact if_neg hlife'

/-! ## After the latch -/

theorem mem_bodyLate_recordBody {cmds : List (MotorCommand K)} {cmd : MotorCommand K}
    (h : cmd ∈ s.bodyLate) : cmd ∈ (s.recordBody cmds).bodyLate := by
  unfold recordBody
  split
  · split
    · exact List.mem_append_left _ h
    · exact h
  · exact h

/-- The list of the tick in flight only grows. -/
theorem bodyLate_mono (hstep : s.step a = some t) : ∀ cmd ∈ s.bodyLate, cmd ∈ t.bodyLate := by
  intro cmd hcmd
  cases controls_step hstep with
  | none hpoint hbuf hstored hlate hexit =>
    rw [hlate]
    exact hcmd
  | loop r ha hlife ht =>
    subst ht
    unfold stepBody
    apply mem_bodyLate_recordBody
    exact hcmd
  | join now ha hlife ht =>
    subst ht
    unfold stepJoin
    apply mem_bodyLate_recordBody
    exact hcmd

/-- What is noted after the latch is the tick in flight's, or comes after it. -/
theorem mem_recordBody {cmds : List (MotorCommand K)} {cmd : MotorCommand K}
    (hl : s.handler.estop = true) (h : cmd ∈ cmds) :
    cmd ∈ (s.recordBody cmds).bodyAfter ∨ cmd ∈ (s.recordBody cmds).bodyLate := by
  simp only [recordBody, hl, if_true]
  split
  · exact Or.inr (List.mem_append_right _ h)
  · exact Or.inl (List.mem_append_right _ h)

/-- Once the stop is latched, what is stored is damping or the tick in flight's. -/
theorem storedBy_latched (h : BodyInv s) (hl : s.handler.estop = true)
    (hstep : s.step a = some t) :
    ∀ cmd ∈ storedBy s a t, cmd = MotorCommand.damping K ∨ cmd ∈ t.bodyLate := by
  have ht' := h.of_step hstep
  intro cmd hcmd
  cases controls_step hstep with
  | none hpoint hbuf hstored hlate hexit =>
    rw [hstored] at hcmd
    cases hcmd
  | loop r ha hlife ht =>
    subst ha
    subst ht
    rw [storedBy_loop hlife, (stepBody_body s r).1] at hcmd
    refine Or.imp_left (ht'.after cmd) ?_
    unfold stepBody
    apply mem_recordBody
    · exact hl
    · exact hcmd
  | join now ha hlife ht =>
    subst ha
    exact Or.inl (List.mem_singleton.mp hcmd)

/-- The stop is latched, the loop is between two ticks and the buffer holds damping. -/
structure Silenced (s : StopSystem K) : Prop where
  latched : s.handler.estop = true
  top : s.body.point.isTop = true
  data : s.body.controller.motorCommandBuf.data = some (MotorCommand.damping K)

/-- **Silence lasts**, whatever is done to the controller. -/
theorem Silenced.step (h : Silenced s) (hstep : s.step a = some t) :
    Silenced t ∧ ∀ cmd ∈ storedBy s a t, cmd = MotorCommand.damping K := by
  have hl := step_latched h.latched hstep
  cases controls_step hstep with
  | none hpoint hbuf hstored hlate hexit =>
    rw [hstored]
    exact ⟨⟨hl, hpoint ▸ h.top, hbuf ▸ h.data⟩, nofun⟩
  | loop r ha hlife ht =>
    subst ha
    subst ht
    obtain ⟨htop, hbuf, hstored⟩ := next_top (r := r) h.top
    have hbody := (stepBody_body s r).1
    rw [h.latched] at hbody
    refine ⟨⟨hl, ?_, ?_⟩, ?_⟩
    · rw [hbody]
      exact htop
    · rw [hbody]
      exact hbuf
    · rw [storedBy_loop hlife, hbody, hstored]
      exact fun cmd => List.mem_singleton.mp
  | join now ha hlife ht =>
    subst ha
    subst ht
    refine ⟨⟨hl, ?_, ?_⟩, fun cmd => List.mem_singleton.mp⟩
    · rw [(stepJoin_body s now).1]
      exact h.top
    · rw [(stepJoin_body s now).1]
      rfl

/-- A step of the controller's loop, or its end. -/
def Act.isBody : Act K → Bool
  | .body _ => true
  | _ => false

/-- **Silence comes**: `n` counts the steps of the loop since the latch. -/
def Silencing (s : StopSystem K) (n : Nat) : Prop :=
  Silenced s ∨ s.life = .exited ∨ s.body.point.rank + n ≤ 10

/-- Between the end of the loop and the end of `stop()`. -/
theorem step_exited (hlife : s.life = .exited) (hstep : s.step a = some t) :
    t.life = .exited ∨ ∃ now, t = s.stepJoin now := by
  cases a with
  | input r =>
    cases hstep
    exact Or.inl hlife
  | disarm =>
    cases hstep
    exact Or.inl hlife
  | start auto => simp [StopSystem.step, hlife] at hstep
  | body r => simp [StopSystem.step, hlife] at hstep
  | stop => simp [StopSystem.step, hlife] at hstep
  | join now =>
    simp only [StopSystem.step, Option.ite_none_right_eq_some, Option.some.injEq] at hstep
    exact Or.inr ⟨now, hstep.2.symm⟩
  | hand r =>
    simp only [StopSystem.step, Option.ite_none_right_eq_some, Option.some.injEq] at hstep
    obtain ⟨-, rfl⟩ := hstep
    exact Or.inl hlife
  | publishHand =>
    simp only [StopSystem.step] at hstep
    split at hstep
    · cases hstep
      exact Or.inl ((recordHand_body _ _).2.1.trans hlife)
    · cases hstep
  | stopHand now =>
    simp only [StopSystem.step, Option.ite_none_right_eq_some, Option.some.injEq] at hstep
    obtain ⟨-, rfl⟩ := hstep
    exact Or.inl ((recordHand_body _ _).2.1.trans hlife)

theorem Silencing.step {n : Nat} (h : Silencing s n) (hinv : BodyInv s)
    (hl : s.handler.estop = true) (hstep : s.step a = some t) :
    Silencing t (if a.isBody then n + 1 else n) := by
  -- the end of `stop()` stores damping, and the loop is at its top there
  have hjoin : ∀ now, s.life = .exited → t = s.stepJoin now → Silenced t := by
    intro now hexit ht
    have htop := hinv.rests (by rw [hexit]; decide) (by rw [hexit]; decide)
    have hl' := step_latched hl hstep
    subst ht
    refine ⟨hl', ?_, ?_⟩
    · rw [(stepJoin_body s now).1]
      exact htop
    · rw [(stepJoin_body s now).1]
      rfl
  rcases h with hsil | hexit | hrank
  · exact Or.inl (hsil.step hstep).1
  · rcases step_exited hexit hstep with hexit' | ⟨now, ht⟩
    · exact Or.inr (Or.inl hexit')
    · exact Or.inl (hjoin now hexit ht)
  · cases controls_step hstep with
    | none hpoint hbuf hstored hlate hexit =>
      right
      cases a with
      | body r => exact Or.inl (hexit r rfl)
      | _ =>
        right
        rw [hpoint]
        exact hrank
    | loop r ha hlife ht =>
      subst ha
      subst ht
      have hbody := (stepBody_body s r).1
      cases htop : s.body.point.isTop with
      | true =>
        obtain ⟨htop', hbuf, -⟩ := next_top (r := r) htop
        have hl' := step_latched hl hstep
        rw [hl] at hbody
        left
        refine ⟨hl', ?_, ?_⟩
        · rw [hbody]
          exact htop'
        · rw [hbody]
          exact hbuf
      | false =>
        right
        right
        have hless := (ControllerThread.fires_next s.body
          { r with estop := s.handler.estop }).rank htop
        rw [← hbody] at hless
        show (s.stepBody r).body.point.rank + (n + 1) ≤ 10
        omega
    | join now ha hlife ht => exact Or.inl (hjoin now hlife ht)

theorem latched_run {as : List (Act K)} (hl : s.handler.estop = true)
    (hrun : Transition.run step s as = some t) : t.handler.estop = true :=
  (Transition.reachable_of_run hrun).invariant (I := fun s => s.handler.estop = true) hl
    fun _ _ _ hl _ hstep => step_latched hl hstep

theorem silencing_run {as : List (Act K)} (hinv : BodyInv s) (hl : s.handler.estop = true)
    (hrun : Transition.run step s as = some t) : Silencing t (as.countP Act.isBody) := by
  have h0 : Silencing s 0 := Or.inr (Or.inr (ControllerPoint.rank_le _))
  have hrun' := Transition.run_counted (I := fun s => BodyInv s ∧ s.handler.estop = true)
    (fun _ _ _ h hstep => ⟨h.1.of_step hstep, step_latched h.2 hstep⟩)
    (fun _ _ _ _ h hsil hstep => hsil.step h.1 h.2 hstep) ⟨hinv, hl⟩ h0 hrun
  rwa [Nat.zero_add] at hrun'

/-- **Silence has come** after eleven steps of the loop, and with the end of `stop()`. -/
theorem silenced_of_run {as : List (Act K)} (hinv : BodyInv s) (hl : s.handler.estop = true)
    (hrun : Transition.run step s as = some t)
    (hdone : t.life = .running ∧ 11 ≤ as.countP Act.isBody ∨ t.life = .stopped) : Silenced t := by
  have hinv' := (Transition.reachable_of_run hrun).invariant hinv
    fun _ _ _ hinv _ hstep => hinv.of_step hstep
  have hl' := latched_run hl hrun
  rcases hdone with ⟨hrunning, hcount⟩ | hstopped
  · rcases silencing_run hinv hl hrun with hsil | hexit | hrank
    · exact hsil
    · rw [hrunning] at hexit
      cases hexit
    · omega
  · exact ⟨hl', hinv'.rests (by rw [hstopped]; decide) (by rw [hstopped]; decide),
      hinv'.stopped hstopped⟩

/-- A tick begun after the latch stores damping. -/
theorem after_begun (hl : s.handler.estop = true) (htop : s.body.point.isTop = true)
    {r : TickReads K} (hstep : s.step (.body r) = some t) (hlife : t.life ≠ .exited) :
    t.bodyAfter = s.bodyAfter ++ [MotorCommand.damping K] := by
  obtain ⟨-, -, hstored⟩ := next_top (r := r) htop
  have hbody : (s.stepBody r).bodyAfter = s.bodyAfter ++ [MotorCommand.damping K] := by
    simp [stepBody, recordBody, hl, htop, hstored]
  simp only [step] at hstep
  split at hstep
  · cases hstep
    exact hbody
  · split at hstep
    · cases hstep
      exact absurd rfl hlife
    · cases hstep

/-! ## The hand writer after the latch -/

/-- What a step does to the hand writer, by its four ways. -/
inductive Hands (s : StopSystem K) (a : Act K) (t : StopSystem K) : Prop
  | none (hwriter : t.writer = s.writer) (hpending : t.pending = s.pending)
      (ha : a ≠ .publishHand ∧ ∀ now, a ≠ .stopHand now)
  /-- A pass is computed. -/
  | hand (r : HandCommandWriter.TickReads K) (ha : a = .hand r)
      (hpending : t.pending =
        some ((s.writer.computeTargets { r with estop := s.handler.estop }).2, r.t0))
      (hdata : t.writer.lastCmdBuf = s.writer.lastCmdBuf)
  /-- It is published. -/
  | publish (cmds : HandCommandPair K) (now : TimePoint) (ha : a = .publishHand)
      (hs : s.pending = some (cmds, now)) (hpending : t.pending = Option.none)
      (hdata : t.writer.lastCmdBuf.data = some cmds)
  /-- The safe stop at the end of `stop()`. -/
  | stop (now : TimePoint) (ha : a = .stopHand now) (hpending : t.pending = Option.none)
      (hdata : t.writer.lastCmdBuf.data = some .stop)

theorem recordHand_writer (s : StopSystem K) (cmds : HandCommandPair K) :
    (s.recordHand cmds).writer = s.writer ∧ (s.recordHand cmds).pending = s.pending := by
  unfold recordHand
  split
  · split <;> exact ⟨rfl, rfl⟩
  · exact ⟨rfl, rfl⟩

theorem hands_step (hstep : s.step a = some t) : Hands s a t := by
  have hbody : ∀ (s' : StopSystem K) cmds, s'.writer = s.writer → s'.pending = s.pending →
      (a ≠ .publishHand ∧ ∀ now, a ≠ .stopHand now) → Hands s a (s'.recordBody cmds) := by
    intro s' cmds hw hp ha
    obtain ⟨-, hw', hp', -⟩ := recordBody_hand s' cmds
    exact .none (hw'.trans hw) (hp'.trans hp) ha
  cases a with
  | input r =>
    cases hstep
    exact .none rfl rfl ⟨(fun h => by cases h), (fun _ h => by cases h)⟩
  | disarm =>
    cases hstep
    exact .none rfl rfl ⟨(fun h => by cases h), (fun _ h => by cases h)⟩
  | start auto =>
    simp only [step, Option.ite_none_right_eq_some, Option.some.injEq] at hstep
    obtain ⟨-, rfl⟩ := hstep
    exact .none rfl rfl ⟨(fun h => by cases h), (fun _ h => by cases h)⟩
  | body r =>
    simp only [step] at hstep
    split at hstep
    · cases hstep
      exact hbody _ _ rfl rfl ⟨(fun h => by cases h), (fun _ h => by cases h)⟩
    · split at hstep
      · split at hstep
        · cases hstep
          exact .none rfl rfl ⟨(fun h => by cases h), (fun _ h => by cases h)⟩
        · cases hstep
          exact hbody _ _ rfl rfl ⟨(fun h => by cases h), (fun _ h => by cases h)⟩
      · cases hstep
  | stop =>
    simp only [step] at hstep
    split at hstep
    · cases hstep
      exact .none rfl rfl ⟨(fun h => by cases h), (fun _ h => by cases h)⟩
    · cases hstep
      exact .none rfl rfl ⟨(fun h => by cases h), (fun _ h => by cases h)⟩
    · cases hstep
  | join now =>
    simp only [step, Option.ite_none_right_eq_some, Option.some.injEq] at hstep
    obtain ⟨-, rfl⟩ := hstep
    exact hbody _ _ rfl rfl ⟨(fun h => by cases h), (fun _ h => by cases h)⟩
  | hand r =>
    simp only [step, Option.ite_none_right_eq_some, Option.some.injEq] at hstep
    obtain ⟨-, rfl⟩ := hstep
    exact .hand r rfl rfl (HandCommandWriter.computeTargets_lastCmdBuf _ _)
  | publishHand =>
    simp only [step] at hstep
    split at hstep
    · rename_i cmds now hp
      cases hstep
      obtain ⟨hw, hpending⟩ := recordHand_writer (K := K) _ _
      exact .publish cmds now rfl hp hpending (by rw [hw]; rfl)
    · cases hstep
  | stopHand now =>
    simp only [step, Option.ite_none_right_eq_some, Option.some.injEq] at hstep
    obtain ⟨hnone, rfl⟩ := hstep
    obtain ⟨hw, hpending⟩ := recordHand_writer (K := K) _ _
    exact .stop now rfl (hpending.trans (Option.isNone_iff_eq_none.mp hnone)) (by rw [hw]; rfl)

/-- What the hand writer has computed and not yet published is the safe stop. -/
def PendingStop (s : StopSystem K) : Prop := ∀ p, s.pending = some p → p.1 = .stop

/-- The stop is latched, the buffer holds the safe stop and nothing else is on its way there. -/
structure HandSilenced (s : StopSystem K) : Prop where
  latched : s.handler.estop = true
  pending : PendingStop s
  data : s.writer.lastCmdBuf.data = some .stop

/-- **Progress of the hands**: `n` counts the publications since the latch. The first can be of
what was computed before it. -/
def HandSilencing (s : StopSystem K) (n : Nat) : Prop :=
  HandSilenced s ∨ n = 0 ∨ n = 1 ∧ PendingStop s

def Act.isPublishHand : Act K → Bool
  | .publishHand => true
  | _ => false

/-- A publication is of what was computed, and leaves nothing computed. -/
theorem published_step (ha : a.isPublishHand = true) (hstep : s.step a = some t) :
    ∃ p, s.pending = some p ∧ t.pending = none ∧ t.writer.lastCmdBuf.data = some p.1 := by
  cases hands_step hstep with
  | none hwriter hpending hne =>
    cases a with
    | publishHand => exact absurd rfl hne.1
    | _ => cases ha
  | hand r hr => subst hr; cases ha
  | publish cmds now hpub hs hpending hdata => exact ⟨(cmds, now), hs, hpending, hdata⟩
  | stop now hstop => subst hstop; cases ha

theorem PendingStop.of_none (h : s.pending = none) : PendingStop s := by
  intro p hp
  rw [h] at hp
  cases hp

/-- Once the stop is latched, each pass computes the safe stop. -/
theorem PendingStop.step (h : PendingStop s) (hl : s.handler.estop = true)
    (hstep : s.step a = some t) : PendingStop t := by
  cases hands_step hstep with
  | none hwriter hpending ha =>
    intro p hp
    rw [hpending] at hp
    exact h p hp
  | hand r ha hpending hdata =>
    intro p hp
    rw [hpending] at hp
    cases hp
    exact HandCommandWriter.computeTargets_estop hl
  | publish cmds now ha hs hpending hdata => exact .of_none hpending
  | stop now ha hpending hdata => exact .of_none hpending

theorem HandSilenced.step (h : HandSilenced s) (hstep : s.step a = some t) : HandSilenced t := by
  refine ⟨step_latched h.latched hstep, h.pending.step h.latched hstep, ?_⟩
  cases hands_step hstep with
  | none hwriter hpending ha =>
    rw [hwriter]
    exact h.data
  | hand r ha hpending hdata =>
    rw [hdata]
    exact h.data
  | publish cmds now ha hs hpending hdata =>
    rw [hdata]
    exact congrArg some (h.pending _ hs)
  | stop now ha hpending hdata => exact hdata

theorem HandSilencing.step {n : Nat} (h : HandSilencing s n) (hl : s.handler.estop = true)
    (hstep : s.step a = some t) : HandSilencing t (if a.isPublishHand then n + 1 else n) := by
  rcases h with hsil | hzero | ⟨hone, hpend⟩
  · exact Or.inl (hsil.step hstep)
  · cases ha : a.isPublishHand with
    | false => exact Or.inr (Or.inl hzero)
    | true =>
      obtain ⟨p, -, hnone, -⟩ := published_step ha hstep
      exact Or.inr (Or.inr ⟨congrArg (· + 1) hzero, .of_none hnone⟩)
  · have hpend' := hpend.step hl hstep
    cases ha : a.isPublishHand with
    | false => exact Or.inr (Or.inr ⟨hone, hpend'⟩)
    | true =>
      obtain ⟨p, hp, -, hdata⟩ := published_step ha hstep
      refine Or.inl ⟨step_latched hl hstep, hpend', ?_⟩
      rw [hdata, hpend p hp]

/-- The safe stop at the end of the writer's `stop()` silences the hands at once. -/
theorem handSilenced_stopHand {now : TimePoint} (hl : s.handler.estop = true)
    (hstep : s.step (.stopHand now) = some t) : HandSilenced t := by
  cases hands_step hstep with
  | none hwriter hpending ha => exact absurd rfl (ha.2 now)
  | hand r ha => cases ha
  | publish cmds now' ha => cases ha
  | stop now' ha hpending hdata => exact ⟨step_latched hl hstep, .of_none hpending, hdata⟩

/-- **The hands are silent** after two publications, and after the safe stop of `stop()`. -/
theorem handSilenced_of_run {as : List (Act K)} (hl : s.handler.estop = true)
    (hrun : Transition.run step s as = some t)
    (hdone : 2 ≤ as.countP Act.isPublishHand ∨ ∃ now, Act.stopHand now ∈ as) :
    HandSilenced t := by
  rcases hdone with hcount | ⟨now, hmem⟩
  · have hrun' := Transition.run_counted (I := fun s : StopSystem K => s.handler.estop = true)
      (P := HandSilencing) (p := Act.isPublishHand) (fun _ _ _ hl hstep => step_latched hl hstep)
      (fun _ _ _ _ hl hsil hstep => hsil.step hl hstep) hl (Or.inr (Or.inl rfl)) hrun
    rcases hrun' with hsil | hzero | hone
    · exact hsil
    · omega
    · omega
  · -- silent from the stop on
    obtain ⟨before, after, rfl⟩ := List.append_of_mem hmem
    rw [Transition.run_append] at hrun
    obtain ⟨u, hu, hrest⟩ := Option.bind_eq_some_iff.mp hrun
    obtain ⟨v, hv, hlast⟩ := Option.bind_eq_some_iff.mp hrest
    exact (Transition.reachable_of_run hlast).invariant
      (handSilenced_stopHand (latched_run hl hu) hv) fun _ _ _ hsil _ hstep => hsil.step hstep

/-- A pass begun after the latch publishes the safe stop. -/
theorem handAfter_begun (hinv : HandInv s) (hl : s.handler.estop = true)
    (hflight : s.handInFlight = false) (hstep : s.step .publishHand = some t) :
    t.handAfter = s.handAfter ++ [.stop] := by
  simp only [step] at hstep
  split at hstep
  · rename_i cmds now hp
    cases hstep
    obtain rfl : cmds = .stop := hinv.pending hl hflight _ hp
    simp only [recordHand, hl, hflight, if_true, Bool.false_eq_true, if_false]
  · cases hstep

/-! ## The guarantee -/

/-- **The emergency stop outranks everything.** In every reachable state: the latch stays;
the tick in flight at the latch has stored at most one motor command since, and the hand
tick in flight at most one pair; whatever came after them is damping, and the safe stop of
both hands; once one of these is out it is what the buffer holds; and a finished `stop()`
leaves damping in it.

These do come. A tick of the controller begun after the latch stores damping, and a hand pass begun
after it publishes the safe stop. When the controller's loop has taken eleven more steps, or `stop()`
has ended, its buffer holds damping for good; when the hand writer has published twice more, or
its `stop()` has, the hands' buffer holds the safe stop for good. -/
theorem estop_outranks {s : StopSystem K}
    (h : Transition.Reachable step Transition.Always {} s) :
    (s.handler.estop = true → ∀ a t, s.step a = some t → t.handler.estop = true) ∧
      (s.bodyLate.length ≤ 1 ∧ (∀ cmd ∈ s.bodyAfter, cmd = MotorCommand.damping K) ∧
        (s.bodyAfter ≠ [] → s.bodyInFlight = false ∧
          s.body.controller.motorCommandBuf.data = some (MotorCommand.damping K))) ∧
      (s.handLate.length ≤ 1 ∧ (∀ cmds ∈ s.handAfter, cmds = .stop) ∧
        (s.handAfter ≠ [] → s.handInFlight = false ∧
          s.writer.lastCmdBuf.data = some .stop)) ∧
      (s.life = .stopped →
        s.body.controller.motorCommandBuf.data = some (MotorCommand.damping K)) ∧
      (s.handler.estop = true →
        (s.body.point.isTop = true → ∀ r t, s.step (.body r) = some t → t.life ≠ .exited →
          t.bodyAfter = s.bodyAfter ++ [MotorCommand.damping K]) ∧
        (s.handInFlight = false → ∀ t, s.step .publishHand = some t →
          t.handAfter = s.handAfter ++ [.stop]) ∧
        ∀ as t, Transition.run step s as = some t →
          (t.life = .running ∧ 11 ≤ as.countP Act.isBody ∨ t.life = .stopped →
            ∀ u, Transition.Reachable step Transition.Always t u →
              u.body.controller.motorCommandBuf.data = some (MotorCommand.damping K)) ∧
          (2 ≤ as.countP Act.isPublishHand ∨ (∃ now, Act.stopHand now ∈ as) →
            ∀ u, Transition.Reachable step Transition.Always t u →
              u.writer.lastCmdBuf.data = some .stop)) := by
  have hbody := h.invariant BodyInv.init fun _ _ _ hinv _ hstep => hinv.of_step hstep
  have hhand := h.invariant HandInv.init fun _ _ _ hinv _ hstep => hinv.of_step hstep
  refine ⟨fun hl _ _ hstep => step_latched hl hstep, ⟨hbody.late, hbody.after, hbody.last⟩,
    ⟨hhand.late, hhand.after, hhand.last⟩, hbody.stopped, fun hl => ⟨?_, ?_, ?_⟩⟩
  · intro htop r t hstep hlife
    exact after_begun hl htop hstep hlife
  · intro hflight t hstep
    exact handAfter_begun hhand hl hflight hstep
  · intro as t hrun
    constructor
    · intro hdone u hu
      have hsil := silenced_of_run hbody hl hrun hdone
      exact (hu.invariant hsil fun _ _ _ hsil _ hstep => (hsil.step hstep).1).data
    · intro hdone u hu
      have hsil := handSilenced_of_run hl hrun hdone
      exact (hu.invariant hsil fun _ _ _ hsil _ hstep => hsil.step hstep).data

/-- All four face buttons down. -/
def allButtons : InputHandler.TickReads ℚ :=
  { ctrl := some
      { btnA := true, btnB := true, btnX := true, btnY := true
        leftAxis := (0, 0), rightAxis := (0, 0)
        leftTrigger := 0, rightTrigger := 0, leftGrip := 0, rightGrip := 0 } }

/-- A tick of the INIT ramp. -/
def rampTick : TickReads ℚ := { now := 1, lowState := ⟨some {}, 1⟩, robotState := some {} }

/-- The buttons latch the stop in the middle of a controller tick and of a hand tick. -/
def latchRun : List (Act ℚ) :=
  [.start false, .body rampTick, .hand {}] ++ List.replicate 500 (.input allButtons)

/-- Both loops go on, as far as it takes them to be silent. -/
def silenceRun : List (Act ℚ) :=
  List.replicate 11 (.body rampTick) ++ [.publishHand, .hand {}, .publishHand]

/-- They are silenced, and stay so while the controller is stopped. -/
theorem estop_outranks_latched : ∃ s t u : StopSystem ℚ, s.handler.estop = true ∧
    t.bodyLate.length = 1 ∧ t.handLate.length = 1 ∧ u.bodyAfter.length = 9 ∧
    t.body.controller.motorCommandBuf.data = some (MotorCommand.damping ℚ) ∧
    t.writer.lastCmdBuf.data = some .stop ∧
    u.body.controller.motorCommandBuf.data = some (MotorCommand.damping ℚ) ∧
    u.writer.lastCmdBuf.data = some .stop := by
  have hruns : (Transition.run step {} latchRun).any (fun s => s.handler.estop &&
      (Transition.run step s silenceRun).any fun t =>
        decide (t.life = .running ∧ t.bodyLate.length = 1 ∧ t.handLate.length = 1) &&
          (Transition.run step t [.stop, .body rampTick, .join 2]).any fun u =>
            decide (u.bodyAfter.length = 9)) = true := by decide +kernel
  obtain ⟨s, hs, hdone⟩ := Transition.reachable_of_run_any hruns
  rw [Bool.and_eq_true] at hdone
  obtain ⟨hl, hdone⟩ := hdone
  cases hrun : Transition.run step s silenceRun with
  | none =>
    rw [hrun] at hdone
    cases hdone
  | some t =>
    rw [hrun, Option.any_some] at hdone
    simp only [Bool.and_eq_true, decide_eq_true_eq] at hdone
    obtain ⟨⟨hlife, hlate, hhlate⟩, hdone⟩ := hdone
    obtain ⟨u, hu, hafter⟩ := Transition.reachable_of_run_any hdone
    obtain ⟨-, -, -, -, hsilent⟩ := estop_outranks hs
    obtain ⟨hbody, hhand⟩ := (hsilent hl).2.2 silenceRun t hrun
    have hbody := hbody (Or.inl ⟨hlife, by decide⟩)
    have hhand := hhand (Or.inl (by decide))
    exact ⟨s, t, u, hl, hlate, hhlate, of_decide_eq_true hafter, hbody t .refl, hhand t .refl,
      hbody u hu, hhand u hu⟩

end StopSystem

end Gearsonic
