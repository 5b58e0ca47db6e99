import Gearsonic.Control.BaseHold
import Gearsonic.Control.TokenSequence
import Mathlib.Order.Interval.Set.UnorderedInterval
import Mathlib.Tactic.LinearCombination

/-!
# The INIT ramp

`tick_init` uses its counter before it counts, and leaves INIT once it has counted to 150: the
`k`-th command of the ramp has the ratio `k / 150`, with `k` from 0 to 149. `RampWatch` follows the
loop over any run and records the commands of the ramp with the samples they start from.

* `ramp_tick`: what a tick does to the ramp.
* `RampInv`: the ramp so far, and what is in the buffer once it is over.
* `run_measured`: the ramp takes the first 150 samples of the run, over losses and clears.
* `init_ramp_iff`: when the ramp ends on the standing pose.
-/

set_option linter.unusedSectionVars false

namespace Gearsonic

variable {K : Type} [Field K] [LinearOrder K] [CMath K]

open WholeBodyController

/-! ## The ratio -/

/-- `ratio` of `tick_init`, when the counter stands at `k`. -/
def initRatio (k : Nat) : K := clamp ((k : K) / kInitTicks) 0 1

section

variable [IsStrictOrderedRing K]

theorem initRatio_eq {k : Nat} (hk : k ≤ kInitTicks) : (initRatio k : K) = (k : K) / 150 := by
  have hcast : ((kInitTicks : Nat) : K) = 150 := by norm_num [kInitTicks]
  have hle : (k : K) ≤ 150 := by
    rw [← hcast]
    exact_mod_cast hk
  have hpos : (0 : K) ≤ (k : K) / 150 := div_nonneg (Nat.cast_nonneg k) (by norm_num)
  have hone : (k : K) / 150 ≤ 1 := by
    rw [div_le_one (by norm_num)]
    exact hle
  rw [initRatio, hcast, clamp, if_neg (not_lt.mpr hpos), if_neg (not_lt.mpr hone)]

theorem initRatio_mem (k : Nat) : (0 : K) ≤ initRatio k ∧ (initRatio k : K) ≤ 1 :=
  clamp_mem zero_le_one _

theorem initRatio_mono {j k : Nat} (hjk : j ≤ k) (hk : k ≤ kInitTicks) :
    (initRatio j : K) ≤ initRatio k := by
  have hcast : (j : K) ≤ k := by exact_mod_cast hjk
  rw [initRatio_eq (hjk.trans hk), initRatio_eq hk]
  exact div_le_div_of_nonneg_right hcast (by norm_num)

/-- A target of the ramp lies between the measured position and the standing pose. -/
theorem rampTarget_mem {ratio : K} (h0 : 0 ≤ ratio) (h1 : ratio ≤ 1) (start : Joints K)
    (i : Fin 29) : rampTarget start ratio i ∈ Set.uIcc (start i) (g1DefaultAngles K i) := by
  rw [rampTarget_apply]
  generalize g1DefaultAngles K i = stand
  rcases le_total (start i) stand with hle | hge
  · rw [Set.uIcc_of_le hle]
    constructor
    · nlinarith
    · nlinarith
  · rw [Set.uIcc_of_ge hge]
    constructor
    · nlinarith
    · nlinarith

/-- The ramp of a robot that stands already. -/
theorem rampTarget_standing (ratio : K) :
    rampTarget (g1DefaultAngles K) ratio = g1DefaultAngles K := by
  funext i
  rw [rampTarget_apply]
  ring

/-- Short of its end the ramp is on the standing pose exactly if the robot is. -/
theorem rampTarget_eq_iff {ratio : K} (h : ratio ≠ 1) (start : Joints K) :
    rampTarget start ratio = g1DefaultAngles K ↔ start = g1DefaultAngles K := by
  constructor
  · intro heq
    funext i
    have hi := congrFun heq i
    rw [rampTarget_apply] at hi
    have hzero : (start i - g1DefaultAngles K i) * (1 - ratio) = 0 := by linear_combination hi
    rcases mul_eq_zero.mp hzero with hsame | hratio
    · exact sub_eq_zero.mp hsame
    · exact absurd (sub_eq_zero.mp hratio).symm h
  · rintro rfl
    exact rampTarget_standing ratio

end

/-! ## The watch -/

/-- A command of the ramp, with its ratio and the sample it starts from. -/
structure RampStep (K : Type) [Field K] where
  ratio : K
  measured : Joints K
  cmd : MotorCommand K

/-- The command of the ramp when the counter stands at `k`. -/
def rampStep (k : Nat) (measured : Joints K) : RampStep K :=
  { ratio := initRatio k
    measured := measured
    cmd := .withPolicyGains (rampTarget measured (initRatio k)) }

/-- The loop, the commands of the ramp, the last of them from the tick that left INIT on, and
whether the policy has stored a command. -/
structure RampWatch (K : Type) [Field K] where
  controller : WholeBodyController K := {}
  ramp : List (RampStep K) := []
  last : Option (RampStep K) := none
  policy : Bool := false

namespace RampWatch

def start (auto : Bool) : RampWatch K := { controller := { autoStart := auto } }

/-- What the ramp stores in a tick. -/
def rampSteps (c : WholeBodyController K) (r : TickReads K) : List (RampStep K) :=
  ((c.loopIteration r).commands.filter fun p => decide (p.1 = .initRamp)).map fun p =>
    { ratio := initRatio c.initTicks
      measured := fun i => ((r.robotState.getD {}).motors i).q
      cmd := p.2 }

def tick (w : RampWatch K) (r : TickReads K) : RampWatch K :=
  let c := w.controller.loopIteration r
  let ramp := w.ramp ++ rampSteps w.controller r
  { controller := c
    ramp := ramp
    last :=
      if w.controller.state = .init ∧ c.state = .waitForControl then ramp.getLast? else w.last
    policy := w.policy || c.commands.any fun p => decide (p.1 = .policy) }

def run (auto : Bool) (rs : List (TickReads K)) : RampWatch K := rs.foldl tick (start auto)

/-- The sample of a tick that passes the loss gate and still finds LowState behind it. -/
def sample (r : TickReads K) : Option (Joints K) :=
  if checkSafety r.lowState r.now then r.robotState.map fun st i => (st.motors i).q else none

/-- The samples of a run, up to the emergency stop. -/
def samples (rs : List (TickReads K)) : List (Joints K) :=
  (rs.takeWhile fun r => !r.estop).filterMap sample

/-- The ramp of a run is as it should be: its ratios do not decrease and stay from zero to one, its
targets lie between the measured position and the standing pose, its last command is the standing
pose, and that one stays in the buffer until the first command of the policy. -/
structure EndsStanding (w : RampWatch K) : Prop where
  nondecreasing : w.ramp.Pairwise fun s t => s.ratio ≤ t.ratio
  first : ∀ s, w.ramp.head? = some s → s.ratio = 0
  range : ∀ s ∈ w.ramp, 0 ≤ s.ratio ∧ s.ratio ≤ 1
  between : ∀ s ∈ w.ramp, ∀ i,
    s.cmd.qTarget i ∈ Set.uIcc (s.measured i) (g1DefaultAngles K i)
  standing : ∀ s, w.last = some s → s.cmd.qTarget = g1DefaultAngles K
  repeated : ∀ s, w.last = some s → w.controller.state ≠ .estop → w.policy = false →
    w.controller.motorCommandBuf.data = some s.cmd

/-- The robot stands at the last sample of the ramp. -/
def LastStands (rs : List (TickReads K)) : Prop :=
  ∀ m, (samples rs)[kInitTicks - 1]? = some m → m = g1DefaultAngles K

/-! ## What a tick does to the ramp -/

/-- Before, behind and in the ramp. -/
inductive RampTick (c : WholeBodyController K) (r : TickReads K) (c' : WholeBodyController K)
    (steps : List (RampStep K)) : Prop
  | estop (he : r.estop = true) (hstate : c'.state = .estop) (hsteps : steps = [])
  | held (he : r.estop = false) (hs : c.state = .init) (hnone : sample r = none)
      (hstate : c'.state = .init) (hticks : c'.initTicks = c.initTicks) (hsteps : steps = [])
  | step (m : Joints K) (he : r.estop = false) (hs : c.state = .init) (hsome : sample r = some m)
      (hstate : c'.state = if kInitTicks ≤ c.initTicks + 1 then .waitForControl else .init)
      (hticks : c'.initTicks = c.initTicks + 1) (hmissing : c'.stateMissingTicks = 0)
      (hbuf : c'.motorCommandBuf.data = some (rampStep c.initTicks m).cmd)
      (hsteps : steps = [rampStep c.initTicks m])
  | past (he : r.estop = false) (hs : c.state ≠ .init) (hstate : c'.state ≠ .init)
      (hestop : c'.state = .estop ↔ c.state = .estop) (hsteps : steps = [])

variable {c : WholeBodyController K} {r : TickReads K}

theorem resumed_init (r : TickReads K) (hs : c.state = .init) :
    c.resumed r = { c with outputs := [], stateMissingTicks := 0 } := by
  simp [resumed, tickRecovered, reentryDue, hs]

/-- A tick with LowState present. -/
theorem loopIteration_safe (he : r.estop = false) (hsafe : checkSafety r.lowState r.now = true) :
    c.loopIteration r = ((c.resumed r).tickState r).traceTick r.traceEnabled := by
  unfold loopIteration
  dsimp only
  simp only [he, hsafe, Bool.not_true, Bool.false_eq_true, if_false]
  rfl

theorem loopIteration_safe_state (he : r.estop = false)
    (hsafe : checkSafety r.lowState r.now = true) :
    (c.loopIteration r).state = ((c.resumed r).tickState r).state ∧
      (c.loopIteration r).initTicks = ((c.resumed r).tickState r).initTicks := by
  obtain ⟨_, htrace⟩ := ((c.resumed r).tickState r).traceTick_frame r.traceEnabled
  rw [loopIteration_safe he hsafe, htrace]
  exact ⟨rfl, rfl⟩

/-- The counter counts the samples, and leaves INIT at the last of them. -/
theorem tickInit_some (st : UnitreeState K) (now : TimePoint) :
    (c.tickInit (some st) now).initTicks = c.initTicks + 1 ∧
      (c.tickInit (some st) now).state =
        if kInitTicks ≤ c.initTicks + 1 then .waitForControl else c.state := by
  unfold tickInit
  dsimp only
  split
  · rename_i hdone
    exact ⟨rfl, (if_pos hdone).symm⟩
  · rename_i hmore
    exact ⟨rfl, (if_neg hmore).symm⟩

theorem tickState_init (hs : c.state = .init) :
    c.tickState r = c.tickInit r.robotState r.now := by
  unfold tickState
  rw [hs]

theorem tickControl_state (hs : c.state = .control) : (c.tickControl r).state = .control :=
  (stores_tickControl c r).control hs

/-- The switch does not come back to INIT, and neither enters nor leaves the emergency stop. -/
theorem tickState_past (hs : c.state ≠ .init) :
    (c.tickState r).state ≠ .init ∧ ((c.tickState r).state = .estop ↔ c.state = .estop) := by
  unfold tickState
  cases hstate : c.state with
  | init => exact absurd hstate hs
  | waitForControl =>
    dsimp only [tickWait]
    split
    · exact ⟨State.noConfusion, ⟨State.noConfusion, State.noConfusion⟩⟩
    · rw [hstate]
      exact ⟨State.noConfusion, Iff.rfl⟩
  | control =>
    dsimp only
    rw [tickControl_state hstate]
    exact ⟨State.noConfusion, Iff.rfl⟩
  | estop =>
    dsimp only
    rw [hstate]
    exact ⟨State.noConfusion, Iff.rfl⟩

/-- A tick that stores no command of the ramp. -/
theorem rampSteps_eq_nil (h : ∀ p ∈ (c.loopIteration r).commands, p.1 ≠ .initRamp) :
    rampSteps c r = [] := by
  unfold rampSteps
  rw [List.filter_eq_nil_iff.mpr, List.map_nil]
  intro p hp
  simpa using h p hp

theorem tickMissing_writers (c : WholeBodyController K) (now : TimePoint) :
    ∀ p ∈ (({ c with outputs := [] } : WholeBodyController K).tickMissing now).commands,
      p.1 = .baseHold := by
  intro p hp
  rw [tickMissing_commands _ _ rfl] at hp
  split at hp
  · rw [List.mem_singleton.mp hp]
  · cases hp

/-- Behind INIT only the policy stores commands. -/
theorem stateOut_policy {p : Writer × MotorCommand K} (hs : c.state ≠ .init)
    (h : c.stateOut r = some p) : p.1 = .policy := by
  unfold stateOut at h
  cases hstate : c.state with
  | init => exact absurd hstate hs
  | waitForControl =>
    rw [hstate] at h
    cases h
  | control =>
    rw [hstate] at h
    exact controlOut_policy h
  | estop =>
    rw [hstate] at h
    cases h

theorem tickMissing_state (c : WholeBodyController K) (now : TimePoint) :
    (c.tickMissing now).state = c.state ∧ (c.tickMissing now).initTicks = c.initTicks := by
  obtain ⟨_, _, _, _, h⟩ := c.tickMissing_frame now
  rw [h]
  exact ⟨rfl, rfl⟩

theorem sample_of_missing (hsafe : checkSafety r.lowState r.now = false) : sample r = none := by
  rw [sample, hsafe, if_neg Bool.false_ne_true]

/-- **The tick and the ramp.** -/
theorem ramp_tick (c : WholeBodyController K) (r : TickReads K) :
    RampTick c r (c.loopIteration r) (rampSteps c r) := by
  rcases loopIteration_cases c r with ⟨he, hc⟩ | ⟨he, hsafe, hc⟩ | ⟨he, hsafe, hst⟩
  · refine .estop he ?_ (rampSteps_eq_nil ?_)
    · rw [hc]
      rfl
    · rw [hc]
      simp [tickEstop, publishDamping, publish, emit, commands, Output.command]
  · have hsteps : rampSteps c r = [] := by
      apply rampSteps_eq_nil
      intro p hp
      rw [hc] at hp
      rw [tickMissing_writers c r.now p hp]
      exact Writer.noConfusion
    obtain ⟨hstate, hticks⟩ := tickMissing_state ({ c with outputs := [] }) r.now
    rw [← hc] at hstate hticks
    by_cases hs : c.state = .init
    · exact .held he hs (sample_of_missing hsafe) (hstate.trans hs) hticks hsteps
    · refine .past he hs ?_ ?_ hsteps
      · rw [hstate]
        exact hs
      · rw [hstate]
  · obtain ⟨hstate, hticks⟩ := loopIteration_safe_state (c := c) he hsafe
    have hcommands : (c.loopIteration r).commands = ((c.resumed r).stateOut r).toList :=
      hst.commands
    by_cases hs : c.state = .init
    · have hsample : sample r = r.robotState.map fun st i => (st.motors i).q := by
        rw [sample, hsafe, if_pos rfl]
      have hsame : (c.resumed r).state = .init := by
        rw [resumed, tickRecovered_state]
        exact hs
      have hout : (c.resumed r).stateOut r =
          (sample r).map fun m => (Writer.initRamp, (rampStep c.initTicks m).cmd) := by
        rw [resumed_init r hs, hsample, stateOut]
        dsimp only
        rw [hs]
        dsimp only [initOut]
        rw [Option.map_map]
        rfl
      rw [tickState_init hsame, resumed_init r hs] at hstate hticks
      cases hq : r.robotState with
      | none =>
        have hnone : sample r = none := by rw [hsample, hq, Option.map_none]
        rw [hq] at hstate hticks
        refine .held he hs hnone (hstate.trans hs) hticks (rampSteps_eq_nil ?_)
        rw [hcommands, hout, hnone]
        intro p hp
        cases hp
      | some st =>
        have hsome : sample r = some fun i => (st.motors i).q := by
          rw [hsample, hq, Option.map_some]
        rw [hq] at hstate hticks
        rw [(tickInit_some st r.now).1] at hticks
        rw [(tickInit_some st r.now).2] at hstate
        dsimp only at hstate hticks
        rw [hs] at hstate
        refine .step _ he hs hsome hstate hticks hst.missing ?_ ?_
        · rw [hst.data, hout, hsome]
          rfl
        · unfold rampSteps
          rw [hcommands, hout, hsome, hq]
          rfl
    · have hsame : (c.resumed r).state = c.state := by
        rw [resumed, tickRecovered_state]
      have hpast := tickState_past (r := r) (hsame ▸ hs : (c.resumed r).state ≠ .init)
      rw [← hstate, hsame] at hpast
      refine .past he hs hpast.1 hpast.2 (rampSteps_eq_nil ?_)
      intro p hp
      rw [hcommands, Option.mem_toList] at hp
      rw [stateOut_policy (hsame ▸ hs) hp]
      exact Writer.noConfusion

/-! ## The ramp so far -/

/-- In INIT the ramp has as many commands as the counter says, behind it all of them. -/
structure RampInv (w : RampWatch K) : Prop where
  cmds : ∀ k s, w.ramp[k]? = some s → s = rampStep k s.measured
  length : w.ramp.length ≤ kInitTicks
  counting : w.controller.state = .init →
    w.controller.initTicks = w.ramp.length ∧ w.ramp.length < kInitTicks
  past : w.controller.state ≠ .init → w.controller.state ≠ .estop →
    w.ramp.length = kInitTicks
  last : w.last = w.ramp[kInitTicks - 1]?

variable {w : RampWatch K}

theorem tick_ramp_nil (hsteps : rampSteps w.controller r = []) : (w.tick r).ramp = w.ramp := by
  rw [tick, hsteps]
  exact List.append_nil _

theorem tick_ramp_singleton {s : RampStep K} (hsteps : rampSteps w.controller r = [s]) :
    (w.tick r).ramp = w.ramp ++ [s] := by
  rw [tick, hsteps]

theorem rampInv_start (auto : Bool) : RampInv (start auto : RampWatch K) where
  cmds := fun _ _ h => by cases h
  length := Nat.zero_le _
  counting := fun _ => ⟨rfl, Nat.succ_pos _⟩
  past := fun h => absurd rfl h
  last := rfl

/-- A tick that adds no command and does not leave INIT. -/
theorem RampInv.idle (hinv : RampInv w) (hsteps : rampSteps w.controller r = [])
    (hleave : ¬ (w.controller.state = .init ∧ (w.tick r).controller.state = .waitForControl))
    (hcounting : (w.tick r).controller.state = .init →
      w.controller.state = .init ∧
        (w.tick r).controller.initTicks = w.controller.initTicks)
    (hpast : (w.tick r).controller.state ≠ .init → (w.tick r).controller.state ≠ .estop →
      w.controller.state ≠ .init ∧ w.controller.state ≠ .estop) :
    RampInv (w.tick r) := by
  have hramp := tick_ramp_nil hsteps
  have hlast : (w.tick r).last = w.last := if_neg hleave
  constructor
  · rw [hramp]
    exact hinv.cmds
  · rw [hramp]
    exact hinv.length
  · intro hs
    obtain ⟨hbefore, hsame⟩ := hcounting hs
    rw [hramp, hsame]
    exact hinv.counting hbefore
  · intro hs he
    obtain ⟨hbefore, hnone⟩ := hpast hs he
    rw [hramp]
    exact hinv.past hbefore hnone
  · rw [hlast, hramp]
    exact hinv.last

/-- A tick that adds a command, the last one or not. -/
theorem RampInv.step (hinv : RampInv w) {m : Joints K} (hs : w.controller.state = .init)
    (hsteps : rampSteps w.controller r = [rampStep w.controller.initTicks m])
    (hticks : (w.tick r).controller.initTicks = w.controller.initTicks + 1)
    (hstate : (w.tick r).controller.state =
      if kInitTicks ≤ w.controller.initTicks + 1 then .waitForControl else .init) :
    RampInv (w.tick r) := by
  obtain ⟨hcount, hlt⟩ := hinv.counting hs
  rw [hcount] at hsteps hticks hstate
  have hramp := tick_ramp_singleton hsteps
  have hlength : (w.tick r).ramp.length = w.ramp.length + 1 := by
    rw [hramp, List.length_append, List.length_singleton]
  constructor
  · intro k s hk
    rw [hramp] at hk
    rcases Nat.lt_or_ge k w.ramp.length with hold | hnew
    · rw [List.getElem?_append_left hold] at hk
      exact hinv.cmds k s hk
    · rw [List.getElem?_append_right hnew, List.getElem?_singleton] at hk
      split at hk
      · rename_i hzero
        have heq : k = w.ramp.length := by omega
        rw [heq, ← Option.some.inj hk]
        rfl
      · cases hk
  · rw [hlength]
    exact hlt
  · intro hinit
    rw [hstate] at hinit
    split at hinit
    · cases hinit
    · rename_i hmore
      refine ⟨?_, ?_⟩
      · rw [hlength]
        exact hticks
      · rw [hlength]
        exact Nat.lt_of_not_le hmore
  · intro hwait _
    rw [hstate] at hwait
    split at hwait
    · rename_i hdone
      rw [hlength]
      exact Nat.le_antisymm hlt hdone
    · exact absurd rfl hwait
  · by_cases hdone : kInitTicks ≤ w.ramp.length + 1
    · have hleave : w.controller.state = .init ∧
          (w.tick r).controller.state = .waitForControl := by
        rw [hstate, if_pos hdone]
        exact ⟨hs, rfl⟩
      have hlast : (w.tick r).last = (w.tick r).ramp.getLast? := if_pos hleave
      have hlen : (w.tick r).ramp.length = kInitTicks := by
        rw [hlength]
        exact Nat.le_antisymm hlt hdone
      rw [hlast, List.getLast?_eq_getElem?, hlen]
    · have hstay : ¬ (w.controller.state = .init ∧
          (w.tick r).controller.state = .waitForControl) := by
        rintro ⟨-, hwait⟩
        rw [hstate, if_neg hdone] at hwait
        cases hwait
      have hlast : (w.tick r).last = w.last := if_neg hstay
      rw [hlast, hinv.last, List.getElem?_eq_none (Nat.le_sub_one_of_lt hlt),
        List.getElem?_eq_none (hlength ▸ by omega)]

theorem RampInv.tick (hinv : RampInv w) : RampInv (w.tick r) := by
  cases ramp_tick w.controller r with
  | estop he hstate hsteps =>
    refine hinv.idle hsteps ?_ ?_ ?_
    · rintro ⟨-, hwait⟩
      exact State.noConfusion (hstate.symm.trans hwait)
    · intro hs
      exact State.noConfusion (hstate.symm.trans hs)
    · intro _ hne
      exact absurd hstate hne
  | held he hs hnone hstate hticks hsteps =>
    refine hinv.idle hsteps ?_ ?_ ?_
    · rintro ⟨-, hwait⟩
      exact State.noConfusion (hstate.symm.trans hwait)
    · intro _
      exact ⟨hs, hticks⟩
    · intro hne
      exact absurd hstate hne
  | past he hs hstate hestop hsteps =>
    refine hinv.idle hsteps ?_ ?_ ?_
    · rintro ⟨hinit, -⟩
      exact hs hinit
    · intro hinit
      exact absurd hinit hstate
    · intro _ hne
      exact ⟨hs, fun h => hne (hestop.mpr h)⟩
  | step m he hs hsome hstate hticks hmissing hbuf hsteps =>
    exact hinv.step hs hsteps hticks hstate

theorem rampInv_run (auto : Bool) (rs : List (TickReads K)) :
    RampInv (run auto rs : RampWatch K) :=
  List.foldlRecOn rs tick (rampInv_start auto) fun _ hinv _ _ => hinv.tick

/-- In the middle of the ramp there is no last command. -/
theorem RampInv.last_init (hinv : RampInv w) (hs : w.controller.state = .init) :
    w.last = none := by
  rw [hinv.last, List.getElem?_eq_none (Nat.le_sub_one_of_lt (hinv.counting hs).2)]

/-! ## The samples of the ramp -/

theorem samples_cons (he : r.estop = false) (rs : List (TickReads K)) :
    samples (r :: rs) = (sample r).toList ++ samples rs := by
  unfold samples
  rw [List.takeWhile_cons_of_pos (by rw [he]; rfl), List.filterMap_cons]
  cases sample r <;> rfl

theorem samples_estop (he : r.estop = true) (rs : List (TickReads K)) :
    samples (r :: rs) = [] := by
  unfold samples
  rw [List.takeWhile_cons_of_neg (by rw [he]; decide), List.filterMap_nil]

/-- Behind INIT the ramp has its commands. -/
theorem ramp_past (hs : w.controller.state ≠ .init) (rs : List (TickReads K)) :
    (rs.foldl tick w).ramp = w.ramp := by
  induction rs generalizing w with
  | nil => rfl
  | cons r rs ih =>
    have htick : (w.tick r).controller.state ≠ .init ∧ (w.tick r).ramp = w.ramp := by
      cases ramp_tick w.controller r with
      | estop he hstate hsteps =>
        exact ⟨fun h => State.noConfusion (hstate.symm.trans h), tick_ramp_nil hsteps⟩
      | held he hinit => exact absurd hinit hs
      | step m he hinit => exact absurd hinit hs
      | past he hs hstate hestop hsteps =>
        exact ⟨hstate, tick_ramp_nil hsteps⟩
    rw [List.foldl_cons, ih htick.1, htick.2]

/-- **The samples of the ramp.** A run from the middle of INIT goes on with the samples that it
passes, up to 150 of them. -/
theorem run_measured (hinv : RampInv w) (hs : w.controller.state = .init)
    (rs : List (TickReads K)) :
    (rs.foldl tick w).ramp.map RampStep.measured =
      w.ramp.map RampStep.measured ++ (samples rs).take (kInitTicks - w.ramp.length) := by
  induction rs generalizing w with
  | nil => rw [samples, List.takeWhile_nil, List.filterMap_nil, List.take_nil, List.append_nil,
      List.foldl_nil]
  | cons r rs ih =>
    rw [List.foldl_cons]
    cases ramp_tick w.controller r with
    | estop he hstate hsteps =>
      have hpast : (w.tick r).controller.state ≠ .init := fun h =>
        State.noConfusion (hstate.symm.trans h)
      rw [samples_estop he, List.take_nil, List.append_nil, ramp_past hpast rs,
        tick_ramp_nil hsteps]
    | held he hinit hnone hstate hticks hsteps =>
      rw [ih hinv.tick hstate, tick_ramp_nil hsteps, samples_cons he, hnone]
      rfl
    | past he hne => exact absurd hs hne
    | step m he hinit hsome hstate hticks hmissing hbuf hsteps =>
      obtain ⟨hcount, hlt⟩ := hinv.counting hs
      have hramp : (w.tick r).ramp.map RampStep.measured =
          w.ramp.map RampStep.measured ++ [m] := by
        rw [tick_ramp_singleton hsteps, List.map_append]
        rfl
      have hlength : (w.tick r).ramp.length = w.ramp.length + 1 := by
        rw [tick_ramp_singleton hsteps, List.length_append, List.length_singleton]
      obtain ⟨n, hn⟩ : ∃ n, kInitTicks - w.ramp.length = n + 1 := ⟨_, Nat.succ_pred
        (Nat.sub_ne_zero_of_lt hlt) |>.symm⟩
      rw [samples_cons he, hsome, hn, Option.toList_some, List.singleton_append,
        List.take_succ_cons]
      by_cases hdone : kInitTicks ≤ w.ramp.length + 1
      · have hpast : (w.tick r).controller.state ≠ .init := by
          intro h
          rw [← hcount] at hdone
          rw [if_pos hdone] at hstate
          exact State.noConfusion (hstate.symm.trans h)
        have hzero : n = 0 := by omega
        rw [ramp_past hpast rs, hramp, hzero, List.take_zero]
      · have hstay : (w.tick r).controller.state = .init := by
          rw [← hcount] at hdone
          rw [if_neg hdone] at hstate
          exact hstate
        have hrest : kInitTicks - (w.tick r).ramp.length = n := by omega
        rw [ih hinv.tick hstay, hramp, hrest, List.append_assoc, List.singleton_append]

/-- The sample of the last command. -/
theorem last_measured (auto : Bool) (rs : List (TickReads K)) :
    (run auto rs : RampWatch K).last.map RampStep.measured = (samples rs)[kInitTicks - 1]? := by
  have hmeasured := run_measured (rampInv_start auto) rfl rs
  rw [(rampInv_run auto rs).last, ← List.getElem?_map]
  unfold run
  rw [hmeasured]
  change ([] ++ (samples rs).take (kInitTicks - 0))[kInitTicks - 1]? = _
  rw [List.nil_append, List.getElem?_take_of_lt (by decide)]

/-! ## The last command stays -/

/-- The command of a robot that stands. -/
def standingCommand : MotorCommand K := .withPolicyGains (g1DefaultAngles K)

/-- Beyond the grace window a missing tick stores the ramp from its start. -/
theorem tickMissing_data (now : TimePoint) (h : kStateGraceTicks ≤ c.stateMissingTicks) :
    (c.tickMissing now).motorCommandBuf.data =
      some (.withPolicyGains (rampTarget (c.tickMissing now).baseRampFrom.qTarget
        (baseRampRatio (c.stateMissingTicks + 1)))) := by
  unfold tickMissing
  dsimp only
  rw [if_pos (Nat.lt_succ_of_le h)]
  split <;> rfl

/-- The buffer holds the standing command, and a loss ramps from it. -/
def Rests (c : WholeBodyController K) : Prop :=
  c.motorCommandBuf.data = some standingCommand ∧
    (kStateGraceTicks < c.stateMissingTicks → c.baseRampFrom = standingCommand)

/-- The last command of a ramp that ended on the standing pose stays until the policy's first. -/
def Repeats (w : RampWatch K) : Prop :=
  ∀ s, w.last = some s → s.measured = g1DefaultAngles K → w.controller.state ≠ .estop →
    w.policy = false → Rests w.controller

section

variable [IsStrictOrderedRing K]

theorem rampStep_standing (k : Nat) :
    (rampStep k (g1DefaultAngles K)).cmd = standingCommand := by
  rw [rampStep, rampTarget_standing]
  rfl

/-- The ramp of a loss from the standing pose is at the standing pose. -/
theorem tickMissing_rests (now : TimePoint) (h : Rests c) : Rests (c.tickMissing now) := by
  obtain ⟨hdata, hfrom⟩ := h
  rcases Nat.lt_or_ge c.stateMissingTicks kStateGraceTicks with hshort | hlong
  · rw [tickMissing_grace hshort]
    exact ⟨hdata, fun hmore => absurd hshort (Nat.not_lt.mpr (Nat.le_of_lt_succ hmore))⟩
  · have hstart : (c.tickMissing now).baseRampFrom = standingCommand := by
      rw [tickMissing_rampFrom hlong]
      split
      · rw [hdata, Option.getD_some]
      · rename_i hne
        exact hfrom (lt_of_le_of_ne hlong (Ne.symm hne))
    refine ⟨?_, fun _ => hstart⟩
    rw [tickMissing_data now hlong, hstart]
    exact congrArg (fun q => some (MotorCommand.withPolicyGains q)) (rampTarget_standing _)

/-- A tick that leaves the last command where it is. -/
theorem Repeats.past (h : Repeats w) (hs : w.controller.state ≠ .init)
    (hestop : (w.tick r).controller.state = .estop ↔ w.controller.state = .estop)
    (he : r.estop = false) : Repeats (w.tick r) := by
  intro s hlast hstand hne hpolicy
  have hkept : (w.tick r).last = w.last := if_neg fun hleave => hs hleave.1
  obtain ⟨hbefore, hnone⟩ := Bool.or_eq_false_iff.mp hpolicy
  have hrests : Rests w.controller :=
    h s (hkept ▸ hlast) hstand (fun heq => hne (hestop.mpr heq)) hbefore
  rcases loopIteration_cases w.controller r with ⟨hpressed, -⟩ | ⟨-, hsafe, hc⟩ | ⟨-, hsafe, hst⟩
  · exact Bool.noConfusion (he.symm.trans hpressed)
  · have hmissing : Rests (({ w.controller with outputs := [] } :
        WholeBodyController K).tickMissing r.now) := tickMissing_rests r.now hrests
    rw [← hc] at hmissing
    exact hmissing
  · have hcommands : (w.controller.loopIteration r).commands =
        ((w.controller.resumed r).stateOut r).toList := hst.commands
    have hsame : (w.controller.resumed r).state ≠ .init := by
      rw [resumed, tickRecovered_state]
      exact hs
    have hout : (w.controller.resumed r).stateOut r = none := by
      rw [Option.eq_none_iff_forall_ne_some]
      intro p hp
      have hmem : p ∈ (w.controller.loopIteration r).commands := by
        rw [hcommands, hp]
        exact List.mem_singleton_self p
      exact List.any_eq_false.mp hnone p hmem (decide_eq_true (stateOut_policy hsame hp))
    have hdata := hst.data
    rw [hout] at hdata
    have hzero : (w.tick r).controller.stateMissingTicks = 0 := hst.missing
    refine ⟨hdata.trans hrests.1, fun hmore => ?_⟩
    rw [hzero] at hmore
    exact absurd hmore (Nat.not_lt_zero _)

theorem Repeats.tick (hinv : RampInv w) (h : Repeats w) : Repeats (w.tick r) := by
  cases ramp_tick w.controller r with
  | estop he hstate =>
    intro _ _ _ hne
    exact absurd hstate hne
  | held he hs hnone hstate =>
    intro s hlast
    rw [hinv.tick.last_init hstate] at hlast
    cases hlast
  | past he hs hstate hestop => exact h.past hs hestop he
  | step m he hs hsome hstate hticks hmissing hbuf hsteps =>
    intro s hlast hstand _ _
    rw [hinv.tick.last, tick_ramp_singleton hsteps, List.getElem?_append_right
      (Nat.le_sub_one_of_lt (hinv.counting hs).2), List.getElem?_singleton] at hlast
    have hnew : s = rampStep w.controller.initTicks m := by
      split at hlast
      · exact (Option.some.inj hlast).symm
      · cases hlast
    have hm : m = g1DefaultAngles K := by
      rw [hnew] at hstand
      exact hstand
    have hzero : (w.tick r).controller.stateMissingTicks = 0 := hmissing
    refine ⟨?_, fun hmore => ?_⟩
    · rw [← rampStep_standing w.controller.initTicks, ← hm]
      exact hbuf
    · rw [hzero] at hmore
      exact absurd hmore (Nat.not_lt_zero _)

theorem repeats_run (auto : Bool) (rs : List (TickReads K)) :
    Repeats (run auto rs : RampWatch K) := by
  have hstart : RampInv (start auto : RampWatch K) ∧ Repeats (start auto : RampWatch K) :=
    ⟨rampInv_start auto, fun _ h => by cases h⟩
  have hrun : RampInv (run auto rs : RampWatch K) ∧ Repeats (run auto rs) :=
    List.foldlRecOn (motive := fun w => RampInv w ∧ Repeats w) rs RampWatch.tick hstart
      fun _ h _ _ => ⟨h.1.tick, h.2.tick h.1⟩
  exact hrun.2

/-! ## The end of the ramp -/

/-- The ratio that the last command is short of one. -/
theorem initRatio_last : (initRatio (kInitTicks - 1) : K) = 149 / 150 := by
  rw [initRatio_eq (Nat.sub_le _ _)]
  norm_num [kInitTicks]

/-- The commands of a ramp are in order, and end on the standing pose if the robot stands. -/
theorem RampInv.endsStanding (hinv : RampInv w) (hrepeats : Repeats w)
    (hlast : ∀ s, w.last = some s → s.measured = g1DefaultAngles K) : EndsStanding w where
  nondecreasing := by
    rw [List.pairwise_iff_getElem]
    intro i j hi hj hij
    rw [hinv.cmds i _ (List.getElem?_eq_getElem hi), hinv.cmds j _ (List.getElem?_eq_getElem hj)]
    exact initRatio_mono hij.le (hj.le.trans hinv.length)
  first := by
    intro s hs
    rw [List.head?_eq_getElem?] at hs
    rw [hinv.cmds 0 s hs]
    change initRatio 0 = 0
    rw [initRatio_eq (Nat.zero_le _), Nat.cast_zero, zero_div]
  range := by
    intro s hs
    obtain ⟨k, hk⟩ := List.mem_iff_getElem?.mp hs
    rw [hinv.cmds k s hk]
    exact initRatio_mem k
  between := by
    intro s hs i
    obtain ⟨k, hk⟩ := List.mem_iff_getElem?.mp hs
    rw [hinv.cmds k s hk]
    exact rampTarget_mem (initRatio_mem k).1 (initRatio_mem k).2 s.measured i
  standing := by
    intro s hs
    rw [hinv.cmds _ s (hinv.last ▸ hs), hlast s hs, rampStep_standing]
    rfl
  repeated := by
    intro s hs hne hpolicy
    obtain ⟨hdata, -⟩ := hrepeats s hs (hlast s hs) hne hpolicy
    rw [hdata, hinv.cmds _ s (hinv.last ▸ hs), hlast s hs, rampStep_standing]

/-- The last command of a ramp is on the standing pose only if the robot is. -/
theorem RampInv.measured_of_standing (hinv : RampInv w) (hends : EndsStanding w)
    {s : RampStep K} (hs : w.last = some s) : s.measured = g1DefaultAngles K := by
  have hshort : (initRatio (kInitTicks - 1) : K) ≠ 1 := by
    rw [initRatio_last]
    norm_num
  have hstanding := hends.standing s hs
  rw [hinv.cmds _ s (hinv.last ▸ hs)] at hstanding
  exact (rampTarget_eq_iff hshort s.measured).mp hstanding

/-- **The end of the INIT ramp.** In every run, over any losses, a ramp that ends does so with the
ratio 149/150, and it is as it should be, last command on the standing pose included, exactly if
the robot stands at the last sample. -/
theorem init_ramp_iff (auto : Bool) (rs : List (TickReads K)) :
    (EndsStanding (run auto rs : RampWatch K) ↔ LastStands rs) ∧
      ∀ s, (run auto rs : RampWatch K).last = some s → s.ratio = 149 / 150 := by
  have hinv := rampInv_run auto rs
  have hmeasured := last_measured auto rs
  refine ⟨⟨?_, ?_⟩, ?_⟩
  · intro hends m hm
    rw [hm] at hmeasured
    obtain ⟨s, hs, rfl⟩ := Option.map_eq_some_iff.mp hmeasured
    exact hinv.measured_of_standing hends hs
  · intro hstands
    apply hinv.endsStanding (repeats_run auto rs)
    intro s hs
    rw [hs] at hmeasured
    exact hstands _ hmeasured.symm
  · intro s hs
    rw [hinv.cmds _ s (hinv.last ▸ hs)]
    exact initRatio_last

end

theorem samples_replicate {m : Joints K} (he : r.estop = false) (hsome : sample r = some m)
    (n : Nat) : samples (List.replicate n r) = List.replicate n m := by
  induction n with
  | zero => rfl
  | succ n ih =>
    rw [List.replicate_succ, List.replicate_succ, samples_cons he, hsome, ih]
    rfl

/-- A tick of the ramp that finds the joints at `q`. -/
def measuringTick (q : Joints ℚ) : TickReads ℚ :=
  { now := 1
    lowState := ⟨some {}, 1⟩
    robotState := some { motors := fun i => { q := q i } } }

theorem samples_measuring (q : Joints ℚ) :
    samples (List.replicate kInitTicks (measuringTick q)) = List.replicate kInitTicks q := by
  have hsafe : checkSafety (⟨some {}, 1⟩ : TimestampedData (UnitreeState ℚ)) 1 = true := by
    decide +kernel
  have hsample : sample (measuringTick q) = some q := by
    unfold sample
    exact if_pos hsafe
  exact samples_replicate rfl hsample _

/-- A ramp of a robot that stands already. -/
theorem init_ramp_iff_standing :
    EndsStanding (run false (List.replicate kInitTicks (measuringTick (g1DefaultAngles ℚ)))) := by
  refine (init_ramp_iff false _).1.mpr fun m hm => ?_
  rw [samples_measuring, List.getElem?_replicate_of_lt (by decide)] at hm
  exact (Option.some.inj hm).symm

/-- A robot with its joints at zero: the last command of the ramp is a 150th short of the standing
pose. -/
theorem init_ramp_ends_short :
    ¬ EndsStanding (run false (List.replicate kInitTicks (measuringTick fun _ => 0))) := by
  intro hends
  have hmeasured := last_measured false (List.replicate kInitTicks (measuringTick fun _ => 0))
  rw [samples_measuring, List.getElem?_replicate_of_lt (by decide)] at hmeasured
  obtain ⟨s, hs, hzero⟩ := Option.map_eq_some_iff.mp hmeasured
  have hstands := (rampInv_run false _).measured_of_standing hends hs
  have hfirst : (0 : ℚ) = g1DefaultAngles ℚ 0 := congrFun (hzero.symm.trans hstands) 0
  revert hfirst
  decide +kernel

end RampWatch

end Gearsonic
