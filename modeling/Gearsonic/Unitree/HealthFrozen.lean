import Gearsonic.Unitree.HealthHistory
import Mathlib.Algebra.BigOperators.Group.List.Basic
import Mathlib.Data.List.TakeWhile

/-!
# Frozen readings

What STATE FROZEN says of a motor: its reading has not changed over a run of calls, and two of the
commands in that run are further apart than the threshold. The timer is the time that the run has
lasted (`FrozenTrack.frozenS`). The command that later ones are compared with is taken on the first
repeated reading, and only if there is a command; without one it is left over from before the run.

* `FrozenTrack.concat`: what a call does to timer and reference, where the run starts with a
  command.
* `frozen_law_of_commanded`: the law, in every history whose runs all start with a command.
* `late_command_flags`: a command that never moves, and comes after the run has started, flags the
  motor.
-/

set_option linter.unusedSectionVars false

namespace Gearsonic

namespace HealthCall

variable {K : Type} [Field K]

/-- The reading of motor `i`. -/
def q (c : HealthCall K) (i : Fin 29) : Option K := c.body.map fun s => (s.motors i).q

/-- The command for motor `i`. -/
def target (c : HealthCall K) (i : Fin 29) : Option K := c.cmd.map fun cmd => cmd.qTarget i

end HealthCall

namespace MotorHealthRules

variable {K : Type} [Field K] [LinearOrder K]

/-- The reading of motor `i` in the last call that had one. -/
def lastQ (i : Fin 29) (cs : List (HealthCall K)) : Option K := (seen cs).head?.bind fun c => c.q i

/-- The calls, newest first, back to the last change of motor `i`'s reading. -/
def held (i : Fin 29) (cs : List (HealthCall K)) : List (HealthCall K) :=
  (seen cs).takeWhile fun c => decide (c.q i = lastQ i cs)

/-- The time from the first to the last call of a run. -/
def elapsed (run : List (HealthCall K)) : K := (run.dropLast.map HealthCall.dtS).sum

/-- Two commands of a run differ by more than `frozen_cmd_move`. -/
def CommandMoved (p : Params K) (i : Fin 29) (run : List (HealthCall K)) : Prop :=
  ∃ c ∈ run, ∃ d ∈ run, ∃ x y, c.target i = some x ∧ d.target i = some y ∧
    x ≠ y ∧ p.frozenCmdMove < |x - y|

/-- What a call does to the frozen flag of motor `i` after a history. -/
structure FrozenLaw (p : Params K) (cs : List (HealthCall K)) (c : HealthCall K) (i : Fin 29) :
    Prop where
  becomes : ((after p cs).body i).frozen = false → ((after p (cs ++ [c])).body i).frozen = true →
    ∃ run, run <+: seen (cs ++ [c]) ∧ (∀ d ∈ run, d.q i = lastQ i (cs ++ [c])) ∧
      p.frozenTimeS ≤ elapsed run ∧ CommandMoved p i run
  clears : ((after p cs).body i).frozen = true →
    (((after p (cs ++ [c])).body i).frozen = false ↔
      c.body.isSome = true ∧ c.q i ≠ lastQ i cs)

/-- A call that starts the timer of motor `i` has a command. -/
def StartsCommanded (p : Params K) (cs : List (HealthCall K)) (c : HealthCall K) (i : Fin 29) :
    Prop :=
  c.body.isSome = true → c.q i = lastQ i cs → ((after p cs).body i).frozenS = 0 → c.dtS ≠ 0 →
    c.cmd.isSome = true

/-- Timer and reference of motor `i` after a history. -/
structure FrozenTrack (i : Fin 29) (cs : List (HealthCall K)) (t : BodyTrack K) : Prop where
  last : lastQ i cs = if t.haveLast then some t.qLast else none
  frozenS : t.frozenS = elapsed (held i cs)
  start : t.frozenS ≠ 0 → ∃ c ∈ held i cs, c.target i = some t.cmdAtFreezeStart
  flagged : t.frozen = true → t.haveLast = true

variable {p : Params K} {i : Fin 29} {cs : List (HealthCall K)} {c : HealthCall K}
  {s : UnitreeState K}

/-! ## Runs of one reading -/

theorem seen_concat_some (cs : List (HealthCall K)) (hbody : c.body = some s) :
    seen (cs ++ [c]) = c :: seen cs := by
  rw [seen_concat, hbody]
  rfl

theorem seen_concat_none (cs : List (HealthCall K)) (hbody : c.body = none) :
    seen (cs ++ [c]) = seen cs := by
  rw [seen_concat, hbody]
  rfl

theorem q_some (hbody : c.body = some s) (i : Fin 29) : c.q i = some (s.motors i).q := by
  unfold HealthCall.q
  rw [hbody]
  rfl

theorem lastQ_concat_some (cs : List (HealthCall K)) (hbody : c.body = some s) (i : Fin 29) :
    lastQ i (cs ++ [c]) = some (s.motors i).q := by
  unfold lastQ
  rw [seen_concat_some cs hbody, List.head?_cons, Option.bind_some, q_some hbody]

/-- A repeated reading goes on with the run, another one starts a new one. -/
theorem held_concat_some (cs : List (HealthCall K)) (hbody : c.body = some s) (i : Fin 29) :
    held i (cs ++ [c]) = if c.q i = lastQ i cs then c :: held i cs else [c] := by
  have hlast := lastQ_concat_some cs hbody i
  unfold held
  rw [hlast, seen_concat_some cs hbody, List.takeWhile_cons, if_pos (by simp [q_some hbody])]
  by_cases hsame : c.q i = lastQ i cs
  · rw [if_pos hsame, ← hsame, q_some hbody]
  · rw [if_neg hsame]
    congr 1
    unfold lastQ at hsame
    cases hseen : seen cs with
    | nil => rfl
    | cons d earlier =>
      rw [hseen, List.head?_cons, Option.bind_some, q_some hbody] at hsame
      rw [List.takeWhile_cons, if_neg]
      simpa using Ne.symm hsame

theorem lastQ_eq_none_iff : lastQ i cs = none ↔ seen cs = [] := by
  unfold lastQ
  cases hseen : seen cs with
  | nil => exact ⟨fun _ => rfl, fun _ => rfl⟩
  | cons d earlier =>
    have hmem : d ∈ seen cs := hseen ▸ List.mem_cons_self
    obtain ⟨s, hs⟩ := Option.isSome_iff_exists.mp (List.mem_filter.mp hmem).2
    rw [List.head?_cons, Option.bind_some, q_some hs]
    exact ⟨nofun, nofun⟩

theorem held_eq_nil_iff : held i cs = [] ↔ lastQ i cs = none := by
  rw [lastQ_eq_none_iff]
  unfold held lastQ
  cases seen cs with
  | nil => exact ⟨fun _ => rfl, fun _ => rfl⟩
  | cons d earlier =>
    rw [List.head?_cons, Option.bind_some, List.takeWhile_cons, if_pos (decide_eq_true rfl)]
    exact ⟨nofun, nofun⟩

theorem elapsed_cons {run : List (HealthCall K)} (h : run ≠ []) (c : HealthCall K) :
    elapsed (c :: run) = c.dtS + elapsed run := by
  unfold elapsed
  rw [List.dropLast_cons_of_ne_nil h, List.map_cons, List.sum_cons]

theorem held_prefix (i : Fin 29) (cs : List (HealthCall K)) : held i cs <+: seen cs :=
  List.takeWhile_prefix _

theorem q_of_mem_held {d : HealthCall K} (h : d ∈ held i cs) : d.q i = lastQ i cs := by
  have hd := List.mem_takeWhile_imp h
  exact of_decide_eq_true hd

/-! ## One call -/

theorem frozenTrack_nil (p : Params K) (i : Fin 29) : FrozenTrack i [] ((after p []).body i) :=
  ⟨rfl, rfl, fun h => absurd rfl h, nofun⟩

/-- The fields of the frozen condition after a call with a body state. -/
theorem after_frozen (hon : p.enabled = true) (cs : List (HealthCall K)) (hbody : c.body = some s)
    (i : Fin 29) (hlast : ((after p cs).body i).haveLast = true) :
    let t := (after p cs).body i
    let counted := countFrozen i (s.motors i) c.cmd c.dtS t
    let t' := (after p (cs ++ [c])).body i
    t'.haveLast = true ∧ t'.qLast = (s.motors i).q ∧ t'.frozenS = counted.frozenS ∧
      t'.cmdAtFreezeStart = counted.cmdAtFreezeStart ∧
      t'.frozen = nextFrozen p i (s.motors i) c.cmd t counted := by
  dsimp only
  rw [after_body_some hon cs hbody i, stepBodyMotor_eq, stepFrozen_track hlast]
  exact ⟨rfl, rfl, rfl, rfl, rfl⟩

theorem after_frozen_first (hon : p.enabled = true) (cs : List (HealthCall K))
    (hbody : c.body = some s) (i : Fin 29) (hlast : ((after p cs).body i).haveLast = false) :
    let t := (after p cs).body i
    let t' := (after p (cs ++ [c])).body i
    t'.haveLast = true ∧ t'.qLast = (s.motors i).q ∧ t'.frozenS = t.frozenS ∧
      t'.cmdAtFreezeStart = t.cmdAtFreezeStart ∧ t'.frozen = t.frozen := by
  dsimp only
  rw [after_body_some hon cs hbody i, stepBodyMotor_eq, stepFrozen_first hlast]
  exact ⟨rfl, rfl, rfl, rfl, rfl⟩

/-- A reading repeats exactly where the track says so. -/
theorem FrozenTrack.same_iff {t : BodyTrack K} (h : FrozenTrack i cs t) (hlast : t.haveLast = true)
    (hbody : c.body = some s) : c.q i = lastQ i cs ↔ (s.motors i).q = t.qLast := by
  rw [h.last, if_pos hlast, q_some hbody, Option.some_inj]

/-- A repeated reading is timed; the reference is taken where the timer is still at zero and there
is a command. -/
theorem countFrozen_same {m : MotorState K} {t : BodyTrack K} (cmd : Option (MotorCommand K))
    (dtS : K) (hq : m.q = t.qLast) :
    (countFrozen i m cmd dtS t).frozenS = t.frozenS + dtS ∧
      (t.frozenS ≠ 0 → (countFrozen i m cmd dtS t).cmdAtFreezeStart = t.cmdAtFreezeStart) ∧
      ∀ k, cmd = some k → t.frozenS = 0 →
        (countFrozen i m cmd dtS t).cmdAtFreezeStart = k.qTarget i := by
  unfold countFrozen
  rw [if_pos hq]
  refine ⟨rfl, fun hne => ?_, ?_⟩
  · cases cmd with
    | none => rfl
    | some k => exact if_neg hne
  · rintro k rfl hzero
    exact if_pos hzero

theorem countFrozen_changed {m : MotorState K} {t : BodyTrack K} (cmd : Option (MotorCommand K))
    (dtS : K) (hq : m.q ≠ t.qLast) : (countFrozen i m cmd dtS t).frozenS = 0 := by
  unfold countFrozen
  rw [if_neg hq]

/-- A call without a body state. -/
theorem FrozenTrack.concat_none (h : FrozenTrack i cs ((after p cs).body i))
    (hbody : c.body = none) : FrozenTrack i (cs ++ [c]) ((after p (cs ++ [c])).body i) := by
  have hseen := seen_concat_none cs hbody
  rw [after_body_none cs hbody]
  refine ⟨?_, ?_, ?_, h.flagged⟩
  · unfold lastQ
    rw [hseen]
    exact h.last
  · unfold held lastQ
    rw [hseen]
    exact h.frozenS
  · unfold held lastQ
    rw [hseen]
    exact h.start

/-- The first reading. -/
theorem FrozenTrack.concat_first (hon : p.enabled = true)
    (h : FrozenTrack i cs ((after p cs).body i)) (hbody : c.body = some s)
    (hlast : ((after p cs).body i).haveLast = false) :
    FrozenTrack i (cs ++ [c]) ((after p (cs ++ [c])).body i) := by
  obtain ⟨hlast', hq', hS', -, -⟩ := after_frozen_first hon cs hbody i hlast
  have hheld := held_concat_some cs hbody i
  have hnone : lastQ i cs = none := by rw [h.last, hlast]; rfl
  have hzero : ((after p cs).body i).frozenS = 0 := by
    rw [h.frozenS, held_eq_nil_iff.mpr hnone]
    rfl
  have hfresh : ¬ c.q i = lastQ i cs := by
    rw [hnone, q_some hbody]
    exact nofun
  refine ⟨?_, ?_, fun hne => absurd (hS'.trans hzero) hne, fun _ => hlast'⟩
  · rw [lastQ_concat_some cs hbody, hlast', hq']
    rfl
  · rw [hS', hzero, hheld, if_neg hfresh]
    rfl

/-- After a call with a body state the last reading is that one's. -/
theorem lastQ_after (hon : p.enabled = true) (hbody : c.body = some s)
    (hlast : ((after p cs).body i).haveLast = true) : lastQ i (cs ++ [c]) =
      if ((after p (cs ++ [c])).body i).haveLast then
        some ((after p (cs ++ [c])).body i).qLast else none := by
  obtain ⟨hlast', hq', -, -, -⟩ := after_frozen hon cs hbody i hlast
  rw [lastQ_concat_some cs hbody, hlast', hq', if_pos rfl]

/-- A reading that repeats goes on with the run. -/
theorem FrozenTrack.concat_same (hon : p.enabled = true)
    (h : FrozenTrack i cs ((after p cs).body i)) (hstart : StartsCommanded p cs c i)
    (hbody : c.body = some s) (hlast : ((after p cs).body i).haveLast = true)
    (hq : (s.motors i).q = ((after p cs).body i).qLast) :
    FrozenTrack i (cs ++ [c]) ((after p (cs ++ [c])).body i) := by
  obtain ⟨hlast', -, hS', href', -⟩ := after_frozen hon cs hbody i hlast
  obtain ⟨hcount, hkept, htaken⟩ := countFrozen_same c.cmd c.dtS hq
  have hrepeats : c.q i = lastQ i cs := (h.same_iff hlast hbody).mpr hq
  have hheld := held_concat_some cs hbody i
  rw [hcount] at hS'
  rw [if_pos hrepeats] at hheld
  have hrun : held i cs ≠ [] := by
    rw [Ne, held_eq_nil_iff, ← hrepeats, q_some hbody]
    exact nofun
  refine ⟨lastQ_after hon hbody hlast, ?_, fun hne => ?_, fun _ => hlast'⟩
  · rw [hS', hheld, elapsed_cons hrun, h.frozenS, add_comm]
  · rw [hheld, href']
    by_cases hzero : ((after p cs).body i).frozenS = 0
    · -- the first repeated reading that takes time
      have hdt : c.dtS ≠ 0 := by
        rintro hdt
        rw [hS', hzero, hdt, add_zero] at hne
        exact hne rfl
      obtain ⟨k, hk⟩ := Option.isSome_iff_exists.mp
        (hstart (by rw [hbody]; rfl) hrepeats hzero hdt)
      refine ⟨c, List.mem_cons_self, ?_⟩
      rw [htaken k hk hzero]
      unfold HealthCall.target
      rw [hk]
      rfl
    · obtain ⟨d, hd, htarget⟩ := h.start hzero
      rw [hkept hzero]
      exact ⟨d, List.mem_cons_of_mem _ hd, htarget⟩

/-- A reading that changes starts a run. -/
theorem FrozenTrack.concat_changed (hon : p.enabled = true)
    (h : FrozenTrack i cs ((after p cs).body i)) (hbody : c.body = some s)
    (hlast : ((after p cs).body i).haveLast = true)
    (hq : (s.motors i).q ≠ ((after p cs).body i).qLast) :
    FrozenTrack i (cs ++ [c]) ((after p (cs ++ [c])).body i) := by
  obtain ⟨hlast', -, hS', -, -⟩ := after_frozen hon cs hbody i hlast
  have hchanged : ¬ c.q i = lastQ i cs := fun heq => hq ((h.same_iff hlast hbody).mp heq)
  have hheld := held_concat_some cs hbody i
  rw [if_neg hchanged] at hheld
  rw [countFrozen_changed c.cmd c.dtS hq] at hS'
  refine ⟨lastQ_after hon hbody hlast, ?_, fun hne => absurd hS' hne, fun _ => hlast'⟩
  rw [hS', hheld]
  rfl

/-- Where the timers start with a command, timer and reference are those of the run. -/
theorem FrozenTrack.concat (hon : p.enabled = true)
    (h : FrozenTrack i cs ((after p cs).body i)) (hstart : StartsCommanded p cs c i) :
    FrozenTrack i (cs ++ [c]) ((after p (cs ++ [c])).body i) := by
  cases hbody : c.body with
  | none => exact h.concat_none hbody
  | some s =>
    cases hlast : ((after p cs).body i).haveLast with
    | false => exact h.concat_first hon hbody hlast
    | true =>
      by_cases hq : (s.motors i).q = ((after p cs).body i).qLast
      · exact h.concat_same hon hstart hbody hlast hq
      · exact h.concat_changed hon hbody hlast hq

/-- The flag after a call with a body state that is not the first. -/
theorem FrozenTrack.nextFrozen_iff (hon : p.enabled = true)
    (h : FrozenTrack i cs ((after p cs).body i)) (hbody : c.body = some s) :
    ((after p cs).body i).frozen = true →
      (((after p (cs ++ [c])).body i).frozen = true ↔ c.q i = lastQ i cs) := by
  intro hfrozen
  have hlast := h.flagged hfrozen
  obtain ⟨-, -, -, -, hnext⟩ := after_frozen hon cs hbody i hlast
  rw [hnext, h.same_iff hlast hbody]
  unfold nextFrozen
  rw [if_pos hfrozen, decide_eq_true_iff]

theorem mem_held_concat (cs : List (HealthCall K)) (hbody : c.body = some s) (i : Fin 29) :
    c ∈ held i (cs ++ [c]) := by
  rw [held_concat_some cs hbody]
  split
  · exact List.mem_cons_self
  · exact List.mem_singleton_self c

theorem cmdMoved_iff {cmd : Option (MotorCommand K)} {t : BodyTrack K} :
    cmdMoved p i cmd t = true ↔
      ∃ k, cmd = some k ∧ p.frozenCmdMove < |k.qTarget i - t.cmdAtFreezeStart| := by
  unfold cmdMoved
  cases cmd with
  | none => exact ⟨nofun, fun ⟨k, hk, _⟩ => nomatch hk⟩
  | some k =>
    rw [decide_eq_true_iff]
    exact ⟨fun h => ⟨k, rfl, h⟩, fun ⟨k', hk, h⟩ => Option.some.inj hk ▸ h⟩

variable [IsStrictOrderedRing K]

/-- A motor that becomes flagged has been commanded away from a command of the same run. -/
theorem FrozenTrack.becomes (hon : p.enabled = true) (htime : 0 < p.frozenTimeS)
    (hmove : 0 ≤ p.frozenCmdMove) (h : FrozenTrack i cs ((after p cs).body i))
    (hstart : StartsCommanded p cs c i) (hclear : ((after p cs).body i).frozen = false)
    (hset : ((after p (cs ++ [c])).body i).frozen = true) :
    p.frozenTimeS ≤ elapsed (held i (cs ++ [c])) ∧ CommandMoved p i (held i (cs ++ [c])) := by
  have h' := h.concat hon hstart
  cases hbody : c.body with
  | none =>
    rw [after_body_none cs hbody, hclear] at hset
    exact absurd hset Bool.false_ne_true
  | some s =>
    cases hlast : ((after p cs).body i).haveLast with
    | false =>
      obtain ⟨-, -, -, -, hsame⟩ := after_frozen_first hon cs hbody i hlast
      rw [hsame, hclear] at hset
      exact absurd hset Bool.false_ne_true
    | true =>
      obtain ⟨-, -, hS', href', hnext⟩ := after_frozen hon cs hbody i hlast
      rw [hnext] at hset
      unfold nextFrozen at hset
      rw [if_neg (by rw [hclear]; decide), Bool.and_eq_true, decide_eq_true_iff, ← hS'] at hset
      obtain ⟨hlong, hmoved⟩ := hset
      obtain ⟨d, hd, htarget⟩ := h'.start (htime.trans_le hlong).ne'
      refine ⟨h'.frozenS ▸ hlong, c, mem_held_concat cs hbody i, d, hd, ?_⟩
      obtain ⟨k, hcmd, hfar⟩ := cmdMoved_iff.mp hmoved
      rw [← href'] at hfar
      refine ⟨k.qTarget i, _, ?_, htarget, ?_, hfar⟩
      · unfold HealthCall.target
        rw [hcmd]
        rfl
      · rintro heq
        rw [heq, sub_self, abs_zero] at hfar
        exact absurd hfar (not_lt.mpr hmove)

/-- Without the rules the flags stay clear. -/
theorem frozenLaw_off (hoff : p.enabled = false) (cs : List (HealthCall K)) (c : HealthCall K)
    (i : Fin 29) : FrozenLaw p cs c i := by
  constructor
  · intro _ hset
    rw [after_off hoff] at hset
    exact absurd hset Bool.false_ne_true
  · intro hset
    rw [after_off hoff] at hset
    exact absurd hset Bool.false_ne_true

theorem frozenLaw_concat (htime : 0 < p.frozenTimeS) (hmove : 0 ≤ p.frozenCmdMove)
    (h : FrozenTrack i cs ((after p cs).body i)) (hon : p.enabled = true)
    (hstart : StartsCommanded p cs c i) : FrozenLaw p cs c i := by
  constructor
  · intro hclear hset
    obtain ⟨hlong, hmoved⟩ := h.becomes hon htime hmove hstart hclear hset
    exact ⟨_, held_prefix i _, fun d hd => q_of_mem_held hd, hlong, hmoved⟩
  · intro hflagged
    cases hbody : c.body with
    | none =>
      rw [after_body_none cs hbody, hflagged]
      exact ⟨nofun, fun h => absurd h.1 Bool.false_ne_true⟩
    | some s =>
      have hiff := h.nextFrozen_iff hon hbody hflagged
      rw [Bool.eq_false_iff, Ne, hiff]
      exact ⟨fun hne => ⟨rfl, hne⟩, fun h => h.2⟩

/-- In every history whose timers all start with a command, a motor is flagged only if its reading
was held for the time and its command moved meanwhile, and it is cleared where its reading
changes. -/
theorem frozen_law_of_commanded (p : Params K) (i : Fin 29) (cs : List (HealthCall K))
    (htime : 0 < p.frozenTimeS) (hmove : 0 ≤ p.frozenCmdMove)
    (hstart : ∀ before c, before ++ [c] <+: cs → StartsCommanded p before c i) :
    ∀ before c, before ++ [c] <+: cs → FrozenLaw p before c i := by
  cases hon : p.enabled with
  | false => exact fun before c _ => frozenLaw_off hon before c i
  | true =>
    have htrack : ∀ before, before <+: cs → FrozenTrack i before ((after p before).body i) := by
      intro before
      induction before using List.reverseRecOn with
      | nil => exact fun _ => frozenTrack_nil p i
      | append_singleton before c ih =>
        intro hprefix
        exact (ih ((List.prefix_append _ _).trans hprefix)).concat hon (hstart before c hprefix)
    intro before c hprefix
    exact frozenLaw_concat htime hmove (htrack before ((List.prefix_append _ _).trans hprefix)) hon
      (hstart before c hprefix)

/-- A call half a second after the last, with all motors at zero. -/
def standing (target : Option ℚ) : HealthCall ℚ where
  body := some {}
  cmd := target.map fun x => { qTarget := fun _ => x }
  dtS := 1 / 2

theorem frozen_law_swept : ((after {} [standing (some 0), standing (some 0), standing (some 0),
      standing (some 1)]).body 0).frozen = true ∧
    FrozenLaw ({} : Params ℚ) [standing (some 0), standing (some 0), standing (some 0)]
      (standing (some 1)) 0 := by
  refine ⟨by decide +kernel, frozen_law_of_commanded {} 0 [standing (some 0), standing (some 0),
    standing (some 0), standing (some 1)] (by norm_num) (by norm_num) ?_ _ _ (List.prefix_rfl)⟩
  intro before c hprefix _ _ _ _
  have hmem : c ∈ [standing (some 0), standing (some 0), standing (some 0), standing (some 1)] :=
    hprefix.subset (List.mem_append_right _ (List.mem_singleton_self c))
  simp only [List.mem_cons, List.not_mem_nil, or_false] at hmem
  rcases hmem with rfl | rfl | rfl | rfl <;> rfl

/-- A robot stands for a while before there is a command; the first command is half a radian, and
moves nowhere. -/
theorem late_command_flags : ¬ FrozenLaw ({} : Params ℚ)
    [standing none, standing none, standing none] (standing (some (1 / 2))) 0 := by
  rintro ⟨hbecomes, -⟩
  obtain ⟨run, hrun, -, -, c, hc, d, hd, x, y, hx, hy, hne, -⟩ :=
    hbecomes (by decide +kernel) (by decide +kernel)
  have hone (e : HealthCall ℚ) (he : e ∈ run) (z : ℚ) (hz : e.target 0 = some z) : z = 1 / 2 := by
    have hmem := hrun.subset he
    simp only [seen, List.reverse_cons, List.reverse_nil, List.nil_append,
      List.cons_append, List.mem_filter, List.mem_cons, List.not_mem_nil, or_false] at hmem
    obtain ⟨rfl | rfl | rfl | rfl, -⟩ := hmem
    · exact (Option.some.inj hz).symm
    all_goals cases hz
  exact hne ((hone c hc x hx).trans (hone d hd y hy).symm)

end MotorHealthRules

end Gearsonic
