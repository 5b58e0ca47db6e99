import Gearsonic.Teleop.SmplResampler
import Mathlib.Algebra.Order.Floor.Semiring
import Mathlib.Data.List.Chain
import Mathlib.Tactic.Linarith
import Mathlib.Tactic.NormNum

/-!
# Resampling never runs backwards

The stream time of a sample call is its grid point, clamped to the retained samples. The
delay follows every interval, so a late packet moves the grid point back; with the default
parameters it never moves back by more than a tick moves it on.

* `push_cases`: what a push can do.
* `sample_valueAt`: a sample call returns the stream's value at its stream time.
* `streamTime_push`: a push moves the stream time back by less than a tick moves it on. An
  interval under 120 ms adds at most 18 ms to the delay, a longer one leaves the grid point at
  or after the newest sample before it.
* `resampling_monotone`: the stream times of a sequence of sample calls.
-/

set_option linter.unusedSectionVars false

namespace Gearsonic

namespace SmplResampler

variable {K : Type} [Field K] [LinearOrder K] [IsStrictOrderedRing K]

/-! ## One push -/

theorem seconds_le_zero {t0 t1 : Int} : (seconds t0 t1 : K) ≤ 0 ↔ t1 ≤ t0 := by
  have hpos : (0 : K) < (kSecond : K) := by norm_num [kSecond]
  unfold seconds
  rw [div_le_iff₀ hpos, zero_mul, ← Int.cast_zero, Int.cast_le]
  omega

/-- A push is the first sample, is ignored, or moves every sample one further back. -/
theorem push_cases (r : SmplResampler K) (pose : SmplPose K) (t : Int) :
    (r.count = 0 ∧ r.push pose t = r.store pose t) ∨
      (0 < r.count ∧ t ≤ r.newestT ∧ r.push pose t = r) ∨
      (0 < r.count ∧ r.newestT < t ∧ (r.push pose t).back 0 = t ∧
        (∀ k, k + 1 < kRing → (r.push pose t).back (k + 1) = r.back k) ∧
        (r.push pose t).count = (if r.count < kRing then r.count + 1 else r.count) ∧
        (r.push pose t).p = r.p ∧
        (r.push pose t).intervalS = (if r.count = 1 then seconds r.newestT t
          else (1 - r.p.ema) * r.intervalS + r.p.ema * seconds r.newestT t)) := by
  by_cases hcount : 0 < r.count
  · refine Or.inr ?_
    by_cases hlate : t ≤ r.newestT
    · refine Or.inl ⟨hcount, hlate, ?_⟩
      unfold push
      rw [if_pos hcount]
      exact if_pos (seconds_le_zero.mpr hlate)
    · have hpush : r.push pose t = (r.advance (seconds r.newestT t)).store pose t := by
        unfold push
        rw [if_pos hcount]
        exact if_neg fun h => hlate (seconds_le_zero.mp h)
      refine Or.inr ⟨hcount, by omega, ?_⟩
      rw [hpush]
      refine ⟨store_back_zero _ _ _, fun k hk => ?_, rfl, rfl, rfl⟩
      rw [store_back _ _ _ (Nat.succ_pos k) hk]
      exact congrArg r.times (r.advance_backSlot _ (by omega))
  · exact Or.inl ⟨by omega, if_neg hcount⟩

theorem Ordered.antitone {r : SmplResampler K} (h : r.Ordered) {j k : Nat} (hjk : j ≤ k)
    (hk : k < r.count) : r.back k ≤ r.back j := by
  induction k with
  | zero =>
    have hj : j = 0 := by omega
    rw [hj]
  | succ k ih =>
    by_cases hlast : j = k + 1
    · rw [hlast]
    · have hprev := ih (by omega) (by omega)
      exact (h.back k hk).le.trans hprev

theorem Ordered.oldest_le {r : SmplResampler K} (h : r.Ordered) {k : Nat} (hk : k < r.count) :
    r.oldestT ≤ r.back k :=
  h.antitone (by omega) (by omega)

theorem Ordered.oldest_le_newest {r : SmplResampler K} (h : r.Ordered) (hcount : 0 < r.count) :
    r.oldestT ≤ r.newestT := by
  rw [← back_zero]
  exact h.oldest_le hcount

theorem Ordered.push {r : SmplResampler K} (h : r.Ordered) (pose : SmplPose K) (t : Int) :
    (r.push pose t).Ordered := by
  rcases r.push_cases pose t with ⟨hzero, hpush⟩ | ⟨-, -, hpush⟩ |
    ⟨hcount, hnew, hback0, hback, hcount', -, -⟩
  · rw [hpush]
    have hone : (r.store pose t).count = 1 := by
      unfold store
      rw [hzero]
      rfl
    exact ⟨by rw [hone]; decide, fun k hk => by omega⟩
  · rw [hpush]
    exact h
  · have hle := h.count
    have hring : kRing = 8 := rfl
    refine ⟨?_, fun k hk => ?_⟩
    · rw [hcount']
      split <;> omega
    · have hbound : k + 1 < kRing ∧ k < r.count := by
        rw [hcount'] at hk
        split at hk <;> omega
      rw [hback k hbound.1]
      cases k with
      | zero =>
        rw [hback0, back_zero]
        exact hnew
      | succ k =>
        rw [hback k (by omega)]
        exact h.back k hbound.2

/-! ## What a sample call evaluates -/

section

variable [CMath K] [FloorRing K]

/-- The grid point of a sample call, clamped to the retained samples. -/
def streamTime (r : SmplResampler K) (now : Int) : Int :=
  max r.oldestT (min (r.target now) r.newestT)

/-- `pose` is the value of the retained stream at time `x`: a sample, or an interpolation of
the two around `x`. -/
def ValueAt (r : SmplResampler K) (x : Int) (pose : SmplPose K) : Prop :=
  (∃ k, k < r.count ∧ r.back k = x ∧ pose = r.poses (r.backSlot k)) ∨
    ∃ k, k + 1 < r.count ∧ r.back (k + 1) ≤ x ∧ x < r.back k ∧
      pose = lerp (r.poses (r.backSlot (k + 1))) (r.poses (r.backSlot k))
        (alphaFor (r.back (k + 1)) (r.back k) x)

theorem walk_valueAt {r : SmplResampler K} (h : r.Ordered) {x : Int} {k n : Nat}
    (hn : k + 1 + n = r.count) (hx : x < r.back k) :
    r.ValueAt (max r.oldestT x) (r.walk x (r.backSlot k) (List.range' (k + 1) n)) := by
  induction n generalizing k with
  | zero =>
    have hk : r.count - 1 = k := by omega
    have hold : r.oldestT = r.back k := congrArg r.back hk
    refine Or.inl ⟨k, by omega, ?_, rfl⟩
    rw [hold, max_eq_left hx.le]
  | succ n ih =>
    rw [List.range'_succ]
    unfold walk
    dsimp only
    by_cases hle : r.times (r.backSlot (k + 1)) ≤ x
    · have hmax : max r.oldestT x = x := max_eq_right ((h.oldest_le (by omega)).trans hle)
      rw [if_pos hle, hmax]
      exact Or.inr ⟨k, by omega, hle, hx, rfl⟩
    · rw [if_neg hle]
      exact ih (by omega) (not_le.mp hle)

/-- A sample call returns the value of the stream at its stream time. -/
theorem sample_valueAt {r : SmplResampler K} (h : r.Ordered) (hcount : 0 < r.count) (now : Int) :
    ∃ pose, r.sample now = some pose ∧ r.ValueAt (r.streamTime now) pose := by
  have hne : r.count ≠ 0 := by omega
  refine ⟨_, if_neg hne, ?_⟩
  unfold sampleAt streamTime
  by_cases hlate : r.times r.head ≤ r.target now
  · have hmin : min (r.target now) r.newestT = r.newestT := min_eq_right hlate
    rw [if_pos hlate, hmin, max_eq_right (h.oldest_le_newest hcount)]
    exact Or.inl ⟨0, hcount, r.back_zero, by rw [backSlot_zero]⟩
  · have hlt : r.target now < r.newestT := not_le.mp hlate
    rw [if_neg hlate, min_eq_left hlt.le]
    have hwalk := walk_valueAt (n := r.count - 1) h (k := 0) (by omega)
      (by rw [back_zero]; exact hlt)
    rw [backSlot_zero] at hwalk
    exact hwalk

/-! ## The delay -/

theorem clamp_le_add {x y d lo hi : K} (hlohi : lo ≤ hi) (hd : 0 ≤ d) (h : y ≤ x + d) :
    clamp y lo hi ≤ clamp x lo hi + d := by
  have hx := clamp_mem hlohi x
  unfold clamp at hx ⊢
  by_cases hylo : y < lo
  · rw [if_pos hylo]
    linarith [hx.1]
  · rw [if_neg hylo]
    by_cases hyhi : hi < y
    · rw [if_pos hyhi]
      split
      · linarith
      · split <;> linarith
    · rw [if_neg hyhi]
      split
      · linarith
      · split <;> linarith

/-- The default parameters, and an interval that is no negative number. -/
structure Timed (r : SmplResampler K) : Prop where
  ordered : r.Ordered
  p : r.p = {}
  interval : 0 ≤ r.intervalS

theorem Timed.delay {r : SmplResampler K} (h : r.Timed) :
    r.delayS = clamp (3 / 2 * r.intervalS) (1 / 50) (1 / 10) := by
  unfold delayS
  rw [h.p]

theorem Timed.delay_mem {r : SmplResampler K} (h : r.Timed) :
    1 / 50 ≤ r.delayS ∧ r.delayS ≤ 1 / 10 := by
  rw [h.delay]
  exact clamp_mem (by norm_num) _

theorem Timed.durationCast {r : SmplResampler K} (h : r.Timed) :
    durationCast r.delayS = ⌊r.delayS * (kSecond : K)⌋ := by
  have hpos : (0 : K) ≤ r.delayS := le_trans (by norm_num) h.delay_mem.1
  exact if_pos hpos

theorem Timed.durationCast_le {r : SmplResampler K} (h : r.Timed) :
    SmplResampler.durationCast r.delayS ≤ 100000000 := by
  rw [h.durationCast]
  have hle : r.delayS * (kSecond : K) ≤ ((100000000 : Int) : K) := by
    have := h.delay_mem.2
    norm_num [kSecond]
    linarith
  exact (Int.floor_mono hle).trans_eq (Int.floor_intCast _)

/-- After an interval under 120 ms the delay is at most 18 ms longer. -/
theorem Timed.durationCast_add {r r' : SmplResampler K} (h : r.Timed) (h' : r'.Timed) {t0 t1 : Int}
    (hshort : t1 < t0 + 120000000)
    (hinterval : r'.intervalS = (1 - r.p.ema) * r.intervalS + r.p.ema * seconds t0 t1) :
    SmplResampler.durationCast r'.delayS ≤ SmplResampler.durationCast r.delayS + 18000000 := by
  have hdt : (seconds t0 t1 : K) ≤ 3 / 25 := by
    have hcast : ((t1 - t0 : Int) : K) ≤ ((120000000 : Int) : K) := Int.cast_le.mpr (by omega)
    have hpos : (0 : K) < (kSecond : K) := by norm_num [kSecond]
    unfold seconds
    rw [div_le_iff₀ hpos]
    norm_num [kSecond] at hcast ⊢
    exact hcast
  have hlonger : r'.delayS ≤ r.delayS + 9 / 500 := by
    rw [h.delay, h'.delay, hinterval, h.p]
    refine clamp_le_add (by norm_num) (by norm_num) ?_
    have := h.interval
    linarith
  have hle : r'.delayS * (kSecond : K) ≤ r.delayS * (kSecond : K) + ((18000000 : Int) : K) := by
    norm_num [kSecond]
    linarith
  rw [h.durationCast, h'.durationCast]
  exact (Int.floor_mono hle).trans_eq (Int.floor_add_intCast _ _)

theorem Timed.push {r : SmplResampler K} (h : r.Timed) (pose : SmplPose K) (t : Int) :
    (r.push pose t).Timed := by
  rcases r.push_cases pose t with ⟨-, hpush⟩ | ⟨-, -, hpush⟩ |
    ⟨-, hnew, -, -, -, hp, hinterval⟩
  · refine ⟨h.ordered.push pose t, ?_, ?_⟩
    · rw [hpush]
      exact h.p
    · rw [hpush]
      exact h.interval
  · rw [hpush]
    exact h
  · have hdt : (0 : K) ≤ seconds r.newestT t := by
      by_contra hneg
      have := (seconds_le_zero (K := K)).mp (not_le.mp hneg).le
      omega
    refine ⟨h.ordered.push pose t, hp.trans h.p, ?_⟩
    rw [hinterval]
    split
    · exact hdt
    · rw [h.p]
      have := h.interval
      have hsmooth : (0 : K) ≤ 9 / 10 * r.intervalS + 1 / 10 * seconds r.newestT t := by positivity
      norm_num
      linarith

theorem Timed.reset {r : SmplResampler K} (hp : r.p = {}) : r.reset.Timed := by
  refine ⟨⟨Nat.zero_le _, fun k hk => absurd hk (Nat.not_lt_zero _)⟩, hp, ?_⟩
  show (0 : K) ≤ r.p.seedIntervalS
  rw [hp]
  norm_num

/-! ## Two consecutive sample calls -/

/-- Without a push the grid point moves on with the clock. -/
theorem streamTime_mono (r : SmplResampler K) {now now' : Int} (h : now ≤ now') :
    r.streamTime now ≤ r.streamTime now' := by
  unfold streamTime target
  omega

/-- What is evicted is older than what is kept. -/
theorem Ordered.oldest_push {r r' : SmplResampler K} (h : r.Ordered) (hcount : 0 < r.count)
    (hback : ∀ k, k + 1 < kRing → r'.back (k + 1) = r.back k)
    (hcount' : r'.count = (if r.count < kRing then r.count + 1 else r.count)) :
    r.oldestT ≤ r'.oldestT ∧ (r.count < kRing → r'.oldestT = r.oldestT) := by
  have hle := h.count
  have hring : kRing = 8 := rfl
  by_cases hroom : r.count < kRing
  · have hlast : r'.count - 1 = (r.count - 1) + 1 := by
      rw [hcount', if_pos hroom]
      omega
    have heq : r'.oldestT = r.oldestT := by
      unfold oldestT
      rw [hlast]
      exact hback _ (by omega)
    exact ⟨heq.ge, fun _ => heq⟩
  · have hlast : r'.count - 1 = 6 + 1 := by
      rw [hcount', if_neg hroom]
      omega
    refine ⟨?_, fun hlt => absurd hlt hroom⟩
    have heq : r'.oldestT = r.back 6 := by
      unfold oldestT
      rw [hlast]
      exact hback 6 (by decide)
    rw [heq]
    exact h.oldest_le (by omega)

theorem streamTime_push {r : SmplResampler K} (h : r.Timed) (hcount : 0 < r.count)
    (pose : SmplPose K) {t now now' : Int} (hnow : now + 20000000 ≤ now')
    (ht : t ≤ now' + 20000000) : r.streamTime now ≤ (r.push pose t).streamTime now' := by
  have hpushed := h.push pose t
  rcases r.push_cases pose t with ⟨hzero, -⟩ | ⟨-, -, hpush⟩ |
    ⟨-, hnew, hback0, hback, hcount', -, hinterval⟩
  · omega
  · rw [hpush]
    exact r.streamTime_mono (by omega)
  · have hring : kRing = 8 := rfl
    obtain ⟨hold, hkept⟩ := h.ordered.oldest_push hcount hback hcount'
    have hnewest : (r.push pose t).newestT = t := (back_zero _).symm.trans hback0
    by_cases hone : r.count = 1
    · have honly : r.oldestT = r.newestT := by
        rw [← back_zero]
        unfold oldestT
        rw [hone]
      have := hkept (by omega)
      unfold streamTime
      omega
    · rw [if_neg hone] at hinterval
      by_cases hshort : t < r.newestT + 120000000
      · have hadd := h.durationCast_add hpushed hshort hinterval
        unfold streamTime target
        omega
      · have hcap := hpushed.durationCast_le
        unfold streamTime target
        omega

/-! ## A sequence of sample calls -/

/-- One sample call, and the push since the one before. -/
structure Tick (K : Type) where
  pushed : Option (SmplPose K × Int)
  now : Int

def received (r : SmplResampler K) (pushed : Option (SmplPose K × Int)) : SmplResampler K :=
  match pushed with
  | none => r
  | some (pose, t) => r.push pose t

/-- The sample calls that return a value: the resampler they read, and their time. -/
def evaluations (r : SmplResampler K) : List (Tick K) → List (SmplResampler K × Int)
  | [] => []
  | tick :: ticks =>
    let r := r.received tick.pushed
    if r.count = 0 then evaluations r ticks else (r, tick.now) :: evaluations r ticks

/-- A push is received at most 20 ms after the sample call that follows it. -/
def Tick.OnTime (tick : Tick K) : Prop :=
  ∀ pose t, tick.pushed = some (pose, t) → t ≤ tick.now + 20000000

/-- Two sample times at least 20 ms apart. -/
def Spaced (now now' : Int) : Prop := now + 20000000 ≤ now'

def NotBackwards (a b : SmplResampler K × Int) : Prop := a.1.streamTime a.2 ≤ b.1.streamTime b.2

instance : Trans (NotBackwards (K := K)) NotBackwards NotBackwards := ⟨le_trans⟩

theorem Timed.received {r : SmplResampler K} (h : r.Timed) (pushed : Option (SmplPose K × Int)) :
    (r.received pushed).Timed := by
  cases pushed with
  | none => exact h
  | some x => exact h.push x.1 x.2

theorem notBackwards_received {r : SmplResampler K} (h : r.Timed) (hcount : 0 < r.count)
    {tick : Tick K} (htime : tick.OnTime) {now : Int} (hnow : Spaced now tick.now) :
    NotBackwards (r, now) (r.received tick.pushed, tick.now) := by
  unfold Spaced at hnow
  unfold NotBackwards received
  cases hpushed : tick.pushed with
  | none => exact r.streamTime_mono (by omega)
  | some x => exact streamTime_push h hcount x.1 hnow (htime x.1 x.2 hpushed)

theorem count_received {r : SmplResampler K} (hcount : 0 < r.count)
    (pushed : Option (SmplPose K × Int)) : 0 < (r.received pushed).count := by
  cases pushed with
  | none => exact hcount
  | some x =>
    show 0 < (r.push x.1 x.2).count
    rcases r.push_cases x.1 x.2 with ⟨hzero, -⟩ | ⟨-, -, hpush⟩ | ⟨-, -, -, -, hcount', -, -⟩
    · omega
    · rw [hpush]
      exact hcount
    · rw [hcount']
      split <;> omega

/-- From a sample call that returned a value on. -/
theorem chain_after {r : SmplResampler K} (h : r.Timed) (hcount : 0 < r.count) {now : Int}
    {ticks : List (Tick K)} (hspaced : (now :: ticks.map Tick.now).IsChain Spaced)
    (htime : ∀ tick ∈ ticks, tick.OnTime) :
    ((r, now) :: evaluations r ticks).IsChain NotBackwards := by
  induction ticks generalizing r now with
  | nil => exact List.isChain_singleton _
  | cons tick ticks ih =>
    obtain ⟨hnow, hrest⟩ := List.isChain_cons_cons.mp hspaced
    have hcount' := count_received hcount tick.pushed
    unfold evaluations
    dsimp only
    rw [if_neg (by omega)]
    refine List.isChain_cons_cons.mpr ⟨?_, ?_⟩
    · exact notBackwards_received h hcount (htime _ List.mem_cons_self) hnow
    · exact ih (h.received _) hcount' hrest fun tick hmem => htime _ (List.mem_cons_of_mem _ hmem)

theorem chain_evaluations {r : SmplResampler K} (h : r.Timed) {ticks : List (Tick K)}
    (hspaced : (ticks.map Tick.now).IsChain Spaced) (htime : ∀ tick ∈ ticks, tick.OnTime) :
    (evaluations r ticks).IsChain NotBackwards := by
  induction ticks generalizing r with
  | nil => exact List.isChain_nil
  | cons tick ticks ih =>
    have htime' : ∀ tick ∈ ticks, tick.OnTime :=
      fun tick hmem => htime _ (List.mem_cons_of_mem _ hmem)
    unfold evaluations
    dsimp only
    by_cases hzero : (r.received tick.pushed).count = 0
    · rw [if_pos hzero]
      exact ih (h.received _) hspaced.tail htime'
    · rw [if_neg hzero]
      exact chain_after (h.received _) (by omega) hspaced htime'

theorem evaluations_timed {r : SmplResampler K} (h : r.Timed) {ticks : List (Tick K)} :
    ∀ e ∈ evaluations r ticks, e.1.Timed ∧ 0 < e.1.count := by
  induction ticks generalizing r with
  | nil => nofun
  | cons tick ticks ih =>
    intro e he
    unfold evaluations at he
    dsimp only at he
    by_cases hzero : (r.received tick.pushed).count = 0
    · rw [if_pos hzero] at he
      exact ih (h.received _) e he
    · rw [if_neg hzero] at he
      rcases List.mem_cons.mp he with rfl | hrest
      · exact ⟨h.received _, Nat.pos_of_ne_zero hzero⟩
      · exact ih (h.received _) e hrest

/-- After a reset with the default parameters, and any pushes before the first sample call: the
stream times of sample calls at least 20 ms apart never go back, and each call returns the
value of the stream at its stream time. -/
theorem resampling_monotone (r : SmplResampler K) (hp : r.p = {})
    (before : List (SmplPose K × Int)) (ticks : List (Tick K))
    (hspaced : (ticks.map Tick.now).IsChain Spaced) (htime : ∀ tick ∈ ticks, tick.OnTime) :
    let start := before.foldl (fun r x => r.push x.1 x.2) r.reset
    (evaluations start ticks).Pairwise NotBackwards ∧
      ∀ e ∈ evaluations start ticks,
        ∃ pose, e.1.sample e.2 = some pose ∧ e.1.ValueAt (e.1.streamTime e.2) pose := by
  intro start
  have hstart : start.Timed := by
    refine List.foldlRecOn before _ (Timed.reset hp) ?_
    intro r h x _
    exact h.push x.1 x.2
  refine ⟨List.isChain_iff_pairwise.mp (chain_evaluations hstart hspaced htime), fun e he => ?_⟩
  obtain ⟨htimed, hcount⟩ := evaluations_timed hstart e he
  exact sample_valueAt htimed.ordered hcount e.2

/-- A packet that is 60 ms late, between grid ticks. -/
def lateTicks : List (Tick ℚ) :=
  let pose : SmplPose ℚ := ⟨fun _ _ => 0, fun _ => 0, fun _ => 0⟩
  [⟨some (pose, 33000000), 40000000⟩, ⟨some (pose, 66000000), 60000000⟩, ⟨none, 80000000⟩,
    ⟨some (pose, 159000000), 160000000⟩]

theorem resampling_monotone_late :
    (evaluations (({} : SmplResampler ℚ).reset.push ⟨fun _ _ => 0, fun _ => 0, fun _ => 0⟩ 0)
      lateTicks).Pairwise NotBackwards := by
  have hspaced : (lateTicks.map Tick.now).IsChain Spaced := by
    simp [lateTicks, Spaced]
  have htime : ∀ tick ∈ lateTicks, tick.OnTime := by
    simp [lateTicks, Tick.OnTime]
  exact (resampling_monotone {} rfl [(_, 0)] lateTicks hspaced htime).1

end

end SmplResampler

end Gearsonic
