import Gearsonic.Teleop.TeleopTracker
import Mathlib.Algebra.Order.Floor.Ring
import Mathlib.Logic.Function.Basic

/-!
# The body-stream resampler

`SmplResampler`: the irregular headset body stream on the tracker's 50 Hz grid. A ring of
eight samples with their receive times, a smoothed interval, and a grid point that lies a
delay behind now. Times are nanoseconds of the steady clock; `double` is read as exact.

The code walks the ring by index. `back k` is the time `k` samples before the newest one,
and every fact about the ring is stated over it.
-/

namespace Gearsonic

namespace SmplResampler

/-- `SmplResampler::kRing`. -/
def kRing : Nat := 8

/-- Index `n` of the ring. -/
def ringSlot (n : Nat) : Fin kRing := ⟨n % kRing, Nat.mod_lt n (by decide)⟩

end SmplResampler

/-- `SmplResampler::Params`. -/
structure SmplResampler.Params (K : Type) [Field K] where
  delayFactor : K := 3 / 2
  minDelayS : K := 1 / 50
  maxDelayS : K := 1 / 10
  ema : K := 1 / 10
  seedIntervalS : K := 1 / 30

structure SmplResampler (K : Type) [Field K] where
  p : SmplResampler.Params K := {}
  poses : Fin SmplResampler.kRing → SmplPose K := fun _ => ⟨fun _ _ => 0, fun _ => 0, fun _ => 0⟩
  times : Fin SmplResampler.kRing → Int := fun _ => 0
  /-- Index of the newest sample. -/
  head : Fin SmplResampler.kRing := SmplResampler.ringSlot 0
  count : Nat := 0
  intervalS : K := 1 / 30

namespace SmplResampler

variable {K : Type} [Field K]

/-- Nanoseconds in a second. -/
def kSecond : Nat := 1000000000

/-- `duration<double>(t1 - t0).count()`. -/
def seconds (t0 t1 : Int) : K := ((t1 - t0 : Int) : K) / (kSecond : K)

def reset (r : SmplResampler K) : SmplResampler K :=
  { r with count := 0, head := ringSlot 0, intervalS := r.p.seedIntervalS }

def newestT (r : SmplResampler K) : Int := r.times r.head

/-- Store a sample at the head. -/
def store (r : SmplResampler K) (pose : SmplPose K) (t : Int) : SmplResampler K :=
  { r with
    poses := Function.update r.poses r.head pose
    times := Function.update r.times r.head t
    count := if r.count < kRing then r.count + 1 else r.count }

/-- Smooth the interval and move the head on. -/
def advance (r : SmplResampler K) (dt : K) : SmplResampler K :=
  { r with
    intervalS := if r.count = 1 then dt else (1 - r.p.ema) * r.intervalS + r.p.ema * dt
    head := ringSlot (r.head + 1) }

variable [LinearOrder K]

def push (r : SmplResampler K) (pose : SmplPose K) (t : Int) : SmplResampler K :=
  if 0 < r.count then
    let dt : K := seconds r.newestT t
    if dt ≤ 0 then r else (r.advance dt).store pose t
  else r.store pose t

def delayS (r : SmplResampler K) : K :=
  clamp (r.p.delayFactor * r.intervalS) r.p.minDelayS r.p.maxDelayS

/-- Position of the target between two times, clamped. -/
def alphaFor (t0 t1 target : Int) : K :=
  let span : K := seconds t0 t1
  if span ≤ 0 then 1 else clamp (seconds t0 target / span) 0 1

def lerp [CMath K] (a b : SmplPose K) (alpha : K) : SmplPose K where
  jointsLocal j c := a.jointsLocal j c + alpha * (b.jointsLocal j c - a.jointsLocal j c)
  wristJointPos i := a.wristJointPos i + alpha * (b.wristJointPos i - a.wristJointPos i)
  anchorQuat := quatSlerp a.anchorQuat b.anchorQuat alpha

/-- `duration_cast` of seconds: to whole nanoseconds, towards zero. -/
def durationCast [FloorRing K] (s : K) : Int :=
  if 0 ≤ s then ⌊s * (kSecond : K)⌋ else ⌈s * (kSecond : K)⌉

/-- The index `k` samples before the newest one. -/
def backSlot (r : SmplResampler K) (k : Nat) : Fin kRing := ringSlot (r.head + kRing - k)

/-- The loop of `sample`, from the index after `newer`: `older` runs over `k`. -/
def walk [CMath K] (r : SmplResampler K) (target : Int) (newer : Fin kRing) : List Nat → SmplPose K
  | [] => r.poses newer
  | k :: ks =>
    let older := r.backSlot k
    if r.times older ≤ target then
      lerp (r.poses older) (r.poses newer) (alphaFor (r.times older) (r.times newer) target)
    else walk r target older ks

/-- The value at a grid point. -/
def sampleAt [CMath K] (r : SmplResampler K) (target : Int) : SmplPose K :=
  if r.times r.head ≤ target then r.poses r.head
  else walk r target r.head (List.range' 1 (r.count - 1))

variable [FloorRing K]

/-- The grid point of a sample call. -/
def target (r : SmplResampler K) (now : Int) : Int := now - durationCast r.delayS

def sample [CMath K] (r : SmplResampler K) (now : Int) : Option (SmplPose K) :=
  if r.count = 0 then none else some (r.sampleAt (r.target now))

/-! ## The ring -/

/-- The receive time `k` samples before the newest one. -/
def back (r : SmplResampler K) (k : Nat) : Int := r.times (r.backSlot k)

def oldestT (r : SmplResampler K) : Int := r.back (r.count - 1)

/-- The retained samples are in strict time order. -/
structure Ordered (r : SmplResampler K) : Prop where
  count : r.count ≤ kRing
  back : ∀ k, k + 1 < r.count → r.back (k + 1) < r.back k

omit [LinearOrder K] [FloorRing K]

theorem backSlot_zero (r : SmplResampler K) : r.backSlot 0 = r.head := by
  have hlt := r.head.isLt
  refine Fin.ext ?_
  show (r.head + 8 - 0) % 8 = r.head.val
  unfold kRing at hlt
  omega

theorem back_zero (r : SmplResampler K) : r.back 0 = r.newestT :=
  congrArg r.times r.backSlot_zero

theorem backSlot_ne_head (r : SmplResampler K) {k : Nat} (hpos : 0 < k) (hlt : k < kRing) :
    r.backSlot k ≠ r.head := by
  have hhead := r.head.isLt
  intro heq
  have hval : (r.head + 8 - k) % 8 = r.head.val := congrArg Fin.val heq
  unfold kRing at hlt hhead
  omega

theorem store_back_zero (r : SmplResampler K) (pose : SmplPose K) (t : Int) :
    (r.store pose t).back 0 = t := by
  rw [back_zero]
  exact Function.update_self _ _ _

theorem store_back (r : SmplResampler K) (pose : SmplPose K) (t : Int) {k : Nat} (hpos : 0 < k)
    (hlt : k < kRing) : (r.store pose t).back k = r.back k :=
  Function.update_of_ne (r.backSlot_ne_head hpos hlt) _ _

/-- Moving the head on puts every sample one further back. -/
theorem advance_backSlot (r : SmplResampler K) (dt : K) {k : Nat} (hk : k < kRing) :
    (r.advance dt).backSlot (k + 1) = r.backSlot k := by
  have hhead := r.head.isLt
  refine Fin.ext ?_
  show ((r.head + 1) % 8 + 8 - (k + 1)) % 8 = (r.head + 8 - k) % 8
  unfold kRing at hk hhead
  omega

end SmplResampler

end Gearsonic
