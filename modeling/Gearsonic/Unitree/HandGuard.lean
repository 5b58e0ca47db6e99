import Gearsonic.Unitree.HandCommand

/-!
# The hand guard

`HandGuard`, the protection stage between a hand's target and its publication: it bounds
the stall torque against the measured finger positions, and latches a motor that is stuck
or hot. The floats are numbers here; `FloatGuard` has infinities and NaN as well.
-/

namespace Gearsonic

structure HandMotorState (K : Type) [Field K] where
  q : K := 0
  dq : K := 0
  tempCasing : Int := 0
  tempWinding : Int := 0

structure HandState (K : Type) [Field K] where
  motors : Fin 7 → HandMotorState K := fun _ => {}
  powerA : K := 0
  error : UInt32 := 0

structure HandGuard.Params (K : Type) [Field K] where
  enabled : Bool := true
  kp : K := 1.5
  kd : K := 0.1
  tauMax : K := 0.6
  stallErrTh : K := 0.15
  stallVelTh : K := 0.05
  stallTimeS : K := 0.3
  stallOffset : K := 0.25
  kpHold : K := 1.5
  tempMaxC : Int := 0
  stateStaleMs : ℚ := 100

structure HandGuard (K : Type) [Field K] where
  isLeft : Bool := true
  p : HandGuard.Params K := {}
  stallS : Fin 7 → K := fun _ => 0
  latched : Fin 7 → Bool := fun _ => false

namespace HandGuard

variable {K : Type} [Field K] [LinearOrder K]

def reset (g : HandGuard K) : HandGuard K :=
  { g with stallS := fun _ => 0, latched := fun _ => false }

/-- The motor is at or over the temperature that latches at once. -/
def hot (g : HandGuard K) (m : HandMotorState K) : Bool :=
  decide (0 < g.p.tempMaxC) && decide (g.p.tempMaxC ≤ m.tempCasing)

/-- The stall timer of motor `i` after a tick with this error. -/
def stallTimer (g : HandGuard K) (i : Fin 7) (m : HandMotorState K) (e dtS : K) : K :=
  if g.p.stallErrTh < |e| ∧ |m.dq| < g.p.stallVelTh then g.stallS i + dtS else 0

/-- The latch of motor `i` after a tick with this error. -/
def latchAfter (g : HandGuard K) (i : Fin 7) (m : HandMotorState K) (e dtS : K) : Bool :=
  let latched := g.latched i || g.hot m || decide (g.p.stallTimeS ≤ g.stallTimer i m e dtS)
  latched && !(!g.hot m && decide (|e| ≤ g.p.stallErrTh))

/-- The position command of a motor with this error, and its gain. -/
def reach (g : HandGuard K) (latched : Bool) (m : HandMotorState K) (e : K) : K × K :=
  if latched then
    (m.q + g.p.stallOffset * (if 0 < e then 1 else if e < 0 then -1 else 0), g.p.kpHold)
  else
    let eMax := g.p.tauMax / max g.p.kp 1e-3
    (m.q + clamp e (-eMax) eMax, g.p.kp)

/-- One tick over a hand; without a fresh measurement the target passes through. -/
def apply (g : HandGuard K) (desired : HandCommand K) (meas : Option (HandState K)) (dtS : K) :
    HandGuard K × HandCommand K :=
  match meas with
  | none => (g.reset, desired)
  | some meas =>
    if !g.p.enabled || !desired.enabled then (g.reset, desired)
    else
      let e : Fin 7 → K := fun i => desired.q i - (meas.motors i).q
      let latched : Fin 7 → Bool := fun i => g.latchAfter i (meas.motors i) (e i) dtS
      ({ g with
          stallS := fun i => g.stallTimer i (meas.motors i) (e i) dtS
          latched := latched },
        { desired with
          q := fun i => clamp (g.reach (latched i) (meas.motors i) (e i)).1
            (dex3Min K g.isLeft i) (dex3Max K g.isLeft i)
          kp := fun i => (g.reach (latched i) (meas.motors i) (e i)).2
          kd := fun _ => g.p.kd })

end HandGuard

end Gearsonic
