import Gearsonic.Numeric.FloatVal
import Gearsonic.Unitree.HandCommandWriter
import Mathlib.Algebra.Order.Ring.Abs
import Mathlib.Tactic.NormNum

/-!
# The hand writer in floats

The target sources, the guard and the loop of `HandCommandWriter` once more, over floats with
their special values: the axes, the external targets, the measurements and the guard's parameters
can be infinite or NaN. The timers of the squeeze and of the stall only ever add the period, so
they stay numbers.

* `toFloat_loopIteration`: on numbers this is `HandCommandWriter`.
-/

set_option linter.unusedSectionVars false

namespace Gearsonic

open Numeric
open FloatVal (finite fabs)

/-- The floats of a latent action. -/
structure LatentFloats (K : Type) where
  token : Fin 64 → FloatVal K
  leftHand : Fin 7 → FloatVal K
  rightHand : Fin 7 → FloatVal K

structure FloatHandCommand (K : Type) [Field K] where
  q : Fin 7 → FloatVal K := fun _ => 0
  kp : Fin 7 → FloatVal K := fun _ => 0
  kd : Fin 7 → FloatVal K := fun _ => 0
  enabled : Bool := true

structure FloatMotorState (K : Type) [Field K] where
  q : FloatVal K := 0
  dq : FloatVal K := 0
  tempCasing : Int := 0

structure FloatHandState (K : Type) [Field K] where
  motors : Fin 7 → FloatMotorState K := fun _ => {}

structure FloatGuard.Params (K : Type) [Field K] where
  enabled : Bool := true
  kp : FloatVal K := finite 1.5
  kd : FloatVal K := finite 0.1
  tauMax : FloatVal K := finite 0.6
  stallErrTh : FloatVal K := finite 0.15
  stallVelTh : FloatVal K := finite 0.05
  stallTimeS : FloatVal K := finite 0.3
  stallOffset : FloatVal K := finite 0.25
  kpHold : FloatVal K := finite 1.5
  tempMaxC : Int := 0
  stateStaleMs : FloatVal ℚ := finite 100

structure FloatGuard (K : Type) [Field K] where
  isLeft : Bool := true
  p : FloatGuard.Params K := {}
  stallS : Fin 7 → K := fun _ => 0
  latched : Fin 7 → Bool := fun _ => false

variable {K : Type} [Field K] [LinearOrder K]

/-! ## The target sources -/

/-- `HoldSqueeze::update` on a float axis. -/
def HoldSqueeze.updateFloat (h : HoldSqueeze K) (axis : FloatVal K) (dtS : K) :
    HoldSqueeze K × K :=
  if axis < finite kThreshold then ({}, 0)
  else
    let heldS := h.heldS + dtS
    let s := (heldS - kDwellS) / kRampS
    (⟨heldS⟩, if s < 0 then 0 else if 1 < s then 1 else s)

namespace FloatHandCommand

def stop : FloatHandCommand K :=
  { q := fun _ => 0, kp := fun _ => 0, kd := fun _ => 0, enabled := false }

/-- NaN passes. -/
def clamp01 (v : FloatVal K) : FloatVal K :=
  if v < 0 then 0 else if finite 1 < v then finite 1 else v

def fromAxes (grip trigger : FloatVal K) (squeezeGrip squeezeTrigger : K) (isLeft : Bool)
    (kp kd : FloatVal K) : FloatHandCommand K :=
  let opened := if isLeft then kDex3LeftOpen K else kDex3RightOpen K
  let close := if isLeft then kDex3LeftClose K else kDex3RightClose K
  let fist := if isLeft then kDex3LeftFist K else kDex3RightFist K
  { q := fun i =>
      let t := if motorOnTrigger i then clamp01 trigger else clamp01 grip
      let s := if motorOnTrigger i then HandCommand.clamp01 squeezeTrigger
        else HandCommand.clamp01 squeezeGrip
      finite (opened i) + t * finite (close i - opened i) + finite (s * (fist i - close i))
    kp := fun _ => kp
    kd := fun _ => kd
    enabled := true }

def fromGripAndTrigger (grip trigger : FloatVal K) (squeezeGrip squeezeTrigger : K)
    (isLeft : Bool) : FloatHandCommand K :=
  fromAxes grip trigger squeezeGrip squeezeTrigger isLeft (finite HandCommand.kHandKp)
    (finite HandCommand.kHandKd)

def fromVlaJoints (q : Fin 7 → FloatVal K) (isLeft : Bool) : FloatHandCommand K :=
  { q := fun i => FloatVal.clamp (q i) (finite (dex3Min K isLeft i)) (finite (dex3Max K isLeft i))
    kp := fun _ => finite HandCommand.kHandKp
    kd := fun _ => finite HandCommand.kHandKd
    enabled := true }

end FloatHandCommand

/-! ## The guard -/

namespace FloatGuard

def reset (g : FloatGuard K) : FloatGuard K :=
  { g with stallS := fun _ => 0, latched := fun _ => false }

def hot (g : FloatGuard K) (m : FloatMotorState K) : Bool :=
  decide (0 < g.p.tempMaxC) && decide (g.p.tempMaxC ≤ m.tempCasing)

def stallTimer (g : FloatGuard K) (i : Fin 7) (m : FloatMotorState K) (e : FloatVal K) (dtS : K) :
    K :=
  if g.p.stallErrTh < fabs e ∧ fabs m.dq < g.p.stallVelTh then g.stallS i + dtS else 0

/-- An error that is NaN does not release the latch. -/
def latchAfter (g : FloatGuard K) (i : Fin 7) (m : FloatMotorState K) (e : FloatVal K) (dtS : K) :
    Bool :=
  let latched :=
    g.latched i || g.hot m || decide (g.p.stallTimeS ≤ finite (g.stallTimer i m e dtS))
  latched && !(!g.hot m && decide (fabs e ≤ g.p.stallErrTh))

def reach (g : FloatGuard K) (latched : Bool) (m : FloatMotorState K) (e : FloatVal K) :
    FloatVal K × FloatVal K :=
  if latched then
    (m.q + g.p.stallOffset * (if 0 < e then finite 1 else if e < 0 then finite (-1) else 0),
      g.p.kpHold)
  else
    let eMax := g.p.tauMax / FloatVal.max g.p.kp (finite 1e-3)
    (m.q + FloatVal.clamp e (-eMax) eMax, g.p.kp)

def apply (g : FloatGuard K) (desired : FloatHandCommand K) (meas : Option (FloatHandState K))
    (dtS : K) : FloatGuard K × FloatHandCommand K :=
  match meas with
  | none => (g.reset, desired)
  | some meas =>
    if !g.p.enabled || !desired.enabled then (g.reset, desired)
    else
      let e : Fin 7 → FloatVal K := fun i => desired.q i - (meas.motors i).q
      let latched : Fin 7 → Bool := fun i => g.latchAfter i (meas.motors i) (e i) dtS
      ({ g with
          stallS := fun i => g.stallTimer i (meas.motors i) (e i) dtS
          latched := latched },
        { desired with
          q := fun i => FloatVal.clamp (g.reach (latched i) (meas.motors i) (e i)).1
            (finite (dex3Min K g.isLeft i)) (finite (dex3Max K g.isLeft i))
          kp := fun i => (g.reach (latched i) (meas.motors i) (e i)).2
          kd := fun _ => g.p.kd })

end FloatGuard

/-! ## The loop -/

structure FloatHandPair (K : Type) [Field K] where
  left : FloatHandCommand K
  right : FloatHandCommand K

def FloatHandPair.stop : FloatHandPair K := ⟨.stop, .stop⟩

structure FloatHandWriter (K : Type) [Field K] where
  leftGuard : FloatGuard K := {}
  rightGuard : FloatGuard K := { isLeft := false }
  squeezeLGrip : HoldSqueeze K := {}
  squeezeLTrig : HoldSqueeze K := {}
  squeezeRGrip : HoldSqueeze K := {}
  squeezeRTrig : HoldSqueeze K := {}
  wasCalibrated : Bool := false
  calibratedAt : TimePoint := 0
  lastCmdBuf : DataBuffer (FloatHandPair K) := {}

namespace FloatHandWriter

open HandCommandWriter (kPublishPeriodS kFistReleaseDelay)

structure TickReads (K : Type) [Field K] where
  t0 : TimePoint := 0
  calibrated : Bool := false
  arbMode : Mode := .normal
  estop : Bool := false
  vla : Option (LatentFloats K) := none
  ctrl : Option (PicoVRController (FloatVal K)) := none
  leftState : TimestampedData (FloatHandState K) := {}
  rightState : TimestampedData (FloatHandState K) := {}

/-- `HandCommandWriter::start`: both guards configured, the loop's flag cleared. -/
def start (w : FloatHandWriter K) (guard : FloatGuard.Params K) : FloatHandWriter K :=
  { w with
    leftGuard := { isLeft := true, p := guard }
    rightGuard := { isLeft := false, p := guard }
    wasCalibrated := false
    calibratedAt := 0 }

def trackCalibration (w : FloatHandWriter K) (r : TickReads K) : FloatHandWriter K :=
  { w with
    calibratedAt := if r.calibrated && !w.wasCalibrated then r.t0 else w.calibratedAt
    wasCalibrated := r.calibrated }

def holdFist (w : FloatHandWriter K) (r : TickReads K) : Bool :=
  !r.calibrated || decide (r.t0 < w.calibratedAt + kFistReleaseDelay)

def resetSqueezes (w : FloatHandWriter K) : FloatHandWriter K :=
  { w with squeezeLGrip := {}, squeezeLTrig := {}, squeezeRGrip := {}, squeezeRTrig := {} }

def trackAxes (w : FloatHandWriter K) (ctrl : PicoVRController (FloatVal K)) :
    FloatHandWriter K × FloatHandPair K :=
  let (lGrip, slg) := w.squeezeLGrip.updateFloat ctrl.leftGrip kPublishPeriodS
  let (lTrig, slt) := w.squeezeLTrig.updateFloat ctrl.leftTrigger kPublishPeriodS
  let (rGrip, srg) := w.squeezeRGrip.updateFloat ctrl.rightGrip kPublishPeriodS
  let (rTrig, srt) := w.squeezeRTrig.updateFloat ctrl.rightTrigger kPublishPeriodS
  ({ w with
      squeezeLGrip := lGrip, squeezeLTrig := lTrig
      squeezeRGrip := rGrip, squeezeRTrig := rTrig },
    ⟨.fromGripAndTrigger ctrl.leftGrip ctrl.leftTrigger slg slt true,
      .fromGripAndTrigger ctrl.rightGrip ctrl.rightTrigger srg srt false⟩)

def fixedPose (grip trigger squeeze : K) : FloatHandPair K :=
  ⟨.fromGripAndTrigger (finite grip) (finite trigger) squeeze squeeze true,
    .fromGripAndTrigger (finite grip) (finite trigger) squeeze squeeze false⟩

def vlaTargets (r : TickReads K) : Option (LatentFloats K) :=
  if r.arbMode.inSession then r.vla else none

def selectTargets (w : FloatHandWriter K) (r : TickReads K) :
    FloatHandWriter K × FloatHandPair K :=
  if r.estop then (w.resetSqueezes, .stop)
  else
    match vlaTargets r with
    | some vla =>
      (w.resetSqueezes,
        ⟨.fromVlaJoints vla.leftHand true, .fromVlaJoints vla.rightHand false⟩)
    | none =>
      if w.holdFist r then (w.resetSqueezes, fixedPose 1 1 1)
      else
        match r.ctrl with
        | some ctrl => w.trackAxes ctrl
        | none => (w.resetSqueezes, fixedPose 0 0 0)

def freshState (w : FloatHandWriter K) (state : TimestampedData (FloatHandState K))
    (now : TimePoint) : Option (FloatHandState K) :=
  if state.hasData && decide (finite (state.getAgeMs now) < w.leftGuard.p.stateStaleMs) then
    state.data
  else none

def guardTargets (w : FloatHandWriter K) (r : TickReads K) (cmds : FloatHandPair K) :
    FloatHandWriter K × FloatHandPair K :=
  if cmds.left.enabled || cmds.right.enabled then
    let (leftGuard, left) :=
      w.leftGuard.apply cmds.left (w.freshState r.leftState r.t0) kPublishPeriodS
    let (rightGuard, right) :=
      w.rightGuard.apply cmds.right (w.freshState r.rightState r.t0) kPublishPeriodS
    ({ w with leftGuard := leftGuard, rightGuard := rightGuard }, ⟨left, right⟩)
  else (w, cmds)

def computeTargets (w : FloatHandWriter K) (r : TickReads K) :
    FloatHandWriter K × FloatHandPair K :=
  let (w, cmds) := (w.trackCalibration r).selectTargets r
  w.guardTargets r cmds

/-- One pass through the body of `HandCommandWriter::loop`. -/
def loopIteration (w : FloatHandWriter K) (r : TickReads K) : FloatHandWriter K :=
  let (w, cmds) := w.computeTargets r
  { w with lastCmdBuf := w.lastCmdBuf.setData cmds r.t0 }

end FloatHandWriter

/-! ## On numbers -/

def HandCommand.toFloat (cmd : HandCommand K) : FloatHandCommand K where
  q i := finite (cmd.q i)
  kp i := finite (cmd.kp i)
  kd i := finite (cmd.kd i)
  enabled := cmd.enabled

def HandState.toFloat (state : HandState K) : FloatHandState K where
  motors i :=
    { q := finite (state.motors i).q
      dq := finite (state.motors i).dq
      tempCasing := (state.motors i).tempCasing }

def HandGuard.Params.toFloat (p : HandGuard.Params K) : FloatGuard.Params K where
  enabled := p.enabled
  kp := finite p.kp
  kd := finite p.kd
  tauMax := finite p.tauMax
  stallErrTh := finite p.stallErrTh
  stallVelTh := finite p.stallVelTh
  stallTimeS := finite p.stallTimeS
  stallOffset := finite p.stallOffset
  kpHold := finite p.kpHold
  tempMaxC := p.tempMaxC
  stateStaleMs := finite p.stateStaleMs

def HandGuard.toFloat (g : HandGuard K) : FloatGuard K where
  isLeft := g.isLeft
  p := g.p.toFloat
  stallS := g.stallS
  latched := g.latched

def HandCommandPair.toFloat (cmds : HandCommandPair K) : FloatHandPair K :=
  ⟨cmds.left.toFloat, cmds.right.toFloat⟩

def VlaLatentAction.toFloat (vla : VlaLatentAction K) : LatentFloats K where
  token i := finite (vla.token i)
  leftHand i := finite (vla.leftHand i)
  rightHand i := finite (vla.rightHand i)

def PicoVRController.toFloat (c : PicoVRController K) : PicoVRController (FloatVal K) where
  toFaceButtons := c.toFaceButtons
  leftAxis := (finite c.leftAxis.1, finite c.leftAxis.2)
  rightAxis := (finite c.rightAxis.1, finite c.rightAxis.2)
  leftTrigger := finite c.leftTrigger
  rightTrigger := finite c.rightTrigger
  leftGrip := finite c.leftGrip
  rightGrip := finite c.rightGrip

def TimestampedData.toFloat (d : TimestampedData (HandState K)) :
    TimestampedData (FloatHandState K) :=
  ⟨d.data.map HandState.toFloat, d.timestamp⟩

namespace HandCommandWriter

def toFloat (w : HandCommandWriter K) : FloatHandWriter K where
  leftGuard := w.leftGuard.toFloat
  rightGuard := w.rightGuard.toFloat
  squeezeLGrip := w.squeezeLGrip
  squeezeLTrig := w.squeezeLTrig
  squeezeRGrip := w.squeezeRGrip
  squeezeRTrig := w.squeezeRTrig
  wasCalibrated := w.wasCalibrated
  calibratedAt := w.calibratedAt
  lastCmdBuf := ⟨w.lastCmdBuf.data.map HandCommandPair.toFloat, w.lastCmdBuf.lastUpdateTime⟩

def TickReads.toFloat (r : TickReads K) : FloatHandWriter.TickReads K where
  t0 := r.t0
  calibrated := r.calibrated
  arbMode := r.arbMode
  estop := r.estop
  vla := r.vla.map VlaLatentAction.toFloat
  ctrl := r.ctrl.map PicoVRController.toFloat
  leftState := r.leftState.toFloat
  rightState := r.rightState.toFloat

end HandCommandWriter

theorem HoldSqueeze.updateFloat_finite (h : HoldSqueeze K) (axis dtS : K) :
    h.updateFloat (finite axis) dtS = h.update axis dtS := by
  simp only [updateFloat, update, FloatVal.finite_lt]

theorem clamp_finite (x lo hi : K) :
    FloatVal.clamp (finite x) (finite lo) (finite hi) = finite (clamp x lo hi) :=
  FloatVal.finite_clamp x lo hi

theorem FloatHandCommand.clamp01_finite (v : K) :
    clamp01 (finite v) = finite (HandCommand.clamp01 v) := by
  unfold clamp01 HandCommand.clamp01
  simp only [FloatVal.zero_def, FloatVal.finite_lt]
  split
  · rfl
  · split <;> rfl

namespace HandCommand

theorem toFloat_fromVlaJoints (q : Fin 7 → K) (isLeft : Bool) :
    (fromVlaJoints q isLeft).toFloat = .fromVlaJoints (fun i => finite (q i)) isLeft := by
  simp only [toFloat, fromVlaJoints, FloatHandCommand.fromVlaJoints, clamp_finite]

theorem toFloat_fromGripAndTrigger (grip trigger squeezeGrip squeezeTrigger : K)
    (isLeft : Bool) :
    (fromGripAndTrigger grip trigger squeezeGrip squeezeTrigger isLeft).toFloat =
      .fromGripAndTrigger (finite grip) (finite trigger) squeezeGrip squeezeTrigger isLeft := by
  have haxis : ∀ i, (if motorOnTrigger i then FloatHandCommand.clamp01 (finite trigger)
      else FloatHandCommand.clamp01 (finite grip)) =
        finite (if motorOnTrigger i then clamp01 trigger else clamp01 grip) := by
    intro i
    rw [FloatHandCommand.clamp01_finite, FloatHandCommand.clamp01_finite, apply_ite finite]
  simp only [toFloat, fromGripAndTrigger, fromAxes, FloatHandCommand.fromGripAndTrigger,
    FloatHandCommand.fromAxes, haxis, FloatVal.finite_mul, FloatVal.finite_add]

end HandCommand

namespace HandGuard

variable [IsStrictOrderedRing K]

theorem toFloat_stallTimer (g : HandGuard K) (i : Fin 7) (meas : HandState K) (e dtS : K) :
    g.toFloat.stallTimer i (meas.toFloat.motors i) (finite e) dtS =
      g.stallTimer i (meas.motors i) e dtS := by
  unfold FloatGuard.stallTimer stallTimer
  simp only [toFloat, Params.toFloat, HandState.toFloat, FloatVal.finite_fabs, FloatVal.finite_lt]

theorem toFloat_latchAfter (g : HandGuard K) (i : Fin 7) (meas : HandState K) (e dtS : K) :
    g.toFloat.latchAfter i (meas.toFloat.motors i) (finite e) dtS =
      g.latchAfter i (meas.motors i) e dtS := by
  unfold FloatGuard.latchAfter latchAfter
  rw [toFloat_stallTimer]
  simp only [toFloat, Params.toFloat, FloatVal.finite_fabs, FloatVal.finite_le]
  rfl

theorem toFloat_reach (g : HandGuard K) (latched : Bool) (i : Fin 7) (meas : HandState K) (e : K) :
    g.toFloat.reach latched (meas.toFloat.motors i) (finite e) =
      (finite (g.reach latched (meas.motors i) e).1, finite (g.reach latched (meas.motors i) e).2) := by
  have hpos : (0 : K) < 1e-3 := by norm_num
  have hgain : Max.max g.p.kp 1e-3 ≠ 0 := (hpos.trans_le (le_max_right _ _)).ne'
  have hsign : (if (0 : FloatVal K) < finite e then finite 1
      else if finite e < 0 then finite (-1) else 0 : FloatVal K) =
        finite (if 0 < e then 1 else if e < 0 then -1 else 0) := by
    simp only [FloatVal.zero_def, FloatVal.finite_lt]
    split
    · rfl
    · split <;> rfl
  cases latched with
  | true =>
    simp only [FloatGuard.reach, reach, if_true, hsign]
    rfl
  | false =>
    simp only [FloatGuard.reach, reach, Bool.false_eq_true, if_false, toFloat, Params.toFloat,
      FloatVal.finite_max, FloatVal.finite_div _ hgain, FloatVal.finite_neg, clamp_finite]
    rfl

theorem toFloat_apply (g : HandGuard K) (desired : HandCommand K) (meas : Option (HandState K))
    (dtS : K) :
    g.toFloat.apply desired.toFloat (meas.map HandState.toFloat) dtS =
      ((g.apply desired meas dtS).1.toFloat, (g.apply desired meas dtS).2.toFloat) := by
  cases meas with
  | none => rfl
  | some meas =>
    have herr : ∀ i, desired.toFloat.q i - (meas.toFloat.motors i).q =
        finite (desired.q i - (meas.motors i).q) := fun i => FloatVal.finite_sub _ _
    have henabled : g.toFloat.p.enabled = g.p.enabled := rfl
    have hdesired : desired.toFloat.enabled = desired.enabled := rfl
    simp only [Option.map_some, FloatGuard.apply, apply, henabled, hdesired, herr,
      toFloat_stallTimer, toFloat_latchAfter, toFloat_reach]
    split
    · rfl
    · simp only [show g.toFloat.isLeft = g.isLeft from rfl, clamp_finite]
      rfl

end HandGuard

namespace HandCommandWriter

variable [IsStrictOrderedRing K]

theorem toFloat_fixedPose (grip trigger squeeze : K) :
    (fixedPose grip trigger squeeze).toFloat = FloatHandWriter.fixedPose grip trigger squeeze := by
  simp only [HandCommandPair.toFloat, fixedPose, FloatHandWriter.fixedPose,
    HandCommand.toFloat_fromGripAndTrigger]

theorem toFloat_trackAxes (w : HandCommandWriter K) (ctrl : PicoVRController K) :
    w.toFloat.trackAxes ctrl.toFloat =
      ((w.trackAxes ctrl).1.toFloat, (w.trackAxes ctrl).2.toFloat) := by
  simp only [FloatHandWriter.trackAxes, trackAxes, HandCommandPair.toFloat,
    HandCommand.toFloat_fromGripAndTrigger, PicoVRController.toFloat, toFloat,
    HoldSqueeze.updateFloat_finite]

theorem toFloat_selectTargets (w : HandCommandWriter K) (r : TickReads K) :
    w.toFloat.selectTargets r.toFloat =
      ((w.selectTargets r).1.toFloat, (w.selectTargets r).2.toFloat) := by
  have hvla : FloatHandWriter.vlaTargets r.toFloat = (vlaTargets r).map VlaLatentAction.toFloat := by
    unfold FloatHandWriter.vlaTargets vlaTargets
    rw [apply_ite (Option.map VlaLatentAction.toFloat)]
    rfl
  have hfist : w.toFloat.holdFist r.toFloat = w.holdFist r := rfl
  have hestop : r.toFloat.estop = r.estop := rfl
  unfold FloatHandWriter.selectTargets selectTargets
  rw [hvla, hfist, hestop]
  split
  · rfl
  · cases vlaTargets r with
    | some vla =>
      simp only [Option.map_some, HandCommandPair.toFloat, HandCommand.toFloat_fromVlaJoints]
      rfl
    | none =>
      simp only [Option.map_none]
      split
      · simp only [toFloat_fixedPose]
        rfl
      · simp only [TickReads.toFloat]
        cases r.ctrl with
        | some ctrl => exact w.toFloat_trackAxes ctrl
        | none =>
          simp only [Option.map_none, toFloat_fixedPose]
          rfl

theorem toFloat_freshState (w : HandCommandWriter K) (state : TimestampedData (HandState K))
    (now : TimePoint) :
    w.toFloat.freshState state.toFloat now = (w.freshState state now).map HandState.toFloat := by
  have hdata : state.toFloat.hasData = state.hasData := by
    unfold TimestampedData.hasData TimestampedData.toFloat
    cases state.data <;> rfl
  have hage : state.toFloat.getAgeMs now = state.getAgeMs now := by
    unfold TimestampedData.getAgeMs
    rw [hdata]
    rfl
  unfold FloatHandWriter.freshState freshState
  rw [hdata, hage, apply_ite (Option.map HandState.toFloat)]
  simp only [toFloat, HandGuard.toFloat, HandGuard.Params.toFloat, FloatVal.finite_lt]
  rfl

theorem toFloat_guardTargets (w : HandCommandWriter K) (r : TickReads K)
    (cmds : HandCommandPair K) :
    w.toFloat.guardTargets r.toFloat cmds.toFloat =
      ((w.guardTargets r cmds).1.toFloat, (w.guardTargets r cmds).2.toFloat) := by
  have hleft := w.leftGuard.toFloat_apply cmds.left (w.freshState r.leftState r.t0) kPublishPeriodS
  have hright :=
    w.rightGuard.toFloat_apply cmds.right (w.freshState r.rightState r.t0) kPublishPeriodS
  rw [← toFloat_freshState] at hleft hright
  have henabled : (cmds.toFloat.left.enabled || cmds.toFloat.right.enabled) =
      (cmds.left.enabled || cmds.right.enabled) := rfl
  unfold FloatHandWriter.guardTargets guardTargets
  cases hon : cmds.left.enabled || cmds.right.enabled with
  | false =>
    simp only [henabled, hon, Bool.false_eq_true, if_false]
  | true =>
    simp only [henabled, hon, if_true]
    simp only [HandCommandPair.toFloat, TickReads.toFloat] at hleft hright ⊢
    rw [show w.toFloat.leftGuard = w.leftGuard.toFloat from rfl,
      show w.toFloat.rightGuard = w.rightGuard.toFloat from rfl, hleft, hright]
    rfl

/-- **On numbers the float writer is `HandCommandWriter`.** -/
theorem toFloat_loopIteration (w : HandCommandWriter K) (r : TickReads K) :
    w.toFloat.loopIteration r.toFloat = (w.loopIteration r).toFloat := by
  have hselect := (w.trackCalibration r).toFloat_selectTargets r
  have hguard := ((w.trackCalibration r).selectTargets r).1.toFloat_guardTargets r
    ((w.trackCalibration r).selectTargets r).2
  have hcompute : w.toFloat.computeTargets r.toFloat =
      ((w.computeTargets r).1.toFloat, (w.computeTargets r).2.toFloat) := by
    unfold FloatHandWriter.computeTargets computeTargets
    rw [show w.toFloat.trackCalibration r.toFloat = (w.trackCalibration r).toFloat from rfl,
      hselect]
    exact hguard
  unfold FloatHandWriter.loopIteration loopIteration
  rw [hcompute]
  rfl

end HandCommandWriter

end Gearsonic
