import Gearsonic.Common.DataBuffer
import Gearsonic.Common.HoldTrigger
import Gearsonic.Control.ControlArbiter
import Gearsonic.Motion.MovementState
import Gearsonic.Motion.TapDetector
import Gearsonic.Pico.Controller

/-!
# The input handler

`InputHandler`: the 500 Hz loop that reads the controller and publishes movement commands.
One `tick` is one pass through the loop body, in the order of the source: the e-stop
latch, the mode buttons and taps, the crouch height, the facing angle, and the command
built from the sticks or a fresh navigation command. With no controller sample the tick
publishes the safe stop.
-/

set_option linter.unusedSectionVars false

namespace Gearsonic

/-- A navigation velocity in the robot's frame. -/
structure NavCommand (K : Type) where
  vx : K
  vy : K
  vyaw : K

inductive TapButton where
  | a
  | b
deriving DecidableEq, Repr

structure InputHandler (K : Type) [Field K] where
  facingAngle : K := 0
  height : K := -1
  modeIndex : Int := 0
  aPress : HoldTrigger := {}
  xPress : HoldTrigger := {}
  yPress : HoldTrigger := {}
  yHold : HoldTrigger := {}
  aTap : TapDetector K := {}
  bTap : TapDetector K := {}
  estopHoldTicks : Nat := 0
  estop : Bool := false
  movementBuf : DataBuffer (MovementState K) := {}

namespace InputHandler

def kBasicModeMax : Int := LocomotionMode.walk.toInt
def kFullModeMax : Int := LocomotionMode.injuredWalk.toInt
def kCrouchFirst : Int := LocomotionMode.idelSquat.toInt
def kCrouchLast : Int := LocomotionMode.idelKneel.toInt
def kEstopHoldTicks : Nat := 500
def kSingleHoldTicks : Nat := 15
def kHardHoldTicks : Nat := 500

variable {K : Type} [Field K] [LinearOrder K]

def kTriggerHeld : K := 0.5
def kHeightSeed : K := 0.8
def kDeadZone : K := 0.15
def kFacingRate : K := 1.5
def kLoopDt : K := 0.002
def kNavStaleMs : ℚ := 300.0
def kNavStopSpeed : K := 0.05
def kNavSlowMax : K := 0.6

/-- `disarm()`, called from the controller's thread. -/
def disarm (h : InputHandler K) : InputHandler K := { h with modeIndex := 0 }

/-- The e-stop latch: all four face buttons held. -/
def tickEstop (h : InputHandler K) (b : FaceButtons) : InputHandler K :=
  if b.nFace = 4 then
    let ticks := h.estopHoldTicks + 1
    { h with
      estopHoldTicks := ticks
      estop := h.estop || kEstopHoldTicks ≤ ticks }
  else { h with estopHoldTicks := 0 }

/-- A held alone escapes to IDLE. -/
def tickEscape (h : InputHandler K) (aAlone : Bool) : InputHandler K :=
  let (press, fires) := h.aPress.tick aAlone kSingleHoldTicks
  { h with aPress := press, modeIndex := if fires then 0 else h.modeIndex }

/-- The tap detectors of A and B, and the taps they report. -/
def tickTaps (h : InputHandler K) (b : FaceButtons) :
    InputHandler K × List (TapButton × TapDetector.Event) :=
  let (aTap, ea) := h.aTap.update b.btnA (b.btnB || b.btnX || b.btnY) kLoopDt
  let (bTap, eb) := h.bTap.update b.btnB (b.btnA || b.btnX || b.btnY) kLoopDt
  ({ h with aTap := aTap, bTap := bTap },
    (ea.map fun e => (TapButton.a, e)).toList ++ (eb.map fun e => (TapButton.b, e)).toList)

/-- Y steps up within the basic range, a second of Y steps up once more, X steps down. -/
def tickModeSteps (h : InputHandler K) (yAlone xAlone : Bool) : InputHandler K :=
  let (yPress, yFires) := h.yPress.tick yAlone kSingleHoldTicks
  let mode := if yFires && decide (h.modeIndex < kBasicModeMax) then h.modeIndex + 1
    else h.modeIndex
  let (yHold, holdFires) := h.yHold.tick yAlone kHardHoldTicks
  let mode := if holdFires && decide (mode < kFullModeMax) then mode + 1 else mode
  let (xPress, xFires) := h.xPress.tick xAlone kSingleHoldTicks
  let mode := if xFires && decide (0 < mode) then mode - 1 else mode
  { h with yPress := yPress, yHold := yHold, xPress := xPress, modeIndex := mode }

/-- Body height follows the selected mode: the seed while crouched, else the default. -/
def tickHeight (h : InputHandler K) : InputHandler K :=
  if kCrouchFirst ≤ h.modeIndex ∧ h.modeIndex ≤ kCrouchLast then
    { h with height := if h.height < 0 then kHeightSeed else h.height }
  else { h with height := -1 }

def tickFacing (h : InputHandler K) (rx : K) : InputHandler K :=
  if kDeadZone < |rx| then
    { h with facingAngle := h.facingAngle - kFacingRate * rx * kLoopDt }
  else h

/-- The sections of a tick before the command, in order, and the taps they emit. -/
def tickControls (h : InputHandler K) (c : PicoVRController K) :
    InputHandler K × List (TapButton × TapDetector.Event) :=
  let b := c.toFaceButtons
  let combo : Bool := 2 ≤ b.nFace
  let triggerHeld : Bool := kTriggerHeld < c.leftTrigger || kTriggerHeld < c.rightTrigger
  let h := h.tickEstop b
  let h := h.tickEscape (b.btnA && !combo && !triggerHeld)
  let (h, taps) := h.tickTaps b
  let h := h.tickModeSteps (b.btnY && !combo) (b.btnX && !combo)
  ((h.tickHeight).tickFacing c.rightAxis.1, taps)

variable [CMath K]

/-- The facing vector of an angle. -/
def facingVector (angle : K) : Vec3 K := ![CMath.cos angle, CMath.sin angle, 0]

/-- A vector with these left and forward components, rotated into the facing frame. -/
def rotateToFacing (face : Vec3 K) (left forward : K) : Vec3 K :=
  ![-face 1 * left + face 0 * forward, face 0 * left + face 1 * forward, 0]

/-- The command of a neutral stick. -/
def idleCommand (face : Vec3 K) (height : K) : MovementState K :=
  { locomotionMode := LocomotionMode.idle.toInt, movementDirection := ![0, 0, 0]
    facingDirection := face, movementSpeed := -1, height := height }

/-- A fresh navigation command drives while the stick is neutral; its yaw rate turns the
facing angle first. -/
def navCommand (h : InputHandler K) (nav : NavCommand K) : InputHandler K × MovementState K :=
  let v := CMath.hypot nav.vx nav.vy
  let angle := h.facingAngle + nav.vyaw * kLoopDt
  let face := facingVector angle
  let h := { h with facingAngle := angle }
  if kNavStopSpeed ≤ v then
    (h, { locomotionMode := if v ≤ kNavSlowMax then LocomotionMode.slowWalk.toInt
            else LocomotionMode.walk.toInt
          movementDirection := rotateToFacing face (nav.vy / v) (nav.vx / v)
          facingDirection := face
          movementSpeed := if v ≤ kNavSlowMax then max v 0.1 else -1
          height := -1 })
  else (h, idleCommand face (-1))

/-- The stick's command in the selected mode. -/
def stickCommand (h : InputHandler K) (lx ly rawMag : K) : MovementState K :=
  let mag := min ((rawMag - kDeadZone) / (1.0 - kDeadZone)) 1.0
  let scale := mag / rawMag
  let face := facingVector h.facingAngle
  { locomotionMode := h.modeIndex
    movementDirection := rotateToFacing face (-lx * scale) (ly * scale)
    facingDirection := face
    movementSpeed :=
      if h.modeIndex = LocomotionMode.slowWalk.toInt then 0.1 + 0.5 * mag
      else if h.modeIndex = LocomotionMode.walk.toInt then -1
      else if h.modeIndex = LocomotionMode.run.toInt then 1.5 + 3.0 * mag
      else mag
    height := h.height }

/-- What one tick reads from other threads. -/
structure TickReads (K : Type) where
  ctrl : Option (PicoVRController K) := none
  nav : Option (NavCommand K) := none
  navAgeMs : ℚ := 0
  arbMode : Mode := .normal
  now : TimePoint := 0

/-- The command of a tick with a controller sample, from the handler its buttons left. -/
def buildCommand (h : InputHandler K) (r : TickReads K) (c : PicoVRController K) :
    InputHandler K × MovementState K :=
  let rawMag := CMath.hypot c.leftAxis.1 c.leftAxis.2
  if rawMag < kDeadZone then
    match r.nav with
    | some nav =>
      if r.arbMode = .normal ∧ r.navAgeMs < kNavStaleMs then h.navCommand nav
      else (h, idleCommand (facingVector h.facingAngle) h.height)
    | none => (h, idleCommand (facingVector h.facingAngle) h.height)
  else (h, h.stickCommand c.leftAxis.1 c.leftAxis.2 rawMag)

/-- One pass through the body of `InputHandler::loop`, and the taps it emits. -/
def tick (h : InputHandler K) (r : TickReads K) :
    InputHandler K × List (TapButton × TapDetector.Event) :=
  match r.ctrl with
  | some c =>
    let (h, taps) := h.tickControls c
    let (h, ms) := h.buildCommand r c
    ({ h with movementBuf := h.movementBuf.setData ms r.now }, taps)
  | none =>
    ({ h with
      aTap := {}, bTap := {}
      movementBuf := h.movementBuf.setData (idleCommand (facingVector h.facingAngle) (-1))
        r.now }, [])

/-! ### Neutral ticks -/

/-- Outside the crouch modes the height is the mode's default. -/
theorem tickHeight_standing {h : InputHandler K} (hm : h.modeIndex < kCrouchFirst) :
    h.tickHeight = { h with height := -1 } := by
  have hno : ¬ (kCrouchFirst ≤ h.modeIndex ∧ h.modeIndex ≤ kCrouchLast) := by
    rintro ⟨hle, -⟩
    omega
  simp only [tickHeight, hno, if_false]

/-- With the buttons released and the right stick neutral, a standing handler keeps its
mode and its facing, and its height is the default. -/
theorem tickControls_neutral {h : InputHandler K} {c : PicoVRController K}
    (hm : h.modeIndex < kCrouchFirst) (hb : c.toFaceButtons = {})
    (hrx : ¬ kDeadZone < |c.rightAxis.1|) :
    (h.tickControls c).1.modeIndex = h.modeIndex ∧
      (h.tickControls c).1.facingAngle = h.facingAngle ∧ (h.tickControls c).1.height = -1 := by
  have hmode : ((((h.tickEstop {}).tickEscape false).tickTaps {}).1.tickModeSteps false
      false).modeIndex < kCrouchFirst := hm
  have hheight := tickHeight_standing hmode
  simp only [tickControls, hb, tickFacing, hrx, if_false, Bool.false_and]
  rw [hheight]
  exact ⟨rfl, rfl, rfl⟩

/-- A neutral stick without a fresh navigation command idles at the kept facing. -/
theorem buildCommand_neutral {h : InputHandler K} {r : TickReads K} {c : PicoVRController K}
    (hstick : CMath.hypot c.leftAxis.1 c.leftAxis.2 < kDeadZone)
    (hnav : ∀ nav, r.nav = some nav → kNavStaleMs ≤ r.navAgeMs) :
    h.buildCommand r c = (h, idleCommand (facingVector h.facingAngle) h.height) := by
  simp only [buildCommand, hstick, if_true]
  cases hn : r.nav with
  | none => rfl
  | some nav =>
    have hstale : ¬ (r.arbMode = .normal ∧ r.navAgeMs < kNavStaleMs) := fun hfresh =>
      absurd hfresh.2 (not_lt.mpr (hnav nav hn))
    simp only [hstale, if_false]

end InputHandler

end Gearsonic
