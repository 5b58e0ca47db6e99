import Gearsonic.Common.MathUtils
import Mathlib.Data.Fintype.Basic

/-!
# Movement commands

`MovementState` is what the input handler publishes and the planner plans for. The mode is
an `int` there: `LocomotionMode` names the values, and a value outside the list is cast to
no enumerator.
-/

namespace Gearsonic

inductive LocomotionMode where
  | idle | slowWalk | walk | run | idelSquat | idelKneelTwoLegs | idelKneel
  | idelLyingFaceDown | crawling | idelBoxing | walkBoxing | leftPunch | rightPunch
  | randomPunch | elbowCrawling | leftHook | rightHook | forwardJump | stealthWalk
  | injuredWalk | ledgeWalking | objectCarrying | stealthWalk2 | happyDanceWalk
  | zombieWalk | gunWalk | scareWalk
deriving DecidableEq, Repr

namespace LocomotionMode

/-- The enumerator's value. -/
def toInt : LocomotionMode → Int
  | idle => 0 | slowWalk => 1 | walk => 2 | run => 3 | idelSquat => 4
  | idelKneelTwoLegs => 5 | idelKneel => 6 | idelLyingFaceDown => 7 | crawling => 8
  | idelBoxing => 9 | walkBoxing => 10 | leftPunch => 11 | rightPunch => 12
  | randomPunch => 13 | elbowCrawling => 14 | leftHook => 15 | rightHook => 16
  | forwardJump => 17 | stealthWalk => 18 | injuredWalk => 19 | ledgeWalking => 20
  | objectCarrying => 21 | stealthWalk2 => 22 | happyDanceWalk => 23 | zombieWalk => 24
  | gunWalk => 25 | scareWalk => 26

/-- The modes that hold a pose in place. -/
def staticModes : List LocomotionMode :=
  [idle, idelSquat, idelKneelTwoLegs, idelKneel, idelLyingFaceDown, idelBoxing]

/-- The modes replanned at the boxing interval. -/
def boxingModes : List LocomotionMode :=
  [leftPunch, rightPunch, randomPunch, leftHook, rightHook]

end LocomotionMode

/-- `is_static_motion_mode`: the planner never replans a static mode on a timer. -/
def isStaticMotionMode (mode : Int) : Bool :=
  LocomotionMode.staticModes.any fun m => mode = m.toInt

def isBoxing (mode : Int) : Bool := LocomotionMode.boxingModes.any fun m => mode = m.toInt

structure MovementState (K : Type) [Field K] where
  locomotionMode : Int := 0
  movementDirection : Vec3 K := ![0, 0, 0]
  facingDirection : Vec3 K := ![1, 0, 0]
  movementSpeed : K := -1
  height : K := -1

end Gearsonic
