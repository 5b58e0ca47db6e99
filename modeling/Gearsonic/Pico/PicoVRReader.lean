import Gearsonic.Common.DataBuffer
import Gearsonic.Common.Json
import Gearsonic.Pico.Controller
import Mathlib.Algebra.Group.Defs

/-!
# The headset callback

`pxrea_callback`: one device-state message, a JSON text with a second JSON text inside it,
into the body and the controller buffer. The JSON parser and `std::stod` are parameters.

Every read may throw. The callback catches the library's own exceptions and no others, so
`pxreaCallback` also returns what leaves it.
-/

namespace Gearsonic

/-- 24 joints, each position and quaternion. -/
structure PicoVRBodyPose (N : Type) where
  joints : Fin 24 → Fin 7 → N

structure PicoVRReader (N : Type) where
  bodyBuf : DataBuffer (PicoVRBodyPose N) := {}
  ctrlBuf : DataBuffer (PicoVRController N) := {}

/-- The library functions that the callback calls. -/
structure TextReaders (N : Type) where
  /-- `json::parse`; `none` when it throws. -/
  parse : String → Option (Json N)
  stod : String → Except StodError N

namespace PicoVRReader

variable {N : Type} [Zero N]

/-- The tokens that `std::getline` with a comma reads one after the other. -/
def getlineTokens (token : List Char) : List Char → List (List Char)
  | [] => if token = [] then [] else [token]
  | c :: cs => if c = ',' then token :: getlineTokens [] cs else getlineTokens (token ++ [c]) cs

/-- The texts that `parse_pose` hands to `std::stod`: the first seven tokens. -/
def poseTexts (s : String) : List String :=
  ((getlineTokens [] s.toList).take 7).map String.ofList

/-- `parse_pose`. -/
def parsePose (lib : TextReaders N) (s : String) : Except Thrown (Fin 7 → N) :=
  match (poseTexts s).mapM lib.stod with
  | .ok xs => .ok fun i => xs.getD i 0
  | .error e => .error (.stod e)

/-- One joint; without a `p` it stays at zero. -/
def parseJoint (lib : TextReaders N) (joint : Json N) : Except Thrown (Fin 7 → N) :=
  match joint.find? "p" with
  | none => .ok fun _ => 0
  | some p => p.getString.bind (parsePose lib)

/-- The joints of the body block, if there is one. -/
def bodyJoints (value : Json N) : Option (List (Json N)) :=
  match (value.find? "Body").bind fun body => body.find? "joints" with
  | some (.array joints) => some (joints.take 24)
  | _ => none

/-- The body block: the pose it updates, if it does. -/
def bodyBlock (lib : TextReaders N) (value : Json N) :
    Except Thrown (Option (PicoVRBodyPose N)) :=
  match bodyJoints value with
  | none => .ok none
  | some joints =>
    match joints.mapM (parseJoint lib) with
    | .ok poses => .ok (some ⟨fun i => poses.getD i fun _ => 0⟩)
    | .error e => .error e

/-- One hand's axes and buttons. -/
structure HandSample (N : Type) where
  axis : N × N
  trigger : N
  grip : N
  primaryButton : Bool
  secondaryButton : Bool

def readHand (hand : Json N) : Except Thrown (HandSample N) := do
  let x ← hand.numberOr "axisX" 0
  let y ← hand.numberOr "axisY" 0
  let trigger ← hand.numberOr "trigger" 0
  let grip ← hand.numberOr "grip" 0
  let primary ← hand.boolOr "primaryButton" false
  let secondary ← hand.boolOr "secondaryButton" false
  return ⟨(x, y), trigger, grip, primary, secondary⟩

/-- One side of the controller block, if it is there. -/
def readSide (value : Json N) (side : String) : Except Thrown (Option (HandSample N)) := do
  let controller ← value.subscript "Controller"
  match controller.find? side with
  | none => return none
  | some hand => return some (← readHand hand)

/-- The controller block: the sample it updates, if it does. -/
def controllerBlock (value : Json N) : Except Thrown (Option (PicoVRController N)) := do
  let left ← readSide value "left"
  let right ← readSide value "right"
  if left.isNone && right.isNone then return none
  else
    return some
      { leftAxis := (left.map (·.axis)).getD (0, 0)
        leftTrigger := (left.map (·.trigger)).getD 0
        leftGrip := (left.map (·.grip)).getD 0
        btnX := (left.map (·.primaryButton)).getD false
        btnY := (left.map (·.secondaryButton)).getD false
        rightAxis := (right.map (·.axis)).getD (0, 0)
        rightTrigger := (right.map (·.trigger)).getD 0
        rightGrip := (right.map (·.grip)).getD 0
        btnA := (right.map (·.primaryButton)).getD false
        btnB := (right.map (·.secondaryButton)).getD false }

def onBodyUpdate (r : PicoVRReader N) (pose : PicoVRBodyPose N) (now : TimePoint) :
    PicoVRReader N :=
  { r with bodyBuf := r.bodyBuf.setData pose now }

def onControllerUpdate (r : PicoVRReader N) (ctrl : PicoVRController N) (now : TimePoint) :
    PicoVRReader N :=
  { r with ctrlBuf := r.ctrlBuf.setData ctrl now }

/-- The message's inner value; `none` when the message has no `value`. -/
def messageValue (lib : TextReaders N) (stateJson : String) :
    Except Thrown (Option (Json N)) := do
  match lib.parse stateJson with
  | none => throw .json
  | some data =>
    match data.find? "value" with
    | none => return none
    | some inner =>
      match lib.parse (← inner.getString) with
      | none => throw .json
      | some value => return some value

/-- The blocks of a message, in order: the reader after them, and what they throw. -/
def onMessage (lib : TextReaders N) (r : PicoVRReader N) (value : Json N) (now : TimePoint) :
    PicoVRReader N × Option Thrown :=
  match bodyBlock lib value with
  | .error e => (r, some e)
  | .ok pose =>
    let r := match pose with
      | some pose => r.onBodyUpdate pose now
      | none => r
    match controllerBlock value with
    | .error e => (r, some e)
    | .ok none => (r, none)
    | .ok (some ctrl) => (r.onControllerUpdate ctrl now, none)

/-- The handler: a `json::exception` is logged and gone. -/
def uncaught : Option Thrown → Option StodError
  | some (.stod e) => some e
  | _ => none

/-- `pxrea_callback`: the reader after it, and the exception that leaves it. -/
def pxreaCallback (lib : TextReaders N) (r : PicoVRReader N) (isStateJson : Bool)
    (stateJson : String) (now : TimePoint) : PicoVRReader N × Option StodError :=
  if !isStateJson then (r, none)
  else
    match messageValue lib stateJson with
    | .error e => (r, uncaught (some e))
    | .ok none => (r, none)
    | .ok (some value) =>
      let (r, thrown) := r.onMessage lib value now
      (r, uncaught thrown)

end PicoVRReader

end Gearsonic
