import Mathlib.Tactic.Common

/-!
# JSON values

The part of the JSON library that the headset callback uses. The text parser itself is a
parameter of that callback. A number is a value of any type `N`.
-/

namespace Gearsonic

inductive Json (N : Type) where
  | null
  | bool (b : Bool)
  | number (x : N)
  | string (s : String)
  | array (items : List (Json N))
  | object (fields : List (String × Json N))

/-- What `std::stod` throws. -/
inductive StodError where
  | invalidArgument
  | outOfRange
deriving DecidableEq, Repr

/-- What the callback's code can throw: a `json::exception`, or what `std::stod` throws. -/
inductive Thrown where
  | json
  | stod (e : StodError)
deriving DecidableEq, Repr

namespace Json

variable {N : Type}

/-- `contains` and the element it finds; no value but an object contains a key. -/
def find? (j : Json N) (key : String) : Option (Json N) :=
  match j with
  | .object fields => (fields.find? fun f => f.1 = key).map Prod.snd
  | _ => none

/-- `operator[]` with a key: a missing element is a null, and so is an element of a null. -/
def subscript (j : Json N) (key : String) : Except Thrown (Json N) :=
  match j with
  | .object _ => .ok ((j.find? key).getD .null)
  | .null => .ok .null
  | _ => .error .json

/-- `get<std::string>()`. -/
def getString : Json N → Except Thrown String
  | .string s => .ok s
  | _ => .error .json

/-- `value(key, default)` at a number. -/
def numberOr (j : Json N) (key : String) (fallback : N) : Except Thrown N :=
  match j, j.find? key with
  | .object _, none => .ok fallback
  | .object _, some (.number x) => .ok x
  | _, _ => .error .json

/-- `value(key, default)` at a bool. -/
def boolOr (j : Json N) (key : String) (fallback : Bool) : Except Thrown Bool :=
  match j, j.find? key with
  | .object _, none => .ok fallback
  | .object _, some (.bool b) => .ok b
  | _, _ => .error .json

end Json

end Gearsonic
