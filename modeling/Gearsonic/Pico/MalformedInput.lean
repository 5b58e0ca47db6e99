import Mathlib.Algebra.Ring.Int.Defs
import Gearsonic.Common.Fallible
import Gearsonic.Pico.PicoVRReader

/-!
# Malformed headset input

Which messages `pxrea_callback` survives. The library's own errors are caught wherever they
arise. A number text that `std::stod` refuses is not: its exception leaves the callback.

* `numberTexts`: the texts of a message that reach `std::stod` if none of them is refused.
* `mapM_parseJoint_stod`: the joints of a body block, one after the other.
* `malformed_input`: the callback returns and keeps its buffers exactly when every number
  text is one that `std::stod` reads.
-/

set_option linter.unusedSectionVars false

namespace Gearsonic

namespace PicoVRReader

variable {N : Type} [Zero N]

/-! ## The number texts of a message -/

/-- `p` is there and is no string: the joint raises a `json::exception`. -/
def badJoint (joint : Json N) : Bool :=
  match joint.find? "p" with
  | none | some (.string _) => false
  | some _ => true

def jointTexts (joint : Json N) : List String :=
  match joint.find? "p" with
  | some (.string s) => poseTexts s
  | _ => []

/-- The number texts of the joints before the first bad one. -/
def bodyTexts (value : Json N) : List String :=
  (((bodyJoints value).getD []).takeWhile fun joint => !badJoint joint).flatMap jointTexts

/-- The number texts of a message that has a value. -/
def numberTexts (lib : TextReaders N) (stateJson : String) : List String :=
  match messageValue lib stateJson with
  | .ok (some value) => bodyTexts value
  | _ => []

/-- `std::stod` reads the text. -/
def TextReaders.Reads (lib : TextReaders N) (text : String) : Prop :=
  ∃ x, lib.stod text = .ok x

/-! ## Parsing joints -/

variable {lib : TextReaders N}

/-- Never a `json::exception` from the numbers of a pose. -/
theorem parsePose_stod (s : String) :
    (∃ pose, parsePose lib s = .ok pose ∧ ∀ text ∈ poseTexts s, TextReaders.Reads lib text) ∨
      ∃ e, parsePose lib s = .error (.stod e) ∧
        ¬ ∀ text ∈ poseTexts s, TextReaders.Reads lib text := by
  unfold parsePose
  cases htexts : (poseTexts s).mapM lib.stod with
  | ok xs => exact Or.inl ⟨_, rfl, Fallible.mapM_ok_iff.mp ⟨xs, htexts⟩⟩
  | error e =>
    refine Or.inr ⟨e, rfl, fun hall => ?_⟩
    obtain ⟨xs, hxs⟩ := Fallible.mapM_ok_iff.mpr hall
    rw [htexts] at hxs
    cases hxs

/-- A joint is bad, or it is read, or one of its texts is refused. -/
theorem parseJoint_cases (lib : TextReaders N) (joint : Json N) :
    (badJoint joint = true ∧ parseJoint lib joint = .error .json) ∨
      (badJoint joint = false ∧
        ((∃ pose, parseJoint lib joint = .ok pose ∧
            ∀ text ∈ jointTexts joint, TextReaders.Reads lib text) ∨
          ∃ e, parseJoint lib joint = .error (.stod e) ∧
            ¬ ∀ text ∈ jointTexts joint, TextReaders.Reads lib text)) := by
  unfold badJoint parseJoint jointTexts
  cases hp : joint.find? "p" with
  | none => exact Or.inr ⟨rfl, Or.inl ⟨_, rfl, nofun⟩⟩
  | some p =>
    cases p with
    | string s => exact Or.inr ⟨rfl, parsePose_stod s⟩
    | _ => exact Or.inl ⟨rfl, rfl⟩

/-- Joint by joint: what `std::stod` throws comes out exactly when it refuses a text before
the first bad joint. -/
theorem mapM_parseJoint_stod (joints : List (Json N)) :
    (∃ e, joints.mapM (parseJoint lib) = .error (.stod e)) ↔
      ¬ ∀ text ∈ (joints.takeWhile fun joint => !badJoint joint).flatMap jointTexts,
        TextReaders.Reads lib text := by
  induction joints with
  | nil => exact ⟨nofun, fun h => absurd nofun h⟩
  | cons joint joints ih =>
    rw [List.mapM_cons]
    rcases parseJoint_cases lib joint with
      ⟨hbad, hjoint⟩ | ⟨hgood, ⟨pose, hjoint, htexts⟩ | ⟨e, hjoint, htexts⟩⟩
    · rw [hjoint, List.takeWhile_cons_of_neg (by simp [hbad])]
      exact ⟨nofun, fun h => absurd nofun h⟩
    · rw [hjoint, List.takeWhile_cons_of_pos (by simp [hgood]), List.flatMap_cons,
        List.forall_mem_append]
      have hrest : (∃ e, (do
            let y ← (Except.ok pose : Except Thrown (Fin 7 → N))
            let ys ← joints.mapM (parseJoint lib)
            pure (y :: ys)) = .error (.stod e)) ↔
          ∃ e, joints.mapM (parseJoint lib) = .error (.stod e) := by
        cases joints.mapM (parseJoint lib) with
        | error e => exact Iff.rfl
        | ok ys => exact ⟨nofun, nofun⟩
      rw [hrest, ih]
      exact ⟨fun h hall => h hall.2, fun h hall => h ⟨htexts, hall⟩⟩
    · rw [hjoint, List.takeWhile_cons_of_pos (by simp [hgood]), List.flatMap_cons,
        List.forall_mem_append]
      exact ⟨fun _ hall => htexts hall.1, fun _ => ⟨e, rfl⟩⟩

theorem bodyBlock_stod (value : Json N) :
    (∃ e, bodyBlock lib value = .error (.stod e)) ↔
      ¬ ∀ text ∈ bodyTexts value, TextReaders.Reads lib text := by
  unfold bodyBlock bodyTexts
  cases bodyJoints value with
  | none => exact ⟨nofun, fun h => absurd nofun h⟩
  | some joints =>
    rw [Option.getD_some, ← mapM_parseJoint_stod]
    dsimp only
    cases joints.mapM (parseJoint lib) with
    | ok poses => exact ⟨nofun, nofun⟩
    | error e =>
      constructor
      · rintro ⟨_, he⟩
        cases he
        exact ⟨_, rfl⟩
      · rintro ⟨_, he⟩
        cases he
        exact ⟨_, rfl⟩

/-! ## What only the JSON library throws -/

/-- Every exception of `x` is a `json::exception`. -/
def JsonOnly {α : Type} (x : Except Thrown α) : Prop := ∀ e, x = .error e → e = .json

theorem jsonOnly_ok {α : Type} (a : α) : JsonOnly (.ok a) := nofun

theorem jsonOnly_error {α : Type} : JsonOnly (.error .json : Except Thrown α) := by
  intro e he
  cases he
  rfl

theorem jsonOnly_bind {α β : Type} {x : Except Thrown α} {f : α → Except Thrown β}
    (hx : JsonOnly x) (hf : ∀ a, JsonOnly (f a)) : JsonOnly (x >>= f) := by
  intro e he
  cases h : x with
  | error thrown =>
    rw [h] at he
    cases he
    exact hx _ h
  | ok a =>
    rw [h] at he
    exact hf a e he

theorem jsonOnly_subscript (value : Json N) (key : String) : JsonOnly (value.subscript key) := by
  cases value with
  | object fields => exact jsonOnly_ok _
  | null => exact jsonOnly_ok _
  | _ => exact jsonOnly_error

theorem jsonOnly_getString (value : Json N) : JsonOnly value.getString := by
  cases value with
  | string s => exact jsonOnly_ok _
  | _ => exact jsonOnly_error

theorem jsonOnly_numberOr (value : Json N) (key : String) (fallback : N) :
    JsonOnly (value.numberOr key fallback) := by
  unfold Json.numberOr
  split
  · exact jsonOnly_ok _
  · exact jsonOnly_ok _
  · exact jsonOnly_error

theorem jsonOnly_boolOr (value : Json N) (key : String) (fallback : Bool) :
    JsonOnly (value.boolOr key fallback) := by
  unfold Json.boolOr
  split
  · exact jsonOnly_ok _
  · exact jsonOnly_ok _
  · exact jsonOnly_error

theorem jsonOnly_readHand (hand : Json N) : JsonOnly (readHand hand) := by
  unfold readHand
  refine jsonOnly_bind (jsonOnly_numberOr hand _ _) fun x => ?_
  refine jsonOnly_bind (jsonOnly_numberOr hand _ _) fun y => ?_
  refine jsonOnly_bind (jsonOnly_numberOr hand _ _) fun trigger => ?_
  refine jsonOnly_bind (jsonOnly_numberOr hand _ _) fun grip => ?_
  refine jsonOnly_bind (jsonOnly_boolOr hand _ _) fun primary => ?_
  exact jsonOnly_bind (jsonOnly_boolOr hand _ _) fun secondary => jsonOnly_ok _

theorem jsonOnly_readSide (value : Json N) (side : String) : JsonOnly (readSide value side) := by
  unfold readSide
  refine jsonOnly_bind (jsonOnly_subscript value _) fun controller => ?_
  cases controller.find? side with
  | none => exact jsonOnly_ok _
  | some hand => exact jsonOnly_bind (jsonOnly_readHand hand) fun _ => jsonOnly_ok _

theorem jsonOnly_controllerBlock (value : Json N) : JsonOnly (controllerBlock value) := by
  unfold controllerBlock
  refine jsonOnly_bind (jsonOnly_readSide value _) fun left => ?_
  refine jsonOnly_bind (jsonOnly_readSide value _) fun right => ?_
  split
  · exact jsonOnly_ok _
  · exact jsonOnly_ok _

theorem jsonOnly_messageValue (stateJson : String) : JsonOnly (messageValue lib stateJson) := by
  unfold messageValue
  cases lib.parse stateJson with
  | none => exact jsonOnly_error
  | some data =>
    dsimp only
    cases data.find? "value" with
    | none => exact jsonOnly_ok _
    | some inner =>
      refine jsonOnly_bind (jsonOnly_getString inner) fun text => ?_
      cases lib.parse text with
      | none => exact jsonOnly_error
      | some value => exact jsonOnly_ok _

/-! ## The callback -/

theorem onMessage_body_error {r : PicoVRReader N} {value : Json N} {e : Thrown}
    (h : bodyBlock lib value = .error e) (now : TimePoint) :
    r.onMessage lib value now = (r, some e) := by
  unfold onMessage
  rw [h]

theorem onMessage_body_ok {r : PicoVRReader N} {value : Json N}
    {pose : Option (PicoVRBodyPose N)} (h : bodyBlock lib value = .ok pose) (now : TimePoint) :
    uncaught (r.onMessage lib value now).2 = none := by
  unfold onMessage
  rw [h]
  dsimp only
  cases hctrl : controllerBlock value with
  | error e =>
    rw [jsonOnly_controllerBlock value e hctrl]
    rfl
  | ok ctrl =>
    cases ctrl with
    | none => rfl
    | some ctrl => rfl

/-- What a message throws leaves the callback exactly when `std::stod` threw it. -/
theorem onMessage_uncaught (r : PicoVRReader N) (value : Json N) (now : TimePoint) :
    uncaught (r.onMessage lib value now).2 = none ↔
      ∀ text ∈ bodyTexts value, TextReaders.Reads lib text := by
  rw [← not_iff_not, ← bodyBlock_stod]
  cases hbody : bodyBlock lib value with
  | ok pose =>
    rw [onMessage_body_ok hbody]
    exact ⟨fun h => absurd rfl h, nofun⟩
  | error e =>
    rw [onMessage_body_error hbody]
    cases e with
    | json => exact ⟨fun h => absurd rfl h, nofun⟩
    | stod e => exact ⟨fun _ => ⟨e, rfl⟩, fun _ => nofun⟩

/-- A device-state message is survived, and one whose body block raises an error changes no
buffer, exactly when `std::stod` reads each of its number texts. -/
theorem malformed_input (lib : TextReaders N) (r : PicoVRReader N) (stateJson : String)
    (now : TimePoint) :
    ((r.pxreaCallback lib true stateJson now).2 = none ∧
        ∀ value e, messageValue lib stateJson = .ok (some value) →
          bodyBlock lib value = .error e → (r.pxreaCallback lib true stateJson now).1 = r) ↔
      ∀ text ∈ numberTexts lib stateJson, TextReaders.Reads lib text := by
  unfold numberTexts pxreaCallback
  cases hvalue : messageValue lib stateJson with
  | error e =>
    rw [jsonOnly_messageValue stateJson e hvalue]
    exact ⟨fun _ => nofun, fun _ => ⟨rfl, nofun⟩⟩
  | ok value =>
    cases value with
    | none => exact ⟨fun _ => nofun, fun _ => ⟨rfl, nofun⟩⟩
    | some value =>
      refine ⟨fun h => (onMessage_uncaught r value now).mp h.1, fun h => ⟨?_, ?_⟩⟩
      · exact (onMessage_uncaught r value now).mpr h
      · intro value' e heq hbody
        cases heq
        exact congrArg Prod.fst (onMessage_body_error hbody now)

/-! ## A joint without a number -/

def wordBody : String :=
  "\x7b\"Body\": \x7b\"joints\": [\x7b\"p\": \"abc\"\x7d]\x7d\x7d"

def wordMessage : String :=
  "\x7b\"value\": \"\x7b\\\"Body\\\": \x7b\\\"joints\\\": [\x7b\\\"p\\\": \\\"abc\\\"\x7d]\x7d\x7d\"\x7d"

/-- The two readers on this message. -/
def wordReaders : TextReaders Int where
  parse text :=
    if text = wordMessage then some (.object [("value", .string wordBody)])
    else if text = wordBody then
      some (.object [("Body", .object [("joints", .array [.object [("p", .string "abc")]])])])
    else none
  stod text := if text = "abc" then .error .invalidArgument else .ok 0

/-- The refused text leaves the callback. -/
theorem word_escapes :
    (({} : PicoVRReader Int).pxreaCallback wordReaders true wordMessage 0).2 =
      some .invalidArgument := by
  decide +kernel

end PicoVRReader

end Gearsonic
