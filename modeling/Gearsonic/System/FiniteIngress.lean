import Gearsonic.Motion.InputHandler
import Gearsonic.Pico.StoredNumbers
import Gearsonic.Planner.FloatResample
import Gearsonic.Transition.Loop
import Gearsonic.Unitree.FloatHand
import Gearsonic.Vla.VlaTokenReceiver

/-!
# Non-finite numbers at the entrances

Numbers enter at four places: a latent action, a navigation command, a headset message and a
planner output. The first two reject a message as a whole if a float of it is not finite. The
headset callback keeps whatever `std::stod` reads, also `nan` and `inf`, and the resampler
checks for NaN only.

* `Ingress`: the buffers behind the four entrances, and what one arrival does to them.
* `acceptsLatent_eq`: the floats' check of a latent action is the one of the receiver's model.
* `finite_ingress_iff`: the buffers stay finite, and what is not finite is rejected, exactly
  if no stored pose has such a text and no accepted output an infinity.
-/

set_option linter.unusedSectionVars false

namespace Gearsonic

open Numeric

structure FloatSequence (K : Type) where
  frames : List (FloatFrame K) := []
  genFrame : Int := 0

/-- The buffers, the two receivers' counters, and what `run_and_publish` writes. -/
structure Ingress (K : Type) where
  latentBuf : DataBuffer (LatentFloats K) := {}
  latentReceived : Nat := 0
  latentRejected : Nat := 0
  navBuf : DataBuffer (NavCommand (FloatVal K)) := {}
  navReceived : Nat := 0
  navRejected : Nat := 0
  reader : PicoVRReader (FloatVal K) := {}
  motionSeq : FloatSequence K := {}
  motion50hzBuf : DataBuffer (FloatSequence K) := {}
  lastPublish : TimePoint := 0

/-- One message, or one inference. -/
inductive Arrival (K : Type) where
  | latent (msg : LatentFloats K) (now : TimePoint)
  | nav (cmd : NavCommand (FloatVal K)) (now : TimePoint)
  | headset (isStateJson : Bool) (stateJson : String) (now : TimePoint)
  | planner (engine : Option (FloatOutput K)) (genFrame : Int) (now : TimePoint)

namespace Ingress

variable {K : Type} [Field K] [LinearOrder K] [CMath K]

/-! ## The entrances -/

def allFloatsFinite {n : Nat} (v : Fin n → FloatVal K) : Bool :=
  (List.finRange n).all fun i => (v i).isFinite

def acceptsLatent (msg : LatentFloats K) : Bool :=
  allFloatsFinite msg.token && allFloatsFinite msg.leftHand && allFloatsFinite msg.rightHand

/-- `on_latent_action`. -/
def onLatentAction (s : Ingress K) (msg : LatentFloats K) (now : TimePoint) : Ingress K :=
  if acceptsLatent msg then
    { s with
      latentBuf := s.latentBuf.setData msg now
      latentReceived := s.latentReceived + 1 }
  else { s with latentRejected := s.latentRejected + 1 }

/-- `on_cmd`. -/
def onCmd (s : Ingress K) (cmd : NavCommand (FloatVal K)) (now : TimePoint) : Ingress K :=
  if cmd.vx.isFinite && cmd.vy.isFinite && cmd.vyaw.isFinite then
    { s with
      navBuf := s.navBuf.setData cmd now
      navReceived := s.navReceived + 1 }
  else { s with navRejected := s.navRejected + 1 }

/-- `pxrea_callback`. -/
def pxreaCallback (lib : TextReaders (FloatVal K)) (s : Ingress K) (isStateJson : Bool)
    (stateJson : String) (now : TimePoint) : Ingress K :=
  { s with reader := (s.reader.pxreaCallback lib isStateJson stateJson now).1 }

/-- `run_and_publish`, from the engine's output on. -/
def runAndPublish (s : Ingress K) (engine : Option (FloatOutput K)) (genFrame : Int)
    (now : TimePoint) : Ingress K :=
  match engine.bind FloatOutput.toFrames with
  | none => s
  | some frames =>
    { s with
      motionSeq := ⟨frames, genFrame⟩
      motion50hzBuf := s.motion50hzBuf.setData ⟨frames, genFrame⟩ now
      lastPublish := now }

def arrive (lib : TextReaders (FloatVal K)) (s : Ingress K) : Arrival K → Ingress K
  | .latent msg now => s.onLatentAction msg now
  | .nav cmd now => s.onCmd cmd now
  | .headset isStateJson stateJson now => s.pxreaCallback lib isStateJson stateJson now
  | .planner engine genFrame now => s.runAndPublish engine genFrame now

/-! ## Finite buffers -/

abbrev IsFinite (x : FloatVal K) : Prop := x.isFinite = true

structure LatentFinite (msg : LatentFloats K) : Prop where
  token : AllFinite msg.token
  leftHand : AllFinite msg.leftHand
  rightHand : AllFinite msg.rightHand

structure NavFinite (cmd : NavCommand (FloatVal K)) : Prop where
  vx : IsFinite cmd.vx
  vy : IsFinite cmd.vy
  vyaw : IsFinite cmd.vyaw

/-- Whatever the buffers hold is finite. -/
structure Finite (s : Ingress K) : Prop where
  latent : ∀ v, s.latentBuf.data = some v → LatentFinite v
  nav : ∀ v, s.navBuf.data = some v → NavFinite v
  body : ∀ v, s.reader.bodyBuf.data = some v → v.Forall IsFinite
  ctrl : ∀ v, s.reader.ctrlBuf.data = some v → v.Forall IsFinite
  motion : ∀ v, s.motion50hzBuf.data = some v → ∀ fr ∈ v.frames, fr.Finite

structure SameBuffers (s t : Ingress K) : Prop where
  latent : s.latentBuf = t.latentBuf
  nav : s.navBuf = t.navBuf
  reader : s.reader = t.reader
  motion : s.motion50hzBuf = t.motion50hzBuf

/-- The floats that the resampler takes for the prediction. -/
def PredictedFinite (out : FloatOutput K) : Prop :=
  ∀ f : Fin 64, (f.val : Int) < out.numPredFrames → AllFinite (out.mujocoQpos f)

/-- Every number text of the body block that `std::stod` reads is a finite number. -/
def TextsFinite (lib : TextReaders (FloatVal K)) (value : Json (FloatVal K)) : Prop :=
  ∀ joint ∈ (PicoVRReader.bodyJoints value).getD [], ∀ text ∈ PicoVRReader.jointTexts joint,
    PicoVRReader.TextReaders.ReadsIn lib IsFinite text

/-- The arrival has a NaN or an infinity. -/
def Carries (lib : TextReaders (FloatVal K)) : Arrival K → Prop
  | .latent msg _ => ¬ LatentFinite msg
  | .nav cmd _ => ¬ NavFinite cmd
  | .headset _ stateJson _ =>
    ∃ value, PicoVRReader.messageValue lib stateJson = .ok (some value) ∧ ¬ TextsFinite lib value
  | .planner engine _ _ => ∃ out, engine = some out ∧ ¬ PredictedFinite out

/-- The buffers are finite, and as before if the arrival was not. -/
def Guards (lib : TextReaders (FloatVal K)) (s : Ingress K) (a : Arrival K) : Prop :=
  Finite (s.arrive lib a) ∧ (Carries lib a → SameBuffers (s.arrive lib a) s)

/-- No body block that is stored has a text that is not finite, and no output that is not
rejected an infinity. -/
def Clean (lib : TextReaders (FloatVal K)) : Arrival K → Prop
  | .latent _ _ | .nav _ _ => True
  | .headset isStateJson stateJson _ =>
    isStateJson = true → ∀ value, PicoVRReader.messageValue lib stateJson = .ok (some value) →
      PicoVRReader.BodyDropped lib value ∨ TextsFinite lib value
  | .planner engine _ _ => ∀ out, engine = some out → out.Rejected ∨ PredictedFinite out

/-- `json::parse` gives finite numbers: the grammar has no other, and it throws where a number
overflows. -/
def NumbersFinite (lib : TextReaders (FloatVal K)) : Prop :=
  ∀ text value, lib.parse text = some value → ∀ x, value.HasNumber x → IsFinite x

/-! ## The two receivers -/

theorem allFloatsFinite_iff {n : Nat} (v : Fin n → FloatVal K) :
    allFloatsFinite v = true ↔ AllFinite v := by
  unfold allFloatsFinite
  rw [List.all_eq_true]
  exact ⟨fun h i => h i (List.mem_finRange i), fun h i _ => h i⟩

theorem acceptsLatent_iff (msg : LatentFloats K) :
    acceptsLatent msg = true ↔ LatentFinite msg := by
  unfold acceptsLatent
  rw [Bool.and_eq_true, Bool.and_eq_true, allFloatsFinite_iff, allFloatsFinite_iff,
    allFloatsFinite_iff]
  exact ⟨fun h => ⟨h.1.1, h.1.2, h.2⟩, fun h => ⟨⟨h.token, h.leftHand⟩, h.rightHand⟩⟩

/-- The message as the receiver's model has it. -/
def toStep (msg : LatentFloats K) : LatentActionStep K :=
  { tokenState := fun i => (msg.token i).toOption
    leftHandJoints := fun i => (msg.leftHand i).toOption
    rightHandJoints := fun i => (msg.rightHand i).toOption }

theorem acceptsLatent_eq (msg : LatentFloats K) :
    acceptsLatent msg = (VlaTokenReceiver.accept (toStep msg)).isSome := by
  have hall : ∀ {n : Nat} (v : Fin n → FloatVal K),
      allFinite (fun i => (v i).toOption) = allFloatsFinite v := by
    intro n v
    unfold allFinite allFloatsFinite
    simp only [FloatVal.isSome_toOption]
  unfold acceptsLatent VlaTokenReceiver.accept toStep
  dsimp only
  rw [hall, hall, hall]
  split
  · rename_i h
    exact h
  · rename_i h
    exact Bool.eq_false_of_not_eq_true h

theorem navAccepts_iff (cmd : NavCommand (FloatVal K)) :
    (cmd.vx.isFinite && cmd.vy.isFinite && cmd.vyaw.isFinite) = true ↔ NavFinite cmd := by
  rw [Bool.and_eq_true, Bool.and_eq_true]
  exact ⟨fun h => ⟨h.1.1, h.1.2, h.2⟩, fun h => ⟨⟨h.vx, h.vy⟩, h.vyaw⟩⟩

/-! ## One arrival -/

variable {lib : TextReaders (FloatVal K)} {s t : Ingress K}

theorem Finite.of_same (hs : Finite s) (h : SameBuffers t s) : Finite t :=
  ⟨h.latent ▸ hs.latent, h.nav ▸ hs.nav, h.reader ▸ hs.body, h.reader ▸ hs.ctrl,
    h.motion ▸ hs.motion⟩

theorem Guards.of_same {a : Arrival K} (hs : Finite s) (h : SameBuffers (s.arrive lib a) s) :
    Guards lib s a :=
  ⟨hs.of_same h, fun _ => h⟩

theorem guards_latent (hs : Finite s) (msg : LatentFloats K) (now : TimePoint) :
    Guards lib s (.latent msg now) := by
  by_cases haccept : acceptsLatent msg = true
  · have hmsg := (acceptsLatent_iff msg).mp haccept
    refine ⟨?_, fun hcarries => absurd hmsg hcarries⟩
    show Finite (s.onLatentAction msg now)
    unfold onLatentAction
    rw [if_pos haccept]
    refine ⟨?_, hs.nav, hs.body, hs.ctrl, hs.motion⟩
    rintro v ⟨⟩
    exact hmsg
  · apply Guards.of_same hs
    show SameBuffers (s.onLatentAction msg now) s
    unfold onLatentAction
    rw [if_neg haccept]
    exact ⟨rfl, rfl, rfl, rfl⟩

theorem guards_nav (hs : Finite s) (cmd : NavCommand (FloatVal K)) (now : TimePoint) :
    Guards lib s (.nav cmd now) := by
  by_cases haccept : (cmd.vx.isFinite && cmd.vy.isFinite && cmd.vyaw.isFinite) = true
  · have hcmd := (navAccepts_iff cmd).mp haccept
    refine ⟨?_, fun hcarries => absurd hcmd hcarries⟩
    show Finite (s.onCmd cmd now)
    unfold onCmd
    rw [if_pos haccept]
    refine ⟨hs.latent, ?_, hs.body, hs.ctrl, hs.motion⟩
    rintro v ⟨⟩
    exact hcmd
  · apply Guards.of_same hs
    show SameBuffers (s.onCmd cmd now) s
    unfold onCmd
    rw [if_neg haccept]
    exact ⟨rfl, rfl, rfl, rfl⟩

/-! ## The headset -/

theorem parse_of_messageValue {stateJson : String} {value : Json (FloatVal K)}
    (h : PicoVRReader.messageValue lib stateJson = .ok (some value)) :
    ∃ text, lib.parse text = some value := by
  unfold PicoVRReader.messageValue at h
  cases hdata : lib.parse stateJson with
  | none =>
    rw [hdata] at h
    cases h
  | some data =>
    rw [hdata] at h
    dsimp only at h
    cases hinner : data.find? "value" with
    | none =>
      rw [hinner] at h
      cases h
    | some inner =>
      rw [hinner] at h
      obtain ⟨text, -, h⟩ := Fallible.bind_ok.mp h
      cases hvalue : lib.parse text with
      | none =>
        rw [hvalue] at h
        cases h
      | some value' =>
        rw [hvalue] at h
        cases h
        exact ⟨text, hvalue⟩

/-- What a message stores whose body block is read. -/
theorem onMessage_stores (r : PicoVRReader (FloatVal K)) {value : Json (FloatVal K)}
    {stored : Option (PicoVRBodyPose (FloatVal K))}
    (h : PicoVRReader.bodyBlock lib value = .ok stored) (now : TimePoint) :
    (r.onMessage lib value now).1.bodyBuf.data = stored.or r.bodyBuf.data ∧
      ((r.onMessage lib value now).1.ctrlBuf.data = r.ctrlBuf.data ∨
        ∃ ctrl, PicoVRReader.controllerBlock value = .ok (some ctrl) ∧
          (r.onMessage lib value now).1.ctrlBuf.data = some ctrl) := by
  unfold PicoVRReader.onMessage
  rw [h]
  dsimp only
  cases hctrl : PicoVRReader.controllerBlock value with
  | error e => cases stored <;> exact ⟨rfl, Or.inl rfl⟩
  | ok ctrl =>
    cases ctrl with
    | none => cases stored <;> exact ⟨rfl, Or.inl rfl⟩
    | some ctrl => cases stored <;> exact ⟨rfl, Or.inr ⟨ctrl, rfl, rfl⟩⟩

/-- A message whose body block is read is guarded exactly if its number texts are finite. -/
theorem guards_stored (hjson : NumbersFinite lib) (hs : Finite s) {stateJson : String}
    {value : Json (FloatVal K)}
    (hvalue : PicoVRReader.messageValue lib stateJson = .ok (some value))
    (hread : ¬ PicoVRReader.BodyDropped lib value) (now : TimePoint) :
    Guards lib s (.headset true stateJson now) ↔ TextsFinite lib value := by
  have hzero : IsFinite (0 : FloatVal K) := rfl
  have harrive : (s.arrive lib (.headset true stateJson now)) =
      { s with reader := (s.reader.onMessage lib value now).1 } := by
    show s.pxreaCallback lib true stateJson now = _
    unfold pxreaCallback PicoVRReader.pxreaCallback
    rw [hvalue]
    rfl
  obtain ⟨stored, hstored⟩ : ∃ stored, PicoVRReader.bodyBlock lib value = .ok stored := by
    cases hbody : PicoVRReader.bodyBlock lib value with
    | ok stored => exact ⟨stored, rfl⟩
    | error e => exact absurd ((PicoVRReader.bodyBlock_error_iff value).mp ⟨e, hbody⟩) hread
  have htexts := PicoVRReader.bodyBlock_forall (P := IsFinite) hzero hstored
  obtain ⟨hbody, hctrl⟩ := onMessage_stores s.reader hstored now
  unfold TextsFinite
  rw [← htexts]
  constructor
  · rintro ⟨hfinite, -⟩ pose hpose
    rw [harrive] at hfinite
    rw [hpose] at hbody
    exact hfinite.body pose hbody
  · intro hpose
    refine ⟨?_, ?_⟩
    · rw [harrive]
      refine ⟨hs.latent, hs.nav, fun v hv => ?_, fun v hv => ?_, hs.motion⟩
      · rw [hbody] at hv
        cases stored with
        | none => exact hs.body v hv
        | some pose =>
          cases hv
          exact hpose v rfl
      · rcases hctrl with hsame | ⟨ctrl, hblock, hnew⟩
        · rw [hsame] at hv
          exact hs.ctrl v hv
        · rw [hnew] at hv
          cases hv
          obtain ⟨text, hparse⟩ := parse_of_messageValue hvalue
          exact PicoVRReader.controllerBlock_forall hzero (hjson text value hparse) hblock
    · rintro ⟨value', hvalue', hno⟩
      rw [hvalue] at hvalue'
      cases hvalue'
      exact absurd (htexts.mp hpose) hno

theorem guards_headset (hjson : NumbersFinite lib) (hs : Finite s) (isStateJson : Bool)
    (stateJson : String) (now : TimePoint) :
    Guards lib s (.headset isStateJson stateJson now) ↔
      Clean lib (.headset isStateJson stateJson now) := by
  -- all the messages that leave the reader as it is
  have hsame : (s.reader.pxreaCallback lib isStateJson stateJson now).1 = s.reader →
      Guards lib s (.headset isStateJson stateJson now) :=
    fun hreader => .of_same hs ⟨rfl, rfl, hreader, rfl⟩
  cases isStateJson with
  | false => exact ⟨fun _ h => Bool.noConfusion h, fun _ => hsame rfl⟩
  | true =>
    cases hvalue : PicoVRReader.messageValue lib stateJson with
    | error e =>
      refine ⟨fun _ _ value heq => ?_, fun _ => hsame ?_⟩
      · rw [hvalue] at heq
        cases heq
      · unfold PicoVRReader.pxreaCallback
        rw [hvalue]
        rfl
    | ok value =>
      cases value with
      | none =>
        refine ⟨fun _ _ value heq => ?_, fun _ => hsame ?_⟩
        · rw [hvalue] at heq
          cases heq
        · unfold PicoVRReader.pxreaCallback
          rw [hvalue]
          rfl
      | some value =>
        have hclean : Clean lib (.headset true stateJson now) ↔
            PicoVRReader.BodyDropped lib value ∨ TextsFinite lib value := by
          constructor
          · exact fun h => h rfl value hvalue
          · intro h _ value' hvalue'
            rw [hvalue] at hvalue'
            cases hvalue'
            exact h
        rw [hclean]
        by_cases hdropped : PicoVRReader.BodyDropped lib value
        · refine ⟨fun _ => Or.inl hdropped, fun _ => hsame ?_⟩
          obtain ⟨e, hbody⟩ := (PicoVRReader.bodyBlock_error_iff value).mpr hdropped
          unfold PicoVRReader.pxreaCallback
          rw [hvalue]
          exact congrArg Prod.fst (PicoVRReader.onMessage_body_error hbody now)
        · rw [guards_stored hjson hs hvalue hdropped]
          exact ⟨Or.inr, fun h => h.resolve_left hdropped⟩

/-! ## The planner -/

theorem guards_planner {lib : TextReaders (FloatVal ℝ)} {s : Ingress ℝ} (hs : Finite s)
    (engine : Option (FloatOutput ℝ)) (genFrame : Int) (now : TimePoint) :
    Guards lib s (.planner engine genFrame now) ↔ Clean lib (.planner engine genFrame now) := by
  cases engine with
  | none =>
    refine ⟨fun _ => ?_, fun _ => .of_same hs ⟨rfl, rfl, rfl, rfl⟩⟩
    rintro out ⟨⟩
  | some out =>
    have hclean : Clean lib (.planner (some out) genFrame now) ↔
        out.Rejected ∨ PredictedFinite out := by
      constructor
      · exact fun h => h out rfl
      · rintro h out' ⟨⟩
        exact h
    rw [hclean]
    by_cases hrejected : out.Rejected
    · have hnone := FloatOutput.toFrames_of_rejected hrejected
      have harrive : s.arrive lib (.planner (some out) genFrame now) = s := by
        show s.runAndPublish (some out) genFrame now = s
        unfold runAndPublish
        rw [Option.bind_some, hnone]
      refine ⟨fun _ => Or.inl hrejected, fun _ => .of_same hs ?_⟩
      rw [harrive]
      exact ⟨rfl, rfl, rfl, rfl⟩
    · obtain ⟨n, hn, hlo, hhi, hnan⟩ := FloatOutput.accepted_of_not_rejected hrejected
      have hframes := FloatOutput.frames_finite_iff hn hlo hhi
      have hsome := FloatOutput.toFrames_of_accepted hn hlo hhi hnan
      generalize (List.range (5 * n / 3)).map (out.frameAt (5 * n / 3)) = frames at hframes hsome
      have harrive : s.arrive lib (.planner (some out) genFrame now) =
          { s with
            motionSeq := ⟨frames, genFrame⟩
            motion50hzBuf := s.motion50hzBuf.setData ⟨frames, genFrame⟩ now
            lastPublish := now } := by
        show s.runAndPublish (some out) genFrame now = _
        unfold runAndPublish
        rw [Option.bind_some, hsome]
      constructor
      · rintro ⟨hfinite, -⟩
        rw [harrive] at hfinite
        exact Or.inr (hframes.mp (hfinite.motion _ rfl))
      · intro h
        have hpredicted : PredictedFinite out := h.resolve_left hrejected
        refine ⟨?_, ?_⟩
        · rw [harrive]
          refine ⟨hs.latent, hs.nav, hs.body, hs.ctrl, ?_⟩
          rintro v ⟨⟩
          exact hframes.mpr hpredicted
        · rintro ⟨out', hout, hno⟩
          cases hout
          exact absurd hpredicted hno

/-! ## Runs -/

theorem Finite.start : Finite ({} : Ingress K) := by
  refine ⟨?_, ?_, ?_, ?_, ?_⟩ <;> rintro v ⟨⟩

theorem guards_iff {lib : TextReaders (FloatVal ℝ)} (hjson : NumbersFinite lib) {s : Ingress ℝ}
    (hs : Finite s) (a : Arrival ℝ) : Guards lib s a ↔ Clean lib a := by
  cases a with
  | latent msg now => exact ⟨fun _ => trivial, fun _ => guards_latent hs msg now⟩
  | nav cmd now => exact ⟨fun _ => trivial, fun _ => guards_nav hs cmd now⟩
  | headset isStateJson stateJson now => exact guards_headset hjson hs isStateJson stateJson now
  | planner engine genFrame now => exact guards_planner hs engine genFrame now

/-- Over every sequence of messages and planner outputs: the buffers hold finite numbers only
and an arrival that is not finite leaves them as they are, exactly if no body block that is
stored has a number text that is not finite, and no output that is not rejected an infinity
in its predicted frames. -/
theorem finite_ingress_iff (lib : TextReaders (FloatVal ℝ)) (hjson : NumbersFinite lib)
    (as : List (Arrival ℝ)) :
    Transition.Throughout (Guards lib) (arrive lib) ({} : Ingress ℝ) as ↔
      ∀ a ∈ as, Clean lib a := by
  rw [← Transition.throughout_const]
  exact Transition.throughout_congr (I := Finite) .start (fun _ a hs => guards_iff hjson hs a)
    (fun _ a hs hclean => ((guards_iff hjson hs a).mpr hclean).1) as

/-! ## A pose of NaN and an infinite joint -/

/-- A body block with one joint, and the message around it. -/
def jointBody (p : String) : String :=
  "\x7b\"Body\": \x7b\"joints\": [\x7b\"p\": \"" ++ p ++ "\"\x7d]\x7d\x7d"

def jointMessage (p : String) : String :=
  "\x7b\"value\": \"\x7b\\\"Body\\\": \x7b\\\"joints\\\": [\x7b\\\"p\\\": \\\"" ++ p ++
    "\\\"\x7d]\x7d\x7d\"\x7d"

def jointValue (p : String) : Json (FloatVal ℝ) :=
  .object [("Body", .object [("joints", .array [.object [("p", .string p)]])])]

/-- The two readers on this message, whose text is read as `x`. -/
def poseReaders (p : String) (x : FloatVal ℝ) : TextReaders (FloatVal ℝ) where
  parse text :=
    if text = jointMessage p then some (.object [("value", .string (jointBody p))])
    else if text = jointBody p then some (jointValue p)
    else none
  stod text := if text = p then .ok x else .error .invalidArgument

theorem numbersFinite_poseReaders (p : String) (x : FloatVal ℝ) :
    NumbersFinite (poseReaders p x) := by
  have hmessage : ∀ x : FloatVal ℝ,
      ¬ (Json.object [("value", .string (jointBody p))]).HasNumber x := by
    rintro x (_ | _ | ⟨hf, hx⟩)
    obtain rfl := List.mem_singleton.mp hf
    cases hx
  have hvalue : ∀ x : FloatVal ℝ, ¬ (jointValue p).HasNumber x := by
    rintro x (_ | _ | ⟨hf, hx⟩)
    obtain rfl := List.mem_singleton.mp hf
    obtain _ | _ | ⟨hf, hx⟩ := hx
    obtain rfl := List.mem_singleton.mp hf
    obtain _ | ⟨hj, hx⟩ := hx
    obtain rfl := List.mem_singleton.mp hj
    obtain _ | _ | ⟨hf, hx⟩ := hx
    obtain rfl := List.mem_singleton.mp hf
    cases hx
  intro text value hparse y hy
  unfold poseReaders at hparse
  dsimp only at hparse
  split_ifs at hparse
  · cases hparse
    exact absurd hy (hmessage y)
  · cases hparse
    exact absurd hy (hvalue y)

theorem messageValue_poseReaders {p : String} (hne : jointBody p ≠ jointMessage p)
    (x : FloatVal ℝ) :
    PicoVRReader.messageValue (poseReaders p x) (jointMessage p) = .ok (some (jointValue p)) := by
  have houter : (poseReaders p x).parse (jointMessage p) =
      some (.object [("value", .string (jointBody p))]) := by
    simp [poseReaders]
  have hinner : (poseReaders p x).parse (jointBody p) = some (jointValue p) := by
    simp [poseReaders, hne]
  have hfind : (Json.object [("value", .string (jointBody p))] : Json (FloatVal ℝ)).find? "value" =
      some (.string (jointBody p)) := by
    simp [Json.find?]
  unfold PicoVRReader.messageValue
  rw [houter]
  dsimp only
  rw [hfind]
  dsimp only
  apply Fallible.bind_ok.mpr
  refine ⟨jointBody p, rfl, ?_⟩
  rw [hinner]
  rfl

/-- The joint of the message is read, and its text is the message's. -/
theorem jointTexts_poseReaders {p : String} (x : FloatVal ℝ)
    (htexts : PicoVRReader.poseTexts p = [p]) :
    ¬ PicoVRReader.BodyDropped (poseReaders p x) (jointValue p) ∧
      (TextsFinite (poseReaders p x) (jointValue p) ↔ IsFinite x) := by
  have hjoints : (PicoVRReader.bodyJoints (jointValue p)).getD [] =
      [.object [("p", .string p)]] := by
    simp [PicoVRReader.bodyJoints, jointValue, Json.find?]
  have hstod : (poseReaders p x).stod p = .ok x := if_pos rfl
  have hjoint : PicoVRReader.jointTexts (.object [("p", .string p)] : Json (FloatVal ℝ)) = [p] := by
    simp [PicoVRReader.jointTexts, Json.find?, htexts]
  have hgood : PicoVRReader.badJoint (.object [("p", .string p)] : Json (FloatVal ℝ)) = false := by
    simp [PicoVRReader.badJoint, Json.find?]
  constructor
  · rintro ⟨joint, hmem, hunreadable⟩
    rw [hjoints] at hmem
    obtain rfl := List.mem_singleton.mp hmem
    rcases hunreadable with hbad | ⟨text, htext, hrefused⟩
    · exact Bool.noConfusion (hbad.symm.trans hgood)
    · rw [hjoint] at htext
      obtain rfl := List.mem_singleton.mp htext
      exact hrefused ⟨x, hstod⟩
  · unfold TextsFinite PicoVRReader.TextReaders.ReadsIn
    rw [hjoints]
    simp only [List.mem_singleton, forall_eq, hjoint, hstod, Except.ok.injEq, forall_eq']

/-- `finite_ingress_iff` over one arrival at each entrance; the first two are rejected. -/
theorem finite_ingress_iff_mixed :
    Transition.Throughout (Guards (poseReaders "0.5" (.finite 0.5)))
      (arrive (poseReaders "0.5" (.finite 0.5))) ({} : Ingress ℝ)
      [.latent ⟨fun _ => .nan, fun _ => .finite 0, fun _ => .finite 0⟩ 0,
        .nav ⟨.inf false, .finite 0, .finite 0⟩ 1, .headset true (jointMessage "0.5") 2,
        .planner (some (FloatOutput.ofEngine standingOutput)) 0 3] := by
  refine (finite_ingress_iff _ (numbersFinite_poseReaders _ _) _).mpr ?_
  simp only [List.forall_mem_cons, List.not_mem_nil, false_implies, implies_true, and_true]
  refine ⟨trivial, trivial, ?_, ?_⟩
  · intro _ value hvalue
    rw [messageValue_poseReaders (by decide)] at hvalue
    cases hvalue
    exact Or.inr ((jointTexts_poseReaders (.finite 0.5) (by decide)).2.mpr rfl)
  · rintro out ⟨⟩
    exact Or.inr fun _ _ _ => rfl

/-- Two frames with an infinite joint. -/
noncomputable def infiniteOutput : FloatOutput ℝ :=
  { mujocoQpos := fun _ i =>
      if i.val = 7 then .inf false else if i.val = 3 then .finite 1 else .finite 0
    numPredFrames := 2 }

/-- The pose is stored, and so is the plan. -/
theorem nonfinite_stored :
    ¬ Transition.Throughout (Guards (poseReaders "nan" .nan)) (arrive (poseReaders "nan" .nan))
        ({} : Ingress ℝ) [.headset true (jointMessage "nan") 0] ∧
      ¬ Transition.Throughout (Guards (poseReaders "nan" .nan)) (arrive (poseReaders "nan" .nan))
        ({} : Ingress ℝ) [.planner (some infiniteOutput) 0 0] := by
  have hjson := numbersFinite_poseReaders "nan" .nan
  constructor
  · rintro ⟨hguards, -⟩
    obtain ⟨hread, htexts⟩ := jointTexts_poseReaders (p := "nan") .nan (by decide)
    have hvalue := messageValue_poseReaders (p := "nan") (by decide) .nan
    rw [guards_stored hjson .start hvalue hread, htexts] at hguards
    cases hguards
  · rintro ⟨hguards, -⟩
    have hclean := (guards_planner .start (some infiniteOutput) 0 0).mp hguards
    rcases hclean infiniteOutput rfl with hrejected | hpredicted
    · have hnan : infiniteOutput.hasNan = false := by
        unfold FloatOutput.hasNan infiniteOutput
        simp only [List.any_eq_false, Bool.and_eq_true, not_and, Bool.not_eq_true]
        intro f _ _ i _
        split
        · rfl
        · split <;> rfl
      rcases hrejected with hfew | hmany | hnan'
      · exact absurd hfew (by decide)
      · exact absurd hmany (by decide)
      · exact Bool.noConfusion (hnan'.symm.trans hnan)
    · exact Bool.noConfusion (hpredicted 0 (by decide) 7)

end Ingress

end Gearsonic
