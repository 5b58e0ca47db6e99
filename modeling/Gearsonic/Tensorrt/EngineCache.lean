import Gearsonic.Numeric.HashChain
import Gearsonic.Tensorrt.InferenceEngine
import Gearsonic.Tensorrt.Picosha2

/-!
# The engine cache

`ConvertONNXToTRT` builds a TensorRT engine from a model file and writes it beside the model, behind
64 hex digits that name the model's bytes, the GPU and the precision; as long as the digits fit, the
next call takes the file as it is. What TensorRT answers, and how much of the engine file reaches
the disk, comes from outside; a model file does not change while a call reads it. Paths and strings
are bytes.

The axis sizes of the options go into the engine, but not into the digits.

* `Sound.of_step`: every engine file begins as some call has written it.
* `engine_cache`: a call that succeeds leaves an engine of these bytes, this GPU and this precision.
-/

namespace Gearsonic

namespace EngineCache

open Picosha2 (hash256HexString hash256HexStringStream)

abbrev Bytes := List UInt8

abbrev Files := Bytes → Option Bytes

inductive Precision where
  | fp32
  | fp16
deriving DecidableEq

structure Options where
  precision : Precision := .fp32
  dynamicAxesNames : AxisNames := fun _ => none
  dynamicAxesSizes : String → Option (Int × Int × Int) := fun _ => none
  shapeTensorSizes : String → Option (List Int × List Int × List Int) := fun _ => none
  defaultSizes : Int × Int × Int := (1, 8, 16)
  deviceID : ℕ := 0

/-- An input of a parsed network. -/
structure NetworkInput where
  name : String
  dims : List Int
  isShapeTensor : Bool := false

/-- The sizes of one input: least, best and largest. -/
structure InputProfile where
  dimensions : List (Int × Int × Int)
  shapeValues : Option (List Int × List Int × List Int)

/-- What happens outside during one call. -/
structure Outside where
  /-- The builder, the network, the parser and the configuration are there. -/
  created : Bool := true
  parse : Bytes → Option (List NetworkInput)
  build : Bytes → List InputProfile → Precision → Option Bytes
  /-- The engine file can be opened for writing. -/
  opens : Bool := true
  /-- So many bytes of it reach the disk. -/
  stored : ℕ

/-! ## Names -/

def slash : UInt8 := 0x2f

def dot : UInt8 := 0x2e

/-- `.trt` -/
def extension : Bytes := [dot, 0x74, 0x72, 0x74]

def findLastOf (c : UInt8) : Bytes → Option ℕ
  | [] => none
  | x :: path =>
    match findLastOf c path with
    | some i => some (i + 1)
    | none => if x = c then some 0 else none

/-- The engine file of a model. Where the last dot is left of the name, or there is none, the
difference of positions wraps and the name is taken whole. -/
def trtFile (namePrefix onnxModelPath : Bytes) : Bytes :=
  let filenamePos := (findLastOf slash onnxModelPath).elim 0 (· + 1)
  let filename := onnxModelPath.drop filenamePos
  let stem :=
    match findLastOf dot onnxModelPath with
    | some i => if filenamePos ≤ i then filename.take (i - filenamePos) else filename
    | none => filename
  onnxModelPath.take filenamePos ++ namePrefix ++ stem ++ extension

/-- By device number; a device that is not there has an empty name. -/
def getCudaDeviceName (devices : List Bytes) (deviceID : ℕ) : Bytes := devices.getD deviceID []

/-- `std::to_string(int(precision))`. -/
def Precision.digits : Precision → Bytes
  | .fp32 => [0x30]
  | .fp16 => [0x31]

def trtHash (onnx device : Bytes) (precision : Precision) : Bytes :=
  let hash := hash256HexStringStream onnx
  let hash := hash256HexString (hash ++ device)
  hash256HexString (hash ++ precision.digits)

/-! ## The call -/

def axisSizes (options : Options) (name : String) (n : ℕ) : Option (Int × Int × Int) :=
  match options.dynamicAxesNames name with
  | some axisNames => (axisNames n).bind options.dynamicAxesSizes
  | none => some options.defaultSizes

def inputProfile (options : Options) (t : NetworkInput) : Option InputProfile := do
  let dimensions ← t.dims.zipIdx.mapM fun (d, n) =>
    if d = -1 then axisSizes options t.name n else some (d, d, d)
  if t.isShapeTensor then
    let sizes ← options.shapeTensorSizes t.name
    return ⟨dimensions, some sizes⟩
  return ⟨dimensions, none⟩

/-- From `createInferBuilder` to `buildSerializedNetwork`. -/
def buildEngine (options : Options) (out : Outside) (onnx : Bytes) : Option Bytes := do
  guard (out.created = true)
  let inputs ← out.parse onnx
  guard (1 ≤ inputs.length)
  let profile ← inputs.mapM (inputProfile options)
  out.build onnx profile options.precision

/-- The digits at the front of an engine file; a short one leaves zeros. -/
def hashInFile (content : Bytes) : Bytes :=
  content.take 64 ++ List.replicate (64 - content.length) 0

structure Call where
  options : Options := {}
  onnxModelPath : Bytes
  namePrefix : Bytes := []
  forceConvert : Bool := false
  out : Outside

def Call.trtFile (c : Call) : Bytes := EngineCache.trtFile c.namePrefix c.onnxModelPath

/-- The hash of the model, of the device and of the precision. -/
def Call.trtHash (c : Call) (devices : List Bytes) (onnx : Bytes) : Bytes :=
  EngineCache.trtHash onnx (getCudaDeviceName devices c.options.deviceID) c.options.precision

/-- The engine file is there and up to date. -/
def cached (files : Files) (devices : List Bytes) (c : Call) (onnx : Bytes) : Bool :=
  !c.forceConvert &&
    (files c.trtFile).any fun content => hashInFile content == c.trtHash devices onnx

/-- The engine file is truncated, and the hash and the engine are written. -/
def writeEngine (files : Files) (out : Outside) (path content : Bytes) : Files :=
  if out.opens then Function.update files path (some (content.take out.stored)) else files

def convertONNXToTRT (files : Files) (devices : List Bytes) (c : Call) : Bool × Files :=
  match files c.onnxModelPath with
  | none => (false, files)
  | some onnx =>
    if cached files devices c onnx then (true, files)
    else
      match buildEngine c.options c.out onnx with
      | none => (false, files)
      | some engine =>
        (true, writeEngine files c.out c.trtFile (c.trtHash devices onnx ++ engine))

/-- What `Initialize` hands to TensorRT. A file without the digits is read past its end. -/
def serializedEngine (content : Bytes) : Option Bytes :=
  if 64 ≤ content.length then some (content.drop 64) else none

/-! ## Runs -/

/-- An engine that TensorRT has built. -/
structure Origin where
  path : Bytes
  onnx : Bytes
  device : Bytes
  options : Options
  out : Outside
  engine : Bytes
  built : buildEngine options out onnx = some engine

def Origin.trtHash (o : Origin) : Bytes :=
  EngineCache.trtHash o.onnx o.device o.options.precision

/-- The engine file, when all of it reaches the disk. -/
def Origin.content (o : Origin) : Bytes := o.trtHash ++ o.engine

/-- `origins` has the engines that were built, and `torn` says whether a file has lost its end. -/
structure World where
  files : Files := fun _ => none
  devices : List Bytes := []
  origins : List Origin := []
  torn : Bool := false

/-- The engine that a call builds. -/
def World.builds (w : World) (c : Call) : List Origin :=
  match w.files c.onnxModelPath with
  | none => []
  | some onnx =>
    if cached w.files w.devices c onnx then []
    else
      match h : buildEngine c.options c.out onnx with
      | none => []
      | some engine =>
        [⟨c.trtFile, onnx, getCudaDeviceName w.devices c.options.deviceID, c.options, c.out, engine,
          h⟩]

def World.convert (w : World) (c : Call) : Bool × World :=
  let (ok, files) := convertONNXToTRT w.files w.devices c
  (ok, { w with
    files := files
    origins := w.origins ++ w.builds c
    torn := w.torn ||
      (w.builds c).any fun o => c.out.opens && decide (c.out.stored < o.content.length) })

/-- The engine files are written by the calls alone; anyone may write or remove another file, remove
an engine file, or cut its end off. -/
inductive Act where
  | write (path : Bytes) (content : Option Bytes)
  | remove (path : Bytes)
  | cut (path : Bytes) (n : ℕ)
  | devices (names : List Bytes)
  | convert (c : Call)

def step (w : World) : Act → Option World
  | .write path content =>
    if extension.isSuffixOf path then none
    else some { w with files := Function.update w.files path content }
  | .remove path => some { w with files := Function.update w.files path none }
  | .cut path n =>
    some { w with
      files := Function.update w.files path ((w.files path).map (List.take n))
      torn := true }
  | .devices names => some { w with devices := names }
  | .convert c => some (w.convert c).2

/-! ## The digits -/

theorem trtHash_eq_chain (onnx device : Bytes) (precision : Precision) :
    trtHash onnx device precision =
      HashChain.chain hash256HexString onnx [device, precision.digits] := by
  unfold trtHash
  rw [Picosha2.hash256HexStringStream_eq]
  rfl

/-- What is hashed for the digits: the model, and the digits so far with the device and with the
precision behind them. -/
def hashed (onnx device : Bytes) (precision : Precision) : List Bytes :=
  HashChain.messages hash256HexString onnx [device, precision.digits]

theorem digits_injective : Function.Injective Precision.digits := by
  intro p q h
  cases p <;> cases q <;> first | rfl | cases h

/-- The digits tell the inputs apart, as far as SHA-256 does. -/
theorem trtHash_inj {onnx onnx' device device' : Bytes} {precision precision' : Precision}
    (h : trtHash onnx device precision = trtHash onnx' device' precision') :
    (onnx = onnx' ∧ device = device' ∧ precision = precision') ∨
      ∃ m ∈ (hashed onnx device precision).zip (hashed onnx' device' precision'),
        HashChain.Collision Sha256.hash m := by
  rw [trtHash_eq_chain, trtHash_eq_chain] at h
  have hlength : ∀ x y, (hash256HexString x).length = (hash256HexString y).length := by
    intro x y
    rw [Picosha2.length_hash256HexString, Picosha2.length_hash256HexString]
  have hcount : [device, precision.digits].length = [device', precision'.digits].length := rfl
  rcases HashChain.eq_or_collision hlength hcount h with ⟨honnx, hrest⟩ | ⟨m, hm, hne, hsame⟩
  · obtain ⟨hdevice, hprecision⟩ := List.cons.inj hrest
    exact Or.inl ⟨honnx, hdevice, digits_injective (List.cons.inj hprecision).1⟩
  · exact Or.inr ⟨m, hm, hne, Picosha2.hash256HexString_inj hsame⟩

theorem length_trtHash (onnx device : Bytes) (precision : Precision) :
    (trtHash onnx device precision).length = 64 := by
  unfold trtHash
  exact Picosha2.length_hash256HexString _

theorem zero_notMem_trtHash (onnx device : Bytes) (precision : Precision) :
    0 ∉ trtHash onnx device precision := by
  unfold trtHash hash256HexString
  exact Picosha2.zero_notMem_outputHex _

/-- The file has the digits in front exactly if the call finds them there. -/
theorem hashInFile_eq_iff {content onnx device : Bytes} {precision : Precision} :
    hashInFile content = trtHash onnx device precision ↔
      trtHash onnx device precision <+: content := by
  have hlength := length_trtHash onnx device precision
  constructor
  · intro h
    by_cases hlong : 64 ≤ content.length
    · rw [← h, hashInFile, Nat.sub_eq_zero_of_le hlong, List.replicate_zero, List.append_nil]
      exact List.take_prefix 64 content
    · -- the string keeps a zero, and no digit is one
      exfalso
      have hzero : 0 ∈ hashInFile content :=
        List.mem_append_right _ (List.mem_replicate.mpr ⟨by omega, rfl⟩)
      rw [h] at hzero
      exact zero_notMem_trtHash _ _ _ hzero
  · rintro ⟨rest, rfl⟩
    have hzero : 64 - (trtHash onnx device precision ++ rest).length = 0 := by
      rw [List.length_append]
      omega
    rw [hashInFile, hzero, List.replicate_zero, List.append_nil, List.take_left' hlength]

theorem Origin.length_trtHash (o : Origin) : o.trtHash.length = 64 :=
  EngineCache.length_trtHash _ _ _

/-- A file that begins as the engine was written, and is not shorter than the digits. -/
theorem Origin.trtHash_begins {o : Origin} {content : Bytes} (h : content <+: o.content)
    (hlong : 64 ≤ content.length) : o.trtHash <+: content := by
  have hlength := o.length_trtHash
  exact List.prefix_of_prefix_length_le (List.prefix_append _ _) h (by omega)

theorem Origin.serializedEngine_content (o : Origin) :
    serializedEngine o.content = some o.engine := by
  have hlength := o.length_trtHash
  have hlong : 64 ≤ o.content.length := by
    rw [Origin.content, List.length_append]
    omega
  rw [serializedEngine, if_pos hlong, Origin.content, List.drop_left' hlength]

/-! ## What one call does -/

variable {w w' : World} {c : Call} {onnx content : Bytes}

theorem extension_suffix (c : Call) : extension <:+ c.trtFile := List.suffix_append _ _

theorem World.convert_cached (hmodel : w.files c.onnxModelPath = some onnx)
    (hforce : c.forceConvert = false) (hfile : w.files c.trtFile = some content)
    (hdigits : c.trtHash w.devices onnx <+: content) : w.convert c = (true, w) := by
  have hcached : cached w.files w.devices c onnx = true := by
    rw [cached, hforce, hfile]
    exact beq_iff_eq.mpr (hashInFile_eq_iff.mpr hdigits)
  simp [World.convert, convertONNXToTRT, World.builds, hmodel, hcached]

/-- The engine of a call that builds one. -/
def World.origin (w : World) (c : Call) (onnx engine : Bytes)
    (h : buildEngine c.options c.out onnx = some engine) : Origin :=
  ⟨c.trtFile, onnx, getCudaDeviceName w.devices c.options.deviceID, c.options, c.out, engine, h⟩

/-- The world after an engine was built and written. -/
def World.built (w : World) (c : Call) (o : Origin) : World :=
  { w with
    files := writeEngine w.files c.out c.trtFile o.content
    origins := w.origins ++ [o]
    torn := w.torn || (c.out.opens && decide (c.out.stored < o.content.length)) }

/-- A call fails and leaves everything as it was, finds its engine, or builds one. -/
theorem World.convert_cases (w : World) (c : Call) :
    w.convert c = (false, w) ∨
      ∃ onnx, w.files c.onnxModelPath = some onnx ∧
        ((∃ content, w.files c.trtFile = some content ∧ c.trtHash w.devices onnx <+: content ∧
          w.convert c = (true, w)) ∨
        ∃ engine, ∃ h : buildEngine c.options c.out onnx = some engine,
          w.convert c = (true, w.built c (w.origin c onnx engine h))) := by
  cases hmodel : w.files c.onnxModelPath with
  | none =>
    left
    simp [World.convert, convertONNXToTRT, World.builds, hmodel]
  | some onnx =>
    by_cases hcached : cached w.files w.devices c onnx = true
    · refine Or.inr ⟨onnx, rfl, Or.inl ?_⟩
      obtain ⟨hforce, hfound⟩ := (Bool.and_eq_true _ _).mp hcached
      obtain ⟨content, hfile, hsame⟩ := (Option.any_eq_true _ _).mp hfound
      have hdigits := hashInFile_eq_iff.mp (beq_iff_eq.mp hsame)
      have hforce : c.forceConvert = false := by simpa using hforce
      exact ⟨content, hfile, hdigits, World.convert_cached hmodel hforce hfile hdigits⟩
    · cases hbuild : buildEngine c.options c.out onnx with
      | none =>
        left
        have hnone : w.builds c = [] := by
          unfold World.builds
          rw [hmodel]
          simp only [if_neg hcached]
          split
          · rfl
          · rename_i engine h
            rw [h] at hbuild
            cases hbuild
        simp [World.convert, convertONNXToTRT, hmodel, hcached, hbuild, hnone]
      | some engine =>
        refine Or.inr ⟨onnx, rfl, Or.inr ⟨engine, hbuild, ?_⟩⟩
        have hone : w.builds c = [w.origin c onnx engine hbuild] := by
          unfold World.builds
          rw [hmodel]
          simp only [if_neg hcached]
          split
          · rename_i h
            rw [h] at hbuild
            cases hbuild
          · rename_i engine' h
            obtain rfl : engine' = engine := Option.some.inj (h.symm.trans hbuild)
            rfl
        simp only [World.convert, convertONNXToTRT, hmodel, if_neg hcached, hbuild, hone,
          List.any_cons, List.any_nil, Bool.or_false]
        rfl

/-! ## Whole runs -/

/-- Every engine file begins as some call has written it, and is whole as long as nothing is
torn. -/
def Sound (w : World) : Prop :=
  ∀ path content, extension <:+ path → w.files path = some content →
    ∃ o ∈ w.origins, o.path = path ∧ content <+: o.content ∧ (w.torn = false → content = o.content)

theorem World.built_files (hopens : c.out.opens = true) (o : Origin) :
    (w.built c o).files =
      Function.update w.files c.trtFile (some (o.content.take c.out.stored)) := if_pos hopens

/-- A file that is not torn has all that was written. -/
theorem World.take_stored (hopens : c.out.opens = true) {o : Origin}
    (htorn : (w.built c o).torn = false) : o.content.take c.out.stored = o.content := by
  have hstored := (Bool.or_eq_false_iff.mp htorn).2
  rw [hopens, Bool.true_and, decide_eq_false_iff_not] at hstored
  exact List.take_of_length_le (Nat.le_of_not_lt hstored)

theorem Sound.built (h : Sound w) {o : Origin} (hpath : o.path = c.trtFile) :
    Sound (w.built c o) := by
  intro path content hext hfile
  have hold : w.files path = some content → ∃ o' ∈ w.origins ++ [o], o'.path = path ∧
      content <+: o'.content ∧ ((w.built c o).torn = false → content = o'.content) := by
    intro hfile
    obtain ⟨o', ho', hpath', hbegins, hwhole⟩ := h path content hext hfile
    refine ⟨o', List.mem_append_left _ ho', hpath', hbegins, fun htorn => hwhole ?_⟩
    exact (Bool.or_eq_false_iff.mp htorn).1
  simp only [World.built, writeEngine] at hfile
  split at hfile
  · rename_i hopens
    by_cases hsame : path = c.trtFile
    · subst hsame
      rw [Function.update_self] at hfile
      obtain rfl := Option.some.inj hfile
      exact ⟨o, List.mem_append_right _ (List.mem_singleton_self o), hpath, List.take_prefix _ _,
        World.take_stored hopens⟩
    · rw [Function.update_of_ne hsame] at hfile
      exact hold hfile
  · exact hold hfile

theorem Sound.convert (h : Sound w) (c : Call) : Sound (w.convert c).2 := by
  rcases w.convert_cases c with hfail | ⟨onnx, -, ⟨-, -, -, hhit⟩ | ⟨engine, hbuild, hbuilt⟩⟩
  · rw [hfail]
    exact h
  · rw [hhit]
    exact h
  · rw [hbuilt]
    exact h.built rfl

/-- A file changed by someone else: an engine file can only lose its end. -/
theorem Sound.update (h : Sound w) {path : Bytes} {content : Option Bytes} {torn : Bool}
    (hloses : extension <:+ path → ∀ rest, content = some rest →
      torn = true ∧ ∃ old, w.files path = some old ∧ rest <+: old)
    (htorn : torn = false → w.torn = false) :
    Sound { w with files := Function.update w.files path content, torn := torn } := by
  intro path' content' hext hfile
  by_cases hsame : path' = path
  · subst hsame
    have hcontent : content = some content' :=
      (Function.update_self path' content w.files).symm.trans hfile
    obtain ⟨rfl, old, hold, hrest⟩ := hloses hext content' hcontent
    obtain ⟨o, ho, hpath, hbegins, -⟩ := h path' old hext hold
    exact ⟨o, ho, hpath, hrest.trans hbegins, fun hwhole => by cases hwhole⟩
  · have hother : w.files path' = some content' :=
      (Function.update_of_ne hsame content w.files).symm.trans hfile
    obtain ⟨o, ho, hpath, hbegins, hwhole⟩ := h path' content' hext hother
    exact ⟨o, ho, hpath, hbegins, fun hwhole' => hwhole (htorn hwhole')⟩

theorem Sound.of_step (h : Sound w) {a : Act} (ha : step w a = some w') : Sound w' := by
  cases a with
  | write path content =>
    rw [step] at ha
    split at ha
    · cases ha
    · rename_i hother
      obtain rfl := Option.some.inj ha
      exact h.update (fun hext => absurd (List.isSuffixOf_iff_suffix.mpr hext) hother) id
  | remove path =>
    obtain rfl := Option.some.inj ha
    exact h.update (fun _ rest hrest => by cases hrest) id
  | cut path n =>
    obtain rfl := Option.some.inj ha
    refine h.update (fun _ rest hrest => ⟨rfl, ?_⟩) fun htorn => by cases htorn
    obtain ⟨old, hold, rfl⟩ := Option.map_eq_some_iff.mp hrest
    exact ⟨old, hold, List.take_prefix n old⟩
  | devices names =>
    obtain rfl := Option.some.inj ha
    exact h
  | convert c =>
    obtain rfl := Option.some.inj ha
    exact h.convert c

theorem Sound.of_reachable (h : Transition.Reachable step Transition.Always {} w) : Sound w :=
  Transition.Reachable.invariant h (fun _ _ _ hfile => by cases hfile)
    fun _ _ _ hsound _ ha => hsound.of_step ha

/-- **The engine cache.** A call that succeeds, and can write the engine file where it has to,
leaves an engine that was built from the model's present bytes, for this GPU and this precision,
unless two of the strings that were hashed collide; the file is whole if none has been torn. Called
again, it takes the file as it is, whatever TensorRT would answer. -/
theorem engine_cache (h : Transition.Reachable step Transition.Always {} w)
    (hopens : c.out.opens = true) (hok : (w.convert c).1 = true) :
    ∃ onnx content, w.files c.onnxModelPath = some onnx ∧
      (w.convert c).2.files c.trtFile = some content ∧
      (∃ o ∈ (w.convert c).2.origins, o.path = c.trtFile ∧ content <+: o.content ∧
        ((w.convert c).2.torn = false → serializedEngine content = some o.engine) ∧
        ((o.onnx = onnx ∧ o.device = getCudaDeviceName w.devices c.options.deviceID ∧
            o.options.precision = c.options.precision) ∨
          ∃ m ∈ (hashed o.onnx o.device o.options.precision).zip
            (hashed onnx (getCudaDeviceName w.devices c.options.deviceID) c.options.precision),
            HashChain.Collision Sha256.hash m)) ∧
      (64 ≤ content.length → c.onnxModelPath ≠ c.trtFile → ∀ out,
        (w.convert c).2.convert { c with forceConvert := false, out := out } =
          (true, (w.convert c).2)) := by
  rcases w.convert_cases c with hfail | ⟨onnx, hmodel, ⟨content, hfile, hdigits, hhit⟩ |
    ⟨engine, hbuild, hbuilt⟩⟩
  · rw [hfail] at hok
    cases hok
  · obtain ⟨o, ho, hpath, hbegins, hwhole⟩ :=
      Sound.of_reachable h c.trtFile content (extension_suffix c) hfile
    have hlong : 64 ≤ content.length := by
      have hle := hdigits.length_le
      rwa [Call.trtHash, length_trtHash] at hle
    rw [hhit]
    refine ⟨onnx, content, hmodel, hfile, ⟨o, ho, hpath, hbegins, fun htorn => ?_, ?_⟩, ?_⟩
    · rw [hwhole htorn, o.serializedEngine_content]
    · -- both are the first 64 bytes of the file
      have hlength : o.trtHash.length = (c.trtHash w.devices onnx).length :=
        o.length_trtHash.trans (length_trtHash _ _ _).symm
      exact trtHash_inj ((List.prefix_of_prefix_length_le (Origin.trtHash_begins hbegins hlong)
        hdigits hlength.le).eq_of_length hlength)
    · exact fun _ _ out => World.convert_cached hmodel rfl hfile hdigits
  · have hfile : (w.built c (w.origin c onnx engine hbuild)).files c.trtFile =
        some ((w.origin c onnx engine hbuild).content.take c.out.stored) := by
      rw [World.built_files hopens, Function.update_self]
    rw [hbuilt]
    refine ⟨onnx, _, hmodel, hfile, ⟨_, List.mem_append_right _ (List.mem_singleton_self _), rfl,
      List.take_prefix _ _, fun htorn => ?_, Or.inl ⟨rfl, rfl, rfl⟩⟩, ?_⟩
    · rw [World.take_stored hopens htorn, Origin.serializedEngine_content]
    · intro hlong hother out
      have hmodel' : (w.built c (w.origin c onnx engine hbuild)).files c.onnxModelPath =
          some onnx := by
        rw [World.built_files hopens, Function.update_of_ne hother, hmodel]
      have hdigits : (w.origin c onnx engine hbuild).trtHash <+:
          (w.origin c onnx engine hbuild).content.take c.out.stored := by
        refine Origin.trtHash_begins ?_ hlong
        exact List.take_prefix _ _
      exact World.convert_cached hmodel' rfl hfile hdigits

/-- `m.onnx` -/
def smallModel : Bytes := [0x6d, 0x2e, 0x6f, 0x6e, 0x6e, 0x78]

/-- TensorRT takes the model, with one input of a dynamic batch. -/
def smallCall : Call where
  onnxModelPath := smallModel
  out := { parse := fun _ => some [{ name := "obs_dict", dims := [-1, 4] }]
           build := fun onnx _ _ => some onnx
           stored := 1000 }

def smallWorld : World where
  files := Function.update (fun _ => none) smallModel (some [1, 2, 3])
  devices := [[0x67]]

theorem engine_cache_small : ∃ content o,
    (smallWorld.convert smallCall).2.files smallCall.trtFile = some content ∧
      serializedEngine content = some (Origin.engine o) ∧
      (smallWorld.convert smallCall).2.convert smallCall =
        (true, (smallWorld.convert smallCall).2) := by
  have hrun : Transition.run step {}
      [.devices [[0x67]], .write smallModel (some [1, 2, 3])] = some smallWorld := rfl
  have hok : (smallWorld.convert smallCall).1 = true := by decide +kernel
  obtain ⟨onnx, content, -, hfile, ⟨o, -, -, -, hwhole, -⟩, hagain⟩ :=
    engine_cache (Transition.reachable_of_run hrun) rfl hok
  have hengine := hwhole (by decide +kernel)
  have hlong : 64 ≤ content.length := by
    by_contra hshort
    rw [serializedEngine, if_neg hshort] at hengine
    cases hengine
  exact ⟨content, o, hfile, hengine, hagain hlong (by decide) smallCall.out⟩

end EngineCache

end Gearsonic
