import Gearsonic.Transition.Basic
import Gearsonic.Transition.OwnedHeap
import Mathlib.Algebra.Group.Int.Defs
import Mathlib.Data.List.AList
import Mathlib.Logic.Function.Basic

/-!
# Engine buffers

`TRTInferenceEngine`: one device buffer for each tensor of a TensorRT engine, its shape resolved
from the axis sizes, and the copies into and out of them. What the engine file holds and whether
the device gives memory come from outside; the context's own state is left out.

`size_t` is `BitVec 64`, `int64_t` and `int` are `Int`. A null buffer is `none`: `operator[]` puts
one in for a name that is not there. `copies` in the heap has the bytes of each copy beside the size
of the buffer it met.

* `Kept.of_step`: every buffer is owned by one name, and every copy is as long as its buffer.
* `engine_buffers`: the same over any calls, and what a successful `InitInputs` leaves.
-/

namespace Gearsonic

open OwnedHeap (Block Heap Owns)

/-- `nvinfer1::DataType`; `other` is one without a size. -/
inductive TrtDataType where
  | float
  | half
  | int8
  | int32
  | bool
  | uint8
  | fp8
  | bf16
  | int64
  | other
deriving DecidableEq

def sizeOfTensorDataType : TrtDataType → Int
  | .int64 => 8
  | .int32 | .float => 4
  | .half | .bf16 => 2
  | .fp8 | .int8 | .bool | .uint8 => 1
  | .other => -1

structure IOTensor where
  name : String
  isInput : Bool
  shape : List Int
  profileMin : List Int := []
  profileMax : List Int := []
  dataType : TrtDataType

/-- `nvinfer1::ICudaEngine`: its tensors have names of their own. -/
structure CudaEngine where
  tensors : List IOTensor
  nodup : (tensors.map IOTensor.name).Nodup

abbrev AxisNames := String → Option (Nat → Option String)

/-- By axis name, in the map's order. -/
abbrev AxisSizes := List (String × Int)

abbrev Buffers := AList fun _ : String => Option ℕ

/-- How far `Initialize` gets. -/
inductive EngineLoad where
  | failed
  | noContext (engine : CudaEngine)
  | loaded (engine : CudaEngine)

structure TRTInferenceEngine where
  engine : Option CudaEngine := none
  context : Bool := false
  tensorShapes : String → Option (List Int) := fun _ => none
  inputBuffers : Buffers := ∅
  outputBuffers : Buffers := ∅
  dataTypeSizes : String → Int := fun _ => 0
  axisNames : AxisNames := fun _ => none
  heap : Heap := {}

namespace TRTInferenceEngine

/-! ## Shapes -/

/-- A dimension, its size taken from the axis sizes where it is dynamic. -/
def resolveDim (axisNames : AxisNames) (axisSizes : AxisSizes) (t : IOTensor) (n : Nat) (d : Int) :
    Option Int :=
  if d = -1 then
    let batchSize :=
      match axisNames t.name with
      | some names => (names n).bind fun axis => axisSizes.lookup axis
      | none =>
        match axisSizes with
        | (_, size) :: _ => some size
        | [] => some 1
    batchSize.filter fun size =>
      !t.isInput || !(size < t.profileMin.getD n 0 || t.profileMax.getD n 0 < size)
  else some d

def resolveShape (axisNames : AxisNames) (axisSizes : AxisSizes) (t : IOTensor) :
    Option (List Int) :=
  t.shape.zipIdx.mapM fun (d, n) => resolveDim axisNames axisSizes t n d

inductive CountError where
  | overflow
  | divisionByZero

/-- The product of the dimensions, modulo 2^64. -/
def elements (shape : List Int) : BitVec 64 :=
  shape.foldl (fun count d => count * BitVec.ofInt 64 d) 1

/-- The loop of `InitInputs`, which looks at `INT64_MAX / d` before it multiplies. -/
def countElements (count : BitVec 64) : List Int → Except CountError (BitVec 64)
  | [] => .ok count
  | d :: shape =>
    if d = 0 then .error .divisionByZero
    else if BitVec.ofInt 64 (Int.tdiv (2 ^ 63 - 1) d) < count then .error .overflow
    else countElements (count * BitVec.ofInt 64 d) shape

theorem countElements_ok {count result : BitVec 64} {shape : List Int}
    (h : countElements count shape = .ok result) :
    result = shape.foldl (fun count d => count * BitVec.ofInt 64 d) count := by
  induction shape generalizing count with
  | nil =>
    cases h
    rfl
  | cons d shape ih =>
    rw [countElements] at h
    split at h
    · cases h
    · split at h
      · cases h
      · exact ih h

/-! ## The calls -/

/-- What a buffer of this name has to hold, by the stored shape. -/
def byteCount (e : TRTInferenceEngine) (name : String) : BitVec 64 :=
  elements ((e.tensorShapes name).getD []) * BitVec.ofInt 64 (e.dataTypeSizes name)

def validateTensorSize (e : TRTInferenceEngine) (name : String) (bytes : BitVec 64) : Bool :=
  (e.tensorShapes name).isSome && e.byteCount name == bytes

/-- `operator[]`. -/
def slot (buffers : Buffers) (name : String) : Option ℕ × Buffers :=
  match buffers.lookup name with
  | some address => (address, buffers)
  | none => (none, buffers.insert name none)

def destroyBuffers (e : TRTInferenceEngine) : TRTInferenceEngine :=
  { e with
    heap := e.heap.freeAll ((e.inputBuffers.entries ++ e.outputBuffers.entries).map Sigma.snd)
    inputBuffers := ∅, outputBuffers := ∅
    tensorShapes := fun _ => none }

def destroy (e : TRTInferenceEngine) : TRTInferenceEngine :=
  { e.destroyBuffers with engine := none, context := false }

def initializeEngine (e : TRTInferenceEngine) (load : EngineLoad) (axisNames : AxisNames) :
    Bool × TRTInferenceEngine :=
  let e := e.destroy
  match load with
  | .failed => (false, e)
  | .noContext engine => (false, { e with engine := some engine })
  | .loaded engine =>
    (true, { e with
      engine := some engine
      context := true
      axisNames := axisNames
      dataTypeSizes := fun name =>
        match engine.tensors.find? fun t => t.name = name with
        | some t => sizeOfTensorDataType t.dataType
        | none => e.dataTypeSizes name })

/-- The buffer of a tensor: allocated, cleared and entered under its name. -/
def addBuffer (e : TRTInferenceEngine) (t : IOTensor) (size : ℕ) : TRTInferenceEngine :=
  let address := e.heap.next
  let e := { e with heap := (e.heap.malloc size).copy (some address) size }
  if t.isInput then { e with inputBuffers := e.inputBuffers.insert t.name (some address) }
  else { e with outputBuffers := e.outputBuffers.insert t.name (some address) }

/-- One tensor of `InitInputs`; `memory` says whether the device has memory for it. A dimension of
zero divides by zero, and there is no step. -/
def initTensor (e : TRTInferenceEngine) (axisSizes : AxisSizes) (memory : String → Bool)
    (t : IOTensor) : Option (Bool × TRTInferenceEngine) :=
  match resolveShape e.axisNames axisSizes t with
  | none => some (false, e)
  | some shape =>
    let e := { e with tensorShapes := Function.update e.tensorShapes t.name (some shape) }
    match countElements 1 shape with
    | .error .divisionByZero => none
    | .error .overflow => some (false, e)
    | .ok count =>
      let size := sizeOfTensorDataType t.dataType
      if size = -1 then some (false, e)
      else if !memory t.name then some (false, e)
      else some (true, e.addBuffer t (count * BitVec.ofInt 64 size).toNat)

def initTensors (e : TRTInferenceEngine) (axisSizes : AxisSizes) (memory : String → Bool) :
    List IOTensor → Option (Bool × TRTInferenceEngine)
  | [] => some (true, e)
  | t :: tensors =>
    match e.initTensor axisSizes memory t with
    | none => none
    | some (false, e) => some (false, e)
    | some (true, e) => e.initTensors axisSizes memory tensors

/-- Without an engine or its context a null pointer is followed, and there is no step. -/
def initInputs (e : TRTInferenceEngine) (axisSizes : AxisSizes) (memory : String → Bool) :
    Option (Bool × TRTInferenceEngine) :=
  match e.engine, e.context with
  | some engine, true => e.destroyBuffers.initTensors axisSizes memory engine.tensors
  | _, _ => none

/-- Also `SetInputDataAsync`. -/
def setInputData (e : TRTInferenceEngine) (name : String) (bytes : BitVec 64) :
    TRTInferenceEngine :=
  if e.validateTensorSize name bytes then
    let (address, buffers) := slot e.inputBuffers name
    { e with inputBuffers := buffers, heap := e.heap.copy address bytes.toNat }
  else e

/-- Also `GetOutputDataAsync`. -/
def getOutputData (e : TRTInferenceEngine) (name : String) (bytes : BitVec 64) :
    TRTInferenceEngine :=
  if e.validateTensorSize name bytes then
    let (address, buffers) := slot e.outputBuffers name
    { e with outputBuffers := buffers, heap := e.heap.copy address bytes.toNat }
  else e

inductive Act where
  | initializeEngine (load : EngineLoad) (axisNames : AxisNames)
  | initInputs (axisSizes : AxisSizes) (memory : String → Bool)
  | setInputData (name : String) (bytes : BitVec 64)
  | getOutputData (name : String) (bytes : BitVec 64)
  | destroy

def step (e : TRTInferenceEngine) : Act → Option TRTInferenceEngine
  | .initializeEngine load axisNames => some (e.initializeEngine load axisNames).2
  | .initInputs axisSizes memory => (e.initInputs axisSizes memory).map Prod.snd
  | .setInputData name bytes => some (e.setInputData name bytes)
  | .getOutputData name bytes => some (e.getOutputData name bytes)
  | .destroy => some e.destroy

/-! ## The invariant -/

/-- A buffer as a block: as long as its name's tensor. -/
def block (e : TRTInferenceEngine) (s : Sigma fun _ : String => Option ℕ) : Option Block :=
  s.2.map fun address => ⟨address, (e.byteCount s.1).toNat⟩

def owned (e : TRTInferenceEngine) : List Block :=
  (e.inputBuffers.entries ++ e.outputBuffers.entries).filterMap e.block

structure Kept (e : TRTInferenceEngine) : Prop where
  owns : Owns e.heap e.owned
  exact : ∀ c ∈ e.heap.copies, c.1 = c.2
  sizes : e.context = true → ∀ engine, e.engine = some engine → ∀ t ∈ engine.tensors,
    e.dataTypeSizes t.name = sizeOfTensorDataType t.dataType

variable {e e' : TRTInferenceEngine} {t : IOTensor} {name : String} {bytes : BitVec 64}

theorem Kept.init : Kept {} := ⟨.init, nofun, nofun⟩

theorem Kept.destroyBuffers (h : Kept e) :
    Kept e.destroyBuffers ∧ e.destroyBuffers.owned = [] := by
  have hall : ((e.inputBuffers.entries ++ e.outputBuffers.entries).map Sigma.snd).filterMap id =
      e.owned.map Block.address := by
    rw [List.filterMap_map, owned, List.map_filterMap]
    congr 1
    funext s
    cases hs : s.2 <;> simp [block, hs]
  refine ⟨⟨h.owns.freeAll _ hall, ?_, h.sizes⟩, rfl⟩
  intro c hc
  exact h.exact c (by simpa [TRTInferenceEngine.destroyBuffers] using hc)

theorem Kept.destroy (h : Kept e) : Kept e.destroy :=
  ⟨h.destroyBuffers.1.owns, h.destroyBuffers.1.exact, nofun⟩

theorem find_tensor {tensors : List IOTensor} (hnodup : (tensors.map IOTensor.name).Nodup)
    (ht : t ∈ tensors) : (tensors.find? fun u => u.name = t.name) = some t := by
  cases hu : tensors.find? fun u => u.name = t.name with
  | none =>
    have hnone := List.find?_eq_none.mp hu t ht
    simp at hnone
  | some u =>
    have hname : u.name = t.name := by
      simpa using List.find?_some hu
    exact congrArg some (List.inj_on_of_nodup_map hnodup (List.mem_of_find?_eq_some hu) ht hname)

theorem Kept.initializeEngine (h : Kept e) (load : EngineLoad) (axisNames : AxisNames) :
    Kept (e.initializeEngine load axisNames).2 := by
  have hdestroy := h.destroy
  cases load with
  | failed => exact hdestroy
  | noContext engine => exact ⟨hdestroy.owns, hdestroy.exact, nofun⟩
  | loaded engine =>
    refine ⟨hdestroy.owns, hdestroy.exact, fun _ engine' hengine t ht => ?_⟩
    cases hengine
    show (match engine.tensors.find? fun u => u.name = t.name with
      | some u => sizeOfTensorDataType u.dataType
      | none => _) = _
    rw [find_tensor engine.nodup ht]

/-! ### Copies -/

theorem slot_entries (buffers : Buffers) (name : String) :
    (slot buffers name).2.entries.filterMap e.block = buffers.entries.filterMap e.block := by
  unfold slot
  split
  · rfl
  · rename_i hnone
    rw [AList.entries_insert_of_notMem (AList.lookup_eq_none.mp hnone)]
    rfl

theorem slot_address {buffers : Buffers} {address : ℕ} (h : (slot buffers name).1 = some address) :
    ⟨name, some address⟩ ∈ buffers.entries := by
  unfold slot at h
  split at h
  · rename_i found hlookup
    obtain rfl : found = some address := h
    exact AList.mem_lookup_iff.mp hlookup
  · cases h

theorem byteCount_of_valid (h : e.validateTensorSize name bytes = true) :
    e.byteCount name = bytes := by
  unfold validateTensorSize at h
  rw [Bool.and_eq_true] at h
  exact eq_of_beq h.2

/-- A copy of as many bytes as the name's tensor has, in the name's own buffer. -/
theorem Kept.copy (h : Kept e) (name : String) {buffers : Buffers}
    (hsub : ∀ s ∈ buffers.entries, s ∈ e.inputBuffers.entries ++ e.outputBuffers.entries) :
    Owns (e.heap.copy (slot buffers name).1 (e.byteCount name).toNat) e.owned ∧
      ∀ c ∈ (e.heap.copy (slot buffers name).1 (e.byteCount name).toNat).copies, c.1 = c.2 := by
  cases hslot : (slot buffers name).1 with
  | none => exact ⟨h.owns, h.exact⟩
  | some address =>
    have hmem : (⟨address, (e.byteCount name).toNat⟩ : Block) ∈ e.owned :=
      List.mem_filterMap.mpr ⟨_, hsub _ (slot_address hslot), rfl⟩
    obtain ⟨howns, hcopies⟩ := h.owns.copy hmem
    refine ⟨howns, fun c hc => ?_⟩
    rw [hcopies, List.mem_append, List.mem_singleton] at hc
    rcases hc with hc | rfl
    · exact h.exact c hc
    · rfl

theorem Kept.setInputData (h : Kept e) (name : String) (bytes : BitVec 64) :
    Kept (e.setInputData name bytes) := by
  unfold TRTInferenceEngine.setInputData
  split
  · rename_i hvalid
    obtain rfl := byteCount_of_valid hvalid
    obtain ⟨howns, hexact⟩ := h.copy name
      fun s hs => List.mem_append_left e.outputBuffers.entries hs
    refine ⟨?_, hexact, h.sizes⟩
    have howned : e.owned = ((slot e.inputBuffers name).2.entries ++
        e.outputBuffers.entries).filterMap e.block := by
      rw [List.filterMap_append, slot_entries, ← List.filterMap_append]
      rfl
    rw [howned] at howns
    exact howns
  · exact h

theorem Kept.getOutputData (h : Kept e) (name : String) (bytes : BitVec 64) :
    Kept (e.getOutputData name bytes) := by
  unfold TRTInferenceEngine.getOutputData
  split
  · rename_i hvalid
    obtain rfl := byteCount_of_valid hvalid
    obtain ⟨howns, hexact⟩ := h.copy name
      fun s hs => List.mem_append_right e.inputBuffers.entries hs
    refine ⟨?_, hexact, h.sizes⟩
    have howned : e.owned = (e.inputBuffers.entries ++
        (slot e.outputBuffers name).2.entries).filterMap e.block := by
      rw [List.filterMap_append, slot_entries, ← List.filterMap_append]
      rfl
    rw [howned] at howns
    exact howns
  · exact h

/-! ### Allocation -/

/-- A tensor with its shape resolved and a buffer of its own. -/
structure HasBuffer (e : TRTInferenceEngine) (axisSizes : AxisSizes) (t : IOTensor) : Prop where
  shape : ∃ shape, resolveShape e.axisNames axisSizes t = some shape ∧
    e.tensorShapes t.name = some shape
  buffer : ∃ address : ℕ,
    (if t.isInput then e.inputBuffers else e.outputBuffers).lookup t.name = some (some address)

/-- The names that have an entry are those of the tensors that are done. -/
structure NamesOf (e : TRTInferenceEngine) (done : List IOTensor) : Prop where
  input : ∀ name ∈ e.inputBuffers, ∃ t ∈ done, t.name = name ∧ t.isInput = true
  output : ∀ name ∈ e.outputBuffers, ∃ t ∈ done, t.name = name ∧ t.isInput = false

/-- The engine with the shape of one more tensor. -/
def setShape (e : TRTInferenceEngine) (t : IOTensor) (shape : List Int) : TRTInferenceEngine :=
  { e with tensorShapes := Function.update e.tensorShapes t.name (some shape) }

variable {axisSizes : AxisSizes} {memory : String → Bool} {done tensors : List IOTensor}
  {shape : List Int}

theorem byteCount_setShape (e : TRTInferenceEngine) (t : IOTensor) (shape : List Int) :
    (e.setShape t shape).byteCount t.name =
      elements shape * BitVec.ofInt 64 (e.dataTypeSizes t.name) := by
  simp [byteCount, setShape]

theorem block_setShape {s : Sigma fun _ : String => Option ℕ} (h : s.1 ≠ t.name) :
    (e.setShape t shape).block s = e.block s := by
  simp only [block, byteCount, setShape, Function.update_of_ne h]

theorem owned_setShape (hin : t.name ∉ e.inputBuffers) (hout : t.name ∉ e.outputBuffers) :
    (e.setShape t shape).owned = e.owned := by
  apply List.filterMap_congr
  intro s hs
  apply block_setShape
  rintro hname
  rcases List.mem_append.mp hs with hs | hs
  · exact hin (hname ▸ AList.mem_keys.mpr (List.mem_keys_of_mem hs))
  · exact hout (hname ▸ AList.mem_keys.mpr (List.mem_keys_of_mem hs))

theorem Kept.setShape (h : Kept e) (hin : t.name ∉ e.inputBuffers)
    (hout : t.name ∉ e.outputBuffers) : Kept (e.setShape t shape) where
  owns := by
    rw [owned_setShape hin hout]
    exact h.owns
  exact := h.exact
  sizes := h.sizes

/-- What the entry of a buffer leaves alone. -/
theorem addBuffer_frame (e : TRTInferenceEngine) (t : IOTensor) (size : ℕ) :
    (e.addBuffer t size).axisNames = e.axisNames ∧
      (e.addBuffer t size).tensorShapes = e.tensorShapes ∧
      (e.addBuffer t size).dataTypeSizes = e.dataTypeSizes := by
  unfold TRTInferenceEngine.addBuffer
  dsimp only
  split <;> exact ⟨rfl, rfl, rfl⟩

/-- A new buffer, as long as its tensor, under a name that has none. -/
theorem Kept.addBuffer (h : Kept e) (hin : t.name ∉ e.inputBuffers)
    (hout : t.name ∉ e.outputBuffers) : Kept (e.addBuffer t (e.byteCount t.name).toNat) := by
  have hmalloc := h.owns.malloc (e.byteCount t.name).toNat
  obtain ⟨howns, hcopies⟩ := hmalloc.copy List.mem_cons_self
  have hexact : ∀ c ∈ ((e.heap.malloc (e.byteCount t.name).toNat).copy (some e.heap.next)
      (e.byteCount t.name).toNat).copies, c.1 = c.2 := by
    intro c hc
    rw [hcopies, List.mem_append, List.mem_singleton] at hc
    rcases hc with hc | rfl
    · exact h.exact c hc
    · rfl
  unfold TRTInferenceEngine.addBuffer
  dsimp only
  split
  · refine ⟨?_, hexact, h.sizes⟩
    unfold owned
    rw [AList.entries_insert_of_notMem hin]
    exact howns
  · refine ⟨?_, hexact, h.sizes⟩
    unfold owned
    rw [AList.entries_insert_of_notMem hout]
    have hmiddle : (⟨t.name, some e.heap.next⟩ :: (e.inputBuffers.entries ++
        e.outputBuffers.entries)).Perm (e.inputBuffers.entries ++
          ⟨t.name, some e.heap.next⟩ :: e.outputBuffers.entries) := List.perm_middle.symm
    exact howns.of_perm (hmiddle.filterMap e.block)

theorem hasBuffer_addBuffer (hresolve : resolveShape e.axisNames axisSizes t = some shape)
    (size : ℕ) : HasBuffer ((e.setShape t shape).addBuffer t size) axisSizes t where
  shape := by
    obtain ⟨haxis, hshapes, -⟩ := addBuffer_frame (e.setShape t shape) t size
    rw [haxis, hshapes]
    exact ⟨shape, hresolve, Function.update_self _ _ _⟩
  buffer := by
    refine ⟨e.heap.next, ?_⟩
    unfold TRTInferenceEngine.addBuffer
    dsimp only
    split
    · exact AList.lookup_insert _
    · exact AList.lookup_insert _

theorem HasBuffer.addBuffer {u : IOTensor} {size : ℕ} (h : HasBuffer e axisSizes u)
    (hne : u.name ≠ t.name) : HasBuffer (e.addBuffer t size) axisSizes u := by
  unfold TRTInferenceEngine.addBuffer
  dsimp only
  split
  · refine ⟨h.shape, ?_⟩
    obtain ⟨address, hlookup⟩ := h.buffer
    refine ⟨address, ?_⟩
    rw [← hlookup]
    split
    · exact AList.lookup_insert_ne hne
    · rfl
  · refine ⟨h.shape, ?_⟩
    obtain ⟨address, hlookup⟩ := h.buffer
    refine ⟨address, ?_⟩
    rw [← hlookup]
    split
    · rfl
    · exact AList.lookup_insert_ne hne

theorem HasBuffer.setShape {u : IOTensor} (h : HasBuffer e axisSizes u) (hne : u.name ≠ t.name) :
    HasBuffer (e.setShape t shape) axisSizes u := by
  obtain ⟨⟨found, hresolve, hshape⟩, hbuffer⟩ := h
  refine ⟨⟨found, hresolve, ?_⟩, hbuffer⟩
  rw [← hshape]
  exact Function.update_of_ne hne _ _

theorem NamesOf.addBuffer {size : ℕ} (h : NamesOf e done) :
    NamesOf (e.addBuffer t size) (done ++ [t]) := by
  have hinput : ∀ name ∈ e.inputBuffers, ∃ u ∈ done ++ [t], u.name = name ∧ u.isInput = true :=
    fun name hname => (h.input name hname).imp fun u hu => ⟨List.mem_append_left _ hu.1, hu.2⟩
  have houtput : ∀ name ∈ e.outputBuffers, ∃ u ∈ done ++ [t], u.name = name ∧ u.isInput = false :=
    fun name hname => (h.output name hname).imp fun u hu => ⟨List.mem_append_left _ hu.1, hu.2⟩
  have hlast : t ∈ done ++ [t] := List.mem_append_right done List.mem_cons_self
  unfold TRTInferenceEngine.addBuffer
  dsimp only
  split
  · rename_i hmode
    refine ⟨fun name hname => ?_, houtput⟩
    rcases (AList.mem_insert _).mp hname with rfl | hname
    · exact ⟨t, hlast, rfl, hmode⟩
    · exact hinput name hname
  · rename_i hmode
    refine ⟨hinput, fun name hname => ?_⟩
    rcases (AList.mem_insert _).mp hname with rfl | hname
    · exact ⟨t, hlast, rfl, Bool.eq_false_iff.mpr hmode⟩
    · exact houtput name hname

/-- What one tensor of `InitInputs` can do. -/
theorem initTensor_cases {b : Bool} (h : e.initTensor axisSizes memory t = some (b, e')) :
    b = false ∧ (e' = e ∨ ∃ shape, e' = e.setShape t shape) ∨
      b = true ∧ ∃ shape, resolveShape e.axisNames axisSizes t = some shape ∧
        e' = (e.setShape t shape).addBuffer t
          (elements shape * BitVec.ofInt 64 (sizeOfTensorDataType t.dataType)).toNat := by
  unfold initTensor at h
  split at h
  · cases h
    exact Or.inl ⟨rfl, Or.inl rfl⟩
  · rename_i shape hshape
    dsimp only at h
    split at h
    · cases h
    · cases h
      exact Or.inl ⟨rfl, Or.inr ⟨shape, rfl⟩⟩
    · rename_i count hcount
      split at h
      · cases h
        exact Or.inl ⟨rfl, Or.inr ⟨shape, rfl⟩⟩
      · split at h
        · cases h
          exact Or.inl ⟨rfl, Or.inr ⟨shape, rfl⟩⟩
        · cases h
          refine Or.inr ⟨rfl, shape, hshape, ?_⟩
          rw [countElements_ok hcount]
          rfl

/-- The loop over the tensors that are left, all of them new. -/
theorem Kept.initTensors (h : Kept e) (hnames : NamesOf e done)
    (hdone : ∀ t ∈ done, HasBuffer e axisSizes t)
    (hnodup : ((done ++ tensors).map IOTensor.name).Nodup)
    (hsizes : ∀ t ∈ tensors, e.dataTypeSizes t.name = sizeOfTensorDataType t.dataType) {b : Bool}
    (hinit : e.initTensors axisSizes memory tensors = some (b, e')) :
    Kept e' ∧ (b = true → NamesOf e' (done ++ tensors) ∧
      ∀ t ∈ done ++ tensors, HasBuffer e' axisSizes t) := by
  induction tensors generalizing e done with
  | nil =>
    cases hinit
    rw [List.append_nil]
    exact ⟨h, fun _ => ⟨hnames, hdone⟩⟩
  | cons t tensors ih =>
    have hnew : t.name ∉ done.map IOTensor.name := by
      rw [List.map_append, List.map_cons] at hnodup
      exact fun hmem => (List.disjoint_of_nodup_append hnodup) hmem List.mem_cons_self
    have hin : t.name ∉ e.inputBuffers := by
      intro hmem
      obtain ⟨u, hu, hname, -⟩ := hnames.input _ hmem
      exact hnew (hname ▸ List.mem_map_of_mem hu)
    have hout : t.name ∉ e.outputBuffers := by
      intro hmem
      obtain ⟨u, hu, hname, -⟩ := hnames.output _ hmem
      exact hnew (hname ▸ List.mem_map_of_mem hu)
    rw [TRTInferenceEngine.initTensors] at hinit
    cases htensor : e.initTensor axisSizes memory t with
    | none =>
      rw [htensor] at hinit
      cases hinit
    | some result =>
      obtain ⟨b', e₁⟩ := result
      rw [htensor] at hinit
      rcases initTensor_cases htensor with ⟨rfl, rfl | ⟨shape, rfl⟩⟩ | ⟨rfl, shape, hresolve, rfl⟩
      · cases hinit
        exact ⟨h, nofun⟩
      · cases hinit
        exact ⟨h.setShape hin hout, nofun⟩
      · rw [← hsizes t List.mem_cons_self, ← byteCount_setShape] at hinit
        have hkept := (h.setShape hin hout : Kept (e.setShape t shape)).addBuffer hin hout
        have hnodup' : (((done ++ [t]) ++ tensors).map IOTensor.name).Nodup := by
          rwa [List.append_assoc]
        have hbuffers : ∀ u ∈ done ++ [t], HasBuffer ((e.setShape t shape).addBuffer t
            ((e.setShape t shape).byteCount t.name).toNat) axisSizes u := by
          intro u hu
          rcases List.mem_append.mp hu with hu | hu
          · have hne : u.name ≠ t.name := fun hname => hnew (hname ▸ List.mem_map_of_mem hu)
            exact ((hdone u hu).setShape hne).addBuffer hne
          · rw [List.mem_singleton.mp hu]
            exact hasBuffer_addBuffer hresolve _
        have hsizes' : ∀ u ∈ tensors, ((e.setShape t shape).addBuffer t
            ((e.setShape t shape).byteCount t.name).toNat).dataTypeSizes u.name =
              sizeOfTensorDataType u.dataType := by
          intro u hu
          rw [(addBuffer_frame _ _ _).2.2]
          exact hsizes u (List.mem_cons_of_mem t hu)
        have hnames' : NamesOf (e.setShape t shape) done := ⟨hnames.input, hnames.output⟩
        have hall := ih hkept hnames'.addBuffer hbuffers hnodup' hsizes' hinit
        rwa [List.append_assoc] at hall

theorem initTensors_frame {b : Bool} (h : e.initTensors axisSizes memory tensors = some (b, e')) :
    e'.engine = e.engine ∧ e'.context = e.context ∧ e'.axisNames = e.axisNames ∧
      e'.dataTypeSizes = e.dataTypeSizes := by
  induction tensors generalizing e with
  | nil =>
    cases h
    exact ⟨rfl, rfl, rfl, rfl⟩
  | cons t tensors ih =>
    rw [initTensors] at h
    split at h
    · cases h
    · rename_i htensor
      cases h
      rcases initTensor_cases htensor with ⟨-, rfl | ⟨shape, rfl⟩⟩ | ⟨hfalse, -⟩
      · exact ⟨rfl, rfl, rfl, rfl⟩
      · exact ⟨rfl, rfl, rfl, rfl⟩
      · cases hfalse
    · rename_i htensor
      rcases initTensor_cases htensor with ⟨htrue, -⟩ | ⟨-, shape, -, rfl⟩
      · cases htrue
      · obtain ⟨hengine, hcontext, haxis, hsizes⟩ := ih h
        rw [hengine, hcontext, haxis, hsizes]
        unfold addBuffer
        dsimp only
        split <;> exact ⟨rfl, rfl, rfl, rfl⟩

theorem initInputs_cases {b : Bool} (h : e.initInputs axisSizes memory = some (b, e')) :
    ∃ engine, e.engine = some engine ∧ e.context = true ∧
      e.destroyBuffers.initTensors axisSizes memory engine.tensors = some (b, e') := by
  unfold initInputs at h
  split at h
  · rename_i engine hengine hcontext
    exact ⟨engine, hengine, hcontext, h⟩
  · cases h

theorem Kept.initInputs (h : Kept e) {b : Bool}
    (hinit : e.initInputs axisSizes memory = some (b, e')) :
    Kept e' ∧ ∃ engine, e'.engine = some engine ∧ e'.context = true ∧
      (b = true → NamesOf e' engine.tensors ∧ ∀ t ∈ engine.tensors, HasBuffer e' axisSizes t) := by
  obtain ⟨engine, hengine, hcontext, htensors⟩ := initInputs_cases hinit
  obtain ⟨hengine', hcontext', -, -⟩ := initTensors_frame htensors
  have hnames : NamesOf e.destroyBuffers [] :=
    ⟨fun name hname => absurd hname (AList.notMem_empty name),
      fun name hname => absurd hname (AList.notMem_empty name)⟩
  obtain ⟨hkept, hbuffers⟩ := h.destroyBuffers.1.initTensors hnames nofun engine.nodup
    (h.sizes hcontext engine hengine) htensors
  exact ⟨hkept, engine, hengine'.trans hengine, hcontext'.trans hcontext, hbuffers⟩

theorem Kept.of_step (h : Kept e) {a : Act} (hstep : e.step a = some e') : Kept e' := by
  cases a with
  | initializeEngine load axisNames =>
    cases hstep
    exact h.initializeEngine load axisNames
  | initInputs axisSizes memory =>
    obtain ⟨⟨b, e₁⟩, hinit, rfl⟩ := Option.map_eq_some_iff.mp hstep
    exact (h.initInputs hinit).1
  | setInputData name bytes =>
    cases hstep
    exact h.setInputData name bytes
  | getOutputData name bytes =>
    cases hstep
    exact h.getOutputData name bytes
  | destroy =>
    cases hstep
    exact h.destroy

theorem Kept.of_reachable (h : Transition.Reachable step Transition.Always {} e) : Kept e :=
  h.invariant .init fun _ _ _ hkept _ hstep => hkept.of_step hstep

/-! ## Transfers -/

theorem HasBuffer.byteCount_eq (h : HasBuffer e axisSizes t)
    (hsize : e.dataTypeSizes t.name = sizeOfTensorDataType t.dataType) :
    ∃ shape, resolveShape e.axisNames axisSizes t = some shape ∧
      e.tensorShapes t.name = some shape ∧
      e.byteCount t.name = elements shape * BitVec.ofInt 64 (sizeOfTensorDataType t.dataType) := by
  obtain ⟨shape, hresolve, hshape⟩ := h.shape
  refine ⟨shape, hresolve, hshape, ?_⟩
  rw [byteCount, hshape, hsize]
  rfl

theorem HasBuffer.valid_iff (h : HasBuffer e axisSizes t) (bytes : BitVec 64) :
    e.validateTensorSize t.name bytes = true ↔ bytes = e.byteCount t.name := by
  obtain ⟨shape, -, hshape⟩ := h.shape
  rw [validateTensorSize, hshape, Option.isSome_some, Bool.true_and, beq_iff_eq, eq_comm]

/-- The copies that a call adds: one of all bytes, or none where the length is another one. -/
def transfer (e : TRTInferenceEngine) (name : String) (bytes : BitVec 64) : List (ℕ × ℕ) :=
  if bytes = e.byteCount name then [(bytes.toNat, bytes.toNat)] else []

theorem Kept.transfer_slot (h : Kept e) {buffers : Buffers} {address : ℕ}
    (hsub : ∀ s ∈ buffers.entries, s ∈ e.inputBuffers.entries ++ e.outputBuffers.entries)
    (hlookup : buffers.lookup name = some (some address)) :
    (e.heap.copy (slot buffers name).1 (e.byteCount name).toNat).copies =
      e.heap.copies ++ [((e.byteCount name).toNat, (e.byteCount name).toNat)] := by
  have hslot : (slot buffers name).1 = some address := by
    rw [slot, hlookup]
  have hmem : (⟨address, (e.byteCount name).toNat⟩ : Block) ∈ e.owned :=
    List.mem_filterMap.mpr ⟨_, hsub _ (slot_address hslot), rfl⟩
  rw [hslot]
  exact (h.owns.copy hmem).2

theorem Kept.setInputData_copies (h : Kept e) (hbuffer : HasBuffer e axisSizes t)
    (hinput : t.isInput = true) (bytes : BitVec 64) :
    (e.setInputData t.name bytes).heap.copies = e.heap.copies ++ e.transfer t.name bytes := by
  obtain ⟨address, hlookup⟩ := hbuffer.buffer
  rw [if_pos hinput] at hlookup
  unfold TRTInferenceEngine.setInputData transfer
  by_cases hvalid : bytes = e.byteCount t.name
  · rw [if_pos ((hbuffer.valid_iff bytes).mpr hvalid), if_pos hvalid, hvalid]
    exact h.transfer_slot (fun s hs => List.mem_append_left _ hs) hlookup
  · rw [if_neg (mt (hbuffer.valid_iff bytes).mp hvalid), if_neg hvalid, List.append_nil]

theorem Kept.getOutputData_copies (h : Kept e) (hbuffer : HasBuffer e axisSizes t)
    (houtput : t.isInput = false) (bytes : BitVec 64) :
    (e.getOutputData t.name bytes).heap.copies = e.heap.copies ++ e.transfer t.name bytes := by
  obtain ⟨address, hlookup⟩ := hbuffer.buffer
  rw [houtput, if_neg Bool.false_ne_true] at hlookup
  unfold TRTInferenceEngine.getOutputData transfer
  by_cases hvalid : bytes = e.byteCount t.name
  · rw [if_pos ((hbuffer.valid_iff bytes).mpr hvalid), if_pos hvalid, hvalid]
    exact h.transfer_slot (fun s hs => List.mem_append_right _ hs) hlookup
  · rw [if_neg (mt (hbuffer.valid_iff bytes).mp hvalid), if_neg hvalid, List.append_nil]

/-- **Engine buffers.** After any calls, failed ones included: the device memory in use is that of
the buffers, each under one name; nothing was freed twice, and every copy was as long as the buffer
it met; `Destroy` leaves no memory behind. After an `InitInputs` that succeeds every tensor has its
shape resolved, and a transfer goes through exactly when it is as long as the tensor. -/
theorem engine_buffers (h : Transition.Reachable step Transition.Always {} e) :
    (e.heap.faults = 0 ∧ e.heap.blocks.Perm e.owned ∧ (e.owned.map Block.address).Nodup) ∧
      (∀ c ∈ e.heap.copies, c.1 = c.2) ∧
      e.destroy.heap.blocks = [] ∧
      ∀ axisSizes memory e', e.initInputs axisSizes memory = some (true, e') →
        ∃ engine, e'.engine = some engine ∧ ∀ t ∈ engine.tensors, ∃ shape,
          resolveShape e'.axisNames axisSizes t = some shape ∧
            e'.tensorShapes t.name = some shape ∧
            e'.byteCount t.name =
              elements shape * BitVec.ofInt 64 (sizeOfTensorDataType t.dataType) ∧
            (t.isInput = true → ∀ bytes, (e'.setInputData t.name bytes).heap.copies =
              e'.heap.copies ++ e'.transfer t.name bytes) ∧
            (t.isInput = false → ∀ bytes, (e'.getOutputData t.name bytes).heap.copies =
              e'.heap.copies ++ e'.transfer t.name bytes) := by
  have hkept := Kept.of_reachable h
  refine ⟨⟨hkept.owns.faults, hkept.owns.perm, hkept.owns.nodup⟩, hkept.exact, ?_, ?_⟩
  · obtain ⟨hfree, hnone⟩ := hkept.destroyBuffers
    have hperm := hfree.owns.perm
    rw [hnone] at hperm
    exact hperm.eq_nil
  · intro axisSizes memory e' hinit
    obtain ⟨hkept', engine, hengine, hcontext, hbuffers⟩ := hkept.initInputs hinit
    refine ⟨engine, hengine, fun t ht => ?_⟩
    have hbuffer := (hbuffers rfl).2 t ht
    obtain ⟨shape, hresolve, hshape, hbytes⟩ :=
      hbuffer.byteCount_eq (hkept'.sizes hcontext engine hengine t ht)
    exact ⟨shape, hresolve, hshape, hbytes, hkept'.setInputData_copies hbuffer,
      hkept'.getOutputData_copies hbuffer⟩

/-- An encoder with a dynamic batch. -/
def encoderEngine : CudaEngine where
  tensors := [
    { name := "obs_dict", isInput := true, shape := [-1, 1751], profileMin := [1, 1751]
      profileMax := [16, 1751], dataType := .float },
    { name := "encoded_tokens", isInput := false, shape := [-1, 64], dataType := .float }]
  nodup := by decide

/-- The first `InitInputs` has no memory for the output, and an input is a float short. -/
def encoderRun : List Act :=
  [.initializeEngine (.loaded encoderEngine) fun _ => none,
    .initInputs [] fun name => name == "obs_dict", .initInputs [] fun _ => true,
    .setInputData "obs_dict" 7000, .setInputData "obs_dict" 7004]

theorem engine_buffers_encoder : ∃ e : TRTInferenceEngine,
    e.heap.copies = [(7004, 7004), (7004, 7004), (256, 256), (7004, 7004)] ∧
      e.heap.blocks.length = 2 ∧ e.heap.faults = 0 ∧ e.destroy.heap.blocks = [] := by
  have hrun : (Transition.run step {} encoderRun).any (fun e =>
      decide (e.heap.copies = [(7004, 7004), (7004, 7004), (256, 256), (7004, 7004)] ∧
        e.heap.blocks.length = 2)) = true := by
    decide +kernel
  obtain ⟨e, he, hdone⟩ := Transition.reachable_of_run_any hrun
  obtain ⟨hcopies, hblocks⟩ := of_decide_eq_true hdone
  obtain ⟨⟨hfaults, -⟩, -, hfree, -⟩ := engine_buffers he
  exact ⟨e, hcopies, hblocks, hfaults, hfree⟩

end TRTInferenceEngine

end Gearsonic
