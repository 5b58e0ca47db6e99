import Gearsonic.Tensorrt.InferenceEngine

/-!
# The encoder's and the decoder's engine

`ObsDictModel`: an engine with one input `obs_dict` and one output, and two host buffers of floats.
`Initialize` sizes the host buffers by the shapes of the tensors; `Infer` hands them to the engine,
which refuses a length that is not the tensor's with a line in the log and nothing else.

* `obs_dict_transfers`: over any inferences no transfer is refused, where the tensors are floats,
  dynamic dimensions included.
-/

namespace Gearsonic

open TRTInferenceEngine

/-- `tensor_dim`; the dimensions that are not positive are skipped. -/
def tensorDim (e : TRTInferenceEngine) (name : String) : BitVec 64 :=
  match e.tensorShapes name with
  | none => 0
  | some shape => shape.foldl (fun n d => if 0 < d then n * BitVec.ofInt 64 d else n) 1

structure ObsDictModel where
  engine : TRTInferenceEngine := {}
  outputName : String := ""
  /-- The sizes of the host buffers. -/
  inputDim : BitVec 64 := 0
  outputDim : BitVec 64 := 0
  stream : Bool := false

namespace ObsDictModel

/-- What `Initialize` meets on its way: the conversion (`none` where it fails) with what the engine
file holds, the device's memory, the stream. -/
structure Surroundings where
  load : Option EngineLoad
  memory : String → Bool
  stream : Bool

def initializeModel (m : ObsDictModel) (outputName : String)
    (expectedInputDim expectedOutputDim : BitVec 64) (r : Surroundings) :
    Option (Bool × ObsDictModel) :=
  let m := { m with outputName := outputName }
  match r.load with
  | none => some (false, m)
  | some load =>
    match m.engine.initializeEngine load fun _ => none with
    | (false, e) => some (false, { m with engine := e })
    | (true, e) =>
      (e.initInputs [] r.memory).map fun (ok, e) =>
        let m := { m with engine := e }
        let inDim := tensorDim e "obs_dict"
        let outDim := tensorDim e outputName
        if !ok then (false, m)
        else if e.inputBuffers.keys ≠ ["obs_dict"] ∨ e.outputBuffers.keys ≠ [outputName] then
          (false, m)
        else if expectedInputDim ≠ 0 ∧ inDim ≠ expectedInputDim ∨
            expectedOutputDim ≠ 0 ∧ outDim ≠ expectedOutputDim then
          (false, m)
        else if !r.stream then (false, m)
        else (true, { m with stream := true, inputDim := inDim, outputDim := outDim })

/-- `enqueued` says whether the engine takes the inference. -/
def infer (m : ObsDictModel) (enqueued : Bool) : Bool × ObsDictModel :=
  let m := { m with engine := m.engine.setInputData "obs_dict" (4 * m.inputDim) }
  if !enqueued then (false, m)
  else (true, { m with engine := m.engine.getOutputData m.outputName (4 * m.outputDim) })

/-- One inference after the other. -/
def inferAll (m : ObsDictModel) : List Bool → ObsDictModel
  | [] => m
  | enqueued :: rest => (m.infer enqueued).2.inferAll rest

/-! ## Buffers over an inference -/

variable {e : TRTInferenceEngine} {t : IOTensor} {axisSizes : AxisSizes} {m m' : ObsDictModel}

theorem lookup_slot {buffers : Buffers} {name name' : String} {address : ℕ}
    (h : buffers.lookup name = some (some address)) :
    (slot buffers name').2.lookup name = some (some address) := by
  unfold slot
  split
  · exact h
  · rename_i hnone
    have hne : name ≠ name' := by
      rintro rfl
      rw [h] at hnone
      cases hnone
    exact (AList.lookup_insert_ne hne).trans h

theorem hasBuffer_setInputData (h : HasBuffer e axisSizes t) (name : String) (bytes : BitVec 64) :
    HasBuffer (e.setInputData name bytes) axisSizes t := by
  unfold setInputData
  split
  · obtain ⟨hshape, address, hlookup⟩ := h
    refine ⟨hshape, address, ?_⟩
    split at hlookup
    · rename_i hinput
      rw [if_pos hinput]
      exact lookup_slot hlookup
    · rename_i houtput
      rw [if_neg houtput]
      exact hlookup
  · exact h

theorem hasBuffer_getOutputData (h : HasBuffer e axisSizes t) (name : String) (bytes : BitVec 64) :
    HasBuffer (e.getOutputData name bytes) axisSizes t := by
  unfold getOutputData
  split
  · obtain ⟨hshape, address, hlookup⟩ := h
    refine ⟨hshape, address, ?_⟩
    split at hlookup
    · rename_i hinput
      rw [if_pos hinput]
      exact hlookup
    · rename_i houtput
      rw [if_neg houtput]
      exact lookup_slot hlookup
  · exact h

theorem byteCount_setInputData (e : TRTInferenceEngine) (name name' : String) (bytes : BitVec 64) :
    (e.setInputData name' bytes).byteCount name = e.byteCount name := by
  unfold setInputData
  split <;> rfl

theorem byteCount_getOutputData (e : TRTInferenceEngine) (name name' : String) (bytes : BitVec 64) :
    (e.getOutputData name' bytes).byteCount name = e.byteCount name := by
  unfold getOutputData
  split <;> rfl

/-- The host buffers are as long as the tensors they are copied to and from. -/
structure Ready (m : ObsDictModel) : Prop where
  kept : Kept m.engine
  input : ∃ t : IOTensor, t.name = "obs_dict" ∧ t.isInput = true ∧ HasBuffer m.engine [] t
  output : ∃ t : IOTensor, t.name = m.outputName ∧ t.isInput = false ∧ HasBuffer m.engine [] t
  inputBytes : m.engine.byteCount "obs_dict" = 4 * m.inputDim
  outputBytes : m.engine.byteCount m.outputName = 4 * m.outputDim

/-- The transfers of one inference. -/
def transfers (m : ObsDictModel) (enqueued : Bool) : List (ℕ × ℕ) :=
  ((4 * m.inputDim).toNat, (4 * m.inputDim).toNat) ::
    if enqueued then [((4 * m.outputDim).toNat, (4 * m.outputDim).toNat)] else []

theorem Ready.setInputData (h : Ready m) :
    Ready { m with engine := m.engine.setInputData "obs_dict" (4 * m.inputDim) } ∧
      (m.engine.setInputData "obs_dict" (4 * m.inputDim)).heap.copies =
        m.engine.heap.copies ++ [((4 * m.inputDim).toNat, (4 * m.inputDim).toNat)] := by
  obtain ⟨hkept, ⟨t, hname, hmode, hbuffer⟩, ⟨u, huname, humode, hubuffer⟩, hin, hout⟩ := h
  refine ⟨⟨hkept.setInputData _ _, ⟨t, hname, hmode, hasBuffer_setInputData hbuffer _ _⟩,
    ⟨u, huname, humode, hasBuffer_setInputData hubuffer _ _⟩, ?_, ?_⟩, ?_⟩
  · exact (byteCount_setInputData _ _ _ _).trans hin
  · exact (byteCount_setInputData _ _ _ _).trans hout
  · have hcopies := hkept.setInputData_copies hbuffer hmode (4 * m.inputDim)
    rwa [hname, transfer, if_pos hin.symm] at hcopies

theorem Ready.getOutputData (h : Ready m) :
    Ready { m with engine := m.engine.getOutputData m.outputName (4 * m.outputDim) } ∧
      (m.engine.getOutputData m.outputName (4 * m.outputDim)).heap.copies =
        m.engine.heap.copies ++ [((4 * m.outputDim).toNat, (4 * m.outputDim).toNat)] := by
  obtain ⟨hkept, ⟨t, hname, hmode, hbuffer⟩, ⟨u, huname, humode, hubuffer⟩, hin, hout⟩ := h
  refine ⟨⟨hkept.getOutputData _ _, ⟨t, hname, hmode, hasBuffer_getOutputData hbuffer _ _⟩,
    ⟨u, huname, humode, hasBuffer_getOutputData hubuffer _ _⟩, ?_, ?_⟩, ?_⟩
  · exact (byteCount_getOutputData _ _ _ _).trans hin
  · exact (byteCount_getOutputData _ _ _ _).trans hout
  · have hcopies := hkept.getOutputData_copies hubuffer humode (4 * m.outputDim)
    rwa [huname, transfer, if_pos hout.symm] at hcopies

theorem Ready.infer (h : Ready m) (enqueued : Bool) :
    Ready (m.infer enqueued).2 ∧ (m.infer enqueued).1 = enqueued ∧
      (m.infer enqueued).2.engine.heap.copies = m.engine.heap.copies ++ m.transfers enqueued := by
  obtain ⟨hset, hcopies⟩ := h.setInputData
  cases enqueued with
  | false => exact ⟨hset, rfl, hcopies⟩
  | true =>
    obtain ⟨hget, hcopies'⟩ := hset.getOutputData
    refine ⟨hget, rfl, hcopies'.trans ?_⟩
    rw [hcopies, List.append_assoc]
    rfl

theorem transfers_infer (m : ObsDictModel) (ok enqueued : Bool) :
    (m.infer ok).2.transfers enqueued = m.transfers enqueued := by
  cases ok <;> rfl

theorem Ready.inferAll (h : Ready m) (enqueued : List Bool) :
    (m.inferAll enqueued).engine.heap.copies =
      m.engine.heap.copies ++ enqueued.flatMap m.transfers := by
  induction enqueued generalizing m with
  | nil => exact (List.append_nil _).symm
  | cons ok rest ih =>
    obtain ⟨hnext, -, hcopies⟩ := h.infer ok
    have hrest : rest.flatMap (m.infer ok).2.transfers = rest.flatMap m.transfers := by
      congr 1
      funext enqueued
      exact transfers_infer m ok enqueued
    rw [ObsDictModel.inferAll, ih hnext, hcopies, hrest, List.append_assoc, List.flatMap_cons]

/-! ## An initialized model -/

variable {outputName : String} {expectedInputDim expectedOutputDim : BitVec 64} {r : Surroundings}

theorem initializeModel_cases
    (h : m.initializeModel outputName expectedInputDim expectedOutputDim r = some (true, m')) :
    ∃ load e e', m.engine.initializeEngine load (fun _ => none) = (true, e) ∧
      e.initInputs [] r.memory = some (true, e') ∧
      (e'.inputBuffers.keys = ["obs_dict"] ∧ e'.outputBuffers.keys = [outputName]) ∧
      ((expectedInputDim ≠ 0 → tensorDim e' "obs_dict" = expectedInputDim) ∧
        (expectedOutputDim ≠ 0 → tensorDim e' outputName = expectedOutputDim)) ∧
      m' = ⟨e', outputName, tensorDim e' "obs_dict", tensorDim e' outputName, true⟩ := by
  unfold initializeModel at h
  dsimp only at h
  split at h
  · cases h
  · rename_i load hload
    split at h
    · cases h
    · rename_i e hengine
      obtain ⟨⟨ok, e'⟩, hinputs, hrest⟩ := Option.map_eq_some_iff.mp h
      dsimp only at hrest
      split at hrest
      · cases hrest
      · rename_i hok
        split at hrest
        · cases hrest
        · rename_i hnames
          split at hrest
          · cases hrest
          · rename_i hdims
            split at hrest
            · cases hrest
            · cases hrest
              rw [not_or, not_not, not_not] at hnames
              rw [not_or, not_and, not_and, not_not, not_not] at hdims
              have hok' : ok = true := by
                simpa using hok
              rw [hok'] at hinputs
              exact ⟨load, e, e', hengine, hinputs, hnames, hdims, rfl⟩

/-- With positive dimensions nothing is skipped. -/
theorem tensorDim_eq {name : String} {shape : List Int} (h : e.tensorShapes name = some shape)
    (hpos : ∀ d ∈ shape, 0 < d) : tensorDim e name = elements shape := by
  rw [tensorDim, h]
  have hfold : ∀ n : BitVec 64, shape.foldl (fun n d => if 0 < d then n * BitVec.ofInt 64 d else n) n =
      shape.foldl (fun n d => n * BitVec.ofInt 64 d) n := by
    intro n
    clear h
    induction shape generalizing n with
    | nil => rfl
    | cons d shape ih =>
      obtain ⟨hd, hrest⟩ := List.forall_mem_cons.mp hpos
      rw [List.foldl_cons, List.foldl_cons, if_pos hd]
      exact ih hrest _
  exact hfold 1

theorem mem_of_mapM {α β : Type} {f : α → Option β} {xs : List α} {ys : List β}
    (h : xs.mapM f = some ys) {y : β} (hy : y ∈ ys) : ∃ x ∈ xs, f x = some y := by
  induction xs generalizing ys with
  | nil =>
    cases h
    cases hy
  | cons x xs ih =>
    rw [List.mapM_cons] at h
    obtain ⟨first, hfirst, hrest⟩ := Option.bind_eq_some_iff.mp h
    obtain ⟨rest, hmap, hpure⟩ := Option.bind_eq_some_iff.mp hrest
    cases hpure
    rcases List.mem_cons.mp hy with rfl | hy
    · exact ⟨x, List.mem_cons_self, hfirst⟩
    · obtain ⟨x', hx', hfx⟩ := ih hmap hy
      exact ⟨x', List.mem_cons_of_mem x hx', hfx⟩

/-- Without axis sizes a dynamic dimension is one. -/
theorem resolveDim_pos {axisNames : AxisNames} {n : ℕ} {d d' : Int} (hd : d = -1 ∨ 0 < d)
    (h : resolveDim axisNames [] t n d = some d') : 0 < d' := by
  unfold resolveDim at h
  split at h
  · obtain ⟨hsize, -⟩ := Option.filter_eq_some_iff.mp h
    split at hsize
    · rw [Option.bind_eq_some_iff] at hsize
      obtain ⟨axis, -, hlookup⟩ := hsize
      cases hlookup
    · cases hsize
      exact Int.one_pos
  · rename_i hstatic
    cases h
    exact hd.resolve_left hstatic

theorem resolveShape_pos {axisNames : AxisNames} {shape : List Int}
    (hdims : ∀ d ∈ t.shape, d = -1 ∨ 0 < d) (h : resolveShape axisNames [] t = some shape) :
    ∀ d ∈ shape, 0 < d := by
  intro d hd
  obtain ⟨⟨d', n⟩, hmem, hresolve⟩ := mem_of_mapM h hd
  exact resolveDim_pos (hdims d' (List.fst_mem_of_mem_zipIdx hmem)) hresolve

/-- The tensors that the engine file names are floats, and a dimension that is not dynamic is
positive. -/
structure FloatTensors (e : TRTInferenceEngine) : Prop where
  float : ∀ engine, e.engine = some engine → ∀ t ∈ engine.tensors, t.dataType = .float
  dims : ∀ engine, e.engine = some engine → ∀ t ∈ engine.tensors, ∀ d ∈ t.shape, d = -1 ∨ 0 < d

theorem byteCount_float (hdims : ∀ d ∈ t.shape, d = -1 ∨ 0 < d) (hbuffer : HasBuffer e [] t)
    (hsize : e.dataTypeSizes t.name = sizeOfTensorDataType t.dataType)
    (htype : t.dataType = .float) : e.byteCount t.name = 4 * tensorDim e t.name := by
  obtain ⟨shape, hresolve, hshape⟩ := hbuffer.shape
  rw [tensorDim_eq hshape (resolveShape_pos hdims hresolve), byteCount, hshape, hsize, htype,
    BitVec.mul_comm]
  rfl

theorem ready_of_initializeModel (h : Kept m.engine)
    (hinit : m.initializeModel outputName expectedInputDim expectedOutputDim r = some (true, m'))
    (hfloat : FloatTensors m'.engine) : Ready m' := by
  obtain ⟨load, e, e', hload, hinputs, ⟨hinput, houtput⟩, -, rfl⟩ := initializeModel_cases hinit
  have hkept := h.initializeEngine load fun _ => none
  rw [hload] at hkept
  obtain ⟨hkept', engine, hengine, hcontext, hall⟩ := hkept.initInputs hinputs
  obtain ⟨hnames, hbuffers⟩ := hall rfl
  obtain ⟨t, ht, hname, hmode⟩ := hnames.input "obs_dict" (by rw [AList.mem_keys, hinput]; simp)
  obtain ⟨u, hu, huname, humode⟩ := hnames.output outputName (by rw [AList.mem_keys, houtput]; simp)
  have hbytes : ∀ t ∈ engine.tensors, e'.byteCount t.name = 4 * tensorDim e' t.name := fun t ht =>
    byteCount_float (hfloat.dims engine hengine t ht) (hbuffers t ht)
      (hkept'.sizes hcontext engine hengine t ht) (hfloat.float engine hengine t ht)
  refine ⟨hkept', ⟨t, hname, hmode, hbuffers t ht⟩, ⟨u, huname, humode, hbuffers u hu⟩, ?_, ?_⟩
  · rw [← hname]
    exact hbytes t ht
  · rw [← huname]
    exact hbytes u hu

/-- **No inference runs on a stale input.** Where `Initialize` has succeeded on an engine of floats,
with whatever came before on that engine, every inference hands over the whole input, and every one
that the engine takes fetches the whole output; the lengths are the expected ones. -/
theorem obs_dict_transfers
    (h : Transition.Reachable TRTInferenceEngine.step Transition.Always {} m.engine)
    (hinit : m.initializeModel outputName expectedInputDim expectedOutputDim r = some (true, m'))
    (hfloat : FloatTensors m'.engine) (enqueued : List Bool) :
    (m'.inferAll enqueued).engine.heap.copies =
        m'.engine.heap.copies ++ enqueued.flatMap m'.transfers ∧
      (expectedInputDim ≠ 0 → m'.inputDim = expectedInputDim) ∧
      (expectedOutputDim ≠ 0 → m'.outputDim = expectedOutputDim) := by
  refine ⟨(ready_of_initializeModel (Kept.of_reachable h) hinit hfloat).inferAll enqueued, ?_⟩
  obtain ⟨load, e, e', -, -, -, hdims, rfl⟩ := initializeModel_cases hinit
  exact hdims

/-- Everything comes up. -/
def encoderSurroundings : Surroundings := ⟨some (.loaded encoderEngine), fun _ => true, true⟩

def encoderModel : ObsDictModel :=
  (((({} : ObsDictModel).initializeModel "encoded_tokens" 1751 64 encoderSurroundings).map
    Prod.snd).getD {})

theorem encoderModel_float : FloatTensors encoderModel.engine where
  float := by
    intro engine hengine
    obtain rfl : encoderEngine = engine := Option.some.inj hengine
    decide
  dims := by
    intro engine hengine
    obtain rfl : encoderEngine = engine := Option.some.inj hengine
    decide

/-- The second of three inferences is refused by the engine. -/
theorem obs_dict_transfers_encoder :
    (encoderModel.inferAll [true, false, true]).engine.heap.copies =
      encoderModel.engine.heap.copies ++
        [(7004, 7004), (256, 256), (7004, 7004), (7004, 7004), (256, 256)] := by
  have hinit : ({} : ObsDictModel).initializeModel "encoded_tokens" 1751 64
      encoderSurroundings = some (true, encoderModel) := by rfl
  obtain ⟨hall, hin, hout⟩ := obs_dict_transfers .refl hinit encoderModel_float [true, false, true]
  rw [hall]
  simp only [List.flatMap_cons, List.flatMap_nil, transfers, hin (by decide), hout (by decide)]
  rfl

end ObsDictModel

end Gearsonic
