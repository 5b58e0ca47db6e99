import Mathlib.Data.List.Infix

/-!
# Loops over a stream of inputs

A polling loop is a total body `body : σ → ι → σ` applied to one input per iteration. A
run is a finite list of inputs, folded from the initial state. `Throughout P body s is`
says that `P` holds at every iteration of the run: of the state the iteration starts in
and of the input it reads.

* `throughout_iff`: the same, spelled out over prefixes.
* `throughout_of_forall`: an invariant that every admissible input keeps.
* `throughout_congr`: where `P` and `C` agree under such an invariant, a run satisfies
  `P` throughout exactly when it satisfies `C` throughout.
-/

namespace Transition

variable {σ ι : Type*}

/-- `P` holds at every iteration of the run over `is`. -/
def Throughout (P : σ → ι → Prop) (body : σ → ι → σ) (s : σ) : List ι → Prop
  | [] => True
  | i :: is => P s i ∧ Throughout P body (body s i) is

variable {P C : σ → ι → Prop} {body : σ → ι → σ} {s : σ}

/-- A property that can be evaluated can be evaluated throughout a run. -/
instance decidableThroughout [∀ s i, Decidable (P s i)] :
    ∀ (is : List ι) (s : σ), Decidable (Throughout P body s is)
  | [], _ => .isTrue trivial
  | i :: is, s =>
    have := decidableThroughout is (body s i)
    inferInstanceAs (Decidable (P s i ∧ Throughout P body (body s i) is))

/-- `Throughout`, spelled out over the iterations of the run. -/
theorem throughout_iff (is : List ι) :
    Throughout P body s is ↔
      ∀ pre i, (pre ++ [i]) <+: is → P (pre.foldl body s) i := by
  induction is generalizing s with
  | nil => simp [Throughout]
  | cons a as ih =>
    constructor
    · rintro ⟨ha, has⟩ pre i hpre
      cases pre with
      | nil =>
        obtain ⟨rfl, -⟩ := List.cons_prefix_cons.mp hpre
        exact ha
      | cons b pre =>
        obtain ⟨rfl, hrest⟩ := List.cons_prefix_cons.mp hpre
        exact ih.mp has pre i hrest
    · intro h
      refine ⟨h [] a (by simp), ih.mpr ?_⟩
      intro pre i hpre
      exact h (a :: pre) i (List.cons_prefix_cons.mpr ⟨rfl, hpre⟩)

/-- A property of the input alone. -/
theorem throughout_const {N : ι → Prop} (is : List ι) :
    Throughout (fun _ i => N i) body s is ↔ ∀ i ∈ is, N i := by
  induction is generalizing s with
  | nil => simp [Throughout]
  | cons i is ih => rw [Throughout, ih, List.forall_mem_cons]

/-- Where every input is admissible, an invariant that admissible inputs keep gives `P`
throughout. -/
theorem throughout_of_forall {I : σ → Prop} {N : ι → Prop} (h0 : I s)
    (hP : ∀ s, I s → ∀ i, P s i) (hbody : ∀ s, I s → ∀ i, N i → I (body s i)) {is : List ι}
    (hN : ∀ i ∈ is, N i) : Throughout P body s is := by
  induction is generalizing s with
  | nil => trivial
  | cons i is ih =>
    exact ⟨hP s h0 i, ih (hbody s h0 i (hN i List.mem_cons_self))
      fun j hj => hN j (List.mem_cons_of_mem i hj)⟩

/-- **Exact conditions of a run.** If `P` and `C` agree wherever the invariant holds,
and an iteration that meets `C` keeps the invariant, a run satisfies the one throughout
exactly when it satisfies the other throughout. -/
theorem throughout_congr {I : σ → Prop} (h0 : I s)
    (hiff : ∀ s i, I s → (P s i ↔ C s i))
    (hbody : ∀ s i, I s → C s i → I (body s i)) (is : List ι) :
    Throughout P body s is ↔ Throughout C body s is := by
  induction is generalizing s with
  | nil => exact Iff.rfl
  | cons i is ih =>
    constructor
    · rintro ⟨hP, hrest⟩
      have hC := (hiff s i h0).mp hP
      exact ⟨hC, (ih (hbody s i h0 hC)).mp hrest⟩
    · rintro ⟨hC, hrest⟩
      exact ⟨(hiff s i h0).mpr hC, (ih (hbody s i h0 hC)).mpr hrest⟩

end Transition
