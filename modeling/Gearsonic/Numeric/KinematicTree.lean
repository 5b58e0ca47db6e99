import Mathlib.Algebra.Group.Hom.End
import Mathlib.Algebra.Order.Ring.Pow
import Mathlib.Analysis.Normed.Group.Seminorm
import Mathlib.Data.List.FinRange
import Mathlib.Tactic.Linarith
import Mathlib.Tactic.Ring

/-!
# Kinematic trees

Joints numbered so that a parent comes before its children, an array filled from the first joint
to the last, and the frames and positions of a chain of joint maps along the tree.

* `fill_eq`: where an entry reads earlier entries only, the loop leaves the solution of the
  recursion, whatever the array held before.
* `Tree.induction`: what holds at the roots and passes from a parent to a child holds at every joint.
* `Chain.near`, `Chain.position_near`: joint maps close to nonexpansive ones give frames and
  positions close to theirs, by the number of joints and the length of the way from the root.
-/

namespace KinematicTree

variable {n : ℕ}

/-! ## Arrays filled in order -/

section Fill

variable {α : Type*} {value : Fin n → (Fin n → α) → α}

/-- Write the entries from the first to the last; a value may read the array as it is so far. -/
def fill (value : Fin n → (Fin n → α) → α) (start : Fin n → α) : Fin n → α :=
  (List.finRange n).foldl (fun a i => Function.update a i (value i a)) start

/-- The value of an entry reads earlier entries only. -/
def Causal (value : Fin n → (Fin n → α) → α) : Prop :=
  ∀ i a b, (∀ j, j < i → a j = b j) → value i a = value i b

theorem foldl_update_of_not_mem {l : List (Fin n)} {i : Fin n} (h : i ∉ l) (start : Fin n → α) :
    l.foldl (fun a i => Function.update a i (value i a)) start i = start i := by
  induction l generalizing start with
  | nil => rfl
  | cons x l ih =>
    rw [List.mem_cons, not_or] at h
    rw [List.foldl_cons, ih h.2, Function.update_of_ne h.1]

/-- Over increasing entries, each one reads what the finished array holds. -/
theorem foldl_update_of_mem (hvalue : Causal value) {l : List (Fin n)} (hl : l.Pairwise (· < ·))
    {i : Fin n} (hi : i ∈ l) (start : Fin n → α) :
    l.foldl (fun a i => Function.update a i (value i a)) start i =
      value i (l.foldl (fun a i => Function.update a i (value i a)) start) := by
  induction l generalizing start with
  | nil => cases hi
  | cons x l ih =>
    obtain ⟨hx, hl⟩ := List.pairwise_cons.mp hl
    rcases List.mem_cons.mp hi with rfl | hi
    · have hnot : i ∉ l := fun h => lt_irrefl i (hx i h)
      rw [List.foldl_cons, foldl_update_of_not_mem hnot, Function.update_self]
      apply hvalue
      intro j hj
      have hjl : j ∉ l := fun h => lt_asymm hj (hx j h)
      rw [foldl_update_of_not_mem hjl, Function.update_of_ne hj.ne]
    · exact ih hl hi _

theorem fill_eq (hvalue : Causal value) (start : Fin n → α) (i : Fin n) :
    fill value start i = value i (fill value start) :=
  foldl_update_of_mem hvalue (List.pairwise_lt_finRange n) (List.mem_finRange i) start

end Fill

/-! ## Trees -/

structure Tree (n : ℕ) where
  parent : Fin n → Option (Fin n)
  parent_lt : ∀ {i p}, parent i = some p → p < i

namespace Tree

variable {T : Tree n}

theorem induction {P : Fin n → Prop} (hroot : ∀ i, T.parent i = none → P i)
    (hchild : ∀ i p, T.parent i = some p → P p → P i) (i : Fin n) : P i := by
  induction i using WellFoundedLT.induction with
  | ind i ih =>
    cases hp : T.parent i with
    | none => exact hroot i hp
    | some p => exact hchild i p hp (ih p (T.parent_lt hp))

variable {α : Type*} {root : Fin n → α} {child : Fin n → α → α} {start : Fin n → α}

/-- The value of an entry: at a root, or from the parent's entry. -/
def entry (T : Tree n) (root : Fin n → α) (child : Fin n → α → α) (i : Fin n) (a : Fin n → α) : α :=
  match T.parent i with
  | none => root i
  | some p => child i (a p)

theorem entry_causal (T : Tree n) (root : Fin n → α) (child : Fin n → α → α) :
    Causal (T.entry root child) := by
  intro i a b h
  unfold entry
  cases hp : T.parent i with
  | none => rfl
  | some p =>
    dsimp only
    rw [h p (T.parent_lt hp)]

/-- From the roots to the leaves. -/
def sweep (T : Tree n) (root : Fin n → α) (child : Fin n → α → α) (start : Fin n → α) : Fin n → α :=
  fill (T.entry root child) start

theorem sweep_root {i : Fin n} (h : T.parent i = none) : T.sweep root child start i = root i := by
  unfold sweep
  rw [fill_eq (T.entry_causal root child), entry, h]

theorem sweep_child {i p : Fin n} (h : T.parent i = some p) :
    T.sweep root child start i = child i (T.sweep root child start p) := by
  unfold sweep
  rw [fill_eq (T.entry_causal root child), entry, h]

section Total

variable {M M' : Type*} [AddCommMonoid M] [AddCommMonoid M'] {w : Fin n → M} {i p : Fin n}

/-- The sum of the weights on the way from the root, the root's own left out. -/
def total (T : Tree n) (w : Fin n → M) : Fin n → M :=
  T.sweep (fun _ => 0) (fun i s => s + w i) fun _ => 0

theorem total_root (h : T.parent i = none) : T.total w i = 0 := sweep_root h

theorem total_child (h : T.parent i = some p) : T.total w i = T.total w p + w i := sweep_child h

theorem map_total (f : M →+ M') (w : Fin n → M) (i : Fin n) :
    f (T.total w i) = T.total (fun j => f (w j)) i := by
  induction i using T.induction with
  | hroot i h => rw [total_root h, total_root h, map_zero]
  | hchild i p h ih => rw [total_child h, total_child h, map_add, ih]

end Total

end Tree

/-! ## Maps close to each other -/

section Near

variable {E : Type*} [AddCommGroup E] (N : AddGroupSeminorm E)

def Nonexpansive (f : AddMonoid.End E) : Prop := ∀ x, N (f x) ≤ N x

/-- Two maps are apart by at most `δ` of the length of what they map. -/
def Near (δ : ℝ) (f g : AddMonoid.End E) : Prop := ∀ x, N (f x - g x) ≤ δ * N x

variable {N} {δ ε : ℝ} {f g F G : AddMonoid.End E}

theorem Near.refl : Near N 0 f f := by
  intro x
  rw [sub_self, map_zero, zero_mul]

theorem Near.mono (h : Near N δ f g) (hle : δ ≤ ε) : Near N ε f g := fun x =>
  (h x).trans (mul_le_mul_of_nonneg_right hle (apply_nonneg N x))

theorem Nonexpansive.mul (hF : Nonexpansive N F) (hf : Nonexpansive N f) : Nonexpansive N (F * f) :=
  fun x => (hF (f x)).trans (hf x)

/-- A map close to a nonexpansive one stretches little. -/
theorem Near.apply_le (h : Near N δ f g) (hg : Nonexpansive N g) (x : E) :
    N (f x) ≤ (1 + δ) * N x := by
  calc N (f x) = N (f x - g x + g x) := by rw [sub_add_cancel]
    _ ≤ N (f x - g x) + N (g x) := map_add_le_add N _ _
    _ ≤ δ * N x + N x := add_le_add (h x) (hg x)
    _ = (1 + δ) * N x := by ring

theorem Near.mul (hF : Near N ε F G) (hf : Near N δ f g) (hε : 0 ≤ ε) (hG : Nonexpansive N G)
    (hg : Nonexpansive N g) : Near N ((1 + ε) * (1 + δ) - 1) (F * f) (G * g) := by
  intro x
  have hsplit : (F * f) x - (G * g) x = F (f x - g x) + (F (g x) - G (g x)) := by
    rw [map_sub]
    show F (f x) - G (g x) = _
    abel
  have hfirst : N (F (f x - g x)) ≤ (1 + ε) * (δ * N x) :=
    (hF.apply_le hG _).trans (mul_le_mul_of_nonneg_left (hf x) (by linarith))
  have hsecond : N (F (g x) - G (g x)) ≤ ε * N x :=
    (hF (g x)).trans (mul_le_mul_of_nonneg_left (hg x) hε)
  calc N ((F * f) x - (G * g) x) ≤ N (F (f x - g x)) + N (F (g x) - G (g x)) := by
        rw [hsplit]
        exact map_add_le_add N _ _
    _ ≤ (1 + ε) * (δ * N x) + ε * N x := add_le_add hfirst hsecond
    _ = ((1 + ε) * (1 + δ) - 1) * N x := by ring

end Near

/-! ## Chains -/

section Chain

variable {E : Type*} [AddCommGroup E]

/-- The frames and positions of the joints: a child's frame follows its parent's, and its bone is
placed in its parent's frame. -/
structure Chain (T : Tree n) (f : Fin n → AddMonoid.End E) (bone : Fin n → E)
    (F : Fin n → AddMonoid.End E) (x : Fin n → E) : Prop where
  root : ∀ i, T.parent i = none → F i = f i ∧ x i = bone i
  child : ∀ i p, T.parent i = some p → F i = F p * f i ∧ x i = x p + F p (bone i)

variable {N : AddGroupSeminorm E} {T : Tree n} {f g F G : Fin n → AddMonoid.End E}
  {bone x y : Fin n → E} {δ : ℝ} {s m : Fin n → ℕ}

theorem Chain.nonexpansive (hG : Chain T g bone G y) (hg : ∀ i, Nonexpansive N (g i)) (i : Fin n) :
    Nonexpansive N (G i) := by
  induction i using T.induction with
  | hroot i hp =>
    rw [(hG.root i hp).1]
    exact hg i
  | hchild i p hp ih =>
    rw [(hG.child i p hp).1]
    exact ih.mul (hg i)

/-- A frame is off by one error for each inexact joint above it: `s i` is 0 where joint `i` is exact
and `m i` counts the way from the root. -/
theorem Chain.near (hF : Chain T f bone F x) (hG : Chain T g bone G y) (hδ : 0 ≤ δ)
    (hg : ∀ i, Nonexpansive N (g i)) (hnear : ∀ i, Near N ((1 + δ) ^ s i - 1) (f i) (g i))
    (hroot : ∀ i, T.parent i = none → s i ≤ m i)
    (hchild : ∀ i p, T.parent i = some p → m p + s i ≤ m i) (i : Fin n) :
    Near N ((1 + δ) ^ m i - 1) (F i) (G i) := by
  have hpow : ∀ {a b : ℕ}, a ≤ b → (1 + δ) ^ a - 1 ≤ (1 + δ) ^ b - 1 := fun hab =>
    sub_le_sub_right (pow_le_pow_right₀ (by linarith) hab) 1
  induction i using T.induction with
  | hroot i hp =>
    rw [(hF.root i hp).1, (hG.root i hp).1]
    exact (hnear i).mono (hpow (hroot i hp))
  | hchild i p hp ih =>
    rw [(hF.child i p hp).1, (hG.child i p hp).1]
    have hnonneg : 0 ≤ (1 + δ) ^ m p - 1 := by
      have hone := hpow (Nat.zero_le (m p))
      rwa [pow_zero, sub_self] at hone
    refine (ih.mul (hnear i) hnonneg (hG.nonexpansive hg p) (hg i)).mono ?_
    calc (1 + ((1 + δ) ^ m p - 1)) * (1 + ((1 + δ) ^ s i - 1)) - 1
        = (1 + δ) ^ (m p + s i) - 1 := by rw [pow_add]; ring
      _ ≤ (1 + δ) ^ m i - 1 := hpow (hchild i p hp)

/-- A position is off by at most the frames' error over the length of the way. -/
theorem Chain.position_near (hF : Chain T f bone F x) (hG : Chain T g bone G y) {c : ℝ}
    (hnear : ∀ i, Near N c (F i) (G i)) (i : Fin n) :
    N (x i - y i) ≤ c * T.total (fun i => N (bone i)) i := by
  induction i using T.induction with
  | hroot i hp =>
    rw [(hF.root i hp).2, (hG.root i hp).2, sub_self, map_zero, Tree.total_root hp, mul_zero]
  | hchild i p hp ih =>
    have hsplit : x i - y i = x p - y p + (F p (bone i) - G p (bone i)) := by
      rw [(hF.child i p hp).2, (hG.child i p hp).2]
      abel
    calc N (x i - y i) ≤ N (x p - y p) + N (F p (bone i) - G p (bone i)) := by
          rw [hsplit]
          exact map_add_le_add N _ _
      _ ≤ c * T.total (fun i => N (bone i)) p + c * N (bone i) := add_le_add ih (hnear p (bone i))
      _ = c * T.total (fun i => N (bone i)) i := by rw [Tree.total_child hp, mul_add]

end Chain

end KinematicTree
