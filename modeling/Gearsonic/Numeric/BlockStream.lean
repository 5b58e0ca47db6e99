import Mathlib.Data.List.Basic
import Mathlib.Tactic.Common

/-!
# Blocks out of chunks

A function of a state and a block, folded over a list in blocks of `n`, and a buffer that does the
same while the list arrives in chunks: each chunk is put behind what is left of the earlier ones,
the full blocks are folded in, and the rest waits.

`Absorbed.absorb`: however the list is cut into chunks, the state is the one of its full blocks and
the buffer holds what is behind them.
-/

namespace BlockStream

variable {α σ : Type*} {n : ℕ} {f : σ → List α → σ}

/-- Fold in the first `k` blocks. -/
def feed (n : ℕ) (f : σ → List α → σ) : ℕ → σ → List α → σ
  | 0, s, _ => s
  | k + 1, s, l => feed n f k (f s (l.take n)) (l.drop n)

theorem feed_add (j k : ℕ) (s : σ) (l : List α) :
    feed n f (j + k) s l = feed n f k (feed n f j s l) (l.drop (n * j)) := by
  induction j generalizing s l with
  | zero => simp [feed]
  | succ j ih =>
    rw [Nat.succ_add, feed, ih, feed, List.drop_drop, Nat.mul_succ, Nat.add_comm (n * j)]

/-- The list behind the blocks does not matter. -/
theorem feed_append (k : ℕ) (s : σ) (l l' : List α) (h : n * k ≤ l.length) :
    feed n f k s (l ++ l') = feed n f k s l := by
  induction k generalizing s l with
  | zero => rfl
  | succ k ih =>
    have hn : n ≤ l.length := Nat.le_trans (Nat.le_mul_of_pos_right n k.succ_pos) h
    have hrest : n * k ≤ (l.drop n).length := by
      rw [List.length_drop]
      rw [Nat.mul_succ] at h
      exact Nat.le_sub_of_add_le h
    rw [feed, feed, List.take_append_of_le_length hn, List.drop_append_of_le_length hn,
      ih _ _ hrest]

structure Stream (σ α : Type*) where
  state : σ
  rest : List α

/-- One more chunk. -/
def absorb (n : ℕ) (f : σ → List α → σ) (st : Stream σ α) (chunk : List α) : Stream σ α :=
  let buffer := st.rest ++ chunk
  let k := buffer.length / n
  ⟨feed n f k st.state buffer, buffer.drop (n * k)⟩

/-- The stream has taken in the list. -/
structure Absorbed (n : ℕ) (f : σ → List α → σ) (s : σ) (l : List α) (st : Stream σ α) : Prop where
  state : st.state = feed n f (l.length / n) s l
  rest : st.rest = l.drop (n * (l.length / n))

theorem Absorbed.init (n : ℕ) (f : σ → List α → σ) (s : σ) : Absorbed n f s [] ⟨s, []⟩ := by
  constructor <;> simp [feed]

theorem Absorbed.length_rest {s : σ} {l : List α} {st : Stream σ α} (h : Absorbed n f s l st) :
    st.rest.length = l.length % n := by
  rw [h.rest, List.length_drop]
  exact (Nat.mod_eq_sub_mul_div).symm

theorem Absorbed.absorb (hn : 0 < n) {s : σ} {l : List α} {st : Stream σ α}
    (h : Absorbed n f s l st) (chunk : List α) :
    Absorbed n f s (l ++ chunk) (absorb n f st chunk) := by
  have hle : n * (l.length / n) ≤ l.length := Nat.mul_div_le l.length n
  have hrest : st.rest ++ chunk = (l ++ chunk).drop (n * (l.length / n)) := by
    rw [h.rest, List.drop_append_of_le_length hle]
  -- the blocks of the whole are those of `l` and those of the buffer
  have hcount : (l ++ chunk).length / n = l.length / n + (st.rest ++ chunk).length / n := by
    have hlen : (l ++ chunk).length = n * (l.length / n) + (st.rest ++ chunk).length := by
      rw [hrest, List.length_drop, Nat.add_sub_cancel' (Nat.le_trans hle (by simp))]
    rw [hlen, Nat.mul_add_div hn]
  constructor
  · show feed n f ((st.rest ++ chunk).length / n) st.state (st.rest ++ chunk) = _
    rw [hcount, feed_add, feed_append _ _ _ _ hle, ← h.state, ← hrest]
  · show (st.rest ++ chunk).drop (n * ((st.rest ++ chunk).length / n)) = _
    rw [hcount, Nat.mul_add, ← List.drop_drop, ← hrest]

end BlockStream
