import Mathlib.Data.List.Basic

/-!
# Chained hashes

A hash of fixed length names several strings at once: the hash of the first is put before the
second, the hash of that before the third, and so on. As the lengths are fixed, the strings can be
read off the messages that were hashed, and so two chains end alike only if their strings are the
same or some hash of the one collides with the hash at the same place of the other.
-/

namespace HashChain

variable {α : Type*} (H : List α → List α)

def chain (x : List α) : List (List α) → List α
  | [] => H x
  | s :: ss => chain (H x ++ s) ss

/-- What is hashed along the chain. -/
def messages (x : List α) : List (List α) → List (List α)
  | [] => [x]
  | s :: ss => x :: messages (H x ++ s) ss

/-- Two messages that collide. -/
def Collision (p : List α × List α) : Prop := p.1 ≠ p.2 ∧ H p.1 = H p.2

variable {H}

theorem eq_or_collision (hlen : ∀ p q, (H p).length = (H q).length) {x y : List α}
    {ss ts : List (List α)} (hcount : ss.length = ts.length) (h : chain H x ss = chain H y ts) :
    (x = y ∧ ss = ts) ∨ ∃ p ∈ (messages H x ss).zip (messages H y ts), Collision H p := by
  induction ss generalizing x y ts with
  | nil =>
    obtain rfl := List.eq_nil_of_length_eq_zero hcount.symm
    by_cases hxy : x = y
    · exact Or.inl ⟨hxy, rfl⟩
    · exact Or.inr ⟨(x, y), List.mem_singleton.mpr rfl, hxy, h⟩
  | cons s ss ih =>
    cases ts with
    | nil => cases hcount
    | cons t ts =>
      rcases ih (Nat.succ.inj hcount) h with ⟨hmessage, rfl⟩ | ⟨p, hp, hcollision⟩
      · obtain ⟨hhash, rfl⟩ := List.append_inj hmessage (hlen x y)
        by_cases hxy : x = y
        · exact Or.inl ⟨hxy, rfl⟩
        · exact Or.inr ⟨(x, y), List.mem_cons_self, hxy, hhash⟩
      · exact Or.inr ⟨p, List.mem_cons_of_mem _ hp, hcollision⟩

end HashChain
