import Mathlib.Algebra.Order.Floor.Ring
import Mathlib.Tactic.Linarith
import Mathlib.Tactic.Ring

/-!
# Reading between samples

A sequence of values read at a position between two indices, linearly. The index behind the
position is held at `last`, so that nothing after it is read.

* `sampleLine_natCast`: on an index, the value itself.
* `sampleLine_affine`: between the samples of an affine function, the function.
-/

namespace SampleLine

variable {K : Type*} [Field K] [LinearOrder K] [FloorRing K]

/-- The value of `u` at position `x`. -/
def sampleLine (u : Int → K) (last : Int) (x : K) : K :=
  (1 - Int.fract x) * u ⌊x⌋ + Int.fract x * u (min (⌊x⌋ + 1) last)

variable {u : Int → K} {last : Int} {x a b : K}

/-- Between two samples of a line lies the line. -/
theorem sampleLine_of_neighbours (hlast : ⌊x⌋ + 1 ≤ last) (hfirst : u ⌊x⌋ = a + b * ⌊x⌋)
    (hsecond : u (⌊x⌋ + 1) = a + b * (⌊x⌋ + 1)) : sampleLine u last x = a + b * x := by
  have hx : (⌊x⌋ : K) + Int.fract x = x := Int.floor_add_fract x
  unfold sampleLine
  rw [min_eq_left hlast, hfirst, hsecond]
  calc (1 - Int.fract x) * (a + b * ⌊x⌋) + Int.fract x * (a + b * (⌊x⌋ + 1))
      = a + b * (⌊x⌋ + Int.fract x) := by ring
    _ = a + b * x := by rw [hx]

variable [IsStrictOrderedRing K]

theorem sampleLine_natCast (u : Int → K) (last : Int) (n : Nat) :
    sampleLine u last (n : K) = u n := by
  unfold sampleLine
  rw [Int.fract_natCast, Int.floor_natCast]
  ring

/-- Samples of a line, read at or before the last one. -/
theorem sampleLine_affine (hline : ∀ n : Int, 0 ≤ n → n ≤ last → u n = a + b * n)
    (hlow : 0 ≤ x) (hhigh : x ≤ last) : sampleLine u last x = a + b * x := by
  have hfloor : 0 ≤ ⌊x⌋ := Int.floor_nonneg.mpr hlow
  have hle : ⌊x⌋ ≤ last := by
    have hcast : ((⌊x⌋ : Int) : K) ≤ last := (Int.floor_le x).trans hhigh
    exact_mod_cast hcast
  rcases hle.lt_or_eq with hlt | heq
  · refine sampleLine_of_neighbours (by omega) (hline _ hfloor hle) ?_
    have hnext := hline (⌊x⌋ + 1) (by omega) (by omega)
    push_cast at hnext
    exact hnext
  · -- the position is the last index, and its successor has no weight
    have hx : x = (⌊x⌋ : K) := le_antisymm (by rw [heq]; exact hhigh) (Int.floor_le x)
    have hfract : Int.fract x = 0 := by
      rw [Int.fract, ← hx, sub_self]
    unfold sampleLine
    rw [hfract, hline _ hfloor hle, ← hx]
    ring

end SampleLine
