import Mathlib.Analysis.SpecialFunctions.Complex.Arg

/-!
# Half angles

`halfTurn a` turns by half the angle `a`, and `halfAngle z` is the unit complex number halfway
to the direction of `z`. Its square is that direction (`halfAngle_sq`). Where `z` is turned by
`u ^ 2`, the half angle is turned by `u`, up to the sign that the branch cut of the argument may
cost (`halfAngle_mul`).
-/

namespace Numeric

open Complex

noncomputable def halfTurn (a : ℝ) : ℂ := exp ((a / 2 : ℝ) * I)

noncomputable def halfAngle (z : ℂ) : ℂ := halfTurn (arg z)

theorem norm_halfTurn (a : ℝ) : ‖halfTurn a‖ = 1 := norm_exp_ofReal_mul_I _

theorem norm_halfAngle (z : ℂ) : ‖halfAngle z‖ = 1 := norm_halfTurn _

theorem halfAngle_sq (z : ℂ) : ‖z‖ * halfAngle z ^ 2 = z := by
  have hsq : halfAngle z ^ 2 = exp (arg z * I) := by
    rw [halfAngle, halfTurn, ← exp_nat_mul]
    push_cast
    ring_nf
  rw [hsq, norm_mul_exp_arg_mul_I]

theorem halfAngle_mul {u z : ℂ} (hu : ‖u‖ = 1) (hz : z ≠ 0) :
    halfAngle (u ^ 2 * z) = u * halfAngle z ∨ halfAngle (u ^ 2 * z) = -(u * halfAngle z) := by
  have hnorm : ‖u ^ 2 * z‖ = ‖z‖ := by rw [norm_mul, norm_pow, hu, one_pow, one_mul]
  have hpos : (‖z‖ : ℂ) ≠ 0 := ofReal_ne_zero.mpr (norm_ne_zero_iff.mpr hz)
  rw [← sq_eq_sq_iff_eq_or_eq_neg]
  apply mul_left_cancel₀ hpos
  calc (‖z‖ : ℂ) * halfAngle (u ^ 2 * z) ^ 2
      = u ^ 2 * z := by rw [← hnorm, halfAngle_sq]
    _ = u ^ 2 * (‖z‖ * halfAngle z ^ 2) := by rw [halfAngle_sq]
    _ = ‖z‖ * (u * halfAngle z) ^ 2 := by ring

end Numeric
