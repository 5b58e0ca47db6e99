import Gearsonic.Common.MathUtils
import Gearsonic.Numeric.FloatVal
import Mathlib.Analysis.SpecialFunctions.Trigonometric.Inverse
import Mathlib.Analysis.SpecialFunctions.Complex.Arg

/-!
# The C math library over the reals and over floats

Over the reals, the functions themselves: `atan2 y x` is the argument of `x + iy`. Over floats
that may be an infinity or NaN, what the resampler calls from `math_utils.hpp`.

* `quatSlerp_finite`: on finite quaternions the interpolation is the one over the reals, which
  never divides by zero.
* `isFinite_quatSlerp`: a component that is not finite reaches the result, whichever branch is
  taken.
-/

set_option linter.unusedSectionVars false

namespace Gearsonic

open Numeric

noncomputable instance : CMath ℝ where
  sqrt := Real.sqrt
  cos := Real.cos
  sin := Real.sin
  acos := Real.arccos
  atan2 y x := Complex.arg ⟨x, y⟩
  hypot x y := Real.sqrt (x ^ 2 + y ^ 2)
  floor := Int.floor

@[simp] theorem cmath_sqrt (x : ℝ) : CMath.sqrt x = √x := rfl

@[simp] theorem cmath_cos (x : ℝ) : CMath.cos x = Real.cos x := rfl

@[simp] theorem cmath_sin (x : ℝ) : CMath.sin x = Real.sin x := rfl

@[simp] theorem cmath_acos (x : ℝ) : CMath.acos x = Real.arccos x := rfl

@[simp] theorem cmath_hypot (x y : ℝ) : CMath.hypot x y = Real.sqrt (x ^ 2 + y ^ 2) := rfl

namespace FloatMath

variable {K : Type} [Field K] [LinearOrder K] [CMath K]

def sqrt : FloatVal K → FloatVal K
  | .finite x => if x < 0 then .nan else .finite (CMath.sqrt x)
  | .inf false => .inf false
  | _ => .nan

def acos : FloatVal K → FloatVal K
  | .finite x => if x < -1 ∨ 1 < x then .nan else .finite (CMath.acos x)
  | _ => .nan

def cos : FloatVal K → FloatVal K
  | .finite x => .finite (CMath.cos x)
  | _ => .nan

def sin : FloatVal K → FloatVal K
  | .finite x => .finite (CMath.sin x)
  | _ => .nan

def quatUnit (q : Quat (FloatVal K)) : Quat (FloatVal K) :=
  let norm := .max (sqrt (q 0 * q 0 + q 1 * q 1 + q 2 * q 2 + q 3 * q 3)) (.finite 1e-12)
  fun i => q i / norm

/-- SLERP; nearly equal quaternions are interpolated linearly. -/
def quatSlerp (a b : Quat (FloatVal K)) (t : FloatVal K) : Quat (FloatVal K) :=
  let dot := a 0 * b 0 + a 1 * b 1 + a 2 * b 2 + a 3 * b 3
  let bb : Quat (FloatVal K) := if dot < 0 then fun i => -b i else b
  let dot := if dot < 0 then -dot else dot
  if .finite 0.9995 < dot then quatUnit fun i => a i + t * (bb i - a i)
  else
    let theta0 := acos dot
    let theta := theta0 * t
    let sinT0 := sin theta0
    let s0 := cos theta - dot * sin theta / sinT0
    let s1 := sin theta / sinT0
    fun i => s0 * a i + s1 * bb i

/-! ## What is not finite -/

variable {x : FloatVal K}

theorem sqrt_of_not_finite (h : x.isFinite = false) : sqrt x = .inf false ∨ sqrt x = .nan := by
  cases x with
  | finite x => cases h
  | inf neg =>
    cases neg with
    | false => exact Or.inl rfl
    | true => exact Or.inr rfl
  | nan => exact Or.inr rfl

theorem acos_of_not_finite (h : x.isFinite = false) : acos x = .nan := by
  cases x with
  | finite x => cases h
  | _ => rfl

theorem isFinite_cos_sin (x : FloatVal K) :
    (cos x).isFinite = x.isFinite ∧ (sin x).isFinite = x.isFinite := by
  cases x <;> exact ⟨rfl, rfl⟩

/-- The norm is an infinity or NaN as well, and so the quotient is NaN. -/
theorem isFinite_quatUnit {q : Quat (FloatVal K)} {i : Fin 4} (h : (q i).isFinite = false) :
    (quatUnit q i).isFinite = false := by
  have hsum : (q 0 * q 0 + q 1 * q 1 + q 2 * q 2 + q 3 * q 3).isFinite = false := by
    simp only [FloatVal.isFinite_add, FloatVal.isFinite_mul, Bool.and_self]
    fin_cases i <;> simp_all
  have hnorm : (FloatVal.max (sqrt (q 0 * q 0 + q 1 * q 1 + q 2 * q 2 + q 3 * q 3))
      (.finite 1e-12)).isFinite = false := by
    rcases sqrt_of_not_finite hsum with hinf | hnan
    · rw [hinf]
      rfl
    · rw [hnan]
      rfl
  exact FloatVal.isFinite_div_of_right h hnorm

/-- What is not finite in one of the quaternions reaches the interpolated one. -/
theorem isFinite_quatSlerp {a b : Quat (FloatVal K)} (t : FloatVal K) {i : Fin 4}
    (h : (a i).isFinite = false ∨ (b i).isFinite = false) :
    ∃ j, (quatSlerp a b t j).isFinite = false := by
  have hdot : (a 0 * b 0 + a 1 * b 1 + a 2 * b 2 + a 3 * b 3).isFinite = false := by
    simp only [FloatVal.isFinite_add, FloatVal.isFinite_mul]
    fin_cases i <;> rcases h with h | h <;> simp_all
  unfold quatSlerp
  generalize a 0 * b 0 + a 1 * b 1 + a 2 * b 2 + a 3 * b 3 = dot at hdot
  have hbb : ∀ j, ((if dot < 0 then fun i => -b i else b : Quat (FloatVal K)) j).isFinite =
      (b j).isFinite := by
    intro j
    split
    · exact FloatVal.isFinite_neg (b j)
    · rfl
  have habs : (if dot < 0 then -dot else dot).isFinite = false := by
    split
    · rw [FloatVal.isFinite_neg]
      exact hdot
    · exact hdot
  dsimp only
  generalize (if dot < 0 then fun i => -b i else b : Quat (FloatVal K)) = bb at hbb
  generalize (if dot < 0 then -dot else dot) = dot' at habs
  split
  · -- the component itself
    refine ⟨i, isFinite_quatUnit ?_⟩
    rw [FloatVal.isFinite_add, FloatVal.isFinite_mul, FloatVal.isFinite_sub, hbb]
    rcases h with h | h <;> simp [h]
  · -- the angle is NaN, and with it every component
    refine ⟨0, ?_⟩
    have htheta : (acos dot' * t).isFinite = false := by
      rw [acos_of_not_finite habs, FloatVal.isFinite_mul]
      rfl
    have hcos : (cos (acos dot' * t)).isFinite = false :=
      (isFinite_cos_sin _).1.trans htheta
    simp only [FloatVal.isFinite_add, FloatVal.isFinite_sub, FloatVal.isFinite_mul, hcos,
      Bool.false_and]

/-! ## Finite quaternions -/

theorem sum_squares_nonneg (q : Quat ℝ) :
    ¬ q 0 * q 0 + q 1 * q 1 + q 2 * q 2 + q 3 * q 3 < 0 := by
  have hsq : ∀ i, 0 ≤ q i * q i := fun i => mul_self_nonneg (q i)
  linarith [hsq 0, hsq 1, hsq 2, hsq 3]

/-- The bound on the norm keeps it off zero. -/
theorem max_bound_ne_zero (x : ℝ) : max x (1e-12 : ℝ) ≠ 0 := by
  have hpos : (0 : ℝ) < 1e-12 := by norm_num
  exact (lt_max_of_lt_right hpos).ne'

/-- The absolute value of the scalar product, as the source takes it. -/
theorem flipped_nonneg (dot : ℝ) : 0 ≤ if dot < 0 then -dot else dot := by
  split
  · linarith
  · linarith

/-- Two quaternions that are not nearly equal have an angle. -/
theorem acos_domain {x : ℝ} (h0 : 0 ≤ x) (h1 : x ≤ 0.9995) : ¬ (x < -1 ∨ 1 < x) := by
  rintro (hlow | hhigh)
  · linarith
  · norm_num at h1
    linarith

theorem quatUnit_finite (q : Quat ℝ) :
    quatUnit (fun i => .finite (q i)) = fun i => .finite (Gearsonic.quatUnit q i) := by
  funext i
  simp only [quatUnit, Gearsonic.quatUnit, sqrt, if_neg (sum_squares_nonneg q),
    FloatVal.finite_max]
  exact FloatVal.finite_div _ (max_bound_ne_zero _)

/-- The angle between two quaternions that are not nearly equal has a sine. -/
theorem sin_acos_ne_zero {x : ℝ} (h0 : 0 ≤ x) (h1 : x ≤ 0.9995) :
    Real.sin (Real.arccos x) ≠ 0 := by
  rw [Real.sin_arccos, Real.sqrt_ne_zero']
  nlinarith

theorem quatSlerp_finite (a b : Quat ℝ) (t : ℝ) :
    quatSlerp (fun i => .finite (a i)) (fun i => .finite (b i)) (.finite t) =
      fun i => .finite (Gearsonic.quatSlerp a b t i) := by
  unfold quatSlerp Gearsonic.quatSlerp
  simp only [FloatVal.finite_mul, FloatVal.finite_add, FloatVal.zero_def, FloatVal.finite_lt]
  generalize a 0 * b 0 + a 1 * b 1 + a 2 * b 2 + a 3 * b 3 = dot
  have hbb : (if dot < 0 then fun i => -FloatVal.finite (b i) else fun i => .finite (b i)) =
      fun i => FloatVal.finite ((if dot < 0 then fun i => -b i else b) i) := by
    split <;> rfl
  have habs : (if dot < 0 then -FloatVal.finite dot else .finite dot) =
      FloatVal.finite (if dot < 0 then -dot else dot) := by
    split <;> rfl
  have hnonneg := flipped_nonneg dot
  rw [hbb, habs]
  generalize (if dot < 0 then fun i => -b i else b) = bb
  generalize (if dot < 0 then -dot else dot) = dot' at hnonneg
  simp only [FloatVal.finite_lt]
  split
  · simp only [FloatVal.finite_sub, FloatVal.finite_mul, FloatVal.finite_add]
    exact quatUnit_finite _
  · rename_i hfar
    have hle : dot' ≤ 0.9995 := not_lt.mp hfar
    have hdomain := acos_domain hnonneg hle
    have hsin : CMath.sin (CMath.acos dot') ≠ 0 := sin_acos_ne_zero hnonneg hle
    simp only [acos, if_neg hdomain, sin, cos, FloatVal.finite_mul, FloatVal.finite_div _ hsin,
      FloatVal.finite_sub, FloatVal.finite_add]

/-- The interpolated quaternion is finite exactly if both quaternions are. -/
theorem isFinite_quatSlerp_iff (a b : Quat (FloatVal ℝ)) (t : ℝ) :
    (∀ i, (quatSlerp a b (.finite t) i).isFinite = true) ↔
      (∀ i, (a i).isFinite = true) ∧ ∀ i, (b i).isFinite = true := by
  constructor
  · intro hall
    have hboth : ∀ i, (a i).isFinite = true ∧ (b i).isFinite = true := by
      intro i
      by_contra hno
      have hsome : (a i).isFinite = false ∨ (b i).isFinite = false := by
        rwa [not_and_or, Bool.not_eq_true, Bool.not_eq_true] at hno
      obtain ⟨j, hj⟩ := isFinite_quatSlerp (.finite t) hsome
      exact Bool.noConfusion (hj.symm.trans (hall j))
    exact ⟨fun i => (hboth i).1, fun i => (hboth i).2⟩
  · rintro ⟨ha, hb⟩ i
    choose a' ha' using fun i => FloatVal.isFinite_iff.mp (ha i)
    choose b' hb' using fun i => FloatVal.isFinite_iff.mp (hb i)
    rw [funext ha', funext hb', quatSlerp_finite]
    rfl

end FloatMath

end Gearsonic
