import Gearsonic.Common.FloatMath
import Gearsonic.Common.QuaternionAlgebra
import Mathlib.Tactic.FieldSimp

/-!
# The laws of the interpolation

`quat_slerp` between unit quaternions, over exact reals. `quatSlerpChecked` is the source with each
square root, arc cosine and division checked: it is `none` where one of them leaves its domain.

* `quatSlerpChecked_eq`: none of them does.
* `unitQuat_quatSlerp`: the result is a unit quaternion, in both branches.
* `quatSlerp_neg_right`: the second quaternion counts up to its sign.
-/

namespace Gearsonic

/-! ## Checked operations -/

section

variable {K : Type} [Field K] [LinearOrder K] [CMath K]

def sqrtChecked (x : K) : Option K := if x < 0 then none else some (CMath.sqrt x)

def acosChecked (x : K) : Option K := if x < -1 ∨ 1 < x then none else some (CMath.acos x)

def divChecked (x y : K) : Option K := if y = 0 then none else some (x / y)

/-- `quat_unit`, checked. -/
def quatUnitChecked (q : Quat K) : Option (Quat K) := do
  let root ← sqrtChecked (q 0 * q 0 + q 1 * q 1 + q 2 * q 2 + q 3 * q 3)
  let norm := max root 1e-12
  let w ← divChecked (q 0) norm
  let x ← divChecked (q 1) norm
  let y ← divChecked (q 2) norm
  let z ← divChecked (q 3) norm
  some ![w, x, y, z]

/-- `quat_slerp`, checked. -/
def quatSlerpChecked (a b : Quat K) (t : K) : Option (Quat K) := do
  let dot := a 0 * b 0 + a 1 * b 1 + a 2 * b 2 + a 3 * b 3
  let bb : Quat K := if dot < 0 then fun i => -b i else b
  let dot := if dot < 0 then -dot else dot
  if 0.9995 < dot then quatUnitChecked fun i => a i + t * (bb i - a i)
  else
    let theta0 ← acosChecked dot
    let theta := theta0 * t
    let sinT0 := CMath.sin theta0
    let past ← divChecked (dot * CMath.sin theta) sinT0
    let s0 := CMath.cos theta - past
    let s1 ← divChecked (CMath.sin theta) sinT0
    some fun i => s0 * a i + s1 * bb i

end

theorem quatUnitChecked_eq (q : Quat ℝ) : quatUnitChecked q = some (quatUnit q) := by
  unfold quatUnitChecked sqrtChecked divChecked
  rw [if_neg (FloatMath.sum_squares_nonneg q)]
  simp only [Option.bind_eq_bind, Option.bind_some, if_neg (FloatMath.max_bound_ne_zero _)]
  congr 1
  funext i
  fin_cases i <;> rfl

theorem quatSlerpChecked_eq (a b : Quat ℝ) (t : ℝ) :
    quatSlerpChecked a b t = some (quatSlerp a b t) := by
  unfold quatSlerpChecked quatSlerp
  dsimp only
  have hnonneg := FloatMath.flipped_nonneg (a 0 * b 0 + a 1 * b 1 + a 2 * b 2 + a 3 * b 3)
  generalize (if a 0 * b 0 + a 1 * b 1 + a 2 * b 2 + a 3 * b 3 < 0 then fun i => -b i else b) = bb
  generalize (if a 0 * b 0 + a 1 * b 1 + a 2 * b 2 + a 3 * b 3 < 0 then
    -(a 0 * b 0 + a 1 * b 1 + a 2 * b 2 + a 3 * b 3)
    else a 0 * b 0 + a 1 * b 1 + a 2 * b 2 + a 3 * b 3) = dot at hnonneg
  by_cases hnear : 0.9995 < dot
  · rw [if_pos hnear, if_pos hnear]
    exact quatUnitChecked_eq _
  · have hle : dot ≤ 0.9995 := not_lt.mp hnear
    have hdomain := FloatMath.acos_domain hnonneg hle
    have hsin : CMath.sin (CMath.acos dot) ≠ 0 := FloatMath.sin_acos_ne_zero hnonneg hle
    rw [if_neg hnear, if_neg hnear, acosChecked, if_neg hdomain]
    simp only [divChecked, Option.bind_eq_bind, Option.bind_some, if_neg hsin]

/-! ## Unit length -/

/-- The scalar product. -/
def quatDot (a b : Quat ℝ) : ℝ := a 0 * b 0 + a 1 * b 1 + a 2 * b 2 + a 3 * b 3

theorem unitQuat_iff_dot {q : Quat ℝ} : UnitQuat q ↔ quatDot q q = 1 := Iff.rfl

theorem quatDot_neg_right (a b : Quat ℝ) : quatDot a (-b) = -quatDot a b := by
  simp only [quatDot, Pi.neg_apply]
  ring

/-- The squared length of a combination of unit quaternions. -/
theorem quatDot_combination {a b : Quat ℝ} (ha : UnitQuat a) (hb : UnitQuat b) (x y : ℝ) :
    quatDot (fun i => x * a i + y * b i) (fun i => x * a i + y * b i) =
      x ^ 2 + y ^ 2 + 2 * x * y * quatDot a b := by
  rw [unitQuat_iff_dot] at ha hb
  unfold quatDot at *
  linear_combination x ^ 2 * ha + y ^ 2 * hb

/-- What is not nearly zero is normalized. -/
theorem unitQuat_quatUnit {q : Quat ℝ} (h : 1e-24 ≤ quatDot q q) : UnitQuat (quatUnit q) := by
  apply unitQuat_quatUnit_of_norm
  apply Real.le_sqrt_of_sq_le
  unfold quatDot at h
  norm_num at h ⊢
  exact h

/-- The weights of the interpolation on the circle through both quaternions. -/
theorem weights_unit {C S c s : ℝ} (hS : S ≠ 0) (hcircle : S ^ 2 + C ^ 2 = 1)
    (hangle : s ^ 2 + c ^ 2 = 1) :
    (c - C * s / S) ^ 2 + (s / S) ^ 2 + 2 * (c - C * s / S) * (s / S) * C = 1 := by
  field_simp
  linear_combination S ^ 2 * hangle - s ^ 2 * hcircle

/-- `quat_slerp` behind its sign flip. -/
noncomputable def slerpToward (a bb : Quat ℝ) (dot t : ℝ) : Quat ℝ :=
  if 0.9995 < dot then quatUnit fun i => a i + t * (bb i - a i)
  else fun i =>
    (Real.cos (Real.arccos dot * t) -
        dot * Real.sin (Real.arccos dot * t) / Real.sin (Real.arccos dot)) * a i +
      Real.sin (Real.arccos dot * t) / Real.sin (Real.arccos dot) * bb i

theorem quatSlerp_eq (a b : Quat ℝ) (t : ℝ) :
    quatSlerp a b t = slerpToward a (if quatDot a b < 0 then -b else b)
      (if quatDot a b < 0 then -quatDot a b else quatDot a b) t := rfl

theorem quatSlerp_of_nonneg {a b : Quat ℝ} (h : 0 ≤ quatDot a b) (t : ℝ) :
    quatSlerp a b t = slerpToward a b (quatDot a b) t := by
  rw [quatSlerp_eq, if_neg (not_lt.mpr h), if_neg (not_lt.mpr h)]

theorem quatSlerp_of_neg {a b : Quat ℝ} (h : quatDot a b < 0) (t : ℝ) :
    quatSlerp a b t = slerpToward a (-b) (quatDot a (-b)) t := by
  rw [quatSlerp_eq, if_pos h, if_pos h, quatDot_neg_right]

theorem unitQuat_slerpToward {a b : Quat ℝ} (ha : UnitQuat a) (hb : UnitQuat b)
    (hdot : 0 ≤ quatDot a b) {t : ℝ} (h0 : 0 ≤ t) (h1 : t ≤ 1) :
    UnitQuat (slerpToward a b (quatDot a b) t) := by
  unfold slerpToward
  by_cases hnear : 0.9995 < quatDot a b
  · rw [if_pos hnear]
    have hline : (fun i => a i + t * (b i - a i)) = fun i => (1 - t) * a i + t * b i := by
      funext i
      ring
    apply unitQuat_quatUnit
    rw [hline, quatDot_combination ha hb]
    have hweights : 0 ≤ 2 * (1 - t) * t * quatDot a b :=
      mul_nonneg (mul_nonneg (by linarith) h0) hdot
    nlinarith [sq_nonneg (1 - 2 * t)]
  · rw [if_neg hnear, unitQuat_iff_dot, quatDot_combination ha hb]
    have hle : quatDot a b ≤ 0.9995 := not_lt.mp hnear
    have hcos : Real.cos (Real.arccos (quatDot a b)) = quatDot a b := by
      norm_num at hle
      exact Real.cos_arccos (by linarith) (by linarith)
    have hcircle := Real.sin_sq_add_cos_sq (Real.arccos (quatDot a b))
    rw [hcos] at hcircle
    exact weights_unit (FloatMath.sin_acos_ne_zero hdot hle) hcircle (Real.sin_sq_add_cos_sq _)

theorem unitQuat_quatSlerp {a b : Quat ℝ} (ha : UnitQuat a) (hb : UnitQuat b) {t : ℝ}
    (h0 : 0 ≤ t) (h1 : t ≤ 1) : UnitQuat (quatSlerp a b t) := by
  rcases lt_or_ge (quatDot a b) 0 with hneg | hpos
  · have hflip : 0 ≤ quatDot a (-b) := by
      rw [quatDot_neg_right]
      exact neg_nonneg.mpr hneg.le
    rw [quatSlerp_of_neg hneg]
    exact unitQuat_slerpToward ha hb.neg hflip h0 h1
  · rw [quatSlerp_of_nonneg hpos]
    exact unitQuat_slerpToward ha hb hpos h0 h1

/-! ## The sign of the second quaternion -/

theorem quatSlerp_flip {a b : Quat ℝ} (h : quatDot a b < 0) (t : ℝ) :
    quatSlerp a (-b) t = quatSlerp a b t := by
  have hflip : 0 ≤ quatDot a (-b) := by
    rw [quatDot_neg_right]
    exact neg_nonneg.mpr h.le
  rw [quatSlerp_of_neg h, quatSlerp_of_nonneg hflip]

/-- Unless the quaternions are orthogonal, the second one counts up to its sign. -/
theorem quatSlerp_neg_right {a b : Quat ℝ} (h : quatDot a b ≠ 0) (t : ℝ) :
    quatSlerp a (-b) t = quatSlerp a b t := by
  rcases lt_or_gt_of_ne h with hneg | hpos
  · exact quatSlerp_flip hneg t
  · have hflip : quatDot a (-b) < 0 := by
      rw [quatDot_neg_right]
      exact neg_neg_iff_pos.mpr hpos
    have hback := quatSlerp_flip hflip t
    rwa [neg_neg, eq_comm] at hback

/-- **The laws of the interpolation.** Between unit quaternions it leaves no domain, stays a unit
quaternion, starts at the first one and ends at the second one or its negative, and does not
depend on the sign of the second one unless they are orthogonal. -/
theorem slerp_laws {a b : Quat ℝ} (ha : UnitQuat a) (hb : UnitQuat b) {t : ℝ} (h0 : 0 ≤ t)
    (h1 : t ≤ 1) :
    quatSlerpChecked a b t = some (quatSlerp a b t) ∧ UnitQuat (quatSlerp a b t) ∧
      quatSlerp a b 0 = a ∧ (quatSlerp a b 1 = b ∨ quatSlerp a b 1 = -b) ∧
      (quatDot a b ≠ 0 → quatSlerp a (-b) t = quatSlerp a b t) := by
  refine ⟨quatSlerpChecked_eq a b t, unitQuat_quatSlerp ha hb h0 h1, (quatSlerp_zero a b).unit ha,
    ?_, fun hne => quatSlerp_neg_right hne t⟩
  rcases quatSlerp_one a b with hend | hend
  · exact Or.inl (hend.unit hb)
  · exact Or.inr (hend.unit hb.neg)

/-- Halfway between two orthogonal quaternions. -/
theorem slerp_laws_half : UnitQuat (quatSlerp ![1, 0, 0, 0] ![0, 1, 0, 0] (1 / 2)) := by
  have ha : UnitQuat ![1, 0, 0, 0] := by simp [UnitQuat]
  have hb : UnitQuat ![0, 1, 0, 0] := by simp [UnitQuat]
  exact (slerp_laws ha hb (by norm_num) (by norm_num)).2.1

end Gearsonic
