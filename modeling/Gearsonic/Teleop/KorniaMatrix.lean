import Gearsonic.Numeric.KinematicTree
import Gearsonic.Teleop.RotationVectors

/-!
# The matrix of a rotation vector

`rotmat_from_rotvec_kornia` divides the axis by `theta + 1e-6` and is linear up to 1e-3. Both
branches and the exact rotation are of one form: a unit axis `u`, a complex factor `a + ib` on the
plane across it and a real factor `k` along it. Two of that form are as close as their factors.

* `quatRotate_rotor`: the exact rotation is `around` with the cosine, the sine and one.
* `matApply_kornia_small`, `matApply_kornia_large`: the two branches.
* `kornia_near`: the matrix is off by at most 2e-6 of the length of what it rotates.
-/

namespace Gearsonic

namespace SmplFk

/-! ## Around an axis -/

@[simp] theorem cross_zero (u d : Vec3 ℝ) : cross u d 0 = u 1 * d 2 - u 2 * d 1 := rfl

@[simp] theorem cross_one (u d : Vec3 ℝ) : cross u d 1 = u 2 * d 0 - u 0 * d 2 := rfl

@[simp] theorem cross_two (u d : Vec3 ℝ) : cross u d 2 = u 0 * d 1 - u 1 * d 0 := rfl

/-- Across the axis the plane is turned and stretched by `a + ib`, along it the factor is `k`. -/
noncomputable def around (u : Vec3 ℝ) (a b k : ℝ) (d : Vec3 ℝ) : Vec3 ℝ :=
  fun i => a * (d i - dot u d * u i) + b * cross u d i + k * dot u d * u i

theorem around_sub (u : Vec3 ℝ) (a b k a' b' k' : ℝ) (d : Vec3 ℝ) :
    around u a b k d - around u a' b' k' d = around u (a - a') (b - b') (k - k') d := by
  funext i
  simp only [around, Pi.sub_apply]
  ring

theorem around_one (u d : Vec3 ℝ) : around u 1 0 1 d = d := by
  funext i
  simp only [around]
  ring

theorem dot_combination (a b k : ℝ) (w c u : Vec3 ℝ) :
    dot (fun i => a * w i + b * c i + k * u i) (fun i => a * w i + b * c i + k * u i) =
      a ^ 2 * dot w w + b ^ 2 * dot c c + k ^ 2 * dot u u +
        2 * (a * b * dot w c + a * k * dot w u + b * k * dot c u) := by
  simp only [dot]
  ring

/-- The part across the axis is as long as the cross product and orthogonal to it. -/
theorem across_axis {u : Vec3 ℝ} (hu : dot u u = 1) (d : Vec3 ℝ) :
    dot (fun i => d i - dot u d * u i) (fun i => d i - dot u d * u i) =
        dot (cross u d) (cross u d) ∧
      dot (fun i => d i - dot u d * u i) u = 0 ∧
      dot (fun i => d i - dot u d * u i) (cross u d) = 0 ∧ dot (cross u d) u = 0 := by
  simp only [dot, cross_zero, cross_one, cross_two] at hu ⊢
  refine ⟨?_, ?_, ?_, ?_⟩
  · linear_combination ((u 0 * d 0 + u 1 * d 1 + u 2 * d 2) ^ 2 -
      (d 0 * d 0 + d 1 * d 1 + d 2 * d 2)) * hu
  · linear_combination (-(u 0 * d 0 + u 1 * d 1 + u 2 * d 2)) * hu
  · ring
  · ring

theorem cross_normSq {u : Vec3 ℝ} (hu : dot u u = 1) (d : Vec3 ℝ) :
    dot (cross u d) (cross u d) + dot u d ^ 2 = dot d d := by
  simp only [dot, cross_zero, cross_one, cross_two] at hu ⊢
  linear_combination (d 0 * d 0 + d 1 * d 1 + d 2 * d 2) * hu

theorem around_normSq {u : Vec3 ℝ} (hu : dot u u = 1) (a b k : ℝ) (d : Vec3 ℝ) :
    dot (around u a b k d) (around u a b k d) =
      (a ^ 2 + b ^ 2) * dot (cross u d) (cross u d) + k ^ 2 * dot u d ^ 2 := by
  obtain ⟨hlength, haxis, hcross, horth⟩ := across_axis hu d
  have hexpand : dot (around u a b k d) (around u a b k d) = _ :=
    dot_combination a b (k * dot u d) (fun i => d i - dot u d * u i) (cross u d) u
  rw [hlength, haxis, hcross, horth, hu] at hexpand
  linear_combination hexpand

/-- The length is stretched by the larger of the two factors. -/
theorem vectorNorm_around_le {u : Vec3 ℝ} (hu : dot u u = 1) {a b k c : ℝ} (hc : 0 ≤ c)
    (hplane : a ^ 2 + b ^ 2 ≤ c ^ 2) (haxis : k ^ 2 ≤ c ^ 2) (d : Vec3 ℝ) :
    vectorNorm (around u a b k d) ≤ c * vectorNorm d := by
  have hcross : 0 ≤ dot (cross u d) (cross u d) := by
    rw [dot, ← vectorNorm_sq]
    exact sq_nonneg _
  apply vectorNorm_le (mul_nonneg hc (vectorNorm_nonneg d))
  calc dot (around u a b k d) (around u a b k d)
      = (a ^ 2 + b ^ 2) * dot (cross u d) (cross u d) + k ^ 2 * dot u d ^ 2 :=
        around_normSq hu a b k d
    _ ≤ c ^ 2 * dot (cross u d) (cross u d) + c ^ 2 * dot u d ^ 2 :=
        add_le_add (mul_le_mul_of_nonneg_right hplane hcross)
          (mul_le_mul_of_nonneg_right haxis (sq_nonneg _))
    _ = c ^ 2 * dot d d := by rw [← mul_add, cross_normSq hu]
    _ = (c * vectorNorm d) ^ 2 := by rw [mul_pow, vectorNorm_sq, dot]

/-- Two maps around one axis. -/
theorem vectorNorm_around_sub_le {u : Vec3 ℝ} (hu : dot u u = 1) {a b k a' b' k' c : ℝ}
    (hc : 0 ≤ c) (hplane : (a - a') ^ 2 + (b - b') ^ 2 ≤ c ^ 2) (haxis : (k - k') ^ 2 ≤ c ^ 2)
    (d : Vec3 ℝ) : vectorNorm (around u a b k d - around u a' b' k' d) ≤ c * vectorNorm d := by
  rw [around_sub]
  exact vectorNorm_around_le hu hc hplane haxis d

/-! ## The rotation and the two branches -/

theorem quatRotate_rotor (angle : ℝ) (u d : Vec3 ℝ) :
    quatRotate (rotor angle u) d = around u (Real.cos angle) (Real.sin angle) 1 d := by
  have hsq := Real.sin_sq_add_cos_sq (angle / 2)
  have hcos : Real.cos angle = 2 * Real.cos (angle / 2) ^ 2 - 1 := by
    rw [← Real.cos_two_mul]
    ring_nf
  have hsin : Real.sin angle = 2 * Real.sin (angle / 2) * Real.cos (angle / 2) := by
    rw [← Real.sin_two_mul]
    ring_nf
  funext i
  rw [around, hcos, hsin]
  fin_cases i
  · simp [quatRotate, rotor, dot]
    norm_num
    linear_combination (2 * u 0 * (u 0 * d 0 + u 1 * d 1 + u 2 * d 2)) * hsq
  · simp [quatRotate, rotor, dot]
    norm_num
    linear_combination (2 * u 1 * (u 0 * d 0 + u 1 * d 1 + u 2 * d 2)) * hsq
  · simp [quatRotate, rotor, dot]
    norm_num
    linear_combination (2 * u 2 * (u 0 * d 0 + u 1 * d 1 + u 2 * d 2)) * hsq

/-- Small rotations are linear. -/
theorem matApply_kornia_small {v : Vec3 ℝ} (h : vectorNorm v ^ 2 ≤ 1e-6)
    (hpos : 0 < vectorNorm v) (d : Vec3 ℝ) :
    matApply (rotmatFromRotvecKornia v) d = around (direction v) 1 (vectorNorm v) 1 d := by
  have hv : ∀ i, vectorNorm v * direction v i = v i := fun i => congrFun (smul_direction hpos) i
  rw [vectorNorm_sq] at h
  have hbranch : rotmatFromRotvecKornia v =
      ![![1.0, -v 2, v 1], ![v 2, 1.0, -v 0], ![-v 1, v 0, 1.0]] := if_pos h
  have hone : (1.0 : ℝ) = 1 := by norm_num
  rw [hbranch, hone]
  funext i
  rw [around]
  fin_cases i
  · simp [matApply]
    linear_combination d 1 * hv 2 - d 2 * hv 1
  · simp [matApply]
    linear_combination d 2 * hv 0 - d 0 * hv 2
  · simp [matApply]
    linear_combination d 0 * hv 1 - d 1 * hv 0

/-- The factor of the axis divided by `theta + eps`. -/
noncomputable def shortening (theta : ℝ) : ℝ := theta / (theta + 1e-6)

theorem matApply_kornia_large {v : Vec3 ℝ} (h : 1e-6 < vectorNorm v ^ 2) (d : Vec3 ℝ) :
    matApply (rotmatFromRotvecKornia v) d =
      around (direction v) (Real.cos (vectorNorm v))
        (Real.sin (vectorNorm v) * shortening (vectorNorm v))
        (Real.cos (vectorNorm v) +
          (1 - Real.cos (vectorNorm v)) * shortening (vectorNorm v) ^ 2) d := by
  have hpos : 0 < vectorNorm v := by
    rcases (vectorNorm_nonneg v).lt_or_eq with hlt | heq
    · exact hlt
    · rw [← heq] at h
      norm_num at h
  have hw : ∀ i, v i / (vectorNorm v + 1e-6) = shortening (vectorNorm v) * direction v i := by
    intro i
    have hv : vectorNorm v * direction v i = v i := congrFun (smul_direction hpos) i
    rw [shortening, div_mul_eq_mul_div, hv]
  rw [vectorNorm_sq] at h
  have htheta : √(max (v 0 * v 0 + v 1 * v 1 + v 2 * v 2) 1e-6) = vectorNorm v := by
    rw [max_eq_left h.le, vectorNorm]
  have hone : (1.0 : ℝ) = 1 := by norm_num
  unfold rotmatFromRotvecKornia
  rw [if_neg (not_le.mpr h)]
  simp only [cmath_sqrt, cmath_cos, cmath_sin, htheta, hw, hone]
  funext i
  rw [around]
  fin_cases i
  · simp [matApply, dot]
    ring
  · simp [matApply, dot]
    ring
  · simp [matApply, dot]
    ring

theorem kornia_zero (d : Vec3 ℝ) : matApply (rotmatFromRotvecKornia 0) d = d := by
  have hbranch : rotmatFromRotvecKornia (0 : Vec3 ℝ) =
      ![![1.0, -0, 0], ![0, 1.0, -0], ![-0, 0, 1.0]] := if_pos (by norm_num)
  rw [hbranch]
  funext i
  fin_cases i
  · show 1.0 * d 0 + -0 * d 1 + 0 * d 2 = d 0
    norm_num
  · show 0 * d 0 + 1.0 * d 1 + -0 * d 2 = d 1
    norm_num
  · show -0 * d 0 + 0 * d 1 + 1.0 * d 2 = d 2
    norm_num

/-! ## How close -/

theorem one_sub_cos_le {x : ℝ} (h : 0 ≤ x) : 1 - Real.cos x ≤ x := by
  have hquad := Real.one_sub_sq_div_two_le_cos (x := x)
  have hcos := Real.neg_one_le_cos x
  by_cases htwo : x ≤ 2
  · nlinarith
  · linarith

/-- Above the linear branch both factors are off by at most twice the shortening. -/
theorem kornia_large_near {theta : ℝ} (h : 0 < theta) :
    (Real.sin theta * shortening theta - Real.sin theta) ^ 2 ≤ 2e-6 ^ 2 ∧
      (Real.cos theta + (1 - Real.cos theta) * shortening theta ^ 2 - 1) ^ 2 ≤ 2e-6 ^ 2 := by
  have hshort : 1 - shortening theta = 1e-6 / (theta + 1e-6) := by
    unfold shortening
    field_simp
    ring
  have hquot : theta * (1 - shortening theta) ≤ 1e-6 := by
    rw [hshort, mul_div_assoc', div_le_iff₀ (by linarith)]
    nlinarith
  have hle : 0 ≤ 1 - shortening theta := by
    rw [hshort]
    positivity
  have hge : 0 ≤ shortening theta := by
    unfold shortening
    positivity
  have hsin : |Real.sin theta| ≤ theta := by
    have habs := Real.abs_sin_le_abs (x := theta)
    rwa [abs_of_pos h] at habs
  have hcos : 1 - Real.cos theta ≤ theta := one_sub_cos_le h.le
  have hcos0 : 0 ≤ 1 - Real.cos theta := sub_nonneg.mpr (Real.cos_le_one theta)
  constructor
  · have habs : |Real.sin theta * shortening theta - Real.sin theta| ≤ 2e-6 := by
      calc |Real.sin theta * shortening theta - Real.sin theta|
          = |Real.sin theta| * (1 - shortening theta) := by
            rw [← mul_sub_one, abs_mul, abs_sub_comm, abs_of_nonneg hle]
        _ ≤ theta * (1 - shortening theta) := mul_le_mul_of_nonneg_right hsin hle
        _ ≤ 2e-6 := hquot.trans (by norm_num)
    exact sq_le_sq' (abs_le.mp habs).1 (abs_le.mp habs).2
  · have habs : |Real.cos theta + (1 - Real.cos theta) * shortening theta ^ 2 - 1| ≤ 2e-6 := by
      have hfactor : Real.cos theta + (1 - Real.cos theta) * shortening theta ^ 2 - 1 =
          -((1 - Real.cos theta) * (1 - shortening theta) * (1 + shortening theta)) := by ring
      have hproduct : (1 - Real.cos theta) * (1 - shortening theta) ≤ 1e-6 :=
        (mul_le_mul_of_nonneg_right hcos hle).trans hquot
      rw [hfactor, abs_neg, abs_of_nonneg (by positivity)]
      calc (1 - Real.cos theta) * (1 - shortening theta) * (1 + shortening theta)
          ≤ 1e-6 * 2 :=
            mul_le_mul hproduct (by linarith) (by linarith) (by norm_num)
        _ = 2e-6 := by norm_num
    exact sq_le_sq' (abs_le.mp habs).1 (abs_le.mp habs).2

/-- In the linear branch the cosine and the sine are close to one and to the angle. -/
theorem kornia_small_near {theta : ℝ} (h : 0 < theta) (hsmall : theta ^ 2 ≤ 1e-6) :
    (1 - Real.cos theta) ^ 2 + (theta - Real.sin theta) ^ 2 ≤ 2e-6 ^ 2 := by
  have hle : theta ≤ 1e-3 := by
    apply (sq_le_sq₀ h.le (by norm_num)).mp
    norm_num at hsmall ⊢
    exact hsmall
  have hcos : 1 - Real.cos theta ≤ 5e-7 := by
    have hquad := Real.one_sub_sq_div_two_le_cos (x := theta)
    norm_num at hsmall ⊢
    linarith
  have hcos0 : 0 ≤ 1 - Real.cos theta := sub_nonneg.mpr (Real.cos_le_one theta)
  have hsin0 : 0 ≤ theta - Real.sin theta := sub_nonneg.mpr (Real.sin_le h.le)
  have hsin : theta - Real.sin theta ≤ 1e-6 := by
    have hcube := Real.sin_gt_sub_cube h
    have hthird : theta ^ 3 ≤ 1e-6 * 1e-3 := by
      rw [pow_succ]
      exact mul_le_mul hsmall hle h.le (by norm_num)
    norm_num at hthird ⊢
    linarith
  have hfirst := pow_le_pow_left₀ hcos0 hcos 2
  have hsecond := pow_le_pow_left₀ hsin0 hsin 2
  refine (add_le_add hfirst hsecond).trans ?_
  norm_num

theorem quatRotate_one (d : Vec3 ℝ) : quatRotate ![1, 0, 0, 0] d = d := by
  apply vectorOf_injective
  have hone : quaternionOf ![1, 0, 0, 0] = 1 := rfl
  rw [vectorOf_quatRotate unitQuat_one, hone, star_one, one_mul, mul_one]

theorem eq_zero_of_vectorNorm {v : Vec3 ℝ} (h : vectorNorm v = 0) : v = 0 := by
  apply vectorOf_injective
  rw [vectorNorm_eq, norm_eq_zero] at h
  rw [h]
  ext <;> rfl

/-- The matrix against the exact rotation. -/
theorem kornia_near (v d : Vec3 ℝ) :
    vectorNorm (matApply (rotmatFromRotvecKornia v) d - quatRotate (quatFromRotvec v) d) ≤
      2e-6 * vectorNorm d := by
  have hbound : (0 : ℝ) ≤ 2e-6 := by norm_num
  rcases (vectorNorm_nonneg v).lt_or_eq with hpos | hzero
  · have hu : dot (direction v) (direction v) = 1 := direction_unit hpos
    by_cases hsmall : vectorNorm v ^ 2 ≤ 1e-6
    · rw [matApply_kornia_small hsmall hpos]
      by_cases hlong : 1e-12 ≤ vectorNorm v
      · rw [quatFromRotvec_eq hlong, quatRotate_rotor]
        apply vectorNorm_around_sub_le hu hbound (kornia_small_near hpos hsmall)
        norm_num
      · rw [not_le] at hlong
        have hplane : ((1 : ℝ) - 1) ^ 2 + (vectorNorm v - 0) ^ 2 ≤ 2e-6 ^ 2 := by
          norm_num at hlong ⊢
          nlinarith
        rw [quatFromRotvec_small hlong, quatRotate_one]
        have hnear : vectorNorm (around (direction v) 1 (vectorNorm v) 1 d -
            around (direction v) 1 0 1 d) ≤ 2e-6 * vectorNorm d :=
          vectorNorm_around_sub_le hu hbound hplane (by norm_num) d
        rwa [around_one] at hnear
    · have hlarge : 1e-6 < vectorNorm v ^ 2 := not_le.mp hsmall
      have hlong : 1e-12 ≤ vectorNorm v := by
        apply le_of_lt
        apply (sq_lt_sq₀ (by norm_num) (vectorNorm_nonneg v)).mp
        exact lt_of_le_of_lt (by norm_num) hlarge
      obtain ⟨hplane, haxis⟩ := kornia_large_near hpos
      rw [matApply_kornia_large hlarge, quatFromRotvec_eq hlong, quatRotate_rotor]
      apply vectorNorm_around_sub_le hu hbound _ haxis
      rwa [sub_self, zero_pow two_ne_zero, zero_add]
  · rw [eq_zero_of_vectorNorm hzero.symm, kornia_zero, quatFromRotvec_zero, quatRotate_one, sub_self]
    exact mul_nonneg hbound (vectorNorm_nonneg d) |>.trans' lengthSeminorm.map_zero'.le

end SmplFk

end Gearsonic
