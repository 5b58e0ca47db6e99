import Gearsonic.Common.Quaternions
import Gearsonic.Control.TokenEncoder
import Gearsonic.Numeric.HalfAngle

/-!
# What the anchor orientations depend on

A yaw quaternion is a unit complex number, and the heading of a quaternion is the half angle
of its forward axis seen from above. A world yaw on the left turns the heading by as much, up
to a sign, and the matrix does not see the sign. The anchor orientations are therefore a
function of the heading of the base relative to the one it was aligned at.
-/

namespace Gearsonic

open Complex ComplexConjugate Numeric

/-! ## Yaw quaternions -/

def yawQuat (u : ℂ) : Quat ℝ := ![u.re, 0, 0, u.im]

@[simp] theorem yawQuat_zero (u : ℂ) : yawQuat u 0 = u.re := rfl

@[simp] theorem yawQuat_one (u : ℂ) : yawQuat u 1 = 0 := rfl

@[simp] theorem yawQuat_two (u : ℂ) : yawQuat u 2 = 0 := rfl

@[simp] theorem yawQuat_three (u : ℂ) : yawQuat u 3 = u.im := rfl

theorem quatMul_yawQuat (u v : ℂ) : quatMul (yawQuat u) (yawQuat v) = yawQuat (u * v) := by
  apply quaternionOf_injective
  rw [quaternionOf_quatMul]
  ext <;> simp

theorem quatConjugate_yawQuat (u : ℂ) : quatConjugate (yawQuat u) = yawQuat (conj u) := by
  apply quaternionOf_injective
  rw [quaternionOf_quatConjugate]
  ext <;> simp

theorem yawQuat_neg (u : ℂ) : yawQuat (-u) = -yawQuat u := by
  funext i
  fin_cases i <;> simp [yawQuat]

theorem quatMul_neg_left (a b : Quat ℝ) : quatMul (-a) b = -quatMul a b := by
  funext i
  fin_cases i <;> simp [quatMul] <;> ring

theorem quatMul_neg_right (a b : Quat ℝ) : quatMul a (-b) = -quatMul a b := by
  funext i
  fin_cases i <;> simp [quatMul] <;> ring

theorem unitQuat_yawQuat {u : ℂ} (hu : ‖u‖ = 1) : UnitQuat (yawQuat u) := by
  have hsq : u.re * u.re + u.im * u.im = 1 := by
    rw [← normSq_apply, normSq_eq_norm_sq, hu, one_pow]
  simpa [UnitQuat, yawQuat] using hsq

/-- A unit rotation about the vertical. -/
structure WorldYaw (r : Quat ℝ) : Prop where
  unit : UnitQuat r
  upright : r 1 = 0 ∧ r 2 = 0

theorem WorldYaw.eq_yawQuat {r : Quat ℝ} (h : WorldYaw r) : ∃ u : ℂ, ‖u‖ = 1 ∧ r = yawQuat u := by
  have hunit := h.unit
  unfold UnitQuat at hunit
  rw [h.upright.1, h.upright.2] at hunit
  refine ⟨⟨r 0, r 3⟩, ?_, ?_⟩
  · rw [← sq_eq_sq₀ (norm_nonneg _) zero_le_one, ← normSq_eq_norm_sq, normSq_mk]
    linear_combination hunit
  · funext i
    fin_cases i
    · rfl
    · exact h.upright.1
    · exact h.upright.2
    · rfl

/-! ## Headings -/

/-- The forward axis seen from above. -/
noncomputable def headingDir (q : Quat ℝ) : ℂ :=
  ⟨quatRotate q ![1, 0, 0] 0, quatRotate q ![1, 0, 0] 1⟩

theorem calcHeading_eq (q : Quat ℝ) : calcHeading q = arg (headingDir q) := rfl

theorem quatFromAngleAxis_vertical (angle : ℝ) :
    quatFromAngleAxis angle ![0, 0, 1] = yawQuat (halfTurn angle) := by
  rw [quatFromAngleAxis_eq angle (by simp)]
  funext i
  fin_cases i
  · exact (exp_ofReal_mul_I_re _).symm
  · exact zero_mul _
  · exact zero_mul _
  · exact (one_mul _).trans (exp_ofReal_mul_I_im _).symm

theorem calcHeadingQuat_eq (q : Quat ℝ) : calcHeadingQuat q = yawQuat (halfAngle (headingDir q)) :=
  quatFromAngleAxis_vertical (calcHeading q)

theorem calcHeadingQuatInv_eq (q : Quat ℝ) :
    calcHeadingQuatInv q = yawQuat (conj (halfAngle (headingDir q))) := by
  have hconj : conj (halfAngle (headingDir q)) = halfTurn (-calcHeading q) := by
    rw [halfAngle, halfTurn, halfTurn, ← exp_conj, map_mul, conj_ofReal, conj_I, calcHeading_eq]
    push_cast
    ring_nf
  rw [hconj]
  exact quatFromAngleAxis_vertical (-calcHeading q)

theorem headingDir_re (q : Quat ℝ) :
    (headingDir q).re = 2 * q 0 * q 0 - 1 + 2 * q 1 * q 1 := by
  simp [headingDir, quatRotate]
  norm_num
  ring

theorem headingDir_im (q : Quat ℝ) : (headingDir q).im = 2 * q 0 * q 3 + 2 * q 1 * q 2 := by
  simp [headingDir, quatRotate]
  norm_num
  ring

theorem headingDir_neg (q : Quat ℝ) : headingDir (-q) = headingDir q := by
  apply Complex.ext
  · simp [headingDir_re]
  · simp [headingDir_im]

/-- From above, the forward axis of a unit quaternion is a sum of two squares. -/
theorem headingDir_eq {q : Quat ℝ} (h : UnitQuat q) :
    headingDir q = (⟨q 0, q 3⟩ : ℂ) ^ 2 + (⟨q 1, q 2⟩ : ℂ) ^ 2 := by
  unfold UnitQuat at h
  apply Complex.ext
  · rw [headingDir_re]
    simp [sq]
    linear_combination h
  · rw [headingDir_im]
    simp [sq]
    ring

theorem headingDir_yaw {u : ℂ} (hu : ‖u‖ = 1) {q : Quat ℝ} (h : UnitQuat q) :
    headingDir (quatMul (yawQuat u) q) = u ^ 2 * headingDir q := by
  have hmul := quaternionOf_quatMul (yawQuat u) q
  have h03 : (⟨quatMul (yawQuat u) q 0, quatMul (yawQuat u) q 3⟩ : ℂ) = u * ⟨q 0, q 3⟩ := by
    apply Complex.ext
    · simpa using congrArg (fun x : Quaternion ℝ => x.re) hmul
    · simpa using congrArg (fun x : Quaternion ℝ => x.imK) hmul
  have h12 : (⟨quatMul (yawQuat u) q 1, quatMul (yawQuat u) q 2⟩ : ℂ) = u * ⟨q 1, q 2⟩ := by
    apply Complex.ext
    · simpa using congrArg (fun x : Quaternion ℝ => x.imI) hmul
    · simpa using congrArg (fun x : Quaternion ℝ => x.imJ) hmul
  rw [headingDir_eq ((unitQuat_yawQuat hu).mul h), headingDir_eq h, h03, h12]
  ring

/-- Unit, with a forward axis that is not vertical. -/
structure HasHeading (q : Quat ℝ) : Prop where
  unit : UnitQuat q
  forward : quatRotate q ![1, 0, 0] 0 ≠ 0 ∨ quatRotate q ![1, 0, 0] 1 ≠ 0

theorem HasHeading.headingDir_ne {q : Quat ℝ} (h : HasHeading q) : headingDir q ≠ 0 := by
  intro hzero
  rcases h.forward with hre | him
  · exact hre (congrArg Complex.re hzero)
  · exact him (congrArg Complex.im hzero)

/-- The same rotation. -/
def SameUpToSign (a b : Quat ℝ) : Prop := a = b ∨ a = -b

theorem SameUpToSign.headingDir_eq {a b : Quat ℝ} (h : SameUpToSign a b) :
    headingDir a = headingDir b := by
  rcases h with rfl | rfl
  · rfl
  · exact headingDir_neg b

theorem halfAngle_yaw {u : ℂ} (hu : ‖u‖ = 1) {q : Quat ℝ} (h : HasHeading q) :
    ∃ sign : ℂ, (sign = 1 ∨ sign = -1) ∧
      halfAngle (headingDir (quatMul (yawQuat u) q)) = sign * (u * halfAngle (headingDir q)) := by
  rw [headingDir_yaw hu h.unit]
  rcases halfAngle_mul hu h.headingDir_ne with hplus | hminus
  · exact ⟨1, Or.inl rfl, by rw [hplus, one_mul]⟩
  · exact ⟨-1, Or.inr rfl, by rw [hminus, neg_one_mul]⟩

theorem conj_mul_self {u : ℂ} (hu : ‖u‖ = 1) : conj u * u = 1 := by
  rw [← normSq_eq_conj_mul_self, normSq_eq_norm_sq, hu]
  norm_num

/-! ## The alignment -/

namespace TokenEncoder

/-- The turn of `delta_heading_`. -/
noncomputable def deltaTurn (delta : ℝ) : ℂ := if delta ≠ 0 then halfTurn delta else 1

/-- The yaw by which every reference root is turned. -/
noncomputable def alignYaw (e : TokenEncoder ℝ) (baseQuat : Quat ℝ) : ℂ :=
  conj (halfAngle (headingDir baseQuat)) *
    (deltaTurn e.deltaHeading *
      (halfAngle (headingDir e.initBaseQuat) * conj (halfAngle (headingDir e.initRefRootRot))))

theorem computeApplyDeltaHeading_eq (e : TokenEncoder ℝ) :
    e.computeApplyDeltaHeading =
      yawQuat (deltaTurn e.deltaHeading * (halfAngle (headingDir e.initBaseQuat) *
        conj (halfAngle (headingDir e.initRefRootRot)))) := by
  unfold computeApplyDeltaHeading deltaTurn eulerZToQuat
  rw [calcHeadingQuat_eq, calcHeadingQuatInv_eq, quatMul_yawQuat]
  by_cases hdelta : e.deltaHeading ≠ 0
  · rw [if_pos hdelta, if_pos hdelta, quatFromAngleAxis_vertical, quatMul_yawQuat]
  · rw [if_neg hdelta, if_neg hdelta, one_mul]

theorem baseToRef_eq (e : TokenEncoder ℝ) (baseQuat refRoot : Quat ℝ) :
    e.baseToRef baseQuat refRoot = quatMul (yawQuat (e.alignYaw baseQuat)) refRoot := by
  unfold baseToRef alignYaw
  rw [calcHeadingQuat_eq, quatConjugate_yawQuat, computeApplyDeltaHeading_eq, ← quatMul_assoc,
    quatMul_yawQuat]

theorem norm_alignYaw (e : TokenEncoder ℝ) (baseQuat : Quat ℝ) : ‖e.alignYaw baseQuat‖ = 1 := by
  have hdelta : ‖deltaTurn e.deltaHeading‖ = 1 := by
    unfold deltaTurn
    by_cases h : e.deltaHeading ≠ 0
    · rw [if_pos h, norm_halfTurn]
    · rw [if_neg h, norm_one]
  unfold alignYaw
  simp only [norm_mul, RCLike.norm_conj, norm_halfAngle, hdelta, mul_one]

/-- The matrix does not see the sign of a quaternion. -/
theorem quatToRotationMatrix_sign {sign : ℂ} (hsign : sign = 1 ∨ sign = -1) (u : ℂ) (q : Quat ℝ) :
    quatToRotationMatrix (quatMul (yawQuat (sign * u)) q) =
      quatToRotationMatrix (quatMul (yawQuat u) q) := by
  rcases hsign with rfl | rfl
  · rw [one_mul]
  · rw [neg_one_mul, yawQuat_neg, quatMul_neg_left, quatToRotationMatrix_neg]

/-- Encoders that turn the reference roots alike, up to a sign, compute the same. -/
theorem fillAnchorOrientation_sign {e e' : TokenEncoder ℝ} {baseQuat baseQuat' : Quat ℝ}
    {sign : ℂ} (hsign : sign = 1 ∨ sign = -1)
    (h : e'.alignYaw baseQuat' = sign * e.alignYaw baseQuat) (refRoots : List (Quat ℝ)) :
    e'.fillAnchorOrientation refRoots baseQuat' = e.fillAnchorOrientation refRoots baseQuat := by
  apply List.map_congr_left
  intro refRoot _
  rw [baseToRef_eq, baseToRef_eq, h, quatToRotationMatrix_sign hsign]

theorem fill_turnBase {e : TokenEncoder ℝ} {baseQuat r : Quat ℝ} (hinit : HasHeading e.initBaseQuat)
    (hbase : HasHeading baseQuat) (hr : WorldYaw r) (refRoots : List (Quat ℝ)) :
    ({ e with initBaseQuat := quatMul r e.initBaseQuat } : TokenEncoder ℝ).fillAnchorOrientation
        refRoots (quatMul r baseQuat) =
      e.fillAnchorOrientation refRoots baseQuat := by
  obtain ⟨u, hu, rfl⟩ := hr.eq_yawQuat
  obtain ⟨s, hs, hsi⟩ := halfAngle_yaw hu hinit
  obtain ⟨t, ht, hsb⟩ := halfAngle_yaw hu hbase
  have hsign : conj t * s = 1 ∨ conj t * s = -1 := by
    rcases hs with rfl | rfl <;> rcases ht with rfl | rfl <;> simp
  apply fillAnchorOrientation_sign hsign
  simp only [alignYaw, hsi, hsb, map_mul]
  linear_combination (conj t * s * (conj (halfAngle (headingDir baseQuat)) *
    (deltaTurn e.deltaHeading * (halfAngle (headingDir e.initBaseQuat) *
      conj (halfAngle (headingDir e.initRefRootRot)))))) * conj_mul_self hu

theorem fill_turnReference {e : TokenEncoder ℝ} {baseQuat r : Quat ℝ}
    (href : HasHeading e.initRefRootRot) (hr : WorldYaw r) (refRoots : List (Quat ℝ)) :
    ({ e with initRefRootRot := quatMul r e.initRefRootRot } : TokenEncoder ℝ).fillAnchorOrientation
        (refRoots.map (quatMul r)) baseQuat =
      e.fillAnchorOrientation refRoots baseQuat := by
  obtain ⟨u, hu, rfl⟩ := hr.eq_yawQuat
  obtain ⟨s, hs, hsr⟩ := halfAngle_yaw hu href
  have hsign : conj s = 1 ∨ conj s = -1 := by
    rcases hs with rfl | rfl <;> simp
  rw [fillAnchorOrientation, List.map_map]
  apply List.map_congr_left
  intro refRoot _
  -- the conjugate of the turn meets the turn of the root
  have hyaw : ({ e with initRefRootRot := quatMul (yawQuat u) e.initRefRootRot } :
      TokenEncoder ℝ).alignYaw baseQuat * u = conj s * e.alignYaw baseQuat := by
    simp only [alignYaw, hsr, map_mul]
    linear_combination (conj s * (conj (halfAngle (headingDir baseQuat)) *
      (deltaTurn e.deltaHeading * (halfAngle (headingDir e.initBaseQuat) *
        conj (halfAngle (headingDir e.initRefRootRot)))))) * conj_mul_self hu
  rw [Function.comp_apply, baseToRef_eq, baseToRef_eq, ← quatMul_assoc, quatMul_yawQuat, hyaw,
    quatToRotationMatrix_sign hsign]

theorem quatToRotationMatrix_negated {q q' : Quat ℝ} (h : SameUpToSign q' q) (u : ℂ) :
    quatToRotationMatrix (quatMul (yawQuat u) q') =
      quatToRotationMatrix (quatMul (yawQuat u) q) := by
  rcases h with rfl | rfl
  · rfl
  · rw [quatMul_neg_right, quatToRotationMatrix_neg]

theorem alignYaw_negated {e e' : TokenEncoder ℝ} {baseQuat baseQuat' : Quat ℝ}
    (hdelta : e'.deltaHeading = e.deltaHeading)
    (hinit : SameUpToSign e'.initBaseQuat e.initBaseQuat)
    (href : SameUpToSign e'.initRefRootRot e.initRefRootRot)
    (hbase : SameUpToSign baseQuat' baseQuat) : e'.alignYaw baseQuat' = e.alignYaw baseQuat := by
  unfold alignYaw
  rw [hdelta, hinit.headingDir_eq, href.headingDir_eq, hbase.headingDir_eq]

theorem fill_negated {e e' : TokenEncoder ℝ} {baseQuat baseQuat' : Quat ℝ}
    {refRoots refRoots' : List (Quat ℝ)} (hyaw : e'.alignYaw baseQuat' = e.alignYaw baseQuat)
    (hroots : List.Forall₂ SameUpToSign refRoots' refRoots) :
    e'.fillAnchorOrientation refRoots' baseQuat' = e.fillAnchorOrientation refRoots baseQuat := by
  unfold fillAnchorOrientation
  induction hroots with
  | nil => rw [List.map_nil, List.map_nil]
  | cons hroot _ ih =>
    rw [List.map_cons, List.map_cons, ih, baseToRef_eq, baseToRef_eq, hyaw,
      quatToRotationMatrix_negated hroot]

theorem fill_sameHeading {e : TokenEncoder ℝ} {baseQuat baseQuat' : Quat ℝ}
    (h : calcHeading baseQuat' = calcHeading baseQuat) (refRoots : List (Quat ℝ)) :
    e.fillAnchorOrientation refRoots baseQuat' = e.fillAnchorOrientation refRoots baseQuat := by
  have hquat : calcHeadingQuat baseQuat' = calcHeadingQuat baseQuat :=
    congrArg (fun heading => quatFromAngleAxis heading ![0, 0, 1]) h
  apply List.map_congr_left
  intro refRoot _
  rw [baseToRef, hquat, baseToRef]

theorem fill_columns (e : TokenEncoder ℝ) (baseQuat : Quat ℝ) {refRoots : List (Quat ℝ)}
    (hroots : ∀ q ∈ refRoots, UnitQuat q) :
    ∀ six ∈ e.fillAnchorOrientation refRoots baseQuat,
      ∃ m ∈ Matrix.specialOrthogonalGroup (Fin 3) ℝ, six = firstTwoColumns m := by
  intro six hsix
  obtain ⟨refRoot, hmem, rfl⟩ := List.mem_map.mp hsix
  have hunit : UnitQuat (e.baseToRef baseQuat refRoot) := by
    rw [baseToRef_eq]
    exact (unitQuat_yawQuat (e.norm_alignYaw baseQuat)).mul (hroots refRoot hmem)
  exact ⟨_, quatToRotationMatrix_mem hunit, rfl⟩

/-! ## The law -/

/-- The anchor orientations see the yaw of the base relative to its yaw at the alignment, and
nothing else of the world. -/
theorem anchor_yaw_invariant (e : TokenEncoder ℝ) (baseQuat : Quat ℝ) (refRoots : List (Quat ℝ))
    (hinit : HasHeading e.initBaseQuat) (href : HasHeading e.initRefRootRot)
    (hbase : HasHeading baseQuat) (hroots : ∀ q ∈ refRoots, UnitQuat q) :
    (∀ r, WorldYaw r →
      ({ e with initBaseQuat := quatMul r e.initBaseQuat } : TokenEncoder ℝ).fillAnchorOrientation
          refRoots (quatMul r baseQuat) =
        e.fillAnchorOrientation refRoots baseQuat) ∧
      (∀ r, WorldYaw r →
        ({ e with initRefRootRot := quatMul r e.initRefRootRot } :
            TokenEncoder ℝ).fillAnchorOrientation (refRoots.map (quatMul r)) baseQuat =
          e.fillAnchorOrientation refRoots baseQuat) ∧
      (∀ (e' : TokenEncoder ℝ) (baseQuat' : Quat ℝ) (refRoots' : List (Quat ℝ)),
        e'.deltaHeading = e.deltaHeading → SameUpToSign e'.initBaseQuat e.initBaseQuat →
        SameUpToSign e'.initRefRootRot e.initRefRootRot → SameUpToSign baseQuat' baseQuat →
        List.Forall₂ SameUpToSign refRoots' refRoots →
        e'.fillAnchorOrientation refRoots' baseQuat' = e.fillAnchorOrientation refRoots baseQuat) ∧
      (∀ baseQuat', calcHeading baseQuat' = calcHeading baseQuat →
        e.fillAnchorOrientation refRoots baseQuat' = e.fillAnchorOrientation refRoots baseQuat) ∧
      ∀ six ∈ e.fillAnchorOrientation refRoots baseQuat,
        ∃ m ∈ Matrix.specialOrthogonalGroup (Fin 3) ℝ, six = firstTwoColumns m :=
  ⟨fun _ hr => fill_turnBase hinit hbase hr refRoots,
    fun _ hr => fill_turnReference href hr refRoots,
    fun _ _ _ hdelta hi hf hb hr => fill_negated (alignYaw_negated hdelta hi hf hb) hr,
    fun _ h => fill_sameHeading h refRoots, fill_columns e baseQuat hroots⟩

/-- A robot turned half around since the alignment, and a leaning reference. -/
theorem anchor_yaw_invariant_turned :
    let e : TokenEncoder ℝ := { initBaseQuat := ![1, 0, 0, 0], initRefRootRot := ![0, 0, 0, 1] }
    ({ e with initBaseQuat := quatMul ![0, 0, 0, 1] e.initBaseQuat } :
          TokenEncoder ℝ).fillAnchorOrientation [![0, 1, 0, 0]]
        (quatMul ![0, 0, 0, 1] ![0, 0, 0, 1]) =
      e.fillAnchorOrientation [![0, 1, 0, 0]] ![0, 0, 0, 1] := by
  intro e
  have hinit : HasHeading e.initBaseQuat := by
    constructor
    · simp [e, UnitQuat]
    · left
      simp [e, quatRotate]
      norm_num
  have hback : HasHeading ![0, 0, 0, 1] := by
    constructor
    · simp [UnitQuat]
    · left
      simp [quatRotate]
      norm_num
  have hroots : ∀ q ∈ [(![0, 1, 0, 0] : Quat ℝ)], UnitQuat q := by
    simp [UnitQuat]
  have hyaw : WorldYaw ![0, 0, 0, 1] := ⟨by simp [UnitQuat], rfl, rfl⟩
  exact (anchor_yaw_invariant e ![0, 0, 0, 1] [![0, 1, 0, 0]] hinit hback hback hroots).1 _ hyaw

end TokenEncoder

end Gearsonic
