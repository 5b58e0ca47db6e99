import Gearsonic.Common.CMath
import Mathlib.Data.Rat.Cast.OfScientific
import Mathlib.Data.Fin.VecNotation

/-!
# Vectors and quaternions

`math_utils.hpp`, less what nothing modelled calls, and the two products of `smpl_arm_reach.cpp`.
Quaternions are wxyz.
-/

namespace Gearsonic

abbrev Vec3 (K : Type) := Fin 3 → K
abbrev Quat (K : Type) := Fin 4 → K
abbrev Joints (K : Type) := Fin 29 → K

-- Every index literal of a shape carries this one constant.
instance neZero_three : NeZero 3 := ⟨by decide⟩
instance neZero_four : NeZero 4 := ⟨by decide⟩
instance neZero_twentyNine : NeZero 29 := ⟨by decide⟩

local instance atLeastTwo_two : Nat.AtLeastTwo 2 := ⟨le_rfl⟩

variable {K : Type} [Field K] [LinearOrder K]

/-- `std::clamp`. -/
def clamp {α : Type} [LinearOrder α] (x lo hi : α) : α :=
  if x < lo then lo else if hi < x then hi else x

theorem clamp_mem {α : Type} [LinearOrder α] {lo hi : α} (h : lo ≤ hi) (x : α) :
    lo ≤ clamp x lo hi ∧ clamp x lo hi ≤ hi := by
  unfold clamp
  by_cases hlo : x < lo
  · rw [if_pos hlo]
    exact ⟨le_rfl, h⟩
  · rw [if_neg hlo]
    by_cases hhi : hi < x
    · rw [if_pos hhi]
      exact ⟨h, le_rfl⟩
    · rw [if_neg hhi]
      exact ⟨not_lt.mp hlo, not_lt.mp hhi⟩

/-! ## Vectors -/

def dot (a b : Vec3 K) : K := a 0 * b 0 + a 1 * b 1 + a 2 * b 2

def cross (a b : Vec3 K) : Vec3 K :=
  ![a 1 * b 2 - a 2 * b 1, a 2 * b 0 - a 0 * b 2, a 0 * b 1 - a 1 * b 0]

/-! ## Quaternion algebra -/

def quatConjugate (q : Quat K) : Quat K := ![q 0, -q 1, -q 2, -q 3]

/-- The product, in the eight multiplications of the source. -/
def quatMul (a b : Quat K) : Quat K :=
  let ww := (a 3 + a 1) * (b 1 + b 2)
  let yy := (a 0 - a 2) * (b 0 + b 3)
  let zz := (a 0 + a 2) * (b 0 - b 3)
  let xx := ww + yy + zz
  let qq := 0.5 * (xx + (a 3 - a 1) * (b 1 - b 2))
  ![qq - ww + (a 3 - a 2) * (b 2 - b 3), qq - xx + (a 1 + a 0) * (b 1 + b 0),
    qq - yy + (a 0 - a 1) * (b 2 + b 3), qq - zz + (a 3 + a 2) * (b 0 - b 1)]

/-- Rotate a vector. -/
def quatRotate (q : Quat K) (v : Vec3 K) : Vec3 K :=
  let scale := 2.0 * q 0 * q 0 - 1.0
  let cross : Vec3 K :=
    ![q 2 * v 2 - q 3 * v 1, q 3 * v 0 - q 1 * v 2, q 1 * v 1 - q 2 * v 0]
  let dot := q 1 * v 0 + q 2 * v 1 + q 3 * v 2
  ![v 0 * scale + cross 0 * q 0 * 2.0 + q 1 * dot * 2.0,
    v 1 * scale + cross 1 * q 0 * 2.0 + q 2 * dot * 2.0,
    v 2 * scale + cross 2 * q 0 * 2.0 + q 3 * dot * 2.0]

def gravityInBodyFrame (baseQuat : Quat K) : Vec3 K :=
  quatRotate (quatConjugate baseQuat) ![0, 0, -1]

section

variable [CMath K]

def normalizeVector (v : Vec3 K) : Vec3 K :=
  let norm := max (CMath.sqrt (v 0 * v 0 + v 1 * v 1 + v 2 * v 2)) 1e-12
  fun i => v i / norm

def quatUnit (q : Quat K) : Quat K :=
  let norm := max (CMath.sqrt (q 0 * q 0 + q 1 * q 1 + q 2 * q 2 + q 3 * q 3)) 1e-12
  fun i => q i / norm

/-! ## Headings -/

def quatFromAngleAxis (angle : K) (axis : Vec3 K) : Quat K :=
  let theta := angle / 2.0
  let n := normalizeVector axis
  quatUnit ![CMath.cos theta, n 0 * CMath.sin theta, n 1 * CMath.sin theta, n 2 * CMath.sin theta]

/-- The yaw of the body's forward axis in the world. -/
def calcHeading (q : Quat K) : K :=
  let dir := quatRotate q ![1, 0, 0]
  CMath.atan2 (dir 1) (dir 0)

def calcHeadingQuat (q : Quat K) : Quat K := quatFromAngleAxis (calcHeading q) ![0, 0, 1]

def calcHeadingQuatInv (q : Quat K) : Quat K := quatFromAngleAxis (-calcHeading q) ![0, 0, 1]

def eulerZToQuat (angleRad : K) : Quat K := quatFromAngleAxis angleRad ![0, 0, 1]

/-! ## Conversions -/

def quatToRotationMatrix (quat : Quat K) : Fin 3 → Fin 3 → K :=
  let q := quatUnit quat
  let w := q 0
  let x := q 1
  let y := q 2
  let z := q 3
  ![![1 - 2 * (y * y + z * z), 2 * (x * y - w * z), 2 * (x * z + w * y)],
    ![2 * (x * y + w * z), 1 - 2 * (x * x + z * z), 2 * (y * z - w * x)],
    ![2 * (x * z - w * y), 2 * (y * z + w * x), 1 - 2 * (x * x + y * y)]]

/-! ## Interpolation -/

/-- SLERP; nearly equal quaternions are interpolated linearly. -/
def quatSlerp (a b : Quat K) (t : K) : Quat K :=
  let dot := a 0 * b 0 + a 1 * b 1 + a 2 * b 2 + a 3 * b 3
  let bb : Quat K := if dot < 0 then fun i => -b i else b
  let dot := if dot < 0 then -dot else dot
  if 0.9995 < dot then quatUnit fun i => a i + t * (bb i - a i)
  else
    let theta0 := CMath.acos dot
    let theta := theta0 * t
    let sinT0 := CMath.sin theta0
    let s0 := CMath.cos theta - dot * CMath.sin theta / sinT0
    let s1 := CMath.sin theta / sinT0
    fun i => s0 * a i + s1 * bb i

end

end Gearsonic
