import Gearsonic.Common.MathUtils

/-!
# Robot constants

The G1's joint orders, PD gains, action scale and standing pose. Per-joint arrays are in
MuJoCo order, which is the order of the motors.
-/

namespace Gearsonic

/-- IsaacLab-order joint `i` lives at MuJoCo index `mujocoToIsaaclab i`. -/
def mujocoToIsaaclab : Fin 29 → Fin 29 := ![
  0, 6, 12, 1, 7, 13, 2, 8, 14, 3, 9, 15, 22, 4, 10,
  16, 23, 5, 11, 17, 24, 18, 25, 19, 26, 20, 27, 21, 28]

/-- MuJoCo-order joint `i` lives at IsaacLab index `isaaclabToMujoco i`. -/
def isaaclabToMujoco : Fin 29 → Fin 29 := ![
  0, 3, 6, 9, 13, 17, 1, 4, 7, 10, 14, 18, 2, 5, 8,
  11, 15, 19, 21, 23, 25, 27, 12, 16, 20, 22, 24, 26, 28]

theorem isaaclabToMujoco_mujocoToIsaaclab (i : Fin 29) :
    isaaclabToMujoco (mujocoToIsaaclab i) = i := by
  revert i
  decide

theorem mujocoToIsaaclab_isaaclabToMujoco (i : Fin 29) :
    mujocoToIsaaclab (isaaclabToMujoco i) = i := by
  revert i
  decide

section

variable (K : Type) [Field K]

def kArmature5020 : K := 0.003609725
def kArmature7520_14 : K := 0.010177520
def kArmature7520_22 : K := 0.025101925
def kArmature4010 : K := 0.00425

def kNaturalFreq : K := 10.0 * 2.0 * 3.1415926535
def kDampingRatio : K := 2.0

/-- Stiffness of a second-order critically damped joint. -/
def kStiffness (armature : K) : K := armature * kNaturalFreq K * kNaturalFreq K

def kDamping (armature : K) : K := 2.0 * kDampingRatio K * armature * kNaturalFreq K

def kStiffness5020 : K := kStiffness K (kArmature5020 K)
def kStiffness7520_14 : K := kStiffness K (kArmature7520_14 K)
def kStiffness7520_22 : K := kStiffness K (kArmature7520_22 K)
def kStiffness4010 : K := kStiffness K (kArmature4010 K)

def kDamping5020 : K := kDamping K (kArmature5020 K)
def kDamping7520_14 : K := kDamping K (kArmature7520_14 K)
def kDamping7520_22 : K := kDamping K (kArmature7520_22 K)
def kDamping4010 : K := kDamping K (kArmature4010 K)

def kEffort5020 : K := 25.0
def kEffort7520_14 : K := 88.0
def kEffort7520_22 : K := 139.0
def kEffort4010 : K := 5.0

/-- Per-joint values from one value per motor type, in MuJoCo order: `a22` and `a14` are
the two 7520 motors, `foot` is what the ankles and the waist roll and pitch use. -/
def perMotor (a22 a14 foot a5020 a4010 : K) : Joints K := ![
  a22, a22, a14, a22, foot, foot,
  a22, a22, a14, a22, foot, foot,
  a14, foot, foot,
  a5020, a5020, a5020, a5020, a5020, a4010, a4010,
  a5020, a5020, a5020, a5020, a5020, a4010, a4010]

def g1ActionScale : Joints K :=
  perMotor K (0.25 * kEffort7520_22 K / kStiffness7520_22 K)
    (0.25 * kEffort7520_14 K / kStiffness7520_14 K) (0.25 * kEffort5020 K / kStiffness5020 K)
    (0.25 * kEffort5020 K / kStiffness5020 K) (0.25 * kEffort4010 K / kStiffness4010 K)

def g1Kps : Joints K :=
  perMotor K (kStiffness7520_22 K) (kStiffness7520_14 K) (2.0 * kStiffness5020 K)
    (kStiffness5020 K) (kStiffness4010 K)

def g1Kds : Joints K :=
  perMotor K (kDamping7520_22 K) (kDamping7520_14 K) (2.0 * kDamping5020 K)
    (kDamping5020 K) (kDamping4010 K)

/-- The standing pose, `g1_default_angles`. -/
def g1DefaultAngles : Joints K := ![
  -0.312, 0.0, 0.0, 0.669, -0.363, 0.0,
  -0.312, 0.0, 0.0, 0.669, -0.363, 0.0,
  0.0, 0.0, 0.0,
  0.2, 0.2, 0.0, 0.6, 0.0, 0.0, 0.0,
  0.2, -0.2, 0.0, 0.6, 0.0, 0.0, 0.0]

end

end Gearsonic
