import Gearsonic.Common.DataBuffer
import Gearsonic.Common.MathUtils

/-!
# Robot state

The state that the control path, the health rules and the command writer read, and how the reader
takes it from a `LowState` message.
-/

namespace Gearsonic

structure IMU (K : Type) [Field K] where
  quaternion : Quat K := ![1, 0, 0, 0]
  gyroscope : Vec3 K := fun _ => 0
  accelerometer : Vec3 K := fun _ => 0

structure MotorState (K : Type) [Field K] where
  q : K := 0
  dq : K := 0
  tau : K := 0
  tempCasing : Int := 0
  tempWinding : Int := 0
  error : UInt32 := 0

structure UnitreeState (K : Type) [Field K] where
  motors : Fin 29 → MotorState K := fun _ => {}
  imuPelvis : IMU K := {}
  tick : UInt32 := 0
  /-- The robot's variant, which the command writer echoes. -/
  modeMachine : Nat := 0

/-! ## From a message -/

/-- What `convert` reads of `MotorState_`. -/
structure SdkMotorState (K : Type) where
  q : K
  dq : K
  tauEst : K
  temperature : Fin 2 → Int
  motorstate : UInt32

/-- What `convert` reads of `IMUState_`. -/
structure SdkIMUState (K : Type) where
  quaternion : Quat K
  gyroscope : Vec3 K
  accelerometer : Vec3 K

/-- What `convert` reads of `LowState_`. -/
structure SdkLowState (K : Type) where
  tick : UInt32
  modeMachine : Nat
  imuState : SdkIMUState K
  motorState : Fin 29 → SdkMotorState K

variable {K : Type} [Field K]

def convertIMU (src : SdkIMUState K) : IMU K :=
  { quaternion := src.quaternion, gyroscope := src.gyroscope, accelerometer := src.accelerometer }

local instance neZero_two : NeZero 2 := ⟨by decide⟩

def convert (src : SdkLowState K) : UnitreeState K :=
  { tick := src.tick
    modeMachine := src.modeMachine
    imuPelvis := convertIMU src.imuState
    motors := fun i =>
      { q := (src.motorState i).q
        dq := (src.motorState i).dq
        tau := (src.motorState i).tauEst
        tempCasing := (src.motorState i).temperature 0
        tempWinding := (src.motorState i).temperature 1
        error := (src.motorState i).motorstate } }

end Gearsonic
