import Gearsonic.Control.ControlArbiter
import Gearsonic.Control.StateLogger
import Gearsonic.Planner.MotionSequence
import Gearsonic.Teleop.TeleopTracker

/-!
# The token encoder

`TokenEncoder`: the mode it reports, the heading alignment it keeps and the anchor
orientations it computes from it. What the engine returns is an input of the step, so the
rest of the observation is not assembled here.
-/

namespace Gearsonic

variable {K : Type} [Field K]

structure TokenEncoder (K : Type) [Field K] where
  /-- `g1` is 0, teleop 1, smpl 2; -1 before the first step. -/
  lastMode : Int := -1
  initBaseQuat : Quat K := ![1, 0, 0, 0]
  initRefRootRot : Quat K := ![1, 0, 0, 0]
  deltaHeading : K := 0
  reinitializeHeading : Bool := true

namespace TokenEncoder

def requestHeadingReinit (e : TokenEncoder K) : TokenEncoder K :=
  { e with reinitializeHeading := true }

/-- `update_heading_state`: align to the newest base orientation on request, and follow the
first frame of the timeline while it is the current one. -/
def updateHeadingState (e : TokenEncoder K) (motion : MotionSequence50Hz K) (cursor : Int)
    (logger : StateLogger K) (smpl : Option (SmplPoseWindow K)) : TokenEncoder K :=
  if motion.timesteps = 0 then e
  else
    let e :=
      if e.reinitializeHeading then
        { e with
          initBaseQuat := ((logger.getLatest 1).getD 0 {}).baseQuat
          deltaHeading := 0
          initRefRootRot :=
            match smpl with
            | some window => (window.frames 0).anchorQuat
            | none => (motion.frame (clamp cursor 0 (motion.timesteps - 1))).quaternion
          reinitializeHeading := false }
      else e
    if smpl.isNone && decide (cursor = 0) then
      { e with initRefRootRot := (motion.frame 0).quaternion }
    else e

/-- One control tick. The token is the engine's, when the inference succeeds. -/
def step (e : TokenEncoder K) (motion : MotionSequence50Hz K) (cursor : Int)
    (logger : StateLogger K) (vr3point : Option (VR3Point K)) (smpl : Option (SmplPoseWindow K))
    (engine : Option (Token K)) : TokenEncoder K × Option (Token K) :=
  let mode : Int := if smpl.isSome then 2 else if vr3point.isSome then 1 else 0
  (({ e with lastMode := mode }).updateHeadingState motion cursor logger smpl, engine)

section

variable [LinearOrder K] [CMath K]

def computeApplyDeltaHeading (e : TokenEncoder K) : Quat K :=
  let apply := quatMul (calcHeadingQuat e.initBaseQuat) (calcHeadingQuatInv e.initRefRootRot)
  if e.deltaHeading ≠ 0 then quatMul (eulerZToQuat e.deltaHeading) apply else apply

/-- A reference root, heading-aligned, as the robot's yaw sees it. -/
def baseToRef (e : TokenEncoder K) (baseQuat refRoot : Quat K) : Quat K :=
  quatMul (quatConjugate (calcHeadingQuat baseQuat)) (quatMul e.computeApplyDeltaHeading refRoot)

/-- The first two columns of a matrix, row by row. -/
def firstTwoColumns (m : Fin 3 → Fin 3 → K) : Fin 6 → K :=
  ![m 0 0, m 0 1, m 1 0, m 1 1, m 2 0, m 2 1]

/-- `fill_anchor_orientation`: the six numbers of each reference root. -/
def fillAnchorOrientation (e : TokenEncoder K) (refRoots : List (Quat K)) (baseQuat : Quat K) :
    List (Fin 6 → K) :=
  refRoots.map fun refRoot => firstTwoColumns (quatToRotationMatrix (e.baseToRef baseQuat refRoot))

end

end TokenEncoder

end Gearsonic
