import Gearsonic.Transition.Basic
import Gearsonic.Transition.Loop
import Gearsonic.Numeric.Slide
import Gearsonic.Numeric.Counter
import Gearsonic.Common.RobotParams
import Gearsonic.Common.Json
import Gearsonic.Pico.PicoVRReader
import Gearsonic.Pico.MalformedInput
import Gearsonic.Motion.MovementState
import Gearsonic.Motion.InputHandler
import Gearsonic.Planner.MotionSequence
import Gearsonic.Planner.PlannerInference
import Gearsonic.Planner.CommandRetry
import Gearsonic.Planner.Thread
import Gearsonic.Planner.Handshake
import Gearsonic.System.OriginEntry
import Gearsonic.System.GearsonicInference
import Gearsonic.System.StartRollback
import Gearsonic.Teleop.SmplResampler
import Gearsonic.Teleop.StreamTime
import Gearsonic.Teleop.TeleopTracker
import Gearsonic.Teleop.TrackerFlags
import Gearsonic.Teleop.Session
import Gearsonic.Teleop.SessionSafety
import Gearsonic.Teleop.Flavors
import Gearsonic.Control.WholeBodyController
import Gearsonic.Control.CommandFlow
import Gearsonic.Control.StaleTarget
import Gearsonic.Control.BaseHold
import Gearsonic.Unitree.HandCommandWriter
import Gearsonic.Unitree.FloatHand
import Gearsonic.Unitree.HandSafety
import Gearsonic.Control.ControllerThread
import Gearsonic.System.EmergencyStop
import Gearsonic.System.EstopProgress
import Gearsonic.System.RecoveryHands
import Gearsonic.System.PlaybackLoops
import Gearsonic.System.StaleTimeline
import Gearsonic.System.BlendTimeline
import Gearsonic.System.FullBodyRelease
import Gearsonic.Control.ArbiterFlow
import Gearsonic.Vla.VlaTokenReceiver
import Gearsonic.Control.StateTrace
import Gearsonic.Control.TraceRing
import Gearsonic.Control.TraceStop
import Gearsonic.Control.TraceHeader
import Gearsonic.Tools.ReadTrace
import Gearsonic.Tools.TraceRoundTrip
import Gearsonic.Control.TokenStage
import Gearsonic.Control.ReentryHandoff
import Gearsonic.Control.Ownership
import Gearsonic.Common.Quaternions
import Gearsonic.Numeric.HalfAngle
import Gearsonic.Teleop.ThreePoint
import Gearsonic.Teleop.PostureInvariance
import Gearsonic.Control.HeadingAlignment
import Gearsonic.Control.RecordFlow
import Gearsonic.Control.TokenSequence
import Gearsonic.Control.TraceCoverage
import Gearsonic.System.StaleWatchdogs
import Gearsonic.Motion.ChordRule
import Gearsonic.Motion.InputThread
import Gearsonic.Motion.ModeRange
import Gearsonic.Motion.BodyHeight
import Gearsonic.Motion.HardModes
import Gearsonic.Numeric.FloatVal
import Gearsonic.Common.FloatMath
import Gearsonic.Planner.FloatResample
import Gearsonic.Pico.StoredNumbers
import Gearsonic.System.FiniteIngress
import Gearsonic.Unitree.AxisOrder
import Gearsonic.Unitree.GuardReach
import Gearsonic.Unitree.MotorTemperature
import Gearsonic.Motion.CommandEnvelope
import Gearsonic.Teleop.OneShot
import Gearsonic.Unitree.GuardLatch
import Gearsonic.Control.FailedInference
import Gearsonic.Control.PlaybackStorage
import Gearsonic.Control.PlaybackBlend
import Gearsonic.Motion.TapGroups
import Gearsonic.Motion.TapReports
import Gearsonic.Motion.TapLaw
import Gearsonic.Transition.EdgeLog
import Gearsonic.Unitree.MotorHealthRules
import Gearsonic.Unitree.HealthFrozen
import Gearsonic.Unitree.HealthLog
import Gearsonic.Numeric.TwoLink
import Gearsonic.Teleop.SmplArmReach
import Gearsonic.Teleop.ArmReachLaw
import Gearsonic.Numeric.LatestRing
import Gearsonic.Teleop.ResamplerReference
import Gearsonic.Numeric.SampleLine
import Gearsonic.Teleop.DelayLine
import Gearsonic.Numeric.Stores
import Gearsonic.Planner.Resampling
import Gearsonic.Planner.ContextSampling
import Gearsonic.Control.Observations
import Gearsonic.Control.StateHistory
import Gearsonic.Control.ObservationLayout
import Gearsonic.Control.TraceRow
import Gearsonic.Control.JointTimeline
import Gearsonic.Control.NewestCommand
import Gearsonic.Control.TraceLayout
import Gearsonic.Control.TraceCells
import Gearsonic.System.TraceOrder
import Gearsonic.Numeric.ShiftRegister
import Gearsonic.Unitree.Crc32
import Gearsonic.Unitree.PacketCheck
import Gearsonic.Control.LoggerReference
import Gearsonic.Common.QuaternionAlgebra
import Gearsonic.Common.SlerpLaws
import Gearsonic.Control.InitRamp
import Gearsonic.Numeric.Significand
import Gearsonic.Control.IntegerColumns
import Gearsonic.Numeric.KinematicTree
import Gearsonic.Teleop.SmplSkeleton
import Gearsonic.Teleop.SmplFk
import Gearsonic.Teleop.RotationVectors
import Gearsonic.Teleop.KorniaMatrix
import Gearsonic.Teleop.SmplChain
import Gearsonic.Teleop.SmplHeading
import Gearsonic.Teleop.WristAngles
import Gearsonic.Transition.Polling
import Gearsonic.Unitree.UnitreeCommandWriter
import Gearsonic.System.LowCmdWire
import Gearsonic.Control.TokenFlow
import Gearsonic.Collector.MotionTokenPublisher
import Gearsonic.Collector.RecordCommander
import Gearsonic.Teleop.WristFk
import Gearsonic.Transition.OwnedHeap
import Gearsonic.Tensorrt.InferenceEngine
import Gearsonic.Control.ObsDictModel
import Gearsonic.Numeric.BlockStream
import Gearsonic.Numeric.Sha256
import Gearsonic.Tensorrt.Picosha2
import Gearsonic.Numeric.HashChain
import Gearsonic.Tensorrt.EngineCache
