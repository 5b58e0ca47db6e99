import Gearsonic.Control.MotorCommand
import Gearsonic.Unitree.HandGuard

/-!
# Startup and shutdown

`GearsonicInference::start` and `stop`. The modules behind them enter through what their
own `start` returns, and the configuration through what each read of it gives; a read that
makes yaml-cpp throw gives nothing.

`start` is a list of stages, each of which goes on or ends the call: with a rollback, with a
plain `return false`, or with an exception that nothing in `start` catches. The log records
which modules came up and which were stopped, in order.
-/

namespace Gearsonic

/-- The modules that `start` brings up. -/
inductive Module where
  | vrReader
  | inputHandler
  | teleopTracker
  | stateReader
  | handStateReader
  | motorHealth
  | vlaReceiver
  | navReceiver
  | recordCommander
  | planner
  | commandWriter
  | handWriter
  | tokenPublisher
  | stateTrace
  | controller
deriving DecidableEq

inductive LifeEvent where
  | started (m : Module)
  | stopped (m : Module)
deriving DecidableEq

structure GearsonicInference (K : Type) [Field K] where
  vrStarted : Bool := false
  robotStarted : Bool := false
  handStateStarted : Bool := false
  healthStarted : Bool := false
  vlaStarted : Bool := false
  navRxStarted : Bool := false
  recordCtlStarted : Bool := false
  plannerStarted : Bool := false
  writerStarted : Bool := false
  handWriterStarted : Bool := false
  tokenPubStarted : Bool := false
  controlStarted : Bool := false
  traceStarted : Bool := false
  /-- The console mirror is open: `ConsoleTee::active_`. -/
  consoleOpen : Bool := false
  log : List LifeEvent := []
  /-- What the command writer has published on `rt/lowcmd`. -/
  published : List (MotorCommand K) := []

/-- What each read of the configuration gives; `none` where yaml-cpp throws. -/
structure ConfigReads (K : Type) [Field K] where
  /-- `domain_id` and `network_interface`. -/
  unitree : Option (Int × String)
  /-- Whether `parse_motor_health` comes through. -/
  motorHealth : Option Unit
  recordEnabled : Option Bool
  plannerModel : Option String
  hand : Option (HandGuard.Params K)
  /-- Whether the trace is on, and its path. -/
  trace : Option (Bool × String)
  /-- `encoder_path` and `decoder_path`. -/
  control : Option (String × String)

/-- What `start` meets. -/
structure StartInputs (K : Type) [Field K] where
  config : ConfigReads K
  consoleOpens : Bool
  configLoads : Bool
  vrReader : Bool
  stateReader : Int → String → Bool
  handStateReader : Bool
  vlaReceiver : Bool
  navReceiver : Bool
  recordCommander : Bool
  /-- The wait for the robot state ends with a state, not with a quit request. -/
  stateArrives : Bool
  planner : String → Bool
  commandWriter : Bool
  handWriter : HandGuard.Params K → Bool
  tokenPublisher : Bool
  stateTrace : String → Bool
  controller : String → String → Bool
  /-- What the command writer's loop publishes before a rollback joins it. -/
  loopPublished : List (MotorCommand K)

/-- The stages of `start`, in order. -/
inductive StartStage where
  | consoleTee
  | configLoad
  | vrReader
  | stateReader
  | handStateReader
  | motorHealth
  | vlaReceiver
  | navReceiver
  | recordCommander
  | waitForState
  | planner
  | commandWriter
  | handWriter
  | tokenPublisher
  | stateTrace
  | controller
deriving DecidableEq

/-- How a call of `start` ends. -/
inductive StartResult where
  | returned (ok : Bool)
  | threw
deriving DecidableEq

namespace GearsonicInference

variable {K : Type} [Field K]

/-! ## Shutdown -/

/-- The modules that `stop` stops, in order: those whose flag is set. -/
def running (s : GearsonicInference K) : List Module :=
  (if s.controlStarted then [Module.controller] else []) ++
  (if s.traceStarted then [Module.stateTrace] else []) ++
  (if s.tokenPubStarted then [Module.tokenPublisher] else []) ++
  (if s.handWriterStarted then [Module.handWriter] else []) ++
  (if s.writerStarted then [Module.commandWriter] else []) ++
  (if s.healthStarted then [Module.motorHealth] else []) ++
  (if s.handStateStarted then [Module.handStateReader] else []) ++
  (if s.plannerStarted then [Module.planner] else []) ++
  (if s.recordCtlStarted then [Module.recordCommander] else []) ++
  (if s.navRxStarted then [Module.navReceiver] else []) ++
  (if s.vlaStarted then [Module.vlaReceiver] else []) ++
  (if s.vrStarted then [Module.teleopTracker, Module.inputHandler] else []) ++
  (if s.robotStarted then [Module.stateReader] else []) ++
  (if s.vrStarted then [Module.vrReader] else [])

/-- `UnitreeCommandWriter::stop`: what the loop still published before the join, then the
damping burst. -/
def stopWriter (published loop : List (MotorCommand K)) : List (MotorCommand K) :=
  published ++ loop ++ List.replicate 5 (MotorCommand.damping K)

/-- `GearsonicInference::stop`: every flag is false after it. `loop` is what the command
writer's loop has published since it was started. -/
def stop (s : GearsonicInference K) (loop : List (MotorCommand K)) : GearsonicInference K where
  log := s.log ++ s.running.map .stopped
  published := if s.writerStarted then stopWriter s.published loop else s.published

/-! ## Startup -/

/-- The log with these modules up. -/
def record (s : GearsonicInference K) (ms : List Module) : GearsonicInference K :=
  { s with log := s.log ++ ms.map .started }

/-- The stage is through. -/
def goOn (s : GearsonicInference K) : GearsonicInference K × Option StartResult := (s, none)

/-- `return false;` -/
def returnFalse (s : GearsonicInference K) : GearsonicInference K × Option StartResult :=
  (s, some (.returned false))

/-- `stop(); return false;` -/
def rollBack (s : GearsonicInference K) (i : StartInputs K) :
    GearsonicInference K × Option StartResult :=
  (s.stop i.loopPublished, some (.returned false))

/-- A yaml-cpp exception, which leaves `start`. -/
def escape (s : GearsonicInference K) : GearsonicInference K × Option StartResult :=
  (s, some .threw)

def perform (i : StartInputs K) (s : GearsonicInference K) :
    StartStage → GearsonicInference K × Option StartResult
  | .consoleTee => { s with consoleOpen := s.consoleOpen || i.consoleOpens }.goOn
  | .configLoad => if i.configLoads then s.goOn else s.returnFalse
  | .vrReader =>
    if i.vrReader then
      ({ s with vrStarted := true }.record [.vrReader, .inputHandler, .teleopTracker]).goOn
    else s.returnFalse
  | .stateReader =>
    match i.config.unitree with
    | none => s.escape
    | some (domainId, networkInterface) =>
      if i.stateReader domainId networkInterface then
        ({ s with robotStarted := true }.record [.stateReader]).goOn
      else s.rollBack i
  | .handStateReader =>
    if i.handStateReader then ({ s with handStateStarted := true }.record [.handStateReader]).goOn
    else s.rollBack i
  | .motorHealth =>
    match i.config.motorHealth with
    | none => s.escape
    | some () => ({ s with healthStarted := true }.record [.motorHealth]).goOn
  | .vlaReceiver =>
    if i.vlaReceiver then ({ s with vlaStarted := true }.record [.vlaReceiver]).goOn
    else s.rollBack i
  | .navReceiver =>
    if i.navReceiver then ({ s with navRxStarted := true }.record [.navReceiver]).goOn
    else s.rollBack i
  | .recordCommander =>
    match i.config.recordEnabled with
    | none => s.escape
    | some on =>
      if on && i.recordCommander then
        ({ s with recordCtlStarted := true }.record [.recordCommander]).goOn
      else s.goOn
  | .waitForState => if i.stateArrives then s.goOn else s.rollBack i
  | .planner =>
    match i.config.plannerModel with
    | none => s.escape
    | some modelPath =>
      if i.planner modelPath then ({ s with plannerStarted := true }.record [.planner]).goOn
      else s.rollBack i
  | .commandWriter =>
    if i.commandWriter then ({ s with writerStarted := true }.record [.commandWriter]).goOn
    else s.rollBack i
  | .handWriter =>
    match i.config.hand with
    | none => s.escape
    | some guard =>
      if i.handWriter guard then ({ s with handWriterStarted := true }.record [.handWriter]).goOn
      else s.rollBack i
  | .tokenPublisher =>
    if i.tokenPublisher then ({ s with tokenPubStarted := true }.record [.tokenPublisher]).goOn
    else s.rollBack i
  | .stateTrace =>
    match i.config.trace with
    | none => s.escape
    | some (on, path) =>
      if on && i.stateTrace path then ({ s with traceStarted := true }.record [.stateTrace]).goOn
      else s.goOn
  | .controller =>
    match i.config.control with
    | none => s.escape
    | some (encoderPath, decoderPath) =>
      if i.controller encoderPath decoderPath then
        ({ s with controlStarted := true }.record [.controller]).goOn
      else s.rollBack i

/-- Stage after stage, until one ends the call. -/
def performAll (i : StartInputs K) (s : GearsonicInference K) :
    List StartStage → GearsonicInference K × StartResult
  | [] => (s, .returned true)
  | stage :: stages =>
    match perform i s stage with
    | (s, none) => performAll i s stages
    | (s, some result) => (s, result)

/-- The stages that follow the VR reader. -/
def guardedStages : List StartStage :=
  [.stateReader, .handStateReader, .motorHealth, .vlaReceiver, .navReceiver, .recordCommander,
    .waitForState, .planner, .commandWriter, .handWriter, .tokenPublisher, .stateTrace, .controller]

def startStages : List StartStage := [.consoleTee, .configLoad, .vrReader] ++ guardedStages

/-- `GearsonicInference::start`. -/
def start (i : StartInputs K) (s : GearsonicInference K) : GearsonicInference K × StartResult :=
  performAll i s startStages

end GearsonicInference

end Gearsonic
