import HumaWare.Msgs
import HumaWare.Python.Dict
import HumaWare.Reactive.History

/-! # The capability registry node

`capability_registry_node.py`, function by function. The node publishes what the robot can do now:
for each of six capabilities the static metadata and a state made of the mode, the safety state and
the locomotion state received last. A service lists all of them or those asked for by name. -/

namespace HumaWare.CapabilityRegistry

open Python Reactive

/-! ## The specifications -/

/-- `CapabilitySpec`. -/
structure CapabilitySpec where
  name : String
  requiredMode : String
  ownerNode : String
  requiredHardware : List String
  inputType : String
  outputType : String
  timeoutS : ℚ
  safetyConstraints : List String
  recoveryBehavior : String
  deriving DecidableEq, Repr

/-- `DEFAULT_CAPABILITIES`: standing up. -/
def stand : CapabilitySpec where
  name := "stand"
  requiredMode := "inactive|teleop|autonomy|ai_policy"
  ownerNode := "mock_locomotion_adapter"
  requiredHardware := ["legs", "imu"]
  inputType := "std_msgs/msg/Empty"
  outputType := "humaware_msgs/msg/LocomotionState"
  timeoutS := 5
  safetyConstraints := ["safety_ok_or_warn", "not_estop", "balance_required"]
  recoveryBehavior := "stop"

/-- `DEFAULT_CAPABILITIES`: the stop. -/
def stop : CapabilitySpec where
  name := "stop"
  requiredMode := "any"
  ownerNode := "command_arbiter"
  requiredHardware := ["legs"]
  inputType := "std_msgs/msg/Empty"
  outputType := "geometry_msgs/msg/TwistStamped"
  timeoutS := 1 / 2
  safetyConstraints := ["always_available", "command_timeout"]
  recoveryBehavior := "hold_stop"

/-- `DEFAULT_CAPABILITIES`: walking. -/
def walkVelocity : CapabilitySpec where
  name := "walk_velocity"
  requiredMode := "teleop|autonomy|ai_policy"
  ownerNode := "command_arbiter"
  requiredHardware := ["legs", "imu"]
  inputType := "geometry_msgs/msg/TwistStamped"
  outputType := "humaware_msgs/msg/LocomotionState"
  timeoutS := 3 / 4
  safetyConstraints := ["safety_ok_or_warn", "velocity_limit", "balance_required"]
  recoveryBehavior := "stop"

/-- `DEFAULT_CAPABILITIES`: turning. -/
def turnInPlace : CapabilitySpec where
  name := "turn_in_place"
  requiredMode := "teleop|autonomy|ai_policy"
  ownerNode := "command_arbiter"
  requiredHardware := ["legs", "imu"]
  inputType := "geometry_msgs/msg/TwistStamped"
  outputType := "humaware_msgs/msg/LocomotionState"
  timeoutS := 3 / 4
  safetyConstraints := ["safety_ok_or_warn", "angular_velocity_limit", "balance_required"]
  recoveryBehavior := "stop"

/-- `DEFAULT_CAPABILITIES`: getting up again. -/
def recoverPosture : CapabilitySpec where
  name := "recover_posture"
  requiredMode := "maintenance|inactive|teleop"
  ownerNode := "safety_manager"
  requiredHardware := ["legs", "imu"]
  inputType := "std_msgs/msg/Empty"
  outputType := "humaware_msgs/msg/SafetyState"
  timeoutS := 15
  safetyConstraints := ["operator_supervision", "not_estop"]
  recoveryBehavior := "request_teleop"

/-- `DEFAULT_CAPABILITIES`: calling the operator. -/
def requestTeleop : CapabilitySpec where
  name := "request_teleop"
  requiredMode := "any"
  ownerNode := "mode_manager"
  requiredHardware := []
  inputType := "std_msgs/msg/String"
  outputType := "humaware_msgs/msg/ModeState"
  timeoutS := 2
  safetyConstraints := ["operator_available"]
  recoveryBehavior := "hold_mode"

/-- `DEFAULT_CAPABILITIES`. -/
def defaultCapabilities : List CapabilitySpec :=
  [stand, stop, walkVelocity, turnInPlace, recoverPosture, requestTeleop]

/-! ## The state of a capability -/

/-- `active_motion_modes`. -/
def activeMotionModes : List UInt8 :=
  [ModeState.modeTeleop, ModeState.modeAutonomy, ModeState.modeAiPolicy]

/-- `recover_modes`. -/
def recoverModes : List UInt8 :=
  [ModeState.modeMaintenance, ModeState.modeInactive, ModeState.modeTeleop]

/-- `executing_locomotion_states`. -/
def executingLocomotionStates : List UInt8 :=
  [LocomotionState.stateWalking, LocomotionState.stateTurning]

/-- `intervention_states`. -/
def interventionStates : List UInt8 :=
  [SafetyState.stateFault, SafetyState.stateEstop, SafetyState.stateMrm]

/-- `capability_state`. -/
def capabilityState (spec : CapabilitySpec) (mode safety locomotion : UInt8) : UInt8 :=
  if mode = ModeState.modeShutdown then Capability.stateUnavailable
  else if spec.name = "stop" then Capability.stateIdle
  else if spec.name = "request_teleop" then
    if safety ∈ interventionStates then Capability.stateDegraded else Capability.stateIdle
  else if safety ∈ [SafetyState.stateFault, SafetyState.stateEstop] then Capability.stateFault
  else if safety = SafetyState.stateMrm then
    -- asks for the mode itself: the mode tests below are not reached under an MRM
    if spec.name = "recover_posture" ∧ mode ∈ recoverModes then Capability.stateDegraded
    else Capability.stateUnavailable
  else if safety = SafetyState.stateUnknown then Capability.stateUnavailable
  else if spec.name ∈ ["walk_velocity", "turn_in_place"] ∧ mode ∉ activeMotionModes then
    Capability.stateUnavailable
  else if spec.name = "recover_posture" ∧ mode ∉ recoverModes then Capability.stateUnavailable
  -- names one mode that forbids standing, where the tests above name those that permit
  else if spec.name = "stand" ∧ mode = ModeState.modeMaintenance then Capability.stateUnavailable
  else if spec.name ∈ ["walk_velocity", "turn_in_place"] ∧
      locomotion ∈ executingLocomotionStates then Capability.stateExecuting
  else if safety = SafetyState.stateOk then Capability.stateIdle
  else Capability.stateDegraded

/-- `int(q)`: rounded towards zero. -/
def truncate (q : ℚ) : ℤ := q.num.tdiv q.den

/-- `duration_msg`. -/
def durationMsg (seconds : ℚ) : DurationMsg :=
  let wholeSeconds := truncate seconds
  { sec := wholeSeconds, nanosec := truncate ((seconds - wholeSeconds) * 1000000000) }

/-- `humaware_msgs/Capability`: what the skill server reads of it, and the rest. -/
structure CapabilityMsg extends Capability where
  requiredMode : String
  ownerNode : String
  requiredHardware : List String
  inputType : String
  outputType : String
  safetyConstraints : List String
  recoveryBehavior : String
  deriving DecidableEq, Repr

/-- `build_capability`. -/
def buildCapability (spec : CapabilitySpec) (mode safety locomotion : UInt8) : CapabilityMsg where
  name := spec.name
  state := capabilityState spec mode safety locomotion
  requiredMode := spec.requiredMode
  ownerNode := spec.ownerNode
  requiredHardware := spec.requiredHardware
  inputType := spec.inputType
  outputType := spec.outputType
  timeout := durationMsg spec.timeoutS
  safetyConstraints := spec.safetyConstraints
  recoveryBehavior := spec.recoveryBehavior

/-! ## The node -/

/-- The parameters the node reads while it runs. -/
structure Params where
  robotId : String := "mock_001"
  deriving DecidableEq, Repr

/-- `humaware_msgs/CapabilityRegistry`. -/
structure RegistryMsg where
  header : Header
  robotId : String
  capabilities : List CapabilityMsg
  deriving DecidableEq, Repr

/-- `ListCapabilities.Request`. -/
structure ListCapabilitiesRequest where
  names : List String := []
  deriving DecidableEq, Repr

/-- `ListCapabilities.Response`. -/
structure ListCapabilitiesResponse where
  capabilities : List CapabilityMsg
  missingNames : List String
  deriving DecidableEq, Repr

/-- The node's fields, and the parameters in force. -/
structure State where
  params : Params
  mode : UInt8 := ModeState.modeUnknown
  safety : UInt8 := SafetyState.stateUnknown
  locomotion : UInt8 := LocomotionState.stateUnknown
  deriving DecidableEq, Repr

/-- The node's callbacks. -/
inductive Event
  | modeState (msg : ModeState)
  | safetyState (msg : SafetyState)
  | locomotionState (msg : LocomotionState)
  | listCapabilities (request : ListCapabilitiesRequest)
  | publish
  | setParameters (params : Params)
  deriving DecidableEq

/-- What the node publishes and answers. -/
inductive Publication
  /-- on `capabilities` -/
  | registry (msg : RegistryMsg)
  /-- the response of `capabilities/list` -/
  | response (response : ListCapabilitiesResponse)
  deriving DecidableEq

/-- `_capabilities`. -/
def State.capabilities (s : State) : List CapabilityMsg :=
  defaultCapabilities.map fun spec => buildCapability spec s.mode s.safety s.locomotion

/-- `_on_list_capabilities`. -/
def onListCapabilities (s : State) (request : ListCapabilitiesRequest) : ListCapabilitiesResponse :=
  let byName := Dict.ofValues (fun capability : CapabilityMsg => capability.name) s.capabilities
  if request.names ≠ [] then
    { capabilities := request.names.filterMap byName.get?
      missingNames := request.names.filter fun name => (byName.get? name).isNone }
  else { capabilities := s.capabilities, missingNames := [] }

/-- `_publish`. -/
def publish (s : State) (now : Time) : List Publication :=
  [.registry
    { header := { stamp := now, frameId := s.params.robotId }
      robotId := s.params.robotId
      capabilities := s.capabilities }]

/-- An input of the node: a callback and the clock reading at which it runs. -/
abbrev Input : Type := Stamped Time Event

/-- One callback of the node. -/
def step (s : State) (i : Input) : State × List Publication :=
  match i.event with
  | .modeState msg => ({ s with mode := msg.activeMode }, [])
  | .safetyState msg => ({ s with safety := msg.state }, [])
  | .locomotionState msg => ({ s with locomotion := msg.state }, [])
  | .listCapabilities request => (s, [.response (onListCapabilities s request)])
  | .publish => (s, publish s i.now)
  | .setParameters params => ({ s with params := params }, [])

/-- `__init__`, at the clock reading `startedAt`: the state, and the first publication. -/
def init (params : Params) (startedAt : Time) : State × List Publication :=
  let s : State := { params := params }
  (s, publish s startedAt)

/-- The node, started with the parameters `params` at the clock reading `startedAt`. -/
def machine (params : Params) (startedAt : Time) : Machine State Input (List Publication) where
  init := (init params startedAt).1
  step := step

/-- The modes received. -/
def modeStream (i : Input) : Option UInt8 :=
  match i.event with
  | .modeState msg => some msg.activeMode
  | _ => none

/-- The safety states received. -/
def safetyStream (i : Input) : Option UInt8 :=
  match i.event with
  | .safetyState msg => some msg.state
  | _ => none

/-- The locomotion states received. -/
def locomotionStream (i : Input) : Option UInt8 :=
  match i.event with
  | .locomotionState msg => some msg.state
  | _ => none

/-! ## What the node holds -/

/-- The node holds the mode received last. -/
theorem mode_after (params : Params) (startedAt : Time) (h : List Input) :
    ((machine params startedAt).after h).mode =
      (latest modeStream h).getD ModeState.modeUnknown := by
  apply Machine.latest_register _ State.mode
  rintro s ⟨now, event⟩
  cases event <;> rfl

/-- The node holds the safety state received last. -/
theorem safety_after (params : Params) (startedAt : Time) (h : List Input) :
    ((machine params startedAt).after h).safety =
      (latest safetyStream h).getD SafetyState.stateUnknown := by
  apply Machine.latest_register _ State.safety
  rintro s ⟨now, event⟩
  cases event <;> rfl

/-- The node holds the locomotion state received last. -/
theorem locomotion_after (params : Params) (startedAt : Time) (h : List Input) :
    ((machine params startedAt).after h).locomotion =
      (latest locomotionStream h).getD LocomotionState.stateUnknown := by
  apply Machine.latest_register _ State.locomotion
  rintro s ⟨now, event⟩
  cases event <;> rfl

/-- The timeout of every default is told exactly. -/
theorem timeout_defaultCapabilities {spec : CapabilitySpec} (hspec : spec ∈ defaultCapabilities) :
    ((durationMsg spec.timeoutS).sec : ℚ) + (durationMsg spec.timeoutS).nanosec / 1000000000 =
      spec.timeoutS := by
  revert spec
  decide +kernel

end HumaWare.CapabilityRegistry
