import HumaWare.Msgs
import HumaWare.Python.Dict
import HumaWare.Reactive.History

/-! # The diagnostics aggregator node

`diagnostics_aggregator_node.py`, function by function. The node keeps the last message of every
topic it listens to and when it came. A timer reads these samples once and publishes two messages
made of them: a `HealthState`, and a `DiagnosticArray` with one status for the runtime and one for
each topic. Every parameter but the name of the diagnostics topic is read when the timer runs. -/

namespace HumaWare.DiagnosticsAggregator

open Python Reactive

/-! ## The messages it keeps -/

/-- A message of one of the topics that the node subscribes to: each topic has a type of its own. -/
inductive Message
  | modeState (msg : ModeState)
  | modeTransitionState (msg : ModeTransitionState)
  | safetyState (msg : SafetyState)
  | mrmState (msg : MRMState)
  | locomotionState (msg : LocomotionState)
  | commandArbitrationState (msg : CommandArbitrationState)
  | navigationBridgeState (msg : NavigationBridgeState)
  | teleopHeartbeat (msg : Header)
  deriving DecidableEq, Repr

namespace Message

/-- The topic on which a message comes. -/
def topic : Message → String
  | .modeState _ => "mode/state"
  | .modeTransitionState _ => "mode/transition_state"
  | .safetyState _ => "safety/state"
  | .mrmState _ => "safety/mrm_state"
  | .locomotionState _ => "locomotion/state"
  | .commandArbitrationState _ => "runtime/command_arbitration_state"
  | .navigationBridgeState _ => "navigation/nav2_bridge_state"
  | .teleopHeartbeat _ => "teleop/heartbeat"

/-- `isinstance(msg, ModeState)`. -/
def modeState? : Message → Option ModeState
  | .modeState msg => some msg
  | _ => none

/-- `isinstance(msg, SafetyState)`. -/
def safetyState? : Message → Option SafetyState
  | .safetyState msg => some msg
  | _ => none

/-- `isinstance(msg, LocomotionState)`. -/
def locomotionState? : Message → Option LocomotionState
  | .locomotionState msg => some msg
  | _ => none

/-- `isinstance(msg, CommandArbitrationState)`. -/
def commandArbitrationState? : Message → Option CommandArbitrationState
  | .commandArbitrationState msg => some msg
  | _ => none

/-- `isinstance(msg, NavigationBridgeState)`. -/
def navigationBridgeState? : Message → Option NavigationBridgeState
  | .navigationBridgeState msg => some msg
  | _ => none

end Message

/-- `TopicSample`. -/
structure TopicSample where
  message : Option Message := none
  receivedAt : Option Time := none
  deriving DecidableEq, Repr

/-! ## The lists of topics -/

/-- `BASE_REQUIRED_TOPICS`. -/
def baseRequiredTopics : List String :=
  ["mode/state", "safety/state", "safety/mrm_state", "locomotion/state",
    "runtime/command_arbitration_state"]

/-- The keys of `_samples`. -/
def sampledTopics : List String :=
  ["mode/state", "mode/transition_state", "safety/state", "safety/mrm_state", "locomotion/state",
    "runtime/command_arbitration_state", "navigation/nav2_bridge_state", "teleop/heartbeat"]

/-- `required_topics`. -/
def requiredTopics (monitorNav2Bridge monitorTeleopHeartbeat : Bool) : List String :=
  let topics := baseRequiredTopics
  let topics := if monitorNav2Bridge then topics ++ ["navigation/nav2_bridge_state"] else topics
  if monitorTeleopHeartbeat then topics ++ ["teleop/heartbeat"] else topics

/-- `diagnostic_topic_list`. -/
def diagnosticTopicList (monitorNav2Bridge monitorTeleopHeartbeat nav2Seen teleopSeen : Bool) :
    List String :=
  let topics := baseRequiredTopics
  let topics :=
    if monitorNav2Bridge || nav2Seen then topics ++ ["navigation/nav2_bridge_state"] else topics
  if monitorTeleopHeartbeat || teleopSeen then topics ++ ["teleop/heartbeat"] else topics

/-- The test of `compute_stale_topics` on one topic. -/
def isStale (samples : Dict String TopicSample) (now : Time) (timeout : Duration) (topic : String) :
    Bool :=
  match (samples.get? topic).bind TopicSample.receivedAt with
  | none => true
  | some receivedAt => decide (now - receivedAt > timeout)

/-- `compute_stale_topics`. -/
def computeStaleTopics (samples : Dict String TopicSample) (requiredTopics : List String)
    (now : Time) (timeout : Duration) : List String :=
  requiredTopics.filter (isStale samples now timeout)

/-! ## Health -/

/-- `evaluate_health`. -/
def evaluateHealth (safetyState locomotionState : UInt8)
    (activeFaults activeWarnings staleTopics : List String) : UInt8 × String :=
  if staleTopics ≠ [] then (HealthState.healthStale, "stale runtime topics")
  else if safetyState ∈ [SafetyState.stateFault, SafetyState.stateEstop, SafetyState.stateMrm] then
    (HealthState.healthError, "safety state requires intervention")
  else if locomotionState = LocomotionState.stateFault then
    (HealthState.healthError, "locomotion fault")
  else if activeFaults ≠ [] then (HealthState.healthError, "active faults")
  else if safetyState = SafetyState.stateWarn ∨ activeWarnings ≠ [] then
    (HealthState.healthWarn, "active warnings")
  -- reached by every safety state that no rung names, `STATE_UNKNOWN` too
  else (HealthState.healthOk, "runtime healthy")

/-- `_diagnostic_level`. -/
def diagnosticLevel (healthState : UInt8) : UInt8 :=
  if healthState = HealthState.healthOk then DiagnosticStatus.ok
  else if healthState = HealthState.healthWarn then DiagnosticStatus.warn
  else if healthState = HealthState.healthError then DiagnosticStatus.error
  else if healthState = HealthState.healthStale then DiagnosticStatus.stale
  else DiagnosticStatus.stale

/-! ## The node -/

/-- The parameters the node reads while it runs. -/
structure Params where
  robotId : String := "mock_001"
  /-- `stale_timeout_s` -/
  staleTimeout : Duration := 1500000000
  monitorNav2Bridge : Bool := false
  monitorTeleopHeartbeat : Bool := false
  deriving DecidableEq, Repr

/-- `_required_topics`. -/
def Params.requiredTopics (params : Params) : List String :=
  DiagnosticsAggregator.requiredTopics params.monitorNav2Bridge params.monitorTeleopHeartbeat

/-- The node's fields, and the parameters in force. -/
structure State where
  params : Params
  samples : Dict String TopicSample

/-- The node's callbacks. -/
inductive Event
  | received (msg : Message)
  | publish
  | setParameters (params : Params)
  deriving DecidableEq, Repr

/-- What the node publishes. -/
inductive Publication
  /-- on `runtime/health` -/
  | health (msg : HealthState)
  /-- on the topic that `diagnostics_topic` names -/
  | diagnostics (msg : DiagnosticArray)
  deriving DecidableEq, Repr

/-- `_on_topic`. -/
def onTopic (s : State) (now : Time) (topic : String) (msg : Message) : State :=
  { s with samples := s.samples.set topic { message := some msg, receivedAt := some now } }

/-- `self._samples[topic]`; every topic that is asked for has a sample (`sampledTopics_after`). -/
def State.sample (s : State) (topic : String) : TopicSample := (s.samples.get? topic).getD {}

/-- `_message`. -/
def State.message {α : Type} (s : State) (topic : String) (expectedType : Message → Option α) :
    Option α :=
  (s.sample topic).message.bind expectedType

/-- `_has_seen`. -/
def State.hasSeen (s : State) (topic : String) : Bool := (s.sample topic).receivedAt.isSome

/-- `_stale_topics`. -/
def State.staleTopics (s : State) (now : Time) : List String :=
  computeStaleTopics s.samples s.params.requiredTopics now s.params.staleTimeout

/-- `_build_health`. -/
def buildHealth (s : State) (now : Time) (staleTopics : List String) : HealthState :=
  let mode := s.message "mode/state" Message.modeState?
  let safety := s.message "safety/state" Message.safetyState?
  let locomotion := s.message "locomotion/state" Message.locomotionState?
  let command := s.message "runtime/command_arbitration_state" Message.commandArbitrationState?
  let nav2 := s.message "navigation/nav2_bridge_state" Message.navigationBridgeState?
  let safetyState := (safety.map SafetyState.state).getD SafetyState.stateUnknown
  let locomotionState := (locomotion.map LocomotionState.state).getD LocomotionState.stateUnknown
  let activeFaults := (safety.map SafetyState.activeFaults).getD []
  let activeWarnings := (safety.map SafetyState.activeWarnings).getD []
  let verdict := evaluateHealth safetyState locomotionState activeFaults activeWarnings staleTopics
  { header := { stamp := now, frameId := s.params.robotId }
    robotId := s.params.robotId
    state := verdict.1
    summary := verdict.2
    mode := (mode.map ModeState.activeMode).getD ModeState.modeUnknown
    safetyState := safetyState
    locomotionState := locomotionState
    commandSource :=
      (command.map CommandArbitrationState.activeSource).getD CommandArbitrationState.sourceNone
    nav2BridgeState := (nav2.map NavigationBridgeState.state).getD NavigationBridgeState.stateUnknown
    commandOutputEnabled := (command.map CommandArbitrationState.outputEnabled).getD false
    nav2OutputEnabled := (nav2.map NavigationBridgeState.outputEnabled).getD false
    activeFaults := activeFaults
    activeWarnings := activeWarnings
    staleTopics := staleTopics }

/-- `str(b)`. -/
def strBool (b : Bool) : String := if b then "True" else "False"

/-- `_runtime_status`. -/
def runtimeStatus (health : HealthState) : DiagnosticStatus where
  level := diagnosticLevel health.state
  name := health.robotId ++ "/runtime_health"
  message := health.summary
  hardwareId := health.robotId
  values :=
    [⟨"mode", toString health.mode⟩,
      ⟨"safety_state", toString health.safetyState⟩,
      ⟨"locomotion_state", toString health.locomotionState⟩,
      ⟨"command_source", toString health.commandSource⟩,
      ⟨"nav2_bridge_state", toString health.nav2BridgeState⟩,
      ⟨"command_output_enabled", strBool health.commandOutputEnabled⟩,
      ⟨"nav2_output_enabled", strBool health.nav2OutputEnabled⟩,
      ⟨"stale_topics", ",".intercalate health.staleTopics⟩,
      ⟨"active_warnings", ",".intercalate health.activeWarnings⟩,
      ⟨"active_faults", ",".intercalate health.activeFaults⟩]

/-- `_topic_status`. -/
def topicStatus (s : State) (staleTopics : List String) (topic : String) : DiagnosticStatus :=
  let sample := s.sample topic
  { level := if topic ∈ staleTopics then DiagnosticStatus.stale else DiagnosticStatus.ok
    name := s.params.robotId ++ "/" ++ topic
    message :=
      if topic ∈ staleTopics then (if sample.receivedAt.isSome then "stale" else "missing")
      else "ok"
    hardwareId := s.params.robotId
    values := [⟨"topic", topic⟩, ⟨"seen", strBool sample.receivedAt.isSome⟩] }

/-- `_build_diagnostics`: the topics it shows. -/
def State.diagnosticTopics (s : State) : List String :=
  diagnosticTopicList s.params.monitorNav2Bridge s.params.monitorTeleopHeartbeat
    (s.hasSeen "navigation/nav2_bridge_state") (s.hasSeen "teleop/heartbeat")

/-- `_build_diagnostics`. -/
def buildDiagnostics (s : State) (now : Time) (health : HealthState) (staleTopics : List String) :
    DiagnosticArray where
  header := { stamp := now }
  status := runtimeStatus health :: s.diagnosticTopics.map (topicStatus s staleTopics)

/-- `_publish`. -/
def publish (s : State) (now : Time) : List Publication :=
  let staleTopics := s.staleTopics now
  let health := buildHealth s now staleTopics
  let diagnostics := buildDiagnostics s now health staleTopics
  [.health health, .diagnostics diagnostics]

/-- An input of the node: a callback and the clock reading at which it runs. -/
abbrev Input : Type := Stamped Time Event

/-- One callback of the node. -/
def step (s : State) (i : Input) : State × List Publication :=
  match i.event with
  | .received msg => (onTopic s i.now msg.topic msg, [])
  | .publish => (s, publish s i.now)
  | .setParameters params => ({ s with params := params }, [])

/-- `__init__`: a sample for every topic, none of them received yet. -/
def init (params : Params) : State where
  params := params
  samples :=
    { items := sampledTopics.map fun topic => (topic, {})
      nodup := by
        rw [List.map_map]
        decide }

/-- The node, started with the parameters `params`. -/
def machine (params : Params) : Machine State Input (List Publication) where
  init := init params
  step := step

end HumaWare.DiagnosticsAggregator
