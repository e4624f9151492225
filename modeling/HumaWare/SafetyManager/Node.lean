import HumaWare.Msgs

/-! # The safety manager node

`safety_manager_node.py`, function by function. The node remembers when it last heard each of three
watched parties (the teleop and the hardware heartbeat, and the approved commands), the last mode,
and whether an MRM was latched by the `safety/trigger_mrm` service. Every publication evaluates the
watchdogs afresh and publishes one `SafetyState` and one `MRMState`; the service handlers publish as
well, and report the safety state that they published. -/

namespace HumaWare.SafetyManager

open Reactive

/-- `HEARTBEAT_MODES`. -/
def heartbeatModes : List UInt8 := [ModeState.modeTeleop, ModeState.modeAutonomy, ModeState.modeAiPolicy]

/-- `HeartbeatPolicy`. -/
structure HeartbeatPolicy where
  name : String
  timeout : Duration
  triggerMrm : Bool
  deriving DecidableEq, Repr

/-- `WatchdogResult`. -/
structure WatchdogResult where
  warnings : List String := []
  mrmReasons : List String := []
  deriving DecidableEq, Repr

/-- Append the reason of a finding to the MRM reasons or to the warnings. -/
def WatchdogResult.append (result : WatchdogResult) : Option (String × Bool) → WatchdogResult
  | none => result
  | some (reason, true) => { result with mrmReasons := result.mrmReasons ++ [reason] }
  | some (reason, false) => { result with warnings := result.warnings ++ [reason] }

/-- `check_heartbeat`: the reason and whether it triggers an MRM, when the heartbeat is missing or
stale. -/
def checkHeartbeat (now : Time) (lastSeen : Option Time) (policy : HeartbeatPolicy) :
    Option (String × Bool) :=
  match lastSeen with
  | none => some (policy.name ++ "_missing", policy.triggerMrm)
  | some t =>
    if now - t > policy.timeout then some (policy.name ++ "_timeout", policy.triggerMrm) else none

/-- `evaluate_watchdogs`. -/
def evaluateWatchdogs (now : Time) (activeMode : UInt8)
    (teleopLastSeen hardwareLastSeen approvedLastSeen : Option Time)
    (requireTeleopHeartbeat : Bool) (teleopPolicy : HeartbeatPolicy)
    (requireHardwareHeartbeat : Bool) (hardwarePolicy : HeartbeatPolicy)
    (monitorApprovedCommands : Bool) (approvedCommandTimeout : Duration)
    (approvedCommandTimeoutTriggersMrm : Bool) : WatchdogResult :=
  let result : WatchdogResult := {}
  let result :=
    if activeMode = ModeState.modeTeleop ∧ requireTeleopHeartbeat then
      result.append (checkHeartbeat now teleopLastSeen teleopPolicy)
    else result
  let result :=
    if activeMode ∈ heartbeatModes ∧ requireHardwareHeartbeat then
      result.append (checkHeartbeat now hardwareLastSeen hardwarePolicy)
    else result
  -- a staleness test only: nothing fires before the first approved command
  match approvedLastSeen with
  | none => result
  | some t =>
    if monitorApprovedCommands ∧ activeMode ∈ heartbeatModes ∧ now - t > approvedCommandTimeout then
      result.append (some ("approved_command_timeout", approvedCommandTimeoutTriggersMrm))
    else result

/-- `select_mrm_reason`. -/
def selectMrmReason (parameterMrmActive : Bool) (parameterMrmReason : String)
    (serviceMrmActive : Bool) (serviceMrmReason : String) (watchdogMrmReasons : List String) :
    String :=
  if parameterMrmActive ∧ parameterMrmReason ≠ "" then parameterMrmReason
  else if serviceMrmActive ∧ serviceMrmReason ≠ "" then serviceMrmReason
  else
    match watchdogMrmReasons with
    | reason :: _ => reason
    | [] =>
      if parameterMrmActive then "parameter_mrm_active"
      else if serviceMrmActive then "service_mrm_active"
      else ""

/-- The parameters the node reads while it runs. -/
structure Params where
  robotId : String := "mock_001"
  estopEngaged : Bool := false
  mrmActive : Bool := false
  mrmReason : String := ""
  requireTeleopHeartbeat : Bool := true
  teleopHeartbeatTimeout : Duration := 1000000000
  teleopHeartbeatTimeoutTriggersMrm : Bool := false
  requireHardwareHeartbeat : Bool := false
  hardwareHeartbeatTimeout : Duration := 1000000000
  hardwareHeartbeatTimeoutTriggersMrm : Bool := true
  monitorApprovedCommands : Bool := true
  approvedCommandTimeout : Duration := 1000000000
  approvedCommandTimeoutTriggersMrm : Bool := false
  deriving DecidableEq, Repr

/-- The request of `TriggerMRM` and of `ClearMRM`. -/
structure MRMRequest where
  requester : String := ""
  reason : String := ""
  deriving DecidableEq, Repr

/-- The response of `TriggerMRM` and of `ClearMRM`. -/
structure MRMResponse where
  accepted : Bool
  activeSafetyState : UInt8
  message : String
  deriving DecidableEq, Repr

/-- The node's fields, and the parameters in force. -/
structure State where
  params : Params
  activeMode : UInt8 := ModeState.modeInactive
  teleopHeartbeatAt : Option Time := none
  hardwareHeartbeatAt : Option Time := none
  approvedCommandAt : Option Time := none
  serviceMrmActive : Bool := false
  serviceMrmReason : String := ""
  currentSafetyState : UInt8 := SafetyState.stateUnknown
  deriving DecidableEq, Repr

/-- The node's callbacks. -/
inductive Event
  | teleopHeartbeat (msg : Header)
  | hardwareHeartbeat (msg : Header)
  | approvedCommand (msg : TwistStamped)
  | modeState (msg : ModeState)
  | triggerMrm (request : MRMRequest)
  | clearMrm (request : MRMRequest)
  | publishState
  | setParameters (params : Params)
  deriving DecidableEq

/-- What the node publishes and answers. -/
inductive Publication
  /-- on `safety/state` -/
  | safetyState (msg : SafetyState)
  /-- on `safety/mrm_state` -/
  | mrmState (msg : MRMState)
  /-- the response of `safety/trigger_mrm` -/
  | triggerResponse (response : MRMResponse)
  /-- the response of `safety/clear_mrm` -/
  | clearResponse (response : MRMResponse)
  deriving DecidableEq

/-- The policy of the teleop heartbeat. -/
def Params.teleopPolicy (p : Params) : HeartbeatPolicy where
  name := "teleop_heartbeat"
  timeout := p.teleopHeartbeatTimeout
  triggerMrm := p.teleopHeartbeatTimeoutTriggersMrm

/-- The policy of the hardware heartbeat. -/
def Params.hardwarePolicy (p : Params) : HeartbeatPolicy where
  name := "hardware_heartbeat"
  timeout := p.hardwareHeartbeatTimeout
  triggerMrm := p.hardwareHeartbeatTimeoutTriggersMrm

/-- `_publish_state`: the watchdogs it evaluates. -/
def watchdogs (s : State) (now : Time) : WatchdogResult :=
  evaluateWatchdogs now s.activeMode s.teleopHeartbeatAt s.hardwareHeartbeatAt s.approvedCommandAt
    s.params.requireTeleopHeartbeat s.params.teleopPolicy
    s.params.requireHardwareHeartbeat s.params.hardwarePolicy
    s.params.monitorApprovedCommands s.params.approvedCommandTimeout
    s.params.approvedCommandTimeoutTriggersMrm

/-- `_publish_state`: the reason it selects. -/
def mrmReason (s : State) (now : Time) : String :=
  selectMrmReason s.params.mrmActive s.params.mrmReason s.serviceMrmActive s.serviceMrmReason
    (watchdogs s now).mrmReasons

/-- `_publish_state`: whether any MRM source is active. -/
def mrmActive (s : State) (now : Time) : Bool :=
  s.params.mrmActive || s.serviceMrmActive || !(watchdogs s now).mrmReasons.isEmpty

/-- `_publish_state`: the safety message without its state and its lists. -/
def safetyHead (s : State) (now : Time) : SafetyState where
  header := { stamp := now, frameId := s.params.robotId }
  robotId := s.params.robotId
  estopEngaged := s.params.estopEngaged
  mrmActive := mrmActive s now
  lastHeartbeat := now

/-- `_publish_state`: the safety message. -/
def safetyMsg (s : State) (now : Time) : SafetyState :=
  if s.params.estopEngaged then
    { safetyHead s now with state := SafetyState.stateEstop, activeFaults := ["estop_engaged"] }
  else if mrmActive s now then
    { safetyHead s now with
      state := SafetyState.stateMrm
      activeWarnings := ["minimal_risk_maneuver_active"] ++ (watchdogs s now).warnings ++
        if mrmReason s now ≠ "" then [mrmReason s now] else [] }
  else if (watchdogs s now).warnings ≠ [] then
    { safetyHead s now with
      state := SafetyState.stateWarn, activeWarnings := (watchdogs s now).warnings }
  else
    { safetyHead s now with state := SafetyState.stateOk }

/-- `_publish_state`: the MRM message. -/
def mrmMsg (s : State) (now : Time) : MRMState where
  header := { stamp := now, frameId := s.params.robotId }
  robotId := s.params.robotId
  state :=
    if s.params.estopEngaged then MRMState.stateFault
    else if mrmActive s now then MRMState.stateStop
    else MRMState.stateNone
  reason := mrmReason s now
  timeout := durationMsg 0
  operatorInterventionRequested := mrmActive s now || s.params.estopEngaged

/-- `_publish_state`. -/
def publishState (s : State) (now : Time) : State × List Publication :=
  ({ s with currentSafetyState := (safetyMsg s now).state },
    [.safetyState (safetyMsg s now), .mrmState (mrmMsg s now)])

/-- `_handle_trigger_mrm`. -/
def handleTriggerMrm (s : State) (now : Time) (request : MRMRequest) : State × List Publication :=
  -- the latch is set before the publication, which therefore already reports the MRM
  let s := { s with
    serviceMrmActive := true, serviceMrmReason := orDefault request.reason "manual_mrm_trigger" }
  let (s, published) := publishState s now
  let requester := orDefault request.requester "anonymous"
  (s, published ++ [.triggerResponse
    { accepted := true
      activeSafetyState := s.currentSafetyState
      message := "MRM triggered by " ++ requester ++ ": " ++ s.serviceMrmReason }])

/-- `_handle_clear_mrm`. -/
def handleClearMrm (s : State) (now : Time) (request : MRMRequest) : State × List Publication :=
  -- a rejected clear keeps the latch and publishes neither state
  if s.params.estopEngaged then
    (s, [.clearResponse
      { accepted := false
        activeSafetyState := SafetyState.stateEstop
        message := "cannot clear MRM while E-stop is engaged" }])
  else
    -- the parameter and the watchdogs may keep the MRM up; the response then says so
    let s := { s with serviceMrmActive := false, serviceMrmReason := "" }
    let (s, published) := publishState s now
    let requester := orDefault request.requester "anonymous"
    let reason := orDefault request.reason "manual_mrm_clear"
    (s, published ++ [.clearResponse
      { accepted := true
        activeSafetyState := s.currentSafetyState
        message := "MRM cleared by " ++ requester ++ ": " ++ reason }])

/-- An input of the node: a callback and the clock reading at which it runs. -/
abbrev Input : Type := Stamped Time Event

/-- One callback of the node. -/
def step (s : State) (i : Input) : State × List Publication :=
  match i.event with
  | .teleopHeartbeat _ => ({ s with teleopHeartbeatAt := some i.now }, [])
  | .hardwareHeartbeat _ => ({ s with hardwareHeartbeatAt := some i.now }, [])
  | .approvedCommand _ => ({ s with approvedCommandAt := some i.now }, [])
  | .modeState msg => ({ s with activeMode := msg.activeMode }, [])
  | .triggerMrm request => handleTriggerMrm s i.now request
  | .clearMrm request => handleClearMrm s i.now request
  | .publishState => publishState s i.now
  | .setParameters params => ({ s with params := params }, [])

/-- The node, started with the parameters `params`. -/
def machine (params : Params) : Machine State Input (List Publication) where
  init := { params := params }
  step := step

end HumaWare.SafetyManager
