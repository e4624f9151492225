import HumaWare.Msgs

/-! # The hardware adapter template node

`template_adapter_node.py`, function by function. The node keeps the last value of five streams; its
timer publishes diagnostics and then either applies the last approved command to the hardware or
stops it. What the timer does to the hardware is an effect of the callback, beside what it
publishes. -/

namespace HumaWare.HardwareAdapter

open Reactive

/-- `GATE_OPEN_REASON`. -/
def gateOpenReason : String := "approved_command"

/-- `AdapterIdentity`. -/
structure AdapterIdentity where
  robotModel : String := "unset"
  firmwareVersion : String := "unset"
  sdkVersion : String := "unset"
  gitSha : String := "unset"
  launchProfile : String := "unset"
  deriving DecidableEq, Repr

/-- `as_key_values`. -/
def AdapterIdentity.asKeyValues (identity : AdapterIdentity) : List KeyValue :=
  [⟨"robot_model", identity.robotModel⟩, ⟨"firmware_version", identity.firmwareVersion⟩,
    ⟨"sdk_version", identity.sdkVersion⟩, ⟨"git_sha", identity.gitSha⟩,
    ⟨"launch_profile", identity.launchProfile⟩]

/-- `should_release_output`. -/
def shouldReleaseOutput (safetyState mrmState activeMode : UInt8)
    (lastApprovedAt lastArbitrationAt : Option Time) (arbitrationOutputEnabled : Bool) (now : Time)
    (approvedCommandTimeout arbitrationStateTimeout : Duration) : Bool × String :=
  if safetyState ∈ [SafetyState.stateFault, SafetyState.stateEstop, SafetyState.stateMrm] then
    (false, "safety_state_blocks_output")
  else if safetyState ∉ [SafetyState.stateOk, SafetyState.stateWarn] then
    (false, "safety_state_not_ready")
  else if mrmState ≠ MRMState.stateNone then (false, "mrm_state_blocks_output")
  else if activeMode ∉ [ModeState.modeTeleop, ModeState.modeAutonomy, ModeState.modeAiPolicy] then
    (false, "active_mode_blocks_output")
  else
    match lastArbitrationAt with
    | none => (false, "waiting_for_arbitration_state")
    | some arbitrationAt =>
      if now - arbitrationAt > arbitrationStateTimeout then (false, "arbitration_state_stale")
      else if ¬arbitrationOutputEnabled then (false, "arbiter_disabled_output")
      else
        match lastApprovedAt with
        | none => (false, "waiting_for_approved_command")
        | some approvedAt =>
          if now - approvedAt > approvedCommandTimeout then (false, "approved_command_stale")
          else (true, gateOpenReason)

/-- The parameters the node reads while it runs. -/
structure Params where
  robotId : String := "mock_001"
  identity : AdapterIdentity := {}
  approvedCommandTimeout : Duration := 500000000
  arbitrationStateTimeout : Duration := 1000000000
  deriving DecidableEq, Repr

/-- The node's fields, and the parameters in force. -/
structure State where
  params : Params
  safetyState : UInt8 := SafetyState.stateUnknown
  -- the only initial value that lets output pass: the others wait for their first message
  mrmState : UInt8 := MRMState.stateNone
  activeMode : UInt8 := ModeState.modeInactive
  lastApproved : Option TwistStamped := none
  lastApprovedAt : Option Time := none
  lastArbitration : Option CommandArbitrationState := none
  lastArbitrationAt : Option Time := none
  deriving DecidableEq, Repr

/-- The node's callbacks. -/
inductive Event
  | safetyState (msg : SafetyState)
  | mrmState (msg : MRMState)
  | modeState (msg : ModeState)
  | approvedCommand (msg : TwistStamped)
  | arbitrationState (msg : CommandArbitrationState)
  | tick
  | publishHeartbeat
  | setParameters (params : Params)
  deriving DecidableEq

/-- What the node publishes, and what it does to the hardware. -/
inductive Effect
  /-- on `/diagnostics` -/
  | diagnostics (msg : DiagnosticArray)
  /-- on `hardware/heartbeat` -/
  | heartbeat (msg : Header)
  /-- `_apply_to_hardware` -/
  | applyToHardware (command : TwistStamped) (reason : String)
  /-- `_stop_hardware` -/
  | stopHardware (reason : String)
  deriving DecidableEq

/-- `_tick`: the answer of the gate. -/
def release (s : State) (now : Time) : Bool × String :=
  shouldReleaseOutput s.safetyState s.mrmState s.activeMode s.lastApprovedAt s.lastArbitrationAt
    (match s.lastArbitration with
      | none => false
      | some arbitration => arbitration.outputEnabled)
    now s.params.approvedCommandTimeout s.params.arbitrationStateTimeout

/-- `_publish_diagnostics`. -/
def diagnosticsMsg (s : State) (allow : Bool) (reason : String) (now : Time) : DiagnosticArray where
  header := { stamp := now }
  status :=
    [{ level := if allow then DiagnosticStatus.ok else DiagnosticStatus.warn
       name := s.params.robotId ++ "/hardware_adapter_template"
       message := reason
       hardwareId := s.params.identity.robotModel
       values := s.params.identity.asKeyValues ++
        [⟨"output_allowed", toString allow⟩, ⟨"active_mode", toString s.activeMode⟩,
          ⟨"safety_state", toString s.safetyState⟩, ⟨"mrm_state", toString s.mrmState⟩] }]

/-- `_tick`. -/
def tick (s : State) (now : Time) : List Effect :=
  let (allow, reason) := release s now
  .diagnostics (diagnosticsMsg s allow reason now) ::
    match s.lastApproved with
    | none => [.stopHardware reason]
    | some command => if ¬allow then [.stopHardware reason] else [.applyToHardware command reason]

/-- An input of the node: a callback and the clock reading at which it runs. -/
abbrev Input : Type := Stamped Time Event

/-- One callback of the node. -/
def step (s : State) (i : Input) : State × List Effect :=
  match i.event with
  | .safetyState msg => ({ s with safetyState := msg.state }, [])
  | .mrmState msg => ({ s with mrmState := msg.state }, [])
  | .modeState msg => ({ s with activeMode := msg.activeMode }, [])
  | .approvedCommand msg => ({ s with lastApproved := some msg, lastApprovedAt := some i.now }, [])
  | .arbitrationState msg =>
    ({ s with lastArbitration := some msg, lastArbitrationAt := some i.now }, [])
  | .tick => (s, tick s i.now)
  | .publishHeartbeat => (s, [.heartbeat { stamp := i.now, frameId := s.params.robotId }])
  | .setParameters params => ({ s with params := params }, [])

/-- The node, started with the parameters `params`. -/
def machine (params : Params) : Machine State Input (List Effect) where
  init := { params := params }
  step := step

/-- The node starts with its defaults. -/
@[simp] theorem machine_init (params : Params) : (machine params).init = { params := params } := rfl

/-- A step of the machine is a callback of the node. -/
@[simp] theorem machine_next (params : Params) (s : State) (i : Input) :
    (machine params).next s i = (step s i).1 := rfl

/-- The machine outputs what the callback publishes and does. -/
@[simp] theorem machine_out (params : Params) (s : State) (i : Input) :
    (machine params).out s i = (step s i).2 := rfl

end HumaWare.HardwareAdapter
