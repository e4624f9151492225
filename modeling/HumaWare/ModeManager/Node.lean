import HumaWare.Msgs

/-! # The mode manager node

`mode_manager_node.py`, function by function. The node owns the active mode: it starts in the
`initial_mode` parameter, changes on accepted `mode/set` and `mode/takeover` requests, and publishes
one `ModeTransitionState` for every request, accepted or not. The last safety state received decides
which transitions the guard lets through. -/

namespace HumaWare.ModeManager

open Reactive

/-- `MODE_NAMES`. -/
def modeNames : List (String × UInt8) :=
  [("maintenance", ModeState.modeMaintenance), ("inactive", ModeState.modeInactive),
    ("teleop", ModeState.modeTeleop), ("autonomy", ModeState.modeAutonomy),
    ("ai_policy", ModeState.modeAiPolicy), ("fault", ModeState.modeFault),
    ("shutdown", ModeState.modeShutdown)]

/-- `MODE_VALUES`. -/
def modeValues : List UInt8 := modeNames.map Prod.snd

/-- `ACTIVE_MODES`. -/
def activeModes : List UInt8 := ModeState.activeModes

/-- `AUTONOMY_MODES`. -/
def autonomyModes : List UInt8 := [ModeState.modeAutonomy, ModeState.modeAiPolicy]

/-- `AI_POLICY_ENTRY_MODES`. -/
def aiPolicyEntryModes : List UInt8 := [ModeState.modeTeleop, ModeState.modeAutonomy]

/-- `AUTONOMY_BLOCKING_SAFETY_STATES`. -/
def autonomyBlockingSafetyStates : List UInt8 :=
  [SafetyState.stateUnknown, SafetyState.stateFault, SafetyState.stateEstop, SafetyState.stateMrm]

/-- A value of the parameter `initial_mode`. -/
inductive InitialMode
  | str (value : String)
  /-- A value that is not a string, as `int` reads it. -/
  | int (value : ℤ)
  deriving DecidableEq, Repr

/-- `str.lower`. No character outside of ASCII becomes a letter of a mode name. -/
def lower (s : String) : String := String.ofList (s.toList.map Char.toLower)

/-- `_parse_initial_mode`. -/
def parseInitialMode : InitialMode → UInt8
  | .str value => (modeNames.lookup (lower value)).getD ModeState.modeInactive
  | .int value => (modeValues.find? fun mode => (mode.toNat : ℤ) = value).getD ModeState.modeInactive

/-- `evaluate_transition`. -/
def evaluateTransition (activeMode requestedMode : UInt8) (safetySeen : Bool) (safetyState : UInt8)
    (takeover : Bool) : Bool × String :=
  if activeMode = ModeState.modeShutdown ∧ requestedMode ≠ ModeState.modeShutdown then
    (false, "shutdown_is_terminal")
  -- accepted before any safety test, and applied like a change
  else if requestedMode = activeMode then (true, "mode_unchanged")
  -- a takeover never looks at the safety state
  else if takeover then
    if activeMode ∉ activeModes then (false, "takeover_requires_autonomy_ai_or_teleop")
    else (true, "operator_takeover_accepted")
  else if requestedMode ∈ activeModes ∧ ¬safetySeen then (false, "safety_state_unknown")
  else if requestedMode ∈ autonomyModes ∧ safetyState ∈ autonomyBlockingSafetyStates then
    (false, "safety_state_blocks_autonomy")
  else if activeMode = ModeState.modeMaintenance ∧ requestedMode ∈ autonomyModes then
    (false, "maintenance_requires_intermediate_mode")
  else if requestedMode = ModeState.modeAiPolicy ∧ activeMode ∉ aiPolicyEntryModes then
    (false, "ai_policy_requires_active_runtime_mode")
  else (true, "mode accepted")

/-- The parameters of the node; `initial_mode` is read at construction only. -/
structure Params where
  robotId : String := "mock_001"
  initialMode : InitialMode := .str "inactive"
  deriving DecidableEq, Repr

/-- `SetMode.Request`. -/
structure SetModeRequest where
  requestedMode : UInt8
  requester : String := ""
  reason : String := ""
  deriving DecidableEq, Repr

/-- `SetMode.Response`. -/
structure SetModeResponse where
  accepted : Bool
  activeMode : UInt8
  message : String
  deriving DecidableEq, Repr

/-- `Takeover.Request`. -/
structure TakeoverRequest where
  requester : String := ""
  reason : String := ""
  deriving DecidableEq, Repr

/-- `Takeover.Response`. -/
structure TakeoverResponse where
  accepted : Bool
  previousMode : UInt8
  activeMode : UInt8
  message : String
  deriving DecidableEq, Repr

/-- The node's fields, and the parameters in force. -/
structure State where
  params : Params
  requestedMode : UInt8
  activeMode : UInt8
  owner : String := "mode_manager"
  transitionReason : String := "initial_mode"
  activeSince : Time
  safetyState : UInt8 := SafetyState.stateUnknown
  safetySeen : Bool := false
  deriving DecidableEq, Repr

/-- The node's callbacks. -/
inductive Event
  | setMode (request : SetModeRequest)
  | takeover (request : TakeoverRequest)
  | safetyState (msg : SafetyState)
  | publishState
  | setParameters (params : Params)
  deriving DecidableEq

/-- What the node publishes and answers. -/
inductive Publication
  /-- on `mode/state` -/
  | modeState (msg : ModeState)
  /-- on `mode/transition_state` -/
  | transitionState (msg : ModeTransitionState)
  /-- the response of `mode/set` -/
  | setModeResponse (response : SetModeResponse)
  /-- the response of `mode/takeover` -/
  | takeoverResponse (response : TakeoverResponse)
  deriving DecidableEq

/-- `_apply_mode`. -/
def applyMode (s : State) (now : Time) (requestedMode : UInt8) (requester reason : String) : State :=
  { s with
    requestedMode := requestedMode
    activeMode := requestedMode
    owner := requester
    transitionReason := reason
    activeSince := now }

/-- `_publish_state`: the message it publishes. -/
def stateMsg (s : State) (now : Time) : ModeState where
  header := { stamp := now, frameId := s.params.robotId }
  robotId := s.params.robotId
  requestedMode := s.requestedMode
  activeMode := s.activeMode
  owner := s.owner
  transitionReason := s.transitionReason
  activeSince := s.activeSince

/-- `_publish_transition`: the message it publishes. -/
def transitionMsg (s : State) (now : Time) (previousMode requestedMode : UInt8)
    (requester reason : String) (outcome : UInt8) (message : String) (takeover : Bool) :
    ModeTransitionState where
  header := { stamp := now, frameId := s.params.robotId }
  robotId := s.params.robotId
  previousMode := previousMode
  requestedMode := requestedMode
  activeMode := s.activeMode
  requester := requester
  reason := reason
  outcome := outcome
  message := message
  takeover := takeover

/-- `_evaluate_transition`. -/
def State.evaluateTransition (s : State) (requestedMode : UInt8) (takeover : Bool) : Bool × String :=
  ModeManager.evaluateTransition s.activeMode requestedMode s.safetySeen s.safetyState takeover

/-- `_handle_set_mode`. -/
def handleSetMode (s : State) (now : Time) (request : SetModeRequest) : State × List Publication :=
  let requester := orDefault request.requester "anonymous"
  let reason := orDefault request.reason "mode_set"
  if request.requestedMode ∉ modeValues then
    let message := "unsupported mode: " ++ toString request.requestedMode
    (s, [.transitionState (transitionMsg s now s.activeMode request.requestedMode requester reason
        ModeTransitionState.outcomeRejected message false),
      .setModeResponse { accepted := false, activeMode := s.activeMode, message := message }])
  else
    let (accepted, message) := s.evaluateTransition request.requestedMode false
    let previousMode := s.activeMode
    if ¬accepted then
      -- the request is remembered, unlike one for an unsupported mode
      let s := { s with requestedMode := request.requestedMode }
      (s, [.transitionState (transitionMsg s now previousMode request.requestedMode requester reason
          ModeTransitionState.outcomeRejected message false),
        .setModeResponse { accepted := false, activeMode := s.activeMode, message := message }])
    else
      let s := applyMode s now request.requestedMode requester reason
      (s, [.transitionState (transitionMsg s now previousMode request.requestedMode requester reason
          ModeTransitionState.outcomeAccepted message false),
        .modeState (stateMsg s now),
        .setModeResponse { accepted := true, activeMode := s.activeMode, message := message }])

/-- `_handle_takeover`. -/
def handleTakeover (s : State) (now : Time) (request : TakeoverRequest) : State × List Publication :=
  let requester := orDefault request.requester "operator"
  let reason := orDefault request.reason "operator_takeover"
  let previousMode := s.activeMode
  let (accepted, message) := s.evaluateTransition ModeState.modeTeleop true
  let s := if accepted then applyMode s now ModeState.modeTeleop requester reason else s
  (s, [.transitionState (transitionMsg s now previousMode ModeState.modeTeleop requester reason
      (if accepted then ModeTransitionState.outcomeAccepted else ModeTransitionState.outcomeRejected)
      message true),
    .modeState (stateMsg s now),
    .takeoverResponse
      { accepted := accepted
        previousMode := previousMode
        activeMode := s.activeMode
        message := message }])

/-- An input of the node: a callback and the clock reading at which it runs. -/
abbrev Input : Type := Stamped Time Event

/-- One callback of the node. -/
def step (s : State) (i : Input) : State × List Publication :=
  match i.event with
  | .setMode request => handleSetMode s i.now request
  | .takeover request => handleTakeover s i.now request
  | .safetyState msg => ({ s with safetyState := msg.state, safetySeen := true }, [])
  | .publishState => (s, [.modeState (stateMsg s i.now)])
  | .setParameters params => ({ s with params := params }, [])

/-- `__init__`, at the clock reading `startedAt`. -/
def init (params : Params) (startedAt : Time) : State where
  -- the initial mode is applied without asking the guard
  params := params
  requestedMode := parseInitialMode params.initialMode
  activeMode := parseInitialMode params.initialMode
  activeSince := startedAt

/-- The node, started with the parameters `params` at the clock reading `startedAt`. -/
def machine (params : Params) (startedAt : Time) : Machine State Input (List Publication) where
  init := init params startedAt
  step := step

end HumaWare.ModeManager
