import HumaWare.Msgs

/-! # The mock locomotion adapter node

`mock_locomotion_adapter_node.py`, function by function. An approved command starts or stops the
robot at once; the timer re-checks the mode, the safety state and the age of the command, lets a
stop settle, and publishes the `LocomotionState`. -/

namespace HumaWare.LocomotionAdapter

open Python Reactive

/-- The parameters the node reads while it runs. -/
structure Params where
  robotId : String := "mock_001"
  commandTimeout : Duration := 750000000
  stopSettleTime : Duration := 400000000
  walkEpsilon : PyFloat := .fin (1 / 100)
  maxSafeLinearVelocityMps : PyFloat := .fin (1 / 2)
  maxSafeAngularVelocityRadps : PyFloat := .fin (1 / 2)
  deriving DecidableEq, Repr

/-- The node's fields, and the parameters in force. -/
structure State where
  params : Params
  activeMode : UInt8 := ModeState.modeInactive
  safetyState : UInt8 := SafetyState.stateUnknown
  lastCommandTime : Option Time := none
  stopStartedAt : Option Time := none
  state : UInt8 := LocomotionState.stateInactive
  linearVelocityMps : PyFloat := 0
  angularVelocityRadps : PyFloat := 0
  constraints : List String := ["waiting_for_mode", "waiting_for_safety_state"]
  deriving DecidableEq, Repr

/-- The node's callbacks. -/
inductive Event
  | approvedCmd (msg : TwistStamped)
  | modeState (msg : ModeState)
  | safetyState (msg : SafetyState)
  | tick
  | setParameters (params : Params)
  deriving DecidableEq

/-- What the node publishes. -/
inductive Publication
  /-- on `locomotion/state` -/
  | locomotionState (msg : LocomotionState)
  deriving DecidableEq

/-- `_is_output_blocked`. -/
def isOutputBlocked (s : State) : Bool :=
  decide (s.activeMode ∉ [ModeState.modeTeleop, ModeState.modeAutonomy, ModeState.modeAiPolicy]) ||
    decide (s.safetyState ∉ [SafetyState.stateOk, SafetyState.stateWarn])

/-- `_settle_stop_if_ready`. -/
def settleStopIfReady (s : State) (now : Time) : State :=
  if s.state ≠ LocomotionState.stateStopping then s
  else
    match s.stopStartedAt with
    | none => s
    | some stopStartedAt =>
      if now - stopStartedAt ≥ s.params.stopSettleTime then
        { s with
          state := LocomotionState.stateStanding
          constraints := if isOutputBlocked s then s.constraints else [] }
      else s

/-- `_begin_stop`. -/
def beginStop (s : State) (now : Time) (reason : String) : State :=
  if s.activeMode ∈ [ModeState.modeInactive, ModeState.modeMaintenance] then
    { s with
      state := LocomotionState.stateInactive
      constraints := ["mode_inactive"]
      stopStartedAt := none }
  else
    let stopStartedAt :=
      if s.state ∉ [LocomotionState.stateStopping, LocomotionState.stateStanding] then some now
      else if s.stopStartedAt.isNone then some now
      else s.stopStartedAt
    settleStopIfReady
      { s with
        stopStartedAt := stopStartedAt
        state := LocomotionState.stateStopping
        constraints := [reason] } now

/-- The two assignments that set the commanded velocity to zero. -/
def State.zeroVelocity (s : State) : State :=
  { s with linearVelocityMps := 0, angularVelocityRadps := 0 }

/-- `_on_approved_cmd`. -/
def onApprovedCmd (s : State) (now : Time) (msg : TwistStamped) : State :=
  let s := { s with lastCommandTime := some now }
  let linear := msg.twist.linear.x
  let angular := msg.twist.angular.z
  let epsilon := s.params.walkEpsilon
  if linear.abs ≤ epsilon ∧ angular.abs ≤ epsilon then
    beginStop s.zeroVelocity now "approved_stop_command"
  else if isOutputBlocked s then
    beginStop s.zeroVelocity now "runtime_blocks_output"
  else
    -- the velocity is taken over as it is; the timer alone checks its age
    { s with
      stopStartedAt := none
      linearVelocityMps := linear
      angularVelocityRadps := angular
      state := if epsilon < linear.abs then LocomotionState.stateWalking
        else LocomotionState.stateTurning
      constraints := [] }

/-- `_update_state_for_runtime`. -/
def updateStateForRuntime (s : State) (now : Time) : State :=
  -- block-lists of modes and safety states: a value that is on none of them falls through
  if s.activeMode ∈ [ModeState.modeInactive, ModeState.modeMaintenance] then
    { s.zeroVelocity with
      state := LocomotionState.stateInactive
      constraints := ["mode_inactive"]
      stopStartedAt := none }
  else if s.activeMode ∈ [ModeState.modeFault, ModeState.modeShutdown] then
    beginStop s.zeroVelocity now "mode_blocks_locomotion"
  else if s.safetyState ∈ [SafetyState.stateUnknown, SafetyState.stateFault,
      SafetyState.stateEstop, SafetyState.stateMrm] then
    beginStop s.zeroVelocity now "safety_blocks_locomotion"
  else
    match s.lastCommandTime with
    | none =>
      -- the velocity is not reset here: nothing was approved yet, so it is still zero
      { s with state := LocomotionState.stateStanding, constraints := ["waiting_for_command"] }
    | some lastCommandTime =>
      if now - lastCommandTime > s.params.commandTimeout then
        beginStop s.zeroVelocity now "command_timeout"
      else settleStopIfReady s now

/-- `_publish_state`: the message it publishes. -/
def stateMsg (s : State) (now : Time) : LocomotionState where
  header := { stamp := now, frameId := s.params.robotId }
  robotId := s.params.robotId
  state := s.state
  activeAdapter := "mock"
  commandedLinearVelocityMps := s.linearVelocityMps
  commandedAngularVelocityRadps := s.angularVelocityRadps
  maxSafeLinearVelocityMps := s.params.maxSafeLinearVelocityMps
  maxSafeAngularVelocityRadps := s.params.maxSafeAngularVelocityRadps
  balanceRequired := true
  navigationControlActive := decide (s.activeMode = ModeState.modeAutonomy)
  activeConstraints := s.constraints

/-- `_tick`. -/
def tick (s : State) (now : Time) : State × List Publication :=
  let s := updateStateForRuntime s now
  (s, [.locomotionState (stateMsg s now)])

/-- An input of the node: a callback and the clock reading at which it runs. -/
abbrev Input : Type := Stamped Time Event

/-- One callback of the node. -/
def step (s : State) (i : Input) : State × List Publication :=
  match i.event with
  | .approvedCmd msg => (onApprovedCmd s i.now msg, [])
  | .modeState msg => ({ s with activeMode := msg.activeMode }, [])
  | .safetyState msg => ({ s with safetyState := msg.state }, [])
  | .tick => tick s i.now
  | .setParameters params => ({ s with params := params }, [])

/-- The node, started with the parameters `params`. -/
def machine (params : Params) : Machine State Input (List Publication) where
  init := { params := params }
  step := step

/-- The node starts with its defaults. -/
@[simp] theorem machine_init (params : Params) : (machine params).init = { params := params } := rfl

/-- A step of the machine is a callback of the node. -/
@[simp] theorem machine_next (params : Params) (s : State) (i : Input) :
    (machine params).next s i = (step s i).1 := rfl

/-- The machine outputs what the callback publishes. -/
@[simp] theorem machine_out (params : Params) (s : State) (i : Input) :
    (machine params).out s i = (step s i).2 := rfl

/-! ## What a stop leaves alone -/

/-- The fields that only messages and parameter changes write. -/
structure SameInputs (s s' : State) : Prop where
  params : s'.params = s.params
  activeMode : s'.activeMode = s.activeMode
  safetyState : s'.safetyState = s.safetyState
  lastCommandTime : s'.lastCommandTime = s.lastCommandTime

/-- Settling a stop leaves what was received. -/
theorem sameInputs_settleStopIfReady (s : State) (now : Time) :
    SameInputs s (settleStopIfReady s now) := by
  unfold settleStopIfReady
  split
  · exact ⟨rfl, rfl, rfl, rfl⟩
  split
  · exact ⟨rfl, rfl, rfl, rfl⟩
  split <;> exact ⟨rfl, rfl, rfl, rfl⟩

/-- Beginning a stop leaves what was received. -/
theorem sameInputs_beginStop (s : State) (now : Time) (reason : String) :
    SameInputs s (beginStop s now reason) := by
  unfold beginStop
  split
  · exact ⟨rfl, rfl, rfl, rfl⟩
  · obtain ⟨hparams, hmode, hsafety, htime⟩ := sameInputs_settleStopIfReady
      { s with
        stopStartedAt := if s.state ∉ [LocomotionState.stateStopping, LocomotionState.stateStanding]
          then some now else if s.stopStartedAt.isNone then some now else s.stopStartedAt
        state := LocomotionState.stateStopping
        constraints := [reason] } now
    exact ⟨hparams, hmode, hsafety, htime⟩

/-- The update leaves what was received. -/
theorem sameInputs_updateStateForRuntime (s : State) (now : Time) :
    SameInputs s (updateStateForRuntime s now) := by
  have hstop : ∀ reason, SameInputs s (beginStop s.zeroVelocity now reason) := by
    intro reason
    obtain ⟨hparams, hmode, hsafety, htime⟩ := sameInputs_beginStop s.zeroVelocity now reason
    exact ⟨hparams, hmode, hsafety, htime⟩
  unfold updateStateForRuntime
  split
  · exact ⟨rfl, rfl, rfl, rfl⟩
  split
  · exact hstop _
  split
  · exact hstop _
  split
  · exact ⟨rfl, rfl, rfl, rfl⟩
  split
  · exact hstop _
  · exact sameInputs_settleStopIfReady s now

/-- The node reports motion: it walks or turns, or has a commanded velocity. -/
def State.Moving (s : State) : Prop :=
  s.state = LocomotionState.stateWalking ∨ s.state = LocomotionState.stateTurning ∨
    s.linearVelocityMps ≠ 0 ∨ s.angularVelocityRadps ≠ 0

instance (s : State) : Decidable s.Moving := inferInstanceAs (Decidable (_ ∨ _ ∨ _ ∨ _))

/-- Settling leaves the velocity alone and does not start a motion. -/
theorem settleStopIfReady_velocity (s : State) (now : Time) :
    (settleStopIfReady s now).linearVelocityMps = s.linearVelocityMps ∧
      (settleStopIfReady s now).angularVelocityRadps = s.angularVelocityRadps ∧
      ((settleStopIfReady s now).Moving ↔ s.Moving) := by
  unfold settleStopIfReady
  split
  · exact ⟨rfl, rfl, Iff.rfl⟩
  next hstopping =>
  split
  · exact ⟨rfl, rfl, Iff.rfl⟩
  split
  · refine ⟨rfl, rfl, ?_⟩
    simp only [State.Moving, not_not.mp hstopping]
    exact or_congr (by decide) (or_congr (by decide) Iff.rfl)
  · exact ⟨rfl, rfl, Iff.rfl⟩

/-- A stop leaves no motion. -/
theorem not_moving_beginStop {s : State} (hlinear : s.linearVelocityMps = 0)
    (hangular : s.angularVelocityRadps = 0) (now : Time) (reason : String) :
    ¬(beginStop s now reason).Moving := by
  unfold beginStop
  split
  · simp +decide [State.Moving, hlinear, hangular]
  · rw [(settleStopIfReady_velocity _ now).2.2]
    simp +decide [State.Moving, hlinear, hangular]

/-- A stop at zero velocity does not move. -/
theorem not_moving_beginStop_zeroVelocity (s : State) (now : Time) (reason : String) :
    ¬(beginStop s.zeroVelocity now reason).Moving := not_moving_beginStop rfl rfl now reason

end HumaWare.LocomotionAdapter
