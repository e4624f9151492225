import HumaWare.Msgs

/-! # The Nav2 bridge node

`nav2_bridge_node.py`, function by function. A Nav2 velocity, stamped or not, is forwarded as an
autonomy candidate as soon as it arrives, if the bridge's own gate is open at that moment; the timer
re-evaluates the gate and publishes the `NavigationBridgeState`. -/

namespace HumaWare.Nav2Bridge

open Reactive

/-- The parameters the node reads while it runs. -/
structure Params where
  robotId : String := "mock_001"
  enabled : Bool := true
  commandTimeout : Duration := 750000000
  inputFrameId : String := "nav2"
  deriving DecidableEq, Repr

/-- The node's fields, and the parameters in force. -/
structure State where
  params : Params
  activeMode : UInt8 := ModeState.modeInactive
  safetyState : UInt8 := SafetyState.stateUnknown
  locomotionState : UInt8 := LocomotionState.stateUnknown
  lastInputTime : Option Time := none
  lastOutputTime : Option Time := none
  latestCommand : Option TwistStamped := none
  state : UInt8 := NavigationBridgeState.stateIdle
  reason : String := "waiting_for_nav2_command"
  outputEnabled : Bool := false
  deriving DecidableEq, Repr

/-- The node's callbacks. -/
inductive Event
  | twist (msg : Twist)
  | twistStamped (msg : TwistStamped)
  | modeState (msg : ModeState)
  | safetyState (msg : SafetyState)
  | locomotionState (msg : LocomotionState)
  | tick
  | setParameters (params : Params)
  deriving DecidableEq

/-- What the node publishes. -/
inductive Publication
  /-- on `autonomy/cmd_vel` -/
  | command (msg : TwistStamped)
  /-- on `navigation/nav2_bridge_state` -/
  | bridgeState (msg : NavigationBridgeState)
  deriving DecidableEq

/-- The three fields that `_update_bridge_state` assigns. -/
def State.decide (s : State) (state : UInt8) (reason : String) (outputEnabled : Bool) : State :=
  { s with state := state, reason := reason, outputEnabled := outputEnabled }

/-- `_update_bridge_state`. -/
def updateBridgeState (s : State) (now : Time) : State :=
  if ¬s.params.enabled then s.decide NavigationBridgeState.stateDisabled "bridge_disabled" false
  else
    match s.latestCommand, s.lastInputTime with
    | none, _ => s.decide NavigationBridgeState.stateIdle "waiting_for_nav2_command" false
    | some _, none => s.decide NavigationBridgeState.stateIdle "waiting_for_nav2_command" false
    | some _, some lastInputTime =>
      if now - lastInputTime > s.params.commandTimeout then
        s.decide NavigationBridgeState.stateStale "nav2_command_stale" false
      else if s.activeMode ≠ ModeState.modeAutonomy then
        s.decide NavigationBridgeState.stateBlocked "mode_not_autonomy" false
      else if s.safetyState ∉ [SafetyState.stateOk, SafetyState.stateWarn] then
        s.decide NavigationBridgeState.stateBlocked "safety_state_blocks_navigation" false
      else if s.locomotionState ∈ [LocomotionState.stateUnknown, LocomotionState.stateFault,
          LocomotionState.stateRecovering] then
        s.decide NavigationBridgeState.stateBlocked "locomotion_not_ready" false
      else s.decide NavigationBridgeState.stateActive "forwarding_nav2_command" true

/-- `_handle_command`. -/
def handleCommand (s : State) (now : Time) (msg : TwistStamped) : State × List Publication :=
  let s := { s with latestCommand := some msg, lastInputTime := some now }
  -- a command is forwarded on arrival or never: the timer publishes the bridge state only
  let s := updateBridgeState s now
  if s.outputEnabled then ({ s with lastOutputTime := some now }, [.command msg]) else (s, [])

/-- `_on_twist`: the command it hands on. -/
def stampTwist (s : State) (now : Time) (msg : Twist) : TwistStamped where
  header := { stamp := now, frameId := s.params.inputFrameId }
  twist := msg

/-- `_on_twist_stamped`: the command it hands on. -/
def restamp (s : State) (now : Time) (msg : TwistStamped) : TwistStamped where
  header := { stamp := now, frameId := orDefault msg.header.frameId s.params.inputFrameId }
  twist := msg.twist

/-- `_publish_state`: the message it publishes. -/
def stateMsg (s : State) (now : Time) : NavigationBridgeState where
  header := { stamp := now, frameId := s.params.robotId }
  robotId := s.params.robotId
  state := s.state
  activeMode := s.activeMode
  safetyState := s.safetyState
  locomotionState := s.locomotionState
  bridgeEnabled := s.params.enabled
  outputEnabled := s.outputEnabled
  inputTopic := "nav2/cmd_vel"
  outputTopic := "autonomy/cmd_vel"
  lastInputTime := s.lastInputTime.getD 0
  lastOutputTime := s.lastOutputTime.getD 0
  commandAge := (s.lastInputTime.map fun t => durationMsg (now - t)).getD {}
  reason := s.reason

/-- `_tick`. -/
def tick (s : State) (now : Time) : State × List Publication :=
  let s := updateBridgeState s now
  (s, [.bridgeState (stateMsg s now)])

/-- An input of the node: a callback and the clock reading at which it runs. -/
abbrev Input : Type := Stamped Time Event

/-- One callback of the node. -/
def step (s : State) (i : Input) : State × List Publication :=
  match i.event with
  | .twist msg => handleCommand s i.now (stampTwist s i.now msg)
  | .twistStamped msg => handleCommand s i.now (restamp s i.now msg)
  | .modeState msg => ({ s with activeMode := msg.activeMode }, [])
  | .safetyState msg => ({ s with safetyState := msg.state }, [])
  | .locomotionState msg => ({ s with locomotionState := msg.state }, [])
  | .tick => tick s i.now
  | .setParameters params => ({ s with params := params }, [])

/-- The node, started with the parameters `params`. -/
def machine (params : Params) : Machine State Input (List Publication) where
  init := { params := params }
  step := step

/-- A step of the machine is a callback of the node. -/
@[simp] theorem machine_next (params : Params) (s : State) (i : Input) :
    (machine params).next s i = (step s i).1 := rfl

/-- The machine outputs what the callback publishes. -/
@[simp] theorem machine_out (params : Params) (s : State) (i : Input) :
    (machine params).out s i = (step s i).2 := rfl

/-- Neither a command nor a tick writes the safety state. -/
theorem safetyState_updateBridgeState (s : State) (now : Time) :
    (updateBridgeState s now).safetyState = s.safetyState := by
  unfold updateBridgeState
  split
  · rfl
  split
  · rfl
  · rfl
  split
  · rfl
  split
  · rfl
  split
  · rfl
  split <;> rfl

/-- A command leaves the safety state. -/
theorem safetyState_handleCommand (s : State) (now : Time) (msg : TwistStamped) :
    (handleCommand s now msg).1.safetyState = s.safetyState := by
  unfold handleCommand
  dsimp only
  split <;> exact safetyState_updateBridgeState _ now

/-! ## The bridge's gate -/

/-- The conditions under which the bridge lets a command pass. -/
structure State.GateOpen (s : State) (now : Time) : Prop where
  enabled : s.params.enabled = true
  command : s.latestCommand.isSome
  fresh : ∃ lastInputTime, s.lastInputTime = some lastInputTime ∧
    now - lastInputTime ≤ s.params.commandTimeout
  mode : s.activeMode = ModeState.modeAutonomy
  safety : s.safetyState = SafetyState.stateOk ∨ s.safetyState = SafetyState.stateWarn
  locomotion : s.locomotionState ∉ [LocomotionState.stateUnknown, LocomotionState.stateFault,
    LocomotionState.stateRecovering]

/-- **The gate as the node evaluates it.** -/
theorem outputEnabled_update_iff {s : State} {now : Time} :
    (updateBridgeState s now).outputEnabled = true ↔ s.GateOpen now := by
  unfold updateBridgeState
  constructor
  · -- every branch but the last disables output, so each test failed
    intro h
    split at h
    · exact absurd h Bool.false_ne_true
    next henabled =>
    split at h
    · exact absurd h Bool.false_ne_true
    · exact absurd h Bool.false_ne_true
    next command lastInputTime hcommand htime =>
    split at h
    · exact absurd h Bool.false_ne_true
    next hfresh =>
    split at h
    · exact absurd h Bool.false_ne_true
    next hmode =>
    split at h
    · exact absurd h Bool.false_ne_true
    next hsafety =>
    split at h
    · exact absurd h Bool.false_ne_true
    next hlocomotion =>
    refine ⟨not_not.mp henabled, ?_, ⟨lastInputTime, htime, not_lt.mp hfresh⟩, not_not.mp hmode,
      List.mem_pair.mp (not_not.mp hsafety), hlocomotion⟩
    rw [hcommand]
    rfl
  · rintro ⟨henabled, hcommand, ⟨lastInputTime, htime, hfresh⟩, hmode, hsafety, hlocomotion⟩
    obtain ⟨command, hcommand⟩ := Option.isSome_iff_exists.mp hcommand
    rw [if_neg (not_not.mpr henabled), hcommand, htime]
    dsimp only
    rw [if_neg (not_lt.mpr hfresh), if_neg (not_not.mpr hmode),
      if_neg (not_not.mpr (List.mem_pair.mpr hsafety)), if_neg hlocomotion]
    rfl

/-- **A forwarded command passed the gate**: the mode was `AUTONOMY`, and the safety state allowed
motion. -/
theorem step_command {s : State} {i : Input} {msg : TwistStamped}
    (h : Publication.command msg ∈ (step s i).2) :
    s.activeMode = ModeState.modeAutonomy ∧
      (s.safetyState = SafetyState.stateOk ∨ s.safetyState = SafetyState.stateWarn) := by
  have hhandle : ∀ msg', Publication.command msg ∈ (handleCommand s i.now msg').2 →
      s.activeMode = ModeState.modeAutonomy ∧
        (s.safetyState = SafetyState.stateOk ∨ s.safetyState = SafetyState.stateWarn) := by
    intro msg' h
    unfold handleCommand at h
    dsimp only at h
    split at h
    · next henabled =>
      have hopen := outputEnabled_update_iff.mp henabled
      exact ⟨hopen.mode, hopen.safety⟩
    · simp at h
  obtain ⟨now, event⟩ := i
  cases event with
  | twist msg' => exact hhandle _ h
  | twistStamped msg' => exact hhandle _ h
  | modeState msg' => simp [step] at h
  | safetyState msg' => simp [step] at h
  | locomotionState msg' => simp [step] at h
  | tick => simp [step, tick] at h
  | setParameters params => simp [step] at h

end HumaWare.Nav2Bridge
