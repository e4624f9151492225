import HumaWare.Msgs
import HumaWare.Reactive.History

/-! # The mock robot node

`mock_robot_node.py`, function by function. On every tick the node publishes a balance state and a
foot contact state that never change, and a `HumanoidState` that tells the mode, the safety state
and the locomotion state received last. -/

namespace HumaWare.MockRobot

open Python Reactive

/-! ## The messages -/

/-- `humaware_msgs/BalanceState`, with the fields that the node fills in. -/
structure BalanceState where
  header : Header := {}
  robotId : String := ""
  state : UInt8 := 0
  stabilityMargin : PyFloat := 0
  deriving DecidableEq, Repr

namespace BalanceState

abbrev stateUnknown : UInt8 := 0
abbrev stateStable : UInt8 := 1

end BalanceState

/-- `humaware_msgs/FootContactState`, with the fields that the node fills in. -/
structure FootContactState where
  header : Header := {}
  robotId : String := ""
  leftContact : Bool := false
  rightContact : Bool := false
  leftNormalForceN : PyFloat := 0
  rightNormalForceN : PyFloat := 0
  deriving DecidableEq, Repr

/-- `humaware_msgs/HumanoidState`, with the fields that the node fills in. -/
structure HumanoidState where
  header : Header := {}
  robotId : String := ""
  mode : UInt8 := 0
  locomotionState : UInt8 := 0
  safetyState : UInt8 := 0
  balanceState : UInt8 := 0
  batteryPercentage : PyFloat := 0
  cpuTemperatureC : PyFloat := 0
  operatorPresent : Bool := false
  activeCapabilities : List String := []
  deriving DecidableEq, Repr

/-! ## The node -/

/-- The parameters the node reads while it runs. -/
structure Params where
  robotId : String := "mock_001"
  batteryPercentage : PyFloat := .fin 100
  deriving DecidableEq, Repr

/-- The node's fields, and the parameters in force. -/
structure State where
  params : Params
  activeMode : UInt8 := ModeState.modeInactive
  locomotionState : UInt8 := LocomotionState.stateUnknown
  safetyState : UInt8 := SafetyState.stateUnknown
  deriving DecidableEq, Repr

/-- The node's callbacks. -/
inductive Event
  | modeState (msg : ModeState)
  | locomotionState (msg : LocomotionState)
  | safetyState (msg : SafetyState)
  | publishState
  | setParameters (params : Params)
  deriving DecidableEq

/-- What the node publishes. -/
inductive Publication
  /-- on `balance/state` -/
  | balance (msg : BalanceState)
  /-- on `foot_contact/state` -/
  | footContact (msg : FootContactState)
  /-- on `state` -/
  | humanoid (msg : HumanoidState)
  deriving DecidableEq

/-- `_publish_state`: the balance state. -/
def balance (s : State) (now : Time) : BalanceState where
  header := { stamp := now, frameId := s.params.robotId }
  robotId := s.params.robotId
  state := BalanceState.stateStable
  stabilityMargin := .fin 1

/-- `_publish_state`: the foot contact state. -/
def footContact (s : State) (now : Time) : FootContactState where
  header := { stamp := now, frameId := s.params.robotId }
  robotId := s.params.robotId
  leftContact := true
  rightContact := true
  leftNormalForceN := .fin 300
  rightNormalForceN := .fin 300

/-- `_publish_state`: the state of the whole robot. -/
def humanoid (s : State) (now : Time) : HumanoidState where
  header := { stamp := now, frameId := s.params.robotId }
  robotId := s.params.robotId
  mode := s.activeMode
  locomotionState := s.locomotionState
  safetyState := s.safetyState
  balanceState := (balance s now).state
  batteryPercentage := s.params.batteryPercentage
  cpuTemperatureC := .fin 40
  operatorPresent := false
  -- whatever the registry advertises
  activeCapabilities := ["stand", "stop", "walk_velocity"]

/-- `_publish_state`. -/
def publishState (s : State) (now : Time) : List Publication :=
  [.balance (balance s now), .footContact (footContact s now), .humanoid (humanoid s now)]

/-- An input of the node: a callback and the clock reading at which it runs. -/
abbrev Input : Type := Stamped Time Event

/-- One callback of the node. -/
def step (s : State) (i : Input) : State × List Publication :=
  match i.event with
  | .modeState msg => ({ s with activeMode := msg.activeMode }, [])
  | .locomotionState msg => ({ s with locomotionState := msg.state }, [])
  | .safetyState msg => ({ s with safetyState := msg.state }, [])
  | .publishState => (s, publishState s i.now)
  | .setParameters params => ({ s with params := params }, [])

/-- The node, started with the parameters `params`. -/
def machine (params : Params) : Machine State Input (List Publication) where
  init := { params := params }
  step := step

/-- What the node tells of the robot comes from its fields. -/
theorem humanoid_of_step {s : State} {i : Input} {msg : HumanoidState}
    (hpub : Publication.humanoid msg ∈ (step s i).2) : msg = humanoid s i.now := by
  obtain ⟨now, event⟩ := i
  cases event with
  | publishState =>
    have hmem : Publication.humanoid msg ∈ publishState s now := hpub
    simpa [publishState] using hmem
  | modeState msg' => exact absurd hpub List.not_mem_nil
  | locomotionState msg' => exact absurd hpub List.not_mem_nil
  | safetyState msg' => exact absurd hpub List.not_mem_nil
  | setParameters params => exact absurd hpub List.not_mem_nil

end HumaWare.MockRobot
