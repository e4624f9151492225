import HumaWare.Python.Float
import HumaWare.Reactive.Machine

/-! # Messages, services and clock readings

The ROS interfaces that the runtime nodes exchange (`humaware_msgs`, and the standard messages they
use), with the fields that the nodes fill in or read. State fields are `uint8` in the interface
files, so they are `UInt8` here and may carry values that no constant names.

Clock readings and durations are whole nanoseconds, as in `rclpy`; a message stamp is the clock
reading it was made from. A timeout parameter is the `Duration` that `Duration(seconds=...)` makes
of it. -/

namespace HumaWare

open Python Reactive

/-- A clock reading (`rclpy.time.Time`), in nanoseconds. -/
abbrev Time : Type := ℤ

/-- A length of time (`rclpy.duration.Duration`), in nanoseconds. -/
abbrev Duration : Type := ℤ

/-- `builtin_interfaces/Duration`. -/
structure DurationMsg where
  sec : ℤ := 0
  nanosec : ℤ := 0
  deriving DecidableEq, Repr

/-- `_duration_msg`: whole seconds, rounded down, and the nanoseconds that remain. -/
def durationMsg (duration : Duration) : DurationMsg :=
  { sec := duration / 1000000000, nanosec := duration % 1000000000 }

/-- The two fields of a duration message give the duration back, the second below one second. -/
theorem durationMsg_spec (duration : Duration) :
    (durationMsg duration).sec * 1000000000 + (durationMsg duration).nanosec = duration ∧
      0 ≤ (durationMsg duration).nanosec ∧ (durationMsg duration).nanosec < 1000000000 := by
  simp only [durationMsg]
  omega

/-- `std_msgs/Header`. -/
structure Header where
  stamp : Time := 0
  frameId : String := ""
  deriving DecidableEq, Repr

/-- `geometry_msgs/Vector3`. -/
structure Vector3 where
  x : PyFloat := 0
  y : PyFloat := 0
  z : PyFloat := 0
  deriving DecidableEq, Repr

/-- `geometry_msgs/Twist`. -/
structure Twist where
  linear : Vector3 := {}
  angular : Vector3 := {}
  deriving DecidableEq, Repr

instance : Zero Twist := ⟨{}⟩

/-- `geometry_msgs/TwistStamped`. -/
structure TwistStamped where
  header : Header := {}
  twist : Twist := {}
  deriving DecidableEq, Repr

/-- `humaware_msgs/ModeState`. -/
structure ModeState where
  header : Header := {}
  robotId : String := ""
  requestedMode : UInt8 := 0
  activeMode : UInt8 := 0
  owner : String := ""
  transitionReason : String := ""
  activeSince : Time := 0
  deriving DecidableEq, Repr

namespace ModeState

abbrev modeUnknown : UInt8 := 0
abbrev modeMaintenance : UInt8 := 1
abbrev modeInactive : UInt8 := 2
abbrev modeTeleop : UInt8 := 3
abbrev modeAutonomy : UInt8 := 4
abbrev modeAiPolicy : UInt8 := 5
abbrev modeFault : UInt8 := 6
abbrev modeShutdown : UInt8 := 7

/-- The modes in which the runtime lets the robot move. -/
def activeModes : List UInt8 := [modeTeleop, modeAutonomy, modeAiPolicy]

end ModeState

/-- `humaware_msgs/ModeTransitionState`. -/
structure ModeTransitionState where
  header : Header := {}
  robotId : String := ""
  previousMode : UInt8 := 0
  requestedMode : UInt8 := 0
  activeMode : UInt8 := 0
  requester : String := ""
  reason : String := ""
  outcome : UInt8 := 0
  message : String := ""
  takeover : Bool := false
  deriving DecidableEq, Repr

namespace ModeTransitionState

abbrev outcomeAccepted : UInt8 := 1
abbrev outcomeRejected : UInt8 := 2

end ModeTransitionState

/-- `humaware_msgs/SafetyState`. -/
structure SafetyState where
  header : Header := {}
  robotId : String := ""
  state : UInt8 := 0
  estopEngaged : Bool := false
  mrmActive : Bool := false
  lastHeartbeat : Time := 0
  activeFaults : List String := []
  activeWarnings : List String := []
  deriving DecidableEq, Repr

namespace SafetyState

abbrev stateUnknown : UInt8 := 0
abbrev stateOk : UInt8 := 1
abbrev stateWarn : UInt8 := 2
abbrev stateFault : UInt8 := 3
abbrev stateEstop : UInt8 := 4
abbrev stateMrm : UInt8 := 5

/-- The safety states in which the runtime lets the robot move. -/
def allowedStates : List UInt8 := [stateOk, stateWarn]

end SafetyState

/-- `humaware_msgs/MRMState`. -/
structure MRMState where
  header : Header := {}
  robotId : String := ""
  state : UInt8 := 0
  reason : String := ""
  timeout : DurationMsg := {}
  operatorInterventionRequested : Bool := false
  deriving DecidableEq, Repr

namespace MRMState

abbrev stateNone : UInt8 := 0
abbrev stateStop : UInt8 := 1
abbrev stateFault : UInt8 := 6

end MRMState

/-- `humaware_msgs/CommandArbitrationState`. -/
structure CommandArbitrationState where
  header : Header := {}
  robotId : String := ""
  activeSource : UInt8 := 0
  activeSourceName : String := ""
  activeMode : UInt8 := 0
  safetyState : UInt8 := 0
  outputEnabled : Bool := false
  stopCommandPublished : Bool := false
  lastCommandTime : Time := 0
  commandAge : DurationMsg := {}
  reason : String := ""
  deriving DecidableEq, Repr

namespace CommandArbitrationState

abbrev sourceNone : UInt8 := 0
abbrev sourceSafety : UInt8 := 1
abbrev sourceTeleop : UInt8 := 2
abbrev sourceAutonomy : UInt8 := 3
abbrev sourceAiPolicy : UInt8 := 4

end CommandArbitrationState

/-- `humaware_msgs/LocomotionState`. -/
structure LocomotionState where
  header : Header := {}
  robotId : String := ""
  state : UInt8 := 0
  activeAdapter : String := ""
  commandedLinearVelocityMps : PyFloat := 0
  commandedAngularVelocityRadps : PyFloat := 0
  maxSafeLinearVelocityMps : PyFloat := 0
  maxSafeAngularVelocityRadps : PyFloat := 0
  balanceRequired : Bool := false
  navigationControlActive : Bool := false
  activeConstraints : List String := []
  deriving DecidableEq, Repr

namespace LocomotionState

abbrev stateUnknown : UInt8 := 0
abbrev stateInactive : UInt8 := 1
abbrev stateStanding : UInt8 := 2
abbrev stateWalking : UInt8 := 3
abbrev stateTurning : UInt8 := 4
abbrev stateStopping : UInt8 := 5
abbrev stateRecovering : UInt8 := 6
abbrev stateFault : UInt8 := 7

end LocomotionState

/-- `humaware_msgs/NavigationBridgeState`. -/
structure NavigationBridgeState where
  header : Header := {}
  robotId : String := ""
  state : UInt8 := 0
  activeMode : UInt8 := 0
  safetyState : UInt8 := 0
  locomotionState : UInt8 := 0
  bridgeEnabled : Bool := false
  outputEnabled : Bool := false
  inputTopic : String := ""
  outputTopic : String := ""
  lastInputTime : Time := 0
  lastOutputTime : Time := 0
  commandAge : DurationMsg := {}
  reason : String := ""
  deriving DecidableEq, Repr

namespace NavigationBridgeState

abbrev stateUnknown : UInt8 := 0
abbrev stateIdle : UInt8 := 1
abbrev stateActive : UInt8 := 2
abbrev stateBlocked : UInt8 := 3
abbrev stateStale : UInt8 := 4
abbrev stateDisabled : UInt8 := 5

end NavigationBridgeState

/-- `humaware_msgs/Capability`, with the fields the skill server reads. -/
structure Capability where
  name : String := ""
  state : UInt8 := 0
  timeout : DurationMsg := {}
  deriving DecidableEq, Repr

namespace Capability

abbrev stateUnknown : UInt8 := 0
abbrev stateUnavailable : UInt8 := 1
abbrev stateIdle : UInt8 := 2
abbrev stateExecuting : UInt8 := 3
abbrev stateDegraded : UInt8 := 4
abbrev stateFault : UInt8 := 5

end Capability

/-- `humaware_msgs/SkillExecutionState`. -/
structure SkillExecutionState where
  header : Header := {}
  robotId : String := ""
  executionId : String := ""
  capabilityName : String := ""
  requester : String := ""
  status : UInt8 := 0
  message : String := ""
  acceptedAt : Time := 0
  timeout : DurationMsg := {}
  commandPublished : Bool := false
  deriving DecidableEq, Repr

namespace SkillExecutionState

abbrev statusUnknown : UInt8 := 0
abbrev statusRejected : UInt8 := 1
abbrev statusAccepted : UInt8 := 2

end SkillExecutionState

/-- `humaware_msgs/HealthState`. -/
structure HealthState where
  header : Header := {}
  robotId : String := ""
  state : UInt8 := 0
  summary : String := ""
  mode : UInt8 := 0
  safetyState : UInt8 := 0
  locomotionState : UInt8 := 0
  commandSource : UInt8 := 0
  nav2BridgeState : UInt8 := 0
  commandOutputEnabled : Bool := false
  nav2OutputEnabled : Bool := false
  activeFaults : List String := []
  activeWarnings : List String := []
  staleTopics : List String := []
  deriving DecidableEq, Repr

namespace HealthState

abbrev healthUnknown : UInt8 := 0
abbrev healthOk : UInt8 := 1
abbrev healthWarn : UInt8 := 2
abbrev healthError : UInt8 := 3
abbrev healthStale : UInt8 := 4

end HealthState

/-- `diagnostic_msgs/KeyValue`. -/
structure KeyValue where
  key : String
  value : String
  deriving DecidableEq, Repr

/-- `diagnostic_msgs/DiagnosticStatus`. -/
structure DiagnosticStatus where
  level : UInt8
  name : String
  message : String
  hardwareId : String
  values : List KeyValue
  deriving DecidableEq, Repr

namespace DiagnosticStatus

abbrev ok : UInt8 := 0
abbrev warn : UInt8 := 1
abbrev error : UInt8 := 2
abbrev stale : UInt8 := 3

end DiagnosticStatus

/-- `diagnostic_msgs/DiagnosticArray`. -/
structure DiagnosticArray where
  header : Header := {}
  status : List DiagnosticStatus := []
  deriving DecidableEq, Repr

/-- The message shows this value for the key, and no other. -/
def DiagnosticArray.Shows (msg : DiagnosticArray) (key value : String) : Prop :=
  (∃ status ∈ msg.status, ⟨key, value⟩ ∈ status.values) ∧
    ∀ status ∈ msg.status, ∀ pair ∈ status.values, pair.key = key → pair.value = value

/-- `value or default` on strings: an empty string is replaced. -/
def orDefault (value default : String) : String := if value = "" then default else value

/-- One rung of a ladder of guards: it lets pass what its condition does not reject and the rest of
the ladder lets pass. -/
theorem guard_fst_iff {c : Prop} [Decidable c] {reason : String} {rest : Bool × String} :
    (if c then (false, reason) else rest).1 = true ↔ ¬c ∧ rest.1 = true := by
  by_cases h : c <;> simp [h]

end HumaWare
