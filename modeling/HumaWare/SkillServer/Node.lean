import HumaWare.Msgs
import HumaWare.Python.Dict
import HumaWare.Reactive.History

/-! # The skill server node

`skill_server_node.py`, function by function. A skill request is checked against the capabilities,
the safety state and the mode received last; an accepted request that is not a dry run publishes a
velocity on `policy/cmd_vel`. Every request publishes a `SkillExecutionState`, which the timer
repeats. The random execution id of a request is an input of the callback. -/

namespace HumaWare.SkillServer

open Python Reactive

/-- `EXECUTABLE_SKILLS`. -/
def executableSkills : List String := ["stop", "walk_velocity", "turn_in_place"]

/-- `SkillDecision`. -/
structure SkillDecision where
  accepted : Bool
  message : String
  status : UInt8
  deriving DecidableEq, Repr

/-- `unsafe_states`. -/
def unsafeStates : List UInt8 :=
  [SafetyState.stateFault, SafetyState.stateEstop, SafetyState.stateMrm]

/-- `evaluate_request`. -/
def evaluateRequest (capabilityName : String) (capability : Option Capability)
    (mode safety : UInt8) : SkillDecision :=
  match capability with
  | none => ⟨false, "capability_not_found", SkillExecutionState.statusRejected⟩
  | some capability =>
    if capabilityName ∉ executableSkills then
      ⟨false, "no_skill_handler", SkillExecutionState.statusRejected⟩
    -- the stop is exempt from the safety test, and no test on the mode names it
    else if capabilityName ≠ "stop" ∧ safety ∈ unsafeStates then
      ⟨false, "safety_state_blocks_skill", SkillExecutionState.statusRejected⟩
    else if capabilityName ∈ ["walk_velocity", "turn_in_place"] ∧ mode ≠ ModeState.modeAiPolicy then
      ⟨false, "skill_requires_ai_policy_mode", SkillExecutionState.statusRejected⟩
    else if capability.state ∈
        [Capability.stateUnknown, Capability.stateUnavailable, Capability.stateFault] then
      ⟨false, "capability_not_available", SkillExecutionState.statusRejected⟩
    else ⟨true, "accepted", SkillExecutionState.statusAccepted⟩

/-- `make_stop_command`. -/
def makeStopCommand (robotId : String) (now : Time) : TwistStamped where
  header := { stamp := now, frameId := robotId }

/-- `sanitize_velocity_command`. -/
def sanitizeVelocityCommand (request : TwistStamped) (robotId : String) (now : Time)
    (turnOnly : Bool) : TwistStamped where
  header := { stamp := now, frameId := orDefault request.header.frameId robotId }
  twist :=
    { linear :=
        if turnOnly then {}
        else { x := request.twist.linear.x, y := request.twist.linear.y, z := 0 }
      angular := { x := 0, y := 0, z := request.twist.angular.z } }

/-- The parameters the node reads while it runs. -/
structure Params where
  robotId : String := "mock_001"
  deriving DecidableEq, Repr

/-- `ExecuteSkill.Request`. -/
structure ExecuteSkillRequest where
  capabilityName : String
  requester : String := ""
  dryRun : Bool := false
  velocityCommand : TwistStamped := {}
  deriving DecidableEq, Repr

/-- `ExecuteSkill.Response`. -/
structure ExecuteSkillResponse where
  accepted : Bool
  message : String
  executionId : String
  status : UInt8
  deriving DecidableEq, Repr

/-- The node's fields, and the parameters in force. -/
structure State where
  params : Params
  capabilities : Dict String Capability := Dict.empty
  mode : UInt8 := ModeState.modeUnknown
  safety : UInt8 := SafetyState.stateUnknown
  lastState : Option SkillExecutionState := none

/-- The node's callbacks. -/
inductive Event
  | capabilities (msg : List Capability)
  | modeState (msg : ModeState)
  | safetyState (msg : SafetyState)
  | executeSkill (request : ExecuteSkillRequest) (executionId : String)
  | republishState
  | setParameters (params : Params)
  deriving DecidableEq

/-- What the node publishes and answers. -/
inductive Publication
  /-- on `policy/cmd_vel` -/
  | policyCmd (msg : TwistStamped)
  /-- on `skills/state` -/
  | skillState (msg : SkillExecutionState)
  /-- the response of `skills/execute` -/
  | response (response : ExecuteSkillResponse)
  deriving DecidableEq

/-- `_execute_supported_skill`: the command it publishes. -/
def executeSupportedSkill (s : State) (now : Time) (request : ExecuteSkillRequest) :
    Option TwistStamped :=
  -- always on `policy/cmd_vel`, whatever the mode: the stop too
  if request.capabilityName = "stop" then some (makeStopCommand s.params.robotId now)
  else if request.capabilityName = "walk_velocity" then
    some (sanitizeVelocityCommand request.velocityCommand s.params.robotId now false)
  else if request.capabilityName = "turn_in_place" then
    some (sanitizeVelocityCommand request.velocityCommand s.params.robotId now true)
  else none

/-- `_publish_state`: the message it publishes. -/
def stateMsg (s : State) (now : Time) (executionId : String) (capability : Option Capability)
    (capabilityName requester : String) (status : UInt8) (message : String)
    (commandPublished : Bool) : SkillExecutionState where
  header := { stamp := now, frameId := s.params.robotId }
  robotId := s.params.robotId
  executionId := executionId
  capabilityName := capabilityName
  requester := requester
  status := status
  message := message
  acceptedAt := now
  timeout := (capability.map Capability.timeout).getD {}
  commandPublished := commandPublished

/-- `_publish_state`. -/
def publishState (s : State) (msg : SkillExecutionState) : State × List Publication :=
  ({ s with lastState := some msg }, [.skillState msg])

/-- `_on_execute_skill`: the decision it takes. -/
def State.decision (s : State) (request : ExecuteSkillRequest) : SkillDecision :=
  evaluateRequest request.capabilityName (s.capabilities.get? request.capabilityName) s.mode s.safety

/-- `_on_execute_skill`. -/
def onExecuteSkill (s : State) (now : Time) (request : ExecuteSkillRequest) (executionId : String) :
    State × List Publication :=
  let capability := s.capabilities.get? request.capabilityName
  let decision := s.decision request
  let execute := decision.accepted && !request.dryRun
  let command := if execute then executeSupportedSkill s now request else none
  let commandPublished := execute && decide (request.capabilityName ∈ executableSkills)
  let (s, published) := publishState s (stateMsg s now executionId capability request.capabilityName
    request.requester decision.status decision.message commandPublished)
  (s, command.toList.map .policyCmd ++ published ++ [.response
    { accepted := decision.accepted
      message := decision.message
      executionId := executionId
      status := decision.status }])

/-- `_republish_state`. -/
def republishState (s : State) (now : Time) : State × List Publication :=
  match s.lastState with
  | none => (s, [])
  | some msg => publishState s { msg with header := { msg.header with stamp := now } }

/-- An input of the node: a callback and the clock reading at which it runs. -/
abbrev Input : Type := Stamped Time Event

/-- One callback of the node. -/
def step (s : State) (i : Input) : State × List Publication :=
  match i.event with
  | .capabilities msg => ({ s with capabilities := Dict.ofValues Capability.name msg }, [])
  | .modeState msg => ({ s with mode := msg.activeMode }, [])
  | .safetyState msg => ({ s with safety := msg.state }, [])
  | .executeSkill request executionId => onExecuteSkill s i.now request executionId
  | .republishState => republishState s i.now
  | .setParameters params => ({ s with params := params }, [])

/-- `__init__`, at the clock reading `startedAt`: the state, and the first publication. -/
def init (params : Params) (startedAt : Time) : State × List Publication :=
  let s : State := { params := params }
  publishState s (stateMsg s startedAt "" none "" "" SkillExecutionState.statusUnknown
    "waiting_for_skill_request" false)

/-- The node, started with the parameters `params` at the clock reading `startedAt`. -/
def machine (params : Params) (startedAt : Time) : Machine State Input (List Publication) where
  init := (init params startedAt).1
  step := step

/-- The capability registries received. -/
def capabilitiesStream (i : Input) : Option (List Capability) :=
  match i.event with
  | .capabilities msg => some msg
  | _ => none

/-- The modes received. -/
def modeStream (i : Input) : Option UInt8 :=
  match i.event with
  | .modeState msg => some msg.activeMode
  | _ => none

/-- The safety states received. -/
def safetyStream (i : Input) : Option UInt8 :=
  match i.event with
  | .safetyState msg => some msg.state
  | _ => none

/-! ## What the node holds -/

/-- The timer does not write what the node received. -/
theorem fields_republishState (s : State) (now : Time) :
    (republishState s now).1.capabilities = s.capabilities ∧ (republishState s now).1.mode = s.mode ∧
      (republishState s now).1.safety = s.safety := by
  unfold republishState
  split <;> exact ⟨rfl, rfl, rfl⟩

/-- The node holds the capabilities received last, by their names. -/
theorem capabilities_after (params : Params) (startedAt : Time) (h : List Input) :
    ((machine params startedAt).after h).capabilities =
      ((latest capabilitiesStream h).map (Dict.ofValues Capability.name)).getD Dict.empty := by
  rw [← latest_map]
  apply Machine.latest_register _ State.capabilities
  rintro s ⟨now, event⟩
  cases event <;> first | rfl | exact (fields_republishState s now).1

/-- The node holds the mode received last. -/
theorem mode_after (params : Params) (startedAt : Time) (h : List Input) :
    ((machine params startedAt).after h).mode =
      (latest modeStream h).getD ModeState.modeUnknown := by
  apply Machine.latest_register _ State.mode
  rintro s ⟨now, event⟩
  cases event <;> first | rfl | exact (fields_republishState s now).2.1

/-- The node holds the safety state received last. -/
theorem safety_after (params : Params) (startedAt : Time) (h : List Input) :
    ((machine params startedAt).after h).safety =
      (latest safetyStream h).getD SafetyState.stateUnknown := by
  apply Machine.latest_register _ State.safety
  rintro s ⟨now, event⟩
  cases event <;> first | rfl | exact (fields_republishState s now).2.2

/-- A capability is listed if it was in the registry received last. -/
theorem get?_capabilities_after_iff {params : Params} {startedAt : Time} {h : List Input}
    {name : String} {capability : Capability} :
    ((machine params startedAt).after h).capabilities.get? name = some capability ↔
      ∃ msg, latest capabilitiesStream h = some msg ∧
        (Dict.ofValues Capability.name msg).get? name = some capability := by
  rw [capabilities_after]
  cases latest capabilitiesStream h with
  | none => simp
  | some msg => simp

/-- The mode is `AI_POLICY` if that was received last: it starts as `UNKNOWN`. -/
theorem mode_after_iff {params : Params} {startedAt : Time} {h : List Input} :
    ((machine params startedAt).after h).mode = ModeState.modeAiPolicy ↔
      latest modeStream h = some ModeState.modeAiPolicy := by
  have hunknown : ModeState.modeUnknown ≠ ModeState.modeAiPolicy := by decide
  rw [mode_after, Option.getD_eq_iff]
  constructor
  · rintro (hlatest | ⟨-, hsame⟩)
    · exact hlatest
    · exact absurd hsame hunknown
  · exact Or.inl

/-- The safety state is one of those refused if such a one was received last: the initial `UNKNOWN`
is not on the list. -/
theorem safety_after_notMem_iff {params : Params} {startedAt : Time} {h : List Input} :
    ((machine params startedAt).after h).safety ∉ unsafeStates ↔
      ∀ state, latest safetyStream h = some state → state ∉ unsafeStates := by
  rw [safety_after]
  cases latest safetyStream h with
  | none =>
    have hunknown : SafetyState.stateUnknown ∉ unsafeStates := by decide
    simp [hunknown]
  | some state => simp

/-! ## What a request publishes -/

/-- **A request publishes the command of its skill** if it is accepted and not a dry run, and no
other. -/
theorem policyCmd_mem_iff {s : State} {now : Time} {request : ExecuteSkillRequest} {executionId : String}
    {msg : TwistStamped} :
    Publication.policyCmd msg ∈ (onExecuteSkill s now request executionId).2 ↔
      (s.decision request).accepted = true ∧ request.dryRun = false ∧
        executeSupportedSkill s now request = some msg := by
  simp only [onExecuteSkill, publishState, List.mem_append, List.mem_map, Option.mem_toList,
    List.mem_singleton, reduceCtorEq, or_false, Publication.policyCmd.injEq, exists_eq_right]
  rw [Option.ite_none_right_eq_some, Bool.and_eq_true, Bool.not_eq_true', and_assoc]

/-- Nothing but a request publishes a command. -/
theorem exists_request_of_policyCmd {s : State} {i : Input} {msg : TwistStamped}
    (hpub : Publication.policyCmd msg ∈ (step s i).2) :
    ∃ request executionId, i.event = .executeSkill request executionId := by
  obtain ⟨now, event⟩ := i
  cases event with
  | capabilities msg' => exact absurd hpub List.not_mem_nil
  | modeState msg' => exact absurd hpub List.not_mem_nil
  | safetyState msg' => exact absurd hpub List.not_mem_nil
  | executeSkill request executionId => exact ⟨request, executionId, rfl⟩
  | republishState =>
    have htimer : Publication.policyCmd msg ∈ (republishState s now).2 := hpub
    unfold republishState at htimer
    split at htimer
    · exact absurd htimer List.not_mem_nil
    · exact absurd (List.mem_singleton.mp htimer) (by simp)
  | setParameters params => exact absurd hpub List.not_mem_nil

/-- **What a stop request publishes on `policy/cmd_vel`**: nothing unless it is accepted and not a
dry run, and then the zero velocity. -/
theorem policyCmd_of_stop {s : State} {now : Time} {request : ExecuteSkillRequest}
    {executionId : String} {msg : TwistStamped} (hstop : request.capabilityName = "stop")
    (hpub : Publication.policyCmd msg ∈ (onExecuteSkill s now request executionId).2) :
    (s.decision request).accepted = true ∧ request.dryRun = false ∧ msg.twist = 0 := by
  obtain ⟨haccepted, hdry, hcommand⟩ := policyCmd_mem_iff.mp hpub
  rw [executeSupportedSkill, if_pos hstop] at hcommand
  obtain rfl := Option.some.inj hcommand
  exact ⟨haccepted, hdry, rfl⟩

/-- The names of the two skills that move the robot. -/
def velocitySkills : List String := ["walk_velocity", "turn_in_place"]

/-- **When a velocity skill is accepted.** The safety test names three states, and lets every other
one pass. -/
theorem accepted_iff {capabilityName : String} {capability : Option Capability} {mode safety : UInt8}
    (hskill : capabilityName ∈ velocitySkills) :
    (evaluateRequest capabilityName capability mode safety).accepted = true ↔
      ∃ found, capability = some found ∧ safety ∉ unsafeStates ∧ mode = ModeState.modeAiPolicy ∧
        found.state ∉
          [Capability.stateUnknown, Capability.stateUnavailable, Capability.stateFault] := by
  have hexecutable : capabilityName ∈ executableSkills := List.mem_cons_of_mem _ hskill
  have hstop : capabilityName ≠ "stop" := by
    rintro rfl
    exact absurd hskill (by decide)
  cases capability with
  | none => simp [evaluateRequest]
  | some found =>
    unfold evaluateRequest
    dsimp only
    rw [if_neg (not_not.mpr hexecutable)]
    constructor
    · intro haccepted
      split at haccepted
      · exact absurd haccepted Bool.false_ne_true
      next hsafety =>
      split at haccepted
      · exact absurd haccepted Bool.false_ne_true
      next hmode =>
      split at haccepted
      · exact absurd haccepted Bool.false_ne_true
      next hstate =>
      exact ⟨found, rfl, fun h => hsafety ⟨hstop, h⟩, not_not.mp fun h => hmode ⟨hskill, h⟩, hstate⟩
    · rintro ⟨found', hfound, hsafety, hmode, hstate⟩
      obtain rfl := Option.some.inj hfound
      rw [if_neg fun h => hsafety h.2, if_neg fun h => h.2 hmode, if_neg hstate]

/-- The velocity that a request for a velocity skill asks for, less the components that the skill
leaves out, is not zero. -/
def ExecuteSkillRequest.Moves (request : ExecuteSkillRequest) : Prop :=
  request.velocityCommand.twist.angular.z ≠ 0 ∨
    request.capabilityName = "walk_velocity" ∧
      (request.velocityCommand.twist.linear.x ≠ 0 ∨ request.velocityCommand.twist.linear.y ≠ 0)

/-- **The command of a velocity skill** is not zero exactly if the request asks for a motion. -/
theorem exists_command (s : State) (now : Time) {request : ExecuteSkillRequest}
    (hskill : request.capabilityName ∈ velocitySkills) :
    ∃ msg, executeSupportedSkill s now request = some msg ∧ (msg.twist ≠ 0 ↔ request.Moves) := by
  rcases List.mem_pair.mp hskill with hwalk | hturn
  · refine ⟨sanitizeVelocityCommand request.velocityCommand s.params.robotId now false, ?_, ?_⟩
    · rw [executeSupportedSkill, hwalk]
      rfl
    · simp only [sanitizeVelocityCommand, ExecuteSkillRequest.Moves, hwalk]
      show ¬Twist.mk _ _ = Twist.mk {} {} ↔ _
      rw [Twist.mk.injEq, Vector3.mk.injEq, Vector3.mk.injEq]
      tauto
  · refine ⟨sanitizeVelocityCommand request.velocityCommand s.params.robotId now true, ?_, ?_⟩
    · rw [executeSupportedSkill, hturn]
      rfl
    · have hname : request.capabilityName ≠ "walk_velocity" := by
        rw [hturn]
        decide
      simp only [sanitizeVelocityCommand, ExecuteSkillRequest.Moves, hname, false_and, or_false]
      show ¬Twist.mk {} _ = Twist.mk {} {} ↔ _
      rw [Twist.mk.injEq, Vector3.mk.injEq, Vector3.mk.injEq]
      tauto

/-- **A request is executed**: it is accepted and no dry run, and `msg` is the command of its skill. If
that moves the robot, the skill is one of velocity, its capability is known and available, the mode is
`AI_POLICY`, and the safety state is none of the unsafe ones. -/
structure State.Executes (s : State) (now : Time) (request : ExecuteSkillRequest) (msg : TwistStamped) :
    Prop where
  accepted : (s.decision request).accepted = true
  notDryRun : request.dryRun = false
  command : executeSupportedSkill s now request = some msg
  skill : msg.twist ≠ 0 → request.capabilityName ∈ velocitySkills
  capability : msg.twist ≠ 0 → ∃ found, s.capabilities.get? request.capabilityName = some found ∧
    found.state ∉ [Capability.stateUnknown, Capability.stateUnavailable, Capability.stateFault]
  safety : msg.twist ≠ 0 → s.safety ∉ unsafeStates
  mode : msg.twist ≠ 0 → s.mode = ModeState.modeAiPolicy

/-- **A command of the skill server** is that of a request which it executes. -/
theorem executes_of_policyCmd {s : State} {i : Input} {msg : TwistStamped}
    (hpub : Publication.policyCmd msg ∈ (step s i).2) :
    ∃ request executionId, i.event = .executeSkill request executionId ∧
      s.Executes i.now request msg := by
  obtain ⟨request, executionId, hevent⟩ := exists_request_of_policyCmd hpub
  obtain ⟨now, event⟩ := i
  obtain rfl : event = .executeSkill request executionId := hevent
  obtain ⟨haccepted, hdry, hcommand⟩ := policyCmd_mem_iff.mp hpub
  have hskill : msg.twist ≠ 0 → request.capabilityName ∈ velocitySkills := by
    intro hmoves
    rw [executeSupportedSkill] at hcommand
    split at hcommand
    · obtain rfl := Option.some.inj hcommand
      exact absurd rfl hmoves
    split at hcommand
    · next hwalk => exact List.mem_pair.mpr (Or.inl hwalk)
    split at hcommand
    · next hturn => exact List.mem_pair.mpr (Or.inr hturn)
    · cases hcommand
  have hall : msg.twist ≠ 0 → _ := fun hmoves => (accepted_iff (hskill hmoves)).mp haccepted
  refine ⟨request, executionId, rfl, haccepted, hdry, hcommand, hskill, fun hmoves => ?_,
    fun hmoves => ?_, fun hmoves => ?_⟩
  · obtain ⟨found, hfound, -, -, hstate⟩ := hall hmoves
    exact ⟨found, hfound, hstate⟩
  · obtain ⟨-, -, hsafety, -, -⟩ := hall hmoves
    exact hsafety
  · obtain ⟨-, -, -, hmode, -⟩ := hall hmoves
    exact hmode

end HumaWare.SkillServer
