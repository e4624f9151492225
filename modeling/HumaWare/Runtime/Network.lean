import HumaWare.Reactive.Network
import HumaWare.CommandArbiter.Node
import HumaWare.HardwareAdapter.Node
import HumaWare.LocomotionAdapter.Node
import HumaWare.ModeManager.Node
import HumaWare.Nav2Bridge.Node
import HumaWare.SafetyManager.Node
import HumaWare.SkillServer.Node

/-! # The runtime as a network of nodes

The nodes of the runtime, joined by the topics they share. `network` puts any selection of them to
work: `members` are the nodes that run, and `opens` are the topics on which parties outside of the
selection publish as well. A callback of one node is one step; messages wait on one link for every
subscriber and topic.

For each node, `Nodes.…_after` reads its state off the events fired so far: inside the network a
node is the node's own machine on its own inputs. -/

namespace HumaWare.Runtime

open Reactive
open CommandArbiter (Lane)

/-- The nodes. -/
inductive NodeId
  | safetyManager
  | modeManager
  | commandArbiter
  | nav2Bridge
  | locomotionAdapter
  | hardwareAdapter
  | skillServer
  deriving DecidableEq, Repr

/-- The topics that some node subscribes to. -/
inductive Topic
  /-- `safety/state` -/
  | safetyState
  /-- `safety/mrm_state` -/
  | mrmState
  /-- `mode/state` -/
  | modeState
  /-- `teleop/cmd_vel`, `autonomy/cmd_vel`, `policy/cmd_vel` -/
  | candidate (lane : Lane)
  /-- `cmd_vel/approved` -/
  | approvedCmd
  /-- `runtime/command_arbitration_state` -/
  | arbitrationState
  /-- `locomotion/state` -/
  | locomotionState
  /-- `teleop/heartbeat` -/
  | teleopHeartbeat
  /-- `hardware/heartbeat` -/
  | hardwareHeartbeat
  /-- `nav2/cmd_vel` -/
  | nav2Twist
  /-- `nav2/cmd_vel_stamped` -/
  | nav2TwistStamped
  /-- `capabilities` -/
  | capabilities
  deriving DecidableEq, Repr

/-- The messages on these topics. -/
inductive Message
  | safetyState (msg : SafetyState)
  | mrmState (msg : MRMState)
  | modeState (msg : ModeState)
  | candidate (lane : Lane) (msg : TwistStamped)
  | approvedCmd (msg : TwistStamped)
  | arbitrationState (msg : CommandArbitrationState)
  | locomotionState (msg : LocomotionState)
  | teleopHeartbeat (msg : Header)
  | hardwareHeartbeat (msg : Header)
  | nav2Twist (msg : Twist)
  | nav2TwistStamped (msg : TwistStamped)
  | capabilities (msg : List Capability)
  deriving DecidableEq

/-- The topic of a message. -/
def Message.topic : Message → Topic
  | safetyState _ => .safetyState
  | mrmState _ => .mrmState
  | modeState _ => .modeState
  | candidate lane _ => .candidate lane
  | approvedCmd _ => .approvedCmd
  | arbitrationState _ => .arbitrationState
  | locomotionState _ => .locomotionState
  | teleopHeartbeat _ => .teleopHeartbeat
  | hardwareHeartbeat _ => .hardwareHeartbeat
  | nav2Twist _ => .nav2Twist
  | nav2TwistStamped _ => .nav2TwistStamped
  | capabilities _ => .capabilities

/-- The safety state that a message carries. -/
def Message.safety : Message → UInt8
  | .safetyState msg => msg.state
  | _ => SafetyState.stateUnknown

/-- A callback of some node. -/
inductive Event
  | safetyManager (event : SafetyManager.Event)
  | modeManager (event : ModeManager.Event)
  | commandArbiter (event : CommandArbiter.Event)
  | nav2Bridge (event : Nav2Bridge.Event)
  | locomotionAdapter (event : LocomotionAdapter.Event)
  | hardwareAdapter (event : HardwareAdapter.Event)
  | skillServer (event : SkillServer.Event)
  deriving DecidableEq

/-- The node whose callback it is. -/
def Event.node : Event → NodeId
  | safetyManager _ => .safetyManager
  | modeManager _ => .modeManager
  | commandArbiter _ => .commandArbiter
  | nav2Bridge _ => .nav2Bridge
  | locomotionAdapter _ => .locomotionAdapter
  | hardwareAdapter _ => .hardwareAdapter
  | skillServer _ => .skillServer

/-- The callbacks of timers and services, and parameter changes. -/
def Event.acts : Event → Bool
  | safetyManager (.triggerMrm _) | safetyManager (.clearMrm _) | safetyManager .publishState
  | safetyManager (.setParameters _) => true
  | modeManager (.setMode _) | modeManager (.takeover _) | modeManager .publishState
  | modeManager (.setParameters _) => true
  | commandArbiter .tick | commandArbiter (.setParameters _) => true
  | nav2Bridge .tick | nav2Bridge (.setParameters _) => true
  | locomotionAdapter .tick | locomotionAdapter (.setParameters _) => true
  | hardwareAdapter .tick | hardwareAdapter .publishHeartbeat
  | hardwareAdapter (.setParameters _) => true
  | skillServer (.executeSkill _ _) | skillServer .republishState
  | skillServer (.setParameters _) => true
  | _ => false

/-- The subscriptions: the callback that a message triggers at a node. -/
def subscription : NodeId → Message → Option Event
  | .safetyManager, .teleopHeartbeat msg => some (.safetyManager (.teleopHeartbeat msg))
  | .safetyManager, .hardwareHeartbeat msg => some (.safetyManager (.hardwareHeartbeat msg))
  | .safetyManager, .approvedCmd msg => some (.safetyManager (.approvedCommand msg))
  | .safetyManager, .modeState msg => some (.safetyManager (.modeState msg))
  | .modeManager, .safetyState msg => some (.modeManager (.safetyState msg))
  | .commandArbiter, .modeState msg => some (.commandArbiter (.modeState msg))
  | .commandArbiter, .safetyState msg => some (.commandArbiter (.safetyState msg))
  | .commandArbiter, .candidate lane msg => some (.commandArbiter (.candidate lane msg))
  | .nav2Bridge, .nav2Twist msg => some (.nav2Bridge (.twist msg))
  | .nav2Bridge, .nav2TwistStamped msg => some (.nav2Bridge (.twistStamped msg))
  | .nav2Bridge, .modeState msg => some (.nav2Bridge (.modeState msg))
  | .nav2Bridge, .safetyState msg => some (.nav2Bridge (.safetyState msg))
  | .nav2Bridge, .locomotionState msg => some (.nav2Bridge (.locomotionState msg))
  | .locomotionAdapter, .approvedCmd msg => some (.locomotionAdapter (.approvedCmd msg))
  | .locomotionAdapter, .modeState msg => some (.locomotionAdapter (.modeState msg))
  | .locomotionAdapter, .safetyState msg => some (.locomotionAdapter (.safetyState msg))
  | .hardwareAdapter, .safetyState msg => some (.hardwareAdapter (.safetyState msg))
  | .hardwareAdapter, .mrmState msg => some (.hardwareAdapter (.mrmState msg))
  | .hardwareAdapter, .modeState msg => some (.hardwareAdapter (.modeState msg))
  | .hardwareAdapter, .approvedCmd msg => some (.hardwareAdapter (.approvedCommand msg))
  | .hardwareAdapter, .arbitrationState msg => some (.hardwareAdapter (.arbitrationState msg))
  | .skillServer, .capabilities msg => some (.skillServer (.capabilities msg))
  | .skillServer, .modeState msg => some (.skillServer (.modeState msg))
  | .skillServer, .safetyState msg => some (.skillServer (.safetyState msg))
  | _, _ => none

/-- The message that triggers a callback, for those that a message triggers. -/
def Event.message : Event → Option Message
  | safetyManager (.teleopHeartbeat msg) => some (.teleopHeartbeat msg)
  | safetyManager (.hardwareHeartbeat msg) => some (.hardwareHeartbeat msg)
  | safetyManager (.approvedCommand msg) => some (.approvedCmd msg)
  | safetyManager (.modeState msg) => some (.modeState msg)
  | modeManager (.safetyState msg) => some (.safetyState msg)
  | commandArbiter (.modeState msg) => some (.modeState msg)
  | commandArbiter (.safetyState msg) => some (.safetyState msg)
  | commandArbiter (.candidate lane msg) => some (.candidate lane msg)
  | nav2Bridge (.twist msg) => some (.nav2Twist msg)
  | nav2Bridge (.twistStamped msg) => some (.nav2TwistStamped msg)
  | nav2Bridge (.modeState msg) => some (.modeState msg)
  | nav2Bridge (.safetyState msg) => some (.safetyState msg)
  | nav2Bridge (.locomotionState msg) => some (.locomotionState msg)
  | locomotionAdapter (.approvedCmd msg) => some (.approvedCmd msg)
  | locomotionAdapter (.modeState msg) => some (.modeState msg)
  | locomotionAdapter (.safetyState msg) => some (.safetyState msg)
  | hardwareAdapter (.safetyState msg) => some (.safetyState msg)
  | hardwareAdapter (.mrmState msg) => some (.mrmState msg)
  | hardwareAdapter (.modeState msg) => some (.modeState msg)
  | hardwareAdapter (.approvedCommand msg) => some (.approvedCmd msg)
  | hardwareAdapter (.arbitrationState msg) => some (.arbitrationState msg)
  | skillServer (.capabilities msg) => some (.capabilities msg)
  | skillServer (.modeState msg) => some (.modeState msg)
  | skillServer (.safetyState msg) => some (.safetyState msg)
  | _ => none

/-- **A callback tells its node and its message.** -/
theorem subscription_eq_some_iff {n : NodeId} {m : Message} {e : Event} :
    subscription n m = some e ↔ e.node = n ∧ e.message = some m := by
  constructor
  · intro h
    cases n <;> cases m <;> simp only [subscription, Option.some.injEq, reduceCtorEq] at h
    all_goals rw [← h]; exact ⟨rfl, rfl⟩
  · rintro ⟨rfl, h⟩
    rcases e with e | e | e | e | e | e | e
    all_goals cases e
    all_goals simp only [Event.message, Option.some.injEq, reduceCtorEq] at h
    all_goals rw [← h]; rfl

/-- A callback that a message triggers is not one that a timer, a service or a parameter change
does. -/
theorem acts_eq_false_of_message {e : Event} {m : Message} (h : e.message = some m) :
    e.acts = false := by
  rcases e with e | e | e | e | e | e | e
  all_goals cases e
  all_goals first | rfl | exact absurd h (by simp [Event.message])

/-- What some node publishes, answers or does. -/
inductive Output
  | safetyManager (output : SafetyManager.Publication)
  | modeManager (output : ModeManager.Publication)
  | commandArbiter (output : CommandArbiter.Publication)
  | nav2Bridge (output : Nav2Bridge.Publication)
  | locomotionAdapter (output : LocomotionAdapter.Publication)
  | hardwareAdapter (output : HardwareAdapter.Effect)
  | skillServer (output : SkillServer.Publication)
  deriving DecidableEq

/-- The message that an output puts on a topic to which some node subscribes. -/
def Output.message : Output → Option Message
  | safetyManager (.safetyState msg) => some (.safetyState msg)
  | safetyManager (.mrmState msg) => some (.mrmState msg)
  | modeManager (.modeState msg) => some (.modeState msg)
  | commandArbiter (.approved msg) => some (.approvedCmd msg)
  | commandArbiter (.arbitrationState msg) => some (.arbitrationState msg)
  | nav2Bridge (.command msg) => some (.candidate .autonomy msg)
  | locomotionAdapter (.locomotionState msg) => some (.locomotionState msg)
  | hardwareAdapter (.heartbeat msg) => some (.hardwareHeartbeat msg)
  | skillServer (.policyCmd msg) => some (.candidate .policy msg)
  | _ => none

/-- How the nodes are started. -/
structure Setup where
  startedAt : Time := 0
  safetyManager : SafetyManager.Params := {}
  modeManager : ModeManager.Params := {}
  commandArbiter : CommandArbiter.Params := {}
  nav2Bridge : Nav2Bridge.Params := {}
  locomotionAdapter : LocomotionAdapter.Params := {}
  hardwareAdapter : HardwareAdapter.Params := {}
  skillServer : SkillServer.Params := {}

/-- The states of the nodes. -/
structure Nodes where
  safetyManager : SafetyManager.State
  modeManager : ModeManager.State
  commandArbiter : CommandArbiter.State
  nav2Bridge : Nav2Bridge.State
  locomotionAdapter : LocomotionAdapter.State
  hardwareAdapter : HardwareAdapter.State
  skillServer : SkillServer.State

/-- One callback of one node. -/
def Nodes.step (s : Nodes) (i : Stamped Time Event) : Nodes × List Output :=
  match i.event with
  | .safetyManager e =>
    let (s', outputs) := SafetyManager.step s.safetyManager ⟨i.now, e⟩
    ({ s with safetyManager := s' }, outputs.map .safetyManager)
  | .modeManager e =>
    let (s', outputs) := ModeManager.step s.modeManager ⟨i.now, e⟩
    ({ s with modeManager := s' }, outputs.map .modeManager)
  | .commandArbiter e =>
    let (s', outputs) := CommandArbiter.step s.commandArbiter ⟨i.now, e⟩
    ({ s with commandArbiter := s' }, outputs.map .commandArbiter)
  | .nav2Bridge e =>
    let (s', outputs) := Nav2Bridge.step s.nav2Bridge ⟨i.now, e⟩
    ({ s with nav2Bridge := s' }, outputs.map .nav2Bridge)
  | .locomotionAdapter e =>
    let (s', outputs) := LocomotionAdapter.step s.locomotionAdapter ⟨i.now, e⟩
    ({ s with locomotionAdapter := s' }, outputs.map .locomotionAdapter)
  | .hardwareAdapter e =>
    let (s', outputs) := HardwareAdapter.step s.hardwareAdapter ⟨i.now, e⟩
    ({ s with hardwareAdapter := s' }, outputs.map .hardwareAdapter)
  | .skillServer e =>
    let (s', outputs) := SkillServer.step s.skillServer ⟨i.now, e⟩
    ({ s with skillServer := s' }, outputs.map .skillServer)

/-- The nodes as one machine. -/
def nodes (setup : Setup) : Machine Nodes (Stamped Time Event) (List Output) where
  init :=
    { safetyManager := (SafetyManager.machine setup.safetyManager).init
      modeManager := (ModeManager.machine setup.modeManager setup.startedAt).init
      commandArbiter := (CommandArbiter.machine setup.commandArbiter).init
      nav2Bridge := (Nav2Bridge.machine setup.nav2Bridge).init
      locomotionAdapter := (LocomotionAdapter.machine setup.locomotionAdapter).init
      hardwareAdapter := (HardwareAdapter.machine setup.hardwareAdapter).init
      skillServer := (SkillServer.machine setup.skillServer setup.startedAt).init }
  step := Nodes.step

/-- **The runtime network** of the nodes `members`, with outside publishers on the topics
`opens`. -/
def network (setup : Setup) (members : NodeId → Bool) (opens : Topic → Bool) :
    Network Time NodeId Topic Message Event Nodes (List Output) where
  topic := Message.topic
  receive n m := if members n then subscription n m else none
  nodes := nodes setup
  emits outputs := outputs.filterMap Output.message
  acts e := e.acts && members e.node
  opens := opens

/-- A step of a run: a label and the clock reading at which it happens. -/
abbrev Action : Type := Stamped Time (Label NodeId Topic Message Event)

/-- A state of the runtime network. -/
abbrev NetworkState : Type := NetState Time NodeId Topic Message Nodes

/-- A step of the nodes is a callback of one of them. -/
@[simp] theorem nodes_next (setup : Setup) (s : Nodes) (i : Stamped Time Event) :
    (nodes setup).next s i = (s.step i).1 := rfl

/-- The nodes output what the callback outputs. -/
@[simp] theorem nodes_out (setup : Setup) (s : Nodes) (i : Stamped Time Event) :
    (nodes setup).out s i = (s.step i).2 := rfl

/-- The nodes of the network. -/
@[simp] theorem network_nodes (setup : Setup) (members : NodeId → Bool) (opens : Topic → Bool) :
    (network setup members opens).nodes = nodes setup := rfl

/-- The topic of a message in the network. -/
@[simp] theorem network_topic (setup : Setup) (members : NodeId → Bool) (opens : Topic → Bool)
    (m : Message) : (network setup members opens).topic m = m.topic := rfl

/-- A member receives what it subscribes to. -/
theorem receive_eq_some_iff {setup : Setup} {members : NodeId → Bool} {opens : Topic → Bool}
    {n : NodeId} {m : Message} {e : Event} :
    (network setup members opens).receive n m = some e ↔
      members n = true ∧ subscription n m = some e := by
  show (if members n then subscription n m else none) = some e ↔ _
  rw [Option.ite_none_right_eq_some]

/-! ## What one step outputs -/

/-- What the callback fired by a step publishes, answers or does. -/
def stepOutputs (setup : Setup) (members : NodeId → Bool) (opens : Topic → Bool) (s : NetworkState)
    (i : Action) : List Output :=
  ((network setup members opens).machine.out s i).getD []

/-- The outputs of a step are those of the callback that it fires. -/
theorem mem_stepOutputs_iff {setup : Setup} {members : NodeId → Bool} {opens : Topic → Bool}
    {s : NetworkState} {i : Action} {x : Output} :
    x ∈ stepOutputs setup members opens s i ↔
      ∃ e, (network setup members opens).fired s i.event = some e ∧
        x ∈ (s.nodes.step ⟨i.now, e⟩).2 := by
  rw [stepOutputs, Network.out_eq]
  cases (network setup members opens).fired s i.event <;> simp

/-- A message is published by the step's callback, or by an outside party on an open topic. -/
theorem emitted_cases {setup : Setup} {members : NodeId → Bool} {opens : Topic → Bool}
    {s : NetworkState} {i : Action} {m : Message}
    (h : m ∈ (network setup members opens).emitted s i) :
    (∃ x ∈ stepOutputs setup members opens s i, x.message = some m) ∨
      (i.event = .inject m ∧ opens m.topic = true) := by
  rcases (network setup members opens).emitted_cases h with ⟨e, he, hm⟩ | hinject
  · obtain ⟨x, hx, hmsg⟩ := List.mem_filterMap.mp hm
    exact Or.inl ⟨x, mem_stepOutputs_iff.mpr ⟨e, he, hx⟩, hmsg⟩
  · exact Or.inr hinject

/-- What the step's callback outputs on a topic, the step publishes. -/
theorem emitted_of_output {setup : Setup} {members : NodeId → Bool} {opens : Topic → Bool}
    {s : NetworkState} {i : Action} {x : Output} {m : Message}
    (hx : x ∈ stepOutputs setup members opens s i) (hmsg : x.message = some m) :
    m ∈ (network setup members opens).emitted s i := by
  obtain ⟨e, hfired, hx⟩ := mem_stepOutputs_iff.mp hx
  rw [Network.emitted, hfired]
  exact List.mem_filterMap.mpr ⟨x, hx, hmsg⟩

/-! ## Who publishes what -/

/-- The output that puts a message on its topic, where some node publishes there. -/
def Message.output : Message → Option Output
  | .safetyState msg => some (.safetyManager (.safetyState msg))
  | .mrmState msg => some (.safetyManager (.mrmState msg))
  | .modeState msg => some (.modeManager (.modeState msg))
  | .candidate .autonomy msg => some (.nav2Bridge (.command msg))
  | .candidate .policy msg => some (.skillServer (.policyCmd msg))
  | .approvedCmd msg => some (.commandArbiter (.approved msg))
  | .arbitrationState msg => some (.commandArbiter (.arbitrationState msg))
  | .locomotionState msg => some (.locomotionAdapter (.locomotionState msg))
  | .hardwareHeartbeat msg => some (.hardwareAdapter (.heartbeat msg))
  | _ => none

/-- **Every topic has at most one publisher among the nodes.** -/
theorem message_eq_some_iff {x : Output} {m : Message} : x.message = some m ↔ m.output = some x := by
  constructor
  · intro h
    rcases x with (_ | _ | _ | _) | (_ | _ | _) | (_ | _) | (_ | _) | _ | (_ | _ | _ | _) | (_ | _ | _)
    all_goals simp only [Output.message, Option.some.injEq, reduceCtorEq] at h
    all_goals rw [← h]; rfl
  · intro h
    rcases m with _ | _ | _ | ⟨_ | _ | _, _⟩ | _ | _ | _ | _ | _ | _ | _ | _
    all_goals simp only [Message.output, Option.some.injEq, reduceCtorEq] at h
    all_goals rw [← h]; rfl

/-- A message on `safety/state` is a safety state. -/
theorem Message.eq_safetyState {m : Message} (h : m.topic = .safetyState) :
    ∃ msg, m = .safetyState msg := by
  cases m <;> simp only [Message.topic, reduceCtorEq] at h
  exact ⟨_, rfl⟩

/-- A message on `cmd_vel/approved` is an approved command. -/
theorem Message.eq_approvedCmd {m : Message} (h : m.topic = .approvedCmd) :
    ∃ msg, m = .approvedCmd msg := by
  cases m <;> simp only [Message.topic, reduceCtorEq] at h
  exact ⟨_, rfl⟩

/-- A message on the topic of a lane is a candidate for it. -/
theorem Message.eq_candidate {m : Message} {lane : Lane} (h : m.topic = .candidate lane) :
    ∃ msg, m = .candidate lane msg := by
  cases m <;> simp only [Message.topic, Topic.candidate.injEq, reduceCtorEq] at h
  subst h
  exact ⟨_, rfl⟩

/-- Only the safety manager publishes safety states. -/
theorem message_safetyState {x : Output} {m : Message} (hmsg : x.message = some m)
    (htopic : m.topic = .safetyState) :
    ∃ safety, x = .safetyManager (.safetyState safety) ∧ m = .safetyState safety := by
  rw [message_eq_some_iff] at hmsg
  obtain ⟨safety, rfl⟩ := Message.eq_safetyState htopic
  exact ⟨safety, (Option.some.inj hmsg).symm, rfl⟩

/-- Only the arbiter publishes approved commands. -/
theorem message_approvedCmd {x : Output} {m : Message} (hmsg : x.message = some m)
    (htopic : m.topic = .approvedCmd) :
    ∃ msg, x = .commandArbiter (.approved msg) ∧ m = .approvedCmd msg := by
  rw [message_eq_some_iff] at hmsg
  obtain ⟨msg, rfl⟩ := Message.eq_approvedCmd htopic
  exact ⟨msg, (Option.some.inj hmsg).symm, rfl⟩

/-- Only the skill server publishes policy candidates. -/
theorem message_policyCmd {x : Output} {m : Message} (hmsg : x.message = some m)
    (htopic : m.topic = .candidate .policy) :
    ∃ msg, x = .skillServer (.policyCmd msg) ∧ m = .candidate .policy msg := by
  rw [message_eq_some_iff] at hmsg
  obtain ⟨msg, rfl⟩ := Message.eq_candidate htopic
  exact ⟨msg, (Option.some.inj hmsg).symm, rfl⟩

/-- What the safety manager outputs, it outputs in a callback of its own. -/
theorem Nodes.mem_step_safetyManager {s : Nodes} {i : Stamped Time Event}
    {x : SafetyManager.Publication} (h : Output.safetyManager x ∈ (s.step i).2) :
    ∃ e, i.event = .safetyManager e ∧ x ∈ (SafetyManager.step s.safetyManager ⟨i.now, e⟩).2 := by
  obtain ⟨now, event⟩ := i
  cases event <;> simp_all [Nodes.step]

/-- So does the arbiter. -/
theorem Nodes.mem_step_commandArbiter {s : Nodes} {i : Stamped Time Event}
    {x : CommandArbiter.Publication} (h : Output.commandArbiter x ∈ (s.step i).2) :
    ∃ e, i.event = .commandArbiter e ∧
      x ∈ (CommandArbiter.step s.commandArbiter ⟨i.now, e⟩).2 := by
  obtain ⟨now, event⟩ := i
  cases event <;> simp_all [Nodes.step]

/-- So does the Nav2 bridge. -/
theorem Nodes.mem_step_nav2Bridge {s : Nodes} {i : Stamped Time Event} {x : Nav2Bridge.Publication}
    (h : Output.nav2Bridge x ∈ (s.step i).2) :
    ∃ e, i.event = .nav2Bridge e ∧ x ∈ (Nav2Bridge.step s.nav2Bridge ⟨i.now, e⟩).2 := by
  obtain ⟨now, event⟩ := i
  cases event <;> simp_all [Nodes.step]

/-- So does the locomotion adapter. -/
theorem Nodes.mem_step_locomotionAdapter {s : Nodes} {i : Stamped Time Event}
    {x : LocomotionAdapter.Publication} (h : Output.locomotionAdapter x ∈ (s.step i).2) :
    ∃ e, i.event = .locomotionAdapter e ∧
      x ∈ (LocomotionAdapter.step s.locomotionAdapter ⟨i.now, e⟩).2 := by
  obtain ⟨now, event⟩ := i
  cases event <;> simp_all [Nodes.step]

/-- So does the hardware adapter. -/
theorem Nodes.mem_step_hardwareAdapter {s : Nodes} {i : Stamped Time Event}
    {x : HardwareAdapter.Effect} (h : Output.hardwareAdapter x ∈ (s.step i).2) :
    ∃ e, i.event = .hardwareAdapter e ∧
      x ∈ (HardwareAdapter.step s.hardwareAdapter ⟨i.now, e⟩).2 := by
  obtain ⟨now, event⟩ := i
  cases event <;> simp_all [Nodes.step]

/-- So does the skill server. -/
theorem Nodes.mem_step_skillServer {s : Nodes} {i : Stamped Time Event}
    {x : SkillServer.Publication} (h : Output.skillServer x ∈ (s.step i).2) :
    ∃ e, i.event = .skillServer e ∧ x ∈ (SkillServer.step s.skillServer ⟨i.now, e⟩).2 := by
  obtain ⟨now, event⟩ := i
  cases event <;> simp_all [Nodes.step]

/-! ## A node inside the network runs its own program -/

/-- The inputs of the safety manager among the events fired. -/
def safetyManagerInput (i : Stamped Time Event) : Option SafetyManager.Input :=
  match i.event with
  | .safetyManager e => some ⟨i.now, e⟩
  | _ => none

/-- The inputs of the command arbiter among the events fired. -/
def commandArbiterInput (i : Stamped Time Event) : Option CommandArbiter.Input :=
  match i.event with
  | .commandArbiter e => some ⟨i.now, e⟩
  | _ => none

/-- The inputs of the locomotion adapter among the events fired. -/
def locomotionAdapterInput (i : Stamped Time Event) : Option LocomotionAdapter.Input :=
  match i.event with
  | .locomotionAdapter e => some ⟨i.now, e⟩
  | _ => none

/-- The inputs of the hardware adapter among the events fired. -/
def hardwareAdapterInput (i : Stamped Time Event) : Option HardwareAdapter.Input :=
  match i.event with
  | .hardwareAdapter e => some ⟨i.now, e⟩
  | _ => none

section After

variable (setup : Setup) (h : List (Stamped Time Event))

/-- The safety manager runs its own program on its own events. -/
theorem safetyManager_after :
    ((nodes setup).after h).safetyManager =
      (SafetyManager.machine setup.safetyManager).after (h.filterMap safetyManagerInput) := by
  refine Component.proj_after_filterMap Nodes.safetyManager safetyManagerInput rfl ?_ h
  rintro s ⟨now, event⟩
  cases event <;> rfl

/-- So does the arbiter. -/
theorem commandArbiter_after :
    ((nodes setup).after h).commandArbiter =
      (CommandArbiter.machine setup.commandArbiter).after (h.filterMap commandArbiterInput) := by
  refine Component.proj_after_filterMap Nodes.commandArbiter commandArbiterInput rfl ?_ h
  rintro s ⟨now, event⟩
  cases event <;> rfl

/-- So does the locomotion adapter. -/
theorem locomotionAdapter_after :
    ((nodes setup).after h).locomotionAdapter =
      (LocomotionAdapter.machine setup.locomotionAdapter).after
        (h.filterMap locomotionAdapterInput) := by
  refine Component.proj_after_filterMap Nodes.locomotionAdapter locomotionAdapterInput rfl ?_ h
  rintro s ⟨now, event⟩
  cases event <;> rfl

/-- So does the hardware adapter. -/
theorem hardwareAdapter_after :
    ((nodes setup).after h).hardwareAdapter =
      (HardwareAdapter.machine setup.hardwareAdapter).after (h.filterMap hardwareAdapterInput) := by
  refine Component.proj_after_filterMap Nodes.hardwareAdapter hardwareAdapterInput rfl ?_ h
  rintro s ⟨now, event⟩
  cases event <;> rfl

end After

section Run

variable (setup : Setup) (members : NodeId → Bool) (opens : Topic → Bool)

/-- What the arbiter handled along a run. -/
def commandArbiterHistory (h : List Action) : List CommandArbiter.Input :=
  ((network setup members opens).events h).filterMap commandArbiterInput

/-- What the arbiter handled along `k`, when it continues the run `h`. -/
def commandArbiterSince (h k : List Action) : List CommandArbiter.Input :=
  ((network setup members opens).eventsFrom h k).filterMap commandArbiterInput

/-- The history of the arbiter in a longer run. -/
theorem commandArbiterHistory_append (h k : List Action) :
    commandArbiterHistory setup members opens (h ++ k) =
      commandArbiterHistory setup members opens h ++ commandArbiterSince setup members opens h k := by
  rw [commandArbiterHistory, Network.events_append, List.filterMap_append]
  rfl

/-- The arbiter runs its own program inside the network. -/
theorem commandArbiter_after_run (h : List Action) :
    ((network setup members opens).machine.after h).nodes.commandArbiter =
      (CommandArbiter.machine setup.commandArbiter).after
        (commandArbiterHistory setup members opens h) := by
  rw [Network.nodes_after]
  exact commandArbiter_after setup _

/-- Inside the network, too, the arbiter's entries carry the data of their subscriptions. -/
theorem wellKeyed_after_run (h : List Action) :
    ((network setup members opens).machine.after h).nodes.commandArbiter.WellKeyed := by
  rw [commandArbiter_after_run]
  exact CommandArbiter.wellKeyed_after _ _

variable {setup members opens}

/-- A step that fires a callback of the arbiter appends it. -/
theorem commandArbiterHistory_concat {h : List Action} {i : Action} {e : CommandArbiter.Event}
    (hfired : (network setup members opens).fired ((network setup members opens).machine.after h)
      i.event = some (.commandArbiter e)) :
    commandArbiterHistory setup members opens (h ++ [i]) =
      commandArbiterHistory setup members opens h ++ [⟨i.now, e⟩] := by
  rw [commandArbiterHistory, Network.events_concat, hfired, List.filterMap_append]
  rfl

/-- **A callback that a message triggers handled a packet in flight** on the link to its node. -/
theorem packet_of_fired {h : List Action} {l : Label NodeId Topic Message Event} {e : Event}
    {m : Message} (hfired : (network setup members opens).fired
      ((network setup members opens).machine.after h) l = some e) (hmessage : e.message = some m) :
    ∃ k p l', l = .deliver e.node m.topic k ∧
      (((network setup members opens).machine.after h).link e.node m.topic).take? k = some (p, l') ∧
      p.msg = m := by
  rcases (network setup members opens).fired_cases hfired with ⟨-, hacts⟩ |
    ⟨n, t, k, p, l', rfl, htake, hreceive⟩
  · -- no timer, service or parameter change fires it
    have hacts : e.acts = true := (Bool.and_eq_true _ _ ▸ hacts).1
    rw [acts_eq_false_of_message hmessage] at hacts
    exact absurd hacts Bool.false_ne_true
  · obtain ⟨-, -, -, -, -, -, htopic, -⟩ :=
      (network setup members opens).packet_emitted (List.mem_append_right _ (Link.take?_mem htake))
    obtain ⟨rfl, hmsg⟩ := subscription_eq_some_iff.mp (receive_eq_some_iff.mp hreceive).2
    obtain rfl : m = p.msg := Option.some.inj (hmessage.symm.trans hmsg)
    rw [network_topic] at htopic
    subst htopic
    exact ⟨k, p, l', rfl, htake, rfl⟩

/-- What a tick of the arbiter outputs inside the network. -/
theorem stepOutputs_commandArbiter_tick {s : NetworkState} {i : Action}
    (htick : (network setup members opens).fired s i.event = some (.commandArbiter .tick)) :
    stepOutputs setup members opens s i =
      (CommandArbiter.tick s.nodes.commandArbiter i.now).map .commandArbiter := by
  rw [stepOutputs, Network.out_eq, htick]
  rfl

/-- On a topic that no outside party uses, whatever a step publishes is output by its callback. -/
theorem exists_output {topic : Topic} (hclosed : opens topic = false) {s : NetworkState} {i : Action}
    {m : Message} (hm : m ∈ (network setup members opens).emitted s i) (htopic : m.topic = topic) :
    ∃ x ∈ stepOutputs setup members opens s i, x.message = some m := by
  rcases emitted_cases hm with houtput | ⟨-, hopen⟩
  · exact houtput
  · rw [htopic, hclosed] at hopen
    exact absurd hopen Bool.false_ne_true

/-- A safety state comes from the safety manager. -/
theorem output_of_safetyState (hclosed : opens .safetyState = false) {s : NetworkState} {i : Action}
    {m : Message} (hm : m ∈ (network setup members opens).emitted s i)
    (htopic : m.topic = .safetyState) :
    ∃ safety, m = .safetyState safety ∧
      .safetyManager (.safetyState safety) ∈ stepOutputs setup members opens s i := by
  obtain ⟨x, hx, hmsg⟩ := exists_output hclosed hm htopic
  obtain ⟨safety, rfl, rfl⟩ := message_safetyState hmsg htopic
  exact ⟨safety, rfl, hx⟩

/-- An approved command comes from a tick of the arbiter. -/
theorem tick_of_approvedCmd (hclosed : opens .approvedCmd = false) {s : NetworkState} {i : Action}
    {m : Message} (hm : m ∈ (network setup members opens).emitted s i)
    (htopic : m.topic = .approvedCmd) :
    ∃ msg, m = .approvedCmd msg ∧
      (network setup members opens).fired s i.event = some (.commandArbiter .tick) ∧
      .approved msg ∈ CommandArbiter.tick s.nodes.commandArbiter i.now := by
  obtain ⟨x, hx, hmsg⟩ := exists_output hclosed hm htopic
  obtain ⟨msg, rfl, rfl⟩ := message_approvedCmd hmsg htopic
  obtain ⟨e, hfired, hx⟩ := mem_stepOutputs_iff.mp hx
  obtain ⟨e', rfl, hpub⟩ := Nodes.mem_step_commandArbiter hx
  obtain ⟨rfl, htick⟩ := CommandArbiter.step_publications hpub
  exact ⟨msg, rfl, hfired, htick⟩

end Run

end HumaWare.Runtime
