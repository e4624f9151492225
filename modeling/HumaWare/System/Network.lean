import HumaWare.CapabilityRegistry.Node
import HumaWare.DiagnosticsAggregator.Node
import HumaWare.KeyboardTeleop.Node
import HumaWare.MockRobot.Node
import HumaWare.PolicyProvider.Load
import HumaWare.PolicyProvider.Scripted
import HumaWare.PolicyProvider.Stub
import HumaWare.Reactive.Inbox
import HumaWare.Reactive.Subsystem
import HumaWare.Runtime.Network

/-! # All the nodes

The network of the runtime together with the nodes around it: the registry that tells the skill
server what it may do, the operator's keyboard, the two policy providers, the mock robot and the
diagnostics aggregator. The runtime lies in it as a `Subsystem`: its nodes see a run of the open
runtime network, in which the nodes around it are outside parties.

The first publication of the registry, made when it is constructed, reads the same fields as the
timer's and writes none: in a run it is a timer callback at the start. -/

namespace HumaWare.System

open Python Reactive

/-- The nodes. -/
inductive NodeId
  | runtime (n : Runtime.NodeId)
  | capabilityRegistry
  | mockRobot
  | keyboardTeleop
  | diagnosticsAggregator
  | policyProviderStub
  | policyProviderScripted
  deriving DecidableEq, Repr

/-- The topics that some node subscribes to. -/
inductive Topic
  | runtime (t : Runtime.Topic)
  /-- `mode/transition_state` -/
  | modeTransitionState
  /-- `navigation/nav2_bridge_state` -/
  | navigationBridgeState
  deriving DecidableEq, Repr

/-- The messages on these topics. -/
inductive Message
  | runtime (m : Runtime.Message)
  | modeTransitionState (msg : ModeTransitionState)
  | navigationBridgeState (msg : NavigationBridgeState)
  deriving DecidableEq

/-- The topic of a message. -/
def Message.topic : Message → Topic
  | .runtime m => .runtime m.topic
  | .modeTransitionState _ => .modeTransitionState
  | .navigationBridgeState _ => .navigationBridgeState

/-- A callback of some node. -/
inductive Event
  | runtime (event : Runtime.Event)
  | capabilityRegistry (event : CapabilityRegistry.Event)
  | mockRobot (event : MockRobot.Event)
  | keyboardTeleop (event : KeyboardTeleop.Event)
  | diagnosticsAggregator (event : DiagnosticsAggregator.Event)
  | policyProviderStub (event : PolicyProvider.Stub.Event)
  | policyProviderScripted (event : PolicyProvider.Scripted.Event)
  deriving DecidableEq

/-- The node whose callback it is. -/
def Event.node : Event → NodeId
  | runtime e => .runtime e.node
  | capabilityRegistry _ => .capabilityRegistry
  | mockRobot _ => .mockRobot
  | keyboardTeleop _ => .keyboardTeleop
  | diagnosticsAggregator _ => .diagnosticsAggregator
  | policyProviderStub _ => .policyProviderStub
  | policyProviderScripted _ => .policyProviderScripted

/-- The callbacks of timers, services and keys, and parameter changes. -/
def Event.acts : Event → Bool
  | runtime e => e.acts
  | capabilityRegistry (.listCapabilities _) | capabilityRegistry .publish
  | capabilityRegistry (.setParameters _) => true
  | mockRobot .publishState | mockRobot (.setParameters _) => true
  | keyboardTeleop _ => true
  | diagnosticsAggregator .publish | diagnosticsAggregator (.setParameters _) => true
  | policyProviderStub .tick | policyProviderStub (.setParameters _) => true
  | policyProviderScripted .tick | policyProviderScripted (.setParameters _) => true
  | _ => false

/-- What the diagnostics aggregator keeps of a message, if it subscribes to the topic. -/
def Message.sample : Message → Option DiagnosticsAggregator.Message
  | .runtime (.modeState msg) => some (.modeState msg)
  | .modeTransitionState msg => some (.modeTransitionState msg)
  | .runtime (.safetyState msg) => some (.safetyState msg)
  | .runtime (.mrmState msg) => some (.mrmState msg)
  | .runtime (.locomotionState msg) => some (.locomotionState msg)
  | .runtime (.arbitrationState msg) => some (.commandArbitrationState msg)
  | .navigationBridgeState msg => some (.navigationBridgeState msg)
  | .runtime (.teleopHeartbeat msg) => some (.teleopHeartbeat msg)
  | _ => none

/-- The message that was kept. -/
def ofSample : DiagnosticsAggregator.Message → Message
  | .modeState msg => .runtime (.modeState msg)
  | .modeTransitionState msg => .modeTransitionState msg
  | .safetyState msg => .runtime (.safetyState msg)
  | .mrmState msg => .runtime (.mrmState msg)
  | .locomotionState msg => .runtime (.locomotionState msg)
  | .commandArbitrationState msg => .runtime (.arbitrationState msg)
  | .navigationBridgeState msg => .navigationBridgeState msg
  | .teleopHeartbeat msg => .runtime (.teleopHeartbeat msg)

/-- The aggregator keeps a message as it came. -/
theorem Message.sample_eq_some_iff {m : Message} {msg : DiagnosticsAggregator.Message} :
    m.sample = some msg ↔ m = ofSample msg := by
  constructor
  · intro h
    rcases m with m | m | m
    · cases m <;> simp only [Message.sample, Option.some.injEq, reduceCtorEq] at h
      all_goals rw [← h]; rfl
    · rw [← Option.some.inj h]; rfl
    · rw [← Option.some.inj h]; rfl
  · rintro rfl
    cases msg <;> rfl

/-- The subscriptions: the callback that a message triggers at a node. -/
def subscription : NodeId → Message → Option Event
  | .runtime n, .runtime m => (Runtime.subscription n m).map .runtime
  | .capabilityRegistry, .runtime (.modeState msg) => some (.capabilityRegistry (.modeState msg))
  | .capabilityRegistry, .runtime (.safetyState msg) =>
    some (.capabilityRegistry (.safetyState msg))
  | .capabilityRegistry, .runtime (.locomotionState msg) =>
    some (.capabilityRegistry (.locomotionState msg))
  | .mockRobot, .runtime (.modeState msg) => some (.mockRobot (.modeState msg))
  | .mockRobot, .runtime (.safetyState msg) => some (.mockRobot (.safetyState msg))
  | .mockRobot, .runtime (.locomotionState msg) => some (.mockRobot (.locomotionState msg))
  | .diagnosticsAggregator, m => m.sample.map fun msg => .diagnosticsAggregator (.received msg)
  | .policyProviderStub, .runtime (.modeState msg) => some (.policyProviderStub (.modeState msg))
  | .policyProviderStub, .runtime (.safetyState msg) => some (.policyProviderStub (.safetyState msg))
  | .policyProviderScripted, .runtime (.modeState msg) =>
    some (.policyProviderScripted (.modeState msg))
  | .policyProviderScripted, .runtime (.safetyState msg) =>
    some (.policyProviderScripted (.safetyState msg))
  | _, _ => none

/-- The message that triggers a callback, for those that a message triggers. -/
def Event.message : Event → Option Message
  | runtime e => e.message.map .runtime
  | capabilityRegistry (.modeState msg) => some (.runtime (.modeState msg))
  | capabilityRegistry (.safetyState msg) => some (.runtime (.safetyState msg))
  | capabilityRegistry (.locomotionState msg) => some (.runtime (.locomotionState msg))
  | mockRobot (.modeState msg) => some (.runtime (.modeState msg))
  | mockRobot (.safetyState msg) => some (.runtime (.safetyState msg))
  | mockRobot (.locomotionState msg) => some (.runtime (.locomotionState msg))
  | diagnosticsAggregator (.received msg) => some (ofSample msg)
  | policyProviderStub (.modeState msg) => some (.runtime (.modeState msg))
  | policyProviderStub (.safetyState msg) => some (.runtime (.safetyState msg))
  | policyProviderScripted (.modeState msg) => some (.runtime (.modeState msg))
  | policyProviderScripted (.safetyState msg) => some (.runtime (.safetyState msg))
  | _ => none

/-- **A callback tells its node and its message.** -/
theorem subscription_eq_some_iff {n : NodeId} {m : Message} {e : Event} :
    subscription n m = some e ↔ e.node = n ∧ e.message = some m := by
  constructor
  · intro h
    cases n with
    | runtime n =>
      cases m with
      | runtime m =>
        obtain ⟨e, he, rfl⟩ := Option.map_eq_some_iff.mp h
        obtain ⟨rfl, hmessage⟩ := Runtime.subscription_eq_some_iff.mp he
        exact ⟨rfl, by rw [Event.message, hmessage]; rfl⟩
      | modeTransitionState msg => simp [subscription] at h
      | navigationBridgeState msg => simp [subscription] at h
    | diagnosticsAggregator =>
      obtain ⟨msg, hmsg, rfl⟩ := Option.map_eq_some_iff.mp h
      rw [Message.sample_eq_some_iff.mp hmsg]
      exact ⟨rfl, rfl⟩
    | keyboardTeleop => simp [subscription] at h
    | capabilityRegistry | mockRobot | policyProviderStub | policyProviderScripted =>
      rcases m with m | m | m <;> try cases m
      all_goals simp only [subscription, Option.some.injEq, reduceCtorEq] at h
      all_goals rw [← h]; exact ⟨rfl, rfl⟩
  · rintro ⟨rfl, h⟩
    cases e with
    | runtime e =>
      obtain ⟨m, hm, rfl⟩ := Option.map_eq_some_iff.mp h
      have hsub := Runtime.subscription_eq_some_iff.mpr ⟨rfl, hm⟩
      rw [Event.node, subscription, hsub]
      rfl
    | diagnosticsAggregator e =>
      cases e with
      | received msg =>
        obtain rfl := Option.some.inj h
        rw [Event.node, subscription, Message.sample_eq_some_iff.mpr rfl]
        rfl
      | publish => simp [Event.message] at h
      | setParameters params => simp [Event.message] at h
    | capabilityRegistry e | mockRobot e | keyboardTeleop e | policyProviderStub e
    | policyProviderScripted e =>
      cases e
      all_goals simp only [Event.message, Option.some.injEq, reduceCtorEq] at h
      all_goals rw [← h]; rfl

/-- A callback that a timer, a service, a key or a parameter change triggers is not one that a
message does. -/
theorem message_eq_none_of_acts {e : Event} (h : e.acts = true) : e.message = none := by
  cases e with
  | runtime e =>
    cases hmessage : e.message with
    | none => rw [Event.message, hmessage]; rfl
    | some m =>
      have hacts : e.acts = false := Runtime.acts_eq_false_of_message hmessage
      rw [Event.acts, hacts] at h
      exact absurd h Bool.false_ne_true
  | capabilityRegistry e | mockRobot e | keyboardTeleop e | diagnosticsAggregator e
  | policyProviderStub e | policyProviderScripted e =>
    cases e <;> first | rfl | exact absurd h Bool.false_ne_true

/-- What some node publishes, answers or does. -/
inductive Output
  | runtime (output : Runtime.Output)
  | capabilityRegistry (output : CapabilityRegistry.Publication)
  | mockRobot (output : MockRobot.Publication)
  | keyboardTeleop (output : KeyboardTeleop.Publication)
  | diagnosticsAggregator (output : DiagnosticsAggregator.Publication)
  | policyProviderStub (output : PolicyProvider.Stub.Publication)
  | policyProviderScripted (output : PolicyProvider.Scripted.Publication)
  deriving DecidableEq

/-- The message that an output puts on a topic to which some node subscribes. -/
def Output.message : Output → Option Message
  | runtime (.modeManager (.transitionState msg)) => some (.modeTransitionState msg)
  | runtime (.nav2Bridge (.bridgeState msg)) => some (.navigationBridgeState msg)
  | runtime output => output.message.map .runtime
  -- the skill server keeps three fields of each capability
  | capabilityRegistry (.registry msg) =>
    some (.runtime (.capabilities (msg.capabilities.map CapabilityRegistry.CapabilityMsg.toCapability)))
  | keyboardTeleop (.teleopCmd msg) => some (.runtime (.candidate .teleop msg))
  | keyboardTeleop (.heartbeat msg) => some (.runtime (.teleopHeartbeat msg))
  | policyProviderStub (.policyCmd msg) => some (.runtime (.candidate .policy msg))
  | policyProviderScripted (.policyCmd msg) => some (.runtime (.candidate .policy msg))
  | _ => none

/-- How the nodes are started. -/
structure Setup where
  runtime : Runtime.Setup := {}
  capabilityRegistry : CapabilityRegistry.Params := {}
  mockRobot : MockRobot.Params := {}
  keyboardTeleop : KeyboardTeleop.Params := {}
  diagnosticsAggregator : DiagnosticsAggregator.Params := {}
  policyProviderStub : PolicyProvider.Stub.Params := {}
  policyProviderScripted : PolicyProvider.Scripted.Params := {}
  /-- The arithmetic in which the scripted provider counts its time. -/
  arithmetic : Arithmetic := .binary64
  /-- The plan that the scripted provider loaded. -/
  plan : PolicyProvider.WaypointPlan := PolicyProvider.idlePlan
  /-- `publish_rate_hz` of the scripted provider. -/
  publishRateHz : PyFloat := .fin 10

/-- The states of the nodes. -/
structure Nodes where
  runtime : Runtime.Nodes
  capabilityRegistry : CapabilityRegistry.State
  mockRobot : MockRobot.State
  keyboardTeleop : KeyboardTeleop.State
  diagnosticsAggregator : DiagnosticsAggregator.State
  policyProviderStub : PolicyProvider.Stub.State
  policyProviderScripted : PolicyProvider.Scripted.State

/-- One callback of one node. The parameters of the keyboard node are fixed. -/
def Nodes.step (keyboard : KeyboardTeleop.Params) (s : Nodes) (i : Stamped Time Event) :
    Nodes × List Output :=
  match i.event with
  | .runtime e =>
    let (s', outputs) := s.runtime.step ⟨i.now, e⟩
    ({ s with runtime := s' }, outputs.map .runtime)
  | .capabilityRegistry e =>
    let (s', outputs) := CapabilityRegistry.step s.capabilityRegistry ⟨i.now, e⟩
    ({ s with capabilityRegistry := s' }, outputs.map .capabilityRegistry)
  | .mockRobot e =>
    let (s', outputs) := MockRobot.step s.mockRobot ⟨i.now, e⟩
    ({ s with mockRobot := s' }, outputs.map .mockRobot)
  | .keyboardTeleop e =>
    let (s', outputs) := KeyboardTeleop.step keyboard s.keyboardTeleop ⟨i.now, e⟩
    ({ s with keyboardTeleop := s' }, outputs.map .keyboardTeleop)
  | .diagnosticsAggregator e =>
    let (s', outputs) := DiagnosticsAggregator.step s.diagnosticsAggregator ⟨i.now, e⟩
    ({ s with diagnosticsAggregator := s' }, outputs.map .diagnosticsAggregator)
  | .policyProviderStub e =>
    let (s', outputs) := PolicyProvider.Stub.step s.policyProviderStub ⟨i.now, e⟩
    ({ s with policyProviderStub := s' }, outputs.map .policyProviderStub)
  | .policyProviderScripted e =>
    let (s', outputs) := PolicyProvider.Scripted.step s.policyProviderScripted ⟨i.now, e⟩
    ({ s with policyProviderScripted := s' }, outputs.map .policyProviderScripted)

/-- The nodes as one machine. -/
def nodes (setup : Setup) : Machine Nodes (Stamped Time Event) (List Output) where
  init :=
    { runtime := (Runtime.nodes setup.runtime).init
      capabilityRegistry :=
        (CapabilityRegistry.machine setup.capabilityRegistry setup.runtime.startedAt).init
      mockRobot := (MockRobot.machine setup.mockRobot).init
      keyboardTeleop := (KeyboardTeleop.machine setup.keyboardTeleop).init
      diagnosticsAggregator := (DiagnosticsAggregator.machine setup.diagnosticsAggregator).init
      policyProviderStub := (PolicyProvider.Stub.machine setup.policyProviderStub).init
      policyProviderScripted := (PolicyProvider.Scripted.machine setup.arithmetic
        setup.policyProviderScripted setup.plan setup.publishRateHz).init }
  step := Nodes.step setup.keyboardTeleop

/-- **The network** of the nodes `members`, with outside publishers on the topics `opens`. -/
def network (setup : Setup) (members : NodeId → Bool) (opens : Topic → Bool) :
    Network Time NodeId Topic Message Event Nodes (List Output) where
  topic := Message.topic
  receive n m := if members n then subscription n m else none
  nodes := nodes setup
  emits outputs := outputs.filterMap Output.message
  acts e := e.acts && members e.node
  opens := opens

/-- A step of a run: a label and the clock reading at which it happens. -/
abbrev Action : Type := Stamped Time (Label NodeId Topic Message Event)

/-- A state of the network. -/
abbrev NetworkState : Type := NetState Time NodeId Topic Message Nodes

/-- A step of the nodes is a callback of one of them. -/
@[simp] theorem nodes_next (setup : Setup) (s : Nodes) (i : Stamped Time Event) :
    (nodes setup).next s i = (s.step setup.keyboardTeleop i).1 := rfl

/-- The nodes output what the callback outputs. -/
@[simp] theorem nodes_out (setup : Setup) (s : Nodes) (i : Stamped Time Event) :
    (nodes setup).out s i = (s.step setup.keyboardTeleop i).2 := rfl

section Network

variable (setup : Setup) (members : NodeId → Bool) (opens : Topic → Bool)

/-- The nodes of the network. -/
@[simp] theorem network_nodes : (network setup members opens).nodes = nodes setup := rfl

/-- The topic of a message in the network. -/
@[simp] theorem network_topic (m : Message) :
    (network setup members opens).topic m = m.topic := rfl

/-- What the callbacks of the network are for. -/
def callbacks : Callbacks (network setup members opens) where
  node := Event.node
  message := Event.message
  of_receive := by
    intro n m e h
    have h' : (if members n then subscription n m else none) = some e := h
    exact subscription_eq_some_iff.mp (Option.ite_none_right_eq_some.mp h').2
  of_acts := by
    intro e h
    have h' : (e.acts && members e.node) = true := h
    exact message_eq_none_of_acts (Bool.and_eq_true _ _ ▸ h').1

end Network

/-! ## What one step outputs -/

section Network

variable (setup : Setup) (members : NodeId → Bool) (opens : Topic → Bool)

/-- What the callback fired by a step publishes, answers or does. -/
def stepOutputs (s : NetworkState) (i : Action) : List Output :=
  ((network setup members opens).machine.out s i).getD []

variable {setup members opens}

/-- The outputs of a step are those of the callback that it fires. -/
theorem mem_stepOutputs_iff {s : NetworkState} {i : Action} {x : Output} :
    x ∈ stepOutputs setup members opens s i ↔
      ∃ e, (network setup members opens).fired s i.event = some e ∧
        x ∈ (s.nodes.step setup.keyboardTeleop ⟨i.now, e⟩).2 := by
  rw [stepOutputs, Network.out_eq]
  cases (network setup members opens).fired s i.event <;> simp

/-- A callback that runs is one of a member. -/
theorem member_of_fired {s : NetworkState} {l : Label NodeId Topic Message Event} {e : Event}
    (hfired : (network setup members opens).fired s l = some e) : members e.node = true := by
  rcases (network setup members opens).fired_cases hfired with ⟨-, hacts⟩ |
    ⟨n, t, k, p, l', -, -, hreceive⟩
  · have hboth : (e.acts && members e.node) = true := hacts
    exact (Bool.and_eq_true _ _ ▸ hboth).2
  · obtain ⟨hmember, -⟩ := Option.ite_none_right_eq_some.mp hreceive
    obtain ⟨rfl, -⟩ := (callbacks setup members opens).of_receive hreceive
    exact hmember

/-- On a topic that no outside party uses, whatever a step publishes is output by its callback. -/
theorem exists_output {topic : Topic} (hclosed : opens topic = false) {s : NetworkState} {i : Action}
    {m : Message} (hm : m ∈ (network setup members opens).emitted s i) (htopic : m.topic = topic) :
    ∃ x ∈ stepOutputs setup members opens s i, x.message = some m := by
  rcases (network setup members opens).emitted_cases hm with ⟨e, he, hm⟩ | ⟨-, hopen⟩
  · obtain ⟨x, hx, hmsg⟩ := List.mem_filterMap.mp hm
    exact ⟨x, mem_stepOutputs_iff.mpr ⟨e, he, hx⟩, hmsg⟩
  · have hopen' : opens m.topic = true := hopen
    rw [htopic, hclosed] at hopen'
    exact absurd hopen' Bool.false_ne_true

/-- An output of the runtime comes from a callback of the runtime. -/
theorem Nodes.mem_step_runtime {keyboard : KeyboardTeleop.Params} {s : Nodes} {i : Stamped Time Event}
    {x : Runtime.Output} (h : Output.runtime x ∈ (s.step keyboard i).2) :
    ∃ e, i.event = .runtime e ∧ x ∈ (s.runtime.step ⟨i.now, e⟩).2 := by
  obtain ⟨now, event⟩ := i
  cases event <;> simp_all [Nodes.step]

/-- An output of the registry comes from a callback of its own. -/
theorem Nodes.mem_step_capabilityRegistry {keyboard : KeyboardTeleop.Params} {s : Nodes}
    {i : Stamped Time Event} {x : CapabilityRegistry.Publication}
    (h : Output.capabilityRegistry x ∈ (s.step keyboard i).2) :
    ∃ e, i.event = .capabilityRegistry e ∧
      x ∈ (CapabilityRegistry.step s.capabilityRegistry ⟨i.now, e⟩).2 := by
  obtain ⟨now, event⟩ := i
  cases event <;> simp_all [Nodes.step]

/-- So does one of the mock robot. -/
theorem Nodes.mem_step_mockRobot {keyboard : KeyboardTeleop.Params} {s : Nodes}
    {i : Stamped Time Event} {x : MockRobot.Publication}
    (h : Output.mockRobot x ∈ (s.step keyboard i).2) :
    ∃ e, i.event = .mockRobot e ∧
      x ∈ (MockRobot.step s.mockRobot ⟨i.now, e⟩).2 := by
  obtain ⟨now, event⟩ := i
  cases event <;> simp_all [Nodes.step]

/-- So does one of the keyboard node. -/
theorem Nodes.mem_step_keyboardTeleop {keyboard : KeyboardTeleop.Params} {s : Nodes}
    {i : Stamped Time Event} {x : KeyboardTeleop.Publication}
    (h : Output.keyboardTeleop x ∈ (s.step keyboard i).2) :
    ∃ e, i.event = .keyboardTeleop e ∧
      x ∈ (KeyboardTeleop.step keyboard s.keyboardTeleop ⟨i.now, e⟩).2 := by
  obtain ⟨now, event⟩ := i
  cases event <;> simp_all [Nodes.step]

/-- So does one of the diagnostics aggregator. -/
theorem Nodes.mem_step_diagnosticsAggregator {keyboard : KeyboardTeleop.Params} {s : Nodes}
    {i : Stamped Time Event} {x : DiagnosticsAggregator.Publication}
    (h : Output.diagnosticsAggregator x ∈ (s.step keyboard i).2) :
    ∃ e, i.event = .diagnosticsAggregator e ∧
      x ∈ (DiagnosticsAggregator.step s.diagnosticsAggregator ⟨i.now, e⟩).2 := by
  obtain ⟨now, event⟩ := i
  cases event <;> simp_all [Nodes.step]

/-- So does one of the stub provider. -/
theorem Nodes.mem_step_policyProviderStub {keyboard : KeyboardTeleop.Params} {s : Nodes}
    {i : Stamped Time Event} {x : PolicyProvider.Stub.Publication}
    (h : Output.policyProviderStub x ∈ (s.step keyboard i).2) :
    ∃ e, i.event = .policyProviderStub e ∧
      x ∈ (PolicyProvider.Stub.step s.policyProviderStub ⟨i.now, e⟩).2 := by
  obtain ⟨now, event⟩ := i
  cases event <;> simp_all [Nodes.step]

/-- So does one of the scripted provider. -/
theorem Nodes.mem_step_policyProviderScripted {keyboard : KeyboardTeleop.Params} {s : Nodes}
    {i : Stamped Time Event} {x : PolicyProvider.Scripted.Publication}
    (h : Output.policyProviderScripted x ∈ (s.step keyboard i).2) :
    ∃ e, i.event = .policyProviderScripted e ∧
      x ∈ (PolicyProvider.Scripted.step s.policyProviderScripted ⟨i.now, e⟩).2 := by
  obtain ⟨now, event⟩ := i
  cases event <;> simp_all [Nodes.step]

end Network

/-! ## The runtime in it -/

/-- The topics of the runtime on which the nodes around it publish. -/
def fedTopics : List Runtime.Topic :=
  [.candidate .teleop, .teleopHeartbeat, .capabilities, .candidate .policy]

/-- The topics on which the runtime hears outside parties: those of the whole network, and the
nodes around it. -/
def runtimeOpens (opens : Topic → Bool) (t : Runtime.Topic) : Bool :=
  opens (.runtime t) || decide (t ∈ fedTopics)

/-- A node of the runtime publishes the same to the runtime. -/
theorem filterMap_runtime (outputs : List Runtime.Output) :
    ((outputs.map Output.runtime).filterMap Output.message).filterMap
        (fun m => match m with
          | .runtime m => some m
          | _ => none) = outputs.filterMap Runtime.Output.message := by
  rw [List.filterMap_map, List.filterMap_filterMap]
  congr 1
  funext output
  rcases output with output | output | output | output | output | output | output
  all_goals cases output <;> rfl

/-- **The runtime is a subsystem**: its nodes see a run of the runtime network. -/
def subsystem (setup : Setup) (members : NodeId → Bool) (opens : Topic → Bool) :
    Subsystem (Runtime.network setup.runtime (fun n => members (.runtime n)) (runtimeOpens opens))
      (network setup members opens) where
  node := .runtime
  node? n := match n with
    | .runtime n => some n
    | _ => none
  node_inv n n' := by
    cases n' <;> simp [eq_comm]
  top := .runtime
  top? t := match t with
    | .runtime t => some t
    | _ => none
  top_inv t t' := by
    cases t' <;> simp [eq_comm]
  msg := .runtime
  msg? m := match m with
    | .runtime m => some m
    | _ => none
  msg_inv m m' := by
    cases m' <;> simp [eq_comm]
  event := .runtime
  event? e := match e with
    | .runtime e => some e
    | _ => none
  event_inv e e' := by
    cases e' <;> simp [eq_comm]
  share := Nodes.runtime
  topic_msg m := rfl
  receive_node n m' := by
    show (if members (.runtime n) then subscription (.runtime n) m' else none) = _
    cases m' with
    | runtime m =>
      show _ = Option.map _ (if members (.runtime n) then Runtime.subscription n m else none)
      split <;> rfl
    | modeTransitionState msg => split <;> rfl
    | navigationBridgeState msg => split <;> rfl
  receive_other n' m' e hn' := by
    intro hreceive
    have hnode : (Event.runtime e).node = n' :=
      ((callbacks setup members opens).of_receive hreceive).1
    subst hnode
    cases hn'
  acts_event e := rfl
  share_init := rfl
  share_next s now e := rfl
  share_other s now e' he' := by
    cases e' with
    | runtime e => cases he'
    | capabilityRegistry e => rfl
    | mockRobot e => rfl
    | keyboardTeleop e => rfl
    | diagnosticsAggregator e => rfl
    | policyProviderStub e => rfl
    | policyProviderScripted e => rfl
  emits_event s now e := filterMap_runtime _
  opens_other s now e' m he' hm := by
    obtain ⟨output, houtput, hmessage⟩ := List.mem_filterMap.mp hm
    have hfed : m.topic ∈ fedTopics := by
      cases e' with
      | runtime e => cases he'
      | capabilityRegistry e | mockRobot e | keyboardTeleop e | diagnosticsAggregator e
      | policyProviderStub e | policyProviderScripted e =>
        obtain ⟨output, -, rfl⟩ := List.mem_map.mp houtput
        cases output <;>
          simp only [Output.message, Option.some.injEq, Message.runtime.injEq, reduceCtorEq]
            at hmessage
        all_goals rw [← hmessage]; simp [Runtime.Message.topic, fedTopics]
    show (opens (.runtime m.topic) || decide (m.topic ∈ fedTopics)) = true
    rw [decide_eq_true hfed, Bool.or_true]
  opens_msg m hopen := by
    have hopen' : opens (.runtime m.topic) = true := hopen
    show (opens (.runtime m.topic) || decide (m.topic ∈ fedTopics)) = true
    rw [hopen', Bool.true_or]

end HumaWare.System
