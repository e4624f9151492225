import HumaWare.DiagnosticsAggregator.Samples
import HumaWare.ModeManager.Entry
import HumaWare.Nav2Bridge.Report
import HumaWare.Runtime.Lockdown
import HumaWare.System.Network

/-! # The nodes that follow the mode and the safety state

Ten nodes subscribe to both `mode/state` and `safety/state`: the four that stand between a command
and the robot, the skill server and the two policy providers, which make commands, and the registry,
the mock robot and the diagnostics aggregator, which tell others. Either topic has one subscriber
more, the owner of the other: the mode manager listens to the safety state and the safety manager to
the mode. Each of them holds what it heard last.

* **`Subscriber.held_next`** — a callback hands a subscriber what it carries, or leaves what it holds;
* **`SafetySubscriber.safetyOf_of_window`**, **`ModeSubscriber.modeOf_since`** — so what it holds has
  the property that every message of a window of the run has. -/

namespace HumaWare.System

open Reactive
open HumaWare.Runtime (Consumer)

/-- The safety state that a message carries. -/
def Message.safety : Message → UInt8
  | .runtime m => m.safety
  | _ => SafetyState.stateUnknown

/-- The mode that a message carries. -/
def Message.mode : Message → UInt8
  | .runtime (.modeState msg) => msg.activeMode
  | _ => ModeState.modeUnknown

section Heard

variable (setup : Setup) (members : NodeId → Bool) (opens : Topic → Bool)

/-- The safety state that a callback hands to a node. -/
def heardSafety (n : NodeId) (e : Event) : Option UInt8 :=
  ((callbacks setup members opens).heardOn n (.runtime .safetyState) e).map Message.safety

/-- The mode that a callback hands to a node. -/
def heardMode (n : NodeId) (e : Event) : Option UInt8 :=
  ((callbacks setup members opens).heardOn n (.runtime .modeState) e).map Message.mode

variable {setup members opens}

/-- A callback of another node hands nothing to a node. -/
theorem heardSafety_of_ne {n : NodeId} {e : Event} (hnode : e.node ≠ n) :
    heardSafety setup members opens n e = none := by
  rw [heardSafety, Callbacks.heardOn]
  exact congrArg _ (if_neg hnode)

/-- The same for the mode. -/
theorem heardMode_of_ne {n : NodeId} {e : Event} (hnode : e.node ≠ n) :
    heardMode setup members opens n e = none := by
  rw [heardMode, Callbacks.heardOn]
  exact congrArg _ (if_neg hnode)

end Heard

/-! ## The followers of both -/

/-- The nodes that subscribe to `mode/state` and to `safety/state`. -/
inductive Subscriber
  | consumer (c : Consumer)
  | skillServer
  | policyProviderStub
  | policyProviderScripted
  | capabilityRegistry
  | mockRobot
  | diagnosticsAggregator
  deriving DecidableEq, Repr

namespace Subscriber

/-- The node. -/
def node : Subscriber → NodeId
  | consumer c => .runtime c.node
  | skillServer => .runtime .skillServer
  | policyProviderStub => .policyProviderStub
  | policyProviderScripted => .policyProviderScripted
  | capabilityRegistry => .capabilityRegistry
  | mockRobot => .mockRobot
  | diagnosticsAggregator => .diagnosticsAggregator

/-- The safety state it holds. -/
def safetyOf (s : Nodes) : Subscriber → UInt8
  | consumer c => c.safetyOf s.runtime
  | skillServer => s.runtime.skillServer.safety
  | policyProviderStub => s.policyProviderStub.view.safetyState
  | policyProviderScripted => s.policyProviderScripted.view.safetyState
  | capabilityRegistry => s.capabilityRegistry.safety
  | mockRobot => s.mockRobot.safetyState
  | diagnosticsAggregator =>
    ((s.diagnosticsAggregator.message "safety/state" DiagnosticsAggregator.Message.safetyState?).map
      SafetyState.state).getD SafetyState.stateUnknown

/-- The mode it holds. -/
def modeOf (s : Nodes) : Subscriber → UInt8
  | consumer .commandArbiter => s.runtime.commandArbiter.activeMode
  | consumer .nav2Bridge => s.runtime.nav2Bridge.activeMode
  | consumer .locomotionAdapter => s.runtime.locomotionAdapter.activeMode
  | consumer .hardwareAdapter => s.runtime.hardwareAdapter.activeMode
  | skillServer => s.runtime.skillServer.mode
  | policyProviderStub => s.policyProviderStub.view.activeMode
  | policyProviderScripted => s.policyProviderScripted.view.activeMode
  | capabilityRegistry => s.capabilityRegistry.mode
  | mockRobot => s.mockRobot.activeMode
  | diagnosticsAggregator =>
    ((s.diagnosticsAggregator.message "mode/state" DiagnosticsAggregator.Message.modeState?).map
      ModeState.activeMode).getD ModeState.modeUnknown

variable {setup : Setup} {members : NodeId → Bool} {opens : Topic → Bool}

/-- A callback of another node leaves what a subscriber holds. -/
theorem held_of_ne {n : Subscriber} {s : Nodes} {i : Stamped Time Event}
    (hnode : i.event.node ≠ n.node) :
    n.safetyOf ((nodes setup).next s i) = n.safetyOf s ∧
      n.modeOf ((nodes setup).next s i) = n.modeOf s := by
  obtain ⟨now, event⟩ := i
  rcases event with (e | e | e | e | e | e | e) | e | e | e | e | e | e
  all_goals rcases n with (_ | _ | _ | _) | _ | _ | _ | _ | _ | _
  all_goals first | exact ⟨rfl, rfl⟩ | exact absurd rfl hnode

/-- **A callback of a subscriber hands it what it carries**, or leaves what it holds. -/
theorem held_next (n : Subscriber) (s : Nodes) (i : Stamped Time Event) :
    n.safetyOf ((nodes setup).next s i) =
        (heardSafety setup members opens n.node i.event).getD (n.safetyOf s) ∧
      n.modeOf ((nodes setup).next s i) =
        (heardMode setup members opens n.node i.event).getD (n.modeOf s) := by
  by_cases hnode : i.event.node = n.node
  · obtain ⟨now, event⟩ := i
    rcases event with (e | e | e | e | e | e | e) | e | e | e | e | e | e
    all_goals rcases n with (_ | _ | _ | _) | _ | _ | _ | _ | _ | _
    all_goals first | (cases hnode; done) | skip
    · cases e <;> exact ⟨rfl, rfl⟩
    · have hfields := Nav2Bridge.step_fields s.runtime.nav2Bridge ⟨now, e⟩
      cases e <;> exact ⟨hfields.2.2.1, hfields.2.1⟩
    · have hfields := LocomotionAdapter.step_fields s.runtime.locomotionAdapter ⟨now, e⟩
      cases e <;> exact ⟨hfields.2.2.1, hfields.2.1⟩
    · cases e <;> exact ⟨rfl, rfl⟩
    · cases e with
      | republishState =>
        obtain ⟨-, hmode, hsafety⟩ := SkillServer.fields_republishState s.runtime.skillServer now
        exact ⟨hsafety, hmode⟩
      | _ => exact ⟨rfl, rfl⟩
    · cases e <;> exact ⟨rfl, rfl⟩
    · cases e <;> exact ⟨rfl, rfl⟩
    · cases e with
      | received msg =>
        constructor
        · show (((DiagnosticsAggregator.onTopic s.diagnosticsAggregator now msg.topic msg).message
            "safety/state" _).map _).getD _ = _
          rw [DiagnosticsAggregator.message_onTopic _ _ _
            DiagnosticsAggregator.isSome_safetyState?_iff]
          cases msg <;> rfl
        · show (((DiagnosticsAggregator.onTopic s.diagnosticsAggregator now msg.topic msg).message
            "mode/state" _).map _).getD _ = _
          rw [DiagnosticsAggregator.message_onTopic _ _ _
            DiagnosticsAggregator.isSome_modeState?_iff]
          cases msg <;> rfl
      | _ => exact ⟨rfl, rfl⟩
    · cases e with
      | tick =>
        have htick := PolicyProvider.Stub.tick_fst s.policyProviderStub now
        exact ⟨congrArg (·.view.safetyState) htick, congrArg (·.view.activeMode) htick⟩
      | _ => exact ⟨rfl, rfl⟩
    · cases e with
      | tick =>
        obtain ⟨progress, htick⟩ :=
          PolicyProvider.Scripted.exists_tick s.policyProviderScripted now
        exact ⟨congrArg (·.view.safetyState) htick, congrArg (·.view.activeMode) htick⟩
      | _ => exact ⟨rfl, rfl⟩
  · rw [heardSafety_of_ne hnode, heardMode_of_ne hnode]
    exact held_of_ne hnode

end Subscriber

/-! ## The subscribers of the safety state -/

/-- The nodes that subscribe to `safety/state`: those that follow both topics, and the mode manager. -/
inductive SafetySubscriber
  | both (n : Subscriber)
  | modeManager
  deriving DecidableEq, Repr

namespace SafetySubscriber

/-- The node. -/
def node : SafetySubscriber → NodeId
  | both n => n.node
  | modeManager => .runtime .modeManager

/-- The safety state it holds. -/
def safetyOf (s : Nodes) : SafetySubscriber → UInt8
  | both n => n.safetyOf s
  | modeManager => s.runtime.modeManager.safetyState

variable {setup : Setup} {members : NodeId → Bool} {opens : Topic → Bool}

/-- A subscriber subscribes to the safety state. -/
theorem isSome_subscription (n : SafetySubscriber) {m : Message}
    (hm : m.topic = .runtime .safetyState) : (subscription n.node m).isSome := by
  rcases m with m | m | m
  · rcases n with ((_ | _ | _ | _) | _ | _ | _ | _ | _ | _) | _
    all_goals cases m <;> first | rfl | simp [Message.topic, Runtime.Message.topic] at hm
  · simp [Message.topic] at hm
  · simp [Message.topic] at hm

/-- **A callback of a subscriber hands it the safety state it carries**, or leaves the one it holds. -/
theorem held_next (n : SafetySubscriber) (s : Nodes) (i : Stamped Time Event) :
    n.safetyOf ((nodes setup).next s i) =
      (heardSafety setup members opens n.node i.event).getD (n.safetyOf s) := by
  cases n with
  | both n => exact (n.held_next s i).1
  | modeManager =>
    by_cases hnode : i.event.node = .runtime .modeManager
    · obtain ⟨now, event⟩ := i
      rcases event with (e | e | e | e | e | e | e) | e | e | e | e | e | e
      all_goals first | (cases hnode; done) | skip
      have hsafety := (ModeManager.step_safety s.runtime.modeManager ⟨now, e⟩).2
      cases e <;> exact hsafety
    · rw [node, heardSafety_of_ne hnode]
      obtain ⟨now, event⟩ := i
      rcases event with (e | e | e | e | e | e | e) | e | e | e | e | e | e
      all_goals first | rfl | exact absurd rfl hnode

/-- **What a subscriber holds of a window.** If every safety state published in `mid` has a property,
a subscriber that has seen one of them, and none published later, holds one with the property. -/
theorem safetyOf_of_window {P : UInt8 → Prop} {pre mid post : List Action}
    (hmid : ∀ m₁ i m₂, mid = m₁ ++ i :: m₂ → ∀ m ∈ (network setup members opens).emitted
      ((network setup members opens).machine.after (pre ++ m₁)) i,
        m.topic = .runtime .safetyState → P m.safety) (n : SafetySubscriber)
    (hfifo : Network.FifoOn n.node (.runtime .safetyState) (pre ++ mid ++ post))
    (hseen : (network setup members opens).LastSeenIn n.node (.runtime .safetyState) pre mid post) :
    P (n.safetyOf ((network setup members opens).machine.after (pre ++ mid ++ post)).nodes) := by
  obtain ⟨m, hm, -, hheld⟩ := (callbacks setup members opens).register_of_window
    (fun s => n.safetyOf s) Message.safety (fun s i => n.held_next s i) hmid hfifo hseen
  rw [hheld]
  exact hm

end SafetySubscriber

/-! ## The subscribers of the mode -/

/-- The nodes that subscribe to `mode/state`: those that follow both topics, and the safety manager. -/
inductive ModeSubscriber
  | both (n : Subscriber)
  | safetyManager
  deriving DecidableEq, Repr

namespace ModeSubscriber

/-- The node. -/
def node : ModeSubscriber → NodeId
  | both n => n.node
  | safetyManager => .runtime .safetyManager

/-- The mode it holds. -/
def modeOf (s : Nodes) : ModeSubscriber → UInt8
  | both n => n.modeOf s
  | safetyManager => s.runtime.safetyManager.activeMode

variable {setup : Setup} {members : NodeId → Bool} {opens : Topic → Bool}

/-- A subscriber subscribes to the mode. -/
theorem isSome_subscription (n : ModeSubscriber) {m : Message} (hm : m.topic = .runtime .modeState) :
    (subscription n.node m).isSome := by
  rcases m with m | m | m
  · rcases n with ((_ | _ | _ | _) | _ | _ | _ | _ | _ | _) | _
    all_goals cases m <;> first | rfl | simp [Message.topic, Runtime.Message.topic] at hm
  · simp [Message.topic] at hm
  · simp [Message.topic] at hm

/-- **A callback of a subscriber hands it the mode it carries**, or leaves the one it holds. -/
theorem held_next (n : ModeSubscriber) (s : Nodes) (i : Stamped Time Event) :
    n.modeOf ((nodes setup).next s i) =
      (heardMode setup members opens n.node i.event).getD (n.modeOf s) := by
  cases n with
  | both n => exact (n.held_next s i).2
  | safetyManager =>
    by_cases hnode : i.event.node = .runtime .safetyManager
    · obtain ⟨now, event⟩ := i
      rcases event with (e | e | e | e | e | e | e) | e | e | e | e | e | e
      all_goals first | (cases hnode; done) | skip
      have hmode := (SafetyManager.step_fields s.runtime.safetyManager ⟨now, e⟩).2.1
      cases e <;> exact hmode
    · rw [node, heardMode_of_ne hnode]
      obtain ⟨now, event⟩ := i
      rcases event with (e | e | e | e | e | e | e) | e | e | e | e | e | e
      all_goals first | rfl | exact absurd rfl hnode

/-- **What a subscriber holds of a window that is still open**: if every mode published in `post` has
a property, a subscriber that has seen one of them holds one with the property. -/
theorem modeOf_since {P : UInt8 → Prop} {pre post : List Action}
    (hpost : ∀ m₁ i m₂, post = m₁ ++ i :: m₂ → ∀ m ∈ (network setup members opens).emitted
      ((network setup members opens).machine.after (pre ++ m₁)) i,
        m.topic = .runtime .modeState → P m.mode) (n : ModeSubscriber)
    (hfifo : Network.FifoOn n.node (.runtime .modeState) (pre ++ post))
    (hseen : ∃ p ∈ (((network setup members opens).machine.after (pre ++ post)).link n.node
      (.runtime .modeState)).seen,
        (((network setup members opens).machine.after pre).link n.node (.runtime .modeState)).count ≤
          p.serial) :
    P (n.modeOf ((network setup members opens).machine.after (pre ++ post)).nodes) := by
  obtain ⟨m, hm, -, hheld⟩ := (callbacks setup members opens).register_since
    (fun s => n.modeOf s) Message.mode (fun s i => n.held_next s i) hpost hfifo hseen
  rw [hheld]
  exact hm

end ModeSubscriber

end HumaWare.System
