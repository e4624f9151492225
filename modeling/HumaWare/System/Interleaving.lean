import HumaWare.Reactive.Commute
import HumaWare.System.Network

/-! # The order of the nodes

Every node runs on its own, so nothing but the network orders what different nodes do. It does not
have to: a topic has one publisher, except for the policy lane, on which the skill server and the
policy providers all speak. Two neighbouring steps at different places, which do not both publish on
that lane, can be swapped: whatever the operating system does first, every node reads the same and
does the same.

* **`separate`** — a callback touches the state of its node alone;
* **`publisher?_of_emitted`** — what a topic carries comes from its publisher;
* **`schedule_independent`** — runs that differ in the order of different nodes agree on everything. -/

namespace HumaWare.System

open Reactive

/-- The node that publishes on a topic, where there is one only. -/
def Topic.publisher? : Topic → Option NodeId
  | .runtime .safetyState => some (.runtime .safetyManager)
  | .runtime .mrmState => some (.runtime .safetyManager)
  | .runtime .modeState => some (.runtime .modeManager)
  | .modeTransitionState => some (.runtime .modeManager)
  | .runtime (.candidate .teleop) => some .keyboardTeleop
  | .runtime (.candidate .autonomy) => some (.runtime .nav2Bridge)
  | .runtime (.candidate .policy) => none
  | .runtime .approvedCmd => some (.runtime .commandArbiter)
  | .runtime .arbitrationState => some (.runtime .commandArbiter)
  | .runtime .locomotionState => some (.runtime .locomotionAdapter)
  | .runtime .teleopHeartbeat => some .keyboardTeleop
  | .runtime .hardwareHeartbeat => some (.runtime .hardwareAdapter)
  | .runtime .nav2Twist => none
  | .runtime .nav2TwistStamped => none
  | .runtime .capabilities => some .capabilityRegistry
  | .navigationBridgeState => some (.runtime .nav2Bridge)

/-- The lane on which several nodes speak. -/
def policyLane : Topic := .runtime (.candidate .policy)

/-- The node that outputs it. -/
def Output.node : Output → NodeId
  | runtime (.safetyManager _) => .runtime .safetyManager
  | runtime (.modeManager _) => .runtime .modeManager
  | runtime (.commandArbiter _) => .runtime .commandArbiter
  | runtime (.nav2Bridge _) => .runtime .nav2Bridge
  | runtime (.locomotionAdapter _) => .runtime .locomotionAdapter
  | runtime (.hardwareAdapter _) => .runtime .hardwareAdapter
  | runtime (.skillServer _) => .runtime .skillServer
  | capabilityRegistry _ => .capabilityRegistry
  | mockRobot _ => .mockRobot
  | keyboardTeleop _ => .keyboardTeleop
  | diagnosticsAggregator _ => .diagnosticsAggregator
  | policyProviderStub _ => .policyProviderStub
  | policyProviderScripted _ => .policyProviderScripted

/-- A callback outputs for its node. -/
theorem Nodes.node_of_mem_step {keyboard : KeyboardTeleop.Params} {s : Nodes} {i : Stamped Time Event}
    {x : Output} (hx : x ∈ (s.step keyboard i).2) : x.node = i.event.node := by
  obtain ⟨now, event⟩ := i
  cases event with
  | runtime e =>
    obtain ⟨y, hy, rfl⟩ := List.mem_map.mp hx
    cases e <;> (obtain ⟨z, -, rfl⟩ := List.mem_map.mp hy; rfl)
  | capabilityRegistry e | mockRobot e | keyboardTeleop e | diagnosticsAggregator e
  | policyProviderStub e | policyProviderScripted e =>
    obtain ⟨x, -, rfl⟩ := List.mem_map.mp hx
    rfl

/-- Outside the policy lane a message comes from the publisher of its topic. -/
theorem publisher?_of_message {x : Output} {m : Message} (hmessage : x.message = some m)
    (hlane : m.topic ≠ policyLane) : m.topic.publisher? = some x.node := by
  rcases x with (x | x | x | x | x | x | x) | x | x | x | x | x | x
  all_goals cases x <;> simp only [Output.message, Runtime.Output.message, Option.map_some,
    Option.map_none, Option.some.injEq, reduceCtorEq] at hmessage
  all_goals subst hmessage
  all_goals first | rfl | exact absurd rfl hlane

/-- Callbacks of different nodes commute, and neither sees what the other does. -/
theorem Nodes.step_comm {keyboard : KeyboardTeleop.Params} (s : Nodes) {x y : Stamped Time Event}
    (hnode : x.event.node ≠ y.event.node) :
    ((s.step keyboard x).1.step keyboard y).1 = ((s.step keyboard y).1.step keyboard x).1 ∧
      ((s.step keyboard x).1.step keyboard y).2 = (s.step keyboard y).2 := by
  obtain ⟨now, e⟩ := x
  obtain ⟨now', e'⟩ := y
  cases e with
  | runtime e =>
    cases e' with
    | runtime e' => cases e <;> cases e' <;> first | exact ⟨rfl, rfl⟩ | exact absurd rfl hnode
    | capabilityRegistry e' | mockRobot e' | keyboardTeleop e' | diagnosticsAggregator e'
    | policyProviderStub e' | policyProviderScripted e' => exact ⟨rfl, rfl⟩
  | capabilityRegistry e | mockRobot e | keyboardTeleop e | diagnosticsAggregator e
  | policyProviderStub e | policyProviderScripted e =>
    cases e' <;> first | exact ⟨rfl, rfl⟩ | exact absurd rfl hnode

section Network

variable {setup : Setup} {members : NodeId → Bool} {opens : Topic → Bool}

/-- **A callback touches the state of its node alone**, and reads no other. -/
theorem separate : (callbacks setup members opens).Separate where
  next s _ _ hnode := (Nodes.step_comm s hnode).1
  out s _ _ hnode := (Nodes.step_comm s hnode).2

/-- **What a topic carries comes from its publisher**, or from outside where the topic is open. -/
theorem publisher?_of_emitted {s : NetworkState} {i : Action} {m : Message}
    (hm : m ∈ (network setup members opens).emitted s i) (hlane : m.topic ≠ policyLane) :
    (∃ n, m.topic.publisher? = some n ∧ members n = true ∧
      (callbacks setup members opens).site i.event = some n) ∨
    ((callbacks setup members opens).site i.event = none ∧ opens m.topic = true) := by
  rcases (network setup members opens).emitted_cases hm with ⟨e, hfired, hm⟩ | ⟨hinject, hopen⟩
  · obtain ⟨x, hx, hmessage⟩ := List.mem_filterMap.mp hm
    have hnode : x.node = e.node := Nodes.node_of_mem_step hx
    refine Or.inl ⟨e.node, ?_, member_of_fired hfired,
      (callbacks setup members opens).site_of_fired hfired⟩
    rw [publisher?_of_message hmessage hlane, hnode]
  · exact Or.inr ⟨by rw [hinject]; rfl, hopen⟩

end Network

variable (setup : Setup) (members : NodeId → Bool) (opens : Topic → Bool)

/-- Two neighbouring steps that no node and no link orders. -/
structure Unordered (s : NetworkState) (i j : Action) : Prop where
  /-- They are at different nodes; the outside parties are one. -/
  site : (callbacks setup members opens).site i.event ≠ (callbacks setup members opens).site j.event
  /-- What they hand over or lose is in flight. -/
  left : s.InFlight i.event
  right : s.InFlight j.event
  /-- They do not both speak on the policy lane. -/
  lane : ∀ m ∈ (network setup members opens).emitted s i, m.topic = policyLane →
    ∀ m' ∈ (network setup members opens).emitted s j, m'.topic ≠ policyLane

/-- One swap of two such neighbours. -/
inductive Reorders : List Action → List Action → Prop
  | swap (pre post : List Action) (i j : Action) :
      Unordered setup members opens ((network setup members opens).machine.after pre) i j →
      Reorders (pre ++ i :: j :: post) (pre ++ j :: i :: post)

/-- Outside parties keep off the topics of the members. -/
def Keeps : Prop := ∀ t n, t.publisher? = some n → members n = true → opens t = false

variable {setup members opens}

/-- Such neighbours publish on different topics. -/
theorem Unordered.independent (hkeeps : Keeps members opens) {s : NetworkState} {i j : Action}
    (h : Unordered setup members opens s i j) : (callbacks setup members opens).Independent s i j where
  site n hi hj := h.site (hi.trans hj.symm)
  left := h.left
  right := h.right
  topics m hm m' hm' htopic := by
    have htopic' : m.topic = m'.topic := htopic
    by_cases hlane : m.topic = policyLane
    · exact h.lane m hm hlane m' hm' (htopic'.symm.trans hlane)
    · rcases publisher?_of_emitted hm hlane with ⟨n, hpub, hmember, hsite⟩ | ⟨hsite, hopen⟩
      · rcases publisher?_of_emitted hm' (htopic' ▸ hlane) with ⟨n', hpub', -, hsite'⟩ | ⟨-, hopen'⟩
        · rw [htopic'] at hpub
          have hn : n = n' := Option.some.inj (hpub.symm.trans hpub')
          exact h.site (by rw [hsite, hsite', hn])
        · rw [← htopic', hkeeps m.topic n hpub hmember] at hopen'
          exact Bool.false_ne_true hopen'
      · rcases publisher?_of_emitted hm' (htopic' ▸ hlane) with ⟨n', hpub', hmember', -⟩ | ⟨hsite', -⟩
        · rw [← htopic'] at hpub'
          rw [hkeeps m.topic n' hpub' hmember'] at hopen
          exact Bool.false_ne_true hopen
        · exact h.site (by rw [hsite, hsite'])

/-- **The order of the nodes does not matter.** Let outside parties keep off the topics of the members.
Two runs that differ by swaps of neighbouring steps at different nodes, which do not both speak on the
policy lane, end in the same state of every node and of every link, and on the way every node handles
the same callbacks at the same readings, in the same order, and outputs the same. -/
theorem schedule_independent (setup : Setup) (members : NodeId → Bool) (opens : Topic → Bool)
    (hkeeps : Keeps members opens) (h h' : List Action)
    (hreorders : Relation.EqvGen (Reorders setup members opens) h h') :
    (network setup members opens).machine.after h = (network setup members opens).machine.after h' ∧
      ∀ n, (callbacks setup members opens).trace n h = (callbacks setup members opens).trace n h' := by
  refine Callbacks.after_rearranges separate (hreorders.mono ?_)
  rintro h h' ⟨pre, post, i, j, hunordered⟩
  exact .swap pre post i j (hunordered.independent hkeeps)

/-- The two managers and the arbiter. -/
def managed (n : NodeId) : Bool :=
  n ∈ [.runtime .safetyManager, .runtime .modeManager, .runtime .commandArbiter]

/-- The mode manager may publish before the arbiter hears the safety state, or after. -/
theorem schedule_independent_managers :
    (callbacks {} managed fun _ => false).trace (.runtime .commandArbiter)
        [⟨0, .act (.runtime (.safetyManager .publishState))⟩,
          ⟨1, .act (.runtime (.modeManager .publishState))⟩,
          ⟨2, .deliver (.runtime .commandArbiter) (.runtime .safetyState) 0⟩,
          ⟨3, .deliver (.runtime .commandArbiter) (.runtime .modeState) 0⟩] =
      (callbacks {} managed fun _ => false).trace (.runtime .commandArbiter)
        [⟨0, .act (.runtime (.safetyManager .publishState))⟩,
          ⟨2, .deliver (.runtime .commandArbiter) (.runtime .safetyState) 0⟩,
          ⟨1, .act (.runtime (.modeManager .publishState))⟩,
          ⟨3, .deliver (.runtime .commandArbiter) (.runtime .modeState) 0⟩] := by
  refine (schedule_independent {} managed (fun _ => false) (fun _ _ _ _ => rfl) _ _ (.rel _ _ (.swap
    [⟨0, .act (.runtime (.safetyManager .publishState))⟩]
    [⟨3, .deliver (.runtime .commandArbiter) (.runtime .modeState) 0⟩] _ _ ?_))).2 _
  refine ⟨by decide, trivial, ?_, by decide⟩
  -- the safety state is on its way to the arbiter
  show 0 < _
  decide

end HumaWare.System
