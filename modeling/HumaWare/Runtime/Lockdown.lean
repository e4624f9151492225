import HumaWare.HardwareAdapter.Gate
import HumaWare.LocomotionAdapter.Motion
import HumaWare.Runtime.Network
import HumaWare.SafetyManager.Publication

/-! # The MRM lockdown

From a trigger of the MRM service until the next accepted clear, the safety manager publishes
nothing but MRM and E-stop; and a consumer of `safety/state` that has processed a message from that
window, and none published after it, stays silent. The two halves meet on the link between them: its
window of serial numbers carries blocking states only, and in a FIFO run the consumer's field is the
last packet it saw.

* **`safetyOf_after`** — each consumer holds the state of the last packet seen on its link;
* **`Consumer.silent_of_blocking`** — each consumer's own gate, under a blocking state;
* **`latched_in_window`**, **`blocking_of_latched`** — the safety manager's half, along the window;
* **`lockdown`** — the main result. -/

namespace HumaWare.Runtime

open Reactive

/-- The consumers of `safety/state` that stand between a command and the robot. -/
inductive Consumer
  | commandArbiter
  | nav2Bridge
  | locomotionAdapter
  | hardwareAdapter
  deriving DecidableEq, Repr

namespace Consumer

/-- The node. -/
def node : Consumer → NodeId
  | commandArbiter => .commandArbiter
  | nav2Bridge => .nav2Bridge
  | locomotionAdapter => .locomotionAdapter
  | hardwareAdapter => .hardwareAdapter

/-- The safety state it holds. -/
def safetyOf (s : Nodes) : Consumer → UInt8
  | commandArbiter => s.commandArbiter.safetyState
  | nav2Bridge => s.nav2Bridge.safetyState
  | locomotionAdapter => s.locomotionAdapter.safetyState
  | hardwareAdapter => s.hardwareAdapter.safetyState

/-- The safety state that an event hands to it. -/
def heardSafety : Consumer → Event → Option UInt8
  | commandArbiter, .commandArbiter (.safetyState msg) => some msg.state
  | nav2Bridge, .nav2Bridge (.safetyState msg) => some msg.state
  | locomotionAdapter, .locomotionAdapter (.safetyState msg) => some msg.state
  | hardwareAdapter, .hardwareAdapter (.safetyState msg) => some msg.state
  | _, _ => none

/-- **Silence.** The output is not one by which the consumer would move the robot: the arbiter
publishes no command but the zero stop and reports that output is disabled, the bridge forwards
nothing, the locomotion adapter reports zero commanded velocity, the hardware adapter applies
nothing. -/
def Silent : Consumer → Output → Prop
  | commandArbiter, .commandArbiter (.approved msg) => msg.twist = 0
  | commandArbiter, .commandArbiter (.arbitrationState msg) => msg.outputEnabled = false
  | nav2Bridge, .nav2Bridge (.command _) => False
  | locomotionAdapter, .locomotionAdapter (.locomotionState msg) =>
    msg.commandedLinearVelocityMps = 0 ∧ msg.commandedAngularVelocityRadps = 0
  | hardwareAdapter, .hardwareAdapter (.applyToHardware _ _) => False
  | _, _ => True

end Consumer

/-- A safety state under which the robot is locked down. -/
def Blocking (state : UInt8) : Prop := state = SafetyState.stateMrm ∨ state = SafetyState.stateEstop

/-! ## The consumers' half -/

/-- One callback of the nodes hands a consumer the safety state it carries, or leaves the one
held. -/
theorem Consumer.safetyOf_step (c : Consumer) (s : Nodes) (i : Stamped Time Event) :
    c.safetyOf (s.step i).1 = (c.heardSafety i.event).getD (c.safetyOf s) := by
  obtain ⟨now, event⟩ := i
  cases c with
  | commandArbiter =>
    cases event with
    | commandArbiter e => cases e <;> rfl
    | safetyManager e => rfl
    | modeManager e => rfl
    | nav2Bridge e => rfl
    | locomotionAdapter e => rfl
    | hardwareAdapter e => rfl
    | skillServer e => rfl
  | nav2Bridge =>
    cases event with
    | nav2Bridge e =>
      cases e with
      | twist msg => exact Nav2Bridge.safetyState_handleCommand _ now _
      | twistStamped msg => exact Nav2Bridge.safetyState_handleCommand _ now _
      | tick => exact Nav2Bridge.safetyState_updateBridgeState _ now
      | modeState msg => rfl
      | safetyState msg => rfl
      | locomotionState msg => rfl
      | setParameters params => rfl
    | safetyManager e => rfl
    | modeManager e => rfl
    | commandArbiter e => rfl
    | locomotionAdapter e => rfl
    | hardwareAdapter e => rfl
    | skillServer e => rfl
  | locomotionAdapter =>
    cases event with
    | locomotionAdapter e =>
      have h := (LocomotionAdapter.step_fields s.locomotionAdapter ⟨now, e⟩).2.2.1
      cases e <;> exact h
    | safetyManager e => rfl
    | modeManager e => rfl
    | commandArbiter e => rfl
    | nav2Bridge e => rfl
    | hardwareAdapter e => rfl
    | skillServer e => rfl
  | hardwareAdapter =>
    cases event with
    | hardwareAdapter e => cases e <;> rfl
    | safetyManager e => rfl
    | modeManager e => rfl
    | commandArbiter e => rfl
    | nav2Bridge e => rfl
    | locomotionAdapter e => rfl
    | skillServer e => rfl

section Network

variable (setup : Setup) (members : NodeId → Bool) (opens : Topic → Bool)

/-- **A consumer holds the state of the last packet it saw**, or `UNKNOWN` before the first. -/
theorem safetyOf_after (c : Consumer) (h : List Action) :
    c.safetyOf ((network setup members opens).machine.after h).nodes =
      ((((network setup members opens).machine.after h).link c.node .safetyState).seen.getLast?.map
        fun p => p.msg.safety).getD SafetyState.stateUnknown := by
  have hregister := (nodes setup).latest_register (fun s => c.safetyOf s)
    (fun x => c.heardSafety x.event) (fun s i => c.safetyOf_step s i)
    ((network setup members opens).events h)
  have hinit : c.safetyOf (nodes setup).init = SafetyState.stateUnknown := by cases c <;> rfl
  rw [(network setup members opens).nodes_after, network_nodes, hregister, hinit,
    (network setup members opens).latest_seen c.node .safetyState c.heardSafety Message.safety]
  · -- a timer, a service or a parameter change hands no safety state to a consumer
    intro e hacts
    have hacts : e.acts = true := (Bool.and_eq_true _ _ ▸ hacts).1
    cases c <;> cases e with
    | safetyManager e => rfl
    | modeManager e => rfl
    | commandArbiter e => cases e <;> first | rfl | exact absurd hacts Bool.false_ne_true
    | nav2Bridge e => cases e <;> first | rfl | exact absurd hacts Bool.false_ne_true
    | locomotionAdapter e => cases e <;> first | rfl | exact absurd hacts Bool.false_ne_true
    | hardwareAdapter e => cases e <;> first | rfl | exact absurd hacts Bool.false_ne_true
    | skillServer e => rfl
  · -- a message does exactly if it is a safety state on the consumer's own link
    intro n m e hreceive
    have hsub := (receive_eq_some_iff.mp hreceive).2
    rw [network_topic]
    cases n <;> cases m <;> simp only [subscription, Option.some.injEq, reduceCtorEq] at hsub <;>
      subst hsub <;> cases c <;> rfl

end Network

/-- **Each consumer's own gate, under a blocking state.** The four gates are written differently,
and each of them is shut. -/
theorem Consumer.silent_of_blocking {c : Consumer} {s : Nodes} (hblock : Blocking (c.safetyOf s))
    {i : Stamped Time Event} {x : Output} (hx : x ∈ (s.step i).2) : c.Silent x := by
  have hnotAllowed : ∀ {state : UInt8}, Blocking state →
      ¬(state = SafetyState.stateOk ∨ state = SafetyState.stateWarn) := by
    intro state hstate
    rcases hstate with rfl | rfl <;> decide
  cases c with
  | commandArbiter =>
    cases x with
    | commandArbiter pub =>
      obtain ⟨e, -, hpub⟩ := Nodes.mem_step_commandArbiter hx
      have htick := (CommandArbiter.step_publications hpub).2
      have hstate : s.commandArbiter.safetyState ∉ CommandArbiter.allowedSafetyStates :=
        fun h => hnotAllowed hblock (List.mem_pair.mp h)
      obtain ⟨happroved, harbitration⟩ := CommandArbiter.tick_of_not_allowed hstate htick
      cases pub with
      | approved msg => exact happroved msg rfl
      | arbitrationState msg => exact harbitration msg rfl
    | safetyManager | modeManager | nav2Bridge | locomotionAdapter | hardwareAdapter |
      skillServer => trivial
  | nav2Bridge =>
    cases x with
    | nav2Bridge pub =>
      obtain ⟨e, -, hpub⟩ := Nodes.mem_step_nav2Bridge hx
      cases pub with
      | command msg => exact hnotAllowed hblock (Nav2Bridge.step_command hpub).2
      | bridgeState msg => trivial
    | safetyManager | modeManager | commandArbiter | locomotionAdapter | hardwareAdapter |
      skillServer => trivial
  | locomotionAdapter =>
    cases x with
    | locomotionAdapter pub =>
      obtain ⟨e, -, hpub⟩ := Nodes.mem_step_locomotionAdapter hx
      obtain ⟨msg⟩ := pub
      have hhalting : s.locomotionAdapter.safetyState ∈ LocomotionAdapter.haltingSafetyStates := by
        rcases hblock with h | h <;> rw [Consumer.safetyOf] at h <;> rw [h] <;> decide
      obtain ⟨-, rfl⟩ := LocomotionAdapter.step_publications hpub
      -- the timer stops for the state before it publishes
      rcases LocomotionAdapter.velocity_update s.locomotionAdapter i.now with hzero | ⟨hgoing, -⟩
      · exact hzero
      · exact absurd hhalting hgoing
    | safetyManager | modeManager | commandArbiter | nav2Bridge | hardwareAdapter |
      skillServer => trivial
  | hardwareAdapter =>
    cases x with
    | hardwareAdapter effect =>
      obtain ⟨e, -, heffect⟩ := Nodes.mem_step_hardwareAdapter hx
      cases effect with
      | applyToHardware command reason =>
        have htick := (HardwareAdapter.step_applies heffect).2
        have hopen := (HardwareAdapter.tick_applies_iff.mp ⟨reason, htick⟩).1
        exact hnotAllowed hblock hopen.safety
      | diagnostics | heartbeat | stopHardware => trivial
    | safetyManager | modeManager | commandArbiter | nav2Bridge | locomotionAdapter |
      skillServer => trivial

/-! ## The safety manager's half -/

section Network

variable {setup : Setup} {members : NodeId → Bool} {opens : Topic → Bool}

/-- **The latch inside the network.** A step that finds the latch set, or that handles a trigger,
leaves it set unless it answers an accepted clear. -/
theorem latched_next {s : NetworkState} {i : Action}
    (hlatch : s.nodes.safetyManager.serviceMrmActive = true ∨
      ∃ request, (network setup members opens).fired s i.event =
        some (.safetyManager (.triggerMrm request)))
    (hclear : ∀ response, .safetyManager (.clearResponse response) ∈
      stepOutputs setup members opens s i → response.accepted = false) :
    ((network setup members opens).machine.next s i).nodes.safetyManager.serviceMrmActive = true := by
  rw [Network.next_nodes]
  cases hfired : (network setup members opens).fired s i.event with
  | none =>
    rcases hlatch with hlatch | ⟨request, hrequest⟩
    · exact hlatch
    · rw [hfired] at hrequest
      exact absurd hrequest (by simp)
  | some e =>
    -- unless the step handles a trigger, the latch was set before
    have hheld : (∀ request, e ≠ .safetyManager (.triggerMrm request)) →
        s.nodes.safetyManager.serviceMrmActive = true := by
      intro hne
      rcases hlatch with hlatch | ⟨request, hrequest⟩
      · exact hlatch
      · rw [hfired, Option.some.injEq] at hrequest
        exact absurd hrequest (hne request)
    cases e with
    | safetyManager e =>
      refine SafetyManager.step_latch (i := ⟨i.now, e⟩) ?_ fun response hresponse => ?_
      · by_cases htrigger : ∃ request, e = .triggerMrm request
        · exact Or.inr htrigger
        · exact Or.inl (hheld fun request h => htrigger ⟨request, Event.safetyManager.inj h⟩)
      · refine hclear response (mem_stepOutputs_iff.mpr ⟨_, hfired, ?_⟩)
        exact List.mem_map_of_mem hresponse
    | modeManager e => exact hheld fun request h => nomatch h
    | commandArbiter e => exact hheld fun request h => nomatch h
    | nav2Bridge e => exact hheld fun request h => nomatch h
    | locomotionAdapter e => exact hheld fun request h => nomatch h
    | hardwareAdapter e => exact hheld fun request h => nomatch h
    | skillServer e => exact hheld fun request h => nomatch h

/-- **What the safety manager publishes while the latch is set.** -/
theorem blocking_of_latched {s : NetworkState} {i : Action}
    (hlatch : ((network setup members opens).machine.next s i).nodes.safetyManager.serviceMrmActive =
      true) :
    (∀ safety, .safetyManager (.safetyState safety) ∈ stepOutputs setup members opens s i →
        Blocking safety.state) ∧
      ∀ mrm, .safetyManager (.mrmState mrm) ∈ stepOutputs setup members opens s i →
        mrm.state = MRMState.stateStop ∨ mrm.state = MRMState.stateFault := by
  have hstep : ∀ pub, .safetyManager pub ∈ stepOutputs setup members opens s i →
      ∃ e, pub ∈ (SafetyManager.step s.nodes.safetyManager ⟨i.now, e⟩).2 ∧
        (SafetyManager.step s.nodes.safetyManager ⟨i.now, e⟩).1.serviceMrmActive = true := by
    intro pub hpub
    obtain ⟨e, hfired, hpub⟩ := mem_stepOutputs_iff.mp hpub
    obtain ⟨e', rfl, hpub⟩ := Nodes.mem_step_safetyManager hpub
    rw [Network.next_nodes, hfired] at hlatch
    exact ⟨e', hpub, hlatch⟩
  constructor
  · intro safety hpub
    obtain ⟨e, hpub, hlatch⟩ := hstep _ hpub
    exact (SafetyManager.step_latched hlatch).1 safety hpub
  · intro mrm hpub
    obtain ⟨e, hpub, hlatch⟩ := hstep _ hpub
    exact (SafetyManager.step_latched hlatch).2 mrm hpub

/-- The steps of a stretch that begins with the trigger and answers no accepted clear all leave the
latch set. -/
theorem latched_in_window {pre mid : List Action} {t : Action} {request : SafetyManager.MRMRequest}
    (htrigger : (network setup members opens).fired
      ((network setup members opens).machine.after pre) t.event =
        some (.safetyManager (.triggerMrm request)))
    (hclear : ∀ m₁ j m₂, mid = m₁ ++ j :: m₂ → ∀ response,
      .safetyManager (.clearResponse response) ∈ stepOutputs setup members opens
        ((network setup members opens).machine.after (pre ++ t :: m₁)) j →
      response.accepted = false)
    (m₁ : List Action) (j : Action) (m₂ : List Action) (hsplit : t :: mid = m₁ ++ j :: m₂) :
    ((network setup members opens).machine.after (pre ++ m₁ ++ [j])).nodes.safetyManager.serviceMrmActive
      = true := by
  induction m₁ using List.reverseRecOn generalizing j m₂ with
  | nil =>
    -- the stretch begins with the trigger
    obtain ⟨rfl, rfl⟩ := List.cons.inj hsplit
    rw [Machine.after_concat, List.append_nil]
    refine latched_next (Or.inr ⟨request, htrigger⟩) fun response hresponse => ?_
    obtain ⟨e, hfired, hmem⟩ := mem_stepOutputs_iff.mp hresponse
    obtain rfl := Option.some.inj (htrigger.symm.trans hfired)
    simp [Nodes.step, SafetyManager.step, SafetyManager.handleTriggerMrm,
      SafetyManager.publishState] at hmem
  | append_singleton m₁ k ih =>
    have hlatch := ih k (j :: m₂) (by rw [hsplit, List.append_assoc, List.singleton_append])
    rw [List.append_assoc] at hlatch
    rw [Machine.after_concat]
    apply latched_next (Or.inl hlatch)
    -- the step after `t :: m` is one of `mid`
    cases m₁ with
    | nil =>
      obtain ⟨rfl, hmid⟩ := List.cons.inj hsplit
      exact hclear [] j m₂ hmid
    | cons a m₁ =>
      obtain ⟨rfl, hmid⟩ := List.cons.inj hsplit
      exact hclear (m₁ ++ [k]) j m₂ hmid

/-- **The main result.** Let `pre` lead to a step `t` that handles a trigger, and let no step of
`mid` answer an accepted clear. Then every safety and MRM state published by `t :: mid` blocks. And
however the run goes on, a consumer that has seen a safety state published by `t :: mid`, and none
published later, is silent in the next step. -/
theorem lockdown (setup : Setup) (members : NodeId → Bool) (opens : Topic → Bool)
    (hclosed : opens .safetyState = false) (pre mid post : List Action) (t i : Action)
    (hfifo : Network.Fifo (pre ++ t :: mid ++ post)) (request : SafetyManager.MRMRequest)
    (htrigger : (network setup members opens).fired
      ((network setup members opens).machine.after pre) t.event =
        some (.safetyManager (.triggerMrm request)))
    (hclear : ∀ m₁ j m₂, mid = m₁ ++ j :: m₂ → ∀ response,
      .safetyManager (.clearResponse response) ∈ stepOutputs setup members opens
        ((network setup members opens).machine.after (pre ++ t :: m₁)) j →
      response.accepted = false) :
    (∀ m₁ j m₂, t :: mid = m₁ ++ j :: m₂ →
      (∀ safety, .safetyManager (.safetyState safety) ∈
          stepOutputs setup members opens ((network setup members opens).machine.after (pre ++ m₁)) j →
        safety.state = SafetyState.stateMrm ∨ safety.state = SafetyState.stateEstop) ∧
      ∀ mrm, .safetyManager (.mrmState mrm) ∈
          stepOutputs setup members opens ((network setup members opens).machine.after (pre ++ m₁)) j →
        mrm.state = MRMState.stateStop ∨ mrm.state = MRMState.stateFault) ∧
    ∀ c : Consumer,
      (∃ p ∈ (((network setup members opens).machine.after (pre ++ t :: mid ++ post)).link c.node
          .safetyState).seen,
        (((network setup members opens).machine.after pre).link c.node .safetyState).count ≤
          p.serial) →
      (∀ p ∈ (((network setup members opens).machine.after (pre ++ t :: mid ++ post)).link c.node
          .safetyState).seen,
        p.serial <
          (((network setup members opens).machine.after (pre ++ t :: mid)).link c.node
            .safetyState).count) →
      ∀ x ∈ stepOutputs setup members opens
        ((network setup members opens).machine.after (pre ++ t :: mid ++ post)) i, c.Silent x := by
  have hlatched : ∀ m₁ j m₂, t :: mid = m₁ ++ j :: m₂ →
      ((network setup members opens).machine.next
        ((network setup members opens).machine.after (pre ++ m₁)) j).nodes.safetyManager.serviceMrmActive
          = true := by
    intro m₁ j m₂ hsplit
    rw [← Machine.after_concat]
    exact latched_in_window htrigger hclear m₁ j m₂ hsplit
  refine ⟨fun m₁ j m₂ hsplit => blocking_of_latched (hlatched m₁ j m₂ hsplit), ?_⟩
  intro c hseen hbeyond x hx
  obtain ⟨q, hlast, hlow, hhigh⟩ :=
    (network setup members opens).last_seen_of_window (hfifo.on _ _) hseen hbeyond
  -- the packet seen last was published in the window, where the safety manager alone publishes
  have hblock : Blocking q.msg.safety := by
    refine (network setup members opens).packet_window (P := fun m => Blocking m.safety) ?_ post
      (List.mem_append_left _ (List.mem_of_getLast? hlast)) hlow hhigh
    intro m₁ j m₂ hsplit m hm htopic
    obtain ⟨safety, rfl, hy⟩ := output_of_safetyState hclosed hm htopic
    exact (blocking_of_latched (hlatched m₁ j m₂ hsplit)).1 safety hy
  obtain ⟨e, -, hx⟩ := mem_stepOutputs_iff.mp hx
  -- and the consumer holds what that packet carries
  refine Consumer.silent_of_blocking ?_ hx
  rw [safetyOf_after, hlast]
  exact hblock

/-- A trigger, its safety state handed to the arbiter, and the stop of the arbiter's next tick. -/
theorem lockdown_trigger :
    ∃ msg, .commandArbiter (.approved msg) ∈ stepOutputs {} (fun _ => true) (fun t => t ≠ .safetyState)
        ((network {} (fun _ => true) (fun t => t ≠ .safetyState)).machine.after
          [⟨0, .act (.safetyManager (.triggerMrm {}))⟩,
            ⟨1, .deliver .commandArbiter .safetyState 0⟩]) ⟨2, .act (.commandArbiter .tick)⟩ ∧
      msg.twist = 0 := by
  have hsilent := (lockdown {} (fun _ => true) (fun t => t ≠ .safetyState) (by decide) [] []
    [⟨1, .deliver .commandArbiter .safetyState 0⟩] ⟨0, .act (.safetyManager (.triggerMrm {}))⟩
    ⟨2, .act (.commandArbiter .tick)⟩ ?_ {} rfl (fun m₁ j m₂ hsplit => by simp at hsplit)).2
    .commandArbiter ?_ ?_
  · exact ⟨_, List.mem_cons_self, hsilent _ List.mem_cons_self⟩
  · intro i hi
    simp only [List.nil_append, List.singleton_append, List.mem_cons, List.not_mem_nil,
      or_false] at hi
    rcases hi with rfl | rfl <;> simp [Label.InOrder]
  · exact ⟨_, List.mem_singleton_self _, by decide⟩
  · intro p hp
    obtain rfl := List.mem_singleton.mp hp
    decide

end Network

end HumaWare.Runtime
