import HumaWare.System.Watching

/-! # Who lets a skill move the robot

The skill server refuses a velocity skill under three safety states; the safety state that it has not
heard of is none of them. What it does need is a capability, and that the registry advertises under a
safety state that it has heard of and that blocks nothing. So the two nodes together guard what the
skill server alone does not.

* **`HeardFrom`** — what a node has heard last on a topic, and which step published it;
* **`Subscriber.heardFrom_of_safetyOf`**, **`Subscriber.heardFrom_of_modeOf`** — what a subscriber
  holds, if it is not the value that it starts with, was published;
* **`heardFrom_of_capability`** — a capability of the skill server was published by the registry;
* **`skill_backed`** — the main result. -/

namespace HumaWare.System

open Python Reactive

variable (setup : Setup) (members : NodeId → Bool) (opens : Topic → Bool)

/-- **What a node has heard last on a topic** in the run `h` is the message of the output `x`, which the
step `a` after `pre` made. -/
structure HeardFrom (h pre : List Action) (a : Action) (n : NodeId) (x : Output) : Prop where
  split : ∃ post, h = pre ++ a :: post
  output : x ∈ stepOutputs setup members opens ((network setup members opens).machine.after pre) a
  last : ∃ m, x.message = some m ∧ (((network setup members opens).machine.after h).link n
    m.topic).seen.getLast?.map Packet.msg = some m

variable {setup members opens}

namespace Subscriber

/-- **A safety state that a subscriber holds was published** by the safety manager. -/
theorem heardFrom_of_safetyOf (hclosed : opens (.runtime .safetyState) = false) {n : Subscriber}
    {h : List Action} (hheard : n.safetyOf ((network setup members opens).machine.after h).nodes ≠
      n.safetyOf (nodes setup).init) :
    ∃ pre a safety, HeardFrom setup members opens h pre a n.node
        (.runtime (.safetyManager (.safetyState safety))) ∧
      n.safetyOf ((network setup members opens).machine.after h).nodes = safety.state := by
  obtain ⟨pre, a, post, m, rfl, hm, htopic, hlast, hheld⟩ :=
    (callbacks setup members opens).exists_emission_of_register (fun s => n.safetyOf s) Message.safety
      (fun s x => (n.held_next s x).1) hheard
  obtain ⟨safety, rfl, hpub⟩ := output_of_safetyState hclosed hm htopic
  exact ⟨pre, a, safety, ⟨⟨post, rfl⟩, hpub, _, rfl, hlast⟩, hheld⟩

/-- **A mode that a subscriber holds was published** by the mode manager. -/
theorem heardFrom_of_modeOf (hclosed : opens (.runtime .modeState) = false) {n : Subscriber}
    {h : List Action} (hheard : n.modeOf ((network setup members opens).machine.after h).nodes ≠
      n.modeOf (nodes setup).init) :
    ∃ pre a mode, HeardFrom setup members opens h pre a n.node
        (.runtime (.modeManager (.modeState mode))) ∧
      n.modeOf ((network setup members opens).machine.after h).nodes = mode.activeMode := by
  obtain ⟨pre, a, post, m, rfl, hm, htopic, hlast, hheld⟩ :=
    (callbacks setup members opens).exists_emission_of_register (fun s => n.modeOf s) Message.mode
      (fun s x => (n.held_next s x).2) hheard
  obtain ⟨mode, rfl, hpub⟩ := output_of_modeState hclosed hm htopic
  exact ⟨pre, a, mode, ⟨⟨post, rfl⟩, hpub, _, rfl, hlast⟩, hheld⟩

end Subscriber

/-- The safety manager publishes four states. -/
theorem mem_of_safetyState {h : List Action} {i : Action} {safety : SafetyState}
    (hpub : .runtime (.safetyManager (.safetyState safety)) ∈
      stepOutputs setup members opens ((network setup members opens).machine.after h) i) :
    safety.state ∈ [SafetyState.stateOk, SafetyState.stateWarn, SafetyState.stateMrm,
      SafetyState.stateEstop] := by
  obtain ⟨rfl, -⟩ := published_safetyState hpub
  rw [SafetyManager.safetyMsg_state]
  split
  · simp
  split
  · simp
  split <;> simp

/-! ## The registry and the skill server -/

/-- The capabilities that a callback hands to the skill server. -/
def heardCapabilities : Message → Dict String Capability
  | .runtime (.capabilities msg) => Dict.ofValues Capability.name msg
  | _ => Dict.empty

/-- A callback hands the skill server the capabilities it carries, or leaves what it holds. -/
theorem capabilities_next (s : Nodes) (i : Stamped Time Event) :
    ((nodes setup).next s i).runtime.skillServer.capabilities =
      (((callbacks setup members opens).heardOn (.runtime .skillServer) (.runtime .capabilities)
        i.event).map heardCapabilities).getD s.runtime.skillServer.capabilities := by
  obtain ⟨now, event⟩ := i
  rcases event with (e | e | e | e | e | e | e) | e | e | e | e | e | e
  case runtime.skillServer =>
    cases e with
    | republishState => exact (SkillServer.fields_republishState s.runtime.skillServer now).1
    | _ => rfl
  all_goals rfl

/-- **A capability of the skill server was published by the registry**, in the state that the mode
and the safety state of the registry made. -/
theorem heardFrom_of_capability (hclosed : opens (.runtime .capabilities) = false) {h : List Action}
    {name : String} {found : Capability}
    (hfound : ((network setup members opens).machine.after
      h).nodes.runtime.skillServer.capabilities.get? name = some found) :
    ∃ pre a msg, HeardFrom setup members opens h pre a (.runtime .skillServer)
        (.capabilityRegistry (.registry msg)) ∧
      ∃ spec ∈ CapabilityRegistry.defaultCapabilities, spec.name = name ∧
        let s := ((network setup members opens).machine.after pre).nodes.capabilityRegistry
        CapabilityRegistry.buildCapability spec s.mode s.safety s.locomotion ∈ msg.capabilities ∧
          found.state = CapabilityRegistry.capabilityState spec s.mode s.safety s.locomotion := by
  have hheard : ((network setup members opens).machine.after
      h).nodes.runtime.skillServer.capabilities ≠
        (nodes setup).init.runtime.skillServer.capabilities := by
    intro hempty
    rw [hempty] at hfound
    cases hfound
  obtain ⟨pre, a, post, m, rfl, hm, htopic, hlast, hheld⟩ :=
    (callbacks setup members opens).exists_emission_of_register
      (fun s => s.runtime.skillServer.capabilities) heardCapabilities capabilities_next hheard
  obtain ⟨x, hx, hmessage⟩ := exists_output hclosed hm htopic
  rcases x with (x | x | x | x | x | x | x) | x | x | x | x | x | x
  all_goals cases x <;> simp only [Output.message, Runtime.Output.message, Option.map_some,
    Option.map_none, Option.some.injEq, reduceCtorEq] at hmessage
  case capabilityRegistry.registry msg =>
    subst hmessage
    rw [hheld] at hfound
    obtain ⟨hmem, rfl⟩ := Dict.mem_of_get?_ofValues hfound
    obtain ⟨capability, hcapability, rfl⟩ := List.mem_map.mp hmem
    obtain ⟨e, -, hpub⟩ := mem_stepOutputs_iff.mp hx
    obtain ⟨e, rfl, hpub⟩ := Nodes.mem_step_capabilityRegistry hpub
    have hlist := hcapability
    rw [CapabilityRegistry.capabilities_of_registry hpub] at hlist
    obtain ⟨spec, hspec, rfl⟩ := CapabilityRegistry.mem_capabilities_iff.mp hlist
    exact ⟨pre, a, msg, ⟨⟨post, rfl⟩, hx, _, rfl, hlast⟩, spec, hspec, rfl, hcapability, rfl⟩
  all_goals rw [← hmessage] at htopic
  all_goals simp [Message.topic, Runtime.Message.topic] at htopic

/-- The ladder gives a state that is advertised, or one of two that are not. -/
theorem capabilityState_mem (spec : CapabilityRegistry.CapabilitySpec) (mode safety locomotion : UInt8) :
    CapabilityRegistry.capabilityState spec mode safety locomotion ∈
      CapabilityRegistry.advertisedStates ++ [Capability.stateUnavailable, Capability.stateFault] := by
  unfold CapabilityRegistry.capabilityState
  repeat' refine ite_mem.mpr ⟨fun _ => ?_, fun _ => ?_⟩
  all_goals decide

/-- **A skill that moves the robot is backed.** Let outside parties publish no mode, no safety state
and no capabilities. Whenever the skill server publishes a command that is not zero, it answers a
request for a velocity skill, and the last registry that it has heard of advertises that very skill.
When the registry was published, the last safety state that the registry had heard of was published by
the safety manager as `OK` or a warning, and the last mode by the mode manager as a mode of motion. The
last mode that the skill server itself has heard of was published as `AI_POLICY`, and it holds it. -/
theorem skill_backed (setup : Setup) (members : NodeId → Bool) (opens : Topic → Bool)
    (hclosed : ∀ t ∈ [Runtime.Topic.capabilities, .safetyState, .modeState], opens (.runtime t) = false)
    (h : List Action) (i : Action) (command : TwistStamped)
    (hpub : .runtime (.skillServer (.policyCmd command)) ∈
      stepOutputs setup members opens ((network setup members opens).machine.after h) i)
    (hne : command.twist ≠ 0) :
    ∃ request executionId,
      (network setup members opens).fired ((network setup members opens).machine.after h) i.event =
        some (.runtime (.skillServer (.executeSkill request executionId))) ∧
      request.capabilityName ∈ SkillServer.velocitySkills ∧
      (∃ pre a msg capability, HeardFrom setup members opens h pre a (.runtime .skillServer)
          (.capabilityRegistry (.registry msg)) ∧
        capability ∈ msg.capabilities ∧ capability.name = request.capabilityName ∧
        capability.state ∈ CapabilityRegistry.advertisedStates ∧
        (∃ pre' c safety, HeardFrom setup members opens pre pre' c .capabilityRegistry
            (.runtime (.safetyManager (.safetyState safety))) ∧
          safety.state ∈ [SafetyState.stateOk, SafetyState.stateWarn]) ∧
        ∃ pre' c mode, HeardFrom setup members opens pre pre' c .capabilityRegistry
            (.runtime (.modeManager (.modeState mode))) ∧
          mode.activeMode ∈ CapabilityRegistry.activeMotionModes) ∧
      ∃ pre a mode, HeardFrom setup members opens h pre a (.runtime .skillServer)
          (.runtime (.modeManager (.modeState mode))) ∧
        mode.activeMode = ModeState.modeAiPolicy ∧
        ((network setup members opens).machine.after h).nodes.runtime.skillServer.mode =
          mode.activeMode := by
  have hsafety : opens (.runtime .safetyState) = false := hclosed _ (by simp)
  have hmode : opens (.runtime .modeState) = false := hclosed _ (by simp)
  obtain ⟨e, hfired, hpub⟩ := mem_stepOutputs_iff.mp hpub
  obtain ⟨e, rfl, hpub⟩ := Nodes.mem_step_runtime hpub
  obtain ⟨e, rfl, hpub⟩ := Runtime.Nodes.mem_step_skillServer hpub
  obtain ⟨request, executionId, rfl, hexecutes⟩ := SkillServer.executes_of_policyCmd hpub
  obtain ⟨found, hfound, hstate⟩ := hexecutes.capability hne
  have hskill := hexecutes.skill hne
  refine ⟨request, executionId, hfired, hskill, ?_, ?_⟩
  · obtain ⟨pre, a, msg, hfrom, spec, hspec, hname, hmem, hfoundState⟩ :=
      heardFrom_of_capability (hclosed _ (by simp)) hfound
    rw [hfoundState] at hstate
    -- the skill server refuses what the ladder does not advertise
    have hadvertised := (List.mem_append.mp (capabilityState_mem spec _ _ _)).resolve_right
      fun hrefused => hstate (List.mem_cons_of_mem _ hrefused)
    -- of the six specifications two have the name of a velocity skill
    have hmotion : ∀ spec ∈ CapabilityRegistry.defaultCapabilities,
        spec.name ∈ SkillServer.velocitySkills →
          spec ∈ [CapabilityRegistry.walkVelocity, CapabilityRegistry.turnInPlace] := by
      decide +kernel
    obtain ⟨hactive, hpermits⟩ := (CapabilityRegistry.motion_advertised_iff
      (hmotion spec hspec (hname ▸ hskill))).mp hadvertised
    change Subscriber.capabilityRegistry.modeOf _ ∈ _ at hactive
    change Subscriber.capabilityRegistry.safetyOf _ ∉ _ at hpermits
    refine ⟨pre, a, msg, _, hfrom, hmem, hname, hadvertised, ?_, ?_⟩
    · have hheard : Subscriber.capabilityRegistry.safetyOf
          ((network setup members opens).machine.after pre).nodes ≠ SafetyState.stateUnknown := by
        intro hunknown
        exact hpermits (hunknown ▸ List.mem_cons_self)
      obtain ⟨pre', c, safety, hfrom', hheld⟩ :=
        Subscriber.heardFrom_of_safetyOf hsafety hheard
      refine ⟨pre', c, safety, hfrom', ?_⟩
      -- of the four states that are published two block
      have hstates := mem_of_safetyState hfrom'.output
      have hnot : safety.state ∉ CapabilityRegistry.blockingSafetyStates := hheld ▸ hpermits
      simp only [List.mem_cons, List.not_mem_nil, or_false] at hstates ⊢
      rcases hstates with hok | hwarn | hmrm | hestop
      · exact Or.inl hok
      · exact Or.inr hwarn
      · exact absurd (by rw [hmrm]; decide) hnot
      · exact absurd (by rw [hestop]; decide) hnot
    · have hheard : Subscriber.capabilityRegistry.modeOf
          ((network setup members opens).machine.after pre).nodes ≠ ModeState.modeUnknown := by
        intro hunknown
        have hactive : ModeState.modeUnknown ∈ CapabilityRegistry.activeMotionModes :=
          hunknown ▸ hactive
        exact absurd hactive (by decide)
      obtain ⟨pre', c, mode, hfrom', hheld⟩ := Subscriber.heardFrom_of_modeOf hmode hheard
      exact ⟨pre', c, mode, hfrom', hheld ▸ hactive⟩
  · have hpolicy : Subscriber.skillServer.modeOf
        ((network setup members opens).machine.after h).nodes = ModeState.modeAiPolicy :=
      hexecutes.mode hne
    have hheard : Subscriber.skillServer.modeOf
        ((network setup members opens).machine.after h).nodes ≠ ModeState.modeUnknown := by
      rw [hpolicy]
      decide
    obtain ⟨pre, a, mode, hfrom, hheld⟩ := Subscriber.heardFrom_of_modeOf hmode hheard
    exact ⟨pre, a, mode, hfrom, hheld.symm.trans hpolicy, hheld⟩

/-! ### A walk -/

/-- A mode manager that starts in `AI_POLICY`. -/
def walkingSetup : Setup := { runtime := { modeManager := { initialMode := .str "ai_policy" } } }

/-- The registry hears of the mode and the safety state, the skill server of the mode alone. -/
def walkingRun : List Action :=
  [⟨0, .act (.runtime (.safetyManager .publishState))⟩,
    ⟨0, .act (.runtime (.modeManager .publishState))⟩,
    ⟨1, .deliver .capabilityRegistry (.runtime .safetyState) 0⟩,
    ⟨1, .deliver .capabilityRegistry (.runtime .modeState) 0⟩,
    ⟨1, .deliver (.runtime .skillServer) (.runtime .modeState) 0⟩,
    ⟨2, .act (.capabilityRegistry .publish)⟩,
    ⟨3, .deliver (.runtime .skillServer) (.runtime .capabilities) 0⟩]

/-- A request to walk: the registry that the skill server has heard of advertises that skill. -/
theorem skill_backed_walking :
    ∃ pre a msg capability, HeardFrom walkingSetup (fun _ => true) (fun _ => false) walkingRun pre a
        (.runtime .skillServer) (.capabilityRegistry (.registry msg)) ∧
      capability ∈ msg.capabilities ∧ capability.name ∈ SkillServer.velocitySkills := by
  obtain ⟨request, executionId, -, hskill, ⟨pre, a, msg, capability, hfrom, hmem, hname, -⟩, -⟩ :=
    skill_backed walkingSetup (fun _ => true) (fun _ => false) (fun _ _ => rfl) walkingRun
      ⟨4, .act (.runtime (.skillServer (.executeSkill
        { capabilityName := "walk_velocity"
          velocityCommand := { twist := { linear := { x := .fin (1 / 10) } } } } "walk")))⟩
      { header := { stamp := 4, frameId := "mock_001" }
        twist := { linear := { x := .fin (1 / 10) } } } (by decide +kernel) (by decide +kernel)
  exact ⟨pre, a, msg, capability, hfrom, hmem, hname ▸ hskill⟩

end HumaWare.System
