import HumaWare.CapabilityRegistry.Node
import HumaWare.ModeManager.Node
import HumaWare.Python.Text

/-! # What the registry advertises

The modes that permit a capability are written twice: in its `required_mode`, and in the ladder that
makes its state.

* **`permittedModes`** — the modes that a `required_mode` lists, by the names the mode manager gives
  them;
* **`motion_advertised_iff`**, **`recover_advertised_iff`**, **`stand_advertised_iff`** — in which
  modes and safety states the ladder advertises each capability;
* **`advertised_permitted`** — the two agree, but for one capability;
* **`onListCapabilities_lists`** — a list response is exactly what was asked for;
* **`registrySound_iff`** — the main result, over all runs. -/

namespace HumaWare.CapabilityRegistry

open Python Reactive

/-! ## The modes a capability permits -/

/-- The modes that a `required_mode` lists. -/
def permittedModes (requiredMode : String) : List UInt8 :=
  (ModeManager.modeNames.filter fun entry => entry.1 ∈ split requiredMode '|').map Prod.snd

/-- A mode is permitted if the text names it. -/
theorem mem_permittedModes_iff {requiredMode : String} {mode : UInt8} :
    mode ∈ permittedModes requiredMode ↔
      ∃ name, (name, mode) ∈ ModeManager.modeNames ∧ name ∈ split requiredMode '|' := by
  simp [permittedModes]

/-- No `required_mode` lists the mode `UNKNOWN`, which has no name. -/
theorem modeUnknown_notMem_permittedModes (requiredMode : String) :
    ModeState.modeUnknown ∉ permittedModes requiredMode := by
  rw [mem_permittedModes_iff]
  rintro ⟨name, hname, -⟩
  have hunnamed : ModeState.modeUnknown ∉ ModeManager.modeNames.map Prod.snd := by decide
  exact hunnamed (List.mem_map_of_mem hname)

/-- The modes in which the robot may stand. -/
theorem permittedModes_stand : permittedModes stand.requiredMode =
    [ModeState.modeInactive, ModeState.modeTeleop, ModeState.modeAutonomy,
      ModeState.modeAiPolicy] := by
  decide

/-- Walking and turning are permitted where the ladder looks for it. -/
theorem permittedModes_motion {spec : CapabilitySpec} (hspec : spec ∈ [walkVelocity, turnInPlace]) :
    permittedModes spec.requiredMode = activeMotionModes := by
  revert spec
  decide

/-- The modes in which it may recover its posture. -/
theorem permittedModes_recoverPosture :
    permittedModes recoverPosture.requiredMode = recoverModes := by
  decide

/-! ## The modes in which the ladder advertises it -/

/-- The states that advertise a capability. -/
def advertisedStates : List UInt8 :=
  [Capability.stateIdle, Capability.stateExecuting, Capability.stateDegraded]

/-- The safety states that the ladder names before any mode test. -/
def blockingSafetyStates : List UInt8 :=
  [SafetyState.stateUnknown, SafetyState.stateFault, SafetyState.stateEstop, SafetyState.stateMrm]

section Ladder

variable {mode safety locomotion : UInt8}

/-- **Walking and turning**: in the modes of motion. -/
theorem motion_advertised_iff {spec : CapabilitySpec} (hspec : spec ∈ [walkVelocity, turnInPlace]) :
    capabilityState spec mode safety locomotion ∈ advertisedStates ↔
      mode ∈ activeMotionModes ∧ safety ∉ blockingSafetyStates := by
  rcases List.mem_pair.mp hspec with rfl | rfl <;>
    simp only [capabilityState, walkVelocity, turnInPlace, advertisedStates, activeMotionModes,
      blockingSafetyStates] <;>
    grind

/-- **Recovering the posture**: in the modes of recovery, under an MRM too. -/
theorem recover_advertised_iff :
    capabilityState recoverPosture mode safety locomotion ∈ advertisedStates ↔
      mode ∈ recoverModes ∧
        safety ∉ [SafetyState.stateUnknown, SafetyState.stateFault, SafetyState.stateEstop] := by
  simp only [capabilityState, recoverPosture, advertisedStates, recoverModes]
  grind

/-- **Standing**: in every mode but two, whatever its `required_mode` lists. -/
theorem stand_advertised_iff :
    capabilityState stand mode safety locomotion ∈ advertisedStates ↔
      mode ∉ [ModeState.modeShutdown, ModeState.modeMaintenance] ∧
        safety ∉ blockingSafetyStates := by
  simp only [capabilityState, stand, advertisedStates, blockingSafetyStates]
  grind

/-- The mode does not permit standing and no test names it; the safety state blocks nothing. -/
def StandsUnlisted (mode safety : UInt8) : Prop :=
  mode ∉ [ModeState.modeMaintenance, ModeState.modeInactive, ModeState.modeTeleop,
    ModeState.modeAutonomy, ModeState.modeAiPolicy, ModeState.modeShutdown] ∧
  safety ∉ blockingSafetyStates

instance : Decidable (StandsUnlisted mode safety) := inferInstanceAs (Decidable (_ ∧ _))

/-- Standing is advertised where it is not permitted in just these modes. -/
theorem standsUnlisted_iff :
    StandsUnlisted mode safety ↔
      capabilityState stand mode safety locomotion ∈ advertisedStates ∧
        mode ∉ permittedModes stand.requiredMode := by
  rw [stand_advertised_iff, permittedModes_stand, StandsUnlisted]
  grind

/-- **What the ladder advertises is permitted**, but for standing in a mode it does not name. -/
theorem advertised_permitted {spec : CapabilitySpec} (hspec : spec ∈ defaultCapabilities)
    (hadvertised : capabilityState spec mode safety locomotion ∈ advertisedStates) :
    spec.requiredMode = "any" ∨ mode ∈ permittedModes spec.requiredMode ∨
      spec = stand ∧ StandsUnlisted mode safety := by
  simp only [defaultCapabilities, List.mem_cons, List.not_mem_nil, or_false] at hspec
  rcases hspec with rfl | rfl | rfl | rfl | rfl | rfl
  · -- standing
    by_cases hpermitted : mode ∈ permittedModes stand.requiredMode
    · exact Or.inr (Or.inl hpermitted)
    · exact Or.inr (Or.inr ⟨rfl, standsUnlisted_iff.mpr ⟨hadvertised, hpermitted⟩⟩)
  · exact Or.inl rfl
  · have hspec : walkVelocity ∈ [walkVelocity, turnInPlace] := List.mem_cons_self
    rw [permittedModes_motion hspec]
    exact Or.inr (Or.inl ((motion_advertised_iff hspec).mp hadvertised).1)
  · have hspec : turnInPlace ∈ [walkVelocity, turnInPlace] := by simp
    rw [permittedModes_motion hspec]
    exact Or.inr (Or.inl ((motion_advertised_iff hspec).mp hadvertised).1)
  · rw [permittedModes_recoverPosture]
    exact Or.inr (Or.inl (recover_advertised_iff.mp hadvertised).1)
  · exact Or.inl rfl

end Ladder

/-! ## What is listed -/

/-- The names of the capabilities. -/
def capabilityNames : List String := defaultCapabilities.map CapabilitySpec.name

/-- The capabilities of a state are those of the specifications. -/
theorem mem_capabilities_iff {s : State} {capability : CapabilityMsg} :
    capability ∈ s.capabilities ↔
      ∃ spec ∈ defaultCapabilities,
        buildCapability spec s.mode s.safety s.locomotion = capability := by
  rw [State.capabilities, List.mem_map]

/-- The registry that a step publishes lists the present capabilities. -/
theorem capabilities_of_registry {s : State} {i : Input} {msg : RegistryMsg}
    (hpub : Publication.registry msg ∈ (step s i).2) : msg.capabilities = s.capabilities := by
  obtain ⟨now, event⟩ := i
  cases event with
  | publish =>
    obtain rfl := Publication.registry.inj (List.mem_singleton.mp hpub)
    rfl
  | listCapabilities request => cases List.mem_singleton.mp hpub
  | modeState msg' | safetyState msg' | locomotionState msg' | setParameters params =>
    exact absurd hpub List.not_mem_nil

/-- Their names do not depend on the state. -/
theorem names_capabilities (s : State) :
    s.capabilities.map (fun capability => capability.name) = capabilityNames := by
  rw [State.capabilities, List.map_map]
  rfl

/-- The capability of a name. -/
theorem get?_byName_iff {s : State} {name : String} {capability : CapabilityMsg} :
    (Dict.ofValues (fun capability : CapabilityMsg => capability.name) s.capabilities).get? name =
        some capability ↔
      capability ∈ s.capabilities ∧ capability.name = name := by
  apply Dict.get?_ofValues_iff
  rw [names_capabilities]
  decide

/-- A name is found if it is one of a capability. -/
theorem isSome_byName_iff {s : State} {name : String} :
    ((Dict.ofValues (fun capability : CapabilityMsg => capability.name) s.capabilities).get?
      name).isSome = true ↔ name ∈ capabilityNames := by
  rw [Option.isSome_iff_exists, ← names_capabilities s, List.mem_map]
  exact exists_congr fun capability => get?_byName_iff

/-- **The response to a request**: the known names asked for, in their order and as often as asked
for, with their present states; the unknown ones as missing; and all capabilities if no name is
given. -/
structure Lists (mode safety locomotion : UInt8) (request : ListCapabilitiesRequest)
    (response : ListCapabilitiesResponse) : Prop where
  names : response.capabilities.map (fun capability => capability.name) =
    if request.names = [] then capabilityNames
    else request.names.filter fun name => name ∈ capabilityNames
  missing : response.missingNames = request.names.filter fun name => name ∉ capabilityNames
  current : ∀ capability ∈ response.capabilities, ∃ spec ∈ defaultCapabilities,
    buildCapability spec mode safety locomotion = capability

/-- The answer to a request lists what it asks for. -/
theorem onListCapabilities_lists (s : State) (request : ListCapabilitiesRequest) :
    Lists s.mode s.safety s.locomotion request (onListCapabilities s request) := by
  rw [onListCapabilities]
  by_cases hall : request.names = []
  · rw [if_neg (not_not.mpr hall)]
    exact
      { names := by
          rw [if_pos hall]
          exact names_capabilities s
        missing := by
          rw [hall]
          rfl
        current := fun capability hmem => mem_capabilities_iff.mp hmem }
  · rw [if_pos hall]
    exact
      { names := by
          -- each name is left out, or comes back as the name of its capability
          have hname : ∀ name, (Option.map (fun capability : CapabilityMsg => capability.name)
              ((Dict.ofValues (fun capability : CapabilityMsg => capability.name)
                s.capabilities).get? name)) =
              Option.guard (fun name => decide (name ∈ capabilityNames)) name := by
            intro name
            cases hget : (Dict.ofValues (fun capability : CapabilityMsg => capability.name)
                s.capabilities).get? name with
            | none =>
              have hunknown : name ∉ capabilityNames := by
                rw [← isSome_byName_iff (s := s), hget]
                exact Bool.false_ne_true
              simp [Option.guard, hunknown]
            | some capability =>
              have hknown : name ∈ capabilityNames := by
                rw [← isSome_byName_iff (s := s), hget]
                rfl
              simp [Option.guard, hknown, (get?_byName_iff.mp hget).2]
          rw [if_neg hall, List.map_filterMap, ← List.filterMap_eq_filter]
          exact List.filterMap_congr fun name _ => hname name
        missing := by
          apply List.filter_congr
          intro name _
          rw [Bool.eq_iff_iff, decide_eq_true_iff, ← isSome_byName_iff (s := s),
            Option.isNone_iff_eq_none, Option.not_isSome_iff_eq_none]
        current := by
          intro capability hmem
          obtain ⟨name, -, hget⟩ := List.mem_filterMap.mp hmem
          exact mem_capabilities_iff.mp (get?_byName_iff.mp hget).1 }

/-! ## Over all runs -/

/-- **A capability is permitted** after the history `h`: in any mode, or in the mode received last
by its name. -/
def Permitted (h : List Input) (capability : CapabilityMsg) : Prop :=
  capability.requiredMode = "any" ∨ ∃ mode name, latest modeStream h = some mode ∧
    (name, mode) ∈ ModeManager.modeNames ∧ name ∈ split capability.requiredMode '|'

/-- Whether the mode received last is permitted can be read off the node. -/
theorem permitted_iff (params : Params) (startedAt : Time) {h : List Input}
    {capability : CapabilityMsg} :
    Permitted h capability ↔ capability.requiredMode = "any" ∨
      ((machine params startedAt).after h).mode ∈ permittedModes capability.requiredMode := by
  rw [Permitted, mode_after]
  refine or_congr_right ?_
  cases latest modeStream h with
  | none => simp [modeUnknown_notMem_permittedModes]
  | some mode =>
    rw [Option.getD_some, mem_permittedModes_iff]
    constructor
    · rintro ⟨mode', name, hmode, hname⟩
      rw [Option.some.inj hmode]
      exact ⟨name, hname⟩
    · rintro ⟨name, hname⟩
      exact ⟨mode, name, rfl, hname⟩

/-- What is advertised is permitted. -/
def AdvertisesPermitted (h : List Input) (capabilities : List CapabilityMsg) : Prop :=
  ∀ capability ∈ capabilities, capability.state ∈ advertisedStates → Permitted h capability

/-- What the node publishes and answers to the input `i` after the history `h` advertises nothing
that the mode forbids, and an answer lists what was asked for. -/
structure AnswersSoundly (params : Params) (startedAt : Time) (h : List Input) (i : Input) : Prop where
  registry : ∀ msg, Publication.registry msg ∈
    (machine params startedAt).out ((machine params startedAt).after h) i →
      AdvertisesPermitted h msg.capabilities
  response : ∀ response, Publication.response response ∈
    (machine params startedAt).out ((machine params startedAt).after h) i →
      AdvertisesPermitted h response.capabilities
  lists : ∀ request response, i.event = .listCapabilities request →
    Publication.response response ∈
      (machine params startedAt).out ((machine params startedAt).after h) i →
        Lists ((latest modeStream h).getD ModeState.modeUnknown)
          ((latest safetyStream h).getD SafetyState.stateUnknown)
          ((latest locomotionStream h).getD LocomotionState.stateUnknown) request response

/-- **The registry is sound along a run**: its first publication, and everything it publishes and
answers. -/
def RegistrySound (params : Params) (startedAt : Time) (h : List Input) : Prop :=
  (∀ msg, Publication.registry msg ∈ (init params startedAt).2 →
    AdvertisesPermitted [] msg.capabilities) ∧
  ∀ pre i, pre ++ [i] <+: h → AnswersSoundly params startedAt pre i

/-- The callbacks that show standing: a publication, and a request for it or for everything. -/
def Event.ShowsStand : Event → Prop
  | .publish => True
  | .listCapabilities request => request.names = [] ∨ stand.name ∈ request.names
  | _ => False

/-- Of what the node holds, only standing is ever advertised against its `required_mode`. -/
theorem permitted_of_advertised (params : Params) (startedAt : Time) (h : List Input)
    {capability : CapabilityMsg}
    (hmem : capability ∈ ((machine params startedAt).after h).capabilities)
    (hadvertised : capability.state ∈ advertisedStates) :
    Permitted h capability ∨ capability.name = stand.name ∧
      StandsUnlisted ((machine params startedAt).after h).mode
        ((machine params startedAt).after h).safety := by
  obtain ⟨spec, hspec, rfl⟩ := mem_capabilities_iff.mp hmem
  rcases advertised_permitted hspec hadvertised with hany | hlisted | ⟨rfl, hunlisted⟩
  · exact Or.inl (Or.inl hany)
  · exact Or.inl ((permitted_iff params startedAt).mpr (Or.inr hlisted))
  · exact Or.inr ⟨rfl, hunlisted⟩

/-- Standing, where it is shown in a mode that no test names, is not permitted. -/
theorem not_advertisesPermitted {params : Params} {startedAt : Time} {h : List Input}
    {capabilities : List CapabilityMsg}
    (hunlisted : StandsUnlisted ((machine params startedAt).after h).mode
      ((machine params startedAt).after h).safety)
    (hstand : buildCapability stand ((machine params startedAt).after h).mode
      ((machine params startedAt).after h).safety
      ((machine params startedAt).after h).locomotion ∈ capabilities) :
    ¬AdvertisesPermitted h capabilities := by
  obtain ⟨hadvertised, hforbidden⟩ := standsUnlisted_iff.mp hunlisted
  have hnotAny : stand.requiredMode ≠ "any" := by decide
  intro hpermitted
  rcases (permitted_iff params startedAt).mp (hpermitted _ hstand hadvertised) with hany | hlisted
  · exact absurd hany hnotAny
  · exact hforbidden hlisted

/-- Standing is listed if it is asked for. -/
theorem stand_mem_onListCapabilities {s : State} {request : ListCapabilitiesRequest}
    (hasked : request.names = [] ∨ stand.name ∈ request.names) :
    buildCapability stand s.mode s.safety s.locomotion ∈
      (onListCapabilities s request).capabilities := by
  obtain ⟨hnames, -, hcurrent⟩ := onListCapabilities_lists s request
  have hknown : stand.name ∈ capabilityNames := by decide
  have hlisted : stand.name ∈ (onListCapabilities s request).capabilities.map
      (fun capability => capability.name) := by
    rw [hnames]
    split
    · exact hknown
    · next hsome => exact List.mem_filter.mpr ⟨hasked.resolve_left hsome, decide_eq_true hknown⟩
  obtain ⟨capability, hmem, hname⟩ := List.mem_map.mp hlisted
  obtain ⟨spec, hspec, rfl⟩ := hcurrent capability hmem
  -- no other specification has the name
  have hunique : ∀ spec ∈ defaultCapabilities, spec.name = stand.name → spec = stand := by decide
  obtain rfl := hunique spec hspec hname
  exact hmem

/-- Standing is asked for if it is listed. -/
theorem showsStand_of_mem {s : State} {request : ListCapabilitiesRequest} {capability : CapabilityMsg}
    (hmem : capability ∈ (onListCapabilities s request).capabilities)
    (hname : capability.name = stand.name) : request.names = [] ∨ stand.name ∈ request.names := by
  have hlisted : stand.name ∈ (onListCapabilities s request).capabilities.map
      (fun capability => capability.name) := List.mem_map.mpr ⟨capability, hmem, hname⟩
  rw [(onListCapabilities_lists s request).names] at hlisted
  split at hlisted
  · next hall => exact Or.inl hall
  · exact Or.inr (List.mem_filter.mp hlisted).1

/-- One callback answers soundly, unless it shows standing in a mode that no test names. -/
theorem answersSoundly_of_not_standsUnlisted {params : Params} {startedAt : Time} {h : List Input}
    {i : Input} (hstand : i.event.ShowsStand →
      ¬StandsUnlisted ((machine params startedAt).after h).mode
        ((machine params startedAt).after h).safety) :
    AnswersSoundly params startedAt h i := by
  obtain ⟨now, event⟩ := i
  cases event with
  | publish =>
    refine ⟨?_, ?_, ?_⟩
    · intro msg hmsg capability hmem hadvertised
      obtain rfl := Publication.registry.inj (List.mem_singleton.mp hmsg)
      rcases permitted_of_advertised _ _ _ hmem hadvertised with hpermitted | ⟨-, hunlisted⟩
      · exact hpermitted
      · exact absurd hunlisted (hstand trivial)
    · intro response hmem
      exact nomatch List.mem_singleton.mp hmem
    · intro request response hevent
      cases hevent
  | listCapabilities request =>
    refine ⟨?_, ?_, ?_⟩
    · intro msg hmem
      exact nomatch List.mem_singleton.mp hmem
    · intro response hmsg capability hmem hadvertised
      obtain rfl := Publication.response.inj (List.mem_singleton.mp hmsg)
      have hheld : capability ∈ ((machine params startedAt).after h).capabilities :=
        mem_capabilities_iff.mpr ((onListCapabilities_lists _ request).current capability hmem)
      rcases permitted_of_advertised _ _ _ hheld hadvertised with hpermitted | ⟨hname, hunlisted⟩
      · exact hpermitted
      · exact absurd hunlisted (hstand (showsStand_of_mem hmem hname))
    · intro request' response hevent hmsg
      obtain rfl := Publication.response.inj (List.mem_singleton.mp hmsg)
      obtain rfl := Event.listCapabilities.inj hevent
      rw [← mode_after params startedAt, ← safety_after params startedAt,
        ← locomotion_after params startedAt]
      exact onListCapabilities_lists _ request
  | modeState msg => exact ⟨nofun, nofun, nofun⟩
  | safetyState msg => exact ⟨nofun, nofun, nofun⟩
  | locomotionState msg => exact ⟨nofun, nofun, nofun⟩
  | setParameters params => exact ⟨nofun, nofun, nofun⟩

/-- **The registry is sound exactly along the runs in which standing is never shown in a mode that
its `required_mode` does not list and no test names**, that is while the mode is `FAULT`, without a
name or not received yet, and the safety state blocks nothing. -/
theorem registrySound_iff (params : Params) (startedAt : Time) (h : List Input) :
    RegistrySound params startedAt h ↔
      ∀ pre i, pre ++ [i] <+: h → i.event.ShowsStand →
        ¬StandsUnlisted ((machine params startedAt).after pre).mode
          ((machine params startedAt).after pre).safety := by
  constructor
  · rintro ⟨-, hsound⟩ pre ⟨now, event⟩ hpre hshows hunlisted
    obtain ⟨hregistry, hresponse, -⟩ := hsound pre ⟨now, event⟩ hpre
    cases event with
    | publish =>
      refine not_advertisesPermitted hunlisted ?_ (hregistry _ (List.mem_singleton_self _))
      exact mem_capabilities_iff.mpr ⟨stand, List.mem_cons_self, rfl⟩
    | listCapabilities request =>
      exact not_advertisesPermitted hunlisted (stand_mem_onListCapabilities hshows)
        (hresponse _ (List.mem_singleton_self _))
    | modeState msg => exact hshows.elim
    | safetyState msg => exact hshows.elim
    | locomotionState msg => exact hshows.elim
    | setParameters params => exact hshows.elim
  · intro hrun
    refine ⟨?_, fun pre i hpre => answersSoundly_of_not_standsUnlisted (hrun pre i hpre)⟩
    intro msg hmsg capability hmem hadvertised
    obtain rfl := Publication.registry.inj (List.mem_singleton.mp hmsg)
    -- the first publication comes before any safety state
    rcases permitted_of_advertised params startedAt [] hmem hadvertised with
      hpermitted | ⟨-, -, hsafety⟩
    · exact hpermitted
    · exact absurd List.mem_cons_self hsafety

/-- The mode goes to `FAULT` while the safety state is `OK`. -/
def healthyFault : List Input :=
  [⟨1, .safetyState { state := SafetyState.stateOk }⟩,
    ⟨2, .modeState { activeMode := ModeState.modeFault }⟩]

/-- In `FAULT` the robot is said to stand idle. -/
theorem not_registrySound : ¬RegistrySound {} 0 (healthyFault ++ [⟨3, .publish⟩]) := by
  rintro ⟨-, hsound⟩
  have hunlisted : StandsUnlisted ((machine {} 0).after healthyFault).mode
      ((machine {} 0).after healthyFault).safety := by decide
  obtain ⟨hregistry, -, -⟩ := hsound healthyFault ⟨3, .publish⟩ List.prefix_rfl
  refine not_advertisesPermitted hunlisted ?_ (hregistry _ (List.mem_singleton_self _))
  exact mem_capabilities_iff.mpr ⟨stand, List.mem_cons_self, rfl⟩

end HumaWare.CapabilityRegistry
