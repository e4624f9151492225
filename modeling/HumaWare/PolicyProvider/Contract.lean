import HumaWare.PolicyProvider.Scripted
import HumaWare.PolicyProvider.Stub
import HumaWare.SkillServer.Node

/-! # One contract for every publisher of `policy/cmd_vel`

Three nodes publish policy candidates. The two providers check the candidate-action contract with a
list of the safety states that they accept; the skill server, with a list of those that it refuses,
and without asking whether a safety state was received at all.

* **`Unguarded`** — the requests between the two lists: nothing was received, or a state that is on
  neither;
* **`Publisher`** — one of the three nodes, after a run of its own and at its next step;
* **`candidate_contract_iff`** — the main result: the contract is kept at every step but the
  unguarded requests to the skill server;
* **`not_candidate_contract`** — a walk that the skill server publishes before its first safety
  state. -/

namespace HumaWare.PolicyProvider

open Python Reactive
open SkillServer (ExecuteSkillRequest capabilitiesStream modeStream safetyStream unsafeStates
  velocitySkills)

/-- Each command published that is not zero is published under the contract. -/
def KeepsContract (published : TwistStamped → Prop) (safety mode : Option UInt8) : Prop :=
  ∀ msg, published msg → msg.twist ≠ 0 → Contract safety mode

/-- **An unguarded request.** It asks one of the two velocity skills for a motion, and not for a dry
run; the capability is there and available, and the mode is `AI_POLICY`; and no safety state was
received yet, or the last one received has a value on neither list. -/
structure Unguarded (h : List SkillServer.Input) (request : ExecuteSkillRequest) : Prop where
  skill : request.capabilityName ∈ velocitySkills
  execute : request.dryRun = false
  moves : request.Moves
  capability : ∃ msg capability, latest capabilitiesStream h = some msg ∧
    (Dict.ofValues Capability.name msg).get? request.capabilityName = some capability ∧
    capability.state ∉ [Capability.stateUnknown, Capability.stateUnavailable, Capability.stateFault]
  mode : latest modeStream h = some ModeState.modeAiPolicy
  safety : ∀ state, latest safetyStream h = some state → state ∉ safeForPolicy ∧ state ∉ unsafeStates

section SkillServer

variable {params : SkillServer.Params} {startedAt : Time} {h : List SkillServer.Input}

/-- **When the skill server accepts a velocity skill**, of what it received last. -/
theorem decision_accepted_iff {request : ExecuteSkillRequest}
    (hskill : request.capabilityName ∈ velocitySkills) :
    (((SkillServer.machine params startedAt).after h).decision request).accepted = true ↔
      (∃ msg capability, latest capabilitiesStream h = some msg ∧
        (Dict.ofValues Capability.name msg).get? request.capabilityName = some capability ∧
        capability.state ∉
          [Capability.stateUnknown, Capability.stateUnavailable, Capability.stateFault]) ∧
      latest modeStream h = some ModeState.modeAiPolicy ∧
      ∀ state, latest safetyStream h = some state → state ∉ unsafeStates := by
  rw [SkillServer.State.decision, SkillServer.accepted_iff hskill, SkillServer.mode_after_iff,
    SkillServer.safety_after_notMem_iff]
  simp only [SkillServer.get?_capabilities_after_iff]
  constructor
  · rintro ⟨capability, ⟨msg, hmsg, hget⟩, hsafety, hmode, hstate⟩
    exact ⟨⟨msg, capability, hmsg, hget, hstate⟩, hmode, hsafety⟩
  · rintro ⟨⟨msg, capability, hmsg, hget, hstate⟩, hmode, hsafety⟩
    exact ⟨capability, ⟨msg, hmsg, hget⟩, hsafety, hmode, hstate⟩

/-- The contract holds where the skill server accepts a velocity skill, unless the safety state is
on neither list. -/
theorem contract_iff_of_accepted {request : ExecuteSkillRequest}
    (hskill : request.capabilityName ∈ velocitySkills)
    (haccepted : (((SkillServer.machine params startedAt).after h).decision request).accepted = true) :
    Contract (latest safetyStream h) (latest modeStream h) ↔
      ¬∀ state, latest safetyStream h = some state → state ∉ safeForPolicy ∧ state ∉ unsafeStates := by
  obtain ⟨-, hmode, hunsafe⟩ := (decision_accepted_iff hskill).mp haccepted
  constructor
  · rintro ⟨⟨state, hlatest, hsafe⟩, -⟩ hneither
    exact (hneither state hlatest).1 (List.mem_pair.mpr hsafe)
  · intro hneither
    obtain ⟨state, hstate⟩ := not_forall.mp hneither
    obtain ⟨hlatest, hlists⟩ := Classical.not_imp.mp hstate
    refine ⟨⟨state, hlatest, ?_⟩, hmode⟩
    by_contra hsafe
    exact hlists ⟨fun hmem => hsafe (List.mem_pair.mp hmem), hunsafe state hlatest⟩

/-- **The skill server keeps the contract at every request that is not unguarded**, and at no
other. -/
theorem keepsContract_executeSkill_iff {now : Time} {request : ExecuteSkillRequest}
    {executionId : String} :
    KeepsContract (fun msg => SkillServer.Publication.policyCmd msg ∈ (SkillServer.onExecuteSkill
        ((SkillServer.machine params startedAt).after h) now request executionId).2)
        (latest safetyStream h) (latest modeStream h) ↔ ¬Unguarded h request := by
  constructor
  · rintro hkeeps ⟨hskill, hexecute, hmoves, hcapability, hmode, hsafety⟩
    have haccepted : (((SkillServer.machine params startedAt).after h).decision request).accepted =
        true :=
      (decision_accepted_iff hskill).mpr ⟨hcapability, hmode, fun state hs => (hsafety state hs).2⟩
    obtain ⟨msg, hcommand, hne⟩ :=
      SkillServer.exists_command ((SkillServer.machine params startedAt).after h) now hskill
    have hcontract : Contract (latest safetyStream h) (latest modeStream h) :=
      hkeeps msg (SkillServer.policyCmd_mem_iff.mpr ⟨haccepted, hexecute, hcommand⟩) (hne.mpr hmoves)
    exact (contract_iff_of_accepted hskill haccepted).mp hcontract hsafety
  · intro hguarded msg hpub hne
    obtain ⟨haccepted, hexecute, hcommand⟩ := SkillServer.policyCmd_mem_iff.mp hpub
    have hskill : request.capabilityName ∈ velocitySkills := by
      by_contra hskill
      by_cases hstop : request.capabilityName = "stop"
      · exact hne (SkillServer.policyCmd_of_stop hstop hpub).2.2
      · -- any other name has no handler
        simp only [velocitySkills, List.mem_cons, List.not_mem_nil, or_false, not_or] at hskill
        rw [SkillServer.executeSupportedSkill, if_neg hstop, if_neg hskill.1,
          if_neg hskill.2] at hcommand
        cases hcommand
    obtain ⟨msg', hcommand', hmoves⟩ :=
      SkillServer.exists_command ((SkillServer.machine params startedAt).after h) now hskill
    obtain rfl : msg = msg' := Option.some.inj (hcommand.symm.trans hcommand')
    obtain ⟨hcapability, hmode, -⟩ := (decision_accepted_iff hskill).mp haccepted
    refine (contract_iff_of_accepted hskill haccepted).mpr fun hsafety => ?_
    exact hguarded ⟨hskill, hexecute, hmoves.mp hne, hcapability, hmode, hsafety⟩

end SkillServer

/-- A publisher of policy candidates: the node, a run of it, and its next step. -/
inductive Publisher
  | stub (params : Stub.Params) (h : List Stub.Input) (i : Stub.Input)
  | scripted (A : Arithmetic) (params : Scripted.Params) (plan : WaypointPlan)
      (publishRateHz : PyFloat) (h : List Scripted.Input) (i : Scripted.Input)
  | skillServer (params : SkillServer.Params) (startedAt : Time) (h : List SkillServer.Input)
      (i : SkillServer.Input)

namespace Publisher

/-- The step publishes the command on `policy/cmd_vel`. -/
def Publishes (msg : TwistStamped) : Publisher → Prop
  | .stub params h i => .policyCmd msg ∈ (Stub.machine params).out ((Stub.machine params).after h) i
  | .scripted A params plan publishRateHz h i =>
    .policyCmd msg ∈ (Scripted.machine A params plan publishRateHz).out
      ((Scripted.machine A params plan publishRateHz).after h) i
  | .skillServer params startedAt h i =>
    .policyCmd msg ∈ (SkillServer.machine params startedAt).out
      ((SkillServer.machine params startedAt).after h) i

/-- The safety state received last. -/
def safety : Publisher → Option UInt8
  | .stub _ h _ => latest Stub.safetyStream h
  | .scripted _ _ _ _ h _ => latest Scripted.safetyStream h
  | .skillServer _ _ h _ => latest safetyStream h

/-- The mode received last. -/
def mode : Publisher → Option UInt8
  | .stub _ h _ => latest Stub.modeStream h
  | .scripted _ _ _ _ h _ => latest Scripted.modeStream h
  | .skillServer _ _ h _ => latest modeStream h

/-- The step is an unguarded request to the skill server. -/
def IsUnguarded : Publisher → Prop
  | .stub _ _ _ => False
  | .scripted _ _ _ _ _ _ => False
  | .skillServer _ _ h i =>
    ∃ request executionId, i.event = .executeSkill request executionId ∧ Unguarded h request

end Publisher

/-- **The main result.** In every run of each of the three nodes, the next step publishes no command
but zero outside the contract, if and only if it is no unguarded request to the skill server. -/
theorem candidate_contract_iff (p : Publisher) :
    KeepsContract p.Publishes p.safety p.mode ↔ ¬p.IsUnguarded := by
  cases p with
  | stub params h i =>
    refine iff_of_true ?_ not_false
    intro msg hpub _
    exact Stub.contract_of_policyCmd hpub
  | scripted A params plan publishRateHz h i =>
    refine iff_of_true ?_ not_false
    intro msg hpub _
    exact Scripted.contract_of_policyCmd hpub
  | skillServer params startedAt h i =>
    obtain ⟨now, event⟩ := i
    constructor
    · rintro hkeeps ⟨request, executionId, hevent, hunguarded⟩
      obtain rfl : event = _ := hevent
      exact keepsContract_executeSkill_iff.mp hkeeps hunguarded
    · intro hguarded msg hpub hne
      obtain ⟨request, executionId, hevent⟩ := SkillServer.exists_request_of_policyCmd hpub
      obtain rfl : event = _ := hevent
      have hrequest : ¬Unguarded h request := by
        intro hunguarded
        exact hguarded ⟨request, executionId, rfl, hunguarded⟩
      exact keepsContract_executeSkill_iff.mpr hrequest msg hpub hne

/-- A run in which the skill server has heard the mode and a capability, and no safety state. -/
def noSafetyRun : List SkillServer.Input :=
  [⟨0, .modeState { activeMode := ModeState.modeAiPolicy }⟩,
    ⟨0, .capabilities [{ name := "walk_velocity", state := Capability.stateIdle }]⟩]

/-- A request to walk. -/
def walkRequest : ExecuteSkillRequest where
  capabilityName := "walk_velocity"
  velocityCommand := { twist := { linear := { x := .fin (1 / 4) } } }

/-- **The skill server publishes a motion before it received any safety state.** -/
theorem not_candidate_contract : ¬∀ p : Publisher, KeepsContract p.Publishes p.safety p.mode := by
  intro hall
  have hpub : (Publisher.skillServer {} 0 noSafetyRun ⟨0, .executeSkill walkRequest "0"⟩).Publishes
      { header := { frameId := "mock_001" }, twist := walkRequest.velocityCommand.twist } := by
    show _ ∈ _
    decide +kernel
  obtain ⟨⟨state, hlatest, -⟩, -⟩ :=
    hall (.skillServer {} 0 noSafetyRun ⟨0, .executeSkill walkRequest "0"⟩) _ hpub (by decide +kernel)
  exact nomatch hlatest

end HumaWare.PolicyProvider
