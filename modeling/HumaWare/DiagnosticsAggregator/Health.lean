import HumaWare.DiagnosticsAggregator.Samples

/-! # Health

What the health message of a publication says, after any history and at any clock reading.

* **`evaluateHealth_ok_iff`**, **`evaluateHealth_stale_iff`** — the two ends of the health ladder;
* **`health_ok_iff`** — when `HEALTH_OK` is published, in terms of the messages received;
* **`healthOkSound_iff`** — when `HEALTH_OK` can be trusted. -/

namespace HumaWare.DiagnosticsAggregator

open Python Reactive

/-! ## The ladder -/

section Ladder

variable {safetyState locomotionState : UInt8} {activeFaults activeWarnings staleTopics : List String}

/-- The first rung: the stale topics alone decide. -/
theorem evaluateHealth_stale_iff :
    (evaluateHealth safetyState locomotionState activeFaults activeWarnings staleTopics).1 =
      HealthState.healthStale ↔ staleTopics ≠ [] := by
  unfold evaluateHealth
  grind

/-- **The last rung**: what every rung above it lets pass. -/
theorem evaluateHealth_ok_iff :
    (evaluateHealth safetyState locomotionState activeFaults activeWarnings staleTopics).1 =
      HealthState.healthOk ↔
      staleTopics = [] ∧
        safetyState ∉ [SafetyState.stateWarn, SafetyState.stateFault, SafetyState.stateEstop,
          SafetyState.stateMrm] ∧
        locomotionState ≠ LocomotionState.stateFault ∧ activeFaults = [] ∧ activeWarnings = [] := by
  unfold evaluateHealth
  grind

/-- The ladder gives one of four values. -/
theorem evaluateHealth_mem :
    (evaluateHealth safetyState locomotionState activeFaults activeWarnings staleTopics).1 ∈
      [HealthState.healthOk, HealthState.healthWarn, HealthState.healthError,
        HealthState.healthStale] := by
  unfold evaluateHealth
  grind

end Ladder

/-- **The level of a health value** is `STALE` for the values that no other branch names. -/
theorem diagnosticLevel_stale_iff {healthState : UInt8} :
    diagnosticLevel healthState = DiagnosticStatus.stale ↔
      healthState ∉ [HealthState.healthOk, HealthState.healthWarn, HealthState.healthError] := by
  unfold diagnosticLevel
  grind

/-! ## What is published -/

variable {params : Params} {h : List Input} {now : Time}

/-- What the timer publishes at the reading `now` after the history `h`. -/
def published (params : Params) (h : List Input) (now : Time) : List Publication :=
  (machine params).out ((machine params).after h) ⟨now, .publish⟩

/-- The health message of the publication. -/
def publishedHealth (params : Params) (h : List Input) (now : Time) : HealthState :=
  let s := (machine params).after h
  buildHealth s now (s.staleTopics now)

/-- The diagnostics of the publication. -/
def publishedDiagnostics (params : Params) (h : List Input) (now : Time) : DiagnosticArray :=
  let s := (machine params).after h
  buildDiagnostics s now (publishedHealth params h now) (s.staleTopics now)

/-- A publication is a health message and its diagnostics. -/
theorem published_eq (params : Params) (h : List Input) (now : Time) :
    published params h now =
      [.health (publishedHealth params h now), .diagnostics (publishedDiagnostics params h now)] :=
  rfl

/-- It has one health message. -/
theorem health_mem_published {msg : HealthState} :
    Publication.health msg ∈ published params h now ↔ msg = publishedHealth params h now := by
  simp [published_eq]

/-- It has one array of diagnostics. -/
theorem diagnostics_mem_published {array : DiagnosticArray} :
    Publication.diagnostics array ∈ published params h now ↔
      array = publishedDiagnostics params h now := by
  simp [published_eq]

/-- The required topics are all fresh at the reading `now`. -/
def AllFresh (params : Params) (h : List Input) (now : Time) : Prop :=
  ∀ topic ∈ (paramsAfter params h).requiredTopics,
    Fresh h now (paramsAfter params h).staleTimeout topic

/-- No topic is stale if all that are required are fresh. -/
theorem staleTopics_eq_nil_iff :
    ((machine params).after h).staleTopics now = [] ↔ AllFresh params h now := by
  rw [staleTopics_after, List.filter_eq_nil_iff]
  simp [AllFresh]

/-- A health message shows the safety state received last. -/
theorem publishedHealth_safetyState {safety : SafetyState}
    (hlast : latest (received Message.safetyState?) h = some safety) :
    (publishedHealth params h now).safetyState = safety.state := by
  have hsafety := message_after params h isSome_safetyState?_iff
  simp only [publishedHealth, buildHealth, hsafety, hlast]
  rfl

/-! ## `HEALTH_OK` -/

/-- **When `HEALTH_OK` is published.** The ladder names the safety states that it rejects. -/
theorem health_ok_iff :
    (publishedHealth params h now).state = HealthState.healthOk ↔
      AllFresh params h now ∧ ∃ safety, latest (received Message.safetyState?) h = some safety ∧
        safety.state ∉ [SafetyState.stateWarn, SafetyState.stateFault, SafetyState.stateEstop,
          SafetyState.stateMrm] ∧
        (∀ locomotion, latest (received Message.locomotionState?) h = some locomotion →
          locomotion.state ≠ LocomotionState.stateFault) ∧
        safety.activeFaults = [] ∧ safety.activeWarnings = [] := by
  have hsafety := message_after params h isSome_safetyState?_iff
  have hlocomotion := message_after params h isSome_locomotionState?_iff
  simp only [publishedHealth, buildHealth, hsafety, hlocomotion]
  rw [evaluateHealth_ok_iff, staleTopics_eq_nil_iff]
  refine and_congr_right fun hfresh => ?_
  -- both topics are required, so both were received
  have hbase := baseRequiredTopics_subset (paramsAfter params h)
  obtain ⟨safety, hsome⟩ := exists_received_of_fresh isSome_safetyState?_iff
    (hfresh "safety/state" (hbase (by decide)))
  obtain ⟨locomotion, hsome'⟩ := exists_received_of_fresh isSome_locomotionState?_iff
    (hfresh "locomotion/state" (hbase (by decide)))
  rw [hsome, hsome']
  simp

/-- **`HEALTH_OK` is sound** in the publication at `now` after `h`: it says that the required topics
are fresh, safety is `OK` without faults and warnings, and locomotion is not in fault. -/
def HealthOkSound (params : Params) (h : List Input) (now : Time) : Prop :=
  ∀ msg, Publication.health msg ∈ published params h now → msg.state = HealthState.healthOk →
    AllFresh params h now ∧ ∃ safety, latest (received Message.safetyState?) h = some safety ∧
      safety.state = SafetyState.stateOk ∧
      (∀ locomotion, latest (received Message.locomotionState?) h = some locomotion →
        locomotion.state ≠ LocomotionState.stateFault) ∧
      safety.activeFaults = [] ∧ safety.activeWarnings = []

/-- The safety states that have a name other than `UNKNOWN`. -/
def namedSafetyStates : List UInt8 :=
  [SafetyState.stateOk, SafetyState.stateWarn, SafetyState.stateFault, SafetyState.stateEstop,
    SafetyState.stateMrm]

/-- The ladder knows what to say: some required topic is stale, or the last safety state has a name
or comes with a fault or a warning, or locomotion is in fault. -/
def LadderDecides (params : Params) (h : List Input) (now : Time) : Prop :=
  ¬AllFresh params h now ∨
    (∃ safety, latest (received Message.safetyState?) h = some safety ∧
      (safety.state ∈ namedSafetyStates ∨ safety.activeFaults ≠ [] ∨ safety.activeWarnings ≠ [])) ∨
    ∃ locomotion, latest (received Message.locomotionState?) h = some locomotion ∧
      locomotion.state = LocomotionState.stateFault

/-- A safety state with a name that no rung rejects is `OK`. -/
theorem eq_stateOk_iff {safetyState : UInt8} :
    safetyState = SafetyState.stateOk ↔ safetyState ∈ namedSafetyStates ∧
      safetyState ∉ [SafetyState.stateWarn, SafetyState.stateFault, SafetyState.stateEstop,
        SafetyState.stateMrm] := by
  unfold namedSafetyStates
  grind

/-- **`HEALTH_OK` is sound exactly if the ladder decides**: a safety state without a name falls
through to the last rung. -/
theorem healthOkSound_iff (params : Params) (h : List Input) (now : Time) :
    HealthOkSound params h now ↔ LadderDecides params h now := by
  constructor
  · intro hsound
    by_contra hdecides
    obtain ⟨hfresh, hsafety, hlocomotion⟩ := not_or.mp hdecides |>.imp_right not_or.mp
    have hfresh : AllFresh params h now := not_not.mp hfresh
    have hbase := baseRequiredTopics_subset (paramsAfter params h)
    obtain ⟨safety, hsome⟩ := exists_received_of_fresh isSome_safetyState?_iff
      (hfresh "safety/state" (hbase (by decide)))
    -- nothing above the last rung rejects the safety message
    have hclear : ¬(safety.state ∈ namedSafetyStates ∨ safety.activeFaults ≠ [] ∨
        safety.activeWarnings ≠ []) := fun hsaid => hsafety ⟨safety, hsome, hsaid⟩
    obtain ⟨hstate, hfaults, hwarnings⟩ := not_or.mp hclear |>.imp_right not_or.mp
    have hrejected : safety.state ∉ [SafetyState.stateWarn, SafetyState.stateFault,
        SafetyState.stateEstop, SafetyState.stateMrm] :=
      fun hmem => hstate (List.mem_cons_of_mem _ hmem)
    have hok : (publishedHealth params h now).state = HealthState.healthOk :=
      health_ok_iff.mpr ⟨hfresh, safety, hsome, hrejected,
        fun locomotion hlast hfault => hlocomotion ⟨locomotion, hlast, hfault⟩,
        not_not.mp hfaults, not_not.mp hwarnings⟩
    -- so it would have to be `OK`, which has a name
    obtain ⟨-, safety', hsome', hsafe, -⟩ := hsound _ (health_mem_published.mpr rfl) hok
    obtain rfl : safety = safety' := Option.some.inj (hsome.symm.trans hsome')
    exact hstate (eq_stateOk_iff.mp hsafe).1
  · rintro hdecides msg hmsg hok
    obtain rfl := health_mem_published.mp hmsg
    obtain ⟨hfresh, safety, hsome, hrejected, hlocomotion, hfaults, hwarnings⟩ :=
      health_ok_iff.mp hok
    refine ⟨hfresh, safety, hsome, ?_, hlocomotion, hfaults, hwarnings⟩
    rcases hdecides with hstale | ⟨safety', hsome', hsaid⟩ | ⟨locomotion, hlast, hfault⟩
    · exact absurd hfresh hstale
    · obtain rfl : safety = safety' := Option.some.inj (hsome.symm.trans hsome')
      rcases hsaid with hnamed | hfault | hwarning
      · exact eq_stateOk_iff.mpr ⟨hnamed, hrejected⟩
      · exact absurd hfaults hfault
      · exact absurd hwarnings hwarning
    · exact absurd hfault (hlocomotion locomotion hlast)

/-- Every required topic is received at the start, and the safety state is `UNKNOWN`. -/
def unknownSafety : List Input :=
  [⟨0, .received (.modeState { activeMode := ModeState.modeAutonomy })⟩,
    ⟨0, .received (.safetyState { state := SafetyState.stateUnknown })⟩,
    ⟨0, .received (.mrmState {})⟩,
    ⟨0, .received (.locomotionState { state := LocomotionState.stateStanding })⟩,
    ⟨0, .received (.commandArbitrationState {})⟩]

/-- A safety state `UNKNOWN` passes for healthy. -/
theorem not_healthOkSound : ¬HealthOkSound {} unknownSafety 1 := by
  intro hsound
  have hok : (publishedHealth {} unknownSafety 1).state = HealthState.healthOk := by decide
  obtain ⟨-, safety, hlast, hsafe, -⟩ := hsound _ List.mem_cons_self hok
  have hunknown : latest (received Message.safetyState?) unknownSafety =
      some { state := SafetyState.stateUnknown } := rfl
  obtain rfl : ({ state := SafetyState.stateUnknown } : SafetyState) = safety :=
    Option.some.inj (hunknown.symm.trans hlast)
  exact absurd hsafe (by decide)

end HumaWare.DiagnosticsAggregator
