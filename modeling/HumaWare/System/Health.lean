import HumaWare.System.Watching

/-! # What stands behind a good report

`HEALTH_OK` is made of what the diagnostics aggregator holds, and that is old: it waited on a link, and
then in the sample. Where only the safety manager speaks on `safety/state`, the report can still be
traced back. The ladder of the aggregator lets the safety state `UNKNOWN` pass, but the safety manager
never publishes it, so what the report rests on is an `OK` that the safety manager gave.

* **`exists_safetyState_sent`** — the safety state that a fresh sample holds was published lately;
* **`health_ok_backed`** — behind `HEALTH_OK` stands a recent publication of every required topic, and
  a recent state of the safety manager in which nothing was wrong. -/

namespace HumaWare.System

open Reactive
open SafetyManager (safetyMsg)
open DiagnosticsAggregator (Fresh received)

/-- The safety manager publishes a safety state that some rung of the ladder rejects, or `OK`. -/
theorem safetyMsg_state_cases (s : SafetyManager.State) (now : Time) :
    (safetyMsg s now).state ∈ [SafetyState.stateWarn, SafetyState.stateFault, SafetyState.stateEstop,
        SafetyState.stateMrm] ∨
      (safetyMsg s now).state = SafetyState.stateOk ∧ s.params.estopEngaged = false ∧
        SafetyManager.mrmActive s now = false ∧ ∀ w, ¬s.Fires now w := by
  obtain ⟨hestop, hmrm, hwarn, hok⟩ := SafetyManager.safetyMsg_state_iff s now
  by_cases hstopped : s.params.estopEngaged = true
  · rw [hestop.mpr hstopped]
    exact Or.inl (by decide)
  by_cases hactive : SafetyManager.mrmActive s now = true
  · rw [hmrm.mpr ⟨hstopped, hactive⟩]
    exact Or.inl (by decide)
  by_cases hfires : ∃ w, s.Fires now w
  · rw [hwarn.mpr ⟨hstopped, hactive, hfires⟩]
    exact Or.inl (by decide)
  · exact Or.inr ⟨hok.mpr ⟨hstopped, hactive, hfires⟩, Bool.eq_false_iff.mpr hstopped,
      Bool.eq_false_iff.mpr hactive, not_exists.mp hfires⟩

section Traced

variable {setup : Setup} {members : NodeId → Bool} {opens : Topic → Bool} {h : List Action}

/-- A message that the aggregator received was handed over by one of the callbacks fired. -/
theorem mem_events_of_received {x : DiagnosticsAggregator.Input} {msg : DiagnosticsAggregator.Message}
    (hx : x ∈ ((network setup members opens).events h).filterMap diagnosticsAggregatorInput)
    (hevent : x.event = .received msg) :
    (⟨x.now, .diagnosticsAggregator (.received msg)⟩ : Stamped Time Event) ∈
      (network setup members opens).events h := by
  obtain ⟨⟨now, event⟩, hmem, hinput⟩ := List.mem_filterMap.mp hx
  cases event with
  | diagnosticsAggregator e =>
    obtain rfl := Option.some.inj hinput
    obtain rfl : e = .received msg := hevent
    exact hmem
  | runtime e | capabilityRegistry e | mockRobot e | keyboardTeleop e | policyProviderStub e
  | policyProviderScripted e => cases hinput

/-- **The safety state of a fresh sample** was published by the safety manager, no longer ago than the
timeout and the delay of the link together. -/
theorem exists_safetyState_sent (hclosed : opens (.runtime .safetyState) = false) {D timeout : Duration}
    (harrives : (network setup members opens).ArrivesWithin .diagnosticsAggregator
      (.runtime .safetyState) D h) {now : Time} {safety : SafetyState}
    (hfresh : Fresh (((network setup members opens).events h).filterMap diagnosticsAggregatorInput) now
      timeout "safety/state")
    (hlast : latest (received DiagnosticsAggregator.Message.safetyState?)
      (((network setup members opens).events h).filterMap diagnosticsAggregatorInput) = some safety) :
    ∃ pre a post, h = pre ++ a :: post ∧ now ≤ a.now + D + timeout ∧
      .runtime (.safetyManager (.safetyState safety)) ∈ stepOutputs setup members opens
        ((network setup members opens).machine.after pre) a := by
  obtain ⟨x, hx, hmsg, hage⟩ := DiagnosticsAggregator.received_of_fresh
    DiagnosticsAggregator.isSome_safetyState?_iff hfresh hlast
  have hevent : x.event = .received (.safetyState safety) := by
    obtain ⟨at', event⟩ := x
    cases event with
    | received msg =>
      cases msg <;> simp only [received, DiagnosticsAggregator.Message.safetyState?, Option.some.injEq,
        reduceCtorEq] at hmsg
      rw [hmsg]
    | publish => cases hmsg
    | setParameters params => cases hmsg
  -- the sample came on the link, and was put there by the safety manager
  obtain ⟨pre, a, post, hsplit, hemitted, hsent⟩ := (callbacks setup members opens).exists_sent
    (mem_events_of_received hx hevent) (m := .runtime (.safetyState safety)) rfl harrives
  obtain ⟨_, hmsg', hpub⟩ := output_of_safetyState hclosed hemitted rfl
  cases hmsg'
  have hsent' : x.now ≤ a.now + D := hsent
  exact ⟨pre, a, post, hsplit, by linarith, hpub⟩

end Traced

/-- **A good report is backed.** Let only the safety manager speak on `safety/state`, and let the links
to the diagnostics aggregator hand over nothing older than `D`. If a health message is `HEALTH_OK`,
every required topic was published within the stale timeout and `D`; the safety state that it shows is
`OK`; and within that time the safety manager published `OK`, with the emergency stop released, no MRM
active and every watchdog quiet, and with no fault and no warning. -/
theorem health_ok_backed (setup : Setup) (members : NodeId → Bool) (opens : Topic → Bool) (D : Duration)
    (h : List Action) (i : Action) (hclosed : opens (.runtime .safetyState) = false)
    (harrives : ∀ t, (network setup members opens).ArrivesWithin .diagnosticsAggregator t D h)
    (health : HealthState) (hpub : .diagnosticsAggregator (.health health) ∈
      stepOutputs setup members opens ((network setup members opens).machine.after h) i)
    (hok : health.state = HealthState.healthOk) :
    let timeout := ((network setup members opens).machine.after
      h).nodes.diagnosticsAggregator.params.staleTimeout
    (∀ name t, (name, t) ∈ sampleTopics →
      name ∈ ((network setup members opens).machine.after
        h).nodes.diagnosticsAggregator.params.requiredTopics →
      ∃ pre a post, h = pre ++ a :: post ∧ (network setup members opens).Emits t pre a ∧
        i.now ≤ a.now + D + timeout) ∧
    health.safetyState = SafetyState.stateOk ∧
    ∃ pre a post, h = pre ++ a :: post ∧ i.now ≤ a.now + D + timeout ∧
      let s := ((network setup members opens).machine.after (pre ++ [a])).nodes.runtime.safetyManager
      .runtime (.safetyManager (.safetyState (safetyMsg s a.now))) ∈ stepOutputs setup members opens
        ((network setup members opens).machine.after pre) a ∧
      (safetyMsg s a.now).state = SafetyState.stateOk ∧ s.params.estopEngaged = false ∧
      SafetyManager.mrmActive s a.now = false ∧ (∀ w, ¬s.Fires a.now w) ∧
      (safetyMsg s a.now).activeFaults = [] ∧
      (safetyMsg s a.now).activeWarnings = [] := by
  intro timeout
  obtain rfl := publishedHealth_of_output hpub
  obtain ⟨hfresh, safety, hlast, hstate, -, hfaults, hwarnings⟩ :=
    DiagnosticsAggregator.health_ok_iff.mp hok
  rw [DiagnosticsAggregator.AllFresh, ← DiagnosticsAggregator.params_after,
    ← diagnosticsAggregator_after setup members opens] at hfresh
  constructor
  · intro name t hname hrequired
    obtain ⟨receivedAt, harrived, hage⟩ := hfresh name hrequired
    rw [arrivals_eq setup members opens hname] at harrived
    obtain ⟨pre, a, post, hsplit, hemits, hsent⟩ :=
      (callbacks setup members opens).exists_emission_of_heardAt (harrives t) harrived
    exact ⟨pre, a, post, hsplit, hemits, by linarith⟩
  · have hsafety := hfresh "safety/state" (DiagnosticsAggregator.baseRequiredTopics_subset _ (by decide))
    obtain ⟨pre, a, post, rfl, hage, hpub'⟩ := exists_safetyState_sent hclosed (harrives _) hsafety hlast
    obtain ⟨rfl, -⟩ := published_safetyState hpub'
    -- the ladder rejects what the safety manager publishes unless nothing is wrong
    obtain ⟨hsafe, hestop, hmrm, hquiet⟩ := (safetyMsg_state_cases _ a.now).resolve_left hstate
    refine ⟨?_, pre, a, post, rfl, hage, hpub', hsafe, hestop, hmrm, hquiet, hfaults, hwarnings⟩
    rw [DiagnosticsAggregator.publishedHealth_safetyState hlast]
    exact hsafe

/-! ### A robot that stands -/

/-- Every node that reports to the aggregator does, once, and is heard. -/
def healthyRun : List Action :=
  [⟨0, .act (.runtime (.modeManager .publishState))⟩,
    ⟨1, .act (.runtime (.safetyManager .publishState))⟩,
    ⟨2, .act (.runtime (.commandArbiter .tick))⟩,
    ⟨3, .act (.runtime (.locomotionAdapter .tick))⟩,
    ⟨4, .deliver .diagnosticsAggregator (.runtime .modeState) 0⟩,
    ⟨4, .deliver .diagnosticsAggregator (.runtime .safetyState) 0⟩,
    ⟨4, .deliver .diagnosticsAggregator (.runtime .mrmState) 0⟩,
    ⟨4, .deliver .diagnosticsAggregator (.runtime .arbitrationState) 0⟩,
    ⟨4, .deliver .diagnosticsAggregator (.runtime .locomotionState) 0⟩]

/-- The health message that the aggregator then publishes. -/
def healthyReport : HealthState :=
  DiagnosticsAggregator.publishedHealth {} (((network {} (fun _ => true) fun _ => false).events
    healthyRun).filterMap diagnosticsAggregatorInput) 5

/-- The report of the standing robot is good, and rests on the safety state published before. -/
theorem health_ok_backed_standing :
    healthyReport.safetyState = SafetyState.stateOk ∧
    ∃ pre a post, healthyRun = pre ++ a :: post ∧ (5 : Time) ≤ a.now + 4 + 1500000000 ∧
      let s := ((network {} (fun _ => true) fun _ => false).machine.after
        (pre ++ [a])).nodes.runtime.safetyManager
      .runtime (.safetyManager (.safetyState (safetyMsg s a.now))) ∈ stepOutputs {} (fun _ => true)
        (fun _ => false) ((network {} (fun _ => true) fun _ => false).machine.after pre) a ∧
      (safetyMsg s a.now).state = SafetyState.stateOk ∧ s.params.estopEngaged = false ∧
      SafetyManager.mrmActive s a.now = false ∧ (∀ w, ¬s.Fires a.now w) ∧
      (safetyMsg s a.now).activeFaults = [] ∧ (safetyMsg s a.now).activeWarnings = [] := by
  have hspan : ∀ a ∈ healthyRun, ∀ b ∈ healthyRun, b.now ≤ a.now + 4 := by decide
  exact (health_ok_backed {} (fun _ => true) (fun _ => false) 4 healthyRun
    ⟨5, .act (.diagnosticsAggregator .publish)⟩ rfl (Network.arrivesWithin_of_span _ hspan _)
    healthyReport (by decide +kernel) (by decide +kernel)).2

end HumaWare.System
