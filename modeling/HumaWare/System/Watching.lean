import HumaWare.DiagnosticsAggregator.Health
import HumaWare.Reactive.Cadence
import HumaWare.SafetyManager.Findings
import HumaWare.System.Lockdown

/-! # Watching the publishers

Two nodes watch others by the clock: the safety manager has a watchdog on three topics, and the
diagnostics aggregator notes the age of eight. Both note when a message came, and compare.

* **`lastSeen_after`**, **`arrivals_eq`** — what they note is when the link handed over its last
  packet;
* **`live_publisher_unreported`** — a topic that is published at least every `P` and delivered within
  `D` is reported by no one whose timeout is `P + D` or more;
* **`silent_publisher_reported`** — once a topic is no longer published, everyone who watches it
  reports it from the timeout and the delay on, and the reports are not benign. -/

namespace HumaWare.System

open Reactive
open SafetyManager (Watchdog watchdogs safetyMsg mrmMsg)

/-- The topic that a watchdog listens to. -/
def watched : Watchdog → Topic
  | .teleopHeartbeat => .runtime .teleopHeartbeat
  | .hardwareHeartbeat => .runtime .hardwareHeartbeat
  | .approvedCommand => .runtime .approvedCmd

/-- The topics that the aggregator notes, with the names of their samples. -/
def sampleTopics : List (String × Topic) :=
  [("mode/state", .runtime .modeState), ("mode/transition_state", .modeTransitionState),
    ("safety/state", .runtime .safetyState), ("safety/mrm_state", .runtime .mrmState),
    ("locomotion/state", .runtime .locomotionState),
    ("runtime/command_arbitration_state", .runtime .arbitrationState),
    ("navigation/nav2_bridge_state", .navigationBridgeState),
    ("teleop/heartbeat", .runtime .teleopHeartbeat)]

/-- A message comes on the topic of its sample. -/
theorem topic_ofSample_iff {name : String} {t : Topic} (hname : (name, t) ∈ sampleTopics)
    (msg : DiagnosticsAggregator.Message) : (ofSample msg).topic = t ↔ msg.topic = name := by
  have hunique : ∀ entry ∈ sampleTopics, ∀ entry' ∈ sampleTopics,
      (entry.2 = entry'.2 ↔ entry.1 = entry'.1) := by
    decide
  have hmsg : (msg.topic, (ofSample msg).topic) ∈ sampleTopics := by
    cases msg <;> simp [sampleTopics, ofSample, DiagnosticsAggregator.Message.topic, Message.topic,
      Runtime.Message.topic]
  exact hunique _ hmsg _ hname

/-! ## What is noted -/

section Noted

variable (setup : Setup) (members : NodeId → Bool) (opens : Topic → Bool)

/-- **The safety manager notes of a watched party** when its link handed over its last message. -/
theorem lastSeen_after (w : Watchdog) (h : List Action) :
    ((network setup members opens).machine.after h).nodes.runtime.safetyManager.lastSeen w =
      latest ((callbacks setup members opens).heardAt (.runtime .safetyManager) (watched w))
        ((network setup members opens).events h) := by
  refine (callbacks setup members opens).heardAt_register
    (fun s => s.runtime.safetyManager.lastSeen w) ?_ ?_ h
  · cases w <;> rfl
  · rintro s ⟨now, event⟩
    rcases event with (e | e | e | e | e | e | e) | e | e | e | e | e | e
    case runtime.safetyManager =>
      refine ((SafetyManager.step_fields s.runtime.safetyManager ⟨now, e⟩).2.2.1 w).trans ?_
      congr 1
      cases e <;> cases w <;> rfl
    all_goals cases w <;> rfl

/-- The inputs of the aggregator among the events fired. -/
def diagnosticsAggregatorInput (x : Stamped Time Event) : Option DiagnosticsAggregator.Input :=
  match x.event with
  | .diagnosticsAggregator e => some ⟨x.now, e⟩
  | _ => none

/-- The diagnostics aggregator runs its own program on its own events. -/
theorem diagnosticsAggregator_after (h : List Action) :
    ((network setup members opens).machine.after h).nodes.diagnosticsAggregator =
      (DiagnosticsAggregator.machine setup.diagnosticsAggregator).after
        (((network setup members opens).events h).filterMap diagnosticsAggregatorInput) := by
  rw [(network setup members opens).nodes_after, network_nodes]
  refine Component.proj_after_filterMap Nodes.diagnosticsAggregator diagnosticsAggregatorInput rfl ?_ _
  rintro s ⟨now, event⟩
  cases event <;> rfl

/-- **The aggregator notes of a topic** when its link handed over its last message. -/
theorem arrivals_eq {name : String} {t : Topic} (hname : (name, t) ∈ sampleTopics)
    (h : List Action) :
    latest (DiagnosticsAggregator.arrivals name)
        (((network setup members opens).events h).filterMap diagnosticsAggregatorInput) =
      latest ((callbacks setup members opens).heardAt .diagnosticsAggregator t)
        ((network setup members opens).events h) := by
  rw [latest_filterMap]
  congr 1
  funext ⟨now, event⟩
  rcases event with e | e | e | e | e | e | e
  case diagnosticsAggregator =>
    cases e with
    | received msg =>
      -- handed over on the link of the topic, noted under its name
      show (if msg.topic = name then some now else none) =
        if (Option.filter (fun m : Message => m.topic = t) (some (ofSample msg))).isSome then some now
        else none
      by_cases htopic : msg.topic = name <;> simp [htopic, topic_ofSample_iff hname]
    | publish => rfl
    | setParameters params => rfl
  all_goals rfl

end Noted

/-! ## What is reported -/

variable {setup : Setup} {members : NodeId → Bool} {opens : Topic → Bool}

/-- A member that watches a topic subscribes to it. -/
theorem isSome_receive_watched (hmember : members (.runtime .safetyManager) = true) (w : Watchdog)
    {m : Message} (hm : m.topic = watched w) :
    ((network setup members opens).receive (.runtime .safetyManager) m).isSome := by
  show (if members _ = true then subscription (.runtime .safetyManager) m else none).isSome
  rw [if_pos hmember]
  rcases m with m | m | m
  · cases w <;> cases m <;> first | rfl | cases hm
  · cases w <;> cases hm
  · cases w <;> cases hm

/-- The aggregator subscribes to the topics that it notes. -/
theorem isSome_receive_sampled (hmember : members .diagnosticsAggregator = true) {name : String}
    {t : Topic} (hname : (name, t) ∈ sampleTopics) {m : Message} (hm : m.topic = t) :
    ((network setup members opens).receive .diagnosticsAggregator m).isSome := by
  show (if members _ = true then subscription .diagnosticsAggregator m else none).isSome
  rw [if_pos hmember]
  subst hm
  simp only [sampleTopics, List.mem_cons, Prod.mk.injEq, List.not_mem_nil, or_false] at hname
  rcases m with m | m | m
  · cases m <;> first | rfl | simp [Message.topic, Runtime.Message.topic] at hname
  · rfl
  · rfl

/-- **Whatever the safety manager publishes**, the callback leaves what the node holds of every watched
party. -/
theorem lastSeen_of_output {h : List Action} {i : Action} {x : SafetyManager.Publication}
    (hpub : .runtime (.safetyManager x) ∈
      stepOutputs setup members opens ((network setup members opens).machine.after h) i) :
    ∃ e, x ∈ (SafetyManager.step ((network setup members opens).machine.after
        h).nodes.runtime.safetyManager ⟨i.now, e⟩).2 ∧
      ((network setup members opens).machine.after (h ++ [i])).nodes.runtime.safetyManager =
        (SafetyManager.step ((network setup members opens).machine.after
          h).nodes.runtime.safetyManager ⟨i.now, e⟩).1 ∧
      ∀ w, ((network setup members opens).machine.after
          (h ++ [i])).nodes.runtime.safetyManager.lastSeen w =
        ((network setup members opens).machine.after h).nodes.runtime.safetyManager.lastSeen w := by
  obtain ⟨e, hfired, hpub⟩ := safetyManager_output hpub
  have hnext : ((network setup members opens).machine.after (h ++ [i])).nodes.runtime.safetyManager =
      (SafetyManager.step ((network setup members opens).machine.after
        h).nodes.runtime.safetyManager ⟨i.now, e⟩).1 := by
    rw [Machine.after_concat, Network.next_nodes, hfired]
    rfl
  refine ⟨e, hpub, hnext, fun w => ?_⟩
  rw [hnext, (SafetyManager.step_fields _ _).2.2.1 w]
  -- the callback of a message publishes nothing
  cases e with
  | teleopHeartbeat msg | hardwareHeartbeat msg | approvedCommand msg =>
    exact absurd hpub List.not_mem_nil
  | modeState msg | triggerMrm request | clearMrm request | publishState | setParameters params => rfl

/-- **A safety state is published** from the state that its step leaves, which holds of every watched
party what it held before. -/
theorem published_safetyState {h : List Action} {i : Action} {safety : SafetyState}
    (hpub : .runtime (.safetyManager (.safetyState safety)) ∈
      stepOutputs setup members opens ((network setup members opens).machine.after h) i) :
    safety = safetyMsg ((network setup members opens).machine.after
        (h ++ [i])).nodes.runtime.safetyManager i.now ∧
      ∀ w, ((network setup members opens).machine.after
          (h ++ [i])).nodes.runtime.safetyManager.lastSeen w =
        ((network setup members opens).machine.after h).nodes.runtime.safetyManager.lastSeen w := by
  obtain ⟨e, hpub, hnext, hlastSeen⟩ := lastSeen_of_output hpub
  refine ⟨?_, hlastSeen⟩
  rw [hnext]
  exact (SafetyManager.publication_eq hpub).1

/-- The same for an MRM state. -/
theorem published_mrmState {h : List Action} {i : Action} {mrm : MRMState}
    (hpub : .runtime (.safetyManager (.mrmState mrm)) ∈
      stepOutputs setup members opens ((network setup members opens).machine.after h) i) :
    mrm = mrmMsg ((network setup members opens).machine.after
      (h ++ [i])).nodes.runtime.safetyManager i.now := by
  obtain ⟨e, hpub, hnext, -⟩ := lastSeen_of_output hpub
  rw [hnext]
  exact SafetyManager.mrm_publication_eq hpub

/-- **A health message** is that of the aggregator's own history. -/
theorem publishedHealth_of_output {h : List Action} {i : Action} {health : HealthState}
    (hpub : .diagnosticsAggregator (.health health) ∈
      stepOutputs setup members opens ((network setup members opens).machine.after h) i) :
    health = DiagnosticsAggregator.publishedHealth setup.diagnosticsAggregator
      (((network setup members opens).events h).filterMap diagnosticsAggregatorInput) i.now := by
  obtain ⟨e, -, hpub⟩ := mem_stepOutputs_iff.mp hpub
  obtain ⟨e, rfl, hpub⟩ := Nodes.mem_step_diagnosticsAggregator hpub
  cases e with
  | received msg => exact absurd hpub List.not_mem_nil
  | setParameters params => exact absurd hpub List.not_mem_nil
  | publish =>
    rw [diagnosticsAggregator_after] at hpub
    exact DiagnosticsAggregator.health_mem_published.mp hpub

/-- It lists a topic as stale exactly if it is required and not fresh. -/
theorem published_health {h : List Action} {i : Action} {health : HealthState}
    (hpub : .diagnosticsAggregator (.health health) ∈
      stepOutputs setup members opens ((network setup members opens).machine.after h) i)
    {name : String} {t : Topic} (hname : (name, t) ∈ sampleTopics) :
    let s := ((network setup members opens).machine.after h).nodes.diagnosticsAggregator
    (name ∈ health.staleTopics ↔ name ∈ s.params.requiredTopics ∧
      ∀ receivedAt, latest ((callbacks setup members opens).heardAt .diagnosticsAggregator t)
        ((network setup members opens).events h) = some receivedAt →
          s.params.staleTimeout < i.now - receivedAt) ∧
      (health.staleTopics ≠ [] → health.state = HealthState.healthStale) := by
  intro s
  obtain rfl := publishedHealth_of_output hpub
  have hstale : (DiagnosticsAggregator.publishedHealth setup.diagnosticsAggregator
      (((network setup members opens).events h).filterMap diagnosticsAggregatorInput)
        i.now).staleTopics = _ := DiagnosticsAggregator.staleTopics_after _ _ _
  refine ⟨?_, DiagnosticsAggregator.evaluateHealth_stale_iff.mpr⟩
  rw [hstale, List.mem_filter, decide_eq_true_iff, DiagnosticsAggregator.Fresh,
    arrivals_eq setup members opens hname, ← DiagnosticsAggregator.params_after,
    ← diagnosticsAggregator_after setup members opens]
  refine and_congr_right fun _ => ?_
  constructor
  · intro hnot receivedAt hlast
    exact not_le.mp fun hfresh => hnot ⟨receivedAt, hlast, hfresh⟩
  · rintro hold ⟨receivedAt, hlast, hfresh⟩
    exact absurd hfresh (not_le.mpr (hold receivedAt hlast))

/-- A watchdog's text is none of the safety manager's own. -/
theorem reason_notMem_own (w : Watchdog) (lastSeen : Option Time) :
    w.reason lastSeen ∉
      ["minimal_risk_maneuver_active", "parameter_mrm_active", "service_mrm_active", ""] := by
  cases w <;> cases lastSeen <;> simp [Watchdog.reason]

/-- A watchdog whose timeout is `P + D` or more does not fire when its topic is published at least every
`P` and delivered within `D`. -/
theorem not_fires_of_cadence {w : Watchdog} {P D : Duration} {h : List Action} {i : Action}
    (hmono : ClockMonotone (h ++ [i])) (hD : 0 ≤ D)
    (hcadence : (network setup members opens).Cadence (watched w) P (h ++ [i]))
    (hstarted : ∃ pre a post, h = pre ++ a :: post ∧
      (network setup members opens).Emits (watched w) pre a ∧ a.now + D < i.now)
    (hmember : members (.runtime .safetyManager) = true)
    (hdelivers : (network setup members opens).DeliversWithin (.runtime .safetyManager) (watched w) D
      (h ++ [i]))
    (hbound : P + D ≤ w.timeout ((network setup members opens).machine.after
      (h ++ [i])).nodes.runtime.safetyManager.params)
    (hlastSeen : ((network setup members opens).machine.after
        (h ++ [i])).nodes.runtime.safetyManager.lastSeen w =
      ((network setup members opens).machine.after h).nodes.runtime.safetyManager.lastSeen w) :
    ¬((network setup members opens).machine.after
      (h ++ [i])).nodes.runtime.safetyManager.Fires i.now w := by
  obtain ⟨now, hlast, hrecent⟩ := (callbacks setup members opens).heardAt_of_cadence hmono hD hcadence
    hdelivers (fun m hm => isSome_receive_watched hmember w hm) hstarted
  rw [← lastSeen_after, ← hlastSeen] at hlast
  rintro ⟨-, -, hoverdue⟩
  rw [hlast] at hoverdue
  have hoverdue : i.now - now > w.timeout _ := hoverdue
  linarith

/-- **A live publisher is not reported.** Let the topic be published at least every `P`, first more
than `D` ago, and let its links deliver everything within `D`. Then a publication of the safety manager
whose timeout for the topic is `P + D` or more does not show the text of its watchdog, neither among the
warnings nor as the reason of the MRM, unless an operator gave it; and a health message whose stale
timeout is `P + D` or more does not list the topic. -/
theorem live_publisher_unreported (setup : Setup) (members : NodeId → Bool) (opens : Topic → Bool)
    (t : Topic) (P D : Duration) (h : List Action) (i : Action) (hmono : ClockMonotone (h ++ [i]))
    (hD : 0 ≤ D) (hcadence : (network setup members opens).Cadence t P (h ++ [i]))
    (hstarted : ∃ pre a post, h = pre ++ a :: post ∧ (network setup members opens).Emits t pre a ∧
      a.now + D < i.now) :
    (∀ w, watched w = t → members (.runtime .safetyManager) = true →
      (network setup members opens).DeliversWithin (.runtime .safetyManager) t D (h ++ [i]) →
      P + D ≤ w.timeout ((network setup members opens).machine.after
        (h ++ [i])).nodes.runtime.safetyManager.params →
      ∀ lastSeen, ((network setup members opens).machine.after
          (h ++ [i])).nodes.runtime.safetyManager.operatorReason ≠ some (w.reason lastSeen) →
        (∀ safety, .runtime (.safetyManager (.safetyState safety)) ∈ stepOutputs setup members opens
            ((network setup members opens).machine.after h) i →
          w.reason lastSeen ∉ safety.activeWarnings) ∧
        ∀ mrm, .runtime (.safetyManager (.mrmState mrm)) ∈ stepOutputs setup members opens
            ((network setup members opens).machine.after h) i →
          mrm.reason ≠ w.reason lastSeen) ∧
    ∀ name, (name, t) ∈ sampleTopics → members .diagnosticsAggregator = true →
      (network setup members opens).DeliversWithin .diagnosticsAggregator t D (h ++ [i]) →
      P + D ≤ ((network setup members opens).machine.after
        h).nodes.diagnosticsAggregator.params.staleTimeout →
      ∀ health, .diagnosticsAggregator (.health health) ∈ stepOutputs setup members opens
          ((network setup members opens).machine.after h) i →
        name ∉ health.staleTopics := by
  constructor
  · rintro w rfl hmember hdelivers hbound lastSeen hoperator
    -- the watchdog does not fire, and nobody else gives its text
    have hunshown : ∀ x, .runtime (.safetyManager x) ∈ stepOutputs setup members opens
        ((network setup members opens).machine.after h) i →
        let s := ((network setup members opens).machine.after (h ++ [i])).nodes.runtime.safetyManager
        w.reason lastSeen ∉ (safetyMsg s i.now).activeWarnings ∧
          (mrmMsg s i.now).reason ≠ w.reason lastSeen := by
      intro x hpub
      obtain ⟨-, -, -, hlastSeen⟩ := lastSeen_of_output hpub
      have hquiet := not_fires_of_cadence hmono hD hcadence hstarted hmember hdelivers hbound
        (hlastSeen w)
      have hreported := mt SafetyManager.reported_iff.mp hquiet
      rw [not_exists] at hreported
      have hnot := hreported lastSeen
      rw [List.mem_append, not_or] at hnot
      exact SafetyManager.not_shown_of_not_reported hnot.1 hnot.2 hoperator
        (reason_notMem_own w lastSeen)
    constructor
    · intro safety hpub
      rw [(published_safetyState hpub).1]
      exact (hunshown _ hpub).1
    · intro mrm hpub
      rw [published_mrmState hpub]
      exact (hunshown _ hpub).2
  · intro name hname hmember hdelivers hbound health hpub hmem
    obtain ⟨now, hlast, hrecent⟩ := (callbacks setup members opens).heardAt_of_cadence hmono hD hcadence
      hdelivers (fun m hm => isSome_receive_sampled hmember hname hm) hstarted
    have hold := ((published_health hpub hname).1.mp hmem).2 now hlast
    linarith

/-! ### The keyboard's heartbeat, watched -/

/-- The keyboard and the two nodes that watch its heartbeat. -/
def watchingMembers (n : NodeId) : Bool :=
  n ∈ [.keyboardTeleop, .runtime .safetyManager, .diagnosticsAggregator]

/-- In `TELEOP`, a heartbeat that is delivered soon. -/
def watchedRun : List Action :=
  [⟨0, .inject (.runtime (.modeState { activeMode := ModeState.modeTeleop }))⟩,
    ⟨0, .deliver (.runtime .safetyManager) (.runtime .modeState) 0⟩,
    ⟨0, .act (.keyboardTeleop .publishTick)⟩,
    ⟨5, .deliver (.runtime .safetyManager) (.runtime .teleopHeartbeat) 0⟩]

/-- Soon after it the watchdog is quiet. -/
theorem live_publisher_unreported_heartbeat :
    let s := ((network {} watchingMembers (fun t => t = .runtime .modeState)).machine.after
      (watchedRun ++ [⟨20, .act (.runtime (.safetyManager .publishState))⟩])).nodes.runtime.safetyManager
    Watchdog.teleopHeartbeat.reason none ∉ (safetyMsg s 20).activeWarnings ∧
      (mrmMsg s 20).reason ≠ Watchdog.teleopHeartbeat.reason none := by
  have hlive := (live_publisher_unreported {} watchingMembers (fun t => t = .runtime .modeState)
    (.runtime .teleopHeartbeat) 50 10 watchedRun ⟨20, .act (.runtime (.safetyManager .publishState))⟩
    (by decide) (by decide) ?_ ⟨watchedRun.take 2, ⟨0, .act (.keyboardTeleop .publishTick)⟩,
      watchedRun.drop 3, rfl, ⟨_, List.mem_singleton_self _, rfl⟩, by decide⟩).1 .teleopHeartbeat rfl
    rfl ⟨?_, ?_⟩ (by decide) none (by decide)
  · exact ⟨hlive.1 _ List.mem_cons_self, hlive.2 _ (List.mem_cons_of_mem _ List.mem_cons_self)⟩
  · -- the whole run is shorter than the period
    have hnow : ∀ x ∈ watchedRun ++ [⟨20, .act (.runtime (.safetyManager .publishState))⟩],
        0 ≤ x.now ∧ x.now ≤ 20 := by
      decide
    intro pre a mid j post hsplit _ hlate
    obtain ⟨hstart, -⟩ := hnow a (by rw [hsplit]; simp)
    obtain ⟨-, hend⟩ := hnow j (by rw [hsplit]; simp)
    linarith
  · simp [watchedRun]
  · refine forall_step_iff.mpr ?_
    decide +kernel

/-- A watchdog that is on fires once its topic has been silent for its timeout and the delay. -/
theorem fires_of_silence {w : Watchdog} {D : Duration} {since : Time} {h : List Action} {i : Action}
    (hsilent : ∀ pre a post, h = pre ++ a :: post →
      (network setup members opens).Emits (watched w) pre a → a.now ≤ since)
    (harrives : (network setup members opens).ArrivesWithin (.runtime .safetyManager) (watched w) D h)
    {safety : SafetyState} (hpub : .runtime (.safetyManager (.safetyState safety)) ∈
      stepOutputs setup members opens ((network setup members opens).machine.after h) i)
    {s : SafetyManager.State} (hs : s = ((network setup members opens).machine.after
      (h ++ [i])).nodes.runtime.safetyManager)
    (henabled : w.enabled s.params = true) (hmode : s.activeMode ∈ w.modes)
    (hheard : w.firesOnSilence ∨ (s.lastSeen w).isSome) (hlate : since + D + w.timeout s.params < i.now) :
    safety = safetyMsg s i.now ∧ s.Fires i.now w := by
  obtain ⟨rfl, hlastSeen⟩ := published_safetyState hpub
  subst hs
  refine ⟨rfl, henabled, hmode, ?_⟩
  cases hlast : ((network setup members opens).machine.after
      (h ++ [i])).nodes.runtime.safetyManager.lastSeen w with
  | none =>
    rw [hlast] at hheard
    exact hheard.resolve_right Bool.false_ne_true
  | some now =>
    have hlast' := (hlastSeen w).symm.trans hlast
    rw [lastSeen_after] at hlast'
    have hold := (callbacks setup members opens).heardAt_of_silence harrives hsilent hlast'
    show i.now - now > w.timeout _
    linarith

/-- A watchdog that fires and triggers an MRM locks the robot down. -/
theorem blocking_of_fires {s : SafetyManager.State} {now : Time} {w : Watchdog} (hfires : s.Fires now w)
    (htriggers : w.triggersMrm s.params = true) : Runtime.Blocking (safetyMsg s now).state := by
  have hactive : SafetyManager.mrmActive s now = true :=
    (SafetyManager.mrmActive_iff s now).mpr (Or.inr (Or.inr ⟨w, hfires, htriggers⟩))
  by_cases hestop : s.params.estopEngaged = true
  · exact Or.inr ((SafetyManager.safetyMsg_state_iff s now).1.mpr hestop)
  · exact Or.inl ((SafetyManager.safetyMsg_state_iff s now).2.1.mpr ⟨hestop, hactive⟩)

/-- **A dead publisher is reported.** Let nothing be published on the topic after the reading `since`,
and let its links hand over nothing that is older than `D`. Then, from the timeout and the delay on,
while the watchdog of the topic is on, the safety manager publishes no `OK`, but an MRM or the
emergency stop if the watchdog triggers one, and else the watchdog's text unless under the emergency
stop; and every health message that requires the topic lists it as stale, and is `STALE`. -/
theorem silent_publisher_reported (setup : Setup) (members : NodeId → Bool) (opens : Topic → Bool)
    (t : Topic) (D : Duration) (since : Time) (h : List Action) (i : Action)
    (hsilent : ∀ pre a post, h = pre ++ a :: post → (network setup members opens).Emits t pre a →
      a.now ≤ since) :
    (∀ w, watched w = t →
      (network setup members opens).ArrivesWithin (.runtime .safetyManager) t D h →
      let s := ((network setup members opens).machine.after (h ++ [i])).nodes.runtime.safetyManager
      w.enabled s.params = true → s.activeMode ∈ w.modes → (w.firesOnSilence ∨ (s.lastSeen w).isSome) →
      since + D + w.timeout s.params < i.now →
      ∀ safety, .runtime (.safetyManager (.safetyState safety)) ∈ stepOutputs setup members opens
          ((network setup members opens).machine.after h) i →
        safety.state ≠ SafetyState.stateOk ∧
        (w.triggersMrm s.params = true → Runtime.Blocking safety.state) ∧
        (w.triggersMrm s.params = false → s.params.estopEngaged = false →
          w.reason (s.lastSeen w) ∈ safety.activeWarnings)) ∧
    ∀ name, (name, t) ∈ sampleTopics →
      (network setup members opens).ArrivesWithin .diagnosticsAggregator t D h →
      let s := ((network setup members opens).machine.after h).nodes.diagnosticsAggregator
      name ∈ s.params.requiredTopics → since + D + s.params.staleTimeout < i.now →
      ∀ health, .diagnosticsAggregator (.health health) ∈ stepOutputs setup members opens
          ((network setup members opens).machine.after h) i →
        name ∈ health.staleTopics ∧ health.state = HealthState.healthStale := by
  constructor
  · rintro w rfl harrives s henabled hmode hheard hlate safety hpub
    obtain ⟨rfl, hfires⟩ := fires_of_silence hsilent harrives hpub rfl henabled hmode hheard hlate
    exact ⟨fun hok => ((SafetyManager.safetyMsg_state_iff s i.now).2.2.2.mp hok).2.2 ⟨w, hfires⟩,
      blocking_of_fires hfires,
      fun hwarns hestop => SafetyManager.shown_of_warns hestop hfires hwarns⟩
  · intro name hname harrives s hrequired hlate health hpub
    obtain ⟨hstale, hverdict⟩ := published_health hpub hname
    have hmem : name ∈ health.staleTopics := by
      refine hstale.mpr ⟨hrequired, fun receivedAt hlast => ?_⟩
      have hold := (callbacks setup members opens).heardAt_of_silence harrives hsilent hlast
      linarith
    exact ⟨hmem, hverdict (List.ne_nil_of_mem hmem)⟩

/-- Seconds later it is not. -/
theorem silent_publisher_reported_heartbeat :
    (safetyMsg ((network {} watchingMembers (fun t => t = .runtime .modeState)).machine.after
        (watchedRun ++ [⟨3000000000, .act (.runtime (.safetyManager
          .publishState))⟩])).nodes.runtime.safetyManager 3000000000).state ≠ SafetyState.stateOk := by
  have hnow : ∀ a ∈ watchedRun, a.now ≤ 5 := by decide
  have hspan : ∀ a ∈ watchedRun, ∀ b ∈ watchedRun, b.now ≤ a.now + 5 := by decide
  exact ((silent_publisher_reported {} watchingMembers (fun t => t = .runtime .modeState)
    (.runtime .teleopHeartbeat) 5 5 watchedRun
    ⟨3000000000, .act (.runtime (.safetyManager .publishState))⟩
    (fun pre a post hsplit _ => hnow a (by rw [hsplit]; simp))).1 .teleopHeartbeat rfl
    (Network.arrivesWithin_of_span _ hspan _ _) rfl (by decide) (Or.inl rfl) (by decide) _
    List.mem_cons_self).1

end HumaWare.System
