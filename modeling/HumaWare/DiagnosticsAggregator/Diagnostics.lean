import HumaWare.DiagnosticsAggregator.Health

/-! # The diagnostic array

One publication shows the topics in three lists (required, stale, shown) and in two messages.

* **`mem_topicStatuses_iff`** — the statuses after the first are those of the topics shown, told
  apart by their names;
* **`diagnosedOkAlive_iff`** — when a topic diagnosed `OK` is alive;
* **`staleness_agrees`** — health and diagnostics never disagree about staleness. -/

namespace HumaWare.DiagnosticsAggregator

open Python Reactive

variable {params : Params} {h : List Input} {now : Time}

/-! ## The status of a topic -/

/-- The name of the status of a topic. -/
def statusName (params : Params) (h : List Input) (topic : String) : String :=
  (paramsAfter params h).robotId ++ "/" ++ topic

/-- Topics have statuses of different names. -/
theorem statusName_injective (params : Params) (h : List Input) :
    Function.Injective (statusName params h) := by
  intro topic topic' heq
  exact (String.append_right_inj _).mp heq

/-- The name of the status of a topic. -/
theorem topicStatus_name (params : Params) (h : List Input) (staleTopics : List String)
    (topic : String) :
    (topicStatus ((machine params).after h) staleTopics topic).name = statusName params h topic := by
  rw [topicStatus, params_after]
  rfl

/-- A topic is diagnosed `STALE` if it is on the list, and `OK` if not. -/
theorem topicStatus_level (s : State) (staleTopics : List String) (topic : String) :
    ((topicStatus s staleTopics topic).level = DiagnosticStatus.stale ↔ topic ∈ staleTopics) ∧
      ((topicStatus s staleTopics topic).level = DiagnosticStatus.ok ↔ topic ∉ staleTopics) := by
  have hlevels : DiagnosticStatus.ok ≠ DiagnosticStatus.stale := by decide
  by_cases hstale : topic ∈ staleTopics
  · simp [topicStatus, hstale, hlevels.symm]
  · simp [topicStatus, hstale, hlevels]

/-- The statuses that follow the runtime status. -/
def topicStatuses (params : Params) (h : List Input) (now : Time) : List DiagnosticStatus :=
  let s := (machine params).after h
  (shownTopics params h).map (topicStatus s (s.staleTopics now))

/-- The runtime status comes first, then those of the topics. -/
theorem publishedDiagnostics_status (params : Params) (h : List Input) (now : Time) :
    (publishedDiagnostics params h now).status =
      runtimeStatus (publishedHealth params h now) :: topicStatuses params h now := by
  rw [topicStatuses, ← diagnosticTopics_after]
  rfl

/-- **One status for each topic shown**: a status with the name of a topic is the status of it. -/
theorem mem_topicStatuses_iff {status : DiagnosticStatus} {topic : String} :
    status ∈ topicStatuses params h now ∧ status.name = statusName params h topic ↔
      topic ∈ shownTopics params h ∧
        topicStatus ((machine params).after h) (((machine params).after h).staleTopics now) topic =
          status := by
  rw [topicStatuses, List.mem_map]
  constructor
  · rintro ⟨⟨topic', hshown, rfl⟩, hname⟩
    rw [topicStatus_name] at hname
    obtain rfl := statusName_injective params h hname
    exact ⟨hshown, rfl⟩
  · rintro ⟨hshown, rfl⟩
    exact ⟨⟨topic, hshown, rfl⟩, topicStatus_name params h _ topic⟩

/-- A stale topic is a required one that is not fresh. -/
theorem mem_staleTopics_iff {topic : String} :
    topic ∈ ((machine params).after h).staleTopics now ↔
      topic ∈ (paramsAfter params h).requiredTopics ∧
        ¬Fresh h now (paramsAfter params h).staleTimeout topic := by
  rw [staleTopics_after, List.mem_filter, decide_eq_true_iff]

/-! ## A topic diagnosed `OK` -/

/-- **A topic diagnosed `OK` is alive** in the publication at `now` after `h`, and one that is not
alive is diagnosed `STALE`. -/
def DiagnosedOkAlive (params : Params) (h : List Input) (now : Time) : Prop :=
  ∀ array, Publication.diagnostics array ∈ published params h now → ∀ status ∈ array.status.tail,
    ∀ topic, status.name = statusName params h topic →
      (status.level = DiagnosticStatus.ok →
        Fresh h now (paramsAfter params h).staleTimeout topic) ∧
      (¬Fresh h now (paramsAfter params h).staleTimeout topic →
        status.level = DiagnosticStatus.stale)

/-- Every optional topic that was seen and is not monitored is fresh. -/
def SeenTopicsFresh (params : Params) (h : List Input) (now : Time) : Prop :=
  ∀ topic ∈ optionalTopics, topic ∉ (paramsAfter params h).requiredTopics →
    (latest (arrivals topic) h).isSome → Fresh h now (paramsAfter params h).staleTimeout topic

/-- **A topic diagnosed `OK` is alive exactly if no optional topic died unmonitored**: such a topic
is shown because it was seen, and its age is not looked at because it is not required. -/
theorem diagnosedOkAlive_iff (params : Params) (h : List Input) (now : Time) :
    DiagnosedOkAlive params h now ↔ SeenTopicsFresh params h now := by
  constructor
  · intro halive topic hoptional hunmonitored hseen
    have hshown : topic ∈ shownTopics params h :=
      mem_shownTopics_iff.mpr (Or.inr ⟨hoptional, hseen⟩)
    have hnotStale : topic ∉ ((machine params).after h).staleTopics now :=
      fun hstale => hunmonitored (mem_staleTopics_iff.mp hstale).1
    obtain ⟨hmem, hname⟩ := mem_topicStatuses_iff.mpr ⟨hshown, rfl⟩
    refine (halive _ (diagnostics_mem_published.mpr rfl) _ ?_ topic hname).1
      ((topicStatus_level _ _ _).2.mpr hnotStale)
    rw [publishedDiagnostics_status]
    exact hmem
  · intro hseen array harray status hstatus topic hname
    obtain rfl := diagnostics_mem_published.mp harray
    rw [publishedDiagnostics_status, List.tail_cons] at hstatus
    obtain ⟨hshown, rfl⟩ := mem_topicStatuses_iff.mp ⟨hstatus, hname⟩
    -- what is shown and not on the list of stale topics is fresh
    have hfresh : topic ∉ ((machine params).after h).staleTopics now →
        Fresh h now (paramsAfter params h).staleTimeout topic := by
      intro hnotStale
      by_cases hrequired : topic ∈ (paramsAfter params h).requiredTopics
      · by_contra hold
        exact hnotStale (mem_staleTopics_iff.mpr ⟨hrequired, hold⟩)
      · rcases mem_shownTopics_iff.mp hshown with hmem | ⟨hoptional, hsome⟩
        · exact absurd hmem hrequired
        · exact hseen topic hoptional hrequired hsome
    constructor
    · intro hok
      exact hfresh ((topicStatus_level _ _ _).2.mp hok)
    · intro hold
      refine (topicStatus_level _ _ _).1.mpr ?_
      by_contra hnotStale
      exact hold (hfresh hnotStale)

/-- A teleop heartbeat comes at the start, and no other. -/
def silentHeartbeat : List Input := [⟨0, .received (.teleopHeartbeat {})⟩]

/-- A heartbeat that was heard once is diagnosed `OK` ten seconds later. -/
theorem not_diagnosedOkAlive : ¬DiagnosedOkAlive {} silentHeartbeat 10000000000 := by
  intro halive
  have hmem : topicStatus ((machine {}).after silentHeartbeat)
      (((machine {}).after silentHeartbeat).staleTopics 10000000000) "teleop/heartbeat" ∈
        (publishedDiagnostics {} silentHeartbeat 10000000000).status.tail := by decide
  obtain ⟨receivedAt, hlast, hage⟩ :=
    (halive _ (diagnostics_mem_published.mpr rfl) _ hmem "teleop/heartbeat" rfl).1 (by decide)
  have hfirst : latest (arrivals "teleop/heartbeat") silentHeartbeat = some 0 := rfl
  obtain rfl := Option.some.inj (hfirst.symm.trans hlast)
  exact absurd hage (by decide)

/-! ## Health and diagnostics -/

/-- The diagnostics show the mode and the safety state of the health. -/
theorem buildDiagnostics_shows (s : State) (now : Time) (health : HealthState)
    (staleTopics : List String) :
    (buildDiagnostics s now health staleTopics).Shows "mode" (toString health.mode) ∧
      (buildDiagnostics s now health staleTopics).Shows "safety_state"
        (toString health.safetyState) := by
  -- the statuses of the topics have keys of their own
  simp [DiagnosticArray.Shows, buildDiagnostics, runtimeStatus, topicStatus]

/-- **Health and diagnostics agree about staleness.** -/
structure StalenessAgrees (params : Params) (h : List Input) (now : Time) (health : HealthState)
    (runtime : DiagnosticStatus) (statuses : List DiagnosticStatus) : Prop where
  /-- `stale_topics` is the list of the required topics that are not fresh. -/
  staleTopics : health.staleTopics = (paramsAfter params h).requiredTopics.filter fun topic =>
    ¬Fresh h now (paramsAfter params h).staleTimeout topic
  nodup : health.staleTopics.Nodup
  runtime_name : runtime.name = statusName params h "runtime_health"
  /-- One status for each topic shown, in their order. -/
  statuses_name : statuses.map DiagnosticStatus.name =
    (shownTopics params h).map (statusName params h)
  shown_nodup : (shownTopics params h).Nodup
  required_shown : (paramsAfter params h).requiredTopics ⊆ shownTopics params h
  runtime_stale : runtime.level = DiagnosticStatus.stale ↔ health.state = HealthState.healthStale
  health_stale : health.state = HealthState.healthStale ↔ health.staleTopics ≠ []
  topics_stale : health.staleTopics ≠ [] ↔
    ∃ status ∈ statuses, status.level = DiagnosticStatus.stale
  /-- The topics diagnosed `STALE` are those of `stale_topics`. -/
  stale_iff : ∀ topic, topic ∈ health.staleTopics ↔ ∃ status ∈ statuses,
    status.name = statusName params h topic ∧ status.level = DiagnosticStatus.stale

/-- A topic is on the list of stale topics if its status is `STALE`. -/
theorem mem_staleTopics_iff_exists_status {topic : String} :
    topic ∈ ((machine params).after h).staleTopics now ↔ ∃ status ∈ topicStatuses params h now,
      status.name = statusName params h topic ∧ status.level = DiagnosticStatus.stale := by
  constructor
  · intro hstale
    have hshown : topic ∈ shownTopics params h :=
      mem_shownTopics_iff.mpr (Or.inl (mem_staleTopics_iff.mp hstale).1)
    obtain ⟨hmem, hname⟩ := mem_topicStatuses_iff.mpr ⟨hshown, rfl⟩
    exact ⟨_, hmem, hname, (topicStatus_level _ _ _).1.mpr hstale⟩
  · rintro ⟨status, hmem, hname, hlevel⟩
    obtain ⟨-, rfl⟩ := mem_topicStatuses_iff.mp ⟨hmem, hname⟩
    exact (topicStatus_level _ _ _).1.mp hlevel

/-- A topic is stale exactly if some status is `STALE`. -/
theorem staleTopics_ne_nil_iff :
    ((machine params).after h).staleTopics now ≠ [] ↔
      ∃ status ∈ topicStatuses params h now, status.level = DiagnosticStatus.stale := by
  constructor
  · intro hstale
    obtain ⟨topic, hstale⟩ := List.exists_mem_of_ne_nil _ hstale
    obtain ⟨status, hmem, -, hlevel⟩ := mem_staleTopics_iff_exists_status.mp hstale
    exact ⟨status, hmem, hlevel⟩
  · rintro ⟨status, hmem, hlevel⟩
    obtain ⟨topic, hshown, rfl⟩ := List.mem_map.mp hmem
    exact List.ne_nil_of_mem ((topicStatus_level _ _ _).1.mp hlevel)

/-- The status of the runtime is `STALE` exactly if the health is. -/
theorem runtimeStatus_stale_iff :
    (runtimeStatus (publishedHealth params h now)).level = DiagnosticStatus.stale ↔
      (publishedHealth params h now).state = HealthState.healthStale := by
  have hvalue : (publishedHealth params h now).state ∈ [HealthState.healthOk,
      HealthState.healthWarn, HealthState.healthError, HealthState.healthStale] :=
    evaluateHealth_mem
  show diagnosticLevel (publishedHealth params h now).state = _ ↔ _
  rw [diagnosticLevel_stale_iff]
  revert hvalue
  generalize (publishedHealth params h now).state = state
  grind

/-- **Health and diagnostics never disagree about staleness**, in any publication: after any
history, at any clock reading and under any parameters. -/
theorem staleness_agrees (params : Params) (h : List Input) (now : Time) :
    ∃ health array runtime statuses,
      published params h now = [.health health, .diagnostics array] ∧
        array.status = runtime :: statuses ∧
        StalenessAgrees params h now health runtime statuses := by
  have hverdict : (publishedHealth params h now).state = HealthState.healthStale ↔
      ((machine params).after h).staleTopics now ≠ [] := evaluateHealth_stale_iff
  refine ⟨publishedHealth params h now, publishedDiagnostics params h now,
    runtimeStatus (publishedHealth params h now), topicStatuses params h now,
    published_eq params h now, publishedDiagnostics_status params h now, ?_⟩
  exact
    { staleTopics := staleTopics_after params h now
      nodup := by
        show (((machine params).after h).staleTopics now).Nodup
        rw [staleTopics_after]
        exact (nodup_requiredTopics _).filter _
      runtime_name := by
        show ((machine params).after h).params.robotId ++ "/runtime_health" = _
        rw [params_after, statusName, String.append_assoc]
        rfl
      statuses_name := by
        rw [topicStatuses, List.map_map]
        exact List.map_congr_left fun topic _ => topicStatus_name params h _ topic
      shown_nodup := nodup_shownTopics params h
      required_shown := fun topic hrequired => mem_shownTopics_iff.mpr (Or.inl hrequired)
      runtime_stale := runtimeStatus_stale_iff
      health_stale := hverdict
      topics_stale := staleTopics_ne_nil_iff
      stale_iff := fun topic => mem_staleTopics_iff_exists_status }

end HumaWare.DiagnosticsAggregator
