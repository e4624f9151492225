import HumaWare.DiagnosticsAggregator.Node

/-! # The samples and the messages received

What the aggregator holds after a history, read off the messages received.

* **`receivedAt_after`**, **`message_after`** — the samples: of every topic, when its last message
  came and what it was;
* **`Fresh`**, **`isStale_after`** — the node's test of one topic decides how old its last message
  is;
* **`staleTopics_after`**, **`diagnosticTopics_after`** — the two lists of topics that one
  publication is made of. -/

namespace HumaWare.DiagnosticsAggregator

open Python Reactive

/-! ## What the node holds -/

/-- The arrivals of messages on a topic. -/
def arrivals (topic : String) (i : Input) : Option Time :=
  match i.event with
  | .received msg => if msg.topic = topic then some i.now else none
  | _ => none

/-- The messages of one type received. -/
def received {α : Type} (expectedType : Message → Option α) (i : Input) : Option α :=
  match i.event with
  | .received msg => expectedType msg
  | _ => none

/-- The settings of the parameters. -/
def paramsStream (i : Input) : Option Params :=
  match i.event with
  | .setParameters params => some params
  | _ => none

/-- The parameters in force after a history. -/
def paramsAfter (params : Params) (h : List Input) : Params := (latest paramsStream h).getD params

/-- The node holds the parameters set last. -/
theorem params_after (params : Params) (h : List Input) :
    ((machine params).after h).params = paramsAfter params h := by
  apply Machine.latest_register _ State.params
  rintro s ⟨now, event⟩
  cases event <;> rfl

/-- A message is kept as the sample of its topic, and no other sample changes. -/
theorem get?_onTopic (s : State) (now : Time) (topic topic' : String) (msg : Message) :
    (onTopic s now topic msg).samples.get? topic' =
      if topic = topic' then some { message := some msg, receivedAt := some now }
      else s.samples.get? topic' := by
  by_cases htopic : topic = topic'
  · rw [if_pos htopic, ← htopic]
    exact Dict.get?_set_self _ _ _
  · rw [if_neg htopic]
    exact Dict.get?_set_of_ne _ _ (Ne.symm htopic)

/-- No sample is filled at first. -/
theorem get?_init {params : Params} {topic : String} {sample : TopicSample}
    (hsample : (init params).samples.get? topic = some sample) : sample = {} := by
  have hitem := Dict.mem_items_iff.mpr hsample
  obtain ⟨topic', -, heq⟩ := List.mem_map.mp hitem
  exact (Prod.mk.inj heq).2.symm

/-- Every sample that the node asks for is there. -/
theorem sampledTopics_after (params : Params) (h : List Input) {topic : String}
    (htopic : topic ∈ sampledTopics) :
    (((machine params).after h).samples.get? topic).isSome := by
  refine (machine params).invariant (P := fun _ s => (s.samples.get? topic).isSome) ?_ ?_ h
  · rw [← Dict.mem_keys_iff]
    show topic ∈ (sampledTopics.map fun topic => (topic, ({} : TopicSample))).map Prod.fst
    rw [List.map_map]
    exact List.mem_map.mpr ⟨topic, htopic, rfl⟩
  · rintro h ⟨now, event⟩ hkept
    cases event with
    | received msg =>
      show ((onTopic _ now msg.topic msg).samples.get? topic).isSome
      rw [get?_onTopic]
      split
      · rfl
      · exact hkept
    | publish => exact hkept
    | setParameters params => exact hkept

/-- **When the last message of a topic came.** -/
theorem receivedAt_after (params : Params) (h : List Input) (topic : String) :
    (((machine params).after h).samples.get? topic).bind TopicSample.receivedAt =
      latest (arrivals topic) h := by
  apply Machine.latest_optional_register _
    (fun s : State => (s.samples.get? topic).bind TopicSample.receivedAt)
  · show ((init params).samples.get? topic).bind TopicSample.receivedAt = none
    cases hsample : (init params).samples.get? topic with
    | none => rfl
    | some sample => rw [get?_init hsample, Option.bind_some]
  · rintro s ⟨now, event⟩
    cases event with
    | received msg =>
      show ((onTopic s now msg.topic msg).samples.get? topic).bind _ = _
      rw [get?_onTopic, arrivals]
      by_cases htopic : msg.topic = topic <;> simp [htopic]
    | publish => rfl
    | setParameters params => rfl

/-- What a message leaves of the samples, read as messages of one type: `expectedType` takes the
messages of the topic and no other. -/
theorem message_onTopic {α : Type} (s : State) (now : Time) (msg : Message) {topic : String}
    {expectedType : Message → Option α}
    (htype : ∀ msg : Message, (expectedType msg).isSome = true ↔ msg.topic = topic) :
    (onTopic s now msg.topic msg).message topic expectedType =
      (expectedType msg).or (s.message topic expectedType) := by
  show ((onTopic s now msg.topic msg).sample topic).message.bind expectedType = _
  rw [State.sample, get?_onTopic]
  by_cases htopic : msg.topic = topic
  · obtain ⟨a, ha⟩ := Option.isSome_iff_exists.mp ((htype msg).mpr htopic)
    rw [if_pos htopic, ha]
    exact ha
  · have hnone : expectedType msg = none := by
      rw [← Option.not_isSome_iff_eq_none, htype]
      exact htopic
    rw [if_neg htopic, hnone]
    rfl

/-- **A message is read as the type of its topic**: if `expectedType` takes the messages of the
topic and no other, `_message` returns the last one of the type. -/
theorem message_after {α : Type} (params : Params) (h : List Input) {topic : String}
    {expectedType : Message → Option α}
    (htype : ∀ msg : Message, (expectedType msg).isSome = true ↔ msg.topic = topic) :
    ((machine params).after h).message topic expectedType = latest (received expectedType) h := by
  apply Machine.latest_optional_register _ (fun s : State => s.message topic expectedType)
  · show ((init params).sample topic).message.bind expectedType = none
    rw [State.sample]
    cases hsample : (init params).samples.get? topic with
    | none => rfl
    | some sample => rw [get?_init hsample]; rfl
  · rintro s ⟨now, event⟩
    cases event with
    | received msg => exact message_onTopic s now msg htype
    | publish => rfl
    | setParameters params => rfl

/-- The messages on `safety/state` are safety states. -/
theorem isSome_safetyState?_iff (msg : Message) :
    msg.safetyState?.isSome = true ↔ msg.topic = "safety/state" := by
  cases msg <;> simp [Message.topic, Message.safetyState?]

/-- The messages on `mode/state` are modes. -/
theorem isSome_modeState?_iff (msg : Message) :
    msg.modeState?.isSome = true ↔ msg.topic = "mode/state" := by
  cases msg <;> simp [Message.topic, Message.modeState?]

/-- The messages on `locomotion/state` are locomotion states. -/
theorem isSome_locomotionState?_iff (msg : Message) :
    msg.locomotionState?.isSome = true ↔ msg.topic = "locomotion/state" := by
  cases msg <;> simp [Message.topic, Message.locomotionState?]

/-- A topic was seen if a message of it arrived. -/
theorem hasSeen_after (params : Params) (h : List Input) {topic : String}
    (htopic : topic ∈ sampledTopics) :
    ((machine params).after h).hasSeen topic = (latest (arrivals topic) h).isSome := by
  rw [← receivedAt_after params, State.hasSeen, State.sample]
  obtain ⟨sample, hsample⟩ := Option.isSome_iff_exists.mp (sampledTopics_after params h htopic)
  rw [hsample]
  rfl

/-! ## Freshness -/

/-- **A topic is fresh** at the reading `now`: its last message came at most `timeout` before. -/
def Fresh (h : List Input) (now : Time) (timeout : Duration) (topic : String) : Prop :=
  ∃ receivedAt, latest (arrivals topic) h = some receivedAt ∧ now - receivedAt ≤ timeout

instance (h : List Input) (now : Time) (timeout : Duration) (topic : String) :
    Decidable (Fresh h now timeout topic) :=
  match hlast : latest (arrivals topic) h with
  | none => isFalse (by rintro ⟨receivedAt, hsome, -⟩; rw [hlast] at hsome; cases hsome)
  | some receivedAt =>
    if hage : now - receivedAt ≤ timeout then isTrue ⟨receivedAt, hlast, hage⟩
    else isFalse (by
      rintro ⟨receivedAt', hsome, hage'⟩
      rw [hlast] at hsome
      exact hage (Option.some.inj hsome ▸ hage'))

/-- A topic without a message is not fresh. -/
theorem not_fresh_of_none {h : List Input} {now : Time} {timeout : Duration} {topic : String}
    (hnone : latest (arrivals topic) h = none) : ¬Fresh h now timeout topic := by
  rintro ⟨receivedAt, hsome, -⟩
  rw [hnone] at hsome
  cases hsome

/-- A topic with a message is fresh by the age of the last one. -/
theorem fresh_iff_of_some {h : List Input} {now receivedAt : Time} {timeout : Duration}
    {topic : String} (hsome : latest (arrivals topic) h = some receivedAt) :
    Fresh h now timeout topic ↔ now - receivedAt ≤ timeout := by
  constructor
  · rintro ⟨receivedAt', hlast, hage⟩
    rw [hsome] at hlast
    cases hlast
    exact hage
  · intro hage
    exact ⟨receivedAt, hsome, hage⟩

/-- The messages of a type arrive on its topic, and nothing else does. -/
theorem isSome_arrivals {α : Type} {topic : String} {expectedType : Message → Option α}
    (htype : ∀ msg : Message, (expectedType msg).isSome = true ↔ msg.topic = topic) (i : Input) :
    (arrivals topic i).isSome = (received expectedType i).isSome := by
  obtain ⟨now, event⟩ := i
  cases event with
  | received msg =>
    rw [Bool.eq_iff_iff]
    by_cases htopic : msg.topic = topic <;> simp [arrivals, received, htype, htopic]
  | publish => rfl
  | setParameters params => rfl

/-- A fresh topic has a message of its type. -/
theorem exists_received_of_fresh {α : Type} {h : List Input} {now : Time} {timeout : Duration}
    {topic : String} {expectedType : Message → Option α}
    (htype : ∀ msg : Message, (expectedType msg).isSome = true ↔ msg.topic = topic)
    (hfresh : Fresh h now timeout topic) : ∃ msg, latest (received expectedType) h = some msg := by
  obtain ⟨receivedAt, hsome, -⟩ := hfresh
  rw [← Option.isSome_iff_exists, ← isSome_latest_congr (isSome_arrivals htype), hsome]
  rfl

/-- Its last message of the type came at most `timeout` before. -/
theorem received_of_fresh {α : Type} {h : List Input} {now : Time} {timeout : Duration}
    {topic : String} {expectedType : Message → Option α} {msg : α}
    (htype : ∀ msg : Message, (expectedType msg).isSome = true ↔ msg.topic = topic)
    (hfresh : Fresh h now timeout topic) (hlast : latest (received expectedType) h = some msg) :
    ∃ x ∈ h, received expectedType x = some msg ∧ now - x.now ≤ timeout := by
  obtain ⟨pre, x, post, rfl, hx, hpost⟩ := latest_eq_some_iff.mp hlast
  refine ⟨x, by simp, hx, ?_⟩
  -- nothing arrived on the topic afterwards
  have hnone : ∀ y ∈ post, arrivals topic y = none := by
    intro y hy
    rw [← Option.not_isSome_iff_eq_none, isSome_arrivals htype, hpost y hy]
    exact Bool.false_ne_true
  obtain ⟨receivedAt, harrived⟩ := Option.isSome_iff_exists.mp
    ((isSome_arrivals htype x).trans (by rw [hx]; rfl))
  have hage := (fresh_iff_of_some (latest_eq_some_iff.mpr ⟨pre, x, post, rfl, harrived, hnone⟩)).mp hfresh
  obtain ⟨at', event⟩ := x
  cases event with
  | received m =>
    rw [arrivals, Option.ite_none_right_eq_some, Option.some.injEq] at harrived
    rwa [← harrived.2] at hage
  | publish => cases harrived
  | setParameters params => cases harrived

/-- **The test on one topic** rejects exactly what is not fresh. -/
theorem isStale_after (params : Params) (h : List Input) (now : Time) (timeout : Duration)
    (topic : String) :
    isStale ((machine params).after h).samples now timeout topic = true ↔
      ¬Fresh h now timeout topic := by
  rw [isStale, receivedAt_after]
  cases hlast : latest (arrivals topic) h with
  | none => simp [not_fresh_of_none hlast]
  | some receivedAt =>
    rw [fresh_iff_of_some hlast, not_le]
    exact decide_eq_true_iff

/-! ## The lists of topics of a publication -/

/-- The topics that are monitored only if a parameter asks for it. -/
def optionalTopics : List String := ["navigation/nav2_bridge_state", "teleop/heartbeat"]

/-- **The stale topics**: the required ones that are not fresh, in their order. -/
theorem staleTopics_after (params : Params) (h : List Input) (now : Time) :
    ((machine params).after h).staleTopics now =
      (paramsAfter params h).requiredTopics.filter fun topic =>
        ¬Fresh h now (paramsAfter params h).staleTimeout topic := by
  rw [State.staleTopics, computeStaleTopics, params_after]
  apply List.filter_congr
  intro topic _
  rw [Bool.eq_iff_iff, isStale_after, decide_eq_true_iff]

/-- No topic is required twice. -/
theorem nodup_requiredTopics (params : Params) : params.requiredTopics.Nodup := by
  rw [Params.requiredTopics]
  cases params.monitorNav2Bridge <;> cases params.monitorTeleopHeartbeat <;> decide

/-- Every base topic is required. -/
theorem baseRequiredTopics_subset (params : Params) :
    baseRequiredTopics ⊆ params.requiredTopics := by
  rw [Params.requiredTopics]
  cases params.monitorNav2Bridge <;> cases params.monitorTeleopHeartbeat <;> decide

/-- **The topics shown**: the required ones and the optional ones that were seen. -/
def shownTopics (params : Params) (h : List Input) : List String :=
  baseRequiredTopics ++ optionalTopics.filter fun topic =>
    topic ∈ (paramsAfter params h).requiredTopics ∨ (latest (arrivals topic) h).isSome

/-- The topics shown, read off the history. -/
theorem diagnosticTopics_after (params : Params) (h : List Input) :
    ((machine params).after h).diagnosticTopics = shownTopics params h := by
  have hnav2 : ((machine params).after h).hasSeen "navigation/nav2_bridge_state" = _ :=
    hasSeen_after params h (by decide)
  have hteleop : ((machine params).after h).hasSeen "teleop/heartbeat" = _ :=
    hasSeen_after params h (by decide)
  rw [State.diagnosticTopics, shownTopics, params_after, hnav2, hteleop, diagnosticTopicList,
    Params.requiredTopics, requiredTopics, optionalTopics, List.filter_cons, List.filter_cons,
    List.filter_nil]
  cases (paramsAfter params h).monitorNav2Bridge <;>
    cases (paramsAfter params h).monitorTeleopHeartbeat <;>
    cases (latest (arrivals "navigation/nav2_bridge_state") h).isSome <;>
    cases (latest (arrivals "teleop/heartbeat") h).isSome <;> decide

/-- No topic is shown twice. -/
theorem nodup_shownTopics (params : Params) (h : List Input) : (shownTopics params h).Nodup := by
  have hall : (baseRequiredTopics ++ optionalTopics).Nodup := by decide
  exact hall.sublist (List.filter_sublist.append_left baseRequiredTopics)

/-- **Every required topic is shown**, and of the others those that were seen. -/
theorem mem_shownTopics_iff {params : Params} {h : List Input} {topic : String} :
    topic ∈ shownTopics params h ↔ topic ∈ (paramsAfter params h).requiredTopics ∨
      topic ∈ optionalTopics ∧ (latest (arrivals topic) h).isSome := by
  have hrequired : topic ∈ (paramsAfter params h).requiredTopics →
      topic ∈ baseRequiredTopics ∨ topic ∈ optionalTopics := by
    rw [← List.mem_append, Params.requiredTopics]
    cases (paramsAfter params h).monitorNav2Bridge <;>
      cases (paramsAfter params h).monitorTeleopHeartbeat <;> revert topic <;> decide
  have hbase := @baseRequiredTopics_subset (paramsAfter params h) topic
  rw [shownTopics, List.mem_append, List.mem_filter, decide_eq_true_iff]
  tauto

end HumaWare.DiagnosticsAggregator
