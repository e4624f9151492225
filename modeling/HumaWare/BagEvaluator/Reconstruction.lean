import HumaWare.BagEvaluator.Topics
import HumaWare.Timeline.Changes

/-! # The transition list reconstructs the watched fields

For one topic and one field watched for it, the walk keeps the last value and the changes between
the values that the topic's messages carry (`walk_field`). The list of all transitions, read for
that topic and field, is then a log of changes in the sense of `Timeline.Changes`, each at the
position and the timestamp of the message that shows it.

* **`reconstruction`** — the log gives the field back at every message that carries it, and no other
  topic has a part in it. -/

namespace HumaWare.BagEvaluator

open Python Timeline

variable {V : Type*}

/-- Where a message stands in a recording. -/
structure Place where
  position : ℕ
  timestampNs : ℤ
  deriving DecidableEq, Repr

/-- Places are ordered as the messages are. -/
instance : Preorder Place := Preorder.lift Place.position

instance : DecidableLE Place := fun a b => inferInstanceAs (Decidable (a.position ≤ b.position))

/-- The values that a topic's messages carry in a field. -/
def values (topic fieldName : String) (messages : List (Record V)) : List V :=
  (ownMessages topic messages).filterMap (·.message fieldName)

/-- They, with their places in the recording. -/
def samples (topic fieldName : String) (messages : List (Record V)) : List (Place × V) :=
  messages.zipIdx.filterMap fun (record, position) =>
    if record.topic = topic then
      (record.message fieldName).map fun value => (⟨position, record.timestampNs⟩, value)
    else none

/-- A change of a field, as a transition event. -/
def event (topic fieldName : String) (change : Change Place V) : TransitionEvent V where
  topic := topic
  fieldName := fieldName
  previous := change.previous
  current := change.current
  timestampNs := change.place.timestampNs

/-- The transition events of one topic and one field. -/
def EvaluationResult.eventsOf (result : EvaluationResult V) (topic fieldName : String) :
    List (TransitionEvent V) :=
  result.transitions.filter fun event => event.topic = topic ∧ event.fieldName = fieldName

/-! ## Samples -/

/-- A sample is a value that a record of the topic has for the field, at its place. -/
theorem mem_samples_iff {topic fieldName : String} {messages : List (Record V)} {place : Place}
    {value : V} : (place, value) ∈ samples topic fieldName messages ↔
      ∃ record, messages[place.position]? = some record ∧ record.topic = topic ∧
        record.timestampNs = place.timestampNs ∧ record.message fieldName = some value := by
  simp only [samples, List.mem_filterMap, Prod.exists, List.mem_zipIdx_iff_getElem?]
  constructor
  · rintro ⟨record, position, hrecord, h⟩
    split at h
    · next htopic =>
      obtain ⟨value', hvalue, heq⟩ := Option.map_eq_some_iff.mp h
      obtain ⟨rfl, rfl⟩ := Prod.mk.inj heq
      exact ⟨record, hrecord, htopic, rfl, hvalue⟩
    · cases h
  · rintro ⟨record, hrecord, htopic, hstamp, hvalue⟩
    exact ⟨record, place.position, hrecord, by rw [if_pos htopic, hvalue, hstamp]; rfl⟩

/-- One more message. -/
theorem samples_concat (topic fieldName : String) (messages : List (Record V))
    (record : Record V) :
    samples topic fieldName (messages ++ [record]) =
      samples topic fieldName messages ++
        if record.topic = topic then
          ((record.message fieldName).map fun value =>
            ((⟨messages.length, record.timestampNs⟩ : Place), value)).toList
        else [] := by
  rw [samples, List.zipIdx_append, List.filterMap_append]
  congr 1
  by_cases htopic : record.topic = topic
  · cases hvalue : record.message fieldName <;> simp [htopic, hvalue]
  · simp [htopic]

/-- The samples have the values that the evaluator compares. -/
theorem map_samples (topic fieldName : String) (messages : List (Record V)) :
    (samples topic fieldName messages).map Prod.snd = values topic fieldName messages := by
  induction messages using List.reverseRecOn with
  | nil => rfl
  | append_singleton messages record ih =>
    rw [samples_concat, List.map_append, ih, values, values, ownMessages, ownMessages,
      List.filter_append, List.filterMap_append]
    congr 1
    by_cases htopic : record.topic = topic
    · cases hvalue : record.message fieldName <;> simp [htopic, hvalue]
    · simp [htopic]

/-- The samples stand in the order of the recording. -/
theorem samples_sorted (topic fieldName : String) (messages : List (Record V)) :
    (samples topic fieldName messages).Pairwise (·.1 < ·.1) := by
  induction messages using List.reverseRecOn with
  | nil => exact List.Pairwise.nil
  | append_singleton messages record ih =>
    rw [samples_concat, List.pairwise_append]
    refine ⟨ih, ?_, ?_⟩
    · split
      · cases record.message fieldName <;> simp
      · exact List.Pairwise.nil
    · rintro ⟨place, value⟩ hmem sample hnew
      obtain ⟨_, hrecord, -⟩ := mem_samples_iff.mp hmem
      have hlt : place.position < messages.length := (List.getElem?_eq_some_iff.mp hrecord).1
      split at hnew
      · rw [Option.mem_toList] at hnew
        obtain ⟨_, -, rfl⟩ := Option.map_eq_some_iff.mp hnew
        exact hlt
      · cases hnew

/-! ## The walk, field by field -/

variable [BEq V]

/-- What the walk keeps about a field of the topic. -/
def TopicView.field (v : TopicView V) (fieldName : String) : Option V × List (TransitionEvent V) :=
  (v.previousValues fieldName, v.transitions.filter (·.fieldName = fieldName))

/-- The inner loop's body, for a field on its own. -/
def trackField (record : Record V) (fieldName : String)
    (kept : Option V × List (TransitionEvent V)) : Option V × List (TransitionEvent V) :=
  match record.message fieldName with
  | none => kept
  | some current =>
    (some current, kept.2 ++
      match kept.1 with
      | some previous =>
        if previous != current then
          [ { topic := record.topic
              fieldName := fieldName
              previous := previous
              current := current
              timestampNs := record.timestampNs }]
        else []
      | none => [])

/-- Tracking one field does not show in another. -/
theorem field_track_of_ne {record : Record V} {fieldName name : String} (h : name ≠ fieldName)
    (v : TopicView V) : (v.track record name).field fieldName = v.field fieldName := by
  rw [TopicView.track]
  cases record.message name with
  | none => rfl
  | some current =>
    simp only [TopicView.field, Function.update_of_ne (Ne.symm h)]
    cases v.previousValues name with
    | none => rfl
    | some previous =>
      dsimp only
      split
      · simp [h]
      · rfl

/-- Tracking the field itself. -/
theorem field_track_self (record : Record V) (fieldName : String) (v : TopicView V) :
    (v.track record fieldName).field fieldName =
      trackField record fieldName (v.field fieldName) := by
  rw [TopicView.track, trackField]
  cases record.message fieldName with
  | none => rfl
  | some current =>
    simp only [TopicView.field, Function.update_self]
    cases v.previousValues fieldName with
    | none => simp
    | some previous =>
      dsimp only
      split
      · simp
      · simp

/-- Nor do several. -/
theorem field_foldl_track_of_not_mem {record : Record V} {fieldName : String} {fields : List String}
    (hmem : fieldName ∉ fields) (v : TopicView V) :
    (fields.foldl (TopicView.track record) v).field fieldName = v.field fieldName := by
  induction fields generalizing v with
  | nil => rfl
  | cons name fields ih =>
    rw [List.mem_cons, not_or] at hmem
    rw [List.foldl_cons, ih hmem.2, field_track_of_ne (Ne.symm hmem.1)]

/-- **One message shows in each watched field once.** -/
theorem field_foldl_track {record : Record V} {fieldName : String} {fields : List String}
    (hnodup : fields.Nodup) (hmem : fieldName ∈ fields) (v : TopicView V) :
    (fields.foldl (TopicView.track record) v).field fieldName =
      trackField record fieldName (v.field fieldName) := by
  induction fields generalizing v with
  | nil => cases hmem
  | cons name fields ih =>
    obtain ⟨hname, hnodup⟩ := List.nodup_cons.mp hnodup
    rw [List.foldl_cons]
    rcases List.mem_cons.mp hmem with rfl | hmem
    · rw [field_foldl_track_of_not_mem hname, field_track_self]
    · have hne : name ≠ fieldName := fun heq => hname (heq ▸ hmem)
      rw [ih hnodup hmem, field_track_of_ne hne]

/-- No field is watched twice. -/
theorem watchedFields_nodup (topic : String) : (watchedFields topic).Nodup := by
  have hall : ∀ fields ∈ watchedFieldsByTopic.values, fields.Nodup := by decide
  rw [watchedFields]
  cases hget : watchedFieldsByTopic.get? (normalizeTopic topic) with
  | none => exact List.nodup_nil
  | some fields => exact hall fields (Dict.mem_values_iff.mpr ⟨_, hget⟩)

/-- **What the walk keeps about a watched field**: its last value, and the changes between its
samples. -/
theorem walk_field {topic fieldName : String} (hwatched : fieldName ∈ watchedFields topic)
    (messages : List (Record V)) :
    ((walk messages).view topic).field fieldName =
      (((samples topic fieldName messages).map Prod.snd).getLast?,
        (changes (samples topic fieldName messages)).map (event topic fieldName)) := by
  induction messages using List.reverseRecOn with
  | nil => rfl
  | append_singleton messages record ih =>
    have hwalk : walk (messages ++ [record]) = observe (walk messages) record := List.foldl_concat ..
    rw [hwalk, view_observe, samples_concat]
    by_cases htopic : record.topic = topic
    · subst htopic
      -- the summary and the timestamp are not part of a field
      have hfield : (((walk messages).view record.topic).observe record).field fieldName =
          trackField record fieldName (((walk messages).view record.topic).field fieldName) :=
        field_foldl_track (watchedFields_nodup record.topic) hwatched _
      rw [if_pos rfl, if_pos rfl, hfield, ih, trackField]
      cases record.message fieldName with
      | none => simp
      | some current =>
        rw [Option.map_some, Option.toList_some, changes_concat, List.map_append, List.map_append]
        cases ((samples record.topic fieldName messages).map Prod.snd).getLast? with
        | none => simp
        | some previous =>
          dsimp only
          split
          · simp [event]
          · simp
    · rw [if_neg htopic, if_neg htopic, ih, List.append_nil]

/-! ## Reconstruction -/

variable (messages : List (Record V)) (requiredTopics : List String) (maxGapNs : ℤ)

/-- The reported events of a topic and field are what the walk keeps about it. -/
theorem eventsOf_eq_field (topic fieldName : String) :
    (summarizeTopicFreshness messages requiredTopics maxGapNs).eventsOf topic fieldName =
      (((walk messages).view topic).field fieldName).2 := by
  simp only [EvaluationResult.eventsOf, summarizeTopicFreshness, TopicView.field, Walk.view,
    List.filter_filter]
  refine List.filter_congr fun event _ => ?_
  rw [Bool.decide_and, Bool.and_comm]

/-- **The transition list reconstructs every watched field.** For any recording, any recorded topic
and any field watched for it, the events of that topic and field are a log of changes, each at the
position and the timestamp of a message of the topic that carries its current value. From the first
value on, each change begins where the one before it ended, and the changes up to any message that
carries the field give its value back, as far as `==` can tell. No event leaves the value as it was,
there are as many events as changes between consecutive values, and a recording with the same
messages of the topic has the same events. -/
theorem reconstruction {topic fieldName : String} (hwatched : fieldName ∈ watchedFields topic) :
    (∃ log : List (Change Place V),
      log.map (event topic fieldName) =
          (summarizeTopicFreshness messages requiredTopics maxGapNs).eventsOf topic fieldName ∧
        log.Pairwise (·.place < ·.place) ∧
        (∀ change ∈ log, ∃ record, messages[change.place.position]? = some record ∧
          record.topic = topic ∧ record.timestampNs = change.place.timestampNs ∧
          record.message fieldName = some change.current) ∧
        ∀ first, (values topic fieldName messages).head? = some first →
          Linked first log ∧
            ∀ (position : ℕ) record value, messages[position]? = some record →
              record.topic = topic → record.message fieldName = some value →
              Same (replay first (log.filter (·.place.position ≤ position))) value) ∧
      (∀ event ∈
          (summarizeTopicFreshness messages requiredTopics maxGapNs).eventsOf topic fieldName,
        (event.previous == event.current) = false) ∧
      ((summarizeTopicFreshness messages requiredTopics maxGapNs).eventsOf topic
          fieldName).length =
        ((values topic fieldName messages).zip (values topic fieldName messages).tail).countP
          (fun pair => pair.1 != pair.2) ∧
      ∀ messages', ownMessages topic messages' = ownMessages topic messages →
        (summarizeTopicFreshness messages' requiredTopics maxGapNs).eventsOf topic fieldName =
          (summarizeTopicFreshness messages requiredTopics maxGapNs).eventsOf topic fieldName := by
  have hlog : (changes (samples topic fieldName messages)).map (event topic fieldName) =
      (summarizeTopicFreshness messages requiredTopics maxGapNs).eventsOf topic fieldName := by
    rw [eventsOf_eq_field, walk_field hwatched]
  have hsublist := changes_sublist (samples topic fieldName messages)
  have hsorted := samples_sorted topic fieldName messages
  refine ⟨⟨changes (samples topic fieldName messages), hlog, ?_, ?_, ?_⟩, ?_, ?_, ?_⟩
  · have hplaces := hsorted.sublist hsublist
    rw [List.pairwise_map] at hplaces
    exact hplaces
  · intro change hchange
    exact mem_samples_iff.mp (hsublist.subset (List.mem_map_of_mem hchange))
  · intro first hfirst
    rw [← map_samples] at hfirst
    refine ⟨linked_changes hfirst, ?_⟩
    intro position record value hrecord htopic hvalue
    have hmem : ((⟨position, record.timestampNs⟩ : Place), value) ∈
        samples topic fieldName messages :=
      mem_samples_iff.mpr ⟨record, hrecord, htopic, rfl, hvalue⟩
    exact replay_changes hsorted hfirst hmem
  · rw [← hlog]
    intro event hevent
    obtain ⟨change, hchange, rfl⟩ := List.mem_map.mp hevent
    exact ne_of_mem_changes hchange
  · rw [← hlog, List.length_map, length_changes, map_samples]
  · intro messages' hown
    rw [eventsOf_eq_field, eventsOf_eq_field, view_walk, view_walk, hown]

/-- Two robots that report the same runtime topic, one of them without a value at first. -/
def twoRobots : List (Record ℕ) :=
  [⟨"/mock_001/mode/state", 0, fun _ => none⟩,
    ⟨"/mock_002/mode/state", 0, fun fieldName => if fieldName = "active_mode" then some 4 else none⟩,
    ⟨"/mock_001/mode/state", 5, fun fieldName => if fieldName = "active_mode" then some 1 else none⟩,
    ⟨"/mock_001/mode/state", 5, fun fieldName => if fieldName = "active_mode" then some 4 else none⟩]

/-- The first robot's mode, read back at its last message. -/
theorem reconstruction_twoRobots :
    ∃ log : List (Change Place ℕ),
      log.map (event "/mock_001/mode/state" "active_mode") =
          (summarizeTopicFreshness twoRobots [] 0).eventsOf "/mock_001/mode/state" "active_mode" ∧
        replay 1 (log.filter (·.place.position ≤ 3)) = 4 := by
  have hwatched : "active_mode" ∈ watchedFields "/mock_001/mode/state" := by decide
  obtain ⟨⟨log, hlog, -, -, hreplay⟩, -⟩ := reconstruction twoRobots [] 0 hwatched
  have hfirst : (values "/mock_001/mode/state" "active_mode" twoRobots).head? = some 1 := by decide
  exact ⟨log, hlog, same_iff_eq.mp ((hreplay 1 hfirst).2 3 _ 4 rfl rfl rfl)⟩

end HumaWare.BagEvaluator
