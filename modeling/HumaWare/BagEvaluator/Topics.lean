import HumaWare.BagEvaluator.Evaluator
import Mathlib.Data.List.Induction

/-! # The walk, topic by topic

What the walk keeps about a topic depends on that topic's own messages alone: `Walk.view` is the
part of the loop's variables that belongs to one topic, and the walk over a whole recording shows it
the topic's own messages in their own order (`view_walk`). Topics meet in the second pass only,
where the recording window is the minimum and the maximum over all of them.

* **`interleaving`** — recordings with the same per-topic subsequences are evaluated alike, and a
  single topic sees of the others no more than the two ends of the recording window. -/

namespace HumaWare.BagEvaluator

open Python

variable {V : Type*} [BEq V]

/-- What the loop keeps about one topic. -/
structure TopicView (V : Type*) where
  summary : Option TopicSummary := none
  lastTimestamp : Option ℤ := none
  transitions : List (TransitionEvent V) := []
  previousValues : String → Option V := fun _ => none

/-- The part of the loop's variables that belongs to a topic. -/
def Walk.view (w : Walk V) (topic : String) : TopicView V where
  summary := w.summaries.get? topic
  lastTimestamp := w.lastTimestamp.get? topic
  transitions := w.transitions.filter (·.topic = topic)
  previousValues := fun fieldName => w.previousValues.get? (topic, fieldName)

/-- The inner loop's body, for a topic on its own. -/
def TopicView.track (record : Record V) (v : TopicView V) (fieldName : String) : TopicView V :=
  match record.message fieldName with
  | none => v
  | some current =>
    { v with
      transitions :=
        match v.previousValues fieldName with
        | some previous =>
          if previous != current then
            v.transitions ++ [
              { topic := record.topic
                fieldName := fieldName
                previous := previous
                current := current
                timestampNs := record.timestampNs }]
          else v.transitions
        | none => v.transitions
      previousValues := Function.update v.previousValues fieldName (some current) }

/-- The loop's body, for a topic on its own. -/
def TopicView.observe (v : TopicView V) (record : Record V) : TopicView V :=
  (watchedFields record.topic).foldl (TopicView.track record)
    { v with
      summary := some ((v.summary.getD { topic := record.topic }).observe v.lastTimestamp
        record.timestampNs)
      lastTimestamp := some record.timestampNs }

/-- Tracking a field of another topic's message shows nothing. -/
theorem view_track_of_ne {record : Record V} {topic : String} (h : record.topic ≠ topic) (w : Walk V)
    (fieldName : String) : (track record w fieldName).view topic = w.view topic := by
  unfold track
  cases record.message fieldName with
  | none => rfl
  | some current =>
    have hkey : ∀ name, (topic, name) ≠ (record.topic, fieldName) := by
      intro name hname
      exact h (congrArg Prod.fst hname).symm
    simp only [Walk.view, Dict.get?_set_of_ne _ _ (hkey _)]
    congr 1
    cases w.previousValues.get? (record.topic, fieldName) with
    | none => rfl
    | some previous =>
      dsimp only
      split
      · simp [h]
      · rfl

/-- Tracking a field of the topic's own message. -/
theorem view_track_self (record : Record V) (w : Walk V) (fieldName : String) :
    (track record w fieldName).view record.topic =
      (w.view record.topic).track record fieldName := by
  unfold track TopicView.track
  cases record.message fieldName with
  | none => rfl
  | some current =>
    simp only [Walk.view]
    congr 1
    · cases w.previousValues.get? (record.topic, fieldName) with
      | none => rfl
      | some previous =>
        dsimp only
        split
        · simp
        · rfl
    · funext name
      by_cases hname : name = fieldName
      · subst hname
        simp
      · have hkey : (record.topic, name) ≠ (record.topic, fieldName) := by
          intro hkey
          exact hname (congrArg Prod.snd hkey)
        rw [Dict.get?_set_of_ne _ _ hkey, Function.update_of_ne hname]

/-- **One message shows to its own topic only.** -/
theorem view_observe (w : Walk V) (record : Record V) (topic : String) :
    (observe w record).view topic =
      if record.topic = topic then (w.view topic).observe record else w.view topic := by
  unfold observe
  by_cases h : record.topic = topic
  · subst h
    rw [if_pos rfl, TopicView.observe]
    -- the loop over the watched fields, from the summary and the timestamp just assigned
    have hfields : ∀ (fields : List String) (w : Walk V),
        (fields.foldl (track record) w).view record.topic =
          fields.foldl (TopicView.track record) (w.view record.topic) := by
      intro fields
      induction fields with
      | nil => intro w; rfl
      | cons fieldName fields ih =>
        intro w
        rw [List.foldl_cons, List.foldl_cons, ih, view_track_self]
    rw [hfields]
    simp [Walk.view]
  · rw [if_neg h]
    have hfields : ∀ (fields : List String) (w : Walk V),
        (fields.foldl (track record) w).view topic = w.view topic := by
      intro fields
      induction fields with
      | nil => intro w; rfl
      | cons fieldName fields ih =>
        intro w
        rw [List.foldl_cons, ih, view_track_of_ne h]
    rw [hfields]
    simp [Walk.view, Dict.get?_set_of_ne _ _ (Ne.symm h)]

/-- The messages of one topic, in their order. -/
def ownMessages (topic : String) (messages : List (Record V)) : List (Record V) :=
  messages.filter (·.topic = topic)

/-- **The walk shows a topic its own messages.** -/
theorem view_walk (messages : List (Record V)) (topic : String) :
    (walk messages).view topic =
      (ownMessages topic messages).foldl TopicView.observe {} := by
  unfold walk ownMessages
  induction messages using List.reverseRecOn with
  | nil => rfl
  | append_singleton messages record ih =>
    rw [List.foldl_concat, view_observe, ih, List.filter_append, List.foldl_append]
    by_cases h : record.topic = topic
    · simp [h]
    · simp [h]

/-! ## The second pass -/

/-- Two lists with the same elements have the same minimum. -/
theorem min?_congr {l l' : List ℤ} (h : ∀ a, a ∈ l ↔ a ∈ l') : l.min? = l'.min? := by
  cases hl : l.min? with
  | none =>
    rw [List.min?_eq_none_iff] at hl
    rw [eq_comm, List.min?_eq_none_iff, List.eq_nil_iff_forall_not_mem]
    intro a ha
    simpa [hl] using (h a).mpr ha
  | some m =>
    obtain ⟨hmem, hle⟩ := List.min?_eq_some_iff.mp hl
    rw [eq_comm, List.min?_eq_some_iff]
    exact ⟨(h m).mp hmem, fun a ha => hle a ((h a).mpr ha)⟩

/-- Two lists with the same elements have the same maximum. -/
theorem max?_congr {l l' : List ℤ} (h : ∀ a, a ∈ l ↔ a ∈ l') : l.max? = l'.max? := by
  cases hl : l.max? with
  | none =>
    rw [List.max?_eq_none_iff] at hl
    rw [eq_comm, List.max?_eq_none_iff, List.eq_nil_iff_forall_not_mem]
    intro a ha
    simpa [hl] using (h a).mpr ha
  | some m =>
    obtain ⟨hmem, hle⟩ := List.max?_eq_some_iff.mp hl
    rw [eq_comm, List.max?_eq_some_iff]
    exact ⟨(h m).mp hmem, fun a ha => hle a ((h a).mpr ha)⟩

/-- The values that a field has in some summary. -/
theorem mem_filterMap_values_iff {d : Dict String TopicSummary} {f : TopicSummary → Option ℤ}
    {a : ℤ} : a ∈ d.values.filterMap f ↔ ∃ topic, (d.get? topic).bind f = some a := by
  simp only [List.mem_filterMap, Dict.mem_values_iff, Option.bind_eq_some_iff]
  constructor
  · rintro ⟨summary, ⟨topic, hget⟩, hf⟩
    exact ⟨topic, summary, hget, hf⟩
  · rintro ⟨topic, summary, hget, hf⟩
    exact ⟨summary, ⟨topic, hget⟩, hf⟩

/-- The recording window depends on what is stored under each topic, not on their order. -/
theorem recordingWindow_congr {d d' : Dict String TopicSummary}
    (h : ∀ topic, d.get? topic = d'.get? topic) :
    recordingStart d = recordingStart d' ∧ recordingEnd d = recordingEnd d' := by
  constructor
  · exact min?_congr fun a => by simp only [mem_filterMap_values_iff, h]
  · exact max?_congr fun a => by simp only [mem_filterMap_values_iff, h]

/-- The summary of a topic after the second pass. -/
theorem get?_coverSummaries (d : Dict String TopicSummary) (topic : String) :
    (coverSummaries d).get? topic = (d.get? topic).map fun summary =>
      { summary with
        coverageGapNs := coverageGap summary (recordingStart d) (recordingEnd d) } :=
  Dict.get?_mapValues _ _ _

/-- A required topic is present when some observed topic is an occurrence of it. -/
theorem requiredTopicPresent_keys_iff {required : String} {d : Dict String TopicSummary} :
    requiredTopicPresent required d.keys = true ↔
      ∃ observed, (d.get? observed).isSome ∧ isOccurrence required observed = true := by
  simp only [requiredTopicPresent, List.any_eq_true, Dict.mem_keys_iff]

section Stale

variable {messages : List (Record V)} {required : List String} {maxGapNs : ℤ}

/-- The topics flagged as stale. -/
theorem mem_staleTopics_iff {topic : String} :
    topic ∈ (summarizeTopicFreshness messages required maxGapNs).staleTopics ↔
      ∃ summary, (summarizeTopicFreshness messages required maxGapNs).summaries.get? topic =
        some summary ∧ summary.coverageGapNs > maxGapNs := by
  simp only [summarizeTopicFreshness, List.mem_insertionSort, List.mem_map, List.mem_filter,
    decide_eq_true_eq]
  constructor
  · rintro ⟨⟨topic', summary⟩, ⟨hmem, hgap⟩, rfl⟩
    exact ⟨summary, Dict.mem_items_iff.mp hmem, hgap⟩
  · rintro ⟨summary, hget, hgap⟩
    exact ⟨(topic, summary), ⟨Dict.mem_items_iff.mpr hget, hgap⟩, rfl⟩

/-- They are listed in order. -/
theorem staleTopics_sorted :
    (summarizeTopicFreshness messages required maxGapNs).staleTopics.Pairwise (· ≤ ·) :=
  List.pairwise_insertionSort _ _

/-- And each of them once. -/
theorem staleTopics_nodup :
    (summarizeTopicFreshness messages required maxGapNs).staleTopics.Nodup := by
  have hkeys := (coverSummaries (walk messages).summaries).nodup
  refine (List.perm_insertionSort _ _).nodup_iff.mpr ?_
  exact (List.filter_sublist.map Prod.fst).nodup hkeys

end Stale

/-- Two sorted lists without duplicates are equal if they have the same elements. -/
theorem eq_of_sorted {l l' : List String} (hl : l.Pairwise (· ≤ ·)) (hl' : l'.Pairwise (· ≤ ·))
    (hnodup : l.Nodup) (hnodup' : l'.Nodup) (h : ∀ a, a ∈ l ↔ a ∈ l') : l = l' := by
  refine List.Perm.eq_of_pairwise ?_ hl hl' ((List.perm_ext_iff_of_nodup hnodup hnodup').mpr h)
  intro a b _ _ hab hba
  exact le_antisymm hab hba

/-! ## Interleaving -/

/-- What is stored under a topic depends on its own messages. -/
theorem summaries_congr {messages messages' : List (Record V)} {topic : String}
    (h : ownMessages topic messages = ownMessages topic messages') :
    (walk messages).summaries.get? topic = (walk messages').summaries.get? topic := by
  have hview : (walk messages).view topic = (walk messages').view topic := by
    rw [view_walk, view_walk, h]
  exact congrArg TopicView.summary hview

/-- **The evaluation does not depend on how topics interleave.** For any two message sequences, any
required topics and any `max_gap_ns`: with the same per-topic subsequences, the per-topic summaries,
the missing topics, the stale topics and each topic's transition events are the same. And a single
topic with the same subsequence in both has the same transition events and the same summary up to
its coverage gap, and with the same recording window the same summary and the same staleness. -/
theorem interleaving (messages messages' : List (Record V)) (required : List String)
    (maxGapNs : ℤ) :
    ((∀ topic, ownMessages topic messages = ownMessages topic messages') →
      (∀ topic, (summarizeTopicFreshness messages required maxGapNs).summaries.get? topic =
          (summarizeTopicFreshness messages' required maxGapNs).summaries.get? topic) ∧
        (summarizeTopicFreshness messages required maxGapNs).missingRequiredTopics =
          (summarizeTopicFreshness messages' required maxGapNs).missingRequiredTopics ∧
        (summarizeTopicFreshness messages required maxGapNs).staleTopics =
          (summarizeTopicFreshness messages' required maxGapNs).staleTopics ∧
        ∀ topic, (summarizeTopicFreshness messages required maxGapNs).transitions.filter
            (·.topic = topic) =
          (summarizeTopicFreshness messages' required maxGapNs).transitions.filter
            (·.topic = topic)) ∧
    ∀ topic, ownMessages topic messages = ownMessages topic messages' →
      (summarizeTopicFreshness messages required maxGapNs).transitions.filter (·.topic = topic) =
          (summarizeTopicFreshness messages' required maxGapNs).transitions.filter
            (·.topic = topic) ∧
        ((summarizeTopicFreshness messages required maxGapNs).summaries.get? topic).map
            (fun summary => { summary with coverageGapNs := 0 }) =
          ((summarizeTopicFreshness messages' required maxGapNs).summaries.get? topic).map
            (fun summary => { summary with coverageGapNs := 0 }) ∧
        (recordingStart (walk messages).summaries = recordingStart (walk messages').summaries →
          recordingEnd (walk messages).summaries = recordingEnd (walk messages').summaries →
          (summarizeTopicFreshness messages required maxGapNs).summaries.get? topic =
              (summarizeTopicFreshness messages' required maxGapNs).summaries.get? topic ∧
            (topic ∈ (summarizeTopicFreshness messages required maxGapNs).staleTopics ↔
              topic ∈ (summarizeTopicFreshness messages' required maxGapNs).staleTopics)) := by
  have htransitions : ∀ topic, ownMessages topic messages = ownMessages topic messages' →
      (walk messages).transitions.filter (·.topic = topic) =
        (walk messages').transitions.filter (·.topic = topic) := by
    intro topic h
    have hview : (walk messages).view topic = (walk messages').view topic := by
      rw [view_walk, view_walk, h]
    exact congrArg TopicView.transitions hview
  -- with the same window, the second pass gives a topic the same coverage gap
  have hcovered : ∀ topic, ownMessages topic messages = ownMessages topic messages' →
      recordingStart (walk messages).summaries = recordingStart (walk messages').summaries →
      recordingEnd (walk messages).summaries = recordingEnd (walk messages').summaries →
      (summarizeTopicFreshness messages required maxGapNs).summaries.get? topic =
        (summarizeTopicFreshness messages' required maxGapNs).summaries.get? topic := by
    intro topic h hstart hend
    show (coverSummaries _).get? topic = (coverSummaries _).get? topic
    rw [get?_coverSummaries, get?_coverSummaries, summaries_congr h, hstart, hend]
  constructor
  · intro h
    obtain ⟨hstart, hend⟩ := recordingWindow_congr fun topic => summaries_congr (h topic)
    have hsummaries := fun topic => hcovered topic (h topic) hstart hend
    refine ⟨hsummaries, ?_, ?_, fun topic => htransitions topic (h topic)⟩
    · -- presence asks only which topics were observed
      refine List.filter_congr fun topic _ => ?_
      congr 1
      rw [Bool.eq_iff_iff, requiredTopicPresent_keys_iff, requiredTopicPresent_keys_iff]
      simp only [summaries_congr (h _)]
    · refine eq_of_sorted staleTopics_sorted staleTopics_sorted staleTopics_nodup
        staleTopics_nodup fun topic => ?_
      rw [mem_staleTopics_iff, mem_staleTopics_iff, hsummaries]
  · intro topic h
    refine ⟨htransitions topic h, ?_, fun hstart hend => ⟨hcovered topic h hstart hend, ?_⟩⟩
    · show ((coverSummaries _).get? topic).map _ = ((coverSummaries _).get? topic).map _
      rw [get?_coverSummaries, get?_coverSummaries, summaries_congr h, Option.map_map,
        Option.map_map]
      rfl
    · rw [mem_staleTopics_iff, mem_staleTopics_iff, hcovered topic h hstart hend]

end HumaWare.BagEvaluator
