import HumaWare.BagEvaluator.Topics
import HumaWare.Timeline.Silence
import Mathlib.Algebra.Order.Group.Int

/-! # Freshness is the absence of long silence

The summary of a topic in closed form, read off the topic's own timestamps, and what the stale rule
measures with it: the longest silence of the topic inside the recording window.

* **`get?_summaries`** — count, first and last timestamp and the largest step between two messages;
* **`stale_iff`** — in a recording whose topics are each in time order, a topic is flagged exactly
  if it was observed and is silent somewhere in the window for longer than `max_gap_ns`. -/

namespace HumaWare.BagEvaluator

open Python Timeline

variable {V : Type*}

/-- The timestamps of a topic's messages. -/
def times (topic : String) (messages : List (Record V)) : List ℤ :=
  (ownMessages topic messages).map Record.timestampNs

/-- A recording as `rosbag2` reads it back: each topic's messages come in time order. -/
structure Recording (V : Type*) where
  messages : List (Record V)
  ordered : ∀ topic, (times topic messages).Pairwise (· ≤ ·)

/-- The times of a topic are those of its records. -/
theorem mem_times_iff {topic : String} {messages : List (Record V)} {t : ℤ} :
    t ∈ times topic messages ↔ ∃ r ∈ messages, r.topic = topic ∧ r.timestampNs = t := by
  simp only [times, ownMessages, List.mem_map, List.mem_filter, decide_eq_true_eq, and_assoc]

/-- **The first of the topics' first timestamps** is the first of all: `chosen` is the timestamp that
each topic gives, and `le` the order in which the first is looked for. -/
theorem extreme_iff (le : ℤ → ℤ → Prop) (htrans : ∀ {a b c}, le a b → le b c → le a c)
    (hantisymm : ∀ {a b}, le a b → le b a → a = b) {messages : List (Record V)}
    {chosen : String → Option ℤ}
    (hmem : ∀ topic, ∀ a ∈ chosen topic, ∃ r ∈ messages, r.timestampNs = a)
    (hchosen : ∀ r ∈ messages, ∃ a ∈ chosen r.topic, le a r.timestampNs) {t : ℤ} :
    ((∃ topic, chosen topic = some t) ∧ ∀ a, (∃ topic, chosen topic = some a) → le t a) ↔
      (∃ r ∈ messages, r.timestampNs = t) ∧ ∀ r ∈ messages, le t r.timestampNs := by
  constructor
  · rintro ⟨⟨topic, ht⟩, hle⟩
    refine ⟨hmem topic t ht, fun r hr => ?_⟩
    obtain ⟨a, ha, har⟩ := hchosen r hr
    exact htrans (hle a ⟨_, ha⟩) har
  · rintro ⟨⟨r, hr, rfl⟩, hle⟩
    constructor
    · obtain ⟨a, ha, har⟩ := hchosen r hr
      obtain ⟨r', hr', rfl⟩ := hmem _ a ha
      have heq : r'.timestampNs = r.timestampNs := hantisymm har (hle r' hr')
      exact ⟨r.topic, heq ▸ ha⟩
    · rintro a ⟨topic, ha⟩
      obtain ⟨r', hr', rfl⟩ := hmem topic a ha
      exact hle r' hr'

variable [BEq V]

/-- Watched fields do not matter to the summary. -/
theorem foldl_track_summary (record : Record V) (fields : List String) (v : TopicView V) :
    (fields.foldl (TopicView.track record) v).summary = v.summary ∧
      (fields.foldl (TopicView.track record) v).lastTimestamp = v.lastTimestamp := by
  induction fields generalizing v with
  | nil => exact ⟨rfl, rfl⟩
  | cons fieldName fields ih =>
    obtain ⟨hsummary, hlast⟩ := ih (v.track record fieldName)
    rw [List.foldl_cons, hsummary, hlast, TopicView.track]
    cases record.message fieldName <;> exact ⟨rfl, rfl⟩

/-- What one message leaves in the topic's summary and last timestamp. -/
theorem observe_summary (v : TopicView V) (record : Record V) :
    (v.observe record).summary = some ((v.summary.getD { topic := record.topic }).observe
        v.lastTimestamp record.timestampNs) ∧
      (v.observe record).lastTimestamp = some record.timestampNs := foldl_track_summary _ _ _

/-- One more step, written as the built-in comparison of the source. -/
theorem observe_maxGapNs (summary : TopicSummary) (last timestampNs : ℤ) :
    (summary.observe (some last) timestampNs).maxGapNs = max summary.maxGapNs (timestampNs - last) := by
  simp only [TopicSummary.observe]
  rw [max_def]
  split <;> split <;> omega

/-- What a topic's own messages leave in its summary. -/
theorem foldl_observe_summary (topic : String) {own : List (Record V)}
    (h : ∀ r ∈ own, r.topic = topic) :
    (own.foldl TopicView.observe {}).lastTimestamp = (own.map Record.timestampNs).getLast? ∧
      (own.foldl TopicView.observe {}).summary =
        if own = [] then none
        else some
          { topic := topic
            messageCount := own.length
            firstTimestampNs := (own.map Record.timestampNs).head?
            lastTimestampNs := (own.map Record.timestampNs).getLast?
            maxGapNs := innerGap (own.map Record.timestampNs) } := by
  induction own using List.reverseRecOn with
  | nil => exact ⟨rfl, rfl⟩
  | append_singleton own r ih =>
    obtain ⟨hlast, hsummary⟩ := ih fun r' hr' => h r' (List.mem_append_left _ hr')
    obtain ⟨hsummary', hlast'⟩ := observe_summary (own.foldl TopicView.observe {}) r
    rw [List.foldl_concat, hsummary', hlast', hsummary, hlast, h r (by simp)]
    have hne : own ++ [r] ≠ [] := by simp
    refine ⟨by simp, ?_⟩
    rw [if_neg hne]
    rcases List.eq_nil_or_concat' own with rfl | ⟨own, r', rfl⟩
    · rfl
    · have hne' : own ++ [r'] ≠ [] := by simp
      rw [if_neg hne']
      simp only [List.map_append, List.map_cons, List.map_nil, List.getLast?_concat, Option.getD_some,
        innerGap_concat]
      refine congrArg some ?_
      simp only [TopicSummary.observe, TopicSummary.mk.injEq]
      refine ⟨trivial, by simp, by simp, trivial, ?_, trivial⟩
      -- the step from the last timestamp to this one
      exact observe_maxGapNs { topic := topic, maxGapNs := _ } _ _

/-- **The summary of a topic after the first pass**, read off its own messages. -/
theorem get?_summaries (messages : List (Record V)) (topic : String) :
    (walk messages).summaries.get? topic =
      if ownMessages topic messages = [] then none
      else some
        { topic := topic
          messageCount := (ownMessages topic messages).length
          firstTimestampNs := (times topic messages).head?
          lastTimestampNs := (times topic messages).getLast?
          maxGapNs := innerGap (times topic messages) } := by
  have hown : ∀ r ∈ ownMessages topic messages, r.topic = topic := by
    intro r hr
    simpa using (List.mem_filter.mp hr).2
  exact (congrArg TopicView.summary (view_walk messages topic)).trans
    (foldl_observe_summary topic hown).2

/-! ## The recording window -/

/-- The first and the last timestamp kept of a topic. -/
theorem bounds_summaries (messages : List (Record V)) (topic : String) :
    ((walk messages).summaries.get? topic).bind TopicSummary.firstTimestampNs =
        (times topic messages).head? ∧
      ((walk messages).summaries.get? topic).bind TopicSummary.lastTimestampNs =
        (times topic messages).getLast? := by
  rw [get?_summaries]
  by_cases hown : ownMessages topic messages = []
  · rw [if_pos hown, times, hown]
    exact ⟨rfl, rfl⟩
  · rw [if_neg hown]
    exact ⟨rfl, rfl⟩

/-- The recording starts with the earliest of all messages. -/
theorem recordingStart_eq_some_iff (recording : Recording V) {start : ℤ} :
    recordingStart (walk recording.messages).summaries = some start ↔
      (∃ r ∈ recording.messages, r.timestampNs = start) ∧
        ∀ r ∈ recording.messages, start ≤ r.timestampNs := by
  rw [recordingStart, List.min?_eq_some_iff]
  simp only [mem_filterMap_values_iff, (bounds_summaries _ _).1]
  refine extreme_iff (· ≤ ·) le_trans le_antisymm (fun topic a ha => ?_) (fun r hr => ?_)
  · obtain ⟨r, hr, -, htime⟩ := mem_times_iff.mp (List.mem_of_head? ha)
    exact ⟨r, hr, htime⟩
  · -- the first message of a topic is its earliest
    have hmem : r.timestampNs ∈ times r.topic recording.messages :=
      mem_times_iff.mpr ⟨r, hr, rfl, rfl⟩
    have hordered := recording.ordered r.topic
    cases htimes : times r.topic recording.messages with
    | nil => simp [htimes] at hmem
    | cons a as =>
      rw [htimes] at hmem hordered
      refine ⟨a, rfl, ?_⟩
      rcases List.mem_cons.mp hmem with heq | hmem
      · exact heq.ge
      · exact (List.pairwise_cons.mp hordered).1 _ hmem

/-- The recording ends with the latest of all messages. -/
theorem recordingEnd_eq_some_iff (recording : Recording V) {stop : ℤ} :
    recordingEnd (walk recording.messages).summaries = some stop ↔
      (∃ r ∈ recording.messages, r.timestampNs = stop) ∧
        ∀ r ∈ recording.messages, r.timestampNs ≤ stop := by
  rw [recordingEnd, List.max?_eq_some_iff]
  simp only [mem_filterMap_values_iff, (bounds_summaries _ _).2]
  refine extreme_iff (· ≥ ·) (fun hab hbc => hbc.trans hab)
    (fun hab hba => le_antisymm hba hab) (fun topic a ha => ?_) (fun r hr => ?_)
  · obtain ⟨r, hr, -, htime⟩ := mem_times_iff.mp (List.mem_of_getLast? ha)
    exact ⟨r, hr, htime⟩
  · -- the last message of a topic is its latest
    have hmem : r.timestampNs ∈ times r.topic recording.messages :=
      mem_times_iff.mpr ⟨r, hr, rfl, rfl⟩
    have hordered := recording.ordered r.topic
    rcases List.eq_nil_or_concat' (times r.topic recording.messages) with htimes | ⟨as, a, htimes⟩
    · simp [htimes] at hmem
    · rw [htimes] at hmem hordered ⊢
      refine ⟨a, List.getLast?_concat, ?_⟩
      rcases List.mem_append.mp hmem with hmem | hmem
      · exact (List.pairwise_append.mp hordered).2.2 _ hmem a (List.mem_singleton_self a)
      · exact (List.mem_singleton.mp hmem).le

/-- A recording that is not empty has a window, and all its messages lie inside. -/
theorem exists_window (recording : Recording V) (hne : recording.messages ≠ []) :
    ∃ start stop, recordingStart (walk recording.messages).summaries = some start ∧
      recordingEnd (walk recording.messages).summaries = some stop ∧
      (∃ r ∈ recording.messages, r.timestampNs = start) ∧
      (∃ r ∈ recording.messages, r.timestampNs = stop) ∧
      ∀ r ∈ recording.messages, start ≤ r.timestampNs ∧ r.timestampNs ≤ stop := by
  have hstamps : recording.messages.map Record.timestampNs ≠ [] := by simpa using hne
  obtain ⟨start, hmin⟩ := Option.ne_none_iff_exists'.mp (mt List.min?_eq_none_iff.mp hstamps)
  obtain ⟨stop, hmax⟩ := Option.ne_none_iff_exists'.mp (mt List.max?_eq_none_iff.mp hstamps)
  rw [List.min?_eq_some_iff, List.mem_map] at hmin
  rw [List.max?_eq_some_iff, List.mem_map] at hmax
  have hstart : ∀ r ∈ recording.messages, start ≤ r.timestampNs := by
    intro r hr
    exact hmin.2 _ (List.mem_map_of_mem hr)
  have hstop : ∀ r ∈ recording.messages, r.timestampNs ≤ stop := by
    intro r hr
    exact hmax.2 _ (List.mem_map_of_mem hr)
  exact ⟨start, stop, (recordingStart_eq_some_iff recording).mpr ⟨hmin.1, hstart⟩,
    (recordingEnd_eq_some_iff recording).mpr ⟨hmax.1, hstop⟩, hmin.1, hmax.1,
    fun r hr => ⟨hstart r hr, hstop r hr⟩⟩

/-! ## The stale rule -/

/-- Somewhere inside the recording window, the topic is silent for longer than `maxGapNs`. -/
def LongSilence (messages : List (Record V)) (maxGapNs : ℤ) (topic : String) : Prop :=
  ∃ a b, (∃ r ∈ messages, r.timestampNs ≤ a) ∧ (∃ r ∈ messages, b ≤ r.timestampNs) ∧
    Silent (times topic messages) a b ∧ maxGapNs < b - a

omit [BEq V] in
/-- The coverage gap of a topic that was observed, as the longest silence in the window. -/
theorem coverageGap_eq {topic : String} {messages : List (Record V)} {start stop : ℤ}
    (hstop : ∀ t ∈ times topic messages, t ≤ stop) (hobserved : times topic messages ≠ [])
    (count : ℕ) :
    coverageGap
        { topic := topic
          messageCount := count
          firstTimestampNs := (times topic messages).head?
          lastTimestampNs := (times topic messages).getLast?
          maxGapNs := innerGap (times topic messages) } (some start) (some stop) =
      longestSilence start (times topic messages) stop := by
  obtain ⟨first, hfirst⟩ : ∃ first, (times topic messages).head? = some first :=
    ⟨_, List.head?_eq_some_head hobserved⟩
  obtain ⟨last, hlast⟩ : ∃ last, (times topic messages).getLast? = some last :=
    ⟨_, List.getLast?_eq_some_getLast hobserved⟩
  rw [longestSilence_eq hfirst hlast (hstop last (List.mem_of_getLast? hlast)), hfirst, hlast]
  rfl

/-- **The coverage gap of an observed topic** is its longest silence in the recording window. -/
theorem exists_coverage (recording : Recording V) (required : List String) (maxGapNs : ℤ)
    {topic : String} (hobserved : ∃ r ∈ recording.messages, r.topic = topic) :
    ∃ summary start stop,
      (summarizeTopicFreshness recording.messages required maxGapNs).summaries.get? topic =
          some summary ∧
        summary.coverageGapNs = longestSilence start (times topic recording.messages) stop ∧
        (start :: times topic recording.messages ++ [stop]).Pairwise (· ≤ ·) ∧
        (∀ a, start ≤ a ↔ ∃ r ∈ recording.messages, r.timestampNs ≤ a) ∧
        ∀ b, b ≤ stop ↔ ∃ r ∈ recording.messages, b ≤ r.timestampNs := by
  obtain ⟨r, hr, htopic⟩ := hobserved
  have htimes : times topic recording.messages ≠ [] :=
    List.ne_nil_of_mem (mem_times_iff.mpr ⟨r, hr, htopic, rfl⟩)
  have hown : ownMessages topic recording.messages ≠ [] := by simpa [times] using htimes
  obtain ⟨start, stop, hstart, hstop, ⟨r₀, hr₀, hr₀start⟩, ⟨r₁, hr₁, hr₁stop⟩, hwindow⟩ :=
    exists_window recording (List.ne_nil_of_mem hr)
  have hwithin : ∀ t ∈ times topic recording.messages, start ≤ t ∧ t ≤ stop := by
    intro t ht
    obtain ⟨r, hr, -, rfl⟩ := mem_times_iff.mp ht
    exact hwindow r hr
  have hget : (summarizeTopicFreshness recording.messages required maxGapNs).summaries.get? topic =
      (coverSummaries (walk recording.messages).summaries).get? topic := rfl
  rw [hget, get?_coverSummaries, get?_summaries, if_neg hown, hstart, hstop, Option.map_some]
  refine ⟨_, start, stop, rfl, coverageGap_eq (fun t ht => (hwithin t ht).2) htimes _, ?_, ?_, ?_⟩
  · rw [List.cons_append, List.pairwise_cons, List.pairwise_append]
    refine ⟨?_, recording.ordered topic, List.pairwise_singleton _ _, ?_⟩
    · intro t ht
      rcases List.mem_append.mp ht with ht | ht
      · exact (hwithin t ht).1
      · rw [List.mem_singleton.mp ht, ← hr₁stop]
        exact (hwindow r₁ hr₁).1
    · intro t ht s hs
      rw [List.mem_singleton.mp hs]
      exact (hwithin t ht).2
  · -- to lie after the start is to lie after some message
    intro a
    constructor
    · intro ha
      exact ⟨r₀, hr₀, hr₀start.trans_le ha⟩
    · rintro ⟨r, hr, ha⟩
      exact (hwindow r hr).1.trans ha
  · intro b
    constructor
    · intro hb
      exact ⟨r₁, hr₁, hb.trans hr₁stop.ge⟩
    · rintro ⟨r, hr, hb⟩
      exact hb.trans (hwindow r hr).2

/-- Only an observed topic has a summary. -/
theorem observed_of_get? {messages : List (Record V)} {required : List String} {maxGapNs : ℤ}
    {topic : String} {summary : TopicSummary}
    (h : (summarizeTopicFreshness messages required maxGapNs).summaries.get? topic = some summary) :
    ∃ r ∈ messages, r.topic = topic := by
  have hget : (coverSummaries (walk messages).summaries).get? topic = some summary := h
  rw [get?_coverSummaries, get?_summaries] at hget
  by_cases hown : ownMessages topic messages = []
  · simp [hown] at hget
  · obtain ⟨r, hr⟩ := List.exists_mem_of_ne_nil _ hown
    exact ⟨r, List.mem_of_mem_filter hr, by simpa using List.of_mem_filter hr⟩

/-- **A topic is flagged as stale exactly if it was observed and is silent for too long.** -/
theorem stale_iff (recording : Recording V) (required : List String) (maxGapNs : ℤ)
    (topic : String) :
    topic ∈ (summarizeTopicFreshness recording.messages required maxGapNs).staleTopics ↔
      (∃ r ∈ recording.messages, r.topic = topic) ∧
        LongSilence recording.messages maxGapNs topic := by
  rw [mem_staleTopics_iff]
  by_cases hobserved : ∃ r ∈ recording.messages, r.topic = topic
  · obtain ⟨summary, start, stop, hget, hgap, hsorted, hstart, hstop⟩ :=
      exists_coverage recording required maxGapNs hobserved
    simp only [hget, Option.some.injEq, exists_eq_left', gt_iff_lt]
    rw [hgap, lt_longestSilence_iff hsorted, and_iff_right hobserved, LongSilence]
    simp only [hstart, hstop]
  · refine iff_of_false ?_ fun h => hobserved h.1
    rintro ⟨summary, hget, -⟩
    exact hobserved (observed_of_get? hget)

end HumaWare.BagEvaluator
