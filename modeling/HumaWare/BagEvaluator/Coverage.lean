import HumaWare.BagEvaluator.Namespaces

/-! # Coverage

What the freshness check promises about a recording as a whole: the stale topics are the topics with
a silence longer than `max_gap_ns` inside the recording window, the coverage gap measures the
longest silence, and the missing topics are those that no recorded name equals or ends with. -/

namespace HumaWare.BagEvaluator

open Python Timeline

variable {V : Type*}

/-- The instant lies in the recording window, from the earliest to the latest timestamp of all
messages. -/
def InWindow (messages : List (Record V)) (t : ℤ) : Prop :=
  (∃ r ∈ messages, r.timestampNs ≤ t) ∧ ∃ r ∈ messages, t ≤ r.timestampNs

/-- The topic is silent between two instants of the recording window. -/
def SilentInside (messages : List (Record V)) (topic : String) (a b : ℤ) : Prop :=
  InWindow messages a ∧ InWindow messages b ∧ Silent (times topic messages) a b

/-- The two instants of a silence in the window, by their outer ends alone. -/
theorem silentInside_iff {messages : List (Record V)} {topic : String} {a b : ℤ} :
    SilentInside messages topic a b ↔ (∃ r ∈ messages, r.timestampNs ≤ a) ∧
      (∃ r ∈ messages, b ≤ r.timestampNs) ∧ Silent (times topic messages) a b := by
  constructor
  · rintro ⟨⟨ha, -⟩, ⟨-, hb⟩, hsilent⟩
    exact ⟨ha, hb, hsilent⟩
  · rintro ⟨⟨r, hr, ha⟩, ⟨r', hr', hb⟩, hsilent⟩
    have hab : a ≤ b := hsilent.1
    exact ⟨⟨⟨r, hr, ha⟩, r', hr', hab.trans hb⟩, ⟨⟨r, hr, ha.trans hab⟩, r', hr', hb⟩, hsilent⟩

variable [BEq V]

/-- **Staleness is silence.** In any recording whose topics are each in time order, and for any
tolerated gap: a topic is flagged exactly if it was observed and is silent for longer than that
somewhere in the recording window; the coverage gap of an observed topic is the length of its
longest silence in the window; the flagged topics are listed in order and once each; and a required
topic that does not begin with a slash is missing exactly if no recorded name equals it or ends with
it after a slash. -/
theorem coverage (recording : Recording V) (requiredTopics : List String) {maxGapNs : ℤ}
    (hgap : 0 ≤ maxGapNs) :
    (∀ topic, topic ∈
          (summarizeTopicFreshness recording.messages requiredTopics maxGapNs).staleTopics ↔
        (∃ r ∈ recording.messages, r.topic = topic) ∧
          ∃ a b, a < b ∧ maxGapNs < b - a ∧ SilentInside recording.messages topic a b) ∧
      (∀ r ∈ recording.messages, ∃ summary,
        (summarizeTopicFreshness recording.messages requiredTopics maxGapNs).summaries.get?
            r.topic = some summary ∧
          IsGreatest {gap | ∃ a b, SilentInside recording.messages r.topic a b ∧ b - a = gap}
            summary.coverageGapNs) ∧
      (summarizeTopicFreshness recording.messages requiredTopics maxGapNs).staleTopics.Pairwise
          (· ≤ ·) ∧
      (summarizeTopicFreshness recording.messages requiredTopics maxGapNs).staleTopics.Nodup ∧
      ∀ topic ∈ requiredTopics, topic.toList.head? ≠ some '/' →
        (topic ∈ (summarizeTopicFreshness recording.messages requiredTopics
            maxGapNs).missingRequiredTopics ↔
          ¬∃ r ∈ recording.messages, r.topic = topic ∨
            endsWith r.topic ("/" ++ topic) = true) := by
  refine ⟨fun topic => ?_, ?_, staleTopics_sorted, staleTopics_nodup, ?_⟩
  · rw [stale_iff, LongSilence]
    refine and_congr_right fun _ => ?_
    constructor
    · rintro ⟨a, b, ha, hb, hsilent, hlong⟩
      have hab : a < b := by omega
      exact ⟨a, b, hab, hlong, silentInside_iff.mpr ⟨ha, hb, hsilent⟩⟩
    · rintro ⟨a, b, -, hlong, hsilent⟩
      obtain ⟨ha, hb, hsilent⟩ := silentInside_iff.mp hsilent
      exact ⟨a, b, ha, hb, hsilent, hlong⟩
  · intro r hr
    obtain ⟨summary, start, stop, hget, hcoverage, hsorted, hstart, hstop⟩ :=
      exists_coverage recording requiredTopics maxGapNs ⟨r, hr, rfl⟩
    refine ⟨summary, hget, ?_⟩
    rw [hcoverage]
    simp only [silentInside_iff, ← hstart, ← hstop, and_assoc]
    exact isGreatest_longestSilence hsorted
  · intro topic htopic hslash
    rw [mem_missing_iff, and_iff_right htopic]
    simp only [isOccurrence_iff hslash]

/-- Three seconds of a runtime in which one request is answered. -/
theorem coverage_oneRequest :
    "mode/transition_state" ∈
        (summarizeTopicFreshness oneRequest.messages defaultRequiredTopics 1500000000).staleTopics ↔
      (∃ r ∈ oneRequest.messages, r.topic = "mode/transition_state") ∧
        ∃ a b, a < b ∧ 1500000000 < b - a ∧
          SilentInside oneRequest.messages "mode/transition_state" a b :=
  (coverage oneRequest defaultRequiredTopics (by decide)).1 "mode/transition_state"

end HumaWare.BagEvaluator
