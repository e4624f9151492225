import HumaWare.BagEvaluator.Freshness

/-! # The command line tool

`cli.py`: the recording is evaluated for the default required topics, and the exit status is
non-zero if a required topic is missing or any topic is stale. What `rosbag2` reads is taken as
given, and the tolerated gap in nanoseconds.

The stale rule makes no difference between topics: `main_eq_zero_iff` says which recordings pass,
and `not_main_eq_zero` that a topic which speaks on events alone is held to the rule for timers. -/

namespace HumaWare.BagEvaluator

open Timeline

variable {V : Type*} [BEq V]

/-- `evaluate_bag`. -/
def evaluateBag (messages : List (Record V)) (maxGapNs : ℤ) : EvaluationResult V :=
  summarizeTopicFreshness messages defaultRequiredTopics maxGapNs

/-- `main`: the exit status. -/
def main (messages : List (Record V)) (maxGapNs : ℤ) : ℕ :=
  let result := evaluateBag messages maxGapNs
  if result.missingRequiredTopics ≠ [] ∨ result.staleTopics ≠ [] then 1 else 0

/-- A required topic is missing exactly if nothing recorded is an occurrence of it. -/
theorem mem_missing_iff {messages : List (Record V)} {required : List String} {maxGapNs : ℤ}
    {topic : String} :
    topic ∈ (summarizeTopicFreshness messages required maxGapNs).missingRequiredTopics ↔
      topic ∈ required ∧ ¬∃ r ∈ messages, isOccurrence topic r.topic = true := by
  have hobserved : ∀ observed, ((walk messages).summaries.get? observed).isSome ↔
      ∃ r ∈ messages, r.topic = observed := by
    intro observed
    rw [get?_summaries]
    by_cases hown : ownMessages observed messages = []
    · rw [if_pos hown]
      simpa [ownMessages] using hown
    · rw [if_neg hown]
      obtain ⟨r, hr⟩ := List.exists_mem_of_ne_nil _ hown
      exact iff_of_true rfl ⟨r, List.mem_of_mem_filter hr, by simpa using List.of_mem_filter hr⟩
  simp only [summarizeTopicFreshness, List.mem_filter, Bool.not_eq_true', Bool.eq_false_iff, Ne,
    requiredTopicPresent_keys_iff, hobserved]
  refine and_congr_right fun _ => not_congr ?_
  constructor
  · rintro ⟨_, ⟨r, hr, rfl⟩, hoccurrence⟩
    exact ⟨r, hr, hoccurrence⟩
  · rintro ⟨r, hr, hoccurrence⟩
    exact ⟨r.topic, ⟨r, hr, rfl⟩, hoccurrence⟩

/-- The exit code is zero if no required topic is missing or stale. -/
theorem main_eq_zero {messages : List (Record V)} {maxGapNs : ℤ} :
    main messages maxGapNs = 0 ↔ (evaluateBag messages maxGapNs).missingRequiredTopics = [] ∧
      (evaluateBag messages maxGapNs).staleTopics = [] := by
  simp only [main]
  split
  · next h =>
    refine iff_of_false Nat.one_ne_zero ?_
    rintro ⟨hmissing, hstale⟩
    rcases h with h | h
    · exact h hmissing
    · exact h hstale
  · next h =>
    rw [not_or, not_not, not_not] at h
    exact iff_of_true rfl h

/-- **Which recordings pass.** Nothing is reported as missing or stale and the exit status is zero
if and only if every default required topic occurs and no topic that occurs, event-driven ones
included, is silent anywhere in the recording window for longer than `max_gap_ns`. -/
theorem main_eq_zero_iff (recording : Recording V) (maxGapNs : ℤ) :
    ((evaluateBag recording.messages maxGapNs).missingRequiredTopics = [] ∧
        (evaluateBag recording.messages maxGapNs).staleTopics = [] ∧
        main recording.messages maxGapNs = 0) ↔
      (∀ topic ∈ defaultRequiredTopics, ∃ r ∈ recording.messages,
          isOccurrence topic r.topic = true) ∧
        ∀ r ∈ recording.messages, ¬LongSilence recording.messages maxGapNs r.topic := by
  rw [main_eq_zero, List.eq_nil_iff_forall_not_mem, List.eq_nil_iff_forall_not_mem]
  simp only [evaluateBag, mem_missing_iff, stale_iff]
  constructor
  · rintro ⟨hmissing, hstale, -⟩
    constructor
    · intro topic htopic
      by_contra habsent
      exact hmissing topic ⟨htopic, habsent⟩
    · intro r hr hsilence
      exact hstale r.topic ⟨⟨r, hr, rfl⟩, hsilence⟩
  · rintro ⟨hpresent, hfresh⟩
    have hmissing : ∀ topic, ¬(topic ∈ defaultRequiredTopics ∧
        ¬∃ r ∈ recording.messages, isOccurrence topic r.topic = true) := by
      rintro topic ⟨htopic, habsent⟩
      exact habsent (hpresent topic htopic)
    have hstale : ∀ topic, ¬((∃ r ∈ recording.messages, r.topic = topic) ∧
        LongSilence recording.messages maxGapNs topic) := by
      rintro _ ⟨⟨r, hr, rfl⟩, hsilence⟩
      exact hfresh r hr hsilence
    exact ⟨hmissing, hstale, hmissing, hstale⟩

/-! ## Topics that speak on events alone -/

/-- The runtime topics without a timer: a mode request is answered when it is made, and a candidate
is published while its source is driving. -/
def eventDrivenTopics : List String :=
  ["mode/transition_state", "teleop/cmd_vel", "autonomy/cmd_vel", "policy/cmd_vel"]

/-- A recording in time order. -/
def Recording.ofSorted {V : Type*} (messages : List (Record V))
    (h : (messages.map Record.timestampNs).Pairwise (· ≤ ·)) : Recording V where
  messages := messages
  ordered _ := h.sublist (List.filter_sublist.map Record.timestampNs)

/-- Every timer of the runtime speaks at the same instant. -/
def timerRecords (timestampNs : ℤ) : List (Record ℕ) :=
  (defaultRequiredTopics.filter (· ∉ eventDrivenTopics)).map fun topic =>
    { topic := topic, timestampNs := timestampNs, message := fun _ => none }

/-- The answer to an accepted mode request. -/
def requestRecord (timestampNs : ℤ) : Record ℕ where
  topic := "mode/transition_state"
  timestampNs := timestampNs
  message := fun fieldName => if fieldName = "outcome" then some 1 else none

/-- Three seconds of the runtime: the timers speak every 1.5 seconds, and one mode request is
answered after the first second. -/
def oneRequest : Recording ℕ :=
  Recording.ofSorted (timerRecords 0 ++ [requestRecord 1000000000] ++ timerRecords 1500000000 ++
    timerRecords 3000000000) (by decide +kernel)

/-- **A healthy recording can fail.** One mode request in the middle of a recording is reported as a
stale topic. -/
theorem not_main_eq_zero :
    ¬∀ (recording : Recording ℕ) (maxGapNs : ℤ),
      (∀ topic ∈ defaultRequiredTopics, ∃ r ∈ recording.messages,
        isOccurrence topic r.topic = true) →
      (∀ r ∈ recording.messages, (∀ event ∈ eventDrivenTopics, ¬isOccurrence event r.topic = true) →
        ¬LongSilence recording.messages maxGapNs r.topic) →
      (evaluateBag recording.messages maxGapNs).missingRequiredTopics = [] ∧
        (evaluateBag recording.messages maxGapNs).staleTopics = [] ∧
        main recording.messages maxGapNs = 0 := by
  intro hall
  have hstale : (evaluateBag oneRequest.messages 1500000000).staleTopics =
      ["mode/transition_state"] := by decide +kernel
  refine absurd (hall oneRequest 1500000000 (by decide +kernel) ?_).2.1 (by simp [hstale])
  intro r hr htimer hsilence
  have hmem : r.topic ∈ (evaluateBag oneRequest.messages 1500000000).staleTopics :=
    (stale_iff oneRequest defaultRequiredTopics 1500000000 r.topic).mpr ⟨⟨r, hr, rfl⟩, hsilence⟩
  -- the one stale topic is not a timer's
  rw [hstale, List.mem_singleton] at hmem
  refine htimer "mode/transition_state" (by decide) ?_
  rw [hmem]
  decide

end HumaWare.BagEvaluator
