import HumaWare.Python.Dict
import HumaWare.Python.Text
import Mathlib.Data.List.Sort

/-! # The bag evaluator

`evaluator.py`, function by function. The recording is walked once: the loop keeps a summary, the
last timestamp and the last value of each watched field for every topic, in three dictionaries, and
a list of the changes seen. A second pass over the summaries then measures each topic's longest
silence against the recording window that all topics span together.

A message is known by what `getattr(message, field_name, None)` gives, and a field value by the
comparison `!=` alone, so the type of the values is a parameter. Timestamps are in nanoseconds. -/

namespace HumaWare.BagEvaluator

open Python

/-- `DEFAULT_REQUIRED_TOPICS`. -/
def defaultRequiredTopics : List String :=
  ["mode/state", "mode/transition_state", "safety/state", "safety/mrm_state", "locomotion/state",
    "runtime/command_arbitration_state", "runtime/health", "cmd_vel/approved"]

/-- `TopicSummary`. -/
structure TopicSummary where
  topic : String
  messageCount : ℕ := 0
  firstTimestampNs : Option ℤ := none
  lastTimestampNs : Option ℤ := none
  maxGapNs : ℤ := 0
  coverageGapNs : ℤ := 0
  deriving DecidableEq, Repr

/-- `TransitionEvent`. -/
structure TransitionEvent (V : Type*) where
  topic : String
  fieldName : String
  previous : V
  current : V
  timestampNs : ℤ
  deriving DecidableEq, Repr

/-- `EvaluationResult`. -/
structure EvaluationResult (V : Type*) where
  summaries : Dict String TopicSummary
  transitions : List (TransitionEvent V)
  missingRequiredTopics : List String
  staleTopics : List String

/-- A recorded `(topic, timestamp_ns, message)`. -/
structure Record (V : Type*) where
  topic : String
  timestampNs : ℤ
  /-- `getattr(message, field_name, None)` -/
  message : String → Option V

/-- `WATCHED_FIELDS_BY_TOPIC`. -/
def watchedFieldsByTopic : Dict String (List String) where
  items :=
    [("mode/state", ["active_mode"]), ("mode/transition_state", ["outcome"]),
      ("safety/state", ["state"]), ("safety/mrm_state", ["state"]),
      ("runtime/command_arbitration_state", ["active_source", "output_enabled"]),
      ("runtime/health", ["state"]), ("locomotion/state", ["state"])]
  nodup := by decide

/-- `_normalize_topic`. -/
def normalizeTopic (topic : String) : String :=
  let stripped := lstrip topic '/'
  match splitOnce stripped '/' with
  | [_, base] => if base ∈ watchedFieldsByTopic.keys then base else stripped
  | _ => stripped

/-- `_watched_fields`. -/
def watchedFields (topic : String) : List String :=
  (watchedFieldsByTopic.get? (normalizeTopic topic)).getD []

/-- `_required_topic_present`: the test made of one observed topic. -/
def isOccurrence (requiredTopic observed : String) : Bool :=
  let stripped := lstrip observed '/'
  stripped == requiredTopic || endsWith stripped ("/" ++ requiredTopic)

/-- `_required_topic_present`. -/
def requiredTopicPresent (requiredTopic : String) (observedTopics : List String) : Bool :=
  observedTopics.any (isOccurrence requiredTopic)

/-- `_coverage_gap`. -/
def coverageGap (summary : TopicSummary) (recordingStart recordingEnd : Option ℤ) : ℤ :=
  let leading := match recordingStart, summary.firstTimestampNs with
    | some start, some first => [first - start]
    | _, _ => []
  let trailing := match recordingEnd, summary.lastTimestampNs with
    | some stop, some last => [stop - last]
    | _, _ => []
  (leading ++ trailing).foldl max summary.maxGapNs

/-- `summarize_topic_freshness`: the variables of its loop. -/
structure Walk (V : Type*) where
  summaries : Dict String TopicSummary := Dict.empty
  lastTimestamp : Dict String ℤ := Dict.empty
  transitions : List (TransitionEvent V) := []
  previousValues : Dict (String × String) V := Dict.empty

variable {V : Type*}

/-- `summarize_topic_freshness`: what one message changes in its topic's summary, given the topic's
last timestamp. -/
def TopicSummary.observe (summary : TopicSummary) (lastTimestamp : Option ℤ) (timestampNs : ℤ) :
    TopicSummary where
  topic := summary.topic
  messageCount := summary.messageCount + 1
  firstTimestampNs := some (summary.firstTimestampNs.getD timestampNs)
  lastTimestampNs := some timestampNs
  maxGapNs :=
    match lastTimestamp with
    | some last =>
      if timestampNs - last > summary.maxGapNs then timestampNs - last else summary.maxGapNs
    | none => summary.maxGapNs
  coverageGapNs := summary.coverageGapNs

/-- `summarize_topic_freshness`: the inner loop's body, for one watched field. -/
def track [BEq V] (record : Record V) (w : Walk V) (fieldName : String) : Walk V :=
  match record.message fieldName with
  | none => w
  | some current =>
    { w with
      transitions :=
        match w.previousValues.get? (record.topic, fieldName) with
        | some previous =>
          if previous != current then
            w.transitions ++ [
              { topic := record.topic
                fieldName := fieldName
                previous := previous
                current := current
                timestampNs := record.timestampNs }]
          else w.transitions
        | none => w.transitions
      previousValues := w.previousValues.set (record.topic, fieldName) current }

/-- `summarize_topic_freshness`: the loop's body. -/
def observe [BEq V] (w : Walk V) (record : Record V) : Walk V :=
  let summary := (w.summaries.get? record.topic).getD { topic := record.topic }
  let summary := summary.observe (w.lastTimestamp.get? record.topic) record.timestampNs
  (watchedFields record.topic).foldl (track record)
    { w with
      summaries := w.summaries.set record.topic summary
      lastTimestamp := w.lastTimestamp.set record.topic record.timestampNs }

/-- `summarize_topic_freshness`: the loop. -/
def walk [BEq V] (messages : List (Record V)) : Walk V := messages.foldl observe {}

/-- `summarize_topic_freshness`: `recording_start`. -/
def recordingStart (summaries : Dict String TopicSummary) : Option ℤ :=
  (summaries.values.filterMap TopicSummary.firstTimestampNs).min?

/-- `summarize_topic_freshness`: `recording_end`. -/
def recordingEnd (summaries : Dict String TopicSummary) : Option ℤ :=
  (summaries.values.filterMap TopicSummary.lastTimestampNs).max?

/-- `summarize_topic_freshness`: the pass that fills in the coverage gaps. -/
def coverSummaries (summaries : Dict String TopicSummary) : Dict String TopicSummary :=
  summaries.mapValues fun summary =>
    { summary with
      coverageGapNs := coverageGap summary (recordingStart summaries) (recordingEnd summaries) }

/-- `summarize_topic_freshness`. -/
def summarizeTopicFreshness [BEq V] (messages : List (Record V)) (requiredTopics : List String)
    (maxGapNs : ℤ) : EvaluationResult V :=
  let w := walk messages
  let summaries := coverSummaries w.summaries
  { summaries := summaries
    transitions := w.transitions
    missingRequiredTopics :=
      requiredTopics.filter fun topic => !requiredTopicPresent topic w.summaries.keys
    staleTopics :=
      ((summaries.items.filter fun item => item.2.coverageGapNs > maxGapNs).map
        Prod.fst).insertionSort (· ≤ ·) }

end HumaWare.BagEvaluator
