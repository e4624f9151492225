import HumaWare.BagEvaluator.Reconstruction
import HumaWare.Reactive.Eager
import HumaWare.System.Lockdown

/-! # The recording tells the run

A run of the nodes is recorded, and the bag evaluator lists the changes of the recorded mode. The
mode manager publishes its mode from a timer and whenever it changes, so the list is the history of
the mode itself: from the first recorded mode on it has one event for each change and no other, and
the timestamps are off by no more than the recorder was late.

* **`eager_activeMode`** — what is published on `mode/state`, in any run;
* **`samples_readsAs`** — what the evaluator samples of a faithful recording;
* **`recorded_modes`** — the two joined. -/

namespace HumaWare.System

open BagEvaluator Reactive Timeline

variable {setup : Setup} {members : NodeId → Bool} {opens : Topic → Bool}

/-! ## What is published -/

/-- The mode that a message tells. -/
def Message.mode? : Message → Option UInt8
  | .runtime (.modeState msg) => some msg.activeMode
  | _ => none

/-- The active mode of the mode manager. -/
def activeMode (s : NetworkState) : UInt8 := s.nodes.runtime.modeManager.activeMode

/-- The modes that a step puts on `mode/state`. -/
def modesEmitted (setup : Setup) (members : NodeId → Bool) (opens : Topic → Bool)
    (s : NetworkState) (i : Action) : List UInt8 :=
  ((network setup members opens).emitted s i).filterMap Message.mode?

/-- The modes that a step publishes. -/
theorem mem_modesEmitted_iff {s : NetworkState} {i : Action} {mode : UInt8} :
    mode ∈ modesEmitted setup members opens s i ↔
      ∃ msg : ModeState, .runtime (.modeState msg) ∈ (network setup members opens).emitted s i ∧
        msg.activeMode = mode := by
  rw [modesEmitted, List.mem_filterMap]
  constructor
  · rintro ⟨m, hm, hmode⟩
    rcases m with m | m | m
    · cases m <;> simp only [Message.mode?, reduceCtorEq, Option.some.injEq] at hmode
      exact ⟨_, hm, hmode⟩
    · simp [Message.mode?] at hmode
    · simp [Message.mode?] at hmode
  · rintro ⟨msg, hmsg, rfl⟩
    exact ⟨_, hmsg, rfl⟩

/-- **`mode/state` tells the mode whenever it changes**, and never another one. -/
theorem eager_activeMode (hclosed : opens (.runtime .modeState) = false) :
    (network setup members opens).machine.Eager activeMode
      (modesEmitted setup members opens) where
  current := by
    intro s i mode hmode
    obtain ⟨msg, hmsg, rfl⟩ := mem_modesEmitted_iff.mp hmode
    obtain ⟨msg', heq, hout⟩ := output_of_modeState hclosed hmsg rfl
    obtain rfl : msg = msg' := by simpa using heq
    obtain ⟨e, hfired, hout⟩ := modeManager_output hout
    rw [ModeManager.step_modeState hout, activeMode, Network.next_nodes, hfired]
    rfl
  silent := by
    intro s i hsilent
    rcases modeManager_next setup members opens s i with hsame | ⟨e, hfired, hnext⟩
    · rw [activeMode, hsame]
      rfl
    · rw [activeMode, hnext]
      by_contra hne
      -- a change is published in the same step
      have hpub := ModeManager.modeState_of_ne hne
      have hmode : (ModeManager.stateMsg (ModeManager.step s.nodes.runtime.modeManager
          ⟨i.now, e⟩).1 i.now).activeMode ∈ modesEmitted setup members opens s i := by
        refine mem_modesEmitted_iff.mpr ⟨_, ?_, rfl⟩
        rw [Network.emitted, hfired]
        exact List.mem_filterMap.mpr ⟨.runtime (.modeManager (.modeState _)),
          List.mem_map_of_mem (List.mem_map_of_mem hpub), rfl⟩
      rw [hsilent] at hmode
      exact absurd hmode List.not_mem_nil

/-- The changes of the active mode along the steps `k` that follow the run `h`. -/
def modeChanges (setup : Setup) (members : NodeId → Bool) (opens : Topic → Bool)
    (h k : List Action) : List (Change Time UInt8) :=
  changesFrom (activeMode ((network setup members opens).machine.after h))
    ((network setup members opens).machine.trajectoryFrom activeMode
      ((network setup members opens).machine.after h) k)

/-! ## What is recorded -/

section Recorder

variable {V : Type*} {toValue : UInt8 → V} {latency : Duration} {topic : String}

/-- The modes `published` are recorded as messages of the topic: each one in its turn, with `toValue`
of it in the field, and at most `latency` after it was published. -/
def Recorded (toValue : UInt8 → V) (latency : Duration) (topic : String)
    (published : List (Time × UInt8)) (messages : List (Record V)) : Prop :=
  List.Forall₂ (fun publication record =>
    (publication.1 ≤ record.timestampNs ∧ record.timestampNs ≤ publication.1 + latency) ∧
      record.message "active_mode" = some (toValue publication.2))
    published (ownMessages topic messages)

/-- A place of the recording, for a time of the run. -/
def Shortly (latency : Duration) (t : Time) (place : Place) : Prop :=
  t ≤ place.timestampNs ∧ place.timestampNs ≤ t + latency

/-- The samples of a field, with the timestamps alone. -/
theorem map_timestampNs_samples (topic fieldName : String) (messages : List (Record V)) :
    (samples topic fieldName messages).map (fun sample => (sample.1.timestampNs, sample.2)) =
      (ownMessages topic messages).filterMap fun record =>
        (record.message fieldName).map fun value => (record.timestampNs, value) := by
  induction messages using List.reverseRecOn with
  | nil => rfl
  | append_singleton messages record ih =>
    rw [samples_concat, List.map_append, ih, ownMessages, ownMessages, List.filter_append,
      List.filterMap_append]
    congr 1
    by_cases htopic : record.topic = topic
    · cases hvalue : record.message fieldName <;> simp [htopic, hvalue]
    · simp [htopic]

/-- **The evaluator samples what was published.** -/
theorem samples_readsAs {published : List (Time × UInt8)} {messages : List (Record V)}
    (hrecorded : Recorded toValue latency topic published messages) :
    List.Forall₂ (ReadsAs (Shortly latency) toValue) published
      (samples topic "active_mode" messages) := by
  have hstamped : List.Forall₂ (fun publication sample =>
      (publication.1 ≤ sample.1 ∧ sample.1 ≤ publication.1 + latency) ∧
        sample.2 = toValue publication.2) published
      ((samples topic "active_mode" messages).map
        fun sample => (sample.1.timestampNs, sample.2)) := by
    rw [map_timestampNs_samples]
    rw [Recorded] at hrecorded
    generalize ownMessages topic messages = own at hrecorded ⊢
    induction hrecorded with
    | nil => exact List.Forall₂.nil
    | cons hrecord _ ih =>
      obtain ⟨htime, hvalue⟩ := hrecord
      rw [List.filterMap_cons, hvalue]
      exact List.Forall₂.cons ⟨htime, rfl⟩ ih
  rw [List.forall₂_map_right_iff] at hstamped
  exact hstamped

/-- The event reports the change of the mode. -/
structure Reports (toValue : UInt8 → V) (latency : Duration) (topic : String)
    (change : Change Time UInt8) (event : TransitionEvent V) : Prop where
  topic : event.topic = topic
  field : event.fieldName = "active_mode"
  previous : event.previous = toValue change.previous
  current : event.current = toValue change.current
  notBefore : change.place ≤ event.timestampNs
  notLate : event.timestampNs ≤ change.place + latency

/-- **The recording tells the run.** Take any run of the nodes in which nobody else publishes on
`mode/state`, and let its step `i` be the first that publishes there. If a recording holds what was
published, each message at most `latency` late and a mode as a value that `==` tells from others,
then the evaluator lists for the topic and `active_mode` exactly the changes of the mode manager's
mode after that step: one event each, in order, with both modes, at most `latency` after the
change. The other messages of the recording, and what else is asked of the evaluator, do not
matter. -/
theorem recorded_modes [BEq V] {pre post : List Action} {i : Action} {messages : List (Record V)}
    (hclosed : opens (.runtime .modeState) = false)
    (hvalue : ∀ mode mode', (toValue mode == toValue mode') = (mode == mode'))
    (hwatched : "active_mode" ∈ watchedFields topic)
    (hsilent : (network setup members opens).machine.published (modesEmitted setup members opens)
      pre = [])
    (hfirst : modesEmitted setup members opens
      ((network setup members opens).machine.after pre) i ≠ [])
    (hrecorded : Recorded toValue latency topic ((network setup members opens).machine.published
      (modesEmitted setup members opens) (pre ++ i :: post)) messages)
    (requiredTopics : List String) (maxGapNs : ℤ) :
    List.Forall₂ (Reports toValue latency topic) (modeChanges setup members opens (pre ++ [i]) post)
      ((summarizeTopicFreshness messages requiredTopics maxGapNs).eventsOf topic "active_mode") := by
  have hchanges := changes_readsAs hvalue (samples_readsAs hrecorded)
  rw [(eager_activeMode hclosed).changes_published hsilent hfirst] at hchanges
  rw [eventsOf_eq_field, walk_field hwatched, List.forall₂_map_right_iff]
  have hreports : ∀ change reading, Change.ReadsAs (Shortly latency) toValue change reading →
      Reports toValue latency topic change (event topic "active_mode" reading) := by
    rintro change reading ⟨⟨hnotBefore, hnotLate⟩, hprevious, hcurrent⟩
    exact ⟨rfl, rfl, hprevious, hcurrent, hnotBefore, hnotLate⟩
  exact hchanges.imp hreports

end Recorder

/-- The mode manager publishes `INACTIVE`, is set to `MAINTENANCE`, and publishes once more. -/
def maintenanceRun : List Action :=
  [⟨5, .act (.runtime (.modeManager (.setMode { requestedMode := ModeState.modeMaintenance })))⟩,
    ⟨8, .act (.runtime (.modeManager .publishState))⟩]

/-- Its recording, one clock tick late, with a message of another topic. -/
def maintenanceRecords : List (Record UInt8) :=
  [⟨"/mock_001/mode/state", 2, fun _ => some ModeState.modeInactive⟩,
    ⟨"/mock_001/safety/state", 3, fun _ => some SafetyState.stateOk⟩,
    ⟨"/mock_001/mode/state", 6, fun _ => some ModeState.modeMaintenance⟩,
    ⟨"/mock_001/mode/state", 9, fun _ => some ModeState.modeMaintenance⟩]

/-- The evaluator lists the one change of the mode. -/
theorem recorded_modes_maintenance :
    List.Forall₂ (Reports id 1 "/mock_001/mode/state")
        [⟨5, ModeState.modeInactive, ModeState.modeMaintenance⟩]
        ((summarizeTopicFreshness maintenanceRecords [] 0).eventsOf "/mock_001/mode/state"
          "active_mode") := by
  have hchanges : modeChanges {} (fun _ => true) (fun _ => false)
      ([] ++ [⟨1, .act (.runtime (.modeManager .publishState))⟩]) maintenanceRun =
        [⟨5, ModeState.modeInactive, ModeState.modeMaintenance⟩] := by
    decide +kernel
  rw [← hchanges]
  refine recorded_modes rfl (fun _ _ => rfl) (by decide) rfl (by decide +kernel) ?_ [] 0
  have hpublished : (network {} (fun _ => true) (fun _ => false)).machine.published
      (modesEmitted {} (fun _ => true) (fun _ => false))
      ([] ++ ⟨1, .act (.runtime (.modeManager .publishState))⟩ :: maintenanceRun) =
        [(1, ModeState.modeInactive), (5, ModeState.modeMaintenance),
          (8, ModeState.modeMaintenance)] := by
    decide +kernel
  rw [hpublished]
  exact .cons ⟨by decide, rfl⟩ (.cons ⟨by decide, rfl⟩ (.cons ⟨by decide, rfl⟩ .nil))

end HumaWare.System
