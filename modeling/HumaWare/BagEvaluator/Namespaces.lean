import HumaWare.BagEvaluator.Cli

/-! # Two readings of a namespaced name

A recorded topic name is read twice: `_required_topic_present` looks for a required name at the end
of it, after any number of segments, and `_normalize_topic` takes off one leading segment. The two
readings agree on a name as long as it has at most one segment before the runtime topic.

* **`agree_iff`** — exactly then; `not_agree` is a robot under the two segments `/hw/<robot_id>`;
* **`not_tracked`** — beyond that the topic is counted as present and none of its changes is
  reported. -/

namespace HumaWare.BagEvaluator

open Python

variable {required base observed : String}

/-! ## Presence -/

/-- Presence, on the name as recorded. -/
theorem isOccurrence_iff (h : required.toList.head? ≠ some '/') :
    isOccurrence required observed = true ↔
      observed = required ∨ endsWith observed ("/" ++ required) = true := by
  rw [isOccurrence, Bool.or_eq_true, beq_iff_eq]
  exact lstrip_eq_or_endsWith_iff h

/-- Presence, as segments before the required topic. -/
theorem isOccurrence_iff_exists :
    isOccurrence required observed = true ↔ lstrip observed '/' = required ∨
      ∃ segments : String, lstrip observed '/' = segments ++ "/" ++ required := by
  rw [isOccurrence, Bool.or_eq_true, beq_iff_eq, endsWith_iff]
  refine or_congr_right ?_
  constructor
  · rintro ⟨segments, h⟩
    refine ⟨String.ofList segments, ?_⟩
    rw [← String.toList_inj, ← h]
    simp
  · rintro ⟨segments, h⟩
    have hlist : (lstrip observed '/').toList = segments.toList ++ ("/" ++ required).toList := by
      rw [h, String.append_assoc]
      exact String.toList_append
    rw [hlist]
    exact List.suffix_append _ _

/-! ## Tracking -/

/-- Every watched runtime topic has two segments. -/
theorem count_base (hbase : base ∈ watchedFieldsByTopic.keys) : base.toList.count '/' = 1 := by
  have hkeys : ∀ base ∈ watchedFieldsByTopic.keys, base.toList.count '/' = 1 := by decide
  exact hkeys base hbase

/-- A name with segments in front has more slashes. -/
theorem count_append (segments base : String) :
    (segments ++ "/" ++ base).toList.count '/' =
      segments.toList.count '/' + 1 + base.toList.count '/' := by
  simp [add_assoc, add_comm 1]

/-- **What is normalised to a watched topic**: the topic itself, or the topic after one segment. -/
theorem normalizeTopic_eq_iff (hbase : base ∈ watchedFieldsByTopic.keys) :
    normalizeTopic observed = base ↔ lstrip observed '/' = base ∨
      ∃ robot : String, '/' ∉ robot.toList ∧ lstrip observed '/' = robot ++ "/" ++ base := by
  rw [normalizeTopic]
  rcases not_mem_or_exists_append (lstrip observed '/') '/' with h | ⟨before, after, hbefore, h⟩
  · -- a name without a slash stays as it is
    rw [splitOnce_of_not_mem h]
    refine ⟨Or.inl, ?_⟩
    rintro (heq | ⟨robot, -, heq⟩)
    · exact heq
    · rw [heq] at h
      simp at h
  · have hsplit : splitOnce (lstrip observed '/') '/' = [before, after] := by
      rw [h, splitOnce_append hbefore]
    rw [hsplit]
    by_cases hafter : after ∈ watchedFieldsByTopic.keys
    · simp only [hafter, if_true]
      constructor
      · rintro rfl
        exact Or.inr ⟨before, hbefore, h⟩
      · rintro (heq | ⟨robot, hrobot, heq⟩)
        · -- a watched topic does not end with another one
          have hcount := count_append before after
          rw [count_base hafter] at hcount
          have hone := count_base hbase
          rw [← heq, h] at hone
          exact absurd (hcount.symm.trans hone) (by omega)
        · rw [heq, ← show String.singleton '/' = "/" from rfl, splitOnce_append hrobot] at hsplit
          simpa using (List.cons.inj (List.cons.inj hsplit).2).1.symm
    · simp only [hafter, if_false]
      refine ⟨Or.inl, ?_⟩
      rintro (heq | ⟨robot, hrobot, heq⟩)
      · exact heq
      · rw [heq, ← show String.singleton '/' = "/" from rfl, splitOnce_append hrobot] at hsplit
        have hafter' : base = after := (List.cons.inj (List.cons.inj hsplit).2).1
        exact absurd (hafter' ▸ hbase) hafter

/-- A name that is watched has at most one segment before the runtime topic. -/
theorem count_le_of_mem_keys (h : normalizeTopic observed ∈ watchedFieldsByTopic.keys) :
    (lstrip observed '/').toList.count '/' ≤ 2 := by
  have hbase := count_base h
  rcases (normalizeTopic_eq_iff h).mp rfl with heq | ⟨robot, hrobot, heq⟩
  · rw [heq, hbase]
    exact Nat.le_succ 1
  · rw [heq, count_append, List.count_eq_zero_of_not_mem hrobot, hbase]

/-! ## Agreement -/

/-- Presence and tracking agree on a recorded name: an occurrence of the runtime topic is normalised
to it and has its watched fields, and what is normalised to it is an occurrence. -/
def Agree (base observed : String) : Prop :=
  (isOccurrence base observed = true →
    normalizeTopic observed = base ∧
      watchedFieldsByTopic.get? base = some (watchedFields observed)) ∧
  (normalizeTopic observed = base → isOccurrence base observed = true)

/-- What stands before the runtime topic in the recorded name, if anything does, is one segment. -/
def OneSegment (base observed : String) : Prop :=
  ∀ segments : String, lstrip observed '/' = segments ++ "/" ++ base → '/' ∉ segments.toList

/-- **Presence and tracking agree exactly on names with one segment.** For any recorded name and any
watched runtime topic. -/
theorem agree_iff (observed : String) (hbase : base ∈ watchedFieldsByTopic.keys) :
    Agree base observed ↔ OneSegment base observed := by
  constructor
  · rintro ⟨htracked, -⟩ segments hsegments
    have hoccurrence : isOccurrence base observed = true :=
      isOccurrence_iff_exists.mpr (Or.inr ⟨segments, hsegments⟩)
    have hnormal := (htracked hoccurrence).1
    have hcount := count_le_of_mem_keys (hnormal ▸ hbase)
    rw [hsegments, count_append, count_base hbase] at hcount
    exact List.count_eq_zero.mp (by omega)
  · intro hone
    refine ⟨fun hoccurrence => ?_, fun hnormal => ?_⟩
    · have hnormal : normalizeTopic observed = base := by
        rw [normalizeTopic_eq_iff hbase]
        rcases isOccurrence_iff_exists.mp hoccurrence with heq | ⟨segments, heq⟩
        · exact Or.inl heq
        · exact Or.inr ⟨segments, hone segments heq, heq⟩
      obtain ⟨fields, hfields⟩ := Option.isSome_iff_exists.mp (Dict.mem_keys_iff.mp hbase)
      refine ⟨hnormal, ?_⟩
      rw [watchedFields, hnormal, hfields, Option.getD_some]
    · rw [isOccurrence_iff_exists]
      rcases (normalizeTopic_eq_iff hbase).mp hnormal with heq | ⟨robot, -, heq⟩
      · exact Or.inl heq
      · exact Or.inr ⟨robot, heq⟩

/-- One robot, under its own name. -/
theorem agree_iff_robot :
    Agree "mode/state" "/mock_001/mode/state" ↔ OneSegment "mode/state" "/mock_001/mode/state" :=
  agree_iff "/mock_001/mode/state" (by decide)

/-- **Presence and tracking disagree** on a robot under the namespace `/hw/<robot_id>`. -/
theorem not_agree :
    ¬∀ observed, ∀ base ∈ watchedFieldsByTopic.keys, Agree base observed := by
  intro hall
  have hagree := hall "/hw/mock_001/mode/state" "mode/state" (by decide)
  have hoccurrence : isOccurrence "mode/state" "/hw/mock_001/mode/state" = true := by decide
  exact absurd (hagree.1 hoccurrence).1 (by decide)

/-! ## What is dropped -/

section Dropped

variable {V : Type*} [BEq V]

/-- The inner loop reports changes of the message's topic and of the fields it goes through. -/
theorem mem_transitions_foldl {record : Record V} {fields : List String} {w : Walk V}
    {event : TransitionEvent V} (h : event ∈ (fields.foldl (track record) w).transitions) :
    event ∈ w.transitions ∨ event.topic = record.topic ∧ event.fieldName ∈ fields := by
  induction fields generalizing w with
  | nil => exact Or.inl h
  | cons fieldName fields ih =>
    rcases ih h with hmem | ⟨htopic, hfield⟩
    · unfold track at hmem
      cases hmessage : record.message fieldName with
      | none =>
        rw [hmessage] at hmem
        exact Or.inl hmem
      | some current =>
        rw [hmessage] at hmem
        dsimp only at hmem
        split at hmem
        · split at hmem
          · rcases List.mem_append.mp hmem with hmem | hnew
            · exact Or.inl hmem
            · rw [List.mem_singleton.mp hnew]
              exact Or.inr ⟨rfl, List.mem_cons_self⟩
          · exact Or.inl hmem
        · exact Or.inl hmem
    · exact Or.inr ⟨htopic, List.mem_cons_of_mem _ hfield⟩

/-- Every reported change is one of a watched field. -/
theorem watched_of_mem_transitions {messages : List (Record V)} {event : TransitionEvent V}
    (h : event ∈ (walk messages).transitions) : event.fieldName ∈ watchedFields event.topic := by
  unfold walk at h
  induction messages using List.reverseRecOn with
  | nil => simp at h
  | append_singleton messages record ih =>
    rw [List.foldl_concat, observe] at h
    rcases mem_transitions_foldl h with hbefore | ⟨htopic, hfield⟩
    · exact ih hbefore
    · rw [htopic]
      exact hfield

/-- **A recorded topic under two or more segments** satisfies the requirement for its runtime topic,
and none of its changes is reported. -/
theorem not_tracked {messages : List (Record V)} {requiredTopics : List String} {maxGapNs : ℤ}
    (hbase : base ∈ watchedFieldsByTopic.keys) (hdeep : ¬OneSegment base observed)
    (hrecorded : ∃ r ∈ messages, r.topic = observed) :
    base ∉ (summarizeTopicFreshness messages requiredTopics maxGapNs).missingRequiredTopics ∧
      ∀ event ∈ (summarizeTopicFreshness messages requiredTopics maxGapNs).transitions,
        event.topic ≠ observed := by
  obtain ⟨r, hr, rfl⟩ := hrecorded
  simp only [OneSegment, not_forall, not_not] at hdeep
  obtain ⟨segments, hsegments, hslash⟩ := hdeep
  constructor
  · rw [mem_missing_iff]
    rintro ⟨-, hmissing⟩
    exact hmissing ⟨r, hr, isOccurrence_iff_exists.mpr (Or.inr ⟨segments, hsegments⟩)⟩
  · rintro event hevent htopic
    have hwatched := watched_of_mem_transitions hevent
    rw [htopic, watchedFields] at hwatched
    have hkeys : normalizeTopic r.topic ∈ watchedFieldsByTopic.keys := by
      rw [Dict.mem_keys_iff]
      cases hfields : watchedFieldsByTopic.get? (normalizeTopic r.topic) with
      | none => simp [hfields] at hwatched
      | some fields => rfl
    have hcount := count_le_of_mem_keys hkeys
    rw [hsegments, count_append, count_base hbase] at hcount
    exact absurd (List.count_pos_iff.mpr hslash) (by omega)

end Dropped

end HumaWare.BagEvaluator
