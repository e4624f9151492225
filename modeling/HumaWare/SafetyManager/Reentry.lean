import HumaWare.SafetyManager.Findings

/-! # The approved-command watchdog and the entry into a mode

The approved-command watchdog measures the age of the last approved command, whenever that came. The
node ignores the case in which no command ever came as the normal transient of a mode entry; the
second entry into an active mode is the same transient, but finds the old command and its age.

* **`shown_approvedCommand_iff`** — when the text is published: in the warnings, or as the MRM reason;
* **`approvedCommandTimeout_iff`** — exactly which publications show it wrongly. -/

namespace HumaWare.SafetyManager

open Reactive

/-- At `now`, the mode has been an active one for longer than `timeout`: it has been ever since some
input that was handled more than `timeout` ago. -/
def ActiveLongerThan (h : List Input) (now : Time) (timeout : Duration) : Prop :=
  ∃ pre i post, h = pre ++ i :: post ∧ now - i.now > timeout ∧
    ∀ k, k <+: post → modeIn (pre ++ i :: k) ∈ heartbeatModes

/-- No approved command was received in the last `timeout` before `now`. -/
def NoCommandWithin (h : List Input) (now : Time) (timeout : Duration) : Prop :=
  ∀ i ∈ h, ∀ msg, i.event = .approvedCommand msg → now - i.now > timeout

/-- The mode became an active one at most `timeout` before `now`, and has been active since. -/
def EnteredWithin (h : List Input) (now : Time) (timeout : Duration) : Prop :=
  ∃ pre i post, h = pre ++ i :: post ∧ modeIn pre ∉ heartbeatModes ∧
    (∀ k, k <+: post → modeIn (pre ++ i :: k) ∈ heartbeatModes) ∧ now - i.now ≤ timeout

/-- The text that the watchdog gives. -/
def approvedCommandText : String := "approved_command_timeout"

/-- A publication shows the text of the approved-command watchdog: among the warnings of the safety
state, or as the reason of the MRM state. -/
def ShowsTimeout (safety : SafetyState) (mrm : MRMState) : Prop :=
  approvedCommandText ∈ safety.activeWarnings ∨ mrm.reason = approvedCommandText

/-- The watchdog's finding is not hidden: a warning is, by the E-stop; a reason for an MRM is, by an
operator's text and by a heartbeat watchdog that triggers an MRM as well. -/
def State.Unhidden (s : State) (now : Time) : Prop :=
  if s.params.approvedCommandTimeoutTriggersMrm then
    s.operatorReason = none ∧ ¬s.Promoted now .teleopHeartbeat ∧ ¬s.Promoted now .hardwareHeartbeat
  else s.params.estopEngaged = false

/-- **A stale re-entry.** The watchdog is on, the mode became an active one at most the timeout ago,
and the last approved command is from before that, more than the timeout ago; and the finding is not
hidden. -/
structure StaleReentry (params : Params) (h : List Input) (now : Time) : Prop where
  monitored : (paramsIn params h).monitorApprovedCommands = true
  entered : EnteredWithin h now (paramsIn params h).approvedCommandTimeout
  command : ∃ t, latest (heard .approvedCommand) h = some t ∧
    now - t > (paramsIn params h).approvedCommandTimeout
  unhidden : ((machine params).after h).Unhidden now

/-- **An operator's text.** The reason that an operator gave for an MRM happens to be the text of the
watchdog, while no active mode is on, or one was entered at most the timeout ago, or a command was
approved within it. -/
structure OperatorsTimeout (params : Params) (h : List Input) (now : Time) : Prop where
  text : ((machine params).after h).operatorReason = some approvedCommandText
  early : modeIn h ∉ heartbeatModes ∨ EnteredWithin h now (paramsIn params h).approvedCommandTimeout ∨
    ∃ i ∈ h, (∃ msg, i.event = .approvedCommand msg) ∧
      now - i.now ≤ (paramsIn params h).approvedCommandTimeout

/-! ## When the text is published -/

/-- Without an operator's text, the reason selected is the watchdog's if no heartbeat comes first. -/
theorem mrmReason_eq_approvedCommandText_iff {s : State} {now : Time} (hnone : s.operatorReason = none)
    (htriggers : s.params.approvedCommandTimeoutTriggersMrm = true)
    (hfires : s.Fires now .approvedCommand) : mrmReason s now = approvedCommandText ↔
      ¬s.Promoted now .teleopHeartbeat ∧ ¬s.Promoted now .hardwareHeartbeat := by
  have happroved : s.Promoted now .approvedCommand := ⟨hfires, htriggers⟩
  constructor
  · intro hreason
    rw [mrmReason_of_none hnone, watchdogs_eq, (foldl_append_reasons _ _ _).2, List.nil_append,
      Watchdog.all, List.filterMap_cons, List.filterMap_cons] at hreason
    -- the reason of a heartbeat that is promoted comes before that of the approved commands
    have hteleop : ¬s.Promoted now .teleopHeartbeat := by
      rintro ⟨hfires, hpromoted⟩
      rw [State.finding_eq_some_iff.mpr ⟨hfires, rfl, hpromoted⟩] at hreason
      have hsame : Watchdog.reason .teleopHeartbeat (s.lastSeen .teleopHeartbeat) =
          Watchdog.reason .approvedCommand none := hreason
      exact absurd (Watchdog.reason_inj hsame) (by decide)
    refine ⟨hteleop, ?_⟩
    rintro ⟨hfires, hpromoted⟩
    rw [State.finding_eq_some_iff.mpr ⟨hfires, rfl, hpromoted⟩] at hreason
    have hsame : Watchdog.reason .hardwareHeartbeat (s.lastSeen .hardwareHeartbeat) =
        Watchdog.reason .approvedCommand none := by
      cases hfound : s.finding now .teleopHeartbeat with
      | none =>
        rw [hfound] at hreason
        exact hreason
      | some found =>
        obtain ⟨reason, triggers⟩ := found
        obtain ⟨hfires', -, htriggers'⟩ := State.finding_eq_some_iff.mp hfound
        cases triggers with
        | true => exact absurd ⟨hfires', htriggers'⟩ hteleop
        | false =>
          rw [hfound] at hreason
          exact hreason
    exact absurd (Watchdog.reason_inj hsame) (by decide)
  · rintro ⟨hteleop, hhardware⟩
    obtain ⟨w, hw, hreason⟩ := mrmReason_of_promoted hnone happroved
    cases w with
    | approvedCommand => exact hreason
    | teleopHeartbeat => exact absurd hw hteleop
    | hardwareHeartbeat => exact absurd hw hhardware

/-- The text is among the findings exactly if the watchdog fires. -/
theorem fires_of_mem_findings {s : State} {now : Time}
    (hmem : approvedCommandText ∈ (watchdogs s now).warnings ++ (watchdogs s now).mrmReasons) :
    s.Fires now .approvedCommand :=
  reported_iff.mp ⟨none, hmem⟩

/-- The reasons for an MRM hold the text only if the watchdog triggers one. -/
theorem triggersMrm_of_mem_mrmReasons {s : State} {now : Time}
    (hmem : approvedCommandText ∈ (watchdogs s now).mrmReasons) :
    s.params.approvedCommandTimeoutTriggersMrm = true := by
  obtain ⟨w, -, htriggers, hreason⟩ := mem_mrmReasons_iff.mp hmem
  have hsame : w.reason (s.lastSeen w) = Watchdog.reason .approvedCommand none := hreason
  rw [Watchdog.reason_inj hsame] at htriggers
  exact htriggers

/-- The text is none of the node's own. -/
theorem approvedCommandText_notMem_own : approvedCommandText ∉
    ["minimal_risk_maneuver_active", "parameter_mrm_active", "service_mrm_active", ""] := by decide

/-- Without an operator's text, the text is the reason selected only as a finding. -/
theorem mem_mrmReasons_of_mrmReason_eq {s : State} {now : Time}
    (hoperator : s.operatorReason ≠ some approvedCommandText)
    (hreason : mrmReason s now = approvedCommandText) :
    s.operatorReason = none ∧ approvedCommandText ∈ (watchdogs s now).mrmReasons := by
  cases hop : s.operatorReason with
  | some text =>
    rw [mrmReason_of_operatorReason hop] at hreason
    rw [hreason] at hop
    exact absurd hop hoperator
  | none =>
    refine ⟨rfl, ?_⟩
    rcases mrmReason_cases hop now with hmem | hmem
    · rwa [hreason] at hmem
    · rw [hreason] at hmem
      exact absurd (List.mem_cons_of_mem _ hmem) approvedCommandText_notMem_own

/-- **When the text of the watchdog is published.** -/
theorem shown_approvedCommand_iff (s : State) (now : Time) :
    ShowsTimeout (safetyMsg s now) (mrmMsg s now) ↔
      s.operatorReason = some approvedCommandText ∨ s.Fires now .approvedCommand ∧ s.Unhidden now := by
  constructor
  · intro hshown
    refine or_iff_not_imp_left.mpr fun hoperator => ?_
    have hfires : s.Fires now .approvedCommand := by
      by_contra hquiet
      have hmem := mt (fires_of_mem_findings (s := s)) hquiet
      rw [List.mem_append, not_or] at hmem
      obtain ⟨hwarnings, hreason⟩ := not_shown_of_not_reported hmem.1 hmem.2 hoperator
        approvedCommandText_notMem_own
      exact hshown.elim hwarnings hreason
    refine ⟨hfires, ?_⟩
    have hselected : mrmReason s now = approvedCommandText → s.Unhidden now := by
      intro hreason
      obtain ⟨hnone, hmem⟩ := mem_mrmReasons_of_mrmReason_eq hoperator hreason
      have htriggers := triggersMrm_of_mem_mrmReasons hmem
      rw [State.Unhidden, if_pos htriggers]
      exact ⟨hnone, (mrmReason_eq_approvedCommandText_iff hnone htriggers hfires).mp hreason⟩
    rcases hshown with hwarning | hreason
    · have hestop : s.params.estopEngaged = false := by
        refine Bool.eq_false_of_not_eq_true fun hestop => ?_
        rw [safetyMsg, if_pos hestop] at hwarning
        exact absurd hwarning List.not_mem_nil
      by_cases htriggers : s.params.approvedCommandTimeoutTriggersMrm = true
      · have hpromoted : s.Promoted now .approvedCommand := ⟨hfires, htriggers⟩
        exact hselected ((shown_iff_of_promoted hestop hpromoted).mp hwarning).symm
      · rw [State.Unhidden, if_neg htriggers]
        exact hestop
    · exact hselected hreason
  · rintro (htext | ⟨hfires, hunhidden⟩)
    · exact Or.inr (mrmReason_of_operatorReason htext now)
    · by_cases htriggers : s.params.approvedCommandTimeoutTriggersMrm = true
      · rw [State.Unhidden, if_pos htriggers] at hunhidden
        obtain ⟨hnone, hfirst⟩ := hunhidden
        exact Or.inr ((mrmReason_eq_approvedCommandText_iff hnone htriggers hfires).mpr hfirst)
      · rw [State.Unhidden, if_neg htriggers] at hunhidden
        exact Or.inl (shown_of_warns hunhidden hfires (Bool.eq_false_of_not_eq_true htriggers))

/-- What the watchdog measures, spelled out. -/
theorem fires_approvedCommand_iff {params : Params} {h : List Input} {now : Time} :
    Fires params h now .approvedCommand ↔
      (paramsIn params h).monitorApprovedCommands = true ∧ modeIn h ∈ heartbeatModes ∧
        ∃ t, latest (heard .approvedCommand) h = some t ∧
          now - t > (paramsIn params h).approvedCommandTimeout := by
  rw [Fires]
  cases latest (heard .approvedCommand) h with
  | none => simp [Watchdog.Overdue, Watchdog.firesOnSilence]
  | some t => simp [Watchdog.Overdue, Watchdog.enabled, Watchdog.modes, Watchdog.timeout]

/-- An approved command is heard as one, and nothing else is. -/
theorem heard_approvedCommand_iff {i : Input} {t : Time} :
    heard .approvedCommand i = some t ↔ (∃ msg, i.event = .approvedCommand msg) ∧ i.now = t := by
  obtain ⟨now, event⟩ := i
  cases event <;> simp [heard]

/-- If the last approved command is overdue, then so is every earlier one. -/
theorem noCommandWithin_of_latest {h : List Input} (hmono : ClockMonotone h) {now t : Time}
    {timeout : Duration} (hlast : latest (heard .approvedCommand) h = some t)
    (hage : now - t > timeout) : NoCommandWithin h now timeout := by
  obtain ⟨pre, j, post, rfl, hj, hpost⟩ := latest_eq_some_iff.mp hlast
  obtain ⟨-, rfl⟩ := heard_approvedCommand_iff.mp hj
  intro i hi msg hmsg
  rcases List.mem_append.mp hi with hi | hi
  · have hle : i.now ≤ j.now := hmono.le_of_append hi List.mem_cons_self
    exact lt_of_lt_of_le hage (sub_le_sub_left hle now)
  rcases List.mem_cons.mp hi with rfl | hi
  · exact hage
  · -- after the last command there is none
    have hsome : heard .approvedCommand i = some i.now :=
      heard_approvedCommand_iff.mpr ⟨⟨msg, hmsg⟩, rfl⟩
    rw [hpost i hi] at hsome
    exact absurd hsome (by simp)

/-- A mode that was entered at most the timeout ago was not active for longer. -/
theorem not_activeLongerThan {h pre post : List Input} {i : Input} (hmono : ClockMonotone h)
    (hsplit : h = pre ++ i :: post) (hentry : modeIn pre ∉ heartbeatModes) {now : Time}
    {timeout : Duration} (hage : now - i.now ≤ timeout) : ¬ActiveLongerThan h now timeout := by
  rintro ⟨pre', i', post', hsplit', hage', hactive⟩
  subst hsplit
  -- an input that is not handled before the entry is no older than it
  have hlate : ¬i.now ≤ i'.now := by
    intro hle
    exact absurd hage' (not_lt.mpr ((sub_le_sub_left hle now).trans hage))
  rcases List.append_eq_append_iff.mp hsplit' with ⟨as, -, hpost⟩ | ⟨as, hpre, hpost⟩
  · cases as with
    | nil => exact hlate (le_of_eq (by rw [(List.cons.inj hpost).1]))
    | cons a as =>
      have hi' : i' ∈ post := by
        rw [(List.cons.inj hpost).2]
        simp
      exact hlate (hmono.le_of_cons hi')
  · -- and from one that is handled before it, the mode was not active throughout
    cases as with
    | nil => exact hlate (le_of_eq (by rw [(List.cons.inj hpost).1]))
    | cons a as =>
      obtain ⟨rfl, hpost'⟩ := List.cons.inj hpost
      have hprefix : as <+: post' := hpost' ▸ List.prefix_append as _
      exact hentry (hpre ▸ hactive as hprefix)

/-- A mode that is active now, and was not entered within the timeout, has been active for longer. -/
theorem activeLongerThan_iff {h : List Input} (hmono : ClockMonotone h) {now : Time}
    {timeout : Duration} : ActiveLongerThan h now timeout ↔
      modeIn h ∈ heartbeatModes ∧ ¬EnteredWithin h now timeout := by
  constructor
  · intro hactive
    refine ⟨?_, ?_⟩
    · obtain ⟨pre, i, post, rfl, -, hsince⟩ := hactive
      exact hsince post List.prefix_rfl
    · rintro ⟨pre, i, post, hsplit, hentry, -, hage⟩
      exact not_activeLongerThan hmono hsplit hentry hage hactive
  · rintro ⟨hmode, hearlier⟩
    obtain ⟨pre, i, post, hsplit, hentry, hsince⟩ := exists_last_entry
      (P := fun k => modeIn k ∈ heartbeatModes) (by decide) hmode
    refine ⟨pre, i, post, hsplit, not_le.mp fun hrecent => ?_, hsince⟩
    exact hearlier ⟨pre, i, post, hsplit, hentry, hsince, hrecent⟩

/-- **Which publications show `approved_command_timeout` rightly.** In every run with a non-decreasing
clock, for every publication: it shows `approved_command_timeout`, among the warnings or as the MRM
reason, only where the mode has been active for longer than the timeout and no approved command came
within it, if and only if it is no stale re-entry whose finding is not hidden, and no operator's text
at such a time. -/
theorem approvedCommandTimeout_iff (params : Params) (h : List Input) (i : Input)
    (hmono : ClockMonotone (h ++ [i])) (safety : SafetyState) (mrm : MRMState)
    (hsafety : Publication.safetyState safety ∈ (machine params).out ((machine params).after h) i)
    (hmrm : Publication.mrmState mrm ∈ (machine params).out ((machine params).after h) i) :
    (ShowsTimeout safety mrm →
        ActiveLongerThan (h ++ [i]) i.now (paramsIn params (h ++ [i])).approvedCommandTimeout ∧
          NoCommandWithin (h ++ [i]) i.now
            (paramsIn params (h ++ [i])).approvedCommandTimeout) ↔
      ¬StaleReentry params (h ++ [i]) i.now ∧ ¬OperatorsTimeout params (h ++ [i]) i.now := by
  have hstate : (step ((machine params).after h) i).1 = (machine params).after (h ++ [i]) := by
    rw [Machine.after_concat]
    rfl
  rw [(publication_eq hsafety).1, mrm_publication_eq hmrm, hstate, shown_approvedCommand_iff,
    fires_after_iff, fires_approvedCommand_iff, activeLongerThan_iff hmono]
  constructor
  · intro hrightly
    refine ⟨?_, ?_⟩
    · rintro ⟨hmonitored, hentered, hcommand, hunhidden⟩
      have hmode : modeIn (h ++ [i]) ∈ heartbeatModes := by
        obtain ⟨pre, j, post, hsplit, -, hsince, -⟩ := hentered
        exact hsplit ▸ hsince post List.prefix_rfl
      exact (hrightly (Or.inr ⟨⟨hmonitored, hmode, hcommand⟩, hunhidden⟩)).1.2 hentered
    · rintro ⟨htext, hearly⟩
      obtain ⟨⟨hmode, hentered⟩, hcommands⟩ := hrightly (Or.inl htext)
      rcases hearly with hmode' | hentered' | ⟨j, hj, ⟨msg, hmsg⟩, hage⟩
      · exact hmode' hmode
      · exact hentered hentered'
      · exact absurd (hcommands j hj msg hmsg) (not_lt.mpr hage)
  · rintro ⟨hstale, hoperator⟩ hshown
    rcases hshown with htext | ⟨⟨hmonitored, hmode, hcommand⟩, hunhidden⟩
    · -- an operator's text at any other time is right
      have hlate := not_or.mp fun hearly => hoperator ⟨htext, hearly⟩
      obtain ⟨hentered, hcommands⟩ := not_or.mp hlate.2
      refine ⟨⟨not_not.mp hlate.1, hentered⟩, fun j hj msg hmsg => not_le.mp fun hage => ?_⟩
      exact hcommands ⟨j, hj, ⟨msg, hmsg⟩, hage⟩
    · refine ⟨⟨hmode, fun hentered => ?_⟩, ?_⟩
      · exact hstale ⟨hmonitored, hentered, hcommand, hunhidden⟩
      · obtain ⟨t, hlast, hage⟩ := hcommand
        exact noCommandWithin_of_latest hmono hlast hage

/-- A run that enters `TELEOP` at the start, hears one approved command, and leaves the mode
again. -/
def idleRun : List Input :=
  [⟨0, .modeState { activeMode := ModeState.modeTeleop }⟩, ⟨0, .approvedCommand {}⟩,
    ⟨0, .modeState { activeMode := ModeState.modeInactive }⟩]

/-- While the mode stays on, silence is reported after the timeout, and rightly so. -/
theorem approvedCommandTimeout_silent :
    ActiveLongerThan (idleRun.take 2 ++ [⟨2000000000, .publishState⟩]) 2000000000 1000000000 := by
  have hnot : ¬StaleReentry {} (idleRun.take 2 ++ [⟨2000000000, .publishState⟩]) 2000000000 := by
    rintro ⟨-, ⟨pre, i, post, hsplit, hentry, -, hage⟩, -⟩
    -- only the publication itself is recent enough, and it does not enter the mode
    rcases pre with _ | ⟨a, _ | ⟨b, _ | ⟨c, pre⟩⟩⟩
    · obtain ⟨rfl, -⟩ := List.cons.inj hsplit
      exact absurd hage (by decide)
    · simp only [idleRun, List.take, List.cons_append, List.nil_append, List.cons.injEq] at hsplit
      obtain ⟨rfl, rfl, -⟩ := hsplit
      exact absurd hage (by decide)
    · simp only [idleRun, List.take, List.cons_append, List.nil_append, List.cons.injEq] at hsplit
      obtain ⟨rfl, rfl, -⟩ := hsplit
      exact absurd hentry (by decide)
    · simp [idleRun] at hsplit
  have hoperator : ¬OperatorsTimeout {} (idleRun.take 2 ++ [⟨2000000000, .publishState⟩]) 2000000000 :=
    fun h => absurd h.text (by decide)
  exact ((approvedCommandTimeout_iff {} (idleRun.take 2) ⟨2000000000, .publishState⟩ (by decide) _ _
    List.mem_cons_self (List.mem_cons_of_mem _ List.mem_cons_self)).mpr ⟨hnot, hoperator⟩
      (Or.inl (by decide))).1

/-- **A mode entered anew trips the watchdog at once**, ten seconds after the last command of the
time before. -/
theorem not_approvedCommandTimeout :
    ¬∀ (params : Params) (h : List Input) (i : Input) (safety : SafetyState) (mrm : MRMState),
      ClockMonotone (h ++ [i]) → 0 ≤ (paramsIn params (h ++ [i])).approvedCommandTimeout →
      Publication.safetyState safety ∈ (machine params).out ((machine params).after h) i →
      Publication.mrmState mrm ∈ (machine params).out ((machine params).after h) i →
      ShowsTimeout safety mrm →
      ActiveLongerThan (h ++ [i]) i.now (paramsIn params (h ++ [i])).approvedCommandTimeout ∧
        NoCommandWithin (h ++ [i]) i.now (paramsIn params (h ++ [i])).approvedCommandTimeout := by
  intro hall
  have hactive := (hall {}
    (idleRun ++ [⟨10000000000, .modeState { activeMode := ModeState.modeTeleop }⟩])
    ⟨10000000000, .publishState⟩ _ _ (by decide) (by decide) List.mem_cons_self
    (List.mem_cons_of_mem _ List.mem_cons_self) (Or.inl (by decide))).1
  have hentry : idleRun ++ [⟨10000000000, .modeState { activeMode := ModeState.modeTeleop }⟩] ++
      [⟨10000000000, .publishState⟩] = idleRun ++ ⟨10000000000, .modeState { activeMode :=
        ModeState.modeTeleop }⟩ :: [⟨10000000000, .publishState⟩] := rfl
  refine not_activeLongerThan ?_ hentry ?_ ?_ hactive
  · decide
  · decide
  · decide

end HumaWare.SafetyManager
