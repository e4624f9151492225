import HumaWare.SafetyManager.Publication

/-! # Which findings the published warnings show

`_publish_state` lists every warning, but of all the reasons for an MRM it shows the single one that
`select_mrm_reason` picks: the text of the parameter, else the text of the service call, else the
first watchdog's. A watchdog that is promoted from a warning to an MRM trigger can therefore vanish
from `active_warnings`; `findings_shown_iff` says exactly when none does. -/

namespace HumaWare.SafetyManager

open Reactive

/-- The watchdog fires and is configured to trigger an MRM. -/
def State.Promoted (s : State) (now : Time) (w : Watchdog) : Prop :=
  s.Fires now w ∧ w.triggersMrm s.params = true

/-- The text that an operator gave for an MRM source that is active: the parameter's, else the
service call's. -/
def State.operatorReason (s : State) : Option String :=
  if s.params.mrmActive ∧ s.params.mrmReason ≠ "" then some s.params.mrmReason
  else if s.serviceMrmActive ∧ s.serviceMrmReason ≠ "" then some s.serviceMrmReason
  else none

/-- An operator's text comes before any watchdog's. -/
theorem mrmReason_of_operatorReason {s : State} {text : String}
    (h : s.operatorReason = some text) (now : Time) : mrmReason s now = text := by
  unfold mrmReason selectMrmReason
  rw [State.operatorReason] at h
  split at h
  · next hparam =>
    rw [if_pos hparam]
    exact Option.some.inj h
  split at h
  · next hparam hservice =>
    rw [if_neg hparam, if_pos hservice]
    exact Option.some.inj h
  · simp at h

/-- Without an operator's text, the reason is the first one that the watchdogs give, else a default
text. -/
theorem mrmReason_of_none {s : State} (hnone : s.operatorReason = none) (now : Time) :
    mrmReason s now = (watchdogs s now).mrmReasons.headD
      (if s.params.mrmActive then "parameter_mrm_active"
        else if s.serviceMrmActive then "service_mrm_active" else "") := by
  rw [State.operatorReason] at hnone
  split at hnone
  · simp at hnone
  split at hnone
  · simp at hnone
  next hparam hservice =>
  unfold mrmReason selectMrmReason
  rw [if_neg hparam, if_neg hservice]
  cases (watchdogs s now).mrmReasons <;> rfl

/-- Without an operator's text, the reason is that of a promoted watchdog, if there is one. -/
theorem mrmReason_of_promoted {s : State} {now : Time} {w : Watchdog}
    (hnone : s.operatorReason = none) (hw : s.Promoted now w) :
    ∃ w', s.Promoted now w' ∧ mrmReason s now = w'.reason (s.lastSeen w') := by
  rw [mrmReason_of_none hnone]
  have hmem : w.reason (s.lastSeen w) ∈ (watchdogs s now).mrmReasons :=
    mem_mrmReasons_iff.mpr ⟨w, hw.1, hw.2, rfl⟩
  cases hreasons : (watchdogs s now).mrmReasons with
  | nil => simp [hreasons] at hmem
  | cons reason reasons =>
    -- the first reason of the list is some promoted watchdog's
    obtain ⟨w', hfires, htriggers, hreason⟩ :=
      mem_mrmReasons_iff.mp (hreasons ▸ List.mem_cons_self : reason ∈ (watchdogs s now).mrmReasons)
    exact ⟨w', ⟨hfires, htriggers⟩, hreason.symm⟩

/-- Without an operator's text, the reason is one that the watchdogs give, or a default text. -/
theorem mrmReason_cases {s : State} (hnone : s.operatorReason = none) (now : Time) :
    mrmReason s now ∈ (watchdogs s now).mrmReasons ∨
      mrmReason s now ∈ ["parameter_mrm_active", "service_mrm_active", ""] := by
  rw [mrmReason_of_none hnone]
  cases (watchdogs s now).mrmReasons with
  | cons reason reasons => exact Or.inl List.mem_cons_self
  | nil =>
    right
    rw [List.headD_nil]
    split
    · simp
    split <;> simp

/-- The warnings published while an MRM source is active and the E-stop is not. -/
theorem activeWarnings_of_mrm {s : State} {now : Time} (hestop : s.params.estopEngaged = false)
    (hmrm : mrmActive s now = true) :
    (safetyMsg s now).activeWarnings =
      ["minimal_risk_maneuver_active"] ++ (watchdogs s now).warnings ++ [mrmReason s now] := by
  have hne : mrmReason s now ≠ "" := (mrmReason_ne_empty_iff s now).mpr hmrm
  rw [safetyMsg, if_neg (by simp [hestop]), if_pos hmrm, if_pos hne]

/-- The warnings published without an MRM source and without E-stop. -/
theorem activeWarnings_of_not_mrm {s : State} {now : Time}
    (hestop : s.params.estopEngaged = false) (hmrm : mrmActive s now = false) :
    (safetyMsg s now).activeWarnings = (watchdogs s now).warnings := by
  rw [safetyMsg, if_neg (by simp [hestop]), if_neg (by simp [hmrm])]
  split
  · rfl
  · next hnil => exact (not_not.mp hnil).symm

/-- **A text that no watchdog gives is not published**, unless it is a text of the node's own or the
one that an operator gave. -/
theorem not_shown_of_not_reported {s : State} {now : Time} {text : String}
    (hwarnings : text ∉ (watchdogs s now).warnings) (hreasons : text ∉ (watchdogs s now).mrmReasons)
    (hoperator : s.operatorReason ≠ some text)
    (hown : text ∉ ["minimal_risk_maneuver_active", "parameter_mrm_active", "service_mrm_active", ""]) :
    text ∉ (safetyMsg s now).activeWarnings ∧ (mrmMsg s now).reason ≠ text := by
  have hreason : mrmReason s now ≠ text := by
    intro heq
    cases hop : s.operatorReason with
    | some text' =>
      rw [mrmReason_of_operatorReason hop] at heq
      exact hoperator (heq ▸ hop)
    | none =>
      rcases mrmReason_cases hop now with hmem | hmem
      · exact hreasons (heq ▸ hmem)
      · exact hown (List.mem_cons_of_mem _ (heq ▸ hmem))
  refine ⟨?_, hreason⟩
  cases hestop : s.params.estopEngaged with
  | true =>
    -- under an E-stop no warnings are published
    rw [safetyMsg, if_pos hestop]
    exact List.not_mem_nil
  | false =>
    cases hmrm : mrmActive s now with
    | true =>
      rw [activeWarnings_of_mrm hestop hmrm]
      simp only [List.mem_append, List.mem_singleton, not_or]
      refine ⟨⟨?_, hwarnings⟩, Ne.symm hreason⟩
      rintro rfl
      exact hown List.mem_cons_self
    | false =>
      rw [activeWarnings_of_not_mrm hestop hmrm]
      exact hwarnings

/-- A watchdog that only warns is always shown. -/
theorem shown_of_warns {s : State} {now : Time} {w : Watchdog}
    (hestop : s.params.estopEngaged = false) (hfires : s.Fires now w)
    (hwarns : w.triggersMrm s.params = false) :
    w.reason (s.lastSeen w) ∈ (safetyMsg s now).activeWarnings := by
  have hmem : w.reason (s.lastSeen w) ∈ (watchdogs s now).warnings :=
    mem_warnings_iff.mpr ⟨w, hfires, hwarns, rfl⟩
  cases hmrm : mrmActive s now with
  | true =>
    rw [activeWarnings_of_mrm hestop hmrm]
    exact List.mem_append_left _ (List.mem_append_right _ hmem)
  | false =>
    rw [activeWarnings_of_not_mrm hestop hmrm]
    exact hmem

/-- **A promoted watchdog is shown exactly if its reason is the one selected.** -/
theorem shown_iff_of_promoted {s : State} {now : Time} {w : Watchdog}
    (hestop : s.params.estopEngaged = false) (hw : s.Promoted now w) :
    w.reason (s.lastSeen w) ∈ (safetyMsg s now).activeWarnings ↔
      w.reason (s.lastSeen w) = mrmReason s now := by
  have hmrm : mrmActive s now = true := (mrmActive_iff s now).mpr (Or.inr (Or.inr ⟨w, hw⟩))
  rw [activeWarnings_of_mrm hestop hmrm, List.mem_append, List.mem_append, List.mem_singleton,
    List.mem_singleton]
  constructor
  · rintro ((hhead | hwarning) | hreason)
    · -- no watchdog gives the headline as its reason
      cases w <;> cases hseen : s.lastSeen _ <;> simp [Watchdog.reason, hseen] at hhead
    · -- the warnings are those of other watchdogs
      obtain ⟨w', -, hwarns, hreason⟩ := mem_warnings_iff.mp hwarning
      obtain rfl := Watchdog.reason_inj hreason
      rw [hw.2] at hwarns
      exact absurd hwarns (by decide)
    · exact hreason
  · intro hreason
    exact Or.inr hreason

/-- **Exactly when no finding is lost.** At a publication with the E-stop disengaged, every firing
watchdog's reason is among the published warnings if and only if the one MRM reason that is shown
stands for all promoted watchdogs: an operator's text, if one is in force, is the reason of each of
them, and otherwise at most one of them fires. -/
theorem findings_shown_iff {s : State} {now : Time} (hestop : s.params.estopEngaged = false) :
    (∀ safety, Publication.safetyState safety ∈ (publishState s now).2 → ∀ w, s.Fires now w →
        w.reason (s.lastSeen w) ∈ safety.activeWarnings) ↔
      (∀ text, s.operatorReason = some text →
        ∀ w, s.Promoted now w → w.reason (s.lastSeen w) = text) ∧
      (s.operatorReason = none → ∀ w w', s.Promoted now w → s.Promoted now w' → w = w') := by
  have hpub : ∀ safety, Publication.safetyState safety ∈ (publishState s now).2 ↔
      safety = safetyMsg s now := by
    intro safety
    simp [publishState]
  simp only [hpub, forall_eq]
  constructor
  · intro hshown
    have hselected : ∀ w, s.Promoted now w → w.reason (s.lastSeen w) = mrmReason s now := by
      intro w hw
      exact (shown_iff_of_promoted hestop hw).mp (hshown w hw.1)
    constructor
    · intro text htext w hw
      rw [hselected w hw, mrmReason_of_operatorReason htext]
    · intro _ w w' hw hw'
      exact Watchdog.reason_inj ((hselected w hw).trans (hselected w' hw').symm)
  · rintro ⟨htext, hone⟩ w hfires
    cases htriggers : w.triggersMrm s.params with
    | false => exact shown_of_warns hestop hfires htriggers
    | true =>
      have hw : s.Promoted now w := ⟨hfires, htriggers⟩
      rw [shown_iff_of_promoted hestop hw]
      cases hoperator : s.operatorReason with
      | some text => rw [htext text hoperator w hw, mrmReason_of_operatorReason hoperator]
      | none =>
        obtain ⟨w', hw', hreason⟩ := mrmReason_of_promoted hoperator hw
        rw [hreason, hone hoperator w w' hw hw']

/-- A node that was started with the parameters `params` and then told to be in `TELEOP`. -/
def inTeleop (params : Params) : State :=
  (machine params).after [⟨0, .modeState { activeMode := ModeState.modeTeleop }⟩]

/-- A single promoted watchdog is shown. -/
theorem findings_shown_hardware :
    Watchdog.hardwareHeartbeat.reason none ∈
      (safetyMsg (inTeleop { requireHardwareHeartbeat := true }) 0).activeWarnings := by
  have hone : ∀ w, (inTeleop { requireHardwareHeartbeat := true }).Promoted 0 w →
      w = .hardwareHeartbeat := by
    rintro w ⟨-, htriggers⟩
    cases w with
    | hardwareHeartbeat => rfl
    | teleopHeartbeat => exact absurd htriggers (by decide)
    | approvedCommand => exact absurd htriggers (by decide)
  have hestop : (inTeleop { requireHardwareHeartbeat := true }).params.estopEngaged = false := rfl
  have hfires : (inTeleop { requireHardwareHeartbeat := true }).Fires 0 .hardwareHeartbeat :=
    ⟨rfl, by decide, rfl⟩
  refine (findings_shown_iff hestop).mpr ⟨?_, ?_⟩ _ List.mem_cons_self _ hfires
  · intro text htext
    exact absurd htext (by simp [State.operatorReason, inTeleop, machine, Machine.after, Machine.next,
      step])
  · intro _ w w' hw hw'
    exact (hone w hw).trans (hone w' hw').symm

/-- **Two promoted watchdogs, one reason.** Both heartbeats are missing and both trigger an MRM; the
hardware heartbeat is not among the published warnings. -/
theorem not_findings_shown :
    ¬∀ (s : State) (now : Time), s.params.estopEngaged = false →
      ∀ safety, Publication.safetyState safety ∈ (publishState s now).2 → ∀ w, s.Fires now w →
        w.reason (s.lastSeen w) ∈ safety.activeWarnings := by
  intro h
  have hmem := h
    (inTeleop { requireHardwareHeartbeat := true, teleopHeartbeatTimeoutTriggersMrm := true }) 0 rfl _
    List.mem_cons_self .hardwareHeartbeat (by decide)
  exact absurd hmem (by decide)

end HumaWare.SafetyManager
