import HumaWare.SafetyManager.Node
import HumaWare.Reactive.History

/-! # What the safety manager publishes, read off the history

The purpose of the safety manager, stated without its state: a watchdog *fires* when it is enabled,
the last mode is one in which it watches, and the party it watches is overdue; an MRM source is
active when the parameter is set, when the last accepted service call was a trigger, or when a
firing watchdog is configured to trigger. `Fires` and `MrmSource` say this of a history.

* **`watchdogs_eq`** — the three hand-written watchdog checks are one check applied to three
  watchdogs;
* **`fires_after_iff`**, **`mrmActive_after_iff`** — the node's own tests are the abstract ones;
* **`publication_exact`** — every `SafetyState` and `MRMState` published in any run is the one that
  the history calls for, and the service responses report it. -/

namespace HumaWare.SafetyManager

open Reactive

/-- The three watched parties. -/
inductive Watchdog
  | teleopHeartbeat
  | hardwareHeartbeat
  | approvedCommand
  deriving DecidableEq, Repr

namespace Watchdog

/-- The order in which the watchdogs are evaluated. -/
def all : List Watchdog := [teleopHeartbeat, hardwareHeartbeat, approvedCommand]

/-- Whether the watchdog is required. -/
def enabled (p : Params) : Watchdog → Bool
  | teleopHeartbeat => p.requireTeleopHeartbeat
  | hardwareHeartbeat => p.requireHardwareHeartbeat
  | approvedCommand => p.monitorApprovedCommands

/-- The modes in which it watches. -/
def modes : Watchdog → List UInt8
  | teleopHeartbeat => [ModeState.modeTeleop]
  | hardwareHeartbeat => heartbeatModes
  | approvedCommand => heartbeatModes

/-- How long the watched party may stay silent. -/
def timeout (p : Params) : Watchdog → Duration
  | teleopHeartbeat => p.teleopHeartbeatTimeout
  | hardwareHeartbeat => p.hardwareHeartbeatTimeout
  | approvedCommand => p.approvedCommandTimeout

/-- Whether the watchdog triggers an MRM rather than a warning. -/
def triggersMrm (p : Params) : Watchdog → Bool
  | teleopHeartbeat => p.teleopHeartbeatTimeoutTriggersMrm
  | hardwareHeartbeat => p.hardwareHeartbeatTimeoutTriggersMrm
  | approvedCommand => p.approvedCommandTimeoutTriggersMrm

/-- Whether a party that was never heard of is overdue. -/
def firesOnSilence : Watchdog → Bool
  | teleopHeartbeat => true
  | hardwareHeartbeat => true
  | approvedCommand => false

/-- The watched party, last heard of at `lastSeen`, is overdue at `now`. -/
def Overdue (w : Watchdog) (p : Params) (now : Time) : Option Time → Prop
  | none => w.firesOnSilence
  | some t => now - t > w.timeout p

instance (w : Watchdog) (p : Params) (now : Time) (lastSeen : Option Time) :
    Decidable (w.Overdue p now lastSeen) :=
  match lastSeen with
  | none => inferInstanceAs (Decidable (w.firesOnSilence = true))
  | some t => inferInstanceAs (Decidable (now - t > w.timeout p))

/-- The reason given when the watchdog fires. -/
def reason (w : Watchdog) (lastSeen : Option Time) : String :=
  match w with
  | teleopHeartbeat =>
    if lastSeen.isNone then "teleop_heartbeat_missing" else "teleop_heartbeat_timeout"
  | hardwareHeartbeat =>
    if lastSeen.isNone then "hardware_heartbeat_missing" else "hardware_heartbeat_timeout"
  | approvedCommand => "approved_command_timeout"

/-- Every watchdog is evaluated. -/
theorem mem_all (w : Watchdog) : w ∈ all := by cases w <;> decide

/-- Every reason is a non-empty text. -/
theorem reason_ne_empty (w : Watchdog) (lastSeen : Option Time) : w.reason lastSeen ≠ "" := by
  cases w <;> cases lastSeen <;> simp [reason]

/-- A reason tells its watchdog. -/
theorem reason_inj {w w' : Watchdog} {lastSeen lastSeen' : Option Time}
    (h : w.reason lastSeen = w'.reason lastSeen') : w = w' := by
  cases w <;> cases w' <;> cases lastSeen <;> cases lastSeen' <;>
    first
    | rfl
    | exact absurd h (by decide)
    | exact absurd h (by simp [reason])

end Watchdog

/-! ## One check for three watchdogs -/

/-- When the node last heard of the party that a watchdog watches. -/
def State.lastSeen (s : State) : Watchdog → Option Time
  | .teleopHeartbeat => s.teleopHeartbeatAt
  | .hardwareHeartbeat => s.hardwareHeartbeatAt
  | .approvedCommand => s.approvedCommandAt

/-- The watchdog fires in the state. -/
def State.Fires (s : State) (now : Time) (w : Watchdog) : Prop :=
  w.enabled s.params ∧ s.activeMode ∈ w.modes ∧ w.Overdue s.params now (s.lastSeen w)

instance (s : State) (now : Time) (w : Watchdog) : Decidable (s.Fires now w) :=
  inferInstanceAs (Decidable (_ ∧ _ ∧ _))

/-- The finding of a watchdog: its reason and whether it triggers an MRM. -/
def State.finding (s : State) (now : Time) (w : Watchdog) : Option (String × Bool) :=
  if s.Fires now w then some (w.reason (s.lastSeen w), w.triggersMrm s.params) else none

/-- A watchdog has a finding while it fires. -/
theorem State.finding_eq_some_iff {s : State} {now : Time} {w : Watchdog} {reason : String}
    {triggers : Bool} :
    s.finding now w = some (reason, triggers) ↔
      s.Fires now w ∧ w.reason (s.lastSeen w) = reason ∧ w.triggersMrm s.params = triggers := by
  rw [finding, Option.ite_none_right_eq_some, Option.some.injEq, Prod.mk.injEq]

/-- A heartbeat check, made when a watchdog is on, is the finding of that watchdog. -/
theorem append_checkHeartbeat {s : State} {now : Time} (w : Watchdog) (policy : HeartbeatPolicy)
    {on : Prop} [Decidable on] (hon : on ↔ s.activeMode ∈ w.modes ∧ w.enabled s.params)
    (hsilence : w.firesOnSilence = true) (htimeout : policy.timeout = w.timeout s.params)
    (htriggers : policy.triggerMrm = w.triggersMrm s.params)
    (hmissing : policy.name ++ "_missing" = w.reason none)
    (hstale : ∀ t, policy.name ++ "_timeout" = w.reason (some t)) (result : WatchdogResult) :
    (if on then result.append (checkHeartbeat now (s.lastSeen w) policy) else result) =
      result.append (s.finding now w) := by
  by_cases h : on
  · obtain ⟨hmode, henabled⟩ := hon.mp h
    rw [if_pos h]
    congr 1
    rw [State.finding]
    cases hseen : s.lastSeen w with
    | none =>
      have hfires : s.Fires now w := by
        refine ⟨henabled, hmode, ?_⟩
        rw [hseen]
        exact hsilence
      rw [if_pos hfires, checkHeartbeat, hmissing, htriggers]
    | some t =>
      -- the guards hold already, so firing is a matter of age alone
      have hiff : s.Fires now w ↔ now - t > policy.timeout := by
        rw [State.Fires, hseen, htimeout]
        constructor
        · rintro ⟨-, -, hoverdue⟩
          exact hoverdue
        · intro hoverdue
          exact ⟨henabled, hmode, hoverdue⟩
      simp only [checkHeartbeat, hiff, hstale t, htriggers]
  · have hfires : ¬s.Fires now w := by
      rintro ⟨henabled, hmode, -⟩
      exact h (hon.mpr ⟨hmode, henabled⟩)
    rw [if_neg h, State.finding, if_neg hfires]
    rfl

/-- The approved-command check is the finding of its watchdog. -/
theorem append_approvedCommand (s : State) (now : Time) (result : WatchdogResult) :
    (match s.approvedCommandAt with
      | none => result
      | some t =>
        if s.params.monitorApprovedCommands ∧ s.activeMode ∈ heartbeatModes ∧
            now - t > s.params.approvedCommandTimeout then
          result.append (some ("approved_command_timeout",
            s.params.approvedCommandTimeoutTriggersMrm))
        else result) = result.append (s.finding now .approvedCommand) := by
  rw [State.finding]
  cases hseen : s.approvedCommandAt with
  | none =>
    -- silence is no finding here, unlike for the heartbeats
    have hfires : ¬s.Fires now .approvedCommand := by
      rintro ⟨-, -, hoverdue⟩
      rw [State.lastSeen, hseen] at hoverdue
      exact Bool.false_ne_true hoverdue
    rw [if_neg hfires]
    rfl
  | some t =>
    have hiff : s.Fires now .approvedCommand ↔ s.params.monitorApprovedCommands ∧
        s.activeMode ∈ heartbeatModes ∧ now - t > s.params.approvedCommandTimeout := by
      rw [State.Fires, State.lastSeen, hseen]
      rfl
    simp only [hiff]
    split <;> rfl

/-- **The three checks of `evaluate_watchdogs` are one check, applied to each watchdog in
order.** -/
theorem watchdogs_eq (s : State) (now : Time) :
    watchdogs s now = Watchdog.all.foldl (fun result w => result.append (s.finding now w)) {} := by
  -- from the last check back to the first: each appends to what the ones before it found
  refine (append_approvedCommand s now _).trans ?_
  refine congrArg (WatchdogResult.append · _) ?_
  refine (append_checkHeartbeat .hardwareHeartbeat s.params.hardwarePolicy
    Iff.rfl rfl rfl rfl rfl (fun _ => rfl) _).trans ?_
  refine congrArg (WatchdogResult.append · _) ?_
  exact append_checkHeartbeat .teleopHeartbeat s.params.teleopPolicy
    (by simp [Watchdog.modes, Watchdog.enabled]) rfl rfl rfl rfl (fun _ => rfl) _

/-- Appending findings keeps the reasons in order, of those that warn and of those that trigger. -/
theorem foldl_append_reasons (finding : Watchdog → Option (String × Bool)) (ws : List Watchdog)
    (result : WatchdogResult) :
    (ws.foldl (fun result w => result.append (finding w)) result).warnings =
        result.warnings ++ ((ws.filterMap finding).filter fun f => f.2 == false).map Prod.fst ∧
      (ws.foldl (fun result w => result.append (finding w)) result).mrmReasons =
        result.mrmReasons ++ ((ws.filterMap finding).filter fun f => f.2 == true).map Prod.fst := by
  induction ws generalizing result with
  | nil => simp
  | cons w ws ih =>
    obtain ⟨hwarnings, hmrmReasons⟩ := ih (result.append (finding w))
    rw [List.foldl_cons, hwarnings, hmrmReasons, List.filterMap_cons]
    rcases finding w with _ | ⟨reason, _ | _⟩ <;> simp [WatchdogResult.append]

/-- A finding of the node comes from one of its watchdogs. -/
theorem mem_findings_iff {s : State} {now : Time} {f : String × Bool} :
    f ∈ Watchdog.all.filterMap (s.finding now) ↔
      ∃ w, s.Fires now w ∧ w.reason (s.lastSeen w) = f.1 ∧ w.triggersMrm s.params = f.2 := by
  obtain ⟨reason, triggers⟩ := f
  rw [List.mem_filterMap]
  constructor
  · rintro ⟨w, -, hw⟩
    exact ⟨w, State.finding_eq_some_iff.mp hw⟩
  · rintro ⟨w, hw⟩
    exact ⟨w, w.mem_all, State.finding_eq_some_iff.mpr hw⟩

/-- The reasons found of one kind are those of the firing watchdogs of that kind. -/
theorem mem_reasons_iff {s : State} {now : Time} {reason : String} (triggers : Bool) :
    reason ∈ ((Watchdog.all.filterMap (s.finding now)).filter fun f => f.2 == triggers).map
        Prod.fst ↔
      ∃ w, s.Fires now w ∧ w.triggersMrm s.params = triggers ∧ w.reason (s.lastSeen w) = reason := by
  simp only [List.mem_map, List.mem_filter, mem_findings_iff, beq_iff_eq]
  constructor
  · rintro ⟨f, ⟨⟨w, hfires, hreason, htriggers⟩, hf⟩, rfl⟩
    exact ⟨w, hfires, htriggers.trans hf, hreason⟩
  · rintro ⟨w, hfires, htriggers, rfl⟩
    exact ⟨(_, triggers), ⟨⟨w, hfires, rfl, htriggers⟩, rfl⟩, rfl⟩

/-- The warnings are the reasons of the firing watchdogs that do not trigger an MRM. -/
theorem mem_warnings_iff {s : State} {now : Time} {reason : String} :
    reason ∈ (watchdogs s now).warnings ↔
      ∃ w, s.Fires now w ∧ w.triggersMrm s.params = false ∧ w.reason (s.lastSeen w) = reason := by
  rw [watchdogs_eq, (foldl_append_reasons _ _ _).1, List.nil_append, mem_reasons_iff]

/-- The MRM reasons are the reasons of the firing watchdogs that trigger an MRM. -/
theorem mem_mrmReasons_iff {s : State} {now : Time} {reason : String} :
    reason ∈ (watchdogs s now).mrmReasons ↔
      ∃ w, s.Fires now w ∧ w.triggersMrm s.params = true ∧ w.reason (s.lastSeen w) = reason := by
  rw [watchdogs_eq, (foldl_append_reasons _ _ _).2, List.nil_append, mem_reasons_iff]

/-- A watchdog is reported, as a warning or as an MRM reason, exactly when it fires. -/
theorem reported_iff {s : State} {now : Time} {w : Watchdog} :
    (∃ lastSeen, w.reason lastSeen ∈ (watchdogs s now).warnings ++ (watchdogs s now).mrmReasons) ↔
      s.Fires now w := by
  simp only [List.mem_append, mem_warnings_iff, mem_mrmReasons_iff]
  constructor
  · rintro ⟨lastSeen, ⟨w', hfires, -, hreason⟩ | ⟨w', hfires, -, hreason⟩⟩
    all_goals exact Watchdog.reason_inj hreason ▸ hfires
  · intro hfires
    refine ⟨s.lastSeen w, ?_⟩
    cases htriggers : w.triggersMrm s.params with
    | false => exact Or.inl ⟨w, hfires, htriggers, rfl⟩
    | true => exact Or.inr ⟨w, hfires, htriggers, rfl⟩

/-! ## The state and the reason published -/

/-- A reason is given exactly when some MRM source is active, provided the watchdogs' reasons are
texts. -/
theorem selectMrmReason_ne_empty_iff {parameterMrmActive serviceMrmActive : Bool}
    {parameterMrmReason serviceMrmReason : String} {watchdogMrmReasons : List String}
    (hreasons : "" ∉ watchdogMrmReasons) :
    selectMrmReason parameterMrmActive parameterMrmReason serviceMrmActive serviceMrmReason
        watchdogMrmReasons ≠ "" ↔
      parameterMrmActive ∨ serviceMrmActive ∨ watchdogMrmReasons ≠ [] := by
  unfold selectMrmReason
  -- the parameter's own text, then the service's, then the first watchdog's
  split
  · next h => simp [h.1, h.2]
  split
  · next h => simp [h.1, h.2]
  cases watchdogMrmReasons with
  | cons reason reasons =>
    have hne : reason ≠ "" := fun h => hreasons (by simp [h])
    simp [hne]
  | nil =>
    -- an active source without a text gets a default one
    cases parameterMrmActive <;> cases serviceMrmActive <;> simp

/-- No watchdog gives an empty reason. -/
theorem empty_notMem_mrmReasons (s : State) (now : Time) : "" ∉ (watchdogs s now).mrmReasons := by
  rw [mem_mrmReasons_iff]
  rintro ⟨w, -, -, hreason⟩
  exact w.reason_ne_empty _ hreason

/-- An MRM source is active in the state. -/
theorem mrmActive_iff (s : State) (now : Time) :
    mrmActive s now = true ↔ s.params.mrmActive ∨ s.serviceMrmActive ∨
      ∃ w, s.Fires now w ∧ w.triggersMrm s.params := by
  have hreasons : (watchdogs s now).mrmReasons ≠ [] ↔
      ∃ w, s.Fires now w ∧ w.triggersMrm s.params := by
    rw [Ne, List.eq_nil_iff_forall_not_mem, not_forall_not]
    simp only [mem_mrmReasons_iff]
    constructor
    · rintro ⟨-, w, hfires, htriggers, -⟩
      exact ⟨w, hfires, htriggers⟩
    · rintro ⟨w, hfires, htriggers⟩
      exact ⟨_, w, hfires, htriggers, rfl⟩
  rw [← hreasons, mrmActive]
  simp [or_assoc]

/-- The flag and the reason agree. -/
theorem mrmReason_ne_empty_iff (s : State) (now : Time) :
    mrmReason s now ≠ "" ↔ mrmActive s now = true := by
  rw [mrmReason, selectMrmReason_ne_empty_iff (empty_notMem_mrmReasons s now), mrmActive]
  simp [or_assoc]

/-- Without an MRM source, there is a warning exactly when some watchdog fires. -/
theorem warnings_ne_nil_iff {s : State} {now : Time} (hmrm : mrmActive s now = false) :
    (watchdogs s now).warnings ≠ [] ↔ ∃ w, s.Fires now w := by
  rw [Ne, List.eq_nil_iff_forall_not_mem, not_forall_not]
  simp only [mem_warnings_iff]
  constructor
  · rintro ⟨_, w, hf, -, -⟩
    exact ⟨w, hf⟩
  · -- without an MRM source, what fires does not trigger, so it warns
    rintro ⟨w, hf⟩
    refine ⟨_, w, hf, ?_, rfl⟩
    rw [Bool.eq_false_iff]
    intro htriggers
    have hactive := (mrmActive_iff s now).mpr (Or.inr (Or.inr ⟨w, hf, htriggers⟩))
    rw [hmrm] at hactive
    exact Bool.false_ne_true hactive

/-- The ladder of the safety state: the emergency stop, an MRM, a warning, or `OK`. -/
theorem safetyMsg_state (s : State) (now : Time) :
    (safetyMsg s now).state =
      if s.params.estopEngaged then SafetyState.stateEstop
      else if mrmActive s now then SafetyState.stateMrm
      else if (watchdogs s now).warnings ≠ [] then SafetyState.stateWarn
      else SafetyState.stateOk := by
  rw [safetyMsg]
  split
  · rfl
  split
  · rfl
  split <;> rfl

/-- The four states, each with its condition. -/
theorem safetyMsg_state_iff (s : State) (now : Time) :
    ((safetyMsg s now).state = SafetyState.stateEstop ↔ s.params.estopEngaged) ∧
      ((safetyMsg s now).state = SafetyState.stateMrm ↔
        ¬s.params.estopEngaged ∧ mrmActive s now = true) ∧
      ((safetyMsg s now).state = SafetyState.stateWarn ↔
        ¬s.params.estopEngaged ∧ ¬mrmActive s now = true ∧ ∃ w, s.Fires now w) ∧
      ((safetyMsg s now).state = SafetyState.stateOk ↔
        ¬s.params.estopEngaged ∧ ¬mrmActive s now = true ∧ ¬∃ w, s.Fires now w) := by
  rw [safetyMsg_state]
  by_cases hestop : s.params.estopEngaged
  · simp +decide [hestop]
  by_cases hmrm : mrmActive s now
  · simp +decide [hestop, hmrm]
  rw [← warnings_ne_nil_iff (Bool.eq_false_iff.mpr hmrm), if_neg hestop, if_neg hmrm]
  by_cases hwarn : (watchdogs s now).warnings ≠ []
  · rw [if_pos hwarn]
    simp +decide [hestop, hmrm, hwarn]
  · rw [if_neg hwarn]
    simp +decide [hestop, hmrm, hwarn]

/-- The message carries the MRM flag. -/
theorem safetyMsg_mrmActive (s : State) (now : Time) :
    (safetyMsg s now).mrmActive = mrmActive s now := by
  rw [safetyMsg]
  split
  · rfl
  split
  · rfl
  split <;> rfl

/-- What the two messages of one publication say about each other. -/
theorem mrmMsg_state (s : State) (now : Time) :
    (mrmMsg s now).state =
      if (safetyMsg s now).state = SafetyState.stateEstop then MRMState.stateFault
      else if (safetyMsg s now).state = SafetyState.stateMrm then MRMState.stateStop
      else MRMState.stateNone := by
  rw [safetyMsg_state, mrmMsg]
  cases s.params.estopEngaged with
  | true => rfl
  | false =>
    cases mrmActive s now with
    | true => rfl
    | false =>
      by_cases hw : (watchdogs s now).warnings ≠ []
      · rw [if_pos hw]; rfl
      · rw [if_neg hw]; rfl

/-- Operator intervention is requested exactly when the MRM state is not `NONE`. -/
theorem operatorIntervention_iff (s : State) (now : Time) :
    (mrmMsg s now).operatorInterventionRequested ↔ (mrmMsg s now).state ≠ MRMState.stateNone := by
  simp only [mrmMsg]
  cases s.params.estopEngaged <;> cases mrmActive s now <;> decide

/-! ## What one callback publishes -/

/-- **What a callback publishes.** Either one safety message and one MRM message, made from the
state that the callback leaves, and after them at most the response of an accepted call that reports
the safety state published; or no more than the response of a rejected clear call. -/
theorem step_publishes (s : State) (i : Input) :
    (∃ responses, (step s i).2 = [.safetyState (safetyMsg (step s i).1 i.now),
        .mrmState (mrmMsg (step s i).1 i.now)] ++ responses ∧
      ∀ x ∈ responses, ∃ response, (x = .triggerResponse response ∨ x = .clearResponse response) ∧
        response.accepted = true ∧
        response.activeSafetyState = (safetyMsg (step s i).1 i.now).state) ∨
      ∀ x ∈ (step s i).2, ∃ response, x = .clearResponse response ∧ response.accepted = false := by
  obtain ⟨now, event⟩ := i
  cases event with
  | publishState => exact Or.inl ⟨[], rfl, by simp⟩
  | triggerMrm request =>
    refine Or.inl ⟨_, rfl, ?_⟩
    intro x hx
    obtain rfl := List.mem_singleton.mp hx
    exact ⟨_, Or.inl rfl, rfl, rfl⟩
  | clearMrm request =>
    by_cases hestop : s.params.estopEngaged
    · apply Or.inr
      intro x hx
      simp only [step, handleClearMrm, if_pos hestop] at hx
      exact ⟨_, List.mem_singleton.mp hx, rfl⟩
    · simp only [step, handleClearMrm, if_neg hestop]
      refine Or.inl ⟨_, rfl, ?_⟩
      intro x hx
      obtain rfl := List.mem_singleton.mp hx
      exact ⟨_, Or.inr rfl, rfl, rfl⟩
  | teleopHeartbeat msg => exact Or.inr fun x hx => absurd hx List.not_mem_nil
  | hardwareHeartbeat msg => exact Or.inr fun x hx => absurd hx List.not_mem_nil
  | approvedCommand msg => exact Or.inr fun x hx => absurd hx List.not_mem_nil
  | modeState msg => exact Or.inr fun x hx => absurd hx List.not_mem_nil
  | setParameters params => exact Or.inr fun x hx => absurd hx List.not_mem_nil

/-- A safety message is made from the state that the callback leaves, and the response that follows
it reports it. -/
theorem publication_eq {s : State} {i : Input} {safety : SafetyState}
    (hpub : Publication.safetyState safety ∈ (step s i).2) :
    safety = safetyMsg (step s i).1 i.now ∧ ∃ responses,
      (step s i).2 = [.safetyState safety, .mrmState (mrmMsg (step s i).1 i.now)] ++ responses ∧
      ∀ response, .triggerResponse response ∈ responses ∨ .clearResponse response ∈ responses →
        response.accepted = true ∧ response.activeSafetyState = safety.state := by
  rcases step_publishes s i with ⟨responses, hout, hresponses⟩ | hrejected
  · have hsafety : safety = safetyMsg (step s i).1 i.now := by
      rw [hout] at hpub
      rcases List.mem_append.mp hpub with hpub | hpub
      · simpa using hpub
      · obtain ⟨response, hx | hx, -⟩ := hresponses _ hpub <;> simp at hx
    subst hsafety
    refine ⟨rfl, responses, hout, fun response hmem => ?_⟩
    rcases hmem with hmem | hmem
    · obtain ⟨response', hx | hx, hresponse⟩ := hresponses _ hmem <;> cases hx
      exact hresponse
    · obtain ⟨response', hx | hx, hresponse⟩ := hresponses _ hmem <;> cases hx
      exact hresponse
  · obtain ⟨response, hx, -⟩ := hrejected _ hpub
    simp at hx

/-- An MRM message is made from the state that the callback leaves. -/
theorem mrm_publication_eq {s : State} {i : Input} {mrm : MRMState}
    (hpub : Publication.mrmState mrm ∈ (step s i).2) : mrm = mrmMsg (step s i).1 i.now := by
  rcases step_publishes s i with ⟨responses, hout, hresponses⟩ | hrejected
  · rw [hout] at hpub
    rcases List.mem_append.mp hpub with hpub | hpub
    · simpa using hpub
    · obtain ⟨response, hx | hx, -⟩ := hresponses _ hpub <;> simp at hx
  · obtain ⟨response, hx, -⟩ := hrejected _ hpub
    simp at hx

/-! ## The fields after a history -/

/-- The parameters set by an input. -/
def paramsStream : Input → Option Params
  | ⟨_, .setParameters params⟩ => some params
  | _ => none

/-- The active mode received with an input. -/
def modeStream : Input → Option UInt8
  | ⟨_, .modeState msg⟩ => some msg.activeMode
  | _ => none

/-- The clock reading at which an input is heard of a watched party. -/
def heard (w : Watchdog) (i : Input) : Option Time :=
  match i.event with
  | .teleopHeartbeat _ => if w = .teleopHeartbeat then some i.now else none
  | .hardwareHeartbeat _ => if w = .hardwareHeartbeat then some i.now else none
  | .approvedCommand _ => if w = .approvedCommand then some i.now else none
  | _ => none

/-- Whether an answer is that of an accepted trigger call or of an accepted clear call. -/
def acceptedCall : Publication → Option Bool
  | .triggerResponse response => if response.accepted then some true else none
  | .clearResponse response => if response.accepted then some false else none
  | _ => none

/-- The parameters in force after a history. -/
def paramsIn (params : Params) (h : List Input) : Params := (latest paramsStream h).getD params

/-- The last mode received in a history. -/
def modeIn (h : List Input) : UInt8 := (latest modeStream h).getD ModeState.modeInactive

/-- The last accepted service call of a run was a trigger. -/
def Latched (params : Params) (h : List Input) : Prop :=
  latest acceptedCall ((machine params).outputs h).flatten = some true

/-- **The watchdogs, read off the history.** -/
def Fires (params : Params) (h : List Input) (now : Time) (w : Watchdog) : Prop :=
  w.enabled (paramsIn params h) ∧ modeIn h ∈ w.modes ∧
    w.Overdue (paramsIn params h) now (latest (heard w) h)

/-- **The MRM sources, read off the history**: the parameter, the service, the watchdogs. -/
def MrmSource (params : Params) (h : List Input) (now : Time) : Prop :=
  (paramsIn params h).mrmActive ∨ Latched params h ∨
    ∃ w, Fires params h now w ∧ w.triggersMrm (paramsIn params h)

/-- A step of the machine is a callback of the node. -/
@[simp] theorem machine_next (params : Params) (s : State) (i : Input) :
    (machine params).next s i = (step s i).1 := rfl

/-- The machine outputs what the callback publishes and answers. -/
@[simp] theorem machine_out (params : Params) (s : State) (i : Input) :
    (machine params).out s i = (step s i).2 := rfl

/-- **What one callback leaves in the state**: each field follows its own stream, and the latch
follows the accepted service calls. -/
theorem step_fields (s : State) (i : Input) :
    (step s i).1.params = (paramsStream i).getD s.params ∧
      (step s i).1.activeMode = (modeStream i).getD s.activeMode ∧
      (∀ w, (step s i).1.lastSeen w = (heard w i).or (s.lastSeen w)) ∧
      (step s i).1.serviceMrmActive = (latest acceptedCall (step s i).2).getD s.serviceMrmActive := by
  obtain ⟨now, event⟩ := i
  cases event with
  | clearMrm request =>
    by_cases hestop : s.params.estopEngaged
    · simp only [step, handleClearMrm, if_pos hestop]
      exact ⟨rfl, rfl, fun w => rfl, rfl⟩
    · simp only [step, handleClearMrm, if_neg hestop]
      exact ⟨rfl, rfl, fun w => by cases w <;> rfl, rfl⟩
  | triggerMrm request => exact ⟨rfl, rfl, fun w => by cases w <;> rfl, rfl⟩
  | publishState => exact ⟨rfl, rfl, fun w => by cases w <;> rfl, rfl⟩
  | teleopHeartbeat msg => exact ⟨rfl, rfl, fun w => by cases w <;> rfl, rfl⟩
  | hardwareHeartbeat msg => exact ⟨rfl, rfl, fun w => by cases w <;> rfl, rfl⟩
  | approvedCommand msg => exact ⟨rfl, rfl, fun w => by cases w <;> rfl, rfl⟩
  | modeState msg => exact ⟨rfl, rfl, fun w => by cases w <;> rfl, rfl⟩
  | setParameters params => exact ⟨rfl, rfl, fun w => by cases w <;> rfl, rfl⟩

/-! ## The service latch -/

/-- **A trigger sets the latch, and only an accepted clear takes it back.** -/
theorem step_latch {s : State} {i : Input}
    (hlatch : s.serviceMrmActive = true ∨ ∃ request, i.event = .triggerMrm request)
    (hclear : ∀ response, .clearResponse response ∈ (step s i).2 → response.accepted = false) :
    (step s i).1.serviceMrmActive = true := by
  rcases hlatch with hlatch | ⟨request, hevent⟩
  · rw [(step_fields s i).2.2.2, hlatch]
    cases hcall : latest acceptedCall (step s i).2 with
    | none => rfl
    | some accepted =>
      -- the call that was answered last was not an accepted clear
      obtain ⟨x, hx, haccepted⟩ := exists_mem_of_latest hcall
      cases x with
      | triggerResponse response =>
        simp only [acceptedCall, Option.ite_none_right_eq_some, Option.some.injEq] at haccepted
        rw [← haccepted.2]
        rfl
      | clearResponse response =>
        simp [acceptedCall, hclear response hx] at haccepted
      | safetyState msg => simp [acceptedCall] at haccepted
      | mrmState msg => simp [acceptedCall] at haccepted
  · rw [step, hevent]
    rfl

/-- **What is published while the latch is set.** -/
theorem step_latched {s : State} {i : Input} (hlatch : (step s i).1.serviceMrmActive = true) :
    (∀ safety, .safetyState safety ∈ (step s i).2 →
        safety.state = SafetyState.stateMrm ∨ safety.state = SafetyState.stateEstop) ∧
      ∀ mrm, .mrmState mrm ∈ (step s i).2 →
        mrm.state = MRMState.stateStop ∨ mrm.state = MRMState.stateFault := by
  have hactive : mrmActive (step s i).1 i.now = true :=
    (mrmActive_iff _ _).mpr (Or.inr (Or.inl hlatch))
  have hstate : (safetyMsg (step s i).1 i.now).state = SafetyState.stateMrm ∨
      (safetyMsg (step s i).1 i.now).state = SafetyState.stateEstop := by
    rw [safetyMsg_state, hactive]
    by_cases hestop : (step s i).1.params.estopEngaged
    · exact Or.inr (if_pos hestop)
    · exact Or.inl (if_neg hestop)
  constructor
  · intro safety hpub
    rw [(publication_eq hpub).1]
    exact hstate
  · intro mrm hpub
    rw [mrm_publication_eq hpub, mrmMsg_state]
    rcases hstate with hmrm | hestop
    · rw [hmrm]
      exact Or.inl rfl
    · rw [hestop]
      exact Or.inr rfl

/-! ## The emergency stop -/

/-- What a publication or an answer says under the emergency stop: the state `ESTOP` with its fault,
an MRM in `FAULT` that asks for the operator, and no cleared MRM. -/
def Publication.Estopped : Publication → Prop
  | .safetyState msg => msg.state = SafetyState.stateEstop ∧ msg.estopEngaged = true ∧
      msg.activeFaults = ["estop_engaged"]
  | .mrmState msg => msg.state = MRMState.stateFault ∧ msg.operatorInterventionRequested = true
  | .triggerResponse response => response.accepted = true ∧
      response.activeSafetyState = SafetyState.stateEstop
  | .clearResponse response => response.accepted = false ∧
      response.activeSafetyState = SafetyState.stateEstop

/-- **A callback under the emergency stop** says so in all that it publishes, and keeps the latch. -/
theorem step_estopped {s : State} {i : Input} (hestop : s.params.estopEngaged = true) :
    (∀ x ∈ (step s i).2, x.Estopped) ∧
      (s.serviceMrmActive = true → (step s i).1.serviceMrmActive = true) := by
  obtain ⟨now, event⟩ := i
  have hsafety : ∀ s' : State, s'.params.estopEngaged = true →
      (Publication.safetyState (safetyMsg s' now)).Estopped := by
    intro s' hestop'
    rw [safetyMsg, if_pos hestop']
    exact ⟨rfl, hestop', rfl⟩
  have hmrm : ∀ s' : State, s'.params.estopEngaged = true →
      (Publication.mrmState (mrmMsg s' now)).Estopped := by
    intro s' hestop'
    exact ⟨if_pos hestop', by simp [mrmMsg, hestop']⟩
  cases event with
  | publishState =>
    refine ⟨fun x hx => ?_, fun hlatch => hlatch⟩
    rcases List.mem_pair.mp hx with rfl | rfl
    · exact hsafety s hestop
    · exact hmrm s hestop
  | triggerMrm request =>
    refine ⟨fun x hx => ?_, fun _ => rfl⟩
    rcases List.mem_append.mp hx with hx | hx
    · rcases List.mem_pair.mp hx with rfl | rfl
      · exact hsafety _ hestop
      · exact hmrm _ hestop
    · -- the answer reports the state that was published just before
      obtain rfl := List.mem_singleton.mp hx
      exact ⟨rfl, (hsafety { s with
        serviceMrmActive := true
        serviceMrmReason := orDefault request.reason "manual_mrm_trigger" } hestop).1⟩
  | clearMrm request =>
    simp only [step, handleClearMrm, if_pos hestop]
    refine ⟨fun x hx => ?_, fun hlatch => hlatch⟩
    obtain rfl := List.mem_singleton.mp hx
    exact ⟨rfl, rfl⟩
  | teleopHeartbeat msg | hardwareHeartbeat msg | approvedCommand msg | modeState msg
  | setParameters params =>
    exact ⟨fun x hx => absurd hx List.not_mem_nil, fun hlatch => hlatch⟩

section After

variable (params : Params) (h : List Input)

/-- The node holds the parameters set last. -/
theorem params_after : ((machine params).after h).params = paramsIn params h :=
  (machine params).latest_register State.params paramsStream (fun s i => (step_fields s i).1) h

/-- The node holds the mode received last. -/
theorem activeMode_after : ((machine params).after h).activeMode = modeIn h :=
  (machine params).latest_register State.activeMode modeStream (fun s i => (step_fields s i).2.1) h

/-- The node holds when it last heard of a watched party. -/
theorem lastSeen_after (w : Watchdog) :
    ((machine params).after h).lastSeen w = latest (heard w) h :=
  (machine params).latest_optional_register (fun s => s.lastSeen w) (heard w) (by cases w <;> rfl)
    (fun s i => (step_fields s i).2.2.1 w) h

/-- The latch is set between an accepted trigger and an accepted clear. -/
theorem serviceMrmActive_after :
    ((machine params).after h).serviceMrmActive = true ↔ Latched params h := by
  have hreg := Machine.latest_output_register (machine params) State.serviceMrmActive acceptedCall
    (fun s i => (step_fields s i).2.2.2) h
  rw [hreg, Latched]
  cases latest acceptedCall ((machine params).outputs h).flatten with
  | none =>
    -- before the first accepted call the latch is as it was at the start
    constructor
    · intro hset
      exact absurd hset Bool.false_ne_true
    · intro hcall
      exact absurd hcall (by simp)
  | some b => simp

/-- The node's watchdogs are the abstract ones. -/
theorem fires_after_iff (now : Time) (w : Watchdog) :
    ((machine params).after h).Fires now w ↔ Fires params h now w := by
  rw [State.Fires, Fires, params_after, activeMode_after, lastSeen_after]

/-- The node's MRM flag is the abstract one. -/
theorem mrmActive_after_iff (now : Time) :
    mrmActive ((machine params).after h) now = true ↔ MrmSource params h now := by
  rw [mrmActive_iff, serviceMrmActive_after, params_after, MrmSource]
  simp only [fires_after_iff]

end After

/-- **Every publication of every run is the one its history calls for.** At a publication, a
watchdog is reported exactly when it fires; the safety state is `ESTOP`, `MRM`, `WARN` or `OK`
according to the E-stop, the MRM sources and the watchdogs; the MRM state, the request for operator
intervention, the MRM flag and the reason agree with it; and the service response that follows
reports the state published. -/
theorem publication_exact (params : Params) (h : List Input) (i : Input) (safety : SafetyState)
    (hpub : Publication.safetyState safety ∈ (machine params).out ((machine params).after h) i) :
    ∃ mrm responses,
      (machine params).out ((machine params).after h) i =
        [.safetyState safety, .mrmState mrm] ++ responses ∧
      (∀ w, (∃ lastSeen, w.reason lastSeen ∈
          (watchdogs ((machine params).after (h ++ [i])) i.now).warnings ++
            (watchdogs ((machine params).after (h ++ [i])) i.now).mrmReasons) ↔
        Fires params (h ++ [i]) i.now w) ∧
      (safety.state = SafetyState.stateEstop ↔ (paramsIn params (h ++ [i])).estopEngaged) ∧
      (safety.state = SafetyState.stateMrm ↔
        ¬(paramsIn params (h ++ [i])).estopEngaged ∧ MrmSource params (h ++ [i]) i.now) ∧
      (safety.state = SafetyState.stateWarn ↔
        ¬(paramsIn params (h ++ [i])).estopEngaged ∧ ¬MrmSource params (h ++ [i]) i.now ∧
          ∃ w, Fires params (h ++ [i]) i.now w) ∧
      (safety.state = SafetyState.stateOk ↔
        ¬(paramsIn params (h ++ [i])).estopEngaged ∧ ¬MrmSource params (h ++ [i]) i.now ∧
          ¬∃ w, Fires params (h ++ [i]) i.now w) ∧
      (mrm.state =
        if safety.state = SafetyState.stateEstop then MRMState.stateFault
        else if safety.state = SafetyState.stateMrm then MRMState.stateStop
        else MRMState.stateNone) ∧
      (mrm.operatorInterventionRequested ↔ mrm.state ≠ MRMState.stateNone) ∧
      (safety.mrmActive ↔ MrmSource params (h ++ [i]) i.now) ∧
      (mrm.reason ≠ "" ↔ MrmSource params (h ++ [i]) i.now) ∧
      ∀ response, .triggerResponse response ∈ responses ∨ .clearResponse response ∈ responses →
        response.accepted ∧ response.activeSafetyState = safety.state := by
  rw [machine_out] at hpub ⊢
  -- everything is read off the state that the callback leaves, which is the state after `h ++ [i]`
  obtain ⟨hsafety, responses, hout, hresponses⟩ := publication_eq hpub
  rw [show (step ((machine params).after h) i).1 = (machine params).after (h ++ [i]) by simp]
    at hsafety hout
  subst hsafety
  obtain ⟨hestop, hmrm, hwarn, hok⟩ :=
    safetyMsg_state_iff ((machine params).after (h ++ [i])) i.now
  simp only [mrmActive_after_iff, fires_after_iff, params_after] at hestop hmrm hwarn hok
  refine ⟨_, responses, hout, fun w => ?_, hestop, hmrm, hwarn, hok, mrmMsg_state _ _, ?_, ?_, ?_,
    hresponses⟩
  · rw [reported_iff, fires_after_iff]
  · exact operatorIntervention_iff _ _
  · rw [safetyMsg_mrmActive, mrmActive_after_iff]
  · exact (mrmReason_ne_empty_iff _ _).trans (mrmActive_after_iff params _ _)

/-- The publication made by the first trigger call of a run. -/
theorem publication_exact_trigger :
    (safetyMsg ((machine {}).after [⟨7, .triggerMrm { reason := "smoke" }⟩]) 7).state =
        SafetyState.stateMrm ∧
      MrmSource {} [⟨7, .triggerMrm { reason := "smoke" }⟩] 7 := by
  obtain ⟨mrm, responses, -, -, -, hmrm, -⟩ := publication_exact {} []
    ⟨7, .triggerMrm { reason := "smoke" }⟩ _ List.mem_cons_self
  exact ⟨by decide, (hmrm.mp (by decide)).2⟩

end HumaWare.SafetyManager
