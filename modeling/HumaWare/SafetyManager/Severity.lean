import HumaWare.SafetyManager.Publication

/-! # Hearing less and demanding more never makes the state milder

Two runs of the safety manager side by side. The second was started with parameters that are at
least as strict, and differs from the first in its losses (heartbeats and clear calls that never
came), in its alarms (trigger calls that the first did not get) and in stricter parameter changes.
Whatever both publish at one moment, the second publishes a state at least as severe.

* **`Params.Stricter`** — what it means that one parameter set demands at least as much;
* **`Worsens`** — the second history, built beside the first;
* **`severity_mono`** — the states published in the two runs, compared. -/

namespace HumaWare.SafetyManager

open Reactive

/-- The safety states of the node from the mildest to the most severe. Their codes are in another
order. -/
def escalation : List UInt8 :=
  [SafetyState.stateOk, SafetyState.stateWarn, SafetyState.stateMrm, SafetyState.stateEstop]

/-- How severe a safety state is. -/
def severity (state : UInt8) : ℕ := escalation.idxOf state

/-- `q` demands at least as much as `p`: it engages what `p` engages, requires the watchdogs that
`p` requires and is no more patient with them. -/
structure Params.Stricter (p q : Params) : Prop where
  estop : p.estopEngaged = true → q.estopEngaged = true
  mrm : p.mrmActive = true → q.mrmActive = true
  enabled : ∀ w : Watchdog, w.enabled p = true → w.enabled q = true
  timeout : ∀ w : Watchdog, w.timeout q ≤ w.timeout p
  triggers : ∀ w : Watchdog, w.triggersMrm p = true → w.triggersMrm q = true

/-- An input that can only calm the node: a heartbeat of a party that must not be silent, or a call
that clears the MRM. An approved command is none: the node starts to watch for the next one when it
hears of the first. -/
def Event.Calms : Event → Prop
  | .teleopHeartbeat _ => True
  | .hardwareHeartbeat _ => True
  | .clearMrm _ => True
  | _ => False

/-- **The second history is the first one made worse**, input by input. -/
inductive Worsens : List Input → List Input → Prop
  | nil : Worsens [] []
  /-- an input that both runs get -/
  | both {h h' : List Input} (i : Input) : Worsens h h' → Worsens (h ++ [i]) (h' ++ [i])
  /-- a parameter change that is stricter in the second run -/
  | stricter {h h' : List Input} (now : Time) {p q : Params} : p.Stricter q → Worsens h h' →
      Worsens (h ++ [⟨now, .setParameters p⟩]) (h' ++ [⟨now, .setParameters q⟩])
  /-- an input that the second run never gets -/
  | lost {h h' : List Input} {i : Input} : i.event.Calms → Worsens h h' → Worsens (h ++ [i]) h'
  /-- a trigger call that only the second run gets -/
  | alarm {h h' : List Input} (now : Time) (request : MRMRequest) : Worsens h h' →
      Worsens h (h' ++ [⟨now, .triggerMrm request⟩])

namespace Worsens

variable {h h' : List Input}

/-- The parameters in force stay ordered. -/
theorem params {p q : Params} (hworse : Worsens h h') (hstart : p.Stricter q) :
    (paramsIn p h).Stricter (paramsIn q h') := by
  simp only [paramsIn]
  induction hworse with
  | nil => exact hstart
  | both i _ ih =>
    rw [latest_concat, latest_concat]
    cases paramsStream i with
    | none => exact ih
    | some params => exact ⟨id, id, fun _ => id, fun _ => le_rfl, fun _ => id⟩
  | stricter now hpq _ _ =>
    rw [latest_concat, latest_concat]
    exact hpq
  | @lost _ _ i hcalms _ ih =>
    have hsilent : paramsStream i = none := by
      obtain ⟨now, event⟩ := i
      cases event <;> first | rfl | exact hcalms.elim
    rw [latest_concat, hsilent]
    exact ih
  | alarm now request _ ih =>
    rw [latest_concat]
    exact ih

/-- A stream that no lost, added or changed input is on says the same in both histories. -/
theorem latest_eq {β : Type*} {f : Input → Option β} (hworse : Worsens h h')
    (hcalms : ∀ i : Input, i.event.Calms → f i = none)
    (hset : ∀ now params, f ⟨now, .setParameters params⟩ = none)
    (htrigger : ∀ now request, f ⟨now, .triggerMrm request⟩ = none) :
    latest f h' = latest f h := by
  induction hworse with
  | nil => rfl
  | both i _ ih => rw [latest_concat, latest_concat, ih]
  | stricter now _ _ ih => rw [latest_concat, latest_concat, hset, hset, Option.none_or,
      Option.none_or, ih]
  | lost hcalm _ ih => rw [latest_concat, hcalms _ hcalm, Option.none_or, ih]
  | alarm now request _ ih => rw [latest_concat, htrigger, Option.none_or, ih]

/-- Both runs are in the same mode. -/
theorem mode (hworse : Worsens h h') : modeIn h' = modeIn h := by
  rw [modeIn, modeIn, hworse.latest_eq ?_ (fun _ _ => rfl) (fun _ _ => rfl)]
  rintro ⟨now, event⟩ hcalms
  cases event <;> first | rfl | exact hcalms.elim

/-- What the second run hears of a watched party, the first run hears too. -/
theorem mem_of_heard (hworse : Worsens h h') {w : Watchdog} {x : Input} {t : Time} (hx : x ∈ h')
    (hheard : heard w x = some t) : x ∈ h := by
  induction hworse with
  | nil => exact hx
  | both i _ ih =>
    rcases List.mem_append.mp hx with hx | hx
    · exact List.mem_append_left _ (ih hx)
    · exact List.mem_append_right _ hx
  | stricter now _ _ ih =>
    rcases List.mem_append.mp hx with hx | hx
    · exact List.mem_append_left _ (ih hx)
    · rw [List.mem_singleton.mp hx] at hheard
      exact absurd hheard (by simp [heard])
  | lost _ _ ih => exact List.mem_append_left _ (ih hx)
  | alarm now request _ ih =>
    rcases List.mem_append.mp hx with hx | hx
    · exact ih hx
    · rw [List.mem_singleton.mp hx] at hheard
      exact absurd hheard (by simp [heard])

/-- The second run heard last of a watched party no later than the first. -/
theorem latest_heard_le (hworse : Worsens h h') (hmono : ClockMonotone h) {w : Watchdog} {t : Time}
    (hlast : latest (heard w) h' = some t) : ∃ t', latest (heard w) h = some t' ∧ t ≤ t' := by
  obtain ⟨x, hx, hheard⟩ := exists_mem_of_latest hlast
  refine le_latest_of_mem hmono ?_ (hworse.mem_of_heard hx hheard) hheard
  rintro ⟨now, event⟩ t hsome
  cases event <;>
    simp only [heard, reduceCtorEq, Option.ite_none_right_eq_some, Option.some.injEq] at hsome
  all_goals exact hsome.2

/-- What is overdue in the first run is overdue in the second. -/
theorem overdue {p q : Params} (hworse : Worsens h h') (hmono : ClockMonotone h)
    (hpq : p.Stricter q) {w : Watchdog} {now : Time}
    (hoverdue : w.Overdue p now (latest (heard w) h)) :
    w.Overdue q now (latest (heard w) h') := by
  cases hlast : latest (heard w) h' with
  | some t =>
    obtain ⟨t', hlast', hle⟩ := hworse.latest_heard_le hmono hlast
    rw [hlast'] at hoverdue
    -- heard of no later, and waited for no longer
    calc w.timeout q ≤ w.timeout p := hpq.timeout w
      _ < now - t' := hoverdue
      _ ≤ now - t := sub_le_sub_left hle now
  | none =>
    cases w with
    | teleopHeartbeat => exact rfl
    | hardwareHeartbeat => exact rfl
    | approvedCommand =>
      -- no approved command is lost, so the first run never heard of one either
      have hsame : latest (heard .approvedCommand) h' = latest (heard .approvedCommand) h := by
        refine hworse.latest_eq ?_ (fun _ _ => rfl) (fun _ _ => rfl)
        rintro ⟨now, event⟩ hcalms
        cases event <;> first | rfl | exact hcalms.elim
      rw [← hsame, hlast] at hoverdue
      exact hoverdue

/-- A watchdog that fires in the first run fires in the second. -/
theorem fires {p q : Params} (hworse : Worsens h h') (hmono : ClockMonotone h)
    (hstart : p.Stricter q) {w : Watchdog} {now : Time} (hfires : Fires p h now w) :
    Fires q h' now w := by
  obtain ⟨henabled, hmode, hoverdue⟩ := hfires
  have hparams := hworse.params hstart
  refine ⟨hparams.enabled w henabled, ?_, hworse.overdue hmono hparams hoverdue⟩
  rw [hworse.mode]
  exact hmode

end Worsens

/-- An input that is no call leaves the latch. -/
theorem step_serviceMrmActive {s : State} {i : Input}
    (htrigger : ∀ request, i.event ≠ .triggerMrm request)
    (hclear : ∀ request, i.event ≠ .clearMrm request) :
    (step s i).1.serviceMrmActive = s.serviceMrmActive := by
  obtain ⟨now, event⟩ := i
  cases event with
  | triggerMrm request => exact absurd rfl (htrigger request)
  | clearMrm request => exact absurd rfl (hclear request)
  | _ => rfl

/-- A clear call clears the latch unless the emergency stop is engaged. -/
theorem step_clearMrm (s : State) (now : Time) (request : MRMRequest) :
    (step s ⟨now, .clearMrm request⟩).1.serviceMrmActive =
      (s.params.estopEngaged && s.serviceMrmActive) := by
  cases hestop : s.params.estopEngaged with
  | true => simp [step, handleClearMrm, hestop]
  | false => simp [step, handleClearMrm, hestop, publishState]

/-- One input that both runs get keeps the latch ordered. -/
theorem step_latch_mono {s s' : State} (i : Input)
    (hestop : s.params.estopEngaged = true → s'.params.estopEngaged = true)
    (hlatch : s.serviceMrmActive = true → s'.serviceMrmActive = true) :
    (step s i).1.serviceMrmActive = true → (step s' i).1.serviceMrmActive = true := by
  by_cases htrigger : ∃ request, i.event = .triggerMrm request
  · obtain ⟨now, event⟩ := i
    obtain ⟨request, rfl⟩ := htrigger
    exact fun _ => rfl
  by_cases hclear : ∃ request, i.event = .clearMrm request
  · obtain ⟨now, event⟩ := i
    obtain ⟨request, rfl⟩ := hclear
    rw [step_clearMrm, step_clearMrm, Bool.and_eq_true, Bool.and_eq_true]
    -- a clear that the first run rejects is rejected in the second too
    rintro ⟨hengaged, hset⟩
    exact ⟨hestop hengaged, hlatch hset⟩
  · rw [not_exists] at htrigger hclear
    rw [step_serviceMrmActive htrigger hclear, step_serviceMrmActive htrigger hclear]
    exact hlatch

/-- An MRM that is latched in the first run is latched in the second. -/
theorem Worsens.latch {h h' : List Input} {p q : Params} (hworse : Worsens h h')
    (hstart : p.Stricter q) (hset : ((machine p).after h).serviceMrmActive = true) :
    ((machine q).after h').serviceMrmActive = true := by
  induction hworse with
  | nil => exact hset
  | both i hworse ih =>
    rw [Machine.after_concat, machine_next] at hset ⊢
    refine step_latch_mono i ?_ ih hset
    rw [params_after, params_after]
    exact (hworse.params hstart).estop
  | stricter now _ _ ih =>
    rw [Machine.after_concat, machine_next] at hset ⊢
    exact ih hset
  | @lost _ _ i hcalms _ ih =>
    refine ih ?_
    rw [Machine.after_concat, machine_next] at hset
    obtain ⟨now, event⟩ := i
    cases event with
    | teleopHeartbeat msg => exact hset
    | hardwareHeartbeat msg => exact hset
    | clearMrm request =>
      rw [step_clearMrm, Bool.and_eq_true] at hset
      exact hset.2
    | _ => exact hcalms.elim
  | alarm now request _ _ =>
    rw [Machine.after_concat, machine_next]
    rfl

/-- Two states whose conditions are ordered publish ordered safety states. -/
theorem severity_safetyMsg_le {s s' : State} {now : Time}
    (hestop : s.params.estopEngaged = true → s'.params.estopEngaged = true)
    (hmrm : mrmActive s now = true → mrmActive s' now = true)
    (hfires : (∃ w, s.Fires now w) → ∃ w, s'.Fires now w) :
    severity (safetyMsg s now).state ≤ severity (safetyMsg s' now).state := by
  obtain ⟨-, -, hwarn, hok⟩ := safetyMsg_state_iff s now
  obtain ⟨hestopped, hmrms, hwarn', -⟩ := safetyMsg_state_iff s' now
  by_cases hestop' : s'.params.estopEngaged = true
  · -- nothing is more severe than the emergency stop
    rw [hestopped.mpr hestop', safetyMsg_state]
    split_ifs <;> decide
  have hnotEstop : ¬s.params.estopEngaged = true := fun hengaged => hestop' (hestop hengaged)
  by_cases hmrm' : mrmActive s' now = true
  · rw [hmrms.mpr ⟨hestop', hmrm'⟩, safetyMsg_state, if_neg hnotEstop]
    split_ifs <;> decide
  have hnotMrm : ¬mrmActive s now = true := fun hactive => hmrm' (hmrm hactive)
  by_cases hfire : ∃ w, s.Fires now w
  · rw [hwarn.mpr ⟨hnotEstop, hnotMrm, hfire⟩, hwarn'.mpr ⟨hestop', hmrm', hfires hfire⟩]
  · rw [hok.mpr ⟨hnotEstop, hnotMrm, hfire⟩]
    exact Nat.zero_le _

/-- **Hearing less and demanding more never makes the state milder.** Take two runs of the node. The
second was started with parameters at least as strict; it lost any heartbeats and clear calls of the
first, got any trigger calls besides, and its parameter changes are at least as strict. Then
whatever both publish on one more input, the state that the second publishes is at least as
severe. -/
theorem severity_mono {p q : Params} {h h' : List Input} {i : Input} {safety safety' : SafetyState}
    (hstart : p.Stricter q) (hworse : Worsens h h') (hmono : ClockMonotone (h ++ [i]))
    (hpub : .safetyState safety ∈ (machine p).out ((machine p).after h) i)
    (hpub' : .safetyState safety' ∈ (machine q).out ((machine q).after h') i) :
    severity safety.state ≤ severity safety'.state := by
  rw [machine_out] at hpub hpub'
  rw [(publication_eq hpub).1, (publication_eq hpub').1, ← machine_next p, ← machine_next q,
    ← Machine.after_concat, ← Machine.after_concat]
  -- both are made from the state after the input, and there the two histories are related
  have hworse' : Worsens (h ++ [i]) (h' ++ [i]) := hworse.both i
  have hparams := hworse'.params hstart
  have hfires : ∀ w, Fires p (h ++ [i]) i.now w → Fires q (h' ++ [i]) i.now w :=
    fun w => hworse'.fires hmono hstart
  apply severity_safetyMsg_le
  · rw [params_after, params_after]
    exact hparams.estop
  · rw [mrmActive_iff, mrmActive_iff, params_after, params_after]
    simp only [fires_after_iff]
    rintro (hparam | hlatch | ⟨w, hfire, htriggers⟩)
    · exact Or.inl (hparams.mrm hparam)
    · exact Or.inr (Or.inl (hworse'.latch hstart hlatch))
    · exact Or.inr (Or.inr ⟨w, hfires w hfire, hparams.triggers w htriggers⟩)
  · simp only [fires_after_iff]
    rintro ⟨w, hfire⟩
    exact ⟨w, hfires w hfire⟩

/-- In teleop mode the heartbeat is lost: where one run is `OK`, the stricter one is in an MRM. -/
theorem severity_mono_heartbeat :
    severity (safetyMsg ((machine {}).after
        [⟨1, .modeState { activeMode := ModeState.modeTeleop }⟩, ⟨2, .teleopHeartbeat {}⟩]) 3).state ≤
      severity (safetyMsg ((machine { teleopHeartbeatTimeoutTriggersMrm := true }).after
        [⟨1, .modeState { activeMode := ModeState.modeTeleop }⟩]) 3).state ∧
    (safetyMsg ((machine { teleopHeartbeatTimeoutTriggersMrm := true }).after
        [⟨1, .modeState { activeMode := ModeState.modeTeleop }⟩]) 3).state =
      SafetyState.stateMrm := by
  have hstart : Params.Stricter {} { teleopHeartbeatTimeoutTriggersMrm := true } := by
    refine ⟨id, id, fun w => ?_, fun w => ?_, fun w htriggers => ?_⟩
    · cases w <;> exact id
    · cases w <;> exact le_rfl
    · cases w with
      | teleopHeartbeat => rfl
      | hardwareHeartbeat => exact htriggers
      | approvedCommand => exact htriggers
  have hcalms : (Event.teleopHeartbeat {}).Calms := trivial
  have hworse : Worsens
      [⟨1, .modeState { activeMode := ModeState.modeTeleop }⟩, ⟨2, .teleopHeartbeat {}⟩]
      [⟨1, .modeState { activeMode := ModeState.modeTeleop }⟩] :=
    Worsens.lost (i := ⟨2, _⟩) hcalms (Worsens.both ⟨1, _⟩ .nil)
  exact ⟨severity_mono (i := ⟨3, .publishState⟩) hstart hworse (by decide) List.mem_cons_self
    List.mem_cons_self, by decide⟩

end HumaWare.SafetyManager
