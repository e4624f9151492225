import HumaWare.SafetyManager.Publication

/-! # What ends an MRM

An MRM has sources of three kinds: the parameter, the service latch, and the watchdogs that trigger.
Each stays active until an input of its own kind comes. For the parameter and the latch that is an
operator's; a watchdog that fires goes on firing as time passes, but it also falls silent as soon as
the party it watches is heard, or the mode is one in which it does not watch.

* **`mrmActive_iff_raises`** — the MRM flag is set exactly while some source is active;
* **`step_raises`** — an input that does not end a source leaves it active. -/

namespace HumaWare.SafetyManager

open Reactive

/-- The sources of an MRM. -/
inductive Source
  | parameter
  | service
  | watchdog (w : Watchdog)
  deriving DecidableEq, Repr

/-- The source is active in the state at `now`. -/
def State.Raises (s : State) (now : Time) : Source → Prop
  | .parameter => s.params.mrmActive = true
  | .service => s.serviceMrmActive = true
  | .watchdog w => s.Fires now w ∧ w.triggersMrm s.params = true

/-- A parameter change that relaxes the watchdog: it is switched off, it no longer triggers an MRM, or
its timeout is longer. -/
def Watchdog.Relaxes (w : Watchdog) (params params' : Params) : Prop :=
  w.enabled params' = false ∨ w.triggersMrm params' = false ∨ w.timeout params < w.timeout params'

/-- The input, handled in the state, can end the source. -/
def State.Ends (s : State) (i : Input) : Source → Prop
  | .parameter => ∃ params, i.event = .setParameters params ∧ params.mrmActive = false
  | .service => ∃ response, .clearResponse response ∈ (step s i).2 ∧ response.accepted = true
  | .watchdog w => (heard w i).isSome ∨ (∃ msg, i.event = .modeState msg ∧ msg.activeMode ∉ w.modes) ∨
      ∃ params, i.event = .setParameters params ∧ w.Relaxes s.params params

/-- The MRM flag is set exactly while some source is active. -/
theorem mrmActive_iff_raises {s : State} {now : Time} :
    mrmActive s now = true ↔ ∃ source, s.Raises now source := by
  rw [mrmActive_iff]
  constructor
  · rintro (hparam | hservice | ⟨w, hfires, htriggers⟩)
    · exact ⟨.parameter, hparam⟩
    · exact ⟨.service, hservice⟩
    · exact ⟨.watchdog w, hfires, htriggers⟩
  · rintro ⟨source, hraises⟩
    cases source with
    | parameter => exact Or.inl hraises
    | service => exact Or.inr (Or.inl hraises)
    | watchdog w => exact Or.inr (Or.inr ⟨w, hraises⟩)

/-- **A published MRM has a source.** -/
theorem exists_raises_of_mrm {s : State} {now : Time}
    (hmrm : (safetyMsg s now).state = SafetyState.stateMrm) : ∃ source, s.Raises now source := by
  have hflag : mrmActive s now = true := ((safetyMsg_state_iff s now).2.1.mp hmrm).2
  exact mrmActive_iff_raises.mp hflag

/-- **A published state that allows motion has none.** -/
theorem not_raises_of_allowed {s : State} {now : Time}
    (hallowed : (safetyMsg s now).state = SafetyState.stateOk ∨
      (safetyMsg s now).state = SafetyState.stateWarn) (source : Source) : ¬s.Raises now source := by
  intro hraises
  have hflag : mrmActive s now = true := mrmActive_iff_raises.mpr ⟨source, hraises⟩
  rcases hallowed with hok | hwarn
  · exact ((safetyMsg_state_iff s now).2.2.2.mp hok).2.1 hflag
  · exact ((safetyMsg_state_iff s now).2.2.1.mp hwarn).2.1 hflag

/-- A party that is overdue is so under every timeout that is not longer. -/
theorem Watchdog.Overdue.of_timeout_le {w : Watchdog} {params params' : Params} {now : Time}
    {lastSeen : Option Time} (hoverdue : w.Overdue params now lastSeen)
    (hle : w.timeout params' ≤ w.timeout params) : w.Overdue params' now lastSeen := by
  cases lastSeen with
  | none => exact hoverdue
  | some t => exact lt_of_le_of_lt hle hoverdue

/-- A watchdog that fires goes on firing as time passes. -/
theorem State.Fires.mono {s : State} {now now' : Time} {w : Watchdog} (hfires : s.Fires now w)
    (hle : now ≤ now') : s.Fires now' w := by
  obtain ⟨henabled, hmode, hoverdue⟩ := hfires
  refine ⟨henabled, hmode, ?_⟩
  cases hseen : s.lastSeen w with
  | none =>
    rw [hseen] at hoverdue
    exact hoverdue
  | some t =>
    rw [hseen] at hoverdue
    exact lt_of_lt_of_le hoverdue (sub_le_sub_right hle t)

/-- A source that is active stays so as time passes. -/
theorem State.Raises.mono {s : State} {now now' : Time} {source : Source}
    (hraises : s.Raises now source) (hle : now ≤ now') : s.Raises now' source := by
  cases source with
  | parameter => exact hraises
  | service => exact hraises
  | watchdog w => exact ⟨hraises.1.mono hle, hraises.2⟩

/-- **An input that does not end a source leaves it active.** -/
theorem step_raises {s : State} {i : Input} {now : Time} {source : Source}
    (hraises : s.Raises now source) (hends : ¬s.Ends i source) :
    (step s i).1.Raises now source := by
  obtain ⟨hparams, hmode, hseen, -⟩ := step_fields s i
  cases source with
  | parameter =>
    rw [State.Raises, hparams]
    cases hstream : paramsStream i with
    | none => exact hraises
    | some params =>
      -- a parameter change that does not reset the flag
      obtain ⟨now', event⟩ := i
      cases event <;> simp only [paramsStream, reduceCtorEq, Option.some.injEq] at hstream
      subst hstream
      rw [Option.getD_some]
      by_contra hreset
      exact hends ⟨_, rfl, Bool.eq_false_iff.mpr hreset⟩
  | service =>
    refine step_latch (Or.inl hraises) fun response hresponse => ?_
    by_contra haccepted
    exact hends ⟨response, hresponse, Bool.eq_true_of_not_eq_false haccepted⟩
  | watchdog w =>
    obtain ⟨⟨henabled, hwatched, hoverdue⟩, htriggers⟩ := hraises
    simp only [State.Ends, not_or, not_exists, not_and, not_not, Bool.not_eq_true,
      Option.isSome_eq_false_iff, Option.isNone_iff_eq_none] at hends
    obtain ⟨hheard, hmodes, hset⟩ := hends
    -- the parameters that the step leaves do not relax the watchdog
    have hkept : w.enabled (step s i).1.params = true ∧ w.triggersMrm (step s i).1.params = true ∧
        w.timeout (step s i).1.params ≤ w.timeout s.params := by
      rw [hparams]
      obtain ⟨now', event⟩ := i
      cases event with
      | setParameters params =>
        obtain ⟨hon, htriggers', hle⟩ := not_or.mp (hset params rfl) |>.imp_right not_or.mp
        exact ⟨Bool.eq_true_of_not_eq_false hon, Bool.eq_true_of_not_eq_false htriggers', not_lt.mp hle⟩
      | _ => exact ⟨henabled, htriggers, le_refl _⟩
    have hmode' : (step s i).1.activeMode ∈ w.modes := by
      rw [hmode]
      obtain ⟨now', event⟩ := i
      cases event with
      | modeState msg => exact hmodes msg rfl
      | _ => exact hwatched
    have hseen' : (step s i).1.lastSeen w = s.lastSeen w := by
      rw [hseen w, hheard, Option.none_or]
    rw [State.Raises, State.Fires, hseen']
    exact ⟨⟨hkept.1, hmode', hoverdue.of_timeout_le hkept.2.2⟩, hkept.2.1⟩

end HumaWare.SafetyManager
