import HumaWare.LocomotionAdapter.Effect

/-! # A stop settles once

The stop timer starts when the state becomes `STOPPING`, and neither a repeated stop command nor
another reason to stop touches it. With a fixed `stop_settle_time_s` and a clock that does not go
back:

* **`StartsStop`** — the step at which a stop begins;
* **`TimerTells`**, **`timerTells_after`** — what the timer says of the history: when the last stop
  began, or, for a robot that stands, that the stop has settled;
* **`settlesLate_after`** — from a motion on, the robot stands no earlier than the settle time;
* **`stop_settles_once`** — both, for what a tick publishes. -/

namespace HumaWare.LocomotionAdapter

open Python Reactive

/-- A stop begins with the input `i`: the state becomes `STOPPING`, from one that is neither
`STOPPING` nor `STANDING`, or from a `STANDING` in which no stop timer ran. -/
def StartsStop (params : Params) (h : List Input) (i : Input) : Prop :=
  ((machine params).after (h ++ [i])).state = LocomotionState.stateStopping ∧
    (((machine params).after h).state ∉
        [LocomotionState.stateStopping, LocomotionState.stateStanding] ∨
      ((machine params).after h).state = LocomotionState.stateStanding ∧
        ((machine params).after h).stopStartedAt = none)

/-- The last stop of a history began at `start`. -/
def LastStop (params : Params) (h : List Input) (start : Time) : Prop :=
  ∃ pre e post, LastStep (StartsStop params) h pre e post ∧ e.now = start

/-- A stop goes on where no other one begins. -/
theorem LastStop.concat {params : Params} {h : List Input} {start : Time} {i : Input}
    (hlast : LastStop params h start) (hother : ¬StartsStop params h i) :
    LastStop params (h ++ [i]) start := by
  obtain ⟨pre, e, post, hstep, hstart⟩ := hlast
  exact ⟨pre, e, post ++ [i], hstep.concat hother, hstart⟩

/-- What the timer says of the history. -/
structure TimerTells (params : Params) (h : List Input) : Prop where
  stopping : ((machine params).after h).state = LocomotionState.stateStopping →
    ∃ start, ((machine params).after h).stopStartedAt = some start ∧ LastStop params h start
  standing : ((machine params).after h).state = LocomotionState.stateStanding →
    ∀ start, ((machine params).after h).stopStartedAt = some start →
      LastStop params h start ∨ ∃ j ∈ h, params.stopSettleTime ≤ j.now - start

section Step

variable {params : Params} {h : List Input} {i : Input}

/-- No stop begins with an input that leaves the state and the timer as they are. -/
theorem not_startsStop_of_same
    (hstate : ((machine params).after (h ++ [i])).state = ((machine params).after h).state) :
    ¬StartsStop params h i := by
  rintro ⟨hstopping, hstart⟩
  rw [hstate] at hstopping
  rcases hstart with hother | ⟨hstanding, -⟩
  · exact hother (by simp [hstopping])
  · exact absurd (hstopping.symm.trans hstanding) (by decide)

/-- A robot that stops does not stand yet. -/
theorem stateStopping_ne_stateStanding :
    LocomotionState.stateStopping ≠ LocomotionState.stateStanding := by
  decide

/-- No stop begins where the state does not become `STOPPING`. -/
theorem not_startsStop_of_ne
    (hstate : ((machine params).after (h ++ [i])).state ≠ LocomotionState.stateStopping) :
    ¬StartsStop params h i := fun hstarts => hstate hstarts.1

/-- The timer goes on telling the same where an input leaves the state and the timer alone. -/
theorem TimerTells.concat_of_same (htells : TimerTells params h)
    (hmotion : ((machine params).after (h ++ [i])).motion = ((machine params).after h).motion) :
    TimerTells params (h ++ [i]) := by
  have hstate : ((machine params).after (h ++ [i])).state = ((machine params).after h).state :=
    congrArg Motion.state hmotion
  have htimer : ((machine params).after (h ++ [i])).stopStartedAt =
      ((machine params).after h).stopStartedAt := congrArg Motion.stopStartedAt hmotion
  have hother := not_startsStop_of_same hstate
  constructor
  · rw [hstate, htimer]
    intro hstopping
    obtain ⟨start, hstart, hlast⟩ := htells.stopping hstopping
    exact ⟨start, hstart, hlast.concat hother⟩
  · rw [hstate, htimer]
    intro hstanding start hstart
    refine (htells.standing hstanding start hstart).imp (fun hlast => hlast.concat hother) ?_
    rintro ⟨j, hj, hsettled⟩
    exact ⟨j, List.mem_append_left _ hj, hsettled⟩

/-- A robot that stands with a timer tells of the stop that was under way. -/
theorem TimerTells.wait (htells : TimerTells params h)
    (hstate : ((machine params).after (h ++ [i])).state = LocomotionState.stateStanding)
    (htimer : ((machine params).after (h ++ [i])).stopStartedAt =
      ((machine params).after h).stopStartedAt) : TimerTells params (h ++ [i]) := by
  have hother : ¬StartsStop params h i := not_startsStop_of_ne (by rw [hstate]; decide)
  refine ⟨fun hstopping => absurd (hstate.symm.trans hstopping) (by decide), ?_⟩
  rw [htimer]
  intro _ start hstart
  have hrunning := (timed_after params h).running (by rw [motion_stopStartedAt, hstart]; rfl)
  rcases hrunning with hstopping | hstanding
  · obtain ⟨start', hstart', hlast⟩ := htells.stopping hstopping
    rw [hstart, Option.some.injEq] at hstart'
    rw [hstart']
    exact Or.inl (hlast.concat hother)
  · refine (htells.standing hstanding start hstart).imp (fun hlast => hlast.concat hother) ?_
    rintro ⟨j, hj, hsettled⟩
    exact ⟨j, List.mem_append_left _ hj, hsettled⟩

/-- A robot that stands after a stop which has settled. -/
theorem timerTells_of_settled {start : Time}
    (hstate : ((machine params).after (h ++ [i])).state = LocomotionState.stateStanding)
    (htimer : ((machine params).after (h ++ [i])).stopStartedAt = some start)
    (hsettled : params.stopSettleTime ≤ i.now - start) : TimerTells params (h ++ [i]) := by
  refine ⟨fun hstopping => (nomatch hstate.symm.trans hstopping), ?_⟩
  intro _ start' hstart'
  rw [htimer, Option.some.injEq] at hstart'
  rw [← hstart']
  exact Or.inr ⟨i, List.mem_append_right _ (List.mem_singleton_self i), hsettled⟩

/-- A stop that does not settle at once goes on, or begins: it is the last one in both cases. -/
theorem TimerTells.lastStop_of_stopping (htells : TimerTells params h)
    (hmono : ClockMonotone (h ++ [i]))
    (hstate : ((machine params).after (h ++ [i])).state = LocomotionState.stateStopping)
    (hwait : i.now - ((machine params).after h).stopStart i.now < params.stopSettleTime) :
    LastStop params (h ++ [i]) (((machine params).after h).stopStart i.now) := by
  have hbegins : StartsStop params h i → LastStop params (h ++ [i]) i.now :=
    fun hstarts => ⟨h, i, [], .here hstarts, rfl⟩
  rw [State.stopStart] at hwait ⊢
  by_cases hunder : ((machine params).after h).state ∈
      [LocomotionState.stateStopping, LocomotionState.stateStanding]
  · rw [if_pos hunder] at hwait ⊢
    rcases List.mem_pair.mp hunder with hstopping | hstanding
    · obtain ⟨start, hstart, hlast⟩ := htells.stopping hstopping
      rw [hstart, Option.getD_some]
      exact hlast.concat (not_startsStop_of_same (hstate.trans hstopping.symm))
    · cases hstart : ((machine params).after h).stopStartedAt with
      | none => exact hbegins ⟨hstate, Or.inr ⟨hstanding, hstart⟩⟩
      | some start =>
        rw [hstart, Option.getD_some] at hwait
        rw [Option.getD_some]
        have hother : ¬StartsStop params h i := by
          rintro ⟨-, hnew | ⟨-, hnone⟩⟩
          · exact hnew hunder
          · rw [hstart] at hnone
            cases hnone
        rcases htells.standing hstanding start hstart with hlast | ⟨j, hj, hsettled⟩
        · exact hlast.concat hother
        · -- a stop that had settled would settle again
          have hlater : j.now ≤ i.now := hmono.le_of_append hj (List.mem_singleton_self i)
          exact absurd hwait (not_lt.mpr (hsettled.trans (by linarith)))
  · rw [if_neg hunder] at hwait ⊢
    exact hbegins ⟨hstate, Or.inl hunder⟩

/-- **Every callback keeps what the timer tells.** -/
theorem TimerTells.concat (htells : TimerTells params h)
    (hsettle : ((machine params).after h).params.stopSettleTime = params.stopSettleTime)
    (hmono : ClockMonotone (h ++ [i])) : TimerTells params (h ++ [i]) := by
  have heffect := effect_step ((machine params).after h) i
  rw [← machine_next params, ← Machine.after_concat] at heffect
  generalize hmotion : ((machine params).after (h ++ [i])).motion = m at heffect
  have hstate : ((machine params).after (h ++ [i])).state = m.state := congrArg Motion.state hmotion
  have htimer : ((machine params).after (h ++ [i])).stopStartedAt = m.stopStartedAt :=
    congrArg Motion.stopStartedAt hmotion
  cases heffect with
  | store | pass => exact htells.concat_of_same hmotion
  | halt =>
    have hneither : ((machine params).after (h ++ [i])).state ≠ LocomotionState.stateStopping ∧
        ((machine params).after (h ++ [i])).state ≠ LocomotionState.stateStanding := by
      rw [hstate]
      decide
    exact ⟨fun h => absurd h hneither.1, fun h => absurd h hneither.2⟩
  | stop reason =>
    rw [State.stopped] at hstate htimer
    by_cases hsettles : ((machine params).after h).Settles i.now
    · rw [if_pos hsettles] at hstate htimer
      rw [State.Settles, hsettle] at hsettles
      exact timerTells_of_settled hstate htimer hsettles
    · rw [if_neg hsettles] at hstate htimer
      have hnotStanding : ((machine params).after (h ++ [i])).state ≠
          LocomotionState.stateStanding := by
        rw [hstate]
        exact stateStopping_ne_stateStanding
      refine ⟨fun _ => ⟨_, htimer, ?_⟩, fun h => absurd h hnotStanding⟩
      rw [State.Settles, not_le, hsettle] at hsettles
      exact htells.lastStop_of_stopping hmono hstate hsettles
  | wait => exact htells.wait hstate htimer
  | settle stopStartedAt _ _ hsettled =>
    rw [hsettle] at hsettled
    exact timerTells_of_settled hstate htimer hsettled
  | go msg =>
    have hmoves : ((machine params).after (h ++ [i])).state = LocomotionState.stateWalking ∨
        ((machine params).after (h ++ [i])).state = LocomotionState.stateTurning := by
      rw [hstate]
      dsimp only
      split
      · exact Or.inl rfl
      · exact Or.inr rfl
    constructor
    all_goals
      intro h
      rw [h] at hmoves
      exact absurd hmoves (by decide)

end Step

/-- **The timer tells when the last stop began**, in every reachable state. -/
theorem timerTells_after {params : Params} {h : List Input}
    (hfixed : Keeps Params.stopSettleTime params h) (hmono : ClockMonotone h) :
    TimerTells params h := by
  induction h using List.reverseRecOn with
  | nil => exact ⟨nofun, nofun⟩
  | append_singleton h i ih =>
    exact (ih hfixed.of_append hmono.of_append).concat hfixed.of_append.after hmono

/-- A stop that is still under way after a tick has not settled at its clock reading. -/
theorem waiting_of_tick {s : State} {now start : Time}
    (hstate : (updateStateForRuntime s now).state = LocomotionState.stateStopping)
    (hstart : (updateStateForRuntime s now).stopStartedAt = some start) :
    now - start < s.params.stopSettleTime := by
  have heffect : Effect s ⟨now, .tick⟩ (updateStateForRuntime s now).motion :=
    effect_step s ⟨now, .tick⟩
  rw [← motion_state] at hstate
  rw [← motion_stopStartedAt] at hstart
  generalize (updateStateForRuntime s now).motion = m at heffect hstate hstart
  cases heffect with
  | store hevent => exact absurd rfl hevent
  | halt => exact absurd hstate (by decide)
  | wait | settle => exact absurd hstate.symm stateStopping_ne_stateStanding
  | stop reason =>
    rw [State.stopped] at hstate hstart
    by_cases hsettles : s.Settles now
    · rw [if_pos hsettles] at hstate
      exact absurd hstate.symm stateStopping_ne_stateStanding
    · rw [if_neg hsettles, Option.some.injEq] at hstart
      rw [← hstart]
      exact not_le.mp hsettles
  | pass hwait => exact hwait start hstate hstart
  | go msg hevent => cases hevent

/-! ## From a motion to a stand -/

/-- Since a motion at `t₀`, no stop began earlier, and a robot that stands has settled. -/
structure SettlesLate (settleTime : Duration) (t₀ : Time) (k : List Input) (s : State) : Prop where
  commanded : s.lastCommandTime.isSome
  started : ∀ start, s.stopStartedAt = some start → t₀ ≤ start
  standing : s.state = LocomotionState.stateStanding → ∃ j ∈ k, settleTime ≤ j.now - t₀

/-- One more input, not before the stop, keeps the stop from settling early. -/
theorem SettlesLate.concat {settleTime : Duration} {t₀ : Time} {k : List Input} {s : State}
    {i : Input} (hs : SettlesLate settleTime t₀ k s) (hsettle : s.params.stopSettleTime = settleTime)
    (hlater : t₀ ≤ i.now) : SettlesLate settleTime t₀ (k ++ [i]) (step s i).1 := by
  have hcommanded : (step s i).1.lastCommandTime.isSome := by
    rw [(step_fields s i).2.2.2]
    simp [hs.commanded]
  have hkeep : s.state = LocomotionState.stateStanding → ∃ j ∈ k ++ [i], settleTime ≤ j.now - t₀ := by
    intro hstanding
    obtain ⟨j, hj, hsettled⟩ := hs.standing hstanding
    exact ⟨j, List.mem_append_left _ hj, hsettled⟩
  have hsettled : ∀ start, t₀ ≤ start → s.params.stopSettleTime ≤ i.now - start →
      ∃ j ∈ k ++ [i], settleTime ≤ j.now - t₀ := by
    intro start hstart hsettles
    refine ⟨i, List.mem_append_right _ (List.mem_singleton_self i), ?_⟩
    rw [← hsettle]
    exact hsettles.trans (by linarith)
  -- the stop that is worked on did not begin before the motion
  have hstopStart : t₀ ≤ s.stopStart i.now := by
    rw [State.stopStart]
    split
    · cases htimer : s.stopStartedAt with
      | none => exact hlater
      | some start => exact hs.started start htimer
    · exact hlater
  have heffect := effect_step s i
  generalize hmotion : (step s i).1.motion = m at heffect
  suffices hm : (∀ start, m.stopStartedAt = some start → t₀ ≤ start) ∧
      (m.state = LocomotionState.stateStanding → ∃ j ∈ k ++ [i], settleTime ≤ j.now - t₀) by
    rw [← hmotion] at hm
    exact ⟨hcommanded, hm.1, hm.2⟩
  cases heffect with
  | store | pass => exact ⟨hs.started, hkeep⟩
  | halt =>
    have hstate : Motion.halted.state ≠ LocomotionState.stateStanding := by decide
    refine ⟨fun start hstart => ?_, fun hstanding => absurd hstanding hstate⟩
    cases hstart
  | stop reason =>
    rw [State.stopped]
    split
    · next hsettles =>
      refine ⟨?_, fun _ => hsettled _ hstopStart hsettles⟩
      intro start hstart
      rw [← Option.some.inj hstart]
      exact hstopStart
    · refine ⟨?_, fun hstanding => absurd hstanding stateStopping_ne_stateStanding⟩
      intro start hstart
      rw [← Option.some.inj hstart]
      exact hstopStart
  | wait hnone =>
    have hsome := hs.commanded
    rw [hnone] at hsome
    exact absurd hsome Bool.false_ne_true
  | settle start _ hstart hsettles =>
    have hstarted := hs.started start hstart
    refine ⟨?_, fun _ => hsettled start hstarted hsettles⟩
    intro start' hstart'
    rw [← Option.some.inj hstart']
    exact hstarted
  | go msg =>
    constructor
    · intro start hstart
      cases hstart
    · intro hstanding
      dsimp only at hstanding
      split at hstanding
      · exact absurd hstanding (by decide)
      · exact absurd hstanding (by decide)

/-- From a motion on, every stop began after it. -/
theorem settlesLate_after {params : Params} {pre k : List Input} {t₀ : Time}
    (hfixed : Keeps Params.stopSettleTime params (pre ++ k))
    (hmoving : ((machine params).after pre).state = LocomotionState.stateWalking ∨
      ((machine params).after pre).state = LocomotionState.stateTurning)
    (hlater : ∀ i ∈ k, t₀ ≤ i.now) :
    SettlesLate params.stopSettleTime t₀ k ((machine params).after (pre ++ k)) := by
  induction k using List.reverseRecOn with
  | nil =>
    rw [List.append_nil]
    have hMoving : ((machine params).after pre).Moving := hmoving.imp_right Or.inl
    refine ⟨lastCommandTime_isSome_of_moving params pre hMoving, ?_, ?_⟩
    · intro start hstart
      have hrunning := (timed_after params pre).running (by rw [motion_stopStartedAt, hstart]; rfl)
      simp only [motion_state] at hrunning
      rcases hmoving with h | h <;> rw [h] at hrunning <;> exact absurd hrunning (by decide)
    · intro hstanding
      rw [hstanding] at hmoving
      exact absurd hmoving (by decide)
  | append_singleton k i ih =>
    rw [← List.append_assoc] at hfixed ⊢
    have hprev := ih hfixed.of_append fun j hj => hlater j (List.mem_append_left _ hj)
    have hnew : t₀ ≤ i.now := hlater i (List.mem_append_right _ (List.mem_singleton_self i))
    rw [Machine.after_concat, machine_next]
    exact hprev.concat hfixed.of_append.after hnew

/-- **A stop settles once.** In every run with a fixed settle time and a clock that does not go
back, whatever the order of the callbacks: a tick that publishes `STANDING` comes no earlier than
the settle time after any motion, and one that publishes `STOPPING` comes before the settle time has
passed since the last stop began. -/
theorem stop_settles_once (params : Params) (h : List Input) (now : Time) (msg : LocomotionState)
    (hfixed : Keeps Params.stopSettleTime params h)
    (hmono : ClockMonotone (h ++ [⟨now, .tick⟩]))
    (hmsg : Publication.locomotionState msg ∈
      (machine params).out ((machine params).after h) ⟨now, .tick⟩) :
    (msg.state = LocomotionState.stateStanding → ∀ pre k t₀, h = pre ++ k →
        (((machine params).after pre).state = LocomotionState.stateWalking ∨
          ((machine params).after pre).state = LocomotionState.stateTurning) →
        (∀ i ∈ k, t₀ ≤ i.now) → t₀ ≤ now → params.stopSettleTime ≤ now - t₀) ∧
      (msg.state = LocomotionState.stateStopping →
        ∃ pre e post, LastStep (StartsStop params) (h ++ [⟨now, .tick⟩]) pre e post ∧
          now - e.now < params.stopSettleTime) := by
  have hpublished := (step_publications hmsg).2
  have hafter : (machine params).after (h ++ [⟨now, .tick⟩]) =
      updateStateForRuntime ((machine params).after h) now := Machine.after_concat _ _ _
  have htick : Keeps Params.stopSettleTime params (h ++ [⟨now, .tick⟩]) := by
    intro i hi changed hevent
    rcases List.mem_append.mp hi with hi | hi
    · exact hfixed i hi changed hevent
    · rw [List.mem_singleton.mp hi] at hevent
      exact nomatch hevent
  have hmsgState : msg.state = ((machine params).after (h ++ [⟨now, .tick⟩])).state := by
    rw [hpublished, hafter]
    rfl
  rw [hmsgState]
  constructor
  · rintro hstanding pre k t₀ rfl hmoving hlater hnow
    rw [List.append_assoc] at htick hstanding
    have hall : ∀ i ∈ k ++ [⟨now, .tick⟩], t₀ ≤ i.now := by
      intro i hi
      rcases List.mem_append.mp hi with hi | hi
      · exact hlater i hi
      · rw [List.mem_singleton.mp hi]
        exact hnow
    obtain ⟨j, hj, hsettled⟩ := (settlesLate_after htick hmoving hall).standing hstanding
    have hle : j.now ≤ now := by
      rcases List.mem_append.mp hj with hj | hj
      · exact hmono.le_of_append (List.mem_append_right _ hj) (List.mem_singleton_self _)
      · rw [List.mem_singleton.mp hj]
    exact hsettled.trans (by linarith)
  · intro hstopping
    obtain ⟨start, hstart, pre, e, post, hlast, he⟩ := (timerTells_after htick hmono).stopping hstopping
    refine ⟨pre, e, post, hlast, ?_⟩
    rw [he, ← hfixed.after]
    rw [hafter] at hstopping hstart
    exact waiting_of_tick hstopping hstart

/-- A robot that walks is told to stop, twice; the tick at which it stands comes when the settle
time has passed since it walked. -/
theorem stop_settles_once_walk :
    ∃ msg, Publication.locomotionState msg ∈ (machine {}).out ((machine {}).after
        [⟨0, .modeState { activeMode := ModeState.modeTeleop }⟩,
          ⟨0, .safetyState { state := SafetyState.stateOk }⟩,
          ⟨1, .approvedCmd { twist := { linear := { x := .fin 1 } } }⟩,
          ⟨2, .approvedCmd {}⟩, ⟨200000002, .approvedCmd {}⟩]) ⟨400000002, .tick⟩ ∧
      msg.state = LocomotionState.stateStanding ∧
      ({} : Params).stopSettleTime ≤ (400000002 : Time) - 2 := by
  have hkeeps : Keeps Params.stopSettleTime {}
      [⟨0, .modeState { activeMode := ModeState.modeTeleop }⟩,
        ⟨0, .safetyState { state := SafetyState.stateOk }⟩,
        ⟨1, .approvedCmd { twist := { linear := { x := .fin 1 } } }⟩,
        ⟨2, .approvedCmd {}⟩, ⟨200000002, .approvedCmd {}⟩] := by
    intro i hi changed hevent
    simp only [List.mem_cons, List.not_mem_nil, or_false] at hi
    rcases hi with rfl | rfl | rfl | rfl | rfl <;> exact nomatch hevent
  have hstands := (stop_settles_once {} _ 400000002 _ hkeeps (by decide)
    (List.mem_singleton_self _)).1 (by decide +kernel)
    [⟨0, .modeState { activeMode := ModeState.modeTeleop }⟩,
      ⟨0, .safetyState { state := SafetyState.stateOk }⟩,
      ⟨1, .approvedCmd { twist := { linear := { x := .fin 1 } } }⟩]
    [⟨2, .approvedCmd {}⟩, ⟨200000002, .approvedCmd {}⟩] 2 rfl (Or.inl (by decide +kernel))
    (by decide) (by decide)
  exact ⟨_, List.mem_singleton_self _, by decide +kernel, hstands⟩

end HumaWare.LocomotionAdapter
