import HumaWare.ModeManager.Transitions
import HumaWare.Reactive.History

/-! # The date of the active mode

`ModeState.active_since` against the clock reading at which the active mode last changed.

* **`changedAt`**, **`changedAt_eq_or`** — that clock reading, and what it says of the run;
* **`step_activeSince`** — what one callback does to the date: a request for the mode that is
  already active moves it like a change;
* **`activeSince_after`** — the date is right if each such request came when the mode was entered;
* **`activeSinceDated_iff`** — the main result, over all runs. -/

namespace HumaWare.ModeManager

open Reactive

/-! ## When the active mode changed -/

/-- The clock reading of a callback that changes the active mode to a different value. -/
def changeTime (s : State) (i : Input) : Option Time :=
  if (step s i).1.activeMode ≠ s.activeMode then some i.now else none

/-- The clock reading of the last callback that changed the active mode, or that of the construction
if none did. -/
def changedAt (params : Params) (startedAt : Time) (h : List Input) : Time :=
  ((machine params startedAt).latestStep changeTime h).getD startedAt

/-- Whether the active mode changes with the input `i` after the history `h`. -/
def Changes (params : Params) (startedAt : Time) (h : List Input) (i : Input) : Prop :=
  ((machine params startedAt).after (h ++ [i])).activeMode ≠
    ((machine params startedAt).after h).activeMode

/-- A step that changes the mode notes its clock reading. -/
theorem isSome_changeTime_iff {params : Params} {startedAt : Time} {h : List Input} {i : Input} :
    (changeTime ((machine params startedAt).after h) i).isSome = true ↔
      Changes params startedAt h i := by
  rw [Changes, Machine.after_concat, machine_next, changeTime]
  split <;> simp_all

/-- **What `changedAt` says of the run**: the last change came at it, or there was no change and it
is the start. -/
theorem changedAt_eq_or (params : Params) (startedAt : Time) (h : List Input) :
    (∃ pre e post, LastStep (Changes params startedAt) h pre e post ∧
        changedAt params startedAt h = e.now) ∨
      (∀ pre i, pre ++ [i] <+: h → ¬Changes params startedAt pre i) ∧
        changedAt params startedAt h = startedAt := by
  rw [changedAt]
  cases hlast : (machine params startedAt).latestStep changeTime h with
  | some t =>
    obtain ⟨pre, e, post, hstep, he⟩ := Machine.exists_lastStep_of_latestStep _ hlast
    have hkinds : (fun pre i => (changeTime ((machine params startedAt).after pre) i).isSome = true) =
        Changes params startedAt := by
      funext pre i
      exact propext isSome_changeTime_iff
    rw [hkinds] at hstep
    refine Or.inl ⟨pre, e, post, hstep, ?_⟩
    rw [changeTime] at he
    split at he
    · exact (Option.some.inj he).symm
    · cases he
  | none =>
    refine Or.inr ⟨?_, rfl⟩
    intro pre i hpre
    rw [← isSome_changeTime_iff, (Machine.latestStep_eq_none_iff _).mp hlast pre i hpre]
    exact Bool.false_ne_true

/-- The last change after one more input. -/
theorem changedAt_concat (params : Params) (startedAt : Time) (h : List Input) (i : Input) :
    changedAt params startedAt (h ++ [i]) =
      if (step ((machine params startedAt).after h) i).1.activeMode ≠
          ((machine params startedAt).after h).activeMode then i.now
      else changedAt params startedAt h := by
  rw [changedAt, Machine.latestStep_concat, changeTime, changedAt]
  split <;> rfl

/-! ## When the date moves -/

/-- A request for the mode that is already active. -/
def State.repeatsMode (s : State) : Event → Bool
  | .setMode request => decide (request.requestedMode = s.activeMode)
  | .takeover _ => decide (s.activeMode = ModeState.modeTeleop)
  | _ => false

/-- A request for the active mode is accepted. -/
theorem acceptsMode_activeMode {s : State} (hmode : s.activeMode ∈ modeValues) :
    s.acceptsMode s.activeMode = true := by
  rw [State.acceptsMode, decide_eq_true hmode, Bool.true_and, State.evaluateTransition,
    evaluateTransition_set_iff]
  exact ⟨id, Or.inl rfl⟩

/-- **What one callback does to the date**: a change of the mode moves it, and so does a request for
the mode that is already active. -/
theorem step_activeSince {s : State} (hmode : s.activeMode ∈ modeValues) (i : Input) :
    (step s i).1.activeSince =
      if (step s i).1.activeMode ≠ s.activeMode ∨ s.repeatsMode i.event = true then i.now
      else s.activeSince := by
  obtain ⟨now, event⟩ := i
  cases event with
  | setMode request =>
    simp only [step, (handleSetMode_spec s now request).2, State.repeatsMode, decide_eq_true_iff]
    cases haccepts : s.acceptsMode request.requestedMode with
    | true =>
      -- the request is applied, so the mode changes unless it is the one that was active
      have hmoves : request.requestedMode ≠ s.activeMode ∨ request.requestedMode = s.activeMode :=
        (ne_or_eq _ _)
      rw [if_pos rfl]
      exact (if_pos hmoves).symm
    | false =>
      have hother : request.requestedMode ≠ s.activeMode := by
        intro hsame
        rw [hsame, acceptsMode_activeMode hmode] at haccepts
        cases haccepts
      simp only [Bool.false_eq_true, if_false]
      split <;> simp [hother]
  | takeover request =>
    simp only [step, (handleTakeover_spec s now request).2, State.repeatsMode, decide_eq_true_iff]
    by_cases hactive : s.activeMode ∈ activeModes
    · have hmoves : ModeState.modeTeleop ≠ s.activeMode ∨ s.activeMode = ModeState.modeTeleop :=
        (ne_or_eq _ _).imp_right Eq.symm
      rw [if_pos hactive]
      exact (if_pos hmoves).symm
    · have hother : s.activeMode ≠ ModeState.modeTeleop := by
        intro hteleop
        rw [hteleop] at hactive
        exact hactive (by decide)
      rw [if_neg hactive]
      simp [hother]
  | safetyState msg => simp [step, State.repeatsMode]
  | publishState => simp [step, State.repeatsMode]
  | setParameters params => simp [step, State.repeatsMode]

/-- A request for the mode that is already active does not change it. -/
theorem step_activeMode_of_repeatsMode {s : State} {i : Input}
    (hrepeats : s.repeatsMode i.event = true) : (step s i).1.activeMode = s.activeMode := by
  rcases step_activeMode s i with hsame | ⟨request, hevent, -, hmode⟩ | ⟨request, hevent, -, hmode⟩
  · exact hsame
  · rw [hevent] at hrepeats
    rw [hmode]
    exact of_decide_eq_true hrepeats
  · rw [hevent] at hrepeats
    rw [hmode]
    exact (of_decide_eq_true hrepeats).symm

/-! ## Over all runs -/

/-- **`active_since` dates the active mode** in every state of the run, and in every `ModeState`
published. -/
def ActiveSinceDated (params : Params) (startedAt : Time) (h : List Input) : Prop :=
  (∀ pre, pre <+: h →
    ((machine params startedAt).after pre).activeSince = changedAt params startedAt pre) ∧
  ∀ pre i, pre ++ [i] <+: h → ∀ msg,
    Publication.modeState msg ∈ (machine params startedAt).out ((machine params startedAt).after pre) i →
      msg.activeSince = changedAt params startedAt (pre ++ [i])

/-- The date of a state is right, and no request since has moved it. -/
theorem activeSince_after {params : Params} {startedAt : Time} {h : List Input}
    (hdated : ∀ pre i, pre ++ [i] <+: h →
      ((machine params startedAt).after pre).repeatsMode i.event = true →
        i.now = changedAt params startedAt pre) :
    ((machine params startedAt).after h).activeSince = changedAt params startedAt h := by
  induction h using List.reverseRecOn with
  | nil => rfl
  | append_singleton h i ih =>
    have hprev := ih fun pre j hpre => hdated pre j (hpre.trans (List.prefix_append _ _))
    rw [Machine.after_concat, machine_next, changedAt_concat,
      step_activeSince (activeMode_mem params startedAt h)]
    by_cases hchange : (step ((machine params startedAt).after h) i).1.activeMode ≠
        ((machine params startedAt).after h).activeMode
    · rw [if_pos hchange, if_pos (Or.inl hchange)]
    · rw [if_neg hchange]
      split
      · next hmoved =>
        exact hdated h i List.prefix_rfl (hmoved.resolve_left hchange)
      · exact hprev

/-- **`active_since` dates the active mode exactly if every request for the mode that is already
active comes at the clock reading at which that mode was entered.** -/
theorem activeSinceDated_iff (params : Params) (startedAt : Time) (h : List Input) :
    ActiveSinceDated params startedAt h ↔
      ∀ pre i, pre ++ [i] <+: h →
        ((machine params startedAt).after pre).repeatsMode i.event = true →
          i.now = changedAt params startedAt pre := by
  constructor
  · rintro ⟨hstates, -⟩ pre i hpre hrepeats
    have hafter := hstates (pre ++ [i]) hpre
    have hsame := step_activeMode_of_repeatsMode hrepeats
    rw [Machine.after_concat, machine_next, step_activeSince (activeMode_mem params startedAt pre),
      if_pos (Or.inr hrepeats), changedAt_concat, if_neg (not_not.mpr hsame)] at hafter
    exact hafter
  · intro hdated
    have hstates : ∀ pre, pre <+: h →
        ((machine params startedAt).after pre).activeSince = changedAt params startedAt pre :=
      fun pre hpre => activeSince_after fun pre' i hpre' => hdated pre' i (hpre'.trans hpre)
    refine ⟨hstates, ?_⟩
    intro pre i hpre msg hmsg
    rw [← hstates _ hpre, Machine.after_concat, machine_next, eq_stateMsg_of_modeState hmsg]
    rfl

/-- The operator takes over at 5 s, and again at 9 s. -/
def takenOverTwice : List Input :=
  [⟨1000000000, .safetyState { state := SafetyState.stateOk }⟩,
    ⟨2000000000, .setMode { requestedMode := ModeState.modeAutonomy }⟩,
    ⟨5000000000, .takeover {}⟩,
    ⟨9000000000, .takeover {}⟩]

/-- The second takeover changes no mode, and moves the date. -/
theorem not_activeSinceDated :
    ClockMonotone takenOverTwice ∧ ¬ActiveSinceDated {} 0 takenOverTwice := by
  refine ⟨by decide, ?_⟩
  rintro ⟨hstates, -⟩
  have hmoved : ((machine {} 0).after takenOverTwice).activeSince = 9000000000 := by
    decide +kernel
  have hentered : changedAt {} 0 takenOverTwice = 5000000000 := by
    decide +kernel
  have hdated := hstates takenOverTwice List.prefix_rfl
  rw [hmoved, hentered] at hdated
  exact absurd hdated (by decide)

end HumaWare.ModeManager
