import HumaWare.ModeManager.Transitions
import HumaWare.Reactive.History

/-! # Under which safety state a mode was entered

The guard is meant to let `AUTONOMY` and `AI_POLICY` be entered under a good safety state only, and
no active mode before a safety state is known. `EnteredSafely` says so of a history; it asks for the
moment at which the mode in force was entered.

The guard is not quite that strict, in two places. The `initial_mode` parameter is not guarded at
all, and the safety states that block autonomy are listed one by one, so that a safety value without
a name passes. `enteredSafely_iff` says that these are the only two gaps: along a run every reached
state was entered safely exactly if the run starts outside of the active modes and no request makes
use of an unnamed safety value. -/

namespace HumaWare.ModeManager

open Reactive

/-- The safety message received with an input. -/
def safetyStream : Input → Option SafetyState
  | ⟨_, .safetyState msg⟩ => some msg
  | _ => none

section After

variable (params : Params) (startedAt : Time)

/-- The active mode after a history. -/
def modeAfter (h : List Input) : UInt8 := ((machine params startedAt).after h).activeMode

/-- What one callback leaves of the safety fields. -/
theorem step_safety (s : State) (i : Input) :
    (step s i).1.safetySeen = ((safetyStream i).map fun _ => true).getD s.safetySeen ∧
      (step s i).1.safetyState = ((safetyStream i).map SafetyState.state).getD s.safetyState := by
  obtain ⟨now, event⟩ := i
  cases event with
  | setMode request =>
    simp only [step, (handleSetMode_spec s now request).2]
    split
    · exact ⟨rfl, rfl⟩
    · split <;> exact ⟨rfl, rfl⟩
  | takeover request =>
    simp only [step, (handleTakeover_spec s now request).2]
    split <;> exact ⟨rfl, rfl⟩
  | safetyState msg => exact ⟨rfl, rfl⟩
  | publishState => exact ⟨rfl, rfl⟩
  | setParameters params => exact ⟨rfl, rfl⟩

/-- The safety fields after a history. -/
theorem safety_after (h : List Input) :
    ((machine params startedAt).after h).safetySeen = (latest safetyStream h).isSome ∧
      ((machine params startedAt).after h).safetyState =
        ((latest safetyStream h).map SafetyState.state).getD SafetyState.stateUnknown := by
  induction h using List.reverseRecOn with
  | nil => exact ⟨rfl, rfl⟩
  | append_singleton h i ih =>
    obtain ⟨hseen, hstate⟩ := step_safety ((machine params startedAt).after h) i
    rw [Machine.after_concat, machine_next, hseen, hstate, ih.1, ih.2, latest_concat]
    cases safetyStream i <;> exact ⟨rfl, rfl⟩

/-- **Entered safely.** The moment at which an autonomy mode in force was entered came after a
safety state, the last one then being OK or WARN; and in an active mode some safety state was
received. -/
structure EnteredSafely (h : List Input) : Prop where
  /-- `pre` is the history at the moment of entry. -/
  autonomy : modeAfter params startedAt h ∈ autonomyModes →
    ∃ pre i post, h = pre ++ i :: post ∧
      modeAfter params startedAt pre ≠ modeAfter params startedAt h ∧
      (∀ mid, mid <+: post → modeAfter params startedAt (pre ++ i :: mid) =
        modeAfter params startedAt h) ∧
      ∃ safety, latest safetyStream pre = some safety ∧
        (safety.state = SafetyState.stateOk ∨ safety.state = SafetyState.stateWarn)
  seen : modeAfter params startedAt h ∈ activeModes → (latest safetyStream h).isSome

/-- The input asks, after the history `pre`, for an edge of the mode graph into an autonomy mode,
while the last safety state received is a value without a name. -/
structure UnnamedEntry (pre : List Input) (i : Input) : Prop where
  request : ∃ request, i.event = .setMode request ∧
    request.requestedMode ≠ modeAfter params startedAt pre ∧
    (request.requestedMode = ModeState.modeAutonomy ∧
        modeAfter params startedAt pre ∉ [ModeState.modeMaintenance, ModeState.modeShutdown] ∨
      request.requestedMode = ModeState.modeAiPolicy ∧
        modeAfter params startedAt pre ∈ aiPolicyEntryModes)
  safety : ∃ safety, latest safetyStream pre = some safety ∧ SafetyState.stateMrm < safety.state

variable {params startedAt}

/-- The autonomy modes are active ones. -/
theorem mem_activeModes_of_autonomy {mode : UInt8} (h : mode ∈ autonomyModes) :
    mode ∈ activeModes := by
  rcases List.mem_pair.mp h with rfl | rfl <;> decide

/-- A safety state that has a name and does not block autonomy is OK or WARN. -/
theorem ok_or_warn {state : UInt8} (hblocks : state ∉ autonomyBlockingSafetyStates)
    (hnamed : ¬SafetyState.stateMrm < state) :
    state = SafetyState.stateOk ∨ state = SafetyState.stateWarn := by
  simp only [autonomyBlockingSafetyStates, List.mem_cons, List.not_mem_nil, or_false, not_or] at hblocks
  grind

/-- A safety state without a name does not block autonomy. -/
theorem not_mem_blocking_of_lt {state : UInt8} (h : SafetyState.stateMrm < state) :
    state ∉ autonomyBlockingSafetyStates := by
  simp only [autonomyBlockingSafetyStates, List.mem_cons, List.not_mem_nil, or_false, not_or]
  grind

/-- The edges named in `UnnamedEntry` are those that the guard leaves to the safety state. -/
theorem acceptsMode_of_edge {s : State} {requestedMode : UInt8} (hseen : s.safetySeen = true)
    (hblocks : s.safetyState ∉ autonomyBlockingSafetyStates)
    (hedge : requestedMode = ModeState.modeAutonomy ∧
        s.activeMode ∉ [ModeState.modeMaintenance, ModeState.modeShutdown] ∨
      requestedMode = ModeState.modeAiPolicy ∧ s.activeMode ∈ aiPolicyEntryModes) :
    s.acceptsMode requestedMode = true := by
  rw [State.acceptsMode, Bool.and_eq_true, decide_eq_true_iff]
  refine ⟨?_, evaluateTransition_set_iff.mpr ?_⟩
  · rcases hedge with ⟨rfl, -⟩ | ⟨rfl, -⟩ <;> decide
  · simp only [List.mem_cons, List.not_mem_nil, or_false, not_or, aiPolicyEntryModes] at hedge ⊢
    have hshutdown : s.activeMode = ModeState.modeShutdown →
        requestedMode = ModeState.modeShutdown := by grind
    have hmaintenance : s.activeMode ≠ ModeState.modeMaintenance := by grind
    have hentry : requestedMode = ModeState.modeAiPolicy →
        s.activeMode = ModeState.modeTeleop ∨ s.activeMode = ModeState.modeAutonomy := by grind
    exact ⟨hshutdown, Or.inr ⟨fun _ => hseen, fun _ => hblocks, fun _ => hmaintenance, hentry⟩⟩

/-- **A request that makes use of an unnamed safety value enters an autonomy mode.** -/
theorem UnnamedEntry.enters {pre : List Input} {i : Input}
    (h : UnnamedEntry params startedAt pre i) :
    modeAfter params startedAt (pre ++ [i]) ∈ autonomyModes ∧
      modeAfter params startedAt pre ≠ modeAfter params startedAt (pre ++ [i]) := by
  obtain ⟨⟨request, hevent, hne, hedge⟩, safety, hlatest, hunnamed⟩ := h
  obtain ⟨hseen, hstate⟩ := safety_after params startedAt pre
  rw [hlatest] at hseen hstate
  have haccepts : ((machine params startedAt).after pre).acceptsMode request.requestedMode = true :=
    acceptsMode_of_edge hseen (by rw [hstate]; exact not_mem_blocking_of_lt hunnamed) hedge
  have hmode : modeAfter params startedAt (pre ++ [i]) = request.requestedMode := by
    rw [modeAfter, Machine.after_concat, machine_next, step, hevent]
    simp only [(handleSetMode_spec _ i.now request).2, haccepts]
    rfl
  rw [hmode]
  refine ⟨?_, hne.symm⟩
  rcases hedge with ⟨hm, -⟩ | ⟨hm, -⟩ <;> rw [hm] <;> decide

/-- **A mode that changes without such a request is entered safely.** -/
theorem EnteredSafely.concat {h : List Input} {i : Input} (hsafe : EnteredSafely params startedAt h)
    (hi : ¬UnnamedEntry params startedAt h i) : EnteredSafely params startedAt (h ++ [i]) := by
  have hlatest : (latest safetyStream h).isSome → (latest safetyStream (h ++ [i])).isSome := by
    intro hsome
    rw [latest_concat]
    cases safetyStream i with
    | none => exact hsome
    | some safety => rfl
  have hafter : modeAfter params startedAt (h ++ [i]) =
      (step ((machine params startedAt).after h) i).1.activeMode := by
    rw [modeAfter, Machine.after_concat, machine_next]
  by_cases hsame : modeAfter params startedAt (h ++ [i]) = modeAfter params startedAt h
  · -- the mode stays: so does the moment of entry
    constructor
    · rw [hsame]
      intro hmode
      obtain ⟨pre, j, post, rfl, hne, hstay, hsafety⟩ := hsafe.autonomy hmode
      refine ⟨pre, j, post ++ [i], by simp, hne, ?_, hsafety⟩
      intro mid hmid
      rcases List.prefix_concat_iff.mp hmid with rfl | hmid
      · simpa using hsame
      · exact hstay mid hmid
    · rw [hsame]
      exact fun hmode => hlatest (hsafe.seen hmode)
  · rcases step_activeMode ((machine params startedAt).after h) i with hmode |
      ⟨request, hevent, haccepts, hmode⟩ | ⟨request, hevent, hactive, hmode⟩
    · exact absurd (hafter.trans hmode) hsame
    · -- an accepted request: the guard saw the safety state
      rw [State.acceptsMode, Bool.and_eq_true, decide_eq_true_iff] at haccepts
      obtain ⟨hseen, hstate⟩ := safety_after params startedAt h
      obtain ⟨hshutdown, heq | ⟨hactive, hblocks, hmaintenance, hentry⟩⟩ :=
        evaluateTransition_set_iff.mp haccepts.2
      · exact absurd (hafter.trans (hmode.trans heq)) hsame
      rw [hafter, hmode] at hsame
      rw [hseen] at hactive
      constructor
      · rw [hafter, hmode]
        intro hautonomy
        obtain ⟨safety, hsafety⟩ := Option.isSome_iff_exists.mp
          (hactive (mem_activeModes_of_autonomy hautonomy))
        have hnot := hblocks hautonomy
        rw [hstate, hsafety] at hnot
        -- the edge followed is one of those that `UnnamedEntry` names, so the value has a name
        have hedge : request.requestedMode = ModeState.modeAutonomy ∧
              modeAfter params startedAt h ∉ [ModeState.modeMaintenance, ModeState.modeShutdown] ∨
            request.requestedMode = ModeState.modeAiPolicy ∧
              modeAfter params startedAt h ∈ aiPolicyEntryModes := by
          rcases List.mem_pair.mp hautonomy with hm | hm
          · refine Or.inl ⟨hm, ?_⟩
            rw [List.mem_pair, not_or]
            refine ⟨hmaintenance hautonomy, ?_⟩
            intro hdown
            exact absurd (hm.symm.trans (hshutdown hdown)) (by decide)
          · exact Or.inr ⟨hm, hentry hm⟩
        have hnamed : ¬SafetyState.stateMrm < safety.state := by
          intro hunnamed
          exact hi ⟨⟨request, hevent, hsame, hedge⟩, safety, hsafety, hunnamed⟩
        refine ⟨h, i, [], rfl, ?_, ?_, safety, hsafety, ok_or_warn hnot hnamed⟩
        · intro hsame'
          exact hsame hsame'.symm
        · intro mid hmid
          rw [List.prefix_nil.mp hmid, hafter, hmode]
      · rw [hafter, hmode]
        exact fun hmem => hlatest (hactive hmem)
    · -- a takeover leads to `TELEOP`, from a mode in which safety was seen
      constructor
      · rw [hafter, hmode]
        exact fun hautonomy => absurd hautonomy (by decide)
      · exact fun _ => hlatest (hsafe.seen hactive)

end After

/-- **Every state reached along a run was entered safely exactly if** the run starts outside of the
active modes and no request of it makes use of an unnamed safety value. -/
theorem enteredSafely_iff (params : Params) (startedAt : Time) (h : List Input) :
    (∀ k, k <+: h → EnteredSafely params startedAt k) ↔
      parseInitialMode params.initialMode ∉ activeModes ∧
        ∀ pre i post, h = pre ++ i :: post → ¬UnnamedEntry params startedAt pre i := by
  constructor
  · intro hsafe
    constructor
    · intro hinitial
      have hseen := (hsafe [] h.nil_prefix).seen hinitial
      exact Bool.false_ne_true hseen
    · rintro pre i post rfl hunnamed
      obtain ⟨hautonomy, hne⟩ := hunnamed.enters
      obtain ⟨pre', j, post', hsplit, hne', hstay, safety, hsafety, hstate⟩ :=
        (hsafe (pre ++ [i]) (by simp)).autonomy hautonomy
      rcases List.eq_nil_or_concat' post' with rfl | ⟨mid, x, rfl⟩
      · -- the moment of entry is this request, made under an unnamed safety value
        obtain ⟨rfl, -⟩ := List.append_inj' hsplit rfl
        obtain ⟨safety', hsafety', hunnamed'⟩ := hunnamed.safety
        obtain rfl : safety' = safety := Option.some.inj (hsafety'.symm.trans hsafety)
        rcases hstate with hstate | hstate <;> rw [hstate] at hunnamed' <;>
          exact absurd hunnamed' (by decide)
      · -- an earlier moment of entry would have left the mode in force before the request
        have hpre : pre = pre' ++ j :: mid :=
          (List.append_inj' (hsplit.trans (by simp : _ = (pre' ++ j :: mid) ++ [x])) rfl).1
        exact absurd (hpre ▸ hstay mid (List.prefix_append mid [x])) hne
  · -- the condition on the whole run is the condition on each of its prefixes: induction on these
    rintro ⟨hinitial, hnamed⟩ k hk
    obtain ⟨rest, rfl⟩ := hk
    induction k using List.reverseRecOn generalizing rest with
    | nil =>
      have hne : modeAfter params startedAt [] ∉ activeModes := hinitial
      exact ⟨fun hautonomy => absurd (mem_activeModes_of_autonomy hautonomy) hne,
        fun hactive => absurd hactive hne⟩
    | append_singleton k i ih =>
      have hstep := ih (i :: rest) (by simpa using hnamed)
      exact hstep.concat (hnamed k i rest (by simp))

/-- **Both gaps, at concrete runs.** With `initial_mode` set to `autonomy` the node starts in
`AUTONOMY` before any safety state; and a request for `AUTONOMY` is accepted while the last safety
state received is 6, which has no name. -/
theorem enteredSafely_fails :
    ¬EnteredSafely { initialMode := .str "autonomy" } 0 [] ∧
      ¬EnteredSafely {} 0 [⟨1, .safetyState { state := 6 }⟩,
        ⟨2, .setMode { requestedMode := ModeState.modeAutonomy }⟩] := by
  constructor
  · intro h
    exact absurd (h.seen (by decide)) (by decide)
  · intro h
    obtain ⟨pre, i, post, hsplit, hne, -, safety, hsafety, hstate⟩ := h.autonomy (by decide)
    rcases pre with _ | ⟨a, _ | ⟨b, pre⟩⟩
    · exact absurd hsafety (by simp)
    · obtain ⟨rfl, -⟩ := List.cons.inj hsplit
      obtain rfl : ({ state := 6 } : SafetyState) = safety := Option.some.inj hsafety
      exact absurd hstate (by decide)
    · simp at hsplit

end HumaWare.ModeManager
