import HumaWare.ModeManager.Node
import HumaWare.Reactive.Journal

/-! # The mode graph and the audit log

What the mode manager is for: it walks a fixed graph of modes, and every request leaves one record
in a log that tells the whole walk.

* **`Edge`** — the graph, and `step_edge`: every callback follows it;
* **`handleSetMode_spec`**, **`handleTakeover_spec`** — what each request handler answers, records
  and leaves in the state;
* **`linked_log`** — the records of a run lead without a gap from the initial mode to the active
  one;
* **`transition_log`** — the main result, over all runs. -/

namespace HumaWare.ModeManager

open Reactive

/-! ## The guard -/

/-- The guard on `mode/set`. -/
theorem evaluateTransition_set_iff {activeMode requestedMode safetyState : UInt8}
    {safetySeen : Bool} :
    (evaluateTransition activeMode requestedMode safetySeen safetyState false).1 = true ↔
      (activeMode = ModeState.modeShutdown → requestedMode = ModeState.modeShutdown) ∧
        (requestedMode = activeMode ∨
          (requestedMode ∈ activeModes → safetySeen = true) ∧
          (requestedMode ∈ autonomyModes → safetyState ∉ autonomyBlockingSafetyStates) ∧
          (requestedMode ∈ autonomyModes → activeMode ≠ ModeState.modeMaintenance) ∧
          (requestedMode = ModeState.modeAiPolicy → activeMode ∈ aiPolicyEntryModes)) := by
  unfold evaluateTransition
  grind

/-- The guard on `mode/takeover`. -/
theorem evaluateTransition_takeover_iff {activeMode safetyState : UInt8} {safetySeen : Bool} :
    (evaluateTransition activeMode ModeState.modeTeleop safetySeen safetyState true).1 = true ↔
      activeMode ∈ activeModes := by
  unfold evaluateTransition activeModes ModeState.activeModes
  grind

/-- Every value that `initial_mode` may have names one of the seven modes. -/
theorem parseInitialMode_mem (initialMode : InitialMode) :
    parseInitialMode initialMode ∈ modeValues := by
  cases initialMode with
  | str value =>
    rw [parseInitialMode]
    cases hmode : modeNames.lookup (lower value) with
    | none => decide
    | some mode =>
      obtain ⟨pre, post, hsplit, -⟩ := List.lookup_eq_some_iff.mp hmode
      rw [Option.getD_some, modeValues, hsplit]
      simp
  | int value =>
    rw [parseInitialMode]
    cases hmode : modeValues.find? fun mode => (mode.toNat : ℤ) = value with
    | none => decide
    | some mode => exact List.mem_of_find?_eq_some hmode

/-! ## What the handlers answer -/

/-- The record that a publication leaves in the log. -/
def Publication.record? : Publication → Option ModeTransitionState
  | .transitionState msg => some msg
  | _ => none

/-- The `accepted` flag that a publication answers. -/
def Publication.accepted? : Publication → Option Bool
  | .setModeResponse response => some response.accepted
  | .takeoverResponse response => some response.accepted
  | _ => none

/-- The outcome recorded for an answer. -/
def outcomeOf (accepted : Bool) : UInt8 :=
  if accepted then ModeTransitionState.outcomeAccepted else ModeTransitionState.outcomeRejected

/-- **One request, one record.** The publications answer `accepted` once and record, once, the step
from the mode of `s` to the mode of `s'` with that outcome. -/
structure Answers (s s' : State) (pubs : List Publication) (accepted : Bool) : Prop where
  /-- The response. -/
  response : pubs.filterMap Publication.accepted? = [accepted]
  /-- The record. -/
  record : ∃ record, pubs.filterMap Publication.record? = [record] ∧
    record.previousMode = s.activeMode ∧ record.activeMode = s'.activeMode ∧
    record.outcome = outcomeOf accepted

/-- Whether a `mode/set` request is accepted. -/
def State.acceptsMode (s : State) (requestedMode : UInt8) : Bool :=
  decide (requestedMode ∈ modeValues) && (s.evaluateTransition requestedMode false).1

/-- **`_handle_set_mode`.** An accepted request is applied; one that the guard rejects changes the
requested mode only; an unsupported mode changes nothing. -/
theorem handleSetMode_spec (s : State) (now : Time) (request : SetModeRequest) :
    Answers s (handleSetMode s now request).1 (handleSetMode s now request).2
        (s.acceptsMode request.requestedMode) ∧
      (handleSetMode s now request).1 =
        if s.acceptsMode request.requestedMode then
          applyMode s now request.requestedMode (orDefault request.requester "anonymous")
            (orDefault request.reason "mode_set")
        else if request.requestedMode ∈ modeValues then
          { s with requestedMode := request.requestedMode }
        else s := by
  unfold State.acceptsMode handleSetMode
  by_cases hmode : request.requestedMode ∈ modeValues
  · -- a supported mode: what happens is up to the guard
    cases haccepted : (s.evaluateTransition request.requestedMode false).1 with
    | true =>
      simp only [hmode, haccepted]
      exact ⟨⟨rfl, _, rfl, rfl, rfl, rfl⟩, rfl⟩
    | false =>
      simp only [hmode, haccepted]
      exact ⟨⟨rfl, _, rfl, rfl, rfl, rfl⟩, rfl⟩
  · simp only [hmode]
    exact ⟨⟨rfl, _, rfl, rfl, rfl, rfl⟩, rfl⟩

/-- **`_handle_takeover`.** A takeover is accepted exactly in the active modes, and then leaves
`TELEOP` active; otherwise it changes nothing. -/
theorem handleTakeover_spec (s : State) (now : Time) (request : TakeoverRequest) :
    Answers s (handleTakeover s now request).1 (handleTakeover s now request).2
        (decide (s.activeMode ∈ activeModes)) ∧
      (handleTakeover s now request).1 =
        if s.activeMode ∈ activeModes then
          applyMode s now ModeState.modeTeleop (orDefault request.requester "operator")
            (orDefault request.reason "operator_takeover")
        else s := by
  have hguard : (s.evaluateTransition ModeState.modeTeleop true).1 =
      decide (s.activeMode ∈ activeModes) := by
    rw [Bool.eq_iff_iff, decide_eq_true_iff]
    exact evaluateTransition_takeover_iff
  unfold handleTakeover
  simp only [hguard]
  by_cases hactive : s.activeMode ∈ activeModes
  · simp only [hactive]
    exact ⟨⟨rfl, _, rfl, rfl, rfl, rfl⟩, rfl⟩
  · simp only [hactive]
    exact ⟨⟨rfl, _, rfl, rfl, rfl, rfl⟩, rfl⟩

/-! ## The graph -/

/-- **How the active mode can change**: by an accepted `mode/set`, or by a takeover. -/
theorem step_activeMode (s : State) (i : Input) :
    (step s i).1.activeMode = s.activeMode ∨
      (∃ request, i.event = .setMode request ∧ s.acceptsMode request.requestedMode = true ∧
        (step s i).1.activeMode = request.requestedMode) ∨
      (∃ request, i.event = .takeover request ∧ s.activeMode ∈ activeModes ∧
        (step s i).1.activeMode = ModeState.modeTeleop) := by
  obtain ⟨now, event⟩ := i
  cases event with
  | setMode request =>
    simp only [step, (handleSetMode_spec s now request).2]
    split
    · next h => exact Or.inr (Or.inl ⟨request, rfl, h, rfl⟩)
    · split <;> exact Or.inl rfl
  | takeover request =>
    simp only [step, (handleTakeover_spec s now request).2]
    split
    · next h => exact Or.inr (Or.inr ⟨request, rfl, h, rfl⟩)
    · exact Or.inl rfl
  | safetyState msg => exact Or.inl rfl
  | publishState => exact Or.inl rfl
  | setParameters params => exact Or.inl rfl

/-- **The mode graph.** -/
structure Edge (mode mode' : UInt8) : Prop where
  /-- Only supported modes are entered. -/
  supported : mode ∈ modeValues → mode' ∈ modeValues
  /-- `SHUTDOWN` is final. -/
  shutdown : mode = ModeState.modeShutdown → mode' = ModeState.modeShutdown
  /-- `AI_POLICY` is entered from `TELEOP` or `AUTONOMY` only. -/
  aiPolicy : mode' = ModeState.modeAiPolicy → mode ≠ ModeState.modeAiPolicy →
    mode = ModeState.modeTeleop ∨ mode = ModeState.modeAutonomy
  /-- `AUTONOMY` is not entered from `MAINTENANCE`. -/
  maintenance : mode' = ModeState.modeAutonomy → mode ≠ ModeState.modeMaintenance

/-- Staying is an edge. -/
theorem Edge.refl (mode : UInt8) : Edge mode mode where
  supported := id
  shutdown := id
  aiPolicy h h' := absurd h h'
  maintenance h := by
    rw [h]
    decide

/-- An accepted `mode/set` follows an edge. -/
theorem edge_of_acceptsMode {s : State} {requestedMode : UInt8}
    (h : s.acceptsMode requestedMode = true) : Edge s.activeMode requestedMode := by
  rw [State.acceptsMode, Bool.and_eq_true, decide_eq_true_iff] at h
  obtain ⟨hshutdown, hguard⟩ := evaluateTransition_set_iff.mp h.2
  refine ⟨fun _ => h.1, hshutdown, ?_, ?_⟩
  · -- `AI_POLICY`: not by staying, so by the guard's last test
    rintro rfl hne
    rcases hguard with heq | ⟨-, -, -, hentry⟩
    · exact absurd heq.symm hne
    · simpa [aiPolicyEntryModes] using hentry rfl
  · rintro rfl hmaintenance
    rcases hguard with heq | ⟨-, -, hmode, -⟩
    · rw [hmaintenance] at heq
      exact absurd heq (by decide)
    · exact hmode (by decide) hmaintenance

/-- A takeover follows an edge. -/
theorem edge_of_takeover {mode : UInt8} (h : mode ∈ activeModes) :
    Edge mode ModeState.modeTeleop where
  supported _ := by decide
  shutdown hmode := absurd h (by rw [hmode]; decide)
  aiPolicy h := absurd h (by decide)
  maintenance h := absurd h (by decide)

/-- **Every callback follows the mode graph.** -/
theorem step_edge (s : State) (i : Input) : Edge s.activeMode (step s i).1.activeMode := by
  rcases step_activeMode s i with h | ⟨request, -, haccepts, h⟩ | ⟨request, -, hactive, h⟩
  · exact h ▸ Edge.refl _
  · exact h ▸ edge_of_acceptsMode haccepts
  · exact h ▸ edge_of_takeover hactive

/-- The node starts in its initial mode. -/
@[simp] theorem machine_init (params : Params) (startedAt : Time) :
    (machine params startedAt).init = init params startedAt := rfl

/-- A step of the machine is a callback of the node. -/
@[simp] theorem machine_next (params : Params) (startedAt : Time) (s : State) (i : Input) :
    (machine params startedAt).next s i = (step s i).1 := rfl

/-- The machine outputs what the callback publishes and answers. -/
@[simp] theorem machine_out (params : Params) (startedAt : Time) (s : State) (i : Input) :
    (machine params startedAt).out s i = (step s i).2 := rfl

/-- The active mode of any run is one of the seven. -/
theorem activeMode_mem (params : Params) (startedAt : Time) (h : List Input) :
    ((machine params startedAt).after h).activeMode ∈ modeValues := by
  refine (machine params startedAt).invariant (P := fun _ s => s.activeMode ∈ modeValues) ?_ ?_ h
  · exact parseInitialMode_mem params.initialMode
  · intro h i hs
    exact (step_edge _ i).supported hs

/-- `SHUTDOWN` is final, however the run goes on. -/
theorem shutdown_after {params : Params} {startedAt : Time} {h : List Input}
    (hs : ((machine params startedAt).after h).activeMode = ModeState.modeShutdown) (k : List Input) :
    ((machine params startedAt).after (h ++ k)).activeMode = ModeState.modeShutdown := by
  refine (machine params startedAt).invariant_from (A := fun _ => True)
    (P := fun s => s.activeMode = ModeState.modeShutdown) hs ?_ k fun _ _ => trivial
  intro s i _ hs
  exact (step_edge s i).shutdown hs

/-! ## The audit log -/

/-- The callbacks that are requests. -/
def Event.IsRequest : Event → Prop
  | .setMode _ => True
  | .takeover _ => True
  | _ => False

/-- What a request gets: its answer, its record, and, if it is rejected, an unchanged mode, owner,
transition reason and time of entry. -/
theorem step_request (s : State) {i : Input} (hreq : i.event.IsRequest) :
    ∃ accepted, Answers s (step s i).1 (step s i).2 accepted ∧
      (accepted = false →
        ∃ requestedMode, (step s i).1 = { s with requestedMode := requestedMode }) := by
  obtain ⟨now, event⟩ := i
  cases event with
  | setMode request =>
    obtain ⟨hanswers, hstate⟩ := handleSetMode_spec s now request
    refine ⟨_, hanswers, ?_⟩
    intro hrejected
    simp only [step, hstate, hrejected]
    split
    · next h => exact absurd h Bool.false_ne_true
    · split
      · exact ⟨_, rfl⟩
      · exact ⟨s.requestedMode, rfl⟩
  | takeover request =>
    obtain ⟨hanswers, hstate⟩ := handleTakeover_spec s now request
    refine ⟨_, hanswers, ?_⟩
    intro hrejected
    refine ⟨s.requestedMode, ?_⟩
    simp only [step, hstate, if_neg (of_decide_eq_false hrejected)]
  | safetyState msg => exact hreq.elim
  | publishState => exact hreq.elim
  | setParameters params => exact hreq.elim

/-- The records among what one callback publishes. -/
def records (pubs : List Publication) : List ModeTransitionState :=
  pubs.filterMap Publication.record?

/-- The audit log of a run: the records published, oldest first. -/
def log (params : Params) (startedAt : Time) (h : List Input) : List ModeTransitionState :=
  ((machine params startedAt).outputs h).flatMap records

/-- One callback journals its change of the active mode. -/
theorem linked_step (s : State) (i : Input) :
    Linked ModeTransitionState.previousMode ModeTransitionState.activeMode s.activeMode
      (records (step s i).2) (step s i).1.activeMode := by
  by_cases hreq : i.event.IsRequest
  · obtain ⟨accepted, ⟨-, record, hrecord, hprev, hactive, -⟩, -⟩ := step_request s hreq
    rw [records, hrecord]
    exact ⟨hprev, hactive⟩
  · -- no other callback records anything or touches the mode
    obtain ⟨now, event⟩ := i
    cases event with
    | setMode request => exact absurd trivial hreq
    | takeover request => exact absurd trivial hreq
    | safetyState msg => exact rfl
    | publishState => exact rfl
    | setParameters params => exact rfl

/-- **The log of a run leads without a gap from the initial mode to the active mode.** -/
theorem linked_log (params : Params) (startedAt : Time) (h : List Input) :
    Linked ModeTransitionState.previousMode ModeTransitionState.activeMode
      (parseInitialMode params.initialMode) (log params startedAt h)
      ((machine params startedAt).after h).activeMode :=
  (machine params startedAt).linked_outputs State.activeMode records (fun s i => linked_step s i) h

/-- **The transition graph and the audit log, over all runs.** The active mode is always one of the
seven supported ones and follows the mode graph; a takeover is accepted exactly in the active modes
and then leaves `TELEOP` active; every request publishes one record, whose modes are the active ones
before and after it and whose outcome is that of the response; the records of a run meet, and
replaying them from the initial mode gives the active mode; a rejected request changes at most the
requested mode, and that only when it is a `mode/set` of a supported mode. -/
theorem transition_log (params : Params) (startedAt : Time) (h : List Input) :
    ((machine params startedAt).after h).activeMode ∈
        [ModeState.modeMaintenance, ModeState.modeInactive, ModeState.modeTeleop,
          ModeState.modeAutonomy, ModeState.modeAiPolicy, ModeState.modeFault,
          ModeState.modeShutdown] ∧
      (∀ k, ((machine params startedAt).after h).activeMode = ModeState.modeShutdown →
        ((machine params startedAt).after (h ++ k)).activeMode = ModeState.modeShutdown) ∧
      (∀ i, ((machine params startedAt).after (h ++ [i])).activeMode = ModeState.modeAiPolicy →
        ((machine params startedAt).after h).activeMode ≠ ModeState.modeAiPolicy →
        ((machine params startedAt).after h).activeMode = ModeState.modeTeleop ∨
          ((machine params startedAt).after h).activeMode = ModeState.modeAutonomy) ∧
      (∀ i, ((machine params startedAt).after (h ++ [i])).activeMode = ModeState.modeAutonomy →
        ((machine params startedAt).after h).activeMode ≠ ModeState.modeMaintenance) ∧
      (∀ now request, ∃ accepted,
        ((machine params startedAt).out ((machine params startedAt).after h)
          ⟨now, .takeover request⟩).filterMap Publication.accepted? = [accepted] ∧
        (accepted = true ↔ ((machine params startedAt).after h).activeMode ∈
          [ModeState.modeTeleop, ModeState.modeAutonomy, ModeState.modeAiPolicy]) ∧
        (accepted = true → ((machine params startedAt).after
          (h ++ [⟨now, .takeover request⟩])).activeMode = ModeState.modeTeleop) ∧
        (accepted = false → (machine params startedAt).after (h ++ [⟨now, .takeover request⟩]) =
          (machine params startedAt).after h)) ∧
      (∀ i, i.event.IsRequest → ∃ accepted record,
        ((machine params startedAt).out ((machine params startedAt).after h) i).filterMap
          Publication.accepted? = [accepted] ∧
        ((machine params startedAt).out ((machine params startedAt).after h) i).filterMap
          Publication.record? = [record] ∧
        record.previousMode = ((machine params startedAt).after h).activeMode ∧
        record.activeMode = ((machine params startedAt).after (h ++ [i])).activeMode ∧
        record.outcome = (if accepted then ModeTransitionState.outcomeAccepted
          else ModeTransitionState.outcomeRejected) ∧
        (accepted = false → ∃ requestedMode, (machine params startedAt).after (h ++ [i]) =
          { (machine params startedAt).after h with requestedMode := requestedMode })) ∧
      (∀ now request, request.requestedMode ∉ modeValues →
        (machine params startedAt).after (h ++ [⟨now, .setMode request⟩]) =
          (machine params startedAt).after h) ∧
      (log params startedAt h).IsChain (fun r r' => r'.previousMode = r.activeMode) ∧
      (log params startedAt h).foldl (fun _ r => r.activeMode) (parseInitialMode params.initialMode) =
        ((machine params startedAt).after h).activeMode := by
  simp only [Machine.after_concat, machine_next, machine_out]
  refine ⟨activeMode_mem params startedAt h, fun k hs => shutdown_after hs k,
    fun i => (step_edge _ i).aiPolicy, fun i => (step_edge _ i).maintenance, ?_, ?_, ?_,
    (linked_log params startedAt h).isChain, (linked_log params startedAt h).foldl_eq⟩
  · intro now request
    obtain ⟨hanswers, hstate⟩ := handleTakeover_spec ((machine params startedAt).after h) now request
    refine ⟨_, hanswers.response, decide_eq_true_iff, ?_, ?_⟩
    · intro haccepted
      rw [step, hstate, if_pos (of_decide_eq_true haccepted)]
      rfl
    · intro hrejected
      rw [step, hstate, if_neg (of_decide_eq_false hrejected)]
  · intro i hreq
    obtain ⟨accepted, ⟨hresponse, record, hrecord, hprev, hactive, houtcome⟩, hrejected⟩ :=
      step_request ((machine params startedAt).after h) hreq
    exact ⟨accepted, record, hresponse, hrecord, hprev, hactive, houtcome, hrejected⟩
  · intro now request hmode
    have haccepts : ((machine params startedAt).after h).acceptsMode request.requestedMode = false := by
      rw [State.acceptsMode, decide_eq_false hmode, Bool.false_and]
    rw [step, (handleSetMode_spec _ now request).2, haccepts, if_neg Bool.false_ne_true, if_neg hmode]

/-! ## What a request publishes and answers -/

/-- A mode state tells the state that the callback leaves. -/
theorem eq_stateMsg_of_modeState {s : State} {i : Input} {msg : ModeState}
    (h : Publication.modeState msg ∈ (step s i).2) : msg = stateMsg (step s i).1 i.now := by
  obtain ⟨now, event⟩ := i
  cases event with
  | setMode request =>
    simp only [step, handleSetMode] at h ⊢
    split at h
    · simp at h
    · next hmode =>
      rw [if_neg hmode]
      split at h
      · simp at h
      · next haccepted =>
        rw [if_neg haccepted]
        simpa using h
  | takeover request => simpa [step, handleTakeover] using h
  | publishState => simpa [step] using h
  | safetyState msg => simp [step] at h
  | setParameters params => simp [step] at h

/-- A mode published is the mode that the callback leaves. -/
theorem step_modeState {s : State} {i : Input} {msg : ModeState}
    (h : Publication.modeState msg ∈ (step s i).2) : msg.activeMode = (step s i).1.activeMode := by
  rw [eq_stateMsg_of_modeState h]
  rfl

/-- A callback that changes the active mode publishes it at once. -/
theorem modeState_of_ne {s : State} {i : Input} (h : (step s i).1.activeMode ≠ s.activeMode) :
    .modeState (stateMsg (step s i).1 i.now) ∈ (step s i).2 := by
  obtain ⟨now, event⟩ := i
  cases event with
  | setMode request =>
    simp only [step, handleSetMode] at h ⊢
    split at h
    · exact absurd rfl h
    · next hmode =>
      rw [if_neg hmode]
      split at h
      · exact absurd rfl h
      · next haccepted =>
        rw [if_neg haccepted]
        simp
  | takeover request => simp [step, handleTakeover]
  | safetyState msg => exact absurd rfl h
  | publishState => exact absurd rfl h
  | setParameters params => exact absurd rfl h

/-- The one answer among what a request publishes. -/
theorem exists_answer {out : List Publication} {accepted : Bool}
    (hanswers : out.filterMap Publication.accepted? = [accepted]) :
    ∃ pub ∈ out, pub.accepted? = some accepted := by
  have hmem : accepted ∈ out.filterMap Publication.accepted? := by
    rw [hanswers]
    exact List.mem_singleton_self _
  exact List.mem_filterMap.mp hmem

/-- The answer to a `mode/set` request. -/
theorem setModeResponse_mem (s : State) (now : Time) (request : SetModeRequest) :
    ∃ response, .setModeResponse response ∈ (step s ⟨now, .setMode request⟩).2 ∧
      response.accepted = s.acceptsMode request.requestedMode := by
  obtain ⟨pub, hpub, haccepted⟩ := exists_answer (handleSetMode_spec s now request).1.response
  cases pub with
  | setModeResponse response => exact ⟨response, hpub, Option.some.inj haccepted⟩
  | takeoverResponse response =>
    -- no `mode/set` request is answered with the other response
    simp only [handleSetMode] at hpub
    split at hpub
    · simp at hpub
    · split at hpub <;> simp at hpub
  | modeState msg => simp [Publication.accepted?] at haccepted
  | transitionState msg => simp [Publication.accepted?] at haccepted

/-- The answer to a takeover request. -/
theorem takeoverResponse_mem (s : State) (now : Time) (request : TakeoverRequest) :
    ∃ response, .takeoverResponse response ∈ (step s ⟨now, .takeover request⟩).2 ∧
      response.accepted = decide (s.activeMode ∈ activeModes) := by
  obtain ⟨pub, hpub, haccepted⟩ := exists_answer (handleTakeover_spec s now request).1.response
  cases pub with
  | takeoverResponse response => exact ⟨response, hpub, Option.some.inj haccepted⟩
  | setModeResponse response => simp [handleTakeover] at hpub
  | modeState msg => simp [Publication.accepted?] at haccepted
  | transitionState msg => simp [Publication.accepted?] at haccepted

/-- What a publication or an answer says once `SHUTDOWN` is active: the active mode is `SHUTDOWN`,
and no request but one for `SHUTDOWN` is accepted. -/
def Publication.ShutDown : Publication → Prop
  | .modeState msg => msg.activeMode = ModeState.modeShutdown
  | .transitionState msg => msg.activeMode = ModeState.modeShutdown ∧
      (msg.outcome = ModeTransitionState.outcomeAccepted →
        msg.requestedMode = ModeState.modeShutdown)
  | .setModeResponse response => response.activeMode = ModeState.modeShutdown
  | .takeoverResponse response => response.activeMode = ModeState.modeShutdown ∧
      response.accepted = false

/-- **A callback in `SHUTDOWN`** stays there and says so in all that it publishes. -/
theorem step_shutDown {s : State} {i : Input} (hshutdown : s.activeMode = ModeState.modeShutdown) :
    (step s i).1.activeMode = ModeState.modeShutdown ∧ ∀ x ∈ (step s i).2, x.ShutDown := by
  have hrefused : ∀ requestedMode takeover, requestedMode ≠ ModeState.modeShutdown →
      s.evaluateTransition requestedMode takeover = (false, "shutdown_is_terminal") :=
    fun requestedMode takeover hne => if_pos ⟨hshutdown, hne⟩
  have houtcome : ModeTransitionState.outcomeRejected ≠ ModeTransitionState.outcomeAccepted := by
    decide
  obtain ⟨now, event⟩ := i
  cases event with
  | setMode request =>
    simp only [step, handleSetMode]
    split
    · -- an unsupported mode
      refine ⟨hshutdown, fun x hx => ?_⟩
      rcases List.mem_pair.mp hx with rfl | rfl
      · exact ⟨hshutdown, fun haccepted => absurd haccepted houtcome⟩
      · exact hshutdown
    · by_cases hne : request.requestedMode = ModeState.modeShutdown
      · have hunchanged : s.evaluateTransition request.requestedMode false =
            (true, "mode_unchanged") := by
          rw [State.evaluateTransition, evaluateTransition, if_neg (fun h => h.2 hne),
            if_pos (hne.trans hshutdown.symm)]
        rw [hunchanged]
        refine ⟨hne, fun x hx => ?_⟩
        simp only [not_true_eq_false, if_false, List.mem_cons, List.not_mem_nil, or_false] at hx
        rcases hx with rfl | rfl | rfl
        · exact ⟨hne, fun _ => hne⟩
        · exact hne
        · exact hne
      · rw [hrefused _ _ hne]
        refine ⟨hshutdown, fun x hx => ?_⟩
        rcases List.mem_pair.mp hx with rfl | rfl
        · exact ⟨hshutdown, fun haccepted => absurd haccepted houtcome⟩
        · exact hshutdown
  | takeover request =>
    simp only [step, handleTakeover, hrefused ModeState.modeTeleop true (by decide)]
    refine ⟨hshutdown, fun x hx => ?_⟩
    simp only [List.mem_cons, List.not_mem_nil, or_false] at hx
    rcases hx with rfl | rfl | rfl
    · exact ⟨hshutdown, fun haccepted => absurd haccepted houtcome⟩
    · exact hshutdown
    · exact ⟨hshutdown, rfl⟩
  | publishState =>
    refine ⟨hshutdown, fun x hx => ?_⟩
    obtain rfl := List.mem_singleton.mp hx
    exact hshutdown
  | safetyState msg => exact ⟨hshutdown, fun x hx => absurd hx List.not_mem_nil⟩
  | setParameters params => exact ⟨hshutdown, fun x hx => absurd hx List.not_mem_nil⟩

/-- **Under a safety state that blocks autonomy no mode of autonomy is entered**: a request for one is
accepted only where that mode is active already. -/
theorem previousMode_of_blocking {s : State} {i : Input} {msg : ModeTransitionState}
    (hpub : .transitionState msg ∈ (step s i).2)
    (hblocks : s.safetyState ∈ autonomyBlockingSafetyStates)
    (haccepted : msg.outcome = ModeTransitionState.outcomeAccepted)
    (hmode : msg.requestedMode ∈ autonomyModes) : msg.previousMode = msg.requestedMode := by
  have houtcome : ModeTransitionState.outcomeRejected ≠ ModeTransitionState.outcomeAccepted := by
    decide
  obtain ⟨now, event⟩ := i
  cases event with
  | setMode request =>
    simp only [step, handleSetMode] at hpub
    split at hpub
    · -- an unsupported mode
      simp only [List.mem_cons, Publication.transitionState.injEq, reduceCtorEq, List.not_mem_nil,
        or_false] at hpub
      subst hpub
      exact absurd haccepted houtcome
    · split at hpub
      · -- the guard rejects
        simp only [List.mem_cons, Publication.transitionState.injEq, reduceCtorEq, List.not_mem_nil,
          or_false] at hpub
        subst hpub
        exact absurd haccepted houtcome
      · next hguard =>
        simp only [List.mem_cons, Publication.transitionState.injEq, reduceCtorEq, List.not_mem_nil,
          or_false] at hpub
        subst hpub
        rcases (evaluateTransition_set_iff.mp (not_not.mp hguard)).2 with hsame | ⟨-, hsafe, -⟩
        · exact hsame.symm
        · exact absurd hblocks (hsafe hmode)
  | takeover request =>
    simp only [step, handleTakeover, List.mem_cons, Publication.transitionState.injEq, reduceCtorEq,
      List.not_mem_nil, or_false] at hpub
    subst hpub
    have hteleop : ModeState.modeTeleop ∈ autonomyModes := hmode
    exact absurd hteleop (by decide)
  | publishState => simp [step] at hpub
  | safetyState msg | setParameters params => exact absurd hpub List.not_mem_nil

/-- **The autonomy modes are entered by an accepted `mode/set` alone.** -/
theorem step_mem_autonomyModes {s : State} {i : Input}
    (hmode : (step s i).1.activeMode ∈ autonomyModes) :
    s.activeMode ∈ autonomyModes ∧ (∀ request, i.event ≠ .takeover request) ∨
      ∃ request, i.event = .setMode request ∧ request.requestedMode ∈ autonomyModes ∧
        s.acceptsMode request.requestedMode = true := by
  rcases step_activeMode s i with h | ⟨request, hevent, haccepts, h⟩ | ⟨request, -, -, h⟩
  · rw [h] at hmode
    refine Or.inl ⟨hmode, ?_⟩
    intro request hevent
    obtain ⟨now, event⟩ := i
    obtain rfl : event = .takeover request := hevent
    -- a takeover out of an autonomy mode would have left `TELEOP`
    have hactive : s.activeMode ∈ activeModes := by
      rcases List.mem_pair.mp hmode with h | h <;> rw [h] <;> decide
    have hstate := (handleTakeover_spec s now request).2
    rw [if_pos hactive] at hstate
    rw [step, hstate] at h
    have hteleop : ModeState.modeTeleop = s.activeMode := h
    rw [← hteleop] at hmode
    exact absurd hmode (by decide)
  · exact Or.inr ⟨request, hevent, h ▸ hmode, haccepts⟩
  · rw [h] at hmode
    exact absurd hmode (by decide)

end HumaWare.ModeManager
