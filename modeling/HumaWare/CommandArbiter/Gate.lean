import HumaWare.CommandArbiter.Node
import HumaWare.Reactive.History

/-! # The arbiter's gate, read off the history

What the arbiter is for, stated without its state: `cmd_vel/approved` carries a candidate exactly
while the last safety state received allows motion, the last mode received is an active one and the
last candidate received on *that mode's own* topic is fresh. The streams below pick what was
received; `Admitted` is the abstract gate; `tick_exact` says that the node computes it, at every
tick of every run. -/

namespace HumaWare.CommandArbiter

open Reactive

/-- The parameters set by an input. -/
def paramsStream : Input → Option Params
  | ⟨_, .setParameters params⟩ => some params
  | _ => none

/-- The active mode received with an input. -/
def modeStream : Input → Option UInt8
  | ⟨_, .modeState msg⟩ => some msg.activeMode
  | _ => none

/-- The safety message received with an input. -/
def safetyStream : Input → Option SafetyState
  | ⟨_, .safetyState msg⟩ => some msg
  | _ => none

/-- The candidate received on a subscription, with the clock reading of its arrival. -/
def candidateStream (lane : Lane) : Input → Option (TwistStamped × Time)
  | ⟨now, .candidate lane' msg⟩ => if lane' = lane then some (msg, now) else none
  | _ => none

/-- The parameters in force after a history. -/
def paramsIn (params : Params) (h : List Input) : Params := (latest paramsStream h).getD params

/-! ## The fields after a history -/

section After

variable (params : Params) (h : List Input)

/-- The node holds the parameters set last. -/
theorem params_after : ((machine params).after h).params = paramsIn params h := by
  refine (machine params).latest_register State.params paramsStream ?_ h
  rintro s ⟨now, event⟩
  cases event <;> rfl

/-- The node holds the mode received last. -/
theorem activeMode_after :
    ((machine params).after h).activeMode =
      (latest modeStream h).getD ModeState.modeInactive := by
  refine (machine params).latest_register State.activeMode modeStream ?_ h
  rintro s ⟨now, event⟩
  cases event <;> rfl

/-- The node holds the safety message received last. -/
theorem lastSafety_after : ((machine params).after h).lastSafety = latest safetyStream h := by
  refine (machine params).latest_optional_register State.lastSafety safetyStream rfl ?_ h
  rintro s ⟨now, event⟩
  cases event <;> rfl

/-- The node holds the safety state received last. -/
theorem safetyState_after :
    ((machine params).after h).safetyState =
      ((latest safetyStream h).map SafetyState.state).getD SafetyState.stateUnknown := by
  have hstate : ∀ h, ((machine params).after h).safetyState =
      (((machine params).after h).lastSafety.map SafetyState.state).getD
        SafetyState.stateUnknown := by
    refine (machine params).invariant (P := fun _ s => s.safetyState =
      (s.lastSafety.map SafetyState.state).getD SafetyState.stateUnknown) rfl ?_
    rintro h ⟨now, event⟩ ih
    cases event with
    | safetyState msg => rfl
    | modeState msg => exact ih
    | candidate lane msg => exact ih
    | tick => exact ih
    | setParameters params => exact ih
  rw [hstate, lastSafety_after]

/-- The node holds the candidate received last on every lane. -/
theorem candidate_after (lane : Lane) :
    ((machine params).after h).candidates.get? lane.source =
      (latest (candidateStream lane) h).map fun c => lane.candidate c.1 c.2 := by
  induction h using List.reverseRecOn with
  | nil => rfl
  | append_singleton h i ih =>
    obtain ⟨now, event⟩ := i
    rw [Machine.after_concat, latest_concat]
    cases event with
    | candidate lane' msg =>
      by_cases hlane : lane' = lane
      · subst hlane
        simp [step, onCandidate, candidateStream]
      · have hsource : lane.source ≠ lane'.source := fun h => hlane (Lane.source_inj.mp h.symm)
        simp [step, onCandidate, candidateStream, hlane, Python.Dict.get?_set_of_ne _ _ hsource, ih]
    | modeState msg => exact ih
    | safetyState msg => exact ih
    | tick => exact ih
    | setParameters params => exact ih

end After

/-! ## The abstract gate -/

/-- **The gate, read off the history**: the candidate `msg`, received on `lane` at `receivedAt`, may
be approved at `now`. -/
structure Admitted (params : Params) (h : List Input) (now : Time) (lane : Lane)
    (msg : TwistStamped) (receivedAt : Time) : Prop where
  /-- A safety state was received, and the last one allows motion. -/
  safety : ∃ safety, latest safetyStream h = some safety ∧
    safety.state ∈ [SafetyState.stateOk, SafetyState.stateWarn]
  /-- The last mode received is the one that the subscription requires. -/
  mode : latest modeStream h = some lane.requiredMode
  /-- It is the last candidate received on the subscription. -/
  candidate : latest (candidateStream lane) h = some (msg, receivedAt)
  /-- It arrived at most the command timeout ago. -/
  fresh : now - receivedAt ≤ (paramsIn params h).commandTimeout

/-- The node's safety gate is the abstract one. -/
theorem safetyOpen_after_iff (params : Params) (h : List Input) :
    ((machine params).after h).SafetyOpen ↔ ∃ safety, latest safetyStream h = some safety ∧
      safety.state ∈ [SafetyState.stateOk, SafetyState.stateWarn] := by
  rw [State.SafetyOpen, safetyState_after, lastSafety_after]
  cases latest safetyStream h with
  | none => simp
  | some safety => simp [allowedSafetyStates, SafetyState.allowedStates]

/-- The node's mode after a history requires a subscription iff that mode was received last. -/
theorem laneOf_after_iff (params : Params) (h : List Input) (lane : Lane) :
    laneOf ((machine params).after h).activeMode = some lane ↔
      latest modeStream h = some lane.requiredMode := by
  rw [laneOf_eq_some_iff, activeMode_after]
  cases latest modeStream h with
  | none => cases lane <;> decide
  | some mode => simp

/-- **Refinement.** The candidate the node may approve is the admitted one. -/
theorem eligible_after_iff (params : Params) (h : List Input) (now : Time) (c : CandidateCommand) :
    ((machine params).after h).eligible now = some c ↔
      ∃ lane msg receivedAt, Admitted params h now lane msg receivedAt ∧
        c = lane.candidate msg receivedAt := by
  rw [State.eligible]
  constructor
  · intro hc
    split at hc
    · next hopen =>
      obtain ⟨lane, hlane, hfresh⟩ := Option.bind_eq_some_iff.mp hc
      obtain ⟨hget, htimeout⟩ := State.fresh_eq_some_iff.mp hfresh
      rw [candidate_after] at hget
      obtain ⟨⟨msg, receivedAt⟩, hlatest, rfl⟩ := Option.map_eq_some_iff.mp hget
      rw [params_after] at htimeout
      exact ⟨lane, msg, receivedAt, ⟨(safetyOpen_after_iff params h).mp hopen,
        (laneOf_after_iff params h lane).mp hlane, hlatest, htimeout⟩, rfl⟩
    · simp at hc
  · rintro ⟨lane, msg, receivedAt, hadm, rfl⟩
    rw [if_pos ((safetyOpen_after_iff params h).mpr hadm.safety),
      (laneOf_after_iff params h lane).mpr hadm.mode, Option.bind_some, State.fresh_eq_some_iff,
      candidate_after, hadm.candidate, params_after]
    exact ⟨rfl, hadm.fresh⟩

/-- The candidate that a tick at `now` approves. -/
def State.selected (s : State) (now : Time) : Option CandidateCommand :=
  (selectCandidate s.activeMode s.lastSafety.isSome s.safetyState s.candidates now
    s.params.commandTimeout).1

/-- **Refinement.** The candidate that a tick approves is the admitted one. -/
theorem selected_after_iff {params : Params} {h : List Input} {now : Time} {c : CandidateCommand} :
    ((machine params).after h).selected now = some c ↔
      ∃ lane msg receivedAt, Admitted params h now lane msg receivedAt ∧
        c = lane.candidate msg receivedAt := by
  rw [State.selected, selectCandidate_fst (wellKeyed_after params h), eligible_after_iff]

/-- **The source reported** is that of the candidate approved; without one it is no
subscription's. -/
theorem activeSource_cases {s : State} (hs : s.WellKeyed) {now : Time}
    {state : CommandArbitrationState} (hstate : Publication.arbitrationState state ∈ tick s now) :
    (∃ c, s.selected now = some c ∧ state.activeSource = c.source) ∨
      (s.selected now = none ∧ (state.activeSource = CommandArbitrationState.sourceSafety ∨
        state.activeSource = CommandArbitrationState.sourceNone)) := by
  obtain ⟨reason, htick⟩ := tick_eq hs now
  rw [State.selected, selectCandidate_fst hs]
  rw [htick] at hstate
  cases heligible : s.eligible now with
  | some c =>
    rw [heligible] at hstate
    simp only [List.mem_cons, reduceCtorEq, Publication.arbitrationState.injEq, List.not_mem_nil,
      false_or, or_false] at hstate
    exact Or.inl ⟨c, rfl, by rw [hstate]; rfl⟩
  | none =>
    rw [heligible] at hstate
    dsimp only at hstate
    split at hstate
    · simp only [List.mem_cons, reduceCtorEq, Publication.arbitrationState.injEq, List.not_mem_nil,
        false_or, or_false] at hstate
      exact Or.inr ⟨rfl, Or.inl (by rw [hstate]; rfl)⟩
    · simp only [List.mem_cons, Publication.arbitrationState.injEq, List.not_mem_nil,
        or_false] at hstate
      exact Or.inr ⟨rfl, Or.inr (by rw [hstate]; rfl)⟩

/-- A tick that selects a candidate reports its source. -/
theorem arbitrationState_mem_tick {s : State} (hs : s.WellKeyed) {now : Time} {c : CandidateCommand}
    (hc : s.selected now = some c) :
    Publication.arbitrationState (arbitrationState s now c.source c.name true false "approved"
      (some c.receivedAt)) ∈ tick s now := by
  obtain ⟨reason, htick⟩ := tick_eq hs now
  rw [State.selected, selectCandidate_fst hs] at hc
  rw [htick, hc]
  exact List.mem_cons_of_mem _ List.mem_cons_self

/-- At most one candidate is admitted. -/
theorem Admitted.unique {params : Params} {h : List Input} {now : Time} {lane lane' : Lane}
    {msg msg' : TwistStamped} {receivedAt receivedAt' : Time}
    (hadm : Admitted params h now lane msg receivedAt)
    (hadm' : Admitted params h now lane' msg' receivedAt') :
    lane = lane' ∧ msg = msg' ∧ receivedAt = receivedAt' := by
  -- the mode decides the subscription, and a subscription has one last candidate
  have hmode := hadm.mode.symm.trans hadm'.mode
  rw [Option.some.injEq, Lane.requiredMode_inj] at hmode
  subst hmode
  have hcand := hadm.candidate.symm.trans hadm'.candidate
  rw [Option.some.injEq, Prod.mk.injEq] at hcand
  exact ⟨rfl, hcand⟩

/-- What a tick publishes when a candidate is admitted. -/
theorem tick_of_admitted {params : Params} {h : List Input} {now : Time} {lane : Lane}
    {msg : TwistStamped} {receivedAt : Time} (hadm : Admitted params h now lane msg receivedAt) :
    tick ((machine params).after h) now =
      [.approved (clampVelocity msg (paramsIn params h).maxLinearVelocityMps
          (paramsIn params h).maxAngularVelocityRadps now msg.header.frameId),
        .arbitrationState (arbitrationState ((machine params).after h) now lane.source lane.name
          true false "approved" (some receivedAt))] := by
  obtain ⟨reason, htick⟩ := tick_eq (wellKeyed_after params h) now
  rw [htick, (eligible_after_iff params h now _).mpr ⟨lane, msg, receivedAt, hadm, rfl⟩]
  simp [limitCommand, Lane.candidate, params_after]

/-- What a tick publishes when no candidate is admitted. -/
theorem tick_of_not_admitted {params : Params} {h : List Input} {now : Time}
    (hnone : ∀ lane msg receivedAt, ¬Admitted params h now lane msg receivedAt) :
    ∃ reason, tick ((machine params).after h) now =
      if (paramsIn params h).publishStopOnBlock && (latest safetyStream h).isSome then
        [.approved { header := { stamp := now, frameId := (paramsIn params h).robotId } },
          .arbitrationState (arbitrationState ((machine params).after h) now
            CommandArbitrationState.sourceSafety "safety" false true reason none)]
      else
        [.arbitrationState (arbitrationState ((machine params).after h) now
          CommandArbitrationState.sourceNone "none" false false reason none)] := by
  obtain ⟨reason, htick⟩ := tick_eq (wellKeyed_after params h) now
  have heligible : ((machine params).after h).eligible now = none := by
    rw [Option.eq_none_iff_forall_ne_some]
    intro c hc
    obtain ⟨lane, msg, receivedAt, hadm, -⟩ := (eligible_after_iff params h now c).mp hc
    exact hnone lane msg receivedAt hadm
  refine ⟨reason, ?_⟩
  rw [htick, heligible]
  simp only [makeStop, params_after, lastSafety_after]

/-- **What a tick can put on `cmd_vel/approved`**: the admitted candidate, clamped, or the zero stop
if there is none. -/
theorem approved_cases {params : Params} {h : List Input} {now : Time} {msg : TwistStamped}
    (hmsg : Publication.approved msg ∈ tick ((machine params).after h) now) :
    (∃ lane candidate receivedAt, Admitted params h now lane candidate receivedAt ∧
        msg.twist = clampTwist candidate.twist (paramsIn params h).maxLinearVelocityMps
          (paramsIn params h).maxAngularVelocityRadps) ∨
      ((¬∃ lane candidate receivedAt, Admitted params h now lane candidate receivedAt) ∧
        msg.twist = 0) := by
  by_cases hadm : ∃ lane candidate receivedAt, Admitted params h now lane candidate receivedAt
  · obtain ⟨lane, candidate, receivedAt, hadm⟩ := hadm
    rw [tick_of_admitted hadm] at hmsg
    have heq : msg = _ := Publication.approved.inj (by simpa using hmsg)
    exact Or.inl ⟨lane, candidate, receivedAt, hadm, by rw [heq]; rfl⟩
  · have hnone : ∀ lane candidate receivedAt, ¬Admitted params h now lane candidate receivedAt := by
      intro lane candidate receivedAt hadm'
      exact hadm ⟨lane, candidate, receivedAt, hadm'⟩
    obtain ⟨reason, htick⟩ := tick_of_not_admitted hnone
    rw [htick] at hmsg
    refine Or.inr ⟨hadm, ?_⟩
    split at hmsg
    · have heq : msg = _ := Publication.approved.inj (by simpa using hmsg)
      rw [heq]
      rfl
    · simp at hmsg

/-- **When a tick approves a motion**: the admitted candidate is not clamped to zero. -/
theorem approves_motion_iff {params : Params} {h : List Input} {now : Time} :
    (∃ msg, Publication.approved msg ∈ tick ((machine params).after h) now ∧ msg.twist ≠ 0) ↔
      ∃ lane candidate receivedAt, Admitted params h now lane candidate receivedAt ∧
        clampTwist candidate.twist (paramsIn params h).maxLinearVelocityMps
          (paramsIn params h).maxAngularVelocityRadps ≠ 0 := by
  constructor
  · rintro ⟨msg, hmsg, hne⟩
    rcases approved_cases hmsg with ⟨lane, candidate, receivedAt, hadm, htwist⟩ | ⟨-, hzero⟩
    · exact ⟨lane, candidate, receivedAt, hadm, htwist ▸ hne⟩
    · exact absurd hzero hne
  · rintro ⟨lane, candidate, receivedAt, hadm, hne⟩
    rw [tick_of_admitted hadm]
    exact ⟨_, List.mem_cons_self, hne⟩

/-- Some candidate is admitted exactly when the last safety state allows motion, the last mode is an
active one, and the last candidate on that mode's own topic is fresh. -/
theorem exists_admitted_iff {params : Params} {h : List Input} {now : Time} :
    (∃ lane msg receivedAt, Admitted params h now lane msg receivedAt) ↔
      ∃ safety mode lane msg receivedAt, latest safetyStream h = some safety ∧
        (safety.state = SafetyState.stateOk ∨ safety.state = SafetyState.stateWarn) ∧
        latest modeStream h = some mode ∧
        (mode = ModeState.modeTeleop ∨ mode = ModeState.modeAutonomy ∨
          mode = ModeState.modeAiPolicy) ∧
        lane.requiredMode = mode ∧ latest (candidateStream lane) h = some (msg, receivedAt) ∧
        now - receivedAt ≤ (paramsIn params h).commandTimeout := by
  constructor
  · rintro ⟨lane, msg, receivedAt, ⟨⟨safety, hlatest, hstate⟩, hmode, hcand, hfresh⟩⟩
    refine ⟨safety, lane.requiredMode, lane, msg, receivedAt, hlatest, by simpa using hstate, hmode,
      ?_, rfl, hcand, hfresh⟩
    cases lane <;> simp [Lane.requiredMode]
  · rintro ⟨safety, mode, lane, msg, receivedAt, hlatest, hstate, hmode, -, rfl, hcand, hfresh⟩
    exact ⟨lane, msg, receivedAt, ⟨⟨safety, hlatest, by simpa using hstate⟩, hmode, hcand, hfresh⟩⟩

/-- **The arbiter's gate is exact at every tick of every run.** A tick publishes one arbitration
state and at most one command. A candidate's command is published with output enabled exactly when a
safety state was received and the last one is OK or WARN, the last mode received is `TELEOP`,
`AUTONOMY` or `AI_POLICY`, and the last candidate on that mode's own topic is fresh; it is then that
candidate, clamped, under that topic's source. At every other tick the zero stop is published, under
the source `SAFETY`, exactly when stops on block are configured and a safety state was received, and
otherwise no command at all. -/
theorem tick_exact (params : Params) (h : List Input) (now : Time) :
    ∃ (command : Option TwistStamped) (state : CommandArbitrationState),
      (machine params).out ((machine params).after h) ⟨now, .tick⟩ =
        command.toList.map Publication.approved ++ [.arbitrationState state] ∧
      ((∃ lane msg receivedAt, latest (candidateStream lane) h = some (msg, receivedAt) ∧
          command = some (clampVelocity msg (paramsIn params h).maxLinearVelocityMps
            (paramsIn params h).maxAngularVelocityRadps now msg.header.frameId) ∧
          state.outputEnabled = true) ↔
        ∃ safety mode lane msg receivedAt, latest safetyStream h = some safety ∧
          (safety.state = SafetyState.stateOk ∨ safety.state = SafetyState.stateWarn) ∧
          latest modeStream h = some mode ∧
          (mode = ModeState.modeTeleop ∨ mode = ModeState.modeAutonomy ∨
            mode = ModeState.modeAiPolicy) ∧
          lane.requiredMode = mode ∧ latest (candidateStream lane) h = some (msg, receivedAt) ∧
          now - receivedAt ≤ (paramsIn params h).commandTimeout) ∧
      (∀ lane msg receivedAt, Admitted params h now lane msg receivedAt →
        command = some (clampVelocity msg (paramsIn params h).maxLinearVelocityMps
          (paramsIn params h).maxAngularVelocityRadps now msg.header.frameId) ∧
        state.activeSource = lane.source ∧ state.outputEnabled = true ∧
        state.stopCommandPublished = false) ∧
      ((¬∃ lane msg receivedAt, Admitted params h now lane msg receivedAt) →
        state.outputEnabled = false ∧
        if (paramsIn params h).publishStopOnBlock ∧ (latest safetyStream h).isSome then
          (∃ header, command = some { header := header, twist := 0 }) ∧
            state.stopCommandPublished = true ∧
            state.activeSource = CommandArbitrationState.sourceSafety
        else
          command = none ∧ state.stopCommandPublished = false ∧
            state.activeSource = CommandArbitrationState.sourceNone) := by
  rw [machine_out, ← exists_admitted_iff]
  show ∃ command state, tick ((machine params).after h) now = _ ∧ _
  by_cases hadm : ∃ lane msg receivedAt, Admitted params h now lane msg receivedAt
  · -- the candidate's tick; every other admitted candidate is the same one
    obtain ⟨lane, msg, receivedAt, hadm⟩ := hadm
    rw [tick_of_admitted hadm]
    refine ⟨some _, _, rfl, ?_, ?_, fun hnone => ?_⟩
    · constructor
      · intro _
        exact ⟨lane, msg, receivedAt, hadm⟩
      · intro _
        exact ⟨lane, msg, receivedAt, hadm.candidate, rfl, rfl⟩
    · intro lane' msg' receivedAt' hadm'
      obtain ⟨rfl, rfl, rfl⟩ := hadm.unique hadm'
      exact ⟨rfl, rfl, rfl, rfl⟩
    · exact absurd ⟨lane, msg, receivedAt, hadm⟩ hnone
  · have hnone : ∀ lane msg receivedAt, ¬Admitted params h now lane msg receivedAt := by
      intro lane msg receivedAt hadm'
      exact hadm ⟨lane, msg, receivedAt, hadm'⟩
    obtain ⟨reason, htick⟩ := tick_of_not_admitted hnone
    rw [htick]
    by_cases hstop : (paramsIn params h).publishStopOnBlock ∧ (latest safetyStream h).isSome
    · -- the zero stop could also be some candidate's clamp, but output is reported disabled
      rw [if_pos (by simpa using hstop)]
      refine ⟨some _, _, rfl, ?_, fun lane msg receivedAt hadm' => ?_, fun _ => ⟨rfl, ?_⟩⟩
      · constructor
        · rintro ⟨-, -, -, -, -, henabled⟩
          exact absurd henabled Bool.false_ne_true
        · intro hadm'
          exact absurd hadm' hadm
      · exact absurd hadm' (hnone lane msg receivedAt)
      · rw [if_pos hstop]
        exact ⟨⟨_, rfl⟩, rfl, rfl⟩
    · rw [if_neg (by simpa using hstop)]
      refine ⟨none, _, rfl, ?_, fun lane msg receivedAt hadm' => ?_, fun _ => ⟨rfl, ?_⟩⟩
      · constructor
        · rintro ⟨-, -, -, -, -, henabled⟩
          exact absurd henabled Bool.false_ne_true
        · intro hadm'
          exact absurd hadm' hadm
      · exact absurd hadm' (hnone lane msg receivedAt)
      · rw [if_neg hstop]
        exact ⟨rfl, rfl, rfl⟩

end HumaWare.CommandArbiter
