import HumaWare.LocomotionAdapter.Node
import HumaWare.Reactive.History

/-! # When the mock locomotion adapter reports motion

Two facts about the velocity the node holds, over every run:

* **`velocity_after`** — it is zero, or the velocity of the last approved command received;
* **`moving_update_iff`** — a tick goes on moving exactly if the node was moving, neither its mode
  nor its safety state is one that the timer stops for, and the last command is fresh.

The timer lists the modes and the safety states it stops for one by one, while `_is_output_blocked`
lists those in which motion is allowed. A value on neither list keeps a motion going:
`motion_allowed_iff` states exactly when a tick reports motion only where it is allowed. -/

namespace HumaWare.LocomotionAdapter

open Reactive

/-- The modes in which the timer stops a motion. -/
def haltingModes : List UInt8 :=
  [ModeState.modeInactive, ModeState.modeMaintenance, ModeState.modeFault, ModeState.modeShutdown]

/-- The safety states in which the timer stops a motion. -/
def haltingSafetyStates : List UInt8 :=
  [SafetyState.stateUnknown, SafetyState.stateFault, SafetyState.stateEstop, SafetyState.stateMrm]

/-- The last approved command is fresh. -/
def State.Fresh (s : State) (now : Time) : Prop :=
  ∃ lastCommandTime, s.lastCommandTime = some lastCommandTime ∧
    now - lastCommandTime ≤ s.params.commandTimeout

/-- **When a tick goes on moving.** -/
theorem moving_update_iff {s : State} (hcommand : s.Moving → s.lastCommandTime.isSome) (now : Time) :
    (updateStateForRuntime s now).Moving ↔
      s.Moving ∧ s.activeMode ∉ haltingModes ∧ s.safetyState ∉ haltingSafetyStates ∧
        s.Fresh now := by
  unfold updateStateForRuntime
  by_cases hinactive : s.activeMode ∈ [ModeState.modeInactive, ModeState.modeMaintenance]
  · have hhalting : s.activeMode ∈ haltingModes := by
      rcases List.mem_pair.mp hinactive with h | h <;> rw [h] <;> decide
    rw [if_pos hinactive]
    simp +decide [State.Moving, State.zeroVelocity, hhalting]
  rw [if_neg hinactive]
  by_cases hfault : s.activeMode ∈ [ModeState.modeFault, ModeState.modeShutdown]
  · have hhalting : s.activeMode ∈ haltingModes := by
      rcases List.mem_pair.mp hfault with h | h <;> rw [h] <;> decide
    rw [if_pos hfault]
    apply iff_of_false (not_moving_beginStop_zeroVelocity s now _)
    rintro ⟨-, hmode, -⟩
    exact hmode hhalting
  rw [if_neg hfault]
  have hmode : s.activeMode ∉ haltingModes := by
    simp only [haltingModes, List.mem_cons, List.not_mem_nil, or_false, not_or] at hinactive hfault ⊢
    exact ⟨hinactive.1, hinactive.2, hfault.1, hfault.2⟩
  by_cases hsafety : s.safetyState ∈ [SafetyState.stateUnknown, SafetyState.stateFault,
      SafetyState.stateEstop, SafetyState.stateMrm]
  · rw [if_pos hsafety]
    apply iff_of_false (not_moving_beginStop_zeroVelocity s now _)
    rintro ⟨-, -, hgoing, -⟩
    exact hgoing hsafety
  rw [if_neg hsafety]
  cases htime : s.lastCommandTime with
  | none =>
    -- nothing was approved yet, so there is no velocity to keep
    have hstill : ¬s.Moving := by
      intro hmoving
      have hsome := hcommand hmoving
      rw [htime] at hsome
      exact Bool.false_ne_true hsome
    have hvelocity := hstill
    simp only [State.Moving, not_or, not_not] at hvelocity
    refine iff_of_false ?_ fun h => hstill h.1
    simp +decide [State.Moving, hvelocity.2.2.1, hvelocity.2.2.2]
  | some lastCommandTime =>
    have hfresh : s.Fresh now ↔ now - lastCommandTime ≤ s.params.commandTimeout := by
      rw [State.Fresh, htime]
      simp
    dsimp only
    split
    · next hstale =>
      apply iff_of_false (not_moving_beginStop_zeroVelocity s now _)
      rintro ⟨-, -, -, hnotStale⟩
      exact absurd (hfresh.mp hnotStale) (not_le.mpr hstale)
    · next hstale =>
      -- nothing stops the motion: settling leaves it as it is
      rw [(settleStopIfReady_velocity s now).2.2, hfresh]
      constructor
      · intro hmoving
        exact ⟨hmoving, hmode, hsafety, not_lt.mp hstale⟩
      · rintro ⟨hmoving, -⟩
        exact hmoving

/-- A stop that starts from zero velocity leaves it. -/
theorem velocity_beginStop_zeroVelocity (s : State) (now : Time) (reason : String) :
    (beginStop s.zeroVelocity now reason).linearVelocityMps = 0 ∧
      (beginStop s.zeroVelocity now reason).angularVelocityRadps = 0 := by
  have h := not_moving_beginStop_zeroVelocity s now reason
  simp only [State.Moving, not_or, not_not] at h
  exact ⟨h.2.2.1, h.2.2.2⟩

/-- **A tick keeps the velocity or sets it to zero**, and it keeps none under a safety state that
the timer stops for. -/
theorem velocity_update (s : State) (now : Time) :
    ((updateStateForRuntime s now).linearVelocityMps = 0 ∧
        (updateStateForRuntime s now).angularVelocityRadps = 0) ∨
      (s.safetyState ∉ haltingSafetyStates ∧
        (updateStateForRuntime s now).linearVelocityMps = s.linearVelocityMps ∧
        (updateStateForRuntime s now).angularVelocityRadps = s.angularVelocityRadps) := by
  unfold updateStateForRuntime
  split
  · exact Or.inl ⟨rfl, rfl⟩
  split
  · exact Or.inl (velocity_beginStop_zeroVelocity s now _)
  split
  · exact Or.inl (velocity_beginStop_zeroVelocity s now _)
  next hsafety =>
  split
  · exact Or.inr ⟨hsafety, rfl, rfl⟩
  split
  · exact Or.inl (velocity_beginStop_zeroVelocity s now _)
  · exact Or.inr ⟨hsafety, (settleStopIfReady_velocity s now).1,
      (settleStopIfReady_velocity s now).2.1⟩

/-- In a halting mode the timer sets the velocity to zero. -/
theorem velocity_update_of_halting {s : State} (hmode : s.activeMode ∈ haltingModes) (now : Time) :
    (updateStateForRuntime s now).linearVelocityMps = 0 ∧
      (updateStateForRuntime s now).angularVelocityRadps = 0 := by
  unfold updateStateForRuntime
  split
  · exact ⟨rfl, rfl⟩
  next hactive =>
  rw [if_pos]
  · exact velocity_beginStop_zeroVelocity s now _
  · simp only [haltingModes, List.mem_cons, List.not_mem_nil, or_false] at hmode hactive ⊢
    tauto

/-- Only the timer publishes. -/
theorem step_publications {s : State} {i : Input} {msg : LocomotionState}
    (h : Publication.locomotionState msg ∈ (step s i).2) :
    i.event = .tick ∧ msg = stateMsg (updateStateForRuntime s i.now) i.now := by
  obtain ⟨now, event⟩ := i
  cases event with
  | tick => simpa [step, tick] using h
  | approvedCmd msg' => simp [step] at h
  | modeState msg' => simp [step] at h
  | safetyState msg' => simp [step] at h
  | setParameters params => simp [step] at h

/-! ## The fields after a history -/

/-- The parameters set by an input. -/
def paramsStream : Input → Option Params
  | ⟨_, .setParameters params⟩ => some params
  | _ => none

/-- The active mode received with an input. -/
def modeStream : Input → Option UInt8
  | ⟨_, .modeState msg⟩ => some msg.activeMode
  | _ => none

/-- The safety state received with an input. -/
def safetyStream : Input → Option UInt8
  | ⟨_, .safetyState msg⟩ => some msg.state
  | _ => none

/-- The approved command received with an input, and the clock reading of its arrival. -/
def approvedStream : Input → Option (TwistStamped × Time)
  | ⟨now, .approvedCmd msg⟩ => some (msg, now)
  | _ => none

/-- The parameters in force after a history. -/
def paramsIn (params : Params) (h : List Input) : Params := (latest paramsStream h).getD params

/-- The last mode received in a history. -/
def modeIn (h : List Input) : UInt8 := (latest modeStream h).getD ModeState.modeInactive

/-- The last safety state received in a history. -/
def safetyIn (h : List Input) : UInt8 := (latest safetyStream h).getD SafetyState.stateUnknown

/-- A command changes, of the inputs, only when the last command came. -/
theorem sameInputs_onApprovedCmd (s : State) (now : Time) (msg : TwistStamped) :
    SameInputs { s with lastCommandTime := some now } (onApprovedCmd s now msg) := by
  have hstop : ∀ reason, SameInputs { s with lastCommandTime := some now }
      (beginStop { s with lastCommandTime := some now }.zeroVelocity now reason) := by
    intro reason
    obtain ⟨hparams, hmode, hsafety, htime⟩ :=
      sameInputs_beginStop { s with lastCommandTime := some now }.zeroVelocity now reason
    exact ⟨hparams, hmode, hsafety, htime⟩
  unfold onApprovedCmd
  dsimp only
  split
  · exact hstop _
  split
  · exact hstop _
  · exact ⟨rfl, rfl, rfl, rfl⟩

/-- What one callback leaves in the fields that messages and parameter changes write. -/
theorem step_fields (s : State) (i : Input) :
    (step s i).1.params = (paramsStream i).getD s.params ∧
      (step s i).1.activeMode = (modeStream i).getD s.activeMode ∧
      (step s i).1.safetyState = (safetyStream i).getD s.safetyState ∧
      (step s i).1.lastCommandTime = ((approvedStream i).map Prod.snd).or s.lastCommandTime := by
  obtain ⟨now, event⟩ := i
  cases event with
  | approvedCmd msg =>
    obtain ⟨hparams, hmode, hsafety, htime⟩ := sameInputs_onApprovedCmd s now msg
    exact ⟨hparams, hmode, hsafety, htime⟩
  | tick =>
    obtain ⟨hparams, hmode, hsafety, htime⟩ := sameInputs_updateStateForRuntime s now
    exact ⟨hparams, hmode, hsafety, htime⟩
  | modeState msg => exact ⟨rfl, rfl, rfl, rfl⟩
  | safetyState msg => exact ⟨rfl, rfl, rfl, rfl⟩
  | setParameters params => exact ⟨rfl, rfl, rfl, rfl⟩

section After

variable (params : Params) (h : List Input)

/-- The node holds the parameters set last. -/
theorem params_after : ((machine params).after h).params = paramsIn params h :=
  (machine params).latest_register State.params paramsStream (fun s i => (step_fields s i).1) h

/-- The node holds the mode received last. -/
theorem activeMode_after : ((machine params).after h).activeMode = modeIn h :=
  (machine params).latest_register State.activeMode modeStream (fun s i => (step_fields s i).2.1) h

/-- The node holds the safety state received last. -/
theorem safetyState_after : ((machine params).after h).safetyState = safetyIn h :=
  (machine params).latest_register State.safetyState safetyStream
    (fun s i => (step_fields s i).2.2.1) h

/-- The node holds when the last approved command came. -/
theorem lastCommandTime_after :
    ((machine params).after h).lastCommandTime = (latest approvedStream h).map Prod.snd := by
  induction h using List.reverseRecOn with
  | nil => rfl
  | append_singleton h i ih =>
    rw [Machine.after_concat, machine_next, (step_fields _ i).2.2.2, ih, latest_concat]
    cases approvedStream i <;> rfl

end After

/-! ## What a motion rests on -/

/-- An approved command stops the robot or sets its own velocity. -/
theorem velocity_onApprovedCmd (s : State) (now : Time) (msg : TwistStamped) :
    ((onApprovedCmd s now msg).linearVelocityMps = 0 ∧
        (onApprovedCmd s now msg).angularVelocityRadps = 0) ∨
      ((onApprovedCmd s now msg).linearVelocityMps = msg.twist.linear.x ∧
        (onApprovedCmd s now msg).angularVelocityRadps = msg.twist.angular.z) := by
  unfold onApprovedCmd
  dsimp only
  split
  · exact Or.inl (velocity_beginStop_zeroVelocity _ now _)
  split
  · exact Or.inl (velocity_beginStop_zeroVelocity _ now _)
  · exact Or.inr ⟨rfl, rfl⟩

/-- **The velocity held is zero or that of the last approved command received.** -/
theorem velocity_after (params : Params) (h : List Input) :
    (((machine params).after h).linearVelocityMps = 0 ∧
        ((machine params).after h).angularVelocityRadps = 0) ∨
      ∃ msg receivedAt, latest approvedStream h = some (msg, receivedAt) ∧
        ((machine params).after h).linearVelocityMps = msg.twist.linear.x ∧
        ((machine params).after h).angularVelocityRadps = msg.twist.angular.z := by
  induction h using List.reverseRecOn with
  | nil => exact Or.inl ⟨rfl, rfl⟩
  | append_singleton h i ih =>
    rw [Machine.after_concat, machine_next, latest_concat]
    obtain ⟨now, event⟩ := i
    cases event with
    | approvedCmd msg =>
      rcases velocity_onApprovedCmd ((machine params).after h) now msg with hzero | hmsg
      · exact Or.inl hzero
      · exact Or.inr ⟨msg, now, rfl, hmsg⟩
    | tick =>
      -- a tick revives no older velocity: it keeps the one held, or none
      rcases velocity_update ((machine params).after h) now with hzero | ⟨-, hlinear, hangular⟩
      · exact Or.inl hzero
      · rw [step, tick, hlinear, hangular]
        exact ih
    | modeState msg => exact ih
    | safetyState msg => exact ih
    | setParameters params => exact ih

/-- Before the first approved command the node does not move. -/
theorem lastCommandTime_isSome_of_moving (params : Params) (h : List Input)
    (hmoving : ((machine params).after h).Moving) :
    ((machine params).after h).lastCommandTime.isSome := by
  induction h using List.reverseRecOn with
  | nil => exact absurd hmoving (by simp +decide [State.Moving])
  | append_singleton h i ih =>
    rw [Machine.after_concat, machine_next] at hmoving ⊢
    rw [(step_fields _ i).2.2.2]
    obtain ⟨now, event⟩ := i
    cases event with
    | approvedCmd msg => rfl
    | tick => exact ih ((moving_update_iff ih now).mp hmoving).1
    | modeState msg => exact ih hmoving
    | safetyState msg => exact ih hmoving
    | setParameters params => exact ih hmoving

/-! ## Motion is reported where it is allowed -/

/-- A published state reports motion. -/
def Reports (msg : LocomotionState) : Prop :=
  msg.state = LocomotionState.stateWalking ∨ msg.state = LocomotionState.stateTurning ∨
    msg.commandedLinearVelocityMps ≠ 0 ∨ msg.commandedAngularVelocityRadps ≠ 0

/-- Motion is allowed after a history: the last mode is an active one, the last safety state is OK
or WARN, and the last approved command is fresh. -/
structure Allowed (params : Params) (h : List Input) (now : Time) : Prop where
  mode : modeIn h = ModeState.modeTeleop ∨ modeIn h = ModeState.modeAutonomy ∨
    modeIn h = ModeState.modeAiPolicy
  safety : safetyIn h = SafetyState.stateOk ∨ safetyIn h = SafetyState.stateWarn
  fresh : ∃ msg receivedAt, latest approvedStream h = some (msg, receivedAt) ∧
    now - receivedAt ≤ (paramsIn params h).commandTimeout

/-- Motion goes unnoticed by a tick: the node was moving under a fresh command, and its mode and its
safety state, though one of them does not allow motion, are not among those that the timer lists. -/
structure Unnoticed (params : Params) (h : List Input) (now : Time) : Prop where
  moving : ((machine params).after h).Moving
  fresh : ∃ msg receivedAt, latest approvedStream h = some (msg, receivedAt) ∧
    now - receivedAt ≤ (paramsIn params h).commandTimeout
  mode : modeIn h ∉ haltingModes
  safety : safetyIn h ∉ haltingSafetyStates
  /-- The mode is 0 or without a name, or the safety state is without a name. -/
  unlisted : modeIn h = ModeState.modeUnknown ∨ ModeState.modeShutdown < modeIn h ∨
    SafetyState.stateMrm < safetyIn h

/-- A tick reports motion exactly if the node was moving and nothing that the timer lists stops
it. -/
theorem tick_reports_iff (params : Params) (h : List Input) (now : Time) :
    (∃ msg, Publication.locomotionState msg ∈
        (machine params).out ((machine params).after h) ⟨now, .tick⟩ ∧ Reports msg) ↔
      ((machine params).after h).Moving ∧ modeIn h ∉ haltingModes ∧
        safetyIn h ∉ haltingSafetyStates ∧
        ∃ msg receivedAt, latest approvedStream h = some (msg, receivedAt) ∧
          now - receivedAt ≤ (paramsIn params h).commandTimeout := by
  have hfresh : ((machine params).after h).Fresh now ↔
      ∃ msg receivedAt, latest approvedStream h = some (msg, receivedAt) ∧
        now - receivedAt ≤ (paramsIn params h).commandTimeout := by
    rw [State.Fresh, lastCommandTime_after, params_after]
    rcases latest approvedStream h with _ | ⟨msg, receivedAt⟩
    · simp
    · simp only [Option.map_some, Option.some.injEq, Prod.mk.injEq, exists_eq_left', exists_and_left,
        and_assoc]
  rw [← hfresh, ← activeMode_after params h, ← safetyState_after params h,
    ← moving_update_iff (lastCommandTime_isSome_of_moving params h) now]
  simp only [machine_out, step, tick, List.mem_singleton, Publication.locomotionState.injEq,
    exists_eq_left]
  exact Iff.rfl

/-- A mode that the timer does not list is active, or it is 0 or has no name. -/
theorem active_or_unlisted {mode : UInt8} (h : mode ∉ haltingModes) :
    (mode = ModeState.modeTeleop ∨ mode = ModeState.modeAutonomy ∨ mode = ModeState.modeAiPolicy) ↔
      ¬(mode = ModeState.modeUnknown ∨ ModeState.modeShutdown < mode) := by
  simp only [haltingModes, List.mem_cons, List.not_mem_nil, or_false, not_or] at h
  grind

/-- A safety state that the timer does not list allows motion, or it has no name. -/
theorem allowed_or_unlisted {state : UInt8} (h : state ∉ haltingSafetyStates) :
    (state = SafetyState.stateOk ∨ state = SafetyState.stateWarn) ↔
      ¬SafetyState.stateMrm < state := by
  simp only [haltingSafetyStates, List.mem_cons, List.not_mem_nil, or_false, not_or] at h
  grind

/-- **Motion is reported only where it is allowed, exactly if no motion goes unnoticed**: at every
tick of every run. -/
theorem motion_allowed_iff (params : Params) (h : List Input) (now : Time) :
    (∀ msg, Publication.locomotionState msg ∈
        (machine params).out ((machine params).after h) ⟨now, .tick⟩ → Reports msg →
        Allowed params h now) ↔
      ¬Unnoticed params h now := by
  have hreports := tick_reports_iff params h now
  constructor
  · -- a motion that goes unnoticed is reported, and is not allowed
    rintro hallowed ⟨hmoving, hfresh, hmode, hsafety, hunlisted⟩
    obtain ⟨msg, hmsg, hreport⟩ := hreports.mpr ⟨hmoving, hmode, hsafety, hfresh⟩
    obtain ⟨hmode', hsafety', -⟩ := hallowed msg hmsg hreport
    rw [← or_assoc] at hunlisted
    rcases hunlisted with hunlisted | hunlisted
    · exact (active_or_unlisted hmode).mp hmode' hunlisted
    · exact (allowed_or_unlisted hsafety).mp hsafety' hunlisted
  · -- a motion reported under values that are not unlisted is reported where it is allowed
    intro hnoticed msg hmsg hreport
    obtain ⟨hmoving, hmode, hsafety, hfresh⟩ := hreports.mp ⟨msg, hmsg, hreport⟩
    have hlisted : ¬((modeIn h = ModeState.modeUnknown ∨ ModeState.modeShutdown < modeIn h) ∨
        SafetyState.stateMrm < safetyIn h) := by
      intro hunlisted
      exact hnoticed ⟨hmoving, hfresh, hmode, hsafety, or_assoc.mp hunlisted⟩
    rw [not_or] at hlisted
    exact ⟨(active_or_unlisted hmode).mpr hlisted.1, (allowed_or_unlisted hsafety).mpr hlisted.2,
      hfresh⟩

/-- **A motion that goes unnoticed.** The robot walks in `TELEOP` under an OK safety state; when the
mode becomes 0, the next tick still reports walking, with its velocity. -/
theorem motion_unnoticed :
    ∃ msg, Publication.locomotionState msg ∈ (machine {}).out ((machine {}).after
        [⟨0, .modeState { activeMode := ModeState.modeTeleop }⟩,
          ⟨0, .safetyState { state := SafetyState.stateOk }⟩,
          ⟨1, .approvedCmd { twist := { linear := { x := .fin 1 } } }⟩,
          ⟨2, .modeState { activeMode := ModeState.modeUnknown }⟩]) ⟨3, .tick⟩ ∧
      msg.state = LocomotionState.stateWalking ∧ msg.commandedLinearVelocityMps = .fin 1 ∧
      ¬Allowed {} [⟨0, .modeState { activeMode := ModeState.modeTeleop }⟩,
        ⟨0, .safetyState { state := SafetyState.stateOk }⟩,
        ⟨1, .approvedCmd { twist := { linear := { x := .fin 1 } } }⟩,
        ⟨2, .modeState { activeMode := ModeState.modeUnknown }⟩] 3 := by
  refine ⟨_, List.mem_singleton_self _, by decide +kernel, by decide +kernel, ?_⟩
  intro hallowed
  exact absurd hallowed.mode (by decide)

end HumaWare.LocomotionAdapter
