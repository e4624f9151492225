import HumaWare.HardwareAdapter.Node
import HumaWare.Reactive.History

/-! # The hardware adapter's gate, read off the history

The adapter is the last barrier before the hardware. `tick_applies_iff` says in which states of the
node a tick applies a command; the field lemmas turn it into a statement about what was received.

* **`applied_iff`** — whenever a tick applies a command, every condition that the gate is meant to
  check holds of the messages received *except* that an MRM state need not have been received at
  all: the field starts as `NONE`. So the full condition holds exactly when one was received. -/

namespace HumaWare.HardwareAdapter

open Reactive

/-! ## When a tick applies a command -/

/-- The conditions under which `should_release_output` lets a command pass. -/
theorem shouldReleaseOutput_iff {safetyState mrmState activeMode : UInt8}
    {lastApprovedAt lastArbitrationAt : Option Time} {arbitrationOutputEnabled : Bool} {now : Time}
    {approvedCommandTimeout arbitrationStateTimeout : Duration} :
    (shouldReleaseOutput safetyState mrmState activeMode lastApprovedAt lastArbitrationAt
        arbitrationOutputEnabled now approvedCommandTimeout arbitrationStateTimeout).1 = true ↔
      (safetyState = SafetyState.stateOk ∨ safetyState = SafetyState.stateWarn) ∧
        mrmState = MRMState.stateNone ∧
        (activeMode = ModeState.modeTeleop ∨ activeMode = ModeState.modeAutonomy ∨
          activeMode = ModeState.modeAiPolicy) ∧
        (∃ arbitrationAt, lastArbitrationAt = some arbitrationAt ∧
          now - arbitrationAt ≤ arbitrationStateTimeout) ∧
        arbitrationOutputEnabled = true ∧
        ∃ approvedAt, lastApprovedAt = some approvedAt ∧
          now - approvedAt ≤ approvedCommandTimeout := by
  unfold shouldReleaseOutput
  rw [guard_fst_iff, guard_fst_iff, guard_fst_iff, guard_fst_iff]
  cases lastArbitrationAt with
  | none => simp
  | some arbitrationAt =>
    cases lastApprovedAt with
    | none => simp [guard_fst_iff]
    | some approvedAt =>
      -- the allow-list makes the block-list before it redundant
      have hblocks : safetyState ∈ [SafetyState.stateOk, SafetyState.stateWarn] →
          safetyState ∉ [SafetyState.stateFault, SafetyState.stateEstop, SafetyState.stateMrm] := by
        intro h
        rcases List.mem_pair.mp h with rfl | rfl <;> decide
      rw [guard_fst_iff, guard_fst_iff, guard_fst_iff]
      simp only [not_not, not_lt, gt_iff_lt, Option.some.injEq, exists_eq_left', and_true, ne_eq,
        List.mem_cons, List.not_mem_nil, or_false] at hblocks ⊢
      tauto

/-- **The gate.** What the fields must hold for a command to pass. -/
structure State.GateOpen (s : State) (now : Time) : Prop where
  safety : s.safetyState = SafetyState.stateOk ∨ s.safetyState = SafetyState.stateWarn
  mrm : s.mrmState = MRMState.stateNone
  mode : s.activeMode = ModeState.modeTeleop ∨ s.activeMode = ModeState.modeAutonomy ∨
    s.activeMode = ModeState.modeAiPolicy
  arbitration : ∃ arbitration arbitrationAt, s.lastArbitration = some arbitration ∧
    s.lastArbitrationAt = some arbitrationAt ∧ arbitration.outputEnabled = true ∧
    now - arbitrationAt ≤ s.params.arbitrationStateTimeout
  approved : ∃ approvedAt, s.lastApprovedAt = some approvedAt ∧
    now - approvedAt ≤ s.params.approvedCommandTimeout

/-- The gate as the node evaluates it. -/
theorem release_fst_iff {s : State} {now : Time} : (release s now).1 = true ↔ s.GateOpen now := by
  rw [release, shouldReleaseOutput_iff]
  constructor
  · rintro ⟨hsafety, hmrm, hmode, ⟨arbitrationAt, hat, hfresh⟩, henabled, happroved⟩
    refine ⟨hsafety, hmrm, hmode, ?_, happroved⟩
    cases harbitration : s.lastArbitration with
    | none => simp [harbitration] at henabled
    | some arbitration =>
      exact ⟨arbitration, arbitrationAt, rfl, hat, by simpa [harbitration] using henabled, hfresh⟩
  · rintro ⟨hsafety, hmrm, hmode, ⟨arbitration, arbitrationAt, harb, hat, henabled, hfresh⟩,
      happroved⟩
    exact ⟨hsafety, hmrm, hmode, ⟨arbitrationAt, hat, hfresh⟩, by simpa [harb] using henabled,
      happroved⟩

/-- **When a tick applies a command**: the gate is open and it is the last approved one. -/
theorem tick_applies_iff {s : State} {now : Time} {command : TwistStamped} :
    (∃ reason, Effect.applyToHardware command reason ∈ tick s now) ↔
      s.GateOpen now ∧ s.lastApproved = some command := by
  rw [← release_fst_iff, tick]
  cases s.lastApproved with
  | none => simp
  | some approved =>
    cases hallow : (release s now).1 with
    | false => simp [hallow]
    | true => simp [hallow, eq_comm]

/-- Only the timer drives the hardware. -/
theorem step_applies {s : State} {i : Input} {command : TwistStamped} {reason : String}
    (h : Effect.applyToHardware command reason ∈ (step s i).2) :
    i.event = .tick ∧ Effect.applyToHardware command reason ∈ tick s i.now := by
  obtain ⟨now, event⟩ := i
  cases event <;> simp_all [step]

/-- **The diagnostics show the mode and the safety state that the node holds.** -/
theorem diagnostics_shows {s : State} {i : Input} {msg : DiagnosticArray}
    (h : Effect.diagnostics msg ∈ (step s i).2) :
    msg.Shows "active_mode" (toString s.activeMode) ∧
      msg.Shows "safety_state" (toString s.safetyState) := by
  obtain ⟨now, event⟩ := i
  cases event with
  | tick =>
    obtain ⟨allow, reason, rfl⟩ : ∃ allow reason, msg = diagnosticsMsg s allow reason now := by
      have h : Effect.diagnostics msg ∈ tick s now := h
      rw [tick] at h
      generalize release s now = answer at h
      rcases List.mem_cons.mp h with hmsg | hmsg
      · exact ⟨_, _, Effect.diagnostics.inj hmsg⟩
      · -- what the tick does to the hardware is no message
        cases happroved : s.lastApproved with
        | none => simp [happroved] at hmsg
        | some command => cases hallow : answer.1 <;> simp [happroved, hallow] at hmsg
    simp [DiagnosticArray.Shows, diagnosticsMsg, AdapterIdentity.asKeyValues]
  | publishHeartbeat => simp [step] at h
  | safetyState msg' | mrmState msg' | modeState msg' | approvedCommand msg' | arbitrationState msg'
  | setParameters params => exact absurd h List.not_mem_nil

/-! ## The fields after a history -/

/-- The parameters set by an input. -/
def paramsStream : Input → Option Params
  | ⟨_, .setParameters params⟩ => some params
  | _ => none

/-- The safety state received with an input. -/
def safetyStream : Input → Option UInt8
  | ⟨_, .safetyState msg⟩ => some msg.state
  | _ => none

/-- The MRM state received with an input. -/
def mrmStream : Input → Option UInt8
  | ⟨_, .mrmState msg⟩ => some msg.state
  | _ => none

/-- The active mode received with an input. -/
def modeStream : Input → Option UInt8
  | ⟨_, .modeState msg⟩ => some msg.activeMode
  | _ => none

/-- The approved command received with an input, and the clock reading of its arrival. -/
def approvedStream : Input → Option (TwistStamped × Time)
  | ⟨now, .approvedCommand msg⟩ => some (msg, now)
  | _ => none

/-- The arbitration state received with an input, and the clock reading of its arrival. -/
def arbitrationStream : Input → Option (CommandArbitrationState × Time)
  | ⟨now, .arbitrationState msg⟩ => some (msg, now)
  | _ => none

/-- The parameters in force after a history. -/
def paramsIn (params : Params) (h : List Input) : Params := (latest paramsStream h).getD params

/-- What one callback leaves in the fields. -/
theorem step_fields (s : State) (i : Input) :
    (step s i).1.params = (paramsStream i).getD s.params ∧
      (step s i).1.safetyState = (safetyStream i).getD s.safetyState ∧
      (step s i).1.mrmState = (mrmStream i).getD s.mrmState ∧
      (step s i).1.activeMode = (modeStream i).getD s.activeMode ∧
      (step s i).1.lastApproved = ((approvedStream i).map Prod.fst).or s.lastApproved ∧
      (step s i).1.lastApprovedAt = ((approvedStream i).map Prod.snd).or s.lastApprovedAt ∧
      (step s i).1.lastArbitration = ((arbitrationStream i).map Prod.fst).or s.lastArbitration ∧
      (step s i).1.lastArbitrationAt = ((arbitrationStream i).map Prod.snd).or s.lastArbitrationAt := by
  obtain ⟨now, event⟩ := i
  cases event <;> exact ⟨rfl, rfl, rfl, rfl, rfl, rfl, rfl, rfl⟩

section After

variable (params : Params) (h : List Input)

/-- The node holds the parameters set last. -/
theorem params_after : ((machine params).after h).params = paramsIn params h :=
  (machine params).latest_register State.params paramsStream (fun s i => (step_fields s i).1) h

/-- The node holds the safety state received last. -/
theorem safetyState_after :
    ((machine params).after h).safetyState =
      (latest safetyStream h).getD SafetyState.stateUnknown :=
  (machine params).latest_register State.safetyState safetyStream
    (fun s i => (step_fields s i).2.1) h

/-- The node holds the MRM state received last, and `NONE` before the first. -/
theorem mrmState_after :
    ((machine params).after h).mrmState = (latest mrmStream h).getD MRMState.stateNone :=
  (machine params).latest_register State.mrmState mrmStream (fun s i => (step_fields s i).2.2.1) h

/-- The node holds the mode received last. -/
theorem activeMode_after :
    ((machine params).after h).activeMode = (latest modeStream h).getD ModeState.modeInactive :=
  (machine params).latest_register State.activeMode modeStream
    (fun s i => (step_fields s i).2.2.2.1) h

/-- The last approved command and its arrival are the last received. -/
theorem approved_after :
    ((machine params).after h).lastApproved = (latest approvedStream h).map Prod.fst ∧
      ((machine params).after h).lastApprovedAt = (latest approvedStream h).map Prod.snd := by
  induction h using List.reverseRecOn with
  | nil => exact ⟨rfl, rfl⟩
  | append_singleton h i ih =>
    obtain ⟨-, -, -, -, hlast, hat, -, -⟩ := step_fields ((machine params).after h) i
    rw [Machine.after_concat, machine_next, hlast, hat, ih.1, ih.2, latest_concat]
    cases approvedStream i <;> exact ⟨rfl, rfl⟩

/-- The last arbitration state and its arrival are the last received. -/
theorem arbitration_after :
    ((machine params).after h).lastArbitration = (latest arbitrationStream h).map Prod.fst ∧
      ((machine params).after h).lastArbitrationAt = (latest arbitrationStream h).map Prod.snd := by
  induction h using List.reverseRecOn with
  | nil => exact ⟨rfl, rfl⟩
  | append_singleton h i ih =>
    obtain ⟨-, -, -, -, -, -, hlast, hat⟩ := step_fields ((machine params).after h) i
    rw [Machine.after_concat, machine_next, hlast, hat, ih.1, ih.2, latest_concat]
    cases arbitrationStream i <;> exact ⟨rfl, rfl⟩

end After

/-! ## The abstract gate -/

/-- **Every required state received.** The five streams have spoken, and what they said last lets
`command` be applied at `now`. -/
structure Permitted (params : Params) (h : List Input) (now : Time) (command : TwistStamped) :
    Prop where
  safety : ∃ state, latest safetyStream h = some state ∧
    (state = SafetyState.stateOk ∨ state = SafetyState.stateWarn)
  mrm : latest mrmStream h = some MRMState.stateNone
  mode : ∃ mode, latest modeStream h = some mode ∧ (mode = ModeState.modeTeleop ∨
    mode = ModeState.modeAutonomy ∨ mode = ModeState.modeAiPolicy)
  arbitration : ∃ arbitration arbitrationAt,
    latest arbitrationStream h = some (arbitration, arbitrationAt) ∧
    arbitration.outputEnabled = true ∧ now - arbitrationAt ≤ (paramsIn params h).arbitrationStateTimeout
  approved : ∃ approvedAt, latest approvedStream h = some (command, approvedAt) ∧
    now - approvedAt ≤ (paramsIn params h).approvedCommandTimeout

/-- **Refinement.** A tick applies a command exactly if every required state permits it, except that
the MRM state may be missing. -/
theorem tick_applies_after_iff {params : Params} {h : List Input} {now : Time}
    {command : TwistStamped} :
    (∃ reason, Effect.applyToHardware command reason ∈ tick ((machine params).after h) now) ↔
      (∃ state, latest safetyStream h = some state ∧
        (state = SafetyState.stateOk ∨ state = SafetyState.stateWarn)) ∧
      (latest mrmStream h).getD MRMState.stateNone = MRMState.stateNone ∧
      (∃ mode, latest modeStream h = some mode ∧ (mode = ModeState.modeTeleop ∨
        mode = ModeState.modeAutonomy ∨ mode = ModeState.modeAiPolicy)) ∧
      (∃ arbitration arbitrationAt,
        latest arbitrationStream h = some (arbitration, arbitrationAt) ∧
        arbitration.outputEnabled = true ∧
        now - arbitrationAt ≤ (paramsIn params h).arbitrationStateTimeout) ∧
      ∃ approvedAt, latest approvedStream h = some (command, approvedAt) ∧
        now - approvedAt ≤ (paramsIn params h).approvedCommandTimeout := by
  rw [tick_applies_iff]
  constructor
  · rintro ⟨⟨hsafety, hmrm, hmode, harbitration, happroved⟩, hcommand⟩
    rw [safetyState_after] at hsafety
    rw [mrmState_after] at hmrm
    rw [activeMode_after] at hmode
    rw [(arbitration_after params h).1, (arbitration_after params h).2, params_after] at harbitration
    rw [(approved_after params h).2, params_after] at happroved
    rw [(approved_after params h).1] at hcommand
    -- an initial value would have shut the gate, so each field was received; the MRM state's does not
    refine ⟨?_, hmrm, ?_, ?_, ?_⟩
    · cases hs : latest safetyStream h with
      | none => rw [hs] at hsafety; exact absurd hsafety (by decide)
      | some state => rw [hs] at hsafety; exact ⟨state, rfl, hsafety⟩
    · cases hm : latest modeStream h with
      | none => rw [hm] at hmode; exact absurd hmode (by decide)
      | some mode => rw [hm] at hmode; exact ⟨mode, rfl, hmode⟩
    · obtain ⟨arbitration, arbitrationAt, hmsg, hat, henabled, hfresh⟩ := harbitration
      obtain ⟨⟨_, _⟩, hlatest, rfl⟩ := Option.map_eq_some_iff.mp hmsg
      rw [hlatest] at hat
      obtain rfl := Option.some.inj hat
      exact ⟨_, _, hlatest, henabled, hfresh⟩
    · obtain ⟨approvedAt, hat, hfresh⟩ := happroved
      obtain ⟨⟨_, _⟩, hlatest, rfl⟩ := Option.map_eq_some_iff.mp hcommand
      rw [hlatest] at hat
      obtain rfl := Option.some.inj hat
      exact ⟨_, hlatest, hfresh⟩
  · rintro ⟨⟨state, hs, hsafety⟩, hmrm, ⟨mode, hm, hmode⟩,
      ⟨arbitration, arbitrationAt, harb, henabled, hfresh⟩, approvedAt, happ, happroved⟩
    refine ⟨⟨?_, ?_, ?_, ⟨arbitration, arbitrationAt, ?_, ?_, henabled, ?_⟩, approvedAt, ?_, ?_⟩, ?_⟩
    · rw [safetyState_after, hs]; exact hsafety
    · rw [mrmState_after]; exact hmrm
    · rw [activeMode_after, hm]; exact hmode
    · rw [(arbitration_after params h).1, harb]; rfl
    · rw [(arbitration_after params h).2, harb]; rfl
    · rw [params_after]; exact hfresh
    · rw [(approved_after params h).2, happ]; rfl
    · rw [params_after]; exact happroved
    · rw [(approved_after params h).1, happ]; rfl

/-- **An applied command was fully permitted exactly if an MRM state was ever received.** -/
theorem applied_iff (params : Params) (h : List Input) (i : Input) (command : TwistStamped)
    (reason : String)
    (happly : Effect.applyToHardware command reason ∈
      (machine params).out ((machine params).after h) i) :
    Permitted params h i.now command ↔ (latest mrmStream h).isSome := by
  obtain ⟨-, htick⟩ := step_applies happly
  obtain ⟨hsafety, hmrm, hmode, harbitration, happroved⟩ := tick_applies_after_iff.mp ⟨_, htick⟩
  constructor
  · intro hpermitted
    rw [hpermitted.mrm]
    rfl
  · intro hreceived
    obtain ⟨state, hstate⟩ := Option.isSome_iff_exists.mp hreceived
    rw [hstate, Option.getD_some] at hmrm
    exact ⟨hsafety, hmrm ▸ hstate, hmode, harbitration, happroved⟩

/-- A run that receives all five streams and then applies the approved command. -/
theorem applied_iff_all_received :
    Permitted {} [⟨0, .safetyState { state := 1 }⟩, ⟨1, .mrmState {}⟩,
      ⟨2, .modeState { activeMode := 3 }⟩, ⟨3, .arbitrationState { outputEnabled := true }⟩,
      ⟨4, .approvedCommand {}⟩] 5 {} :=
  (applied_iff {} [⟨0, .safetyState { state := 1 }⟩, ⟨1, .mrmState {}⟩,
      ⟨2, .modeState { activeMode := 3 }⟩, ⟨3, .arbitrationState { outputEnabled := true }⟩,
      ⟨4, .approvedCommand {}⟩] ⟨5, .tick⟩ {} "approved_command" (by decide)).mpr (by decide)

/-- **The missing MRM state.** The same run without the MRM state applies the command too. -/
theorem applied_without_mrm :
    ∃ h command reason, Effect.applyToHardware command reason ∈
        (machine {}).out ((machine {}).after h) ⟨5, .tick⟩ ∧
      latest mrmStream h = none ∧ ¬Permitted {} h 5 command := by
  refine ⟨[⟨0, .safetyState { state := 1 }⟩, ⟨2, .modeState { activeMode := 3 }⟩,
    ⟨3, .arbitrationState { outputEnabled := true }⟩, ⟨4, .approvedCommand {}⟩], {},
    "approved_command", by decide, rfl, fun hpermitted => ?_⟩
  exact absurd hpermitted.mrm (by decide)

end HumaWare.HardwareAdapter
