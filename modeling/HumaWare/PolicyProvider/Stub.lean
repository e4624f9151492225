import HumaWare.PolicyProvider.Gate

/-! # The policy provider stub node

`policy_provider_stub_node.py`, function by function. On every tick the node publishes one fixed
velocity on `policy/cmd_vel`, taken from its parameters, if the candidate gate is open. -/

namespace HumaWare.PolicyProvider.Stub

open Python Reactive

/-- The parameters the node reads while it runs. -/
structure Params where
  robotId : String := "mock_001"
  enabled : Bool := false
  linearXMps : PyFloat := .fin (1 / 20)
  angularZRadps : PyFloat := 0
  deriving DecidableEq, Repr

/-- The node's fields, and the parameters in force. -/
structure State where
  params : Params
  view : View := {}
  deriving DecidableEq, Repr

/-- The node's callbacks. -/
inductive Event
  | modeState (msg : ModeState)
  | safetyState (msg : SafetyState)
  | tick
  | setParameters (params : Params)
  deriving DecidableEq

/-- What the node publishes. -/
inductive Publication
  /-- on `policy/cmd_vel` -/
  | policyCmd (msg : TwistStamped)
  deriving DecidableEq

/-- `should_emit_candidate`. -/
def shouldEmitCandidate : Bool → UInt8 → UInt8 → Bool → Bool × String := candidateGate

/-- `_tick`: the candidate it publishes. -/
def candidate (s : State) (now : Time) : TwistStamped where
  header := { stamp := now, frameId := s.params.robotId }
  twist := { linear := { x := s.params.linearXMps }, angular := { z := s.params.angularZRadps } }

/-- `_tick`. -/
def tick (s : State) (now : Time) : State × List Publication :=
  if (shouldEmitCandidate s.params.enabled s.view.activeMode s.view.safetyState s.view.safetySeen).1 then
    (s, [.policyCmd (candidate s now)])
  else (s, [])

/-- A tick leaves the node as it was. -/
theorem tick_fst (s : State) (now : Time) : (tick s now).1 = s := by
  unfold tick
  split <;> rfl

/-- An input of the node: a callback and the clock reading at which it runs. -/
abbrev Input : Type := Stamped Time Event

/-- One callback of the node. -/
def step (s : State) (i : Input) : State × List Publication :=
  match i.event with
  | .modeState msg => ({ s with view := s.view.onMode msg }, [])
  | .safetyState msg => ({ s with view := s.view.onSafety msg }, [])
  | .tick => tick s i.now
  | .setParameters params => ({ s with params := params }, [])

/-- The node, started with the parameters `params`. -/
def machine (params : Params) : Machine State Input (List Publication) where
  init := { params := params }
  step := step

/-- The modes received. -/
def modeStream (i : Input) : Option UInt8 :=
  match i.event with
  | .modeState msg => some msg.activeMode
  | _ => none

/-- The safety states received. -/
def safetyStream (i : Input) : Option UInt8 :=
  match i.event with
  | .safetyState msg => some msg.state
  | _ => none

/-- The fields hold what the node received last. -/
theorem view_after (params : Params) (h : List Input) :
    ((machine params).after h).view =
      ({} : View).hear (latest modeStream h) (latest safetyStream h) := by
  apply View.after State.view modeStream safetyStream rfl
  rintro s ⟨now, event⟩
  cases event with
  | modeState msg => rfl
  | safetyState msg => rfl
  | tick =>
    show (tick s now).1.view = s.view
    unfold tick
    split <;> rfl
  | setParameters params => rfl

/-- The node publishes on a tick only, and only what passes the gate. -/
theorem gate_of_policyCmd {s : State} {i : Input} {msg : TwistStamped}
    (hpub : Publication.policyCmd msg ∈ (step s i).2) :
    i.event = .tick ∧ s.view.GateOpen s.params.enabled := by
  obtain ⟨now, event⟩ := i
  cases event with
  | modeState msg' => exact absurd hpub List.not_mem_nil
  | safetyState msg' => exact absurd hpub List.not_mem_nil
  | tick =>
    have htick : Publication.policyCmd msg ∈ (tick s now).2 := hpub
    unfold tick at htick
    split at htick
    · next hgate => exact ⟨rfl, View.gateOpen_iff.mp hgate⟩
    · exact absurd htick List.not_mem_nil
  | setParameters params => exact absurd hpub List.not_mem_nil

/-- **The stub keeps the contract.** -/
theorem contract_of_policyCmd {params : Params} {h : List Input} {i : Input} {msg : TwistStamped}
    (hpub : Publication.policyCmd msg ∈ (machine params).out ((machine params).after h) i) :
    Contract (latest safetyStream h) (latest modeStream h) := by
  obtain ⟨-, hgate⟩ := gate_of_policyCmd hpub
  exact contract_of_gate (view_after params h) hgate

end HumaWare.PolicyProvider.Stub
