import HumaWare.PolicyProvider.Gate
import HumaWare.PolicyProvider.Plan

/-! # The scripted policy provider node

`policy_provider_scripted_node.py`, function by function. On every tick on which the candidate gate
is open, the node advances its progress through the plan by one tick length and publishes the
velocity of the waypoint it has then reached; on any other tick the plan stands still. The plan and
the publish rate are read once, when the node starts. -/

namespace HumaWare.PolicyProvider.Scripted

open Python Reactive

/-- The parameters the node reads while it runs. -/
structure Params where
  robotId : String := "mock_001"
  enabled : Bool := false
  deriving DecidableEq, Repr

/-- The node's fields, the parameters in force, and the arithmetic of its interpreter. -/
structure State where
  arithmetic : Arithmetic
  params : Params
  view : View := {}
  plan : WaypointPlan
  progress : PlanProgress := initialProgress
  publishRate : PyFloat
  deriving DecidableEq, Repr

/-- The node's callbacks. -/
inductive Event
  | modeState (msg : ModeState)
  | safetyState (msg : SafetyState)
  | tick
  | setParameters (params : Params)
  deriving DecidableEq

/-- What the node publishes. -/
inductive Publication
  /-- on `policy/cmd_vel` -/
  | policyCmd (msg : TwistStamped)
  deriving DecidableEq

/-- `should_emit_candidate`. -/
def shouldEmitCandidate : Bool → UInt8 → UInt8 → Bool → Bool × String := candidateGate

/-- `_tick`: the candidate it publishes at a waypoint. -/
def candidate (s : State) (now : Time) (waypoint : Waypoint) : TwistStamped where
  header := { stamp := now, frameId := s.params.robotId }
  twist := { linear := { x := waypoint.linearXMps }, angular := { z := waypoint.angularZRadps } }

/-- `_tick`. -/
def tick (s : State) (now : Time) : State × List Publication :=
  if (shouldEmitCandidate s.params.enabled s.view.activeMode s.view.safetyState s.view.safetySeen).1 then
    match advanceProgress s.arithmetic s.progress s.plan (s.arithmetic.recip s.publishRate) with
    -- the tick length is not negative, so the call does not raise
    | .error _ => (s, [])
    -- the call does not return, and no later tick would
    | .ok none => (s, [])
    | .ok (some progress) =>
      let s := { s with progress := progress }
      (s, (currentCommand progress s.plan).toList.map fun waypoint =>
        .policyCmd (candidate s now waypoint))
  else (s, [])

/-- An input of the node: a callback and the clock reading at which it runs. -/
abbrev Input : Type := Stamped Time Event

/-- One callback of the node. -/
def step (s : State) (i : Input) : State × List Publication :=
  match i.event with
  | .modeState msg => ({ s with view := s.view.onMode msg }, [])
  | .safetyState msg => ({ s with view := s.view.onSafety msg }, [])
  | .tick => tick s i.now
  | .setParameters params => ({ s with params := params }, [])

/-- `__init__`, with the plan that was loaded and the parameter `publish_rate_hz`. The literal `0.1`
is the float nearest to it. -/
def init (A : Arithmetic) (params : Params) (plan : WaypointPlan) (publishRateHz : PyFloat) :
    State where
  arithmetic := A
  params := params
  plan := plan
  publishRate := PyFloat.pyMax publishRateHz (A.round (1 / 10))

/-- The node, started with the parameters `params`. -/
def machine (A : Arithmetic) (params : Params) (plan : WaypointPlan) (publishRateHz : PyFloat) :
    Machine State Input (List Publication) where
  init := init A params plan publishRateHz
  step := step

/-- The modes received. -/
def modeStream (i : Input) : Option UInt8 :=
  match i.event with
  | .modeState msg => some msg.activeMode
  | _ => none

/-- The safety states received. -/
def safetyStream (i : Input) : Option UInt8 :=
  match i.event with
  | .safetyState msg => some msg.state
  | _ => none

/-- A tick moves the progress and nothing else. -/
theorem exists_tick (s : State) (now : Time) :
    ∃ progress, (tick s now).1 = { s with progress := progress } := by
  unfold tick
  split
  · split
    · exact ⟨s.progress, rfl⟩
    · exact ⟨s.progress, rfl⟩
    · next progress _ => exact ⟨progress, rfl⟩
  · exact ⟨s.progress, rfl⟩

/-- The fields hold what the node received last. -/
theorem view_after (A : Arithmetic) (params : Params) (plan : WaypointPlan) (publishRateHz : PyFloat)
    (h : List Input) :
    ((machine A params plan publishRateHz).after h).view =
      ({} : View).hear (latest modeStream h) (latest safetyStream h) := by
  apply View.after State.view modeStream safetyStream rfl
  rintro s ⟨now, event⟩
  cases event with
  | modeState msg => rfl
  | safetyState msg => rfl
  | tick =>
    obtain ⟨progress, htick⟩ := exists_tick s now
    show (tick s now).1.view = s.view
    rw [htick]
  | setParameters params => rfl

/-- The plan, the publish rate and the arithmetic are those the node started with. -/
theorem plan_after (A : Arithmetic) (params : Params) (plan : WaypointPlan) (publishRateHz : PyFloat)
    (h : List Input) :
    ((machine A params plan publishRateHz).after h).plan = plan ∧
      ((machine A params plan publishRateHz).after h).publishRate =
        PyFloat.pyMax publishRateHz (A.round (1 / 10)) ∧
      ((machine A params plan publishRateHz).after h).arithmetic = A := by
  induction h using List.reverseRecOn with
  | nil => exact ⟨rfl, rfl, rfl⟩
  | append_singleton h i ih =>
    rw [Machine.after_concat]
    obtain ⟨now, event⟩ := i
    cases event with
    | modeState msg => exact ih
    | safetyState msg => exact ih
    | tick =>
      obtain ⟨progress, htick⟩ := exists_tick ((machine A params plan publishRateHz).after h) now
      have hnext : (machine A params plan publishRateHz).next
          ((machine A params plan publishRateHz).after h) ⟨now, .tick⟩ = _ := htick
      rw [hnext]
      exact ih
    | setParameters params => exact ih

/-- A tick length is never negative. -/
theorem not_recip_lt_zero (A : Arithmetic) (publishRateHz : PyFloat) :
    ¬A.recip (PyFloat.pyMax publishRateHz (A.round (1 / 10))) < 0 := by
  obtain ⟨least, hleast, hnonneg⟩ : ∃ least, A.round (1 / 10) = .fin least ∧ 0 ≤ least := by
    cases A with
    | exact => exact ⟨_, rfl, by decide +kernel⟩
    | binary64 => exact ⟨nearest (1 / 10), by decide +kernel, nearest_nonneg (by decide +kernel)⟩
  have hrecip : ∀ {rate : ℚ}, 0 ≤ rate → ¬A.recip (.fin rate) < 0 := fun hrate =>
    PyFloat.not_lt_of_le (A.zero_le_round (inv_nonneg.mpr hrate))
  rw [hleast]
  unfold PyFloat.pyMax
  split
  · exact hrecip hnonneg
  · next hrate =>
    cases publishRateHz with
    | nan => exact PyFloat.not_nan_lt 0
    | negInf => exact absurd rfl hrate
    | posInf => exact Bool.false_ne_true
    | fin rate =>
      have hge : least ≤ rate := not_lt.mp (mt PyFloat.fin_lt_fin.mpr hrate)
      exact hrecip (hnonneg.trans hge)

/-- A call with a time that is not negative does not raise. -/
theorem exists_advanceProgress_ok (A : Arithmetic) (progress : PlanProgress) (plan : WaypointPlan)
    {dt : PyFloat} (hdt : ¬dt < 0) : ∃ outcome, advanceProgress A progress plan dt = .ok outcome := by
  rw [advanceProgress, if_neg hdt]
  split
  · exact ⟨_, rfl⟩
  split <;> exact ⟨_, rfl⟩

/-- **No tick of the node raises.** -/
theorem exists_advance (A : Arithmetic) (params : Params) (plan : WaypointPlan)
    (publishRateHz : PyFloat) (h : List Input) :
    let s := (machine A params plan publishRateHz).after h
    ∃ outcome, advanceProgress s.arithmetic s.progress s.plan (s.arithmetic.recip s.publishRate) =
      .ok outcome := by
  obtain ⟨-, hrate, harithmetic⟩ := plan_after A params plan publishRateHz h
  dsimp only
  rw [hrate, harithmetic]
  exact exists_advanceProgress_ok A _ _ (not_recip_lt_zero A publishRateHz)

/-- The node publishes on a tick only, and only behind the gate. -/
theorem gate_of_policyCmd {s : State} {i : Input} {msg : TwistStamped}
    (hpub : Publication.policyCmd msg ∈ (step s i).2) :
    i.event = .tick ∧ s.view.GateOpen s.params.enabled := by
  obtain ⟨now, event⟩ := i
  cases event with
  | modeState msg' => exact absurd hpub List.not_mem_nil
  | safetyState msg' => exact absurd hpub List.not_mem_nil
  | tick =>
    have htick : Publication.policyCmd msg ∈ (tick s now).2 := hpub
    unfold tick at htick
    split at htick
    · next hgate => exact ⟨rfl, View.gateOpen_iff.mp hgate⟩
    · exact absurd htick List.not_mem_nil
  | setParameters params => exact absurd hpub List.not_mem_nil

/-- **The scripted provider keeps the contract**, whatever its plan. -/
theorem contract_of_policyCmd {A : Arithmetic} {params : Params} {plan : WaypointPlan}
    {publishRateHz : PyFloat} {h : List Input} {i : Input} {msg : TwistStamped}
    (hpub : Publication.policyCmd msg ∈
      (machine A params plan publishRateHz).out ((machine A params plan publishRateHz).after h) i) :
    Contract (latest safetyStream h) (latest modeStream h) := by
  obtain ⟨-, hgate⟩ := gate_of_policyCmd hpub
  exact contract_of_gate (view_after A params plan publishRateHz h) hgate

end HumaWare.PolicyProvider.Scripted
