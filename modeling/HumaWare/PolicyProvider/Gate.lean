import HumaWare.Msgs
import HumaWare.Reactive.History

/-! # The candidate-action gate

A policy may move the robot in `AI_POLICY` mode only, and only while a safety state that allows
motion was received. `Contract` says this of what a node received; the providers check it with one
gate, which the two packages duplicate, over three fields that each provider keeps.

* **`candidateGate_fst_iff`**, **`View.gateOpen_iff`** — the conditions under which the gate lets a
  candidate pass;
* **`View.after`** — the three fields are what was received last;
* **`contract_of_gate`** — behind the gate, the contract holds. -/

namespace HumaWare.PolicyProvider

open Reactive

/-- **The candidate-action contract**, of the safety state and of the mode received last: a safety
state was received, the last one is OK or WARN, and the last mode is `AI_POLICY`. -/
structure Contract (safety mode : Option UInt8) : Prop where
  safety : ∃ state, safety = some state ∧
    (state = SafetyState.stateOk ∨ state = SafetyState.stateWarn)
  mode : mode = some ModeState.modeAiPolicy

/-- `SAFE_FOR_POLICY`. -/
def safeForPolicy : List UInt8 := [SafetyState.stateOk, SafetyState.stateWarn]

/-- The gate that the providers duplicate. -/
def candidateGate (enabled : Bool) (activeMode safetyState : UInt8) (safetySeen : Bool) :
    Bool × String :=
  if ¬enabled then (false, "policy_disabled_by_parameter")
  else if ¬safetySeen then (false, "waiting_for_safety_state")
  else if safetyState ∉ safeForPolicy then (false, "safety_state_blocks_policy")
  else if activeMode ≠ ModeState.modeAiPolicy then (false, "active_mode_not_ai_policy")
  else (true, "policy_candidate_emitted")

/-- The conditions under which the gate lets a candidate pass. -/
theorem candidateGate_fst_iff {enabled : Bool} {activeMode safetyState : UInt8} {safetySeen : Bool} :
    (candidateGate enabled activeMode safetyState safetySeen).1 = true ↔
      enabled = true ∧ safetySeen = true ∧ safetyState ∈ safeForPolicy ∧
        activeMode = ModeState.modeAiPolicy := by
  unfold candidateGate
  rw [guard_fst_iff, guard_fst_iff, guard_fst_iff, guard_fst_iff]
  simp only [not_not, ne_eq, and_true]

/-- The fields in which a provider keeps what it received. -/
structure View where
  activeMode : UInt8 := ModeState.modeInactive
  safetyState : UInt8 := SafetyState.stateUnknown
  safetySeen : Bool := false
  deriving DecidableEq, Repr

namespace View

/-- `_on_mode`. -/
def onMode (v : View) (msg : ModeState) : View := { v with activeMode := msg.activeMode }

/-- `_on_safety`. -/
def onSafety (v : View) (msg : SafetyState) : View :=
  { v with safetyState := msg.state, safetySeen := true }

/-- The fields after an input that carries the mode and the safety state given, or none. -/
def hear (v : View) (mode safety : Option UInt8) : View where
  activeMode := mode.getD v.activeMode
  safetyState := safety.getD v.safetyState
  safetySeen := safety.isSome || v.safetySeen

/-- **The fields hold what was received last.** -/
theorem after {σ ι ο : Type*} {M : Machine σ ι ο} (view : σ → View) (mode safety : ι → Option UInt8)
    (start : view M.init = {}) (keep : ∀ s i, view (M.next s i) = (view s).hear (mode i) (safety i))
    (h : List ι) :
    view (M.after h) = (({} : View).hear (latest mode h) (latest safety h)) := by
  induction h using List.reverseRecOn with
  | nil => exact start
  | append_singleton h i ih =>
    rw [Machine.after_concat, keep, ih, latest_concat, latest_concat]
    cases mode i <;> cases safety i <;> simp [hear]

/-- **The gate is open**: the provider is enabled, it has received a safety state, the last one is OK
or WARN, and the last mode is `AI_POLICY`. -/
structure GateOpen (v : View) (enabled : Bool) : Prop where
  enabled : enabled = true
  seen : v.safetySeen = true
  safety : v.safetyState ∈ safeForPolicy
  mode : v.activeMode = ModeState.modeAiPolicy

/-- The gate as the providers evaluate it. -/
theorem gateOpen_iff {v : View} {enabled : Bool} :
    (candidateGate enabled v.activeMode v.safetyState v.safetySeen).1 = true ↔ v.GateOpen enabled := by
  rw [candidateGate_fst_iff]
  constructor
  · rintro ⟨henabled, hseen, hsafety, hmode⟩
    exact ⟨henabled, hseen, hsafety, hmode⟩
  · rintro ⟨henabled, hseen, hsafety, hmode⟩
    exact ⟨henabled, hseen, hsafety, hmode⟩

end View

/-- **Behind the gate, the contract holds.** -/
theorem contract_of_gate {enabled : Bool} {mode safety : Option UInt8} {v : View}
    (hview : v = ({} : View).hear mode safety) (hgate : v.GateOpen enabled) :
    Contract safety mode := by
  obtain ⟨-, hseen, hsafe, hmode⟩ := hgate
  rw [hview] at hseen hsafe hmode
  constructor
  · cases safety with
    | none => exact absurd hseen Bool.false_ne_true
    | some state => exact ⟨state, rfl, List.mem_pair.mp hsafe⟩
  · cases mode with
    | none =>
      have hinactive : ModeState.modeInactive = ModeState.modeAiPolicy := hmode
      exact absurd hinactive (by decide)
    | some mode => exact congrArg some hmode

end HumaWare.PolicyProvider
