import HumaWare.Runtime.Takeover
import HumaWare.SafetyManager.Sources

/-! # The return to autonomy after an MRM

Nothing demotes the mode when an MRM is declared, so an arbiter that was in an autonomy mode
approves autonomy again as soon as the safety state allows motion. It does so after every source of
the MRM has ended: the latch by an accepted `clear_mrm`, the parameter by a parameter change, and a
watchdog by nothing more than the return of the party it watches, with no operator involved.

* **`raises_until`** — along a run, a source of an MRM stays active until a step ends it;
* **`autonomy_return`** — the main result;
* **`not_autonomy_lockout`** — a run that returns to autonomy without any operator action. -/

namespace HumaWare.Runtime

open Reactive
open SafetyManager (Source)

/-- The safety state of a safety message. -/
theorem Message.safety_of_safetyMsg {m : Message} {msg : SafetyState} (h : m.safetyMsg = some msg) :
    m.safety = msg.state := by
  cases m <;> simp only [Message.safetyMsg, reduceCtorEq, Option.some.injEq] at h
  rw [← h]
  rfl

section Network

variable (setup : Setup) (members : NodeId → Bool) (opens : Topic → Bool)

/-- The step `j`, taken in the state `s`, ends a source of an MRM. -/
def EndsSource (source : Source) (s : NetworkState) (j : Action) : Prop :=
  ∃ e, (network setup members opens).fired s j.event = some (.safetyManager e) ∧
    s.nodes.safetyManager.Ends ⟨j.now, e⟩ source

variable {setup members opens}

/-- A step that does not end a source leaves it active. -/
theorem raises_next {source : Source} {now : Time} {s : NetworkState} {j : Action}
    (hraises : s.nodes.safetyManager.Raises now source)
    (hends : ¬EndsSource setup members opens source s j) :
    ((network setup members opens).machine.next s j).nodes.safetyManager.Raises now source := by
  rw [Network.next_nodes]
  cases hfired : (network setup members opens).fired s j.event with
  | none => exact hraises
  | some e =>
    cases e with
    | safetyManager e =>
      refine SafetyManager.step_raises (i := ⟨j.now, e⟩) hraises fun h => ?_
      exact hends ⟨e, hfired, h⟩
    | modeManager | commandArbiter | nav2Bridge | locomotionAdapter | hardwareAdapter |
      skillServer => exact hraises

/-- **A source of an MRM stays active until a step ends it.** -/
theorem raises_until {source : Source} {now : Time} {pre : List Action}
    (hraises : ((network setup members opens).machine.after pre).nodes.safetyManager.Raises now
      source) (k : List Action) :
    ((network setup members opens).machine.after (pre ++ k)).nodes.safetyManager.Raises now source ∨
      ∃ m₁ j m₂, k = m₁ ++ j :: m₂ ∧ EndsSource setup members opens source
        ((network setup members opens).machine.after (pre ++ m₁)) j :=
  (network setup members opens).machine.until_ended
    (P := fun s => s.nodes.safetyManager.Raises now source) (fun _ _ => raises_next) hraises k

/-- A safety state published by a step tells the state that the step leaves. -/
theorem safetyState_of_emitted (hclosed : opens .safetyState = false) {s : NetworkState} {i : Action}
    {m : Message} (hm : m ∈ (network setup members opens).emitted s i)
    (htopic : m.topic = .safetyState) :
    m.safety = (SafetyManager.safetyMsg
      ((network setup members opens).machine.next s i).nodes.safetyManager i.now).state := by
  obtain ⟨safety, rfl, hy⟩ := output_of_safetyState hclosed hm htopic
  obtain ⟨e, hfired, hy⟩ := mem_stepOutputs_iff.mp hy
  obtain ⟨e', rfl, hpub⟩ := Nodes.mem_step_safetyManager hy
  rw [Network.next_nodes, hfired, Message.safety, (SafetyManager.publication_eq hpub).1]
  rfl

/-- **The main result.** On a safety link that does not reorder and a clock that does not go back,
let the arbiter have seen an MRM state `p`, and let its next step approve an autonomy or policy
candidate. Then the safety state it saw last was published later, by a step `b` that leaves no
source of an MRM active; the MRM state was published with some source active, and every source that
was active then was ended by a step after that publication, up to `b`. -/
theorem autonomy_return (setup : Setup) (members : NodeId → Bool) (opens : Topic → Bool)
    (hclosed : opens .safetyState = false) (h : List Action) (i : Action) (hmono : ClockMonotone h)
    (hfifo : Network.FifoOn .commandArbiter .safetyState h) (p : Packet Time Message)
    (hp : p ∈ (((network setup members opens).machine.after h).link .commandArbiter .safetyState).seen)
    (hmrm : p.msg.safety = SafetyState.stateMrm) (hauto : ApprovesAutonomy setup members opens h i) :
    ∃ pre a mid b post q, h = pre ++ a :: (mid ++ b :: post) ∧
      (network setup members opens).PublishedBy pre a .commandArbiter .safetyState p ∧
      (network setup members opens).PublishedBy (pre ++ a :: mid) b .commandArbiter .safetyState q ∧
      (((network setup members opens).machine.after h).link .commandArbiter
        .safetyState).seen.getLast? = some q ∧
      (q.msg.safety = SafetyState.stateOk ∨ q.msg.safety = SafetyState.stateWarn) ∧
      (∃ source, ((network setup members opens).machine.after
        (pre ++ [a])).nodes.safetyManager.Raises a.now source) ∧
      (∀ source, ¬((network setup members opens).machine.after
        (pre ++ a :: mid ++ [b])).nodes.safetyManager.Raises b.now source) ∧
      ∀ source, ((network setup members opens).machine.after
          (pre ++ [a])).nodes.safetyManager.Raises a.now source →
        ∃ m₁ j m₂, mid ++ [b] = m₁ ++ j :: m₂ ∧ EndsSource setup members opens source
          ((network setup members opens).machine.after (pre ++ a :: m₁)) j := by
  obtain ⟨lane, msg, receivedAt, -, hadm⟩ := hauto.admitted
  obtain ⟨safety, hlatest, hstate⟩ := hadm.safety
  rw [commandArbiter_safety] at hlatest
  obtain ⟨q, hlast, hq⟩ := Option.bind_eq_some_iff.mp hlatest
  have hqstate : q.msg.safety = SafetyState.stateOk ∨ q.msg.safety = SafetyState.stateWarn := by
    rw [Message.safety_of_safetyMsg hq]
    exact List.mem_pair.mp hstate
  obtain ⟨pre, a, post, hsplit, hpubp, -⟩ :=
    (network setup members opens).exists_published (List.mem_append_left _ hp)
  obtain ⟨pre', b, post', hsplit', hpubq, -⟩ :=
    (network setup members opens).exists_published
      (List.mem_append_left _ (List.mem_of_getLast? hlast))
  have hpsafety := safetyState_of_emitted hclosed hpubp.emitted hpubp.topic
  have hqsafety := safetyState_of_emitted hclosed hpubq.emitted hpubq.topic
  rw [← Machine.after_concat] at hpsafety hqsafety
  have hle : p.serial ≤ q.serial :=
    ((network setup members opens).inOrder hfifo).le_last hp hlast
  rcases hpubp.later_or_same _ hpubq (hsplit.symm.trans hsplit') hle with ⟨rfl, rfl⟩ |
    ⟨mid, rfl, rfl⟩
  · -- one step does not publish two different safety states
    rw [← hqsafety, hmrm] at hpsafety
    rw [← hpsafety] at hqstate
    exact absurd hqstate (by decide)
  · -- the MRM flag is set in the state published first, and not in the one published last
    have hactive : ∃ source, ((network setup members opens).machine.after
        (pre ++ [a])).nodes.safetyManager.Raises a.now source := by
      rw [hmrm] at hpsafety
      exact SafetyManager.exists_raises_of_mrm hpsafety.symm
    have hquiet : ∀ source, ¬((network setup members opens).machine.after
        (pre ++ a :: mid ++ [b])).nodes.safetyManager.Raises b.now source := by
      rw [hqsafety] at hqstate
      exact SafetyManager.not_raises_of_allowed hqstate
    refine ⟨pre, a, mid, b, post', q, hsplit, hpubp, hpubq, hlast, hqstate, hactive, hquiet, ?_⟩
    intro source hraises
    rcases raises_until hraises (mid ++ [b]) with hstill | ⟨m₁, j, m₂, hmid, hends⟩
    · -- what is still active at `b`'s state is active at its clock reading, too
      rw [hsplit] at hmono
      have hage : a.now ≤ b.now := hmono.le_of_cons (List.mem_append_right mid List.mem_cons_self)
      have hlate := hstill.mono hage
      have hrun : pre ++ [a] ++ (mid ++ [b]) = pre ++ a :: mid ++ [b] := by simp
      rw [hrun] at hlate
      exact absurd hlate (hquiet source)
    · refine ⟨m₁, j, m₂, hmid, ?_⟩
      rw [List.append_assoc, List.singleton_append] at hends
      exact hends

end Network

/-! ## A return without an operator -/

/-- The safety manager, the mode manager and the arbiter. -/
def returnNodes (n : NodeId) : Bool := n ∈ [.safetyManager, .modeManager, .commandArbiter]

/-- The topics on which the three nodes do not publish. -/
def returnOpens (t : Topic) : Bool :=
  t ∉ [.safetyState, .mrmState, .modeState, .approvedCmd, .arbitrationState]

/-- The output answers an accepted `clear_mrm`, `mode/set` or takeover request. -/
def Output.isOperatorAction : Output → Bool
  | .safetyManager (.clearResponse response) => response.accepted
  | .modeManager (.setModeResponse response) => response.accepted
  | .modeManager (.takeoverResponse response) => response.accepted
  | _ => false

/-- The accepted requests of operators along `k`, when it continues the run `h`. -/
def operatorActions (setup : Setup) (h k : List Action) : List Output :=
  ((network setup returnNodes returnOpens).machine.outputsFrom
    ((network setup returnNodes returnOpens).machine.after h) k).flatMap fun outputs =>
      (outputs.getD []).filter Output.isOperatorAction

/-- The hardware heartbeat is required. -/
def returnSetup : Setup := { safetyManager := { requireHardwareHeartbeat := true } }

/-- The way into `AUTONOMY`, as far as the safety manager and the arbiter know of it. -/
def intoAutonomy : List Action :=
  [⟨0, .act (.safetyManager .publishState)⟩,
    ⟨0, .deliver .modeManager .safetyState 0⟩,
    ⟨0, .deliver .commandArbiter .safetyState 0⟩,
    ⟨0, .act (.modeManager (.setMode { requestedMode := ModeState.modeAutonomy }))⟩,
    ⟨0, .deliver .safetyManager .modeState 0⟩,
    ⟨0, .deliver .commandArbiter .modeState 0⟩]

/-- The heartbeat comes in, and with it a safety state that allows motion and a candidate. -/
def heartbeatReturns : List Action :=
  [⟨0, .inject (.hardwareHeartbeat {})⟩,
    ⟨0, .deliver .safetyManager .hardwareHeartbeat 0⟩,
    ⟨0, .act (.safetyManager .publishState)⟩,
    ⟨0, .deliver .commandArbiter .safetyState 0⟩,
    ⟨0, .inject (.candidate .autonomy {})⟩,
    ⟨0, .deliver .commandArbiter (.candidate .autonomy) 0⟩]

/-- The run: in `AUTONOMY` without a heartbeat, the safety manager publishes an MRM state, the
arbiter sees it, and the heartbeat returns. -/
def returnRun : List Action :=
  intoAutonomy ++ ⟨0, .act (.safetyManager .publishState)⟩ ::
    ⟨0, .deliver .commandArbiter .safetyState 0⟩ :: heartbeatReturns

/-- Each delivery of the run picks the oldest packet in flight. -/
theorem fifo_returnRun : Network.Fifo returnRun := by
  simp [Network.Fifo, Label.InOrder, returnRun, intoAutonomy, heartbeatReturns]

/-- The packet with the MRM state of that run. -/
def returnPacket : Packet Time Message where
  serial := 1
  sentAt := 0
  msg := .safetyState
    { header := { stamp := 0, frameId := "mock_001" }
      robotId := "mock_001"
      state := SafetyState.stateMrm
      mrmActive := true
      activeWarnings := ["minimal_risk_maneuver_active", "hardware_heartbeat_missing"] }

/-- It was published by the step after `intoAutonomy`. -/
theorem publishedBy_returnPacket :
    (network returnSetup returnNodes returnOpens).PublishedBy intoAutonomy
      ⟨0, .act (.safetyManager .publishState)⟩ .commandArbiter .safetyState returnPacket where
  low := by decide
  high := by decide
  sentAt := rfl
  emitted := by decide
  topic := rfl

/-- The run approves an autonomy candidate. -/
theorem approvesAutonomy_returnRun :
    ApprovesAutonomy returnSetup returnNodes returnOpens returnRun
      ⟨0, .act (.commandArbiter .tick)⟩ :=
  ⟨rfl, _, rfl, by decide⟩

/-- The MRM of that run had the hardware watchdog for a source, and the heartbeat ended it. -/
theorem autonomy_return_heartbeat :
    ∃ pre a mid b post, returnRun = pre ++ a :: (mid ++ b :: post) ∧
      ∃ source m₁ j m₂, mid ++ [b] = m₁ ++ j :: m₂ ∧
        EndsSource returnSetup returnNodes returnOpens source
          ((network returnSetup returnNodes returnOpens).machine.after (pre ++ a :: m₁)) j := by
  obtain ⟨pre, a, mid, b, post, q, hsplit, -, -, -, -, ⟨source, hraises⟩, -, hended⟩ :=
    autonomy_return returnSetup returnNodes returnOpens (by decide) returnRun
      ⟨0, .act (.commandArbiter .tick)⟩ (by decide) (fifo_returnRun.on _ _) returnPacket
      (List.mem_cons_of_mem _ List.mem_cons_self) rfl approvesAutonomy_returnRun
  exact ⟨pre, a, mid, b, post, hsplit, source, hended source hraises⟩

/-- **A return without an operator.** In `AUTONOMY`, the arbiter is handed the MRM state that a
missing hardware heartbeat calls for; the heartbeat comes in, and the next tick approves an autonomy
candidate, with no accepted request after the MRM. -/
theorem not_autonomy_lockout :
    ¬∀ (setup : Setup) (pre mid post : List Action) (a d i : Action) (p : Packet Time Message),
      Network.Fifo (pre ++ a :: (mid ++ d :: post)) →
      ClockMonotone (pre ++ a :: (mid ++ d :: post)) →
      (network setup returnNodes returnOpens).PublishedBy pre a .commandArbiter .safetyState p →
      p.msg.safety = SafetyState.stateMrm →
      d.event = .deliver .commandArbiter .safetyState 0 →
      (((network setup returnNodes returnOpens).machine.after (pre ++ a :: mid)).link .commandArbiter
        .safetyState).pending.head? = some p →
      ((network setup returnNodes returnOpens).machine.after
        (pre ++ a :: mid)).nodes.commandArbiter.activeMode ∈
          [ModeState.modeAutonomy, ModeState.modeAiPolicy] →
      operatorActions setup (pre ++ [a]) (mid ++ d :: post) = [] →
      ¬ApprovesAutonomy setup returnNodes returnOpens (pre ++ a :: (mid ++ d :: post)) i := by
  intro hall
  exact hall returnSetup intoAutonomy [] heartbeatReturns
    ⟨0, .act (.safetyManager .publishState)⟩ ⟨0, .deliver .commandArbiter .safetyState 0⟩
    ⟨0, .act (.commandArbiter .tick)⟩ returnPacket fifo_returnRun (by decide) publishedBy_returnPacket
    rfl rfl rfl (by decide) (by decide) approvesAutonomy_returnRun

end HumaWare.Runtime
