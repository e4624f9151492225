import Mathlib.Tactic.Ring
import HumaWare.CommandArbiter.Gate
import HumaWare.HardwareAdapter.Gate
import HumaWare.LocomotionAdapter.Motion
import HumaWare.Runtime.Network

/-! # Where a motion comes from, and how old it is

A command that the hardware adapter applies, and a velocity that the locomotion adapter reports, is
the last approved command that the adapter received. That one was published by a tick of the
arbiter, which clamped a candidate; and the candidate was fresh then, the message no older than the
network's delay when it arrived, and its arrival fresh for the adapter. The three ages add up.

* **`ApprovedFrom`** — the arbiter's approval of a candidate, as a step of the run;
* **`approvedFrom_of_received`** — an approved command that reached an adapter was approved at most
  the delay before;
* **`motion_provenance`** — the main result. -/

namespace HumaWare.Runtime

open Reactive
open CommandArbiter (Lane Admitted clampTwist)

/-- The adapters that act on approved commands. -/
def adapters : List NodeId := [.hardwareAdapter, .locomotionAdapter]

section Network

variable (setup : Setup) (members : NodeId → Bool) (opens : Topic → Bool)

/-- Every approved command that reaches an adapter does so within `delay` of its publication. -/
def Timely (delay : Duration) (h : List Action) : Prop :=
  ∀ pre j post n k p l, h = pre ++ j :: post → n ∈ adapters → j.event = .deliver n .approvedCmd k →
    (((network setup members opens).machine.after pre).link n .approvedCmd).take? k = some (p, l) →
    j.now - p.sentAt ≤ delay

/-- **A candidate was approved.** At some step of the run `h`, read at `approvedAt`, the arbiter's
timer found its gate open for the candidate that it had received last on `lane`, at `receivedAt`:
the last safety state was OK or WARN, the last mode that of `lane`, and the candidate at most
`timeout` old. `twist` is its clamp. -/
def ApprovedFrom (h : List Action) (twist : Twist) (lane : Lane) (receivedAt approvedAt : Time)
    (timeout : Duration) : Prop :=
  ∃ pre a post candidate, h = pre ++ a :: post ∧ a.now = approvedAt ∧
    (network setup members opens).fired ((network setup members opens).machine.after pre) a.event =
      some (.commandArbiter .tick) ∧
    Admitted setup.commandArbiter (commandArbiterHistory setup members opens pre) approvedAt lane
      candidate receivedAt ∧
    let params := CommandArbiter.paramsIn setup.commandArbiter
      (commandArbiterHistory setup members opens pre)
    timeout = params.commandTimeout ∧
      twist = clampTwist candidate.twist params.maxLinearVelocityMps params.maxAngularVelocityRadps

variable {setup members opens}

/-- An approved candidate was fresh when it was approved. -/
theorem ApprovedFrom.fresh {h : List Action} {twist : Twist} {lane : Lane} {receivedAt approvedAt : Time}
    {timeout : Duration}
    (happroved : ApprovedFrom setup members opens h twist lane receivedAt approvedAt timeout) :
    approvedAt - receivedAt ≤ timeout := by
  obtain ⟨pre, a, post, candidate, -, -, -, hadm, htimeout, -⟩ := happroved
  rw [htimeout]
  exact hadm.fresh

/-- A run whose clock readings span no more than `delay` is timely. -/
theorem timely_of_span {delay : Duration} {h : List Action}
    (hspan : ∀ a ∈ h, ∀ b ∈ h, b.now - a.now ≤ delay) : Timely setup members opens delay h := by
  rintro pre j post n k p l rfl - - htake
  obtain ⟨pre', a, post', rfl, hsent, -⟩ := (network setup members opens).packet_emitted
    (List.mem_append_right _ (Link.take?_mem htake))
  rw [hsent]
  exact hspan a (by simp) j (by simp)

/-- The callback of an adapter that receives an approved command. -/
def receivesApproved (msg : TwistStamped) (e : Event) : Prop :=
  e = .hardwareAdapter (.approvedCommand msg) ∨ e = .locomotionAdapter (.approvedCmd msg)

/-- The adapters are handed approved commands by their subscription, and by nothing else. -/
theorem subscription_receivesApproved {n : NodeId} {m : Message} {e : Event} {msg : TwistStamped}
    (hsub : subscription n m = some e) (he : receivesApproved msg e) :
    n ∈ adapters ∧ m = .approvedCmd msg := by
  obtain ⟨rfl, hmessage⟩ := subscription_eq_some_iff.mp hsub
  rcases he with rfl | rfl
  · exact ⟨List.mem_cons_self, (Option.some.inj hmessage).symm⟩
  · exact ⟨List.mem_cons_of_mem _ List.mem_cons_self, (Option.some.inj hmessage).symm⟩

/-- **An approved command other than zero** comes from a tick that admits a candidate, and is its
clamp. -/
theorem admitted_of_approvedCmd (hclosed : opens .approvedCmd = false) {pre : List Action} {a : Action}
    {command : TwistStamped} (hm : .approvedCmd command ∈ (network setup members opens).emitted
      ((network setup members opens).machine.after pre) a) (hne : command.twist ≠ 0) :
    (network setup members opens).fired ((network setup members opens).machine.after pre) a.event =
        some (.commandArbiter .tick) ∧
      ∃ lane candidate receivedAt,
        CommandArbiter.Admitted setup.commandArbiter (commandArbiterHistory setup members opens pre)
          a.now lane candidate receivedAt ∧
        command.twist = CommandArbiter.clampTwist candidate.twist
          (CommandArbiter.paramsIn setup.commandArbiter
            (commandArbiterHistory setup members opens pre)).maxLinearVelocityMps
          (CommandArbiter.paramsIn setup.commandArbiter
            (commandArbiterHistory setup members opens pre)).maxAngularVelocityRadps := by
  obtain ⟨command', heq, hfired, htick⟩ := tick_of_approvedCmd hclosed hm rfl
  obtain rfl := Message.approvedCmd.inj heq
  rw [commandArbiter_after_run] at htick
  rcases CommandArbiter.approved_cases htick with hadmitted | ⟨-, hzero⟩
  · exact ⟨hfired, hadmitted⟩
  · exact absurd hzero hne

/-- **An approved command that reached an adapter**, and is not the zero stop, is the clamp of a
candidate that the arbiter approved at most the delay before. -/
theorem approvedFrom_of_received (hclosed : opens .approvedCmd = false) {delay : Duration}
    {h : List Action} (htimely : Timely setup members opens delay h) {x : Stamped Time Event}
    (hx : x ∈ (network setup members opens).events h) {msg : TwistStamped}
    (hmsg : receivesApproved msg x.event) (hne : msg.twist ≠ 0) :
    ∃ lane receivedAt approvedAt timeout,
      ApprovedFrom setup members opens h msg.twist lane receivedAt approvedAt timeout ∧
        x.now - approvedAt ≤ delay := by
  have hacts : ¬(network setup members opens).acts x.event := by
    rcases hmsg with h | h <;> rw [h] <;> exact Bool.false_ne_true
  obtain ⟨pre, j, post, n, t, k, p, l, rfl, hnow, hlabel, htake, htopic, hreceive, pre', a, post', rfl,
    hsent, hemitted⟩ := (network setup members opens).exists_emitted hx hacts
  obtain ⟨hn, hpacket⟩ := subscription_receivesApproved (receive_eq_some_iff.mp hreceive).2 hmsg
  rw [network_topic, hpacket] at htopic
  obtain rfl : Topic.approvedCmd = t := htopic
  -- the delivery was timely
  have hdelay : x.now - a.now ≤ delay := by
    rw [← hnow, ← hsent]
    exact htimely _ j post n k p l rfl hn hlabel htake
  rw [hpacket] at hemitted
  obtain ⟨hfired, lane, candidate, receivedAt, hadm, htwist⟩ :=
    admitted_of_approvedCmd hclosed hemitted hne
  exact ⟨lane, receivedAt, a.now, _, ⟨pre', a, post' ++ j :: post, candidate, by simp, rfl, hfired,
    hadm, rfl, htwist⟩, hdelay⟩

/-- What the hardware adapter applies is an approved command that it received, fresh for it. -/
theorem received_of_applied {h : List Action} {i : Action} {command : TwistStamped} {reason : String}
    (happly : .hardwareAdapter (.applyToHardware command reason) ∈
      stepOutputs setup members opens ((network setup members opens).machine.after h) i) :
    ∃ x ∈ (network setup members opens).events h, receivesApproved command x.event ∧
      i.now - x.now ≤ ((network setup members opens).machine.after
        h).nodes.hardwareAdapter.params.approvedCommandTimeout := by
  obtain ⟨e, -, hout⟩ := mem_stepOutputs_iff.mp happly
  obtain ⟨e', -, heffect⟩ := Nodes.mem_step_hardwareAdapter hout
  have htick := (HardwareAdapter.step_applies heffect).2
  rw [Network.nodes_after, network_nodes, hardwareAdapter_after] at htick ⊢
  -- the gate's last condition: the command is the last one received, and fresh
  obtain ⟨-, -, -, -, receivedAt, hlatest, hfresh⟩ :=
    HardwareAdapter.tick_applies_after_iff.mp ⟨reason, htick⟩
  rw [latest_filterMap] at hlatest
  obtain ⟨⟨now, event⟩, hx, hstream⟩ := exists_mem_of_latest hlatest
  refine ⟨⟨now, event⟩, hx, ?_⟩
  obtain ⟨input, hinput, hstream⟩ := Option.bind_eq_some_iff.mp hstream
  cases event with
  | hardwareAdapter event =>
    obtain rfl := Option.some.inj hinput
    cases event with
    | approvedCommand msg =>
      obtain ⟨rfl, rfl⟩ := Prod.mk.inj (Option.some.inj hstream)
      rw [HardwareAdapter.params_after]
      exact ⟨Or.inl rfl, hfresh⟩
    | safetyState | mrmState | modeState | arbitrationState | tick | publishHeartbeat |
      setParameters => exact absurd hstream (by simp [HardwareAdapter.approvedStream])
  | safetyManager | modeManager | commandArbiter | nav2Bridge | locomotionAdapter | skillServer =>
    exact absurd hinput (by simp [hardwareAdapterInput])

/-- A velocity that the locomotion adapter reports is that of an approved command that it received,
fresh for it. -/
theorem received_of_reported {h : List Action} {i : Action} {msg : LocomotionState}
    (hreport : .locomotionAdapter (.locomotionState msg) ∈
      stepOutputs setup members opens ((network setup members opens).machine.after h) i)
    (hne : msg.commandedLinearVelocityMps ≠ 0 ∨ msg.commandedAngularVelocityRadps ≠ 0) :
    ∃ x ∈ (network setup members opens).events h, ∃ command, receivesApproved command x.event ∧
      command.twist ≠ 0 ∧ msg.commandedLinearVelocityMps = command.twist.linear.x ∧
      msg.commandedAngularVelocityRadps = command.twist.angular.z ∧
      i.now - x.now ≤ ((network setup members opens).machine.after
        h).nodes.locomotionAdapter.params.commandTimeout := by
  obtain ⟨e, -, hout⟩ := mem_stepOutputs_iff.mp hreport
  obtain ⟨e', -, hpub⟩ := Nodes.mem_step_locomotionAdapter hout
  obtain ⟨-, hmsg⟩ := LocomotionAdapter.step_publications hpub
  rw [Network.nodes_after, network_nodes, locomotionAdapter_after] at hmsg ⊢
  generalize hhistory : ((network setup members opens).events h).filterMap locomotionAdapterInput =
    history at hmsg ⊢
  -- the tick went on moving, so the last command is fresh
  have hmoving : (LocomotionAdapter.updateStateForRuntime
      ((LocomotionAdapter.machine setup.locomotionAdapter).after history) i.now).Moving := by
    rw [hmsg] at hne
    exact Or.inr (Or.inr hne)
  obtain ⟨-, -, -, receivedAt, htime, hfresh⟩ := (LocomotionAdapter.moving_update_iff
    (LocomotionAdapter.lastCommandTime_isSome_of_moving _ _) _).mp hmoving
  -- the velocity reported is the one held, and that one is the last command's
  obtain ⟨command, receivedAt', hlatest, hlinear, hangular⟩ :
      ∃ command receivedAt',
        latest LocomotionAdapter.approvedStream history = some (command, receivedAt') ∧
        msg.commandedLinearVelocityMps = command.twist.linear.x ∧
        msg.commandedAngularVelocityRadps = command.twist.angular.z := by
    rw [hmsg] at hne ⊢
    rcases LocomotionAdapter.velocity_update
        ((LocomotionAdapter.machine setup.locomotionAdapter).after history) i.now with
      ⟨hlinear, hangular⟩ | ⟨-, hlinear, hangular⟩
    · rcases hne with hne | hne
      · exact absurd hlinear hne
      · exact absurd hangular hne
    · rw [LocomotionAdapter.stateMsg, hlinear, hangular] at hne ⊢
      rcases LocomotionAdapter.velocity_after setup.locomotionAdapter history with
        ⟨hlinear, hangular⟩ | ⟨command, receivedAt', hlatest, hlinear, hangular⟩
      · rcases hne with hne | hne
        · exact absurd hlinear hne
        · exact absurd hangular hne
      · exact ⟨command, receivedAt', hlatest, hlinear, hangular⟩
  have hcommand : command.twist ≠ 0 := by
    intro hzero
    rw [hlinear, hangular, hzero] at hne
    exact hne.elim (fun h => h rfl) (fun h => h rfl)
  rw [LocomotionAdapter.lastCommandTime_after, hlatest, Option.map_some, Option.some.injEq] at htime
  obtain rfl : receivedAt' = receivedAt := htime
  -- and what the adapter received last was an event of the run
  rw [← hhistory, latest_filterMap] at hlatest
  obtain ⟨⟨now, event⟩, hx, hstream⟩ := exists_mem_of_latest hlatest
  refine ⟨⟨now, event⟩, hx, command, ?_⟩
  obtain ⟨input, hinput, hstream⟩ := Option.bind_eq_some_iff.mp hstream
  cases event with
  | locomotionAdapter event =>
    obtain rfl := Option.some.inj hinput
    cases event with
    | approvedCmd msg =>
      obtain ⟨rfl, rfl⟩ := Prod.mk.inj (Option.some.inj hstream)
      exact ⟨Or.inr rfl, hcommand, hlinear, hangular, hfresh⟩
    | modeState | safetyState | tick | setParameters =>
      exact absurd hstream (by simp [LocomotionAdapter.approvedStream])
  | safetyManager | modeManager | commandArbiter | nav2Bridge | hardwareAdapter | skillServer =>
    exact absurd hinput (by simp [locomotionAdapterInput])

end Network

/-- Three ages in a row add up. -/
theorem age_le {receivedAt approvedAt arrivedAt now : Time} {timeout delay timeout' : Duration}
    (hcandidate : approvedAt - receivedAt ≤ timeout) (hdelay : arrivedAt - approvedAt ≤ delay)
    (hcommand : now - arrivedAt ≤ timeout') : now - receivedAt ≤ timeout + delay + timeout' :=
  calc now - receivedAt
      = (approvedAt - receivedAt) + (arrivedAt - approvedAt) + (now - arrivedAt) := by ring
    _ ≤ timeout + delay + timeout' := add_le_add (add_le_add hcandidate hdelay) hcommand

/-- **The main result.** Let every approved command reach an adapter within `delay`, or never.
Whenever the hardware adapter applies a command that is not zero, or the locomotion adapter reports
a velocity that is not zero, it is the clamp of one candidate that the arbiter approved earlier in
the run; and that candidate was received at most the arbiter's timeout, the delay and the adapter's
own timeout ago. -/
theorem motion_provenance (setup : Setup) (members : NodeId → Bool) (opens : Topic → Bool)
    (hclosed : opens .approvedCmd = false) (delay : Duration) (h : List Action)
    (htimely : Timely setup members opens delay h) (i : Action) :
    (∀ command reason, .hardwareAdapter (.applyToHardware command reason) ∈
        stepOutputs setup members opens ((network setup members opens).machine.after h) i →
      command.twist ≠ 0 →
      ∃ lane receivedAt approvedAt timeout,
        ApprovedFrom setup members opens h command.twist lane receivedAt approvedAt timeout ∧
        i.now - receivedAt ≤ timeout + delay + ((network setup members opens).machine.after
          h).nodes.hardwareAdapter.params.approvedCommandTimeout) ∧
    ∀ msg, .locomotionAdapter (.locomotionState msg) ∈
        stepOutputs setup members opens ((network setup members opens).machine.after h) i →
      msg.commandedLinearVelocityMps ≠ 0 ∨ msg.commandedAngularVelocityRadps ≠ 0 →
      ∃ twist lane receivedAt approvedAt timeout,
        ApprovedFrom setup members opens h twist lane receivedAt approvedAt timeout ∧
        msg.commandedLinearVelocityMps = twist.linear.x ∧
        msg.commandedAngularVelocityRadps = twist.angular.z ∧
        i.now - receivedAt ≤ timeout + delay + ((network setup members opens).machine.after
          h).nodes.locomotionAdapter.params.commandTimeout := by
  constructor
  · intro command reason happly hne
    obtain ⟨x, hx, hreceived, hfresh⟩ := received_of_applied happly
    obtain ⟨lane, receivedAt, approvedAt, timeout, happroved, hdelay⟩ :=
      approvedFrom_of_received hclosed htimely hx hreceived hne
    exact ⟨lane, receivedAt, approvedAt, timeout, happroved,
      age_le happroved.fresh hdelay hfresh⟩
  · intro msg hreport hne
    obtain ⟨x, hx, command, hreceived, hcommand, hlinear, hangular, hfresh⟩ :=
      received_of_reported hreport hne
    obtain ⟨lane, receivedAt, approvedAt, timeout, happroved, hdelay⟩ :=
      approvedFrom_of_received hclosed htimely hx hreceived hcommand
    exact ⟨command.twist, lane, receivedAt, approvedAt, timeout, happroved, hlinear, hangular,
      age_le happroved.fresh hdelay hfresh⟩

/-- The arbiter and the two adapters. -/
def motionMembers (n : NodeId) : Bool := n = .commandArbiter ∨ n ∈ adapters

/-- A teleop candidate is approved, and reaches the locomotion adapter. -/
def walkingRun : List Action :=
  [⟨0, .inject (.safetyState { state := SafetyState.stateOk })⟩,
    ⟨0, .inject (.modeState { activeMode := ModeState.modeTeleop })⟩,
    ⟨1, .deliver .commandArbiter .safetyState 0⟩,
    ⟨1, .deliver .commandArbiter .modeState 0⟩,
    ⟨1, .deliver .locomotionAdapter .safetyState 0⟩,
    ⟨1, .deliver .locomotionAdapter .modeState 0⟩,
    ⟨2, .inject (.candidate .teleop { twist := { linear := { x := .fin (1 / 4) } } })⟩,
    ⟨2, .deliver .commandArbiter (.candidate .teleop) 0⟩,
    ⟨3, .act (.commandArbiter .tick)⟩,
    ⟨4, .deliver .locomotionAdapter .approvedCmd 0⟩]

/-- The velocity reported at the end of that run. -/
theorem motion_provenance_walking :
    ∃ twist lane receivedAt approvedAt timeout,
      ApprovedFrom {} motionMembers (fun t => t ≠ .approvedCmd) walkingRun twist lane receivedAt
        approvedAt timeout ∧
      twist.linear.x = .fin (1 / 4) ∧ 5 - receivedAt ≤ timeout + 4 + 750000000 := by
  obtain ⟨-, hreported⟩ := motion_provenance {} motionMembers (fun t => t ≠ .approvedCmd) (by decide) 4
    walkingRun (timely_of_span (by decide)) ⟨5, .act (.locomotionAdapter .tick)⟩
  obtain ⟨twist, lane, receivedAt, approvedAt, timeout, happroved, hlinear, -, hage⟩ :=
    hreported _ List.mem_cons_self (Or.inl (by decide +kernel))
  have htimeout : ((network {} motionMembers fun t => t ≠ .approvedCmd).machine.after
      walkingRun).nodes.locomotionAdapter.params.commandTimeout = 750000000 := by decide +kernel
  rw [htimeout] at hage
  refine ⟨twist, lane, receivedAt, approvedAt, timeout, happroved, ?_, hage⟩
  rw [← hlinear]
  decide +kernel

end HumaWare.Runtime
