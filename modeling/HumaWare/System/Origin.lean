import HumaWare.KeyboardTeleop.Stop
import HumaWare.Nav2Bridge.Report
import HumaWare.Runtime.Provenance
import HumaWare.System.Silence

/-! # Who moved the robot

A command that the hardware adapter applies, and a velocity that the locomotion adapter reports, is
followed back through the whole system: to the arbiter's tick that approved it, to the candidate that
the tick clamped, to the node that published the candidate, and to what made that node publish it. On
the lane of the operator that is a key, pressed at most a key timeout before.

* **`MadeBy`** — what makes a node publish a candidate, lane by lane;
* **`madeBy_of_candidate`** — on closed topics nothing else does;
* **`approval_of_received`** — an approved command in the inbox of an adapter was approved in time;
* **`motion_origin`** — the main result, with the age of the origin;
* **`dead_mans_switch`** — where only the operator may command, a robot that moves has had a key
  pressed lately. -/

namespace HumaWare.System

open Python Reactive
open HumaWare.Runtime (receivesApproved)
open HumaWare.CommandArbiter (Lane Admitted clampTwist)

variable (setup : Setup) (members : NodeId → Bool) (opens : Topic → Bool)

/-! ## The publishers of candidates -/

/-- A motion key was read no more than the key timeout before the reading `now`. -/
def KeyPressed (h : List Action) (now : Time) : Prop :=
  ∃ key keyAt, ⟨keyAt, .keyboardTeleop (.key key)⟩ ∈ (network setup members opens).events h ∧
    KeyboardTeleop.isMotionKey key = true ∧ now - keyAt ≤ setup.keyboardTeleop.keyTimeout

/-- **What makes a node publish a candidate.** The step `b` after `pre` publishes the candidate `msg`
for `lane`: the keyboard node on a key; the Nav2 bridge on the arrival of the navigation command that it
forwards, with its gate open; the skill server on a request that it executes, or a policy provider on a
tick that finds its gate open. -/
def MadeBy (pre : List Action) (b : Action) (msg : TwistStamped) (lane : Lane) : Prop :=
  let s := ((network setup members opens).machine.after pre).nodes
  let fired := (network setup members opens).fired ((network setup members opens).machine.after pre)
    b.event
  match lane with
  | .teleop =>
    .keyboardTeleop (.teleopCmd msg) ∈ stepOutputs setup members opens
        ((network setup members opens).machine.after pre) b ∧
      (msg.twist ≠ 0 → KeyPressed setup members opens pre b.now)
  | .autonomy =>
    ∃ e, fired = some (.runtime (.nav2Bridge e)) ∧
      s.runtime.nav2Bridge.handed ⟨b.now, e⟩ = some msg ∧
      ((network setup members opens).machine.after (pre ++ [b])).nodes.runtime.nav2Bridge.GateOpen b.now
  | .policy =>
    (∃ request executionId,
        fired = some (.runtime (.skillServer (.executeSkill request executionId))) ∧
        s.runtime.skillServer.Executes b.now request msg) ∨
      fired = some (.policyProviderStub .tick) ∧
        s.policyProviderStub.view.GateOpen s.policyProviderStub.params.enabled ∨
      fired = some (.policyProviderScripted .tick) ∧
        s.policyProviderScripted.view.GateOpen s.policyProviderScripted.params.enabled

/-! ### The keyboard -/

/-- The inputs of the keyboard node among the events fired. -/
def keyboardTeleopInput (x : Stamped Time Event) : Option KeyboardTeleop.Input :=
  match x.event with
  | .keyboardTeleop e => some ⟨x.now, e⟩
  | _ => none

/-- The keyboard node runs its own program on its own events. -/
theorem keyboardTeleop_after (h : List Action) :
    ((network setup members opens).machine.after h).nodes.keyboardTeleop =
      (KeyboardTeleop.machine setup.keyboardTeleop).after
        (((network setup members opens).events h).filterMap keyboardTeleopInput) := by
  rw [(network setup members opens).nodes_after, network_nodes]
  refine Component.proj_after_filterMap Nodes.keyboardTeleop keyboardTeleopInput rfl ?_ _
  rintro s ⟨now, event⟩
  cases event <;> rfl

variable {setup members opens}

/-- A command of the keyboard node that is not zero is sent on a recent key. -/
theorem keyPressed_of_command {h : List Action} {i : Action} {msg : TwistStamped}
    (hcommand : .keyboardTeleop (.teleopCmd msg) ∈
      stepOutputs setup members opens ((network setup members opens).machine.after h) i)
    (hne : msg.twist ≠ 0) : KeyPressed setup members opens h i.now := by
  obtain ⟨e, -, hcommand⟩ := mem_stepOutputs_iff.mp hcommand
  obtain ⟨e, rfl, hcommand⟩ := Nodes.mem_step_keyboardTeleop hcommand
  rw [keyboardTeleop_after] at hcommand
  obtain ⟨keyAt, hlast, hage⟩ := KeyboardTeleop.recent_key_of_command hcommand hne
  -- the last motion key of the node is a callback of the run
  rw [latest_filterMap] at hlast
  obtain ⟨⟨now, event⟩, hx, hpicked⟩ := exists_mem_of_latest hlast
  obtain ⟨input, hinput, hkey⟩ := Option.bind_eq_some_iff.mp hpicked
  cases event with
  | keyboardTeleop e =>
    obtain rfl := Option.some.inj hinput
    cases e with
    | key key =>
      obtain ⟨hmotion, hnow⟩ := Option.ite_none_right_eq_some.mp hkey
      obtain rfl := Option.some.inj hnow
      exact ⟨key, _, hx, hmotion, hage⟩
    | publishTick => cases hkey
  | runtime | capabilityRegistry | mockRobot | diagnosticsAggregator | policyProviderStub
  | policyProviderScripted => cases hinput

/-- **On a closed topic every candidate is made by a node.** -/
theorem madeBy_of_candidate {lane : Lane} (hclosed : opens (.runtime (.candidate lane)) = false)
    {pre : List Action} {b : Action} {msg : TwistStamped}
    (hm : .runtime (.candidate lane msg) ∈ (network setup members opens).emitted
      ((network setup members opens).machine.after pre) b) :
    MadeBy setup members opens pre b msg lane := by
  obtain ⟨x, hx, hmessage⟩ := exists_output hclosed hm rfl
  have hfired := mem_stepOutputs_iff.mp hx
  rcases x with (x | x | x | x | x | x | x) | x | x | x | x | x | x
  all_goals cases x <;> simp only [Output.message, Runtime.Output.message, Option.map_some,
    Option.map_none, Option.some.injEq, Message.runtime.injEq, Runtime.Message.candidate.injEq,
    reduceCtorEq] at hmessage
  all_goals obtain ⟨rfl, rfl⟩ := hmessage
  case runtime.nav2Bridge.command =>
    obtain ⟨e, hfired, hpub⟩ := hfired
    obtain ⟨e, rfl, hpub⟩ := Nodes.mem_step_runtime hpub
    obtain ⟨e, rfl, hpub⟩ := Runtime.Nodes.mem_step_nav2Bridge hpub
    obtain ⟨hhanded, hopen⟩ := Nav2Bridge.step_forwards_iff.mp hpub
    refine ⟨e, hfired, hhanded, ?_⟩
    rw [Machine.after_concat, Network.next_nodes, hfired]
    exact hopen
  case runtime.skillServer.policyCmd =>
    obtain ⟨e, hfired, hpub⟩ := hfired
    obtain ⟨e, rfl, hpub⟩ := Nodes.mem_step_runtime hpub
    obtain ⟨e, rfl, hpub⟩ := Runtime.Nodes.mem_step_skillServer hpub
    obtain ⟨request, executionId, rfl, hexecutes⟩ := SkillServer.executes_of_policyCmd hpub
    exact Or.inl ⟨request, executionId, hfired, hexecutes⟩
  case keyboardTeleop.teleopCmd => exact ⟨hx, keyPressed_of_command hx⟩
  case policyProviderStub.policyCmd =>
    obtain ⟨e, hfired, hpub⟩ := hfired
    obtain ⟨e, rfl, hpub⟩ := Nodes.mem_step_policyProviderStub hpub
    obtain ⟨rfl, hopen⟩ := PolicyProvider.Stub.gate_of_policyCmd hpub
    exact Or.inr (Or.inl ⟨hfired, hopen⟩)
  case policyProviderScripted.policyCmd =>
    obtain ⟨e, hfired, hpub⟩ := hfired
    obtain ⟨e, rfl, hpub⟩ := Nodes.mem_step_policyProviderScripted hpub
    obtain ⟨rfl, hopen⟩ := PolicyProvider.Scripted.gate_of_policyCmd hpub
    exact Or.inr (Or.inr ⟨hfired, hopen⟩)

/-! ## The runtime's view -/

/-- The state of the runtime's nodes is that of the view. -/
theorem runtime_after (h : List Action) :
    ((network setup members opens).machine.after h).nodes.runtime =
      ((Runtime.network setup.runtime (fun n => members (.runtime n))
        (runtimeOpens opens)).machine.after ((subsystem setup members opens).view h)).nodes :=
  ((subsystem setup members opens).agrees_view h).nodes

/-- An output of a node of the runtime is one that the runtime makes in the view. -/
theorem output_view {h : List Action} {i : Action} {x : Runtime.Output}
    (hx : .runtime x ∈ stepOutputs setup members opens
      ((network setup members opens).machine.after h) i) :
    ∃ l, x ∈ Runtime.stepOutputs setup.runtime (fun n => members (.runtime n)) (runtimeOpens opens)
      ((Runtime.network setup.runtime (fun n => members (.runtime n))
        (runtimeOpens opens)).machine.after ((subsystem setup members opens).view h)) ⟨i.now, l⟩ := by
  obtain ⟨e, hfired, hx⟩ := mem_stepOutputs_iff.mp hx
  obtain ⟨e, rfl, hx⟩ := Nodes.mem_step_runtime hx
  obtain ⟨l, -, -, hfired⟩ := (subsystem setup members opens).view_concat_of_fired hfired
  refine ⟨l, Runtime.mem_stepOutputs_iff.mpr ⟨e, hfired, ?_⟩⟩
  rw [← runtime_after]
  exact hx

/-! ## The approval -/

variable (setup members opens) in
/-- **The arbiter's approval.** The step `a` in the state `s` is a tick of the arbiter that approves
the clamp `twist` of the candidate, in the mode of its lane and under a safety state that permits
it. -/
structure Approves (s : NetworkState) (a : Action) (lane : Lane) (candidate twist : Twist) : Prop where
  tick : (network setup members opens).fired s a.event = some (.runtime (.commandArbiter .tick))
  mode : s.nodes.runtime.commandArbiter.activeMode = lane.requiredMode
  safety : s.nodes.runtime.commandArbiter.safetyState ∈ [SafetyState.stateOk, SafetyState.stateWarn]
  clamped : twist = clampTwist candidate s.nodes.runtime.commandArbiter.params.maxLinearVelocityMps
    s.nodes.runtime.commandArbiter.params.maxAngularVelocityRadps

/-- The arbiter runs its own program on what the runtime sees of the run. -/
theorem commandArbiter_after (h : List Action) :
    ((network setup members opens).machine.after h).nodes.runtime.commandArbiter =
      (CommandArbiter.machine setup.runtime.commandArbiter).after
        (Runtime.commandArbiterHistory setup.runtime (fun n => members (.runtime n))
          (runtimeOpens opens) ((subsystem setup members opens).view h)) := by
  rw [← Runtime.commandArbiter_after_run, runtime_after]

/-- An approved command on the closed topic is one that the arbiter's timer published. -/
theorem tick_of_approvedCmd (hclosed : opens (.runtime .approvedCmd) = false) {s : NetworkState}
    {i : Action} {command : TwistStamped}
    (hm : .runtime (.approvedCmd command) ∈ (network setup members opens).emitted s i) :
    (network setup members opens).fired s i.event = some (.runtime (.commandArbiter .tick)) ∧
      .approved command ∈ CommandArbiter.tick s.nodes.runtime.commandArbiter i.now := by
  obtain ⟨x, hx, hmessage⟩ := exists_output hclosed hm rfl
  have hfired := mem_stepOutputs_iff.mp hx
  rcases x with (x | x | x | x | x | x | x) | x | x | x | x | x | x
  all_goals cases x <;> simp only [Output.message, Runtime.Output.message, Option.map_some,
    Option.map_none, Option.some.injEq, Message.runtime.injEq, Runtime.Message.approvedCmd.injEq,
    reduceCtorEq] at hmessage
  subst hmessage
  obtain ⟨e, hfired, hpub⟩ := hfired
  obtain ⟨e, rfl, hpub⟩ := Nodes.mem_step_runtime hpub
  obtain ⟨e, rfl, hpub⟩ := Runtime.Nodes.mem_step_commandArbiter hpub
  obtain ⟨rfl, htick⟩ := CommandArbiter.step_publications hpub
  exact ⟨hfired, htick⟩

/-- What the hardware adapter applies it received, fresh for it. -/
theorem received_of_applied {h : List Action} {i : Action} {command : TwistStamped} {reason : String}
    (happly : .runtime (.hardwareAdapter (.applyToHardware command reason)) ∈
      stepOutputs setup members opens ((network setup members opens).machine.after h) i) :
    ∃ x ∈ (Runtime.network setup.runtime (fun n => members (.runtime n))
        (runtimeOpens opens)).events ((subsystem setup members opens).view h),
      receivesApproved command x.event ∧
      i.now - ((network setup members opens).machine.after
        h).nodes.runtime.hardwareAdapter.params.approvedCommandTimeout ≤ x.now := by
  obtain ⟨l, happly⟩ := output_view happly
  obtain ⟨x, hx, hreceived, hfresh⟩ := Runtime.received_of_applied happly
  refine ⟨x, hx, hreceived, ?_⟩
  rw [runtime_after]
  exact sub_le_comm.mp hfresh

/-- A velocity that the locomotion adapter reports is that of a command that it received, fresh for
it. -/
theorem received_of_reported {h : List Action} {i : Action} {msg : LocomotionState}
    (hreport : .runtime (.locomotionAdapter (.locomotionState msg)) ∈
      stepOutputs setup members opens ((network setup members opens).machine.after h) i)
    (hne : msg.commandedLinearVelocityMps ≠ 0 ∨ msg.commandedAngularVelocityRadps ≠ 0) :
    ∃ x ∈ (Runtime.network setup.runtime (fun n => members (.runtime n))
        (runtimeOpens opens)).events ((subsystem setup members opens).view h),
      ∃ command, receivesApproved command x.event ∧ command.twist ≠ 0 ∧
      msg.commandedLinearVelocityMps = command.twist.linear.x ∧
      msg.commandedAngularVelocityRadps = command.twist.angular.z ∧
      i.now - ((network setup members opens).machine.after
        h).nodes.runtime.locomotionAdapter.params.commandTimeout ≤ x.now := by
  obtain ⟨l, hreport⟩ := output_view hreport
  obtain ⟨x, hx, command, hreceived, hcommand, hlinear, hangular, hfresh⟩ :=
    Runtime.received_of_reported hreport hne
  refine ⟨x, hx, command, hreceived, hcommand, hlinear, hangular, ?_⟩
  rw [runtime_after]
  exact sub_le_comm.mp hfresh

/-- **An approved command in the inbox of an adapter** was approved no more than the delay before it
arrived, unless it is the zero stop. -/
theorem approval_of_received (hclosed : opens (.runtime .approvedCmd) = false) {D : Duration}
    {h : List Action} (harrives : ∀ n ∈ Runtime.adapters, (network setup members opens).ArrivesWithin
      (.runtime n) (.runtime .approvedCmd) D h) {x : Stamped Time Runtime.Event}
    (hx : x ∈ (Runtime.network setup.runtime (fun n => members (.runtime n))
      (runtimeOpens opens)).events ((subsystem setup members opens).view h))
    {command : TwistStamped} (hcommand : receivesApproved command x.event)
    (hne : command.twist ≠ 0) :
    ∃ pre a post lane candidate receivedAt, h = pre ++ a :: post ∧
      Approves setup members opens ((network setup members opens).machine.after pre) a lane
        candidate.twist command.twist ∧
      Admitted setup.runtime.commandArbiter (Runtime.commandArbiterHistory setup.runtime
        (fun n => members (.runtime n)) (runtimeOpens opens)
        ((subsystem setup members opens).view pre)) a.now lane candidate receivedAt ∧
      x.now ≤ a.now + D := by
  obtain ⟨hn, hmessage⟩ : x.event.node ∈ Runtime.adapters ∧
      Event.message (.runtime x.event) = some (.runtime (.approvedCmd command)) := by
    rcases hcommand with hevent | hevent <;> rw [hevent]
    · exact ⟨List.mem_cons_self, rfl⟩
    · exact ⟨List.mem_cons_of_mem _ List.mem_cons_self, rfl⟩
  obtain ⟨pre, a, post, rfl, hm, hage⟩ := (callbacks setup members opens).exists_sent
    ((subsystem setup members opens).mem_events_view hx) hmessage (harrives _ hn)
  obtain ⟨hfired, htick⟩ := tick_of_approvedCmd hclosed hm
  rw [commandArbiter_after] at htick
  rcases CommandArbiter.approved_cases htick with ⟨lane, candidate, receivedAt, hadm, htwist⟩ |
    ⟨-, hzero⟩
  · refine ⟨pre, a, post, lane, candidate, receivedAt, rfl, ⟨hfired, ?_, ?_, ?_⟩, hadm, hage⟩
    · rw [commandArbiter_after, CommandArbiter.activeMode_after, hadm.mode]
      rfl
    · obtain ⟨safety, hlast, hallowed⟩ := hadm.safety
      rw [commandArbiter_after, CommandArbiter.safetyState_after, hlast]
      exact hallowed
    · rw [commandArbiter_after, CommandArbiter.params_after]
      exact htwist
  · exact absurd hzero hne

/-- **An admitted candidate** was made by a node no more than the delay before it arrived. -/
theorem madeBy_of_admitted {lane : Lane} (hclosed : opens (.runtime (.candidate lane)) = false)
    {D : Duration} {h : List Action} (harrives : (network setup members opens).ArrivesWithin
      (.runtime .commandArbiter) (.runtime (.candidate lane)) D h) {now : Time}
    {candidate : TwistStamped} {receivedAt : Time}
    (hadm : Admitted setup.runtime.commandArbiter (Runtime.commandArbiterHistory setup.runtime
      (fun n => members (.runtime n)) (runtimeOpens opens)
      ((subsystem setup members opens).view h)) now lane candidate receivedAt) :
    ∃ pre b post, h = pre ++ b :: post ∧
      .runtime (.candidate lane candidate) ∈ (network setup members opens).emitted
        ((network setup members opens).machine.after pre) b ∧
      MadeBy setup members opens pre b candidate lane ∧ receivedAt ≤ b.now + D := by
  have hlast := hadm.candidate
  rw [Runtime.commandArbiterHistory, latest_filterMap] at hlast
  obtain ⟨⟨at', event⟩, hx, hpicked⟩ := exists_mem_of_latest hlast
  obtain ⟨input, hinput, hstream⟩ := Option.bind_eq_some_iff.mp hpicked
  obtain ⟨rfl, rfl⟩ : event = .commandArbiter (.candidate lane candidate) ∧ at' = receivedAt := by
    cases event with
    | commandArbiter e =>
      obtain rfl := Option.some.inj hinput
      cases e with
      | candidate lane' msg =>
        obtain ⟨rfl, hpair⟩ := Option.ite_none_right_eq_some.mp hstream
        obtain ⟨rfl, rfl⟩ := Prod.mk.inj (Option.some.inj hpair)
        exact ⟨rfl, rfl⟩
      | modeState | safetyState | tick | setParameters => cases hstream
    | safetyManager | modeManager | nav2Bridge | locomotionAdapter | hardwareAdapter | skillServer =>
      cases hinput
  obtain ⟨pre, b, post, rfl, hm, hage⟩ := (callbacks setup members opens).exists_sent
    ((subsystem setup members opens).mem_events_view hx) rfl harrives
  exact ⟨pre, b, post, rfl, hm, madeBy_of_candidate hclosed hm, hage⟩

/-! ## The origin -/

variable (setup members opens) in
/-- **The origin of an approved twist.** The step `a`, not before the reading `since`, approves the
clamp `twist` of a candidate that the step `b` made a node publish; and between the two lie at most the
delay `D` and the arbiter's command timeout. -/
def Originates (D : Duration) (h : List Action) (twist : Twist) (since : Time) : Prop :=
  ∃ pre b mid a post lane candidate, h = pre ++ b :: (mid ++ a :: post) ∧
    .runtime (.candidate lane candidate) ∈ (network setup members opens).emitted
      ((network setup members opens).machine.after pre) b ∧
    MadeBy setup members opens pre b candidate lane ∧
    Approves setup members opens ((network setup members opens).machine.after (pre ++ b :: mid)) a lane
      candidate.twist twist ∧
    since ≤ a.now ∧
    a.now ≤ b.now + D + ((network setup members opens).machine.after
      (pre ++ b :: mid)).nodes.runtime.commandArbiter.params.commandTimeout

/-- The links from a candidate to an adapter are closed to outside parties and make no delivery that is
older than `D₁`, to the arbiter, or `D₂`, to the adapters. -/
structure Guarded (setup : Setup) (members : NodeId → Bool) (opens : Topic → Bool) (D₁ D₂ : Duration)
    (h : List Action) : Prop where
  candidates : ∀ lane, opens (.runtime (.candidate lane)) = false
  approved : opens (.runtime .approvedCmd) = false
  toArbiter : ∀ lane, (network setup members opens).ArrivesWithin (.runtime .commandArbiter)
    (.runtime (.candidate lane)) D₁ h
  toAdapters : ∀ n ∈ Runtime.adapters, (network setup members opens).ArrivesWithin (.runtime n)
    (.runtime .approvedCmd) D₂ h

/-- **What an adapter received has an origin.** -/
theorem originates_of_received {D₁ D₂ : Duration} {h : List Action}
    (hguarded : Guarded setup members opens D₁ D₂ h) {x : Stamped Time Runtime.Event}
    (hx : x ∈ (Runtime.network setup.runtime (fun n => members (.runtime n))
      (runtimeOpens opens)).events ((subsystem setup members opens).view h))
    {command : TwistStamped} (hcommand : receivesApproved command x.event)
    (hne : command.twist ≠ 0) :
    Originates setup members opens D₁ h command.twist (x.now - D₂) := by
  obtain ⟨pre, a, post, lane, candidate, receivedAt, rfl, happroves, hadm, hage⟩ :=
    approval_of_received hguarded.approved hguarded.toAdapters hx hcommand hne
  obtain ⟨pre, b, mid, rfl, hm, hmade, hsent⟩ := madeBy_of_admitted (hguarded.candidates lane)
    (hguarded.toArbiter lane).of_append hadm
  have hfresh := hadm.fresh
  rw [← CommandArbiter.params_after, ← commandArbiter_after] at hfresh
  refine ⟨pre, b, mid, a, post, lane, candidate, by simp, hm, hmade, happroves, ?_, ?_⟩
  · linarith
  · linarith

/-- A motion that the hardware adapter applies has an origin. -/
theorem originates_of_applied {D₁ D₂ : Duration} {h : List Action}
    (hguarded : Guarded setup members opens D₁ D₂ h) {i : Action} {command : TwistStamped}
    {reason : String} (happly : .runtime (.hardwareAdapter (.applyToHardware command reason)) ∈
      stepOutputs setup members opens ((network setup members opens).machine.after h) i)
    (hne : command.twist ≠ 0) :
    Originates setup members opens D₁ h command.twist
      (i.now - ((network setup members opens).machine.after
        h).nodes.runtime.hardwareAdapter.params.approvedCommandTimeout - D₂) := by
  obtain ⟨x, hx, hreceived, hfresh⟩ := received_of_applied happly
  obtain ⟨pre, b, mid, a, post, lane, candidate, hsplit, hm, hmade, happroves, hsince, hage⟩ :=
    originates_of_received hguarded hx hreceived hne
  exact ⟨pre, b, mid, a, post, lane, candidate, hsplit, hm, hmade, happroves, by linarith, hage⟩

/-! ### A key drives the robot -/

/-- The nodes from the key to the hardware. -/
def drivingMembers (n : NodeId) : Bool :=
  n ∈ [.keyboardTeleop, .runtime .commandArbiter, .runtime .hardwareAdapter]

/-- The topics on which the rest of the system is heard. -/
def drivingOpens (t : Topic) : Bool := t ∈ [.runtime .safetyState, .runtime .modeState]

/-- A key is pressed, and what it commands reaches the hardware adapter. -/
def drivingRun : List Action :=
  [⟨0, .inject (.runtime (.safetyState { state := SafetyState.stateOk }))⟩,
    ⟨0, .inject (.runtime (.modeState { activeMode := ModeState.modeTeleop }))⟩,
    ⟨0, .deliver (.runtime .commandArbiter) (.runtime .safetyState) 0⟩,
    ⟨0, .deliver (.runtime .commandArbiter) (.runtime .modeState) 0⟩,
    ⟨0, .deliver (.runtime .hardwareAdapter) (.runtime .safetyState) 0⟩,
    ⟨0, .deliver (.runtime .hardwareAdapter) (.runtime .modeState) 0⟩,
    ⟨1, .act (.keyboardTeleop (.key "w"))⟩,
    ⟨2, .act (.keyboardTeleop .publishTick)⟩,
    ⟨3, .deliver (.runtime .commandArbiter) (.runtime (.candidate .teleop)) 0⟩,
    ⟨4, .act (.runtime (.commandArbiter .tick))⟩,
    ⟨5, .deliver (.runtime .hardwareAdapter) (.runtime .approvedCmd) 0⟩,
    ⟨5, .deliver (.runtime .hardwareAdapter) (.runtime .arbitrationState) 0⟩]

/-- The links of that run are guarded. -/
theorem guarded_drivingRun : Guarded {} drivingMembers drivingOpens 5 5 drivingRun where
  candidates lane := by cases lane <;> rfl
  approved := rfl
  toArbiter lane := Network.arrivesWithin_of_span _ (by decide) _ _
  toAdapters n _ := Network.arrivesWithin_of_span _ (by decide) _ _

/-- The command that the key makes. -/
def drivingCommand : TwistStamped where
  header := { stamp := 4, frameId := "mock_001" }
  twist := { linear := { x := .fin (1 / 20) } }

/-- At the end of that run the hardware adapter applies the command. -/
theorem applied_drivingCommand :
    .runtime (.hardwareAdapter (.applyToHardware drivingCommand "approved_command")) ∈
      stepOutputs {} drivingMembers drivingOpens ((network {} drivingMembers drivingOpens).machine.after
        drivingRun) ⟨6, .act (.runtime (.hardwareAdapter .tick))⟩ := by
  decide +kernel

/-- **The main result.** Let the candidates and the approved commands travel on guarded links. Whenever
the hardware adapter applies a command that is not zero, or the locomotion adapter reports a velocity
that is not zero, the motion has an origin: a node of the system was made to publish a candidate, the
arbiter approved its clamp in the candidate's own mode, and the stages lie no further apart than their
delays and timeouts. -/
theorem motion_origin (setup : Setup) (members : NodeId → Bool) (opens : Topic → Bool)
    (D₁ D₂ : Duration) (h : List Action) (hguarded : Guarded setup members opens D₁ D₂ h) (i : Action) :
    (∀ command reason, .runtime (.hardwareAdapter (.applyToHardware command reason)) ∈
        stepOutputs setup members opens ((network setup members opens).machine.after h) i →
      command.twist ≠ 0 →
      Originates setup members opens D₁ h command.twist
        (i.now - ((network setup members opens).machine.after
          h).nodes.runtime.hardwareAdapter.params.approvedCommandTimeout - D₂)) ∧
    ∀ msg, .runtime (.locomotionAdapter (.locomotionState msg)) ∈
        stepOutputs setup members opens ((network setup members opens).machine.after h) i →
      msg.commandedLinearVelocityMps ≠ 0 ∨ msg.commandedAngularVelocityRadps ≠ 0 →
      ∃ twist, msg.commandedLinearVelocityMps = twist.linear.x ∧
        msg.commandedAngularVelocityRadps = twist.angular.z ∧
        Originates setup members opens D₁ h twist
          (i.now - ((network setup members opens).machine.after
            h).nodes.runtime.locomotionAdapter.params.commandTimeout - D₂) := by
  refine ⟨fun command reason happly hne => originates_of_applied hguarded happly hne, ?_⟩
  intro msg hreport hne
  obtain ⟨x, hx, command, hreceived, hcommand, hlinear, hangular, hfresh⟩ :=
    received_of_reported hreport hne
  obtain ⟨pre, b, mid, a, post, lane, candidate, hsplit, hm, hmade, happroves, hsince, hage⟩ :=
    originates_of_received hguarded hx hreceived hcommand
  exact ⟨command.twist, hlinear, hangular, pre, b, mid, a, post, lane, candidate, hsplit, hm, hmade,
    happroves, by linarith, hage⟩

/-- The origin of the command is the key. -/
theorem motion_origin_driving :
    Originates {} drivingMembers drivingOpens 5 drivingRun drivingCommand.twist
      (6 - ((network {} drivingMembers drivingOpens).machine.after
        drivingRun).nodes.runtime.hardwareAdapter.params.approvedCommandTimeout - 5) :=
  (motion_origin {} drivingMembers drivingOpens 5 5 drivingRun guarded_drivingRun
    ⟨6, .act (.runtime (.hardwareAdapter .tick))⟩).1 drivingCommand "approved_command"
    applied_drivingCommand (by decide +kernel)

/-- **An approval outside of the modes of autonomy** is that of a candidate of the operator. -/
theorem lane_of_approves {a : Action} {lane : Lane} {candidate twist : Twist} {s : NetworkState}
    (happroves : Approves setup members opens s a lane candidate twist)
    (hmode : s.nodes.runtime.commandArbiter.activeMode ∉ ModeManager.autonomyModes) :
    lane = .teleop := by
  rw [happroves.mode] at hmode
  cases lane with
  | teleop => rfl
  | autonomy => exact absurd List.mem_cons_self hmode
  | policy => exact absurd (List.mem_cons_of_mem _ List.mem_cons_self) hmode

/-- It goes back to a key: the candidate is not zero, for the clamp of zero is zero. -/
theorem key_of_approves {pre : List Action} {a b : Action} {candidate : TwistStamped} {twist : Twist}
    {s : NetworkState} (hmade : MadeBy setup members opens pre b candidate .teleop)
    (happroves : Approves setup members opens s a .teleop candidate.twist twist) (hne : twist ≠ 0)
    (hlinear : 0 ≤ s.nodes.runtime.commandArbiter.params.maxLinearVelocityMps)
    (hangular : 0 ≤ s.nodes.runtime.commandArbiter.params.maxAngularVelocityRadps) :
    KeyPressed setup members opens pre b.now := by
  refine hmade.2 fun hzero => ?_
  rw [happroves.clamped, hzero, CommandArbiter.clampTwist_zero hlinear hangular] at hne
  exact hne rfl

variable (setup members opens) in
/-- **The arbiter serves the operator alone** along the run: it never ticks in a mode of autonomy, its
limits are not negative, and its command timeout is at most `T`. -/
def OperatorOnly (T : Duration) (h : List Action) : Prop :=
  ∀ pre a post, h = pre ++ a :: post →
    (network setup members opens).fired ((network setup members opens).machine.after pre) a.event =
      some (.runtime (.commandArbiter .tick)) →
    let s := ((network setup members opens).machine.after pre).nodes.runtime.commandArbiter
    s.activeMode ∉ ModeManager.autonomyModes ∧ 0 ≤ s.params.maxLinearVelocityMps ∧
      0 ≤ s.params.maxAngularVelocityRadps ∧ s.params.commandTimeout ≤ T

/-- **A dead man's switch, from the key to the hardware.** While the arbiter serves the operator
alone, the hardware adapter applies a command other than zero only if a motion key was pressed no
longer ago than the key timeout, the arbiter's and the adapter's own, and the two delays together. -/
theorem dead_mans_switch (setup : Setup) (members : NodeId → Bool) (opens : Topic → Bool)
    (D₁ D₂ T : Duration) (h : List Action) (hguarded : Guarded setup members opens D₁ D₂ h)
    (hoperator : OperatorOnly setup members opens T h) (i : Action) (command : TwistStamped)
    (reason : String) (happly : .runtime (.hardwareAdapter (.applyToHardware command reason)) ∈
      stepOutputs setup members opens ((network setup members opens).machine.after h) i)
    (hne : command.twist ≠ 0) :
    ∃ key keyAt, ⟨keyAt, .keyboardTeleop (.key key)⟩ ∈ (network setup members opens).events h ∧
      KeyboardTeleop.isMotionKey key = true ∧
      i.now - keyAt ≤ setup.keyboardTeleop.keyTimeout + D₁ + T + D₂ +
        ((network setup members opens).machine.after
          h).nodes.runtime.hardwareAdapter.params.approvedCommandTimeout := by
  obtain ⟨pre, b, mid, a, post, lane, candidate, rfl, -, hmade, happroves, hsince, hage⟩ :=
    originates_of_applied hguarded happly hne
  obtain ⟨hmode, hlinear, hangular, htimeout⟩ :=
    hoperator (pre ++ b :: mid) a post (by simp) happroves.tick
  obtain rfl := lane_of_approves happroves hmode
  obtain ⟨key, keyAt, hx, hmotion, hkey⟩ := key_of_approves hmade happroves hne hlinear hangular
  refine ⟨key, keyAt, ?_, hmotion, by linarith⟩
  rw [Network.events_append]
  exact List.mem_append_left _ hx

/-- In that run the arbiter ticks once, in `TELEOP`. -/
theorem operatorOnly_drivingRun :
    OperatorOnly {} drivingMembers drivingOpens 500000000 drivingRun := by
  refine forall_step_iff.mpr ?_
  decide +kernel

/-- The key was pressed lately. -/
theorem dead_mans_switch_driving :
    ∃ key keyAt, ⟨keyAt, .keyboardTeleop (.key key)⟩ ∈
        (network {} drivingMembers drivingOpens).events drivingRun ∧
      KeyboardTeleop.isMotionKey key = true ∧
      6 - keyAt ≤ 500000000 + 5 + 500000000 + 5 + ((network {} drivingMembers
        drivingOpens).machine.after
          drivingRun).nodes.runtime.hardwareAdapter.params.approvedCommandTimeout :=
  dead_mans_switch {} drivingMembers drivingOpens 5 5 500000000 drivingRun guarded_drivingRun
    operatorOnly_drivingRun ⟨6, .act (.runtime (.hardwareAdapter .tick))⟩ drivingCommand
    "approved_command" applied_drivingCommand (by decide +kernel)

end HumaWare.System
