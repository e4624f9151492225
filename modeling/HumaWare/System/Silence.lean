import HumaWare.CapabilityRegistry.Permission
import HumaWare.DiagnosticsAggregator.Diagnostics
import HumaWare.HardwareAdapter.Gate
import HumaWare.Runtime.Takeover
import HumaWare.System.Subscribers

/-! # What a subscriber may output

The gates of the nodes that follow the mode and the safety state are written differently, each in
its own words and with its own list of modes and safety states. Under a safety state that locks the
robot down, and in `SHUTDOWN`, all of them are shut; and whatever a node tells of the two is what it
holds.

* **`Subscriber.Silent`** — the output does not move the robot and invites no one else to;
* **`Subscriber.silent_of_lockedDown`** — the gates;
* **`Subscriber.told_of_step`** — no node tells another mode or safety state than it holds;
* **`SafetySubscriber.silent_of_blocking`**, **`ModeSubscriber.silent_of_shutdown`** — the mode
  manager, which follows the safety state alone, lets no one into a mode of autonomy, and the safety
  manager, which follows the mode alone, warns of nobody. -/

namespace HumaWare.System

open Reactive
open HumaWare.Runtime (Consumer Blocking)

/-- No capability on the list advertises a motion. -/
def Motionless (capabilities : List CapabilityRegistry.CapabilityMsg) : Prop :=
  ∀ capability ∈ capabilities, capability.name ∈ SkillServer.velocitySkills →
    capability.state ∉ CapabilityRegistry.advertisedStates

namespace Subscriber

/-- **Silence.** The output is not one by which the node would move the robot or have it moved: a
consumer is silent as it is in the runtime, a node that makes commands makes none but the stop, and
the registry advertises no motion. -/
def Silent : Subscriber → Output → Prop
  | consumer c, .runtime x => c.Silent x
  | skillServer, .runtime (.skillServer (.policyCmd msg)) => msg.twist = 0
  | policyProviderStub, .policyProviderStub (.policyCmd _) => False
  | policyProviderScripted, .policyProviderScripted (.policyCmd _) => False
  | capabilityRegistry, .capabilityRegistry (.registry msg) => Motionless msg.capabilities
  | capabilityRegistry, .capabilityRegistry (.response response) =>
    Motionless response.capabilities
  | _, _ => True

/-- The output tells this safety state, if it is one by which the node tells one: in a field of the
message, or as a value of its diagnostics. -/
def TellsSafety (safety : UInt8) : Subscriber → Output → Prop
  | consumer .commandArbiter, .runtime (.commandArbiter (.arbitrationState msg)) =>
    msg.safetyState = safety
  | consumer .nav2Bridge, .runtime (.nav2Bridge (.bridgeState msg)) => msg.safetyState = safety
  | consumer .hardwareAdapter, .runtime (.hardwareAdapter (.diagnostics msg)) =>
    msg.Shows "safety_state" (toString safety)
  | mockRobot, .mockRobot (.humanoid msg) => msg.safetyState = safety
  | diagnosticsAggregator, .diagnosticsAggregator (.health msg) => msg.safetyState = safety ∧
    (Blocking safety → msg.state ∈ [HealthState.healthError, HealthState.healthStale])
  | diagnosticsAggregator, .diagnosticsAggregator (.diagnostics msg) =>
    msg.Shows "safety_state" (toString safety)
  | _, _ => True

/-- The output tells this mode, if it is one by which the node tells one. -/
def TellsMode (mode : UInt8) : Subscriber → Output → Prop
  | consumer .commandArbiter, .runtime (.commandArbiter (.arbitrationState msg)) =>
    msg.activeMode = mode
  | consumer .nav2Bridge, .runtime (.nav2Bridge (.bridgeState msg)) => msg.activeMode = mode
  | consumer .hardwareAdapter, .runtime (.hardwareAdapter (.diagnostics msg)) =>
    msg.Shows "active_mode" (toString mode)
  | mockRobot, .mockRobot (.humanoid msg) => msg.mode = mode
  | diagnosticsAggregator, .diagnosticsAggregator (.health msg) => msg.mode = mode
  | diagnosticsAggregator, .diagnosticsAggregator (.diagnostics msg) =>
    msg.Shows "mode" (toString mode)
  | _, _ => True

/-! ## The gates -/

/-- What a subscriber holds locks it down: a safety state under which the robot is locked down, or
the mode `SHUTDOWN`. -/
def LockedDown (n : Subscriber) (s : Nodes) : Prop :=
  Blocking (n.safetyOf s) ∨ n.modeOf s = ModeState.modeShutdown

/-- **The consumers in `SHUTDOWN`.** None of them moves the robot. -/
theorem consumer_silent_of_shutdown {c : Consumer} {keyboard : KeyboardTeleop.Params} {s : Nodes}
    (hmode : (consumer c).modeOf s = ModeState.modeShutdown) {i : Stamped Time Event}
    {x : Runtime.Output} (hx : .runtime x ∈ (s.step keyboard i).2) : c.Silent x := by
  obtain ⟨e, -, hx⟩ := Nodes.mem_step_runtime hx
  cases c with
  | commandArbiter =>
    cases x with
    | commandArbiter pub =>
      obtain ⟨e, -, hpub⟩ := Runtime.Nodes.mem_step_commandArbiter hx
      have hinactive : s.runtime.commandArbiter.activeMode ∈ CommandArbiter.inactiveModes := by
        rw [show s.runtime.commandArbiter.activeMode = _ from hmode]
        decide
      obtain ⟨happroved, harbitration⟩ := CommandArbiter.tick_of_inactive hinactive
        (CommandArbiter.step_publications hpub).2
      cases pub with
      | approved msg => exact happroved msg rfl
      | arbitrationState msg => exact harbitration msg rfl
    | safetyManager | modeManager | nav2Bridge | locomotionAdapter | hardwareAdapter |
      skillServer => trivial
  | nav2Bridge =>
    cases x with
    | nav2Bridge pub =>
      obtain ⟨e, -, hpub⟩ := Runtime.Nodes.mem_step_nav2Bridge hx
      cases pub with
      | command msg =>
        have hautonomy := (Nav2Bridge.step_command hpub).1
        rw [show s.runtime.nav2Bridge.activeMode = _ from hmode] at hautonomy
        exact absurd hautonomy (by decide)
      | bridgeState msg => trivial
    | safetyManager | modeManager | commandArbiter | locomotionAdapter | hardwareAdapter |
      skillServer => trivial
  | locomotionAdapter =>
    cases x with
    | locomotionAdapter pub =>
      obtain ⟨e, -, hpub⟩ := Runtime.Nodes.mem_step_locomotionAdapter hx
      obtain ⟨msg⟩ := pub
      have hhalting : s.runtime.locomotionAdapter.activeMode ∈ LocomotionAdapter.haltingModes := by
        rw [show s.runtime.locomotionAdapter.activeMode = _ from hmode]
        decide
      obtain ⟨-, rfl⟩ := LocomotionAdapter.step_publications hpub
      exact LocomotionAdapter.velocity_update_of_halting hhalting i.now
    | safetyManager | modeManager | commandArbiter | nav2Bridge | hardwareAdapter |
      skillServer => trivial
  | hardwareAdapter =>
    cases x with
    | hardwareAdapter effect =>
      obtain ⟨e, -, heffect⟩ := Runtime.Nodes.mem_step_hardwareAdapter hx
      cases effect with
      | applyToHardware command reason =>
        have htick := (HardwareAdapter.step_applies heffect).2
        have hopen := (HardwareAdapter.tick_applies_iff.mp ⟨reason, htick⟩).1.mode
        rw [show s.runtime.hardwareAdapter.activeMode = _ from hmode] at hopen
        exact absurd hopen (by decide)
      | diagnostics | heartbeat | stopHardware => trivial
    | safetyManager | modeManager | commandArbiter | nav2Bridge | locomotionAdapter |
      skillServer => trivial

/-- **A registry that advertises no motion**: neither what it publishes nor what it answers does. -/
theorem motionless_of_step {s : CapabilityRegistry.State} {i : CapabilityRegistry.Input}
    (hnone : ∀ spec ∈ [CapabilityRegistry.walkVelocity, CapabilityRegistry.turnInPlace],
      CapabilityRegistry.capabilityState spec s.mode s.safety s.locomotion ∉
        CapabilityRegistry.advertisedStates) :
    (∀ msg, .registry msg ∈ (CapabilityRegistry.step s i).2 → Motionless msg.capabilities) ∧
      ∀ response, .response response ∈ (CapabilityRegistry.step s i).2 →
        Motionless response.capabilities := by
  -- of the six specifications two have the name of a velocity skill
  have hnamed : ∀ spec ∈ CapabilityRegistry.defaultCapabilities,
      spec.name ∈ SkillServer.velocitySkills →
        spec ∈ [CapabilityRegistry.walkVelocity, CapabilityRegistry.turnInPlace] := by
    decide +kernel
  have hall : Motionless s.capabilities := by
    intro capability hmem hskill
    obtain ⟨spec, hspec, rfl⟩ := CapabilityRegistry.mem_capabilities_iff.mp hmem
    exact hnone spec (hnamed spec hspec hskill)
  constructor
  · intro msg hpub
    rw [CapabilityRegistry.capabilities_of_registry hpub]
    exact hall
  · intro response hpub
    obtain ⟨now, event⟩ := i
    cases event with
    | listCapabilities request =>
      obtain rfl := CapabilityRegistry.Publication.response.inj (List.mem_singleton.mp hpub)
      unfold CapabilityRegistry.onListCapabilities
      dsimp only
      split
      · intro capability hmem
        obtain ⟨name, -, hget⟩ := List.mem_filterMap.mp hmem
        exact hall capability (CapabilityRegistry.get?_byName_iff.mp hget).1
      · exact hall
    | publish => cases List.mem_singleton.mp hpub
    | modeState msg' | safetyState msg' | locomotionState msg' | setParameters params =>
      exact absurd hpub List.not_mem_nil

/-- **A subscriber that is locked down is silent.** -/
theorem silent_of_lockedDown {n : Subscriber} {keyboard : KeyboardTeleop.Params} {s : Nodes}
    (hlocked : n.LockedDown s) {i : Stamped Time Event} {x : Output}
    (hx : x ∈ (s.step keyboard i).2) : n.Silent x := by
  -- what the makers of policy commands ask for: no such mode and safety state lock down
  have hgate : ∀ {mode safety : UInt8}, Blocking safety ∨ mode = ModeState.modeShutdown →
      mode = ModeState.modeAiPolicy → safety ∈ PolicyProvider.safeForPolicy ∨
        safety ∉ SkillServer.unsafeStates → False := by
    rintro mode safety ((rfl | rfl) | rfl) hmode hsafe
    · exact absurd hsafe (by decide)
    · exact absurd hsafe (by decide)
    · exact absurd hmode (by decide)
  cases n with
  | consumer c =>
    cases x with
    | runtime x =>
      rcases hlocked with hblock | hmode
      · obtain ⟨e, -, hx⟩ := Nodes.mem_step_runtime hx
        exact Consumer.silent_of_blocking hblock hx
      · exact consumer_silent_of_shutdown hmode hx
    | capabilityRegistry | mockRobot | keyboardTeleop | diagnosticsAggregator |
      policyProviderStub | policyProviderScripted => trivial
  | skillServer =>
    rcases x with (_ | _ | _ | _ | _ | _ | (msg | _ | _)) | _ | _ | _ | _ | _ | _
    case runtime.skillServer.policyCmd =>
      obtain ⟨e, -, hx⟩ := Nodes.mem_step_runtime hx
      obtain ⟨e, -, hpub⟩ := Runtime.Nodes.mem_step_skillServer hx
      by_contra hmoves
      obtain ⟨request, executionId, -, hexecutes⟩ := SkillServer.executes_of_policyCmd hpub
      exact hgate hlocked (hexecutes.mode hmoves) (Or.inr (hexecutes.safety hmoves))
    all_goals trivial
  | policyProviderStub =>
    cases x with
    | policyProviderStub pub =>
      obtain ⟨msg⟩ := pub
      obtain ⟨e, -, hpub⟩ := Nodes.mem_step_policyProviderStub hx
      obtain ⟨-, hopen⟩ := PolicyProvider.Stub.gate_of_policyCmd hpub
      exact hgate hlocked hopen.mode (Or.inl hopen.safety)
    | runtime | capabilityRegistry | mockRobot | keyboardTeleop | diagnosticsAggregator |
      policyProviderScripted => trivial
  | policyProviderScripted =>
    cases x with
    | policyProviderScripted pub =>
      obtain ⟨msg⟩ := pub
      obtain ⟨e, -, hpub⟩ := Nodes.mem_step_policyProviderScripted hx
      obtain ⟨-, hopen⟩ := PolicyProvider.Scripted.gate_of_policyCmd hpub
      exact hgate hlocked hopen.mode (Or.inl hopen.safety)
    | runtime | capabilityRegistry | mockRobot | keyboardTeleop | diagnosticsAggregator |
      policyProviderStub => trivial
  | capabilityRegistry =>
    cases x with
    | capabilityRegistry pub =>
      obtain ⟨e, -, hpub⟩ := Nodes.mem_step_capabilityRegistry hx
      obtain ⟨hregistry, hresponse⟩ := motionless_of_step (i := ⟨i.now, e⟩)
          fun spec hspec hadvertised => by
        obtain ⟨hmode, hsafety⟩ :=
          (CapabilityRegistry.motion_advertised_iff hspec).mp hadvertised
        rcases hlocked with (hblock | hblock) | hshutdown
        · exact hsafety (by rw [show s.capabilityRegistry.safety = _ from hblock]; decide)
        · exact hsafety (by rw [show s.capabilityRegistry.safety = _ from hblock]; decide)
        · rw [show s.capabilityRegistry.mode = _ from hshutdown] at hmode
          exact absurd hmode (by decide)
      cases pub with
      | registry msg => exact hregistry msg hpub
      | response response => exact hresponse response hpub
    | runtime | mockRobot | keyboardTeleop | diagnosticsAggregator | policyProviderStub |
      policyProviderScripted => trivial
  | mockRobot => cases x <;> trivial
  | diagnosticsAggregator => cases x <;> trivial

/-! ## What is told -/

/-- A health message tells the last safety state, and a bad one makes it an error, unless something
is stale. -/
theorem health_tells {s : DiagnosticsAggregator.State} {i : DiagnosticsAggregator.Input}
    {msg : HealthState} (hpub : .health msg ∈ (DiagnosticsAggregator.step s i).2) :
    msg.safetyState = ((s.message "safety/state" DiagnosticsAggregator.Message.safetyState?).map
        SafetyState.state).getD SafetyState.stateUnknown ∧
      msg.mode = ((s.message "mode/state" DiagnosticsAggregator.Message.modeState?).map
        ModeState.activeMode).getD ModeState.modeUnknown ∧
      (Blocking msg.safetyState → msg.state ∈ [HealthState.healthError, HealthState.healthStale]) := by
  obtain ⟨now, event⟩ := i
  cases event with
  | received msg' => exact absurd hpub List.not_mem_nil
  | setParameters params => exact absurd hpub List.not_mem_nil
  | publish =>
    rcases List.mem_pair.mp hpub with hmsg | hmsg
    · obtain rfl := DiagnosticsAggregator.Publication.health.inj hmsg
      refine ⟨rfl, rfl, fun hblock => ?_⟩
      -- only staleness comes before the safety state on the ladder
      have hladder : ∀ {safety locomotion : UInt8} {faults warnings stale : List String},
          Blocking safety → (DiagnosticsAggregator.evaluateHealth safety locomotion faults warnings
            stale).1 ∈ [HealthState.healthError, HealthState.healthStale] := by
        intro safety locomotion faults warnings stale hblock
        unfold DiagnosticsAggregator.evaluateHealth
        split
        · exact List.mem_cons_of_mem _ List.mem_cons_self
        rw [if_pos]
        · exact List.mem_cons_self
        · rcases hblock with rfl | rfl <;> decide
      exact hladder hblock
    · cases hmsg

/-- The diagnostics of a publication show the mode and the safety state that its health tells. -/
theorem diagnostics_tells {s : DiagnosticsAggregator.State} {i : DiagnosticsAggregator.Input}
    {msg : DiagnosticArray} (hpub : .diagnostics msg ∈ (DiagnosticsAggregator.step s i).2) :
    ∃ health, .health health ∈ (DiagnosticsAggregator.step s i).2 ∧
      msg.Shows "mode" (toString health.mode) ∧
      msg.Shows "safety_state" (toString health.safetyState) := by
  obtain ⟨now, event⟩ := i
  cases event with
  | received msg' => exact absurd hpub List.not_mem_nil
  | setParameters params => exact absurd hpub List.not_mem_nil
  | publish =>
    rcases List.mem_pair.mp hpub with hmsg | hmsg
    · cases hmsg
    · obtain rfl := DiagnosticsAggregator.Publication.diagnostics.inj hmsg
      exact ⟨_, List.mem_cons_self, DiagnosticsAggregator.buildDiagnostics_shows _ _ _ _⟩

/-- **A node tells the mode and the safety state that it holds.** -/
theorem told_of_step (n : Subscriber) {keyboard : KeyboardTeleop.Params} {s : Nodes}
    {i : Stamped Time Event} {x : Output} (hx : x ∈ (s.step keyboard i).2) :
    n.TellsSafety (n.safetyOf s) x ∧ n.TellsMode (n.modeOf s) x := by
  rcases n with (_ | _ | _ | _) | _ | _ | _ | _ | _ | _
  case consumer.commandArbiter =>
    rcases x with (_ | _ | (_ | msg) | _ | _ | _ | _) | _ | _ | _ | _ | _ | _
    case runtime.commandArbiter.arbitrationState =>
      obtain ⟨e, -, hx⟩ := Nodes.mem_step_runtime hx
      obtain ⟨e, -, hpub⟩ := Runtime.Nodes.mem_step_commandArbiter hx
      exact CommandArbiter.arbitrationState_tells (CommandArbiter.step_publications hpub).2
    all_goals exact ⟨trivial, trivial⟩
  case consumer.nav2Bridge =>
    rcases x with (_ | _ | _ | (_ | msg) | _ | _ | _) | _ | _ | _ | _ | _ | _
    case runtime.nav2Bridge.bridgeState =>
      obtain ⟨e, -, hx⟩ := Nodes.mem_step_runtime hx
      obtain ⟨e, -, hpub⟩ := Runtime.Nodes.mem_step_nav2Bridge hx
      obtain ⟨state, reason, outputEnabled, hdecide⟩ :=
        Nav2Bridge.exists_decide s.runtime.nav2Bridge i.now
      rw [Nav2Bridge.step_bridgeState hpub, hdecide]
      exact ⟨rfl, rfl⟩
    all_goals exact ⟨trivial, trivial⟩
  case consumer.hardwareAdapter =>
    rcases x with (_ | _ | _ | _ | _ | (msg | _ | _ | _) | _) | _ | _ | _ | _ | _ | _
    case runtime.hardwareAdapter.diagnostics =>
      obtain ⟨e, -, hx⟩ := Nodes.mem_step_runtime hx
      obtain ⟨e, -, heffect⟩ := Runtime.Nodes.mem_step_hardwareAdapter hx
      obtain ⟨hmode, hsafety⟩ := HardwareAdapter.diagnostics_shows heffect
      exact ⟨hsafety, hmode⟩
    all_goals exact ⟨trivial, trivial⟩
  case mockRobot =>
    rcases x with _ | _ | (_ | _ | msg) | _ | _ | _ | _
    case mockRobot.humanoid =>
      obtain ⟨e, -, hpub⟩ := Nodes.mem_step_mockRobot hx
      rw [MockRobot.humanoid_of_step hpub]
      exact ⟨rfl, rfl⟩
    all_goals exact ⟨trivial, trivial⟩
  case diagnosticsAggregator =>
    rcases x with _ | _ | _ | _ | (msg | msg) | _ | _
    case diagnosticsAggregator.health =>
      obtain ⟨e, -, hpub⟩ := Nodes.mem_step_diagnosticsAggregator hx
      obtain ⟨hsafety, hmode, hverdict⟩ := health_tells hpub
      exact ⟨⟨hsafety, fun hblock => hverdict (hsafety ▸ hblock)⟩, hmode⟩
    case diagnosticsAggregator.diagnostics =>
      obtain ⟨e, -, hpub⟩ := Nodes.mem_step_diagnosticsAggregator hx
      obtain ⟨health, hhealth, hshowsMode, hshowsSafety⟩ := diagnostics_tells hpub
      obtain ⟨hsafety, hmode, -⟩ := health_tells hhealth
      rw [hmode] at hshowsMode
      rw [hsafety] at hshowsSafety
      exact ⟨hshowsSafety, hshowsMode⟩
    all_goals exact ⟨trivial, trivial⟩
  all_goals exact ⟨trivial, trivial⟩

end Subscriber

/-! ## The subscribers of one topic -/

namespace SafetySubscriber

/-- **Silence under a safety state.** The mode manager moves nothing; it is silent if it accepts no
request for a mode of autonomy that is not active yet. -/
def Silent : SafetySubscriber → Output → Prop
  | both n, x => n.Silent x
  | modeManager, .runtime (.modeManager (.transitionState msg)) =>
    msg.outcome = ModeTransitionState.outcomeAccepted →
      msg.requestedMode ∈ ModeManager.autonomyModes → msg.previousMode = msg.requestedMode
  | modeManager, _ => True

/-- The output tells this safety state, if it is one by which the node tells one; the mode manager
tells none. -/
def TellsSafety (safety : UInt8) : SafetySubscriber → Output → Prop
  | both n, x => n.TellsSafety safety x
  | modeManager, _ => True

/-- **A subscriber that holds a blocking safety state is silent.** -/
theorem silent_of_blocking {n : SafetySubscriber} {keyboard : KeyboardTeleop.Params} {s : Nodes}
    (hblock : Blocking (n.safetyOf s)) {i : Stamped Time Event} {x : Output}
    (hx : x ∈ (s.step keyboard i).2) : n.Silent x := by
  cases n with
  | both n => exact Subscriber.silent_of_lockedDown (Or.inl hblock) hx
  | modeManager =>
    rcases x with (_ | (_ | msg | _ | _) | _ | _ | _ | _ | _) | _ | _ | _ | _ | _ | _
    case runtime.modeManager.transitionState =>
      obtain ⟨e, -, hx⟩ := Nodes.mem_step_runtime hx
      obtain ⟨e, -, hpub⟩ := Runtime.Nodes.mem_step_modeManager hx
      refine ModeManager.previousMode_of_blocking hpub ?_
      rcases hblock with hmrm | hestop
      · rw [show s.runtime.modeManager.safetyState = _ from hmrm]
        decide
      · rw [show s.runtime.modeManager.safetyState = _ from hestop]
        decide
    all_goals trivial

/-- **A node tells the safety state that it holds.** -/
theorem told_of_step (n : SafetySubscriber) {keyboard : KeyboardTeleop.Params} {s : Nodes}
    {i : Stamped Time Event} {x : Output} (hx : x ∈ (s.step keyboard i).2) :
    n.TellsSafety (n.safetyOf s) x := by
  cases n with
  | both n => exact (n.told_of_step hx).1
  | modeManager => trivial

end SafetySubscriber

namespace ModeSubscriber

/-- **Silence in a mode.** The safety manager moves nothing; it is silent if it warns of no party that
it watches. -/
def Silent : ModeSubscriber → Output → Prop
  | both n, x => n.Silent x
  | safetyManager, .runtime (.safetyManager (.safetyState msg)) => msg.state ≠ SafetyState.stateWarn
  | safetyManager, _ => True

/-- The output tells this mode, if it is one by which the node tells one; the safety manager tells
none. -/
def TellsMode (mode : UInt8) : ModeSubscriber → Output → Prop
  | both n, x => n.TellsMode mode x
  | safetyManager, _ => True

/-- **A subscriber that holds `SHUTDOWN` is silent.** -/
theorem silent_of_shutdown {n : ModeSubscriber} {keyboard : KeyboardTeleop.Params} {s : Nodes}
    (hmode : n.modeOf s = ModeState.modeShutdown) {i : Stamped Time Event} {x : Output}
    (hx : x ∈ (s.step keyboard i).2) : n.Silent x := by
  cases n with
  | both n => exact Subscriber.silent_of_lockedDown (Or.inr hmode) hx
  | safetyManager =>
    rcases x with ((msg | _ | _ | _) | _ | _ | _ | _ | _ | _) | _ | _ | _ | _ | _ | _
    case runtime.safetyManager.safetyState =>
      intro hwarn
      obtain ⟨e, -, hx⟩ := Nodes.mem_step_runtime hx
      obtain ⟨e, -, hpub⟩ := Runtime.Nodes.mem_step_safetyManager hx
      rw [(SafetyManager.publication_eq hpub).1] at hwarn
      obtain ⟨-, -, w, hfires⟩ := (SafetyManager.safetyMsg_state_iff _ _).2.2.1.mp hwarn
      -- no watchdog is at work in `SHUTDOWN`
      have hsame : (SafetyManager.step s.runtime.safetyManager ⟨i.now, e⟩).1.activeMode =
          ModeState.modeShutdown := by
        rw [(SafetyManager.step_fields _ _).2.1]
        cases e with
        | modeState msg' => exact absurd hpub List.not_mem_nil
        | teleopHeartbeat msg' | hardwareHeartbeat msg' | approvedCommand msg' | triggerMrm request
        | clearMrm request | publishState | setParameters params => exact hmode
      have hactive := hfires.2.1
      rw [hsame] at hactive
      cases w <;> exact absurd hactive (by decide)
    all_goals trivial

/-- **A node tells the mode that it holds.** -/
theorem told_of_step (n : ModeSubscriber) {keyboard : KeyboardTeleop.Params} {s : Nodes}
    {i : Stamped Time Event} {x : Output} (hx : x ∈ (s.step keyboard i).2) :
    n.TellsMode (n.modeOf s) x := by
  cases n with
  | both n => exact (n.told_of_step hx).2
  | safetyManager => trivial

end ModeSubscriber

end HumaWare.System
