import HumaWare.Runtime.Inbox
import HumaWare.Runtime.Provenance

/-! # A mode change at the hardware adapter

The gate of the hardware adapter asks for an active mode, for an arbitration state that enables
output and for a fresh command, each on its own topic. It never asks whether the command was
approved for the mode that it holds, so a command that the arbiter published before it learned of a
mode change passes the gate after the adapter has learned of it.

* **`CrossMode`** — the adapter's tick finds the gate open for a command that was published under
  another mode than the adapter received last;
* **`applied_inMode_iff`** — the main result: these are the only ticks that go wrong;
* **`not_applied_inMode`** — a run in which a `TELEOP` command is applied in `AUTONOMY`. -/

namespace HumaWare.Runtime

open Reactive
open CommandArbiter (Admitted)

/-- A message with an approved command is one. -/
theorem Message.eq_of_approved {m : Message} {command : TwistStamped}
    (h : m.approved = some command) : m = .approvedCmd command := by
  cases m <;> simp only [Message.approved, reduceCtorEq, Option.some.injEq] at h
  rw [h]

section Network

variable (setup : Setup) (members : NodeId → Bool) (opens : Topic → Bool)

/-- The active mode that the last mode state received by the node tells. -/
def modeSeen (n : NodeId) (h : List Action) : Option UInt8 :=
  (((network setup members opens).machine.after h).link n .modeState).seen.getLast?.bind
    fun p => p.msg.mode

/-- The adapter holds `command`, and `a`, taken after `pre`, is the step of the run `h` that
published it. -/
structure HeldFrom (h pre : List Action) (a : Action) (command : TwistStamped) : Prop where
  earlier : ∃ post, h = pre ++ a :: post
  published : ∃ p, (((network setup members opens).machine.after h).link .hardwareAdapter
      .approvedCmd).seen.getLast? = some p ∧ p.msg = .approvedCmd command ∧
    (network setup members opens).PublishedBy pre a .hardwareAdapter .approvedCmd p

/-- **A tick across a mode change.** The step `i` after the run `h` is a tick of the adapter that
finds its gate open and holds a command that is not zero, and the last mode state that the adapter
received tells another active mode than the last one that the arbiter had received when that command
was published. -/
structure CrossMode (h : List Action) (i : Action) : Prop where
  tick : (network setup members opens).fired ((network setup members opens).machine.after h) i.event =
    some (.hardwareAdapter .tick)
  gate : ((network setup members opens).machine.after h).nodes.hardwareAdapter.GateOpen i.now
  held : ∃ pre a command, HeldFrom setup members opens h pre a command ∧ command.twist ≠ 0 ∧
    modeSeen setup members opens .commandArbiter pre ≠
      modeSeen setup members opens .hardwareAdapter h

/-- **A command approved in the adapter's mode.** It is the one that the adapter holds; a tick of
the arbiter published it, behind an open gate for a candidate, and with the active mode that the
adapter holds now. -/
def ApprovedInMode (h : List Action) (command : TwistStamped) : Prop :=
  ∃ pre a lane msg receivedAt, HeldFrom setup members opens h pre a command ∧
    .commandArbiter (.approved command) ∈ stepOutputs setup members opens
      ((network setup members opens).machine.after pre) a ∧
    Admitted setup.commandArbiter (commandArbiterHistory setup members opens pre) a.now lane msg
      receivedAt ∧
    ((network setup members opens).machine.after pre).nodes.commandArbiter.activeMode =
      ((network setup members opens).machine.after h).nodes.hardwareAdapter.activeMode

variable {setup members opens}

/-- The step that published the command held is one step. -/
theorem HeldFrom.unique {h pre pre' : List Action} {a a' : Action} {command command' : TwistStamped}
    (hheld : HeldFrom setup members opens h pre a command)
    (hheld' : HeldFrom setup members opens h pre' a' command') :
    pre = pre' ∧ a = a' ∧ command = command' := by
  obtain ⟨⟨post, rfl⟩, p, hlast, hmsg, hpub⟩ := hheld
  obtain ⟨⟨post', hsplit⟩, p', hlast', hmsg', hpub'⟩ := hheld'
  obtain rfl : p = p' := Option.some.inj (hlast.symm.trans hlast')
  obtain ⟨rfl, rfl⟩ := hpub.unique _ hpub' hsplit
  exact ⟨rfl, rfl, Message.approvedCmd.inj (hmsg.symm.trans hmsg')⟩

/-- The command that the adapter applies is one that it was sent. -/
theorem exists_heldFrom {h : List Action} {command : TwistStamped}
    (hlast : ((network setup members opens).machine.after h).nodes.hardwareAdapter.lastApproved =
      some command) : ∃ pre a, HeldFrom setup members opens h pre a command := by
  rw [hardwareAdapter_after_run, (HardwareAdapter.approved_after _ _).1] at hlast
  have hseen := hardwareAdapter_approved setup members opens h
  have hfst : latest (fun i => (HardwareAdapter.approvedStream i).map Prod.fst)
      (hardwareAdapterHistory setup members opens h) = some command := by
    rw [latest_map, hlast]
  rw [hfst] at hseen
  obtain ⟨p, hp, happroved⟩ := Option.bind_eq_some_iff.mp hseen.symm
  obtain ⟨pre, a, post, hsplit, hpub, -⟩ := (network setup members opens).exists_published
    (List.mem_append_left _ (List.mem_of_getLast? hp))
  exact ⟨pre, a, ⟨post, hsplit⟩, p, hp, Message.eq_of_approved happroved, hpub⟩

/-- The command held is what the adapter's field says. -/
theorem HeldFrom.lastApproved {h pre : List Action} {a : Action} {command : TwistStamped}
    (hheld : HeldFrom setup members opens h pre a command) :
    ((network setup members opens).machine.after h).nodes.hardwareAdapter.lastApproved =
      some command := by
  obtain ⟨-, p, hlast, hmsg, -⟩ := hheld
  have hseen := hardwareAdapter_approved setup members opens h
  rw [hlast, Option.bind_some, hmsg] at hseen
  rw [hardwareAdapter_after_run, (HardwareAdapter.approved_after _ _).1, ← latest_map]
  exact hseen

/-- A command that is not zero was published for an admitted candidate. -/
theorem HeldFrom.approved (hclosed : opens .approvedCmd = false) {h pre : List Action} {a : Action}
    {command : TwistStamped} (hheld : HeldFrom setup members opens h pre a command)
    (hne : command.twist ≠ 0) :
    .commandArbiter (.approved command) ∈ stepOutputs setup members opens
        ((network setup members opens).machine.after pre) a ∧
      ∃ lane msg receivedAt, Admitted setup.commandArbiter
        (commandArbiterHistory setup members opens pre) a.now lane msg receivedAt := by
  obtain ⟨-, p, -, hmsg, hpub⟩ := hheld
  have hemitted := hpub.emitted
  rw [hmsg] at hemitted
  obtain ⟨-, lane, candidate, receivedAt, hadm, -⟩ := admitted_of_approvedCmd hclosed hemitted hne
  obtain ⟨command', heq, hfired, htick⟩ := tick_of_approvedCmd hclosed hemitted rfl
  obtain rfl := Message.approvedCmd.inj heq
  rw [stepOutputs_commandArbiter_tick hfired]
  exact ⟨List.mem_map_of_mem htick, lane, candidate, receivedAt, hadm⟩

/-- The two nodes hold one active mode as soon as they received it last. -/
theorem activeMode_eq_of_modeSeen {h pre : List Action}
    (hseen : modeSeen setup members opens .commandArbiter pre =
      modeSeen setup members opens .hardwareAdapter h) :
    ((network setup members opens).machine.after pre).nodes.commandArbiter.activeMode =
      ((network setup members opens).machine.after h).nodes.hardwareAdapter.activeMode := by
  rw [commandArbiter_after_run, CommandArbiter.activeMode_after, commandArbiter_mode,
    hardwareAdapter_after_run, HardwareAdapter.activeMode_after, hardwareAdapter_mode]
  exact congrArg (Option.getD · ModeState.modeInactive) hseen

/-- And they received it last if both hold one that lets a command pass. -/
theorem modeSeen_eq_of_activeMode {h pre : List Action} {now approvedAt : Time}
    {lane : CommandArbiter.Lane} {msg : TwistStamped} {receivedAt : Time}
    (hadm : Admitted setup.commandArbiter (commandArbiterHistory setup members opens pre) approvedAt
      lane msg receivedAt)
    (hgate : ((network setup members opens).machine.after h).nodes.hardwareAdapter.GateOpen now)
    (hmode : ((network setup members opens).machine.after pre).nodes.commandArbiter.activeMode =
      ((network setup members opens).machine.after h).nodes.hardwareAdapter.activeMode) :
    modeSeen setup members opens .commandArbiter pre =
      modeSeen setup members opens .hardwareAdapter h := by
  have hreceived := hadm.mode
  rw [commandArbiter_mode] at hreceived
  have hactive := hgate.mode
  rw [commandArbiter_after_run, CommandArbiter.activeMode_after, commandArbiter_mode,
    hreceived] at hmode
  rw [← hmode, Option.getD_some] at hactive
  rw [hardwareAdapter_after_run, HardwareAdapter.activeMode_after, hardwareAdapter_mode,
    Option.getD_some] at hmode
  rw [modeSeen, modeSeen, hreceived]
  cases hseen : (((network setup members opens).machine.after h).link .hardwareAdapter
      .modeState).seen.getLast?.bind fun p => p.msg.mode with
  | some mode =>
    rw [hseen] at hmode
    exact congrArg some hmode
  | none =>
    -- before its first mode state the adapter holds `INACTIVE`, which no candidate requires
    rw [hseen] at hmode
    rw [hmode] at hactive
    exact absurd hactive (by decide)

/-- A tick of the adapter behind an open gate applies the command that it holds. -/
theorem applies_of_heldFrom {h pre : List Action} {i a : Action} {command : TwistStamped}
    (htick : (network setup members opens).fired ((network setup members opens).machine.after h)
      i.event = some (.hardwareAdapter .tick))
    (hgate : ((network setup members opens).machine.after h).nodes.hardwareAdapter.GateOpen i.now)
    (hheld : HeldFrom setup members opens h pre a command) :
    ∃ reason, .hardwareAdapter (.applyToHardware command reason) ∈
      stepOutputs setup members opens ((network setup members opens).machine.after h) i := by
  obtain ⟨reason, happly⟩ := HardwareAdapter.tick_applies_iff.mpr ⟨hgate, hheld.lastApproved⟩
  exact ⟨reason, mem_stepOutputs_iff.mpr ⟨_, htick, List.mem_map_of_mem happly⟩⟩

/-- **The main result.** Let the arbiter be the only publisher of approved commands. In every run,
each command other than zero that the adapter's next step applies was approved by the arbiter in the
mode that the adapter holds, if and only if that step is no tick across a mode change. -/
theorem applied_inMode_iff (setup : Setup) (members : NodeId → Bool) (opens : Topic → Bool)
    (hclosed : opens .approvedCmd = false) (h : List Action) (i : Action) :
    (∀ command reason, .hardwareAdapter (.applyToHardware command reason) ∈
        stepOutputs setup members opens ((network setup members opens).machine.after h) i →
      command.twist ≠ 0 → ApprovedInMode setup members opens h command) ↔
      ¬CrossMode setup members opens h i := by
  constructor
  · rintro hinMode ⟨htick, hgate, pre, a, command, hheld, hne, hmodes⟩
    obtain ⟨reason, happly⟩ := applies_of_heldFrom htick hgate hheld
    obtain ⟨pre', a', lane, msg, receivedAt, hheld', -, hadm, hmode⟩ :=
      hinMode command reason happly hne
    obtain ⟨rfl, rfl, -⟩ := hheld.unique hheld'
    exact hmodes (modeSeen_eq_of_activeMode hadm hgate hmode)
  · intro hcross command reason happly hne
    obtain ⟨e, hfired, heffect⟩ := mem_stepOutputs_iff.mp happly
    obtain ⟨e', rfl, heffect⟩ := Nodes.mem_step_hardwareAdapter heffect
    obtain ⟨rfl, heffect⟩ := HardwareAdapter.step_applies heffect
    obtain ⟨hgate, hlast⟩ := HardwareAdapter.tick_applies_iff.mp ⟨reason, heffect⟩
    obtain ⟨pre, a, hheld⟩ := exists_heldFrom hlast
    obtain ⟨happroved, lane, msg, receivedAt, hadm⟩ := hheld.approved hclosed hne
    refine ⟨pre, a, lane, msg, receivedAt, hheld, happroved, hadm, activeMode_eq_of_modeSeen ?_⟩
    by_contra hmodes
    exact hcross ⟨hfired, hgate, pre, a, command, hheld, hne, hmodes⟩

end Network

/-! ## A tick in one mode, and a tick across two -/

/-- The arbiter and the hardware adapter. -/
def gateNodes (n : NodeId) : Bool := n ∈ [.commandArbiter, .hardwareAdapter]

/-- The topics on which the two nodes do not publish. -/
def gateOpens (t : Topic) : Bool := t ∉ [.approvedCmd, .arbitrationState, .hardwareHeartbeat]

/-- The arbiter has what it needs to approve a teleop candidate. -/
def teleopReady : List Action :=
  [⟨0, .inject (.modeState { activeMode := ModeState.modeTeleop })⟩,
    ⟨0, .inject (.safetyState { state := SafetyState.stateOk })⟩,
    ⟨0, .inject (.candidate .teleop { twist := { linear := { x := .fin (1 / 4) } } })⟩,
    ⟨0, .deliver .commandArbiter .modeState 0⟩,
    ⟨0, .deliver .commandArbiter .safetyState 0⟩,
    ⟨0, .deliver .commandArbiter (.candidate .teleop) 0⟩]

/-- The adapter receives the safety state, the command and the arbitration state. -/
def adapterReceives : List Action :=
  [⟨0, .deliver .hardwareAdapter .safetyState 0⟩,
    ⟨0, .deliver .hardwareAdapter .approvedCmd 0⟩,
    ⟨0, .deliver .hardwareAdapter .arbitrationState 0⟩]

/-- The approved command of both runs. -/
def teleopCommand : TwistStamped where
  header := { stamp := 0, frameId := "" }
  twist := { linear := { x := .fin (1 / 4) } }

/-- The adapter learns of `TELEOP` only. -/
def oneModeRun : List Action :=
  teleopReady ++ ⟨0, .act (.commandArbiter .tick)⟩ ::
    ⟨0, .deliver .hardwareAdapter .modeState 0⟩ :: adapterReceives

/-- The adapter learns of `TELEOP` and of the `AUTONOMY` that follows. -/
def twoModesRun : List Action :=
  teleopReady ++ ⟨0, .act (.commandArbiter .tick)⟩ ::
    ⟨0, .inject (.modeState { activeMode := ModeState.modeAutonomy })⟩ ::
    ⟨0, .deliver .hardwareAdapter .modeState 0⟩ ::
    ⟨0, .deliver .hardwareAdapter .modeState 0⟩ :: adapterReceives

/-- The arbiter's tick publishes it, as the first packet for the adapter. -/
theorem publishedBy_teleopCommand :
    (network {} gateNodes gateOpens).PublishedBy teleopReady ⟨0, .act (.commandArbiter .tick)⟩
      .hardwareAdapter .approvedCmd ⟨0, 0, .approvedCmd teleopCommand⟩ where
  low := by decide +kernel
  high := by decide +kernel
  sentAt := rfl
  emitted := by decide +kernel
  topic := rfl

/-- In both runs, that is the command that the adapter holds. -/
theorem heldFrom_runs :
    HeldFrom {} gateNodes gateOpens oneModeRun teleopReady ⟨0, .act (.commandArbiter .tick)⟩
        teleopCommand ∧
      HeldFrom {} gateNodes gateOpens twoModesRun teleopReady ⟨0, .act (.commandArbiter .tick)⟩
        teleopCommand := by
  constructor
  · exact ⟨⟨_, rfl⟩, ⟨0, 0, .approvedCmd teleopCommand⟩, by decide +kernel, rfl,
      publishedBy_teleopCommand⟩
  · exact ⟨⟨_, rfl⟩, ⟨0, 0, .approvedCmd teleopCommand⟩, by decide +kernel, rfl,
      publishedBy_teleopCommand⟩

/-- A command approved and applied in `TELEOP`. -/
theorem applied_inMode_teleop :
    ApprovedInMode {} gateNodes gateOpens oneModeRun teleopCommand := by
  have hcross : ¬CrossMode {} gateNodes gateOpens oneModeRun ⟨0, .act (.hardwareAdapter .tick)⟩ := by
    rintro ⟨-, -, pre, a, command, hheld, -, hmodes⟩
    -- the command held is the one above, published in the mode that the adapter received
    obtain ⟨rfl, -, -⟩ := hheld.unique heldFrom_runs.1
    exact hmodes (by decide +kernel)
  have happly : .hardwareAdapter (.applyToHardware teleopCommand HardwareAdapter.gateOpenReason) ∈
      stepOutputs {} gateNodes gateOpens ((network {} gateNodes gateOpens).machine.after oneModeRun)
        ⟨0, .act (.hardwareAdapter .tick)⟩ := by decide +kernel
  exact (applied_inMode_iff {} gateNodes gateOpens (by decide) oneModeRun
    ⟨0, .act (.hardwareAdapter .tick)⟩).mpr hcross teleopCommand _ happly (by decide +kernel)

/-- **A command approved in `TELEOP` is applied in `AUTONOMY`**, in a run without loss and
overtaking. -/
theorem not_applied_inMode :
    ¬∀ (setup : Setup) (h : List Action) (i : Action), Network.Fifo h →
      ∀ command reason, .hardwareAdapter (.applyToHardware command reason) ∈
          stepOutputs setup gateNodes gateOpens
            ((network setup gateNodes gateOpens).machine.after h) i →
        command.twist ≠ 0 → ApprovedInMode setup gateNodes gateOpens h command := by
  intro hall
  have hfifo : Network.Fifo twoModesRun := by
    simp [Network.Fifo, Label.InOrder, twoModesRun, teleopReady, adapterReceives]
  have happly : .hardwareAdapter (.applyToHardware teleopCommand HardwareAdapter.gateOpenReason) ∈
      stepOutputs {} gateNodes gateOpens ((network {} gateNodes gateOpens).machine.after twoModesRun)
        ⟨0, .act (.hardwareAdapter .tick)⟩ := by decide +kernel
  obtain ⟨pre, a, lane, msg, receivedAt, hheld, -, -, hmode⟩ := hall {} twoModesRun
    ⟨0, .act (.hardwareAdapter .tick)⟩ hfifo teleopCommand _ happly (by decide +kernel)
  obtain ⟨rfl, -, -⟩ := hheld.unique heldFrom_runs.2
  exact absurd hmode (by decide +kernel)

end HumaWare.Runtime
