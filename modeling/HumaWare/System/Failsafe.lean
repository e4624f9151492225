import HumaWare.System.Origin
import HumaWare.System.Watching

/-! # How soon the robot is safe

The watchdogs of the safety manager, the publications of the mode and the safety state and the gates
of their subscribers work in a chain, each with a delay of its own. The delays add up: from the last
message of a watched party to the silence of a node, and from the operator's change of the mode to a
robot that moves on keys alone.

* **`Follows`** — what a subscriber needs of the network to be up to date;
* **`SafetySubscriber.safetyOf_recent`**, **`ModeSubscriber.modeOf_recent`** — what it then holds was
  published lately;
* **`failsafe`** — a node is silent soon after a watched party died;
* **`takeover`** — the robot is the operator's soon after the mode is. -/

namespace HumaWare.System

open Reactive
open SafetyManager (Watchdog safetyMsg)

variable (setup : Setup) (members : NodeId → Bool) (opens : Topic → Bool)

/-! ## Up-to-date subscribers -/

/-- **The node follows the topic** up to the step `i` after `h`: the topic is closed to outside parties
and published at least every `P`, first at the reading `start` or before, and its link to the node
delivers everything in order and within `D`. -/
structure Follows (n : NodeId) (t : Topic) (P D : Duration) (start : Time) (h : List Action)
    (i : Action) : Prop where
  clock : ClockMonotone (h ++ [i])
  member : members n = true
  closed : opens t = false
  nonneg : 0 ≤ P ∧ 0 ≤ D
  cadence : (network setup members opens).Cadence t P (h ++ [i])
  delivers : (network setup members opens).DeliversWithin n t D (h ++ [i])
  fifo : Network.FifoOn n t h
  started : ∃ pre a post, h = pre ++ a :: post ∧ (network setup members opens).Emits t pre a ∧
    a.now ≤ start

variable {setup members opens}

/-- What holds up to a step holds up to an earlier one, if that is later than the start. -/
theorem Follows.of_append {n : NodeId} {t : Topic} {P D : Duration} {start : Time}
    {pre post : List Action} {a i : Action}
    (hfollows : Follows setup members opens n t P D start (pre ++ a :: post) i) (hlate : start < a.now) :
    Follows setup members opens n t P D start pre a := by
  have hsplit : pre ++ a :: post ++ [i] = pre ++ [a] ++ (post ++ [i]) := by simp
  obtain ⟨hmono, hmember, hclosed, hnonneg, hcadence, hdelivers, hfifo, hstarted⟩ := hfollows
  obtain ⟨pre', b, post', hstart, hemits, hle⟩ := hstarted
  obtain ⟨mid, rfl⟩ := hmono.of_append.exists_between hstart (lt_of_le_of_lt hle hlate)
  rw [hsplit] at hmono hcadence hdelivers
  exact ⟨hmono.of_append, hmember, hclosed, hnonneg, hcadence.of_append, hdelivers.of_append,
    fun j hj => hfifo j (List.mem_append_left _ hj), pre', b, mid, rfl, hemits, hle⟩

section Held

variable {n : NodeId} {t : Topic} {P D : Duration} {start : Time} {h : List Action} {i : Action}

/-- A node that follows a topic subscribes to it. -/
theorem Follows.isSome_receive (hfollows : Follows setup members opens n t P D start h i)
    (hsubscribes : ∀ m : Message, m.topic = t → (subscription n m).isSome) (m : Message)
    (hm : m.topic = t) : ((network setup members opens).receive n m).isSome := by
  show (if members n = true then subscription n m else none).isSome
  rw [if_pos hfollows.member]
  exact hsubscribes m hm

/-- The topic has a start that is old enough. -/
theorem Follows.started_before (hfollows : Follows setup members opens n t P D start h i)
    (hlate : start + D < i.now) :
    ∃ pre a post, h = pre ++ a :: post ∧ (network setup members opens).Emits t pre a ∧
      a.now + D < i.now := by
  obtain ⟨pre, a, post, hsplit, hemits, hle⟩ := hfollows.started
  exact ⟨pre, a, post, hsplit, hemits, lt_of_le_of_lt (add_le_add_left hle D) hlate⟩

/-- **What a node that follows a topic holds of it** was published at most `P + D` ago. -/
theorem Follows.held (hfollows : Follows setup members opens n t P D start h i)
    (hlate : start + D < i.now)
    (hsubscribes : ∀ m : Message, m.topic = t → (subscription n m).isSome) {α : Type*}
    (reg : Nodes → α) (g : Message → α)
    (keep : ∀ s x, reg ((nodes setup).next s x) =
      (((callbacks setup members opens).heardOn n t x.event).map g).getD (reg s)) :
    ∃ pre a post m, h = pre ++ a :: post ∧
      m ∈ (network setup members opens).emitted ((network setup members opens).machine.after pre) a ∧
      m.topic = t ∧ reg ((network setup members opens).machine.after h).nodes = g m ∧
      i.now ≤ a.now + (P + D) :=
  (callbacks setup members opens).register_of_cadence reg g keep hfollows.clock hfollows.nonneg.2
    hfollows.cadence hfollows.delivers hfollows.fifo (hfollows.isSome_receive hsubscribes)
    (hfollows.started_before hlate)

/-- **It was handed over** at most `P + D` ago. -/
theorem Follows.heard (hfollows : Follows setup members opens n t P D start h i)
    (hlate : start + D < i.now)
    (hsubscribes : ∀ m : Message, m.topic = t → (subscription n m).isSome)
    (reg : Nodes → Option Time) (hinit : reg (nodes setup).init = none)
    (keep : ∀ s x, reg ((nodes setup).next s x) =
      ((callbacks setup members opens).heardAt n t x).or (reg s)) :
    ∃ now, reg ((network setup members opens).machine.after h).nodes = some now ∧
      i.now ≤ now + (P + D) := by
  obtain ⟨now, hlast, hrecent⟩ := (callbacks setup members opens).heardAt_of_cadence hfollows.clock
    hfollows.nonneg.2 hfollows.cadence hfollows.delivers (hfollows.isSome_receive hsubscribes)
    (hfollows.started_before hlate)
  refine ⟨now, ?_, hrecent⟩
  rw [← hlast]
  exact (callbacks setup members opens).heardAt_register reg hinit keep h

end Held

/-- **The safety state that a subscriber holds** was published at most `P + D` ago. -/
theorem SafetySubscriber.safetyOf_recent {n : SafetySubscriber} {P D : Duration} {start : Time}
    {h : List Action} {i : Action}
    (hfollows : Follows setup members opens n.node (.runtime .safetyState) P D start h i)
    (hlate : start + D < i.now) :
    ∃ pre a post safety, h = pre ++ a :: post ∧
      .runtime (.safetyState safety) ∈ (network setup members opens).emitted
        ((network setup members opens).machine.after pre) a ∧
      n.safetyOf ((network setup members opens).machine.after h).nodes = safety.state ∧
      i.now ≤ a.now + (P + D) := by
  obtain ⟨pre, a, post, m, hsplit, hm, htopic, hheld, hrecent⟩ := hfollows.held hlate
    (fun _ hm => n.isSome_subscription hm) (fun s => n.safetyOf s) Message.safety
    (fun s x => n.held_next s x)
  obtain ⟨safety, rfl, -⟩ := output_of_safetyState hfollows.closed hm htopic
  exact ⟨pre, a, post, safety, hsplit, hm, hheld, hrecent⟩

/-- **The mode that a subscriber holds** was published at most `P + D` ago. -/
theorem ModeSubscriber.modeOf_recent {n : ModeSubscriber} {P D : Duration} {start : Time}
    {h : List Action} {i : Action}
    (hfollows : Follows setup members opens n.node (.runtime .modeState) P D start h i)
    (hlate : start + D < i.now) :
    ∃ pre a post mode, h = pre ++ a :: post ∧
      .runtime (.modeState mode) ∈ (network setup members opens).emitted
        ((network setup members opens).machine.after pre) a ∧
      n.modeOf ((network setup members opens).machine.after h).nodes = mode.activeMode ∧
      i.now ≤ a.now + (P + D) := by
  obtain ⟨pre, a, post, m, hsplit, hm, htopic, hheld, hrecent⟩ := hfollows.held hlate
    (fun _ hm => n.isSome_subscription hm) (fun s => n.modeOf s) Message.mode
    (fun s x => n.held_next s x)
  obtain ⟨mode, rfl, -⟩ := output_of_modeState hfollows.closed hm htopic
  exact ⟨pre, a, post, mode, hsplit, hm, hheld, hrecent⟩

/-! ## A watched party dies -/

variable (setup members opens) in
/-- **The watchdog is on guard**: it is on whenever the safety state is published after the reading
`since`, with a timeout of at most `T`, and it triggers an MRM. -/
def OnGuard (w : Watchdog) (T : Duration) (since : Time) (h : List Action) : Prop :=
  ∀ pre a post, h = pre ++ a :: post → since < a.now →
    (network setup members opens).Emits (.runtime .safetyState) pre a →
    let s := ((network setup members opens).machine.after (pre ++ [a])).nodes.runtime.safetyManager
    w.enabled s.params = true ∧ s.activeMode ∈ w.modes ∧ (w.firesOnSilence ∨ (s.lastSeen w).isSome) ∧
      w.triggersMrm s.params = true ∧ w.timeout s.params ≤ T

/-- **From a dead party to a silent node.** Let nothing be published on a watched topic after the
reading `since`, let its link hand over nothing older than `D₁`, and let the watchdog be on guard from
its timeout on. Then a subscriber that follows the safety state is silent in every step later than
`since` by the watchdog's timeout, the period of the safety state and the two delays together; and if
it tells a safety state, it tells an MRM or the emergency stop. -/
theorem failsafe (setup : Setup) (members : NodeId → Bool) (opens : Topic → Bool) (w : Watchdog)
    (n : SafetySubscriber) (T P D₁ D₂ : Duration) (since start : Time) (h : List Action) (i : Action)
    (hsilent : ∀ pre a post, h = pre ++ a :: post →
      (network setup members opens).Emits (watched w) pre a → a.now ≤ since)
    (harrives : (network setup members opens).ArrivesWithin (.runtime .safetyManager) (watched w) D₁ h)
    (hguard : OnGuard setup members opens w T (since + D₁ + T) h)
    (hfollows : Follows setup members opens n.node (.runtime .safetyState) P D₂ start h i)
    (hstart : start + D₂ < i.now) (hlate : since + D₁ + T + P + D₂ < i.now) :
    ∀ x ∈ stepOutputs setup members opens ((network setup members opens).machine.after h) i,
      n.Silent x ∧ ∃ safety, Runtime.Blocking safety ∧ n.TellsSafety safety x := by
  intro x hx
  -- what the subscriber holds was published after the watchdog's timeout
  obtain ⟨pre, a, post, safety, rfl, hm, hheld, hrecent⟩ :=
    SafetySubscriber.safetyOf_recent hfollows hstart
  obtain ⟨henabled, hmode, hheard, htriggers, htimeout⟩ :=
    hguard pre a post rfl (by linarith) ⟨_, hm, rfl⟩
  obtain ⟨_, hmsg, hpub⟩ := output_of_safetyState hfollows.closed hm rfl
  cases hmsg
  obtain ⟨rfl, hfires⟩ := fires_of_silence
    (fun pre' b post' hsplit => hsilent pre' b (post' ++ a :: post) (by rw [hsplit]; simp))
    harrives.of_append hpub rfl henabled hmode hheard (by linarith)
  have hblocking : Runtime.Blocking (n.safetyOf ((network setup members opens).machine.after
      (pre ++ a :: post)).nodes) := by
    rw [hheld]
    exact blocking_of_fires hfires htriggers
  obtain ⟨e, -, hx⟩ := mem_stepOutputs_iff.mp hx
  exact ⟨SafetySubscriber.silent_of_blocking hblocking hx,
    _, hblocking, SafetySubscriber.told_of_step n hx⟩

/-! ### The hardware is lost -/

/-- A safety manager that watches the hardware. -/
def watchfulSetup : Setup :=
  { runtime := { safetyManager := { requireHardwareHeartbeat := true, hardwareHeartbeatTimeout := 10 } } }

/-- The hardware adapter sends one heartbeat; some time later the safety state reaches the arbiter. -/
def lostRun : List Action :=
  [⟨0, .inject (.runtime (.modeState { activeMode := ModeState.modeTeleop }))⟩,
    ⟨0, .deliver (.runtime .safetyManager) (.runtime .modeState) 0⟩,
    ⟨0, .act (.runtime (.hardwareAdapter .publishHeartbeat))⟩,
    ⟨1, .deliver (.runtime .safetyManager) (.runtime .hardwareHeartbeat) 0⟩,
    ⟨14, .act (.runtime (.safetyManager .publishState))⟩,
    ⟨15, .deliver (.runtime .commandArbiter) (.runtime .safetyState) 0⟩]

/-- The run loses nothing, and hands everything over within a nanosecond. -/
theorem delivers_lostRun (n : NodeId) (t : Topic)
    (hlink : (n, t) ∈ [(NodeId.runtime .safetyManager, Topic.runtime .hardwareHeartbeat),
      (.runtime .commandArbiter, .runtime .safetyState)]) :
    (network watchfulSetup (fun _ => true) (fun t => t = .runtime .modeState)).DeliversWithin n t 1
      (lostRun ++ [⟨43, .act (.runtime (.commandArbiter .tick))⟩]) := by
  constructor
  · simp [lostRun]
  · refine forall_step_iff.mpr ?_
    simp only [List.mem_cons, Prod.mk.injEq, List.not_mem_nil, or_false] at hlink
    rcases hlink with ⟨rfl, rfl⟩ | ⟨rfl, rfl⟩ <;> decide +kernel

/-- In that run the arbiter follows the safety state. -/
theorem follows_lostRun : Follows watchfulSetup (fun _ => true) (fun t => t = .runtime .modeState)
    (.runtime .commandArbiter) (.runtime .safetyState) 30 1 14 lostRun
    ⟨43, .act (.runtime (.commandArbiter .tick))⟩ where
  clock := by decide
  member := rfl
  closed := rfl
  nonneg := by decide
  cadence := by
    refine Network.cadence_of_getElem ?_
    unfold Network.Emits
    decide +kernel
  delivers := delivers_lostRun _ _ (by decide)
  fifo := by simp [Network.FifoOn, lostRun]
  started := ⟨lostRun.take 4, ⟨14, .act (.runtime (.safetyManager .publishState))⟩, lostRun.drop 5, rfl,
    ⟨_, List.mem_cons_self, rfl⟩, by decide⟩

/-- What the arbiter then reports. -/
def lostReport : CommandArbitrationState where
  header := { stamp := 43, frameId := "mock_001" }
  robotId := "mock_001"
  activeSource := CommandArbitrationState.sourceSafety
  activeSourceName := "safety"
  activeMode := ModeState.modeInactive
  safetyState := SafetyState.stateMrm
  stopCommandPublished := true
  reason := "safety_state_blocks_output"

/-- The arbiter's next tick leaves its output disabled, and tells the MRM. -/
theorem failsafe_hardware :
    (SafetySubscriber.both (.consumer .commandArbiter)).Silent
        (.runtime (.commandArbiter (.arbitrationState lostReport))) ∧
      ∃ safety, Runtime.Blocking safety ∧
        (SafetySubscriber.both (.consumer .commandArbiter)).TellsSafety safety
          (.runtime (.commandArbiter (.arbitrationState lostReport))) := by
  refine failsafe watchfulSetup (fun _ => true) (fun t => t = .runtime .modeState) .hardwareHeartbeat
    (.both (.consumer .commandArbiter)) 10 30 1 1 0 14 lostRun
    ⟨43, .act (.runtime (.commandArbiter .tick))⟩ (forall_step_iff.mpr ?_) ?_ (forall_step_iff.mpr ?_) follows_lostRun (by decide) (by decide) _
    (by decide +kernel)
  · unfold Network.Emits
    decide +kernel
  · exact (delivers_lostRun (.runtime .safetyManager) (.runtime .hardwareHeartbeat)
      (by decide)).of_append.arrivesWithin
  · unfold Network.Emits
    decide +kernel

/-! ## The operator takes over -/

variable (setup members opens) in
/-- Every mode published after the reading `since` is one of the operator's, not a mode of autonomy. -/
def InOperatorMode (since : Time) (h : List Action) : Prop :=
  ∀ pre a post, h = pre ++ a :: post → since < a.now →
    ∀ m ∈ (network setup members opens).emitted ((network setup members opens).machine.after pre) a,
      m.topic = .runtime .modeState → m.mode ∉ ModeManager.autonomyModes

variable (setup members opens) in
/-- When the arbiter ticks, its limits are not negative and its command timeout is at most `T`. -/
def Moderate (T : Duration) (h : List Action) : Prop :=
  ∀ pre a post, h = pre ++ a :: post →
    (network setup members opens).fired ((network setup members opens).machine.after pre) a.event =
      some (.runtime (.commandArbiter .tick)) →
    let s := ((network setup members opens).machine.after pre).nodes.runtime.commandArbiter
    0 ≤ s.params.maxLinearVelocityMps ∧ 0 ≤ s.params.maxAngularVelocityRadps ∧
      s.params.commandTimeout ≤ T

/-- **The operator takes over.** Let no mode of autonomy be published after the reading `since`, and
let the arbiter follow the mode. Later than `since` by the period of the mode, its delay, the delay of
the approved command and the adapter's timeout together, a command other than zero that the hardware
adapter applies is the clamp of a candidate that the keyboard node published, and a motion key was
pressed lately: what an autonomous node commanded is out of the system. -/
theorem takeover (setup : Setup) (members : NodeId → Bool) (opens : Topic → Bool)
    (T P D₁ D₂ D₃ : Duration) (since : Time) (h : List Action) (i : Action)
    (hguarded : Guarded setup members opens D₁ D₂ h)
    (hoperator : InOperatorMode setup members opens since h)
    (hmoderate : Moderate setup members opens T h)
    (hfollows : Follows setup members opens (.runtime .commandArbiter) (.runtime .modeState) P D₃ since
      h i) (command : TwistStamped) (reason : String)
    (happly : .runtime (.hardwareAdapter (.applyToHardware command reason)) ∈
      stepOutputs setup members opens ((network setup members opens).machine.after h) i)
    (hne : command.twist ≠ 0)
    (hlate : since + P + D₃ + D₂ + ((network setup members opens).machine.after
      h).nodes.runtime.hardwareAdapter.params.approvedCommandTimeout < i.now) :
    ∃ pre b mid a post candidate key keyAt, h = pre ++ b :: (mid ++ a :: post) ∧
      .keyboardTeleop (.teleopCmd candidate) ∈ stepOutputs setup members opens
        ((network setup members opens).machine.after pre) b ∧
      Approves setup members opens ((network setup members opens).machine.after (pre ++ b :: mid)) a
        .teleop candidate.twist command.twist ∧
      ⟨keyAt, .keyboardTeleop (.key key)⟩ ∈ (network setup members opens).events pre ∧
      KeyboardTeleop.isMotionKey key = true ∧
      i.now - keyAt ≤ setup.keyboardTeleop.keyTimeout + D₁ + T + D₂ +
        ((network setup members opens).machine.after
          h).nodes.runtime.hardwareAdapter.params.approvedCommandTimeout := by
  obtain ⟨pre, b, mid, a, post, lane, candidate, hsplit, -, hmade, happroves, hsince, hage⟩ :=
    originates_of_applied hguarded happly hne
  have hsplit' : h = (pre ++ b :: mid) ++ a :: post := by rw [hsplit]; simp
  obtain ⟨hlinear, hangular, htimeout⟩ := hmoderate _ a post hsplit' happroves.tick
  obtain ⟨hP, hD₃⟩ := hfollows.nonneg
  -- by the time of the approval the arbiter held a mode published after `since`
  have hmode : ((network setup members opens).machine.after
      (pre ++ b :: mid)).nodes.runtime.commandArbiter.activeMode ∉ ModeManager.autonomyModes := by
    rw [hsplit'] at hfollows
    obtain ⟨pre', c, post', mode, hsplit'', hm, hheld, hrecent⟩ :=
      ModeSubscriber.modeOf_recent (n := .both (.consumer .commandArbiter))
        (hfollows.of_append (by linarith)) (by linarith)
    have hheld : ((network setup members opens).machine.after
      (pre ++ b :: mid)).nodes.runtime.commandArbiter.activeMode = mode.activeMode := hheld
    rw [hheld]
    exact hoperator pre' c (post' ++ a :: post) (by rw [hsplit', hsplit'']; simp) (by linarith) _ hm rfl
  obtain rfl := lane_of_approves happroves hmode
  obtain ⟨key, keyAt, hx, hmotion, hkey⟩ := key_of_approves hmade happroves hne hlinear hangular
  exact ⟨pre, b, mid, a, post, candidate, key, keyAt, hsplit, hmade.1, happroves, hx, hmotion,
    by linarith⟩

/-! ### From autonomy to the operator -/

/-- A mode manager that starts in `AUTONOMY`, and an impatient hardware adapter. -/
def takeoverSetup : Setup :=
  { runtime := { modeManager := { initialMode := .str "autonomy" }
                 hardwareAdapter := { approvedCommandTimeout := 10 } } }

/-- The nodes from the key and from the navigation to the hardware, and the mode manager. -/
def takeoverMembers (n : NodeId) : Bool :=
  n ∈ [.keyboardTeleop, .runtime .nav2Bridge, .runtime .modeManager, .runtime .commandArbiter,
    .runtime .hardwareAdapter]

/-- The topics on which the rest of the system is heard. -/
def takeoverOpens (t : Topic) : Bool :=
  t ∈ [.runtime .safetyState, .runtime .locomotionState, .runtime .nav2Twist]

/-- In `AUTONOMY`, a navigation command is approved. The operator takes over while it is on its way to
the hardware adapter, and the next one on its way to the arbiter. Then a key is pressed, and its command
reaches the hardware. -/
def takeoverRun : List Action :=
  [⟨0, .act (.runtime (.modeManager .publishState))⟩,
    ⟨0, .inject (.runtime (.safetyState { state := SafetyState.stateOk }))⟩,
    ⟨0, .inject (.runtime (.locomotionState { state := LocomotionState.stateStanding }))⟩,
    ⟨1, .deliver (.runtime .commandArbiter) (.runtime .modeState) 0⟩,
    ⟨1, .deliver (.runtime .nav2Bridge) (.runtime .modeState) 0⟩,
    ⟨1, .deliver (.runtime .hardwareAdapter) (.runtime .modeState) 0⟩,
    ⟨2, .deliver (.runtime .commandArbiter) (.runtime .safetyState) 0⟩,
    ⟨2, .deliver (.runtime .nav2Bridge) (.runtime .safetyState) 0⟩,
    ⟨2, .deliver (.runtime .hardwareAdapter) (.runtime .safetyState) 0⟩,
    ⟨2, .deliver (.runtime .nav2Bridge) (.runtime .locomotionState) 0⟩,
    ⟨3, .inject (.runtime (.nav2Twist { linear := { x := .fin 1 } }))⟩,
    ⟨3, .inject (.runtime (.nav2Twist { linear := { x := .fin 1 } }))⟩,
    ⟨4, .deliver (.runtime .nav2Bridge) (.runtime .nav2Twist) 0⟩,
    ⟨5, .deliver (.runtime .commandArbiter) (.runtime (.candidate .autonomy)) 0⟩,
    ⟨6, .deliver (.runtime .nav2Bridge) (.runtime .nav2Twist) 0⟩,
    ⟨9, .act (.runtime (.commandArbiter .tick))⟩,
    ⟨10, .act (.runtime (.modeManager (.takeover {})))⟩,
    ⟨10, .deliver (.runtime .hardwareAdapter) (.runtime .approvedCmd) 0⟩,
    ⟨10, .deliver (.runtime .hardwareAdapter) (.runtime .arbitrationState) 0⟩,
    ⟨11, .deliver (.runtime .commandArbiter) (.runtime .modeState) 0⟩,
    ⟨11, .deliver (.runtime .hardwareAdapter) (.runtime .modeState) 0⟩,
    ⟨12, .deliver (.runtime .commandArbiter) (.runtime (.candidate .autonomy)) 0⟩,
    ⟨60, .act (.runtime (.modeManager .publishState))⟩,
    ⟨61, .deliver (.runtime .commandArbiter) (.runtime .modeState) 0⟩,
    ⟨65, .act (.keyboardTeleop (.key "w"))⟩,
    ⟨66, .act (.keyboardTeleop .publishTick)⟩,
    ⟨67, .deliver (.runtime .commandArbiter) (.runtime (.candidate .teleop)) 0⟩,
    ⟨68, .act (.runtime (.commandArbiter .tick))⟩,
    ⟨69, .deliver (.runtime .hardwareAdapter) (.runtime .approvedCmd) 0⟩,
    ⟨69, .deliver (.runtime .hardwareAdapter) (.runtime .arbitrationState) 0⟩]

/-- The command that the key makes. -/
def takeoverCommand : TwistStamped where
  header := { stamp := 68, frameId := "mock_001" }
  twist := { linear := { x := .fin (1 / 20) } }

/-- The run loses nothing, and hands everything over within a nanosecond. -/
theorem delivers_takeoverRun (n : NodeId) (t : Topic)
    (hlink : (n, t) ∈ [(NodeId.runtime .commandArbiter, Topic.runtime .modeState),
      (.runtime .locomotionAdapter, .runtime .approvedCmd),
      (.runtime .hardwareAdapter, .runtime .approvedCmd)]) :
    (network takeoverSetup takeoverMembers takeoverOpens).DeliversWithin n t 1
      (takeoverRun ++ [⟨73, .act (.runtime (.hardwareAdapter .tick))⟩]) := by
  constructor
  · have hnodrop : ∀ x ∈ takeoverRun ++ [⟨73, .act (.runtime (.hardwareAdapter .tick))⟩],
        ∀ n t k, x.event ≠ .drop n t k := by
      simp [takeoverRun]
    exact fun x hx k => hnodrop x hx n t k
  · refine forall_step_iff.mpr ?_
    simp only [List.mem_cons, Prod.mk.injEq, List.not_mem_nil, or_false] at hlink
    rcases hlink with ⟨rfl, rfl⟩ | ⟨rfl, rfl⟩ | ⟨rfl, rfl⟩ <;> decide +kernel

/-- In that run the arbiter follows the mode. -/
theorem follows_takeoverRun : Follows takeoverSetup takeoverMembers takeoverOpens
    (.runtime .commandArbiter) (.runtime .modeState) 50 1 10 takeoverRun
    ⟨73, .act (.runtime (.hardwareAdapter .tick))⟩ where
  clock := by decide
  member := rfl
  closed := rfl
  nonneg := by decide
  cadence := by
    refine Network.cadence_of_getElem ?_
    unfold Network.Emits
    decide +kernel
  delivers := delivers_takeoverRun _ _ (by decide)
  fifo := by simp [Network.FifoOn, takeoverRun]
  started := ⟨[], ⟨0, .act (.runtime (.modeManager .publishState))⟩, takeoverRun.drop 1, rfl,
    ⟨_, List.mem_cons_self, rfl⟩, by decide⟩

/-- The links of that run are guarded. -/
theorem guarded_takeoverRun : Guarded takeoverSetup takeoverMembers takeoverOpens 70 1 takeoverRun where
  candidates lane := by cases lane <;> rfl
  approved := rfl
  toArbiter lane := Network.arrivesWithin_of_span _ (by decide) _ _
  toAdapters n hn := by
    simp only [Runtime.adapters, List.mem_cons, List.not_mem_nil, or_false] at hn
    rcases hn with rfl | rfl
    · exact (delivers_takeoverRun _ _ (by decide)).of_append.arrivesWithin
    · exact (delivers_takeoverRun _ _ (by decide)).of_append.arrivesWithin

/-- The command that the hardware adapter applies in the end is the operator's. -/
theorem takeover_driving :
    ∃ pre b s a candidate, .keyboardTeleop (.teleopCmd candidate) ∈ stepOutputs takeoverSetup
        takeoverMembers takeoverOpens ((network takeoverSetup takeoverMembers
          takeoverOpens).machine.after pre) b ∧
      Approves takeoverSetup takeoverMembers takeoverOpens s a .teleop candidate.twist
        takeoverCommand.twist := by
  have htimeout : ((network takeoverSetup takeoverMembers takeoverOpens).machine.after
      takeoverRun).nodes.runtime.hardwareAdapter.params.approvedCommandTimeout = 10 := by
    decide +kernel
  have hoperator : InOperatorMode takeoverSetup takeoverMembers takeoverOpens 10 takeoverRun := by
    refine forall_step_iff.mpr ?_
    decide +kernel
  have hmoderate : Moderate takeoverSetup takeoverMembers takeoverOpens 500000000 takeoverRun := by
    refine forall_step_iff.mpr ?_
    decide +kernel
  obtain ⟨pre, b, mid, a, post, candidate, key, keyAt, hsplit, hcommand, happroves, -⟩ :=
    takeover takeoverSetup takeoverMembers takeoverOpens 500000000 50 70 1 1 10 takeoverRun
      ⟨73, .act (.runtime (.hardwareAdapter .tick))⟩ guarded_takeoverRun hoperator hmoderate
      follows_takeoverRun takeoverCommand "approved_command" (by decide +kernel) (by decide +kernel)
      (by rw [htimeout]; decide)
  exact ⟨pre, b, _, a, candidate, hcommand, happroves⟩

end HumaWare.System
