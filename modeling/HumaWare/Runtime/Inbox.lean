import HumaWare.CommandArbiter.Gate
import HumaWare.HardwareAdapter.Gate
import HumaWare.Runtime.Network

/-! # What a node received last

A node keeps of a topic what the last message on it said. On the network's side that message is the
last packet seen on the node's link, so what a node holds can be read off the links alone.

* **`latest_heardOn`** — the last message a node handled on a topic is the last packet it saw there;
* **`commandArbiter_mode`**, **`commandArbiter_safety`**, **`hardwareAdapter_mode`**,
  **`hardwareAdapter_approved`** — the streams of two nodes, read off their links. -/

namespace HumaWare.Runtime

open Reactive

/-- The message of a topic that an event hands to a node. -/
def heardOn (n : NodeId) (t : Topic) (e : Event) : Option Message :=
  if e.node = n then e.message.filter (·.topic = t) else none

/-- A message heard on a topic is of that topic. -/
theorem topic_of_heardOn {n : NodeId} {t : Topic} {e : Event} {m : Message}
    (h : heardOn n t e = some m) : m.topic = t := by
  rw [heardOn, Option.ite_none_right_eq_some, Option.filter_eq_some_iff] at h
  simpa using h.2.2

/-- The active mode that a message tells. -/
def Message.mode : Message → Option UInt8
  | .modeState msg => some msg.activeMode
  | _ => none

/-- The safety state that a message tells. -/
def Message.safetyMsg : Message → Option SafetyState
  | .safetyState msg => some msg
  | _ => none

/-- The approved command that a message carries. -/
def Message.approved : Message → Option TwistStamped
  | .approvedCmd msg => some msg
  | _ => none

/-- A message on `mode/state` is a mode. -/
theorem Message.eq_modeState {m : Message} (h : m.topic = .modeState) :
    ∃ msg, m = .modeState msg := by
  cases m <;> simp only [Message.topic, reduceCtorEq] at h
  exact ⟨_, rfl⟩

/-- Only the mode manager publishes mode states. -/
theorem message_modeState {x : Output} {m : Message} (hmsg : x.message = some m)
    (htopic : m.topic = .modeState) :
    ∃ mode, x = .modeManager (.modeState mode) ∧ m = .modeState mode := by
  rw [message_eq_some_iff] at hmsg
  obtain ⟨mode, rfl⟩ := Message.eq_modeState htopic
  exact ⟨mode, (Option.some.inj hmsg).symm, rfl⟩

/-- The inputs of the mode manager among the events fired. -/
def modeManagerInput (i : Stamped Time Event) : Option ModeManager.Input :=
  match i.event with
  | .modeManager e => some ⟨i.now, e⟩
  | _ => none

section Run

variable (setup : Setup) (members : NodeId → Bool) (opens : Topic → Bool)

/-- What the hardware adapter handled along a run. -/
def hardwareAdapterHistory (h : List Action) : List HardwareAdapter.Input :=
  ((network setup members opens).events h).filterMap hardwareAdapterInput

/-- What the safety manager handled along a run. -/
def safetyManagerHistory (h : List Action) : List SafetyManager.Input :=
  ((network setup members opens).events h).filterMap safetyManagerInput

/-- The hardware adapter runs its own program inside the network. -/
theorem hardwareAdapter_after_run (h : List Action) :
    ((network setup members opens).machine.after h).nodes.hardwareAdapter =
      (HardwareAdapter.machine setup.hardwareAdapter).after
        (hardwareAdapterHistory setup members opens h) := by
  rw [Network.nodes_after]
  exact hardwareAdapter_after setup _

/-- And so does the safety manager. -/
theorem safetyManager_after_run (h : List Action) :
    ((network setup members opens).machine.after h).nodes.safetyManager =
      (SafetyManager.machine setup.safetyManager).after
        (safetyManagerHistory setup members opens h) := by
  rw [Network.nodes_after]
  exact safetyManager_after setup _

/-- **What a node handled last on a topic is the last packet it saw there.** -/
theorem latest_heardOn (n : NodeId) (t : Topic) (h : List Action) :
    latest (fun x => heardOn n t x.event) ((network setup members opens).events h) =
      (((network setup members opens).machine.after h).link n t).seen.getLast?.map Packet.msg := by
  refine (network setup members opens).latest_seen n t (heardOn n t) id ?_ ?_ h
  · -- timers, services and parameter changes hand no message over
    intro e hacts
    have hacts : e.acts = true := (Bool.and_eq_true _ _ ▸ hacts).1
    rw [heardOn]
    cases hmessage : e.message with
    | none => simp
    | some m =>
      rw [acts_eq_false_of_message hmessage] at hacts
      exact absurd hacts Bool.false_ne_true
  · intro n' m e hreceive
    obtain ⟨rfl, hmessage⟩ := subscription_eq_some_iff.mp (receive_eq_some_iff.mp hreceive).2
    rw [heardOn, hmessage, network_topic]
    by_cases hnode : e.node = n <;> by_cases htopic : m.topic = t <;> simp [hnode, htopic]

variable {setup members opens} in
/-- A stream of a node that picks the messages of one topic, and something of each. -/
theorem latest_stream {ι α : Type*} {input : Stamped Time Event → Option ι} {f : ι → Option α}
    {n : NodeId} {t : Topic} {g : Message → Option α}
    (hstream : ∀ x, (input x).bind f = (heardOn n t x.event).bind g)
    (hg : ∀ m, m.topic = t → (g m).isSome) (h : List Action) :
    latest f (((network setup members opens).events h).filterMap input) =
      (((network setup members opens).machine.after h).link n t).seen.getLast?.bind
        fun p => g p.msg := by
  have hpicked : ∀ (x : Stamped Time Event) (m : Message),
      heardOn n t x.event = some m → (g m).isSome :=
    fun x m hx => hg m (topic_of_heardOn hx)
  rw [latest_filterMap]
  simp only [hstream]
  rw [latest_bind hpicked, latest_heardOn, Option.bind_map]
  rfl

/-- The mode that the arbiter received last. -/
theorem commandArbiter_mode (h : List Action) :
    latest CommandArbiter.modeStream (commandArbiterHistory setup members opens h) =
      (((network setup members opens).machine.after h).link .commandArbiter
        .modeState).seen.getLast?.bind fun p => p.msg.mode := by
  refine latest_stream (fun x => ?_) (fun m hm => ?_) h
  · obtain ⟨now, event⟩ := x
    rcases event with e | e | e | e | e | e | e <;> cases e <;> rfl
  · obtain ⟨msg, rfl⟩ := Message.eq_modeState hm
    rfl

/-- The safety state that the arbiter received last. -/
theorem commandArbiter_safety (h : List Action) :
    latest CommandArbiter.safetyStream (commandArbiterHistory setup members opens h) =
      (((network setup members opens).machine.after h).link .commandArbiter
        .safetyState).seen.getLast?.bind fun p => p.msg.safetyMsg := by
  refine latest_stream (fun x => ?_) (fun m hm => ?_) h
  · obtain ⟨now, event⟩ := x
    rcases event with e | e | e | e | e | e | e <;> cases e <;> rfl
  · obtain ⟨msg, rfl⟩ := Message.eq_safetyState hm
    rfl

/-- The mode that the hardware adapter received last. -/
theorem hardwareAdapter_mode (h : List Action) :
    latest HardwareAdapter.modeStream (hardwareAdapterHistory setup members opens h) =
      (((network setup members opens).machine.after h).link .hardwareAdapter
        .modeState).seen.getLast?.bind fun p => p.msg.mode := by
  refine latest_stream (fun x => ?_) (fun m hm => ?_) h
  · obtain ⟨now, event⟩ := x
    rcases event with e | e | e | e | e | e | e <;> cases e <;> rfl
  · obtain ⟨msg, rfl⟩ := Message.eq_modeState hm
    rfl

/-- The approved command that the hardware adapter received last. -/
theorem hardwareAdapter_approved (h : List Action) :
    latest (fun i => (HardwareAdapter.approvedStream i).map Prod.fst)
        (hardwareAdapterHistory setup members opens h) =
      (((network setup members opens).machine.after h).link .hardwareAdapter
        .approvedCmd).seen.getLast?.bind fun p => p.msg.approved := by
  refine latest_stream (fun x => ?_) (fun m hm => ?_) h
  · obtain ⟨now, event⟩ := x
    rcases event with e | e | e | e | e | e | e <;> cases e <;> rfl
  · obtain ⟨msg, rfl⟩ := Message.eq_approvedCmd hm
    rfl

end Run

end HumaWare.Runtime
