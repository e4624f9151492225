import HumaWare.CommandArbiter.Gate
import HumaWare.Runtime.Network
import HumaWare.SafetyManager.Publication

/-! # Recovering from a watchdog MRM

The safety manager watches for approved commands, and may declare an MRM when none comes in; the MRM
blocks the arbiter, which publishes the approved commands. This file says when the two get out of
this loop by themselves: with fresh candidates, heartbeats, clear calls, ticks, publications and
deliveries.

* **`WatchdogMrm`** — the situation: the approved-command watchdog is the only active MRM source;
* **`Recoverable`** — some continuation ends with a safety state other than MRM;
* **`CanRecover`** — the condition, on what the two nodes hold and what is in flight between them;
* **`recoverable_of_canRecover`** — under the condition, every piece of the way out exists. -/

namespace HumaWare.Runtime

open Reactive
open CommandArbiter (Lane)
open SafetyManager (Watchdog)

/-- The safety manager and the arbiter. -/
def watchdogMembers (n : NodeId) : Bool := n = .safetyManager ∨ n = .commandArbiter

/-- Nobody else publishes safety states or approved commands. -/
def watchdogOpens (t : Topic) : Bool := t ≠ .safetyState ∧ t ≠ .approvedCmd

/-- The safety manager and the arbiter, joined. -/
abbrev watchdogNetwork (setup : Setup) :
    Network Time NodeId Topic Message Event Nodes (List Output) :=
  network setup watchdogMembers watchdogOpens

/-- Both nodes hold the mode that `lane` requires. -/
def HoldsMode (lane : Lane) (s : NetworkState) : Prop :=
  s.nodes.safetyManager.activeMode = lane.requiredMode ∧
    s.nodes.commandArbiter.activeMode = lane.requiredMode

/-- The steps that a recovery may take: candidates of the active mode, heartbeats, clear calls,
ticks, publications, and deliveries, which do not overtake on `safety/state` and
`cmd_vel/approved`. -/
def Helps (lane : Lane) : Label NodeId Topic Message Event → Prop
  | .inject (.candidate lane' _) => lane' = lane
  | .inject (.teleopHeartbeat _) | .inject (.hardwareHeartbeat _) => True
  | .act (.safetyManager (.clearMrm _)) | .act (.safetyManager .publishState) => True
  | .act (.commandArbiter .tick) => True
  | .deliver _ t k => (t = .safetyState ∨ t = .approvedCmd) → k = 0
  | _ => False

/-- **Some recovery exists**: a continuation `k`, from `now` on, that keeps the mode, and a step `i`
after it that publishes a safety state other than MRM. -/
def Recoverable (setup : Setup) (lane : Lane) (h : List Action) (now : Time) : Prop :=
  ∃ k i, ClockMonotone (k ++ [i]) ∧ (∀ j ∈ k ++ [i], now ≤ j.now ∧ Helps lane j.event) ∧
    (∀ k₁ k₂, k ++ [i] = k₁ ++ k₂ →
      HoldsMode lane ((watchdogNetwork setup).machine.after (h ++ k₁))) ∧
    ∃ safety, .safetyManager (.safetyState safety) ∈ stepOutputs setup watchdogMembers watchdogOpens
      ((watchdogNetwork setup).machine.after (h ++ k)) i ∧ safety.state ≠ SafetyState.stateMrm

/-- **No MRM source but, perhaps, the approved-command watchdog** is active at `now`, and both nodes
hold the mode of `lane`. -/
structure NoOtherSource (setup : Setup) (lane : Lane) (h : List Action) (now : Time) : Prop where
  mode : HoldsMode lane ((watchdogNetwork setup).machine.after h)
  estop : ((watchdogNetwork setup).machine.after h).nodes.safetyManager.params.estopEngaged = false
  parameter : ((watchdogNetwork setup).machine.after h).nodes.safetyManager.params.mrmActive = false
  service : ((watchdogNetwork setup).machine.after h).nodes.safetyManager.serviceMrmActive = false
  only : ∀ w, ((watchdogNetwork setup).machine.after h).nodes.safetyManager.Fires now w →
    w.triggersMrm ((watchdogNetwork setup).machine.after h).nodes.safetyManager.params = true →
    w = .approvedCommand

/-- **The only active MRM source at `now` is the approved-command watchdog**, and it is configured
to trigger. -/
structure WatchdogMrm (setup : Setup) (lane : Lane) (h : List Action) (now : Time) : Prop extends
    NoOtherSource setup lane h now where
  /-- `now` is not before the run's last step. -/
  clock : ∀ j ∈ h, j.now ≤ now
  triggers : ((watchdogNetwork setup).machine.after
    h).nodes.safetyManager.params.approvedCommandTimeoutTriggersMrm = true
  fires : ((watchdogNetwork setup).machine.after h).nodes.safetyManager.Fires now .approvedCommand

/-- **The condition.** The watchdog's timeout is not negative; and a stop is published on block, or
an approved command is in flight to the safety manager, or the arbiter can still approve a
candidate: its timeout is not negative, and a safety state that allows motion is held or in flight
to it. -/
def CanRecover (s : NetworkState) : Prop :=
  0 ≤ s.nodes.safetyManager.params.approvedCommandTimeout ∧
    (s.nodes.commandArbiter.params.publishStopOnBlock = true ∨
      (s.link .safetyManager .approvedCmd).pending ≠ [] ∨
      (0 ≤ s.nodes.commandArbiter.params.commandTimeout ∧
        (s.nodes.commandArbiter.SafetyOpen ∨
          ∃ p ∈ (s.link .commandArbiter .safetyState).pending,
            p.msg.safety ∈ CommandArbiter.allowedSafetyStates)))

section Recovery

variable {setup : Setup} {lane : Lane} {h : List Action} {now : Time}

/-- A recovery may begin with any step that helps and keeps the mode. -/
theorem Recoverable.of_step {l : Label NodeId Topic Message Event}
    (hmode : HoldsMode lane ((watchdogNetwork setup).machine.after h)) (hhelps : Helps lane l)
    (hrec : Recoverable setup lane (h ++ [⟨now, l⟩]) now) : Recoverable setup lane h now := by
  obtain ⟨k, i, hmono, hsteps, hmodes, safety, hpub, hne⟩ := hrec
  refine ⟨⟨now, l⟩ :: k, i, ?_, ?_, ?_, safety, ?_, hne⟩
  · exact List.pairwise_cons.mpr ⟨fun j hj => (hsteps j hj).1, hmono⟩
  · intro j hj
    rcases List.mem_cons.mp hj with rfl | hj
    · exact ⟨le_refl _, hhelps⟩
    · exact hsteps j hj
  · intro k₁ k₂ hsplit
    cases k₁ with
    | nil => rwa [List.append_nil]
    | cons j k₁ =>
      obtain ⟨rfl, htail⟩ := List.cons.inj hsplit
      rw [List.append_cons]
      exact hmodes k₁ k₂ htail
  · rwa [List.append_cons]

/-- The states of the nodes after a step that fires a callback. -/
theorem nodes_after_fired {x : Action} {e : Event}
    (hfired : (watchdogNetwork setup).fired ((watchdogNetwork setup).machine.after h) x.event =
      some e) :
    ((watchdogNetwork setup).machine.after (h ++ [x])).nodes =
      (((watchdogNetwork setup).machine.after h).nodes.step ⟨x.now, e⟩).1 := by
  rw [Machine.after_concat, Network.next_nodes, hfired]
  rfl

/-- The states of the nodes after the oldest packet of a link was handed over. -/
theorem nodes_after_deliver (now : Time) {n : NodeId} {t : Topic} {p : Packet Time Message}
    {ps : List (Packet Time Message)}
    (hpending : (((watchdogNetwork setup).machine.after h).link n t).pending = p :: ps) :
    p.msg.topic = t ∧ ∃ e, subscription n p.msg = some e ∧
      (watchdogNetwork setup).fired ((watchdogNetwork setup).machine.after h) (.deliver n t 0) =
        some e ∧
      ((watchdogNetwork setup).machine.after (h ++ [⟨now, .deliver n t 0⟩])).nodes =
        (((watchdogNetwork setup).machine.after h).nodes.step ⟨now, e⟩).1 := by
  obtain ⟨htopic, e, -, -, -, hreceive, hfired⟩ := (watchdogNetwork setup).fired_deliver_zero hpending
  have hnodes := nodes_after_fired (x := ⟨now, .deliver n t 0⟩) hfired
  exact ⟨htopic, e, (receive_eq_some_iff.mp hreceive).2, hfired, hnodes⟩

/-- **Ready to recover**: the watchdog is quiet once the arbiter has just been heard of. -/
structure Ready (setup : Setup) (lane : Lane) (h : List Action) (now : Time) : Prop extends
    NoOtherSource setup lane h now where
  timeout : 0 ≤ ((watchdogNetwork setup).machine.after
    h).nodes.safetyManager.params.approvedCommandTimeout

/-- A step that writes neither node's mode, and nothing else of the safety manager but what it heard
of the arbiter and what it last published, leaves the nodes ready. -/
theorem Ready.concat (hready : Ready setup lane h now) {x : Action}
    (hsafety : ((watchdogNetwork setup).machine.after (h ++ [x])).nodes.safetyManager =
      { ((watchdogNetwork setup).machine.after h).nodes.safetyManager with
        approvedCommandAt :=
          ((watchdogNetwork setup).machine.after (h ++ [x])).nodes.safetyManager.approvedCommandAt
        currentSafetyState :=
          ((watchdogNetwork setup).machine.after (h ++ [x])).nodes.safetyManager.currentSafetyState })
    (hmode : ((watchdogNetwork setup).machine.after (h ++ [x])).nodes.commandArbiter.activeMode =
      ((watchdogNetwork setup).machine.after h).nodes.commandArbiter.activeMode) :
    Ready setup lane (h ++ [x]) now := by
  obtain ⟨⟨⟨hsafetyMode, harbiterMode⟩, hestop, hparameter, hservice, honly⟩, htimeout⟩ := hready
  refine ⟨⟨⟨?_, hmode.trans harbiterMode⟩, ?_, ?_, ?_, ?_⟩, ?_⟩ <;> rw [hsafety]
  · exact hsafetyMode
  · exact hestop
  · exact hparameter
  · exact hservice
  · intro w hfires htriggers
    -- the two heartbeat watchdogs read what was left alone
    cases w with
    | teleopHeartbeat => exact honly .teleopHeartbeat hfires htriggers
    | hardwareHeartbeat => exact honly .hardwareHeartbeat hfires htriggers
    | approvedCommand => rfl
  · exact htimeout

/-- **The way out, last step.** When the safety manager has just heard of the arbiter, it publishes
a state other than MRM. -/
theorem recoverable_of_refreshed (hready : Ready setup lane h now)
    (hseen : ((watchdogNetwork setup).machine.after h).nodes.safetyManager.approvedCommandAt =
      some now) : Recoverable setup lane h now := by
  have hfired : (watchdogNetwork setup).fired ((watchdogNetwork setup).machine.after h)
      (.act (.safetyManager .publishState)) = some (.safetyManager .publishState) := rfl
  refine ⟨[], ⟨now, .act (.safetyManager .publishState)⟩, List.pairwise_singleton _ _, ?_, ?_, _,
    mem_stepOutputs_iff.mpr ⟨_, hfired, List.mem_cons_self⟩, ?_⟩
  · intro j hj
    obtain rfl := List.mem_singleton.mp hj
    exact ⟨le_refl _, trivial⟩
  · intro k₁ k₂ hsplit
    cases k₁ with
    | nil =>
      rw [List.append_nil]
      exact hready.mode
    | cons j k₁ =>
      obtain ⟨rfl, hnil⟩ := List.cons.inj hsplit
      obtain ⟨rfl, -⟩ := List.append_eq_nil_iff.mp hnil.symm
      rw [HoldsMode, nodes_after_fired hfired]
      exact hready.mode
  · -- an MRM would need a source, and the one source left was heard of at `now` itself
    rw [List.append_nil]
    intro hmrm
    have hactive := ((SafetyManager.safetyMsg_state_iff _ now).2.1.mp hmrm).2
    rcases (SafetyManager.mrmActive_iff _ now).mp hactive with hparameter | hservice |
      ⟨w, hfires, htriggers⟩
    · exact absurd hparameter (by rw [hready.parameter]; exact Bool.false_ne_true)
    · exact absurd hservice (by rw [hready.service]; exact Bool.false_ne_true)
    · obtain rfl := hready.only w hfires htriggers
      have hoverdue := hfires.2.2
      rw [SafetyManager.State.lastSeen, hseen] at hoverdue
      have htimeout := hready.timeout
      exact absurd hoverdue (not_lt.mpr (by rw [sub_self]; exact htimeout))

/-- An approved command in flight to the safety manager is one step away from it. -/
theorem recoverable_of_approved_pending (hready : Ready setup lane h now)
    (hpending : (((watchdogNetwork setup).machine.after h).link .safetyManager .approvedCmd).pending ≠
      []) : Recoverable setup lane h now := by
  obtain ⟨p, ps, hpending⟩ := List.exists_cons_of_ne_nil hpending
  obtain ⟨htopic, e, hsub, -, hnodes⟩ := nodes_after_deliver now hpending
  obtain ⟨msg, hmsg⟩ := Message.eq_approvedCmd htopic
  rw [hmsg] at hsub
  obtain rfl : Event.safetyManager (.approvedCommand msg) = e := Option.some.inj hsub
  apply Recoverable.of_step (l := .deliver .safetyManager .approvedCmd 0) hready.mode (fun _ => rfl)
  refine recoverable_of_refreshed (hready.concat ?_ ?_) ?_ <;> rw [hnodes] <;> rfl

/-- A tick of the arbiter that publishes on `cmd_vel/approved`, be it a stop, leads out. -/
theorem recoverable_of_tick (hready : Ready setup lane h now)
    (hout : ∃ msg, CommandArbiter.Publication.approved msg ∈
      CommandArbiter.tick ((watchdogNetwork setup).machine.after h).nodes.commandArbiter now) :
    Recoverable setup lane h now := by
  obtain ⟨msg, hmsg⟩ := hout
  have hfired : (watchdogNetwork setup).fired ((watchdogNetwork setup).machine.after h)
      (.act (.commandArbiter .tick)) = some (.commandArbiter .tick) := rfl
  have hnodes := nodes_after_fired (x := ⟨now, .act (.commandArbiter .tick)⟩) hfired
  apply Recoverable.of_step (l := .act (.commandArbiter .tick)) hready.mode trivial
  refine recoverable_of_approved_pending (hready.concat ?_ ?_) ?_
  · rw [hnodes]
    rfl
  · rw [hnodes]
    rfl
  · have hemitted : Message.approvedCmd msg ∈ (watchdogNetwork setup).emitted
        ((watchdogNetwork setup).machine.after h) ⟨now, .act (.commandArbiter .tick)⟩ := by
      rw [Network.emitted, hfired]
      exact List.mem_filterMap.mpr ⟨_, List.mem_map_of_mem hmsg, rfl⟩
    exact (watchdogNetwork setup).pending_ne_nil_after (n := .safetyManager) hemitted rfl

/-- A candidate in flight on the active mode's own topic leads out while the arbiter's gate is
open. -/
theorem recoverable_of_candidate_pending (hready : Ready setup lane h now)
    (hopen : ((watchdogNetwork setup).machine.after h).nodes.commandArbiter.SafetyOpen)
    (htimeout : 0 ≤ ((watchdogNetwork setup).machine.after h).nodes.commandArbiter.params.commandTimeout)
    (hpending : (((watchdogNetwork setup).machine.after h).link .commandArbiter
      (.candidate lane)).pending ≠ []) : Recoverable setup lane h now := by
  obtain ⟨p, ps, hpending⟩ := List.exists_cons_of_ne_nil hpending
  obtain ⟨htopic, e, hsub, -, hnodes⟩ := nodes_after_deliver now hpending
  obtain ⟨msg, hmsg⟩ := Message.eq_candidate htopic
  rw [hmsg] at hsub
  obtain rfl : Event.commandArbiter (.candidate lane msg) = e := Option.some.inj hsub
  have heligible := CommandArbiter.eligible_onCandidate hopen hready.mode.2 htimeout now msg
  refine Recoverable.of_step (l := .deliver .commandArbiter (.candidate lane) 0) hready.mode
    (fun h => absurd h (by simp)) ?_
  refine recoverable_of_tick (hready.concat ?_ ?_) ?_
  · rw [hnodes]
    rfl
  · rw [hnodes]
    rfl
  · -- the candidate was received at `now`, so the tick finds it fresh
    refine (CommandArbiter.approves_iff (wellKeyed_after_run _ _ _ _) now).mpr (Or.inl ?_)
    rw [hnodes]
    exact ⟨_, heligible⟩

/-- While the arbiter's gate is open, a fresh candidate leads out. -/
theorem recoverable_of_open (hready : Ready setup lane h now)
    (hopen : ((watchdogNetwork setup).machine.after h).nodes.commandArbiter.SafetyOpen)
    (htimeout : 0 ≤
      ((watchdogNetwork setup).machine.after h).nodes.commandArbiter.params.commandTimeout) :
    Recoverable setup lane h now := by
  -- a candidate from outside: no callback is fired, so the nodes stay as they are
  have hnodes : ((watchdogNetwork setup).machine.after
      (h ++ [⟨now, .inject (.candidate lane {})⟩])).nodes =
        ((watchdogNetwork setup).machine.after h).nodes := by
    rw [Machine.after_concat]
    rfl
  apply Recoverable.of_step (l := .inject (.candidate lane {})) hready.mode rfl
  refine recoverable_of_candidate_pending (hready.concat ?_ ?_) ?_ ?_ ?_
  · rw [hnodes]
  · rw [hnodes]
  · rw [hnodes]
    exact hopen
  · rw [hnodes]
    exact htimeout
  · have hemitted : Message.candidate lane {} ∈ (watchdogNetwork setup).emitted
        ((watchdogNetwork setup).machine.after h) ⟨now, .inject (.candidate lane {})⟩ :=
      List.mem_singleton_self _
    exact (watchdogNetwork setup).pending_ne_nil_after (n := .commandArbiter) hemitted rfl

/-- What handing a safety state to the arbiter changes. -/
theorem deliver_safetyState (now : Time) {p : Packet Time Message} {ps : List (Packet Time Message)}
    (hpending : (((watchdogNetwork setup).machine.after h).link .commandArbiter .safetyState).pending =
      p :: ps) :
    ∃ msg : SafetyState, p.msg.safety = msg.state ∧
      ((watchdogNetwork setup).machine.after
        (h ++ [⟨now, .deliver .commandArbiter .safetyState 0⟩])).nodes =
        { ((watchdogNetwork setup).machine.after h).nodes with
          commandArbiter := { ((watchdogNetwork setup).machine.after h).nodes.commandArbiter with
            lastSafety := some msg, safetyState := msg.state } } ∧
      (((watchdogNetwork setup).machine.after
        (h ++ [⟨now, .deliver .commandArbiter .safetyState 0⟩])).link .commandArbiter
          .safetyState).pending = ps := by
  obtain ⟨-, -, l, htake, hps, -, -⟩ := (watchdogNetwork setup).fired_deliver_zero hpending
  obtain ⟨htopic, e, hsub, hfired, hnodes⟩ := nodes_after_deliver now hpending
  obtain ⟨msg, hmsg⟩ := Message.eq_safetyState htopic
  rw [hmsg] at hsub
  obtain rfl : Event.commandArbiter (.safetyState msg) = e := Option.some.inj hsub
  refine ⟨msg, by rw [hmsg]; rfl, hnodes, ?_⟩
  -- the callback publishes nothing
  have hemitted : (watchdogNetwork setup).emitted ((watchdogNetwork setup).machine.after h)
      ⟨now, .deliver .commandArbiter .safetyState 0⟩ = [] := by
    rw [Network.emitted, hfired]
    rfl
  rw [Machine.after_concat, Network.next_link, hemitted, Network.relink_deliver htake]
  exact hps

/-- A safety state in flight to the arbiter that allows motion leads out. -/
theorem recoverable_of_safety_pending (hready : Ready setup lane h now)
    (htimeout : 0 ≤
      ((watchdogNetwork setup).machine.after h).nodes.commandArbiter.params.commandTimeout)
    {ps : List (Packet Time Message)}
    (hpending : (((watchdogNetwork setup).machine.after h).link .commandArbiter .safetyState).pending =
      ps)
    (hallowed : ∃ p ∈ ps, p.msg.safety ∈ CommandArbiter.allowedSafetyStates) :
    Recoverable setup lane h now := by
  induction ps generalizing h with
  | nil =>
    obtain ⟨p, hp, -⟩ := hallowed
    exact absurd hp List.not_mem_nil
  | cons p ps ih =>
    -- hand over the oldest one; it is the one, or the one is behind it
    obtain ⟨msg, hmsg, hnodes, hpending'⟩ := deliver_safetyState now hpending
    refine Recoverable.of_step (l := .deliver .commandArbiter .safetyState 0) hready.mode
      (fun _ => rfl) ?_
    have hready' : Ready setup lane (h ++ [⟨now, .deliver .commandArbiter .safetyState 0⟩]) now := by
      refine hready.concat ?_ ?_ <;> rw [hnodes]
    by_cases hp : p.msg.safety ∈ CommandArbiter.allowedSafetyStates
    · refine recoverable_of_open hready' ?_ ?_ <;> rw [hnodes]
      · exact ⟨rfl, hmsg ▸ hp⟩
      · exact htimeout
    · refine ih hready' ?_ hpending' ?_
      · rw [hnodes]
        exact htimeout
      · obtain ⟨q, hq, hallowed⟩ := hallowed
        rcases List.mem_cons.mp hq with rfl | hq
        · exact absurd hallowed hp
        · exact ⟨q, hq, hallowed⟩

/-- Once the arbiter has seen a safety state, a stop on block leads out. -/
theorem recoverable_of_stop (hready : Ready setup lane h now)
    (hstop : ((watchdogNetwork setup).machine.after
      h).nodes.commandArbiter.params.publishStopOnBlock = true)
    (hseen : ((watchdogNetwork setup).machine.after h).nodes.commandArbiter.lastSafety.isSome = true) :
    Recoverable setup lane h now :=
  recoverable_of_tick hready
    ((CommandArbiter.approves_iff (wellKeyed_after_run _ _ _ _) now).mpr (Or.inr ⟨hstop, hseen⟩))

/-- A stop on block leads out, from any state: the safety manager can always show the arbiter a
safety state. -/
theorem recoverable_of_publishStop (hready : Ready setup lane h now)
    (hstop : ((watchdogNetwork setup).machine.after
      h).nodes.commandArbiter.params.publishStopOnBlock = true) : Recoverable setup lane h now := by
  -- first a safety state for the arbiter, then its delivery, after which a tick publishes the stop
  have hdeliver : ∀ {h}, Ready setup lane h now →
      ((watchdogNetwork setup).machine.after h).nodes.commandArbiter.params.publishStopOnBlock = true →
      (((watchdogNetwork setup).machine.after h).link .commandArbiter .safetyState).pending ≠ [] →
      Recoverable setup lane h now := by
    intro h hready hstop hpending
    obtain ⟨p, ps, hpending⟩ := List.exists_cons_of_ne_nil hpending
    obtain ⟨msg, -, hnodes, -⟩ := deliver_safetyState now hpending
    refine Recoverable.of_step (l := .deliver .commandArbiter .safetyState 0) hready.mode
      (fun _ => rfl) ?_
    refine recoverable_of_stop (hready.concat ?_ ?_) ?_ ?_ <;> rw [hnodes]
    · exact hstop
    · rfl
  have hfired : (watchdogNetwork setup).fired ((watchdogNetwork setup).machine.after h)
      (.act (.safetyManager .publishState)) = some (.safetyManager .publishState) := rfl
  have hnodes := nodes_after_fired (x := ⟨now, .act (.safetyManager .publishState)⟩) hfired
  apply Recoverable.of_step (l := .act (.safetyManager .publishState)) hready.mode trivial
  refine hdeliver (hready.concat ?_ ?_) ?_ ?_
  · rw [hnodes]
    rfl
  · rw [hnodes]
    rfl
  · rw [hnodes]
    exact hstop
  · have hemitted : Message.safetyState (SafetyManager.safetyMsg
        ((watchdogNetwork setup).machine.after h).nodes.safetyManager now) ∈
        (watchdogNetwork setup).emitted ((watchdogNetwork setup).machine.after h)
          ⟨now, .act (.safetyManager .publishState)⟩ := by
      rw [Network.emitted, hfired]
      exact List.mem_cons_self
    exact (watchdogNetwork setup).pending_ne_nil_after (n := .commandArbiter) hemitted rfl

/-- **The condition is enough.** -/
theorem recoverable_of_canRecover (hother : NoOtherSource setup lane h now)
    (hcan : CanRecover ((watchdogNetwork setup).machine.after h)) : Recoverable setup lane h now := by
  obtain ⟨htimeout, hstop | happroved | ⟨hcommand, hopen | hpending⟩⟩ := hcan
  · exact recoverable_of_publishStop ⟨hother, htimeout⟩ hstop
  · exact recoverable_of_approved_pending ⟨hother, htimeout⟩ happroved
  · exact recoverable_of_open ⟨hother, htimeout⟩ hopen hcommand
  · exact recoverable_of_safety_pending ⟨hother, htimeout⟩ hcommand rfl hpending

end Recovery

end HumaWare.Runtime
