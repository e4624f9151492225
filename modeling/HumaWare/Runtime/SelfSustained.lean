import HumaWare.Runtime.Recovery

/-! # When a watchdog MRM sustains itself

The way back from `Recovery`: where the condition `CanRecover` fails, no step that a recovery may
take restores it. With a negative timeout the watchdog fires whatever it hears. Otherwise nothing is
on its way to the safety manager, and the arbiter publishes nothing: stops on block are off, and its
gate is shut, by its own timeout or by the safety state, for which only further MRM states are
coming in.

* **`Sustained`** — the invariant, with **`sustained_next`**, which also says that each step
  publishes no safety state but MRM;
* **`recoverable_iff`** — the main result; `watchdogMrm_not_recoverable` is a run that ends in an
  MRM for good. -/

namespace HumaWare.Runtime

open Reactive
open CommandArbiter (Lane)
open SafetyManager (Watchdog)

/-- The event changes a node's parameters. -/
def Event.setsParameters : Event → Bool
  | .safetyManager (.setParameters _) => true
  | .commandArbiter (.setParameters _) => true
  | _ => false

/-- **No approved command will come in.** Stops on block are off, no approved command is in flight,
and the arbiter's gate is shut: its timeout is negative, or the safety state held does not allow
motion and none in flight does. -/
structure Blocked (s : NetworkState) : Prop where
  stop : s.nodes.commandArbiter.params.publishStopOnBlock = false
  approved : (s.link .safetyManager .approvedCmd).pending = []
  gate : s.nodes.commandArbiter.params.commandTimeout < 0 ∨
    (¬s.nodes.commandArbiter.SafetyOpen ∧ ∀ p ∈ (s.link .commandArbiter .safetyState).pending,
      p.msg.safety ∉ CommandArbiter.allowedSafetyStates)

/-- **The MRM sustains itself.** The approved-command watchdog is on and triggers, no E-stop is
engaged, and the watchdog fires from `now` on: its timeout is negative, or the arbiter was heard of
too long ago and will not be heard of again. -/
structure Sustained (now : Time) (s : NetworkState) : Prop where
  estop : s.nodes.safetyManager.params.estopEngaged = false
  monitor : s.nodes.safetyManager.params.monitorApprovedCommands = true
  triggers : s.nodes.safetyManager.params.approvedCommandTimeoutTriggersMrm = true
  overdue : ∃ t, s.nodes.safetyManager.approvedCommandAt = some t ∧
    (s.nodes.safetyManager.params.approvedCommandTimeout < 0 ∨
      (now - t > s.nodes.safetyManager.params.approvedCommandTimeout ∧ Blocked s))

section Sustained

variable {setup : Setup} {lane : Lane} {g : List Action} {now : Time} {j : Action}

/-! ## What the steps of a recovery cannot do -/

/-- No step of a recovery changes parameters. -/
theorem setsParameters_of_helps {s : NetworkState} {l : Label NodeId Topic Message Event} {e : Event}
    (hhelps : Helps lane l) (hfired : (watchdogNetwork setup).fired s l = some e) :
    e.setsParameters = false := by
  rcases (watchdogNetwork setup).fired_cases hfired with ⟨rfl, -⟩ |
    ⟨n, t, k, p, l', -, -, hreceive⟩
  · cases e with
    | safetyManager e =>
      cases e with
      | setParameters params => exact absurd hhelps not_false
      | _ => rfl
    | commandArbiter e =>
      cases e with
      | setParameters params => exact absurd hhelps not_false
      | _ => rfl
    | _ => rfl
  · obtain ⟨-, hmessage⟩ := subscription_eq_some_iff.mp (receive_eq_some_iff.mp hreceive).2
    cases e with
    | safetyManager e => cases e with
      | setParameters params => exact absurd hmessage (by simp [Event.message])
      | _ => rfl
    | commandArbiter e => cases e with
      | setParameters params => exact absurd hmessage (by simp [Event.message])
      | _ => rfl
    | _ => rfl

/-- A step that helps sets no parameters. -/
theorem params_next {s : NetworkState} {i : Action} (hhelps : Helps lane i.event) :
    ((watchdogNetwork setup).machine.next s i).nodes.safetyManager.params =
        s.nodes.safetyManager.params ∧
      ((watchdogNetwork setup).machine.next s i).nodes.commandArbiter.params =
        s.nodes.commandArbiter.params := by
  rw [Network.next_nodes]
  cases hfired : (watchdogNetwork setup).fired s i.event with
  | none => exact ⟨rfl, rfl⟩
  | some e =>
    have hparams := setsParameters_of_helps hhelps hfired
    cases e with
    | safetyManager e =>
      refine ⟨(SafetyManager.step_fields s.nodes.safetyManager ⟨i.now, e⟩).1.trans ?_, rfl⟩
      cases e with
      | setParameters params => exact absurd hparams.symm Bool.false_ne_true
      | _ => rfl
    | commandArbiter e =>
      refine ⟨rfl, ?_⟩
      cases e with
      | setParameters params => exact absurd hparams.symm Bool.false_ne_true
      | _ => rfl
    | _ => exact ⟨rfl, rfl⟩

/-- Where no approved command is in flight, the safety manager does not hear of the arbiter. -/
theorem approvedCommandAt_next
    (hpending : (((watchdogNetwork setup).machine.after g).link .safetyManager
      .approvedCmd).pending = []) :
    ((watchdogNetwork setup).machine.next
        ((watchdogNetwork setup).machine.after g) j).nodes.safetyManager.approvedCommandAt =
      ((watchdogNetwork setup).machine.after g).nodes.safetyManager.approvedCommandAt := by
  rw [Network.next_nodes]
  cases hfired : (watchdogNetwork setup).fired ((watchdogNetwork setup).machine.after g) j.event with
  | none => rfl
  | some e =>
    cases e with
    | safetyManager e =>
      have hseen := (SafetyManager.step_fields
        ((watchdogNetwork setup).machine.after g).nodes.safetyManager ⟨j.now, e⟩).2.2.1 .approvedCommand
      apply hseen.trans
      cases e with
      | approvedCommand msg =>
        -- it would have been in flight
        obtain ⟨k, p, l, -, htake, -⟩ := packet_of_fired hfired rfl
        have hp : p ∈ (((watchdogNetwork setup).machine.after g).link .safetyManager
          .approvedCmd).pending := Link.take?_mem htake
        rw [hpending] at hp
        exact absurd hp List.not_mem_nil
      | _ => rfl
    | _ => rfl

/-- Once the safety manager heard of the arbiter, it never forgets that it did. -/
theorem approvedCommandAt_next_isSome {s : NetworkState} {i : Action} {t : Time}
    (ht : s.nodes.safetyManager.approvedCommandAt = some t) :
    ∃ t', ((watchdogNetwork setup).machine.next s i).nodes.safetyManager.approvedCommandAt =
      some t' := by
  rw [Network.next_nodes]
  cases hfired : (watchdogNetwork setup).fired s i.event with
  | none => exact ⟨t, ht⟩
  | some e =>
    cases e with
    | safetyManager e =>
      have hseen := (SafetyManager.step_fields s.nodes.safetyManager ⟨i.now, e⟩).2.2.1 .approvedCommand
      rw [SafetyManager.State.lastSeen, SafetyManager.State.lastSeen, ht] at hseen
      cases hheard : SafetyManager.heard .approvedCommand ⟨i.now, e⟩ with
      | none => exact ⟨t, by rw [hheard] at hseen; exact hseen⟩
      | some t' => exact ⟨t', by rw [hheard] at hseen; exact hseen⟩
    | _ => exact ⟨t, ht⟩

/-! ## Nothing was heard of after the present -/

/-- Every callback of a run was handled by one of its steps. -/
theorem exists_now_eq {x : Stamped Time Event} (hx : x ∈ (watchdogNetwork setup).events g) :
    ∃ i ∈ g, i.now = x.now := by
  obtain ⟨pre, i, post, rfl, hnow, -⟩ := (watchdogNetwork setup).exists_fired hx
  exact ⟨i, by simp, hnow⟩

/-- The safety manager heard of no command in the future. -/
theorem approvedCommandAt_le (hclock : ∀ i ∈ g, i.now ≤ now) {t : Time}
    (ht : ((watchdogNetwork setup).machine.after g).nodes.safetyManager.approvedCommandAt = some t) :
    t ≤ now := by
  rw [Network.nodes_after, network_nodes, safetyManager_after] at ht
  have hlatest := (SafetyManager.lastSeen_after setup.safetyManager _ .approvedCommand).symm.trans ht
  rw [latest_filterMap] at hlatest
  obtain ⟨⟨now', event⟩, hx, hheard⟩ := exists_mem_of_latest hlatest
  obtain ⟨i, hi, hnow⟩ := exists_now_eq hx
  obtain ⟨input, hinput, hheard⟩ := Option.bind_eq_some_iff.mp hheard
  cases event with
  | safetyManager event =>
    obtain rfl := Option.some.inj hinput
    cases event with
    | approvedCommand msg =>
      obtain rfl : now' = t := Option.some.inj hheard
      exact le_of_eq_of_le hnow.symm (hclock i hi)
    | _ => exact absurd hheard (by simp [SafetyManager.heard])
  | _ => exact absurd hinput (by simp [safetyManagerInput])

/-- The arbiter received no candidate in the future. -/
theorem receivedAt_le (hclock : ∀ i ∈ g, i.now ≤ now) {c : CommandArbiter.CandidateCommand}
    (hc : ((watchdogNetwork setup).machine.after g).nodes.commandArbiter.candidates.get? lane.source =
      some c) : c.receivedAt ≤ now := by
  rw [commandArbiter_after_run, CommandArbiter.candidate_after] at hc
  obtain ⟨⟨msg, receivedAt⟩, hlatest, rfl⟩ := Option.map_eq_some_iff.mp hc
  rw [commandArbiterHistory, latest_filterMap] at hlatest
  obtain ⟨⟨now', event⟩, hx, hstream⟩ := exists_mem_of_latest hlatest
  obtain ⟨i, hi, hnow⟩ := exists_now_eq hx
  obtain ⟨input, hinput, hstream⟩ := Option.bind_eq_some_iff.mp hstream
  cases event with
  | commandArbiter event =>
    obtain rfl := Option.some.inj hinput
    cases event with
    | candidate lane' msg' =>
      obtain ⟨-, hreceived⟩ := Option.ite_none_right_eq_some.mp hstream
      obtain ⟨-, rfl⟩ := Prod.mk.inj (Option.some.inj hreceived)
      exact le_of_eq_of_le hnow.symm (hclock i hi)
    | _ => exact absurd hstream (by simp [CommandArbiter.candidateStream])
  | _ => exact absurd hinput (by simp [commandArbiterInput])

/-- Behind a shut gate, no candidate is eligible. -/
theorem eligible_eq_none (hclock : ∀ i ∈ g, i.now ≤ now)
    (hgate : ((watchdogNetwork setup).machine.after g).nodes.commandArbiter.params.commandTimeout < 0 ∨
      ¬((watchdogNetwork setup).machine.after g).nodes.commandArbiter.SafetyOpen) :
    ((watchdogNetwork setup).machine.after g).nodes.commandArbiter.eligible now = none := by
  rw [CommandArbiter.State.eligible]
  rcases hgate with htimeout | hshut
  · -- no candidate arrived later than now, so under a negative timeout none is fresh
    split
    · rw [Option.bind_eq_none_iff]
      intro lane hlane
      rw [Option.eq_none_iff_forall_ne_some]
      intro c hc
      obtain ⟨hget, hfresh⟩ := CommandArbiter.State.fresh_eq_some_iff.mp hc
      have hreceived := receivedAt_le hclock hget
      exact absurd (lt_of_le_of_lt hfresh htimeout) (not_lt.mpr (sub_nonneg.mpr hreceived))
    · rfl
  · exact if_neg hshut

/-! ## One step -/

/-- A step after which the watchdog fires publishes no safety state but MRM. -/
theorem published_of_fires {s : NetworkState} {i : Action}
    (hestop : ((watchdogNetwork setup).machine.next s i).nodes.safetyManager.params.estopEngaged = false)
    (htriggers : ((watchdogNetwork setup).machine.next s
      i).nodes.safetyManager.params.approvedCommandTimeoutTriggersMrm = true)
    (hfires : ((watchdogNetwork setup).machine.next s i).nodes.safetyManager.Fires i.now
      .approvedCommand) {safety : SafetyState}
    (hpub : .safetyManager (.safetyState safety) ∈ stepOutputs setup watchdogMembers watchdogOpens s i) :
    safety.state = SafetyState.stateMrm := by
  obtain ⟨e, hfired, hpub⟩ := mem_stepOutputs_iff.mp hpub
  obtain ⟨e', rfl, hpub⟩ := Nodes.mem_step_safetyManager hpub
  have hsafety := (SafetyManager.publication_eq hpub).1
  have hnext : ((watchdogNetwork setup).machine.next s i).nodes.safetyManager =
      (SafetyManager.step s.nodes.safetyManager ⟨i.now, e'⟩).1 := by
    rw [Network.next_nodes, hfired]
    rfl
  rw [hnext] at hestop htriggers hfires
  have hactive := (SafetyManager.mrmActive_iff _ i.now).mpr (Or.inr (Or.inr ⟨_, hfires, htriggers⟩))
  rw [hsafety]
  exact (SafetyManager.safetyMsg_state_iff _ i.now).2.1.mpr
    ⟨by rw [hestop]; exact Bool.false_ne_true, hactive⟩

/-- **A blocked loop stays blocked**, as long as no safety state but MRM is published. -/
theorem blocked_next (hblocked : Blocked ((watchdogNetwork setup).machine.after g))
    (hhelps : Helps lane j.event) (hclock : ∀ i ∈ g, i.now ≤ j.now)
    (hmrm : ∀ safety, .safetyManager (.safetyState safety) ∈ stepOutputs setup watchdogMembers
      watchdogOpens ((watchdogNetwork setup).machine.after g) j →
      safety.state = SafetyState.stateMrm) :
    Blocked ((watchdogNetwork setup).machine.next ((watchdogNetwork setup).machine.after g) j) := by
  obtain ⟨hstop, hpending, hgate⟩ := hblocked
  have hparams := (@params_next setup lane ((watchdogNetwork setup).machine.after g) j hhelps).2
  refine ⟨hparams ▸ hstop, ?_, ?_⟩
  · -- an approved command would be a stop, or an eligible candidate
    rw [List.eq_nil_iff_forall_not_mem]
    intro p hp
    rcases (watchdogNetwork setup).pending_next hp with hp | ⟨htopic, hemitted⟩
    · rw [hpending] at hp
      exact absurd hp List.not_mem_nil
    · rw [network_topic] at htopic
      obtain ⟨msg, -, -, htick⟩ := tick_of_approvedCmd (by decide) hemitted htopic
      have hnone := eligible_eq_none hclock (hgate.imp id And.left)
      rcases (CommandArbiter.approves_iff (wellKeyed_after_run _ _ _ g) j.now).mp ⟨msg, htick⟩ with
        ⟨c, hc⟩ | ⟨hstop', -⟩
      · rw [hnone] at hc
        exact absurd hc (by simp)
      · rw [hstop] at hstop'
        exact absurd hstop' Bool.false_ne_true
  · rcases hgate with htimeout | ⟨hshut, hnone⟩
    · exact Or.inl (hparams ▸ htimeout)
    refine Or.inr ⟨?_, ?_⟩
    · -- the safety state held was held before, or was in flight
      rw [Network.next_nodes]
      cases hfired : (watchdogNetwork setup).fired ((watchdogNetwork setup).machine.after g)
          j.event with
      | none => exact hshut
      | some e =>
        cases e with
        | commandArbiter e =>
          cases e with
          | safetyState msg =>
            rintro ⟨-, hallowed⟩
            obtain ⟨k, p, l, -, htake, hmsg⟩ := packet_of_fired hfired rfl
            apply hnone p (Link.take?_mem htake)
            rw [hmsg]
            exact hallowed
          | _ => exact hshut
        | _ => exact hshut
    · intro p hp
      rcases (watchdogNetwork setup).pending_next hp with hp | ⟨htopic, hemitted⟩
      · exact hnone p hp
      · -- what the step adds is an MRM state, which does not allow motion
        rw [network_topic] at htopic
        obtain ⟨safety, hsafety, houtput⟩ := output_of_safetyState (by decide) hemitted htopic
        rw [hsafety, Message.safety, hmrm safety houtput]
        decide

/-- **A self-sustained MRM is sustained by every step of a recovery**, and none publishes another
safety state. -/
theorem sustained_next (hsustained : Sustained now ((watchdogNetwork setup).machine.after g))
    (hhelps : Helps lane j.event) (hnow : now ≤ j.now) (hclock : ∀ i ∈ g, i.now ≤ j.now)
    (hmode : HoldsMode lane ((watchdogNetwork setup).machine.after (g ++ [j]))) :
    Sustained now ((watchdogNetwork setup).machine.after (g ++ [j])) ∧
      ∀ safety, .safetyManager (.safetyState safety) ∈ stepOutputs setup watchdogMembers watchdogOpens
        ((watchdogNetwork setup).machine.after g) j → safety.state = SafetyState.stateMrm := by
  obtain ⟨hestop, hmonitor, htriggers, t, ht, hoverdue⟩ := hsustained
  have hparams := (@params_next setup lane ((watchdogNetwork setup).machine.after g) j hhelps).1
  have hlane : lane.requiredMode ∈ SafetyManager.heartbeatModes := by cases lane <;> decide
  have hparams' : ((watchdogNetwork setup).machine.after (g ++ [j])).nodes.safetyManager.params =
      ((watchdogNetwork setup).machine.after g).nodes.safetyManager.params := by
    rw [Machine.after_concat]
    exact hparams
  -- the arbiter was heard of, and the watchdog finds it overdue after the step
  obtain ⟨t', ht', hlate, hagain⟩ : ∃ t',
      ((watchdogNetwork setup).machine.after (g ++ [j])).nodes.safetyManager.approvedCommandAt =
        some t' ∧
      j.now - t' > ((watchdogNetwork setup).machine.after
        g).nodes.safetyManager.params.approvedCommandTimeout ∧
      (((watchdogNetwork setup).machine.after
          g).nodes.safetyManager.params.approvedCommandTimeout < 0 ∨
        (now - t' > ((watchdogNetwork setup).machine.after
          g).nodes.safetyManager.params.approvedCommandTimeout ∧
          Blocked ((watchdogNetwork setup).machine.after g))) := by
    rcases hoverdue with htimeout | ⟨hlate, hblocked⟩
    · -- a negative timeout: whatever was heard of, was heard of too long ago
      obtain ⟨t', ht'⟩ := approvedCommandAt_next_isSome (i := j) ht
      rw [← Machine.after_concat] at ht'
      have hpast : t' ≤ j.now := by
        refine approvedCommandAt_le (g := g ++ [j]) ?_ ht'
        intro i hi
        rcases List.mem_append.mp hi with hi | hi
        · exact hclock i hi
        · rw [List.mem_singleton.mp hi]
      exact ⟨t', ht', lt_of_lt_of_le htimeout (sub_nonneg.mpr hpast), Or.inl htimeout⟩
    · -- nothing is in flight to the safety manager, so the last command only gets older
      refine ⟨t, ?_, lt_of_lt_of_le hlate (sub_le_sub_right hnow t), Or.inr ⟨hlate, hblocked⟩⟩
      rw [Machine.after_concat, approvedCommandAt_next hblocked.approved, ht]
  have hfires : ((watchdogNetwork setup).machine.after (g ++ [j])).nodes.safetyManager.Fires j.now
      .approvedCommand := by
    refine ⟨?_, ?_, ?_⟩
    · rw [hparams']
      exact hmonitor
    · rw [hmode.1]
      exact hlane
    · rw [SafetyManager.State.lastSeen, ht', hparams']
      exact hlate
  have hmrm : ∀ safety, .safetyManager (.safetyState safety) ∈ stepOutputs setup watchdogMembers
      watchdogOpens ((watchdogNetwork setup).machine.after g) j →
      safety.state = SafetyState.stateMrm := by
    intro safety hpub
    refine published_of_fires ?_ ?_ ?_ hpub
    · rw [hparams]
      exact hestop
    · rw [hparams]
      exact htriggers
    · rw [← Machine.after_concat]
      exact hfires
  refine ⟨⟨hparams' ▸ hestop, hparams' ▸ hmonitor, hparams' ▸ htriggers, t', ht', ?_⟩, hmrm⟩
  rw [hparams', Machine.after_concat]
  rcases hagain with htimeout | ⟨hlate, hblocked⟩
  · exact Or.inl htimeout
  · exact Or.inr ⟨hlate, blocked_next hblocked hhelps hclock hmrm⟩

end Sustained

/-! ## Every continuation -/

/-- **The condition is needed.** -/
theorem not_recoverable {setup : Setup} {lane : Lane} {h : List Action} {now : Time}
    (hwatch : WatchdogMrm setup lane h now)
    (hcannot : ¬CanRecover ((watchdogNetwork setup).machine.after h)) :
    ¬Recoverable setup lane h now := by
  rintro ⟨k, i, hmono, hsteps, hmodes, safety, hpub, hne⟩
  -- the MRM sustains itself at the start
  have hstart : Sustained now ((watchdogNetwork setup).machine.after h) := by
    obtain ⟨hmonitor, -, hoverdue⟩ := hwatch.fires
    cases hseen : ((watchdogNetwork setup).machine.after h).nodes.safetyManager.approvedCommandAt with
    | none =>
      rw [SafetyManager.State.lastSeen, hseen] at hoverdue
      exact absurd hoverdue Bool.false_ne_true
    | some t =>
      rw [SafetyManager.State.lastSeen, hseen] at hoverdue
      refine ⟨hwatch.estop, hmonitor, hwatch.triggers, t, hseen, ?_⟩
      rw [CanRecover, not_and_or, not_le] at hcannot
      rcases hcannot with htimeout | hcannot
      · exact Or.inl htimeout
      refine Or.inr ⟨hoverdue, ?_⟩
      simp only [not_or, not_and_or, not_le, not_not, not_exists, Bool.not_eq_true] at hcannot
      obtain ⟨hstop, happroved, hgate⟩ := hcannot
      refine ⟨hstop, happroved, ?_⟩
      rcases hgate with htimeout | ⟨hshut, hnone⟩
      · exact Or.inl htimeout
      · refine Or.inr ⟨hshut, ?_⟩
        intro p hp
        exact (hnone p).resolve_left (not_not.mpr hp)
  have hstep : ∀ k₁ j k₂, k ++ [i] = k₁ ++ j :: k₂ →
      Sustained now ((watchdogNetwork setup).machine.after (h ++ k₁)) →
      Sustained now ((watchdogNetwork setup).machine.after (h ++ k₁ ++ [j])) ∧
        ∀ safety, .safetyManager (.safetyState safety) ∈ stepOutputs setup watchdogMembers
          watchdogOpens ((watchdogNetwork setup).machine.after (h ++ k₁)) j →
          safety.state = SafetyState.stateMrm := by
    intro k₁ j k₂ hsplit hsustained
    have hj : j ∈ k ++ [i] := by
      rw [hsplit]
      exact List.mem_append_right _ List.mem_cons_self
    refine @sustained_next setup lane _ now j hsustained (hsteps j hj).2 (hsteps j hj).1 ?_ ?_
    · intro i' hi'
      rcases List.mem_append.mp hi' with hi' | hi'
      · exact le_trans (hwatch.clock i' hi') (hsteps j hj).1
      · rw [hsplit] at hmono
        exact hmono.le_of_append hi' List.mem_cons_self
    · rw [List.append_assoc]
      exact hmodes (k₁ ++ [j]) k₂ (by rw [hsplit, List.append_assoc, List.singleton_append])
  -- by induction along the continuation, up to the step that publishes
  have hall : ∀ k₁ k₂, k ++ [i] = k₁ ++ k₂ →
      Sustained now ((watchdogNetwork setup).machine.after (h ++ k₁)) := by
    intro k₁
    induction k₁ using List.reverseRecOn with
    | nil =>
      intro k₂ _
      rwa [List.append_nil]
    | append_singleton k₁ j ih =>
      intro k₂ hsplit
      rw [List.append_assoc, List.singleton_append] at hsplit
      rw [← List.append_assoc]
      exact (hstep k₁ j k₂ hsplit (ih _ hsplit)).1
  exact hne ((hstep k i [] rfl (hall k [i] rfl)).2 safety hpub)

/-- **The main result.** In the situation of a watchdog MRM, some recovery exists exactly if the
condition holds. -/
theorem recoverable_iff (setup : Setup) (lane : Lane) (h : List Action) (now : Time)
    (hwatch : WatchdogMrm setup lane h now) :
    Recoverable setup lane h now ↔ CanRecover ((watchdogNetwork setup).machine.after h) := by
  constructor
  · intro hrec
    by_contra hcannot
    exact not_recoverable hwatch hcannot hrec
  · intro hcan
    exact recoverable_of_canRecover hwatch.toNoOtherSource hcan

/-! ## An MRM for good -/

/-- The approved-command watchdog triggers an MRM, and no teleop heartbeat is required. -/
def watchdogSetup (publishStopOnBlock : Bool) : Setup where
  safetyManager := { requireTeleopHeartbeat := false, approvedCommandTimeoutTriggersMrm := true }
  commandArbiter := { publishStopOnBlock := publishStopOnBlock }

/-- One teleop candidate is approved; two seconds later the watchdog declares an MRM, which reaches
the arbiter. -/
def overdueRun : List Action :=
  [⟨0, .inject (.modeState { activeMode := ModeState.modeTeleop })⟩,
    ⟨0, .deliver .safetyManager .modeState 0⟩,
    ⟨0, .deliver .commandArbiter .modeState 0⟩,
    ⟨0, .act (.safetyManager .publishState)⟩,
    ⟨0, .deliver .commandArbiter .safetyState 0⟩,
    ⟨1, .inject (.candidate .teleop {})⟩,
    ⟨1, .deliver .commandArbiter (.candidate .teleop) 0⟩,
    ⟨1, .act (.commandArbiter .tick)⟩,
    ⟨1, .deliver .safetyManager .approvedCmd 0⟩,
    ⟨2000000000, .act (.safetyManager .publishState)⟩,
    ⟨2000000000, .deliver .commandArbiter .safetyState 0⟩]

/-- That run ends in an MRM of the watchdog alone. -/
theorem watchdogMrm_overdueRun (publishStopOnBlock : Bool) :
    WatchdogMrm (watchdogSetup publishStopOnBlock) .teleop overdueRun 2000000000 := by
  cases publishStopOnBlock
  all_goals
    exact
      { mode := ⟨by decide +kernel, by decide +kernel⟩
        estop := by decide +kernel
        parameter := by decide +kernel
        service := by decide +kernel
        only := by intro w; cases w <;> decide +kernel
        clock := by decide
        triggers := by decide +kernel
        fires := by decide +kernel }

/-- With stops on block, that run can recover. -/
theorem recoverable_iff_overdueRun :
    Recoverable (watchdogSetup true) .teleop overdueRun 2000000000 :=
  (recoverable_iff (watchdogSetup true) .teleop overdueRun 2000000000
    (watchdogMrm_overdueRun true)).mpr ⟨by decide +kernel, Or.inl (by decide +kernel)⟩

/-- **An MRM for good.** Without stops on block, that run ends in a watchdog MRM from which no
recovery exists. -/
theorem watchdogMrm_not_recoverable :
    WatchdogMrm (watchdogSetup false) .teleop overdueRun 2000000000 ∧
      ¬Recoverable (watchdogSetup false) .teleop overdueRun 2000000000 := by
  refine ⟨watchdogMrm_overdueRun false, not_recoverable (watchdogMrm_overdueRun false) ?_⟩
  have hnone : (((watchdogNetwork (watchdogSetup false)).machine.after overdueRun).link
      .commandArbiter .safetyState).pending = [] := List.isEmpty_iff.mp (by decide +kernel)
  have happroved : (((watchdogNetwork (watchdogSetup false)).machine.after overdueRun).link
      .safetyManager .approvedCmd).pending = [] := List.isEmpty_iff.mp (by decide +kernel)
  rintro ⟨-, hstop | hpending | ⟨-, hopen | ⟨p, hp, -⟩⟩⟩
  · exact absurd hstop (by decide +kernel)
  · exact hpending happroved
  · exact absurd hopen (by decide +kernel)
  · rw [hnone] at hp
    exact absurd hp List.not_mem_nil

end HumaWare.Runtime
