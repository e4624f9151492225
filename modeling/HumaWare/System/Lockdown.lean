import HumaWare.ModeManager.Transitions
import HumaWare.Runtime.Takeover
import HumaWare.System.Silence

/-! # The two ends of a run

An engaged emergency stop and the mode `SHUTDOWN` reach every node that follows the safety state or
the mode. The publisher's half is about the one node that owns the state: it says nothing else while
the state lasts. On the links its messages travel unchanged, so a subscriber whose last message is one
of them holds what they say, and its gate is shut.

* **`estop_lockdown`** — while the E-stop parameter of the safety manager is set, every message and
  every answer of that node reports the emergency stop, no MRM is cleared, and each of the eleven
  subscribers that has heard of it neither moves the robot nor tells another safety state;
* **`shutdown_final`** — the same for `SHUTDOWN`, which no step of any run leaves. -/

namespace HumaWare.System

open Reactive

variable {setup : Setup} {members : NodeId → Bool} {opens : Topic → Bool}

/-! ## The publishers -/

variable (setup members opens) in
/-- A step that fires no callback of the safety manager leaves it as it is, and one that does is a
step of its own. -/
theorem safetyManager_next (s : NetworkState) (i : Action) :
    ((network setup members opens).machine.next s i).nodes.runtime.safetyManager =
        s.nodes.runtime.safetyManager ∨
      ∃ e, (network setup members opens).fired s i.event = some (.runtime (.safetyManager e)) ∧
        ((network setup members opens).machine.next s i).nodes.runtime.safetyManager =
          (SafetyManager.step s.nodes.runtime.safetyManager ⟨i.now, e⟩).1 := by
  rw [Network.next_nodes]
  cases hfired : (network setup members opens).fired s i.event with
  | none => exact Or.inl rfl
  | some e =>
    rcases e with (e | e | e | e | e | e | e) | e | e | e | e | e | e
    case runtime.safetyManager => exact Or.inr ⟨e, rfl, rfl⟩
    all_goals exact Or.inl rfl

variable (setup members opens) in
/-- The same for the mode manager. -/
theorem modeManager_next (s : NetworkState) (i : Action) :
    ((network setup members opens).machine.next s i).nodes.runtime.modeManager =
        s.nodes.runtime.modeManager ∨
      ∃ e, (network setup members opens).fired s i.event = some (.runtime (.modeManager e)) ∧
        ((network setup members opens).machine.next s i).nodes.runtime.modeManager =
          (ModeManager.step s.nodes.runtime.modeManager ⟨i.now, e⟩).1 := by
  rw [Network.next_nodes]
  cases hfired : (network setup members opens).fired s i.event with
  | none => exact Or.inl rfl
  | some e =>
    rcases e with (e | e | e | e | e | e | e) | e | e | e | e | e | e
    case runtime.modeManager => exact Or.inr ⟨e, rfl, rfl⟩
    all_goals exact Or.inl rfl

/-- What the safety manager publishes or answers, it does in a callback of its own. -/
theorem safetyManager_output {s : NetworkState} {i : Action} {x : SafetyManager.Publication}
    (hx : .runtime (.safetyManager x) ∈ stepOutputs setup members opens s i) :
    ∃ e, (network setup members opens).fired s i.event = some (.runtime (.safetyManager e)) ∧
      x ∈ (SafetyManager.step s.nodes.runtime.safetyManager ⟨i.now, e⟩).2 := by
  obtain ⟨e, hfired, hx⟩ := mem_stepOutputs_iff.mp hx
  obtain ⟨e, rfl, hx⟩ := Nodes.mem_step_runtime hx
  obtain ⟨e, rfl, hx⟩ := Runtime.Nodes.mem_step_safetyManager hx
  exact ⟨e, hfired, hx⟩

/-- What the mode manager publishes or answers, it does in a callback of its own. -/
theorem modeManager_output {s : NetworkState} {i : Action} {x : ModeManager.Publication}
    (hx : .runtime (.modeManager x) ∈ stepOutputs setup members opens s i) :
    ∃ e, (network setup members opens).fired s i.event = some (.runtime (.modeManager e)) ∧
      x ∈ (ModeManager.step s.nodes.runtime.modeManager ⟨i.now, e⟩).2 := by
  obtain ⟨e, hfired, hx⟩ := mem_stepOutputs_iff.mp hx
  obtain ⟨e, rfl, hx⟩ := Nodes.mem_step_runtime hx
  obtain ⟨e, rfl, hx⟩ := Runtime.Nodes.mem_step_modeManager hx
  exact ⟨e, hfired, hx⟩

/-- A safety state on the closed topic is one that the safety manager published. -/
theorem output_of_safetyState (hclosed : opens (.runtime .safetyState) = false) {s : NetworkState}
    {i : Action} {m : Message} (hm : m ∈ (network setup members opens).emitted s i)
    (htopic : m.topic = .runtime .safetyState) :
    ∃ msg, m = .runtime (.safetyState msg) ∧
      .runtime (.safetyManager (.safetyState msg)) ∈ stepOutputs setup members opens s i := by
  obtain ⟨x, hx, hmessage⟩ := exists_output hclosed hm htopic
  rcases x with (x | x | x | x | x | x | x) | x | x | x | x | x | x
  all_goals cases x <;> simp only [Output.message, Runtime.Output.message, Option.map_some,
    Option.map_none, Option.some.injEq, reduceCtorEq] at hmessage
  all_goals subst hmessage
  all_goals first | exact ⟨_, rfl, hx⟩ | simp [Message.topic, Runtime.Message.topic] at htopic

/-- A mode state on the closed topic is one that the mode manager published. -/
theorem output_of_modeState (hclosed : opens (.runtime .modeState) = false) {s : NetworkState}
    {i : Action} {m : Message} (hm : m ∈ (network setup members opens).emitted s i)
    (htopic : m.topic = .runtime .modeState) :
    ∃ msg, m = .runtime (.modeState msg) ∧
      .runtime (.modeManager (.modeState msg)) ∈ stepOutputs setup members opens s i := by
  obtain ⟨x, hx, hmessage⟩ := exists_output hclosed hm htopic
  rcases x with (x | x | x | x | x | x | x) | x | x | x | x | x | x
  all_goals cases x <;> simp only [Output.message, Runtime.Output.message, Option.map_some,
    Option.map_none, Option.some.injEq, reduceCtorEq] at hmessage
  all_goals subst hmessage
  all_goals first | exact ⟨_, rfl, hx⟩ | simp [Message.topic, Runtime.Message.topic] at htopic

/-! ## The emergency stop -/

/-- A step that changes the parameters of the safety manager and releases the emergency stop. -/
def ReleasesEstop (setup : Setup) (members : NodeId → Bool) (opens : Topic → Bool)
    (s : NetworkState) (i : Action) : Prop :=
  ∃ params : SafetyManager.Params, params.estopEngaged = false ∧
    (network setup members opens).fired s i.event =
      some (.runtime (.safetyManager (.setParameters params)))

/-- An engaged emergency stop stays engaged, and with it the latch, until a step releases it. -/
theorem estop_next {s : NetworkState} {i : Action}
    (hengaged : s.nodes.runtime.safetyManager.params.estopEngaged = true)
    (hreleases : ¬ReleasesEstop setup members opens s i) :
    ((network setup members opens).machine.next s i).nodes.runtime.safetyManager.params.estopEngaged =
        true ∧
      (s.nodes.runtime.safetyManager.serviceMrmActive = true →
        ((network setup members opens).machine.next s i).nodes.runtime.safetyManager.serviceMrmActive =
          true) := by
  rcases safetyManager_next setup members opens s i with hsame | ⟨e, hfired, hnext⟩
  · rw [hsame]
    exact ⟨hengaged, fun hlatch => hlatch⟩
  · rw [hnext]
    refine ⟨?_, (SafetyManager.step_estopped hengaged).2⟩
    rw [(SafetyManager.step_fields _ _).1]
    -- only a parameter change could release it
    cases e with
    | setParameters params =>
      cases hvalue : params.estopEngaged with
      | true => exact hvalue
      | false => exact absurd ⟨params, hvalue, hfired⟩ hreleases
    | teleopHeartbeat msg | hardwareHeartbeat msg | approvedCommand msg | modeState msg
    | triggerMrm request | clearMrm request | publishState => exact hengaged

/-- **The emergency stop.** Let the parameter be set after `pre`, and let no step of `mid` reset it.
Then all that the safety manager publishes and answers in `mid` reports the emergency stop, and an MRM
that was latched is still latched after it. However the run goes on, a subscriber that has seen a
safety state published in `mid`, and none published later, is silent in the next step, and tells the
emergency stop if it tells a safety state. -/
theorem estop_lockdown (setup : Setup) (members : NodeId → Bool) (opens : Topic → Bool)
    (hclosed : opens (.runtime .safetyState) = false) (pre mid post : List Action) (i : Action)
    (hengaged : ((network setup members opens).machine.after
      pre).nodes.runtime.safetyManager.params.estopEngaged = true)
    (hkept : ∀ m₁ j m₂, mid = m₁ ++ j :: m₂ → ¬ReleasesEstop setup members opens
      ((network setup members opens).machine.after (pre ++ m₁)) j) :
    (∀ m₁ j m₂, mid = m₁ ++ j :: m₂ → ∀ x, .runtime (.safetyManager x) ∈
        stepOutputs setup members opens ((network setup members opens).machine.after (pre ++ m₁)) j →
      x.Estopped) ∧
    (((network setup members opens).machine.after
        pre).nodes.runtime.safetyManager.serviceMrmActive = true →
      ((network setup members opens).machine.after
        (pre ++ mid)).nodes.runtime.safetyManager.serviceMrmActive = true) ∧
    ∀ n : SafetySubscriber, Network.FifoOn n.node (.runtime .safetyState) (pre ++ mid ++ post) →
      (network setup members opens).LastSeenIn n.node (.runtime .safetyState) pre mid post →
      ∀ x ∈ stepOutputs setup members opens
        ((network setup members opens).machine.after (pre ++ mid ++ post)) i,
        n.Silent x ∧ n.TellsSafety SafetyState.stateEstop x := by
  -- along `mid` the stop stays engaged
  have hwindow : ∀ m₁ m₂, mid = m₁ ++ m₂ → ((network setup members opens).machine.after
      (pre ++ m₁)).nodes.runtime.safetyManager.params.estopEngaged = true := by
    intro m₁ m₂ hsplit
    rcases (network setup members opens).machine.until_ended
      (P := fun s => s.nodes.runtime.safetyManager.params.estopEngaged = true)
      (E := ReleasesEstop setup members opens) (fun s j hs hj => (estop_next hs hj).1) hengaged m₁
      with hheld | ⟨k₁, j, k₂, rfl, hreleases⟩
    · exact hheld
    · exact absurd hreleases (hkept k₁ j (k₂ ++ m₂) (by rw [hsplit]; simp))
  have hpublished : ∀ m₁ j m₂, mid = m₁ ++ j :: m₂ → ∀ x, .runtime (.safetyManager x) ∈
      stepOutputs setup members opens ((network setup members opens).machine.after (pre ++ m₁)) j →
      x.Estopped := by
    intro m₁ j m₂ hsplit x hx
    obtain ⟨e, -, hx⟩ := safetyManager_output hx
    exact (SafetyManager.step_estopped (hwindow m₁ _ hsplit)).1 x hx
  refine ⟨hpublished, fun hlatch => ?_, fun n hfifo hseen x hx => ?_⟩
  · rcases (network setup members opens).machine.until_ended
      (P := fun s => s.nodes.runtime.safetyManager.params.estopEngaged = true ∧
        s.nodes.runtime.safetyManager.serviceMrmActive = true)
      (E := ReleasesEstop setup members opens)
      (fun s j hs hj => ⟨(estop_next hs.1 hj).1, (estop_next hs.1 hj).2 hs.2⟩) ⟨hengaged, hlatch⟩ mid
      with hheld | ⟨k₁, j, k₂, hsplit, hreleases⟩
    · exact hheld.2
    · exact absurd hreleases (hkept k₁ j k₂ hsplit)
  · -- what the subscriber holds was published in `mid`
    have hheld : n.safetyOf ((network setup members opens).machine.after (pre ++ mid ++ post)).nodes =
        SafetyState.stateEstop := by
      refine SafetySubscriber.safetyOf_of_window (P := fun state => state = SafetyState.stateEstop)
        (fun m₁ j m₂ hsplit m hm htopic => ?_) n hfifo hseen
      obtain ⟨msg, rfl, hmsg⟩ := output_of_safetyState hclosed hm htopic
      exact (hpublished m₁ j m₂ hsplit _ hmsg).1
    obtain ⟨e, -, hx⟩ := mem_stepOutputs_iff.mp hx
    refine ⟨SafetySubscriber.silent_of_blocking (Or.inr hheld) hx, ?_⟩
    rw [← hheld]
    exact SafetySubscriber.told_of_step n hx

/-- The E-stop parameter, a publication handed to the arbiter, and the arbiter's next tick. -/
theorem estop_lockdown_tick :
    ∃ msg, .runtime (.commandArbiter (.arbitrationState msg)) ∈ stepOutputs {} (fun _ => true)
        (fun t => decide (t ≠ .runtime .safetyState))
        ((network {} (fun _ => true) (fun t => decide (t ≠ .runtime .safetyState))).machine.after
          [⟨0, .act (.runtime (.safetyManager (.setParameters { estopEngaged := true })))⟩,
            ⟨1, .act (.runtime (.safetyManager .publishState))⟩,
            ⟨2, .deliver (.runtime .commandArbiter) (.runtime .safetyState) 0⟩])
        ⟨3, .act (.runtime (.commandArbiter .tick))⟩ ∧
      msg.outputEnabled = false ∧ msg.safetyState = SafetyState.stateEstop := by
  have hsilent := (estop_lockdown {} (fun _ => true) (fun t => decide (t ≠ .runtime .safetyState))
    (by decide) [⟨0, .act (.runtime (.safetyManager (.setParameters { estopEngaged := true })))⟩]
    [⟨1, .act (.runtime (.safetyManager .publishState))⟩]
    [⟨2, .deliver (.runtime .commandArbiter) (.runtime .safetyState) 0⟩]
    ⟨3, .act (.runtime (.commandArbiter .tick))⟩ rfl ?_).2.2 (.both (.consumer .commandArbiter)) ?_ ?_
  · -- the stop comes first, then the report
    exact ⟨_, List.mem_cons_of_mem _ List.mem_cons_self,
      hsilent _ (List.mem_cons_of_mem _ List.mem_cons_self)⟩
  · intro m₁ j m₂ hsplit
    cases m₁ with
    | nil =>
      obtain ⟨rfl, -⟩ := List.cons.inj hsplit
      rintro ⟨params, -, hfired⟩
      cases hfired
    | cons a m₁ => simp at hsplit
  · simp [Network.FifoOn]
  · refine ⟨⟨_, List.mem_singleton_self _, by decide⟩, fun p hp => ?_⟩
    obtain rfl := List.mem_singleton.mp hp
    decide

/-! ## The mode `SHUTDOWN` -/

/-- **`SHUTDOWN` is final.** Once it is the active mode, it is the active mode in every state that the
run reaches, and all that the mode manager publishes and answers says so. A subscriber that has seen
a mode published since is silent in the next step, and tells `SHUTDOWN` if it tells a mode. -/
theorem shutdown_final (setup : Setup) (members : NodeId → Bool) (opens : Topic → Bool)
    (hclosed : opens (.runtime .modeState) = false) (pre post : List Action) (i : Action)
    (hshutdown : ((network setup members opens).machine.after
      pre).nodes.runtime.modeManager.activeMode = ModeState.modeShutdown) :
    (∀ m₁ j m₂, post = m₁ ++ j :: m₂ →
      ((network setup members opens).machine.after
        (pre ++ m₁ ++ [j])).nodes.runtime.modeManager.activeMode = ModeState.modeShutdown ∧
      ∀ x, .runtime (.modeManager x) ∈ stepOutputs setup members opens
        ((network setup members opens).machine.after (pre ++ m₁)) j → x.ShutDown) ∧
    ∀ n : ModeSubscriber, Network.FifoOn n.node (.runtime .modeState) (pre ++ post) →
      (∃ p ∈ (((network setup members opens).machine.after (pre ++ post)).link n.node
          (.runtime .modeState)).seen,
        (((network setup members opens).machine.after pre).link n.node (.runtime .modeState)).count ≤
          p.serial) →
      ∀ x ∈ stepOutputs setup members opens
        ((network setup members opens).machine.after (pre ++ post)) i,
        n.Silent x ∧ n.TellsMode ModeState.modeShutdown x := by
  have hfinal : ∀ k, ((network setup members opens).machine.after
      (pre ++ k)).nodes.runtime.modeManager.activeMode = ModeState.modeShutdown := by
    intro k
    refine (network setup members opens).machine.invariant_from (A := fun _ => True)
      (P := fun s => s.nodes.runtime.modeManager.activeMode = ModeState.modeShutdown) hshutdown
      (fun s j _ hs => ?_) k fun _ _ => trivial
    rcases modeManager_next setup members opens s j with hsame | ⟨e, -, hnext⟩
    · rw [hsame]
      exact hs
    · rw [hnext]
      exact (ModeManager.step_shutDown hs).1
  have hpublished : ∀ m₁ j, ∀ x, .runtime (.modeManager x) ∈
      stepOutputs setup members opens ((network setup members opens).machine.after (pre ++ m₁)) j →
      x.ShutDown := by
    intro m₁ j x hx
    obtain ⟨e, -, hx⟩ := modeManager_output hx
    exact (ModeManager.step_shutDown (hfinal m₁)).2 x hx
  refine ⟨fun m₁ j m₂ _ => ⟨?_, hpublished m₁ j⟩, fun n hfifo hseen x hx => ?_⟩
  · rw [List.append_assoc]
    exact hfinal _
  · have hheld : n.modeOf ((network setup members opens).machine.after (pre ++ post)).nodes =
        ModeState.modeShutdown := by
      refine ModeSubscriber.modeOf_since (P := fun mode => mode = ModeState.modeShutdown)
        (fun m₁ j m₂ _ m hm htopic => ?_) n hfifo hseen
      obtain ⟨msg, rfl, hmsg⟩ := output_of_modeState hclosed hm htopic
      exact hpublished m₁ j _ hmsg
    obtain ⟨e, -, hx⟩ := mem_stepOutputs_iff.mp hx
    refine ⟨ModeSubscriber.silent_of_shutdown hheld hx, ?_⟩
    rw [← hheld]
    exact ModeSubscriber.told_of_step n hx

/-- A request for `SHUTDOWN`, the mode published by the timer, both handed to the arbiter, and its next
tick. -/
theorem shutdown_final_tick :
    ∃ msg, .runtime (.commandArbiter (.arbitrationState msg)) ∈ stepOutputs {} (fun _ => true)
        (fun t => decide (t ≠ .runtime .modeState))
        ((network {} (fun _ => true) (fun t => decide (t ≠ .runtime .modeState))).machine.after
          [⟨0, .act (.runtime (.modeManager (.setMode ⟨ModeState.modeShutdown, "", ""⟩)))⟩,
            ⟨1, .act (.runtime (.modeManager .publishState))⟩,
            ⟨2, .deliver (.runtime .commandArbiter) (.runtime .modeState) 0⟩,
            ⟨3, .deliver (.runtime .commandArbiter) (.runtime .modeState) 0⟩])
        ⟨4, .act (.runtime (.commandArbiter .tick))⟩ ∧
      msg.outputEnabled = false ∧ msg.activeMode = ModeState.modeShutdown := by
  have hsilent := (shutdown_final {} (fun _ => true) (fun t => decide (t ≠ .runtime .modeState))
    (by decide) [⟨0, .act (.runtime (.modeManager (.setMode ⟨ModeState.modeShutdown, "", ""⟩)))⟩]
    [⟨1, .act (.runtime (.modeManager .publishState))⟩,
      ⟨2, .deliver (.runtime .commandArbiter) (.runtime .modeState) 0⟩,
      ⟨3, .deliver (.runtime .commandArbiter) (.runtime .modeState) 0⟩]
    ⟨4, .act (.runtime (.commandArbiter .tick))⟩ rfl).2 (.both (.consumer .commandArbiter)) ?_ ?_
  · -- no safety state has come, so there is a report and no stop
    exact ⟨_, List.mem_cons_self, hsilent _ List.mem_cons_self⟩
  · simp [Network.FifoOn]
  · exact ⟨_, List.mem_cons_of_mem _ List.mem_cons_self, by decide⟩

end HumaWare.System
