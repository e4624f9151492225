import HumaWare.ModeManager.Transitions
import HumaWare.Runtime.Inbox

/-! # The takeover lockout

A takeover leaves a mode active that is neither `AUTONOMY` nor `AI_POLICY`, and only an accepted
`mode/set` brings one of them back; every mode state published in between says so. The arbiter
approves an autonomy or policy candidate only in a mode that it received last, so on a link that
does not reorder, one mode state from that window shuts it.

* **`ApprovesAutonomy`** — a tick of the arbiter publishes a command derived from an autonomy or
  policy candidate;
* **`mode_in_window`** — the mode manager's half, along the window;
* **`takeover_lockout`** — the main result. -/

namespace HumaWare.Runtime

open Reactive
open CommandArbiter (Lane Admitted)

/-- The sources of autonomous motion. -/
def autonomySources : List UInt8 :=
  [CommandArbitrationState.sourceAutonomy, CommandArbitrationState.sourceAiPolicy]

/-- What the mode manager keeps of a step of the nodes. -/
theorem Nodes.step_modeManager (s : Nodes) (i : Stamped Time Event) :
    (s.step i).1.modeManager =
      (modeManagerInput i).elim s.modeManager fun x => (ModeManager.step s.modeManager x).1 := by
  obtain ⟨now, event⟩ := i
  cases event <;> rfl

/-- What the mode manager outputs, it outputs in a callback of its own. -/
theorem Nodes.mem_step_modeManager {s : Nodes} {i : Stamped Time Event}
    {x : ModeManager.Publication} (h : Output.modeManager x ∈ (s.step i).2) :
    ∃ e, i.event = .modeManager e ∧ x ∈ (ModeManager.step s.modeManager ⟨i.now, e⟩).2 := by
  obtain ⟨now, event⟩ := i
  cases event <;> simp_all [Nodes.step]

section Network

variable (setup : Setup) (members : NodeId → Bool) (opens : Topic → Bool)

/-- **An autonomous approval.** The step `i` after the run `h` is a tick of the arbiter that
publishes a command derived from an autonomy or a policy candidate. -/
def ApprovesAutonomy (h : List Action) (i : Action) : Prop :=
  (network setup members opens).fired ((network setup members opens).machine.after h) i.event =
      some (.commandArbiter .tick) ∧
    ∃ c, ((network setup members opens).machine.after h).nodes.commandArbiter.selected i.now =
      some c ∧ c.source ∈ autonomySources

variable {setup members opens}

/-- The candidate of an autonomous approval was admitted, on a subscription other than teleop's. -/
theorem ApprovesAutonomy.admitted {h : List Action} {i : Action}
    (hauto : ApprovesAutonomy setup members opens h i) :
    ∃ lane msg receivedAt, lane.requiredMode ∈ ModeManager.autonomyModes ∧
      Admitted setup.commandArbiter (commandArbiterHistory setup members opens h) i.now lane msg
        receivedAt := by
  obtain ⟨-, c, hc, hsource⟩ := hauto
  rw [commandArbiter_after_run] at hc
  obtain ⟨lane, msg, receivedAt, hadm, rfl⟩ := CommandArbiter.selected_after_iff.mp hc
  refine ⟨lane, msg, receivedAt, ?_, hadm⟩
  cases lane with
  | teleop => exact absurd (show Lane.teleop.source ∈ autonomySources from hsource) (by decide)
  | autonomy => exact List.mem_cons_self
  | policy => exact List.mem_cons_of_mem _ List.mem_cons_self

/-- **An autonomous approval is one that the arbiter reports as such.** -/
theorem approvesAutonomy_iff {h : List Action} {i : Action} :
    ApprovesAutonomy setup members opens h i ↔
      ∃ state, .commandArbiter (.arbitrationState state) ∈
          stepOutputs setup members opens ((network setup members opens).machine.after h) i ∧
        state.activeSource ∈ autonomySources := by
  have hkeyed := wellKeyed_after_run setup members opens h
  constructor
  · rintro ⟨hfired, c, hc, hsource⟩
    rw [stepOutputs_commandArbiter_tick hfired]
    exact ⟨_, List.mem_map_of_mem (CommandArbiter.arbitrationState_mem_tick hkeyed hc), hsource⟩
  · rintro ⟨state, hstate, hsource⟩
    obtain ⟨e, hfired, hmem⟩ := mem_stepOutputs_iff.mp hstate
    obtain ⟨e', rfl, hmem⟩ := Nodes.mem_step_commandArbiter hmem
    obtain ⟨rfl, hmem⟩ := CommandArbiter.step_publications hmem
    refine ⟨hfired, ?_⟩
    rcases CommandArbiter.activeSource_cases hkeyed hmem with ⟨c, hc, hreported⟩ | ⟨-, hreported⟩
    · exact ⟨c, hc, hreported ▸ hsource⟩
    · -- neither the stop nor the empty tick is reported under an autonomy source
      rcases hreported with h | h <;> rw [h] at hsource <;> exact absurd hsource (by decide)

/-! ## The mode manager's half -/

/-- A step that handles a takeover, or finds no autonomy mode active and accepts no `mode/set` into
one, leaves no autonomy mode active. -/
theorem mode_next {s : NetworkState} {i : Action}
    (hmode : s.nodes.modeManager.activeMode ∉ ModeManager.autonomyModes ∨
      ∃ request, (network setup members opens).fired s i.event =
        some (.modeManager (.takeover request)))
    (hset : ∀ request, (network setup members opens).fired s i.event =
        some (.modeManager (.setMode request)) →
      request.requestedMode ∈ ModeManager.autonomyModes →
      ∀ response, .modeManager (.setModeResponse response) ∈ stepOutputs setup members opens s i →
        response.accepted = false) :
    ((network setup members opens).machine.next s i).nodes.modeManager.activeMode ∉
      ModeManager.autonomyModes := by
  rw [Network.next_nodes]
  cases hfired : (network setup members opens).fired s i.event with
  | none =>
    rcases hmode with hmode | ⟨request, hrequest⟩
    · exact hmode
    · rw [hfired] at hrequest
      exact absurd hrequest (by simp)
  | some e =>
    intro hnext
    rw [network_nodes] at hnext
    dsimp only at hnext
    rw [nodes_next, Nodes.step_modeManager] at hnext
    cases hinput : modeManagerInput ⟨i.now, e⟩ with
    | none =>
      -- another node's callback leaves the mode, and is not the takeover
      rw [hinput] at hnext
      rcases hmode with hmode | ⟨request, hrequest⟩
      · exact hmode hnext
      · obtain rfl := Option.some.inj (hfired.symm.trans hrequest)
        exact absurd hinput (by simp [modeManagerInput])
    | some x =>
      cases e with
      | modeManager e =>
        obtain rfl : ⟨i.now, e⟩ = x := Option.some.inj hinput
        rw [hinput] at hnext
        rcases ModeManager.step_mem_autonomyModes hnext with ⟨hbefore, htakeover⟩ |
          ⟨request, hevent, hrequested, haccepts⟩
        · rcases hmode with hmode | ⟨request, hrequest⟩
          · exact hmode hbefore
          · rw [hfired, Option.some.injEq] at hrequest
            exact htakeover request (Event.modeManager.inj hrequest)
        · -- an accepted request is answered as accepted
          obtain rfl : e = .setMode request := hevent
          obtain ⟨response, hresponse, haccepted⟩ :=
            ModeManager.setModeResponse_mem s.nodes.modeManager i.now request
          have hmem : .modeManager (.setModeResponse response) ∈
              stepOutputs setup members opens s i :=
            mem_stepOutputs_iff.mpr ⟨_, hfired, List.mem_map_of_mem hresponse⟩
          rw [haccepts, hset request hfired hrequested response hmem] at haccepted
          exact absurd haccepted Bool.false_ne_true
      | safetyManager | commandArbiter | nav2Bridge | locomotionAdapter | hardwareAdapter |
        skillServer => exact absurd hinput (by simp [modeManagerInput])

/-- **The mode manager's half.** The steps of a stretch that begins with a takeover and accepts no
`mode/set` into an autonomy mode all leave no autonomy mode active. -/
theorem mode_in_window {pre mid : List Action} {t : Action} {request : ModeManager.TakeoverRequest}
    (htakeover : (network setup members opens).fired
      ((network setup members opens).machine.after pre) t.event =
        some (.modeManager (.takeover request)))
    (hset : ∀ m₁ j m₂, mid = m₁ ++ j :: m₂ → ∀ request, (network setup members opens).fired
        ((network setup members opens).machine.after (pre ++ t :: m₁)) j.event =
          some (.modeManager (.setMode request)) →
      request.requestedMode ∈ ModeManager.autonomyModes →
      ∀ response, .modeManager (.setModeResponse response) ∈ stepOutputs setup members opens
          ((network setup members opens).machine.after (pre ++ t :: m₁)) j →
        response.accepted = false)
    (m₁ : List Action) (j : Action) (m₂ : List Action) (hsplit : t :: mid = m₁ ++ j :: m₂) :
    ((network setup members opens).machine.after (pre ++ m₁ ++ [j])).nodes.modeManager.activeMode ∉
      ModeManager.autonomyModes := by
  induction m₁ using List.reverseRecOn generalizing j m₂ with
  | nil =>
    -- the stretch begins with the takeover, which is no `mode/set`
    obtain ⟨rfl, rfl⟩ := List.cons.inj hsplit
    rw [Machine.after_concat, List.append_nil]
    refine mode_next (Or.inr ⟨request, htakeover⟩) fun request' hrequest => ?_
    rw [htakeover] at hrequest
    exact absurd hrequest (by simp)
  | append_singleton m₁ k ih =>
    have hmode := ih k (j :: m₂) (by rw [hsplit, List.append_assoc, List.singleton_append])
    rw [List.append_assoc] at hmode
    rw [Machine.after_concat]
    apply mode_next (Or.inl hmode)
    -- the step after `t :: m` is one of `mid`
    cases m₁ with
    | nil =>
      obtain ⟨rfl, hmid⟩ := List.cons.inj hsplit
      exact hset [] j m₂ hmid
    | cons a m₁ =>
      obtain ⟨rfl, hmid⟩ := List.cons.inj hsplit
      exact hset (m₁ ++ [k]) j m₂ hmid

/-- A mode state published by a step tells the mode that the step leaves. -/
theorem modeState_of_emitted (hclosed : opens .modeState = false) {s : NetworkState} {i : Action}
    {m : Message} (hm : m ∈ (network setup members opens).emitted s i)
    (htopic : m.topic = .modeState) :
    m.mode = some ((network setup members opens).machine.next s i).nodes.modeManager.activeMode := by
  obtain ⟨y, hy, hmsg⟩ := exists_output hclosed hm htopic
  obtain ⟨mode, rfl, rfl⟩ := message_modeState hmsg htopic
  obtain ⟨e, hfired, hy⟩ := mem_stepOutputs_iff.mp hy
  obtain ⟨e', rfl, hpub⟩ := Nodes.mem_step_modeManager hy
  rw [Network.next_nodes, hfired, Message.mode, ModeManager.step_modeState hpub]
  rfl

/-- **The main result.** Let `pre` lead to a step `t` that handles a takeover request, and let no
step of `mid` accept a `mode/set` into `AUTONOMY` or `AI_POLICY`. If the arbiter has seen a mode
state published by `t` or later, on a link that may delay and drop but does not reorder, then its
next step approves no autonomy or policy candidate. And in every run, a takeover request made while
`AUTONOMY` or `AI_POLICY` is active is accepted, whatever the safety state. -/
theorem takeover_lockout (setup : Setup) (members : NodeId → Bool) (opens : Topic → Bool)
    (hclosed : opens .modeState = false) (pre mid : List Action) (t i : Action)
    (hfifo : Network.FifoOn .commandArbiter .modeState (pre ++ t :: mid))
    (request : ModeManager.TakeoverRequest)
    (htakeover : (network setup members opens).fired
      ((network setup members opens).machine.after pre) t.event =
        some (.modeManager (.takeover request)))
    (hset : ∀ m₁ j m₂, mid = m₁ ++ j :: m₂ → ∀ request, (network setup members opens).fired
        ((network setup members opens).machine.after (pre ++ t :: m₁)) j.event =
          some (.modeManager (.setMode request)) →
      request.requestedMode ∈ ModeManager.autonomyModes →
      ∀ response, .modeManager (.setModeResponse response) ∈ stepOutputs setup members opens
          ((network setup members opens).machine.after (pre ++ t :: m₁)) j →
        response.accepted = false)
    (hseen : ∃ p ∈ (((network setup members opens).machine.after (pre ++ t :: mid)).link
        .commandArbiter .modeState).seen,
      (((network setup members opens).machine.after pre).link .commandArbiter .modeState).count ≤
        p.serial) :
    ¬ApprovesAutonomy setup members opens (pre ++ t :: mid) i ∧
      ∀ h now request, members .modeManager = true →
        ((network setup members opens).machine.after h).nodes.modeManager.activeMode ∈
          [ModeState.modeAutonomy, ModeState.modeAiPolicy] →
        ∃ response, .modeManager (.takeoverResponse response) ∈ stepOutputs setup members opens
            ((network setup members opens).machine.after h)
            ⟨now, .act (.modeManager (.takeover request))⟩ ∧
          response.accepted = true := by
  constructor
  · intro hauto
    obtain ⟨lane, msg, receivedAt, hlane, hadm⟩ := hauto.admitted
    have hbounded : ∀ p ∈ (((network setup members opens).machine.after (pre ++ t :: mid)).link
          .commandArbiter .modeState).seen,
        p.serial < (((network setup members opens).machine.after (pre ++ t :: mid)).link
          .commandArbiter .modeState).count :=
      fun p hp => Link.bounded _ p (List.mem_append_left _ hp)
    obtain ⟨q, hlast, hlow, hhigh⟩ :=
      (network setup members opens).last_seen_of_window hfifo hseen hbounded
    -- the packet seen last was published in the window, so it tells no autonomy mode
    have hmode : ∀ mode, q.msg.mode = some mode → mode ∉ ModeManager.autonomyModes := by
      refine (network setup members opens).packet_window
        (P := fun m => ∀ mode, m.mode = some mode → mode ∉ ModeManager.autonomyModes) ?_ [] ?_ hlow
        hhigh
      · intro m₁ j m₂ hsplit m hm htopic mode hmode
        rw [modeState_of_emitted hclosed hm htopic, Option.some.injEq, ← Machine.after_concat] at hmode
        rw [← hmode]
        exact mode_in_window htakeover hset m₁ j m₂ hsplit
      · rw [List.append_nil]
        exact List.mem_append_left _ (List.mem_of_getLast? hlast)
    -- and the arbiter's mode is what that packet tells
    have hreceived := hadm.mode
    rw [commandArbiter_mode, hlast, Option.bind_some] at hreceived
    exact hmode _ hreceived hlane
  · intro h now request hmember hmode
    have hactive : ((network setup members opens).machine.after
        h).nodes.modeManager.activeMode ∈ ModeManager.activeModes := by
      rcases List.mem_pair.mp hmode with h | h <;> rw [h] <;> decide
    obtain ⟨response, hresponse, haccepted⟩ := ModeManager.takeoverResponse_mem
      ((network setup members opens).machine.after h).nodes.modeManager now request
    refine ⟨response, mem_stepOutputs_iff.mpr ⟨.modeManager (.takeover request), ?_, ?_⟩, ?_⟩
    · show (if (true && members .modeManager) = true then _ else _) = _
      rw [hmember]
      rfl
    · exact List.mem_map_of_mem hresponse
    · rw [haccepted, decide_eq_true hactive]

/-- The arbiter has heard of `AUTONOMY` and of an `OK`, and holds a fresh candidate of autonomy. -/
def autonomousRun : List Action :=
  [⟨0, .act (.modeManager .publishState)⟩,
    ⟨0, .deliver .commandArbiter .modeState 0⟩,
    ⟨0, .inject (.safetyState { state := SafetyState.stateOk })⟩,
    ⟨0, .deliver .commandArbiter .safetyState 0⟩,
    ⟨0, .inject (.candidate .autonomy { twist := { linear := { x := .fin (1 / 10) } } })⟩,
    ⟨0, .deliver .commandArbiter (.candidate .autonomy) 0⟩]

/-- The arbiter approves the candidate until a takeover out of `AUTONOMY` has reached it. -/
theorem takeover_lockout_tick :
    ApprovesAutonomy { modeManager := { initialMode := .str "autonomy" } } (fun _ => true)
        (fun t => t ≠ .modeState) autonomousRun ⟨2, .act (.commandArbiter .tick)⟩ ∧
      ¬ApprovesAutonomy { modeManager := { initialMode := .str "autonomy" } } (fun _ => true)
        (fun t => t ≠ .modeState) (autonomousRun ++ [⟨0, .act (.modeManager (.takeover {}))⟩,
          ⟨1, .deliver .commandArbiter .modeState 0⟩]) ⟨2, .act (.commandArbiter .tick)⟩ := by
  refine ⟨⟨rfl, _, rfl, by decide +kernel⟩, ?_⟩
  refine (takeover_lockout { modeManager := { initialMode := .str "autonomy" } } (fun _ => true)
    (fun t => t ≠ .modeState) (by decide) autonomousRun [⟨1, .deliver .commandArbiter .modeState 0⟩]
    ⟨0, .act (.modeManager (.takeover {}))⟩ ⟨2, .act (.commandArbiter .tick)⟩ ?_ {} rfl ?_ ?_).1
  · simp [Network.FifoOn, autonomousRun]
  · intro m₁ j m₂ hsplit request hfired
    -- the only step of the stretch delivers a mode state
    rcases m₁ with _ | ⟨a, m₁⟩
    · obtain ⟨rfl, rfl⟩ := List.cons.inj hsplit
      exact nomatch Option.some.inj hfired
    · simp at hsplit
  · exact ⟨_, List.mem_cons_of_mem _ (List.mem_singleton_self _), by decide +kernel⟩

end Network

end HumaWare.Runtime
