import HumaWare.CommandArbiter.Gate
import HumaWare.Runtime.Network

/-! # An accepted stop skill

The skill server answers an accepted `stop` with a zero velocity on `policy/cmd_vel`. The arbiter
registers it as a policy candidate, and approves policy candidates in `AI_POLICY` only: in any other
mode the stop changes nothing. `stop_holds_iff` says exactly when a tick of the arbiter, after it
received the stop, approves no motion.

* **`InForce`** — how long the stop is meant to hold: until a candidate comes in on the subscription
  of the mode active at that moment;
* **`Overridden`** — the tick approves a motion all the same;
* **`stop_holds_iff`** — the main result; `stop_ignored` is a run in which the stop changes
  nothing. -/

namespace HumaWare.Runtime

open Reactive
open CommandArbiter (Lane Input Params clampTwist paramsIn modeStream safetyStream candidateStream)

/-- **The stop is in force.** Along `k`, which continues the arbiter's history `h`, no candidate
came in on the subscription of the mode then active. -/
def InForce (h k : List Input) : Prop :=
  ∀ k₁ x k₂ lane, k = k₁ ++ x :: k₂ → (candidateStream lane x).isSome →
    latest modeStream (h ++ k₁) ≠ some lane.requiredMode

/-- A stop is in force when the arbiter has just received it. -/
theorem inForce_nil (h : List Input) : InForce h [] := by
  intro k₁ x k₂ lane hsplit
  exact absurd hsplit (by simp)

/-- A candidate received at `receivedAt` is fresh at `now`, and is not clamped to zero. -/
def Moves (params : Params) (h : List Input) (now : Time) (twist : Twist) (receivedAt : Time) : Prop :=
  now - receivedAt ≤ (paramsIn params h).commandTimeout ∧
    clampTwist twist (paramsIn params h).maxLinearVelocityMps
      (paramsIn params h).maxAngularVelocityRadps ≠ 0

/-- **The stop is overridden.** The arbiter received the stop at `stoppedAt`, at the end of `h`, and
`k` since. The safety state allows motion; and the active mode requires another subscription, whose
last candidate moves the robot; or it is `AI_POLICY`, and a later policy candidate does; or it is
`AI_POLICY`, and the stop itself does, since the limits clamp zero to something else. -/
def Overridden (params : Params) (h k : List Input) (stoppedAt now : Time) : Prop :=
  (∃ safety, latest safetyStream (h ++ k) = some safety ∧
      safety.state ∈ [SafetyState.stateOk, SafetyState.stateWarn]) ∧
    ((∃ lane msg receivedAt, lane ≠ .policy ∧
        latest modeStream (h ++ k) = some lane.requiredMode ∧
        latest (candidateStream lane) (h ++ k) = some (msg, receivedAt) ∧
        Moves params (h ++ k) now msg.twist receivedAt) ∨
      (latest modeStream (h ++ k) = some ModeState.modeAiPolicy ∧
        ∃ msg receivedAt, latest (candidateStream .policy) k = some (msg, receivedAt) ∧
          Moves params (h ++ k) now msg.twist receivedAt) ∨
      (latest modeStream (h ++ k) = some ModeState.modeAiPolicy ∧
        latest (candidateStream .policy) k = none ∧ Moves params (h ++ k) now 0 stoppedAt))

/-- **Refinement.** After a stop on the policy subscription, a tick of the arbiter approves a motion
exactly if the stop is overridden. -/
theorem approves_motion_iff_overridden (params : Params) {h : List Input} (k : List Input)
    {stop : TwistStamped} {stoppedAt : Time} (now : Time)
    (hstop : latest (candidateStream .policy) h = some (stop, stoppedAt)) (hzero : stop.twist = 0) :
    (∃ msg, CommandArbiter.Publication.approved msg ∈
        CommandArbiter.tick ((CommandArbiter.machine params).after (h ++ k)) now ∧ msg.twist ≠ 0) ↔
      Overridden params h k stoppedAt now := by
  rw [CommandArbiter.approves_motion_iff]
  constructor
  · rintro ⟨lane, msg, receivedAt, ⟨hsafety, hmode, hcandidate, hfresh⟩, hmoves⟩
    refine ⟨hsafety, ?_⟩
    by_cases hlane : lane = .policy
    · subst hlane
      rw [latest_append, hstop] at hcandidate
      cases hlater : latest (candidateStream .policy) k with
      | none =>
        -- the last policy candidate is the stop
        rw [hlater, Option.none_or, Option.some.injEq, Prod.mk.injEq] at hcandidate
        obtain ⟨rfl, rfl⟩ := hcandidate
        rw [hzero] at hmoves
        exact Or.inr (Or.inr ⟨hmode, rfl, hfresh, hmoves⟩)
      | some later =>
        rw [hlater, Option.some_or, Option.some.injEq] at hcandidate
        subst hcandidate
        exact Or.inr (Or.inl ⟨hmode, msg, receivedAt, rfl, hfresh, hmoves⟩)
    · exact Or.inl ⟨lane, msg, receivedAt, hlane, hmode, hcandidate, hfresh, hmoves⟩
  · rintro ⟨hsafety, ⟨lane, msg, receivedAt, -, hmode, hcandidate, hfresh, hmoves⟩ |
      ⟨hmode, msg, receivedAt, hlater, hfresh, hmoves⟩ | ⟨hmode, hlater, hfresh, hmoves⟩⟩
    · exact ⟨lane, msg, receivedAt, ⟨hsafety, hmode, hcandidate, hfresh⟩, hmoves⟩
    · have hcandidate : latest (candidateStream .policy) (h ++ k) = some (msg, receivedAt) := by
        rw [latest_append, hlater, Option.some_or]
      exact ⟨.policy, msg, receivedAt, ⟨hsafety, hmode, hcandidate, hfresh⟩, hmoves⟩
    · have hcandidate : latest (candidateStream .policy) (h ++ k) = some (stop, stoppedAt) := by
        rw [latest_append, hlater, Option.none_or, hstop]
      refine ⟨.policy, stop, stoppedAt, ⟨hsafety, hmode, hcandidate, hfresh⟩, ?_⟩
      rw [hzero]
      exact hmoves

/-- **Where the stop does what it is for.** While the mode is `AI_POLICY` all along, and neither
limit is negative or not a number, a stop in force is not overridden. -/
theorem not_overridden_of_aiPolicy {params : Params} {h k : List Input} {stoppedAt now : Time}
    (hforce : InForce h k)
    (hmode : ∀ k₁ k₂, k = k₁ ++ k₂ → latest modeStream (h ++ k₁) = some ModeState.modeAiPolicy)
    (hlinear : 0 ≤ (paramsIn params (h ++ k)).maxLinearVelocityMps)
    (hangular : 0 ≤ (paramsIn params (h ++ k)).maxAngularVelocityRadps) :
    ¬Overridden params h k stoppedAt now := by
  rintro ⟨-, ⟨lane, -, -, hlane, hlaneMode, -⟩ | ⟨-, msg, receivedAt, hlater, -⟩ |
    ⟨-, -, -, hmoves⟩⟩
  · have hsame := hlaneMode.symm.trans (hmode k [] (List.append_nil k).symm)
    exact hlane (Lane.requiredMode_inj.mp (Option.some.inj hsame))
  · -- a later policy candidate would have ended the stop's time when it came in
    obtain ⟨k₁, x, k₂, hsplit, hx, -⟩ := latest_eq_some_iff.mp hlater
    have hsome : (candidateStream .policy x).isSome := by
      rw [hx]
      rfl
    exact hforce k₁ x k₂ .policy hsplit hsome (hmode k₁ (x :: k₂) hsplit)
  · exact hmoves (CommandArbiter.clampTwist_zero hlinear hangular)

section Network

variable {setup : Setup} {members : NodeId → Bool} {opens : Topic → Bool}

/-- A packet that a stop request put on the link to the arbiter is a policy candidate of zero
velocity, and the request was accepted and not a dry run. -/
theorem stop_packet {pre mid : List Action} {e : Action} {request : SkillServer.ExecuteSkillRequest}
    {executionId : String}
    (hrequest : (network setup members opens).fired
      ((network setup members opens).machine.after pre) e.event =
        some (.skillServer (.executeSkill request executionId)))
    (hstop : request.capabilityName = "stop") {p : Packet Time Message}
    (hp : p ∈ (((network setup members opens).machine.after (pre ++ e :: mid)).link .commandArbiter
      (.candidate .policy)).pending)
    (hlow : (((network setup members opens).machine.after pre).link .commandArbiter
      (.candidate .policy)).count ≤ p.serial)
    (hhigh : p.serial < (((network setup members opens).machine.after (pre ++ [e])).link
      .commandArbiter (.candidate .policy)).count) :
    (∃ msg, p.msg = .candidate .policy msg ∧ msg.twist = 0) ∧
      (((network setup members opens).machine.after pre).nodes.skillServer.decision request).accepted =
        true ∧ request.dryRun = false := by
  rw [List.append_cons] at hp
  refine (network setup members opens).packet_window
    (P := fun m => (∃ msg, m = .candidate .policy msg ∧ msg.twist = 0) ∧
      (((network setup members opens).machine.after pre).nodes.skillServer.decision request).accepted =
        true ∧ request.dryRun = false) ?_ mid (List.mem_append_right _ hp) hlow hhigh
  intro m₁ j m₂ hsplit m hm htopic
  -- the window is the request's own step
  obtain ⟨rfl, rfl⟩ : m₁ = [] ∧ e = j := by
    cases m₁ with
    | nil => exact ⟨rfl, (List.cons.inj hsplit).1⟩
    | cons a m₁ => simp at hsplit
  rw [List.append_nil] at hm
  rcases emitted_cases hm with ⟨x, hx, hmsg⟩ | ⟨hinject, -⟩
  · obtain ⟨e', hfired, hx⟩ := mem_stepOutputs_iff.mp hx
    obtain rfl := Option.some.inj (hrequest.symm.trans hfired)
    obtain ⟨msg, rfl, rfl⟩ := message_policyCmd hmsg htopic
    obtain ⟨pub, hpub, heq⟩ := List.mem_map.mp hx
    obtain rfl := Output.skillServer.inj heq
    obtain ⟨haccepted, hdry, hzero⟩ := SkillServer.policyCmd_of_stop hstop hpub
    exact ⟨⟨msg, rfl, hzero⟩, haccepted, hdry⟩
  · -- a candidate from outside is no request
    rw [hinject] at hrequest
    exact absurd hrequest (by simp [Network.fired])

end Network

/-- **The main result.** The step `e` handles a request for the skill `stop`, and `d` hands the
command that the skill server published for it to the arbiter. Then, at any later tick of the
arbiter: that it approves no motion while the stop is in force holds exactly unless the stop is in
force and overridden. -/
theorem stop_holds_iff (setup : Setup) (members : NodeId → Bool) (opens : Topic → Bool)
    (pre mid post : List Action) (e d i : Action) (request : SkillServer.ExecuteSkillRequest)
    (executionId : String)
    (hrequest : (network setup members opens).fired
      ((network setup members opens).machine.after pre) e.event =
        some (.skillServer (.executeSkill request executionId)))
    (hstop : request.capabilityName = "stop") (pos : ℕ)
    (hdeliver : d.event = .deliver .commandArbiter (.candidate .policy) pos)
    (p : Packet Time Message) (l : Link Time Message)
    (htake : (((network setup members opens).machine.after (pre ++ e :: mid)).link .commandArbiter
      (.candidate .policy)).take? pos = some (p, l))
    (hlow : (((network setup members opens).machine.after pre).link .commandArbiter
      (.candidate .policy)).count ≤ p.serial)
    (hhigh : p.serial < (((network setup members opens).machine.after (pre ++ [e])).link
      .commandArbiter (.candidate .policy)).count)
    (htick : (network setup members opens).fired
      ((network setup members opens).machine.after (pre ++ e :: mid ++ [d] ++ post)) i.event =
        some (.commandArbiter .tick)) :
    let h := commandArbiterHistory setup members opens (pre ++ e :: mid ++ [d])
    let k := commandArbiterSince setup members opens (pre ++ e :: mid ++ [d]) post
    (InForce h k → ∀ msg, .commandArbiter (.approved msg) ∈ stepOutputs setup members opens
        ((network setup members opens).machine.after (pre ++ e :: mid ++ [d] ++ post)) i →
        msg.twist = 0) ↔
      ¬(InForce h k ∧ Overridden setup.commandArbiter h k d.now i.now) := by
  intro h k
  -- the arbiter's history ends with the stop when `d` has handed it over
  obtain ⟨⟨stop, hmsg, hzero⟩, -⟩ := stop_packet hrequest hstop (Link.take?_mem htake) hlow hhigh
  have hreceive : (network setup members opens).receive .commandArbiter p.msg =
      some (.commandArbiter (.candidate .policy stop)) := by
    obtain ⟨-, -, -, -, -, -, -, hsome⟩ :=
      (network setup members opens).packet_emitted (List.mem_append_right _ (Link.take?_mem htake))
    obtain ⟨event, hevent⟩ := Option.isSome_iff_exists.mp hsome
    obtain ⟨hmember, -⟩ := receive_eq_some_iff.mp hevent
    rw [hmsg]
    exact receive_eq_some_iff.mpr ⟨hmember, rfl⟩
  have hlatest : latest (candidateStream .policy) h = some (stop, d.now) := by
    have hevents : h = commandArbiterHistory setup members opens (pre ++ e :: mid) ++
        [⟨d.now, .candidate .policy stop⟩] := by
      apply commandArbiterHistory_concat
      rw [hdeliver, Network.fired, htake, Option.bind_some, hreceive]
    rw [hevents, latest_concat]
    rfl
  have hmotion := approves_motion_iff_overridden setup.commandArbiter k i.now hlatest hzero
  rw [← commandArbiterHistory_append, ← commandArbiter_after_run] at hmotion
  rw [stepOutputs_commandArbiter_tick htick, ← hmotion]
  constructor
  · rintro hholds ⟨hforce, msg, hmsg, hne⟩
    exact hne (hholds hforce msg (List.mem_map_of_mem hmsg))
  · intro hnot hforce msg hmsg
    obtain ⟨pub, hpub, heq⟩ := List.mem_map.mp hmsg
    obtain rfl := Output.commandArbiter.inj heq
    by_contra hne
    exact hnot ⟨hforce, msg, hpub, hne⟩

/-! ## A stop that changes nothing -/

/-- The skill server and the arbiter. -/
def skillMembers (n : NodeId) : Bool := n = .skillServer ∨ n = .commandArbiter

/-- `AUTONOMY`, an OK safety state, and a fresh autonomy candidate. -/
def drivingRun : List Action :=
  [⟨0, .inject (.capabilities [{ name := "stop", state := Capability.stateIdle }])⟩,
    ⟨0, .deliver .skillServer .capabilities 0⟩,
    ⟨0, .inject (.safetyState { state := SafetyState.stateOk })⟩,
    ⟨0, .deliver .commandArbiter .safetyState 0⟩,
    ⟨0, .inject (.modeState { activeMode := ModeState.modeAutonomy })⟩,
    ⟨0, .deliver .commandArbiter .modeState 0⟩,
    ⟨1, .inject (.candidate .autonomy { twist := { linear := { x := .fin (1 / 4) } } })⟩,
    ⟨1, .deliver .commandArbiter (.candidate .autonomy) 0⟩]

/-- A request for the stop. -/
def stopRequest : Action :=
  ⟨2, .act (.skillServer (.executeSkill { capabilityName := "stop" } "execution"))⟩

/-- The delivery of the stop. -/
def stopDelivery : Action := ⟨3, .deliver .commandArbiter (.candidate .policy) 0⟩

/-- The stop requested while driving is overridden. -/
theorem stop_holds_iff_driving :
    Overridden {} (commandArbiterHistory {} skillMembers (fun _ => true)
      (drivingRun ++ stopRequest :: [] ++ [stopDelivery])) [] 3 4 := by
  by_contra hnot
  have hholds := (stop_holds_iff {} skillMembers (fun _ => true) drivingRun [] [] stopRequest
    stopDelivery ⟨4, .act (.commandArbiter .tick)⟩ _ _ rfl rfl 0 rfl _ _ rfl (Nat.le_refl 0)
    Nat.zero_lt_one rfl).mpr fun h => hnot h.2
  have hzero := hholds (inForce_nil _) _ List.mem_cons_self
  exact absurd hzero (by decide +kernel)

/-- **A stop that changes nothing.** While driving in `AUTONOMY`, the stop is accepted, published
and received by the arbiter; no candidate comes in afterwards, and the next tick still approves
motion. -/
theorem stop_ignored :
    (∃ response, .skillServer (.response response) ∈ stepOutputs {} skillMembers (fun _ => true)
        ((network {} skillMembers fun _ => true).machine.after drivingRun) stopRequest ∧
      response.accepted = true) ∧
    (∃ state, .skillServer (.skillState state) ∈ stepOutputs {} skillMembers (fun _ => true)
        ((network {} skillMembers fun _ => true).machine.after drivingRun) stopRequest ∧
      state.commandPublished = true) ∧
    commandArbiterHistory {} skillMembers (fun _ => true)
        (drivingRun ++ [stopRequest] ++ [stopDelivery]) =
      commandArbiterHistory {} skillMembers (fun _ => true) (drivingRun ++ [stopRequest]) ++
        [⟨3, .candidate .policy (SkillServer.makeStopCommand "mock_001" 2)⟩] ∧
    InForce (commandArbiterHistory {} skillMembers (fun _ => true)
      (drivingRun ++ [stopRequest] ++ [stopDelivery])) [] ∧
    ∃ msg, .commandArbiter (.approved msg) ∈ stepOutputs {} skillMembers (fun _ => true)
        ((network {} skillMembers fun _ => true).machine.after
          (drivingRun ++ [stopRequest] ++ [stopDelivery])) ⟨4, .act (.commandArbiter .tick)⟩ ∧
      msg.twist ≠ 0 := by
  refine ⟨⟨_, List.mem_cons_of_mem _ (List.mem_cons_of_mem _ (List.mem_singleton_self _)), rfl⟩,
    ⟨_, List.mem_cons_of_mem _ List.mem_cons_self, rfl⟩, rfl, inForce_nil _, _, List.mem_cons_self,
    by decide +kernel⟩

end HumaWare.Runtime
