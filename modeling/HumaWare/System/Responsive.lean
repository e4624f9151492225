import HumaWare.HardwareAdapter.Gate
import HumaWare.System.Failsafe

/-! # How soon the robot answers

The gates between a candidate and the hardware shut on anything they do not like. When nothing is
wrong they are open, and the command passes: if every topic on the way is published and delivered in
time, the hardware adapter applies, at each of its ticks, the clamp of a candidate that is not older
than the periods and the delays on the way.

* **`candidate_recent`** — the candidate that the arbiter holds;
* **`tick_of_clear`** — a tick of the arbiter approves it;
* **`responsive`** — a tick of the adapter applies what was approved. -/

namespace HumaWare.System

open Python Reactive
open HumaWare.CommandArbiter (Lane CandidateCommand clampTwist)

variable {setup : Setup} {members : NodeId → Bool} {opens : Topic → Bool}

/-! ## What is held, and since when -/

/-- The candidate that a message carries. -/
def Message.candidate? : Message → Option TwistStamped
  | .runtime (.candidate _ msg) => some msg
  | _ => none

/-- The approved command that a message carries. -/
def Message.approved? : Message → Option TwistStamped
  | .runtime (.approvedCmd msg) => some msg
  | _ => none

/-- The arbitration state that a message carries. -/
def Message.arbitration? : Message → Option CommandArbitrationState
  | .runtime (.arbitrationState msg) => some msg
  | _ => none

/-- The MRM state that a message carries. -/
def Message.mrm : Message → UInt8
  | .runtime (.mrmState msg) => msg.state
  | _ => MRMState.stateNone

/-- The candidate that the arbiter holds for a lane. -/
def candidateOf (lane : Lane) (s : Nodes) : Option CandidateCommand :=
  s.runtime.commandArbiter.candidates.get? lane.source

variable (setup members opens) in
/-- A callback hands the arbiter the candidate that it carries, or leaves the one that is held; the
same for the time. -/
theorem candidateOf_next (lane : Lane) (s : Nodes) (x : Stamped Time Event) :
    (candidateOf lane ((nodes setup).next s x)).map CandidateCommand.msg =
        (((callbacks setup members opens).heardOn (.runtime .commandArbiter)
          (.runtime (.candidate lane)) x.event).map Message.candidate?).getD
            ((candidateOf lane s).map CandidateCommand.msg) ∧
      (candidateOf lane ((nodes setup).next s x)).map CandidateCommand.receivedAt =
        ((callbacks setup members opens).heardAt (.runtime .commandArbiter)
          (.runtime (.candidate lane)) x).or
            ((candidateOf lane s).map CandidateCommand.receivedAt) := by
  obtain ⟨now, event⟩ := x
  rcases event with (e | e | e | e | e | e | e) | e | e | e | e | e | e
  case runtime.commandArbiter =>
    cases e with
    | candidate lane' msg =>
      have hnext : candidateOf lane ((nodes setup).next s
          ⟨now, .runtime (.commandArbiter (.candidate lane' msg))⟩) =
            (s.runtime.commandArbiter.candidates.set lane'.source
              (lane'.candidate msg now)).get? lane.source := rfl
      have htopic : (Message.runtime (.candidate lane' msg)).topic = .runtime (.candidate lane) ↔
          lane' = lane := by
        simp [Message.topic, Runtime.Message.topic]
      have hheard : (callbacks setup members opens).heardOn (.runtime .commandArbiter)
          (.runtime (.candidate lane)) (.runtime (.commandArbiter (.candidate lane' msg))) =
            if lane' = lane then some (.runtime (.candidate lane' msg)) else none := by
        show Option.filter (fun m : Message => m.topic = .runtime (.candidate lane))
          (some (.runtime (.candidate lane' msg))) = _
        rw [Option.filter_some]
        simp only [decide_eq_true_iff, htopic]
      rw [hnext, Callbacks.heardAt, hheard]
      by_cases hlane : lane' = lane
      · subst hlane
        rw [Dict.get?_set_self, if_pos rfl]
        exact ⟨rfl, rfl⟩
      · -- a candidate of another lane
        have hsource : lane.source ≠ lane'.source :=
          fun hsource => hlane (CommandArbiter.Lane.source_inj.mp hsource).symm
        rw [Dict.get?_set_of_ne _ _ hsource, if_neg hlane]
        exact ⟨rfl, rfl⟩
    | _ => exact ⟨rfl, rfl⟩
  all_goals exact ⟨rfl, rfl⟩

/-- The arbiter subscribes to the candidates of a lane. -/
theorem isSome_subscription_candidate {lane : Lane} {m : Message}
    (hm : m.topic = .runtime (.candidate lane)) : (subscription (.runtime .commandArbiter) m).isSome := by
  rcases m with m | m | m
  · cases m <;> first | rfl | simp [Message.topic, Runtime.Message.topic] at hm
  · simp [Message.topic] at hm
  · simp [Message.topic] at hm

/-- A message on the topic of a lane is the candidate that it carries. -/
theorem eq_candidate {lane : Lane} {m : Message} {msg : TwistStamped}
    (hm : m.topic = .runtime (.candidate lane)) (hcarries : m.candidate? = some msg) :
    m = .runtime (.candidate lane msg) := by
  rcases m with m | m | m
  · cases m <;> simp only [Message.candidate?, reduceCtorEq, Option.some.injEq] at hcarries
    simp only [Message.topic, Runtime.Message.topic, Topic.runtime.injEq,
      Runtime.Topic.candidate.injEq] at hm
    rw [hcarries, hm]
  · simp [Message.topic] at hm
  · simp [Message.topic] at hm

/-! ## The arbiter's tick -/

section Tick

variable {P D : Duration} {since : Time} {h : List Action} {i : Action}

/-- **The candidate that the arbiter holds** was published, and handed over, at most `P + D` ago. -/
theorem candidate_recent {lane : Lane}
    (hfollows : Follows setup members opens (.runtime .commandArbiter) (.runtime (.candidate lane)) P D
      since h i) (hlate : since + D < i.now) :
    ∃ pre b post c, h = pre ++ b :: post ∧
      .runtime (.candidate lane c.msg) ∈ (network setup members opens).emitted
        ((network setup members opens).machine.after pre) b ∧
      candidateOf lane ((network setup members opens).machine.after h).nodes = some c ∧
      i.now ≤ b.now + (P + D) ∧ i.now ≤ c.receivedAt + (P + D) := by
  obtain ⟨pre, b, post, m, hsplit, hm, htopic, hheld, hrecent⟩ := hfollows.held hlate
    (fun m => isSome_subscription_candidate)
    (fun s => (candidateOf lane s).map CandidateCommand.msg) Message.candidate?
    (fun s x => (candidateOf_next setup members opens lane s x).1)
  obtain ⟨now, hreceived, hfresh⟩ := hfollows.heard hlate (fun m => isSome_subscription_candidate)
    (fun s => (candidateOf lane s).map CandidateCommand.receivedAt) rfl
    (fun s x => (candidateOf_next setup members opens lane s x).2)
  obtain ⟨c, hc, rfl⟩ := Option.map_eq_some_iff.mp hreceived
  rw [hc, Option.map_some] at hheld
  rw [eq_candidate htopic hheld.symm] at hm
  exact ⟨pre, b, post, c, hsplit, hm, hc, hrecent, hfresh⟩

variable (setup members opens) in
/-- **Nothing is wrong** for the lane after the reading `since`: every safety state published allows
motion, no MRM is, and the mode is the lane's. -/
structure Clear (lane : Lane) (since : Time) (h : List Action) : Prop where
  safety : ∀ pre a post msg, h = pre ++ a :: post → since < a.now →
    .runtime (.safetyState msg) ∈ (network setup members opens).emitted
      ((network setup members opens).machine.after pre) a → msg.state ∈ SafetyState.allowedStates
  mrm : ∀ pre a post msg, h = pre ++ a :: post → since < a.now →
    .runtime (.mrmState msg) ∈ (network setup members opens).emitted
      ((network setup members opens).machine.after pre) a → msg.state = MRMState.stateNone
  mode : ∀ pre a post msg, h = pre ++ a :: post → since < a.now →
    .runtime (.modeState msg) ∈ (network setup members opens).emitted
      ((network setup members opens).machine.after pre) a → msg.activeMode = lane.requiredMode

/-- What is clear is so in an earlier part of the run. -/
theorem Clear.of_append {lane : Lane} {k : List Action}
    (hclear : Clear setup members opens lane since (h ++ k)) :
    Clear setup members opens lane since h where
  safety pre a post msg hsplit := hclear.safety pre a (post ++ k) msg (by rw [hsplit]; simp)
  mrm pre a post msg hsplit := hclear.mrm pre a (post ++ k) msg (by rw [hsplit]; simp)
  mode pre a post msg hsplit := hclear.mode pre a (post ++ k) msg (by rw [hsplit]; simp)

/-- An arbiter that holds a safety state which allows motion has its safety gate open. -/
theorem safetyOpen_of_allowed
    (hallowed : ((network setup members opens).machine.after
      h).nodes.runtime.commandArbiter.safetyState ∈ CommandArbiter.allowedSafetyStates) :
    ((network setup members opens).machine.after h).nodes.runtime.commandArbiter.SafetyOpen := by
  refine ⟨?_, hallowed⟩
  rw [commandArbiter_after] at hallowed ⊢
  rw [CommandArbiter.safetyState_after] at hallowed
  rw [CommandArbiter.lastSafety_after]
  cases hlast : latest CommandArbiter.safetyStream _ with
  | some safety => rfl
  | none =>
    -- before the first one the state is `UNKNOWN`
    rw [hlast] at hallowed
    exact absurd hallowed (by decide)

/-- **A tick of the arbiter approves a recent candidate** when nothing is wrong. -/
theorem tick_of_clear {lane : Lane} (hclear : Clear setup members opens lane since h)
    (hfollows : ∀ t ∈ [Topic.runtime .safetyState, .runtime .modeState, .runtime (.candidate lane)],
      Follows setup members opens (.runtime .commandArbiter) t P D since h i)
    (hlate : since + (P + D) < i.now)
    (hpatient : P + D ≤ ((network setup members opens).machine.after
      h).nodes.runtime.commandArbiter.params.commandTimeout) :
    ∃ pre b post, ∃ c : CandidateCommand, h = pre ++ b :: post ∧
      .runtime (.candidate lane c.msg) ∈ (network setup members opens).emitted
        ((network setup members opens).machine.after pre) b ∧
      i.now ≤ b.now + (P + D) ∧
      let s := ((network setup members opens).machine.after h).nodes.runtime.commandArbiter
      s.activeMode = lane.requiredMode ∧ s.safetyState ∈ SafetyState.allowedStates ∧
      CommandArbiter.tick s i.now =
        [.approved (CommandArbiter.limitCommand s c.msg i.now),
          .arbitrationState (CommandArbiter.arbitrationState s i.now c.source c.name true false
            "approved" (some c.receivedAt))] := by
  have hsafety := hfollows _ (List.mem_cons_self)
  have hmode := hfollows (.runtime .modeState) (by simp)
  have hcandidate := hfollows (.runtime (.candidate lane)) (by simp)
  obtain ⟨hP, hD⟩ := hsafety.nonneg
  -- what the arbiter holds was published after `since`
  obtain ⟨pre₁, a₁, post₁, safety, hsplit₁, hemitted₁, hsafety, hrecent₁⟩ :=
    SafetySubscriber.safetyOf_recent (n := .both (.consumer .commandArbiter)) hsafety (by linarith)
  obtain ⟨pre₂, a₂, post₂, mode, hsplit₂, hemitted₂, hmode, hrecent₂⟩ :=
    ModeSubscriber.modeOf_recent (n := .both (.consumer .commandArbiter)) hmode (by linarith)
  obtain ⟨pre, b, post, c, hsplit, hemitted, hheld, hrecent, hfresh⟩ :=
    candidate_recent hcandidate (by linarith)
  have hallowed : ((network setup members opens).machine.after
      h).nodes.runtime.commandArbiter.safetyState ∈ SafetyState.allowedStates := by
    have hstate := hclear.safety pre₁ a₁ post₁ safety hsplit₁ (by linarith) hemitted₁
    rw [← hsafety] at hstate
    exact hstate
  have hmode : ((network setup members opens).machine.after
      h).nodes.runtime.commandArbiter.activeMode = lane.requiredMode :=
    Eq.trans hmode (hclear.mode pre₂ a₂ post₂ mode hsplit₂ (by linarith) hemitted₂)
  refine ⟨pre, b, post, c, hsplit, hemitted, hrecent, hmode, hallowed, ?_⟩
  have heligible : ((network setup members opens).machine.after
      h).nodes.runtime.commandArbiter.eligible i.now = some c := by
    rw [CommandArbiter.State.eligible, if_pos (safetyOpen_of_allowed hallowed), hmode,
      CommandArbiter.laneOf_requiredMode, Option.bind_some,
      CommandArbiter.State.fresh_eq_some_iff]
    exact ⟨hheld, by linarith⟩
  have hkeyed : ((network setup members opens).machine.after
      h).nodes.runtime.commandArbiter.WellKeyed := by
    rw [commandArbiter_after]
    exact CommandArbiter.wellKeyed_after _ _
  obtain ⟨reason, htick⟩ := CommandArbiter.tick_eq hkeyed i.now
  rw [heligible] at htick
  exact htick

end Tick

/-! ## The adapter's tick -/

/-- What the arbiter publishes at a tick is put on its topics. -/
theorem emitted_of_tick {s : NetworkState} {i : Action} {pub : CommandArbiter.Publication}
    {m : Message}
    (hfired : (network setup members opens).fired s i.event = some (.runtime (.commandArbiter .tick)))
    (hpub : pub ∈ CommandArbiter.tick s.nodes.runtime.commandArbiter i.now)
    (hmessage : Output.message (.runtime (.commandArbiter pub)) = some m) :
    m ∈ (network setup members opens).emitted s i := by
  rw [Network.emitted, hfired]
  exact List.mem_filterMap.mpr ⟨.runtime (.commandArbiter pub),
    List.mem_map_of_mem (List.mem_map_of_mem hpub), hmessage⟩

/-- An arbitration state on the closed topic is one that the arbiter's timer published. -/
theorem tick_of_arbitrationState (hclosed : opens (.runtime .arbitrationState) = false)
    {s : NetworkState} {i : Action} {m : Message}
    (hm : m ∈ (network setup members opens).emitted s i)
    (htopic : m.topic = .runtime .arbitrationState) :
    ∃ msg, m = .runtime (.arbitrationState msg) ∧
      (network setup members opens).fired s i.event = some (.runtime (.commandArbiter .tick)) ∧
      .arbitrationState msg ∈ CommandArbiter.tick s.nodes.runtime.commandArbiter i.now := by
  obtain ⟨x, hx, hmessage⟩ := exists_output hclosed hm htopic
  have hfired := mem_stepOutputs_iff.mp hx
  rcases x with (x | x | x | x | x | x | x) | x | x | x | x | x | x
  all_goals cases x <;> simp only [Output.message, Runtime.Output.message, Option.map_some,
    Option.map_none, Option.some.injEq, reduceCtorEq] at hmessage
  all_goals subst hmessage
  all_goals first | (simp [Message.topic, Runtime.Message.topic] at htopic; done) | skip
  obtain ⟨e, hfired, hpub⟩ := hfired
  obtain ⟨e, rfl, hpub⟩ := Nodes.mem_step_runtime hpub
  obtain ⟨e, rfl, hpub⟩ := Runtime.Nodes.mem_step_commandArbiter hpub
  obtain ⟨rfl, htick⟩ := CommandArbiter.step_publications hpub
  exact ⟨_, rfl, hfired, htick⟩

variable (setup members opens) in
/-- A callback hands the adapter the MRM state, the approved command or the arbitration state that it
carries, with the time, or leaves what is held. -/
theorem hardwareAdapter_next (s : Nodes) (x : Stamped Time Event) :
    let C := callbacks setup members opens
    let adapter := s.runtime.hardwareAdapter
    let adapter' := ((nodes setup).next s x).runtime.hardwareAdapter
    adapter'.mrmState = ((C.heardOn (.runtime .hardwareAdapter) (.runtime .mrmState) x.event).map
        Message.mrm).getD adapter.mrmState ∧
      adapter'.lastApproved = ((C.heardOn (.runtime .hardwareAdapter) (.runtime .approvedCmd)
        x.event).map Message.approved?).getD adapter.lastApproved ∧
      adapter'.lastApprovedAt = (C.heardAt (.runtime .hardwareAdapter) (.runtime .approvedCmd) x).or
        adapter.lastApprovedAt ∧
      adapter'.lastArbitration = ((C.heardOn (.runtime .hardwareAdapter) (.runtime .arbitrationState)
        x.event).map Message.arbitration?).getD adapter.lastArbitration ∧
      adapter'.lastArbitrationAt = (C.heardAt (.runtime .hardwareAdapter)
        (.runtime .arbitrationState) x).or adapter.lastArbitrationAt := by
  obtain ⟨now, event⟩ := x
  rcases event with (e | e | e | e | e | e | e) | e | e | e | e | e | e
  case runtime.hardwareAdapter => cases e <;> exact ⟨rfl, rfl, rfl, rfl, rfl⟩
  all_goals exact ⟨rfl, rfl, rfl, rfl, rfl⟩

/-- The adapter subscribes to the topics that it follows. -/
theorem isSome_subscription_hardwareAdapter {m : Message}
    (hm : m.topic ∈ [Topic.runtime .mrmState, .runtime .approvedCmd, .runtime .arbitrationState]) :
    (subscription (.runtime .hardwareAdapter) m).isSome := by
  rcases m with m | m | m
  · cases m <;> first | rfl | simp [Message.topic, Runtime.Message.topic] at hm
  · simp [Message.topic] at hm
  · simp [Message.topic] at hm

variable (setup members opens) in
/-- **The way of a command** on a lane, up to the step `i` after `h`: the arbiter follows the safety
state, the mode and the lane, and the adapter the safety state, the MRM state and the mode, with the
period `P₁` and the delay `D₁`; the adapter follows the arbitration state with `P₂` and `D₂`, and gets
the approved commands of the arbiter in order and within `D₂`; neither is too impatient for that. -/
structure Way (lane : Lane) (P₁ D₁ P₂ D₂ : Duration) (since start : Time) (h : List Action)
    (i : Action) : Prop where
  toArbiter : ∀ t ∈ [Topic.runtime .safetyState, .runtime .modeState, .runtime (.candidate lane)],
    Follows setup members opens (.runtime .commandArbiter) t P₁ D₁ since h i
  toAdapter : ∀ t ∈ [Topic.runtime .safetyState, .runtime .mrmState, .runtime .modeState],
    Follows setup members opens (.runtime .hardwareAdapter) t P₁ D₁ since h i
  arbitration : Follows setup members opens (.runtime .hardwareAdapter) (.runtime .arbitrationState)
    P₂ D₂ start h i
  approvedClosed : opens (.runtime .approvedCmd) = false
  approvedDelivers : (network setup members opens).DeliversWithin (.runtime .hardwareAdapter)
    (.runtime .approvedCmd) D₂ (h ++ [i])
  approvedFifo : Network.FifoOn (.runtime .hardwareAdapter) (.runtime .approvedCmd) h
  arbiterPatient : ∀ pre a post, h = pre ++ a :: post →
    (network setup members opens).fired ((network setup members opens).machine.after pre) a.event =
      some (.runtime (.commandArbiter .tick)) →
    P₁ + D₁ ≤ ((network setup members opens).machine.after
      pre).nodes.runtime.commandArbiter.params.commandTimeout
  adapterPatient :
    let s := ((network setup members opens).machine.after h).nodes.runtime.hardwareAdapter
    P₂ + D₂ ≤ s.params.approvedCommandTimeout ∧ P₂ + D₂ ≤ s.params.arbitrationStateTimeout

section Way

variable {lane : Lane} {P₁ D₁ P₂ D₂ : Duration} {since start : Time} {h : List Action} {i : Action}

/-- Each tick of the arbiter on the way approves a recent candidate. -/
theorem Way.tick (hway : Way setup members opens lane P₁ D₁ P₂ D₂ since start h i)
    (hclear : Clear setup members opens lane since h) {pre post : List Action} {a : Action}
    (hsplit : h = pre ++ a :: post) (hlate : since + (P₁ + D₁) < a.now)
    (hfired : (network setup members opens).fired ((network setup members opens).machine.after pre)
      a.event = some (.runtime (.commandArbiter .tick))) :
    ∃ pre' b mid, ∃ c : CandidateCommand, pre = pre' ++ b :: mid ∧
      .runtime (.candidate lane c.msg) ∈ (network setup members opens).emitted
        ((network setup members opens).machine.after pre') b ∧
      a.now ≤ b.now + (P₁ + D₁) ∧
      let s := ((network setup members opens).machine.after pre).nodes.runtime.commandArbiter
      s.activeMode = lane.requiredMode ∧ s.safetyState ∈ SafetyState.allowedStates ∧
      CommandArbiter.tick s a.now =
        [.approved (CommandArbiter.limitCommand s c.msg a.now),
          .arbitrationState (CommandArbiter.arbitrationState s a.now c.source c.name true false
            "approved" (some c.receivedAt))] := by
  have hpatient := hway.arbiterPatient pre a post hsplit hfired
  have hfollows := hway.toArbiter
  obtain ⟨hP₁, hD₁⟩ := (hfollows _ List.mem_cons_self).nonneg
  rw [hsplit] at hclear hfollows
  exact tick_of_clear hclear.of_append
    (fun t ht => (hfollows t ht).of_append (by linarith)) hlate hpatient

/-- What the adapter holds when nothing is wrong. -/
theorem Way.adapter_clear (hway : Way setup members opens lane P₁ D₁ P₂ D₂ since start h i)
    (hclear : Clear setup members opens lane since h) (hlate : since + (P₁ + D₁) < i.now) :
    let s := ((network setup members opens).machine.after h).nodes.runtime.hardwareAdapter
    (s.safetyState = SafetyState.stateOk ∨ s.safetyState = SafetyState.stateWarn) ∧
      s.mrmState = MRMState.stateNone ∧ s.activeMode = lane.requiredMode := by
  intro s
  have hsafety := hway.toAdapter _ List.mem_cons_self
  have hmrm := hway.toAdapter (.runtime .mrmState) (by simp)
  have hmode := hway.toAdapter (.runtime .modeState) (by simp)
  obtain ⟨hP₁, hD₁⟩ := hsafety.nonneg
  obtain ⟨pre₁, a₁, post₁, safety, hsplit₁, hemitted₁, hsafety, hrecent₁⟩ :=
    SafetySubscriber.safetyOf_recent (n := .both (.consumer .hardwareAdapter)) hsafety (by linarith)
  obtain ⟨pre₂, a₂, post₂, mode, hsplit₂, hemitted₂, hmode, hrecent₂⟩ :=
    ModeSubscriber.modeOf_recent (n := .both (.consumer .hardwareAdapter)) hmode (by linarith)
  obtain ⟨pre₃, a₃, post₃, m, hsplit₃, hemitted₃, htopic, hmrm, hrecent₃⟩ := hmrm.held (by linarith)
    (fun m hm => isSome_subscription_hardwareAdapter (by simp [hm]))
    (fun s => s.runtime.hardwareAdapter.mrmState) Message.mrm
    (fun s x => (hardwareAdapter_next setup members opens s x).1)
  refine ⟨?_, ?_, ?_⟩
  · have hallowed := hclear.safety pre₁ a₁ post₁ safety hsplit₁ (by linarith) hemitted₁
    rw [← hsafety] at hallowed
    exact List.mem_pair.mp hallowed
  · rcases m with m | m | m
    · cases m <;> first
        | (simp [Message.topic, Runtime.Message.topic] at htopic; done)
        | exact hmrm.trans (hclear.mrm pre₃ a₃ post₃ _ hsplit₃ (by linarith) hemitted₃)
    · simp [Message.topic] at htopic
    · simp [Message.topic] at htopic
  · exact Eq.trans hmode (hclear.mode pre₂ a₂ post₂ mode hsplit₂ (by linarith) hemitted₂)

/-- **What the adapter holds of the arbiter** when nothing is wrong: a recent arbitration state, with
the output enabled, and a command that a recent tick approved. -/
theorem Way.adapter_fed (hway : Way setup members opens lane P₁ D₁ P₂ D₂ since start h i)
    (hclear : Clear setup members opens lane since h) (hstart : start + D₂ < i.now)
    (hlate : since + (P₁ + D₁) + (P₂ + D₂) < i.now) :
    let s := ((network setup members opens).machine.after h).nodes.runtime.hardwareAdapter
    (∃ arbitration arbitrationAt, s.lastArbitration = some arbitration ∧
        s.lastArbitrationAt = some arbitrationAt ∧ arbitration.outputEnabled = true ∧
        i.now ≤ arbitrationAt + (P₂ + D₂)) ∧
      (∃ approvedAt, s.lastApprovedAt = some approvedAt ∧ i.now ≤ approvedAt + (P₂ + D₂)) ∧
      ∃ pre a post command, h = pre ++ a :: post ∧ since + (P₁ + D₁) < a.now ∧
        i.now ≤ a.now + (P₂ + D₂) ∧ s.lastApproved = some command ∧
        .runtime (.approvedCmd command) ∈ (network setup members opens).emitted
          ((network setup members opens).machine.after pre) a := by
  intro s
  have hfollows := hway.arbitration
  -- an arbitration state that has arrived, and was published at a tick that approved a command
  obtain ⟨pre₀, a₀, post₀, hsplit₀, hemits₀, hlate₀⟩ := hfollows.started_before hstart
  obtain ⟨pre, a, post, hsplit, ⟨m, hm, htopic⟩, hlate', hrecent⟩ :=
    Network.exists_recent_emission hfollows.nonneg.2 hfollows.cadence hsplit₀ hemits₀ hlate₀
  obtain ⟨msg, rfl, hfired, -⟩ := tick_of_arbitrationState hfollows.closed hm htopic
  obtain ⟨-, -, -, c, -, -, -, -, -, htick⟩ := hway.tick hclear hsplit (by linarith) hfired
  have hemits : (network setup members opens).Emits (.runtime .approvedCmd) pre a :=
    ⟨_, emitted_of_tick hfired (by rw [htick]; exact List.mem_cons_self) rfl, rfl⟩
  have hreceive : ∀ m, (network setup members opens).topic m = .runtime .approvedCmd →
      ((network setup members opens).receive (.runtime .hardwareAdapter) m).isSome := by
    intro m hm
    have hmember : members (.runtime .hardwareAdapter) = true := hfollows.member
    show (if members (.runtime .hardwareAdapter) = true then _ else none).isSome
    rw [if_pos hmember]
    exact isSome_subscription_hardwareAdapter (by rw [show m.topic = _ from hm]; simp)
  refine ⟨?_, ?_, ?_⟩
  · obtain ⟨pre', a', post', m', hsplit', hm', htopic', hheld, hrecent'⟩ := hfollows.held hstart
      (fun m hm => isSome_subscription_hardwareAdapter (by simp [hm]))
      (fun s => s.runtime.hardwareAdapter.lastArbitration) Message.arbitration?
      (fun s x => (hardwareAdapter_next setup members opens s x).2.2.2.1)
    obtain ⟨now, hheard, hfresh⟩ := hfollows.heard hstart
      (fun m hm => isSome_subscription_hardwareAdapter (by simp [hm]))
      (fun s => s.runtime.hardwareAdapter.lastArbitrationAt) rfl
      (fun s x => (hardwareAdapter_next setup members opens s x).2.2.2.2)
    obtain ⟨msg', rfl, hfired', hmem⟩ := tick_of_arbitrationState hfollows.closed hm' htopic'
    obtain ⟨-, -, -, c', -, -, -, -, -, htick'⟩ :=
      hway.tick hclear hsplit' (by linarith) hfired'
    rw [htick'] at hmem
    refine ⟨msg', now, hheld, hheard, ?_, hfresh⟩
    rcases List.mem_pair.mp hmem with heq | heq
    · exact absurd heq (by simp)
    · rw [CommandArbiter.Publication.arbitrationState.inj heq]
      rfl
  · obtain ⟨now, hlast, hle⟩ := (callbacks setup members opens).heardAt_of_emission hfollows.clock
      hway.approvedDelivers hreceive hsplit hemits hlate'
    refine ⟨now, ?_, by linarith⟩
    rw [← hlast]
    exact (callbacks setup members opens).heardAt_register
      (fun s => s.runtime.hardwareAdapter.lastApprovedAt) rfl
      (fun s x => (hardwareAdapter_next setup members opens s x).2.2.1) h
  · obtain ⟨pre', a', post', m', hsplit', hm', htopic', hheld, hle⟩ :=
      (callbacks setup members opens).register_of_emission
        (fun s => s.runtime.hardwareAdapter.lastApproved) Message.approved?
        (fun s x => (hardwareAdapter_next setup members opens s x).2.1) hfollows.clock
        hway.approvedDelivers hway.approvedFifo hreceive hsplit hemits hlate'
    obtain ⟨command, rfl⟩ : ∃ command, m' = .runtime (.approvedCmd command) := by
      have htopic' : m'.topic = .runtime .approvedCmd := htopic'
      rcases m' with m' | m' | m'
      · cases m' <;> first | exact ⟨_, rfl⟩ | simp [Message.topic, Runtime.Message.topic] at htopic'
      · simp [Message.topic] at htopic'
      · simp [Message.topic] at htopic'
    exact ⟨pre', a', post', command, hsplit', by linarith, by linarith, hheld, hm'⟩

end Way

/-- **The robot answers.** Let a lane have its way, and nothing be wrong for it after the reading
`since`. Later than `since` by the two periods and the two delays together, every tick of the hardware
adapter applies a command: the clamp of a candidate that was published on the lane no longer ago than
that, approved by the arbiter in the mode of the lane. -/
theorem responsive (setup : Setup) (members : NodeId → Bool) (opens : Topic → Bool) (lane : Lane)
    (P₁ D₁ P₂ D₂ : Duration) (since start : Time) (h : List Action) (i : Action)
    (hway : Way setup members opens lane P₁ D₁ P₂ D₂ since start h i)
    (hclear : Clear setup members opens lane since h) (hstart : start + D₂ < i.now)
    (hlate : since + (P₁ + D₁) + (P₂ + D₂) < i.now)
    (hfired : (network setup members opens).fired ((network setup members opens).machine.after h)
      i.event = some (.runtime (.hardwareAdapter .tick))) :
    ∃ pre b mid a post candidate command reason, h = pre ++ b :: (mid ++ a :: post) ∧
      .runtime (.candidate lane candidate) ∈ (network setup members opens).emitted
        ((network setup members opens).machine.after pre) b ∧
      Approves setup members opens ((network setup members opens).machine.after (pre ++ b :: mid)) a
        lane candidate.twist command.twist ∧
      .runtime (.hardwareAdapter (.applyToHardware command reason)) ∈
        stepOutputs setup members opens ((network setup members opens).machine.after h) i ∧
      i.now ≤ b.now + (P₁ + D₁ + (P₂ + D₂)) := by
  obtain ⟨hP₂, hD₂⟩ := hway.arbitration.nonneg
  obtain ⟨hsafety, hmrm, hmode⟩ := hway.adapter_clear hclear (by linarith)
  obtain ⟨⟨arbitration, arbitrationAt, harbitration, hat, henabled, hfresh⟩, ⟨approvedAt, happrovedAt,
    hfresh'⟩, pre', a, post, command, hsplit, hlate', hrecent, happroved, hm⟩ :=
    hway.adapter_fed hclear hstart hlate
  obtain ⟨hpatient, hpatient'⟩ := hway.adapterPatient
  -- so the gate is open
  have hopen : ((network setup members opens).machine.after
      h).nodes.runtime.hardwareAdapter.GateOpen i.now := by
    refine ⟨hsafety, hmrm, ?_, ⟨arbitration, arbitrationAt, harbitration, hat, henabled, by linarith⟩,
      approvedAt, happrovedAt, by linarith⟩
    rw [hmode]
    cases lane <;> decide
  obtain ⟨reason, happlies⟩ := HardwareAdapter.tick_applies_iff.mpr ⟨hopen, happroved⟩
  -- and the command is the clamp of a recent candidate
  obtain ⟨hfired', hmem⟩ := tick_of_approvedCmd hway.approvedClosed hm
  obtain ⟨pre, b, mid, c, rfl, hemitted, hrecent', hmode', hallowed, htick⟩ :=
    hway.tick hclear hsplit hlate' hfired'
  rw [htick] at hmem
  refine ⟨pre, b, mid, a, post, c.msg, command, reason, by rw [hsplit]; simp, hemitted,
    ⟨hfired', hmode', hallowed, ?_⟩, mem_stepOutputs_iff.mpr ⟨_, hfired, ?_⟩, by linarith⟩
  · rcases List.mem_pair.mp hmem with heq | heq
    · rw [CommandArbiter.Publication.approved.inj heq]
      rfl
    · exact absurd heq (by simp)
  · exact List.mem_map_of_mem (List.mem_map_of_mem happlies)

/-! ### The operator drives -/

/-- A mode manager that starts in `TELEOP`. -/
def answeringSetup : Setup := { runtime := { modeManager := { initialMode := .str "teleop" } } }

/-- The nodes from the key to the hardware, and those that open its gates. -/
def answeringMembers (n : NodeId) : Bool :=
  n ∈ [.keyboardTeleop, .runtime .safetyManager, .runtime .modeManager, .runtime .commandArbiter,
    .runtime .hardwareAdapter]

/-- Whatever the first half of the way is fed with, is published. -/
def publishRound (now : Time) : List Action :=
  [⟨now, .act (.keyboardTeleop .publishTick)⟩, ⟨now, .act (.runtime (.safetyManager .publishState))⟩,
    ⟨now, .act (.runtime (.modeManager .publishState))⟩]

/-- It is delivered. -/
def deliverRound (now : Time) : List Action :=
  [⟨now, .deliver (.runtime .commandArbiter) (.runtime .safetyState) 0⟩,
    ⟨now, .deliver (.runtime .commandArbiter) (.runtime .modeState) 0⟩,
    ⟨now, .deliver (.runtime .commandArbiter) (.runtime (.candidate .teleop)) 0⟩,
    ⟨now, .deliver (.runtime .hardwareAdapter) (.runtime .safetyState) 0⟩,
    ⟨now, .deliver (.runtime .hardwareAdapter) (.runtime .mrmState) 0⟩,
    ⟨now, .deliver (.runtime .hardwareAdapter) (.runtime .modeState) 0⟩]

/-- The arbiter ticks, and its messages reach the adapter within a nanosecond. -/
def tickRound (now : Time) : List Action :=
  [⟨now, .act (.runtime (.commandArbiter .tick))⟩,
    ⟨now + 1, .deliver (.runtime .hardwareAdapter) (.runtime .arbitrationState) 0⟩,
    ⟨now + 1, .deliver (.runtime .hardwareAdapter) (.runtime .approvedCmd) 0⟩]

/-- A key is pressed; everything is published twice, and the arbiter ticks twice. -/
def answeringRun : List Action :=
  ⟨0, .act (.keyboardTeleop (.key "w"))⟩ :: (publishRound 0 ++ deliverRound 1 ++ publishRound 100 ++
    deliverRound 101 ++ tickRound 102 ++ tickRound 112)

/-- The tick of the adapter. -/
def answeringTick : Action := ⟨114, .act (.runtime (.hardwareAdapter .tick))⟩

/-- The links of the way. -/
def answeringLinks : List (NodeId × Topic) :=
  [(.runtime .commandArbiter, .runtime .safetyState), (.runtime .commandArbiter, .runtime .modeState),
    (.runtime .commandArbiter, .runtime (.candidate .teleop)),
    (.runtime .hardwareAdapter, .runtime .safetyState), (.runtime .hardwareAdapter, .runtime .mrmState),
    (.runtime .hardwareAdapter, .runtime .modeState),
    (.runtime .hardwareAdapter, .runtime .arbitrationState),
    (.runtime .hardwareAdapter, .runtime .approvedCmd)]

/-- The run loses nothing and overtakes nothing. -/
theorem labels_answeringRun : ∀ x ∈ answeringRun ++ [answeringTick],
    (match x.event with
      | .drop _ _ _ => false
      | .deliver _ _ k => k == 0
      | _ => true) = true := by
  decide

/-- The run loses nothing, and hands everything over within a nanosecond. -/
theorem delivers_answeringRun {n : NodeId} {t : Topic} (hlink : (n, t) ∈ answeringLinks) :
    (network answeringSetup answeringMembers (fun _ => false)).DeliversWithin n t 1
      (answeringRun ++ [answeringTick]) := by
  constructor
  · intro x hx k hdrop
    have hlabel := labels_answeringRun x hx
    rw [hdrop] at hlabel
    exact Bool.false_ne_true hlabel
  · refine forall_step_iff.mpr ?_
    have htimely : ∀ link ∈ answeringLinks, ∀ k (hk : k < (answeringRun ++ [answeringTick]).length),
        ∀ p ∈ (((network answeringSetup answeringMembers (fun _ => false)).machine.after
          ((answeringRun ++ [answeringTick]).take k)).link link.1 link.2).pending,
          (answeringRun ++ [answeringTick])[k].now ≤ p.sentAt + 1 := by
      decide +kernel
    exact htimely (n, t) hlink

/-- The run delivers in order. -/
theorem fifo_answeringRun (n : NodeId) (t : Topic) : Network.FifoOn n t answeringRun := by
  intro x hx k hdeliver
  have hlabel := labels_answeringRun x (List.mem_append_left _ hx)
  rw [hdeliver] at hlabel
  exact beq_iff_eq.mp hlabel

/-- What the first half of the way is fed with comes every hundred nanoseconds. -/
theorem cadence_answeringRun {t : Topic} (ht : t ∈ [Topic.runtime .safetyState, .runtime .mrmState,
    .runtime .modeState, .runtime (.candidate .teleop)]) :
    (network answeringSetup answeringMembers (fun _ => false)).Cadence t 100
      (answeringRun ++ [answeringTick]) := by
  refine Network.cadence_of_getElem ?_
  revert t
  unfold Network.Emits
  decide +kernel

/-- The nodes on the way follow what they need. -/
theorem follows_answeringRun {n : NodeId} {t : Topic} (hlink : (n, t) ∈ answeringLinks.take 6) :
    Follows answeringSetup answeringMembers (fun _ => false) n t 100 1 0 answeringRun
      answeringTick where
  clock := by decide
  member := by
    have hmembers : ∀ link ∈ answeringLinks.take 6, answeringMembers link.1 = true := by decide
    exact hmembers (n, t) hlink
  closed := rfl
  nonneg := by decide
  cadence := by
    have htopics : ∀ link ∈ answeringLinks.take 6, link.2 ∈ [Topic.runtime .safetyState,
        .runtime .mrmState, .runtime .modeState, .runtime (.candidate .teleop)] := by
      decide
    exact cadence_answeringRun (htopics (n, t) hlink)
  delivers := delivers_answeringRun (List.mem_of_mem_take hlink)
  fifo := fifo_answeringRun n t
  started := by
    -- everything is published in the first round
    have hstarted : ∀ link ∈ answeringLinks.take 6, ∃ k : Fin answeringRun.length,
        (network answeringSetup answeringMembers (fun _ => false)).Emits link.2 (answeringRun.take k)
          answeringRun[k] ∧ answeringRun[k].now ≤ 0 := by
      unfold Network.Emits
      decide +kernel
    obtain ⟨k, hemits, hle⟩ := hstarted (n, t) hlink
    exact ⟨_, _, answeringRun.drop (k + 1), by simp, hemits, hle⟩

/-- Nothing stands in the way of the operator. -/
theorem clear_answeringRun :
    Clear answeringSetup answeringMembers (fun _ => false) .teleop 0 answeringRun := by
  have hclear : ∀ pre a post, answeringRun = pre ++ a :: post → 0 < a.now →
      ∀ m ∈ (network answeringSetup answeringMembers (fun _ => false)).emitted
        ((network answeringSetup answeringMembers (fun _ => false)).machine.after pre) a,
        (m.topic = .runtime .safetyState → m.safety ∈ SafetyState.allowedStates) ∧
          (m.topic = .runtime .mrmState → m.mrm = MRMState.stateNone) ∧
          (m.topic = .runtime .modeState → m.mode = ModeState.modeTeleop) := by
    refine forall_step_iff.mpr ?_
    decide +kernel
  exact ⟨fun pre a post msg hsplit hlate hm => (hclear pre a post hsplit hlate _ hm).1 rfl,
    fun pre a post msg hsplit hlate hm => (hclear pre a post hsplit hlate _ hm).2.1 rfl,
    fun pre a post msg hsplit hlate hm => (hclear pre a post hsplit hlate _ hm).2.2 rfl⟩

/-- The way from the key to the hardware is open. -/
theorem way_answeringRun : Way answeringSetup answeringMembers (fun _ => false) .teleop 100 1 10 1 0
    102 answeringRun answeringTick where
  toArbiter t ht := by
    have hlinks : ∀ t ∈ [Topic.runtime .safetyState, .runtime .modeState,
        .runtime (.candidate .teleop)],
        (NodeId.runtime .commandArbiter, t) ∈ answeringLinks.take 6 := by
      decide
    exact follows_answeringRun (hlinks t ht)
  toAdapter t ht := by
    have hlinks : ∀ t ∈ [Topic.runtime .safetyState, .runtime .mrmState, .runtime .modeState],
        (NodeId.runtime .hardwareAdapter, t) ∈ answeringLinks.take 6 := by
      decide
    exact follows_answeringRun (hlinks t ht)
  arbitration :=
    { clock := by decide
      member := rfl
      closed := rfl
      nonneg := by decide
      cadence := by
        refine Network.cadence_of_getElem ?_
        unfold Network.Emits
        decide +kernel
      delivers := delivers_answeringRun (by decide)
      fifo := fifo_answeringRun _ _
      started := by
        refine ⟨answeringRun.take 19, answeringRun[19], answeringRun.drop 20, by simp, ?_, by decide⟩
        unfold Network.Emits
        decide +kernel }
  approvedClosed := rfl
  approvedDelivers := delivers_answeringRun (by decide)
  approvedFifo := fifo_answeringRun _ _
  arbiterPatient := by
    refine forall_step_iff.mpr ?_
    decide +kernel
  adapterPatient := by decide +kernel

/-- The key has reached the hardware. -/
theorem responsive_answering :
    ∃ command reason, .runtime (.hardwareAdapter (.applyToHardware command reason)) ∈
      stepOutputs answeringSetup answeringMembers (fun _ => false)
        ((network answeringSetup answeringMembers (fun _ => false)).machine.after answeringRun)
        answeringTick := by
  obtain ⟨-, -, -, -, -, -, command, reason, -, -, -, happlied, -⟩ :=
    responsive answeringSetup answeringMembers (fun _ => false) .teleop 100 1 10 1 0 102 answeringRun
      answeringTick way_answeringRun clear_answeringRun (by decide) (by decide) (by decide +kernel)
  exact ⟨command, reason, happlied⟩

end HumaWare.System
