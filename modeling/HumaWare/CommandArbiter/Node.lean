import HumaWare.Msgs
import HumaWare.Python.Dict

/-! # The command arbiter node

`command_arbiter_node.py`, function by function. The node keeps the last mode, the last safety state
and the last candidate of each of three sources; its timer approves at most one candidate and
publishes it, clamped, on `cmd_vel/approved`, together with a `CommandArbitrationState` that gives
the reason. A parameter is read when a callback needs it, so the parameters in force are part of the
state and `Event.setParameters` may change them at any time; the timer period is left out, since a
run may tick at any clock reading. -/

namespace HumaWare.CommandArbiter

open Python Reactive

/-- `SOURCE_PRIORITY`. -/
def sourcePriority : List UInt8 :=
  [CommandArbitrationState.sourceTeleop, CommandArbitrationState.sourceAutonomy,
    CommandArbitrationState.sourceAiPolicy]

/-- `BLOCKING_SAFETY_STATES`. -/
def blockingSafetyStates : List UInt8 :=
  [SafetyState.stateFault, SafetyState.stateEstop, SafetyState.stateMrm]

/-- `ALLOWED_SAFETY_STATES`. -/
def allowedSafetyStates : List UInt8 := SafetyState.allowedStates

/-- `INACTIVE_MODES`. -/
def inactiveModes : List UInt8 :=
  [ModeState.modeInactive, ModeState.modeMaintenance, ModeState.modeFault, ModeState.modeShutdown]

/-- `STOP_REASONS`: the reasons for which an explicit zero stop is published. -/
def stopReasons : List String :=
  ["safety_state_blocks_output", "safety_state_not_ready", "active_mode_blocks_output",
    "no_fresh_command_for_active_mode"]

/-- `CandidateCommand`: the last command received from a source. -/
structure CandidateCommand where
  source : UInt8
  name : String
  requiredMode : UInt8
  msg : TwistStamped
  receivedAt : Time
  deriving DecidableEq, Repr

/-- `select_candidate`: the candidate to approve next, and a reason. -/
def selectCandidate (activeMode : UInt8) (safetySeen : Bool) (safetyState : UInt8)
    (candidates : Dict UInt8 CandidateCommand) (now : Time) (commandTimeout : Duration) :
    Option CandidateCommand × String :=
  -- the one reason that is not in `STOP_REASONS`: no stop goes out before the first safety state
  if ¬safetySeen then (none, "waiting_for_safety_state")
  else if safetyState ∈ blockingSafetyStates then (none, "safety_state_blocks_output")
  else if safetyState ∉ allowedSafetyStates then (none, "safety_state_not_ready")
  else if activeMode ∈ inactiveModes then (none, "active_mode_blocks_output")
  else
    -- the first source in priority order whose candidate fits the mode and is fresh
    match sourcePriority.findSome? fun source =>
        (candidates.get? source).filter fun candidate =>
          candidate.requiredMode = activeMode ∧ now - candidate.receivedAt ≤ commandTimeout with
    | some candidate => (some candidate, "approved")
    | none => (none, "no_fresh_command_for_active_mode")

/-- `should_publish_stop`. -/
def shouldPublishStop (reason : String) (publishStopOnBlock : Bool) : Bool :=
  if ¬publishStopOnBlock then false else decide (reason ∈ stopReasons)

/-- `_clamp`. -/
def clamp (value minimum maximum : PyFloat) : PyFloat :=
  PyFloat.pyMax minimum (PyFloat.pyMin maximum value)

/-- The twist that `clamp_velocity` makes of a candidate's. -/
def clampTwist (twist : Twist) (maxLinear maxAngular : PyFloat) : Twist where
  linear :=
    { x := clamp twist.linear.x (-maxLinear) maxLinear
      y := clamp twist.linear.y (-maxLinear) maxLinear
      z := 0 }
  angular := { x := 0, y := 0, z := clamp twist.angular.z (-maxAngular) maxAngular }

/-- The zero velocity is clamped to zero, unless a limit is negative or not a number. -/
theorem clampTwist_zero {maxLinear maxAngular : PyFloat} (hlinear : 0 ≤ maxLinear)
    (hangular : 0 ≤ maxAngular) : clampTwist 0 maxLinear maxAngular = 0 := by
  have hx : clamp 0 (-maxLinear) maxLinear = 0 := PyFloat.clamp_zero hlinear
  have hz : clamp 0 (-maxAngular) maxAngular = 0 := PyFloat.clamp_zero hangular
  show (⟨⟨clamp 0 (-maxLinear) maxLinear, clamp 0 (-maxLinear) maxLinear, 0⟩,
    ⟨0, 0, clamp 0 (-maxAngular) maxAngular⟩⟩ : Twist) = 0
  rw [hx, hz]
  rfl

/-- `clamp_velocity`. -/
def clampVelocity (msg : TwistStamped) (maxLinear maxAngular : PyFloat) (stamp : Time)
    (frameId : String) : TwistStamped where
  header := { stamp := stamp, frameId := frameId }
  twist := clampTwist msg.twist maxLinear maxAngular

/-- The parameters the node reads while it runs. -/
structure Params where
  robotId : String := "mock_001"
  commandTimeout : Duration := 500000000
  maxLinearVelocityMps : PyFloat := .fin (1 / 2)
  maxAngularVelocityRadps : PyFloat := .fin (1 / 2)
  publishStopOnBlock : Bool := true
  deriving DecidableEq, Repr

/-- The three candidate subscriptions. -/
inductive Lane
  /-- `teleop/cmd_vel` -/
  | teleop
  /-- `autonomy/cmd_vel` -/
  | autonomy
  /-- `policy/cmd_vel` -/
  | policy
  deriving DecidableEq, Repr

namespace Lane

/-- The source a subscription registers its candidates under. -/
def source : Lane → UInt8
  | teleop => CommandArbitrationState.sourceTeleop
  | autonomy => CommandArbitrationState.sourceAutonomy
  | policy => CommandArbitrationState.sourceAiPolicy

/-- The name a subscription registers its candidates under. -/
def name : Lane → String
  | teleop => "teleop"
  | autonomy => "autonomy"
  | policy => "ai_policy"

/-- The mode a subscription requires for its candidates. -/
def requiredMode : Lane → UInt8
  | teleop => ModeState.modeTeleop
  | autonomy => ModeState.modeAutonomy
  | policy => ModeState.modeAiPolicy

/-- The candidate a subscription registers for a message. -/
def candidate (lane : Lane) (msg : TwistStamped) (receivedAt : Time) : CandidateCommand where
  source := lane.source
  name := lane.name
  requiredMode := lane.requiredMode
  msg := msg
  receivedAt := receivedAt

end Lane

/-- The node's fields, and the parameters in force. -/
structure State where
  params : Params
  activeMode : UInt8 := ModeState.modeInactive
  safetyState : UInt8 := SafetyState.stateUnknown
  lastSafety : Option SafetyState := none
  candidates : Dict UInt8 CandidateCommand := Dict.empty

/-- The node's callbacks. -/
inductive Event
  | modeState (msg : ModeState)
  | safetyState (msg : SafetyState)
  | candidate (lane : Lane) (msg : TwistStamped)
  | tick
  | setParameters (params : Params)
  deriving DecidableEq

/-- What the node publishes. -/
inductive Publication
  /-- on `cmd_vel/approved` -/
  | approved (msg : TwistStamped)
  /-- on `runtime/command_arbitration_state` -/
  | arbitrationState (msg : CommandArbitrationState)
  deriving DecidableEq

/-- `_on_candidate`. -/
def onCandidate (s : State) (now : Time) (lane : Lane) (msg : TwistStamped) : State :=
  -- whatever the mode: the candidate waits for its mode until it is stale or overwritten
  { s with candidates := s.candidates.set lane.source (lane.candidate msg now) }

/-- `_limit_command`. -/
def limitCommand (s : State) (msg : TwistStamped) (now : Time) : TwistStamped :=
  clampVelocity msg s.params.maxLinearVelocityMps s.params.maxAngularVelocityRadps now
    msg.header.frameId

/-- `_make_stop`. -/
def makeStop (s : State) (now : Time) : TwistStamped where
  header := { stamp := now, frameId := s.params.robotId }

/-- `_publish_state`: the message it publishes. -/
def arbitrationState (s : State) (now : Time) (activeSource : UInt8) (activeSourceName : String)
    (outputEnabled stopCommandPublished : Bool) (reason : String)
    (lastCommandTime : Option Time) : CommandArbitrationState where
  header := { stamp := now, frameId := s.params.robotId }
  robotId := s.params.robotId
  activeSource := activeSource
  activeSourceName := activeSourceName
  activeMode := s.activeMode
  safetyState := s.safetyState
  outputEnabled := outputEnabled
  stopCommandPublished := stopCommandPublished
  lastCommandTime := lastCommandTime.getD 0
  commandAge := (lastCommandTime.map fun t => durationMsg (now - t)).getD {}
  reason := reason

/-- `_tick`. -/
def tick (s : State) (now : Time) : List Publication :=
  match selectCandidate s.activeMode s.lastSafety.isSome s.safetyState s.candidates now
      s.params.commandTimeout with
  | (none, reason) =>
    if shouldPublishStop reason s.params.publishStopOnBlock then
      [.approved (makeStop s now),
        .arbitrationState (arbitrationState s now CommandArbitrationState.sourceSafety "safety"
          false true reason none)]
    else
      [.arbitrationState (arbitrationState s now CommandArbitrationState.sourceNone "none"
        false false reason none)]
  | (some candidate, _) =>
    -- the source reported is the candidate's own, its age the time since its arrival
    [.approved (limitCommand s candidate.msg now),
      .arbitrationState (arbitrationState s now candidate.source candidate.name
        true false "approved" (some candidate.receivedAt))]

/-- An input of the node: a callback and the clock reading at which it runs. -/
abbrev Input : Type := Stamped Time Event

/-- One callback of the node. -/
def step (s : State) (i : Input) : State × List Publication :=
  match i.event with
  | .modeState msg => ({ s with activeMode := msg.activeMode }, [])
  | .safetyState msg => ({ s with lastSafety := some msg, safetyState := msg.state }, [])
  | .candidate lane msg => (onCandidate s i.now lane msg, [])
  | .tick => (s, tick s i.now)
  | .setParameters params => ({ s with params := params }, [])

/-- The node, started with the parameters `params`. -/
def machine (params : Params) : Machine State Input (List Publication) where
  init := { params := params }
  step := step

/-! ## What one callback does -/

/-- The node starts with its defaults. -/
@[simp] theorem machine_init (params : Params) : (machine params).init = { params := params } := rfl

/-- A step of the machine is a callback of the node. -/
@[simp] theorem machine_next (params : Params) (s : State) (i : Input) :
    (machine params).next s i = (step s i).1 := rfl

/-- The machine outputs what the callback publishes. -/
@[simp] theorem machine_out (params : Params) (s : State) (i : Input) :
    (machine params).out s i = (step s i).2 := rfl

/-- Only the timer publishes. -/
theorem step_publications {s : State} {i : Input} {pub : Publication} (h : pub ∈ (step s i).2) :
    i.event = .tick ∧ pub ∈ tick s i.now := by
  obtain ⟨now, event⟩ := i
  cases event <;> simp_all [step]

/-- The subscription whose candidates the arbiter looks for in a mode. -/
def laneOf (mode : UInt8) : Option Lane :=
  if mode = ModeState.modeTeleop then some .teleop
  else if mode = ModeState.modeAutonomy then some .autonomy
  else if mode = ModeState.modeAiPolicy then some .policy
  else none

/-- The lane of a mode is the one that requires it. -/
theorem laneOf_eq_some_iff {mode : UInt8} {lane : Lane} :
    laneOf mode = some lane ↔ mode = lane.requiredMode := by
  cases lane <;> simp only [laneOf, Lane.requiredMode] <;> grind

/-- The mode that a lane requires is its own. -/
@[simp] theorem laneOf_requiredMode (lane : Lane) : laneOf lane.requiredMode = some lane :=
  laneOf_eq_some_iff.mpr rfl

/-- Lanes have different sources. -/
@[simp] theorem Lane.source_inj {lane lane' : Lane} : lane.source = lane'.source ↔ lane = lane' := by
  cases lane <;> cases lane' <;> decide

/-- Lanes require different modes. -/
@[simp] theorem Lane.requiredMode_inj {lane lane' : Lane} :
    lane.requiredMode = lane'.requiredMode ↔ lane = lane' := by
  cases lane <;> cases lane' <;> decide

/-- The safety gate of the arbiter: a safety state was seen, and the last one allows motion. -/
def State.SafetyOpen (s : State) : Prop := s.lastSafety.isSome ∧ s.safetyState ∈ allowedSafetyStates

instance (s : State) : Decidable s.SafetyOpen := inferInstanceAs (Decidable (_ ∧ _))

/-- The registered candidate of a subscription, if it is fresh at `now`. -/
def State.fresh (s : State) (now : Time) (lane : Lane) : Option CandidateCommand :=
  (s.candidates.get? lane.source).filter fun c => now - c.receivedAt ≤ s.params.commandTimeout

/-- The candidate that the arbiter may approve at `now`: the fresh one of the active mode's own
subscription, while the safety gate is open. -/
def State.eligible (s : State) (now : Time) : Option CandidateCommand :=
  if s.SafetyOpen then (laneOf s.activeMode).bind (s.fresh now) else none

/-- The fresh candidate of a lane is the one held, if it is not too old. -/
theorem State.fresh_eq_some_iff {s : State} {now : Time} {lane : Lane} {c : CandidateCommand} :
    s.fresh now lane = some c ↔ s.candidates.get? lane.source = some c ∧
      now - c.receivedAt ≤ s.params.commandTimeout := by
  simp only [fresh, Option.filter_eq_some_iff, decide_eq_true_eq]

/-- Every registered candidate carries the data of the subscription it is registered under. -/
def State.WellKeyed (s : State) : Prop :=
  ∀ source c, s.candidates.get? source = some c →
    ∃ lane : Lane, source = lane.source ∧ c = lane.candidate c.msg c.receivedAt

/-- A candidate is stored under the source of its lane. -/
theorem wellKeyed_onCandidate {s : State} (h : s.WellKeyed) (now : Time) (lane : Lane)
    (msg : TwistStamped) : (onCandidate s now lane msg).WellKeyed := by
  intro source c hc
  by_cases hsource : source = lane.source
  · -- the entry read is the one just written
    subst hsource
    rw [onCandidate, Dict.get?_set_self] at hc
    obtain rfl : lane.candidate msg now = c := Option.some.inj hc
    exact ⟨lane, rfl, rfl⟩
  · rw [onCandidate, Dict.get?_set_of_ne _ _ hsource] at hc
    exact h source c hc

/-- A callback keeps the candidates under their sources. -/
theorem wellKeyed_step {s : State} (h : s.WellKeyed) (i : Input) : (step s i).1.WellKeyed := by
  obtain ⟨now, event⟩ := i
  cases event with
  | candidate lane msg => exact wellKeyed_onCandidate h now lane msg
  | modeState msg => exact h
  | safetyState msg => exact h
  | tick => exact h
  | setParameters params => exact h

/-- In every run the candidates are held under their sources. -/
theorem wellKeyed_after (params : Params) (h : List Input) :
    ((machine params).after h).WellKeyed := by
  refine (machine params).invariant (P := fun _ s => s.WellKeyed) ?_ ?_ h
  · intro source c hc
    simp at hc
  · intro h i hs
    exact wellKeyed_step hs i

/-- **The priority loop finds the candidate of the active mode's own subscription**, whatever the
other subscriptions carry. -/
theorem findSome?_sourcePriority {s : State} (hs : s.WellKeyed) (now : Time) :
    (sourcePriority.findSome? fun source =>
        (s.candidates.get? source).filter fun c =>
          c.requiredMode = s.activeMode ∧ now - c.receivedAt ≤ s.params.commandTimeout) =
      (laneOf s.activeMode).bind (s.fresh now) := by
  -- a subscription's entry passes the loop's test exactly in the mode it requires
  have hentry : ∀ lane : Lane, ((s.candidates.get? lane.source).filter fun c =>
      c.requiredMode = s.activeMode ∧ now - c.receivedAt ≤ s.params.commandTimeout) =
      if s.activeMode = lane.requiredMode then s.fresh now lane else none := by
    intro lane
    rw [State.fresh]
    cases hc : s.candidates.get? lane.source with
    | none => simp
    | some c =>
      obtain ⟨lane', hsource, hcand⟩ := hs _ _ hc
      obtain rfl := Lane.source_inj.mp hsource
      have hmode : c.requiredMode = lane.requiredMode := by rw [hcand]; rfl
      by_cases hm : s.activeMode = lane.requiredMode
      · simp [Option.filter, hmode, hm]
      · simp [Option.filter, hmode, hm, Ne.symm hm]
  -- so the loop runs over the subscriptions, and at most one of them has its mode
  have hlanes : sourcePriority = [Lane.teleop, Lane.autonomy, Lane.policy].map Lane.source := rfl
  rw [hlanes, List.findSome?_map]
  simp only [List.findSome?_cons, List.findSome?_nil, Function.comp_apply, hentry]
  cases hlane : laneOf s.activeMode with
  | none =>
    have hne : ∀ lane : Lane, s.activeMode ≠ lane.requiredMode := by
      intro lane hm
      simp [hm] at hlane
    simp [hne]
  | some lane =>
    simp only [laneOf_eq_some_iff.mp hlane, Lane.requiredMode_inj, Option.bind_some]
    cases lane <;> simp <;> cases s.fresh now _ <;> rfl

/-- An active mode is not an inactive one. -/
theorem not_mem_inactiveModes (lane : Lane) : lane.requiredMode ∉ inactiveModes := by
  cases lane <;> decide

/-- No safety state both allows and blocks. -/
theorem not_mem_blockingSafetyStates {state : UInt8} (h : state ∈ allowedSafetyStates) :
    state ∉ blockingSafetyStates := by
  simp only [allowedSafetyStates, SafetyState.allowedStates, List.mem_cons, List.not_mem_nil,
    or_false] at h
  rcases h with rfl | rfl <;> decide

/-- **What `select_candidate` selects**: the eligible candidate. -/
theorem selectCandidate_fst {s : State} (hs : s.WellKeyed) (now : Time) :
    (selectCandidate s.activeMode s.lastSafety.isSome s.safetyState s.candidates now
      s.params.commandTimeout).1 = s.eligible now := by
  unfold selectCandidate State.eligible
  rw [findSome?_sourcePriority hs]
  by_cases hopen : s.SafetyOpen
  · obtain ⟨hseen, hallowed⟩ := hopen
    rw [if_pos (show s.SafetyOpen from ⟨hseen, hallowed⟩), if_neg (by simp [hseen]),
      if_neg (not_mem_blockingSafetyStates hallowed), if_neg (by simp [hallowed])]
    by_cases hmode : s.activeMode ∈ inactiveModes
    · -- no subscription requires an inactive mode, so the early exit loses nothing
      rw [if_pos hmode]
      cases hlane : laneOf s.activeMode with
      | none => rfl
      | some lane =>
        rw [laneOf_eq_some_iff.mp hlane] at hmode
        exact absurd hmode (not_mem_inactiveModes lane)
    · rw [if_neg hmode]
      cases (laneOf s.activeMode).bind (s.fresh now) <;> rfl
  · rw [if_neg hopen]
    by_cases hseen : s.lastSafety.isSome
    · -- both tests on the safety state answer `none`, whichever of the two catches it
      have hallowed : s.safetyState ∉ allowedSafetyStates := fun h => hopen ⟨hseen, h⟩
      rw [if_neg (by simp [hseen])]
      split <;> rfl
    · rw [if_pos (by simp [hseen])]

/-- **When nothing is selected, the reason calls for a stop exactly if a safety state was seen.** -/
theorem shouldPublishStop_selectCandidate {s : State} (now : Time) (timeout : Duration)
    (hnone : (selectCandidate s.activeMode s.lastSafety.isSome s.safetyState s.candidates now
      timeout).1 = none) (publishStopOnBlock : Bool) :
    shouldPublishStop (selectCandidate s.activeMode s.lastSafety.isSome s.safetyState s.candidates
      now timeout).2 publishStopOnBlock = (publishStopOnBlock && s.lastSafety.isSome) := by
  revert hnone
  unfold selectCandidate
  cases hseen : s.lastSafety.isSome with
  | false => cases publishStopOnBlock <;> simp [shouldPublishStop, stopReasons]
  | true =>
    rw [if_neg (by simp)]
    split
    · intro _; cases publishStopOnBlock <;> simp [shouldPublishStop, stopReasons]
    split
    · intro _; cases publishStopOnBlock <;> simp [shouldPublishStop, stopReasons]
    split
    · intro _; cases publishStopOnBlock <;> simp [shouldPublishStop, stopReasons]
    split
    · intro h; exact absurd h (by simp)
    · intro _; cases publishStopOnBlock <;> simp [shouldPublishStop, stopReasons]

/-- **What a tick publishes.** The eligible candidate, clamped, with its source; without one, the
zero stop if stops are configured and a safety state was seen; otherwise no command. -/
theorem tick_eq {s : State} (hs : s.WellKeyed) (now : Time) :
    ∃ reason, tick s now =
      match s.eligible now with
      | some c =>
        [.approved (limitCommand s c.msg now), .arbitrationState (arbitrationState s now c.source
          c.name true false "approved" (some c.receivedAt))]
      | none =>
        if s.params.publishStopOnBlock && s.lastSafety.isSome then
          [.approved (makeStop s now), .arbitrationState (arbitrationState s now
            CommandArbitrationState.sourceSafety "safety" false true reason none)]
        else
          [.arbitrationState (arbitrationState s now CommandArbitrationState.sourceNone "none"
            false false reason none)] := by
  have hfst := selectCandidate_fst hs now
  have hstop := shouldPublishStop_selectCandidate (s := s) now s.params.commandTimeout
  -- the two lemmas say all that the timer asks of the selection, so its value may be forgotten
  unfold tick
  generalize selectCandidate s.activeMode s.lastSafety.isSome s.safetyState s.candidates now
    s.params.commandTimeout = selected at hfst hstop
  obtain ⟨candidate, reason⟩ := selected
  refine ⟨reason, ?_⟩
  cases candidate with
  | some c => rw [← hfst]
  | none =>
    have hreason := hstop rfl s.params.publishStopOnBlock
    dsimp only at hreason ⊢
    rw [← hfst, hreason]

/-- A candidate of the active mode's own subscription that just came in is eligible at once, while
the safety gate is open. -/
theorem eligible_onCandidate {s : State} {lane : Lane} (hopen : s.SafetyOpen)
    (hmode : s.activeMode = lane.requiredMode) (htimeout : 0 ≤ s.params.commandTimeout) (now : Time)
    (msg : TwistStamped) :
    (onCandidate s now lane msg).eligible now = some (lane.candidate msg now) := by
  have hopen' : (onCandidate s now lane msg).SafetyOpen := hopen
  have hmode' : (onCandidate s now lane msg).activeMode = lane.requiredMode := hmode
  have hfresh : (onCandidate s now lane msg).fresh now lane = some (lane.candidate msg now) := by
    refine State.fresh_eq_some_iff.mpr ⟨Dict.get?_set_self _ _ _, ?_⟩
    rw [Lane.candidate, sub_self]
    exact htimeout
  rw [State.eligible, if_pos hopen', hmode', laneOf_requiredMode, Option.bind_some, hfresh]

/-- **When a tick publishes on `cmd_vel/approved` at all**: a candidate is eligible, or stops are
configured and a safety state was seen. -/
theorem approves_iff {s : State} (hs : s.WellKeyed) (now : Time) :
    (∃ msg, Publication.approved msg ∈ tick s now) ↔
      (∃ c, s.eligible now = some c) ∨
        (s.params.publishStopOnBlock = true ∧ s.lastSafety.isSome = true) := by
  obtain ⟨reason, htick⟩ := tick_eq hs now
  rw [htick]
  cases s.eligible now with
  | some c => exact iff_of_true ⟨_, List.mem_cons_self⟩ (Or.inl ⟨c, rfl⟩)
  | none =>
    dsimp only
    by_cases hstop : (s.params.publishStopOnBlock && s.lastSafety.isSome) = true
    · rw [if_pos hstop]
      exact iff_of_true ⟨_, List.mem_cons_self⟩ (Or.inr ((Bool.and_eq_true _ _).mp hstop))
    · rw [if_neg hstop]
      apply iff_of_false
      · rintro ⟨msg, hmsg⟩
        simp at hmsg
      · rintro (⟨c, hc⟩ | hboth)
        · simp at hc
        · exact hstop ((Bool.and_eq_true _ _).mpr hboth)

/-- **When nothing is selected, a tick approves nothing**: it publishes the zero stop at most, and
reports that output is disabled. -/
theorem tick_of_not_selected {s : State} {now : Time}
    (hnone : (selectCandidate s.activeMode s.lastSafety.isSome s.safetyState s.candidates now
      s.params.commandTimeout).1 = none) {pub : Publication} (hpub : pub ∈ tick s now) :
    (∀ msg, pub = .approved msg → msg.twist = 0) ∧
      ∀ state, pub = .arbitrationState state → state.outputEnabled = false := by
  unfold tick at hpub
  generalize selectCandidate s.activeMode s.lastSafety.isSome s.safetyState s.candidates now
    s.params.commandTimeout = selected at hnone hpub
  obtain ⟨candidate, reason⟩ := selected
  obtain rfl : candidate = none := hnone
  dsimp only at hpub
  split at hpub
  · -- the stop, and the state that reports it
    simp only [List.mem_cons, List.not_mem_nil, or_false] at hpub
    rcases hpub with rfl | rfl
    · constructor
      · intro msg hmsg
        obtain rfl := Publication.approved.inj hmsg
        rfl
      · intro state hstate'
        simp at hstate'
    · constructor
      · intro msg hmsg
        simp at hmsg
      · intro state hstate'
        obtain rfl := Publication.arbitrationState.inj hstate'
        rfl
  · obtain rfl := List.mem_singleton.mp hpub
    constructor
    · intro msg hmsg
      simp at hmsg
    · intro state hstate'
      obtain rfl := Publication.arbitrationState.inj hstate'
      rfl

/-- **Under a safety state that does not allow motion, a tick approves nothing.** -/
theorem tick_of_not_allowed {s : State} (hstate : s.safetyState ∉ allowedSafetyStates) {now : Time}
    {pub : Publication} (hpub : pub ∈ tick s now) :
    (∀ msg, pub = .approved msg → msg.twist = 0) ∧
      ∀ state, pub = .arbitrationState state → state.outputEnabled = false := by
  refine tick_of_not_selected ?_ hpub
  unfold selectCandidate
  split
  · rfl
  split <;> rfl

/-- **In an inactive mode, too, a tick approves nothing.** -/
theorem tick_of_inactive {s : State} (hmode : s.activeMode ∈ inactiveModes) {now : Time}
    {pub : Publication} (hpub : pub ∈ tick s now) :
    (∀ msg, pub = .approved msg → msg.twist = 0) ∧
      ∀ state, pub = .arbitrationState state → state.outputEnabled = false := by
  refine tick_of_not_selected ?_ hpub
  unfold selectCandidate
  split
  · rfl
  split
  · rfl
  split
  · rfl
  · rfl

/-- **The state that a tick publishes tells the mode and the safety state held.** -/
theorem arbitrationState_tells {s : State} {now : Time} {state : CommandArbitrationState}
    (hstate : Publication.arbitrationState state ∈ tick s now) :
    state.safetyState = s.safetyState ∧ state.activeMode = s.activeMode := by
  unfold tick at hstate
  split at hstate
  · split at hstate
    · rcases List.mem_pair.mp hstate with h | h
      · cases h
      · obtain rfl := Publication.arbitrationState.inj h
        exact ⟨rfl, rfl⟩
    · obtain rfl := Publication.arbitrationState.inj (List.mem_singleton.mp hstate)
      exact ⟨rfl, rfl⟩
  · rcases List.mem_pair.mp hstate with h | h
    · cases h
    · obtain rfl := Publication.arbitrationState.inj h
      exact ⟨rfl, rfl⟩

end HumaWare.CommandArbiter
