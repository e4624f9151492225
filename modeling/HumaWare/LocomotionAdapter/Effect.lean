import HumaWare.LocomotionAdapter.Motion

/-! # What one callback does to the motion

The stop logic is spread over two entry points and two helpers, and five fields are written by hand
on each of its branches. This file says once what a callback can leave in them:

* **`motion_beginStop`** — the five fields after `_begin_stop`, as one expression;
* **`Effect`**, **`effect_step`** — the branches of a callback, each with its guard;
* **`Keeps`** — a parameter that no parameter change touches;
* **`Timed`**, **`timed_after`** — a stop timer runs in no state but `STOPPING` and `STANDING`, and
  in `STOPPING` one always runs. -/

namespace HumaWare.LocomotionAdapter

open Python Reactive

/-- The fields that the stop logic writes. -/
structure Motion where
  state : UInt8
  stopStartedAt : Option Time
  linearVelocityMps : PyFloat
  angularVelocityRadps : PyFloat
  constraints : List String
  deriving DecidableEq, Repr

/-- The motion held in a state of the node. -/
def State.motion (s : State) : Motion where
  state := s.state
  stopStartedAt := s.stopStartedAt
  linearVelocityMps := s.linearVelocityMps
  angularVelocityRadps := s.angularVelocityRadps
  constraints := s.constraints

/-- The state of the motion. -/
@[simp] theorem motion_state (s : State) : s.motion.state = s.state := rfl

/-- When its stop started. -/
@[simp] theorem motion_stopStartedAt (s : State) : s.motion.stopStartedAt = s.stopStartedAt := rfl

/-- Its linear velocity. -/
@[simp] theorem motion_linear (s : State) : s.motion.linearVelocityMps = s.linearVelocityMps := rfl

/-- Its angular velocity. -/
@[simp] theorem motion_angular (s : State) :
    s.motion.angularVelocityRadps = s.angularVelocityRadps := rfl

/-- Its constraints. -/
@[simp] theorem motion_constraints (s : State) : s.motion.constraints = s.constraints := rfl

/-- The start of the stop that `_begin_stop` works on: the one under way, or the clock reading. -/
def State.stopStart (s : State) (now : Time) : Time :=
  if s.state ∈ [LocomotionState.stateStopping, LocomotionState.stateStanding] then
    s.stopStartedAt.getD now
  else now

/-- The stop that `_begin_stop` works on has settled. -/
def State.Settles (s : State) (now : Time) : Prop :=
  s.params.stopSettleTime ≤ now - s.stopStart now

instance (s : State) (now : Time) : Decidable (s.Settles now) := inferInstanceAs (Decidable (_ ≤ _))

/-- Without a motion mode. -/
def Motion.halted : Motion :=
  ⟨LocomotionState.stateInactive, none, 0, 0, ["mode_inactive"]⟩

/-- The motion after a stop for `reason`, which has settled already or goes on. -/
def State.stopped (s : State) (now : Time) (reason : String) : Motion :=
  if s.Settles now then
    ⟨LocomotionState.stateStanding, some (s.stopStart now), 0, 0,
      if isOutputBlocked s then [reason] else []⟩
  else ⟨LocomotionState.stateStopping, some (s.stopStart now), 0, 0, [reason]⟩

/-- The timer that `_begin_stop` sets: its three cases are the two of `stopStart`. -/
theorem some_stopStart (s : State) (now : Time) :
    (if s.state ∉ [LocomotionState.stateStopping, LocomotionState.stateStanding] then some now
      else if s.stopStartedAt.isNone then some now else s.stopStartedAt) =
      some (s.stopStart now) := by
  rw [State.stopStart]
  by_cases hstate : s.state ∈ [LocomotionState.stateStopping, LocomotionState.stateStanding]
  · rw [if_neg (not_not.mpr hstate), if_pos hstate]
    cases s.stopStartedAt <;> rfl
  · rw [if_pos hstate, if_neg hstate]

/-- **The five fields after a stop command.** -/
theorem motion_beginStop (s : State) (now : Time) (reason : String) :
    (beginStop s.zeroVelocity now reason).motion =
      if s.activeMode ∈ [ModeState.modeInactive, ModeState.modeMaintenance] then Motion.halted
      else s.stopped now reason := by
  by_cases hmode : s.activeMode ∈ [ModeState.modeInactive, ModeState.modeMaintenance]
  · rw [if_pos hmode, beginStop, if_pos (show s.zeroVelocity.activeMode ∈ _ from hmode)]
    rfl
  · rw [if_neg hmode, beginStop, if_neg (show ¬s.zeroVelocity.activeMode ∈ _ from hmode)]
    dsimp only
    rw [some_stopStart, show s.zeroVelocity.stopStart now = s.stopStart now from rfl,
      settleStopIfReady, if_neg (by simp)]
    dsimp only
    by_cases hsettles : s.Settles now
    · rw [if_pos (show now - s.stopStart now ≥ s.zeroVelocity.params.stopSettleTime from hsettles),
        State.stopped, if_pos hsettles]
      rfl
    · rw [if_neg (show ¬now - s.stopStart now ≥ s.zeroVelocity.params.stopSettleTime from hsettles),
        State.stopped, if_neg hsettles]
      rfl

/-- What one callback leaves in the fields of the motion, branch by branch. -/
inductive Effect (s : State) (i : Input) : Motion → Prop
  /-- A message or a parameter change touches none of them. -/
  | store (hevent : i.event ≠ .tick) (hcmd : approvedStream i = none) : Effect s i s.motion
  | halt (hmode : s.activeMode ∈ [ModeState.modeInactive, ModeState.modeMaintenance]) :
      Effect s i Motion.halted
  | stop (reason : String) : Effect s i (s.stopped i.now reason)
  /-- The timer waits for the first command. -/
  | wait (hnone : s.lastCommandTime = none) :
      Effect s i ⟨LocomotionState.stateStanding, s.stopStartedAt, s.linearVelocityMps,
        s.angularVelocityRadps, ["waiting_for_command"]⟩
  /-- The timer lets a stop settle. -/
  | settle (stopStartedAt : Time) (hstate : s.state = LocomotionState.stateStopping)
      (hstart : s.stopStartedAt = some stopStartedAt)
      (hsettled : s.params.stopSettleTime ≤ i.now - stopStartedAt) :
      Effect s i ⟨LocomotionState.stateStanding, some stopStartedAt, s.linearVelocityMps,
        s.angularVelocityRadps, if isOutputBlocked s then s.constraints else []⟩
  /-- The timer finds nothing to do. -/
  | pass (hwait : ∀ stopStartedAt, s.state = LocomotionState.stateStopping →
        s.stopStartedAt = some stopStartedAt →
        i.now - stopStartedAt < s.params.stopSettleTime) :
      Effect s i s.motion
  | go (msg : TwistStamped) (hevent : i.event = .approvedCmd msg)
      (hmoves : ¬(msg.twist.linear.x.abs ≤ s.params.walkEpsilon ∧
        msg.twist.angular.z.abs ≤ s.params.walkEpsilon)) :
      Effect s i
        ⟨if s.params.walkEpsilon < msg.twist.linear.x.abs then LocomotionState.stateWalking
          else LocomotionState.stateTurning, none, msg.twist.linear.x, msg.twist.angular.z, []⟩

/-- A stop, in any mode. -/
theorem effect_beginStop (s : State) (i : Input) (reason : String) :
    Effect s i (beginStop s.zeroVelocity i.now reason).motion := by
  rw [motion_beginStop]
  split
  · next hmode => exact .halt hmode
  · exact .stop reason

/-- The timer's part in a stop. -/
theorem effect_settleStopIfReady (s : State) (i : Input) :
    Effect s i (settleStopIfReady s i.now).motion := by
  unfold settleStopIfReady
  by_cases hstate : s.state = LocomotionState.stateStopping
  · rw [if_neg (not_not.mpr hstate)]
    cases hstart : s.stopStartedAt with
    | none => exact .pass fun _ _ h => nomatch hstart.symm.trans h
    | some stopStartedAt =>
      dsimp only
      by_cases hsettled : i.now - stopStartedAt ≥ s.params.stopSettleTime
      · rw [if_pos hsettled]
        exact .settle stopStartedAt hstate hstart hsettled
      · rw [if_neg hsettled]
        refine .pass fun started _ h => ?_
        rw [hstart, Option.some.injEq] at h
        rw [← h]
        exact not_le.mp hsettled
  · rw [if_pos hstate]
    exact .pass fun _ h => absurd h hstate

/-- **What a callback does to the motion** is one of the effects. -/
theorem effect_step (s : State) (i : Input) : Effect s i (step s i).1.motion := by
  obtain ⟨now, event⟩ := i
  cases event with
  | modeState msg => exact .store nofun rfl
  | safetyState msg => exact .store nofun rfl
  | setParameters params => exact .store nofun rfl
  | approvedCmd msg =>
    -- the stop does not look at the time of the command, which is stored first
    have hstop : ∀ reason, Effect s ⟨now, .approvedCmd msg⟩
        (beginStop { s with lastCommandTime := some now }.zeroVelocity now reason).motion := by
      intro reason
      rw [motion_beginStop]
      split
      · next hmode => exact .halt hmode
      · exact .stop reason
    show Effect s _ (onApprovedCmd s now msg).motion
    unfold onApprovedCmd
    dsimp only
    split
    · exact hstop _
    next hmoves =>
    split
    · exact hstop _
    · exact .go msg rfl hmoves
  | tick =>
    show Effect s _ (updateStateForRuntime s now).motion
    unfold updateStateForRuntime
    split
    · next hmode => exact .halt hmode
    split
    · exact effect_beginStop s ⟨now, .tick⟩ _
    split
    · exact effect_beginStop s ⟨now, .tick⟩ _
    cases hcommand : s.lastCommandTime with
    | none => exact .wait hcommand
    | some lastCommandTime =>
      dsimp only
      split
      · exact effect_beginStop s ⟨now, .tick⟩ _
      · exact effect_settleStopIfReady s ⟨now, .tick⟩

/-! ## Parameters that stay as they are -/

/-- Every parameter change in a history keeps the value that `field` reads. -/
def Keeps {β : Type*} (field : Params → β) (params : Params) (h : List Input) : Prop :=
  ∀ i ∈ h, ∀ changed, i.event = .setParameters changed → field changed = field params

section Keeps

variable {β : Type*} {field : Params → β} {params : Params} {h k : List Input}

/-- What a run keeps, its beginning keeps. -/
theorem Keeps.of_append (hkeeps : Keeps field params (h ++ k)) : Keeps field params h :=
  fun i hi => hkeeps i (List.mem_append_left _ hi)

/-- A value that is kept is the one in force. -/
theorem Keeps.after (hkeeps : Keeps field params h) :
    field ((machine params).after h).params = field params := by
  induction h using List.reverseRecOn with
  | nil => rfl
  | append_singleton h i ih =>
    have hprev := ih hkeeps.of_append
    have hnew := hkeeps i (List.mem_append_right _ (List.mem_singleton_self _))
    rw [Machine.after_concat, machine_next, (step_fields _ i).1]
    obtain ⟨now, event⟩ := i
    cases event with
    | setParameters changed => exact hnew changed rfl
    | approvedCmd msg | modeState msg | safetyState msg | tick => exact hprev

end Keeps

/-! ## Where a stop timer runs -/

/-- A stop timer runs in every `STOPPING` state, and in no state but this and `STANDING`. -/
structure Timed (m : Motion) : Prop where
  stopping : m.state = LocomotionState.stateStopping → m.stopStartedAt.isSome
  running : m.stopStartedAt.isSome → m.state = LocomotionState.stateStopping ∨
    m.state = LocomotionState.stateStanding

/-- A stop is timed. -/
theorem timed_stopped (s : State) (now : Time) (reason : String) : Timed (s.stopped now reason) := by
  unfold State.stopped
  split
  · exact ⟨fun _ => rfl, fun _ => Or.inr rfl⟩
  · exact ⟨fun _ => rfl, fun _ => Or.inl rfl⟩

/-- Every callback keeps it. -/
theorem Timed.effect {s : State} {i : Input} {m : Motion} (hs : Timed s.motion)
    (heffect : Effect s i m) : Timed m := by
  cases heffect with
  | store => exact hs
  | halt => exact ⟨nofun, nofun⟩
  | stop reason => exact timed_stopped s i.now reason
  | wait => exact ⟨nofun, fun _ => Or.inr rfl⟩
  | settle => exact ⟨nofun, fun _ => Or.inr rfl⟩
  | pass => exact hs
  | go msg =>
    refine ⟨?_, nofun⟩
    dsimp only
    split <;> exact nofun

/-- In every run the stops are timed. -/
theorem timed_after (params : Params) (h : List Input) : Timed ((machine params).after h).motion :=
  (machine params).invariant (P := fun _ s => Timed s.motion) ⟨nofun, nofun⟩
    (fun _ i ih => ih.effect (effect_step _ i)) h

end HumaWare.LocomotionAdapter
