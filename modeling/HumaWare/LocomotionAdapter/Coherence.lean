import HumaWare.LocomotionAdapter.Effect

/-! # The reported state and the velocity agree

With a fixed `walk_epsilon` that compares at least zero and approved commands whose components are
rational, the fields of the motion fit together in every reachable state:

* **`Motion.Fits`** — the fields fit each other, as a predicate that every callback keeps
  (`Motion.Fits.effect`);
* **`coherent_after`** — the same for every run, with the last approved command as the source of the
  velocity. -/

namespace HumaWare.LocomotionAdapter

open Python Reactive

/-- The components of a command that the node reads are rational. -/
def RationalCommand (msg : TwistStamped) : Prop :=
  ∃ linear angular : ℚ, msg.twist.linear.x = .fin linear ∧ msg.twist.angular.z = .fin angular

/-- The motion of a robot that moves: its state names the component that is above `epsilon`. -/
structure Motion.Moves (epsilon : PyFloat) (m : Motion) : Prop where
  walking : m.state = LocomotionState.stateWalking → epsilon < m.linearVelocityMps.abs
  turning : m.state = LocomotionState.stateTurning →
    m.linearVelocityMps.abs ≤ epsilon ∧ epsilon < m.angularVelocityRadps.abs
  untimed : m.stopStartedAt = none
  unconstrained : m.constraints = []

/-- The motion of a robot that does not move. -/
structure Motion.Rests (m : Motion) : Prop where
  linear : m.linearVelocityMps = 0
  angular : m.angularVelocityRadps = 0
  state : m.state = LocomotionState.stateInactive ∨ m.state = LocomotionState.stateStanding ∨
    m.state = LocomotionState.stateStopping

/-- The fields of the motion fit each other. -/
def Motion.Fits (epsilon : PyFloat) (m : Motion) : Prop :=
  ((m.state = LocomotionState.stateWalking ∨ m.state = LocomotionState.stateTurning) ∧
      m.Moves epsilon) ∨ m.Rests

/-- A halted robot rests. -/
theorem rests_halted : Motion.halted.Rests := ⟨rfl, rfl, Or.inl rfl⟩

/-- A robot that was stopped rests. -/
theorem rests_stopped (s : State) (now : Time) (reason : String) : (s.stopped now reason).Rests := by
  unfold State.stopped
  split
  · exact ⟨rfl, rfl, Or.inr (Or.inl rfl)⟩
  · exact ⟨rfl, rfl, Or.inr (Or.inr rfl)⟩

/-- A command that is not a stop walks, or it turns without walking. -/
theorem moves_of_command {epsilon : PyFloat} (hepsilon : 0 ≤ epsilon) {msg : TwistStamped}
    (hrational : RationalCommand msg)
    (hmoves : ¬(msg.twist.linear.x.abs ≤ epsilon ∧ msg.twist.angular.z.abs ≤ epsilon)) :
    Motion.Fits epsilon
      ⟨if epsilon < msg.twist.linear.x.abs then LocomotionState.stateWalking
        else LocomotionState.stateTurning, none, msg.twist.linear.x, msg.twist.angular.z, []⟩ := by
  obtain ⟨linear, angular, hlinear, hangular⟩ := hrational
  rw [hlinear, hangular] at hmoves ⊢
  have hnumber : epsilon ≠ .nan := by
    rintro rfl
    exact PyFloat.not_le_nan 0 hepsilon
  by_cases hwalk : epsilon < (PyFloat.fin linear).abs
  · rw [if_pos hwalk]
    exact Or.inl ⟨Or.inl rfl, fun _ => hwalk, nofun, rfl, rfl⟩
  · rw [if_neg hwalk]
    -- the comparisons with a rational are total, so what is not above `epsilon` is at most it
    have hslow : (PyFloat.fin linear).abs ≤ epsilon :=
      (PyFloat.le_or_lt (by simp) hnumber).resolve_right hwalk
    have hturn : epsilon < (PyFloat.fin angular).abs :=
      (PyFloat.le_or_lt (by simp) hnumber).resolve_left fun hstill => hmoves ⟨hslow, hstill⟩
    exact Or.inl ⟨Or.inr rfl, nofun, fun _ => ⟨hslow, hturn⟩, rfl, rfl⟩

/-- **Every callback keeps the fields fitting each other.** Before the first command there is no
velocity, which is what the branch that waits for one relies on. -/
theorem Motion.Fits.effect {s : State} {i : Input} {m : Motion}
    (hs : s.motion.Fits s.params.walkEpsilon) (hepsilon : 0 ≤ s.params.walkEpsilon)
    (hcommand : s.Moving → s.lastCommandTime.isSome)
    (hrational : ∀ msg, i.event = .approvedCmd msg → RationalCommand msg)
    (heffect : Effect s i m) : m.Fits s.params.walkEpsilon := by
  cases heffect with
  | store => exact hs
  | halt => exact Or.inr rests_halted
  | stop reason => exact Or.inr (rests_stopped s i.now reason)
  | wait hnone =>
    have hstill : ¬s.Moving := by
      intro hmoving
      have hsome := hcommand hmoving
      rw [hnone] at hsome
      exact Bool.false_ne_true hsome
    simp only [State.Moving, not_or, not_not] at hstill
    exact Or.inr ⟨hstill.2.2.1, hstill.2.2.2, Or.inr (Or.inl rfl)⟩
  | settle stopStartedAt hstate =>
    -- only a `STOPPING` robot settles, and it holds no velocity
    rcases hs with ⟨hmoving, -⟩ | hrests
    · rw [motion_state, hstate] at hmoving
      exact absurd hmoving (by decide)
    · exact Or.inr ⟨hrests.linear, hrests.angular, Or.inr (Or.inl rfl)⟩
  | pass => exact hs
  | go msg hevent hmoves => exact moves_of_command hepsilon (hrational msg hevent) hmoves

section Run

variable {params : Params} {h : List Input}

/-- The fields of the motion fit each other after every history. -/
theorem fits_after (hepsilon : 0 ≤ params.walkEpsilon) (hfixed : Keeps Params.walkEpsilon params h)
    (hrational : ∀ i ∈ h, ∀ msg, i.event = .approvedCmd msg → RationalCommand msg) :
    ((machine params).after h).motion.Fits params.walkEpsilon := by
  induction h using List.reverseRecOn with
  | nil => exact Or.inr ⟨rfl, rfl, Or.inl rfl⟩
  | append_singleton h i ih =>
    have hkept := hfixed.of_append
    have hprev := ih hkept fun j hj => hrational j (List.mem_append_left _ hj)
    rw [← hkept.after] at hepsilon hprev ⊢
    rw [Machine.after_concat, machine_next]
    exact hprev.effect hepsilon (lastCommandTime_isSome_of_moving params h)
      (hrational i (by simp)) (effect_step _ i)

end Run

/-- The state and the velocity held after a history are coherent. -/
structure Coherent (epsilon : PyFloat) (h : List Input) (s : State) : Prop where
  walking : s.state = LocomotionState.stateWalking → epsilon < s.linearVelocityMps.abs
  turning : s.state = LocomotionState.stateTurning →
    s.linearVelocityMps.abs ≤ epsilon ∧ epsilon < s.angularVelocityRadps.abs
  still : s.state ≠ LocomotionState.stateWalking → s.state ≠ LocomotionState.stateTurning →
    s.linearVelocityMps = 0 ∧ s.angularVelocityRadps = 0
  /-- A robot that moves has the velocity of the last approved command, no stop timer and no
  constraint. -/
  commanded : s.state = LocomotionState.stateWalking ∨ s.state = LocomotionState.stateTurning →
    (∃ msg receivedAt, latest approvedStream h = some (msg, receivedAt) ∧
      s.linearVelocityMps = msg.twist.linear.x ∧ s.angularVelocityRadps = msg.twist.angular.z) ∧
    s.stopStartedAt = none ∧ s.constraints = []
  stopping : s.state = LocomotionState.stateStopping → s.stopStartedAt.isSome
  known : s.state ≠ LocomotionState.stateUnknown ∧ s.state ≠ LocomotionState.stateRecovering ∧
    s.state ≠ LocomotionState.stateFault

/-- **State and velocity are coherent in every reachable state**: for every history of mode, safety,
command, timer and parameter callbacks in which `walk_epsilon` stays what it was and the approved
commands are rational. -/
theorem coherent_after (params : Params) (h : List Input) (hepsilon : 0 ≤ params.walkEpsilon)
    (hfixed : Keeps Params.walkEpsilon params h)
    (hrational : ∀ i ∈ h, ∀ msg, i.event = .approvedCmd msg → RationalCommand msg) :
    Coherent params.walkEpsilon h ((machine params).after h) := by
  have htimed := timed_after params h
  rcases fits_after hepsilon hfixed hrational with ⟨hstate, hmoves⟩ | hrests
  · -- a velocity above `epsilon` is not zero, so it is the one commanded last
    have hnonzero : ¬(((machine params).after h).linearVelocityMps = 0 ∧
        ((machine params).after h).angularVelocityRadps = 0) := by
      rintro ⟨hlinear, hangular⟩
      rcases hstate with hwalking | hturning
      · have hfast := hmoves.walking hwalking
        rw [motion_linear, hlinear] at hfast
        exact PyFloat.not_lt_of_le hepsilon hfast
      · have hfast := (hmoves.turning hturning).2
        rw [motion_angular, hangular] at hfast
        exact PyFloat.not_lt_of_le hepsilon hfast
    have hcommand := (velocity_after params h).resolve_left hnonzero
    refine ⟨hmoves.walking, hmoves.turning, ?_, ?_, htimed.stopping, ?_⟩
    · intro hnotWalking hnotTurning
      rcases hstate with hwalking | hturning
      · exact absurd hwalking hnotWalking
      · exact absurd hturning hnotTurning
    · exact fun _ => ⟨hcommand, hmoves.untimed, hmoves.unconstrained⟩
    · rcases hstate with h | h <;> rw [motion_state] at h <;> rw [h] <;> decide
  · have hstate : ((machine params).after h).state = LocomotionState.stateInactive ∨
        ((machine params).after h).state = LocomotionState.stateStanding ∨
        ((machine params).after h).state = LocomotionState.stateStopping := hrests.state
    have hnotMoving : ((machine params).after h).state ≠ LocomotionState.stateWalking ∧
        ((machine params).after h).state ≠ LocomotionState.stateTurning := by
      rcases hstate with h | h | h <;> rw [h] <;> decide
    refine ⟨fun h => absurd h hnotMoving.1, fun h => absurd h hnotMoving.2,
      fun _ _ => ⟨hrests.linear, hrests.angular⟩, ?_, htimed.stopping, ?_⟩
    · rintro (h | h)
      · exact absurd h hnotMoving.1
      · exact absurd h hnotMoving.2
    · rcases hstate with h | h | h <;> rw [h] <;> decide

/-- A robot that was told to walk, with the parameters' defaults. -/
theorem coherent_after_walk :
    Coherent (.fin (1 / 100)) [⟨0, .modeState { activeMode := ModeState.modeTeleop }⟩,
        ⟨0, .safetyState { state := SafetyState.stateOk }⟩,
        ⟨1, .approvedCmd { twist := { linear := { x := .fin 1 } } }⟩, ⟨2, .tick⟩]
      ((machine {}).after [⟨0, .modeState { activeMode := ModeState.modeTeleop }⟩,
        ⟨0, .safetyState { state := SafetyState.stateOk }⟩,
        ⟨1, .approvedCmd { twist := { linear := { x := .fin 1 } } }⟩, ⟨2, .tick⟩]) := by
  apply coherent_after {} _ (by decide +kernel)
  · intro i hi changed hevent
    simp only [List.mem_cons, List.not_mem_nil, or_false] at hi
    rcases hi with rfl | rfl | rfl | rfl <;> exact nomatch hevent
  · intro i hi msg hevent
    simp only [List.mem_cons, List.not_mem_nil, or_false] at hi
    rcases hi with rfl | rfl | rfl | rfl
    · exact nomatch hevent
    · exact nomatch hevent
    · rw [Event.approvedCmd.injEq] at hevent
      exact ⟨1, 0, by rw [← hevent], by rw [← hevent]; rfl⟩
    · exact nomatch hevent

end HumaWare.LocomotionAdapter
