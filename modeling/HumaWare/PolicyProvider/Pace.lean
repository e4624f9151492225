import HumaWare.PolicyProvider.Progress
import HumaWare.PolicyProvider.Scripted

/-! # The pace of the scripted provider

The node advances its plan by one tick length at every tick on which the gate is open, and by
nothing else. So after `n` such ticks it is where the plan is after `n` advances, which in exact
arithmetic is its place at the time `n * dt`:

* **`openTicks`** — the ticks of a history on which the gate was open;
* **`step_of_opens`**, **`step_of_not_opens`** — what such a tick does, and what any other input
  leaves alone;
* **`progress_invariant`** — the rule by which a fact about the progress is carried over a run;
* **`afterTicks_after`** — in any arithmetic, the progress is the one after that many ticks;
* **`waypoint_timeline`** — in exact arithmetic, the progress and the candidates of every run, along
  the schedule. -/

namespace HumaWare.PolicyProvider.Scripted

open Python Reactive Timeline

/-- `1.0 / self._publish_rate`, the time that passes at a tick. -/
def tickLength (A : Arithmetic) (publishRateHz : PyFloat) : PyFloat :=
  A.recip (PyFloat.pyMax publishRateHz (A.round (1 / 10)))

/-- An input is a tick on which the gate is open. -/
def opens (s : State) (i : Input) : Bool :=
  match i.event with
  | .tick =>
    (shouldEmitCandidate s.params.enabled s.view.activeMode s.view.safetyState s.view.safetySeen).1
  | _ => false

/-- The number of ticks of a history on which the gate was open. -/
def openTicks (A : Arithmetic) (params : Params) (plan : WaypointPlan) (publishRateHz : PyFloat)
    (h : List Input) : ℕ :=
  (machine A params plan publishRateHz).count opens h

/-- The progress after `n` ticks of the length `dt`. -/
def afterTicks (A : Arithmetic) (plan : WaypointPlan) (dt : PyFloat) :
    ℕ → Except ValueError (Option PlanProgress)
  | 0 => .ok (some initialProgress)
  | n + 1 =>
    match afterTicks A plan dt n with
    | .ok (some progress) => advanceProgress A progress plan dt
    | outcome => outcome

/-- What a node publishes for a command. -/
def emission (s : State) (now : Time) (command : Option Waypoint) : List Publication :=
  command.toList.map fun waypoint => .policyCmd (candidate s now waypoint)

/-- A tick on which the gate is open advances the plan and publishes what it has then reached. -/
theorem step_of_opens {s : State} {i : Input} (hopens : opens s i = true) {next : PlanProgress}
    (hnext : advanceProgress s.arithmetic s.progress s.plan (s.arithmetic.recip s.publishRate) =
      .ok (some next)) :
    step s i = ({ s with progress := next }, emission s i.now (currentCommand next s.plan)) := by
  obtain ⟨now, event⟩ := i
  cases event with
  | tick =>
    have hgate : (shouldEmitCandidate s.params.enabled s.view.activeMode s.view.safetyState
        s.view.safetySeen).1 = true := hopens
    show tick s now = _
    rw [tick, if_pos hgate, hnext]
    rfl
  | modeState msg | safetyState msg | setParameters params => exact absurd hopens Bool.false_ne_true

/-- A tick whose call does not return leaves the plan where it is, and nothing is published. -/
theorem step_of_stuck {s : State} {i : Input} (hopens : opens s i = true)
    (hstuck : advanceProgress s.arithmetic s.progress s.plan (s.arithmetic.recip s.publishRate) =
      .ok none) : step s i = (s, []) := by
  obtain ⟨now, event⟩ := i
  cases event with
  | tick =>
    have hgate : (shouldEmitCandidate s.params.enabled s.view.activeMode s.view.safetyState
        s.view.safetySeen).1 = true := hopens
    show tick s now = _
    rw [tick, if_pos hgate, hstuck]
  | modeState msg | safetyState msg | setParameters params => exact absurd hopens Bool.false_ne_true

/-- Any other input leaves the plan where it is, and nothing is published. -/
theorem step_of_not_opens {s : State} {i : Input} (hopens : opens s i = false) :
    (step s i).1.progress = s.progress ∧ (step s i).2 = [] := by
  obtain ⟨now, event⟩ := i
  cases event with
  | tick =>
    have hgate : ¬(shouldEmitCandidate s.params.enabled s.view.activeMode s.view.safetyState
        s.view.safetySeen).1 = true := by
      intro hgate
      exact Bool.false_ne_true (hopens.symm.trans hgate)
    show (tick s now).1.progress = s.progress ∧ (tick s now).2 = []
    rw [tick, if_neg hgate]
    exact ⟨rfl, rfl⟩
  | modeState msg | safetyState msg | setParameters params => exact ⟨rfl, rfl⟩

section Run

variable {A : Arithmetic} {params : Params} {plan : WaypointPlan} {publishRateHz : PyFloat}
  {h : List Input} {i : Input}

/-- A tick that finds the gate open is counted. -/
theorem openTicks_of_opens
    (hopens : opens ((machine A params plan publishRateHz).after h) i = true) :
    openTicks A params plan publishRateHz (h ++ [i]) = openTicks A params plan publishRateHz h + 1 := by
  rw [openTicks, Machine.count_concat, if_pos hopens]
  rfl

/-- No other input is. -/
theorem openTicks_of_not_opens
    (hopens : opens ((machine A params plan publishRateHz).after h) i = false) :
    openTicks A params plan publishRateHz (h ++ [i]) = openTicks A params plan publishRateHz h := by
  rw [openTicks, Machine.count_concat, if_neg (by rw [hopens]; exact Bool.false_ne_true)]
  rfl

/-- The time that passes at a tick of a run. -/
theorem recip_publishRate_after :
    ((machine A params plan publishRateHz).after h).arithmetic.recip
      ((machine A params plan publishRateHz).after h).publishRate = tickLength A publishRateHz := by
  obtain ⟨-, hrate, harithmetic⟩ := plan_after A params plan publishRateHz h
  rw [hrate, harithmetic, tickLength]

/-- A tick takes no negative time. -/
theorem not_tickLength_lt_zero (A : Arithmetic) (publishRateHz : PyFloat) :
    ¬tickLength A publishRateHz < 0 := not_recip_lt_zero A publishRateHz

/-- So a finite one takes a time that is at least zero. -/
theorem tickLength_nonneg {dt : ℚ} (hdt : tickLength A publishRateHz = .fin dt) : 0 ≤ dt := by
  have h := not_tickLength_lt_zero A publishRateHz
  rw [hdt] at h
  exact not_lt.mp (mt PyFloat.fin_lt_fin.mpr h)

/-- The step at a tick on which the gate is open, in a run. -/
theorem next_of_opens (hopens : opens ((machine A params plan publishRateHz).after h) i = true)
    {next : PlanProgress}
    (hnext : advanceProgress A ((machine A params plan publishRateHz).after h).progress plan
      (tickLength A publishRateHz) = .ok (some next)) :
    (machine A params plan publishRateHz).step ((machine A params plan publishRateHz).after h) i =
      ({ (machine A params plan publishRateHz).after h with progress := next },
        emission ((machine A params plan publishRateHz).after h) i.now (currentCommand next plan)) := by
  obtain ⟨hplan, -, harithmetic⟩ := plan_after A params plan publishRateHz h
  have hcall : advanceProgress ((machine A params plan publishRateHz).after h).arithmetic
      ((machine A params plan publishRateHz).after h).progress
      ((machine A params plan publishRateHz).after h).plan
      (((machine A params plan publishRateHz).after h).arithmetic.recip
        ((machine A params plan publishRateHz).after h).publishRate) = .ok (some next) := by
    rw [recip_publishRate_after, hplan, harithmetic]
    exact hnext
  have hcommand : currentCommand next ((machine A params plan publishRateHz).after h).plan =
      currentCommand next plan := by rw [hplan]
  rw [← hcommand]
  exact step_of_opens hopens hcall

/-- The step at a tick whose call does not return, in a run. -/
theorem next_of_stuck (hopens : opens ((machine A params plan publishRateHz).after h) i = true)
    (hstuck : advanceProgress A ((machine A params plan publishRateHz).after h).progress plan
      (tickLength A publishRateHz) = .ok none) :
    (machine A params plan publishRateHz).step ((machine A params plan publishRateHz).after h) i =
      ((machine A params plan publishRateHz).after h, []) := by
  obtain ⟨hplan, -, harithmetic⟩ := plan_after A params plan publishRateHz h
  apply step_of_stuck hopens
  rw [recip_publishRate_after, hplan, harithmetic]
  exact hstuck

/-- Any other input leaves the progress where it is, in a run. -/
theorem progress_of_not_opens
    (hopens : opens ((machine A params plan publishRateHz).after h) i = false) :
    ((machine A params plan publishRateHz).after (h ++ [i])).progress =
      ((machine A params plan publishRateHz).after h).progress := by
  rw [Machine.after_concat]
  exact (step_of_not_opens hopens).1

/-- And nothing is published. -/
theorem out_of_not_opens (hopens : opens ((machine A params plan publishRateHz).after h) i = false) :
    (machine A params plan publishRateHz).out ((machine A params plan publishRateHz).after h) i = [] :=
  (step_of_not_opens hopens).2

/-- **The rule for the progress of a run**: what holds at the start, and is carried over by one more
tick length, holds after the open ticks of every history. -/
theorem progress_invariant {P : ℕ → PlanProgress → Prop} (hinit : P 0 initialProgress)
    (hadvance : ∀ n progress, P n progress → ∃ next,
      advanceProgress A progress plan (tickLength A publishRateHz) = .ok (some next) ∧ P (n + 1) next)
    (h : List Input) :
    P (openTicks A params plan publishRateHz h)
      ((machine A params plan publishRateHz).after h).progress := by
  induction h using List.reverseRecOn with
  | nil => exact hinit
  | append_singleton h i ih =>
    cases hopens : opens ((machine A params plan publishRateHz).after h) i with
    | true =>
      obtain ⟨next, hnext, hP⟩ := hadvance _ _ ih
      rw [Machine.after_concat, Machine.next, next_of_opens hopens hnext, openTicks_of_opens hopens]
      exact hP
    | false =>
      rw [progress_of_not_opens hopens, openTicks_of_not_opens hopens]
      exact ih

/-! ### Any arithmetic -/

variable {schedule : Schedule ℚ} {dt : ℚ}

/-- Where the plan is after `n` open ticks: still at its start, or at the time that they took. -/
def Reached (plan : WaypointPlan) (schedule : Schedule ℚ) (dt : ℚ) (n : ℕ) (progress : PlanProgress) :
    Prop :=
  n = 0 ∧ progress = initialProgress ∨ ∃ command, plan.At schedule (n * dt) progress command

/-- **Advancing from where the plan is** comes to where it is later. -/
theorem advance_of_reached (hplan : plan.Follows schedule) {n : ℕ} {a : ℚ} (ha : 0 ≤ a)
    {progress : PlanProgress} (hreached : Reached plan schedule dt n progress) :
    ∃ next command, advanceProgress .exact progress plan (.fin a) = .ok (some next) ∧
      plan.At schedule (n * dt + a) next command := by
  rcases hreached with ⟨rfl, rfl⟩ | ⟨command, hat⟩
  · by_cases hempty : plan.waypoints = []
    · have hnonneg : ¬PyFloat.fin a < 0 := mt PyFloat.fin_lt_fin.mp (not_lt.mpr ha)
      refine ⟨_, _, ?_, .empty hempty⟩
      rw [advanceProgress, if_neg hnonneg, if_pos hempty]
    · obtain ⟨command, hat⟩ := at_initialProgress hplan hempty
      rw [Nat.cast_zero, zero_mul]
      exact advanceProgress_at hplan ha hat
  · exact advanceProgress_at hplan ha hat

/-- One tick length later. -/
theorem Reached.succ (hplan : plan.Follows schedule) (hdt : 0 ≤ dt) {n : ℕ}
    {progress : PlanProgress} (hreached : Reached plan schedule dt n progress) :
    ∃ next, advanceProgress .exact progress plan (.fin dt) = .ok (some next) ∧
      Reached plan schedule dt (n + 1) next := by
  obtain ⟨next, command, hnext, hat⟩ := advance_of_reached hplan hdt hreached
  refine ⟨next, hnext, Or.inr ⟨command, ?_⟩⟩
  rw [Nat.cast_succ, add_mul, one_mul]
  exact hat

/-- **The plan is where the open ticks have brought it.** -/
theorem reached_after (params : Params) (hplan : plan.Follows schedule)
    (hdt : tickLength .exact publishRateHz = .fin dt) (h : List Input) :
    Reached plan schedule dt (openTicks .exact params plan publishRateHz h)
      ((machine .exact params plan publishRateHz).after h).progress := by
  apply progress_invariant (P := Reached plan schedule dt) (Or.inl ⟨rfl, rfl⟩)
  intro n progress hreached
  rw [hdt]
  exact hreached.succ hplan (tickLength_nonneg hdt)

/-- **The rule for a number of ticks**: what holds at the start, and is carried over by one more
tick, holds after any number of them, and none of them raises. -/
theorem afterTicks_invariant {P : ℕ → PlanProgress → Prop} (hinit : P 0 initialProgress)
    (hadvance : ∀ n progress, P n progress → ∃ next,
      advanceProgress .exact progress plan (.fin dt) = .ok (some next) ∧ P (n + 1) next) (n : ℕ) :
    ∃ progress, afterTicks .exact plan (.fin dt) n = .ok (some progress) ∧ P n progress := by
  induction n with
  | zero => exact ⟨initialProgress, rfl, hinit⟩
  | succ n ih =>
    obtain ⟨progress, hprogress, hP⟩ := ih
    obtain ⟨next, hnext, hP'⟩ := hadvance n progress hP
    refine ⟨next, ?_, hP'⟩
    rw [afterTicks, hprogress]
    exact hnext

/-- The ticks bring the plan to the time that they take. -/
theorem exists_afterTicks (hplan : plan.Follows schedule) (hdt : 0 ≤ dt) (n : ℕ) :
    ∃ progress, afterTicks .exact plan (.fin dt) n = .ok (some progress) ∧
      Reached plan schedule dt n progress :=
  afterTicks_invariant (Or.inl ⟨rfl, rfl⟩) (fun _ _ hreached => hreached.succ hplan hdt) n

end Run

/-- **The waypoint timeline.** For every plan whose durations are positive rationals, every tick
length `dt` and every run: after `n ≥ 1` open ticks the progress is the one at the time `n * dt`,
and there is only one; an open tick publishes the command at its time, the velocities of the waypoint or
nothing at all, and any other input leaves the progress as it is and publishes nothing. From the
progress reached, `advance_progress` returns for every time, and times add up. -/
theorem waypoint_timeline (params : Params) (plan : WaypointPlan) (publishRateHz : PyFloat)
    (schedule : Schedule ℚ) (dt : ℚ) (hplan : plan.Follows schedule)
    (hdt : tickLength .exact publishRateHz = .fin dt) (h : List Input) :
    (0 < openTicks .exact params plan publishRateHz h →
      ∃ command, plan.At schedule (openTicks .exact params plan publishRateHz h * dt)
          ((machine .exact params plan publishRateHz).after h).progress command ∧
        ∀ progress' command', plan.At schedule (openTicks .exact params plan publishRateHz h * dt)
          progress' command' →
          progress' = ((machine .exact params plan publishRateHz).after h).progress ∧
            command' = command) ∧
    (∀ i, opens ((machine .exact params plan publishRateHz).after h) i = true →
      ∃ next command,
        (machine .exact params plan publishRateHz).step
            ((machine .exact params plan publishRateHz).after h) i =
          ({ (machine .exact params plan publishRateHz).after h with progress := next },
            emission ((machine .exact params plan publishRateHz).after h) i.now command) ∧
        plan.At schedule ((openTicks .exact params plan publishRateHz h + 1 : ℕ) * dt) next command ∧
        (command = none → (machine .exact params plan publishRateHz).out
          ((machine .exact params plan publishRateHz).after h) i = []) ∧
        ∀ w, command = some w → ∃ msg, (machine .exact params plan publishRateHz).out
            ((machine .exact params plan publishRateHz).after h) i = [.policyCmd msg] ∧
          msg.twist.linear.x = w.linearXMps ∧ msg.twist.linear.y = 0 ∧
          msg.twist.angular.z = w.angularZRadps) ∧
    (∀ i, opens ((machine .exact params plan publishRateHz).after h) i = false →
      ((machine .exact params plan publishRateHz).after (h ++ [i])).progress =
          ((machine .exact params plan publishRateHz).after h).progress ∧
        (machine .exact params plan publishRateHz).out
          ((machine .exact params plan publishRateHz).after h) i = []) ∧
    (∀ a b : ℚ, 0 ≤ a → 0 ≤ b → ∃ mid next,
      advanceProgress .exact ((machine .exact params plan publishRateHz).after h).progress plan
          (.fin a) = .ok (some mid) ∧
        advanceProgress .exact mid plan (.fin b) = .ok (some next) ∧
        advanceProgress .exact ((machine .exact params plan publishRateHz).after h).progress plan
          (.fin (a + b)) = .ok (some next)) := by
  have hreached : Reached plan schedule dt (openTicks .exact params plan publishRateHz h)
      ((machine .exact params plan publishRateHz).after h).progress := reached_after params hplan hdt h
  have hnonneg := tickLength_nonneg hdt
  refine ⟨?_, ?_, ?_, ?_⟩
  · intro hpos
    rcases hreached with ⟨hzero, -⟩ | ⟨command, hat⟩
    · exact absurd hzero hpos.ne'
    · exact ⟨command, hat, fun _ _ hat' => at_unique hat' hat⟩
  · intro i hopens
    obtain ⟨next, command, hnext, hat⟩ := advance_of_reached hplan hnonneg hreached
    rw [← hdt] at hnext
    have hstep := next_of_opens hopens hnext
    rw [currentCommand_of_at hat] at hstep
    refine ⟨next, command, hstep, ?_, ?_, ?_⟩
    · rw [Nat.cast_succ, add_mul, one_mul]
      exact hat
    · rintro rfl
      exact congrArg Prod.snd hstep
    · rintro w rfl
      exact ⟨_, congrArg Prod.snd hstep, rfl, rfl, rfl⟩
  · intro i hopens
    exact ⟨progress_of_not_opens hopens, out_of_not_opens hopens⟩
  · intro a b ha hb
    obtain ⟨mid, command, hmid, hat⟩ := advance_of_reached hplan ha hreached
    obtain ⟨next, command', hnext, hat'⟩ := advanceProgress_at hplan hb hat
    obtain ⟨whole, command'', hwhole, hat''⟩ := advance_of_reached hplan (add_nonneg ha hb) hreached
    -- both ways end at the same time, where there is one progress
    rw [← add_assoc] at hat''
    rw [(at_unique hat'' hat').1] at hwhole
    exact ⟨mid, next, hmid, hnext, hwhole⟩

/-- The example plan at half a tick a second: after the third open tick it is done, with a tick in
between on which the gate was closed. -/
theorem waypoint_timeline_example :
    ∃ command, examplePlan.At exampleSchedule
        (openTicks .exact { enabled := true } examplePlan (.fin (1 / 2))
          [⟨0, .modeState { activeMode := ModeState.modeAiPolicy }⟩,
            ⟨0, .safetyState { state := SafetyState.stateOk }⟩, ⟨1, .tick⟩, ⟨2, .tick⟩,
            ⟨2, .safetyState { state := SafetyState.stateMrm }⟩, ⟨3, .tick⟩,
            ⟨3, .safetyState { state := SafetyState.stateOk }⟩, ⟨4, .tick⟩] * 2)
        ((machine .exact { enabled := true } examplePlan (.fin (1 / 2))).after
          [⟨0, .modeState { activeMode := ModeState.modeAiPolicy }⟩,
            ⟨0, .safetyState { state := SafetyState.stateOk }⟩, ⟨1, .tick⟩, ⟨2, .tick⟩,
            ⟨2, .safetyState { state := SafetyState.stateMrm }⟩, ⟨3, .tick⟩,
            ⟨3, .safetyState { state := SafetyState.stateOk }⟩, ⟨4, .tick⟩]).progress command := by
  obtain ⟨command, hat, -⟩ := (waypoint_timeline { enabled := true } examplePlan (.fin (1 / 2))
    exampleSchedule 2 examplePlan_follows (by decide +kernel)
    [⟨0, .modeState { activeMode := ModeState.modeAiPolicy }⟩,
      ⟨0, .safetyState { state := SafetyState.stateOk }⟩, ⟨1, .tick⟩, ⟨2, .tick⟩,
      ⟨2, .safetyState { state := SafetyState.stateMrm }⟩, ⟨3, .tick⟩,
      ⟨3, .safetyState { state := SafetyState.stateOk }⟩, ⟨4, .tick⟩]).1 (by decide +kernel)
  exact ⟨command, hat⟩

end HumaWare.PolicyProvider.Scripted
