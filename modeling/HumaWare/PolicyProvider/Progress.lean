import HumaWare.PolicyProvider.Plan
import HumaWare.Timeline.Schedule

/-! # The progress of a plan is a function of time

The loop of `advance_progress` subtracts one duration after the other. On a plan whose durations are
positive rationals, the `Schedule` of these durations says where it ends up:

* **`WaypointPlan.At`** — the progress and the command at a time `t` after the start;
* **`at_of_advanceLoop`** — the loop walks along the schedule, by induction on its rounds;
* **`advanceProgress_at`** — advancing by `a` moves from the time `t` to the time `t + a`;
* **`Waypoint.Endless`**, **`advanceProgress_before`** — a plan does not advance past a waypoint
  whose duration no finite time covers. -/

namespace HumaWare.PolicyProvider

open Python Timeline

namespace WaypointPlan

/-- The durations of the plan are those of a schedule: positive rationals. -/
def Follows (plan : WaypointPlan) (schedule : Schedule ℚ) : Prop :=
  plan.waypoints.map Waypoint.durationS = schedule.durations.map PyFloat.fin

/-- The time at which the schedule is read: a looping plan starts over when it ends. -/
def phase (plan : WaypointPlan) (schedule : Schedule ℚ) (t : ℚ) : ℚ :=
  if plan.loop then lap schedule.total t else t

/-- **The progress and the command at a time after the start of the plan.** -/
inductive At (plan : WaypointPlan) (schedule : Schedule ℚ) (t : ℚ) :
    PlanProgress → Option Waypoint → Prop
  | empty (hempty : plan.waypoints = []) : At plan schedule t ⟨0, 0, true⟩ none
  | waypoint (k : ℕ) (w : Waypoint) (hw : plan.waypoints[k]? = some w)
      (hruns : schedule.Runs k (plan.phase schedule t)) :
      At plan schedule t ⟨k, .fin (plan.phase schedule t - schedule.start k), false⟩ (some w)
  | completed (hne : plan.waypoints ≠ []) (hloop : plan.loop = false) (hend : schedule.total ≤ t) :
      At plan schedule t ⟨plan.waypoints.length, 0, true⟩ none

section Follows

variable {plan : WaypointPlan} {schedule : Schedule ℚ}

/-- A schedule has an entry for every waypoint. -/
theorem Follows.length (hplan : plan.Follows schedule) :
    schedule.durations.length = plan.waypoints.length := by
  have h := congrArg List.length hplan
  rw [List.length_map, List.length_map] at h
  exact h.symm

/-- The duration of a waypoint is that of its slot. -/
theorem Follows.duration (hplan : plan.Follows schedule) {k : ℕ} {w : Waypoint}
    (hw : plan.waypoints[k]? = some w) (hk : k < schedule.durations.length) :
    w.durationS = .fin schedule.durations[k] := by
  have h := congrArg (·[k]?) hplan
  simp only [List.getElem?_map, hw, List.getElem?_eq_getElem hk, Option.map_some] at h
  exact Option.some.inj h

/-- The schedule of a plan with a waypoint is not empty. -/
theorem Follows.ne_nil (hplan : plan.Follows schedule) (hne : plan.waypoints ≠ []) :
    schedule.durations ≠ [] := by
  intro hnil
  have h := hplan.length
  rw [hnil, List.length_nil] at h
  exact hne (List.length_eq_zero_iff.mp h.symm)

/-- No duration of the plan is one that `_parse_waypoint` rejects. -/
theorem Follows.accepted (hplan : plan.Follows schedule) : plan.Accepted := by
  intro w hw
  have hmem : w.durationS ∈ plan.waypoints.map Waypoint.durationS := List.mem_map_of_mem hw
  rw [hplan] at hmem
  obtain ⟨d, hd, hdw⟩ := List.mem_map.mp hmem
  rw [← hdw]
  exact mt PyFloat.fin_le_fin.mp (not_le.mpr (schedule.pos d hd))

/-- A slot that is not over has a waypoint. -/
theorem Follows.getElem?_eq_some (hplan : plan.Follows schedule) {k : ℕ}
    (hk : k < schedule.durations.length) : ∃ w, plan.waypoints[k]? = some w := by
  rw [hplan.length] at hk
  exact ⟨_, List.getElem?_eq_getElem hk⟩

end Follows

end WaypointPlan

/-- `config/example_plan.yaml`. -/
def examplePlan : WaypointPlan where
  waypoints := [⟨.fin (1 / 20), .fin 0, .fin 2⟩, ⟨.fin 0, .fin (1 / 5), .fin (3 / 2)⟩,
    ⟨.fin 0, .fin 0, .fin 1⟩]

/-- The durations of `config/example_plan.yaml`. -/
def exampleSchedule : Schedule ℚ where
  durations := [2, 3 / 2, 1]
  pos := by decide +kernel

/-- The schedule of the example plan. -/
theorem examplePlan_follows : examplePlan.Follows exampleSchedule := rfl

open WaypointPlan

section At

variable {plan : WaypointPlan} {schedule : Schedule ℚ} {t : ℚ} {progress : PlanProgress}
  {command : Option Waypoint}

/-- The command is the one that `current_command` reads off the progress. -/
theorem currentCommand_of_at (hat : plan.At schedule t progress command) :
    currentCommand progress plan = command := by
  cases hat with
  | empty hempty => exact if_pos (Or.inl rfl)
  | waypoint k w hw =>
    have hne : plan.waypoints ≠ [] := List.ne_nil_of_mem (List.mem_of_getElem? hw)
    have hgo : ¬(false = true ∨ plan.waypoints = []) := not_or.mpr ⟨Bool.false_ne_true, hne⟩
    exact (if_neg hgo).trans hw
  | completed => exact if_pos (Or.inl rfl)

/-- **At one time there is one progress.** -/
theorem at_unique {progress' : PlanProgress} {command' : Option Waypoint}
    (hat : plan.At schedule t progress command)
    (hat' : plan.At schedule t progress' command') : progress = progress' ∧ command = command' := by
  have hend : ∀ {k : ℕ}, plan.loop = false → schedule.total ≤ t →
      ¬schedule.Runs k (plan.phase schedule t) := by
    intro k hloop hend hruns
    have hlt := hruns.lt_total
    rw [phase, hloop, if_neg Bool.false_ne_true] at hlt
    exact absurd hlt (not_lt.mpr hend)
  cases hat with
  | empty hempty =>
    cases hat' with
    | empty => exact ⟨rfl, rfl⟩
    | waypoint k w hw =>
      rw [hempty] at hw
      exact nomatch hw
    | completed hne => exact absurd hempty hne
  | waypoint k w hw hruns =>
    cases hat' with
    | empty hempty =>
      rw [hempty] at hw
      exact nomatch hw
    | waypoint k' w' hw' hruns' =>
      obtain rfl := hruns.unique hruns'
      exact ⟨rfl, hw.symm.trans hw'⟩
    | completed _ hloop hover => exact absurd hruns (hend hloop hover)
  | completed hne hloop hover =>
    cases hat' with
    | empty hempty => exact absurd hempty hne
    | waypoint k w _ hruns => exact absurd hruns (hend hloop hover)
    | completed => exact ⟨rfl, rfl⟩

end At

/-! ## The loop walks along the schedule -/

/-- A time at which the elapsed time covers no more of the waypoint than its duration. -/
theorem runs_of_lt {schedule : Schedule ℚ} {k : ℕ} {elapsed : ℚ}
    (hk : k < schedule.durations.length) (hnonneg : 0 ≤ elapsed)
    (hlt : elapsed < schedule.durations[k]) : schedule.Runs k (schedule.start k + elapsed) where
  lt := hk
  started := by linarith
  going := by
    rw [schedule.start_succ hk]
    linarith

/-- **The loop walks along the schedule.** From waypoint `k` with the time `elapsed` in it, it ends
where the schedule is at the time `start k + elapsed`. -/
theorem at_of_advanceLoop {plan : WaypointPlan} {schedule : Schedule ℚ}
    (hplan : plan.Follows schedule) {fuel k : ℕ} {elapsed : ℚ}
    (hk : k < schedule.durations.length) (hnonneg : 0 ≤ elapsed) {progress : PlanProgress}
    (hloop : advanceLoop .exact plan fuel k (.fin elapsed) = some progress) :
    ∃ command, plan.At schedule (schedule.start k + elapsed) progress command := by
  induction fuel generalizing k elapsed with
  | zero =>
    rw [advanceLoop] at hloop
    cases hloop
  | succ fuel ih =>
    obtain ⟨w, hw⟩ := hplan.getElem?_eq_some hk
    have hduration := hplan.duration hw hk
    have hne : plan.waypoints ≠ [] := List.ne_nil_of_mem (List.mem_of_getElem? hw)
    have hpos : 0 < schedule.total := schedule.total_pos (hplan.ne_nil hne)
    rw [advanceLoop, hw] at hloop
    dsimp only at hloop
    rw [hduration] at hloop
    by_cases hcovered : schedule.durations[k] ≤ elapsed
    · rw [if_pos (PyFloat.fin_le_fin.mpr hcovered), Arithmetic.exact_sub_fin] at hloop
      have hrest : 0 ≤ elapsed - schedule.durations[k] := sub_nonneg.mpr hcovered
      -- the waypoint is passed at the time at which the next slot begins
      have htime : schedule.start k + elapsed =
          schedule.start (k + 1) + (elapsed - schedule.durations[k]) := by
        rw [schedule.start_succ hk]
        ring
      by_cases hlast : plan.waypoints.length ≤ k + 1
      · have htotal : schedule.start (k + 1) = schedule.total :=
          schedule.start_of_length_le (hplan.length.trans_le hlast)
        rw [if_pos hlast] at hloop
        rw [htime, htotal]
        cases hwrap : plan.loop with
        | true =>
          rw [hwrap, if_pos rfl] at hloop
          obtain ⟨command, hat⟩ := ih (Nat.zero_lt_of_lt hk) hrest hloop
          -- one repetition later the plan is where it would be without it
          have hphase : plan.phase schedule (schedule.total + (elapsed - schedule.durations[k])) =
              plan.phase schedule (elapsed - schedule.durations[k]) := by
            rw [phase, phase, hwrap, if_pos rfl, if_pos rfl, ← lap_sub_self hpos, add_sub_cancel_left]
          rw [schedule.start_zero, zero_add] at hat
          refine ⟨command, ?_⟩
          cases hat with
          | empty hempty => exact absurd hempty hne
          | waypoint k' w' hw' hruns =>
            rw [← hphase] at hruns ⊢
            exact .waypoint k' w' hw' hruns
          | completed _ hstop =>
            rw [hwrap] at hstop
            cases hstop
        | false =>
          rw [hwrap, if_neg Bool.false_ne_true, Option.some.injEq] at hloop
          rw [← hloop]
          exact ⟨none, .completed hne hwrap (le_add_of_nonneg_right hrest)⟩
      · rw [if_neg hlast] at hloop
        rw [htime]
        exact ih (by rw [hplan.length]; omega) hrest hloop
    · rw [if_neg (mt PyFloat.fin_le_fin.mp hcovered), Option.some.injEq] at hloop
      have hruns := runs_of_lt hk hnonneg (not_le.mp hcovered)
      have hphase : plan.phase schedule (schedule.start k + elapsed) = schedule.start k + elapsed := by
        rw [phase]
        split
        · exact lap_of_lt hpos hruns.nonneg hruns.lt_total
        · rfl
      rw [← hloop]
      have hat : plan.At schedule (schedule.start k + elapsed)
          ⟨k, .fin (plan.phase schedule (schedule.start k + elapsed) - schedule.start k), false⟩
          (some w) := .waypoint k w hw (by rw [hphase]; exact hruns)
      rw [hphase, add_sub_cancel_left] at hat
      exact ⟨_, hat⟩

/-- The plan starts at the time zero, unless it is empty. -/
theorem at_initialProgress {plan : WaypointPlan} {schedule : Schedule ℚ}
    (hplan : plan.Follows schedule) (hne : plan.waypoints ≠ []) :
    ∃ command, plan.At schedule 0 initialProgress command := by
  have hlength : 0 < schedule.durations.length := List.length_pos_of_ne_nil (hplan.ne_nil hne)
  obtain ⟨w, hw⟩ := hplan.getElem?_eq_some hlength
  have hphase : plan.phase schedule 0 = 0 := by
    rw [phase]
    split
    · exact lap_of_lt (schedule.total_pos (hplan.ne_nil hne)) le_rfl
        (schedule.total_pos (hplan.ne_nil hne))
    · rfl
  have hruns := runs_of_lt hlength le_rfl (schedule.pos _ (List.getElem_mem hlength))
  rw [schedule.start_zero, zero_add] at hruns
  have hat : plan.At schedule 0 ⟨0, .fin (plan.phase schedule 0 - schedule.start 0), false⟩ (some w) :=
    .waypoint 0 w hw (by rw [hphase]; exact hruns)
  rw [hphase, schedule.start_zero, sub_zero] at hat
  exact ⟨_, hat⟩

/-- A looping plan may be read lap by lap. -/
theorem at_of_at_phase {plan : WaypointPlan} {schedule : Schedule ℚ} (hpos : 0 < schedule.total)
    {t a : ℚ} {progress : PlanProgress} {command : Option Waypoint}
    (hat : plan.At schedule (plan.phase schedule t + a) progress command) :
    plan.At schedule (t + a) progress command := by
  cases hwrap : plan.loop with
  | false =>
    rw [phase, hwrap, if_neg Bool.false_ne_true] at hat
    exact hat
  | true =>
    have hphase : plan.phase schedule (plan.phase schedule t + a) = plan.phase schedule (t + a) := by
      simp only [phase, hwrap, if_true]
      exact lap_lap_add hpos t a
    cases hat with
    | empty hempty => exact .empty hempty
    | waypoint k w hw hruns =>
      rw [hphase] at hruns ⊢
      exact .waypoint k w hw hruns
    | completed _ hstop => exact nomatch hwrap.symm.trans hstop

/-- **Advancing by `a` moves from the time `t` to the time `t + a`.** -/
theorem advanceProgress_at {plan : WaypointPlan} {schedule : Schedule ℚ}
    (hplan : plan.Follows schedule) {t a : ℚ} (ha : 0 ≤ a) {progress : PlanProgress}
    {command : Option Waypoint} (hat : plan.At schedule t progress command) :
    ∃ next command', advanceProgress .exact progress plan (.fin a) = .ok (some next) ∧
      plan.At schedule (t + a) next command' := by
  have hnonneg : ¬PyFloat.fin a < 0 := mt PyFloat.fin_lt_fin.mp (not_lt.mpr ha)
  cases hat with
  | empty hempty =>
    refine ⟨_, _, ?_, .empty hempty⟩
    rw [advanceProgress, if_neg hnonneg, if_pos hempty]
  | completed hne hloop hend =>
    refine ⟨_, _, ?_, .completed hne hloop (hend.trans (le_add_of_nonneg_right ha))⟩
    rw [advanceProgress, if_neg hnonneg, if_neg hne]
    rfl
  | waypoint k w hw hruns =>
    have hne : plan.waypoints ≠ [] := List.ne_nil_of_mem (List.mem_of_getElem? hw)
    have hpos : 0 < schedule.total := schedule.total_pos (hplan.ne_nil hne)
    have helapsed : 0 ≤ plan.phase schedule t - schedule.start k + a :=
      add_nonneg (sub_nonneg.mpr hruns.started) ha
    have hfield : PlanProgress.elapsedInWaypointS
        ⟨k, .fin (plan.phase schedule t - schedule.start k), false⟩ =
        .fin (plan.phase schedule t - schedule.start k) := rfl
    obtain ⟨next, hnext⟩ := exists_advanceProgress hplan.accepted hfield ha
    have hloop := hnext
    rw [advanceProgress, if_neg hnonneg, if_neg hne, if_neg Bool.false_ne_true,
      Except.ok.injEq] at hloop
    obtain ⟨command', hat'⟩ := at_of_advanceLoop hplan hruns.lt helapsed hloop
    have htime : schedule.start k + (plan.phase schedule t - schedule.start k + a) =
        plan.phase schedule t + a := by ring
    rw [htime] at hat'
    exact ⟨next, command', hnext, at_of_at_phase hpos hat'⟩

/-! ## Waypoints that never end -/

/-- No finite time covers the duration of the waypoint: it is infinite, or not a number. -/
def Waypoint.Endless (w : Waypoint) : Prop := ∀ q : ℚ, ¬w.durationS ≤ .fin q

/-- A duration that is not rejected is positive and rational, or the waypoint never ends. -/
theorem exists_duration_or_endless {w : Waypoint} (hw : ¬w.durationS ≤ 0) :
    (∃ d : ℚ, 0 < d ∧ w.durationS = .fin d) ∨ w.Endless := by
  by_cases hends : w.Endless
  · exact Or.inr hends
  · simp only [Waypoint.Endless, not_forall, not_not] at hends
    obtain ⟨q, hq⟩ := hends
    obtain ⟨d, hd, hpos, -⟩ := exists_duration hw hq
    exact Or.inl ⟨d, hpos, hd⟩

/-- A plan without endless waypoints follows a schedule. -/
theorem exists_follows {plan : WaypointPlan}
    (hplan : ∀ w ∈ plan.waypoints, ∃ d : ℚ, 0 < d ∧ w.durationS = .fin d) :
    ∃ schedule, plan.Follows schedule := by
  have hlist : ∀ waypoints : List Waypoint,
      (∀ w ∈ waypoints, ∃ d : ℚ, 0 < d ∧ w.durationS = .fin d) →
      ∃ durations : List ℚ, (∀ d ∈ durations, 0 < d) ∧
        waypoints.map Waypoint.durationS = durations.map PyFloat.fin := by
    intro waypoints
    induction waypoints with
    | nil => exact fun _ => ⟨[], by simp, rfl⟩
    | cons w waypoints ih =>
      intro hall
      obtain ⟨d, hpos, hd⟩ := hall w List.mem_cons_self
      obtain ⟨durations, hdurations, heq⟩ := ih fun v hv => hall v (List.mem_cons_of_mem _ hv)
      refine ⟨d :: durations, List.forall_mem_cons.mpr ⟨hpos, hdurations⟩, ?_⟩
      rw [List.map_cons, List.map_cons, hd, heq]
  obtain ⟨durations, hpos, heq⟩ := hlist plan.waypoints hplan
  exact ⟨⟨durations, hpos⟩, heq⟩

/-- The progress has not passed waypoint `k`, and its elapsed time is finite. -/
structure PlanProgress.Before (k : ℕ) (progress : PlanProgress) : Prop where
  index : progress.waypointIndex ≤ k
  elapsed : ∃ q : ℚ, progress.elapsedInWaypointS = .fin q
  going : progress.completed = false

/-- **The loop does not pass a waypoint that never ends.** -/
theorem before_of_advanceLoop {plan : WaypointPlan} (hplan : plan.Accepted) {k : ℕ} {w : Waypoint}
    (hw : plan.waypoints[k]? = some w) (hends : w.Endless) {fuel j : ℕ} {q : ℚ} (hj : j ≤ k)
    {progress : PlanProgress} (hloop : advanceLoop .exact plan fuel j (.fin q) = some progress) :
    progress.Before k := by
  have hk : k < plan.waypoints.length := (List.getElem?_eq_some_iff.mp hw).1
  induction fuel generalizing j q with
  | zero => exact nomatch hloop
  | succ fuel ih =>
    have hget := List.getElem?_eq_getElem (hj.trans_lt hk)
    rw [advanceLoop, hget] at hloop
    dsimp only at hloop
    by_cases hcovered : plan.waypoints[j].durationS ≤ .fin q
    · rw [if_pos hcovered] at hloop
      -- only a waypoint before `k` is passed, so neither the end nor the wrap is reached
      have hne : j ≠ k := by
        rintro rfl
        rw [Option.some.inj (hget.symm.trans hw)] at hcovered
        exact hends q hcovered
      have hmem : plan.waypoints[j] ∈ plan.waypoints := List.getElem_mem _
      obtain ⟨d, hd, -, -⟩ := exists_duration (hplan _ hmem) hcovered
      rw [if_neg (by omega), hd, Arithmetic.exact_sub_fin] at hloop
      exact ih (by omega) hloop
    · rw [if_neg hcovered, Option.some.injEq] at hloop
      rw [← hloop]
      exact ⟨hj, ⟨q, rfl⟩, rfl⟩

/-- **A plan does not advance past a waypoint that never ends.** -/
theorem advanceProgress_before {plan : WaypointPlan} (hplan : plan.Accepted) {k : ℕ} {w : Waypoint}
    (hw : plan.waypoints[k]? = some w) (hends : w.Endless) {progress : PlanProgress}
    (hbefore : progress.Before k) {dt : ℚ} (hdt : 0 ≤ dt) :
    ∃ next, advanceProgress .exact progress plan (.fin dt) = .ok (some next) ∧ next.Before k := by
  obtain ⟨q, hq⟩ := hbefore.elapsed
  obtain ⟨next, hnext⟩ := exists_advanceProgress hplan hq hdt
  have hnonneg : ¬PyFloat.fin dt < 0 := mt PyFloat.fin_lt_fin.mp (not_lt.mpr hdt)
  have hne : plan.waypoints ≠ [] := List.ne_nil_of_mem (List.mem_of_getElem? hw)
  have hgoing : ¬progress.completed = true := by
    rw [hbefore.going]
    exact Bool.false_ne_true
  have hloop := hnext
  rw [advanceProgress, if_neg hnonneg, if_neg hne, if_neg hgoing, hq, Arithmetic.exact_add_fin,
    Except.ok.injEq] at hloop
  exact ⟨next, hnext, before_of_advanceLoop hplan hw hends hbefore.index hloop⟩

end HumaWare.PolicyProvider
