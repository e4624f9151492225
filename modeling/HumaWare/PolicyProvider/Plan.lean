import HumaWare.Python.Rounding
import Mathlib.Algebra.Order.BigOperators.Group.List
import Mathlib.Algebra.Order.Floor.Semiring
import Mathlib.Data.Rat.Floor

/-! # The waypoint plan

`plan.py`, function by function: a plan is a list of timed velocities, a progress is a position in
it, and `advance_progress` walks forward over as many waypoints as the time step covers, wrapping
around at the end of a looping plan. The times are added and subtracted in an arithmetic, which is
binary64 where the node runs.

The loop of `advance_progress` runs here for a number of rounds computed in advance, and answers
`none` when it has not stopped by then.

* **`exists_advanceProgress`** — in exact arithmetic, with durations that are not `<= 0`, which is what
  `_parse_waypoint` accepts, and a finite time, it always stops: each round lets one waypoint's duration
  pass, and waypoint `w` can be passed `⌊elapsed / w.duration_s⌋` times at most;
* **`exists_advanceLoop_of_not_loop`** — in any arithmetic, a plan that does not loop is walked to its
  end at most. -/

namespace HumaWare.PolicyProvider

open Python

/-- `Waypoint`. -/
structure Waypoint where
  linearXMps : PyFloat
  angularZRadps : PyFloat
  durationS : PyFloat
  deriving DecidableEq, Repr

/-- `WaypointPlan`. -/
structure WaypointPlan where
  waypoints : List Waypoint
  loop : Bool := false
  deriving DecidableEq, Repr

/-- `PlanProgress`. -/
structure PlanProgress where
  waypointIndex : ℕ
  elapsedInWaypointS : PyFloat
  completed : Bool
  deriving DecidableEq, Repr

/-- `initial_progress`. -/
def initialProgress : PlanProgress where
  waypointIndex := 0
  elapsedInWaypointS := 0
  completed := false

/-- The `ValueError` of `advance_progress`: its text, and the float that ends the message. -/
structure ValueError where
  text : String
  got : PyFloat
  deriving DecidableEq, Repr

/-- The `while` loop of `advance_progress`, for at most `fuel` rounds. -/
def advanceLoop (A : Arithmetic) (plan : WaypointPlan) : ℕ → ℕ → PyFloat → Option PlanProgress
  | 0, _, _ => none
  | fuel + 1, index, elapsed =>
    match plan.waypoints[index]? with
    | none => some ⟨index, elapsed, false⟩
    | some waypoint =>
      if waypoint.durationS ≤ elapsed then
        let elapsed := A.sub elapsed waypoint.durationS
        let index := index + 1
        if plan.waypoints.length ≤ index then
          -- the remaining time is kept when the plan wraps around, and dropped when it ends
          if plan.loop then advanceLoop A plan fuel 0 elapsed
          else some ⟨plan.waypoints.length, 0, true⟩
        else advanceLoop A plan fuel index elapsed
      else some ⟨index, elapsed, false⟩

/-- How often at most the loop can pass the waypoint before `elapsed` is used up, without rounding. -/
def passes (elapsed : PyFloat) (waypoint : Waypoint) : ℕ :=
  match elapsed, waypoint.durationS with
  | .fin elapsed, .fin duration => ⌊elapsed / duration⌋₊
  | _, _ => 0

/-- How many binary64 floats at most are positive and no larger than `elapsed`. -/
def grains : PyFloat → ℕ
  | .fin elapsed => ⌊elapsed * 2 ^ 1074⌋₊
  | _ => 1

/-- The rounds that the loop of `advance_progress` is given. In exact arithmetic, one for each passage,
and one for each waypoint so that a plan which does not loop is always walked to its end. In binary64,
one for each waypoint and each float that the time left can still be: a loop that has gone on for longer
was twice at the same waypoint with the same time left, and never stops. -/
def rounds (A : Arithmetic) (plan : WaypointPlan) (elapsed : PyFloat) : ℕ :=
  match A with
  | .exact => (plan.waypoints.map (passes elapsed)).sum + plan.waypoints.length + 1
  | .binary64 => (grains elapsed + 1) * plan.waypoints.length + 1

/-- `advance_progress`: `none` when its loop does not stop. -/
def advanceProgress (A : Arithmetic) (progress : PlanProgress) (plan : WaypointPlan) (dtS : PyFloat) :
    Except ValueError (Option PlanProgress) :=
  if dtS < 0 then .error ⟨"dt_s must be non-negative, got ", dtS⟩
  else if plan.waypoints = [] then .ok (some ⟨0, 0, true⟩)
  else if progress.completed then .ok (some progress)
  else
    let elapsed := A.add progress.elapsedInWaypointS dtS
    .ok (advanceLoop A plan (rounds A plan elapsed) progress.waypointIndex elapsed)

/-- `current_command`. -/
def currentCommand (progress : PlanProgress) (plan : WaypointPlan) : Option Waypoint :=
  if progress.completed ∨ plan.waypoints = [] then none
  else plan.waypoints[progress.waypointIndex]?

/-! ## The loop stops -/

/-- No waypoint of the plan has a duration that `_parse_waypoint` rejects. -/
def WaypointPlan.Accepted (plan : WaypointPlan) : Prop :=
  ∀ waypoint ∈ plan.waypoints, ¬waypoint.durationS ≤ 0

/-- A duration that is not `<= 0` and that a finite time covers is finite and positive. -/
theorem exists_duration {waypoint : Waypoint} {q : ℚ} (hpos : ¬waypoint.durationS ≤ 0)
    (hle : waypoint.durationS ≤ .fin q) :
    ∃ d, waypoint.durationS = .fin d ∧ 0 < d ∧ d ≤ q := by
  cases hd : waypoint.durationS with
  | nan => rw [hd] at hle; exact absurd hle Bool.false_ne_true
  | negInf => rw [hd] at hpos; exact absurd rfl hpos
  | posInf => rw [hd] at hle; exact absurd hle Bool.false_ne_true
  | fin d =>
    rw [hd] at hpos hle
    have hd0 : ¬d ≤ 0 := mt PyFloat.fin_le_fin.mpr hpos
    exact ⟨d, rfl, not_le.mp hd0, PyFloat.fin_le_fin.mp hle⟩

/-- Less time passes a waypoint no more often. -/
theorem passes_mono {waypoint : Waypoint} (hpos : ¬waypoint.durationS ≤ 0) {q q' : ℚ} (h : q' ≤ q) :
    passes (.fin q') waypoint ≤ passes (.fin q) waypoint := by
  unfold passes
  cases hd : waypoint.durationS with
  | nan => exact le_rfl
  | negInf => exact le_rfl
  | posInf => exact le_rfl
  | fin d =>
    rw [hd] at hpos
    have hd0 : ¬d ≤ 0 := mt PyFloat.fin_le_fin.mpr hpos
    exact Nat.floor_le_floor (div_le_div_of_nonneg_right h (not_le.mp hd0).le)

/-- Letting a waypoint's own duration pass uses up one of its passages. -/
theorem passes_sub_lt {waypoint : Waypoint} {q d : ℚ} (hd : waypoint.durationS = .fin d) (hpos : 0 < d)
    (hle : d ≤ q) : passes (.fin (q - d)) waypoint < passes (.fin q) waypoint := by
  have hdiv : (q - d) / d = q / d - 1 := by rw [sub_div, div_self hpos.ne']
  have hone : 1 ≤ q / d := (one_le_div hpos).mpr hle
  simp only [passes, hd]
  rw [hdiv, Nat.floor_sub_one]
  exact Nat.sub_lt (Nat.floor_pos.mpr hone) Nat.one_pos

/-- **Each round uses up a passage**, so the passages left in all decrease. -/
theorem sum_passes_sub_lt {waypoints : List Waypoint} (hpos : ∀ w ∈ waypoints, ¬w.durationS ≤ 0)
    {waypoint : Waypoint} (hmem : waypoint ∈ waypoints) {q d : ℚ} (hd : waypoint.durationS = .fin d)
    (hd0 : 0 < d) (hle : d ≤ q) :
    (waypoints.map (passes (.fin (q - d)))).sum < (waypoints.map (passes (.fin q))).sum := by
  apply List.sum_lt_sum
  · intro w hw
    exact passes_mono (hpos w hw) (sub_le_self q hd0.le)
  · exact ⟨waypoint, hmem, passes_sub_lt hd hd0 hle⟩

/-- **The loop stops** within as many rounds as there are passages left, and one. -/
theorem exists_advanceLoop {plan : WaypointPlan} (hplan : plan.Accepted) {fuel index : ℕ} {q : ℚ}
    (hfuel : (plan.waypoints.map (passes (.fin q))).sum < fuel) :
    ∃ progress, advanceLoop .exact plan fuel index (.fin q) = some progress := by
  induction fuel generalizing index q with
  | zero => exact absurd hfuel (Nat.not_lt_zero _)
  | succ fuel ih =>
    rw [advanceLoop]
    cases hget : plan.waypoints[index]? with
    | none => exact ⟨_, rfl⟩
    | some waypoint =>
      dsimp only
      split
      · -- the waypoint is passed: the rest of the loop has one passage less to make
        next hcovered =>
        have hmem : waypoint ∈ plan.waypoints := List.mem_of_getElem? hget
        obtain ⟨d, hd, hd0, hle⟩ := exists_duration (hplan waypoint hmem) hcovered
        have hless := sum_passes_sub_lt hplan hmem hd hd0 hle
        have hrest : (plan.waypoints.map (passes (.fin (q - d)))).sum < fuel := by omega
        rw [hd, Arithmetic.exact_sub_fin]
        split
        · split
          · exact ih hrest
          · exact ⟨_, rfl⟩
        · exact ih hrest
      · exact ⟨_, rfl⟩

/-- **`advance_progress` returns** on an accepted plan, in exact arithmetic, after a finite time from a
finite elapsed time. -/
theorem exists_advanceProgress {plan : WaypointPlan} (hplan : plan.Accepted) {progress : PlanProgress}
    {elapsed dt : ℚ} (helapsed : progress.elapsedInWaypointS = .fin elapsed) (hdt : 0 ≤ dt) :
    ∃ next, advanceProgress .exact progress plan (.fin dt) = .ok (some next) := by
  have hnonneg : ¬PyFloat.fin dt < 0 := mt PyFloat.fin_lt_fin.mp (not_lt.mpr hdt)
  rw [advanceProgress, if_neg hnonneg]
  split
  · exact ⟨_, rfl⟩
  split
  · exact ⟨_, rfl⟩
  rw [helapsed, Arithmetic.exact_add_fin]
  have hfuel : (plan.waypoints.map (passes (.fin (elapsed + dt)))).sum
      < rounds .exact plan (.fin (elapsed + dt)) := by
    simp only [rounds]
    omega
  obtain ⟨next, hnext⟩ := exists_advanceLoop hplan hfuel
  exact ⟨next, congrArg Except.ok hnext⟩

/-- **A plan that does not loop is walked to its end at most**, in any arithmetic: each round passes one
of the waypoints left. -/
theorem exists_advanceLoop_of_not_loop (A : Arithmetic) {plan : WaypointPlan} (hloop : plan.loop = false)
    {fuel index : ℕ} {elapsed : PyFloat} (hfuel : plan.waypoints.length - index < fuel) :
    ∃ progress, advanceLoop A plan fuel index elapsed = some progress := by
  induction fuel generalizing index elapsed with
  | zero => exact absurd hfuel (Nat.not_lt_zero _)
  | succ fuel ih =>
    rw [advanceLoop]
    cases hget : plan.waypoints[index]? with
    | none => exact ⟨_, rfl⟩
    | some waypoint =>
      have hindex : index < plan.waypoints.length := (List.getElem?_eq_some_iff.mp hget).1
      dsimp only
      rw [hloop]
      split
      · split
        · exact ⟨_, rfl⟩
        · exact ih (by omega)
      · exact ⟨_, rfl⟩

end HumaWare.PolicyProvider
