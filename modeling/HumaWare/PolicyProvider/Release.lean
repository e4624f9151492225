import HumaWare.PolicyProvider.Load
import HumaWare.PolicyProvider.Pace
import Mathlib.Algebra.Order.Archimedean.Basic

/-! # Which plans let the robot go

`_parse_waypoint` rejects a duration that is `<= 0`, and `advance_progress` leaves a waypoint when
its duration is at most the elapsed time. A duration that is not a number fails both comparisons,
and an infinite one passes the first and fails the second.

* **`LetsGo`** — in exact arithmetic, a plan is completed from some number of ticks on;
* **`letsGo_of_follows`** — a plan of positive rational durations completes and stays so;
* **`accepted_letsGo_iff`** — of the mappings that `parse_plan` accepts, those whose plan has
  positive durations and, if it does not loop, lets go. -/

namespace HumaWare.PolicyProvider

open Python Timeline Scripted

/-- A plan lets go at ticks of the length `dt`, in exact arithmetic: from some number of open ticks on it
is completed and has no command, and a node that runs it publishes nothing any more. -/
def LetsGo (plan : WaypointPlan) (dt : ℚ) : Prop :=
  ∃ N, (∀ n ≥ N, ∃ progress, afterTicks .exact plan (.fin dt) n = .ok (some progress) ∧
      progress.completed = true ∧ currentCommand progress plan = none) ∧
    ∀ params publishRateHz h, tickLength .exact publishRateHz = .fin dt →
      N ≤ openTicks .exact params plan publishRateHz h →
      ((machine .exact params plan publishRateHz).after h).progress.completed = true ∧
        ∀ i, (machine .exact params plan publishRateHz).out
          ((machine .exact params plan publishRateHz).after h) i = []

section Plan

variable {plan : WaypointPlan} {schedule : Schedule ℚ} {dt : ℚ}

/-- At its end a plan that does not loop is completed. -/
theorem completed_of_at (hloop : plan.loop = false) {t : ℚ} (hend : schedule.total ≤ t)
    {progress : PlanProgress} {command : Option Waypoint}
    (hat : plan.At schedule t progress command) : progress.completed = true ∧ command = none := by
  cases hat with
  | empty | completed => exact ⟨rfl, rfl⟩
  | waypoint k w hw hruns =>
    have hlt := hruns.lt_total
    rw [WaypointPlan.phase, hloop, if_neg Bool.false_ne_true] at hlt
    exact absurd hlt (not_lt.mpr hend)

/-- **A plan of positive rational durations lets go**, if it does not loop. -/
theorem letsGo_of_follows (hplan : plan.Follows schedule) (hloop : plan.loop = false)
    (hdt : 0 < dt) : LetsGo plan dt := by
  obtain ⟨N, hN⟩ := exists_nat_ge (schedule.total / dt)
  have hend : ∀ n : ℕ, N + 1 ≤ n → schedule.total ≤ n * dt := by
    intro n hn
    have hle : schedule.total / dt ≤ n := hN.trans (by exact_mod_cast (Nat.le_succ N).trans hn)
    exact (div_le_iff₀ hdt).mp hle
  have hat : ∀ {n : ℕ} {progress : PlanProgress}, N + 1 ≤ n →
      Reached plan schedule dt n progress → ∃ command, plan.At schedule (n * dt) progress command := by
    rintro n progress hn (⟨rfl, -⟩ | hat)
    · exact absurd hn (Nat.not_succ_le_zero N)
    · exact hat
  refine ⟨N + 1, ?_, ?_⟩
  · intro n hn
    obtain ⟨progress, hprogress, hreached⟩ := exists_afterTicks hplan hdt.le n
    obtain ⟨command, hcommand⟩ := hat hn hreached
    obtain ⟨hdone, hnone⟩ := completed_of_at hloop (hend n hn) hcommand
    exact ⟨progress, hprogress, hdone, (currentCommand_of_at hcommand).trans hnone⟩
  · intro params publishRateHz h hlength hn
    have hreached := reached_after params hplan hlength h
    obtain ⟨command, hcommand⟩ := hat hn hreached
    refine ⟨(completed_of_at hloop (hend _ hn) hcommand).1, ?_⟩
    intro i
    cases hopens : opens ((machine .exact params plan publishRateHz).after h) i with
    | false => exact out_of_not_opens hopens
    | true =>
      -- one more open tick finds the plan at a later time, and completed still
      obtain ⟨next, command', hnext, hat'⟩ := advance_of_reached hplan hdt.le hreached
      have hlater := (hend _ hn).trans (le_add_of_nonneg_right hdt.le)
      rw [← hlength] at hnext
      rw [Reactive.Machine.out, next_of_opens hopens hnext, currentCommand_of_at hat',
        (completed_of_at hloop hlater hat').2]
      rfl

/-- A plan with a waypoint that never ends does not let go. -/
theorem not_letsGo_of_endless (hplan : plan.Accepted) {k : ℕ} {w : Waypoint}
    (hw : plan.waypoints[k]? = some w) (hends : w.Endless) (hdt : 0 ≤ dt) : ¬LetsGo plan dt := by
  have hbefore : ∀ n, ∃ progress, afterTicks .exact plan (.fin dt) n = .ok (some progress) ∧
      progress.Before k := by
    apply afterTicks_invariant ⟨Nat.zero_le k, ⟨0, rfl⟩, rfl⟩
    intro n progress hbefore
    exact advanceProgress_before hplan hw hends hbefore hdt
  rintro ⟨N, hdone, -⟩
  obtain ⟨progress, hprogress, hcompleted, -⟩ := hdone N le_rfl
  obtain ⟨progress', hprogress', hbefore'⟩ := hbefore N
  obtain rfl := Option.some.inj (Except.ok.inj (hprogress.symm.trans hprogress'))
  exact Bool.false_ne_true (hbefore'.going.symm.trans hcompleted)

/-- Of the plans whose durations are not `<= 0`, those that have positive durations and let go are
those without a duration that is not a number and, unless they loop, without an infinite one. -/
theorem letsGo_iff (hplan : plan.Accepted) :
    ((∀ w ∈ plan.waypoints, 0 < w.durationS) ∧
        (plan.loop = false → ∀ dt : ℚ, 0 < dt → LetsGo plan dt)) ↔
      ∀ w ∈ plan.waypoints, w.durationS ≠ .nan ∧ (plan.loop = false → w.durationS ≠ .posInf) := by
  constructor
  · rintro ⟨hpos, hgo⟩ w hw
    refine ⟨?_, ?_⟩
    · intro hnan
      have hlt := hpos w hw
      rw [hnan] at hlt
      exact PyFloat.not_lt_nan 0 hlt
    · intro hloop hinf
      obtain ⟨k, hk⟩ := List.mem_iff_getElem?.mp hw
      have hends : w.Endless := by
        intro q
        rw [hinf]
        exact Bool.false_ne_true
      exact not_letsGo_of_endless hplan hk hends zero_le_one (hgo hloop 1 one_pos)
  · intro hall
    constructor
    · intro w hw
      refine (PyFloat.le_or_lt (hall w hw).1 ?_).resolve_left (hplan w hw)
      exact PyFloat.noConfusion
    · intro hloop dt hdt
      have hrational : ∀ w ∈ plan.waypoints, ∃ d : ℚ, 0 < d ∧ w.durationS = .fin d := by
        intro w hw
        obtain ⟨hnan, hinf⟩ := hall w hw
        have hpositive := hplan w hw
        cases hd : w.durationS with
        | nan => exact absurd hd hnan
        | posInf => exact absurd hd (hinf hloop)
        | negInf =>
          rw [hd] at hpositive
          exact absurd rfl hpositive
        | fin d =>
          rw [hd] at hpositive
          exact ⟨d, not_le.mp (mt PyFloat.fin_le_fin.mpr hpositive), rfl⟩
      obtain ⟨schedule, hfollows⟩ := exists_follows hrational
      exact letsGo_of_follows hfollows hloop hdt

end Plan

/-- The durations of a mapping end: none converts to a value that is not a number, and, unless the
plan loops, none to an infinite one. -/
def DurationsEnd (entries : List (Yaml × Yaml)) : Prop :=
  ∀ raws, (Yaml.lookup "waypoints" entries).getD (.list []) = .list raws →
    ∀ fields, Yaml.map fields ∈ raws →
      floatField "duration_s" fields ≠ .ok .nan ∧
        (((Yaml.lookup "loop" entries).getD (.bool false)).truthy = false →
          floatField "duration_s" fields ≠ .ok .posInf)

/-- No waypoint that an entry describes is rejected. -/
theorem accepted_of_describes {raws : List Yaml} {waypoints : List Waypoint}
    (hraws : List.Forall₂ Describes raws waypoints) : ∀ w ∈ waypoints, ¬w.durationS ≤ 0 := by
  induction hraws with
  | nil => simp
  | cons hraw _ ih =>
    obtain ⟨-, -, -, hpositive⟩ := hraw
    exact List.forall_mem_cons.mpr ⟨hpositive, ih⟩

/-- What holds of the durations that a list describes holds of the waypoints. -/
theorem forall_duration_iff {P : PyFloat → Prop} {raws : List Yaml} {waypoints : List Waypoint}
    (hraws : List.Forall₂ Describes raws waypoints) :
    (∀ fields, Yaml.map fields ∈ raws → ∀ x, floatField "duration_s" fields = .ok x → P x) ↔
      ∀ w ∈ waypoints, P w.durationS := by
  induction hraws with
  | nil => simp
  | cons hraw _ ih =>
    obtain ⟨-, -, hduration, -⟩ := hraw
    rw [List.forall_mem_cons, ← ih]
    constructor
    · intro hall
      refine ⟨hall _ List.mem_cons_self _ hduration, ?_⟩
      exact fun fields hmem => hall fields (List.mem_cons_of_mem _ hmem)
    · rintro ⟨hfirst, hrest⟩ fields hmem x hx
      rcases List.mem_cons.mp hmem with heq | hmem
      · rw [Yaml.map.inj heq, hduration] at hx
        rw [← Except.ok.inj hx]
        exact hfirst
      · exact hrest fields hmem x hx

/-- **Which accepted mappings let the robot go**: for every mapping that `parse_plan` accepts, the
durations of its plan are positive and a plan that does not loop lets go at every tick length,
exactly if the durations of the mapping end. -/
theorem accepted_letsGo_iff (entries : List (Yaml × Yaml)) (plan : WaypointPlan)
    (hparse : parsePlan (.map entries) = .ok plan) :
    ((∀ w ∈ plan.waypoints, 0 < w.durationS) ∧
        (plan.loop = false → ∀ dt : ℚ, 0 < dt → LetsGo plan dt)) ↔ DurationsEnd entries := by
  obtain ⟨⟨raws, hlist, hraws⟩, hloop⟩ := parsePlan_map_eq_ok_iff.mp hparse
  rw [letsGo_iff (accepted_of_describes hraws), ← forall_duration_iff
    (P := fun x => x ≠ .nan ∧ (plan.loop = false → x ≠ .posInf)) hraws, DurationsEnd, hlist, ← hloop]
  constructor
  · intro hall raws' hsame fields hmem
    rw [← Yaml.list.inj hsame] at hmem
    refine ⟨fun hnan => (hall fields hmem _ hnan).1 rfl, ?_⟩
    exact fun hstops hinf => (hall fields hmem _ hinf).2 hstops rfl
  · intro hend fields hmem x hx
    obtain ⟨hnan, hinf⟩ := hend raws rfl fields hmem
    refine ⟨fun h => hnan (h ▸ hx), ?_⟩
    exact fun hstops h => hinf hstops (h ▸ hx)

/-- A mapping with a waypoint of a second. -/
theorem accepted_letsGo_second :
    (∀ w ∈ [(⟨.fin (1 / 10), .fin 0, .fin 1⟩ : Waypoint)], 0 < w.durationS) ∧
      (false = false → ∀ dt : ℚ, 0 < dt → LetsGo ⟨[⟨.fin (1 / 10), .fin 0, .fin 1⟩], false⟩ dt) := by
  refine (accepted_letsGo_iff [(.str "waypoints", .list [.map [(.str "linear_x_mps",
    .float (.fin (1 / 10))), (.str "angular_z_radps", .float (.fin 0)), (.str "duration_s",
    .float (.fin 1))]])] ⟨[⟨.fin (1 / 10), .fin 0, .fin 1⟩], false⟩ ?_).mpr ?_
  · refine parsePlan_map_eq_ok_iff.mpr ⟨⟨_, rfl, ?_⟩, rfl⟩
    exact .cons (.mapping rfl rfl rfl (by decide +kernel)) .nil
  · intro raws hraws fields hmem
    rw [← Yaml.list.inj hraws, List.mem_singleton] at hmem
    obtain rfl := Yaml.map.inj hmem
    exact ⟨nofun, nofun⟩

/-- **Two plans that are accepted and never let go**: a waypoint whose duration is not a number, and
one whose duration is infinite. -/
theorem not_accepted_letsGo :
    (∃ plan, parsePlan (.map [(.str "waypoints", .list [.map [(.str "linear_x_mps",
        .float (.fin (1 / 10))), (.str "angular_z_radps", .float (.fin 0)), (.str "duration_s",
        .float .nan)]])]) = .ok plan ∧
      (∃ w ∈ plan.waypoints, ¬0 < w.durationS) ∧ plan.loop = false ∧ ¬LetsGo plan (1 / 10)) ∧
    ∃ plan, parsePlan (.map [(.str "waypoints", .list [.map [(.str "linear_x_mps",
        .float (.fin (1 / 10))), (.str "angular_z_radps", .float (.fin 0)), (.str "duration_s",
        .float .posInf)]])]) = .ok plan ∧ plan.loop = false ∧ ¬LetsGo plan (1 / 10) := by
  constructor
  · refine ⟨⟨[⟨.fin (1 / 10), .fin 0, .nan⟩], false⟩, ?_, ?_, rfl, ?_⟩
    · refine parsePlan_map_eq_ok_iff.mpr ⟨⟨_, rfl, ?_⟩, rfl⟩
      exact .cons (.mapping rfl rfl rfl (PyFloat.not_nan_le 0)) .nil
    · exact ⟨_, List.mem_singleton_self _, PyFloat.not_lt_nan 0⟩
    · refine not_letsGo_of_endless ?_ (show [_][0]? = some _ from rfl) ?_ (by decide +kernel)
      · intro w hw
        rw [List.mem_singleton.mp hw]
        exact PyFloat.not_nan_le 0
      · exact fun q => PyFloat.not_nan_le (.fin q)
  · refine ⟨⟨[⟨.fin (1 / 10), .fin 0, .posInf⟩], false⟩, ?_, rfl, ?_⟩
    · refine parsePlan_map_eq_ok_iff.mpr ⟨⟨_, rfl, ?_⟩, rfl⟩
      exact .cons (.mapping rfl rfl rfl Bool.false_ne_true) .nil
    · refine not_letsGo_of_endless ?_ (show [_][0]? = some _ from rfl) ?_ (by decide +kernel)
      · intro w hw
        rw [List.mem_singleton.mp hw]
        exact Bool.false_ne_true
      · exact fun q => Bool.false_ne_true

end HumaWare.PolicyProvider
