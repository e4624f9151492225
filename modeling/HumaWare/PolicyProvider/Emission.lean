import HumaWare.PolicyProvider.Pace
import Mathlib.Tactic.IntervalCases

/-! # Which waypoints are published

A tick advances the plan first and publishes the waypoint it has then reached. A waypoint is
therefore published exactly if some tick leaves the plan in it. The time that a waypoint begins with is
carried over from the one before it, and all of these times are sums and differences in the arithmetic
of the node: whether a waypoint is walked over can depend on the rounding.

* **`Carried`** — the time that is carried into a waypoint, from the durations and the tick length;
* **`CatchesTick`** — a waypoint takes longer than the time carried into it;
* **`walked_of_advanceLoop`** — the loop walks over the waypoints that do not;
* **`emitted_iff`** — a completed run has published every waypoint exactly if each catches a tick;
* **`catchesTick_exact_iff`** — in exact arithmetic, that is so if a tick falls into its slot. -/

namespace HumaWare.PolicyProvider.Scripted

open Python Reactive Timeline

/-- The time that has elapsed in a waypoint after `n` more ticks. -/
def ticked (A : Arithmetic) (dt elapsed : PyFloat) : ℕ → PyFloat
  | 0 => elapsed
  | n + 1 => A.add (ticked A dt elapsed n) dt

/-- **The time carried into a waypoint of a plan that does not loop.** Into the first one, one tick;
into the next one, what is left of the first sum of ticks that covers the duration of the waypoint. -/
inductive Carried (A : Arithmetic) (plan : WaypointPlan) (dt : PyFloat) : ℕ → PyFloat → Prop
  | first : Carried A plan dt 0 (A.add 0 dt)
  | next {k n : ℕ} {carried : PyFloat} {w : Waypoint} (hcarried : Carried A plan dt k carried)
      (hw : plan.waypoints[k]? = some w) (hgoing : ∀ m < n, ¬w.durationS ≤ ticked A dt carried m)
      (hcovered : w.durationS ≤ ticked A dt carried n) :
      Carried A plan dt (k + 1) (A.sub (ticked A dt carried n) w.durationS)

/-- Waypoint `k` is not over when the plan comes to it, so a tick leaves the plan in it. -/
def CatchesTick (A : Arithmetic) (plan : WaypointPlan) (publishRateHz : PyFloat) (k : ℕ) : Prop :=
  ∃ carried w, Carried A plan (tickLength A publishRateHz) k carried ∧
    plan.waypoints[k]? = some w ∧ ¬w.durationS ≤ carried

/-- The input `i`, handled after `pre`, publishes the candidate of waypoint `k`. -/
structure EmitsAt (A : Arithmetic) (params : Params) (plan : WaypointPlan) (publishRateHz : PyFloat)
    (k : ℕ) (pre : List Input) (i : Input) : Prop where
  index : ((machine A params plan publishRateHz).after (pre ++ [i])).progress.waypointIndex = k
  published : ∃ waypoint, plan.waypoints[k]? = some waypoint ∧
    (machine A params plan publishRateHz).out ((machine A params plan publishRateHz).after pre) i =
      [.policyCmd (candidate ((machine A params plan publishRateHz).after pre) i.now waypoint)]

/-- A history publishes waypoint `k`. -/
def Emits (A : Arithmetic) (params : Params) (plan : WaypointPlan) (publishRateHz : PyFloat) (k : ℕ)
    (h : List Input) : Prop :=
  ∃ pre i post, h = pre ++ i :: post ∧ EmitsAt A params plan publishRateHz k pre i

/-- A history publishes every waypoint, and none of them after a later one. -/
structure EmitsEach (A : Arithmetic) (params : Params) (plan : WaypointPlan) (publishRateHz : PyFloat)
    (h : List Input) : Prop where
  each : ∀ k < plan.waypoints.length, Emits A params plan publishRateHz k h
  inOrder : ∀ j k pre i mid i' post, h = pre ++ i :: (mid ++ i' :: post) →
    EmitsAt A params plan publishRateHz j pre i →
    EmitsAt A params plan publishRateHz k (pre ++ i :: mid) i' → j ≤ k

/-! ## Where a plan is that does not loop -/

section Walk

variable {A : Arithmetic} {plan : WaypointPlan} {dt : PyFloat}

/-- **The time carried into a waypoint is one.** -/
theorem Carried.unique {k : ℕ} {carried carried' : PyFloat} (h : Carried A plan dt k carried)
    (h' : Carried A plan dt k carried') : carried = carried' := by
  induction h generalizing carried' with
  | first =>
    cases h'
    rfl
  | @next k n carried w _ hw hgoing hcovered ih =>
    cases h' with
    | @next _ n' _ w' hcarried' hw' hgoing' hcovered' =>
      obtain rfl := ih hcarried'
      obtain rfl := Option.some.inj (hw.symm.trans hw')
      -- the first sum that covers the waypoint is the same
      rcases lt_trichotomy n n' with hlt | rfl | hlt
      · exact absurd hcovered (hgoing' n hlt)
      · rfl
      · exact absurd hcovered' (hgoing n' hlt)

/-- The plan comes to waypoint `k` when it is over already. -/
def WalksOver (A : Arithmetic) (plan : WaypointPlan) (dt : PyFloat) (k : ℕ) : Prop :=
  ∃ carried w, Carried A plan dt k carried ∧ plan.waypoints[k]? = some w ∧ w.durationS ≤ carried

/-- Where a plan that does not loop is after a tick: in a waypoint that is not over, or at its end. -/
inductive Walked (A : Arithmetic) (plan : WaypointPlan) (dt : PyFloat) : PlanProgress → Prop
  | going {k n : ℕ} {carried : PyFloat} {w : Waypoint} (hcarried : Carried A plan dt k carried)
      (hw : plan.waypoints[k]? = some w) (hgoing : ∀ m ≤ n, ¬w.durationS ≤ ticked A dt carried m) :
      Walked A plan dt ⟨k, ticked A dt carried n, false⟩
  | completed : Walked A plan dt ⟨plan.waypoints.length, 0, true⟩

/-- **The loop walks over the waypoints that are over** when it comes to them, until one is not. -/
theorem walked_of_advanceLoop (hloop : plan.loop = false) {fuel k n : ℕ} {carried : PyFloat}
    {w : Waypoint} (hcarried : Carried A plan dt k carried) (hw : plan.waypoints[k]? = some w)
    (hgoing : ∀ m < n, ¬w.durationS ≤ ticked A dt carried m) {next : PlanProgress}
    (hnext : advanceLoop A plan fuel k (ticked A dt carried n) = some next) :
    Walked A plan dt next ∧
      ∀ j, k ≤ j → j < next.waypointIndex → j = k ∧ 0 < n ∨ WalksOver A plan dt j := by
  induction fuel generalizing k n carried w with
  | zero => exact nomatch hnext
  | succ fuel ih =>
    rw [advanceLoop, hw] at hnext
    dsimp only at hnext
    by_cases hcovered : w.durationS ≤ ticked A dt carried n
    · rw [if_pos hcovered, hloop, if_neg Bool.false_ne_true] at hnext
      have hpassed : n = 0 → WalksOver A plan dt k := by
        rintro rfl
        exact ⟨carried, w, hcarried, hw, hcovered⟩
      have hfirst : ∀ j, j = k → j = k ∧ 0 < n ∨ WalksOver A plan dt j := by
        rintro j rfl
        exact (Nat.eq_zero_or_pos n).symm.imp (fun hn => ⟨rfl, hn⟩) hpassed
      have hcarried' := hcarried.next hw hgoing hcovered
      split at hnext
      · next hlast =>
        obtain rfl := Option.some.inj hnext
        refine ⟨.completed, fun j hkj hj => hfirst j ?_⟩
        exact le_antisymm (Nat.lt_succ_iff.mp (hj.trans_le hlast)) hkj
      · next hmore =>
        have hw' := List.getElem?_eq_getElem (not_le.mp hmore)
        obtain ⟨hwalked, hover⟩ :=
          ih (n := 0) hcarried' hw' (fun m hm => absurd hm (Nat.not_lt_zero m)) hnext
        refine ⟨hwalked, fun j hkj hj => ?_⟩
        rcases hkj.eq_or_lt with rfl | hlt
        · exact hfirst k rfl
        · exact Or.inr ((hover j hlt hj).resolve_left fun h => absurd h.2 (lt_irrefl 0))
    · rw [if_neg hcovered] at hnext
      obtain rfl := Option.some.inj hnext
      refine ⟨.going hcarried hw ?_, fun j hkj hj => absurd hj (not_lt.mpr hkj)⟩
      intro m hm
      rcases hm.lt_or_eq with hlt | rfl
      · exact hgoing m hlt
      · exact hcovered

/-- The loop has rounds enough for a plan that does not loop. -/
theorem exists_advanceLoop_rounds (A : Arithmetic) (hloop : plan.loop = false) (k : ℕ)
    (elapsed : PyFloat) : ∃ next, advanceLoop A plan (rounds A plan elapsed) k elapsed = some next := by
  apply exists_advanceLoop_of_not_loop A hloop
  cases A with
  | exact =>
    simp only [rounds]
    omega
  | binary64 =>
    simp only [rounds, Nat.succ_mul]
    omega

/-- **The first tick** walks over the waypoints that take no longer than the tick. -/
theorem advance_initialProgress (hloop : plan.loop = false) (hne : plan.waypoints ≠ [])
    (hdt : ¬dt < 0) :
    ∃ next, advanceProgress A initialProgress plan dt = .ok (some next) ∧ Walked A plan dt next ∧
      ∀ j < next.waypointIndex, WalksOver A plan dt j := by
  have hw := List.getElem?_eq_getElem (List.length_pos_of_ne_nil hne)
  obtain ⟨next, hnext⟩ := exists_advanceLoop_rounds A hloop 0 (A.add 0 dt)
  obtain ⟨hwalked, hover⟩ := walked_of_advanceLoop (n := 0) hloop .first hw
    (fun m hm => absurd hm (Nat.not_lt_zero m)) hnext
  refine ⟨next, ?_, hwalked, fun j hj => ?_⟩
  · rw [advanceProgress, if_neg hdt, if_neg hne]
    exact congrArg Except.ok hnext
  · exact (hover j (Nat.zero_le j) hj).resolve_left fun h => absurd h.2 (lt_irrefl 0)

/-- **A later tick** goes on in the waypoint reached, and walks over the ones after it that are over
when it comes to them. -/
theorem Walked.advance (hloop : plan.loop = false) (hne : plan.waypoints ≠ []) (hdt : ¬dt < 0)
    {progress : PlanProgress} (hwalked : Walked A plan dt progress) :
    ∃ next, advanceProgress A progress plan dt = .ok (some next) ∧ Walked A plan dt next ∧
      ∀ j, progress.waypointIndex < j → j < next.waypointIndex → WalksOver A plan dt j := by
  cases hwalked with
  | completed =>
    refine ⟨_, ?_, .completed, fun j hj hj' => absurd (hj.trans hj') (lt_irrefl _)⟩
    rw [advanceProgress, if_neg hdt, if_neg hne]
    rfl
  | @going k n carried w hcarried hw hgoing =>
    obtain ⟨next, hnext⟩ := exists_advanceLoop_rounds A hloop k (ticked A dt carried (n + 1))
    obtain ⟨hwalked, hover⟩ := walked_of_advanceLoop hloop hcarried hw
      (fun m hm => hgoing m (Nat.lt_succ_iff.mp hm)) hnext
    refine ⟨next, ?_, hwalked, fun j hj hj' => ?_⟩
    · rw [advanceProgress, if_neg hdt, if_neg hne, if_neg Bool.false_ne_true]
      exact congrArg Except.ok hnext
    · exact (hover j hj.le hj').resolve_left fun h => absurd h.1 hj.ne'

/-- A loop that does not wrap around does not go back. -/
theorem le_waypointIndex_of_advanceLoop (hloop : plan.loop = false) {fuel k : ℕ} {elapsed : PyFloat}
    {next : PlanProgress} (hnext : advanceLoop A plan fuel k elapsed = some next) :
    k ≤ next.waypointIndex := by
  induction fuel generalizing k elapsed with
  | zero => exact nomatch hnext
  | succ fuel ih =>
    rw [advanceLoop] at hnext
    cases hget : plan.waypoints[k]? with
    | none =>
      rw [hget] at hnext
      obtain rfl := Option.some.inj hnext
      exact le_rfl
    | some w =>
      rw [hget] at hnext
      dsimp only at hnext
      rw [hloop] at hnext
      split at hnext
      · split at hnext
        · obtain rfl := Option.some.inj hnext
          exact (List.getElem?_eq_some_iff.mp hget).1.le
        · exact (Nat.le_succ k).trans (ih hnext)
      · obtain rfl := Option.some.inj hnext
        exact le_rfl

end Walk

/-! ## Which waypoints a run publishes -/

section Run

variable {A : Arithmetic} {params : Params} {plan : WaypointPlan} {publishRateHz : PyFloat}
  {h pre : List Input} {i : Input} {k : ℕ}

/-- A waypoint that catches a tick is not walked over. -/
theorem CatchesTick.not_walksOver (hcatches : CatchesTick A plan publishRateHz k) :
    ¬WalksOver A plan (tickLength A publishRateHz) k := by
  rintro ⟨carried, w, hcarried, hw, hcovered⟩
  obtain ⟨carried', w', hcarried', hw', hgoing⟩ := hcatches
  rw [hcarried.unique hcarried', Option.some.inj (hw.symm.trans hw')] at hcovered
  exact hgoing hcovered

/-- What has been published stays so. -/
theorem Emits.concat (hemits : Emits A params plan publishRateHz k h) (i : Input) :
    Emits A params plan publishRateHz k (h ++ [i]) := by
  obtain ⟨pre, j, post, rfl, hat⟩ := hemits
  exact ⟨pre, j, post ++ [i], by rw [List.append_assoc, List.cons_append], hat⟩

/-- **A tick that leaves the plan in a waypoint publishes it.** -/
theorem emitsAt_of_walked (hopens : opens ((machine A params plan publishRateHz).after h) i = true)
    {next : PlanProgress}
    (hnext : advanceProgress A ((machine A params plan publishRateHz).after h).progress plan
      (tickLength A publishRateHz) = .ok (some next))
    (hwalked : Walked A plan (tickLength A publishRateHz) next) {w : Waypoint}
    (hw : plan.waypoints[next.waypointIndex]? = some w) :
    EmitsAt A params plan publishRateHz next.waypointIndex h i := by
  have hstep := next_of_opens hopens hnext
  refine ⟨by rw [Machine.after_concat, Machine.next, hstep], w, hw, ?_⟩
  have hgoing : ¬(next.completed = true ∨ plan.waypoints = []) := by
    cases hwalked with
    | going => exact not_or.mpr ⟨Bool.false_ne_true, List.ne_nil_of_mem (List.mem_of_getElem? hw)⟩
    | completed =>
      rw [List.getElem?_eq_none le_rfl] at hw
      exact absurd hw (Option.some_ne_none w).symm
  rw [Machine.out, hstep, currentCommand, if_neg hgoing, hw]
  rfl

/-- What a run of a plan that does not loop has done: the plan is at its start, or is where the ticks
have brought it and the run has published the waypoints so far that caught one. -/
def Published (A : Arithmetic) (params : Params) (plan : WaypointPlan) (publishRateHz : PyFloat)
    (h : List Input) : Prop :=
  let progress := ((machine A params plan publishRateHz).after h).progress
  progress = initialProgress ∧ openTicks A params plan publishRateHz h = 0 ∨
    Walked A plan (tickLength A publishRateHz) progress ∧ ∀ k ≤ progress.waypointIndex,
      CatchesTick A plan publishRateHz k → Emits A params plan publishRateHz k h

/-- One open tick, from a progress up to which the waypoints that caught a tick are published. -/
theorem published_of_opens {next : PlanProgress}
    (hopens : opens ((machine A params plan publishRateHz).after h) i = true)
    (hnext : advanceProgress A ((machine A params plan publishRateHz).after h).progress plan
      (tickLength A publishRateHz) = .ok (some next))
    (hwalked : Walked A plan (tickLength A publishRateHz) next)
    (hearlier : ∀ k < next.waypointIndex, CatchesTick A plan publishRateHz k →
      Emits A params plan publishRateHz k h) :
    Published A params plan publishRateHz (h ++ [i]) := by
  have hprogress : ((machine A params plan publishRateHz).after (h ++ [i])).progress = next := by
    rw [Machine.after_concat, Machine.next, next_of_opens hopens hnext]
  refine Or.inr ⟨by rw [hprogress]; exact hwalked, ?_⟩
  rw [hprogress]
  intro k hk hcatches
  rcases hk.lt_or_eq with hlt | rfl
  · exact (hearlier k hlt hcatches).concat i
  · obtain ⟨carried, w, -, hw, -⟩ := hcatches
    exact ⟨h, i, [], rfl, emitsAt_of_walked hopens hnext hwalked hw⟩

/-- **The rule for a run**, by induction on its inputs. -/
theorem published_after (A : Arithmetic) (params : Params) (publishRateHz : PyFloat)
    (hloop : plan.loop = false) (hne : plan.waypoints ≠ []) (h : List Input) :
    Published A params plan publishRateHz h := by
  have hdt := not_tickLength_lt_zero A publishRateHz
  induction h using List.reverseRecOn with
  | nil => exact Or.inl ⟨rfl, rfl⟩
  | append_singleton h i ih =>
    cases hopens : opens ((machine A params plan publishRateHz).after h) i with
    | false =>
      unfold Published
      rw [progress_of_not_opens hopens, openTicks_of_not_opens hopens]
      exact ih.imp_right fun hold => ⟨hold.1, fun k hk hcatches => (hold.2 k hk hcatches).concat i⟩
    | true =>
      rcases ih with ⟨hstart, -⟩ | ⟨hwalked, hemitted⟩
      · obtain ⟨next, hnext, hwalked, hover⟩ := advance_initialProgress (A := A) hloop hne hdt
        rw [← hstart] at hnext
        refine published_of_opens hopens hnext hwalked ?_
        exact fun k hk hcatches => absurd (hover k hk) hcatches.not_walksOver
      · obtain ⟨next, hnext, hwalked', hover⟩ := hwalked.advance hloop hne hdt
        refine published_of_opens hopens hnext hwalked' fun k hk hcatches => ?_
        by_contra hnot
        have hlater : ¬k ≤ _ := fun hle => hnot (hemitted k hle hcatches)
        exact hcatches.not_walksOver (hover k (not_le.mp hlater) hk)

/-- An input that publishes is a tick on which the gate is open. -/
theorem opens_of_emitsAt (hemits : EmitsAt A params plan publishRateHz k pre i) :
    opens ((machine A params plan publishRateHz).after pre) i = true := by
  obtain ⟨w, -, hout⟩ := hemits.published
  by_contra hclosed
  rw [out_of_not_opens (Bool.eq_false_of_not_eq_true hclosed)] at hout
  exact nomatch hout

/-- **A waypoint that is published catches a tick.** -/
theorem catchesTick_of_emitsAt (hloop : plan.loop = false)
    (hemits : EmitsAt A params plan publishRateHz k pre i) : CatchesTick A plan publishRateHz k := by
  obtain ⟨w, hw, -⟩ := hemits.published
  have hne : plan.waypoints ≠ [] := List.ne_nil_of_mem (List.mem_of_getElem? hw)
  have hindex := hemits.index
  rcases published_after A params publishRateHz hloop hne (pre ++ [i]) with ⟨-, hzero⟩ | ⟨hwalked, -⟩
  · rw [openTicks_of_opens (opens_of_emitsAt hemits)] at hzero
    exact absurd hzero (Nat.succ_ne_zero _)
  · generalize ((machine A params plan publishRateHz).after (pre ++ [i])).progress = progress at *
    cases hwalked with
    | completed =>
      rw [← hindex, List.getElem?_eq_none le_rfl] at hw
      exact nomatch hw
    | going hcarried hw' hgoing =>
      obtain rfl := hindex
      exact ⟨_, _, hcarried, hw', hgoing 0 (Nat.zero_le _)⟩

/-- The plan does not go back at an input. -/
theorem waypointIndex_le_concat (hloop : plan.loop = false) (hne : plan.waypoints ≠ []) (i : Input) :
    ((machine A params plan publishRateHz).after h).progress.waypointIndex ≤
      ((machine A params plan publishRateHz).after (h ++ [i])).progress.waypointIndex := by
  cases hopens : opens ((machine A params plan publishRateHz).after h) i with
  | false => rw [progress_of_not_opens hopens]
  | true =>
    obtain ⟨outcome, hcall⟩ := exists_advanceProgress_ok A
      ((machine A params plan publishRateHz).after h).progress plan
      (not_tickLength_lt_zero A publishRateHz)
    cases outcome with
    | none => rw [Machine.after_concat, Machine.next, next_of_stuck hopens hcall]
    | some next =>
      rw [Machine.after_concat, Machine.next, next_of_opens hopens hcall]
      rw [advanceProgress, if_neg (not_tickLength_lt_zero A publishRateHz), if_neg hne] at hcall
      split at hcall
      · obtain rfl := Option.some.inj (Except.ok.inj hcall)
        exact le_rfl
      · exact le_waypointIndex_of_advanceLoop hloop (Except.ok.inj hcall)

/-- Nor along a history. -/
theorem waypointIndex_mono (A : Arithmetic) (params : Params) (publishRateHz : PyFloat)
    (hloop : plan.loop = false) (hne : plan.waypoints ≠ []) (pre post : List Input) :
    ((machine A params plan publishRateHz).after pre).progress.waypointIndex ≤
      ((machine A params plan publishRateHz).after (pre ++ post)).progress.waypointIndex := by
  induction post using List.reverseRecOn with
  | nil => rw [List.append_nil]
  | append_singleton post i ih =>
    rw [← List.append_assoc]
    exact ih.trans (waypointIndex_le_concat hloop hne i)

end Run

/-- **A completed run has published every waypoint exactly if each of them catches a tick**: for
every plan that does not loop, every publish rate and every run that completes the plan, whatever the
arithmetic. -/
theorem emitted_iff (A : Arithmetic) (params : Params) (plan : WaypointPlan) (publishRateHz : PyFloat)
    (h : List Input) (hloop : plan.loop = false)
    (hdone : ((machine A params plan publishRateHz).after h).progress.completed = true) :
    EmitsEach A params plan publishRateHz h ↔
      ∀ k < plan.waypoints.length, CatchesTick A plan publishRateHz k := by
  by_cases hne : plan.waypoints = []
  · refine iff_of_true ⟨?_, ?_⟩ ?_
    · intro k hk
      rw [hne] at hk
      exact absurd hk (Nat.not_lt_zero k)
    · rintro j k pre i mid i' post - ⟨-, waypoint, hw, -⟩
      rw [hne] at hw
      exact nomatch hw
    · intro k hk
      rw [hne] at hk
      exact absurd hk (Nat.not_lt_zero k)
  constructor
  · rintro ⟨heach, -⟩ k hk
    obtain ⟨pre, i, post, -, hemits⟩ := heach k hk
    exact catchesTick_of_emitsAt hloop hemits
  · intro hcatches
    constructor
    · intro k hk
      rcases published_after A params publishRateHz hloop hne h with ⟨hstart, -⟩ | ⟨hwalked, hemitted⟩
      · rw [hstart] at hdone
        exact absurd hdone Bool.false_ne_true
      · -- the plan is at its end, past every waypoint
        refine hemitted k ?_ (hcatches k hk)
        generalize ((machine A params plan publishRateHz).after h).progress = progress at hwalked hdone
        cases hwalked with
        | going => exact absurd hdone Bool.false_ne_true
        | completed => exact hk.le
    · intro j k pre i mid i' post _ hearlier hlater
      have hmono := waypointIndex_mono A params publishRateHz hloop hne (pre ++ [i]) (mid ++ [i'])
      have hsplit : pre ++ [i] ++ (mid ++ [i']) = pre ++ i :: mid ++ [i'] := by
        simp only [List.append_assoc, List.cons_append, List.nil_append]
      rw [hsplit, hearlier.index, hlater.index] at hmono
      exact hmono

/-- The example plan at one tick a second: every waypoint takes longer than the time carried into it,
which is 1 s, nothing and 0.5 s. -/
theorem emitted_example :
    EmitsEach .binary64 { enabled := true } examplePlan (.fin 1)
      [⟨0, .modeState { activeMode := ModeState.modeAiPolicy }⟩,
        ⟨0, .safetyState { state := SafetyState.stateOk }⟩, ⟨1, .tick⟩, ⟨2, .tick⟩, ⟨3, .tick⟩,
        ⟨4, .tick⟩, ⟨5, .tick⟩] := by
  apply (emitted_iff .binary64 { enabled := true } examplePlan (.fin 1) _ rfl (by decide +kernel)).mpr
  intro k hk
  have hk3 : k < 3 := hk
  have hfirst : Carried .binary64 examplePlan (tickLength .binary64 (.fin 1)) 0 _ := .first
  have hsecond := hfirst.next (n := 1) rfl (by decide +kernel) (by decide +kernel)
  have hthird := hsecond.next (n := 2) rfl (by decide +kernel) (by decide +kernel)
  interval_cases k
  · exact ⟨_, _, hfirst, rfl, by decide +kernel⟩
  · exact ⟨_, _, hsecond, rfl, by decide +kernel⟩
  · exact ⟨_, _, hthird, rfl, by decide +kernel⟩

/-! ## Slots of time -/

section Exact

variable {plan : WaypointPlan} {schedule : Schedule ℚ} {dt : ℚ} {k : ℕ}

/-- In exact arithmetic the time that has elapsed is a sum. -/
theorem ticked_exact (dt elapsed : ℚ) (n : ℕ) :
    ticked .exact (.fin dt) (.fin elapsed) n = .fin (elapsed + n * dt) := by
  induction n with
  | zero => rw [ticked, Nat.cast_zero, zero_mul, add_zero]
  | succ n ih => rw [ticked, ih, Arithmetic.exact_add_fin, Nat.cast_succ, add_mul, one_mul, add_assoc]

/-- **The time carried into a waypoint** is the time since it began, at the first tick from then on. -/
theorem exists_tick_of_carried (hplan : plan.Follows schedule) (hdt : 0 ≤ dt) {carried : PyFloat}
    (hcarried : Carried .exact plan (.fin dt) k carried) :
    ∃ n : ℕ, 0 < n ∧ carried = .fin (n * dt - schedule.start k) ∧ schedule.start k ≤ n * dt ∧
      ∀ m : ℕ, 0 < m → m < n → m * dt < schedule.start k := by
  induction hcarried with
  | first =>
    refine ⟨1, one_pos, ?_, ?_, fun m hm hm1 => absurd hm1 (not_lt.mpr hm)⟩
    · show PyFloat.fin (0 + dt) = _
      rw [schedule.start_zero, Nat.cast_one, one_mul, sub_zero, zero_add]
    · rw [schedule.start_zero, Nat.cast_one, one_mul]
      exact hdt
  | @next k n carried w _ hw hgoing hcovered ih =>
    obtain ⟨n₀, hpos, rfl, hstarted, hbefore⟩ := ih
    have hk : k < schedule.durations.length := by
      rw [hplan.length]
      exact (List.getElem?_eq_some_iff.mp hw).1
    have hd := hplan.duration hw hk
    have hstart := schedule.start_succ hk
    rw [hd, ticked_exact] at hcovered ⊢
    have hover := PyFloat.fin_le_fin.mp hcovered
    have htime : ((n₀ + n : ℕ) : ℚ) * dt = n₀ * dt + n * dt := by rw [Nat.cast_add, add_mul]
    refine ⟨n₀ + n, Nat.add_pos_left hpos n, ?_, ?_, fun m hm hlt => ?_⟩
    · rw [Arithmetic.exact_sub_fin, hstart, htime]
      congr 1
      ring
    · rw [hstart, htime]
      linarith
    · -- before the first sum that covers the waypoint, it is not over
      by_cases hm₀ : m < n₀
      · exact (hbefore m hm hm₀).trans_le (schedule.start_mono (Nat.le_succ k))
      · obtain ⟨j, rfl⟩ := Nat.exists_eq_add_of_le (not_lt.mp hm₀)
        have hgoing' := hgoing j (by omega)
        rw [hd, ticked_exact] at hgoing'
        have hless := not_le.mp (mt PyFloat.fin_le_fin.mpr hgoing')
        rw [hstart, Nat.cast_add, add_mul]
        linarith

/-- The plan comes to every waypoint that has begun at some tick. -/
theorem exists_carried (hplan : plan.Follows schedule) (hdt : 0 ≤ dt) {n : ℕ} (hn : 0 < n)
    (hk : k ≤ schedule.durations.length) (hstarted : schedule.start k ≤ n * dt) :
    ∃ carried, Carried .exact plan (.fin dt) k carried := by
  induction k with
  | zero => exact ⟨_, .first⟩
  | succ k ih =>
    have hk' : k < schedule.durations.length := hk
    have hearlier := (schedule.start_mono (Nat.le_succ k)).trans hstarted
    obtain ⟨carried, hcarried⟩ := ih hk'.le hearlier
    obtain ⟨n₀, -, rfl, -, hbefore⟩ := exists_tick_of_carried hplan hdt hcarried
    obtain ⟨w, hw⟩ := hplan.getElem?_eq_some hk'
    have hle : n₀ ≤ n := by
      by_contra hlt
      exact absurd hearlier (not_le.mpr (hbefore n hn (not_le.mp hlt)))
    have hcovered : ∃ j : ℕ,
        w.durationS ≤ ticked .exact (.fin dt) (.fin (n₀ * dt - schedule.start k)) j := by
      refine ⟨n - n₀, ?_⟩
      rw [hplan.duration hw hk', ticked_exact, PyFloat.fin_le_fin, Nat.cast_sub hle]
      rw [schedule.start_succ hk'] at hstarted
      linarith
    classical
    exact ⟨_, hcarried.next hw (fun m hm => Nat.find_min hcovered hm) (Nat.find_spec hcovered)⟩

/-- **In exact arithmetic a waypoint catches a tick if some tick falls into its slot**, the first one at
the time `dt`. -/
theorem catchesTick_exact_iff {publishRateHz : PyFloat} (hplan : plan.Follows schedule)
    (hdt : tickLength .exact publishRateHz = .fin dt) (hk : k < plan.waypoints.length) :
    CatchesTick .exact plan publishRateHz k ↔ ∃ n : ℕ, 0 < n ∧ schedule.Runs k (n * dt) := by
  have hnonneg := tickLength_nonneg hdt
  have hk' : k < schedule.durations.length := by rwa [hplan.length]
  rw [CatchesTick, hdt]
  constructor
  · rintro ⟨carried, w, hcarried, hw, hgoing⟩
    obtain ⟨n, hpos, rfl, hstarted, -⟩ := exists_tick_of_carried hplan hnonneg hcarried
    rw [hplan.duration hw hk'] at hgoing
    have hless := not_le.mp (mt PyFloat.fin_le_fin.mpr hgoing)
    refine ⟨n, hpos, hk', hstarted, ?_⟩
    rw [schedule.start_succ hk']
    linarith
  · rintro ⟨n, hpos, hruns⟩
    obtain ⟨carried, hcarried⟩ := exists_carried hplan hnonneg hpos hk'.le hruns.started
    obtain ⟨n₀, -, rfl, -, hbefore⟩ := exists_tick_of_carried hplan hnonneg hcarried
    obtain ⟨w, hw⟩ := hplan.getElem?_eq_some hk'
    refine ⟨_, w, hcarried, hw, ?_⟩
    rw [hplan.duration hw hk', PyFloat.fin_le_fin, not_le]
    -- the tick that falls into the slot is not before the one that the plan comes at
    have hle : n₀ ≤ n := by
      by_contra hlt
      exact absurd hruns.started (not_le.mpr (hbefore n hpos (not_le.mp hlt)))
    have hcast : (n₀ : ℚ) ≤ n := by exact_mod_cast hle
    have hearlier := mul_le_mul_of_nonneg_right hcast hnonneg
    have hgoing := hruns.going
    rw [schedule.start_succ hk'] at hgoing
    linarith

/-- Rounding decides: at 10 Hz a waypoint of 0.0625 s after one of 1 s is walked over in binary64, where
ten ticks take less than a second and the eleventh comes 0.0999… s after it. In exact arithmetic the
tenth tick falls into its slot. -/
example :
    let plan : WaypointPlan := ⟨[⟨0, 0, .fin 1⟩, ⟨0, 0, .fin (1 / 16)⟩, ⟨0, 0, .fin (1 / 4)⟩], false⟩
    CatchesTick .exact plan (.fin 10) 1 ∧
      WalksOver .binary64 plan (tickLength .binary64 (.fin 10)) 1 := by
  constructor
  · exact ⟨_, _, Carried.first.next (n := 9) rfl (by decide +kernel) (by decide +kernel), rfl,
      by decide +kernel⟩
  · exact ⟨_, _, Carried.first.next (n := 10) rfl (by decide +kernel) (by decide +kernel), rfl,
      by decide +kernel⟩

end Exact

/-- A plan that begins with a waypoint of 0.0625 s. -/
def briefPlan : WaypointPlan where
  waypoints := [⟨.fin (1 / 8), .fin 0, .fin (1 / 16)⟩, ⟨.fin 0, .fin (1 / 4), .fin (1 / 4)⟩]

/-- **A waypoint that is walked over.** At the default rate of 10 Hz the first tick comes when the
first waypoint is over; the plan completes, and that waypoint was not published. -/
theorem not_emitsEach :
    ((machine .binary64 { enabled := true } briefPlan (.fin 10)).after
        [⟨0, .modeState { activeMode := ModeState.modeAiPolicy }⟩,
          ⟨0, .safetyState { state := SafetyState.stateOk }⟩, ⟨1, .tick⟩, ⟨2, .tick⟩, ⟨3, .tick⟩,
          ⟨4, .tick⟩]).progress.completed = true ∧
      ¬EmitsEach .binary64 { enabled := true } briefPlan (.fin 10)
        [⟨0, .modeState { activeMode := ModeState.modeAiPolicy }⟩,
          ⟨0, .safetyState { state := SafetyState.stateOk }⟩, ⟨1, .tick⟩, ⟨2, .tick⟩, ⟨3, .tick⟩,
          ⟨4, .tick⟩] := by
  refine ⟨by decide +kernel, ?_⟩
  rintro ⟨heach, -⟩
  obtain ⟨pre, i, post, -, hemits⟩ := heach 0 (by decide)
  have hloop : briefPlan.loop = false := rfl
  have hcatches := catchesTick_of_emitsAt hloop hemits
  exact hcatches.not_walksOver ⟨_, _, .first, rfl, by decide +kernel⟩

end HumaWare.PolicyProvider.Scripted
