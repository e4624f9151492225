import HumaWare.PolicyProvider.Plan
import HumaWare.Python.Loop
import Mathlib.Data.Finset.Prod

/-! # The rounds are enough

In binary64 the loop of `advance_progress` need not stop: a looping plan whose durations are all too
short to change the time left when they are subtracted goes round for ever. The time left never grows,
and there are finitely many floats below it, so the rounds given to the loop tell the two cases apart.

* **`advanceRound`** — one round of the loop, as a step of a `Loop`;
* **`stays_of_advanceRound`** — the time left stays among the floats up to where it was;
* **`advanceLoop_rounds`** — a loop that has not stopped after the rounds given to it never stops. -/

namespace HumaWare.PolicyProvider

open Python

/-- One round of the loop: the index and the time left after it, or `none` when it stops. -/
def advanceRound (A : Arithmetic) (plan : WaypointPlan) (place : ℕ × PyFloat) : Option (ℕ × PyFloat) :=
  match plan.waypoints[place.1]? with
  | none => none
  | some waypoint =>
    if waypoint.durationS ≤ place.2 then
      if plan.waypoints.length ≤ place.1 + 1 then
        if plan.loop then some (0, A.sub place.2 waypoint.durationS) else none
      else some (place.1 + 1, A.sub place.2 waypoint.durationS)
    else none

/-- The loop has not stopped exactly if its rounds have not. -/
theorem advanceLoop_eq_none_iff {A : Arithmetic} {plan : WaypointPlan} {fuel index : ℕ}
    {elapsed : PyFloat} : advanceLoop A plan fuel index elapsed = none ↔
      loopFor (advanceRound A plan) fuel (index, elapsed) ≠ none := by
  induction fuel generalizing index elapsed with
  | zero => exact iff_of_true rfl (Option.some_ne_none _)
  | succ fuel ih =>
    rw [advanceLoop, loopFor, advanceRound]
    cases plan.waypoints[index]? with
    | none => exact iff_of_false (Option.some_ne_none _) fun h => h rfl
    | some waypoint =>
      dsimp only
      split
      · split
        · split
          · exact ih
          · exact iff_of_false (Option.some_ne_none _) fun h => h rfl
        · exact ih
      · exact iff_of_false (Option.some_ne_none _) fun h => h rfl

/-- A round goes on only within the plan, after a duration that the time covers. -/
theorem exists_of_advanceRound {A : Arithmetic} {plan : WaypointPlan} {place next : ℕ × PyFloat}
    (hround : advanceRound A plan place = some next) :
    ∃ waypoint ∈ plan.waypoints, waypoint.durationS ≤ place.2 ∧
      next.1 < plan.waypoints.length ∧ next.2 = A.sub place.2 waypoint.durationS := by
  unfold advanceRound at hround
  cases hget : plan.waypoints[place.1]? with
  | none =>
    rw [hget] at hround
    exact nomatch hround
  | some waypoint =>
    rw [hget] at hround
    have hmem := List.mem_of_getElem? hget
    dsimp only at hround
    split at hround
    · next hcovered =>
      split at hround
      · split at hround
        · rw [← Option.some.inj hround]
          exact ⟨waypoint, hmem, hcovered, List.length_pos_of_mem hmem, rfl⟩
        · exact nomatch hround
      · next hmore =>
        rw [← Option.some.inj hround]
        exact ⟨waypoint, hmem, hcovered, not_le.mp hmore, rfl⟩
    · exact nomatch hround

/-- The floats that the time left can be, when it was `elapsed`. -/
def Left : PyFloat → PyFloat → Prop
  | .fin elapsed, left => ∃ q : ℚ, left = .fin q ∧ IsBinary64 q ∧ 0 ≤ q ∧ q ≤ elapsed
  | .posInf, left => left = .posInf ∨ left = .nan
  | _, _ => False

/-- A result of the operations is a float, if it is finite. -/
theorem isBinary64_of_add {a b : PyFloat} {q : ℚ} (h : Arithmetic.binary64.add a b = .fin q) :
    IsBinary64 q ∧ q < 2 ^ 1024 := by
  have hround : ∀ {x : ℚ}, Arithmetic.binary64.round x = .fin q → IsBinary64 q ∧ q < 2 ^ 1024 := by
    intro x h
    rw [Arithmetic.round] at h
    split at h
    · next hsmall =>
      rw [← PyFloat.fin.inj h]
      exact ⟨isBinary64_nearest _, (abs_lt.mp hsmall).2⟩
    · split at h <;> cases h
  cases a with
  | fin a =>
    cases b with
    | fin b => exact hround h
    | nan | negInf | posInf => cases h
  | nan => cases h
  | negInf | posInf => cases b <;> cases h

/-- **The time left stays among the floats up to where it was.** -/
theorem stays_of_advanceRound {plan : WaypointPlan} (hplan : plan.Accepted) {elapsed : PyFloat}
    (hbig : ∀ q, elapsed = .fin q → q < 2 ^ 1024) {place next : ℕ × PyFloat}
    (hleft : Left elapsed place.2) (hround : advanceRound .binary64 plan place = some next) :
    next.1 < plan.waypoints.length ∧ Left elapsed next.2 := by
  obtain ⟨waypoint, hmem, hcovered, hindex, hnext⟩ := exists_of_advanceRound hround
  refine ⟨hindex, ?_⟩
  rw [hnext]
  cases elapsed with
  | nan => exact hleft.elim
  | negInf => exact hleft.elim
  | posInf =>
    rcases hleft with hinf | hnan
    · rw [hinf] at hcovered ⊢
      cases hd : waypoint.durationS with
      | nan => exact Or.inr rfl
      | negInf => exact Or.inl rfl
      | fin d => exact Or.inl rfl
      | posInf => exact Or.inr rfl
    · rw [hnan] at hcovered
      exact absurd hcovered (PyFloat.not_le_nan _)
  | fin elapsed =>
    obtain ⟨q, hq, hfloat, -, hle⟩ := hleft
    rw [hq] at hcovered ⊢
    obtain ⟨d, hd, hpos, hdq⟩ := exists_duration (hplan waypoint hmem) hcovered
    have hrest : 0 ≤ q + -d := by linarith
    have hless : nearest (q + -d) ≤ q := nearest_le hfloat hrest (by linarith)
    have hnonneg := nearest_nonneg hrest
    have hsmall : |nearest (q + -d)| < 2 ^ 1024 := by
      rw [abs_of_nonneg hnonneg]
      exact (hless.trans hle).trans_lt (hbig elapsed rfl)
    refine ⟨nearest (q + -d), ?_, isBinary64_nearest _, hnonneg, hless.trans hle⟩
    rw [hd]
    exact if_pos hsmall

/-- A time with which the loop goes on is one of them. -/
theorem left_of_advanceRound {plan : WaypointPlan} (hplan : plan.Accepted) {elapsed : PyFloat}
    (hfloat : ∀ q, elapsed = .fin q → IsBinary64 q) {index : ℕ} {next : ℕ × PyFloat}
    (hround : advanceRound .binary64 plan (index, elapsed) = some next) : Left elapsed elapsed := by
  obtain ⟨waypoint, hmem, hcovered, -⟩ := exists_of_advanceRound hround
  cases elapsed with
  | nan => exact absurd hcovered (PyFloat.not_le_nan _)
  | negInf =>
    have hpositive := hplan waypoint hmem
    cases hd : waypoint.durationS with
    | negInf =>
      rw [hd] at hpositive
      exact absurd rfl hpositive
    | nan | fin d | posInf =>
      rw [hd] at hcovered
      exact absurd hcovered Bool.false_ne_true
  | posInf => exact Or.inl rfl
  | fin q =>
    obtain ⟨d, -, hpos, hle⟩ := exists_duration (hplan waypoint hmem) hcovered
    exact ⟨q, rfl, hfloat q rfl, (hpos.trans_le hle).le, le_rfl⟩

/-- The floats that the time left can be are as many as the grains of the time, and one. -/
theorem exists_finset_left (elapsed : PyFloat) :
    ∃ S : Finset PyFloat, (∀ left, Left elapsed left → left ∈ S) ∧ S.card ≤ grains elapsed + 1 := by
  cases elapsed with
  | nan => exact ⟨∅, fun _ h => h.elim, Nat.zero_le _⟩
  | negInf => exact ⟨∅, fun _ h => h.elim, Nat.zero_le _⟩
  | posInf =>
    refine ⟨{.posInf, .nan}, ?_, by decide⟩
    rintro left (rfl | rfl)
    · decide
    · decide
  | fin elapsed =>
    refine ⟨(Finset.range (grains (.fin elapsed) + 1)).image fun m : ℕ =>
      .fin (m * 2 ^ (-1074 : ℤ)), ?_, Finset.card_image_le.trans_eq (Finset.card_range _)⟩
    rintro _ ⟨q, rfl, ⟨m, hm⟩, hnonneg, hle⟩
    obtain ⟨m', hm'⟩ := exists_mul_zpow (show -1074 ≤ lastPlace q from le_max_right _ _) m
    have hq : q = m' * 2 ^ (-1074 : ℤ) := hm.trans hm'
    have hgrain : (0 : ℚ) < 2 ^ (-1074 : ℤ) := zpow_pos two_pos _
    have hm'_nonneg : 0 ≤ m' := by
      have hprod := hq ▸ hnonneg
      exact_mod_cast nonneg_of_mul_nonneg_left hprod hgrain
    obtain ⟨n, rfl⟩ := Int.eq_ofNat_of_zero_le hm'_nonneg
    have hcancel : (2 : ℚ) ^ (-1074 : ℤ) * 2 ^ 1074 = 1 := by
      rw [zpow_neg]
      exact inv_mul_cancel₀ (zpow_ne_zero _ two_ne_zero)
    refine Finset.mem_image.mpr ⟨n, Finset.mem_range.mpr (Nat.lt_succ_iff.mpr (Nat.le_floor ?_)), ?_⟩
    · have hscaled := mul_le_mul_of_nonneg_right hle (pow_nonneg zero_le_two 1074 : (0 : ℚ) ≤ 2 ^ 1074)
      rw [hq, mul_assoc, hcancel, mul_one] at hscaled
      exact_mod_cast hscaled
    · rw [hq]
      rfl

/-- **The rounds are enough.** On an accepted plan, a loop in binary64 that has not stopped after the
rounds given to it never stops. -/
theorem advanceLoop_rounds {plan : WaypointPlan} (hplan : plan.Accepted) (a b : PyFloat) (index : ℕ)
    (hnone : advanceLoop .binary64 plan (rounds .binary64 plan (Arithmetic.binary64.add a b)) index
      (Arithmetic.binary64.add a b) = none) (fuel : ℕ) :
    advanceLoop .binary64 plan fuel index (Arithmetic.binary64.add a b) = none := by
  classical
  have hfloat : ∀ q, Arithmetic.binary64.add a b = .fin q → IsBinary64 q ∧ q < 2 ^ 1024 :=
    fun q => isBinary64_of_add
  generalize Arithmetic.binary64.add a b = elapsed at hnone hfloat ⊢
  rw [advanceLoop_eq_none_iff] at hnone ⊢
  cases fuel with
  | zero => exact Option.some_ne_none _
  | succ fuel =>
    rw [rounds, loopFor] at hnone
    rw [loopFor]
    cases hfirst : advanceRound .binary64 plan (index, elapsed) with
    | none =>
      rw [hfirst] at hnone
      exact absurd rfl hnone
    | some next =>
      rw [hfirst] at hnone
      have hleft := stays_of_advanceRound hplan (fun q hq => (hfloat q hq).2)
        (left_of_advanceRound hplan (fun q hq => (hfloat q hq).1) hfirst) hfirst
      obtain ⟨S, hS, hcard⟩ := exists_finset_left elapsed
      -- the places that the loop can come to from here on
      let places := (Finset.range plan.waypoints.length ×ˢ S).filter fun place => Left elapsed place.2
      have hplaces : ∀ {place : ℕ × PyFloat}, place ∈ places ↔
          place.1 < plan.waypoints.length ∧ Left elapsed place.2 := by
        intro place
        rw [Finset.mem_filter, Finset.mem_product, Finset.mem_range]
        exact ⟨fun h => ⟨h.1.1, h.2⟩, fun h => ⟨⟨h.1, hS _ h.2⟩, h.2⟩⟩
      refine loopFor_ne_none (S := places) ?_ (hplaces.mpr hleft) ?_ hnone fuel
      · intro place hplace next' hround
        exact hplaces.mpr (stays_of_advanceRound hplan (fun q hq => (hfloat q hq).2)
          (hplaces.mp hplace).2 hround)
      · refine (Finset.card_filter_le _ _).trans ?_
        rw [Finset.card_product, Finset.card_range, Nat.mul_comm]
        exact Nat.mul_le_mul_right _ hcard

/-- **When a call of `advance_progress` does not return.** On an accepted plan, in binary64: the loop
that it runs does not stop after any number of rounds. -/
theorem advanceProgress_eq_none {plan : WaypointPlan} (hplan : plan.Accepted) {progress : PlanProgress}
    {dt : PyFloat} (hnone : advanceProgress .binary64 progress plan dt = .ok none) (fuel : ℕ) :
    advanceLoop .binary64 plan fuel progress.waypointIndex
      (Arithmetic.binary64.add progress.elapsedInWaypointS dt) = none := by
  unfold advanceProgress at hnone
  split at hnone
  · cases hnone
  split at hnone
  · cases hnone
  split at hnone
  · cases hnone
  · exact advanceLoop_rounds hplan _ _ _ (Except.ok.inj hnone) fuel

end HumaWare.PolicyProvider
