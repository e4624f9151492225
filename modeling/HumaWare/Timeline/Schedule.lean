import Mathlib.Algebra.BigOperators.Group.List.Basic
import Mathlib.Algebra.Order.BigOperators.Group.List
import Mathlib.Algebra.Order.Floor.Ring
import Mathlib.Tactic.ByContra

/-! # Schedules

A *schedule* is a sequence of slots that follow each other without a gap, each of a positive
duration. At any time at most one slot runs; a schedule that is repeated is read at the time that
has passed since its last repetition began.

* **`Schedule.start`** — when a slot begins, as a prefix sum, with `start_succ` for the next one;
* **`Schedule.Runs.unique`** — at most one slot runs;
* **`lap`** — the time since the last repetition began: `lap_of_lt` within the first one,
  `lap_sub_self` over one repetition, and `lap_lap_add`, by which times may be added lap by lap. -/

namespace Timeline

/-- Slots that follow each other, each of a positive duration. -/
structure Schedule (α : Type*) [Zero α] [LT α] where
  durations : List α
  pos : ∀ d ∈ durations, 0 < d

namespace Schedule

variable {α : Type*} [AddCommGroup α] [LinearOrder α] (S : Schedule α)

/-- When slot `k` begins. -/
def start (k : ℕ) : α := (S.durations.take k).sum

/-- How long the schedule takes. -/
def total : α := S.durations.sum

/-- Slot `k` runs at the time `t`. -/
structure Runs (k : ℕ) (t : α) : Prop where
  lt : k < S.durations.length
  started : S.start k ≤ t
  going : t < S.start (k + 1)

/-- The first entry starts at zero. -/
@[simp] theorem start_zero : S.start 0 = 0 := rfl

/-- A slot begins when the one before it ends. -/
theorem start_succ {k : ℕ} (hk : k < S.durations.length) :
    S.start (k + 1) = S.start k + S.durations[k] := List.sum_take_succ _ _ hk

/-- Past the last slot, the schedule is over. -/
theorem start_of_length_le {k : ℕ} (hk : S.durations.length ≤ k) : S.start k = S.total := by
  rw [start, List.take_of_length_le hk, total]

section Order

variable [IsOrderedAddMonoid α]

/-- Later entries start later. -/
theorem start_mono {j k : ℕ} (hjk : j ≤ k) : S.start j ≤ S.start k := by
  induction k, hjk using Nat.le_induction with
  | base => exact le_rfl
  | succ k hjk ih =>
    by_cases hk : k < S.durations.length
    · rw [S.start_succ hk]
      exact ih.trans (le_add_of_nonneg_right (S.pos _ (List.getElem_mem hk)).le)
    · have hlength := not_lt.mp hk
      rw [S.start_of_length_le (hlength.trans (Nat.le_succ k)), ← S.start_of_length_le hlength]
      exact ih

/-- No entry starts before zero. -/
theorem start_nonneg (k : ℕ) : 0 ≤ S.start k := S.start_mono (Nat.zero_le k)

/-- Every entry starts before the end. -/
theorem start_le_total (k : ℕ) : S.start k ≤ S.total := by
  rw [← S.start_of_length_le (le_max_right k S.durations.length)]
  exact S.start_mono (le_max_left _ _)

/-- A schedule with an entry takes time. -/
theorem total_pos (hne : S.durations ≠ []) : 0 < S.total := by
  have hlength : 0 < S.durations.length := List.length_pos_of_ne_nil hne
  have hfirst : S.start 1 = S.start 0 + S.durations[0] := S.start_succ hlength
  have hpos : 0 < S.start 1 := by
    rw [hfirst, start_zero, zero_add]
    exact S.pos _ (List.getElem_mem hlength)
  exact hpos.trans_le (S.start_le_total 1)

namespace Runs

variable {S} {j k : ℕ} {t : α}

/-- No entry runs before zero. -/
theorem nonneg (h : S.Runs k t) : 0 ≤ t := (S.start_nonneg k).trans h.started

/-- No entry runs after the end. -/
theorem lt_total (h : S.Runs k t) : t < S.total := h.going.trans_le (S.start_le_total _)

/-- No slot runs before one that has begun is over. -/
theorem le (hj : S.Runs j t) (hk : S.Runs k t) : j ≤ k := by
  by_contra hlt
  have hover : S.start (k + 1) ≤ S.start j := S.start_mono (not_le.mp hlt)
  exact absurd (hk.going.trans_le hover) (not_lt.mpr hj.started)

/-- **Only one slot runs.** -/
theorem unique (hj : S.Runs j t) (hk : S.Runs k t) : j = k := le_antisymm (hj.le hk) (hk.le hj)

end Runs

end Order

end Schedule

section Lap

variable {K : Type*} [Field K] [LinearOrder K] [IsStrictOrderedRing K] [FloorRing K]

/-- The time since the last repetition of something that takes `total` began. -/
def lap (total t : K) : K := Int.fract (t / total) * total

variable {total : K} (hpos : 0 < total)

include hpos

/-- Within the first repetition. -/
theorem lap_of_lt {t : K} (hnonneg : 0 ≤ t) (hlt : t < total) : lap total t = t := by
  have hfract : Int.fract (t / total) = t / total :=
    Int.fract_eq_self.mpr ⟨div_nonneg hnonneg hpos.le, (div_lt_one hpos).mpr hlt⟩
  rw [lap, hfract, div_mul_cancel₀ t hpos.ne']

/-- A whole number of repetitions leaves the lap alone. -/
theorem lap_sub_intCast_mul (t : K) (n : ℤ) : lap total (t - n * total) = lap total t := by
  rw [lap, lap, sub_div, mul_div_cancel_right₀ _ hpos.ne', Int.fract_sub_intCast]

/-- A lap later the schedule is where it was. -/
theorem lap_sub_self (t : K) : lap total (t - total) = lap total t := by
  have h := lap_sub_intCast_mul hpos t 1
  rwa [Int.cast_one, one_mul] at h

/-- **Times may be added lap by lap.** -/
theorem lap_lap_add (t a : K) : lap total (lap total t + a) = lap total (t + a) := by
  have hlap : lap total t = t - ⌊t / total⌋ * total := by
    rw [lap, Int.fract, sub_mul, div_mul_cancel₀ t hpos.ne']
  rw [hlap, sub_add_eq_add_sub, lap_sub_intCast_mul hpos]

end Lap

end Timeline
