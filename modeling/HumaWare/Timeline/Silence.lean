import Mathlib.Algebra.Order.Group.Defs
import Mathlib.Algebra.Order.Sub.Basic
import Mathlib.Data.List.Induction
import Mathlib.Data.List.Pairwise
import Mathlib.Order.Bounds.Basic
import Mathlib.Order.MinMax

/-! # The longest silence between recorded instants

A stream that spoke at the instants `times` is *silent* from `a` to `b` if none of them lies
strictly in between. `longestSilence start times stop` measures the longest silence inside the
window from `start` to `stop`, reading the instants in order.

* **`isGreatest_longestSilence`** — it is the longest, the greatest length of a silence inside the
  window;
* **`innerGap`** — the longest silence between two instants of the stream, with the rule
  `innerGap_concat` for one more instant, and `longestSilence_eq` for the window around it. -/

namespace Timeline

section Silent

variable {α : Type*} [LinearOrder α]

/-- The stream that spoke at `times` is silent from `a` to `b`. -/
def Silent (times : List α) (a b : α) : Prop := a ≤ b ∧ ∀ t ∈ times, ¬(a < t ∧ t < b)

/-- Without any times, an interval is silent. -/
theorem silent_nil {a b : α} : Silent [] a b ↔ a ≤ b := by simp [Silent]

/-- One more time must lie outside of the interval. -/
theorem silent_cons {t a b : α} {times : List α} :
    Silent (t :: times) a b ↔ ¬(a < t ∧ t < b) ∧ Silent times a b := by
  simp only [Silent, List.forall_mem_cons]
  constructor
  · rintro ⟨hab, ht, htimes⟩
    exact ⟨ht, hab, htimes⟩
  · rintro ⟨ht, hab, htimes⟩
    exact ⟨hab, ht, htimes⟩

end Silent

variable {α : Type*} [AddCommGroup α] [LinearOrder α]

/-- The longest silence of a stream that spoke at `times`, inside a window. -/
def longestSilence (start : α) : List α → α → α
  | [], stop => stop - start
  | t :: times, stop => max (t - start) (longestSilence t times stop)

/-- The longest step between neighbouring instants, at least zero. -/
def innerGap : List α → α
  | [] => 0
  | [_] => 0
  | t :: t' :: times => max (t' - t) (innerGap (t' :: times))

/-- One more instant at the end. -/
theorem innerGap_concat (times : List α) (last t : α) :
    innerGap (times ++ [last] ++ [t]) = max (innerGap (times ++ [last])) (t - last) := by
  induction times with
  | nil => simp [innerGap, max_comm]
  | cons u times ih =>
    cases times with
    | nil =>
      simp only [List.nil_append, List.cons_append, innerGap] at ih ⊢
      rw [ih, max_assoc]
    | cons u' times =>
      simp only [List.cons_append, innerGap] at ih ⊢
      rw [ih, max_assoc]

variable [IsOrderedAddMonoid α]

/-- **It is the longest silence.** Inside the window of instants in order, `longestSilence` is the
length of some silence, and no silence is longer. -/
theorem isGreatest_longestSilence {start stop : α} {times : List α}
    (hsorted : (start :: times ++ [stop]).Pairwise (· ≤ ·)) :
    IsGreatest {d | ∃ a b, start ≤ a ∧ b ≤ stop ∧ Silent times a b ∧ b - a = d}
      (longestSilence start times stop) := by
  induction times generalizing start with
  | nil =>
    have hle : start ≤ stop := by simpa using hsorted
    constructor
    · exact ⟨start, stop, le_rfl, le_rfl, silent_nil.mpr hle, rfl⟩
    · rintro _ ⟨a, b, ha, hb, -, rfl⟩
      exact sub_le_sub hb ha
  | cons t times ih =>
    rw [List.cons_append, List.pairwise_cons] at hsorted
    obtain ⟨hstart, hrest⟩ := hsorted
    have hst : start ≤ t := hstart t (by simp)
    have htstop : t ≤ stop := (List.pairwise_cons.mp hrest).1 stop (by simp)
    have hlate : ∀ u ∈ times, t ≤ u := fun u hu => (List.pairwise_cons.mp hrest).1 u (by simp [hu])
    obtain ⟨⟨a, b, ha, hb, hsilent, hlength⟩, hlongest⟩ := ih hrest
    rw [longestSilence]
    constructor
    · rcases max_choice (t - start) (longestSilence t times stop) with hmax | hmax
      · -- the silence before the first instant
        refine ⟨start, t, le_rfl, htstop, silent_cons.mpr ⟨?_, hst, ?_⟩, hmax.symm⟩
        · rintro ⟨-, hlt⟩
          exact lt_irrefl t hlt
        · rintro u hu ⟨-, hut⟩
          exact absurd hut (not_lt.mpr (hlate u hu))
      · refine ⟨a, b, hst.trans ha, hb, silent_cons.mpr ⟨?_, hsilent⟩, hlength.trans hmax.symm⟩
        rintro ⟨hat, -⟩
        exact absurd hat (not_lt.mpr ha)
    · rintro _ ⟨a', b', ha', hb', hsilent', rfl⟩
      obtain ⟨hnot, hsilent'⟩ := silent_cons.mp hsilent'
      -- a silence does not reach across the first instant
      rcases le_or_gt b' t with hbt | htb
      · exact le_max_of_le_left (sub_le_sub hbt ha')
      · have hta : t ≤ a' := not_lt.mp fun hat => hnot ⟨hat, htb⟩
        exact le_max_of_le_right (hlongest ⟨a', b', hta, hb', hsilent', rfl⟩)

/-- Some silence inside the window is longer than `m` exactly if the longest is. -/
theorem lt_longestSilence_iff {m start stop : α} {times : List α}
    (hsorted : (start :: times ++ [stop]).Pairwise (· ≤ ·)) :
    m < longestSilence start times stop ↔
      ∃ a b, start ≤ a ∧ b ≤ stop ∧ Silent times a b ∧ m < b - a := by
  rw [lt_isLUB_iff (isGreatest_longestSilence hsorted).isLUB]
  constructor
  · rintro ⟨_, ⟨a, b, ha, hb, hsilent, rfl⟩, hm⟩
    exact ⟨a, b, ha, hb, hsilent, hm⟩
  · rintro ⟨a, b, ha, hb, hsilent, hm⟩
    exact ⟨b - a, ⟨a, b, ha, hb, hsilent, rfl⟩, hm⟩

/-- **The window around the instants.** The longest silence is the longest of the step between two
instants, the silence before the first one and the silence after the last one. -/
theorem longestSilence_eq {start stop first last : α} {times : List α}
    (hfirst : times.head? = some first) (hlast : times.getLast? = some last) (hstop : last ≤ stop) :
    longestSilence start times stop =
      max (max (innerGap times) (first - start)) (stop - last) := by
  induction times generalizing start first with
  | nil => simp at hfirst
  | cons t times ih =>
    obtain rfl : t = first := by simpa using hfirst
    cases times with
    | nil =>
      obtain rfl : t = last := by simpa using hlast
      have hnonneg : 0 ≤ stop - t := sub_nonneg.mpr hstop
      rw [longestSilence, longestSilence, innerGap, max_assoc, max_comm 0, max_assoc,
        max_eq_left hnonneg]
    | cons t' times =>
      rw [List.getLast?_cons_cons] at hlast
      rw [longestSilence, ih rfl hlast, innerGap]
      -- the silence before `t'` is the first step between two instants
      rw [max_comm (t' - t), max_assoc, max_assoc, max_assoc, max_left_comm (t - start),
        max_left_comm (t - start)]

end Timeline
