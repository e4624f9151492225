import HumaWare.Reactive.Machine
import HumaWare.Timeline.Changes

/-! # A component that is published whenever it changes

A program publishes the value of one of its components, from a timer and whenever the component
changes. What it publishes repeats values and leaves out most steps; the changes in it are the
component's own (`changes_published`). What counts as published is any reading `pub s i` of the step
that handles `i` in `s`. -/

namespace Reactive

open Timeline

namespace Machine

variable {σ T ε ο V : Type*} (M : Machine σ (Stamped T ε) ο)

/-- The component after each input, with the clock reading. -/
def trajectoryFrom (reg : σ → V) (s : σ) : List (Stamped T ε) → List (T × V)
  | [] => []
  | i :: h => (i.now, reg (M.next s i)) :: trajectoryFrom reg (M.next s i) h

/-- What is published along the inputs, with the clock readings. -/
def publishedFrom (pub : σ → Stamped T ε → List V) (s : σ) : List (Stamped T ε) → List (T × V)
  | [] => []
  | i :: h => (pub s i).map (i.now, ·) ++ publishedFrom pub (M.next s i) h

/-- What is published in a run, with the clock readings. -/
def published (pub : σ → Stamped T ε → List V) (h : List (Stamped T ε)) : List (T × V) :=
  M.publishedFrom pub M.init h

/-- What a longer run publishes from a state on. -/
theorem publishedFrom_append (pub : σ → Stamped T ε → List V) (s : σ) (h k : List (Stamped T ε)) :
    M.publishedFrom pub s (h ++ k) =
      M.publishedFrom pub s h ++ M.publishedFrom pub (h.foldl M.next s) k := by
  induction h generalizing s with
  | nil => rfl
  | cons i h ih => rw [List.cons_append, publishedFrom, ih, publishedFrom, List.foldl_cons,
      List.append_assoc]

/-- What a longer run publishes. -/
theorem published_append (pub : σ → Stamped T ε → List V) (h k : List (Stamped T ε)) :
    M.published pub (h ++ k) = M.published pub h ++ M.publishedFrom pub (M.after h) k :=
  M.publishedFrom_append pub M.init h k

/-- Every publication carries the component as the step leaves it, and a step that publishes nothing
leaves it unchanged. -/
structure Eager (reg : σ → V) (pub : σ → Stamped T ε → List V) : Prop where
  current : ∀ s i, ∀ value ∈ pub s i, value = reg (M.next s i)
  silent : ∀ s i, pub s i = [] → reg (M.next s i) = reg s

namespace Eager

variable {M} {reg : σ → V} {pub : σ → Stamped T ε → List V} [BEq V] [ReflBEq V]

/-- The publications of one step, after a value, show at most the change to the component. -/
theorem changesFrom_step (heager : M.Eager reg pub) (s : σ) (i : Stamped T ε) (previous : V)
    (rest : List (T × V)) (hsome : pub s i ≠ []) :
    changesFrom previous ((pub s i).map (i.now, ·) ++ rest) =
      changesFrom previous ((i.now, reg (M.next s i)) :: rest) := by
  have hcurrent := heager.current s i
  cases hpub : pub s i with
  | nil => exact absurd hpub hsome
  | cons value values =>
    rw [hpub] at hcurrent
    obtain rfl := hcurrent value List.mem_cons_self
    have hrepeats : ∀ sample ∈ values.map (i.now, ·), sample.2 = reg (M.next s i) := by
      intro sample hsample
      obtain ⟨value, hvalue, rfl⟩ := List.mem_map.mp hsample
      exact hcurrent value (List.mem_cons_of_mem _ hvalue)
    rw [List.map_cons, List.cons_append, changesFrom, changesFrom,
      changesFrom_append_of_forall_eq hrepeats]

/-- From a state on, the publications change as the component does. -/
theorem changesFrom_published (heager : M.Eager reg pub) (s : σ) (h : List (Stamped T ε)) :
    changesFrom (reg s) (M.publishedFrom pub s h) =
      changesFrom (reg s) (M.trajectoryFrom reg s h) := by
  induction h generalizing s with
  | nil => rfl
  | cons i h ih =>
    rw [publishedFrom, trajectoryFrom]
    by_cases hpub : pub s i = []
    · -- a silent step: the component is as it was
      have hsame := heager.silent s i hpub
      rw [hpub, List.map_nil, List.nil_append, changesFrom, if_neg (by simp [hsame, bne]), ← ih, hsame]
    · rw [heager.changesFrom_step s i _ _ hpub, changesFrom, changesFrom, ih]

/-- **What is published changes as the component does**, from the first publication on. -/
theorem changes_published (heager : M.Eager reg pub) {pre post : List (Stamped T ε)}
    {i : Stamped T ε} (hsilent : M.published pub pre = [])
    (hfirst : pub (M.after pre) i ≠ []) :
    changes (M.published pub (pre ++ i :: post)) =
      changesFrom (reg (M.after (pre ++ [i])))
        (M.trajectoryFrom reg (M.after (pre ++ [i])) post) := by
  have hcurrent := heager.current (M.after pre) i
  rw [published_append, hsilent, List.nil_append, publishedFrom, after_concat,
    ← heager.changesFrom_published]
  cases hpub : pub (M.after pre) i with
  | nil => exact absurd hpub hfirst
  | cons value values =>
    rw [hpub] at hcurrent
    obtain rfl := hcurrent value List.mem_cons_self
    rw [List.map_cons, List.cons_append, changes]
    refine changesFrom_append_of_forall_eq ?_ _
    intro sample hsample
    obtain ⟨value, hvalue, rfl⟩ := List.mem_map.mp hsample
    exact hcurrent value (List.mem_cons_of_mem _ hvalue)

end Eager

end Machine

end Reactive
