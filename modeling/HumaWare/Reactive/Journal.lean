import HumaWare.Reactive.Machine

/-! # Journals

A journal is a list of records, each of which tells a value before and a value after. It is *linked*
from `a` to `b` when the first record starts at `a`, every record starts where the preceding one
ended, and the last one ends at `b`: replaying a linked journal from `a` gives `b`.

`Machine.linked_outputs` is the rule for a machine that keeps a journal of one of its components: if
each step's answer carries a journal linked from the component before the step to the component
after it, then the answers along a whole run carry a journal linked from the initial component to
the last one. -/

namespace Reactive

variable {ρ α : Type*}

/-- The records lead from one value to another without a gap. -/
def Linked (before after : ρ → α) : α → List ρ → α → Prop
  | a, [], b => a = b
  | a, r :: rs, b => before r = a ∧ Linked before after (after r) rs b

variable {before after : ρ → α}

/-- An empty journal leads nowhere. -/
@[simp] theorem linked_nil {a b : α} : Linked before after a [] b ↔ a = b := Iff.rfl

/-- The first record of a journal starts where the journal does. -/
@[simp] theorem linked_cons {a b : α} {r : ρ} {rs : List ρ} :
    Linked before after a (r :: rs) b ↔ before r = a ∧ Linked before after (after r) rs b := Iff.rfl

/-- Two linked journals that meet are one linked journal. -/
theorem Linked.append {a b c : α} {rs rs' : List ρ} (h : Linked before after a rs b)
    (h' : Linked before after b rs' c) : Linked before after a (rs ++ rs') c := by
  induction rs generalizing a with
  | nil =>
    rw [linked_nil] at h
    exact h ▸ h'
  | cons r rs ih => exact ⟨h.1, ih h.2⟩

/-- Replaying a linked journal gives the value it leads to. -/
theorem Linked.foldl_eq {a b : α} {rs : List ρ} (h : Linked before after a rs b) :
    rs.foldl (fun _ r => after r) a = b := by
  induction rs generalizing a with
  | nil => exact h
  | cons r rs ih => exact ih h.2

/-- Neighbouring records of a linked journal meet. -/
theorem Linked.isChain {a b : α} {rs : List ρ} (h : Linked before after a rs b) :
    rs.IsChain fun r r' => before r' = after r := by
  induction rs generalizing a with
  | nil => exact List.IsChain.nil
  | cons r rs ih =>
    cases rs with
    | nil => exact List.IsChain.singleton r
    | cons r' rs => exact List.IsChain.cons_cons h.2.1 (ih h.2)

/-- **A machine that journals every change of a component journals the whole run.** -/
theorem Machine.linked_outputs {σ ι ο : Type*} (M : Machine σ ι ο) (cur : σ → α)
    (records : ο → List ρ)
    (step : ∀ s i, Linked before after (cur s) (records (M.out s i)) (cur (M.next s i)))
    (h : List ι) :
    Linked before after (cur M.init) ((M.outputs h).flatMap records) (cur (M.after h)) := by
  induction h using List.reverseRecOn with
  | nil => exact rfl
  | append_singleton h i ih =>
    rw [outputs_concat, List.flatMap_append, after_concat]
    exact ih.append (by simpa using step (M.after h) i)

end Reactive
