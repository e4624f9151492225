import Mathlib.Data.List.Induction
import Mathlib.Data.List.Basic
import Mathlib.Order.Basic
import Mathlib.Tactic.ByContra

/-! # Reactive machines

A *reactive machine* reads one input at a time and answers each with an output. A callback-driven
program is one: its inputs are the messages, service calls and timer expiries it handles, stamped
with the clock reading at which the callback runs, and its outputs are what the callback emits.

A run is the list of inputs handled so far, oldest first, so a statement about *every run* is a
statement about every list and a statement about *every reachable state* is one about
`Machine.after h`. The file provides

* **`Machine.after`** — the state after a history, with the one-step rule `after_concat`;
* **`Machine.invariant`** — the induction that carries a history-indexed invariant along a run;
* **`Machine.until_ended`** — what holds until an input of a kind comes;
* **`Machine.outputs`** — the outputs along a history, oldest first;
* **`Machine.count`** — how many of its inputs are of a kind;
* **`Component`** — a machine running inside a larger one, with `Component.proj_after`: the part of
  the large state that belongs to the component is the component's own state after the inputs it was
  fed. -/

namespace Reactive

/-- An input together with the clock reading at which it is handled. -/
structure Stamped (T ε : Type*) where
  /-- The clock reading. -/
  now : T
  /-- What is handled. -/
  event : ε
  deriving DecidableEq, Repr

/-- Clock readings never go back along the history. -/
def ClockMonotone {T ε : Type*} [LE T] (h : List (Stamped T ε)) : Prop :=
  h.Pairwise fun a b => a.now ≤ b.now

instance {T ε : Type*} [LE T] [DecidableLE T] (h : List (Stamped T ε)) :
    Decidable (ClockMonotone h) :=
  inferInstanceAs (Decidable (h.Pairwise _))

namespace ClockMonotone

variable {T ε : Type*} [LE T] {h k : List (Stamped T ε)}

/-- An earlier part of a history. -/
theorem of_append (hmono : ClockMonotone (h ++ k)) : ClockMonotone h :=
  (List.pairwise_append.mp hmono).1

/-- An input is no later than any input of what follows. -/
theorem le_of_append (hmono : ClockMonotone (h ++ k)) {i j : Stamped T ε} (hi : i ∈ h) (hj : j ∈ k) :
    i.now ≤ j.now :=
  (List.pairwise_append.mp hmono).2.2 i hi j hj

/-- An input that is earlier by the clock comes earlier in the history. -/
theorem exists_between {T : Type*} [Preorder T] {pre post pre' post' : List (Stamped T ε)}
    {i j : Stamped T ε} (hmono : ClockMonotone (pre ++ i :: post))
    (hsplit : pre ++ i :: post = pre' ++ j :: post') (hlt : j.now < i.now) :
    ∃ mid, pre = pre' ++ j :: mid := by
  rcases List.append_eq_append_iff.mp hsplit with ⟨as, hpre, hpost⟩ | ⟨as, hpre, hpost⟩
  · cases as with
    | nil =>
      obtain ⟨rfl, -⟩ := List.cons.inj hpost
      exact absurd hlt (lt_irrefl _)
    | cons k as =>
      -- it would be a later input
      obtain ⟨rfl, rfl⟩ := List.cons.inj hpost
      have hle : i.now ≤ j.now :=
        (List.pairwise_cons.mp (List.pairwise_append.mp hmono).2.1).1 j (by simp)
      exact absurd hlt (not_lt_of_ge hle)
  · cases as with
    | nil =>
      obtain ⟨rfl, -⟩ := List.cons.inj hpost
      exact absurd hlt (lt_irrefl _)
    | cons k as =>
      obtain ⟨rfl, -⟩ := List.cons.inj hpost
      exact ⟨as, hpre⟩

/-- An input is no later than the inputs after it. -/
theorem le_of_cons {i j : Stamped T ε} (hmono : ClockMonotone (h ++ i :: k)) (hj : j ∈ k) :
    i.now ≤ j.now :=
  (List.pairwise_cons.mp (List.pairwise_append.mp hmono).2.1).1 j hj

end ClockMonotone

/-- A deterministic reactive machine with states `σ`, inputs `ι` and outputs `ο`. -/
structure Machine (σ ι ο : Type*) where
  /-- The state before any input. -/
  init : σ
  /-- The answer to one input: the next state and the output. -/
  step : σ → ι → σ × ο

namespace Machine

variable {σ ι ο : Type*} (M : Machine σ ι ο)

/-- The state after one input. -/
def next (s : σ) (i : ι) : σ := (M.step s i).1

/-- The output to one input. -/
def out (s : σ) (i : ι) : ο := (M.step s i).2

/-- The state after a whole history, oldest input first. -/
def after (h : List ι) : σ := h.foldl M.next M.init

/-- A run starts in the initial state. -/
@[simp] theorem after_nil : M.after [] = M.init := rfl

/-- The last input is handled in the state that the others lead to. -/
@[simp] theorem after_concat (h : List ι) (i : ι) : M.after (h ++ [i]) = M.next (M.after h) i := by
  simp [after]

/-- A longer run goes on from where the shorter one ends. -/
theorem after_append (h k : List ι) : M.after (h ++ k) = k.foldl M.next (M.after h) := by
  simp [after]

/-- **The invariant rule.** A relation between the history and the state that holds at the start and
is kept by every step holds along every run. -/
theorem invariant {P : List ι → σ → Prop} (start : P [] M.init)
    (keep : ∀ h i, P h (M.after h) → P (h ++ [i]) (M.next (M.after h) i)) :
    ∀ h, P h (M.after h) := by
  intro h
  induction h using List.reverseRecOn with
  | nil => exact start
  | append_singleton h i ih => rw [after_concat]; exact keep h i ih

/-- The invariant rule from an arbitrary point of a run on: what holds after `pre` and is kept by
every input allowed by `A` holds after any further allowed inputs. -/
theorem invariant_from {P : σ → Prop} {A : ι → Prop} {pre : List ι} (start : P (M.after pre))
    (keep : ∀ s i, A i → P s → P (M.next s i)) :
    ∀ k, (∀ i ∈ k, A i) → P (M.after (pre ++ k)) := by
  intro k
  induction k using List.reverseRecOn with
  | nil => intro _; simpa using start
  | append_singleton k i ih =>
    intro hA
    rw [← List.append_assoc, after_concat]
    exact keep _ _ (hA i (by simp)) (ih fun j hj => hA j (by simp [hj]))

/-- **The until rule.** What every input keeps, unless it is one that ends it, holds until such an
input comes. -/
theorem until_ended {P : σ → Prop} {E : σ → ι → Prop} (keep : ∀ s i, P s → ¬E s i → P (M.next s i))
    {pre : List ι} (start : P (M.after pre)) (k : List ι) :
    P (M.after (pre ++ k)) ∨ ∃ m₁ j m₂, k = m₁ ++ j :: m₂ ∧ E (M.after (pre ++ m₁)) j := by
  induction k using List.reverseRecOn with
  | nil => exact Or.inl (by rwa [List.append_nil])
  | append_singleton k i ih =>
    rcases ih with hP | ⟨m₁, j, m₂, rfl, hE⟩
    · by_cases hE : E (M.after (pre ++ k)) i
      · exact Or.inr ⟨k, i, [], rfl, hE⟩
      · rw [← List.append_assoc, after_concat]
        exact Or.inl (keep _ _ hP hE)
    · exact Or.inr ⟨m₁, j, m₂ ++ [i], by simp, hE⟩

/-- The outputs given along the inputs `h` from the state `s`, oldest first. -/
def outputsFrom (s : σ) : List ι → List ο
  | [] => []
  | i :: h => M.out s i :: outputsFrom (M.next s i) h

/-- The outputs given along a history, oldest first. -/
def outputs (h : List ι) : List ο := M.outputsFrom M.init h

/-- An empty run outputs nothing. -/
@[simp] theorem outputs_nil : M.outputs [] = [] := rfl

/-- The output of the last input comes last. -/
theorem outputsFrom_concat (s : σ) (h : List ι) (i : ι) :
    M.outputsFrom s (h ++ [i]) = M.outputsFrom s h ++ [M.out (h.foldl M.next s) i] := by
  induction h generalizing s with
  | nil => rfl
  | cons j h ih => simp [outputsFrom, ih]

/-- The output of the last input comes last. -/
@[simp] theorem outputs_concat (h : List ι) (i : ι) :
    M.outputs (h ++ [i]) = M.outputs h ++ [M.out (M.after h) i] :=
  M.outputsFrom_concat M.init h i

/-- How many of the inputs `h`, from the state `s` on, are of a kind. -/
def countFrom (kind : σ → ι → Bool) (s : σ) : List ι → ℕ
  | [] => 0
  | i :: h => (if kind s i then 1 else 0) + countFrom kind (M.next s i) h

/-- How many inputs of a history are of a kind, each in the state in which it is handled. -/
def count (kind : σ → ι → Bool) (h : List ι) : ℕ := M.countFrom kind M.init h

/-- Nothing is counted in an empty run. -/
@[simp] theorem count_nil (kind : σ → ι → Bool) : M.count kind [] = 0 := rfl

/-- The last input is counted where it is of the kind. -/
theorem countFrom_concat (kind : σ → ι → Bool) (s : σ) (h : List ι) (i : ι) :
    M.countFrom kind s (h ++ [i]) =
      M.countFrom kind s h + if kind (h.foldl M.next s) i then 1 else 0 := by
  induction h generalizing s with
  | nil => exact Nat.add_comm _ _
  | cons j h ih =>
    rw [List.cons_append, countFrom, ih, countFrom, List.foldl_cons]
    omega

/-- The last input is counted where it is of the kind. -/
@[simp] theorem count_concat (kind : σ → ι → Bool) (h : List ι) (i : ι) :
    M.count kind (h ++ [i]) = M.count kind h + if kind (M.after h) i then 1 else 0 :=
  M.countFrom_concat kind M.init h i

end Machine

/-- A machine `M` running inside a larger machine `G`: a projection of the large state and, for each
large step, the inputs it feeds to `M`, in order. -/
structure Component {σ ι ο σ' ι' ο' : Type*} (G : Machine σ ι ο) (M : Machine σ' ι' ο') where
  /-- The component's share of the large state. -/
  proj : σ → σ'
  /-- The inputs one large step feeds to the component. -/
  feed : σ → ι → List ι'
  proj_init : proj G.init = M.init
  proj_next : ∀ s i, proj (G.next s i) = (feed s i).foldl M.next (proj s)

namespace Component

variable {σ ι ο σ' ι' ο' : Type*} {G : Machine σ ι ο} {M : Machine σ' ι' ο'} (C : Component G M)

/-- The inputs fed along the large inputs `h` from the large state `s`. -/
def historyFrom (s : σ) : List ι → List ι'
  | [] => []
  | i :: h => C.feed s i ++ historyFrom (G.next s i) h

/-- The component's own history along a history of the large machine. -/
def history (h : List ι) : List ι' := C.historyFrom G.init h

/-- A component starts with an empty history. -/
@[simp] theorem history_nil : C.history [] = [] := rfl

/-- The history of a component in a longer run, from a state on. -/
theorem historyFrom_append (s : σ) (h k : List ι) :
    C.historyFrom s (h ++ k) = C.historyFrom s h ++ C.historyFrom (h.foldl G.next s) k := by
  induction h generalizing s with
  | nil => rfl
  | cons j h ih => simp [historyFrom, ih]

/-- A step appends what it feeds to the component. -/
@[simp] theorem history_concat (h : List ι) (i : ι) :
    C.history (h ++ [i]) = C.history h ++ C.feed (G.after h) i := by
  simp [history, historyFrom_append, historyFrom, Machine.after]

/-- The history of a component only grows. -/
theorem history_append_prefix (h k : List ι) : C.history h <+: C.history (h ++ k) := by
  rw [history, history, historyFrom_append]
  exact List.prefix_append _ _

/-- **The component runs its own program.** Its share of the large state is its own state after its
own history. -/
theorem proj_after (h : List ι) : C.proj (G.after h) = M.after (C.history h) := by
  induction h using List.reverseRecOn with
  | nil => exact C.proj_init
  | append_singleton h i ih =>
    rw [Machine.after_concat, C.proj_next, ih, history_concat, Machine.after_append]

/-- A component that is fed the inputs that `pick` picks, whatever the state, is in its own state
after what is picked of the history. -/
theorem proj_after_filterMap (proj : σ → σ') (pick : ι → Option ι') (start : proj G.init = M.init)
    (keep : ∀ s i, proj (G.next s i) = (pick i).elim (proj s) (M.next (proj s))) (h : List ι) :
    proj (G.after h) = M.after (h.filterMap pick) := by
  induction h using List.reverseRecOn with
  | nil => exact start
  | append_singleton h i ih =>
    rw [Machine.after_concat, keep, ih, List.filterMap_append, Machine.after_append]
    cases hpick : pick i <;> simp [hpick]

end Component

end Reactive
