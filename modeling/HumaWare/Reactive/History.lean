import HumaWare.Reactive.Machine

/-! # Reading a history backwards

A callback-driven program keeps, for each stream it listens to, what it received last. `latest f h`
reads the same thing off the history alone: `f` picks the inputs of one stream (and what is stored
of them), and `latest f h` is the most recent pick. It is how the abstract side of a statement about
*the last message received* is written, independently of any state.

* **`latest_concat`** — the one-step rule;
* **`latest_eq_some_iff`** — `latest f h = some b` spelled out: some input gives `b` and none after
  it is on the stream;
* **`exists_last_entry`** — the moment from which on a property of the history has held;
* **`LastStep`** — the last step of a kind, with its two one-step rules;
* **`Machine.latestStep`** — what the most recent step of a kind left, where the kind depends on the
  state in which the step is taken;
* **`Machine.latest_register`** — a state component that every input of the stream overwrites and
  every other input leaves alone holds exactly `latest`; `Machine.latest_output_register` is the
  same for a component that follows the answers given. -/

namespace Reactive

variable {ι β : Type*}

/-- What the most recent input on the stream `f` left, if there was one. -/
def latest (f : ι → Option β) (h : List ι) : Option β := h.reverse.findSome? f

/-- Nothing was read from an empty history. -/
@[simp] theorem latest_nil (f : ι → Option β) : latest f [] = none := rfl

/-- Reading one more input: it is the most recent one if it is on the stream. -/
@[simp] theorem latest_concat (f : ι → Option β) (h : List ι) (i : ι) :
    latest f (h ++ [i]) = (f i).or (latest f h) := by
  rw [latest, List.reverse_append]
  cases hf : f i <;> simp [hf, latest]

/-- Reading on: the later history decides if it is on the stream at all. -/
theorem latest_append (f : ι → Option β) (h k : List ι) :
    latest f (h ++ k) = (latest f k).or (latest f h) := by
  rw [latest, List.reverse_append, List.findSome?_append]
  rfl

/-- What the most recent input on a stream left, read through a function. -/
theorem latest_map {γ : Type*} (f : ι → Option β) (g : β → γ) (h : List ι) :
    latest (fun i => (f i).map g) h = (latest f h).map g := by
  induction h using List.reverseRecOn with
  | nil => rfl
  | append_singleton h i ih =>
    rw [latest_concat, latest_concat, ih]
    cases f i <;> rfl

/-- What the most recent input on a stream left, read through a partial function that reads
everything on the stream. -/
theorem latest_bind {γ : Type*} {f : ι → Option β} {g : β → Option γ}
    (hg : ∀ i b, f i = some b → (g b).isSome) (h : List ι) :
    latest (fun i => (f i).bind g) h = (latest f h).bind g := by
  induction h using List.reverseRecOn with
  | nil => rfl
  | append_singleton h i ih =>
    rw [latest_concat, latest_concat, ih]
    cases hi : f i with
    | none => rfl
    | some b =>
      obtain ⟨c, hc⟩ := Option.isSome_iff_exists.mp (hg i b hi)
      simp [hc]

/-- Two streams with the same inputs on them are silent together. -/
theorem isSome_latest_congr {γ : Type*} {f : ι → Option β} {g : ι → Option γ}
    (hfg : ∀ i, (f i).isSome = (g i).isSome) (h : List ι) :
    (latest f h).isSome = (latest g h).isSome := by
  induction h using List.reverseRecOn with
  | nil => rfl
  | append_singleton h i ih =>
    rw [latest_concat, latest_concat, Option.isSome_or, Option.isSome_or, hfg, ih]

/-- Reading a history of which only some inputs were picked. -/
theorem latest_filterMap {ι' : Type*} (f : ι → Option β) (pick : ι' → Option ι) (h : List ι') :
    latest f (h.filterMap pick) = latest (fun i => (pick i).bind f) h := by
  induction h using List.reverseRecOn with
  | nil => rfl
  | append_singleton h i ih =>
    rw [List.filterMap_append, latest_append, ih, latest_concat]
    congr 1
    cases hpick : pick i <;> simp [hpick, latest]

/-- `latest` spelled out: an input on the stream and none on it afterwards. -/
theorem latest_eq_some_iff {f : ι → Option β} {h : List ι} {b : β} :
    latest f h = some b ↔
      ∃ pre i post, h = pre ++ i :: post ∧ f i = some b ∧ ∀ x ∈ post, f x = none := by
  rw [latest, List.findSome?_eq_some_iff]
  constructor
  · rintro ⟨l₁, a, l₂, hl, hfa, hl₁⟩
    refine ⟨l₂.reverse, a, l₁.reverse, ?_, hfa, fun x hx => hl₁ x (List.mem_reverse.mp hx)⟩
    have := congrArg List.reverse hl
    simpa using this
  · rintro ⟨pre, i, post, rfl, hfi, hpost⟩
    exact ⟨post.reverse, i, pre.reverse, by simp, hfi, fun x hx => hpost x (List.mem_reverse.mp hx)⟩

/-- What `latest` returns was left by some input of the history. -/
theorem exists_mem_of_latest {f : ι → Option β} {h : List ι} {b : β} (hb : latest f h = some b) :
    ∃ x ∈ h, f x = some b := by
  obtain ⟨pre, i, post, rfl, hfi, -⟩ := latest_eq_some_iff.mp hb
  exact ⟨i, by simp, hfi⟩

/-- A stream that dates its inputs by the clock dates the last one no earlier than any other. -/
theorem le_latest_of_mem {T ε : Type*} [Preorder T] {f : Stamped T ε → Option T}
    {h : List (Stamped T ε)} (hmono : ClockMonotone h) (hdated : ∀ x t, f x = some t → x.now = t)
    {x : Stamped T ε} (hx : x ∈ h) {t : T} (hsome : f x = some t) :
    ∃ last, latest f h = some last ∧ t ≤ last := by
  obtain rfl := hdated x t hsome
  induction h using List.reverseRecOn with
  | nil => exact absurd hx List.not_mem_nil
  | append_singleton h i ih =>
    rw [latest_concat]
    cases hi : f i with
    | some last =>
      obtain rfl := hdated i last hi
      refine ⟨i.now, rfl, ?_⟩
      rcases List.mem_append.mp hx with hx | hx
      · exact hmono.le_of_append hx (List.mem_singleton_self i)
      · rw [List.mem_singleton.mp hx]
    | none =>
      rcases List.mem_append.mp hx with hx | hx
      · exact ih hmono.of_append hx
      · rw [List.mem_singleton.mp hx, hi] at hsome
        cases hsome

/-- A property of every step of a history and of what came before it, step by step. -/
theorem forall_step_iff {P : List ι → ι → Prop} {h : List ι} :
    (∀ pre i post, h = pre ++ i :: post → P pre i) ↔
      ∀ k (hk : k < h.length), P (h.take k) h[k] := by
  constructor
  · intro hall k hk
    refine hall _ _ (h.drop (k + 1)) ?_
    rw [List.getElem_cons_drop, List.take_append_drop]
  · intro hall pre i post hsplit
    have hstep := hall pre.length (by rw [hsplit]; simp)
    rw [List.getElem_of_append hsplit rfl] at hstep
    rwa [hsplit, List.take_left] at hstep

/-- **The last entry.** What does not hold of the empty history and holds of a history began to hold
with some input, and has held ever since. -/
theorem exists_last_entry {P : List ι → Prop} (start : ¬P []) {h : List ι} (hP : P h) :
    ∃ pre i post, h = pre ++ i :: post ∧ ¬P pre ∧ ∀ k, k <+: post → P (pre ++ i :: k) := by
  induction h using List.reverseRecOn with
  | nil => exact absurd hP start
  | append_singleton h i ih =>
    by_cases hprev : P h
    · -- it held before the last input already, so the entry is the earlier one
      obtain ⟨pre, j, post, rfl, hpre, hpost⟩ := ih hprev
      refine ⟨pre, j, post ++ [i], by simp, hpre, ?_⟩
      intro k hk
      rcases List.prefix_concat_iff.mp hk with rfl | hk
      · simpa using hP
      · exact hpost k hk
    · refine ⟨h, i, [], rfl, hprev, ?_⟩
      intro k hk
      rw [List.prefix_nil.mp hk]
      exact hP

/-- The last step of a kind: `h` splits at the input `e`, the step that reads `e` after `pre` is of
the kind `E`, and no later one is. -/
structure LastStep (E : List ι → ι → Prop) (h pre : List ι) (e : ι) (post : List ι) : Prop where
  split : h = pre ++ e :: post
  kind : E pre e
  last : ∀ mid i rest, post = mid ++ i :: rest → ¬E (pre ++ e :: mid) i

namespace LastStep

variable {E : List ι → ι → Prop} {h pre post : List ι} {e i : ι}

/-- A step of the kind is the last one at its end. -/
theorem here (hkind : E h i) : LastStep E (h ++ [i]) h i [] where
  split := rfl
  kind := hkind
  last := fun _ _ _ hnil => absurd hnil (by simp)

/-- It remains the last one over a step of another kind. -/
theorem concat (hlast : LastStep E h pre e post) (hother : ¬E h i) :
    LastStep E (h ++ [i]) pre e (post ++ [i]) where
  split := by rw [hlast.split]; simp
  kind := hlast.kind
  last := by
    intro mid j rest hsplit
    rcases List.eq_nil_or_concat rest with rfl | ⟨rest, k, rfl⟩
    · -- the step that was added
      obtain ⟨rfl, hj⟩ := List.append_inj' hsplit rfl
      rw [List.cons.injEq] at hj
      rw [← hj.1, ← hlast.split]
      exact hother
    · refine hlast.last mid j rest ?_
      rw [List.concat_eq_append, ← List.cons_append, ← List.append_assoc] at hsplit
      exact (List.append_inj' hsplit rfl).1

end LastStep

namespace Machine

variable {σ ο : Type*}

section Step

variable (M : Machine σ ι ο)

/-- What the most recent step that `f` picks left, along the inputs `h` from the state `s` on. -/
def latestStepFrom (f : σ → ι → Option β) (s : σ) : List ι → Option β
  | [] => none
  | i :: h => (latestStepFrom f (M.next s i) h).or (f s i)

/-- What the most recent step that `f` picks left, if there was one: `latest`, with each input read
in the state in which it is handled. -/
def latestStep (f : σ → ι → Option β) (h : List ι) : Option β := M.latestStepFrom f M.init h

/-- No step was taken in an empty history. -/
@[simp] theorem latestStep_nil (f : σ → ι → Option β) : M.latestStep f [] = none := rfl

/-- The last input comes first. -/
theorem latestStepFrom_concat (f : σ → ι → Option β) (s : σ) (h : List ι) (i : ι) :
    M.latestStepFrom f s (h ++ [i]) = (f (h.foldl M.next s) i).or (M.latestStepFrom f s h) := by
  induction h generalizing s with
  | nil => simp [latestStepFrom]
  | cons j h ih => rw [List.cons_append, latestStepFrom, ih, latestStepFrom, List.foldl_cons,
      Option.or_assoc]

/-- One more step: it is the most recent one if `f` picks it. -/
@[simp] theorem latestStep_concat (f : σ → ι → Option β) (h : List ι) (i : ι) :
    M.latestStep f (h ++ [i]) = (f (M.after h) i).or (M.latestStep f h) :=
  M.latestStepFrom_concat f M.init h i

/-- `latestStep` spelled out: a step that `f` picks and none after it. -/
theorem exists_lastStep_of_latestStep {f : σ → ι → Option β} {h : List ι} {b : β}
    (hb : M.latestStep f h = some b) :
    ∃ pre e post, LastStep (fun pre i => (f (M.after pre) i).isSome) h pre e post ∧
      f (M.after pre) e = some b := by
  induction h using List.reverseRecOn with
  | nil => simp at hb
  | append_singleton h i ih =>
    rw [latestStep_concat, Option.or_eq_some_iff] at hb
    rcases hb with hhere | ⟨hother, hearlier⟩
    · exact ⟨h, i, [], LastStep.here (by rw [hhere]; rfl), hhere⟩
    · obtain ⟨pre, e, post, hlast, he⟩ := ih hearlier
      exact ⟨pre, e, post ++ [i], hlast.concat (by simp [hother]), he⟩

/-- There is nothing to read if `f` picks no step. -/
theorem latestStep_eq_none_iff {f : σ → ι → Option β} {h : List ι} :
    M.latestStep f h = none ↔ ∀ pre i, pre ++ [i] <+: h → f (M.after pre) i = none := by
  induction h using List.reverseRecOn with
  | nil => simp
  | append_singleton h i ih =>
    rw [latestStep_concat, Option.or_eq_none_iff, ih]
    constructor
    · rintro ⟨hhere, hearlier⟩ pre j hpre
      rcases List.prefix_concat_iff.mp hpre with heq | hpre
      · obtain ⟨rfl, hj⟩ := List.append_inj' heq rfl
        rw [List.singleton_inj.mp hj]
        exact hhere
      · exact hearlier pre j hpre
    · intro hnone
      exact ⟨hnone h i List.prefix_rfl,
        fun pre j hpre => hnone pre j (hpre.trans (List.prefix_append _ _))⟩

end Step

section Register

variable (M : Machine σ ι ο)

/-- **A register holds the latest value of its stream.** If an input on the stream `f` overwrites
the component `reg` and any other input leaves it unchanged, then after every history `reg` is
`latest f` of it, or its initial value when the stream was silent. -/
theorem latest_register (reg : σ → β) (f : ι → Option β)
    (keep : ∀ s i, reg (M.next s i) = (f i).getD (reg s)) (h : List ι) :
    reg (M.after h) = (latest f h).getD (reg M.init) := by
  induction h using List.reverseRecOn with
  | nil => rfl
  | append_singleton h i ih =>
    rw [after_concat, keep, latest_concat, ih]
    cases f i <;> rfl

/-- The same for a component that is empty until the stream first speaks. -/
theorem latest_optional_register (reg : σ → Option β) (f : ι → Option β) (start : reg M.init = none)
    (keep : ∀ s i, reg (M.next s i) = (f i).or (reg s)) (h : List ι) :
    reg (M.after h) = latest f h := by
  induction h using List.reverseRecOn with
  | nil => exact start
  | append_singleton h i ih => rw [after_concat, keep, latest_concat, ih]

end Register

/-- A component that changes with the answers given, not with the inputs alone, holds the latest
value among the answers. -/
theorem latest_output_register {κ : Type*} (M : Machine σ ι (List κ)) (reg : σ → β)
    (f : κ → Option β) (keep : ∀ s i, reg (M.next s i) = (latest f (M.out s i)).getD (reg s))
    (h : List ι) :
    reg (M.after h) = (latest f (M.outputs h).flatten).getD (reg M.init) := by
  induction h using List.reverseRecOn with
  | nil => rfl
  | append_singleton h i ih =>
    rw [after_concat, keep, outputs_concat, List.flatten_append, latest_append, ih]
    cases hf : latest f (M.out (M.after h) i) <;> simp [hf]

end Machine

end Reactive
