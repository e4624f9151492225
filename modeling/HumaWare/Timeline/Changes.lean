import Mathlib.Data.List.Basic
import Mathlib.Logic.Relation
import Mathlib.Order.Basic

/-! # A sampled value and its changes

A value is sampled at places in order, and of all samples only the changes are kept: where two
samples in a row differ, the place of the second one and both values. `replay` reads such a log
back.

Values are compared by `==` alone, of which nothing is assumed. Two values are the `Same` if a chain
of comparisons leads from one to the other, and where `==` is equality that is equality
(`same_iff_eq`).

* **`replay_changes`** — the log up to a sample's place gives the sampled value back;
* **`linked_changes`** — each change begins where the one before it ended. -/

namespace Timeline

/-- A change of a sampled value, at the place of the sample that shows it. -/
structure Change (ι V : Type*) where
  place : ι
  previous : V
  current : V
  deriving DecidableEq, Repr

variable {ι V : Type*} [BEq V]

/-- No comparison tells the two values apart, over any number of steps. -/
def Same : V → V → Prop := Relation.ReflTransGen fun a b => (a == b) = true

/-- A value is the same as itself. -/
theorem Same.refl (a : V) : Same a a := Relation.ReflTransGen.refl

/-- Chains of equal values can be prolonged. -/
theorem Same.tail {a b c : V} (h : Same a b) (hbc : (b == c) = true) : Same a c :=
  Relation.ReflTransGen.tail h hbc

/-- Where `==` is equality, the same values are equal. -/
theorem same_iff_eq [LawfulBEq V] {a b : V} : Same a b ↔ a = b := by
  constructor
  · intro h
    induction h with
    | refl => rfl
    | tail _ hbc ih => exact ih.trans (eq_of_beq hbc)
  · rintro rfl
    exact Same.refl a

/-- The changes that the samples show after a value. -/
def changesFrom (previous : V) : List (ι × V) → List (Change ι V)
  | [] => []
  | (place, current) :: samples =>
    if previous != current then ⟨place, previous, current⟩ :: changesFrom current samples
    else changesFrom current samples

/-- The changes between the samples. -/
def changes : List (ι × V) → List (Change ι V)
  | [] => []
  | (_, first) :: samples => changesFrom first samples

omit [BEq V] in
/-- The value after some changes. -/
def replay (first : V) (log : List (Change ι V)) : V :=
  log.foldl (fun _ change => change.current) first

/-- Each change begins with the value that the one before it ended with. -/
def Linked : V → List (Change ι V) → Prop
  | _, [] => True
  | value, change :: log => Same value change.previous ∧ Linked change.current log

example : changes [(1, 4), (2, 4), (5, 7), (6, 4)] = [⟨5, 4, 7⟩, ⟨6, 7, 4⟩] := by decide

/-! ## One more sample -/

/-- The last sample is a change if it differs from the one before. -/
theorem changesFrom_concat (previous : V) (samples : List (ι × V)) (place : ι) (current : V) :
    changesFrom previous (samples ++ [(place, current)]) =
      changesFrom previous samples ++
        if ((samples.map Prod.snd).getLast?.getD previous) != current then
          [⟨place, (samples.map Prod.snd).getLast?.getD previous, current⟩]
        else [] := by
  induction samples generalizing previous with
  | nil => simp [changesFrom]
  | cons sample samples ih =>
    obtain ⟨place', current'⟩ := sample
    have hlast : (((place', current') :: samples).map Prod.snd).getLast?.getD previous =
        (samples.map Prod.snd).getLast?.getD current' := by
      rw [List.map_cons, List.getLast?_cons, Option.getD_some]
    rw [hlast, List.cons_append, changesFrom, changesFrom, ih]
    split
    · rfl
    · rfl

/-- **One more sample** adds the change from the last value, if there is a last value and it
differs. -/
theorem changes_concat (samples : List (ι × V)) (place : ι) (current : V) :
    changes (samples ++ [(place, current)]) =
      changes samples ++
        match (samples.map Prod.snd).getLast? with
        | some previous => if previous != current then [⟨place, previous, current⟩] else []
        | none => [] := by
  cases samples with
  | nil => rfl
  | cons sample samples =>
    obtain ⟨place', first⟩ := sample
    rw [List.cons_append, changes, changes, changesFrom_concat, List.map_cons, List.getLast?_cons]

/-! ## What the log keeps -/

/-- The changes stand at places of samples, with their values, in their order. -/
theorem changesFrom_sublist (previous : V) (samples : List (ι × V)) :
    ((changesFrom previous samples).map fun change => (change.place, change.current)).Sublist
      samples := by
  induction samples generalizing previous with
  | nil => exact List.Sublist.refl _
  | cons sample samples ih =>
    obtain ⟨place, current⟩ := sample
    rw [changesFrom]
    split
    · exact (ih current).cons_cons _
    · exact (ih current).cons _

/-- Every change is at a sample, in their order. -/
theorem changes_sublist (samples : List (ι × V)) :
    ((changes samples).map fun change => (change.place, change.current)).Sublist samples := by
  cases samples with
  | nil => exact List.Sublist.refl _
  | cons sample samples => exact (changesFrom_sublist sample.2 samples).cons _

/-- A change is a change. -/
theorem ne_of_mem_changesFrom {previous : V} {samples : List (ι × V)} {change : Change ι V}
    (h : change ∈ changesFrom previous samples) : (change.previous == change.current) = false := by
  induction samples generalizing previous with
  | nil => cases h
  | cons sample samples ih =>
    obtain ⟨place, current⟩ := sample
    rw [changesFrom] at h
    split at h
    · next hne =>
      rcases List.mem_cons.mp h with rfl | h
      · simpa [bne] using hne
      · exact ih h
    · exact ih h

/-- A change changes the value. -/
theorem ne_of_mem_changes {samples : List (ι × V)} {change : Change ι V}
    (h : change ∈ changes samples) : (change.previous == change.current) = false := by
  cases samples with
  | nil => cases h
  | cons sample samples => exact ne_of_mem_changesFrom h

/-- As many changes as samples that differ from the one before. -/
theorem length_changesFrom (previous : V) (samples : List (ι × V)) :
    (changesFrom previous samples).length =
      ((previous :: samples.map Prod.snd).zip (samples.map Prod.snd)).countP
        fun pair => pair.1 != pair.2 := by
  induction samples generalizing previous with
  | nil => rfl
  | cons sample samples ih =>
    obtain ⟨place, current⟩ := sample
    rw [changesFrom, List.map_cons, List.zip_cons_cons, List.countP_cons, ← ih]
    split
    · rfl
    · rfl

/-- There are as many changes as neighbours that differ. -/
theorem length_changes (samples : List (ι × V)) :
    (changes samples).length =
      ((samples.map Prod.snd).zip (samples.map Prod.snd).tail).countP
        fun pair => pair.1 != pair.2 := by
  cases samples with
  | nil => rfl
  | cons sample samples => exact length_changesFrom sample.2 samples

/-- Every change starts from the value of the one before. -/
theorem linked_changesFrom {first previous : V} (h : Same first previous)
    (samples : List (ι × V)) : Linked first (changesFrom previous samples) := by
  induction samples generalizing first previous with
  | nil => trivial
  | cons sample samples ih =>
    obtain ⟨place, current⟩ := sample
    rw [changesFrom]
    split
    · exact ⟨h, ih (Same.refl current)⟩
    · next heq => exact ih (h.tail (by simpa [bne] using heq))

/-- **The changes are linked**, from the first sample on. -/
theorem linked_changes {samples : List (ι × V)} {first : V}
    (hfirst : (samples.map Prod.snd).head? = some first) : Linked first (changes samples) := by
  cases samples with
  | nil => simp at hfirst
  | cons sample samples =>
    obtain rfl : sample.2 = first := by simpa using hfirst
    exact linked_changesFrom (Same.refl _) samples

/-- Samples that repeat the last value show no change. -/
theorem changesFrom_append_of_forall_eq [ReflBEq V] {value : V} {repeats : List (ι × V)}
    (hrepeats : ∀ sample ∈ repeats, sample.2 = value) (samples : List (ι × V)) :
    changesFrom value (repeats ++ samples) = changesFrom value samples := by
  induction repeats with
  | nil => rfl
  | cons sample repeats ih =>
    obtain ⟨place, current⟩ := sample
    obtain rfl : current = value := hrepeats _ List.mem_cons_self
    rw [List.cons_append, changesFrom, if_neg (by simp [bne]),
      ih fun sample hsample => hrepeats sample (List.mem_cons_of_mem _ hsample)]

/-! ## Two logs side by side -/

section Reading

variable {ι' W : Type*} [BEq W]

omit [BEq V] [BEq W] in
/-- The second sample reads the first one, through `f` and at a place related by `R`. -/
def ReadsAs (R : ι → ι' → Prop) (f : V → W) (sample : ι × V) (reading : ι' × W) : Prop :=
  R sample.1 reading.1 ∧ reading.2 = f sample.2

omit [BEq V] [BEq W] in
/-- The second change reads the first one, through `f` and at a place related by `R`. -/
structure Change.ReadsAs (R : ι → ι' → Prop) (f : V → W) (change : Change ι V)
    (reading : Change ι' W) : Prop where
  place : R change.place reading.place
  previous : reading.previous = f change.previous
  current : reading.current = f change.current

variable {R : ι → ι' → Prop} {f : V → W} {samples : List (ι × V)} {readings : List (ι' × W)}

/-- Two readings that tell the same values apart have the same changes. -/
theorem changesFrom_readsAs (hf : ∀ a b, (f a == f b) = (a == b))
    (h : List.Forall₂ (ReadsAs R f) samples readings) (previous : V) :
    List.Forall₂ (Change.ReadsAs R f) (changesFrom previous samples)
      (changesFrom (f previous) readings) := by
  induction h generalizing previous with
  | nil => exact List.Forall₂.nil
  | @cons sample reading samples readings hread _ ih =>
    obtain ⟨place, current⟩ := sample
    obtain ⟨place', current'⟩ := reading
    obtain ⟨hplace, rfl⟩ : R place place' ∧ current' = f current := hread
    have hne : (f previous != f current) = (previous != current) := by rw [bne, bne, hf]
    rw [changesFrom, changesFrom, hne]
    split
    · exact List.Forall₂.cons ⟨hplace, rfl, rfl⟩ (ih current)
    · exact ih current

/-- **Reading the samples through a faithful function reads their changes.** -/
theorem changes_readsAs (hf : ∀ a b, (f a == f b) = (a == b))
    (h : List.Forall₂ (ReadsAs R f) samples readings) :
    List.Forall₂ (Change.ReadsAs R f) (changes samples) (changes readings) := by
  cases h with
  | nil => exact List.Forall₂.nil
  | @cons sample reading samples readings hread hrest =>
    rw [changes, changes, hread.2]
    exact changesFrom_readsAs hf hrest sample.2

end Reading

/-! ## Reading the log back -/

section Replay

variable [Preorder ι] [DecidableLE ι]

/-- Nothing is logged before the first sample. -/
theorem filter_changesFrom_eq_nil {samples : List (ι × V)} {place : ι}
    (hlater : ∀ sample ∈ samples, place < sample.1) (previous : V) :
    (changesFrom previous samples).filter (·.place ≤ place) = [] := by
  rw [List.filter_eq_nil_iff]
  intro change hchange hle
  have hmem : (change.place, change.current) ∈ samples :=
    (changesFrom_sublist previous samples).subset (List.mem_map_of_mem hchange)
  have hlt : place < change.place := hlater _ hmem
  exact absurd hlt (not_lt_of_ge (by simpa using hle))

/-- The changes after a value, read back up to a sample's place. -/
theorem replay_changesFrom {samples : List (ι × V)} (hsorted : samples.Pairwise (·.1 < ·.1))
    {first previous : V} (hfirst : Same first previous) {place : ι} {value : V}
    (hmem : (place, value) ∈ samples) :
    Same (replay first ((changesFrom previous samples).filter (·.place ≤ place))) value := by
  induction samples generalizing first previous with
  | nil => cases hmem
  | cons sample samples ih =>
    obtain ⟨place', current⟩ := sample
    obtain ⟨hlater, hsorted⟩ := List.pairwise_cons.mp hsorted
    -- after the first sample, from a value that is the same as it
    have hrest : ∀ first, Same first current →
        Same (replay first ((changesFrom current samples).filter (·.place ≤ place))) value := by
      intro first hfirst
      rcases List.mem_cons.mp hmem with heq | hmem
      · obtain ⟨rfl, rfl⟩ := Prod.mk.inj heq
        rw [filter_changesFrom_eq_nil hlater]
        exact hfirst
      · exact ih hsorted hfirst hmem
    have hplace : place' ≤ place := by
      rcases List.mem_cons.mp hmem with heq | hmem
      · exact (Prod.mk.inj heq).1.ge
      · exact (hlater _ hmem).le
    rw [changesFrom]
    split
    · rw [List.filter_cons_of_pos (by simpa using hplace)]
      exact hrest current (Same.refl current)
    · next heq => exact hrest first (hfirst.tail (by simpa [bne] using heq))

/-- **The log gives the samples back**, each from the changes up to its own place. -/
theorem replay_changes {samples : List (ι × V)} (hsorted : samples.Pairwise (·.1 < ·.1))
    {first : V} (hfirst : (samples.map Prod.snd).head? = some first) {place : ι} {value : V}
    (hmem : (place, value) ∈ samples) :
    Same (replay first ((changes samples).filter (·.place ≤ place))) value := by
  cases samples with
  | nil => cases hmem
  | cons sample samples =>
    obtain ⟨place', first'⟩ := sample
    obtain rfl : first' = first := by simpa using hfirst
    obtain ⟨hlater, hsorted⟩ := List.pairwise_cons.mp hsorted
    rcases List.mem_cons.mp hmem with heq | hmem
    · obtain ⟨rfl, rfl⟩ := Prod.mk.inj heq
      rw [changes, filter_changesFrom_eq_nil hlater]
      exact Same.refl _
    · exact replay_changesFrom hsorted (Same.refl _) hmem

end Replay

end Timeline
