import Mathlib.Data.Finset.Card
import Mathlib.Data.Finset.Range
import Mathlib.Tactic.ByContra
import Mathlib.Tactic.Linarith

/-! # Loops over finitely many states

A `while` loop whose body is a function of the loop's variables: one round gives their next values, or
`none` when the loop stops. If the values stay within a finite set, a loop that has not stopped after as
many rounds as the set has elements was twice in the same place, and goes round for ever.

* **`loopFor`** — where a loop is after a number of rounds;
* **`loopFor_ne_none`** — a loop over finitely many states stops soon or never. -/

namespace Python

variable {α : Type*}

/-- Where a loop is after `n` rounds: `none` once it has stopped. -/
def loopFor (round : α → Option α) : ℕ → α → Option α
  | 0, a => some a
  | n + 1, a => (round a).bind (loopFor round n)

variable {round : α → Option α} {a b : α}

/-- The rounds of a loop may be counted in two parts. -/
theorem loopFor_add (m n : ℕ) (a : α) :
    loopFor round (m + n) a = (loopFor round m a).bind (loopFor round n) := by
  induction m generalizing a with
  | zero =>
    rw [Nat.zero_add]
    rfl
  | succ m ih =>
    rw [Nat.succ_add, loopFor, loopFor, Option.bind_assoc]
    congr 1
    funext a
    exact ih a

/-- A loop that goes on for longer has gone on for as long. -/
theorem loopFor_ne_none_of_le {m n : ℕ} (hmn : m ≤ n) (hn : loopFor round n a ≠ none) :
    loopFor round m a ≠ none := by
  obtain ⟨k, rfl⟩ := Nat.exists_eq_add_of_le hmn
  intro hm
  rw [loopFor_add, hm] at hn
  exact hn rfl

/-- A loop that comes back to where it was does so again and again. -/
theorem loopFor_mul {p : ℕ} (hp : loopFor round p b = some b) (k : ℕ) :
    loopFor round (k * p) b = some b := by
  induction k with
  | zero =>
    rw [Nat.zero_mul]
    rfl
  | succ k ih => rw [Nat.succ_mul, loopFor_add, ih, Option.bind_some, hp]

/-- What the rounds keep holds where the loop is. -/
theorem mem_of_loopFor {S : Finset α} (hS : ∀ a ∈ S, ∀ b, round a = some b → b ∈ S) (ha : a ∈ S)
    {n : ℕ} (hn : loopFor round n a = some b) : b ∈ S := by
  induction n generalizing a with
  | zero =>
    rw [← Option.some.inj hn]
    exact ha
  | succ n ih =>
    obtain ⟨a', hround, hn⟩ := Option.bind_eq_some_iff.mp hn
    exact ih (hS a ha a' hround) hn

/-- **A loop over finitely many states stops soon or never**: if it goes on for as many rounds as
there are states, it goes on. -/
theorem loopFor_ne_none {S : Finset α} (hS : ∀ a ∈ S, ∀ b, round a = some b → b ∈ S) (ha : a ∈ S)
    {n : ℕ} (hcard : S.card ≤ n) (hn : loopFor round n a ≠ none) (m : ℕ) : loopFor round m a ≠ none := by
  have hvisited : ∀ i ∈ Finset.range (n + 1), ∃ b ∈ S, loopFor round i a = some b := by
    intro i hi
    have hgoing := loopFor_ne_none_of_le (Nat.lt_succ_iff.mp (Finset.mem_range.mp hi)) hn
    obtain ⟨b, hb⟩ := Option.ne_none_iff_exists'.mp hgoing
    exact ⟨b, mem_of_loopFor hS ha hb, hb⟩
  have : Nonempty α := ⟨a⟩
  choose! visit hmem hvisit using hvisited
  have hmore : S.card < (Finset.range (n + 1)).card := by
    rw [Finset.card_range]
    exact Nat.lt_succ_iff.mpr hcard
  -- two of the rounds end in the same state
  obtain ⟨i, hi, j, hj, hne, hsame⟩ := Finset.exists_ne_map_eq_of_card_lt_of_maps_to hmore hmem
  have hperiod : ∀ {i j : ℕ}, i < j → i ∈ Finset.range (n + 1) → j ∈ Finset.range (n + 1) →
      visit i = visit j → loopFor round m a ≠ none := by
    intro i j hij hi hj hsame
    obtain ⟨p, rfl⟩ := Nat.exists_eq_add_of_lt hij
    have hback : loopFor round (p + 1) (visit i) = some (visit i) := by
      have hlater := hvisit _ hj
      rwa [Nat.add_assoc, loopFor_add, hvisit i hi, Option.bind_some, ← Nat.add_assoc, ← hsame] at hlater
    have hlate : loopFor round (i + m * (p + 1)) a ≠ none := by
      rw [loopFor_add, hvisit i hi, Option.bind_some, loopFor_mul hback]
      exact Option.some_ne_none _
    refine loopFor_ne_none_of_le ?_ hlate
    exact (Nat.le_mul_of_pos_right m (Nat.succ_pos p)).trans (Nat.le_add_left _ _)
  rcases hne.lt_or_gt with hlt | hlt
  · exact hperiod hlt hi hj hsame
  · exact hperiod hlt hj hi hsame.symm

end Python
