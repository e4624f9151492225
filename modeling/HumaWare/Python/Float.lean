import Mathlib.Data.Rat.Defs
import Mathlib.Algebra.Order.Ring.Rat
import Mathlib.Tactic.Linarith

/-! # Python floats

The floating-point values a Python program compares, negates and clamps: the rationals together with
the two infinities and the value that is not a number. The sign of zero is left out, and a sum is
rounded by an arithmetic (`Rounding`). Comparisons follow IEEE 754: every comparison with `nan` is
false, equality of a `nan` with itself included, so `≤` is *not* reflexive and the built-in `min` and
`max` depend on the order of their arguments. Both are therefore written as Python evaluates them: keep the first argument
unless the second compares strictly smaller (larger). -/

namespace Python

/-- A Python float, without signed zero. -/
inductive PyFloat
  | nan
  | negInf
  | fin (q : ℚ)
  | posInf
  deriving DecidableEq, Repr

namespace PyFloat

instance : Zero PyFloat := ⟨.fin 0⟩

instance : Inhabited PyFloat := ⟨0⟩

/-- `a <= b` as Python evaluates it. -/
def ble : PyFloat → PyFloat → Bool
  | .fin a, .fin b => decide (a ≤ b)
  | .negInf, .negInf | .negInf, .fin _ | .negInf, .posInf => true
  | .fin _, .posInf | .posInf, .posInf => true
  | _, _ => false

/-- `a < b` as Python evaluates it. -/
def blt : PyFloat → PyFloat → Bool
  | .fin a, .fin b => decide (a < b)
  | .negInf, .fin _ | .negInf, .posInf | .fin _, .posInf => true
  | _, _ => false

instance : LE PyFloat := ⟨fun a b => ble a b = true⟩

instance : LT PyFloat := ⟨fun a b => blt a b = true⟩

instance (a b : PyFloat) : Decidable (a ≤ b) := inferInstanceAs (Decidable (ble a b = true))

instance (a b : PyFloat) : Decidable (a < b) := inferInstanceAs (Decidable (blt a b = true))

/-- Negation. -/
def neg : PyFloat → PyFloat
  | .nan => .nan
  | .negInf => .posInf
  | .fin q => .fin (-q)
  | .posInf => .negInf

instance : Neg PyFloat := ⟨neg⟩

/-- The built-in `abs`. -/
def abs : PyFloat → PyFloat
  | .nan => .nan
  | .negInf => .posInf
  | .fin q => .fin |q|
  | .posInf => .posInf

/-- The built-in `min(a, b)`: the second argument only if it compares strictly smaller. -/
def pyMin (a b : PyFloat) : PyFloat := if b < a then b else a

/-- The built-in `max(a, b)`: the second argument only if it compares strictly larger. -/
def pyMax (a b : PyFloat) : PyFloat := if a < b then b else a

/-- Finite values compare as numbers. -/
@[simp] theorem fin_le_fin {a b : ℚ} : (fin a ≤ fin b) ↔ a ≤ b := decide_eq_true_iff

/-- Finite values compare strictly as numbers. -/
@[simp] theorem fin_lt_fin {a b : ℚ} : (fin a < fin b) ↔ a < b := decide_eq_true_iff

/-- The negative of a finite value. -/
@[simp] theorem neg_fin (q : ℚ) : -fin q = fin (-q) := rfl

/-- The absolute value of a finite value. -/
@[simp] theorem abs_fin (q : ℚ) : abs (fin q) = fin |q| := rfl

/-- No comparison with NaN holds. -/
@[simp] theorem not_nan_le (a : PyFloat) : ¬nan ≤ a := by
  cases a <;> exact Bool.false_ne_true

/-- NaN bounds nothing. -/
@[simp] theorem not_le_nan (a : PyFloat) : ¬a ≤ nan := by
  cases a <;> exact Bool.false_ne_true

/-- Nothing is below NaN. -/
@[simp] theorem not_lt_nan (a : PyFloat) : ¬a < nan := by
  cases a <;> exact Bool.false_ne_true

/-- NaN is below nothing. -/
@[simp] theorem not_nan_lt (a : PyFloat) : ¬nan < a := by
  cases a <;> exact Bool.false_ne_true

/-- Two values that are both numbers compare in one way or the other. -/
theorem le_or_lt {a b : PyFloat} (ha : a ≠ nan) (hb : b ≠ nan) : a ≤ b ∨ b < a := by
  cases a with
  | nan => exact absurd rfl ha
  | negInf =>
    cases b with
    | nan => exact absurd rfl hb
    | negInf | fin b | posInf => exact Or.inl rfl
  | posInf =>
    cases b with
    | nan => exact absurd rfl hb
    | negInf | fin b => exact Or.inr rfl
    | posInf => exact Or.inl rfl
  | fin a =>
    cases b with
    | nan => exact absurd rfl hb
    | negInf => exact Or.inr rfl
    | fin b => exact (le_or_gt a b).imp fin_le_fin.mpr fin_lt_fin.mpr
    | posInf => exact Or.inl rfl

/-- Nothing is both at most another value and greater than it. -/
theorem not_lt_of_le {a b : PyFloat} (h : a ≤ b) : ¬b < a := by
  cases a with
  | nan => exact absurd h (not_nan_le b)
  | negInf => cases b <;> exact Bool.false_ne_true
  | fin a =>
    cases b with
    | nan => exact not_nan_lt _
    | negInf => exact absurd h Bool.false_ne_true
    | fin b => exact fun hlt => absurd (fin_le_fin.mp h) (not_le.mpr (fin_lt_fin.mp hlt))
    | posInf => exact Bool.false_ne_true
  | posInf =>
    cases b with
    | posInf => exact Bool.false_ne_true
    | nan | negInf | fin b => exact absurd h Bool.false_ne_true

/-- On finite values the built-ins are the usual minimum and maximum. -/
@[simp] theorem pyMin_fin (a b : ℚ) : pyMin (fin a) (fin b) = fin (min a b) := by
  rw [pyMin, min_def]
  by_cases h : b < a
  · rw [if_pos (fin_lt_fin.mpr h), if_neg (not_le.mpr h)]
  · rw [if_neg (mt fin_lt_fin.mp h), if_pos (not_lt.mp h)]

/-- `max` of finite values is that of the numbers. -/
@[simp] theorem pyMax_fin (a b : ℚ) : pyMax (fin a) (fin b) = fin (max a b) := by
  rw [pyMax, max_def]
  by_cases h : a < b
  · rw [if_pos (fin_lt_fin.mpr h), if_pos h.le]
  · rcases (not_lt.mp h).lt_or_eq with hlt | rfl
    · rw [if_neg (mt fin_lt_fin.mp h), if_neg (not_le.mpr hlt)]
    · rw [if_neg (mt fin_lt_fin.mp h), if_pos le_rfl]

/-- Clamping zero between a limit that compares at least zero and its negative gives zero. -/
theorem clamp_zero {limit : PyFloat} (h : (0 : PyFloat) ≤ limit) :
    pyMax (-limit) (pyMin limit 0) = 0 := by
  cases limit with
  | nan => exact absurd h (by decide)
  | negInf => exact absurd h (by decide)
  | posInf => decide
  | fin q =>
    have hq : 0 ≤ q := fin_le_fin.mp h
    rcases hq.lt_or_eq with hpos | rfl
    · have hmin : pyMin (fin q) 0 = 0 := if_pos (fin_lt_fin.mpr hpos)
      rw [hmin, pyMax, neg_fin]
      exact if_pos (fin_lt_fin.mpr (neg_lt_zero.mpr hpos))
    · decide

end PyFloat

end Python
