import HumaWare.Python.Float
import Mathlib.Data.Int.Log
import Mathlib.Data.Rat.Floor

/-! # The arithmetic of Python floats

A sum, a difference and a quotient of floats are the exact ones, rounded to the float nearest to
them. Two arithmetics are told apart: the exact one, which rounds nothing, and binary64, the one of
the interpreter: 53 binary places, the last of them at least `2 ^ -1074`, halfway cases to the even
one, and infinite from `2 ^ 1024` on.

* **`Arithmetic.round`** — the rounding, with `add`, `sub` and `recip` for the operations;
* **`isBinary64_nearest`**, **`nearest_le`** — a rounded value is a float, and rounding up never
  passes a float. -/

namespace Python

/-! ## The nearest integer -/

/-- The integer nearest to `q`, and the even one of two that are equally near. -/
def roundHalfEven (q : ℚ) : ℤ :=
  if 1 / 2 < Int.fract q ∨ Int.fract q = 1 / 2 ∧ ¬Even ⌊q⌋ then ⌊q⌋ + 1 else ⌊q⌋

/-- Rounding goes to one of the two integers around. -/
theorem roundHalfEven_cases (q : ℚ) :
    roundHalfEven q = ⌊q⌋ ∨ roundHalfEven q = ⌊q⌋ + 1 ∧ (⌊q⌋ : ℚ) < q := by
  unfold roundHalfEven
  split
  · next hup =>
    refine Or.inr ⟨rfl, ?_⟩
    have hfract : 0 < Int.fract q := by
      rcases hup with hmore | ⟨hhalf, -⟩ <;> linarith
    have hsplit := Int.floor_add_fract q
    linarith
  · exact Or.inl rfl

/-- An integer that is at least `q` is at least the rounded `q`. -/
theorem roundHalfEven_le {q : ℚ} {n : ℤ} (h : q ≤ n) : roundHalfEven q ≤ n := by
  rcases roundHalfEven_cases q with hfloor | ⟨hceil, hlt⟩
  · rw [hfloor]
    exact Int.floor_le_iff.mpr (h.trans_lt (by linarith))
  · have hless : ⌊q⌋ < n := by exact_mod_cast hlt.trans_le h
    omega

/-- An integer that is at most `q` is at most the rounded `q`. -/
theorem le_roundHalfEven {q : ℚ} {n : ℤ} (h : (n : ℚ) ≤ q) : n ≤ roundHalfEven q := by
  have hfloor : n ≤ ⌊q⌋ := Int.le_floor.mpr h
  rcases roundHalfEven_cases q with heq | ⟨heq, -⟩ <;> omega

/-! ## The nearest float -/

/-- The exponent of the last binary place of a float of the size of `q`. -/
def lastPlace (q : ℚ) : ℤ := max (Int.log 2 |q| - 52) (-1074)

/-- The value with 53 binary places nearest to `q`. -/
def nearest (q : ℚ) : ℚ := roundHalfEven (q / 2 ^ lastPlace q) * 2 ^ lastPlace q

/-- A value that has no digit below its last binary place. -/
def IsBinary64 (q : ℚ) : Prop := ∃ m : ℤ, q = m * 2 ^ lastPlace q

/-- A larger value has a last place that is no lower. -/
theorem lastPlace_mono {a b : ℚ} (ha : a ≠ 0) (h : |a| ≤ |b|) : lastPlace a ≤ lastPlace b := by
  have hlog := Int.log_mono_right (b := 2) (abs_pos.mpr ha) h
  unfold lastPlace
  omega

/-- A value is less than `2 ^ 53` of its last places. -/
theorem abs_lt_lastPlace (q : ℚ) : |q| < 2 ^ 53 * 2 ^ lastPlace q := by
  have hlog := Int.lt_zpow_succ_log_self (b := 2) one_lt_two |q|
  have hle : Int.log 2 |q| + 1 ≤ 53 + lastPlace q := by
    unfold lastPlace
    omega
  have hpow : (2 : ℚ) ^ (Int.log 2 |q| + 1) ≤ 2 ^ (53 + lastPlace q) :=
    zpow_le_zpow_right₀ one_le_two hle
  rw [zpow_add₀ two_ne_zero 53] at hpow
  exact lt_of_lt_of_le (by exact_mod_cast hlog) hpow

/-- So is the rounded value, up to the last. -/
theorem abs_roundHalfEven_le (q : ℚ) : |roundHalfEven (q / 2 ^ lastPlace q)| ≤ 2 ^ 53 := by
  have hplace : (0 : ℚ) < 2 ^ lastPlace q := zpow_pos two_pos _
  have hlt := abs_lt.mp (abs_lt_lastPlace q)
  refine abs_le.mpr ⟨le_roundHalfEven ?_, roundHalfEven_le ?_⟩
  · rw [le_div_iff₀ hplace]
    push_cast
    linarith [hlt.1]
  · rw [div_le_iff₀ hplace]
    push_cast
    exact hlt.2.le

/-- The last place of a value that is less than `2 ^ 53` places `2 ^ e` is at most that place. -/
theorem lastPlace_le {q : ℚ} {e : ℤ} (hq : q ≠ 0) (he : -1074 ≤ e) (h : |q| < 2 ^ 53 * 2 ^ e) :
    lastPlace q ≤ e := by
  have hlog := Int.zpow_log_le_self (b := 2) one_lt_two (abs_pos.mpr hq)
  have hlt : (2 : ℚ) ^ Int.log 2 |q| < 2 ^ (53 + e) := by
    rw [zpow_add₀ two_ne_zero]
    exact lt_of_le_of_lt (by exact_mod_cast hlog) h
  have hless : Int.log 2 |q| < 53 + e := (zpow_lt_zpow_iff_right₀ one_lt_two).mp hlt
  unfold lastPlace
  omega

/-- A whole number of places `2 ^ e` is one of lower places. -/
theorem exists_mul_zpow {e e' : ℤ} (h : e' ≤ e) (m : ℤ) : ∃ m' : ℤ, (m : ℚ) * 2 ^ e = m' * 2 ^ e' := by
  obtain ⟨n, hn⟩ := Int.eq_ofNat_of_zero_le (sub_nonneg.mpr h)
  refine ⟨m * 2 ^ n, ?_⟩
  have hsum : e = n + e' := by omega
  rw [hsum, zpow_add₀ two_ne_zero, zpow_natCast]
  push_cast
  ring

/-- Fewer than `2 ^ 53` places, or just as many, are a float. -/
theorem isBinary64_mul {m e : ℤ} (he : -1074 ≤ e) (hm : |m| ≤ 2 ^ 53) :
    IsBinary64 ((m : ℚ) * 2 ^ e) := by
  by_cases hzero : m = 0
  · exact ⟨0, by rw [hzero, Int.cast_zero, zero_mul, zero_mul]⟩
  have hplace : (0 : ℚ) < 2 ^ e := zpow_pos two_pos _
  have hne : (m : ℚ) * 2 ^ e ≠ 0 := mul_ne_zero (by exact_mod_cast hzero) hplace.ne'
  have habs : |(m : ℚ) * 2 ^ e| = |m| * 2 ^ e := by
    rw [abs_mul, abs_of_pos hplace, Int.cast_abs]
  rcases hm.lt_or_eq with hlt | heq
  · have hbound : |(m : ℚ) * 2 ^ e| < 2 ^ 53 * 2 ^ e := by
      rw [habs]
      exact mul_lt_mul_of_pos_right (by exact_mod_cast hlt) hplace
    exact exists_mul_zpow (lastPlace_le hne he hbound) m
  · -- the value is a power of two, whose own last place is one higher
    have hbound : |(m : ℚ) * 2 ^ e| < 2 ^ 53 * 2 ^ (e + 1) := by
      rw [habs, heq, zpow_add_one₀ two_ne_zero]
      push_cast
      linarith
    have heven : (m : ℚ) * 2 ^ e = (m / 2 : ℤ) * 2 ^ (e + 1) := by
      have hhalf : m = m / 2 * 2 := by
        rcases (abs_eq (by decide)).mp heq with rfl | rfl <;> rfl
      rw [zpow_add_one₀ two_ne_zero]
      nth_rewrite 1 [hhalf]
      push_cast
      ring
    obtain ⟨m', hm'⟩ := exists_mul_zpow (lastPlace_le hne (by omega) hbound) (m / 2)
    exact ⟨m', heven.trans hm'⟩

/-- **A rounded value is a float.** -/
theorem isBinary64_nearest (q : ℚ) : IsBinary64 (nearest q) :=
  isBinary64_mul (le_max_right _ _) (abs_roundHalfEven_le q)

/-- **Rounding never passes a float.** -/
theorem nearest_le {q b : ℚ} (hb : IsBinary64 b) (hq : 0 ≤ q) (h : q ≤ b) : nearest q ≤ b := by
  rcases hq.eq_or_lt with rfl | hpos
  · have hzero : nearest 0 = 0 := by decide +kernel
    rwa [hzero]
  have hplace : (0 : ℚ) < 2 ^ lastPlace q := zpow_pos two_pos _
  have hmono : lastPlace q ≤ lastPlace b := by
    apply lastPlace_mono hpos.ne'
    rwa [abs_of_pos hpos, abs_of_pos (hpos.trans_le h)]
  obtain ⟨m, hm⟩ := hb
  obtain ⟨m', hm'⟩ := exists_mul_zpow hmono m
  have hint : b = m' * 2 ^ lastPlace q := hm.trans hm'
  rw [hint] at h ⊢
  have hround : roundHalfEven (q / 2 ^ lastPlace q) ≤ m' :=
    roundHalfEven_le ((div_le_iff₀ hplace).mpr h)
  exact mul_le_mul_of_nonneg_right (by exact_mod_cast hround) hplace.le

/-- Rounding keeps the sign. -/
theorem nearest_nonneg {q : ℚ} (hq : 0 ≤ q) : 0 ≤ nearest q := by
  have hplace : (0 : ℚ) < 2 ^ lastPlace q := zpow_pos two_pos _
  have hround : 0 ≤ roundHalfEven (q / 2 ^ lastPlace q) :=
    le_roundHalfEven (by rw [Int.cast_zero]; exact div_nonneg hq hplace.le)
  exact mul_nonneg (by exact_mod_cast hround) hplace.le

/-! ## The operations -/

/-- How the result of an operation is rounded. -/
inductive Arithmetic
  | exact
  | binary64
  deriving DecidableEq, Repr

namespace Arithmetic

/-- The float that stands for the exact result `q`. -/
def round : Arithmetic → ℚ → PyFloat
  | .exact, q => .fin q
  | .binary64, q =>
    if |nearest q| < 2 ^ 1024 then .fin (nearest q) else if 0 < q then .posInf else .negInf

variable (A : Arithmetic)

/-- `a + b`. -/
def add : PyFloat → PyFloat → PyFloat
  | .fin a, .fin b => A.round (a + b)
  | .nan, _ | _, .nan | .posInf, .negInf | .negInf, .posInf => .nan
  | .posInf, _ | _, .posInf => .posInf
  | .negInf, _ | _, .negInf => .negInf

/-- `a - b`. -/
def sub (a b : PyFloat) : PyFloat := A.add a (-b)

/-- `1.0 / a`, for an `a` other than zero. -/
def recip : PyFloat → PyFloat
  | .fin q => A.round q⁻¹
  | .posInf | .negInf => 0
  | .nan => .nan

/-- In binary64, `0.1 + 0.2` is not `0.3`. -/
example : binary64.add (binary64.round (1 / 10)) (binary64.round (2 / 10)) ≠ binary64.round (3 / 10) := by
  decide +kernel

/-- Exact arithmetic does not round. -/
@[simp] theorem exact_round (q : ℚ) : exact.round q = .fin q := rfl

/-- Exact sums of finite values. -/
@[simp] theorem exact_add_fin (a b : ℚ) : exact.add (.fin a) (.fin b) = .fin (a + b) := rfl

/-- Exact differences of finite values. -/
@[simp] theorem exact_sub_fin (a b : ℚ) : exact.sub (.fin a) (.fin b) = .fin (a - b) := by
  rw [sub, PyFloat.neg_fin, exact_add_fin, sub_eq_add_neg]

/-- A result that is not negative is not rounded below zero. -/
theorem zero_le_round {q : ℚ} (hq : 0 ≤ q) : 0 ≤ A.round q := by
  cases A with
  | exact => exact PyFloat.fin_le_fin.mpr hq
  | binary64 =>
    by_cases hsmall : |nearest q| < 2 ^ 1024
    · rw [round, if_pos hsmall]
      exact PyFloat.fin_le_fin.mpr (nearest_nonneg hq)
    rcases hq.eq_or_lt with rfl | hpos
    · exact absurd (by decide +kernel) hsmall
    · rw [round, if_neg hsmall, if_pos hpos]
      rfl

end Arithmetic

end Python
