import Mathlib.Data.List.TakeDrop
import Mathlib.Data.List.TakeWhile
import Mathlib.Data.String.Basic

/-! # Python strings

The string methods that the programs modelled here call, on Lean's strings. -/

namespace Python

/-- `s.lstrip(c)` for a single character `c`. -/
def lstrip (s : String) (c : Char) : String := String.ofList (s.toList.dropWhile (· == c))

/-- `s.endswith(suffix)`. -/
def endsWith (s suffix : String) : Bool := suffix.toList.isSuffixOf s.toList

/-- `s.split(sep, 1)` for a single character `sep`. -/
def splitOnce (s : String) (sep : Char) : List String :=
  match s.toList.span (· ≠ sep) with
  | (_, []) => [s]
  | (before, _ :: after) => [String.ofList before, String.ofList after]

/-- `s.split(sep)` for a single character `sep`. -/
def split (s : String) (sep : Char) : List String := (s.toList.splitOn sep).map String.ofList

example : lstrip "//hw/mode/state" '/' = "hw/mode/state" := by decide

example : splitOnce "hw/mode/state" '/' = ["hw", "mode/state"] := by decide

example : split "maintenance|inactive|teleop" '|' = ["maintenance", "inactive", "teleop"] := by decide

/-- The characters that `lstrip` leaves. -/
@[simp] theorem toList_lstrip (s : String) (c : Char) :
    (lstrip s c).toList = s.toList.dropWhile (· == c) := String.toList_ofList

/-- `endswith` tests for a suffix. -/
theorem endsWith_iff {s suffix : String} : endsWith s suffix = true ↔ suffix.toList <:+ s.toList :=
  List.isSuffixOf_iff_suffix

/-- What `lstrip` takes off. -/
theorem exists_replicate_append (s : String) (c : Char) :
    ∃ n, s.toList = List.replicate n c ++ (lstrip s c).toList := by
  refine ⟨(s.toList.takeWhile (· == c)).length, ?_⟩
  have hall : ∀ d ∈ s.toList.takeWhile (· == c), d = c := by
    intro d hd
    simpa using List.mem_takeWhile_imp hd
  rw [toList_lstrip, ← List.eq_replicate_of_mem hall, List.takeWhile_append_dropWhile]

/-- **A trailing segment survives `lstrip`.** Equality with a text that does not begin with the
separator, or ending with it after a separator, can be tested with or without leading separators. -/
theorem lstrip_eq_or_endsWith_iff {s t : String} {c : Char} (ht : t.toList.head? ≠ some c) :
    lstrip s c = t ∨ endsWith (lstrip s c) (String.singleton c ++ t) = true ↔
      s = t ∨ endsWith s (String.singleton c ++ t) = true := by
  have hstripped : t.toList.dropWhile (· == c) = t.toList := by
    cases h : t.toList with
    | nil => rfl
    | cons d ds =>
      have hd : d ≠ c := by simpa [h] using ht
      simp [hd]
  simp only [← String.toList_inj, endsWith_iff, toList_lstrip, String.toList_append,
    String.toList_singleton, List.singleton_append]
  constructor
  · obtain ⟨n, hs⟩ := exists_replicate_append s c
    rw [toList_lstrip] at hs
    rintro (heq | hsuffix)
    · rw [heq] at hs
      cases n with
      | zero => exact Or.inl (by simpa using hs)
      | succ n =>
        refine Or.inr ⟨List.replicate n c, ?_⟩
        rw [hs, List.replicate_succ']
        simp
    · exact Or.inr (hsuffix.trans ⟨_, hs.symm⟩)
  · rintro (heq | ⟨before, hbefore⟩)
    · exact Or.inl (by rw [heq, hstripped])
    · rw [← hbefore, List.dropWhile_append]
      split
      · left
        simp [hstripped]
      · exact Or.inr (List.suffix_append _ _)

/-- A text without the separator is not split. -/
theorem splitOnce_of_not_mem {s : String} {sep : Char} (h : sep ∉ s.toList) :
    splitOnce s sep = [s] := by
  have hrest : s.toList.dropWhile (· ≠ sep) = [] := by
    rw [List.dropWhile_eq_nil_iff]
    intro d hd
    simpa using ne_of_mem_of_not_mem hd h
  rw [splitOnce, List.span_eq_takeWhile_dropWhile, hrest]

/-- A text is split at its first separator. -/
theorem splitOnce_append {before after : String} {sep : Char} (h : sep ∉ before.toList) :
    splitOnce (before ++ String.singleton sep ++ after) sep = [before, after] := by
  have hkeep : ∀ d ∈ before.toList, (decide (d ≠ sep)) = true := by
    intro d hd
    simpa using ne_of_mem_of_not_mem hd h
  simp only [splitOnce, List.span_eq_takeWhile_dropWhile, String.toList_append,
    String.toList_singleton, List.append_assoc, List.singleton_append,
    List.takeWhile_append_of_pos hkeep, List.dropWhile_append_of_pos hkeep]
  simp

/-- Either the separator does not occur, or there is a first one. -/
theorem not_mem_or_exists_append (s : String) (sep : Char) :
    sep ∉ s.toList ∨ ∃ before after : String, sep ∉ before.toList ∧
      s = before ++ String.singleton sep ++ after := by
  by_cases h : sep ∈ s.toList
  · obtain ⟨before, after, heq, hbefore⟩ := List.eq_append_cons_of_mem h
    refine Or.inr ⟨String.ofList before, String.ofList after, by simpa using hbefore, ?_⟩
    simp [← String.toList_inj, heq]
  · exact Or.inl h

end Python
