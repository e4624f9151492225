import Mathlib.Data.List.Nodup
import Mathlib.Data.List.Induction

/-! # Python dictionaries

An insertion-ordered dictionary: assigning to a key that is present replaces its value in place, and
a new key goes to the end. That no key occurs twice is a field of the structure. -/

namespace Python

/-- A dictionary, as its items in insertion order. -/
structure Dict (κ ν : Type*) where
  /-- The items, oldest key first. -/
  items : List (κ × ν)
  nodup : (items.map Prod.fst).Nodup

namespace Dict

variable {κ ν : Type*}

/-- The dictionary without items. -/
def empty : Dict κ ν := ⟨[], List.nodup_nil⟩

variable [DecidableEq κ]

/-- `d.get(k)`. -/
def get? (d : Dict κ ν) (k : κ) : Option ν := d.items.lookup k

/-- The items after an assignment. -/
def assign (k : κ) (v : ν) : List (κ × ν) → List (κ × ν)
  | [] => [(k, v)]
  | (k', v') :: items => if k' = k then (k, v) :: items else (k', v') :: assign k v items

/-- An assignment keeps the keys that are present and adds a missing one at the end. -/
theorem keys_assign (k : κ) (v : ν) (items : List (κ × ν)) :
    (assign k v items).map Prod.fst =
      if k ∈ items.map Prod.fst then items.map Prod.fst else items.map Prod.fst ++ [k] := by
  induction items with
  | nil => rfl
  | cons item items ih =>
    obtain ⟨k', v'⟩ := item
    by_cases hk : k' = k
    · subst hk
      simp [assign]
    · rw [assign, if_neg hk, List.map_cons, ih]
      split <;> simp_all [Ne.symm hk]

/-- `d[k] = v`. -/
def set (d : Dict κ ν) (k : κ) (v : ν) : Dict κ ν where
  items := assign k v d.items
  nodup := by
    rw [keys_assign]
    split
    · exact d.nodup
    · next hk => exact List.Nodup.append d.nodup (List.nodup_singleton k) (by simpa using hk)

/-- `{key(v): v for v in values}`: later values replace earlier ones under the same key. -/
def ofValues (key : ν → κ) (values : List ν) : Dict κ ν :=
  values.foldl (fun d v => d.set (key v) v) empty

/-- An empty dictionary has no entry. -/
@[simp] theorem get?_empty (k : κ) : (empty : Dict κ ν).get? k = none := rfl

/-- Reading the key just assigned. -/
@[simp] theorem get?_set_self (d : Dict κ ν) (k : κ) (v : ν) : (d.set k v).get? k = some v := by
  obtain ⟨items, hnodup⟩ := d
  simp only [get?, set]
  clear hnodup
  induction items with
  | nil => simp [assign]
  | cons item items ih =>
    obtain ⟨k', v'⟩ := item
    by_cases hk : k' = k
    · simp [assign, hk]
    · rw [assign, if_neg hk, List.lookup_cons, beq_false_of_ne (Ne.symm hk)]
      exact ih

/-- Reading another key than the one assigned. -/
theorem get?_set_of_ne (d : Dict κ ν) {k k' : κ} (v : ν) (h : k' ≠ k) :
    (d.set k v).get? k' = d.get? k' := by
  obtain ⟨items, hnodup⟩ := d
  simp only [get?, set]
  clear hnodup
  induction items with
  | nil => simp [assign, List.lookup_cons, beq_false_of_ne h]
  | cons item items ih =>
    obtain ⟨k'', v''⟩ := item
    by_cases hk : k'' = k
    · subst hk
      simp [assign, List.lookup_cons, beq_false_of_ne h]
    · rw [assign, if_neg hk, List.lookup_cons, List.lookup_cons, ih]

/-- One more value replaces an earlier one under its key. -/
theorem ofValues_concat (key : ν → κ) (values : List ν) (v : ν) :
    ofValues key (values ++ [v]) = (ofValues key values).set (key v) v := by
  rw [ofValues, List.foldl_append]
  rfl

/-- What is found under a key is one of the values, and has it. -/
theorem mem_of_get?_ofValues {key : ν → κ} {values : List ν} {k : κ} {v : ν}
    (hfound : (ofValues key values).get? k = some v) : v ∈ values ∧ key v = k := by
  induction values using List.reverseRecOn with
  | nil => cases hfound
  | append_singleton values w ih =>
    rw [ofValues_concat] at hfound
    by_cases hk : k = key w
    · subst hk
      rw [get?_set_self] at hfound
      obtain rfl := Option.some.inj hfound
      exact ⟨by simp, rfl⟩
    · rw [get?_set_of_ne _ _ hk] at hfound
      obtain ⟨hmem, hkey⟩ := ih hfound
      exact ⟨List.mem_append_left _ hmem, hkey⟩

/-- Where no two values have the same key, every value is found under its key. -/
theorem get?_ofValues_iff {key : ν → κ} {values : List ν} (hnodup : (values.map key).Nodup) {k : κ}
    {v : ν} : (ofValues key values).get? k = some v ↔ v ∈ values ∧ key v = k := by
  induction values using List.reverseRecOn with
  | nil => simp [ofValues]
  | append_singleton values w ih =>
    rw [List.map_append, List.nodup_append] at hnodup
    rw [ofValues_concat, List.mem_append, List.mem_singleton]
    by_cases hk : k = key w
    · subst hk
      have hnew : ∀ u ∈ values, key u ≠ key w := fun u hu =>
        hnodup.2.2 _ (List.mem_map_of_mem hu) _ (List.mem_singleton_self _)
      rw [get?_set_self, Option.some.injEq]
      constructor
      · rintro rfl
        exact ⟨Or.inr rfl, rfl⟩
      · rintro ⟨hmem | rfl, hkey⟩
        · exact absurd hkey (hnew v hmem)
        · rfl
    · rw [get?_set_of_ne _ _ hk, ih hnodup.1]
      constructor
      · rintro ⟨hmem, hkey⟩
        exact ⟨Or.inl hmem, hkey⟩
      · rintro ⟨hmem | rfl, hkey⟩
        · exact ⟨hmem, hkey⟩
        · exact absurd hkey.symm hk

/-- `list(d)`. -/
def keys (d : Dict κ ν) : List κ := d.items.map Prod.fst

/-- `d.values()`. -/
def values (d : Dict κ ν) : List ν := d.items.map Prod.snd

/-- The dictionary with every value replaced, under the same keys in the same order. -/
def mapValues {ν' : Type*} (d : Dict κ ν) (f : ν → ν') : Dict κ ν' where
  items := d.items.map fun item => (item.1, f item.2)
  nodup := by simpa [Function.comp_def] using d.nodup

/-- The items are the keys with what is stored under them. -/
theorem mem_items_iff {d : Dict κ ν} {k : κ} {v : ν} : (k, v) ∈ d.items ↔ d.get? k = some v := by
  obtain ⟨items, hnodup⟩ := d
  simp only [get?]
  induction items with
  | nil => simp
  | cons item items ih =>
    obtain ⟨k', v'⟩ := item
    rw [List.map_cons, List.nodup_cons] at hnodup
    by_cases hk : k = k'
    · -- no later item has the first one's key
      subst hk
      have hnot : (k, v) ∉ items := fun h => hnodup.1 (List.mem_map.mpr ⟨(k, v), h, rfl⟩)
      simp [hnot, eq_comm]
    · rw [List.mem_cons, Prod.mk.injEq, List.lookup_cons, beq_false_of_ne hk, ← ih hnodup.2]
      simp [hk]

/-- The keys are those under which something is found. -/
theorem mem_keys_iff {d : Dict κ ν} {k : κ} : k ∈ d.keys ↔ (d.get? k).isSome := by
  rw [keys, List.mem_map, Option.isSome_iff_exists]
  constructor
  · rintro ⟨⟨k', v⟩, hmem, rfl⟩
    exact ⟨v, mem_items_iff.mp hmem⟩
  · rintro ⟨v, hv⟩
    exact ⟨(k, v), mem_items_iff.mpr hv, rfl⟩

/-- The values are those that are found under some key. -/
theorem mem_values_iff {d : Dict κ ν} {v : ν} : v ∈ d.values ↔ ∃ k, d.get? k = some v := by
  rw [values, List.mem_map]
  constructor
  · rintro ⟨⟨k, v'⟩, hmem, rfl⟩
    exact ⟨k, mem_items_iff.mp hmem⟩
  · rintro ⟨k, hk⟩
    exact ⟨(k, v), mem_items_iff.mpr hk, rfl⟩

/-- A map over the values maps what is found. -/
@[simp] theorem get?_mapValues {ν' : Type*} (d : Dict κ ν) (f : ν → ν') (k : κ) :
    (d.mapValues f).get? k = (d.get? k).map f := by
  obtain ⟨items, hnodup⟩ := d
  simp only [get?, mapValues]
  clear hnodup
  induction items with
  | nil => rfl
  | cons item items ih =>
    obtain ⟨k', v⟩ := item
    rw [List.map_cons, List.lookup_cons, List.lookup_cons]
    cases k == k' with
    | true => rfl
    | false => exact ih

end Dict

end Python
