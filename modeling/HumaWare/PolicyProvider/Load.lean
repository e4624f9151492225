import HumaWare.PolicyProvider.Plan
import HumaWare.Python.FloatText

/-! # Loading a plan

`parse_plan`, `_parse_waypoint` and the node's `_load_plan`, over the values that `yaml.safe_load`
returns. Each check raises an exception of its own class, `_parse_waypoint` wraps three classes and
`_load_plan` catches three others:

* **`Describes`** — a mapping describes a waypoint, as a relation, and
  **`parseWaypoint_eq_ok_iff`**, **`parseWaypoints_eq_ok_iff`** — it is what the parser accepts;
* **`Oversized`**, **`escapes_parseWaypoint_iff`** — the exception that `_parse_waypoint` lets
  through;
* **`loadPlan_iff`** — the documents from which the node starts, with a plan or idle. -/

namespace HumaWare.PolicyProvider

open Python

/-- A value that `yaml.safe_load` returns. -/
inductive Yaml
  | null
  | bool (b : Bool)
  | int (n : ℤ)
  | float (x : PyFloat)
  | str (s : String)
  | list (items : List Yaml)
  | map (entries : List (Yaml × Yaml))

namespace Yaml

/-- `type(value).__name__`. -/
def typeName : Yaml → String
  | null => "NoneType"
  | bool _ => "bool"
  | int _ => "int"
  | float _ => "float"
  | str _ => "str"
  | list _ => "list"
  | map _ => "dict"

/-- `bool(value)`. -/
def truthy : Yaml → Bool
  | null => false
  | bool b => b
  | int n => decide (n ≠ 0)
  | float x => decide (x ≠ 0)
  | str s => decide (s ≠ "")
  | list items => !items.isEmpty
  | map entries => !entries.isEmpty

/-- `value or {}`. -/
def orEmpty (value : Yaml) : Yaml := if value.truthy then value else map []

/-- The value under a string key of a mapping. -/
def lookup (key : String) (entries : List (Yaml × Yaml)) : Option Yaml :=
  entries.findSome? fun entry =>
    match entry.1 with
    | str s => if s = key then some entry.2 else none
    | _ => none

end Yaml

/-- The classes of the exceptions. -/
inductive ExceptionClass
  | osError
  | yamlError
  | valueError
  | keyError
  | typeError
  | attributeError
  | overflowError
  deriving DecidableEq, Repr

/-- An exception that is raised while a plan is loaded, by the place that raises it. -/
inductive Raised
  /-- `open` fails. -/
  | openFails (text : String)
  /-- The file is no YAML. -/
  | notYaml (text : String)
  /-- A `ValueError` with this text. -/
  | value (text : String)
  /-- The `ValueError` of a duration, which ends the text. -/
  | valueGot (text : String) (got : PyFloat)
  /-- The `ValueError` of `float`, which quotes the string. -/
  | couldNotConvert (s : String)
  /-- The `ValueError` into which `_parse_waypoint` turns another exception. -/
  | malformed (index : ℕ) (exc : Raised)
  | missingKey (key : String)
  | wrongType (text : String)
  | noAttribute (text : String)
  | tooLarge (text : String)

/-- The class of an exception. -/
def Raised.cls : Raised → ExceptionClass
  | openFails _ => .osError
  | notYaml _ => .yamlError
  | value _ | valueGot _ _ | couldNotConvert _ | malformed _ _ => .valueError
  | missingKey _ => .keyError
  | wrongType _ => .typeError
  | noAttribute _ => .attributeError
  | tooLarge _ => .overflowError

/-- `float(value)`. -/
def toFloat : Yaml → Except Raised PyFloat
  | .bool b => .ok (.fin (if b then 1 else 0))
  | .int n =>
    match PyFloat.ofInt n with
    | some x => .ok x
    | none => .error (.tooLarge "int too large to convert to float")
  | .float x => .ok x
  | .str s =>
    match PyFloat.ofString s with
    | some x => .ok x
    | none => .error (.couldNotConvert s)
  | value => .error (.wrongType ("float() argument must be a string or a real number, not '" ++
      value.typeName ++ "'"))

/-- `float(raw[key])`. -/
def floatField (key : String) (fields : List (Yaml × Yaml)) : Except Raised PyFloat :=
  match Yaml.lookup key fields with
  | some value => toFloat value
  | none => .error (.missingKey key)

/-- The three conversions of `_parse_waypoint`, in its order. -/
def floatFields (fields : List (Yaml × Yaml)) : Except Raised Waypoint := do
  let linearX ← floatField "linear_x_mps" fields
  let angularZ ← floatField "angular_z_radps" fields
  let duration ← floatField "duration_s" fields
  return ⟨linearX, angularZ, duration⟩

/-- The classes that `_parse_waypoint` catches. -/
def handledByParse : List ExceptionClass := [.keyError, .typeError, .valueError]

/-- `_parse_waypoint`. -/
def parseWaypoint (raw : Yaml) (index : ℕ) : Except Raised Waypoint :=
  match raw with
  | .map fields =>
    match floatFields fields with
    | .error exc =>
      if exc.cls ∈ handledByParse then .error (.malformed index exc) else .error exc
    | .ok waypoint =>
      if waypoint.durationS ≤ 0 then
        .error (.valueGot ("waypoint #" ++ toString index ++ " must have a positive duration, got ")
          waypoint.durationS)
      else .ok waypoint
  | raw => .error (.value ("waypoint #" ++ toString index ++ " must be a mapping, got " ++ raw.typeName))

/-- The waypoints of `parse_plan`, from the index `index` on. -/
def parseWaypoints : List Yaml → ℕ → Except Raised (List Waypoint)
  | [], _ => .ok []
  | raw :: raws, index => do
    let waypoint ← parseWaypoint raw index
    let waypoints ← parseWaypoints raws (index + 1)
    return waypoint :: waypoints

/-- `parse_plan`. -/
def parsePlan (raw : Yaml) : Except Raised WaypointPlan :=
  match raw with
  | .map entries =>
    match (Yaml.lookup "waypoints" entries).getD (.list []) with
    | .list raws => do
      let waypoints ← parseWaypoints raws 0
      return ⟨waypoints, ((Yaml.lookup "loop" entries).getD (.bool false)).truthy⟩
    | value => .error (.value ("'waypoints' must be a list, got " ++ value.typeName))
  | raw => .error (.noAttribute ("'" ++ raw.typeName ++ "' object has no attribute 'get'"))

/-- The plan of an idle provider. -/
def idlePlan : WaypointPlan where
  waypoints := []
  loop := false

/-- The classes that `_load_plan` catches. -/
def handledByLoad : List ExceptionClass := [.osError, .valueError, .yamlError]

/-- `_load_plan`, with the parameter `plan_yaml_path` and what `open` and `yaml.safe_load` give. -/
def loadPlan (path : String) (document : Except Raised Yaml) : Except Raised WaypointPlan :=
  if path = "" then .ok idlePlan
  else
    match document.bind fun raw => parsePlan raw.orEmpty with
    | .ok plan => .ok plan
    | .error exc => if exc.cls ∈ handledByLoad then .ok idlePlan else .error exc

/-! ## What the parser accepts -/

/-- A value describes a waypoint: it is a mapping whose three fields convert to it, and its duration
is not `<= 0`. -/
inductive Describes : Yaml → Waypoint → Prop
  | mapping {fields : List (Yaml × Yaml)} {waypoint : Waypoint}
      (linearX : floatField "linear_x_mps" fields = .ok waypoint.linearXMps)
      (angularZ : floatField "angular_z_radps" fields = .ok waypoint.angularZRadps)
      (duration : floatField "duration_s" fields = .ok waypoint.durationS)
      (hduration : ¬waypoint.durationS ≤ 0) : Describes (.map fields) waypoint

/-- The conversions succeed exactly if each of them does. -/
theorem floatFields_eq_ok_iff {fields : List (Yaml × Yaml)} {waypoint : Waypoint} :
    floatFields fields = .ok waypoint ↔
      floatField "linear_x_mps" fields = .ok waypoint.linearXMps ∧
        floatField "angular_z_radps" fields = .ok waypoint.angularZRadps ∧
        floatField "duration_s" fields = .ok waypoint.durationS := by
  unfold floatFields
  cases floatField "linear_x_mps" fields with
  | error exc => exact ⟨fun h => (nomatch h), fun h => (nomatch h.1)⟩
  | ok linearX =>
    cases floatField "angular_z_radps" fields with
    | error exc => exact ⟨fun h => (nomatch h), fun h => (nomatch h.2.1)⟩
    | ok angularZ =>
      cases floatField "duration_s" fields with
      | error exc => exact ⟨fun h => (nomatch h), fun h => (nomatch h.2.2)⟩
      | ok duration =>
        constructor
        · intro h
          rw [← Except.ok.inj h]
          exact ⟨rfl, rfl, rfl⟩
        · rintro ⟨hlinear, hangular, hduration⟩
          rw [Except.ok.inj hlinear, Except.ok.inj hangular, Except.ok.inj hduration]
          rfl

/-- **`_parse_waypoint` accepts what describes a waypoint.** -/
theorem parseWaypoint_eq_ok_iff {raw : Yaml} {index : ℕ} {waypoint : Waypoint} :
    parseWaypoint raw index = .ok waypoint ↔ Describes raw waypoint := by
  cases raw with
  | map fields =>
    cases hfields : floatFields fields with
    | error exc =>
      constructor
      · intro h
        simp only [parseWaypoint, hfields] at h
        split at h <;> exact nomatch h
      · rintro ⟨hlinear, hangular, hduration, -⟩
        have hok := floatFields_eq_ok_iff.mpr ⟨hlinear, hangular, hduration⟩
        exact nomatch hfields.symm.trans hok
    | ok found =>
      constructor
      · intro h
        simp only [parseWaypoint, hfields] at h
        split at h
        · exact nomatch h
        · next hpositive =>
          obtain rfl := Except.ok.inj h
          obtain ⟨hlinear, hangular, hduration⟩ := floatFields_eq_ok_iff.mp hfields
          exact .mapping hlinear hangular hduration hpositive
      · rintro ⟨hlinear, hangular, hduration, hpositive⟩
        have hok := floatFields_eq_ok_iff.mpr ⟨hlinear, hangular, hduration⟩
        obtain rfl := Except.ok.inj (hfields.symm.trans hok)
        simp only [parseWaypoint, hfields]
        exact if_neg hpositive
  | null | bool b | int n | float x | str s | list items =>
    exact ⟨fun h => (nomatch h), fun h => (nomatch h)⟩

/-- **The waypoints correspond to the list one to one and in order.** -/
theorem parseWaypoints_eq_ok_iff {raws : List Yaml} {index : ℕ} {waypoints : List Waypoint} :
    parseWaypoints raws index = .ok waypoints ↔ List.Forall₂ Describes raws waypoints := by
  induction raws generalizing index waypoints with
  | nil =>
    rw [List.forall₂_nil_left_iff]
    exact ⟨fun h => (Except.ok.inj h).symm, fun h => h ▸ rfl⟩
  | cons raw raws ih =>
    rw [List.forall₂_cons_left_iff, parseWaypoints]
    cases hfirst : parseWaypoint raw index with
    | error exc =>
      constructor
      · exact fun h => nomatch h
      · rintro ⟨waypoint, rest, hraw, -⟩
        exact nomatch hfirst.symm.trans (parseWaypoint_eq_ok_iff.mpr hraw)
    | ok waypoint =>
      have hraw := parseWaypoint_eq_ok_iff.mp hfirst
      cases hrest : parseWaypoints raws (index + 1) with
      | error exc =>
        constructor
        · exact fun h => nomatch h
        · rintro ⟨waypoint', rest, -, hraws, -⟩
          exact nomatch hrest.symm.trans (ih.mpr hraws)
      | ok rest =>
        constructor
        · intro h
          exact ⟨waypoint, rest, hraw, ih.mp hrest, (Except.ok.inj h).symm⟩
        · rintro ⟨waypoint', rest', hraw', hraws, rfl⟩
          have hsame := hfirst.symm.trans (parseWaypoint_eq_ok_iff.mpr hraw')
          have hsame' := hrest.symm.trans (ih.mpr hraws)
          rw [Except.ok.inj hsame, Except.ok.inj hsame']
          rfl

/-- The waypoints are refused exactly if one of them is, and none before it. -/
theorem parseWaypoints_eq_error_iff {raws : List Yaml} {index : ℕ} {exc : Raised} :
    parseWaypoints raws index = .error exc ↔
      ∃ pre raw post, raws = pre ++ raw :: post ∧ (∀ entry ∈ pre, ∃ w, Describes entry w) ∧
        parseWaypoint raw (index + pre.length) = .error exc := by
  induction raws generalizing index with
  | nil =>
    constructor
    · exact fun h => nomatch h
    · rintro ⟨pre, raw, post, hsplit, -⟩
      exact absurd hsplit (by simp)
  | cons raw raws ih =>
    rw [parseWaypoints]
    cases hfirst : parseWaypoint raw index with
    | error exc' =>
      constructor
      · intro h
        rw [← Except.error.inj h]
        exact ⟨[], raw, raws, rfl, by simp, hfirst⟩
      · rintro ⟨pre, raw', post, hsplit, hpre, herror⟩
        cases pre with
        | nil =>
          obtain ⟨rfl, -⟩ := List.cons.inj hsplit
          rw [Except.error.inj (hfirst.symm.trans herror)]
          rfl
        | cons entry pre =>
          obtain ⟨rfl, -⟩ := List.cons.inj hsplit
          obtain ⟨w, hw⟩ := hpre raw List.mem_cons_self
          exact nomatch hfirst.symm.trans (parseWaypoint_eq_ok_iff.mpr hw)
    | ok waypoint =>
      have hraw : Describes raw waypoint := parseWaypoint_eq_ok_iff.mp hfirst
      have hrest : (do
            let waypoints ← parseWaypoints raws (index + 1)
            return waypoint :: waypoints : Except Raised (List Waypoint)) = .error exc ↔
          parseWaypoints raws (index + 1) = .error exc := by
        cases parseWaypoints raws (index + 1) with
        | error exc' => exact Iff.rfl
        | ok waypoints => exact ⟨fun h => (nomatch h), fun h => (nomatch h)⟩
      refine hrest.trans (ih.trans ?_)
      constructor
      · rintro ⟨pre, raw', post, rfl, hpre, herror⟩
        refine ⟨raw :: pre, raw', post, rfl, ?_, ?_⟩
        · exact List.forall_mem_cons.mpr ⟨⟨waypoint, hraw⟩, hpre⟩
        · rw [List.length_cons, Nat.add_comm pre.length, ← Nat.add_assoc]
          exact herror
      · rintro ⟨pre, raw', post, hsplit, hpre, herror⟩
        cases pre with
        | nil =>
          obtain ⟨rfl, -⟩ := List.cons.inj hsplit
          exact nomatch hfirst.symm.trans herror
        | cons entry pre =>
          obtain ⟨rfl, rfl⟩ := List.cons.inj hsplit
          refine ⟨pre, raw', post, rfl, (List.forall_mem_cons.mp hpre).2, ?_⟩
          rw [List.length_cons, Nat.add_comm pre.length, ← Nat.add_assoc] at herror
          exact herror

/-! ## What escapes -/

/-- A field holds an integer that no double holds. -/
def OversizedField (key : String) (fields : List (Yaml × Yaml)) : Prop :=
  ∃ n : ℤ, Yaml.lookup key fields = some (.int n) ∧ doubleBound ≤ n.natAbs

/-- A field converts to a float. -/
def Converts (key : String) (fields : List (Yaml × Yaml)) : Prop :=
  ∃ x, floatField key fields = .ok x

/-- The first field of a waypoint that does not convert holds an integer that no double holds. -/
inductive Oversized : Yaml → Prop
  | linearX {fields : List (Yaml × Yaml)} (hbig : OversizedField "linear_x_mps" fields) :
      Oversized (.map fields)
  | angularZ {fields : List (Yaml × Yaml)} (hlinear : Converts "linear_x_mps" fields)
      (hbig : OversizedField "angular_z_radps" fields) : Oversized (.map fields)
  | duration {fields : List (Yaml × Yaml)} (hlinear : Converts "linear_x_mps" fields)
      (hangular : Converts "angular_z_radps" fields) (hbig : OversizedField "duration_s" fields) :
      Oversized (.map fields)

/-- A conversion that fails is handled, but for an integer that no double holds. -/
theorem cls_of_floatField {key : String} {fields : List (Yaml × Yaml)} {exc : Raised}
    (herror : floatField key fields = .error exc) :
    exc.cls ∈ handledByParse ∧ ¬OversizedField key fields ∨
      exc.cls = .overflowError ∧ OversizedField key fields := by
  have hkey : ExceptionClass.keyError ∈ handledByParse := by decide
  have htype : ExceptionClass.typeError ∈ handledByParse := by decide
  have hvalue : ExceptionClass.valueError ∈ handledByParse := by decide
  unfold floatField at herror
  cases hlookup : Yaml.lookup key fields with
  | none =>
    rw [hlookup] at herror
    left
    rw [← Except.error.inj herror]
    exact ⟨hkey, fun ⟨n, hn, _⟩ => (nomatch hlookup.symm.trans hn)⟩
  | some value =>
    rw [hlookup] at herror
    have hsame : ∀ n : ℤ, Yaml.lookup key fields = some (.int n) → value = .int n :=
      fun n hn => Option.some.inj (hlookup.symm.trans hn)
    cases value with
    | bool b | float x => exact nomatch herror
    | null | list items | map entries =>
      left
      rw [← Except.error.inj herror]
      exact ⟨htype, fun ⟨n, hn, _⟩ => (nomatch hsame n hn)⟩
    | str s =>
      left
      refine ⟨?_, fun ⟨n, hn, _⟩ => (nomatch hsame n hn)⟩
      simp only [toFloat] at herror
      split at herror
      · exact nomatch herror
      · rw [← Except.error.inj herror]
        exact hvalue
    | int n =>
      right
      by_cases hbig : doubleBound ≤ n.natAbs
      · simp only [toFloat, PyFloat.ofInt, if_pos hbig] at herror
        rw [← Except.error.inj herror]
        exact ⟨rfl, n, hlookup, hbig⟩
      · simp only [toFloat, PyFloat.ofInt, if_neg hbig] at herror
        exact nomatch herror

/-- An integer that no double holds raises an `OverflowError`. -/
theorem floatField_of_oversized {key : String} {fields : List (Yaml × Yaml)}
    (hbig : OversizedField key fields) :
    floatField key fields = .error (.tooLarge "int too large to convert to float") := by
  obtain ⟨n, hn, hlarge⟩ := hbig
  simp only [floatField, hn, toFloat, PyFloat.ofInt, if_pos hlarge]

/-- The exception of the conversions is that of the first one that fails. -/
theorem floatFields_eq_error_iff {fields : List (Yaml × Yaml)} {exc : Raised} :
    floatFields fields = .error exc ↔
      floatField "linear_x_mps" fields = .error exc ∨
        Converts "linear_x_mps" fields ∧ (floatField "angular_z_radps" fields = .error exc ∨
          Converts "angular_z_radps" fields ∧ floatField "duration_s" fields = .error exc) := by
  unfold floatFields Converts
  cases floatField "linear_x_mps" fields with
  | error exc' => simp [bind, Except.bind]
  | ok linearX =>
    cases floatField "angular_z_radps" fields with
    | error exc' => simp [bind, Except.bind]
    | ok angularZ =>
      cases floatField "duration_s" fields with
      | error exc' => simp [bind, Except.bind]
      | ok duration => simp [bind, Except.bind, pure, Except.pure]

/-- The conversions raise an `OverflowError` exactly on an oversized waypoint, and otherwise nothing
that `_parse_waypoint` does not catch. -/
theorem cls_of_floatFields {fields : List (Yaml × Yaml)} {exc : Raised}
    (herror : floatFields fields = .error exc) :
    exc.cls ∈ handledByParse ∧ ¬Oversized (.map fields) ∨
      exc.cls = .overflowError ∧ Oversized (.map fields) := by
  have hnotConverts : ∀ {key : String}, OversizedField key fields → ¬Converts key fields := by
    rintro key hbig ⟨x, hx⟩
    exact nomatch (floatField_of_oversized hbig).symm.trans hx
  have hnotError : ∀ {key : String}, floatField key fields = .error exc → ¬Converts key fields := by
    rintro key hfield ⟨x, hx⟩
    exact nomatch hfield.symm.trans hx
  rcases floatFields_eq_error_iff.mp herror with hfield | ⟨hlinear, hfield | ⟨hangular, hfield⟩⟩
  · rcases cls_of_floatField hfield with ⟨hcls, hfits⟩ | ⟨hcls, hbig⟩
    · refine Or.inl ⟨hcls, ?_⟩
      rintro (hbig | ⟨hlinear, -⟩ | ⟨hlinear, -⟩)
      · exact hfits hbig
      · exact hnotError hfield hlinear
      · exact hnotError hfield hlinear
    · exact Or.inr ⟨hcls, .linearX hbig⟩
  · rcases cls_of_floatField hfield with ⟨hcls, hfits⟩ | ⟨hcls, hbig⟩
    · refine Or.inl ⟨hcls, ?_⟩
      rintro (hbig | ⟨-, hbig⟩ | ⟨-, hangular, -⟩)
      · exact hnotConverts hbig hlinear
      · exact hfits hbig
      · exact hnotError hfield hangular
    · exact Or.inr ⟨hcls, .angularZ hlinear hbig⟩
  · rcases cls_of_floatField hfield with ⟨hcls, hfits⟩ | ⟨hcls, hbig⟩
    · refine Or.inl ⟨hcls, ?_⟩
      rintro (hbig | ⟨-, hbig⟩ | ⟨-, -, hbig⟩)
      · exact hnotConverts hbig hlinear
      · exact hnotConverts hbig hangular
      · exact hfits hbig
    · exact Or.inr ⟨hcls, .duration hlinear hangular hbig⟩

/-- An oversized waypoint does not convert. -/
theorem not_ok_of_oversized {fields : List (Yaml × Yaml)} (hbig : Oversized (.map fields))
    (waypoint : Waypoint) : floatFields fields ≠ .ok waypoint := by
  intro hok
  obtain ⟨hlinear, hangular, hduration⟩ := floatFields_eq_ok_iff.mp hok
  rcases hbig with hbig | ⟨-, hbig⟩ | ⟨-, -, hbig⟩
  · exact nomatch (floatField_of_oversized hbig).symm.trans hlinear
  · exact nomatch (floatField_of_oversized hbig).symm.trans hangular
  · exact nomatch (floatField_of_oversized hbig).symm.trans hduration

/-- **What `_parse_waypoint` lets through to a caller that does not catch it**: the `OverflowError`
of an oversized waypoint. -/
theorem escapes_parseWaypoint_iff {raw : Yaml} {index : ℕ} :
    (∃ exc, parseWaypoint raw index = .error exc ∧ exc.cls ∉ handledByLoad) ↔ Oversized raw := by
  have hvalue : ExceptionClass.valueError ∈ handledByLoad := by decide
  have hoverflow : ExceptionClass.overflowError ∉ handledByLoad := by decide
  have hnotParsed : ExceptionClass.overflowError ∉ handledByParse := by decide
  cases raw with
  | map fields =>
    cases hfields : floatFields fields with
    | ok waypoint =>
      refine iff_of_false ?_ fun hbig => not_ok_of_oversized hbig waypoint hfields
      rintro ⟨exc, herror, hescapes⟩
      simp only [parseWaypoint, hfields] at herror
      split at herror
      · rw [← Except.error.inj herror] at hescapes
        exact hescapes hvalue
      · exact nomatch herror
    | error exc' =>
      rcases cls_of_floatFields hfields with ⟨hcls, hfits⟩ | ⟨hcls, hbig⟩
      · refine iff_of_false ?_ hfits
        rintro ⟨exc, herror, hescapes⟩
        simp only [parseWaypoint, hfields, if_pos hcls] at herror
        rw [← Except.error.inj herror] at hescapes
        exact hescapes hvalue
      · refine iff_of_true ⟨exc', ?_, ?_⟩ hbig
        · rw [← hcls] at hnotParsed
          simp only [parseWaypoint, hfields, if_neg hnotParsed]
        · rw [hcls]
          exact hoverflow
  | null | bool b | int n | float x | str s | list items =>
    refine iff_of_false ?_ fun hbig => nomatch hbig
    rintro ⟨exc, herror, hescapes⟩
    rw [← Except.error.inj herror] at hescapes
    exact hescapes hvalue

/-! ## The documents from which the node starts -/

/-- A document on which the node crashes. -/
inductive Crashes : Yaml → Prop
  /-- It is no mapping, and not taken for an empty one. -/
  | noMapping {document : Yaml} (htruthy : document.truthy = true)
      (hmap : ∀ entries, document ≠ .map entries) : Crashes document
  /-- The first of its waypoints that is refused is oversized. -/
  | oversized {entries : List (Yaml × Yaml)} {pre : List Yaml} {raw : Yaml} {post : List Yaml}
      (hlist : (Yaml.lookup "waypoints" entries).getD (.list []) = .list (pre ++ raw :: post))
      (hpre : ∀ entry ∈ pre, ∃ w, Describes entry w) (hraw : Oversized raw) :
      Crashes (.map entries)

/-- The waypoints of a plan correspond one to one and in order with those that a document lists. -/
def Corresponds (document : Yaml) (plan : WaypointPlan) : Prop :=
  ∃ entries raws, document = .map entries ∧
    (Yaml.lookup "waypoints" entries).getD (.list []) = .list raws ∧
    List.Forall₂ Describes raws plan.waypoints

/-- **What `parse_plan` accepts** is a mapping whose list describes the waypoints. -/
theorem parsePlan_map_eq_ok_iff {entries : List (Yaml × Yaml)} {plan : WaypointPlan} :
    parsePlan (.map entries) = .ok plan ↔
      (∃ raws, (Yaml.lookup "waypoints" entries).getD (.list []) = .list raws ∧
        List.Forall₂ Describes raws plan.waypoints) ∧
      plan.loop = ((Yaml.lookup "loop" entries).getD (.bool false)).truthy := by
  simp only [parsePlan]
  cases hlist : (Yaml.lookup "waypoints" entries).getD (.list []) with
  | list raws =>
    dsimp only
    cases hraws : parseWaypoints raws 0 with
    | error exc =>
      constructor
      · exact fun h => nomatch h
      · rintro ⟨⟨raws', hsame, hdescribes⟩, -⟩
        obtain rfl := Yaml.list.inj hsame
        exact nomatch hraws.symm.trans (parseWaypoints_eq_ok_iff.mpr hdescribes)
    | ok waypoints =>
      constructor
      · intro h
        rw [← Except.ok.inj h]
        exact ⟨⟨raws, rfl, parseWaypoints_eq_ok_iff.mp hraws⟩, rfl⟩
      · rintro ⟨⟨raws', hsame, hdescribes⟩, hloop⟩
        obtain rfl := Yaml.list.inj hsame
        have hwaypoints := Except.ok.inj (hraws.symm.trans (parseWaypoints_eq_ok_iff.mpr hdescribes))
        rw [hwaypoints, ← hloop]
        rfl
  | null | bool b | int n | float x | str s | map fields =>
    constructor
    · exact fun h => nomatch h
    · rintro ⟨⟨raws, hsame, -⟩, -⟩
      exact nomatch hsame

/-- A mapping is not replaced by the empty one. -/
theorem orEmpty_map (entries : List (Yaml × Yaml)) : (Yaml.map entries).orEmpty = .map entries := by
  cases entries <;> rfl

/-- A document that is no mapping is put to `parse_plan` as it is, or as an empty mapping. -/
theorem orEmpty_of_not_map {document : Yaml} (hmap : ∀ entries, document ≠ .map entries) :
    document.truthy = true ∧ (∃ text, parsePlan document.orEmpty = .error (.noAttribute text)) ∨
      document.truthy = false ∧ parsePlan document.orEmpty = .ok idlePlan := by
  cases htruthy : document.truthy with
  | false =>
    right
    rw [Yaml.orEmpty, htruthy, if_neg Bool.false_ne_true]
    exact ⟨rfl, rfl⟩
  | true =>
    left
    rw [Yaml.orEmpty, htruthy, if_pos rfl]
    cases document with
    | map entries => exact absurd rfl (hmap entries)
    | null | bool b | int n | float x | str s | list items => exact ⟨rfl, _, rfl⟩

/-- **What escapes `parse_plan`**, of the documents that are put to it. -/
theorem escapes_parsePlan_iff {document : Yaml} :
    (∃ exc, parsePlan document.orEmpty = .error exc ∧ exc.cls ∉ handledByLoad) ↔
      Crashes document := by
  have hvalue : ExceptionClass.valueError ∈ handledByLoad := by decide
  have hattribute : ExceptionClass.attributeError ∉ handledByLoad := by decide
  by_cases hmap : ∃ entries, document = .map entries
  · obtain ⟨entries, rfl⟩ := hmap
    rw [orEmpty_map]
    cases hlist : (Yaml.lookup "waypoints" entries).getD (.list []) with
    | list raws =>
      have hparse : ∀ exc, parsePlan (.map entries) = .error exc ↔
          parseWaypoints raws 0 = .error exc := by
        intro exc
        simp only [parsePlan, hlist]
        cases parseWaypoints raws 0 with
        | error exc' =>
          constructor
          · exact fun h => congrArg Except.error (Except.error.inj h)
          · exact fun h => congrArg Except.error (Except.error.inj h)
        | ok waypoints => exact ⟨fun h => (nomatch h), fun h => (nomatch h)⟩
      constructor
      · rintro ⟨exc, herror, hescapes⟩
        obtain ⟨pre, raw, post, rfl, hpre, hraw⟩ :=
          parseWaypoints_eq_error_iff.mp ((hparse exc).mp herror)
        exact .oversized hlist hpre (escapes_parseWaypoint_iff.mp ⟨exc, hraw, hescapes⟩)
      · rintro (⟨-, hnotMap⟩ | ⟨hlist', hpre, hbig⟩)
        · exact absurd rfl (hnotMap entries)
        · obtain ⟨exc, hraw, hescapes⟩ := escapes_parseWaypoint_iff.mpr hbig
          obtain rfl := Yaml.list.inj (hlist.symm.trans hlist')
          exact ⟨exc, (hparse exc).mpr (parseWaypoints_eq_error_iff.mpr
            ⟨_, _, _, rfl, hpre, hraw⟩), hescapes⟩
    | null | bool b | int n | float x | str s | map fields =>
      refine iff_of_false ?_ ?_
      · rintro ⟨exc, herror, hescapes⟩
        simp only [parsePlan, hlist] at herror
        rw [← Except.error.inj herror] at hescapes
        exact hescapes hvalue
      · rintro (⟨-, hnotMap⟩ | ⟨hlist', -, -⟩)
        · exact absurd rfl (hnotMap entries)
        · exact nomatch hlist.symm.trans hlist'
  · have hnotMap : ∀ entries, document ≠ .map entries := fun entries h => hmap ⟨entries, h⟩
    rcases orEmpty_of_not_map hnotMap with ⟨htruthy, text, herror⟩ | ⟨hfalsy, hok⟩
    · exact iff_of_true ⟨_, herror, hattribute⟩ (.noMapping htruthy hnotMap)
    · refine iff_of_false ?_ ?_
      · rintro ⟨exc, herror, -⟩
        exact nomatch hok.symm.trans herror
      · rintro (⟨htruthy, -⟩ | ⟨-, -, -⟩)
        · exact Bool.false_ne_true (hfalsy.symm.trans htruthy)
        · exact hmap ⟨_, rfl⟩

/-- A document gives the plan that corresponds with it, or none. -/
theorem idle_or_corresponds {document : Yaml} {plan : WaypointPlan}
    (hplan : parsePlan document.orEmpty = .ok plan) : plan = idlePlan ∨ Corresponds document plan := by
  by_cases hmap : ∃ entries, document = .map entries
  · obtain ⟨entries, rfl⟩ := hmap
    rw [orEmpty_map] at hplan
    obtain ⟨⟨raws, hlist, hraws⟩, -⟩ := parsePlan_map_eq_ok_iff.mp hplan
    exact Or.inr ⟨entries, raws, rfl, hlist, hraws⟩
  · rcases orEmpty_of_not_map fun entries h => hmap ⟨entries, h⟩ with ⟨-, text, herror⟩ | ⟨-, hok⟩
    · exact nomatch herror.symm.trans hplan
    · exact Or.inl (Except.ok.inj (hplan.symm.trans hok))

/-- `_load_plan` of a file that was read. -/
theorem loadPlan_of_ne {path : String} (hpath : path ≠ "") (document : Yaml) :
    loadPlan path (.ok document) =
      match parsePlan document.orEmpty with
      | .ok plan => .ok plan
      | .error exc => if exc.cls ∈ handledByLoad then .ok idlePlan else .error exc := if_neg hpath

/-- **The node starts from a document exactly if it is not one of those it crashes on**: with a plan
whose waypoints correspond to those of the document, or idle, and with no exception from
`parse_plan` that it does not handle. -/
theorem loadPlan_iff (path : String) (document : Yaml) :
    ((∃ plan, loadPlan path (.ok document) = .ok plan ∧
        (plan = idlePlan ∨ Corresponds document plan)) ∧
      ∀ exc, parsePlan document.orEmpty = .error exc → exc.cls ∈ handledByLoad) ↔
      ¬Crashes document := by
  rw [← escapes_parsePlan_iff]
  simp only [not_exists, not_and, not_not]
  refine ⟨And.right, fun hhandled => ⟨?_, hhandled⟩⟩
  by_cases hpath : path = ""
  · exact ⟨idlePlan, if_pos hpath, Or.inl rfl⟩
  · rw [loadPlan_of_ne hpath]
    cases hparse : parsePlan document.orEmpty with
    | ok plan => exact ⟨plan, rfl, idle_or_corresponds hparse⟩
    | error exc => exact ⟨idlePlan, if_pos (hhandled exc hparse), Or.inl rfl⟩

/-- **Two files that crash the node**: one that holds a word, and one with an integer of 400 digits
for a velocity. -/
theorem not_loadPlan :
    loadPlan "plan.yaml" (.ok (.str "idle")) =
        .error (.noAttribute "'str' object has no attribute 'get'") ∧
      loadPlan "plan.yaml" (.ok (.map [(.str "waypoints", .list [.map [(.str "linear_x_mps",
        .int (10 ^ 400)), (.str "angular_z_radps", .int 0), (.str "duration_s", .int 1)]])])) =
        .error (.tooLarge "int too large to convert to float") := by
  have hbig : doubleBound ≤ (10 ^ 400 : ℤ).natAbs := by decide +kernel
  constructor
  · rfl
  · have hfield : floatField "linear_x_mps" [(.str "linear_x_mps", .int (10 ^ 400)),
        (.str "angular_z_radps", .int 0), (.str "duration_s", .int 1)] =
        .error (.tooLarge "int too large to convert to float") :=
      floatField_of_oversized ⟨10 ^ 400, rfl, hbig⟩
    have hfields := floatFields_eq_error_iff.mpr (Or.inl hfield)
    have hraw : parseWaypoint (.map [(.str "linear_x_mps", .int (10 ^ 400)),
        (.str "angular_z_radps", .int 0), (.str "duration_s", .int 1)]) 0 =
        .error (.tooLarge "int too large to convert to float") := by
      simp only [parseWaypoint, hfields]
      exact if_neg (by decide)
    have hraws := parseWaypoints_eq_error_iff.mpr
      ⟨[], _, [], rfl, fun entry h => absurd h List.not_mem_nil, hraw⟩
    have hparse : parsePlan (.map [(.str "waypoints", .list [.map [(.str "linear_x_mps",
        .int (10 ^ 400)), (.str "angular_z_radps", .int 0), (.str "duration_s", .int 1)]])]) =
        .error (.tooLarge "int too large to convert to float") := by
      show (parseWaypoints _ 0).bind _ = _
      rw [List.nil_append] at hraws
      rw [hraws]
      rfl
    rw [loadPlan_of_ne (by decide), orEmpty_map, hparse]
    exact if_neg (by decide)

end HumaWare.PolicyProvider
