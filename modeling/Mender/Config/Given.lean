import Mender.Config.Data

/-!
# Options as they are given

Options may be given as data of any sort, and are kept as they are until something looks at them.
Only names that do not exist, the name of a metric, and bounds that cannot be compared are noticed
when options are set. `update` reports what went wrong and leaves whatever it had already set.
-/

namespace Mender

/-- Options by name, with values of any sort. -/
structure GivenConfig where
  /-- The options of a repair but for localization. -/
  options : List (String × Json)
  /-- The localization options: an object, or another value in its place. -/
  localization : Json

namespace GivenConfig

/-- The name under which the localization options stand. -/
def localizationName : String := "fault_localization"

/-- The name under which localization options stand that replace the old ones as a whole. -/
def wholeName : String := "@fault_localization"

/-- Options that are numbers with a fraction. An integer given for one becomes such a number. -/
def fractions : List String :=
  ["threshold", "static_weight", "spectrum_weight", "test_timeout", "generation_timeout",
    "similarity_threshold"]

/-- The fields of an object. -/
def fieldsOf : Json → List (String × Json)
  | .object fields => fields
  | _ => []

/-- The options of a configuration. -/
def ofConfig (c : RepairConfig) : GivenConfig :=
  let fields := fieldsOf c.toJson
  ⟨fields.filter (·.1 ≠ localizationName), c.localization.toJson⟩

/-- All options as data. -/
def toJson (c : GivenConfig) : Json :=
  .object (c.options ++ [(localizationName, c.localization)])

/-- The options that exist. -/
def names : List String :=
  (fieldsOf ({} : RepairConfig).toJson).map (·.1)

/-- The localization options that exist. -/
def localizationNames : List String :=
  (fieldsOf ({} : LocalizationConfig).toJson).map (·.1)

/-- Names have to be those of options. -/
def checkNames (owner : String) (known given : List String) : Except Failure Unit :=
  match (given.filter fun n => !known.contains n).eraseDups with
  | [] => .ok ()
  | names => .error (LocalizationConfig.unknownOptions owner names)

/-- A value as it is stored under a name. -/
def stored (field : String × Json) : Except Failure Json :=
  match field with
  | ("metric", .string s) => do return .string (← Metric.ofName s).name
  | (name, .int n) =>
    if fractions.contains name then do return .number (← liftNumber (Arithmetic.ofInt n))
    else .ok (.int n)
  | (_, v) => .ok v

/-- Sets options. -/
def setAll (base given : List (String × Json)) : Except Failure (List (String × Json)) :=
  given.foldlM (fun fields field => do return Json.setField field.1 (← stored field) fields) base

/-- Localization options in place of those of an object. -/
def localizationFrom (base : List (String × Json)) (given : List (String × Json)) :
    Except Failure Json := do
  checkNames "FaultLocalizationConfig" localizationNames (given.map (·.1))
  return .object (← setAll base given)

/-- Localization options in place of the defaults. -/
def buildLocalization (given : List (String × Json)) : Except Failure Json :=
  localizationFrom (fieldsOf ({} : LocalizationConfig).toJson) given

/-- The value under a name. -/
def value? (name : String) (fields : List (String × Json)) : Option Json :=
  (fields.find? (·.1 = name)).map (·.2)

/-- The value of an option. -/
def option (c : GivenConfig) (name : String) : Json :=
  (value? name c.options).getD .null

/-- A value is less than a bound; values that are no numbers cannot be compared with one. -/
def isBelow (v : Json) (bound : Int) : Except Failure Bool :=
  match v with
  | .int n => .ok (n < bound)
  | .bool b => .ok ((if b then 1 else 0) < bound)
  | .number x => do
    let least : Float ← liftNumber (Arithmetic.ofInt bound)
    return x < least
  | v => .error ⟨.wrongType, s!"'<' not supported between instances of '{v.sort}' and 'int'"⟩

/-- The bounds that options are held to. -/
def check (c : GivenConfig) : Except Failure Unit := do
  if ← isBelow (c.option "max_candidates") 0 then
    .error ⟨.value, "max_candidates must be >= 0"⟩
  if ← isBelow (c.option "max_iterations") 1 then
    .error ⟨.value, "max_iterations must be >= 1"⟩

/-- Options in place of the defaults. -/
def build (given : List (String × Json)) : Except Failure GivenConfig := do
  checkNames "RepairConfig" names (given.map (·.1))
  let base := ofConfig {}
  let options ← setAll base.options (given.filter (·.1 ≠ localizationName))
  let localization ← match value? localizationName given with
    | none => pure base.localization
    | some (.object fields) => buildLocalization fields
    | some v => pure v
  let c : GivenConfig := ⟨options, localization⟩
  c.check
  return c

/-- The localization options after changes to some of them. -/
def mergeLocalization (current change : Json) : Except Failure Json := do
  let names ← match change with
    | .object fields => pure (fields.map (·.1))
    | .string s => pure (s.toList.map String.singleton)
    | v => .error ⟨.wrongType, s!"'{v.sort}' object is not iterable"⟩
  checkNames "FaultLocalizationConfig" localizationNames names
  match current with
  | .object base => localizationFrom base (fieldsOf change)
  | _ => .error ⟨.wrongType, "asdict() should be called on dataclass instances"⟩

/-- The localization options after they were replaced or changed. -/
def localizationAfter (current : Json) (whole change : Option Json) : Except Failure Json :=
  match whole, change with
  | some new, _ => .ok new
  | none, some change =>
    if change.isEmpty then .ok current else mergeLocalization current change
  | none, none => .ok current

/-- The options after changes, and the failure if the changes end in one. -/
def update (c : GivenConfig) (changes : List (String × Json)) :
    GivenConfig × Except Failure Unit :=
  let plain := changes.filter fun f => f.1 ≠ localizationName && f.1 ≠ wholeName
  match (value? wholeName changes).mapM (buildLocalization ∘ fieldsOf),
      checkNames "RepairConfig" names (plain.map (·.1)) with
  | .error f, _ | _, .error f => (c, .error f)
  | .ok whole, .ok () =>
    match setAll c.options plain with
    | .error f => (c, .error f)
    | .ok options =>
      let set : GivenConfig := { c with options }
      match localizationAfter c.localization whole (value? localizationName changes) with
      | .error f => (set, .error f)
      | .ok localization =>
        let set := { set with localization }
        (set, set.check)

/-- All options as data for a record of a session, which tells the metric by its name. -/
def snapshot (c : GivenConfig) : Except Failure Json :=
  match c.localization with
  | .object fields =>
    match value? "metric" fields with
    | some (.string _) => .ok c.toJson
    | metric =>
      let sort := (metric.getD .null).sort
      .error ⟨.missingAttribute, s!"'{sort}' object has no attribute 'value'"⟩
  | v => .error ⟨.missingAttribute, s!"'{v.sort}' object has no attribute 'metric'"⟩

/-- The configuration that options make; it takes values only of the right sort. -/
def config (c : GivenConfig) : Except Failure RepairConfig := do
  return (({} : RepairConfig).update (← ConfigChange.ofJson c.toJson)).1

end GivenConfig

end Mender
