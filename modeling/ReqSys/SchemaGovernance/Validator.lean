import Mathlib.Data.List.Dedup
import ReqSys.Foundation.PyJson
import ReqSys.Foundation.Table

/-!
# The schema governance validator

`tools/schema_governance/validate_schema_governance.py` checks JSON documents against the governed
subset of JSON Schema (`validate_value`) and compares two versions of a schema
(`detect_breaking_changes`). A schema of the subset is a tree: its own keywords, the schemas of its
`properties` and the schema of its `items`. The keywords a node declares but its `type` does not
read are kept, because the source keeps them too and the comparison of two versions reads them.

`flatten_object_schemas` names each object node of a schema by a location such as
`$.metadata.tags[]` and puts the nodes in a dictionary, so a later node overwrites an earlier one
with the same location; a property name with a dot in it is enough for that.
-/

namespace ReqSys

namespace SchemaGovernance

/-! ## Schemas -/

/-- The governed types. -/
inductive SchemaType where
  | object
  | array
  | string
  | number
  | boolean
deriving DecidableEq, Repr

/-- The keywords of one node of a schema. An absent `required` is an empty one. -/
structure Keywords where
  type : Option SchemaType := none
  required : List String := []
  additionalProperties : Option Bool := none
  minLength : Option ℤ := none
  minimum : Option ℚ := none
  maximum : Option ℚ := none
  enum : Option (List Json) := none
  const : Option Json := none

/-- A schema of the governed subset. An absent `properties` is an empty one. -/
inductive Schema where
  | mk (keywords : Keywords) (properties : List (String × Schema)) (items : Option Schema)

namespace Schema

/-- The keywords of the root node. -/
def keywords : Schema → Keywords
  | ⟨keywords, _, _⟩ => keywords

/-- `schema_properties(schema)`. -/
def properties : Schema → List (String × Schema)
  | ⟨_, properties, _⟩ => properties

/-- `schema.get("items")`. -/
def items : Schema → Option Schema
  | ⟨_, _, items⟩ => items

/-- `schema_properties(schema).get(key)`. -/
def property? (schema : Schema) (key : String) : Option Schema := Table.get? key schema.properties

/-- `properties` is a dictionary at every node. -/
inductive WellFormed : Schema → Prop
  | mk {schema : Schema} (keyed : Table.Keyed Prod.fst schema.properties)
      (properties : ∀ p ∈ schema.properties, WellFormed p.2)
      (items : ∀ item ∈ schema.items, WellFormed item) : WellFormed schema

/-- A property of schemas holds of all of them when it passes from the properties and the items of
a node to the node. -/
theorem induction {C : Schema → Prop}
    (mk : ∀ schema : Schema, (∀ p ∈ schema.properties, C p.2) → (∀ item ∈ schema.items, C item) →
      C schema) (schema : Schema) : C schema :=
  @Schema.rec C (fun properties ↦ ∀ p ∈ properties, C p.2) (fun items ↦ ∀ item ∈ items, C item)
    (fun p ↦ C p.2) (fun keywords properties items ↦ mk ⟨keywords, properties, items⟩)
    (by simp) (fun _ _ hp hps ↦ List.forall_mem_cons.mpr ⟨hp, hps⟩)
    (by simp) (fun item hitem x hx ↦ Option.mem_some.mp hx ▸ hitem) (fun _ _ h ↦ h) schema

end Schema

/-- A schema as `json.loads` returns it. -/
structure Contract where
  schema : Schema
  wellFormed : schema.WellFormed

/-- `get_schema_version`. -/
def getSchemaVersion (schema : Schema) : Option String :=
  match (schema.property? "schema_version").bind fun s ↦ s.keywords.const with
  | some (.str version) => some version
  | _ => none

/-! ## Validating a value -/

/-- What `validate_value` finds wrong at one place of a document. -/
inductive Problem where
  | expectedObject
  | requiredFieldMissing
  | additionalProperty
  | expectedArray
  | expectedString
  | shorterThanMinLength
  | expectedNumber
  | belowMinimum
  | aboveMaximum
  | expectedBoolean
  | expectedConst (const : Json)
  | outsideEnum

/-- One line of the list `validate_value` returns. -/
structure Finding where
  path : String
  problem : Problem

/-- The text of a problem; `repr` prints a constant. -/
def Problem.text (repr : Json → String) : Problem → String
  | .expectedObject => "expected object"
  | .requiredFieldMissing => "required field is missing"
  | .additionalProperty => "additional property is not allowed"
  | .expectedArray => "expected array"
  | .expectedString => "expected string"
  | .shorterThanMinLength => "string is shorter than minLength"
  | .expectedNumber => "expected number"
  | .belowMinimum => "number is below minimum"
  | .aboveMaximum => "number is above maximum"
  | .expectedBoolean => "expected boolean"
  | .expectedConst const => "expected const " ++ repr const
  | .outsideEnum => "value is outside enum"

/-- The line as it is printed. -/
def Finding.text (repr : Json → String) (finding : Finding) : String :=
  finding.path ++ ": " ++ finding.problem.text repr

/-- `sorted(set(xs))`. -/
def sortedKeys (xs : List String) : List String := xs.dedup.insertionSort (· ≤ ·)

/-- The required fields that are not there. -/
def validateRequired (required : List String) (entries : List (String × Json)) (path : String) :
    List Finding :=
  (required.filter fun key ↦ (Table.get? key entries).isNone).map fun key ↦
    ⟨path ++ "." ++ key, .requiredFieldMissing⟩

/-- The fields the schema does not declare, if it is closed. -/
def validateExtra (keywords : Keywords) (declared : List String) (entries : List (String × Json))
    (path : String) : List Finding :=
  if keywords.additionalProperties = some false then
    (sortedKeys ((entries.map Prod.fst).filter fun key ↦ !declared.contains key)).map fun key ↦
      ⟨path ++ "." ++ key, .additionalProperty⟩
  else []

/-- The branch for strings. -/
def validateString (keywords : Keywords) (path : String) : Json → List Finding
  | .str s =>
    if keywords.minLength.any fun bound ↦ decide ((s.length : ℤ) < bound) then
      [⟨path, .shorterThanMinLength⟩]
    else []
  | _ => [⟨path, .expectedString⟩]

/-- The branch for numbers; a Boolean is not one here. -/
def validateNumber (keywords : Keywords) (path : String) : Json → List Finding
  | .num q =>
    (if keywords.minimum.any fun bound ↦ decide (q < bound) then [⟨path, .belowMinimum⟩] else [])
      ++ if keywords.maximum.any fun bound ↦ decide (bound < q) then [⟨path, .aboveMaximum⟩] else []
  | _ => [⟨path, .expectedNumber⟩]

/-- The branch for Booleans. -/
def validateBoolean (path : String) : Json → List Finding
  | .bool _ => []
  | _ => [⟨path, .expectedBoolean⟩]

/-- `const` and `enum`, checked after the branch of the type. -/
def validateListed (keywords : Keywords) (value : Json) (path : String) : List Finding :=
  (match keywords.const with
    | some const => if value.pyEq const then [] else [⟨path, .expectedConst const⟩]
    | none => [])
    ++ match keywords.enum with
      | some enum => if value.isIn enum then [] else [⟨path, .outsideEnum⟩]
      | none => []

mutual

/-- `validate_value`. A value of another kind than an object or array schema expects returns
early, before `const` and `enum` are looked at. -/
def validateValue : Json → Schema → String → List Finding
  | value, ⟨keywords, properties, items⟩, path =>
    match keywords.type, value with
    | some .object, .obj entries =>
      validateRequired keywords.required entries path
        ++ validateProperties entries properties path
        ++ validateExtra keywords (properties.map Prod.fst) entries path
        ++ validateListed keywords (.obj entries) path
    | some .object, _ => [⟨path, .expectedObject⟩]
    | some .array, .arr values =>
      validateItems values items path ++ validateListed keywords (.arr values) path
    | some .array, _ => [⟨path, .expectedArray⟩]
    | some .string, value =>
      validateString keywords path value ++ validateListed keywords value path
    | some .number, value =>
      validateNumber keywords path value ++ validateListed keywords value path
    | some .boolean, value => validateBoolean path value ++ validateListed keywords value path
    | none, value => validateListed keywords value path
termination_by structural _ schema => schema

/-- The loop over `properties.items()`. -/
def validateProperties : List (String × Json) → List (String × Schema) → String → List Finding
  | _, [], _ => []
  | entries, property :: properties, path =>
    validateProperty entries property path ++ validateProperties entries properties path
termination_by structural _ properties => properties

/-- One turn of that loop. -/
def validateProperty : List (String × Json) → String × Schema → String → List Finding
  | entries, (key, nested), path =>
    match Table.get? key entries with
    | some value => validateValue value nested (path ++ "." ++ key)
    | none => []
termination_by structural _ property => property

/-- The loop over the items of an array. -/
def validateItems : List Json → Option Schema → String → List Finding
  | _, none, _ => []
  | values, some item, path =>
    values.zipIdx.flatMap fun value ↦
      validateValue value.1 item (path ++ "[" ++ toString value.2 ++ "]")
termination_by structural _ items => items

end

/-! ## When nothing is found -/

section Accepts

variable {schema : Schema} {value : Json} {path : String}

/-- The value is one the keywords list. -/
structure Listed (keywords : Keywords) (value : Json) : Prop where
  const : ∀ const ∈ keywords.const, value.pyEq const = true
  enum : ∀ enum ∈ keywords.enum, value.isIn enum = true

theorem validateListed_eq_nil {keywords : Keywords} :
    validateListed keywords value path = [] ↔ Listed keywords value := by
  rw [validateListed, List.append_eq_nil_iff]
  constructor
  · rintro ⟨hconst, henum⟩
    constructor
    · intro const h
      rw [Option.mem_def.mp h] at hconst
      simpa using hconst
    · intro enum h
      rw [Option.mem_def.mp h] at henum
      simpa using henum
  · rintro ⟨hconst, henum⟩
    constructor
    · cases h : keywords.const with
      | none => rfl
      | some const => simp [hconst const h]
    · cases h : keywords.enum with
      | none => rfl
      | some enum => simp [henum enum h]

theorem validateRequired_eq_nil {required : List String} {entries : List (String × Json)} :
    validateRequired required entries path = []
      ↔ ∀ key ∈ required, (Table.get? key entries).isSome := by
  simp [validateRequired, Option.isSome_iff_ne_none]

theorem mem_sortedKeys {key : String} {keys : List String} :
    key ∈ sortedKeys keys ↔ key ∈ keys := by
  rw [sortedKeys, List.mem_insertionSort, List.mem_dedup]

theorem validateExtra_eq_nil {keywords : Keywords} {declared : List String}
    {entries : List (String × Json)} :
    validateExtra keywords declared entries path = []
      ↔ (keywords.additionalProperties = some false → ∀ e ∈ entries, e.1 ∈ declared) := by
  rw [validateExtra]
  split
  next h =>
    rw [List.map_eq_nil_iff, List.eq_nil_iff_forall_not_mem]
    simp only [mem_sortedKeys, h]
    simp
  next h => simp [h]

theorem validateProperties_eq_nil {entries : List (String × Json)}
    {properties : List (String × Schema)} :
    validateProperties entries properties path = []
      ↔ ∀ p ∈ properties, ∀ w, Table.get? p.1 entries = some w →
          validateValue w p.2 (path ++ "." ++ p.1) = [] := by
  induction properties with
  | nil => simp [validateProperties]
  | cons p properties ih =>
    obtain ⟨key, nested⟩ := p
    rw [validateProperties, List.append_eq_nil_iff, ih, List.forall_mem_cons, validateProperty]
    cases Table.get? key entries <;> simp

theorem validateItems_eq_nil {values : List Json} {items : Option Schema} :
    validateItems values items path = []
      ↔ ∀ item ∈ items, ∀ x ∈ values.zipIdx,
          validateValue x.1 item (path ++ "[" ++ toString x.2 ++ "]") = [] := by
  cases items with
  | none => simp [validateItems]
  | some item => simp [validateItems]

/-- The value is of the type the node declares, if it declares one. -/
def Kind (keywords : Keywords) (value : Json) : Prop :=
  match keywords.type, value with
  | none, _ => True
  | some .object, .obj _ => True
  | some .array, .arr _ => True
  | some .string, .str _ => True
  | some .number, .num _ => True
  | some .boolean, .bool _ => True
  | _, _ => False

/-- A string is as long as the node asks for, a number within its bounds. -/
structure Bounds (keywords : Keywords) (value : Json) : Prop where
  minLength : ∀ s, keywords.type = some .string → value = .str s →
    ∀ bound ∈ keywords.minLength, bound ≤ (s.length : ℤ)
  minimum : ∀ q, keywords.type = some .number → value = .num q →
    ∀ bound ∈ keywords.minimum, bound ≤ q
  maximum : ∀ q, keywords.type = some .number → value = .num q →
    ∀ bound ∈ keywords.maximum, q ≤ bound

/-- What a node asks of a value apart from its parts. -/
structure NodeMeets (keywords : Keywords) (value : Json) : Prop where
  kind : Kind keywords value
  bounds : Bounds keywords value
  listed : Listed keywords value

/-- The fields of an object: the required ones are there, and a closed schema declares them all. -/
structure FieldsMeet (schema : Schema) (entries : List (String × Json)) : Prop where
  required : ∀ key ∈ schema.keywords.required, (Table.get? key entries).isSome
  declared : schema.keywords.additionalProperties = some false →
    ∀ e ∈ entries, e.1 ∈ schema.properties.map Prod.fst

/-- What a schema asks of a value, given what its nested schemas ask of the parts. -/
structure Meets (ok : Schema → Json → Prop) (schema : Schema) (value : Json) : Prop where
  node : NodeMeets schema.keywords value
  fields : ∀ entries, schema.keywords.type = some .object → value = .obj entries →
    FieldsMeet schema entries
  properties : ∀ entries, schema.keywords.type = some .object → value = .obj entries →
    ∀ p ∈ schema.properties, ∀ w, Table.get? p.1 entries = some w → ok p.2 w
  items : ∀ values, schema.keywords.type = some .array → value = .arr values →
    ∀ item ∈ schema.items, ∀ x ∈ values, ok item x

theorem Meets.imp {ok ok' : Schema → Json → Prop} (h : Meets ok schema value)
    (hproperties : ∀ p ∈ schema.properties, ∀ w, ok p.2 w → ok' p.2 w)
    (hitems : ∀ item ∈ schema.items, ∀ x, ok item x → ok' item x) : Meets ok' schema value where
  node := h.node
  fields := h.fields
  properties entries htype hvalue p hp w hw :=
    hproperties p hp w (h.properties entries htype hvalue p hp w hw)
  items values htype hvalue item hitem x hx :=
    hitems item hitem x (h.items values htype hvalue item hitem x hx)

theorem validateString_eq_nil {keywords : Keywords} :
    validateString keywords path value = []
      ↔ ∃ s, value = .str s ∧ ∀ bound ∈ keywords.minLength, bound ≤ (s.length : ℤ) := by
  cases value with
  | str s => cases h : keywords.minLength <;> simp [validateString, h]
  | null | bool | num | arr | obj => simp [validateString]

theorem validateNumber_eq_nil {keywords : Keywords} :
    validateNumber keywords path value = []
      ↔ ∃ q, value = .num q ∧ (∀ bound ∈ keywords.minimum, bound ≤ q)
          ∧ ∀ bound ∈ keywords.maximum, q ≤ bound := by
  cases value with
  | num q =>
    cases h : keywords.minimum <;> cases h' : keywords.maximum <;> simp [validateNumber, h, h']
  | null | bool | str | arr | obj => simp [validateNumber]

theorem validateValue_eq_nil (value : Json) (schema : Schema) (path : String) :
    validateValue value schema path = [] ↔
      NodeMeets schema.keywords value
        ∧ (∀ entries, schema.keywords.type = some .object → value = .obj entries →
            validateRequired schema.keywords.required entries path = []
              ∧ validateProperties entries schema.properties path = []
              ∧ validateExtra schema.keywords (schema.properties.map Prod.fst) entries path = [])
        ∧ ∀ values, schema.keywords.type = some .array → value = .arr values →
            validateItems values schema.items path = [] := by
  obtain ⟨keywords, properties, items⟩ := schema
  have hnode : NodeMeets keywords value ↔ Kind keywords value ∧ Bounds keywords value
      ∧ validateListed keywords value path = [] := by
    rw [validateListed_eq_nil]
    exact ⟨fun ⟨hk, hb, hl⟩ ↦ ⟨hk, hb, hl⟩, fun ⟨hk, hb, hl⟩ ↦ ⟨hk, hb, hl⟩⟩
  have hbounds : Bounds keywords value ↔
      (∀ s, keywords.type = some .string → value = .str s →
        ∀ bound ∈ keywords.minLength, bound ≤ (s.length : ℤ))
      ∧ ∀ q, keywords.type = some .number → value = .num q →
        (∀ bound ∈ keywords.minimum, bound ≤ q) ∧ ∀ bound ∈ keywords.maximum, q ≤ bound := by
    constructor
    · rintro ⟨hlength, hmin, hmax⟩
      exact ⟨hlength, fun q ht hv ↦ ⟨hmin q ht hv, hmax q ht hv⟩⟩
    · rintro ⟨hlength, hnum⟩
      exact ⟨hlength, fun q ht hv ↦ (hnum q ht hv).1, fun q ht hv ↦ (hnum q ht hv).2⟩
  simp only [Schema.keywords, Schema.properties, Schema.items, hnode, hbounds]
  cases htype : keywords.type with
  | none => cases value <;> simp [validateValue, htype, Kind]
  | some type =>
    cases type with
    | object =>
      cases value <;> simp [validateValue, htype, Kind]
      tauto
    | array =>
      cases value <;> simp [validateValue, htype, Kind]
      tauto
    | string => cases value <;> simp [validateValue, htype, Kind, validateString_eq_nil]
    | number =>
      cases value <;> simp [validateValue, htype, Kind, validateNumber_eq_nil, and_assoc]
    | boolean => cases value <;> simp [validateValue, htype, Kind, validateBoolean]

/-- An empty list of findings says that the value meets the schema, each part at its own path. -/
theorem meets_of_validateValue (h : validateValue value schema path = []) :
    Meets (fun s w ↦ ∃ q, validateValue w s q = []) schema value := by
  obtain ⟨hnode, hobject, harray⟩ := (validateValue_eq_nil value schema path).mp h
  refine ⟨hnode, ?_, ?_, ?_⟩
  · intro entries htype hvalue
    obtain ⟨hrequired, -, hextra⟩ := hobject entries htype hvalue
    exact ⟨validateRequired_eq_nil.mp hrequired, validateExtra_eq_nil.mp hextra⟩
  · intro entries htype hvalue p hp w hw
    obtain ⟨-, hproperties, -⟩ := hobject entries htype hvalue
    exact ⟨_, validateProperties_eq_nil.mp hproperties p hp w hw⟩
  · intro values htype hvalue item hitem x hx
    obtain ⟨i, hi, rfl⟩ := List.getElem_of_mem hx
    have hmem : (values[i], i) ∈ values.zipIdx := by simp [List.mem_zipIdx_iff_getElem?, hi]
    exact ⟨_, validateItems_eq_nil.mp (harray values htype hvalue) item hitem _ hmem⟩

/-- A value that meets the schema, each part at every path, has no finding. -/
theorem validateValue_of_meets
    (h : Meets (fun s w ↦ ∀ q, validateValue w s q = []) schema value) :
    validateValue value schema path = [] := by
  refine (validateValue_eq_nil value schema path).mpr ⟨h.node, ?_, ?_⟩
  · intro entries htype hvalue
    refine ⟨?_, ?_, ?_⟩
    · exact validateRequired_eq_nil.mpr (h.fields entries htype hvalue).required
    · refine validateProperties_eq_nil.mpr fun p hp w hw ↦ ?_
      exact h.properties entries htype hvalue p hp w hw _
    · exact validateExtra_eq_nil.mpr (h.fields entries htype hvalue).declared
  · intro values htype hvalue
    refine validateItems_eq_nil.mpr fun item hitem x hx ↦ ?_
    exact h.items values htype hvalue item hitem x.1 (List.fst_mem_of_mem_zipIdx hx) _

/-- The path a value is validated at only shows in the findings. -/
theorem validateValue_path {q : String} (h : validateValue value schema path = []) :
    validateValue value schema q = [] := by
  induction schema using Schema.induction generalizing value path q with
  | mk schema hproperties hitems =>
    refine validateValue_of_meets ((meets_of_validateValue h).imp ?_ ?_)
    · rintro p hp w ⟨q, hq⟩ q'
      exact hproperties p hp hq
    · rintro item hitem x ⟨q, hq⟩ q'
      exact hitems item hitem hq

/-- No finding, wherever in a document the value stands. -/
def Accepts (schema : Schema) (value : Json) : Prop := ∀ path, validateValue value schema path = []

theorem accepts_iff_validateValue (path : String) :
    Accepts schema value ↔ validateValue value schema path = [] :=
  ⟨fun h ↦ h path, fun h _ ↦ validateValue_path h⟩

/-- **What the validator accepts.** A value meets the schema's own node, and its parts meet the
nested schemas. -/
theorem accepts_iff : Accepts schema value ↔ Meets Accepts schema value := by
  constructor
  · intro h
    refine (meets_of_validateValue (h "$")).imp ?_ ?_
    · rintro p - w ⟨q, hq⟩
      exact (accepts_iff_validateValue q).mpr hq
    · rintro item - x ⟨q, hq⟩
      exact (accepts_iff_validateValue q).mpr hq
  · intro h path
    exact validateValue_of_meets h

end Accepts

end SchemaGovernance

end ReqSys
