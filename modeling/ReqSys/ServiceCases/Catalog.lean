import Mathlib
import ReqSys.Foundation.Checked
import ReqSys.Foundation.HexText
import ReqSys.Foundation.Table

/-!
# Service management: the schema of an offering

An offering of the catalogue declares the fields of its requests. The declaration is read from a
JSON object (`OfferingFieldSchema.fromDict`), stored in an encoded form that drops or fills in
attributes by field type (`toDict`), and read again whenever a request is opened, to validate what
was sent (`validateSubmission`).

A field and a schema carry what their constructors check, so the encoded form of any of them is
accepted again (`CatalogForms`).
-/

namespace ReqSys

/-! ## Values of a JSON text -/

/-- A `float`. -/
inductive PyFloat where
  | finite (q : ℚ)
  | inf
  | negInf
  | nan
  deriving DecidableEq

/-- A value as `json.loads` returns it, where an `int` is not a `float`. -/
inductive PyValue where
  | none
  | bool (b : Bool)
  | int (n : ℤ)
  | float (x : PyFloat)
  | str (s : String)
  | list (items : List PyValue)
  | dict (entries : List (String × PyValue))

namespace PyValue

/-- `bool(x)`. -/
def truthy : PyValue → Bool
  | none => false
  | bool b => b
  | int n => n != 0
  | float (.finite q) => q != 0
  | float _ => true
  | str s => s != ""
  | list items => !items.isEmpty
  | dict entries => !entries.isEmpty

/-- `d.get(key)`. -/
def get (key : String) (entries : List (String × PyValue)) : PyValue :=
  (Table.get? key entries).getD none

def ofOption : Option ℤ → PyValue
  | .none => none
  | some n => int n

end PyValue

namespace ServiceCases

/-! ## What the catalogue takes from the interpreter -/

/-- `str(x)`, `repr(s)` and `int(s)`, and the letter case of the interpreter. -/
structure CatalogConfig where
  unicode : Unicode
  str : PyValue → String
  repr : String → String
  intOfText : String → Option ℤ
  str_str : ∀ s, str (.str s) = s

/-- What the catalogue raises. -/
inductive CatalogError where
  /-- `ServiceManagementValidationError`. -/
  | validation (message : String)
  /-- `OfferingSubmissionError`. -/
  | submission (message : String)
  | typeError
  | valueError
  | overflowError
  deriving DecidableEq

def catalogSchemaVersion : String := "1.0.0"

def maxFieldsPerOffering : ℕ := 30

def defaultStringMaxLength : ℤ := 500

def absoluteStringMaxLength : ℤ := 4000

/-- `str(value or '').strip()`. -/
def strippedText (cfg : CatalogConfig) (value : PyValue) : String :=
  PyText.strip (if value.truthy then cfg.str value else "")

/-- `int(value)`. -/
def intOf (cfg : CatalogConfig) : PyValue → Except CatalogError ℤ
  | .bool b => .ok (if b then 1 else 0)
  | .int n => .ok n
  | .float (.finite q) => .ok (q.num.tdiv q.den)
  | .float .nan => .error .valueError
  | .float .inf | .float .negInf => .error .overflowError
  | .str s => orThrow (cfg.intOfText s) .valueError
  | .none | .list _ | .dict _ => .error .typeError

/-- `tuple(value or ())`. -/
def tupleOf (value : PyValue) : Except CatalogError (List PyValue) :=
  if value.truthy then
    match value with
    | .str s => .ok (s.toList.map fun c ↦ .str (String.singleton c))
    | .list items => .ok items
    | .dict entries => .ok (entries.map fun e ↦ .str e.1)
    | .none | .bool _ | .int _ | .float _ => .error .typeError
  else .ok []

/-- `sorted(set(d) - allowed)`. -/
def unknownKeys (entries : List (String × PyValue)) (allowed : List String) : List String :=
  ((entries.map Prod.fst).filter fun k ↦ !allowed.contains k).dedup.insertionSort (· ≤ ·)

theorem unknownKeys_eq_nil {entries : List (String × PyValue)} {allowed : List String} :
    unknownKeys entries allowed = [] ↔ ∀ e ∈ entries, e.1 ∈ allowed := by
  rw [unknownKeys, ← List.length_eq_zero_iff, List.length_insertionSort, List.length_eq_zero_iff,
    List.dedup_eq_nil, List.filter_eq_nil_iff]
  simp

/-! ## Fields -/

inductive OfferingFieldType where
  | string
  | integer
  | boolean
  | enum
  deriving DecidableEq

namespace OfferingFieldType

def value : OfferingFieldType → String
  | string => "STRING" | integer => "INTEGER" | boolean => "BOOLEAN" | enum => "ENUM"

/-- `OfferingFieldType(value)`. -/
def ofValue? (s : String) : Option OfferingFieldType :=
  [string, integer, boolean, enum].find? fun t ↦ t.value == s

theorem ofValue?_value (t : OfferingFieldType) : ofValue? t.value = some t := by
  cases t <;> rfl

end OfferingFieldType

/-- `FIELD_KEY_RE.fullmatch`: `^[a-z][a-z0-9_]{0,59}$`. -/
def isFieldKey (s : String) : Bool :=
  match s.toList with
  | [] => false
  | c :: cs => ('a' ≤ c && c ≤ 'z') && cs.length ≤ 59 &&
      cs.all fun c ↦ ('a' ≤ c && c ≤ 'z') || ('0' ≤ c && c ≤ '9') || c == '_'

/-- What is checked of the options. -/
def OptionsFit (fieldType : OfferingFieldType) (options : List String) : Prop :=
  if fieldType = .enum then
    options ≠ [] ∧ (∀ s ∈ options, s ≠ "" ∧ PyText.strip s = s) ∧ options.Nodup
  else options = []

/-- A field, with what its constructor checks. -/
@[ext] structure OfferingField where
  key : String
  label : String
  fieldType : OfferingFieldType
  required : Bool
  options : List String
  maxLength : ℤ
  minValue : Option ℤ
  maxValue : Option ℤ
  isFieldKey_key : isFieldKey key = true
  label_stripped : PyText.strip label = label
  label_length : label ≠ "" ∧ label.length ≤ 200
  options_fit : OptionsFit fieldType options
  maxLength_range : fieldType = .string → 1 ≤ maxLength ∧ maxLength ≤ absoluteStringMaxLength
  minValue_none : fieldType ≠ .integer → minValue = none
  maxValue_none : fieldType ≠ .integer → maxValue = none
  minValue_le : ∀ a ∈ minValue, ∀ b ∈ maxValue, a ≤ b
  deriving DecidableEq

/-- The arguments of the constructor. -/
structure FieldArgs where
  key : PyValue
  label : PyValue
  fieldType : OfferingFieldType
  required : Bool
  options : List PyValue
  maxLength : ℤ
  minValue : PyValue
  maxValue : PyValue

/-- `_field_key`. -/
def fieldKey (cfg : CatalogConfig) (value : PyValue) :
    Except CatalogError {s : String // isFieldKey s = true} := do
  let normalized := strippedText cfg value
  let h ← ensure (isFieldKey normalized = true) (.validation ("key de campo inválida: "
    ++ cfg.repr normalized ++ " (esperado snake_case minúsculo)"))
  return ⟨normalized, h.down⟩

/-- The options, stripped and checked. -/
def fieldOptions (cfg : CatalogConfig) (key : String) (fieldType : OfferingFieldType)
    (options : List PyValue) :
    Except CatalogError {o : List String // OptionsFit fieldType o} :=
  let normalized := options.map fun x ↦ PyText.strip (cfg.str x)
  if h : fieldType = .enum then do
    let some' ← ensure (normalized ≠ []) (.validation ("campo ENUM " ++ key ++ " exige options"))
    let filled ← ensure (∀ s ∈ normalized, s ≠ "")
      (.validation ("options do campo " ++ key ++ " não podem ser vazias"))
    let distinct ← ensure normalized.Nodup
      (.validation ("options do campo " ++ key ++ " possuem duplicidade"))
    return ⟨normalized, by
      rw [OptionsFit, if_pos h]
      refine ⟨some'.down, fun s hs ↦ ⟨filled.down s hs, ?_⟩, distinct.down⟩
      obtain ⟨x, -, rfl⟩ := List.mem_map.mp hs
      exact PyText.strip_strip _⟩
  else do
    let absent ← ensure (normalized = [])
      (.validation ("options só se aplicam a campo ENUM (" ++ key ++ ")"))
    return ⟨normalized, by rw [OptionsFit, if_neg h]; exact absent.down⟩

/-- One of the two bounds. -/
def fieldBound (key : String) (fieldType : OfferingFieldType) (boundName : String)
    (bound : PyValue) :
    Except CatalogError {o : Option ℤ // fieldType ≠ .integer → o = none} :=
  match bound with
  | .none => .ok ⟨none, fun _ ↦ rfl⟩
  | bound => do
    let applies ← ensure (fieldType = .integer)
      (.validation (boundName ++ " só se aplica a campo INTEGER (" ++ key ++ ")"))
    match bound with
    | .int n => .ok ⟨some n, fun h ↦ absurd applies.down h⟩
    | _ => .error (.validation (boundName ++ " do campo " ++ key ++ " deve ser inteiro"))

/-- `OfferingField.__post_init__`. -/
def OfferingField.build (cfg : CatalogConfig) (a : FieldArgs) :
    Except CatalogError OfferingField := do
  let key ← fieldKey cfg a.key
  let label := strippedText cfg a.label
  let nonempty ← ensure (label ≠ "")
    (.validation ("label do campo " ++ key.1 ++ " deve ser informado"))
  let short ← ensure (label.length ≤ 200)
    (.validation ("label do campo " ++ key.1 ++ " excede 200 caracteres"))
  let options ← fieldOptions cfg key.1 a.fieldType a.options
  let range ← ensure
    (a.fieldType = .string → 1 ≤ a.maxLength ∧ a.maxLength ≤ absoluteStringMaxLength)
    (.validation ("max_length do campo " ++ key.1 ++ " deve estar entre 1 e "
      ++ PyText.intRepr absoluteStringMaxLength))
  let minValue ← fieldBound key.1 a.fieldType "min_value" a.minValue
  let maxValue ← fieldBound key.1 a.fieldType "max_value" a.maxValue
  let ordered ← ensure (∀ x ∈ minValue.1, ∀ y ∈ maxValue.1, x ≤ y)
    (.validation ("min_value do campo " ++ key.1 ++ " não pode exceder max_value"))
  return {
    key := key.1
    label
    fieldType := a.fieldType
    required := a.required
    options := options.1
    maxLength := a.maxLength
    minValue := minValue.1
    maxValue := maxValue.1
    isFieldKey_key := key.2
    label_stripped := PyText.strip_strip _
    label_length := ⟨nonempty.down, short.down⟩
    options_fit := options.2
    maxLength_range := range.down
    minValue_none := minValue.2
    maxValue_none := maxValue.2
    minValue_le := ordered.down }

namespace OfferingField

/-- The `payload` of `to_dict`. -/
def payload (f : OfferingField) : List (String × PyValue) :=
  [("key", .str f.key), ("label", .str f.label), ("type", .str f.fieldType.value),
      ("required", .bool f.required)]
    ++ (if f.fieldType = .enum then [("options", .list (f.options.map .str))] else [])
    ++ (if f.fieldType = .string then [("max_length", .int f.maxLength)] else [])
    ++ (f.minValue.map fun n ↦ ("min_value", .int n)).toList
    ++ (f.maxValue.map fun n ↦ ("max_value", .int n)).toList

/-- `OfferingField.to_dict`. -/
def toDict (f : OfferingField) : PyValue := .dict f.payload

def allowedAttributes : List String :=
  ["key", "label", "type", "required", "options", "max_length", "min_value", "max_value"]

/-- `OfferingField.from_dict`. -/
def fromDict (cfg : CatalogConfig) : PyValue → Except CatalogError OfferingField
  | .dict raw => do
    require (unknownKeys raw allowedAttributes = [])
      (.validation ("atributos não suportados no esquema de campo: "
        ++ String.intercalate ", " (unknownKeys raw allowedAttributes)))
    let rawType := cfg.unicode.upper (strippedText cfg (PyValue.get "type" raw))
    let fieldType ← orThrow (OfferingFieldType.ofValue? rawType)
      (.validation ("type de campo inválido: " ++ cfg.repr rawType))
    let options ← tupleOf (PyValue.get "options" raw)
    let maxLength ← intOf cfg ((Table.get? "max_length" raw).getD (.int defaultStringMaxLength))
    build cfg {
      key := PyValue.get "key" raw
      label := PyValue.get "label" raw
      fieldType
      required := ((Table.get? "required" raw).getD (.bool false)).truthy
      options
      maxLength
      minValue := PyValue.get "min_value" raw
      maxValue := PyValue.get "max_value" raw }
  | _ => .error (.validation "campo do esquema deve ser objeto")

/-- The text of a value that is to be a string. -/
def stringValue (f : OfferingField) : PyValue → Except CatalogError String
  | .str s => do
    require (PyText.strip s ≠ "") (.submission ("campo " ++ f.key ++ " não pode ser vazio"))
    return PyText.strip s
  | _ => .error (.submission ("campo " ++ f.key ++ " deve ser string"))

/-- `OfferingField.validate_value`. -/
def validateValue (f : OfferingField) (value : PyValue) : Except CatalogError PyValue :=
  match f.fieldType with
  | .string => do
    let normalized ← f.stringValue value
    require (normalized.length ≤ f.maxLength)
      (.submission ("campo " ++ f.key ++ " excede " ++ PyText.intRepr f.maxLength ++ " caracteres"))
    return .str normalized
  | .enum => do
    let normalized ← f.stringValue value
    require (normalized ∈ f.options)
      (.submission ("campo " ++ f.key ++ " deve ser um de: " ++ String.intercalate ", " f.options))
    return .str normalized
  | .integer =>
    match value with
    | .int n => do
      require (∀ a ∈ f.minValue, a ≤ n) (.submission ("campo " ++ f.key ++ " deve ser >= "
        ++ ((f.minValue.map PyText.intRepr).getD "")))
      require (∀ b ∈ f.maxValue, n ≤ b) (.submission ("campo " ++ f.key ++ " deve ser <= "
        ++ ((f.maxValue.map PyText.intRepr).getD "")))
      return .int n
    | _ => .error (.submission ("campo " ++ f.key ++ " deve ser inteiro"))
  | .boolean =>
    match value with
    | .bool b => .ok (.bool b)
    | _ => .error (.submission ("campo " ++ f.key ++ " deve ser booleano"))

end OfferingField

/-! ## Schemas -/

/-- A schema, with what its constructor checks. -/
structure OfferingFieldSchema where
  fields : List OfferingField
  schemaVersion : String
  length_le : fields.length ≤ maxFieldsPerOffering
  keyed : Table.Keyed OfferingField.key fields
  schemaVersion_eq : schemaVersion = catalogSchemaVersion
  deriving DecidableEq

namespace OfferingFieldSchema

/-- `OfferingFieldSchema.__post_init__`. -/
def build (fields : List OfferingField) (schemaVersion : String) :
    Except CatalogError OfferingFieldSchema := do
  let short ← ensure (fields.length ≤ maxFieldsPerOffering)
    (.validation ("esquema excede " ++ toString maxFieldsPerOffering ++ " campos"))
  let distinct ← ensure (fields.map OfferingField.key).Nodup
    (.validation "esquema possui keys duplicadas")
  let version ← ensure (schemaVersion = catalogSchemaVersion)
    (.validation ("schema_version do catálogo deve ser " ++ catalogSchemaVersion))
  return ⟨fields, schemaVersion, short.down, distinct.down, version.down⟩

/-- `keys`. -/
def keys (s : OfferingFieldSchema) : List String := s.fields.map OfferingField.key

/-- `OfferingFieldSchema.to_dict`. -/
def toDict (s : OfferingFieldSchema) : PyValue :=
  .dict [("schema_version", .str s.schemaVersion),
    ("fields", .list (s.fields.map OfferingField.toDict))]

/-- The items of `raw.get('fields') or ()`. -/
def rawFields (value : PyValue) : Except CatalogError (List PyValue) :=
  if value.truthy then
    match value with
    | .list items => .ok items
    | _ => .error (.validation "field_schema.fields deve ser lista")
  else .ok []

/-- `OfferingFieldSchema.from_dict`. -/
def fromDict (cfg : CatalogConfig) : PyValue → Except CatalogError OfferingFieldSchema
  | .none => build [] catalogSchemaVersion
  | .dict raw => do
    require (unknownKeys raw ["fields", "schema_version"] = [])
      (.validation ("atributos não suportados em field_schema: "
        ++ String.intercalate ", " (unknownKeys raw ["fields", "schema_version"])))
    let items ← rawFields (PyValue.get "fields" raw)
    let fields ← items.mapM (OfferingField.fromDict cfg)
    let version := PyValue.get "schema_version" raw
    build fields (if version.truthy then cfg.str version else catalogSchemaVersion)
  | _ => .error (.validation "field_schema deve ser objeto")

/-- What `dict(items)` raises, if it does, on a list that should hold pairs. -/
def pairError : PyValue → Option CatalogError
  | .list [.list _, _] | .list [.dict _, _] => some .typeError
  | .list [_, _] => none
  | .list _ => some .valueError
  | .str s => if s.length = 2 then none else some .valueError
  | .dict entries => if entries.length = 2 then none else some .valueError
  | .none | .bool _ | .int _ | .float _ => some .typeError

/-- `dict(payload or {})`, and the check that the payload is an object. -/
def submittedData (payload : PyValue) : Except CatalogError (List (String × PyValue)) :=
  match payload with
  | .none => .ok []
  | .dict entries => .ok entries
  | .list items =>
    .error ((items.findSome? pairError).getD (.submission "fields deve ser objeto"))
  | .str s => .error (if s = "" then .submission "fields deve ser objeto" else .valueError)
  | value => .error (if value.truthy then .typeError else .submission "fields deve ser objeto")

/-- The loop of `validate_submission`: a field that is absent or `None` is left out. -/
def normalize : List OfferingField → List (String × PyValue) →
    Except CatalogError (List (String × PyValue))
  | [], _ => .ok []
  | f :: fs, data =>
    match PyValue.get f.key data with
    | .none => do
      require (f.required = false) (.submission ("campo obrigatório ausente: " ++ f.key))
      normalize fs data
    | value => do
      let normalized ← f.validateValue value
      let rest ← normalize fs data
      return (f.key, normalized) :: rest

/-- `OfferingFieldSchema.validate_submission`. -/
def validateSubmission (s : OfferingFieldSchema) (payload : PyValue) :
    Except CatalogError (List (String × PyValue)) := do
  let data ← submittedData payload
  require (unknownKeys data s.keys = []) (.submission ("campos não declarados na oferta: "
    ++ String.intercalate ", " (unknownKeys data s.keys)))
  normalize s.fields data

end OfferingFieldSchema

end ServiceCases

end ReqSys
