import Mathlib
import ReqSys.ServiceCases.Catalog

/-!
# Service management: the stored form of a schema

The encoded form of a field is read back as the field itself, up to the `max_length` of a field that
has no use for it (`OfferingField.reread`); that attribute is then neither encoded nor looked at. So
the stored form of a schema stands for the schema (`OfferingFieldSchema.round_trip`).

What a schema accepts is normalised: the texts are stripped, the absent fields left out. The same
loop leaves it alone (`normalize_of_normalize`).
-/

namespace ReqSys

namespace ServiceCases

/-! ## The encoded form is read back -/

variable {cfg : CatalogConfig}

@[simp] theorem strippedText_str (cfg : CatalogConfig) (s : String) :
    strippedText cfg (.str s) = PyText.strip s := by
  rw [strippedText, cfg.str_str]
  by_cases h : s = ""
  · subst h
    rfl
  · rw [if_pos (by simpa [PyValue.truthy] using h)]

/-- A key is no longer than what `strip` leaves of it. -/
theorem strip_of_isFieldKey {s : String} (h : isFieldKey s = true) : PyText.strip s = s := by
  refine PyText.strip_of_forall fun c hc ↦ ?_
  have hrange : 48 ≤ c.toNat ∧ c.toNat ≤ 57 ∨ c.toNat = 95 ∨ 97 ≤ c.toNat ∧ c.toNat ≤ 122 := by
    rw [isFieldKey] at h
    cases hs : s.toList with
    | nil =>
      rw [hs] at hc
      exact absurd hc List.not_mem_nil
    | cons d ds =>
      simp only [hs, Bool.and_eq_true, Bool.or_eq_true, decide_eq_true_eq, beq_iff_eq,
        List.all_eq_true, Char.le_def, UInt32.le_iff_toNat_le] at h
      rw [hs] at hc
      obtain rfl | hc := List.mem_cons.mp hc
      · exact Or.inr (Or.inr h.1.1)
      · obtain (hlower | hdigit) | rfl := h.2 c hc
        · exact Or.inr (Or.inr hlower)
        · exact Or.inl hdigit
        · exact Or.inr (Or.inl rfl)
  by_contra hspace
  have hmem := List.contains_iff_mem.mp (Bool.not_eq_false _ ▸ hspace)
  simp only [List.mem_cons, List.not_mem_nil, or_false] at hmem
  omega

namespace OfferingField

/-- The field that is read from its encoded form. -/
def reread (f : OfferingField) : OfferingField :=
  { f with
    maxLength := if f.fieldType = .string then f.maxLength else defaultStringMaxLength
    maxLength_range := fun h ↦ by rw [if_pos h]; exact f.maxLength_range h }

theorem fieldBound_ofOption {key boundName : String} {fieldType : OfferingFieldType} {o : Option ℤ}
    (h : fieldType ≠ .integer → o = none) :
    fieldBound key fieldType boundName (PyValue.ofOption o) = .ok ⟨o, h⟩ := by
  cases o with
  | none => rfl
  | some n =>
    have htype : fieldType = .integer := by
      by_contra hne
      cases h hne
    simp only [PyValue.ofOption, fieldBound]
    exact ensure_bind htype

theorem fieldOptions_of_fit {key : String} {fieldType : OfferingFieldType}
    {options : List PyValue}
    (h : OptionsFit fieldType (options.map fun x ↦ PyText.strip (cfg.str x))) :
    fieldOptions cfg key fieldType options = .ok ⟨_, h⟩ := by
  rw [fieldOptions]
  by_cases htype : fieldType = .enum
  · have hfit := h
    rw [OptionsFit, if_pos htype] at hfit
    rw [dif_pos htype, ensure_bind hfit.1, ensure_bind fun s hs ↦ (hfit.2.1 s hs).1,
      ensure_bind hfit.2.2]
    rfl
  · have hfit := h
    rw [OptionsFit, if_neg htype] at hfit
    rw [dif_neg htype, ensure_bind hfit]
    rfl

/-- Options that fit are stripped already. -/
theorem map_strip_options (f : OfferingField) :
    (f.options.map PyValue.str).map (fun x ↦ PyText.strip (cfg.str x)) = f.options := by
  have hfit := f.options_fit
  rw [List.map_map]
  refine (List.map_congr_left fun s hs ↦ ?_).trans (List.map_id f.options)
  rw [Function.comp_apply, cfg.str_str]
  rw [OptionsFit] at hfit
  split_ifs at hfit with htype
  · exact (hfit.2.1 s hs).2
  · rw [hfit] at hs
    exact absurd hs List.not_mem_nil

theorem fieldKey_str (f : OfferingField) :
    fieldKey cfg (.str f.key) = .ok ⟨f.key, f.isFieldKey_key⟩ := by
  have hstrip : strippedText cfg (.str f.key) = f.key := by
    rw [strippedText_str, strip_of_isFieldKey f.isFieldKey_key]
  have hkey : isFieldKey (strippedText cfg (.str f.key)) = true := by
    rw [hstrip]
    exact f.isFieldKey_key
  rw [fieldKey, ensure_bind hkey]
  exact congrArg Except.ok (Subtype.ext hstrip)

/-- The arguments that the encoded form of a field gives to the constructor. -/
def args (f : OfferingField) : FieldArgs where
  key := .str f.key
  label := .str f.label
  fieldType := f.fieldType
  required := f.required
  options := f.options.map .str
  maxLength := f.maxLength
  minValue := PyValue.ofOption f.minValue
  maxValue := PyValue.ofOption f.maxValue

/-- **The constructor gives the field back.** -/
theorem build_args (f : OfferingField) : build cfg f.args = .ok f := by
  have hlabel : strippedText cfg f.args.label = f.label := by
    rw [args, strippedText_str, f.label_stripped]
  have hfit : OptionsFit f.args.fieldType
      (f.args.options.map fun x ↦ PyText.strip (cfg.str x)) := by
    rw [args, map_strip_options]
    exact f.options_fit
  have hnonempty : strippedText cfg f.args.label ≠ "" := by
    rw [hlabel]
    exact f.label_length.1
  have hshort : (strippedText cfg f.args.label).length ≤ 200 := by
    rw [hlabel]
    exact f.label_length.2
  have hkey : fieldKey cfg f.args.key = .ok ⟨f.key, f.isFieldKey_key⟩ := fieldKey_str f
  have hrange : f.args.fieldType = .string →
      1 ≤ f.args.maxLength ∧ f.args.maxLength ≤ absoluteStringMaxLength := f.maxLength_range
  have hmin : f.args.fieldType ≠ .integer → f.minValue = none := f.minValue_none
  have hmax : f.args.fieldType ≠ .integer → f.maxValue = none := f.maxValue_none
  rw [build, hkey, ok_bind, ensure_bind hnonempty, ensure_bind hshort, fieldOptions_of_fit hfit,
    ok_bind, ensure_bind hrange, show f.args.minValue = PyValue.ofOption f.minValue from rfl,
    fieldBound_ofOption hmin, ok_bind, show f.args.maxValue = PyValue.ofOption f.maxValue from rfl,
    fieldBound_ofOption hmax, ok_bind, ensure_bind f.minValue_le]
  refine congrArg Except.ok (OfferingField.ext rfl hlabel rfl rfl ?_ rfl rfl rfl)
  exact map_strip_options f

theorem unknownKeys_payload (f : OfferingField) : unknownKeys f.payload allowedAttributes = [] := by
  have hsub : f.payload.map Prod.fst ⊆ allowedAttributes := by
    obtain ⟨key, label, fieldType, required, options, maxLength, minValue, maxValue⟩ := f
    cases fieldType <;> cases minValue <;> cases maxValue <;> simp [payload, allowedAttributes]
  exact unknownKeys_eq_nil.mpr fun e he ↦ hsub (List.mem_map_of_mem he)

/-- What the payload holds under each attribute. -/
theorem get_payload (f : OfferingField) :
    PyValue.get "key" f.payload = .str f.key ∧ PyValue.get "label" f.payload = .str f.label ∧
    PyValue.get "type" f.payload = .str f.fieldType.value ∧
    Table.get? "required" f.payload = some (.bool f.required) ∧
    PyValue.get "options" f.payload =
      (if f.fieldType = .enum then .list (f.options.map .str) else .none) ∧
    Table.get? "max_length" f.payload =
      (if f.fieldType = .string then some (.int f.maxLength) else none) ∧
    PyValue.get "min_value" f.payload = PyValue.ofOption f.minValue ∧
    PyValue.get "max_value" f.payload = PyValue.ofOption f.maxValue := by
  obtain ⟨key, label, fieldType, required, options, maxLength, minValue, maxValue⟩ := f
  cases fieldType <;> cases minValue <;> cases maxValue <;>
    exact ⟨rfl, rfl, rfl, rfl, rfl, rfl, rfl, rfl⟩

theorem upper_value (cfg : CatalogConfig) (t : OfferingFieldType) :
    cfg.unicode.upper (strippedText cfg (.str t.value)) = t.value := by
  rw [strippedText_str]
  cases t
  all_goals
    refine (cfg.unicode.upper_ascii _ ?_).trans ?_
    all_goals decide

theorem tupleOf_options (f : OfferingField) :
    tupleOf (if f.fieldType = .enum then .list (f.options.map .str) else .none) =
      .ok (f.options.map .str) := by
  have hfit := f.options_fit
  rw [OptionsFit] at hfit
  split_ifs at hfit ⊢ with htype
  · rw [tupleOf, if_pos]
    simpa [PyValue.truthy] using hfit.1
  · rw [hfit]
    rfl

/-- **The encoded form of a field is read back.** -/
theorem fromDict_toDict (f : OfferingField) : fromDict cfg f.toDict = .ok f.reread := by
  obtain ⟨hkey, hlabel, htype, hrequired, hoptions, hmaxLength, hminValue, hmaxValue⟩ :=
    f.get_payload
  have hmax : intOf cfg ((Table.get? "max_length" f.payload).getD (.int defaultStringMaxLength)) =
      .ok f.reread.maxLength := by
    rw [hmaxLength, reread]
    split_ifs <;> rfl
  rw [toDict, fromDict, require_bind_of_true f.unknownKeys_payload]
  simp only [hkey, hlabel, htype, hrequired, hoptions, hminValue, hmaxValue, upper_value,
    OfferingFieldType.ofValue?_value, tupleOf_options, hmax, orThrow, ok_bind]
  exact build_args f.reread

theorem toDict_reread (f : OfferingField) : f.reread.toDict = f.toDict := by
  rw [toDict, toDict, payload, payload]
  by_cases h : f.fieldType = .string
  · simp only [reread, if_pos h]
  · simp only [reread, if_neg h]

theorem validateValue_reread (f : OfferingField) (value : PyValue) :
    f.reread.validateValue value = f.validateValue value := by
  obtain ⟨key, label, fieldType⟩ := f
  cases fieldType <;> cases value <;> rfl

end OfferingField

namespace OfferingFieldSchema

/-- The schema that is read from its encoded form. -/
def reread (s : OfferingFieldSchema) : OfferingFieldSchema where
  fields := s.fields.map OfferingField.reread
  schemaVersion := s.schemaVersion
  length_le := by
    rw [List.length_map]
    exact s.length_le
  keyed := by
    have hkeys : (s.fields.map OfferingField.reread).map OfferingField.key =
        s.fields.map OfferingField.key := by
      rw [List.map_map]
      rfl
    rw [Table.Keyed, hkeys]
    exact s.keyed
  schemaVersion_eq := s.schemaVersion_eq

theorem keys_reread (s : OfferingFieldSchema) : s.reread.keys = s.keys := by
  rw [keys, keys, reread, List.map_map]
  rfl

theorem build_eq_ok {fields : List OfferingField} {schemaVersion : String}
    {s : OfferingFieldSchema} (hfields : s.fields = fields)
    (hversion : s.schemaVersion = schemaVersion) : build fields schemaVersion = .ok s := by
  subst hfields hversion
  have hkeys : (s.fields.map OfferingField.key).Nodup := s.keyed
  rw [build, ensure_bind s.length_le, ensure_bind hkeys, ensure_bind s.schemaVersion_eq]
  rfl

/-- **The encoded form of a schema is read back.** -/
theorem fromDict_toDict (s : OfferingFieldSchema) : fromDict cfg s.toDict = .ok s.reread := by
  have hitems : rawFields (.list (s.fields.map OfferingField.toDict)) =
      .ok (s.fields.map OfferingField.toDict) := by
    rw [rawFields]
    cases hfields : s.fields <;> rfl
  have hfields : (s.fields.map OfferingField.toDict).mapM (OfferingField.fromDict cfg) =
      .ok (s.fields.map OfferingField.reread) := by
    induction s.fields with
    | nil => rfl
    | cons f fs ih => rw [List.map_cons, List.mapM_cons, f.fromDict_toDict, ok_bind, ih]; rfl
  have hversion : (if (PyValue.str s.schemaVersion).truthy then cfg.str (.str s.schemaVersion)
      else catalogSchemaVersion) = s.schemaVersion := by
    rw [s.schemaVersion_eq, cfg.str_str]
    rfl
  rw [toDict, fromDict, require_bind_of_true]
  · have hget : PyValue.get "fields" [("schema_version", .str s.schemaVersion),
        ("fields", .list (s.fields.map OfferingField.toDict))] =
          .list (s.fields.map OfferingField.toDict) := rfl
    have hget' : PyValue.get "schema_version" [("schema_version", .str s.schemaVersion),
        ("fields", .list (s.fields.map OfferingField.toDict))] = .str s.schemaVersion := rfl
    simp only [hget, hget', hitems, ok_bind, hfields, hversion]
    exact build_eq_ok rfl rfl
  · exact unknownKeys_eq_nil.mpr (by simp)

theorem toDict_reread (s : OfferingFieldSchema) : s.reread.toDict = s.toDict := by
  have hfields : (s.fields.map OfferingField.reread).map OfferingField.toDict =
      s.fields.map OfferingField.toDict := by
    rw [List.map_map]
    exact List.map_congr_left fun f _ ↦ f.toDict_reread
  rw [toDict, toDict, reread, hfields]

theorem normalize_reread (fields : List OfferingField) (data : List (String × PyValue)) :
    normalize (fields.map OfferingField.reread) data = normalize fields data := by
  induction fields with
  | nil => rfl
  | cons f fs ih =>
    rw [List.map_cons, normalize, normalize, ih]
    have hkey : f.reread.key = f.key := rfl
    have hrequired : f.reread.required = f.required := rfl
    simp only [hkey, hrequired, f.validateValue_reread]

/-- Both schemas answer every submission alike. -/
theorem validateSubmission_reread (s : OfferingFieldSchema) (payload : PyValue) :
    s.reread.validateSubmission payload = s.validateSubmission payload := by
  rw [validateSubmission, validateSubmission, keys_reread]
  have hnormalize : ∀ data, normalize s.reread.fields data = normalize s.fields data :=
    normalize_reread s.fields
  simp only [hnormalize]

end OfferingFieldSchema

/-! ## Accepted submissions -/

/-- A value that passes is normalised, is not `None`, and passes again unchanged. -/
theorem OfferingField.validateValue_eq_ok {f : OfferingField} {value v : PyValue}
    (h : f.validateValue value = .ok v) : v ≠ .none ∧ f.validateValue v = .ok v := by
  have hstring : ∀ {s : String}, f.stringValue value = .ok s → f.stringValue (.str s) = .ok s := by
    intro s hs
    cases value with
    | str t =>
      obtain ⟨hne, ht⟩ := require_bind_eq_ok.mp hs
      obtain rfl := Except.ok.inj ht
      rw [stringValue, PyText.strip_strip, require_bind_of_true hne]
      rfl
    | none | bool | int | float | list | dict => cases hs
  cases htype : f.fieldType with
  | string =>
    simp only [validateValue, htype] at h ⊢
    obtain ⟨s, hs, h⟩ := bind_eq_ok.mp h
    obtain ⟨hlength, h⟩ := require_bind_eq_ok.mp h
    obtain rfl := Except.ok.inj h
    refine ⟨by rintro ⟨⟩, ?_⟩
    rw [hstring hs, ok_bind, require_bind_of_true hlength]
    rfl
  | enum =>
    simp only [validateValue, htype] at h ⊢
    obtain ⟨s, hs, h⟩ := bind_eq_ok.mp h
    obtain ⟨hmem, h⟩ := require_bind_eq_ok.mp h
    obtain rfl := Except.ok.inj h
    refine ⟨by rintro ⟨⟩, ?_⟩
    rw [hstring hs, ok_bind, require_bind_of_true hmem]
    rfl
  | integer =>
    have hvalue : ∃ n, value = .int n ∧ v = .int n := by
      simp only [validateValue, htype] at h
      cases value with
      | int n =>
        obtain ⟨-, h⟩ := require_bind_eq_ok.mp h
        obtain ⟨-, h⟩ := require_bind_eq_ok.mp h
        exact ⟨n, rfl, (Except.ok.inj h).symm⟩
      | none | bool | float | str | list | dict => cases h
    obtain ⟨n, rfl, rfl⟩ := hvalue
    exact ⟨by rintro ⟨⟩, h⟩
  | boolean =>
    have hvalue : ∃ b, value = .bool b ∧ v = .bool b := by
      simp only [validateValue, htype] at h
      cases value with
      | bool b => exact ⟨b, rfl, (Except.ok.inj h).symm⟩
      | none | int | float | str | list | dict => cases h
    obtain ⟨b, rfl, rfl⟩ := hvalue
    exact ⟨by rintro ⟨⟩, h⟩

namespace OfferingFieldSchema

/-- One round of the loop over a field that was sent. -/
theorem normalize_cons_of_ne_none {f : OfferingField} (fs : List OfferingField)
    {data : List (String × PyValue)} (h : PyValue.get f.key data ≠ .none) :
    normalize (f :: fs) data = (do
      let normalized ← f.validateValue (PyValue.get f.key data)
      let rest ← normalize fs data
      return (f.key, normalized) :: rest) := by
  rw [normalize]
  split
  · next hnone => exact absurd hnone h
  · rfl

/-- One round of the loop: the field is left out, or its value is normalised. -/
theorem normalize_cons_eq_ok {f : OfferingField} {fs : List OfferingField}
    {data result : List (String × PyValue)} :
    normalize (f :: fs) data = .ok result ↔
      (PyValue.get f.key data = .none ∧ f.required = false ∧ normalize fs data = .ok result) ∨
      (PyValue.get f.key data ≠ .none ∧ ∃ v rest, f.validateValue (PyValue.get f.key data) = .ok v ∧
        normalize fs data = .ok rest ∧ result = (f.key, v) :: rest) := by
  by_cases hnone : PyValue.get f.key data = .none
  · rw [normalize, hnone]
    simp only [require_bind_eq_ok, true_and, ne_eq, not_true_eq_false, false_and, or_false]
  · rw [normalize_cons_of_ne_none fs hnone]
    constructor
    · intro h
      obtain ⟨v, hv, h⟩ := bind_eq_ok.mp h
      obtain ⟨rest, hrest, h⟩ := bind_eq_ok.mp h
      exact Or.inr ⟨hnone, v, rest, hv, hrest, (Except.ok.inj h).symm⟩
    · rintro (⟨h, -⟩ | ⟨-, v, rest, hv, hrest, rfl⟩)
      · exact absurd h hnone
      · exact bind_eq_ok.mpr ⟨v, hv, bind_eq_ok.mpr ⟨rest, hrest, rfl⟩⟩

/-- What the loop keeps: keys that are declared, in order, and every required one. -/
theorem keys_of_normalize {fields : List OfferingField} {data result : List (String × PyValue)}
    (h : normalize fields data = .ok result) :
    (result.map Prod.fst).Sublist (fields.map OfferingField.key) ∧
      ∀ f ∈ fields, f.required = true → f.key ∈ result.map Prod.fst := by
  induction fields generalizing result with
  | nil =>
    obtain rfl := Except.ok.inj h
    exact ⟨List.Sublist.slnil, fun f hf ↦ absurd hf List.not_mem_nil⟩
  | cons f fs ih =>
    obtain ⟨-, hrequired, htail⟩ | ⟨-, v, rest, -, htail, rfl⟩ := normalize_cons_eq_ok.mp h
    · obtain ⟨hsub, hmem⟩ := ih htail
      refine ⟨hsub.cons _, List.forall_mem_cons.mpr ⟨fun htrue ↦ ?_, hmem⟩⟩
      rw [hrequired] at htrue
      cases htrue
    · obtain ⟨hsub, hmem⟩ := ih htail
      refine ⟨hsub.cons_cons _, List.forall_mem_cons.mpr ⟨fun _ ↦ List.mem_cons_self, ?_⟩⟩
      exact fun g hg hrequired ↦ List.mem_cons_of_mem _ (hmem g hg hrequired)

theorem get_cons {key : String} {e : String × PyValue} {entries : List (String × PyValue)} :
    PyValue.get key (e :: entries) = if e.1 = key then e.2 else PyValue.get key entries := by
  rw [PyValue.get, PyValue.get, Table.get?, Table.get?, Table.lookup, Table.lookup, List.find?_cons]
  split_ifs with h <;> simp [h]

/-- **What was accepted is accepted again**, from any data that agrees with it on the keys. -/
theorem normalize_of_normalize {fields : List OfferingField}
    (hfields : Table.Keyed OfferingField.key fields) {data result data' : List (String × PyValue)}
    (h : normalize fields data = .ok result)
    (hdata : ∀ f ∈ fields, PyValue.get f.key data' = PyValue.get f.key result) :
    normalize fields data' = .ok result := by
  induction fields generalizing result with
  | nil => exact h
  | cons f fs ih =>
    obtain ⟨hnotMem, hfs⟩ := List.nodup_cons.mp hfields
    obtain ⟨hf, hfs'⟩ := List.forall_mem_cons.mp hdata
    obtain ⟨-, hrequired, htail⟩ | ⟨-, v, rest, hv, htail, rfl⟩ := normalize_cons_eq_ok.mp h
    · have habsent : PyValue.get f.key result = .none := by
        have hnone : Table.get? f.key result = none := by
          refine Table.get?_eq_none.mpr fun e he heq ↦ hnotMem ?_
          exact (keys_of_normalize htail).1.subset (heq ▸ List.mem_map_of_mem he)
        rw [PyValue.get, hnone]
        rfl
      exact normalize_cons_eq_ok.mpr (Or.inl ⟨hf.trans habsent, hrequired, ih hfs htail hfs'⟩)
    · obtain ⟨hne, hagain⟩ := f.validateValue_eq_ok hv
      rw [get_cons, if_pos rfl] at hf
      refine normalize_cons_eq_ok.mpr (Or.inr ⟨hf ▸ hne, v, rest, hf ▸ hagain, ?_, rfl⟩)
      refine ih hfs htail fun g hg ↦ ?_
      rw [hfs' g hg, get_cons, if_neg]
      intro heq
      have hmem : g.key ∈ fs.map OfferingField.key := List.mem_map_of_mem hg
      rw [← show f.key = g.key from heq] at hmem
      exact hnotMem hmem

end OfferingFieldSchema

namespace OfferingFieldSchema

/-- What a schema accepts has only declared keys, has every required one, and is accepted again
unchanged. -/
theorem accepted_again (s : OfferingFieldSchema) {payload : PyValue}
    {result : List (String × PyValue)} (h : s.validateSubmission payload = .ok result) :
    (∀ e ∈ result, e.1 ∈ s.keys) ∧
      (∀ f ∈ s.fields, f.required = true → f.key ∈ result.map Prod.fst) ∧
      s.validateSubmission (.dict result) = .ok result := by
  obtain ⟨data, -, h⟩ := bind_eq_ok.mp h
  obtain ⟨-, hnormalize⟩ := require_bind_eq_ok.mp h
  obtain ⟨hsub, hrequired⟩ := keys_of_normalize hnormalize
  have hdeclared : ∀ e ∈ result, e.1 ∈ s.keys :=
    fun e he ↦ hsub.subset (List.mem_map_of_mem he)
  refine ⟨hdeclared, hrequired, ?_⟩
  rw [validateSubmission, submittedData, ok_bind,
    require_bind_of_true (unknownKeys_eq_nil.mpr hdeclared)]
  exact normalize_of_normalize s.keyed hnormalize fun f _ ↦ rfl

/-- **The encoded form of an accepted schema stands for it**: it is accepted, is its own encoded
form and validates every submission alike; and what the schema accepts is well formed. That the
schema was read from a raw object is not used, as every schema carries what its constructor
checked. -/
theorem round_trip {raw : PyValue} {s : OfferingFieldSchema} (_h : fromDict cfg raw = .ok s) :
    ∃ s₂, fromDict cfg s.toDict = .ok s₂ ∧ s₂.toDict = s.toDict ∧
      (∀ payload, s₂.validateSubmission payload = s.validateSubmission payload) ∧
      ∀ payload result, s.validateSubmission payload = .ok result →
        (∀ e ∈ result, e.1 ∈ s.keys) ∧
        (∀ f ∈ s.fields, f.required = true → f.key ∈ result.map Prod.fst) ∧
        s.validateSubmission (.dict result) = .ok result :=
  ⟨s.reread, s.fromDict_toDict, s.toDict_reread, s.validateSubmission_reread,
    fun _ _ h ↦ s.accepted_again h⟩

end OfferingFieldSchema

/-! ## A schema with a field of each type -/

def sampleCatalogConfig : CatalogConfig where
  unicode := .ascii
  str
    | .str s => s
    | .int n => PyText.intRepr n
    | .bool b => if b then "True" else "False"
    | _ => ""
  repr s := "'" ++ s ++ "'"
  intOfText s :=
    if s ≠ "" ∧ s.toList.all Char.isDigit = true then
      some (s.toList.foldl (fun n c ↦ 10 * n + (c.toNat - 48)) 0 : ℕ)
    else none
  str_str _ := rfl

def sampleRawSchema : PyValue :=
  .dict [("fields", .list [
    .dict [("key", .str "justificativa"), ("label", .str " Justificativa "),
      ("type", .str "string"), ("required", .bool true), ("max_length", .str "120")],
    .dict [("key", .str "ambiente"), ("label", .str "Ambiente"), ("type", .str "ENUM"),
      ("required", .bool true), ("options", .list [.str "DEV ", .str "HML"])],
    .dict [("key", .str "quantidade"), ("label", .str "Quantidade"), ("type", .str "INTEGER"),
      ("min_value", .int 1), ("max_value", .int 10), ("max_length", .int 7)],
    .dict [("key", .str "urgente"), ("label", .str "Urgente"), ("type", .str "BOOLEAN")]])]

def sampleSubmission : PyValue :=
  .dict [("justificativa", .str "  acesso ao relatorio  "), ("ambiente", .str "DEV"),
    ("quantidade", .int 3), ("urgente", .none)]

/-- The schema is read, a submission passes, and the stored form accepts what passed. -/
theorem round_trip_sample : ∃ s s₂ result,
    OfferingFieldSchema.fromDict sampleCatalogConfig sampleRawSchema = .ok s ∧
    OfferingFieldSchema.fromDict sampleCatalogConfig s.toDict = .ok s₂ ∧
    result.map Prod.fst = ["justificativa", "ambiente", "quantidade"] ∧
    s.validateSubmission sampleSubmission = .ok result ∧
    s₂.validateSubmission (.dict result) = .ok result := by
  have haccepted : (OfferingFieldSchema.fromDict sampleCatalogConfig sampleRawSchema >>= fun s ↦
      (s.validateSubmission sampleSubmission).map (List.map Prod.fst)) =
        .ok ["justificativa", "ambiente", "quantidade"] := by decide +kernel
  obtain ⟨s, hs, hresult⟩ := bind_eq_ok.mp haccepted
  obtain ⟨s₂, hs₂, -, hsame, hagain⟩ := OfferingFieldSchema.round_trip hs
  cases hvalid : s.validateSubmission sampleSubmission with
  | error e =>
    rw [hvalid] at hresult
    cases hresult
  | ok result =>
    rw [hvalid] at hresult
    refine ⟨s, s₂, result, hs, hs₂, Except.ok.inj hresult, hvalid, ?_⟩
    rw [hsame]
    exact (hagain _ _ hvalid).2.2

end ServiceCases

end ReqSys
