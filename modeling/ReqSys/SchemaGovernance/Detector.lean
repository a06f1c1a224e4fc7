import ReqSys.Foundation.Checked
import ReqSys.SchemaGovernance.Validator

/-!
# The breaking-change detector

`detect_breaking_changes` compares two versions of a schema object node by object node: it pairs
the nodes by their location, and for each pair reports what was taken away. It reads the declared
properties, `required`, `additionalProperties`, and of each property that both versions declare the
`type`, the `enum` and the `const`. It may also raise: the values of an `enum` go through a set and
a sort.

The section on empty reports turns "nothing was reported" into the facts the comparison of two
versions rests on (`objectChanges_eq_nil`, `compared_of_detectBreakingChanges`).
-/

namespace ReqSys

namespace SchemaGovernance

/-! ## Object nodes and their locations -/

mutual

/-- `flatten_object_schemas`. -/
def flattenObjectSchemas : Schema → String → List (String × Schema)
  | ⟨keywords, properties, items⟩, loc =>
    match keywords.type with
    | some .object => flattenProperties properties loc [(loc, ⟨keywords, properties, items⟩)]
    | some .array => flattenItems items loc
    | _ => []
termination_by structural schema => schema

/-- The loop over the properties of an object node, `nodes` being what was collected before. -/
def flattenProperties :
    List (String × Schema) → String → List (String × Schema) → List (String × Schema)
  | [], _, nodes => nodes
  | property :: properties, loc, nodes =>
    flattenProperties properties loc (Table.merge nodes (flattenProperty property loc))
termination_by structural properties => properties

/-- One turn of that loop. -/
def flattenProperty : String × Schema → String → List (String × Schema)
  | (key, nested), loc => flattenObjectSchemas nested (loc ++ "." ++ key)
termination_by structural property => property

/-- The items of an array node. -/
def flattenItems : Option Schema → String → List (String × Schema)
  | none, _ => []
  | some item, loc => flattenObjectSchemas item (loc ++ "[]")
termination_by structural items => items

end

/-- `node` is an object node of `schema` and `place` is its location, where `loc` is that of
`schema` itself. -/
inductive ObjectAt : Schema → String → String → Schema → Prop
  | here {schema : Schema} {loc : String} (htype : schema.keywords.type = some .object) :
      ObjectAt schema loc loc schema
  | property {schema node : Schema} {loc place : String} {p : String × Schema}
      (htype : schema.keywords.type = some .object) (hp : p ∈ schema.properties)
      (h : ObjectAt p.2 (loc ++ "." ++ p.1) place node) : ObjectAt schema loc place node
  | item {schema node item : Schema} {loc place : String}
      (htype : schema.keywords.type = some .array) (hitem : item ∈ schema.items)
      (h : ObjectAt item (loc ++ "[]") place node) : ObjectAt schema loc place node

theorem ObjectAt.type {schema node : Schema} {loc place : String}
    (h : ObjectAt schema loc place node) : node.keywords.type = some .object := by
  induction h with
  | here htype => exact htype
  | property _ _ _ ih => exact ih
  | item _ _ _ ih => exact ih

theorem mem_flattenProperties {properties nodes : List (String × Schema)} {loc : String}
    {e : String × Schema} (h : e ∈ flattenProperties properties loc nodes) :
    e ∈ nodes ∨ ∃ p ∈ properties, e ∈ flattenObjectSchemas p.2 (loc ++ "." ++ p.1) := by
  induction properties generalizing nodes with
  | nil => exact Or.inl h
  | cons p properties ih =>
    obtain ⟨key, nested⟩ := p
    rcases ih h with h | ⟨p, hp, h⟩
    · rcases Table.mem_or_mem_of_mem_merge h with h | h
      · exact Or.inl h
      · exact Or.inr ⟨_, List.mem_cons_self, h⟩
    · exact Or.inr ⟨p, List.mem_cons_of_mem _ hp, h⟩

theorem isSome_flattenProperties {properties nodes : List (String × Schema)} {loc place : String}
    (h : (Table.get? place nodes).isSome
      ∨ ∃ p ∈ properties, ∃ node, (place, node) ∈ flattenObjectSchemas p.2 (loc ++ "." ++ p.1)) :
    (Table.get? place (flattenProperties properties loc nodes)).isSome := by
  induction properties generalizing nodes with
  | nil =>
    rcases h with h | ⟨p, hp, -⟩
    · exact h
    · exact absurd hp List.not_mem_nil
  | cons p properties ih =>
    obtain ⟨key, nested⟩ := p
    apply ih
    rcases h with h | ⟨p, hp, node, h⟩
    · exact Or.inl (Table.isSome_get?_merge_left _ h)
    · rcases List.mem_cons.mp hp with rfl | hp
      · exact Or.inl (Table.isSome_get?_merge_right nodes h)
      · exact Or.inr ⟨p, hp, node, h⟩

/-- The dictionary holds object nodes at their locations. -/
theorem objectAt_of_mem {schema : Schema} {loc : String} {e : String × Schema}
    (h : e ∈ flattenObjectSchemas schema loc) : ObjectAt schema loc e.1 e.2 := by
  induction schema using Schema.induction generalizing loc with
  | mk schema hproperties hitems =>
    obtain ⟨keywords, properties, items⟩ := schema
    rw [flattenObjectSchemas] at h
    split at h
    next htype =>
      rcases mem_flattenProperties h with h | ⟨p, hp, h⟩
      · obtain rfl := List.mem_singleton.mp h
        exact .here htype
      · exact .property htype hp (hproperties p hp h)
    next htype =>
      cases items with
      | none => exact absurd h List.not_mem_nil
      | some item => exact .item htype (Option.mem_some.mpr rfl) (hitems item rfl h)
    next => exact absurd h List.not_mem_nil

/-- Every location of an object node is in the dictionary, with this node or another one. -/
theorem exists_mem_of_objectAt {schema node : Schema} {loc place : String}
    (h : ObjectAt schema loc place node) :
    ∃ node', (place, node') ∈ flattenObjectSchemas schema loc := by
  -- membership is shown through the key, which later merges cannot drop
  suffices hsome : (Table.get? place (flattenObjectSchemas schema loc)).isSome by
    obtain ⟨node', hnode'⟩ := Option.isSome_iff_exists.mp hsome
    exact ⟨node', Table.mem_of_get? hnode'⟩
  induction h with
  | @here schema loc htype =>
    obtain ⟨keywords, properties, items⟩ := schema
    simp only [flattenObjectSchemas, show keywords.type = some .object from htype]
    exact isSome_flattenProperties (Or.inl (by simp [Table.get?, Table.lookup]))
  | @property schema node loc place p htype hp h ih =>
    obtain ⟨keywords, properties, items⟩ := schema
    obtain ⟨node', hnode'⟩ := Option.isSome_iff_exists.mp ih
    simp only [flattenObjectSchemas, show keywords.type = some .object from htype]
    exact isSome_flattenProperties (Or.inr ⟨p, hp, node', Table.mem_of_get? hnode'⟩)
  | @item schema node item loc place htype hitem h ih =>
    obtain ⟨keywords, properties, items⟩ := schema
    obtain rfl : items = some item := hitem
    simp only [flattenObjectSchemas, show keywords.type = some .array from htype]
    exact ih

/-! ## Comparing two versions -/

/-- One line of the report. -/
inductive Change where
  | objectRemoved (loc : String)
  | propertyRemoved (loc prop : String)
  | requiredAdded (loc prop : String)
  | additionalPropertiesRelaxed (loc : String)
  | typeChanged (field : String) (old new : Option SchemaType)
  | enumRemoved (field : String) (values : List Json)
  | constChanged (field : String)

/-- The text of a change in the schema at `path`; `str` prints a value. -/
def Change.text (str : Json → String) (path : String) : Change → String
  | .objectRemoved loc => path ++ ": object schema removed at " ++ loc
  | .propertyRemoved loc prop => path ++ ": property removed at " ++ loc ++ "." ++ prop
  | .requiredAdded loc prop => path ++ ": required property added at " ++ loc ++ "." ++ prop
  | .additionalPropertiesRelaxed loc => path ++ ": additionalProperties was relaxed at " ++ loc
  | .typeChanged field old new =>
    path ++ ": type changed at " ++ field ++ ": " ++ typeText old ++ " -> " ++ typeText new
  | .enumRemoved field values =>
    path ++ ": enum values removed at " ++ field ++ ": " ++ ", ".intercalate (values.map str)
  | .constChanged field => path ++ ": const changed at " ++ field
where
  /-- A declared type, or `None`. -/
  typeText : Option SchemaType → String
    | none => "None"
    | some .object => "object"
    | some .array => "array"
    | some .string => "string"
    | some .number => "number"
    | some .boolean => "boolean"

/-- `sorted(set(xs) - set(ys))`. -/
def keysDiff (xs ys : List String) : List String := sortedKeys (xs.filter fun x ↦ !ys.contains x)

/-- `enum`, when both versions have one. -/
def enumChanges (field : String) (old new : Keywords) : Except PyError (List Change) :=
  match old.enum, new.enum with
  | some oldEnum, some newEnum => do
    let diff ← Json.setDiff oldEnum newEnum
    let removed ← Json.sorted diff
    pure (if removed.isEmpty then [] else [.enumRemoved field removed])
  | _, _ => pure []

/-- `const`, when the old version has one; one that is gone reads as `None`. -/
def constChanges (field prop : String) (old new : Keywords) : List Change :=
  match old.const with
  | some const =>
    if !const.pyEq (new.const.getD .null) && prop != "schema_version" then [.constChanged field]
    else []
  | none => []

/-- The comparison of one property that both versions declare. -/
def propertyChanges (loc prop : String) (old new : Keywords) : Except PyError (List Change) := do
  let field := loc ++ "." ++ prop
  let typeChanges := if old.type = new.type then [] else [.typeChanged field old.type new.type]
  let enums ← enumChanges field old new
  pure (typeChanges ++ enums ++ constChanges field prop old new)

/-- The comparison of two object nodes with the same location. -/
def objectChanges (loc : String) (old new : Schema) : Except PyError (List Change) := do
  let oldProps := old.properties.map Prod.fst
  let newProps := new.properties.map Prod.fst
  let removed := (keysDiff oldProps newProps).map (Change.propertyRemoved loc)
  let added :=
    (keysDiff new.keywords.required old.keywords.required).map (Change.requiredAdded loc)
  let relaxed :=
    if old.keywords.additionalProperties = some false
        ∧ new.keywords.additionalProperties ≠ some false then
      [Change.additionalPropertiesRelaxed loc]
    else []
  let common := sortedKeys (oldProps.filter fun prop ↦ newProps.contains prop)
  let changed ← common.mapM fun prop ↦
    match old.property? prop, new.property? prop with
    | some oldProp, some newProp => propertyChanges loc prop oldProp.keywords newProp.keywords
    | _, _ => pure []
  pure (removed ++ added ++ relaxed ++ changed.flatten)

/-- `detect_breaking_changes`. -/
def detectBreakingChanges (old new : Schema) : Except PyError (List Change) := do
  let newObjects := flattenObjectSchemas new "$"
  let changes ← (flattenObjectSchemas old "$").mapM fun e ↦
    match Table.get? e.1 newObjects with
    | none => pure [Change.objectRemoved e.1]
    | some newObject => objectChanges e.1 e.2 newObject
  pure changes.flatten

/-! ## Empty reports -/

/-- What an empty report says about a property declared by both versions. The `const` of a field
named `schema_version` is exempt, at any depth. -/
structure PropertyKept (prop : String) (old new : Keywords) : Prop where
  type : old.type = new.type
  enum : ∀ oldEnum ∈ old.enum, ∀ newEnum ∈ new.enum, ∀ x ∈ oldEnum, x.isIn newEnum = true
  const : prop ≠ "schema_version" →
    ∀ oldConst ∈ old.const, ∀ newConst ∈ new.const, oldConst.pyEq newConst = true

/-- What an empty report says about an object node. -/
structure ObjectKept (old new : Schema) : Prop where
  declared : ∀ key ∈ old.properties.map Prod.fst, key ∈ new.properties.map Prod.fst
  required : ∀ key ∈ new.keywords.required, key ∈ old.keywords.required
  property : ∀ prop oldProp newProp, old.property? prop = some oldProp →
    new.property? prop = some newProp → PropertyKept prop oldProp.keywords newProp.keywords

theorem mem_of_keysDiff_eq_nil {xs ys : List String} (h : keysDiff xs ys = []) :
    ∀ x ∈ xs, x ∈ ys := by
  intro x hx
  by_contra hys
  have hmem : x ∈ keysDiff xs ys := mem_sortedKeys.mpr (List.mem_filter.mpr ⟨hx, by simpa using hys⟩)
  rw [h] at hmem
  exact List.not_mem_nil hmem

theorem isIn_of_enumChanges_eq_nil {field : String} {old new : Keywords}
    (h : enumChanges field old new = .ok []) {oldEnum newEnum : List Json}
    (ho : old.enum = some oldEnum) (hn : new.enum = some newEnum) {x : Json} (hx : x ∈ oldEnum) :
    x.isIn newEnum = true := by
  rw [enumChanges, ho, hn] at h
  obtain ⟨diff, hdiff, h⟩ := bind_eq_ok.mp h
  obtain ⟨removed, hsorted, h⟩ := bind_eq_ok.mp h
  cases removed with
  | nil =>
    obtain rfl := Json.eq_nil_of_sorted hsorted
    exact Json.isIn_of_setDiff_eq_nil hdiff hx
  | cons y ys => cases h

theorem propertyChanges_eq_nil {loc prop : String} {old new : Keywords}
    (h : propertyChanges loc prop old new = .ok []) : PropertyKept prop old new := by
  obtain ⟨enums, henums, h⟩ := bind_eq_ok.mp h
  have hnil := Except.ok.inj h
  rw [List.append_eq_nil_iff, List.append_eq_nil_iff] at hnil
  obtain ⟨⟨htype, rfl⟩, hconst⟩ := hnil
  constructor
  · by_contra hne
    rw [if_neg hne] at htype
    cases htype
  · intro oldEnum ho newEnum hn x hx
    exact isIn_of_enumChanges_eq_nil henums ho hn hx
  · intro hprop oldConst ho newConst hn
    simp only [constChanges, Option.mem_def.mp ho, Option.mem_def.mp hn, Option.getD_some] at hconst
    simpa [hprop] using hconst

theorem objectChanges_eq_nil {loc : String} {old new : Schema}
    (h : objectChanges loc old new = .ok []) : ObjectKept old new := by
  obtain ⟨changed, hchanged, h⟩ := bind_eq_ok.mp h
  have hnil := Except.ok.inj h
  rw [List.append_eq_nil_iff, List.append_eq_nil_iff, List.append_eq_nil_iff] at hnil
  obtain ⟨⟨⟨hremoved, hadded⟩, -⟩, hflatten⟩ := hnil
  have hdeclared := mem_of_keysDiff_eq_nil (List.map_eq_nil_iff.mp hremoved)
  refine ⟨hdeclared, mem_of_keysDiff_eq_nil (List.map_eq_nil_iff.mp hadded), ?_⟩
  intro prop oldProp newProp ho hn
  have hprop : prop ∈ old.properties.map Prod.fst :=
    List.mem_map.mpr ⟨_, Table.mem_of_get? ho, rfl⟩
  have hcommon := eq_ok_nil_of_mapM hchanged hflatten prop
    (mem_sortedKeys.mpr (List.mem_filter.mpr ⟨hprop, by simpa using hdeclared prop hprop⟩))
  rw [ho, hn] at hcommon
  exact propertyChanges_eq_nil hcommon

/-- The detector pairs the node `o` of `old` with the node `n` of `new`, both at `loc`. -/
def Compared (old new : Schema) (loc : String) (o n : Schema) : Prop :=
  (loc, o) ∈ flattenObjectSchemas old "$"
    ∧ Table.get? loc (flattenObjectSchemas new "$") = some n

/-- **An empty report keeps every pair of nodes it compared.** -/
theorem objectKept_of_compared {old new o n : Schema} {loc : String}
    (h : detectBreakingChanges old new = .ok []) (hc : Compared old new loc o n) :
    ObjectKept o n := by
  obtain ⟨changes, hchanges, h⟩ := bind_eq_ok.mp h
  have hnode := eq_ok_nil_of_mapM hchanges (Except.ok.inj h) (loc, o) hc.1
  rw [hc.2] at hnode
  exact objectChanges_eq_nil hnode

/-- A node the detector compares is an object node. -/
theorem Compared.type_old {old new o n : Schema} {loc : String} (hc : Compared old new loc o n) :
    o.keywords.type = some .object := (objectAt_of_mem hc.1).type

end SchemaGovernance

end ReqSys
