import ReqSys.SchemaGovernance.Validator

/-!
# The validator against the standard

JSON Schema 2020-12 gives each keyword a meaning of its own: `minLength` speaks about strings,
`required` about objects, whether or not the node declares a `type`, and `const` and `enum` compare
by the equality of JSON, for which `true` is not `1`. `Valid` says this for the keywords of the
governed subset.

`validate_value` dispatches on `type`, so that the other keywords of a node without a type are not
read, and it compares by the equality of Python. It never rejects a valid value
(`accepts_of_valid`). It agrees with the standard on a value unless it finds nothing to object to on
its way, and comes by a place at which one of these two differences shows (`agrees_iff`).
-/

namespace ReqSys

namespace Json

/-! ## The equality of JSON -/

mutual

/-- Equality of JSON values: numbers by value, objects without regard to the order. A Boolean is
only equal to itself. -/
def equal : Json → Json → Bool
  | .null, .null => true
  | .bool b, .bool c => b == c
  | .num q, .num r => q == r
  | .str s, .str t => s == t
  | .arr xs, .arr ys => itemsEqual xs ys
  | .obj xs, .obj ys => xs.length == ys.length && entriesEqual xs ys
  | _, _ => false
termination_by structural x => x

/-- Two lists are equal entry by entry. -/
def itemsEqual : List Json → List Json → Bool
  | [], [] => true
  | x :: xs, y :: ys => equal x y && itemsEqual xs ys
  | _, _ => false
termination_by structural xs => xs

/-- Every member of the first object is a member of the second. -/
def entriesEqual : List (String × Json) → List (String × Json) → Bool
  | [], _ => true
  | x :: xs, ys => entryEqual x ys && entriesEqual xs ys
termination_by structural xs => xs

/-- The object has the member, with an equal value. -/
def entryEqual : String × Json → List (String × Json) → Bool
  | (key, x), ys => ys.any fun y ↦ y.1 == key && equal x y.2
termination_by structural x => x

end

theorem itemsEq_of_itemsEqual {xs ys : List Json}
    (hxs : ∀ x ∈ xs, ∀ y, equal x y = true → pyEq x y = true) (h : itemsEqual xs ys = true) :
    itemsEq xs ys = true := by
  induction xs generalizing ys with
  | nil =>
    cases ys with
    | nil => rfl
    | cons => cases h
  | cons x xs ih =>
    cases ys with
    | nil => cases h
    | cons y ys =>
      obtain ⟨hx, hxs⟩ := List.forall_mem_cons.mp hxs
      rw [itemsEqual, Bool.and_eq_true] at h
      rw [itemsEq, hx y h.1, ih hxs h.2, Bool.and_true]

theorem entriesIn_of_entriesEqual {xs ys : List (String × Json)}
    (hxs : ∀ x ∈ xs, ∀ y, equal x.2 y = true → pyEq x.2 y = true)
    (h : entriesEqual xs ys = true) : entriesIn xs ys = true := by
  induction xs with
  | nil => rfl
  | cons x xs ih =>
    obtain ⟨key, x⟩ := x
    obtain ⟨hx, hxs⟩ := List.forall_mem_cons.mp hxs
    rw [entriesEqual, Bool.and_eq_true, entryEqual, List.any_eq_true] at h
    obtain ⟨⟨y, hy, hkey⟩, hrest⟩ := h
    rw [Bool.and_eq_true, beq_iff_eq] at hkey
    rw [entriesIn, Bool.and_eq_true]
    exact ⟨entryIn_iff.mpr ⟨y, hy, hkey.1, hx _ hkey.2⟩, ih hxs hrest⟩

/-- Python identifies more. -/
theorem pyEq_of_equal {x y : Json} (h : equal x y = true) : pyEq x y = true := by
  induction x using induction generalizing y with
  | null => cases y <;> exact h
  | bool b => cases y <;> first | exact h | cases h
  | num q => cases y <;> first | exact h | cases h
  | str s => cases y <;> exact h
  | arr items ih =>
    cases y with
    | arr items' => exact itemsEq_of_itemsEqual (fun x hx y ↦ ih x hx) h
    | _ => cases h
  | obj entries ih =>
    cases y with
    | obj entries' =>
      rw [equal, Bool.and_eq_true] at h
      rw [pyEq, h.1, Bool.true_and]
      exact entriesIn_of_entriesEqual (fun e he y ↦ ih e he) h.2
    | _ => cases h

end Json

namespace SchemaGovernance

/-! ## The standard -/

/-- `const` and `enum` of the standard. -/
structure Equals (keywords : Keywords) (value : Json) : Prop where
  const : ∀ const ∈ keywords.const, value.equal const = true
  enum : ∀ enum ∈ keywords.enum, ∃ x ∈ enum, value.equal x = true

/-- `minLength`, `minimum` and `maximum` of the standard. -/
structure Within (keywords : Keywords) (value : Json) : Prop where
  minLength : ∀ s, value = .str s → ∀ bound ∈ keywords.minLength, bound ≤ (s.length : ℤ)
  minimum : ∀ q, value = .num q → ∀ bound ∈ keywords.minimum, bound ≤ q
  maximum : ∀ q, value = .num q → ∀ bound ∈ keywords.maximum, q ≤ bound

/-- **Validity under JSON Schema 2020-12**, for the keywords of the governed subset. -/
inductive Valid : Schema → Json → Prop
  | mk {schema : Schema} {value : Json} (type : Kind schema.keywords value)
      (listed : Equals schema.keywords value) (within : Within schema.keywords value)
      (fields : ∀ entries, value = .obj entries → FieldsMeet schema entries)
      (properties : ∀ entries, value = .obj entries → ∀ p ∈ schema.properties, ∀ w,
        Table.get? p.1 entries = some w → Valid p.2 w)
      (items : ∀ values, value = .arr values → ∀ item ∈ schema.items, ∀ x ∈ values,
        Valid item x) : Valid schema value

/-! ## What the validator comes by -/

/-- The places of a value at which `validate_value` is called, with the schemas that it is called
with there. It goes into objects and arrays that are declared as such. -/
inductive Visited : Schema → Json → Schema → Json → Prop
  | here (schema : Schema) (value : Json) : Visited schema value schema value
  | property {schema node : Schema} {entries : List (String × Json)} {p : String × Schema}
      {w place : Json} (type : schema.keywords.type = some .object) (mem : p ∈ schema.properties)
      (get : Table.get? p.1 entries = some w) (rest : Visited p.2 w node place) :
      Visited schema (.obj entries) node place
  | item {schema item node : Schema} {values : List Json} {x place : Json}
      (type : schema.keywords.type = some .array) (items : item ∈ schema.items) (mem : x ∈ values)
      (rest : Visited item x node place) : Visited schema (.arr values) node place

/-- The place meets what the validator reads there: the type, the keywords of that type, and `const`
and `enum` up to the equality of Python. -/
structure ReadMet (schema : Schema) (value : Json) : Prop where
  node : NodeMeets schema.keywords value
  fields : ∀ entries, schema.keywords.type = some .object → value = .obj entries →
    FieldsMeet schema entries

/-- The place meets what the validator does not read there: that a value is not only equal to a
listed one by taking Booleans for numbers, and the other keywords of a node without a type. -/
structure UnreadMet (schema : Schema) (value : Json) : Prop where
  listed : Equals schema.keywords value
  within : schema.keywords.type = none → Within schema.keywords value
  fields : schema.keywords.type = none → ∀ entries, value = .obj entries →
    FieldsMeet schema entries
  properties : schema.keywords.type = none → ∀ entries, value = .obj entries →
    ∀ p ∈ schema.properties, ∀ w, Table.get? p.1 entries = some w → Valid p.2 w
  items : schema.keywords.type = none → ∀ values, value = .arr values →
    ∀ item ∈ schema.items, ∀ x ∈ values, Valid item x

section Agreement

variable {schema : Schema} {value : Json} {C : Schema → Json → Prop}

/-- What holds at the places of a value holds here and at the places of the parts. -/
theorem forall_visited_iff :
    (∀ n w, Visited schema value n w → C n w) ↔
      C schema value ∧
      (∀ entries, schema.keywords.type = some .object → value = .obj entries →
        ∀ p ∈ schema.properties, ∀ w, Table.get? p.1 entries = some w →
          ∀ n u, Visited p.2 w n u → C n u) ∧
      ∀ values, schema.keywords.type = some .array → value = .arr values →
        ∀ item ∈ schema.items, ∀ x ∈ values, ∀ n u, Visited item x n u → C n u := by
  constructor
  · intro h
    refine ⟨h _ _ (.here _ _), ?_, ?_⟩
    · rintro entries htype rfl p hp w hw n u hu
      exact h n u (.property htype hp hw hu)
    · rintro values htype rfl item hitem x hx n u hu
      exact h n u (.item htype hitem hx hu)
  · rintro ⟨hhere, hproperties, hitems⟩ n w hw
    cases hw with
    | here => exact hhere
    | property htype hp hget hrest => exact hproperties _ htype rfl _ hp _ hget _ _ hrest
    | item htype hitem hx hrest => exact hitems _ htype rfl _ hitem _ hx _ _ hrest

/-- Nothing is found if and only if what is read is met at every place. -/
theorem accepts_iff_visited :
    Accepts schema value ↔ ∀ n w, Visited schema value n w → ReadMet n w := by
  induction schema using Schema.induction generalizing value with
  | mk schema hproperties hitems =>
    rw [accepts_iff, forall_visited_iff]
    constructor
    · intro h
      refine ⟨⟨h.node, h.fields⟩, fun entries htype hvalue p hp w hw ↦ ?_,
        fun values htype hvalue item hitem x hx ↦ ?_⟩
      · exact (hproperties p hp).mp (h.properties entries htype hvalue p hp w hw)
      · exact (hitems item hitem).mp (h.items values htype hvalue item hitem x hx)
    · rintro ⟨hhere, hprops, hits⟩
      refine ⟨hhere.node, hhere.fields, fun entries htype hvalue p hp w hw ↦ ?_,
        fun values htype hvalue item hitem x hx ↦ ?_⟩
      · exact (hproperties p hp).mpr (hprops entries htype hvalue p hp w hw)
      · exact (hitems item hitem).mpr (hits values htype hvalue item hitem x hx)

theorem Equals.listed {keywords : Keywords} (h : Equals keywords value) :
    Listed keywords value where
  const const hconst := Json.pyEq_of_equal (h.const const hconst)
  enum enum henum := by
    obtain ⟨x, hx, heq⟩ := h.enum enum henum
    exact Json.isIn_iff.mpr ⟨x, hx, Json.pyEq_of_equal heq⟩

/-- The type of a value. -/
def typeOf : Json → Option SchemaType
  | .null => none
  | .bool _ => some .boolean
  | .num _ => some .number
  | .str _ => some .string
  | .arr _ => some .array
  | .obj _ => some .object

/-- A node that declares a type declares that of the value. -/
theorem Kind.type_eq {keywords : Keywords} (h : Kind keywords value) :
    keywords.type = none ∨ keywords.type = typeOf value := by
  unfold Kind at h
  split at h
  next htype => exact .inl htype
  all_goals first
    | exact h.elim
    | exact .inr ‹_›

/-- A value is valid if and only if every place meets what the validator reads and what it does
not. -/
theorem valid_iff_visited :
    Valid schema value ↔
      ∀ n w, Visited schema value n w → ReadMet n w ∧ UnreadMet n w := by
  induction schema using Schema.induction generalizing value with
  | mk schema hproperties hitems =>
    rw [forall_visited_iff]
    constructor
    · rintro ⟨hkind, hlisted, hwithin, hfields, hprops, hits⟩
      refine ⟨⟨⟨⟨hkind, ?_, hlisted.listed⟩, fun entries _ ↦ hfields entries⟩, ⟨hlisted,
        fun _ ↦ hwithin, fun _ ↦ hfields, fun _ ↦ hprops, fun _ ↦ hits⟩⟩, ?_, ?_⟩
      · exact ⟨fun s _ ↦ hwithin.minLength s, fun q _ ↦ hwithin.minimum q,
          fun q _ ↦ hwithin.maximum q⟩
      · intro entries _ hvalue p hp w hw
        exact (hproperties p hp).mp (hprops entries hvalue p hp w hw)
      · intro values _ hvalue item hitem x hx
        exact (hitems item hitem).mp (hits values hvalue item hitem x hx)
    · rintro ⟨⟨⟨⟨hkind, hbounds, -⟩, hfields⟩, hunread⟩, hprops, hits⟩
      -- a node without a type is not read, one with a type is of the type of the value
      rcases hkind.type_eq with hnone | htype
      · exact .mk hkind hunread.listed (hunread.within hnone) (hunread.fields hnone)
          (hunread.properties hnone) (hunread.items hnone)
      · refine .mk hkind hunread.listed ⟨?_, ?_, ?_⟩ ?_ ?_ ?_
        · rintro s rfl
          exact hbounds.minLength s htype rfl
        · rintro q rfl
          exact hbounds.minimum q htype rfl
        · rintro q rfl
          exact hbounds.maximum q htype rfl
        · rintro entries rfl
          exact hfields entries htype rfl
        · rintro entries rfl p hp w hw
          exact (hproperties p hp).mpr (hprops entries htype rfl p hp w hw)
        · rintro values rfl item hitem x hx
          exact (hitems item hitem).mpr (hits values htype rfl item hitem x hx)

/-- The validator does not reject a valid value. -/
theorem accepts_of_valid (h : Valid schema value) : Accepts schema value :=
  accepts_iff_visited.mpr fun n w hw ↦ (valid_iff_visited.mp h n w hw).1

/-- **Where the validator agrees with the standard**: on the values with a place that does not meet
what is read there, and on those whose places all meet what is not read. -/
theorem agrees_iff (schema : Schema) (value : Json) (path : String) :
    (validateValue value schema path = [] ↔ Valid schema value) ↔
      (∃ n w, Visited schema value n w ∧ ¬ReadMet n w) ∨
        ∀ n w, Visited schema value n w → UnreadMet n w := by
  rw [← accepts_iff_validateValue, accepts_iff_visited, valid_iff_visited]
  constructor
  · intro h
    by_cases hread : ∀ n w, Visited schema value n w → ReadMet n w
    · exact .inr fun n w hw ↦ (h.mp hread n w hw).2
    · push Not at hread
      exact .inl hread
  · rintro (⟨n, w, hw, hn⟩ | hunread)
    · exact iff_of_false (fun h ↦ hn (h n w hw)) fun h ↦ hn (h n w hw).1
    · exact ⟨fun h n w hw ↦ ⟨h n w hw, hunread n w hw⟩, fun h n w hw ↦ (h n w hw).1⟩

/-- Python takes `1` for `true`. -/
theorem integrated_security_disagrees :
    ¬(validateValue (.num 1) ⟨{ const := some (.bool true) }, [], none⟩ "$" = [] ↔
      Valid ⟨{ const := some (.bool true) }, [], none⟩ (.num 1)) := by
  intro h
  have hvalid := h.mp (by decide +kernel)
  cases hvalid with
  | mk type listed => exact absurd (listed.const _ rfl) (by decide)

/-- Every node declares its type, and only strings are listed. -/
inductive Explicit : Schema → Prop
  | mk {schema : Schema} (type : schema.keywords.type ≠ none)
      (const : ∀ const ∈ schema.keywords.const, ∃ s, const = .str s)
      (enum : ∀ enum ∈ schema.keywords.enum, ∀ x ∈ enum, ∃ s, x = .str s)
      (properties : ∀ p ∈ schema.properties, Explicit p.2)
      (items : ∀ item ∈ schema.items, Explicit item) : Explicit schema

theorem Explicit.of_visited {node : Schema} {place : Json} (h : Explicit schema)
    (hv : Visited schema value node place) : Explicit node := by
  induction hv with
  | here => exact h
  | property _ hp _ _ ih =>
    cases h with
    | mk _ _ _ hproperties => exact ih (hproperties _ hp)
  | item _ hitem _ _ ih =>
    cases h with
    | mk _ _ _ _ hitems => exact ih (hitems _ hitem)

/-- Two strings are equal in both ways. -/
theorem equal_of_pyEq_str {x : Json} {s : String} (h : x.pyEq (.str s) = true) :
    x.equal (.str s) = true := by
  cases x <;> exact h

/-- In particular it agrees on every value of a schema that is explicit. -/
theorem Explicit.agrees (h : Explicit schema) (value : Json) (path : String) :
    validateValue value schema path = [] ↔ Valid schema value := by
  rw [agrees_iff]
  by_cases hread : ∀ n w, Visited schema value n w → ReadMet n w
  · refine .inr fun n w hw ↦ ?_
    obtain ⟨hpyConst, hpyEnum⟩ := (hread n w hw).node.listed
    cases h.of_visited hw with
    | mk htype hconst henum =>
      refine ⟨⟨fun const hmem ↦ ?_, fun enum hmem ↦ ?_⟩, fun hnone ↦ absurd hnone htype,
        fun hnone ↦ absurd hnone htype, fun hnone ↦ absurd hnone htype,
        fun hnone ↦ absurd hnone htype⟩
      · obtain ⟨s, rfl⟩ := hconst const hmem
        exact equal_of_pyEq_str (hpyConst _ hmem)
      · obtain ⟨x, hx, heq⟩ := Json.isIn_iff.mp (hpyEnum enum hmem)
        obtain ⟨s, rfl⟩ := henum enum hmem x hx
        exact ⟨_, hx, equal_of_pyEq_str heq⟩
  · push Not at hread
    exact .inl hread

end Agreement

end SchemaGovernance

end ReqSys
