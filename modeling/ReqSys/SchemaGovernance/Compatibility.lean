import Mathlib
import ReqSys.SchemaGovernance.Detector

/-!
# Documents across two versions of a contract

The breaking-change gate lets a minor version through when the detector reports nothing. The
promise behind it is that a document of the old version, with its `schema_version` rewritten to the
new one, is a document of the new version. The detector does not read every keyword the validator
checks, so the promise holds up to a residue, and this file says exactly which.

`Unseen` walks down the two versions along one document and collects the checks of the new version
that no comparison covers: lengths and bounds at every node; a `const` or an `enum` that the old
version did not have; everything about a property the old version did not check; an object that was
open and is now closed; the type, `const` and `enum` of array items and of the root; and, where two
object nodes share a location, all that a comparison would have covered. An empty report makes this
residue the whole difference (`accepts_reversion_iff`).

`Untightened` is the same list as a condition on the two schemas alone: no check of the list is new
or stricter. It is enough for every document at once (`unseen_of_untightened`).
-/

namespace ReqSys

namespace SchemaGovernance

/-! ## Rewriting the version -/

/-- The document with its `schema_version`, if it has one, replaced by the new constant. -/
def reversion (version : Option String) : Json → Json
  | .obj entries =>
    match version with
    | some c => .obj (Table.update Prod.fst "schema_version" (fun e ↦ (e.1, .str c)) entries)
    | none => .obj entries
  | value => value

@[simp]
theorem reversion_none (value : Json) : reversion none value = value := by cases value <;> rfl

/-- The field the rewriting replaces. -/
def IsVersion (version : Option String) (key : String) : Prop :=
  key = "schema_version" ∧ version.isSome

theorem not_isVersion_none (key : String) : ¬IsVersion none key := fun h ↦ nomatch h.2

/-- Rewriting the version replaces a field of an object and adds or drops none. -/
theorem reversion_eq_obj {version : Option String} {value : Json} {entries : List (String × Json)}
    (h : reversion version value = .obj entries) :
    ∃ entries', value = .obj entries' ∧ entries.map Prod.fst = entries'.map Prod.fst
      ∧ (∀ key, ¬IsVersion version key → Table.get? key entries = Table.get? key entries')
      ∧ ∀ c w, version = some c → Table.get? "schema_version" entries = some w → w = .str c := by
  cases value with
  | obj entries' =>
    refine ⟨entries', rfl, ?_⟩
    cases version with
    | none =>
      obtain rfl : entries' = entries := Json.obj.inj h
      exact ⟨rfl, fun _ _ ↦ rfl, nofun⟩
    | some c =>
      obtain rfl := Json.obj.inj h
      have hfst : ∀ e : String × Json, (e.1, Json.str c).1 = e.1 := fun _ ↦ rfl
      have hkey : ∀ e : String × Json, e.1 = "schema_version" →
          (e.1, Json.str c).1 = "schema_version" := fun _ he ↦ he
      refine ⟨Table.map_update hfst entries', ?_, ?_⟩
      · intro key hne
        have hkey' : key ≠ "schema_version" := fun hk ↦ hne ⟨hk, rfl⟩
        rw [Table.get?, Table.lookup_update hkey, if_neg hkey', Table.get?]
      · rintro c' w hc hw
        obtain rfl : c = c' := Option.some.inj hc
        rw [Table.get?, Table.lookup_update hkey, if_pos rfl, Option.map_map] at hw
        obtain ⟨e, -, rfl⟩ := Option.map_eq_some_iff.mp hw
        rfl
  | null | bool | num | str | arr => exact absurd h (by simp [reversion])

/-- Rewriting the version leaves every other value alone. -/
theorem eq_of_reversion {version : Option String} {value w : Json}
    (h : reversion version value = w) (hw : ∀ entries, w ≠ .obj entries) : value = w := by
  cases value with
  | obj entries => cases version <;> exact absurd h.symm (hw _)
  | null | bool | num | str | arr => exact h

theorem kind_obj_iff {keywords : Keywords} {entries : List (String × Json)} :
    Kind keywords (.obj entries) ↔ keywords.type = none ∨ keywords.type = some .object := by
  unfold Kind
  cases keywords.type with
  | none => simp
  | some type => cases type <;> simp

theorem kind_reversion {keywords : Keywords} (version : Option String) {value : Json}
    (h : Kind keywords value) : Kind keywords (reversion version value) := by
  cases value with
  | obj entries =>
    cases version with
    | none => exact h
    | some c => exact kind_obj_iff.mpr (kind_obj_iff.mp h)
  | null | bool | num | str | arr => exact h

/-- Equal documents are equal after the rewriting. -/
theorem pyEq_reversion {value w : Json} (version : Option String) (h : value.pyEq w = true) :
    (reversion version value).pyEq (reversion version w) = true := by
  cases version with
  | none => rwa [reversion_none, reversion_none]
  | some c =>
    cases value with
    | obj xs =>
      cases w <;> simp only [Json.pyEq, Bool.false_eq_true, Bool.and_eq_true, beq_iff_eq] at h
      simp only [reversion, Json.pyEq, Bool.and_eq_true, beq_iff_eq, Table.update, List.length_map]
      refine ⟨h.1, Json.entriesIn_iff.mpr fun e he ↦ ?_⟩
      obtain ⟨x, hx, rfl⟩ := List.mem_map.mp he
      obtain ⟨y, hy, hkey, hxy⟩ := Json.entriesIn_iff.mp h.2 x hx
      refine ⟨_, List.mem_map.mpr ⟨y, hy, rfl⟩, ?_⟩
      by_cases hversion : x.1 = "schema_version"
      · rw [if_pos hversion, if_pos (hkey.trans hversion)]
        exact ⟨hkey, Json.pyEq_refl _⟩
      · rw [if_neg hversion, if_neg (hkey ▸ hversion)]
        exact ⟨hkey, hxy⟩
    | null | bool | num | str | arr =>
      cases w <;> exact h

theorem isIn_reversion {value : Json} {old new : List Json} (version : Option String)
    (hin : value.isIn old = true) (h : ∀ x ∈ old, (reversion version x).isIn new = true) :
    (reversion version value).isIn new = true := by
  obtain ⟨x, hx, hvx⟩ := Json.isIn_iff.mp hin
  obtain ⟨y, hy, hxy⟩ := Json.isIn_iff.mp (h x hx)
  exact Json.isIn_iff.mpr ⟨y, hy, Json.pyEq_trans (pyEq_reversion version hvx) hxy⟩

/-! ## What the detector leaves open -/

/-- The property schema the old version checks under a key. -/
def checkedProperty? (schema : Schema) (key : String) : Option Schema :=
  if schema.keywords.type = some .object then schema.property? key else none

/-- The item schema the old version checks. -/
def checkedItems? (schema : Schema) : Option Schema :=
  if schema.keywords.type = some .array then schema.items else none

/-- The checks of one node the detector leaves open. `seen` says that it compared the node's `type`,
`enum` and `const` with the old ones, `exempt` that it skips the `const`. -/
structure NodeUnseen (seen exempt : Prop) (old new : Keywords) (value : Json) : Prop where
  kind : ¬seen → Kind new value
  bounds : Bounds new value
  const : ¬seen ∨ exempt ∨ old.const = none → ∀ const ∈ new.const, value.pyEq const = true
  enum : ¬seen ∨ old.enum = none → ∀ enum ∈ new.enum, value.isIn enum = true

/-- The checks on the fields of an object the detector leaves open. -/
structure FieldsUnseen (compared : Prop) (old new : Schema) (entries : List (String × Json)) :
    Prop where
  uncompared : ¬compared → FieldsMeet new entries
  closed : old.keywords.additionalProperties ≠ some false →
    new.keywords.additionalProperties = some false →
    ∀ e ∈ entries, e.1 ∈ new.properties.map Prod.fst

/-- The checks below a node the detector leaves open, along one document. -/
inductive Unseen (old new : Schema) : Option String → String → Schema → Schema → Json → Prop
  | mk {version : Option String} {loc : String} {o n : Schema} {value : Json}
      (fields : ∀ entries, n.keywords.type = some .object → value = .obj entries →
        FieldsUnseen (Compared old new loc o n) o n entries)
      (whole : ∀ entries, n.keywords.type = some .object → value = .obj entries →
        ∀ key np w, n.property? key = some np → Table.get? key entries = some w →
        checkedProperty? o key = none ∨ IsVersion version key → Accepts np w)
      (node : ∀ entries, n.keywords.type = some .object → value = .obj entries →
        ∀ key op np w, checkedProperty? o key = some op → n.property? key = some np →
        Table.get? key entries = some w → ¬IsVersion version key →
        NodeUnseen (Compared old new loc o n) (key = "schema_version") op.keywords np.keywords w)
      (nested : ∀ entries, n.keywords.type = some .object → value = .obj entries →
        ∀ key op np w, checkedProperty? o key = some op → n.property? key = some np →
        Table.get? key entries = some w → ¬IsVersion version key →
        Unseen old new none (loc ++ "." ++ key) op np w)
      (wholeItems : ∀ values, n.keywords.type = some .array → value = .arr values →
        checkedItems? o = none → ∀ ni ∈ n.items, ∀ x ∈ values, Accepts ni x)
      (itemNode : ∀ values, n.keywords.type = some .array → value = .arr values →
        ∀ oi ∈ checkedItems? o, ∀ ni ∈ n.items, ∀ x ∈ values,
        NodeUnseen False False oi.keywords ni.keywords x)
      (itemNested : ∀ values, n.keywords.type = some .array → value = .arr values →
        ∀ oi ∈ checkedItems? o, ∀ ni ∈ n.items, ∀ x ∈ values,
        Unseen old new none (loc ++ "[]") oi ni x) :
      Unseen old new version loc o n value

/-! ## The residue is a part of the new version's checks -/

theorem NodeMeets.nodeUnseen {seen exempt : Prop} {old new : Keywords} {value : Json}
    (h : NodeMeets new value) : NodeUnseen seen exempt old new value :=
  ⟨fun _ ↦ h.kind, h.bounds, fun _ ↦ h.listed.const, fun _ ↦ h.listed.enum⟩

/-- A document the new version accepts passes every check of the residue. -/
theorem unseen_of_accepts {old new o n : Schema} {version : Option String} {loc : String}
    {value : Json} (h : Accepts n value) : Unseen old new version loc o n value := by
  induction n using Schema.induction generalizing version loc o value with
  | mk n hproperties hitems =>
    have hm := accepts_iff.mp h
    have hproperty : ∀ entries, n.keywords.type = some .object → value = .obj entries →
        ∀ key np w, n.property? key = some np → Table.get? key entries = some w →
        Accepts np w := fun entries htype hvalue key np w hp hw ↦
      hm.properties entries htype hvalue (key, np) (Table.mem_of_get? hp) w hw
    constructor
    · intro entries htype hvalue
      have hfields := hm.fields entries htype hvalue
      exact ⟨fun _ ↦ hfields, fun _ ↦ hfields.declared⟩
    · intro entries htype hvalue key np w hp hw _
      exact hproperty entries htype hvalue key np w hp hw
    · intro entries htype hvalue key op np w _ hp hw _
      exact (accepts_iff.mp (hproperty entries htype hvalue key np w hp hw)).node.nodeUnseen
    · intro entries htype hvalue key op np w _ hp hw _
      exact hproperties (key, np) (Table.mem_of_get? hp)
        (hproperty entries htype hvalue key np w hp hw)
    · intro values htype hvalue _ ni hni x hx
      exact hm.items values htype hvalue ni hni x hx
    · intro values htype hvalue oi _ ni hni x hx
      exact (accepts_iff.mp (hm.items values htype hvalue ni hni x hx)).node.nodeUnseen
    · intro values htype hvalue oi _ ni hni x hx
      exact hitems ni hni (hm.items values htype hvalue ni hni x hx)

/-! ## Nothing else is missing -/

theorem kind_congr {old new : Keywords} (h : old.type = new.type) (value : Json) :
    Kind old value ↔ Kind new value := by
  unfold Kind
  rw [h]

/-- At a node whose comparison found nothing, the old version covers what the residue leaves
out. -/
theorem NodeUnseen.nodeMeets {seen : Prop} {prop : String} {old new : Keywords} {value : Json}
    (h : NodeUnseen seen (prop = "schema_version") old new value)
    (hkept : seen → PropertyKept prop old new) (hold : NodeMeets old value) :
    NodeMeets new value := by
  by_cases hseen : seen
  · obtain ⟨htype, henum, hconst⟩ := hkept hseen
    refine ⟨?_, h.bounds, ?_, ?_⟩
    · exact (kind_congr htype value).mp hold.kind
    · intro const hc
      by_cases hprop : prop = "schema_version"
      · exact h.const (Or.inr (Or.inl hprop)) const hc
      · cases hoc : old.const with
        | none => exact h.const (Or.inr (Or.inr hoc)) const hc
        | some oldConst =>
          exact Json.pyEq_trans (hold.listed.const oldConst hoc) (hconst hprop oldConst hoc const hc)
    · intro enum he
      cases hoe : old.enum with
      | none => exact h.enum (Or.inr hoe) enum he
      | some oldEnum =>
        -- the old list has a value equal to this one, and the new list has all of the old
        obtain ⟨x, hx, hvx⟩ := Json.isIn_iff.mp (hold.listed.enum oldEnum hoe)
        obtain ⟨y, hy, hxy⟩ := Json.isIn_iff.mp (henum oldEnum hoe enum he x hx)
        exact Json.isIn_iff.mpr ⟨y, hy, Json.pyEq_trans hvx hxy⟩
  · exact ⟨h.kind hseen, h.bounds, h.const (Or.inl hseen), h.enum (Or.inl hseen)⟩

/-- At an object node whose comparison found nothing, the fields meet the new version; only their
names matter. -/
theorem FieldsUnseen.fieldsMeet {compared : Prop} {old new : Schema}
    {entries entries' : List (String × Json)} (h : FieldsUnseen compared old new entries)
    (hkept : ObjectKept old new) (hold : FieldsMeet old entries')
    (hkeys : entries.map Prod.fst = entries'.map Prod.fst) : FieldsMeet new entries := by
  constructor
  · intro key hkey
    rw [Table.isSome_get?, hkeys, ← Table.isSome_get?]
    exact hold.required key (hkept.required key hkey)
  · intro hnew e he
    by_cases hclosed : old.keywords.additionalProperties = some false
    · have hmem : e.1 ∈ entries'.map Prod.fst := hkeys ▸ List.mem_map_of_mem he
      obtain ⟨e', he', heq⟩ := List.mem_map.mp hmem
      exact heq ▸ hkept.declared e'.1 (hold.declared hclosed e' he')
    · exact h.closed hclosed hnew e he

theorem nodeUnseen_false_iff {exempt : Prop} {old new : Keywords} {value : Json} :
    NodeUnseen False exempt old new value ↔ NodeMeets new value :=
  ⟨fun h ↦ ⟨h.kind not_false, h.bounds, h.const (Or.inl not_false), h.enum (Or.inl not_false)⟩,
    NodeMeets.nodeUnseen⟩

theorem checkedProperty?_eq_some {schema op : Schema} {key : String}
    (h : checkedProperty? schema key = some op) :
    schema.keywords.type = some .object ∧ (key, op) ∈ schema.properties := by
  rw [checkedProperty?] at h
  split at h
  next htype => exact ⟨htype, Table.mem_of_get? h⟩
  next => cases h

theorem checkedItems?_eq_some {schema oi : Schema} (h : checkedItems? schema = some oi) :
    schema.keywords.type = some .array ∧ schema.items = some oi := by
  rw [checkedItems?] at h
  split at h
  next htype => exact ⟨htype, h⟩
  next => cases h

/-- A property that the rewriting leaves alone is one the old version accepted. -/
theorem accepts_property {o op : Schema} {version : Option String} {v w : Json}
    {entries : List (String × Json)} {key : String} (hm : Meets Accepts o v)
    (hobj : reversion version v = .obj entries) (hop : checkedProperty? o key = some op)
    (hw : Table.get? key entries = some w) (hversion : ¬IsVersion version key) : Accepts op w := by
  obtain ⟨entries', rfl, -, hget, -⟩ := reversion_eq_obj hobj
  obtain ⟨hotype, hmem⟩ := checkedProperty?_eq_some hop
  exact hm.properties entries' hotype rfl (key, op) hmem w (hget key hversion ▸ hw)

theorem WellFormed.property {schema np : Schema} {key : String} (h : schema.WellFormed)
    (hp : (key, np) ∈ schema.properties) : schema.property? key = some np ∧ np.WellFormed := by
  obtain ⟨keyed, hproperties, -⟩ := h
  exact ⟨keyed.get?_of_mem hp, hproperties _ hp⟩

theorem WellFormed.item {schema ni : Schema} (h : schema.WellFormed) (hni : ni ∈ schema.items) :
    ni.WellFormed := by
  obtain ⟨-, -, hitems⟩ := h
  exact hitems ni hni

/-- **The residue is all that an empty report leaves open.** Below a node that the value meets, a
document of the old version that passes the residue is accepted by the new one. -/
theorem accepts_of_unseen {old new o n : Schema} {version : Option String} {loc : String}
    {value : Json} (hdetect : detectBreakingChanges old new = .ok [])
    (h : Unseen old new version loc o n value) (hn : n.WellFormed)
    (hnode : NodeMeets n.keywords value) {v : Json} (hvalue : value = reversion version v)
    (hv : Accepts o v) : Accepts n value := by
  induction h generalizing v with
  | @mk version loc o n value fields whole node nested wholeItems itemNode itemNested ihp ihi =>
    have hm := accepts_iff.mp hv
    refine accepts_iff.mpr ⟨hnode, ?_, ?_, ?_⟩
    · intro entries htype hobj
      obtain ⟨entries', rfl, hkeys, -, -⟩ := reversion_eq_obj (hvalue.symm.trans hobj)
      by_cases hc : Compared old new loc o n
      · have hkept := objectKept_of_compared hdetect hc
        exact (fields entries htype hobj).fieldsMeet hkept
          (hm.fields entries' hc.type_old rfl) hkeys
      · exact (fields entries htype hobj).uncompared hc
    · rintro entries htype hobj ⟨key, np⟩ hp w hw
      obtain ⟨hproperty, hnp⟩ := WellFormed.property hn hp
      by_cases hversion : IsVersion version key
      · exact whole entries htype hobj key np w hproperty hw (Or.inr hversion)
      · cases hop : checkedProperty? o key with
        | none => exact whole entries htype hobj key np w hproperty hw (Or.inl hop)
        | some op =>
          have hold := accepts_property hm (hvalue.symm.trans hobj) hop hw hversion
          have hotype := (checkedProperty?_eq_some hop).1
          have hmeets := (node entries htype hobj key op np w hop hproperty hw hversion).nodeMeets
            (fun hc ↦ (objectKept_of_compared hdetect hc).property key op np
              (by rw [← hop, checkedProperty?, if_pos hotype]) hproperty)
            (accepts_iff.mp hold).node
          exact ihp entries htype hobj key op np w hop hproperty hw hversion hnp hmeets
            (reversion_none w).symm hold
    · intro values htype harr ni hni x hx
      obtain rfl := eq_of_reversion (hvalue.symm.trans harr) nofun
      cases hoi : checkedItems? o with
      | none => exact wholeItems values htype harr hoi ni hni x hx
      | some oi =>
        obtain ⟨hotype, hitems⟩ := checkedItems?_eq_some hoi
        have hold : Accepts oi x := hm.items values hotype rfl oi hitems x hx
        have hmeets := nodeUnseen_false_iff.mp (itemNode values htype harr oi hoi ni hni x hx)
        exact ihi values htype harr oi hoi ni hni x hx (WellFormed.item hn hni) hmeets
          (reversion_none x).symm hold

/-- What the detector leaves open about a document of the new version. -/
structure Residue (old new : Schema) (value : Json) : Prop where
  node : NodeUnseen False False old.keywords new.keywords value
  below : Unseen old new (getSchemaVersion new) "$" old new value

theorem accepts_reversion_iff {old new : Schema} (hnew : new.WellFormed) {v : Json}
    (hdetect : detectBreakingChanges old new = .ok []) (hv : Accepts old v) :
    Accepts new (reversion (getSchemaVersion new) v)
      ↔ Residue old new (reversion (getSchemaVersion new) v) := by
  constructor
  · intro h
    exact ⟨(accepts_iff.mp h).node.nodeUnseen, unseen_of_accepts h⟩
  · rintro ⟨hnode, hbelow⟩
    exact accepts_of_unseen hdetect hbelow hnew (nodeUnseen_false_iff.mp hnode) rfl hv

/-! ## A condition on the two schemas -/

/-- Lengths and bounds that are at most as strict. -/
structure BoundsKept (old new : Keywords) : Prop where
  minLength : new.type = some .string → ∀ b ∈ new.minLength, b ≤ 0 ∨ ∃ a ∈ old.minLength, b ≤ a
  minimum : new.type = some .number → ∀ b ∈ new.minimum, ∃ a ∈ old.minimum, b ≤ a
  maximum : new.type = some .number → ∀ b ∈ new.maximum, ∃ a ∈ old.maximum, a ≤ b

/-- No check of one node that the detector leaves open is new or stricter. -/
structure NodeUntightened (version : Option String) (seen exempt : Prop) (old new : Keywords) :
    Prop where
  type : ¬seen → old.type = new.type
  bounds : BoundsKept old new
  const : ¬seen ∨ exempt ∨ old.const = none → ∀ newConst ∈ new.const,
    ∃ oldConst ∈ old.const, (reversion version oldConst).pyEq newConst = true
  enum : ¬seen ∨ old.enum = none → ∀ newEnum ∈ new.enum,
    ∃ oldEnum ∈ old.enum, ∀ x ∈ oldEnum, (reversion version x).isIn newEnum = true

/-- A schema that checks nothing. -/
structure Unconstrained (keywords : Keywords) : Prop where
  type : keywords.type = none
  const : keywords.const = none
  enum : keywords.enum = none

/-- No check below a node that the detector leaves open is new or stricter. -/
inductive Untightened : Option String → Schema → Schema → Prop
  | mk {version : Option String} {o n : Schema}
      (closed : n.keywords.type = some .object → n.keywords.additionalProperties = some false →
        o.keywords.additionalProperties = some false)
      (versioned : n.keywords.type = some .object → ∀ c np, version = some c →
        n.property? "schema_version" = some np → Accepts np (.str c))
      (fresh : n.keywords.type = some .object → ∀ key np, n.property? key = some np →
        o.property? key = none → ¬IsVersion version key →
        o.keywords.additionalProperties = some false ∨ Unconstrained np.keywords)
      (node : n.keywords.type = some .object → ∀ key op np, o.property? key = some op →
        n.property? key = some np → ¬IsVersion version key →
        NodeUntightened none True (key = "schema_version") op.keywords np.keywords)
      (nested : n.keywords.type = some .object → ∀ key op np, o.property? key = some op →
        n.property? key = some np → ¬IsVersion version key → Untightened none op np)
      (wholeItems : n.keywords.type = some .array → o.items = none →
        ∀ ni ∈ n.items, Unconstrained ni.keywords)
      (itemNode : n.keywords.type = some .array → ∀ oi ∈ o.items, ∀ ni ∈ n.items,
        NodeUntightened none False False oi.keywords ni.keywords)
      (itemNested : n.keywords.type = some .array → ∀ oi ∈ o.items, ∀ ni ∈ n.items,
        Untightened none oi ni) :
      Untightened version o n

/-- No two object nodes share a location. -/
def LocationsDistinct (schema : Schema) : Prop :=
  ∀ place a b, ObjectAt schema "$" place a → ObjectAt schema "$" place b → a = b

/-- The new version tightens nothing behind the detector's back. -/
structure Covered (old new : Schema) : Prop where
  locations : LocationsDistinct old ∧ LocationsDistinct new
  node : NodeUntightened (getSchemaVersion new) False False old.keywords new.keywords
  below : Untightened (getSchemaVersion new) old new

/-- Where locations are distinct, the detector compares every two nodes with the same one. -/
theorem compared_of_objectAt {old new o n : Schema} {place : String}
    (hold : LocationsDistinct old) (hnew : LocationsDistinct new)
    (ho : ObjectAt old "$" place o) (hn : ObjectAt new "$" place n) :
    Compared old new place o n := by
  constructor
  · obtain ⟨o', ho'⟩ := exists_mem_of_objectAt ho
    rw [hold place o o' ho (objectAt_of_mem ho')]
    exact ho'
  · obtain ⟨n', hn'⟩ := exists_mem_of_objectAt hn
    obtain ⟨n'', hget⟩ := Table.exists_get? hn'
    rw [hnew place n n'' hn (objectAt_of_mem (Table.mem_of_get? hget))]
    exact hget

theorem accepts_of_unconstrained {schema : Schema} (h : Unconstrained schema.keywords)
    (value : Json) : Accepts schema value := by
  obtain ⟨htype, hconst, henum⟩ := h
  refine accepts_iff.mpr ⟨⟨?_, ?_, ?_⟩, ?_, ?_, ?_⟩
  · simp [Kind, htype]
  · constructor <;> simp [htype]
  · constructor <;> simp [hconst, henum]
  · simp [htype]
  · simp [htype]
  · simp [htype]

theorem NodeUntightened.nodeUnseen {version : Option String} {seen exempt : Prop}
    {old new : Keywords} {v : Json} (h : NodeUntightened version seen exempt old new)
    (htype : old.type = new.type) (hv : NodeMeets old v) :
    NodeUnseen seen exempt old new (reversion version v) := by
  refine ⟨fun _ ↦ (kind_congr htype _).mp (kind_reversion version hv.kind), ?_, ?_, ?_⟩
  · constructor
    · intro s ht hs b hb
      obtain rfl := eq_of_reversion hs nofun
      rcases h.bounds.minLength ht b hb with hb0 | ⟨a, ha, hba⟩
      · exact hb0.trans (Int.natCast_nonneg _)
      · exact hba.trans (hv.bounds.minLength s (htype.trans ht) rfl a ha)
    · intro q ht hq b hb
      obtain rfl := eq_of_reversion hq nofun
      obtain ⟨a, ha, hba⟩ := h.bounds.minimum ht b hb
      exact hba.trans (hv.bounds.minimum q (htype.trans ht) rfl a ha)
    · intro q ht hq b hb
      obtain rfl := eq_of_reversion hq nofun
      obtain ⟨a, ha, hab⟩ := h.bounds.maximum ht b hb
      exact (hv.bounds.maximum q (htype.trans ht) rfl a ha).trans hab
  · intro hopen newConst hn
    obtain ⟨oldConst, ho, heq⟩ := h.const hopen newConst hn
    exact Json.pyEq_trans (pyEq_reversion version (hv.listed.const oldConst ho)) heq
  · intro hopen newEnum hn
    obtain ⟨oldEnum, ho, heq⟩ := h.enum hopen newEnum hn
    exact isIn_reversion version (hv.listed.enum oldEnum ho) heq

/-- A field that appears below a closed object of the old version is not in its documents. -/
theorem get?_eq_none_of_closed {o : Schema} {entries : List (String × Json)} {key : String}
    (hclosed : o.keywords.additionalProperties = some false) (hfields : FieldsMeet o entries)
    (hkey : o.property? key = none) : Table.get? key entries = none := by
  refine Table.get?_eq_none.mpr fun e he heq ↦ ?_
  obtain ⟨p, hp, hpk⟩ := List.mem_map.mp (hfields.declared hclosed e he)
  exact Table.get?_eq_none.mp hkey p hp (hpk.trans heq)

/-- **No tightening, no residue.** If no uncompared check is new or stricter, every document of the
old version passes the residue. -/
theorem unseen_of_untightened {old new o n : Schema} {version : Option String} {loc : String}
    (h : Untightened version o n) (htype : o.keywords.type = n.keywords.type)
    (hdetect : detectBreakingChanges old new = .ok [])
    (hcompared : ∀ place a b, ObjectAt o loc place a → ObjectAt n loc place b →
      Compared old new place a b) {v : Json} (hv : Accepts o v) :
    Unseen old new version loc o n (reversion version v) := by
  induction h generalizing loc v with
  | @mk version o n closed versioned fresh node nested wholeItems itemNode itemNested ihp ihi =>
    have hm := accepts_iff.mp hv
    have hchecked : n.keywords.type = some .object → ∀ key, checkedProperty? o key = o.property? key :=
      fun ht key ↦ if_pos (htype.trans ht)
    have hcheckedItems : n.keywords.type = some .array → checkedItems? o = o.items :=
      fun ht ↦ if_pos (htype.trans ht)
    have hhere : n.keywords.type = some .object → Compared old new loc o n :=
      fun ht ↦ hcompared loc o n (.here (htype.trans ht)) (.here ht)
    constructor
    · intro entries ht hobj
      exact ⟨fun hc ↦ absurd (hhere ht) hc, fun ho hn ↦ absurd (closed ht hn) ho⟩
    · intro entries ht hobj key np w hnp hw hfresh
      obtain ⟨entries', rfl, -, hget, hreversioned⟩ := reversion_eq_obj hobj
      by_cases hversion : IsVersion version key
      · obtain ⟨rfl, hsome⟩ := hversion
        obtain ⟨c, hc⟩ := Option.isSome_iff_exists.mp hsome
        obtain rfl := hreversioned c w hc hw
        exact versioned ht c np hc hnp
      · have hop : o.property? key = none := by
          rw [← hchecked ht]
          exact hfresh.resolve_right hversion
        rcases fresh ht key np hnp hop hversion with hclosed | hnone
        · have hfields := hm.fields entries' (htype.trans ht) rfl
          rw [hget key hversion, get?_eq_none_of_closed hclosed hfields hop] at hw
          cases hw
        · exact accepts_of_unconstrained hnone w
    · intro entries ht hobj key op np w hop hnp hw hversion
      have hold := accepts_property hm hobj hop hw hversion
      rw [hchecked ht] at hop
      have htypes := ((objectKept_of_compared hdetect (hhere ht)).property key op np hop hnp).type
      have hunseen := (node ht key op np hop hnp hversion).nodeUnseen htypes (accepts_iff.mp hold).node
      rw [reversion_none] at hunseen
      rw [eq_true (hhere ht)]
      exact hunseen
    · intro entries ht hobj key op np w hop hnp hw hversion
      have hold := accepts_property hm hobj hop hw hversion
      rw [hchecked ht] at hop
      have htypes := ((objectKept_of_compared hdetect (hhere ht)).property key op np hop hnp).type
      have hbelow := ihp ht key op np hop hnp hversion htypes
        (fun place a b ha hb ↦ hcompared place a b
          (.property (htype.trans ht) (Table.mem_of_get? hop) ha)
          (.property ht (Table.mem_of_get? hnp) hb)) hold
      rwa [reversion_none] at hbelow
    · intro values ht harr hnone ni hni x _
      rw [hcheckedItems ht] at hnone
      exact accepts_of_unconstrained (wholeItems ht hnone ni hni) x
    · intro values ht harr oi hoi ni hni x hx
      rw [hcheckedItems ht] at hoi
      obtain rfl := eq_of_reversion harr nofun
      have hold := hm.items values (htype.trans ht) rfl oi hoi x hx
      have hnode := itemNode ht oi hoi ni hni
      have hunseen := hnode.nodeUnseen (hnode.type not_false) (accepts_iff.mp hold).node
      rwa [reversion_none] at hunseen
    · intro values ht harr oi hoi ni hni x hx
      rw [hcheckedItems ht] at hoi
      obtain rfl := eq_of_reversion harr nofun
      have hold := hm.items values (htype.trans ht) rfl oi hoi x hx
      have hbelow := ihi ht oi hoi ni hni ((itemNode ht oi hoi ni hni).type not_false)
        (fun place a b ha hb ↦ hcompared place a b (.item (htype.trans ht) hoi ha)
          (.item ht hni hb)) hold
      rwa [reversion_none] at hbelow

theorem residue_of_covered {old new : Schema} (h : Covered old new)
    (hdetect : detectBreakingChanges old new = .ok []) {v : Json} (hv : Accepts old v) :
    Residue old new (reversion (getSchemaVersion new) v) := by
  have htype := h.node.type not_false
  constructor
  · exact h.node.nodeUnseen htype (accepts_iff.mp hv).node
  · exact unseen_of_untightened h.below htype hdetect
      (fun place a b ↦ compared_of_objectAt h.locations.1 h.locations.2) hv

/-! ## The gate -/

/-- The promise of the gate, for one document: nothing is reported, the old version accepts the
document, so the new version accepts it with the version rewritten. -/
def Carries (old new : Contract) (path : String) (v : Json) : Prop :=
  detectBreakingChanges old.schema new.schema = .ok [] → validateValue v old.schema path = [] →
    validateValue (reversion (getSchemaVersion new.schema) v) new.schema path = []

/-- **When a document survives a change the gate lets through.** Exactly when it passes the checks
of the new version that the detector leaves open; and every document does if the new version
tightens none of them. -/
theorem carries_iff_residue (old new : Contract) (path : String) :
    (∀ v, Carries old new path v ↔
      (detectBreakingChanges old.schema new.schema = .ok [] →
        validateValue v old.schema path = [] →
        Residue old.schema new.schema (reversion (getSchemaVersion new.schema) v)))
      ∧ (Covered old.schema new.schema → ∀ v, Carries old new path v) := by
  have hiff : ∀ v, Carries old new path v ↔
      (detectBreakingChanges old.schema new.schema = .ok [] →
        validateValue v old.schema path = [] →
        Residue old.schema new.schema (reversion (getSchemaVersion new.schema) v)) := by
    intro v
    refine forall_congr' fun hdetect ↦ forall_congr' fun hv ↦ ?_
    rw [← accepts_iff_validateValue path] at hv ⊢
    exact accepts_reversion_iff new.wellFormed hdetect hv
  refine ⟨hiff, fun hcovered v ↦ (hiff v).mpr fun hdetect hv ↦ ?_⟩
  exact residue_of_covered hcovered hdetect ((accepts_iff_validateValue path).mpr hv)

/-- A closed object of plain fields, the first two of them required. -/
def record (version : String) (id : Keywords) (optional : List (String × Keywords)) : Schema :=
  ⟨{ type := some .object, required := ["schema_version", "id"],
     additionalProperties := some false },
    ([("schema_version", { type := some .string, const := some (.str version) }), ("id", id)]
      ++ optional).map fun f ↦ (f.1, ⟨f.2, [], none⟩), none⟩

theorem wellFormed_record (version : String) (id : Keywords) {optional : List (String × Keywords)}
    (h : (["schema_version", "id"] ++ optional.map Prod.fst).Nodup) :
    (record version id optional).WellFormed := by
  constructor
  · simpa [Table.Keyed, record, Schema.properties, Function.comp_def] using h
  · intro p hp
    obtain ⟨f, -, rfl⟩ := List.mem_map.mp hp
    exact ⟨List.nodup_nil, by rintro _ ⟨⟩, by rintro _ ⟨⟩⟩
  · rintro _ ⟨⟩

/-- Asking for a longer identifier is not reported, and turns a document of the old version away. -/
theorem longer_identifier_not_carried :
    ¬Carries ⟨record "1.0.0" { type := some .string } [], wellFormed_record _ _ (by decide)⟩
      ⟨record "1.1.0" { type := some .string, minLength := some 3 } [],
        wellFormed_record _ _ (by decide)⟩
      "$" (.obj [("schema_version", .str "1.0.0"), ("id", .str "a")]) := by
  intro h
  exact List.cons_ne_nil _ _ (h rfl rfl)

theorem locationsDistinct_record (version : String) (id : Keywords)
    {optional : List (String × Keywords)} (hid : id.type ≠ some .object)
    (h : ∀ f ∈ optional, f.2.type ≠ some .object) :
    LocationsDistinct (record version id optional) := by
  -- the root is the only object node: no plain field is one
  have hroot : ∀ place a, ObjectAt (record version id optional) "$" place a →
      a = record version id optional := by
    intro place a ha
    cases ha with
    | here => rfl
    | @property _ _ _ _ p _ hp ha =>
      obtain ⟨f, hf, rfl⟩ := List.mem_map.mp hp
      have hplain : f.2.type ≠ some .object := by
        rcases List.mem_append.mp hf with hf | hf
        · simp only [List.mem_cons, List.not_mem_nil, or_false] at hf
          rcases hf with rfl | rfl
          · exact nofun
          · exact hid
        · exact h f hf
      cases ha with
      | here htype => exact absurd htype hplain
      | property htype => exact absurd htype hplain
      | item _ hitem => cases hitem
    | item _ hitem => cases hitem
  intro place a b ha hb
  rw [hroot place a ha, hroot place b hb]

/-- A new optional field is within the condition on the schemas. -/
example : Covered (record "1.0.0" { type := some .string, minLength := some 1 } [])
    (record "1.1.0" { type := some .string, minLength := some 1 }
      [("note", { type := some .string, minLength := some 3 })]) := by
  -- the identifier is the one field, besides the version, that both declare
  have hid : ∀ key op, (record "1.0.0" { type := some .string, minLength := some 1 } []).property?
      key = some op → ¬IsVersion (some "1.1.0") key → key = "id" := by
    intro key op hop hversion
    have hmem := Table.mem_of_get? hop
    simp only [record, Schema.properties, List.append_nil, List.map_cons, List.map_nil,
      List.mem_cons, Prod.mk.injEq, List.not_mem_nil, or_false] at hmem
    rcases hmem with ⟨rfl, -⟩ | ⟨rfl, -⟩
    · exact absurd ⟨rfl, rfl⟩ hversion
    · rfl
  refine ⟨⟨?_, ?_⟩, ⟨fun _ ↦ rfl, ⟨nofun, nofun, nofun⟩, nofun, nofun⟩, ?_⟩
  · exact locationsDistinct_record _ _ nofun nofun
  · exact locationsDistinct_record _ _ nofun (by simp)
  · constructor
    · exact fun _ _ ↦ rfl
    · rintro - c np hc hnp
      cases hc
      cases hnp
      exact (accepts_iff_validateValue "$").mpr rfl
    · exact fun _ _ _ _ _ _ ↦ Or.inl rfl
    · rintro - key op np hop hnp hversion
      obtain rfl := hid key op hop hversion
      cases hop
      cases hnp
      refine ⟨fun _ ↦ rfl, ⟨?_, nofun, nofun⟩, nofun, nofun⟩
      exact fun _ b hb ↦ Or.inr ⟨b, hb, le_rfl⟩
    · rintro - key op np hop hnp hversion
      obtain rfl := hid key op hop hversion
      cases hop
      cases hnp
      constructor <;> exact nofun
    · exact nofun
    · exact nofun
    · exact nofun

end SchemaGovernance

end ReqSys
