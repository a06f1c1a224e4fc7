import Mathlib.Algebra.Order.Ring.Unbundled.Rat
import Mathlib.Data.List.Sort

/-!
# JSON values as Python compares them

`json.loads` turns a JSON text into nested dictionaries, lists, strings, numbers, Booleans and
`None`. Two operations on the result are not what a reader expects from the JSON standard. Equality
identifies `True` with `1` and `False` with `0`, at every depth, and ignores the order of the
entries of a dictionary; sets refuse lists and dictionaries, and `sorted` refuses values of
different kinds.

Equality is reflexive and transitive (`Json.pyEq_refl`, `Json.pyEq_trans`), which is what carries a
membership test from one list of values to another.
-/

namespace ReqSys

/-- A JSON value. Numbers are exact: Python compares `int` and `float` by value. -/
inductive Json where
  | null
  | bool (b : Bool)
  | num (q : ℚ)
  | str (s : String)
  | arr (items : List Json)
  | obj (entries : List (String × Json))

/-- What a set or a sort raises on values it cannot hash or compare. -/
inductive PyError where
  | typeError
deriving DecidableEq, Repr

namespace Json

/-! ## Equality -/

/-- `1` for `True` and `0` for `False`. -/
def ofBool (b : Bool) : ℚ := if b then 1 else 0

mutual

/-- `x == y`. -/
def pyEq : Json → Json → Bool
  | .null, .null => true
  | .bool b, .bool c => b == c
  | .bool b, .num q => ofBool b == q
  | .num q, .bool b => q == ofBool b
  | .num q, .num r => q == r
  | .str s, .str t => s == t
  | .arr xs, .arr ys => itemsEq xs ys
  | .obj xs, .obj ys => xs.length == ys.length && entriesIn xs ys
  | _, _ => false
termination_by structural x => x

/-- Two lists are equal entry by entry. -/
def itemsEq : List Json → List Json → Bool
  | [], [] => true
  | x :: xs, y :: ys => pyEq x y && itemsEq xs ys
  | _, _ => false
termination_by structural xs => xs

/-- Every entry of the first dictionary is an entry of the second. -/
def entriesIn : List (String × Json) → List (String × Json) → Bool
  | [], _ => true
  | x :: xs, ys => entryIn x ys && entriesIn xs ys
termination_by structural xs => xs

/-- The dictionary has the key, with an equal value. -/
def entryIn : String × Json → List (String × Json) → Bool
  | (key, x), ys => ys.any fun y ↦ y.1 == key && pyEq x y.2
termination_by structural x => x

end

example (key : String) (x y : Json) :
    pyEq (.arr [.obj [(key, x)]]) (.arr [.obj [(key, y)]]) = pyEq x y := by
  simp [pyEq, itemsEq, entriesIn, entryIn]

theorem entryIn_iff {x : String × Json} {ys : List (String × Json)} :
    entryIn x ys = true ↔ ∃ y ∈ ys, y.1 = x.1 ∧ pyEq x.2 y.2 = true := by
  obtain ⟨key, x⟩ := x
  simp [entryIn]

theorem entriesIn_iff {xs ys : List (String × Json)} :
    entriesIn xs ys = true ↔ ∀ x ∈ xs, ∃ y ∈ ys, y.1 = x.1 ∧ pyEq x.2 y.2 = true := by
  induction xs with
  | nil => simp [entriesIn]
  | cons x xs ih => rw [entriesIn, Bool.and_eq_true, entryIn_iff, ih, List.forall_mem_cons]

/-- A property of values holds of all of them when every list and every dictionary has it as soon
as its members do. -/
theorem induction {C : Json → Prop} (null : C .null) (bool : ∀ b, C (.bool b))
    (num : ∀ q, C (.num q)) (str : ∀ s, C (.str s))
    (arr : ∀ items, (∀ x ∈ items, C x) → C (.arr items))
    (obj : ∀ entries, (∀ e ∈ entries, C e.2) → C (.obj entries)) (x : Json) : C x :=
  @Json.rec C (fun items ↦ ∀ x ∈ items, C x) (fun entries ↦ ∀ e ∈ entries, C e.2) (fun e ↦ C e.2)
    null bool num str arr obj
    (by simp) (fun _ _ hx hxs ↦ List.forall_mem_cons.mpr ⟨hx, hxs⟩)
    (by simp) (fun _ _ he hes ↦ List.forall_mem_cons.mpr ⟨he, hes⟩)
    (fun _ _ h ↦ h) x

theorem itemsEq_refl {items : List Json} (h : ∀ x ∈ items, pyEq x x = true) :
    itemsEq items items = true := by
  induction items with
  | nil => rfl
  | cons x xs ih =>
    obtain ⟨hx, hxs⟩ := List.forall_mem_cons.mp h
    rw [itemsEq, hx, ih hxs, Bool.and_true]

@[simp]
theorem pyEq_refl (x : Json) : pyEq x x = true := by
  induction x using induction with
  | null => rfl
  | bool b => simp [pyEq]
  | num q => simp [pyEq]
  | str s => simp [pyEq]
  | arr items ih => rw [pyEq, itemsEq_refl ih]
  | obj entries ih =>
    rw [pyEq, beq_self_eq_true, Bool.true_and, entriesIn_iff]
    intro e he
    exact ⟨e, he, rfl, ih e he⟩

/-- The number a value is equal to, if it is a number or a Boolean. -/
def number? : Json → Option ℚ
  | .bool b => some (ofBool b)
  | .num q => some q
  | _ => none

/-- Between numbers and Booleans, equality is equality of the numbers. -/
theorem pyEq_iff_of_number {x : Json} {q : ℚ} (h : x.number? = some q) (y : Json) :
    pyEq x y = true ↔ y.number? = some q := by
  cases x with
  | bool b =>
    obtain rfl : ofBool b = q := Option.some.inj h
    cases y with
    | bool c => cases b <;> cases c <;> decide
    | num r => simp [number?, pyEq, eq_comm (a := r)]
    | null | str | arr | obj => simp [number?, pyEq]
  | num r =>
    obtain rfl : r = q := Option.some.inj h
    cases y with
    | bool c => simp [number?, pyEq, eq_comm (a := r)]
    | num q => simp [number?, pyEq, eq_comm (a := r)]
    | null | str | arr | obj => simp [number?, pyEq]
  | null | str | arr | obj => exact absurd h (by simp [number?])

theorem itemsEq_trans {xs : List Json}
    (h : ∀ x ∈ xs, ∀ y z, pyEq x y = true → pyEq y z = true → pyEq x z = true) :
    ∀ {ys zs : List Json}, itemsEq xs ys = true → itemsEq ys zs = true → itemsEq xs zs = true := by
  induction xs with
  | nil =>
    intro ys zs hxy hyz
    cases ys with
    | nil => exact hyz
    | cons y ys => simp [itemsEq] at hxy
  | cons x xs ih =>
    obtain ⟨hx, hxs⟩ := List.forall_mem_cons.mp h
    intro ys zs hxy hyz
    cases ys with
    | nil => simp [itemsEq] at hxy
    | cons y ys =>
      cases zs with
      | nil => simp [itemsEq] at hyz
      | cons z zs =>
        rw [itemsEq, Bool.and_eq_true] at hxy hyz ⊢
        exact ⟨hx y z hxy.1 hyz.1, ih hxs hxy.2 hyz.2⟩

theorem pyEq_trans {x y z : Json} (hxy : pyEq x y = true) (hyz : pyEq y z = true) :
    pyEq x z = true := by
  induction x using induction generalizing y z with
  | null =>
    cases y <;> simp only [pyEq, Bool.false_eq_true] at hxy
    exact hyz
  | bool b =>
    have hy := (pyEq_iff_of_number (x := .bool b) rfl y).mp hxy
    exact (pyEq_iff_of_number rfl z).mpr ((pyEq_iff_of_number hy z).mp hyz)
  | num q =>
    have hy := (pyEq_iff_of_number (x := .num q) rfl y).mp hxy
    exact (pyEq_iff_of_number rfl z).mpr ((pyEq_iff_of_number hy z).mp hyz)
  | str s =>
    cases y <;> simp only [pyEq, Bool.false_eq_true, beq_iff_eq] at hxy
    rw [hxy]
    exact hyz
  | arr xs ih =>
    cases y <;> simp only [pyEq, Bool.false_eq_true] at hxy
    cases z <;> simp only [pyEq, Bool.false_eq_true] at hyz
    rw [pyEq]
    exact itemsEq_trans (fun x hx y z ↦ ih x hx) hxy hyz
  | obj xs ih =>
    cases y <;> simp only [pyEq, Bool.false_eq_true, Bool.and_eq_true, beq_iff_eq] at hxy
    cases z <;> simp only [pyEq, Bool.false_eq_true, Bool.and_eq_true, beq_iff_eq] at hyz
    simp only [pyEq, Bool.and_eq_true, beq_iff_eq]
    refine ⟨hxy.1.trans hyz.1, entriesIn_iff.mpr fun x hx ↦ ?_⟩
    -- the entry is found in the second dictionary, and from there in the third
    obtain ⟨y, hy, hyk, hxy'⟩ := entriesIn_iff.mp hxy.2 x hx
    obtain ⟨z, hz, hzk, hyz'⟩ := entriesIn_iff.mp hyz.2 y hy
    exact ⟨z, hz, hzk.trans hyk, ih x hx hxy' hyz'⟩

/-! ## Reading values -/

/-- The truth value of a value. -/
def truthy : Json → Bool
  | .null => false
  | .bool b => b
  | .num q => q != 0
  | .str s => s != ""
  | .arr items => !items.isEmpty
  | .obj entries => !entries.isEmpty

/-- `d.get(key)`: `None` if the key is not there. -/
def get (key : String) (entries : List (String × Json)) : Json :=
  ((entries.find? fun e ↦ e.1 == key).map Prod.snd).getD .null

/-- The entries of a dictionary. -/
def items : Json → List (String × Json)
  | .obj entries => entries
  | _ => []

/-- `x or y`. -/
def orElse (x y : Json) : Json := if x.truthy then x else y

/-- `list(x)`: the characters of a string, the keys of a dictionary. -/
def toList : Json → Except PyError (List Json)
  | .str s => .ok (s.toList.map fun c ↦ .str (String.singleton c))
  | .arr items => .ok items
  | .obj entries => .ok (entries.map fun e ↦ .str e.1)
  | .null | .bool _ | .num _ => .error .typeError

/-- A text, or `None`. -/
def ofOption : Option String → Json
  | none => .null
  | some s => .str s

/-! ## Membership, sets and sorting -/

/-- `x in values`. -/
def isIn (x : Json) (values : List Json) : Bool := values.any fun y ↦ pyEq x y

theorem isIn_iff {x : Json} {values : List Json} :
    isIn x values = true ↔ ∃ y ∈ values, pyEq x y = true := by simp [isIn]

theorem isIn_of_mem {x : Json} {values : List Json} (h : x ∈ values) : isIn x values = true :=
  isIn_iff.mpr ⟨x, h, pyEq_refl x⟩

/-- A set accepts the values that hash: not the lists, not the dictionaries. -/
def hashable : Json → Bool
  | .arr _ => false
  | .obj _ => false
  | _ => true

/-- The distinct values, each at its first occurrence. -/
def distinct : List Json → List Json
  | [] => []
  | x :: xs => x :: (distinct xs).filter fun y ↦ !pyEq y x

theorem exists_mem_distinct {x : Json} {xs : List Json} (h : x ∈ xs) :
    ∃ y ∈ distinct xs, pyEq x y = true := by
  induction xs with
  | nil => exact absurd h List.not_mem_nil
  | cons z xs ih =>
    rcases List.mem_cons.mp h with rfl | h
    · exact ⟨x, List.mem_cons_self, pyEq_refl x⟩
    · obtain ⟨y, hy, hxy⟩ := ih h
      -- the representative of `x` in the rest survives unless it equals the first value
      by_cases hyz : pyEq y z = true
      · exact ⟨z, List.mem_cons_self, pyEq_trans hxy hyz⟩
      · refine ⟨y, List.mem_cons_of_mem z (List.mem_filter.mpr ⟨hy, ?_⟩), hxy⟩
        simpa using hyz

/-- `set(xs) - set(ys)`. -/
def setDiff (xs ys : List Json) : Except PyError (List Json) :=
  if xs.all hashable && ys.all hashable then
    .ok ((distinct xs).filter fun x ↦ !isIn x ys)
  else .error .typeError

/-- Nothing is left of the first set: its values are in the second list. -/
theorem isIn_of_setDiff_eq_nil {xs ys : List Json} (h : setDiff xs ys = .ok []) {x : Json}
    (hx : x ∈ xs) : isIn x ys = true := by
  rw [setDiff] at h
  split at h
  · have hnil := Except.ok.inj h
    obtain ⟨y, hy, hxy⟩ := exists_mem_distinct hx
    have hin : isIn y ys = true := by simpa using List.filter_eq_nil_iff.mp hnil y hy
    obtain ⟨z, hz, hyz⟩ := isIn_iff.mp hin
    exact isIn_iff.mpr ⟨z, hz, pyEq_trans hxy hyz⟩
  · cases h

/-- `x <= y`, between two strings or two numbers. -/
def le : Json → Json → Bool
  | .str s, .str t => decide (s ≤ t)
  | x, y =>
    match x.number?, y.number? with
    | some q, some r => decide (q ≤ r)
    | _, _ => false

/-- `isinstance(x, str)`. -/
def isStr : Json → Bool
  | .str _ => true
  | _ => false

/-- `sorted(xs)`: among two or more values of different kinds some comparison fails. -/
def sorted (xs : List Json) : Except PyError (List Json) :=
  if xs.length ≤ 1 || xs.all isStr || xs.all fun x ↦ x.number?.isSome then
    .ok (xs.insertionSort fun x y ↦ x.le y = true)
  else .error .typeError

theorem eq_nil_of_sorted {xs : List Json} (h : sorted xs = .ok []) : xs = [] := by
  rw [sorted] at h
  split at h
  · have hperm := List.perm_insertionSort (fun x y : Json ↦ x.le y = true) xs
    rw [Except.ok.inj h] at hperm
    exact List.nil_perm.mp hperm
  · cases h

end Json

end ReqSys
