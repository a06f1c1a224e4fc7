import Mathlib.Data.List.Nodup
import Mathlib.Data.List.Count
import Mathlib.Order.Basic

/-!
# Keyed tables

A database table is a list of rows in insertion order together with a function reading the primary
key of a row. Lookups and updates address rows by key; `Keyed` says the key is unique, which is the
one fact that makes "the row with this key" meaningful.

Everything a proof needs about an update by key is stated here: which rows it changes
(`mem_update`), that it keeps the key unique (`keyed_update`), and how it moves a count
(`countP_update`). The last one is exact rather than an inequality, so bounds on counts follow by
arithmetic alone.

`least` is `ORDER BY … LIMIT 1`: the first element of a list under a Boolean comparison.
-/

namespace ReqSys

namespace Table

variable {ρ κ : Type*} [DecidableEq κ] {key : ρ → κ}

/-! ## Operations -/

/-- `SELECT * FROM rows WHERE key = k`, one row. -/
def lookup (key : ρ → κ) (k : κ) (rows : List ρ) : Option ρ :=
  rows.find? fun r ↦ decide (key r = k)

/-- `UPDATE rows SET … WHERE key = k`. -/
def update (key : ρ → κ) (k : κ) (f : ρ → ρ) (rows : List ρ) : List ρ :=
  rows.map fun r ↦ if key r = k then f r else r

/-- `INSERT … ON CONFLICT(key) DO UPDATE`: `f` merges the new values into an existing row. -/
def upsert (key : ρ → κ) (new : ρ) (f : ρ → ρ) (rows : List ρ) : List ρ :=
  if (lookup key (key new) rows).isSome then update key (key new) f rows else rows ++ [new]

/-- `INSERT OR IGNORE`. -/
def insertOrIgnore (key : ρ → κ) (new : ρ) (rows : List ρ) : List ρ :=
  if (lookup key (key new) rows).isSome then rows else rows ++ [new]

/-- The key is unique. -/
def Keyed (key : ρ → κ) (rows : List ρ) : Prop := (rows.map key).Nodup

/-! ## Lookup -/

theorem mem_of_lookup {k : κ} {rows : List ρ} {r : ρ} (h : lookup key k rows = some r) :
    r ∈ rows := List.mem_of_find?_eq_some h

theorem key_of_lookup {k : κ} {rows : List ρ} {r : ρ} (h : lookup key k rows = some r) :
    key r = k := by
  have hk := List.find?_some h
  simpa using hk

theorem ne_key_of_lookup_none {k : κ} {rows : List ρ} (h : lookup key k rows = none) {r : ρ}
    (hr : r ∈ rows) : key r ≠ k := by
  have hk := List.find?_eq_none.mp h r hr
  simpa using hk

theorem exists_lookup {k : κ} {rows : List ρ} {r : ρ} (hr : r ∈ rows) (hk : key r = k) :
    ∃ r', lookup key k rows = some r' := by
  cases h : lookup key k rows with
  | none => exact absurd hk (ne_key_of_lookup_none h hr)
  | some r' => exact ⟨r', rfl⟩

omit [DecidableEq κ] in
theorem Keyed.eq_of_key_eq {rows : List ρ} (hnd : Keyed key rows) {r r' : ρ} (hr : r ∈ rows)
    (hr' : r' ∈ rows) (h : key r = key r') : r = r' := List.inj_on_of_nodup_map hnd hr hr' h

theorem Keyed.lookup_of_mem {rows : List ρ} (hnd : Keyed key rows) {r : ρ} (hr : r ∈ rows) :
    lookup key (key r) rows = some r := by
  obtain ⟨r', hr'⟩ := exists_lookup hr (rfl : key r = key r)
  rw [hr', hnd.eq_of_key_eq (mem_of_lookup hr') hr (key_of_lookup hr')]

/-! ## Update -/

theorem mem_update {k : κ} {f : ρ → ρ} {rows : List ρ} {r' : ρ} (h : r' ∈ update key k f rows) :
    (r' ∈ rows ∧ key r' ≠ k) ∨ ∃ r ∈ rows, key r = k ∧ r' = f r := by
  obtain ⟨r, hr, rfl⟩ := List.mem_map.mp h
  by_cases hk : key r = k
  · rw [if_pos hk]
    exact Or.inr ⟨r, hr, hk, rfl⟩
  · rw [if_neg hk]
    exact Or.inl ⟨hr, hk⟩

theorem mem_update_of_ne {k : κ} {f : ρ → ρ} {rows : List ρ} {r : ρ} (hr : r ∈ rows)
    (hk : key r ≠ k) : r ∈ update key k f rows :=
  List.mem_map.mpr ⟨r, hr, by rw [if_neg hk]⟩

theorem mem_update_self {k : κ} {f : ρ → ρ} {rows : List ρ} {r : ρ} (hr : r ∈ rows)
    (hk : key r = k) : f r ∈ update key k f rows :=
  List.mem_map.mpr ⟨r, hr, by rw [if_pos hk]⟩

theorem mem_upsert {new : ρ} {f : ρ → ρ} {rows : List ρ} {r' : ρ}
    (h : r' ∈ upsert key new f rows) : r' ∈ rows ∨ r' = new ∨ ∃ r ∈ rows, r' = f r := by
  rw [upsert] at h
  split at h
  · rcases mem_update h with ⟨h, -⟩ | ⟨r, hr, -, rfl⟩
    · exact Or.inl h
    · exact Or.inr (Or.inr ⟨r, hr, rfl⟩)
  · rcases List.mem_append.mp h with h | h
    · exact Or.inl h
    · exact Or.inr (Or.inl (List.mem_singleton.mp h))

/-- A column that the update keeps is kept in every row. -/
theorem map_update {β : Type*} {g : ρ → β} {k : κ} {f : ρ → ρ} (hg : ∀ r, g (f r) = g r)
    (rows : List ρ) : (update key k f rows).map g = rows.map g := by
  rw [update, List.map_map]
  refine List.map_congr_left fun r _ ↦ ?_
  by_cases hk : key r = k
  · simp [hk, hg]
  · simp [hk]

theorem Keyed.keyed_update {k : κ} {f : ρ → ρ} (hf : ∀ r, key (f r) = key r) {rows : List ρ}
    (hnd : Keyed key rows) : Keyed key (update key k f rows) := by
  rw [Keyed, map_update hf]
  exact hnd

/-- Replacing the addressed row by a row with the same key. -/
theorem Keyed.keyed_update_key {k : κ} {new : ρ} (hnew : key new = k) {rows : List ρ}
    (hnd : Keyed key rows) : Keyed key (update key k (fun _ ↦ new) rows) := by
  have hmap : (update key k (fun _ ↦ new) rows).map key = rows.map key := by
    rw [update, List.map_map]
    refine List.map_congr_left fun r _ ↦ ?_
    by_cases hk : key r = k
    · simp [hk, hnew]
    · simp [hk]
  rw [Keyed, hmap]
  exact hnd

theorem update_of_forall_ne {k : κ} {f : ρ → ρ} {rows : List ρ} (h : ∀ r ∈ rows, key r ≠ k) :
    update key k f rows = rows := by
  rw [update]
  conv_rhs => rw [← List.map_id rows]
  exact List.map_congr_left fun r hr ↦ by rw [if_neg (h r hr)]; rfl

/-- An update that keeps the key changes what is found under its key and nothing else. -/
theorem lookup_update {k k' : κ} {f : ρ → ρ} (hf : ∀ r, key r = k → key (f r) = k)
    (rows : List ρ) : lookup key k' (update key k f rows)
      = if k' = k then (lookup key k rows).map f else lookup key k' rows := by
  induction rows with
  | nil => simp [lookup, update]
  | cons r rows ih =>
    simp only [lookup, update] at ih
    simp only [lookup, update, List.map_cons, List.find?_cons, ih]
    -- whether the first row is the addressed one, and whether it is the one looked for
    by_cases hk : key r = k
    · by_cases hk' : k' = k
      · simp [hk, hk', hf r hk]
      · simp [hk, hk', hf r hk, Ne.symm hk']
    · by_cases hk' : k' = k
      · simp [hk, hk']
      · simp [hk, hk']

/-- **An update moves a count exactly.** Only the addressed row contributes a difference. -/
theorem countP_update {f : ρ → ρ} {rows : List ρ} {r : ρ} (hnd : Keyed key rows) (hr : r ∈ rows)
    (p : ρ → Bool) :
    (update key (key r) f rows).countP p + (if p r then 1 else 0)
      = rows.countP p + (if p (f r) then 1 else 0) := by
  induction rows with
  | nil => exact absurd hr (by simp)
  | cons a rows ih =>
    have hnd' : Keyed key rows := (List.nodup_cons.mp hnd).2
    have hsplit : update key (key r) f (a :: rows)
        = (if key a = key r then f a else a) :: update key (key r) f rows := rfl
    rw [hsplit, List.countP_cons, List.countP_cons]
    rcases List.mem_cons.mp hr with rfl | hr'
    · have hne : ∀ x ∈ rows, key x ≠ key r := fun x hx hk ↦
        (List.nodup_cons.mp hnd).1 (List.mem_map.mpr ⟨x, hx, hk⟩)
      rw [if_pos rfl, update_of_forall_ne hne]
      omega
    · have hne : key a ≠ key r := fun hk ↦
        (List.nodup_cons.mp hnd).1 (List.mem_map.mpr ⟨r, hr', hk.symm⟩)
      rw [if_neg hne]
      have := ih hnd' hr'
      omega

/-- An update that gives the addressed row a mark adds that mark. -/
theorem filterMap_update_perm {β : Type*} {f : ρ → ρ} {g : ρ → Option β} {k : κ} {rows : List ρ}
    {r : ρ} {b : β} (hnd : Keyed key rows) (hr : lookup key k rows = some r) (hnone : g r = none)
    (hsome : g (f r) = some b) :
    ((update key k f rows).filterMap g).Perm (b :: rows.filterMap g) := by
  induction rows with
  | nil => cases hr
  | cons a rows ih =>
    obtain ⟨hnot, hnd'⟩ := List.nodup_cons.mp hnd
    have hsplit : update key k f (a :: rows)
        = (if key a = k then f a else a) :: update key k f rows := rfl
    rw [hsplit]
    by_cases hk : key a = k
    · have har : a = r := by
        rw [lookup, List.find?_cons_of_pos (by simpa using hk)] at hr
        exact Option.some.inj hr
      subst har
      have hrest : ∀ x ∈ rows, key x ≠ k := fun x hx hkx ↦
        hnot (List.mem_map.mpr ⟨x, hx, hkx.trans hk.symm⟩)
      rw [if_pos hk, List.filterMap_cons_some hsome, update_of_forall_ne hrest,
        List.filterMap_cons_none hnone]
    · rw [lookup, List.find?_cons_of_neg (by simpa using hk)] at hr
      rw [if_neg hk]
      rcases hg : g a with _ | c
      · rw [List.filterMap_cons_none hg, List.filterMap_cons_none hg]
        exact ih hnd' hr
      · rw [List.filterMap_cons_some hg, List.filterMap_cons_some hg]
        exact ((ih hnd' hr).cons c).trans (List.Perm.swap b c _)

/-! ## Deletion -/

/-- `DELETE FROM rows WHERE key = k'`. -/
theorem lookup_filter_ne (k k' : κ) (rows : List ρ) :
    lookup key k (rows.filter fun r ↦ key r ≠ k') = if k = k' then none else lookup key k rows := by
  rw [lookup, List.find?_filter]
  split
  next h =>
    refine List.find?_eq_none.mpr fun r _ ↦ ?_
    simp [h]
  next h =>
    refine congrArg (List.find? · rows) (funext fun r ↦ ?_)
    by_cases hr : key r = k
    · simp [hr, h]
    · simp [hr]

/-! ## Insertion -/

omit [DecidableEq κ] in
theorem Keyed.concat {rows : List ρ} {new : ρ} (hnd : Keyed key rows)
    (h : ∀ r ∈ rows, key r ≠ key new) : Keyed key (rows ++ [new]) := by
  rw [Keyed, List.map_append, List.map_singleton]
  refine List.nodup_append.mpr ⟨hnd, List.nodup_singleton _, ?_⟩
  intro a ha b hb hab
  obtain ⟨r, hr, rfl⟩ := List.mem_map.mp ha
  exact h r hr (hab.trans (List.mem_singleton.mp hb))

theorem lookup_concat {k : κ} (new : ρ) (rows : List ρ) :
    lookup key k (rows ++ [new])
      = (lookup key k rows).or (if key new = k then some new else none) := by
  simp only [lookup, List.find?_append, List.find?_cons, List.find?_nil]
  by_cases hk : key new = k <;> simp [hk]

/-- An upsert that overwrites. -/
theorem lookup_upsert_const {k : κ} (new : ρ) (rows : List ρ) :
    lookup key k (upsert key new (fun _ ↦ new) rows)
      = if k = key new then some new else lookup key k rows := by
  rw [upsert]
  split
  next h =>
    obtain ⟨r, hr⟩ := Option.isSome_iff_exists.mp h
    rw [lookup_update (fun _ _ ↦ rfl), hr]
    rfl
  next h =>
    have hnone : lookup key (key new) rows = none := Option.not_isSome_iff_eq_none.mp h
    rw [lookup_concat]
    by_cases hk : k = key new
    · simp [hk, hnone]
    · simp [hk, Ne.symm hk]

/-- An upsert that keeps the key it is under. -/
theorem Keyed.upsert {rows : List ρ} {new : ρ} {f : ρ → ρ} (hnd : Keyed key rows)
    (hf : ∀ r, key r = key new → key (f r) = key new) :
    Keyed key (Table.upsert key new f rows) := by
  rw [Table.upsert]
  split
  · have hmap : (update key (key new) f rows).map key = rows.map key := by
      rw [update, List.map_map]
      refine List.map_congr_left fun r _ ↦ ?_
      by_cases hk : key r = key new
      · simp [hk, hf r hk]
      · simp [hk]
    rw [Keyed, hmap]
    exact hnd
  next h =>
    refine hnd.concat fun r hr heq ↦ h ?_
    obtain ⟨r', hr'⟩ := exists_lookup hr heq
    rw [hr']
    rfl

/-- After an upsert the row is there. -/
theorem exists_lookup_upsert (new : ρ) {f : ρ → ρ}
    (hf : ∀ r, key r = key new → key (f r) = key new) (rows : List ρ) :
    ∃ r, lookup key (key new) (upsert key new f rows) = some r := by
  rw [upsert]
  split
  next h =>
    obtain ⟨r, hr⟩ := Option.isSome_iff_exists.mp h
    have hkey := key_of_lookup hr
    exact exists_lookup (mem_update_self (mem_of_lookup hr) hkey) (hf r hkey)
  next => exact exists_lookup (List.mem_append_right rows List.mem_cons_self) rfl

/-- An upsert changes nothing exactly when its row is there as it would be written. -/
theorem Keyed.upsert_eq_self_iff {rows : List ρ} (hnd : Keyed key rows) {new : ρ} {f : ρ → ρ} :
    Table.upsert key new f rows = rows ↔ ∃ r ∈ rows, key r = key new ∧ f r = r := by
  rw [Table.upsert]
  cases hlook : lookup key (key new) rows with
  | none =>
    simp only [Option.isSome_none, Bool.false_eq_true, if_false]
    refine iff_of_false (fun h ↦ ?_) fun ⟨r, hr, hkey, _⟩ ↦ ne_key_of_lookup_none hlook hr hkey
    have hlen := congrArg List.length h
    rw [List.length_append, List.length_singleton] at hlen
    omega
  | some r =>
    have hmem := mem_of_lookup hlook
    have hkey := key_of_lookup hlook
    simp only [Option.isSome_some, if_true]
    constructor
    · intro h
      refine ⟨r, hmem, hkey, ?_⟩
      have hsame := List.map_inj_left.mp (h.trans (List.map_id rows).symm) r hmem
      rwa [if_pos hkey] at hsame
    · rintro ⟨r', hr', hkey', hsame⟩
      conv_rhs => rw [← List.map_id rows]
      refine List.map_congr_left fun u hu ↦ ?_
      by_cases hu' : key u = key new
      · rw [if_pos hu', hnd.eq_of_key_eq hu hr' (hu'.trans hkey'.symm)]
        exact hsame
      · rw [if_neg hu']
        rfl

theorem exists_lookup_insertOrIgnore (new : ρ) (rows : List ρ) :
    ∃ r, lookup key (key new) (insertOrIgnore key new rows) = some r := by
  rw [insertOrIgnore]
  split
  next h => exact Option.isSome_iff_exists.mp h
  next => exact exists_lookup (List.mem_append_right rows List.mem_cons_self) rfl

/-! ## Dictionaries -/

section Dictionary

variable {α : Type*}

/-- `d.get(k)`. -/
def get? (k : κ) (d : List (κ × α)) : Option α := (lookup Prod.fst k d).map Prod.snd

/-- `d[e.1] = e.2`. -/
def put (d : List (κ × α)) (e : κ × α) : List (κ × α) := upsert Prod.fst e (fun _ ↦ e) d

/-- `d.update(d')`. -/
def merge (d d' : List (κ × α)) : List (κ × α) := d'.foldl put d

theorem get?_eq_none {k : κ} {d : List (κ × α)} : get? k d = none ↔ ∀ e ∈ d, e.1 ≠ k := by
  simp [get?, lookup]

theorem isSome_get? {k : κ} {d : List (κ × α)} : (get? k d).isSome ↔ k ∈ d.map Prod.fst := by
  rw [Option.isSome_iff_ne_none, Ne, get?_eq_none]
  simp

theorem mem_of_get? {k : κ} {d : List (κ × α)} {a : α} (h : get? k d = some a) : (k, a) ∈ d := by
  obtain ⟨e, he, rfl⟩ := Option.map_eq_some_iff.mp h
  rw [← key_of_lookup he]
  exact mem_of_lookup he

theorem exists_get? {e : κ × α} {d : List (κ × α)} (h : e ∈ d) : ∃ a, get? e.1 d = some a := by
  obtain ⟨e', he'⟩ := exists_lookup h (rfl : e.1 = e.1)
  exact ⟨e'.2, by rw [get?, he', Option.map_some]⟩

theorem Keyed.get?_of_mem {k : κ} {a : α} {d : List (κ × α)} (hd : Keyed Prod.fst d)
    (h : (k, a) ∈ d) : get? k d = some a := by
  rw [get?, hd.lookup_of_mem h, Option.map_some]

theorem get?_put (k : κ) (e : κ × α) (d : List (κ × α)) :
    get? k (put d e) = if k = e.1 then some e.2 else get? k d := by
  rw [get?, put, lookup_upsert_const]
  split <;> rfl

theorem mem_put {e e' : κ × α} {d : List (κ × α)} (h : e' ∈ put d e) : e' ∈ d ∨ e' = e := by
  rcases mem_upsert h with h | rfl | ⟨-, -, rfl⟩
  · exact Or.inl h
  · exact Or.inr rfl
  · exact Or.inr rfl

theorem Keyed.put {d : List (κ × α)} (hd : Keyed Prod.fst d) (e : κ × α) :
    Keyed Prod.fst (Table.put d e) := hd.upsert fun _ _ ↦ rfl

/-- What a merged dictionary holds comes from one of the two. -/
theorem mem_or_mem_of_mem_merge {e : κ × α} {d d' : List (κ × α)} (h : e ∈ merge d d') :
    e ∈ d ∨ e ∈ d' := by
  induction d' generalizing d with
  | nil => exact Or.inl h
  | cons e' d' ih =>
    rcases ih h with h | h
    · rcases mem_put h with h | rfl
      · exact Or.inl h
      · exact Or.inr List.mem_cons_self
    · exact Or.inr (List.mem_cons_of_mem e' h)

/-- A merge drops no key of the dictionary it extends. -/
theorem isSome_get?_merge_left {k : κ} {d : List (κ × α)} (d' : List (κ × α))
    (h : (get? k d).isSome) : (get? k (merge d d')).isSome := by
  induction d' generalizing d with
  | nil => exact h
  | cons e d' ih =>
    apply ih
    rw [get?_put]
    split
    · rfl
    · exact h

/-- A merge drops no key of the dictionary it reads. -/
theorem isSome_get?_merge_right {e : κ × α} (d : List (κ × α)) {d' : List (κ × α)}
    (h : e ∈ d') : (get? e.1 (merge d d')).isSome := by
  induction d' generalizing d with
  | nil => exact absurd h List.not_mem_nil
  | cons e' d' ih =>
    rcases List.mem_cons.mp h with rfl | h
    · have hput : (get? e.1 (put d e)).isSome := by
        rw [get?_put, if_pos rfl]
        rfl
      exact isSome_get?_merge_left d' hput
    · exact ih (put d e') h

end Dictionary

/-! ## The first row in an order -/

section Least

variable {α : Type*}

/-- `ORDER BY le LIMIT 1`. -/
def least (le : α → α → Bool) : List α → Option α
  | [] => none
  | a :: l =>
    match least le l with
    | none => some a
    | some b => if le a b then some a else some b

theorem mem_of_least {le : α → α → Bool} {l : List α} {a : α} (h : least le l = some a) :
    a ∈ l := by
  induction l generalizing a with
  | nil => cases h
  | cons b l ih =>
    rw [least] at h
    cases hl : least le l with
    | none =>
      rw [hl] at h
      cases h
      exact List.mem_cons_self
    | some c =>
      simp only [hl] at h
      by_cases hle : le b c
      · rw [if_pos hle] at h
        cases h
        exact List.mem_cons_self
      · rw [if_neg hle] at h
        cases h
        exact List.mem_cons_of_mem b (ih hl)

theorem least_eq_none {le : α → α → Bool} {l : List α} : least le l = none ↔ l = [] := by
  cases l with
  | nil => exact iff_of_true rfl rfl
  | cons a l =>
    refine iff_of_false (fun h ↦ ?_) (List.cons_ne_nil a l)
    rw [least] at h
    split at h
    · cases h
    · split at h <;> cases h

/-- The first row comes before every row, if the order is total and transitive. -/
theorem least_le {le : α → α → Bool} (htotal : ∀ a b, le a b = true ∨ le b a = true)
    (htrans : ∀ a b c, le a b = true → le b c = true → le a c = true) {l : List α} {a : α}
    (h : least le l = some a) : ∀ b ∈ l, le a b = true := by
  induction l generalizing a with
  | nil => cases h
  | cons x l ih =>
    have hrefl : le x x = true := (htotal x x).elim id id
    rw [least] at h
    cases hl : least le l with
    | none =>
      rw [hl] at h
      cases h
      rw [least_eq_none.mp hl]
      exact List.forall_mem_singleton.mpr hrefl
    | some c =>
      simp only [hl] at h
      refine List.forall_mem_cons.mpr ?_
      by_cases hle : le x c = true
      · rw [if_pos hle] at h
        cases h
        exact ⟨hrefl, fun b hb ↦ htrans _ _ _ hle (ih hl b hb)⟩
      · rw [if_neg hle] at h
        cases h
        exact ⟨(htotal a x).resolve_right hle, ih hl⟩

end Least

end Table

end ReqSys
