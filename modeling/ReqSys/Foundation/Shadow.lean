import Mathlib.Algebra.Order.Group.Multiset
import Mathlib.Data.List.Sort
import ReqSys.Foundation.Table

/-!
# Dictionaries from lists, and their differences

A list is indexed by a key. If several items have the same key, the last one is in the dictionary:
it hides the others, and what is said about the dictionary says nothing about them.

`diff` lists what two dictionaries do not have in common. Of two lists it gives the differences of
what is visible. These are the differences of the lists if and only if both hide the same items
(`before_eq_sub_and_after_eq_sub_iff`).
-/

namespace ReqSys

namespace Table

/-! ## Visible and hidden items -/

section Visible

variable {κ α : Type} [DecidableEq κ] {key : α → κ}

/-- `{key(x): x for x in items}`. -/
def index (key : α → κ) (items : List α) : List (κ × α) :=
  merge [] (items.map fun x ↦ (key x, x))

/-- The items that are in the dictionary: the last ones of their keys. -/
def visible (key : α → κ) : List α → List α
  | [] => []
  | x :: xs => if xs.any (key · = key x) then visible key xs else x :: visible key xs

/-- The items that later ones hide. -/
def hidden (key : α → κ) : List α → List α
  | [] => []
  | x :: xs => if xs.any (key · = key x) then x :: hidden key xs else hidden key xs

example (x : α) : visible key [x] = [x] ∧ hidden key [x] = [] := by simp [visible, hidden]

theorem perm_visible_hidden (key : α → κ) (items : List α) :
    items.Perm (visible key items ++ hidden key items) := by
  induction items with
  | nil => exact .refl _
  | cons x xs ih =>
    rw [visible, hidden]
    split
    · exact (ih.cons x).trans List.perm_middle.symm
    · exact ih.cons x

theorem mem_of_mem_visible {items : List α} {x : α} (h : x ∈ visible key items) : x ∈ items :=
  (perm_visible_hidden key items).mem_iff.mpr (List.mem_append_left _ h)

/-- Every key has a last item. -/
theorem exists_mem_visible (key : α → κ) {items : List α} {x : α} (h : x ∈ items) :
    ∃ y ∈ visible key items, key y = key x := by
  induction items generalizing x with
  | nil => exact absurd h List.not_mem_nil
  | cons z xs ih =>
    rw [visible]
    split
    next hlater =>
      obtain rfl | h := List.mem_cons.mp h
      · obtain ⟨y, hy, hkey⟩ := List.any_eq_true.mp hlater
        obtain ⟨y', hy', hkey'⟩ := ih hy
        exact ⟨y', hy', hkey'.trans (of_decide_eq_true hkey)⟩
      · exact ih h
    next =>
      obtain rfl | h := List.mem_cons.mp h
      · exact ⟨x, List.mem_cons_self, rfl⟩
      · obtain ⟨y, hy, hkey⟩ := ih h
        exact ⟨y, List.mem_cons_of_mem _ hy, hkey⟩

theorem keyed_visible (key : α → κ) (items : List α) : Keyed key (visible key items) := by
  induction items with
  | nil => exact List.nodup_nil
  | cons x xs ih =>
    rw [visible]
    split
    · exact ih
    next hlast =>
      rw [Keyed, List.map_cons, List.nodup_cons]
      refine ⟨fun hmem ↦ hlast ?_, ih⟩
      obtain ⟨y, hy, hkey⟩ := List.mem_map.mp hmem
      exact List.any_eq_true.mpr ⟨y, mem_of_mem_visible hy, decide_eq_true hkey⟩

/-- Where no two items have the same key nothing is hidden. -/
theorem visible_of_keyed {items : List α} (h : Keyed key items) : visible key items = items := by
  induction items with
  | nil => rfl
  | cons x xs ih =>
    rw [Keyed, List.map_cons, List.nodup_cons] at h
    rw [visible, if_neg, ih h.2]
    intro hlater
    obtain ⟨y, hy, hkey⟩ := List.any_eq_true.mp hlater
    exact h.1 (List.mem_map.mpr ⟨y, hy, of_decide_eq_true hkey⟩)

theorem lookup_cons {k : κ} {x : α} {xs : List α} :
    lookup key k (x :: xs) = if key x = k then some x else lookup key k xs := by
  rw [lookup, List.find?_cons]
  by_cases hk : key x = k
  · rw [decide_eq_true hk, if_pos hk]
  · rw [decide_eq_false hk, if_neg hk, lookup]

theorem get?_merge_index (items : List α) (d : List (κ × α)) (k : κ) :
    get? k (merge d (items.map fun x ↦ (key x, x)))
      = (lookup key k (visible key items)).or (get? k d) := by
  induction items generalizing d with
  | nil => rfl
  | cons x xs ih =>
    change get? k (merge (put d (key x, x)) (xs.map fun x ↦ (key x, x))) = _
    rw [ih, get?_put, visible]
    dsimp only
    by_cases hlater : (xs.any (key · = key x)) = true
    · rw [if_pos hlater]
      by_cases hk : k = key x
      · -- a later item has the key
        obtain ⟨y, hy, hkey⟩ := List.any_eq_true.mp hlater
        obtain ⟨y', hy', hkey'⟩ := exists_mem_visible key hy
        obtain ⟨r, hr⟩ : ∃ r, lookup key (key x) (visible key xs) = some r :=
          exists_lookup hy' (hkey'.trans (of_decide_eq_true hkey))
        rw [hk, hr, Option.some_or, Option.some_or]
      · rw [if_neg hk]
    · rw [if_neg hlater]
      by_cases hk : k = key x
      · have hnone : lookup key k (visible key xs) = none := by
          rw [lookup, List.find?_eq_none]
          intro y hy hkey
          refine hlater (List.any_eq_true.mpr ⟨y, mem_of_mem_visible hy, decide_eq_true ?_⟩)
          exact (of_decide_eq_true hkey).trans hk
        rw [hnone, Option.none_or, if_pos hk, lookup_cons, if_pos hk.symm, Option.some_or]
      · rw [if_neg hk, lookup_cons, if_neg (Ne.symm hk)]

/-- The dictionary has the visible items. -/
theorem get?_index {items : List α} {k : κ} {x : α} :
    get? k (index key items) = some x ↔ x ∈ visible key items ∧ key x = k := by
  rw [index, get?_merge_index, show get? k ([] : List (κ × α)) = none from rfl, Option.or_none]
  constructor
  · exact fun h ↦ ⟨mem_of_lookup h, key_of_lookup h⟩
  · rintro ⟨hx, rfl⟩
    exact (keyed_visible key items).lookup_of_mem hx

theorem mem_keys_index {items : List α} {k : κ} :
    k ∈ (index key items).map Prod.fst ↔ ∃ x ∈ items, key x = k := by
  rw [← isSome_get?, Option.isSome_iff_exists]
  constructor
  · rintro ⟨x, hx⟩
    obtain ⟨hx, hkey⟩ := get?_index.mp hx
    exact ⟨x, mem_of_mem_visible hx, hkey⟩
  · rintro ⟨x, hx, rfl⟩
    obtain ⟨y, hy, hkey⟩ := exists_mem_visible key hx
    exact ⟨y, get?_index.mpr ⟨hy, hkey⟩⟩

theorem keyed_merge {d : List (κ × α)} (hd : Keyed Prod.fst d) (d' : List (κ × α)) :
    Keyed Prod.fst (merge d d') := by
  induction d' generalizing d with
  | nil => exact hd
  | cons e d' ih => exact ih (hd.put e)

theorem keyed_index (key : α → κ) (items : List α) : Keyed Prod.fst (index key items) :=
  keyed_merge (d := []) List.nodup_nil _

end Visible

/-! ## Differences -/

/-- What is in the second of two dictionaries and not in the first, the other way round, and what is
in both with another value. -/
structure Diff (α : Type) where
  added : List α
  removed : List α
  changed : List (String × α × α)

section Diff

variable {α β : Type}

/-- The keys in ascending order. -/
def sortedKeys (keys : List String) : List String := keys.insertionSort (· ≤ ·)

/-- The two values of a key, if they differ. -/
def changedAt (eq : α → α → Bool) (b t : List (String × α)) (k : String) :
    Option (String × α × α) :=
  match get? k b, get? k t with
  | some x, some y => if eq x y then none else some (k, x, y)
  | _, _ => none

/-- The differences of two dictionaries. -/
def diff (eq : α → α → Bool) (b t : List (String × α)) : Diff α :=
  let baseKeys := b.map Prod.fst
  let targetKeys := t.map Prod.fst
  { added := (sortedKeys (targetKeys.filter (· ∉ baseKeys))).filterMap (get? · t)
    removed := (sortedKeys (baseKeys.filter (· ∉ targetKeys))).filterMap (get? · b)
    changed := (sortedKeys (baseKeys.filter (· ∈ targetKeys))).filterMap (changedAt eq b t) }

namespace Diff

/-- How many differences there are. -/
def size (d : Diff α) : ℕ := d.added.length + d.removed.length + d.changed.length

/-- What the first dictionary has and the second has not. -/
def before (d : Diff α) : List α := d.removed ++ d.changed.map fun c ↦ c.2.1

/-- What the second dictionary has and the first has not. -/
def after (d : Diff α) : List α := d.added ++ d.changed.map fun c ↦ c.2.2

/-- The differences, with the items as `f` writes them. -/
def map (f : α → β) (d : Diff α) : Diff β where
  added := d.added.map f
  removed := d.removed.map f
  changed := d.changed.map fun c ↦ (c.1, f c.2.1, f c.2.2)

@[simp]
theorem size_map (f : α → β) (d : Diff α) : (d.map f).size = d.size := by
  simp [size, map]

theorem map_injective {f : α → β} (hf : Function.Injective f) :
    Function.Injective (map f) := by
  rintro ⟨added, removed, changed⟩ ⟨added', removed', changed'⟩ h
  simp only [map, mk.injEq] at h
  obtain ⟨ha, hr, hc⟩ := h
  have hchanged : Function.Injective fun c : String × α × α ↦ (c.1, f c.2.1, f c.2.2) := by
    rintro ⟨k, x, y⟩ ⟨k', x', y'⟩ h
    simp only [Prod.mk.injEq] at h
    rw [h.1, hf h.2.1, hf h.2.2]
  rw [hf.list_map ha, hf.list_map hr, hchanged.list_map hc]

theorem size_eq_zero {d : Diff α} : d.size = 0 ↔ d.before = [] ∧ d.after = [] := by
  simp only [size, before, after, Nat.add_eq_zero_iff, List.length_eq_zero_iff,
    List.append_eq_nil_iff, List.map_eq_nil_iff]
  tauto

end Diff

/-! ### Written items -/

section Written

variable {κ : Type} [DecidableEq κ] (f : α → β)

theorem map_put (d : List (κ × α)) (e : κ × α) :
    (put d e).map (Prod.map id f) = put (d.map (Prod.map id f)) (Prod.map id f e) := by
  have hlookup : (lookup Prod.fst e.1 (d.map (Prod.map id f))).isSome
      = (lookup Prod.fst e.1 d).isSome := by
    rw [lookup, lookup, List.find?_map, Option.isSome_map]
    rfl
  rw [put, put, upsert, upsert, show (Prod.map id f e).1 = e.1 from rfl, hlookup]
  split
  · rw [update, update, List.map_map, List.map_map]
    refine List.map_congr_left fun x _ ↦ ?_
    rw [Function.comp_apply, Function.comp_apply, apply_ite (Prod.map id f)]
    rfl
  · rw [List.map_append]
    rfl

theorem map_merge (d d' : List (κ × α)) :
    (merge d d').map (Prod.map id f)
      = merge (d.map (Prod.map id f)) (d'.map (Prod.map id f)) := by
  induction d' generalizing d with
  | nil => rfl
  | cons e d' ih => rw [merge, List.foldl_cons, ← merge, ih, map_put]; rfl

theorem get?_map (k : κ) (d : List (κ × α)) :
    get? k (d.map (Prod.map id f)) = (get? k d).map f := by
  rw [get?, get?, lookup, lookup, List.find?_map, Option.map_map, Option.map_map]
  rfl

theorem diff_map (eq : β → β → Bool) (b t : List (String × α)) :
    diff eq (b.map (Prod.map id f)) (t.map (Prod.map id f))
      = (diff (fun x y ↦ eq (f x) (f y)) b t).map f := by
  have hkeys : ∀ d : List (String × α), (d.map (Prod.map id f)).map Prod.fst = d.map Prod.fst := by
    intro d
    rw [List.map_map]
    rfl
  have hget : ∀ d : List (String × α), (fun k ↦ get? k (d.map (Prod.map id f)))
      = fun k ↦ (get? k d).map f := fun d ↦ funext fun k ↦ get?_map f k d
  have hchanged : changedAt eq (b.map (Prod.map id f)) (t.map (Prod.map id f))
      = fun k ↦ (changedAt (fun x y ↦ eq (f x) (f y)) b t k).map
          fun c ↦ (c.1, f c.2.1, f c.2.2) := by
    funext k
    rw [changedAt, changedAt, get?_map, get?_map]
    cases get? k b with
    | none => rfl
    | some x =>
      cases get? k t with
      | none => rfl
      | some y =>
        rw [Option.map_some, Option.map_some]
        dsimp only
        split <;> rfl
  rw [diff, Diff.map, diff, hkeys, hkeys, hget, hget, hchanged]
  simp only [List.map_filterMap]

end Written

/-! ### Two lists -/

variable {key : α → String} {eq : α → α → Bool} {base target : List α}

theorem mem_sortedKeys {keys : List String} {k : String} : k ∈ sortedKeys keys ↔ k ∈ keys :=
  List.mem_insertionSort _

theorem mem_added {y : α} : y ∈ (diff eq (index key base) (index key target)).added ↔
    y ∈ visible key target ∧ ∀ x ∈ base, key x ≠ key y := by
  simp only [diff, List.mem_filterMap, mem_sortedKeys, List.mem_filter, decide_eq_true_eq,
    mem_keys_index, get?_index]
  constructor
  · rintro ⟨_, ⟨-, hbase⟩, hy, rfl⟩
    exact ⟨hy, fun x hx hkey ↦ hbase ⟨x, hx, hkey⟩⟩
  · rintro ⟨hy, hbase⟩
    refine ⟨key y, ⟨⟨y, mem_of_mem_visible hy, rfl⟩, ?_⟩, hy, rfl⟩
    rintro ⟨x, hx, hkey⟩
    exact hbase x hx hkey

theorem mem_removed {x : α} : x ∈ (diff eq (index key base) (index key target)).removed ↔
    x ∈ visible key base ∧ ∀ y ∈ target, key y ≠ key x := @mem_added _ _ eq _ _ _

theorem changedAt_eq_some {k k' : String} {x y : α} :
    changedAt eq (index key base) (index key target) k' = some (k, x, y) ↔
      k' = k ∧ x ∈ visible key base ∧ y ∈ visible key target ∧ key x = k ∧ key y = k ∧
        eq x y = false := by
  rw [changedAt]
  constructor
  · intro h
    rcases hx : get? k' (index key base) with _ | x' <;> rw [hx] at h
    · cases h
    rcases hy : get? k' (index key target) with _ | y' <;> rw [hy] at h
    · cases h
    dsimp only at h
    split at h
    · cases h
    next heq =>
      cases h
      obtain ⟨hx, hkx⟩ := get?_index.mp hx
      obtain ⟨hy, hky⟩ := get?_index.mp hy
      exact ⟨rfl, hx, hy, hkx, hky, Bool.eq_false_iff.mpr heq⟩
  · rintro ⟨rfl, hx, hy, hkx, hky, heq⟩
    rw [get?_index.mpr ⟨hx, hkx⟩, get?_index.mpr ⟨hy, hky⟩]
    dsimp only
    rw [heq, if_neg Bool.false_ne_true]

theorem mem_changed {k : String} {x y : α} :
    (k, x, y) ∈ (diff eq (index key base) (index key target)).changed ↔
      x ∈ visible key base ∧ y ∈ visible key target ∧ key x = k ∧ key y = k ∧ eq x y = false := by
  simp only [diff, List.mem_filterMap, mem_sortedKeys, List.mem_filter, decide_eq_true_eq,
    mem_keys_index, changedAt_eq_some]
  constructor
  · rintro ⟨k', -, -, h⟩
    exact h
  · rintro ⟨hx, hy, hkx, hky, heq⟩
    exact ⟨k, ⟨⟨x, mem_of_mem_visible hx, hkx⟩, y, mem_of_mem_visible hy, hky⟩, rfl, hx, hy, hkx,
      hky, heq⟩

/-- There are no differences where every key has the same value, or none, in both. -/
theorem size_eq_zero_iff_rel : (diff eq (index key base) (index key target)).size = 0 ↔
    ∀ k, Option.Rel (fun x y ↦ eq x y = true) (lookup key k (visible key base))
      (lookup key k (visible key target)) := by
  rw [Diff.size, Nat.add_eq_zero_iff, Nat.add_eq_zero_iff, List.length_eq_zero_iff,
    List.length_eq_zero_iff, List.length_eq_zero_iff, List.eq_nil_iff_forall_not_mem,
    List.eq_nil_iff_forall_not_mem, List.eq_nil_iff_forall_not_mem]
  constructor
  · rintro ⟨⟨hadded, hremoved⟩, hchanged⟩ k
    rcases hx : lookup key k (visible key base) with _ | x <;>
      rcases hy : lookup key k (visible key target) with _ | y
    · exact .none
    · refine absurd (mem_added.mpr ⟨mem_of_lookup hy, fun x hx' hkx ↦ ?_⟩) (hadded y)
      obtain ⟨x', hx', hkx'⟩ := exists_mem_visible key hx'
      exact ne_key_of_lookup_none hx hx' (hkx'.trans (hkx.trans (key_of_lookup hy)))
    · refine absurd (mem_removed.mpr ⟨mem_of_lookup hx, fun y hy' hky ↦ ?_⟩) (hremoved x)
      obtain ⟨y', hy', hky'⟩ := exists_mem_visible key hy'
      exact ne_key_of_lookup_none hy hy' (hky'.trans (hky.trans (key_of_lookup hx)))
    · refine .some (Bool.of_not_eq_false fun hne ↦ hchanged (k, x, y) ?_)
      exact mem_changed.mpr ⟨mem_of_lookup hx, mem_of_lookup hy, key_of_lookup hx,
        key_of_lookup hy, hne⟩
  · intro h
    refine ⟨⟨fun y hy ↦ ?_, fun x hx ↦ ?_⟩, ?_⟩
    · obtain ⟨hy, hbase⟩ := mem_added.mp hy
      have hrel := h (key y)
      rw [(keyed_visible key target).lookup_of_mem hy] at hrel
      rcases hx : lookup key (key y) (visible key base) with _ | x <;> rw [hx] at hrel
      · cases hrel
      · exact hbase x (mem_of_mem_visible (mem_of_lookup hx)) (key_of_lookup hx)
    · obtain ⟨hx, htarget⟩ := mem_removed.mp hx
      have hrel := h (key x)
      rw [(keyed_visible key base).lookup_of_mem hx] at hrel
      rcases hy : lookup key (key x) (visible key target) with _ | y <;> rw [hy] at hrel
      · cases hrel
      · exact htarget y (mem_of_mem_visible (mem_of_lookup hy)) (key_of_lookup hy)
    · rintro ⟨k, x, y⟩ hc
      obtain ⟨hx, hy, rfl, hky, hne⟩ := mem_changed.mp hc
      have hrel := h (key x)
      rw [(keyed_visible key base).lookup_of_mem hx, ← hky,
        (keyed_visible key target).lookup_of_mem hy] at hrel
      cases hrel with
      | some heq => exact Bool.false_ne_true (hne.symm.trans heq)

theorem nodup_sortedKeys {keys : List String} (h : keys.Nodup) : (sortedKeys keys).Nodup :=
  (List.perm_insertionSort _ keys).nodup_iff.mpr h

/-- Each key has one item. -/
theorem nodup_filterMap_keys (key : α → String) {keys : List String} (hkeys : keys.Nodup) {f : String → Option α}
    (hf : ∀ k x, f k = some x → key x = k) : ((sortedKeys keys).filterMap f).Nodup :=
  (nodup_sortedKeys hkeys).filterMap fun k k' x hx hx' ↦ (hf k x hx).symm.trans (hf k' x hx')

theorem nodup_keys (items : List α) (p : String → Bool) :
    (((index key items).map Prod.fst).filter p).Nodup := (keyed_index key items).filter p

theorem nodup_before : (diff eq (index key base) (index key target)).before.Nodup := by
  refine List.nodup_append.mpr ⟨?_, ?_, ?_⟩
  · exact nodup_filterMap_keys key (nodup_keys base _) fun k x hx ↦ (get?_index.mp hx).2
  · rw [diff, List.map_filterMap]
    refine nodup_filterMap_keys key (nodup_keys base _) fun k x hx ↦ ?_
    obtain ⟨⟨k', x', y⟩, hc, rfl⟩ := Option.map_eq_some_iff.mp hx
    obtain ⟨rfl, -, -, hkx, -, -⟩ := changedAt_eq_some.mp hc
    exact hkx
  · intro x hx x' hx'
    obtain ⟨⟨k, x'', y⟩, hc, rfl⟩ := List.mem_map.mp hx'
    obtain ⟨-, hy, hkx, hky, -⟩ := mem_changed.mp hc
    rintro rfl
    exact (mem_removed.mp hx).2 y (mem_of_mem_visible hy) (hky.trans hkx.symm)

theorem nodup_after : (diff eq (index key base) (index key target)).after.Nodup := by
  refine List.nodup_append.mpr ⟨?_, ?_, ?_⟩
  · exact nodup_filterMap_keys key (nodup_keys target _) fun k x hx ↦ (get?_index.mp hx).2
  · rw [diff, List.map_filterMap]
    refine nodup_filterMap_keys key (nodup_keys base _) fun k y hy ↦ ?_
    obtain ⟨⟨k', x, y'⟩, hc, rfl⟩ := Option.map_eq_some_iff.mp hy
    obtain ⟨rfl, -, -, -, hky, -⟩ := changedAt_eq_some.mp hc
    exact hky
  · intro y hy y' hy'
    obtain ⟨⟨k, x, y''⟩, hc, rfl⟩ := List.mem_map.mp hy'
    obtain ⟨hx, -, hkx, hky, -⟩ := mem_changed.mp hc
    rintro rfl
    exact (mem_added.mp hy).2 x (mem_of_mem_visible hx) (hkx.trans hky.symm)

/-! ### Multisets -/

theorem mem_before (heq : ∀ x y, eq x y = true ↔ x = y) {x : α} :
    x ∈ (diff eq (index key base) (index key target)).before ↔
      x ∈ visible key base ∧ x ∉ visible key target := by
  rw [Diff.before, List.mem_append, List.mem_map, mem_removed]
  constructor
  · rintro (⟨hx, htarget⟩ | ⟨⟨k, x', y⟩, hc, rfl⟩)
    · exact ⟨hx, fun hx' ↦ htarget x (mem_of_mem_visible hx') rfl⟩
    · obtain ⟨hx, hy, hkx, hky, hne⟩ := mem_changed.mp hc
      refine ⟨hx, fun hx' ↦ ?_⟩
      -- the two values of a key are one item
      have : x' = y := (keyed_visible key target).eq_of_key_eq hx' hy (hkx.trans hky.symm)
      rw [(heq x' y).mpr this] at hne
      cases hne
  · rintro ⟨hx, hx'⟩
    by_cases hkey : ∃ y ∈ target, key y = key x
    · obtain ⟨y, hy, hkey⟩ := hkey
      obtain ⟨y', hy', hkey'⟩ := exists_mem_visible key hy
      refine .inr ⟨(key x, x, y'), mem_changed.mpr ⟨hx, hy', rfl, hkey'.trans hkey, ?_⟩, rfl⟩
      rw [Bool.eq_false_iff, Ne, heq]
      rintro rfl
      exact hx' hy'
    · exact .inl ⟨hx, fun y hy hky ↦ hkey ⟨y, hy, hky⟩⟩

theorem mem_after (heq : ∀ x y, eq x y = true ↔ x = y) {y : α} :
    y ∈ (diff eq (index key base) (index key target)).after ↔
      y ∈ visible key target ∧ y ∉ visible key base := by
  rw [Diff.after, List.mem_append, List.mem_map, mem_added]
  constructor
  · rintro (⟨hy, hbase⟩ | ⟨⟨k, x, y'⟩, hc, rfl⟩)
    · exact ⟨hy, fun hy' ↦ hbase y (mem_of_mem_visible hy') rfl⟩
    · obtain ⟨hx, hy, hkx, hky, hne⟩ := mem_changed.mp hc
      refine ⟨hy, fun hy' ↦ ?_⟩
      have : x = y' := (keyed_visible key base).eq_of_key_eq hx hy' (hkx.trans hky.symm)
      rw [(heq x y').mpr this] at hne
      cases hne
  · rintro ⟨hy, hy'⟩
    by_cases hkey : ∃ x ∈ base, key x = key y
    · obtain ⟨x, hx, hkey⟩ := hkey
      obtain ⟨x', hx', hkey'⟩ := exists_mem_visible key hx
      refine .inr ⟨(key y, x', y), mem_changed.mpr ⟨hx', hy, hkey'.trans hkey, rfl, ?_⟩, rfl⟩
      rw [Bool.eq_false_iff, Ne, heq]
      rintro rfl
      exact hy' hx'
    · exact .inl ⟨hy, fun x hx hkx ↦ hkey ⟨x, hx, hkx⟩⟩

variable [DecidableEq α]

theorem coe_before (heq : ∀ x y, eq x y = true ↔ x = y) :
    ((diff eq (index key base) (index key target)).before : Multiset α)
      = (visible key base : Multiset α) - (visible key target : Multiset α) := by
  have hnodup : (visible key base : Multiset α).Nodup := (keyed_visible key base).of_map
  refine (Multiset.Nodup.ext (Multiset.coe_nodup.mpr nodup_before)
    (Multiset.nodup_of_le (Multiset.sub_le_self _ _) hnodup)).mpr ?_
  intro x
  rw [Multiset.mem_sub_of_nodup hnodup]
  exact mem_before heq

theorem coe_after (heq : ∀ x y, eq x y = true ↔ x = y) :
    ((diff eq (index key base) (index key target)).after : Multiset α)
      = (visible key target : Multiset α) - (visible key base : Multiset α) := by
  have hnodup : (visible key target : Multiset α).Nodup := (keyed_visible key target).of_map
  refine (Multiset.Nodup.ext (Multiset.coe_nodup.mpr nodup_after)
    (Multiset.nodup_of_le (Multiset.sub_le_self _ _) hnodup)).mpr ?_
  intro x
  rw [Multiset.mem_sub_of_nodup hnodup]
  exact mem_after heq

/-- **The differences of the dictionaries are those of the lists** if and only if both lists hide
the same items. -/
theorem before_eq_sub_and_after_eq_sub_iff (heq : ∀ x y, eq x y = true ↔ x = y) :
    ((diff eq (index key base) (index key target)).before : Multiset α)
        = (base : Multiset α) - (target : Multiset α) ∧
      ((diff eq (index key base) (index key target)).after : Multiset α)
        = (target : Multiset α) - (base : Multiset α) ↔
      (hidden key base).Perm (hidden key target) := by
  rw [coe_before heq, coe_after heq, ← Multiset.coe_eq_coe]
  have hcoe : ∀ items : List α, (items : Multiset α)
      = (visible key items : Multiset α) + (hidden key items : Multiset α) := by
    intro items
    rw [Multiset.coe_add]
    exact Multiset.coe_eq_coe.mpr (perm_visible_hidden key items)
  rw [hcoe base, hcoe target]
  generalize (visible key base : Multiset α) = b
  generalize (visible key target : Multiset α) = t
  generalize (hidden key base : Multiset α) = m
  generalize (hidden key target : Multiset α) = n
  constructor
  · rintro ⟨hbefore, hafter⟩
    -- both sides of the union of the lists
    have hunion : b - t + (t + n) = t - b + (b + m) := by
      rw [hbefore, hafter, ← Multiset.union_def, ← Multiset.union_def, Multiset.union_comm]
    have hvisible : b - t + t = t - b + b := by
      rw [← Multiset.union_def, ← Multiset.union_def, Multiset.union_comm]
    rw [← add_assoc, ← add_assoc, hvisible] at hunion
    exact (add_left_cancel hunion).symm
  · rintro rfl
    exact ⟨(add_tsub_add_eq_tsub_right b m t).symm, (add_tsub_add_eq_tsub_right t m b).symm⟩

end Diff

end Table

end ReqSys
