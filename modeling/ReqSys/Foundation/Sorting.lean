import Mathlib.Data.List.Sort
import Mathlib.Data.List.Dedup
import Mathlib.Data.Prod.Lex

/-!
# Sorting and grouping by a key

A sort whose order compares a key in a linear order. Where the key tells the elements of a list
apart, the sorted list depends on the elements alone and not on the order they came in
(`insertionSort_eq_of_perm`). `perm_flatMap_filter` puts a list back together from its groups.

Keys of several components are compared one after the other with `Ordering.then`;
`isLE_then_iff` and `isLE_compare_iff` read such a comparison as an order on keys.
-/

namespace Sorting

variable {α β γ κ : Type*}

/-! ## Comparisons of several components -/

section Compare

variable [LinearOrder α] [LinearOrder β] [LinearOrder γ]

theorem isLE_compare_iff {a a' : α} : (compare a a').isLE = true ↔ a ≤ a' := by
  rw [← Ordering.ne_gt_iff_isLE]
  exact compare_le_iff_le

theorem isLE_then_iff {a a' : α} {o : Ordering} :
    ((compare a a').then o).isLE = true ↔ a < a' ∨ a = a' ∧ o.isLE = true := by
  rcases lt_trichotomy a a' with h | rfl | h
  · rw [compare_lt_iff_lt.mpr h]
    exact iff_of_true rfl (Or.inl h)
  · rw [compare_eq_iff_eq.mpr rfl]
    exact ⟨fun ho ↦ Or.inr ⟨rfl, ho⟩, fun ho ↦ (ho.resolve_left (lt_irrefl a)).2⟩
  · rw [compare_gt_iff_gt.mpr h]
    refine iff_of_false Bool.false_ne_true ?_
    rintro (hlt | ⟨rfl, -⟩)
    · exact lt_asymm h hlt
    · exact lt_irrefl a h

/-- Two components. -/
theorem isLE_then_compare_iff {a a' : α} {b b' : β} :
    ((compare a a').then (compare b b')).isLE = true ↔ toLex (a, b) ≤ toLex (a', b') := by
  rw [isLE_then_iff, isLE_compare_iff, Prod.Lex.toLex_le_toLex]

/-- Three components. -/
theorem isLE_then_then_compare_iff {a a' : α} {b b' : β} {c c' : γ} :
    ((compare a a').then ((compare b b').then (compare c c'))).isLE = true
      ↔ toLex (a, toLex (b, c)) ≤ toLex (a', toLex (b', c')) := by
  rw [isLE_then_iff, isLE_then_compare_iff]
  exact (Prod.Lex.toLex_le_toLex (x := (a, toLex (b, c))) (y := (a', toLex (b', c')))).symm

end Compare

/-! ## Sorting by a key -/

section ByKey

variable [LinearOrder κ] {r : α → α → Prop} [DecidableRel r] {key : α → κ}

theorem pairwise_insertionSort (hr : ∀ a b, r a b ↔ key a ≤ key b) (l : List α) :
    (l.insertionSort r).Pairwise fun a b ↦ key a ≤ key b := by
  have : Std.Total r := ⟨fun a b ↦ by
    rw [hr, hr]
    exact le_total _ _⟩
  have : IsTrans α r := ⟨fun a b c ↦ by
    rw [hr, hr, hr]
    exact le_trans⟩
  exact (List.pairwise_insertionSort r l).imp fun h ↦ (hr _ _).mp h

/-- **A sort by a key that tells the elements apart** forgets the order they came in. -/
theorem insertionSort_eq_of_perm (hr : ∀ a b, r a b ↔ key a ≤ key b) {l l' : List α}
    (hperm : l.Perm l') (hinj : ∀ a ∈ l, ∀ b ∈ l, key a = key b → a = b) :
    l.insertionSort r = l'.insertionSort r := by
  have hsorted : (l.insertionSort r).Perm (l'.insertionSort r) :=
    (List.perm_insertionSort r l).trans (hperm.trans (List.perm_insertionSort r l').symm)
  refine hsorted.eq_of_pairwise ?_ (pairwise_insertionSort hr l) (pairwise_insertionSort hr l')
  intro a b ha hb hab hba
  rw [List.mem_insertionSort] at ha hb
  exact hinj a ha b (hperm.mem_iff.mpr hb) (le_antisymm hab hba)

/-- The first element of a sorted list has the least key. -/
theorem le_of_head?_insertionSort (hr : ∀ a b, r a b ↔ key a ≤ key b) {l : List α} {a b : α}
    (h : (l.insertionSort r).head? = some a) (hb : b ∈ l) : key a ≤ key b := by
  obtain ⟨demais, hcons⟩ : ∃ t, l.insertionSort r = a :: t := by
    cases hl : l.insertionSort r with
    | nil =>
      rw [hl] at h
      cases h
    | cons a' t =>
      rw [hl] at h
      cases h
      exact ⟨t, rfl⟩
  have hsorted := pairwise_insertionSort hr l
  rw [hcons, List.pairwise_cons] at hsorted
  rw [← List.mem_insertionSort r, hcons, List.mem_cons] at hb
  rcases hb with rfl | hb
  · exact le_rfl
  · exact hsorted.1 b hb

/-- The first element of a sorted list is one of the list with the least key. -/
theorem head?_insertionSort_spec (hr : ∀ a b, r a b ↔ key a ≤ key b) {l : List α} (hl : l ≠ []) :
    ∃ a ∈ l, (l.insertionSort r).head? = some a ∧ ∀ b ∈ l, key a ≤ key b := by
  obtain ⟨a, ha⟩ : ∃ a, (l.insertionSort r).head? = some a := by
    cases hsort : l.insertionSort r with
    | nil =>
      have hlen := List.length_insertionSort r l
      rw [hsort] at hlen
      exact absurd (List.eq_nil_of_length_eq_zero hlen.symm) hl
    | cons a t => exact ⟨a, rfl⟩
  refine ⟨a, ?_, ha, fun b hb ↦ le_of_head?_insertionSort hr ha hb⟩
  exact (List.mem_insertionSort r).mp (List.mem_of_head? ha)

/-- The first element with a property in a sorted list has the least key among those with it. -/
theorem find?_insertionSort_spec (hr : ∀ a b, r a b ↔ key a ≤ key b) {l : List α} {p : α → Bool}
    {a : α} (h : (l.insertionSort r).find? p = some a) :
    a ∈ l ∧ p a = true ∧ ∀ b ∈ l, p b = true → key a ≤ key b := by
  refine ⟨(List.mem_insertionSort r).mp (List.mem_of_find?_eq_some h), List.find?_some h,
    fun b hb hpb ↦ ?_⟩
  obtain ⟨-, before, after, hsort, hbefore⟩ := List.find?_eq_some_iff_append.mp h
  have hsorted := pairwise_insertionSort hr l
  rw [← List.mem_insertionSort r, hsort, List.mem_append, List.mem_cons] at hb
  rcases hb with hb | rfl | hb
  · have := hbefore b hb
    rw [hpb] at this
    cases this
  · exact le_rfl
  · rw [hsort, List.pairwise_append, List.pairwise_cons] at hsorted
    exact hsorted.2.1.1 b hb

end ByKey

/-! ## Strictly sorted lists -/

section Strict

variable [LinearOrder κ] {key : α → κ} {l : List α}

/-- An element is among the first `n` if fewer than `n` come before it. -/
theorem mem_take_iff (hl : l.Pairwise fun a b ↦ key a < key b) {n : ℕ} {a : α} :
    a ∈ l.take n ↔ a ∈ l ∧ (l.filter fun b ↦ decide (key b < key a)).length < n := by
  induction l generalizing n with
  | nil => simp
  | cons x l ih =>
    obtain ⟨hx, hl⟩ := List.pairwise_cons.mp hl
    cases n with
    | zero => simp
    | succ n =>
      rw [List.take_succ_cons, List.mem_cons, List.mem_cons, ih hl]
      constructor
      · rintro (rfl | ⟨ha, hlen⟩)
        · -- nothing comes before the first element
          refine ⟨Or.inl rfl, ?_⟩
          rw [List.filter_eq_nil_iff.mpr]
          · exact Nat.succ_pos n
          · intro b hb
            rw [decide_eq_true_iff, not_lt]
            rcases List.mem_cons.mp hb with rfl | hb
            · exact le_rfl
            · exact (hx b hb).le
        · refine ⟨Or.inr ha, ?_⟩
          rw [List.filter_cons_of_pos (p := fun b ↦ decide (key b < key a))
            (decide_eq_true (hx a ha)), List.length_cons]
          exact Nat.succ_lt_succ hlen
      · rintro ⟨rfl | ha, hlen⟩
        · exact Or.inl rfl
        · rw [List.filter_cons_of_pos (p := fun b ↦ decide (key b < key a))
            (decide_eq_true (hx a ha)), List.length_cons] at hlen
          exact Or.inr ⟨ha, Nat.succ_lt_succ_iff.mp hlen⟩

/-- Moving the elements with a property to the front of a sorted list changes what is found first
exactly when something is found in an element without the property, before every find in one with
it, of which there is at least one. -/
theorem findSome?_filter_append_iff (hl : l.Pairwise fun a b ↦ key a < key b) (p : α → Bool)
    {f : α → Option β} (hf : ∀ a ∈ l, ∀ b ∈ l, ∀ v, f a = some v → f b = some v → a = b) :
    (l.filter p ++ l.filter fun a ↦ !p a).findSome? f = l.findSome? f ↔
      ∀ b ∈ l, p b = false → (f b).isSome = true → (∃ a ∈ l, p a = true ∧ (f a).isSome = true) →
        ∃ a ∈ l, p a = true ∧ (f a).isSome = true ∧ key a < key b := by
  induction l with
  | nil => simp
  | cons x l ih =>
    obtain ⟨hx, hl⟩ := List.pairwise_cons.mp hl
    have ih := ih hl fun a ha b hb ↦ hf a (List.mem_cons_of_mem x ha) b (List.mem_cons_of_mem x hb)
    rcases hfx : f x with _ | v
    · -- where nothing is found at the first element, it plays no part
      have hskip : ((x :: l).filter p ++ (x :: l).filter fun a ↦ !p a).findSome? f
          = (l.filter p ++ l.filter fun a ↦ !p a).findSome? f := by
        cases hp : p x with
        | true => simp [hp, hfx]
        | false => simp [hp, hfx, List.findSome?_append]
      rw [hskip, List.findSome?_cons, hfx, ih]
      simp [hfx]
    · rw [List.findSome?_cons, hfx]
      cases hp : p x with
      | true =>
        refine iff_of_true (by simp [hp, hfx]) ?_
        intro b hb hpb _ _
        refine ⟨x, List.mem_cons_self, hp, by rw [hfx]; rfl, hx b ?_⟩
        refine (List.mem_cons.mp hb).resolve_left ?_
        rintro rfl
        rw [hp] at hpb
        cases hpb
      | false =>
        have hsplit : ((x :: l).filter p ++ (x :: l).filter fun a ↦ !p a).findSome? f
            = ((l.filter p).findSome? f).or (some v) := by
          simp [hp, hfx, List.findSome?_append]
        rw [hsplit]
        constructor
        · intro h b hb hpb _ hex
          -- a find with the property would be found instead of the first element's
          obtain ⟨a, ha, hpa, hfa⟩ := hex
          have ha : a ∈ l := by
            refine (List.mem_cons.mp ha).resolve_left ?_
            rintro rfl
            rw [hp] at hpa
            cases hpa
          rcases hfound : (l.filter p).findSome? f with _ | w
          · have hnone := List.findSome?_eq_none_iff.mp hfound a (List.mem_filter.mpr ⟨ha, hpa⟩)
            rw [hnone] at hfa
            cases hfa
          · rw [hfound] at h
            cases h
            obtain ⟨a', ha', hfa'⟩ := List.exists_of_findSome?_eq_some hfound
            have ha' := List.mem_filter.mp ha'
            obtain rfl := hf x List.mem_cons_self a' (List.mem_cons_of_mem x ha'.1) v hfx hfa'
            rw [hp] at ha'
            cases ha'.2
        · intro h
          rcases hfound : (l.filter p).findSome? f with _ | w
          · rfl
          · obtain ⟨a, ha, hfa⟩ := List.exists_of_findSome?_eq_some hfound
            have ha := List.mem_filter.mp ha
            obtain ⟨a', ha', -, -, hlt⟩ := h x List.mem_cons_self hp (by rw [hfx]; rfl)
              ⟨a, List.mem_cons_of_mem x ha.1, ha.2, by rw [hfa]; rfl⟩
            rcases List.mem_cons.mp ha' with rfl | ha'
            · exact absurd hlt (lt_irrefl _)
            · exact absurd hlt (hx a' ha').not_gt

end Strict

/-! ## Grouping by a key -/

/-- Taking a list apart by a decidable property and putting the parts one after the other. -/
theorem perm_filter_append {p q : α → Bool} {l : List α} (h : ∀ a ∈ l, p a = true → q a = false) :
    (l.filter p ++ l.filter q).Perm (l.filter fun a ↦ p a || q a) := by
  induction l with
  | nil => exact List.Perm.refl _
  | cons a l ih =>
    have ih := ih fun b hb ↦ h b (List.mem_cons_of_mem a hb)
    by_cases hp : p a = true
    · have hq := h a List.mem_cons_self hp
      rw [List.filter_cons_of_pos hp,
        List.filter_cons_of_neg (by rw [hq]; exact Bool.false_ne_true),
        List.filter_cons_of_pos (by rw [hp]; rfl), List.cons_append]
      exact ih.cons a
    · by_cases hq : q a = true
      · rw [List.filter_cons_of_neg hp, List.filter_cons_of_pos hq,
          List.filter_cons_of_pos (by rw [hq, Bool.or_true])]
        exact List.perm_middle.trans (ih.cons a)
      · rw [List.filter_cons_of_neg hp, List.filter_cons_of_neg hq,
          List.filter_cons_of_neg (by simp [hp, hq])]
        exact ih

/-- **A list is put together from its groups**, whatever the order of the keys. -/
theorem perm_flatMap_filter [DecidableEq κ] {key : α → κ} {ks : List κ} (hks : ks.Nodup)
    (l : List α) :
    (ks.flatMap fun k ↦ l.filter fun a ↦ key a = k).Perm
      (l.filter fun a ↦ ks.contains (key a)) := by
  induction ks with
  | nil => simp
  | cons k ks ih =>
    rw [List.nodup_cons] at hks
    rw [List.flatMap_cons]
    refine ((ih hks.2).append_left _).trans ?_
    refine (perm_filter_append fun a _ ha ↦ ?_).trans (List.Perm.of_eq ?_)
    · rw [of_decide_eq_true ha, ← Bool.not_eq_true, List.contains_iff_mem]
      exact hks.1
    · refine List.filter_congr fun a _ ↦ ?_
      rw [List.contains_cons]
      rfl

end Sorting
