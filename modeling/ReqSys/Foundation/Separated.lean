import Mathlib.Data.List.Basic

/-!
# Texts joined by a separator

Fields joined by a separator can be told apart again as long as one knows how often the separator
occurs inside each of them: where two joins agree, the fields agree exactly when these counts do
(`eq_of_joined`). For fields without the separator the join is injective.
-/

namespace ReqSys

namespace Separated

variable {α : Type*} {sep : α}

/-- What stands before and after a separator, once one knows which of them it is. -/
theorem append_cons_inj [DecidableEq α] {l l' r r' : List α} (h : l ++ sep :: r = l' ++ sep :: r')
    (hcount : l.count sep = l'.count sep) : l = l' ∧ r = r' := by
  induction l generalizing l' with
  | nil =>
    cases l' with
    | nil => exact ⟨rfl, (List.cons.inj h).2⟩
    | cons a l' =>
      obtain ⟨rfl, -⟩ := List.cons.inj h
      rw [List.count_nil, List.count_cons_self] at hcount
      exact absurd hcount (Nat.succ_ne_zero _).symm
  | cons a l ih =>
    cases l' with
    | nil =>
      obtain ⟨rfl, -⟩ := List.cons.inj h
      rw [List.count_nil, List.count_cons_self] at hcount
      exact absurd hcount (Nat.succ_ne_zero _)
    | cons a' l' =>
      obtain ⟨rfl, htail⟩ := List.cons.inj h
      rw [List.count_cons, List.count_cons, Nat.add_right_cancel_iff] at hcount
      obtain ⟨rfl, rfl⟩ := ih htail hcount
      exact ⟨rfl, rfl⟩

/-- What stands before and after a separator, once a `p` follows it and one knows how many of them
come before. -/
theorem append_cons_inj_of_countP {p : α → Bool} (hsep : p sep = false) {l l' r r' : List α}
    {a a' : α} (ha : p a = true) (ha' : p a' = true)
    (h : l ++ sep :: a :: r = l' ++ sep :: a' :: r') (hcount : l.countP p = l'.countP p) :
    l = l' ∧ a :: r = a' :: r' := by
  have hfirst : ∀ {l r r' : List α} {a a' : α}, p a = true →
      sep :: a :: r = l ++ sep :: a' :: r' → l.countP p = 0 → l = [] := by
    intro l r r' a a' ha h hzero
    cases l with
    | nil => rfl
    | cons b l =>
      obtain ⟨rfl, htail⟩ := List.cons.inj h
      cases l with
      | nil =>
        obtain ⟨rfl, -⟩ := List.cons.inj htail
        rw [hsep] at ha
        cases ha
      | cons b l =>
        obtain ⟨rfl, -⟩ := List.cons.inj htail
        exact absurd ha (List.countP_eq_zero.mp hzero _ (List.mem_cons_of_mem _ List.mem_cons_self))
  induction l generalizing l' with
  | nil =>
    obtain rfl := hfirst ha h hcount.symm
    exact ⟨rfl, (List.cons.inj h).2⟩
  | cons b l ih =>
    cases l' with
    | nil => exact absurd (hfirst ha' h.symm hcount) (List.cons_ne_nil _ _)
    | cons b' l' =>
      obtain ⟨rfl, htail⟩ := List.cons.inj h
      rw [List.countP_cons, List.countP_cons, Nat.add_right_cancel_iff] at hcount
      obtain ⟨rfl, hrest⟩ := ih htail hcount
      exact ⟨rfl, hrest⟩

/-- The fields, one after the other, with the separator between them. -/
def joined (sep : α) : List (List α) → List α
  | [] => []
  | [l] => l
  | l :: l' :: ls => l ++ sep :: joined sep (l' :: ls)

theorem joined_cons {l : List α} {ls : List (List α)} (h : ls ≠ []) :
    joined sep (l :: ls) = l ++ sep :: joined sep ls := by
  cases ls with
  | nil => exact absurd rfl h
  | cons l' ls => rfl

/-- Fields that agree can be taken off the front. -/
theorem joined_append_inj {fs gs hs : List (List α)} (hgs : gs ≠ []) (hhs : hs ≠ [])
    (h : joined sep (fs ++ gs) = joined sep (fs ++ hs)) : joined sep gs = joined sep hs := by
  induction fs with
  | nil => exact h
  | cons f fs ih =>
    rw [List.cons_append, List.cons_append, joined_cons (List.append_ne_nil_of_right_ne_nil _ hgs),
      joined_cons (List.append_ne_nil_of_right_ne_nil _ hhs), List.append_cancel_left_eq] at h
    exact ih (List.cons.inj h).2

/-- **Two joins of the same text** have the same fields if each field holds the separator as often
as its counterpart. -/
theorem eq_of_joined [DecidableEq α] {fs gs : List (List α)}
    (h : joined sep fs = joined sep gs)
    (hcount : fs.map (List.count sep) = gs.map (List.count sep)) : fs = gs := by
  induction fs generalizing gs with
  | nil => exact (List.map_eq_nil_iff.mp hcount.symm).symm
  | cons f fs ih =>
    cases gs with
    | nil => exact absurd hcount (List.cons_ne_nil _ _)
    | cons g gs =>
      obtain ⟨hfg, htail⟩ := List.cons.inj hcount
      cases fs with
      | nil =>
        obtain rfl := List.map_eq_nil_iff.mp htail.symm
        exact congrArg (fun l ↦ [l]) h
      | cons f' fs =>
        cases gs with
        | nil => exact absurd htail (List.cons_ne_nil _ _)
        | cons g' gs =>
          obtain ⟨rfl, hrest⟩ := append_cons_inj h hfg
          rw [ih hrest htail]

/-- The join of texts. -/
theorem toList_intercalate (c : Char) (texts : List String) :
    (String.intercalate (String.singleton c) texts).toList = joined c (texts.map String.toList) := by
  induction texts with
  | nil => rfl
  | cons t ts ih =>
    cases ts with
    | nil => rw [String.intercalate_singleton]; rfl
    | cons t' ts =>
      rw [String.intercalate_cons_cons, String.toList_append, String.toList_append, ih]
      simp [joined]

end Separated

end ReqSys
