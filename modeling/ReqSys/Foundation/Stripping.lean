import Mathlib.Data.List.DropRight
import Mathlib.Data.List.Infix
import Mathlib.Data.List.TakeWhile
import Mathlib.Tactic.Ring

/-!
# Stripping a list on both sides

What `str.strip` leaves of a sequence: the elements from the first that is kept to the last. The
results say where the stripped sequence stands in the whole, and that it misses no kept element.
-/

namespace ReqSys

namespace Stripping

variable {α : Type*} {p : α → Bool} {l : List α}

/-- `l` without the elements that `p` drops at its two ends. -/
def stripped (p : α → Bool) (l : List α) : List α := (l.dropWhile p).rdropWhile p

/-- How many elements are dropped in front. -/
def margin (p : α → Bool) (l : List α) : ℕ := (l.takeWhile p).length

theorem dropWhile_eq_drop_margin (p : α → Bool) (l : List α) :
    l.dropWhile p = l.drop (margin p l) := by
  have hsplit := congrArg (List.drop (l.takeWhile p).length)
    (List.takeWhile_append_dropWhile (p := p) (l := l))
  rwa [List.drop_left] at hsplit

theorem stripped_isPrefix (p : α → Bool) (l : List α) : stripped p l <+: l.drop (margin p l) := by
  rw [← dropWhile_eq_drop_margin]
  exact List.rdropWhile_prefix p _

/-- **A stripped sequence is a piece of the whole.** -/
theorem stripped_eq_take (p : α → Bool) (l : List α) :
    stripped p l = (l.drop (margin p l)).take (stripped p l).length :=
  List.prefix_iff_eq_take.mp (stripped_isPrefix p l)

theorem stripped_isInfix (p : α → Bool) (l : List α) : stripped p l <:+: l :=
  (stripped_isPrefix p l).isInfix.trans (List.drop_suffix _ _).isInfix

theorem margin_add_length_le (p : α → Bool) (l : List α) :
    margin p l + (stripped p l).length ≤ l.length := by
  have hmargin : margin p l ≤ l.length := (List.takeWhile_prefix p).length_le
  have hlength := (stripped_isPrefix p l).length_le
  rw [List.length_drop] at hlength
  omega

/-- The front ends before each element that is kept. -/
theorem margin_le {k : ℕ} (hk : k < l.length) (hkept : p l[k] = false) : margin p l ≤ k := by
  by_contra hlt
  push Not at hlt
  have hlt : k < (l.takeWhile p).length := hlt
  have hget : (l.takeWhile p)[k] = l[k] := (List.takeWhile_prefix p).getElem hlt
  have hdropped := List.mem_takeWhile_imp (List.getElem_mem hlt)
  rw [hget, hkept] at hdropped
  exact Bool.false_ne_true hdropped

/-- **Stripping misses no element that is kept.** -/
theorem lt_margin_add_length {k : ℕ} (hk : k < l.length) (hkept : p l[k] = false) :
    k < margin p l + (stripped p l).length := by
  by_contra hle
  push Not at hle
  have hmargin := margin_le hk hkept
  -- what follows the stripped sequence is dropped, the element among it
  have hsplit : l.drop (margin p l) = stripped p l ++ (l.dropWhile p).rtakeWhile p := by
    rw [stripped, List.rdropWhile_append_rtakeWhile, dropWhile_eq_drop_margin]
  have hget : (l.drop (margin p l))[k - margin p l]? = some l[k] := by
    rw [List.getElem?_drop, Nat.add_sub_cancel' hmargin, List.getElem?_eq_getElem hk]
  rw [hsplit, List.getElem?_append_right (by omega)] at hget
  have hdropped := List.mem_rtakeWhile_imp (List.mem_of_getElem? hget)
  rw [hkept] at hdropped
  exact Bool.false_ne_true hdropped

theorem stripped_ne_nil {a : α} (ha : a ∈ l) (hkept : p a = false) : stripped p l ≠ [] := by
  obtain ⟨k, hk, rfl⟩ := List.getElem_of_mem ha
  intro hnil
  have hlt := lt_margin_add_length hk hkept
  rw [hnil, List.length_nil, add_zero] at hlt
  exact absurd (margin_le hk hkept) hlt.not_ge

/-- The first element of what is left is kept. -/
theorem kept_at_margin (hne : stripped p l ≠ []) :
    ∃ hlt : margin p l < l.length, p l[margin p l] = false := by
  have hpos : 0 < (stripped p l).length := List.length_pos_iff.mpr hne
  have hlt : margin p l < l.length := by
    have hle := margin_add_length_le p l
    omega
  refine ⟨hlt, ?_⟩
  have hdrop : 0 < (l.dropWhile p).length := by
    rw [dropWhile_eq_drop_margin, List.length_drop]
    omega
  have hfirst := List.dropWhile_get_zero_not p l hdrop
  have hget : (l.dropWhile p).get ⟨0, hdrop⟩ = l[margin p l] := by
    simp only [List.get_eq_getElem, dropWhile_eq_drop_margin, List.getElem_drop, add_zero]
  rw [hget] at hfirst
  exact eq_false_of_ne_true hfirst

/-- The last element of what is left is kept. -/
theorem kept_at_last (hne : stripped p l ≠ []) : p ((stripped p l).getLast hne) = false :=
  eq_false_of_ne_true (List.rdropWhile_last_not p _ hne)

end Stripping

end ReqSys
