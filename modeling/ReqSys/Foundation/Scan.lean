import Mathlib.Data.List.Basic
import Mathlib.Data.List.Nodup
import Mathlib.Data.List.Perm.Basic

/-!
# Decisions made during a scan

A loop goes through the rows it has fetched and decides about each row in view of the rows it has
dealt with already. `decisions` is the list of rows with the decisions about them.

When rows dealt with earlier can only turn a decision from `false` to `true`, the outcome of the
scan does not depend on the order of the rows exactly if no decision depends on the other rows at
all: it holds with none of them dealt with, or fails with all of them dealt with.
-/

namespace ReqSys

namespace Scan

variable {ρ : Type*} {d : List ρ → ρ → Bool}

/-- Each row with the decision about it; `seen` are the rows dealt with before. -/
def decisions (d : List ρ → ρ → Bool) : List ρ → List ρ → List (ρ × Bool)
  | _, [] => []
  | seen, r :: rows => (r, d seen r) :: decisions d (seen ++ [r]) rows

theorem decisions_concat (seen rows : List ρ) (r : ρ) :
    decisions d seen (rows ++ [r]) = decisions d seen rows ++ [(r, d (seen ++ rows) r)] := by
  induction rows generalizing seen with
  | nil => simp [decisions]
  | cons x rows ih =>
    rw [List.cons_append, decisions, decisions, ih, List.cons_append, List.append_assoc,
      List.singleton_append]

theorem map_fst_decisions (seen rows : List ρ) : (decisions d seen rows).map Prod.fst = rows := by
  induction rows generalizing seen with
  | nil => rfl
  | cons x rows ih => rw [decisions, List.map_cons, ih]

/-- A decision is made in view of the rows before. -/
theorem mem_decisions {seen rows : List ρ} {r : ρ} {b : Bool} :
    (r, b) ∈ decisions d seen rows ↔
    ∃ pre post, rows = pre ++ r :: post ∧ b = d (seen ++ pre) r := by
  induction rows generalizing seen with
  | nil => simp [decisions]
  | cons x rows ih =>
    rw [decisions, List.mem_cons, ih]
    constructor
    · rintro (heq | ⟨pre, post, rfl, rfl⟩)
      · cases heq
        exact ⟨[], rows, rfl, by rw [List.append_nil]⟩
      · exact ⟨x :: pre, post, rfl, by rw [List.append_assoc, List.singleton_append]⟩
    · rintro ⟨pre, post, heq, rfl⟩
      cases pre with
      | nil =>
        cases heq
        exact Or.inl (by rw [List.append_nil])
      | cons y pre =>
        cases heq
        exact Or.inr ⟨pre, post, rfl, by rw [List.append_assoc, List.singleton_append]⟩

/-- In a scan of different rows, one decision is made about each. -/
theorem eq_of_mem_decisions {seen rows : List ρ} (hnodup : rows.Nodup) {r : ρ} {b b' : Bool}
    (h : (r, b) ∈ decisions d seen rows) (h' : (r, b') ∈ decisions d seen rows) : b = b' := by
  have hkeys : ((decisions d seen rows).map Prod.fst).Nodup := by rwa [map_fst_decisions]
  exact congrArg Prod.snd (List.inj_on_of_nodup_map hkeys h h' rfl)

/-! ## The order of the rows -/

/-- Rows dealt with earlier only turn decisions from `false` to `true`. -/
def Favours (d : List ρ → ρ → Bool) : Prop :=
  ∀ ⦃seen seen' r⦄, seen ⊆ seen' → d seen r = true → d seen' r = true

variable [DecidableEq ρ]

/-- The decision about a row is the same at any place of the scan. -/
def Settled (d : List ρ → ρ → Bool) (rows : List ρ) : Prop :=
  ∀ r ∈ rows, d [] r = true ∨ d (rows.erase r) r = false

theorem Settled.decisions_eq (hd : Favours d) {rows l : List ρ} (h : Settled d rows)
    (hnodup : rows.Nodup) (hl : l.Perm rows) :
    decisions d [] l = l.map fun r ↦ (r, d [] r) := by
  have hboth : ∀ x ∈ decisions d [] l, x = (x.1, d [] x.1) := by
    rintro ⟨r, b⟩ hx
    obtain ⟨pre, post, hsplit, rfl⟩ := mem_decisions.mp hx
    rw [List.nil_append]
    have hr : r ∈ rows := by
      rw [← hl.mem_iff, hsplit]
      exact List.mem_append_right _ List.mem_cons_self
    refine congrArg (Prod.mk r) ?_
    obtain hfirst | hlast := h r hr
    · exact (hd (List.nil_subset pre) hfirst).trans hfirst.symm
    · have hsub : pre ⊆ rows.erase r := by
        intro y hy
        have hne : y ≠ r := by
          rintro rfl
          rw [← hl.nodup_iff, hsplit] at hnodup
          exact (List.nodup_append.mp hnodup).2.2 y hy y List.mem_cons_self rfl
        refine (List.mem_erase_of_ne hne).mpr (hl.mem_iff.mp ?_)
        rw [hsplit]
        exact List.mem_append_left _ hy
      have hpre : d pre r = false :=
        Bool.eq_false_iff.mpr fun htrue ↦ by simp [hd hsub htrue] at hlast
      have hnil : d [] r = false :=
        Bool.eq_false_iff.mpr fun htrue ↦ by simp [hd (List.nil_subset _) htrue] at hlast
      rw [hpre, hnil]
  have hmap : decisions d [] l = (decisions d [] l).map fun x ↦ (x.1, d [] x.1) := by
    conv_lhs => rw [← List.map_id (decisions d [] l)]
    exact List.map_congr_left hboth
  rw [hmap]
  conv_rhs => rw [← map_fst_decisions (d := d) [] l]
  rw [List.map_map]
  rfl

/-- **When the order does not matter.** -/
theorem perm_decisions_iff (hd : Favours d) {rows : List ρ} (hnodup : rows.Nodup) :
    (∀ l l', l.Perm rows → l'.Perm rows → (decisions d [] l).Perm (decisions d [] l')) ↔
      Settled d rows := by
  constructor
  · intro hall r hr
    have hfirst := (List.perm_cons_erase hr).symm
    have hlast : (rows.erase r ++ [r]).Perm rows := (List.perm_append_singleton r _).trans hfirst
    have hperm := hall _ _ hfirst hlast
    have hmem : (r, d [] r) ∈ decisions d [] (rows.erase r ++ [r]) :=
      hperm.mem_iff.mp List.mem_cons_self
    have hmem' : (r, d (rows.erase r) r) ∈ decisions d [] (rows.erase r ++ [r]) := by
      rw [decisions_concat]
      exact List.mem_append_right _ List.mem_cons_self
    have heq := eq_of_mem_decisions (hlast.nodup_iff.mpr hnodup) hmem hmem'
    cases hb : d [] r with
    | true => exact Or.inl rfl
    | false => exact Or.inr (heq ▸ hb)
  · intro h l l' hl hl'
    rw [h.decisions_eq hd hnodup hl, h.decisions_eq hd hnodup hl']
    exact (hl.trans hl'.symm).map _

end Scan

end ReqSys
