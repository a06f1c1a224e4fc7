import ReqSys.Foundation.Table
import Mathlib.Data.List.Perm.Subperm

/-!
# Rows numbered within a group

A history table numbers its rows within a group: the first row of a group has number 1, and a new
row the largest number plus one. `Rooted` is what remains of that when the largest number was read
some time before the insertion: every number is 1 or follows a number of the same group.

In a rooted table the numbers of every group are `1, …, n` exactly when no number is used twice
(`keyed_iff_perm_range`), and a row added to such a table keeps it so exactly when its number still
is the next one (`keyed_concat_iff`).
-/

namespace ReqSys

namespace Table

variable {ρ γ : Type*} [DecidableEq γ] {group : ρ → γ} {number : ρ → ℕ} {rows : List ρ}

/-- The numbers of a group. -/
def numbers (group : ρ → γ) (number : ρ → ℕ) (g : γ) (rows : List ρ) : List ℕ :=
  (rows.filter fun r ↦ group r = g).map number

/-- The row of a group with the largest number. -/
def last (group : ρ → γ) (number : ρ → ℕ) (g : γ) (rows : List ρ) : Option ρ :=
  least (fun a b ↦ decide (number b ≤ number a)) (rows.filter fun r ↦ group r = g)

/-- The number after the largest one of a group. -/
def nextNumber (group : ρ → γ) (number : ρ → ℕ) (g : γ) (rows : List ρ) : ℕ :=
  (((last group number g rows).map number).map (· + 1)).getD 1

omit [DecidableEq γ] in
/-- Every number is 1 or follows a number of the same group. -/
def Rooted (group : ρ → γ) (number : ρ → ℕ) (rows : List ρ) : Prop :=
  ∀ r ∈ rows, number r = 1 ∨ ∃ b ∈ rows, group b = group r ∧ number r = number b + 1

theorem mem_numbers {g : γ} {k : ℕ} :
    k ∈ numbers group number g rows ↔ ∃ r ∈ rows, group r = g ∧ number r = k := by
  simp [numbers, and_assoc]

/-- Pairs with one first component and second components in `[1, n]`, each once. -/
theorem countP_fst_le {l : List (γ × ℕ)} {id : γ} {n : ℕ} (hnodup : l.Nodup)
    (hmem : ∀ t, (id, t) ∈ l → 1 ≤ t ∧ t ≤ n) : l.countP (fun x ↦ x.1 = id) ≤ n := by
  have hsubset : l.filter (fun x ↦ x.1 = id) ⊆ (List.range' 1 n).map fun t ↦ (id, t) := by
    rintro ⟨id', t⟩ hx
    obtain ⟨hl, hid⟩ := List.mem_filter.mp hx
    obtain rfl : id' = id := of_decide_eq_true hid
    obtain ⟨hpos, hle⟩ := hmem t hl
    exact List.mem_map_of_mem (List.mem_range'_1.mpr ⟨hpos, by omega⟩)
  have hle := ((hnodup.filter _).subperm hsubset).length_le
  rwa [List.length_map, List.length_range', ← List.countP_eq_length_filter] at hle

/-! ## The largest number -/

theorem last_mem {g : γ} {r : ρ} (h : last group number g rows = some r) :
    r ∈ rows ∧ group r = g := by
  have hmem := List.mem_filter.mp (mem_of_least h)
  exact ⟨hmem.1, of_decide_eq_true hmem.2⟩

theorem number_le_last {g : γ} {r : ρ} (h : last group number g rows = some r) {b : ρ}
    (hb : b ∈ rows) (hg : group b = g) : number b ≤ number r := by
  have htotal : ∀ x y : ρ, decide (number y ≤ number x) = true ∨
      decide (number x ≤ number y) = true := by
    intro x y
    rw [decide_eq_true_eq, decide_eq_true_eq]
    exact Nat.le_total _ _
  have htrans : ∀ x y z : ρ, decide (number y ≤ number x) = true →
      decide (number z ≤ number y) = true → decide (number z ≤ number x) = true := by
    intro x y z hxy hyz
    rw [decide_eq_true_eq] at *
    exact Nat.le_trans hyz hxy
  have hmem : b ∈ rows.filter fun r ↦ decide (group r = g) :=
    List.mem_filter.mpr ⟨hb, decide_eq_true hg⟩
  exact of_decide_eq_true (least_le htotal htrans h b hmem)

theorem ne_group_of_last_none {g : γ} (h : last group number g rows = none) {b : ρ}
    (hb : b ∈ rows) : group b ≠ g := by
  intro hg
  have hmem : b ∈ rows.filter fun r ↦ decide (group r = g) :=
    List.mem_filter.mpr ⟨hb, decide_eq_true hg⟩
  rw [least_eq_none.mp h] at hmem
  cases hmem

/-! ## Rooted tables -/

section Rooted

omit [DecidableEq γ]

/-- From a row down to number 1 every number is in use. -/
theorem Rooted.exists_number (h : Rooted group number rows) {r : ρ} (hr : r ∈ rows) {k : ℕ}
    (hk : 1 ≤ k) (hkr : k ≤ number r) : ∃ b ∈ rows, group b = group r ∧ number b = k := by
  induction hn : number r - k generalizing r with
  | zero => exact ⟨r, hr, rfl, by omega⟩
  | succ n ih =>
    rcases h r hr with hone | ⟨b, hb, hgroup, hnumber⟩
    · omega
    · obtain ⟨b', hb', hgroup', hk'⟩ := ih hb (by omega) (by omega)
      exact ⟨b', hb', hgroup'.trans hgroup, hk'⟩

theorem Rooted.one_le (h : Rooted group number rows) {r : ρ} (hr : r ∈ rows) : 1 ≤ number r := by
  rcases h r hr with hone | ⟨b, -, -, hnumber⟩
  · omega
  · omega

end Rooted

/-- Numbers are unique within their groups. -/
theorem keyed_iff_nodup_numbers :
    Keyed (fun r ↦ (group r, number r)) rows ↔ ∀ g, (numbers group number g rows).Nodup := by
  induction rows with
  | nil => exact iff_of_true List.nodup_nil fun _ ↦ List.nodup_nil
  | cons a rows ih =>
    have hcons : ∀ g, numbers group number g (a :: rows)
        = if group a = g then number a :: numbers group number g rows
          else numbers group number g rows := by
      intro g
      by_cases hg : group a = g
      · simp [numbers, hg]
      · simp [numbers, hg]
    have hnot : (group a, number a) ∉ rows.map (fun r ↦ (group r, number r)) ↔
        number a ∉ numbers group number (group a) rows := by
      rw [mem_numbers]
      simp
    rw [Keyed, List.map_cons, List.nodup_cons, hnot]
    refine (and_congr_right fun _ ↦ ih).trans ?_
    constructor
    · rintro ⟨hfresh, hall⟩ g
      rw [hcons]
      split_ifs with hg
      · exact List.nodup_cons.mpr ⟨hg ▸ hfresh, hall g⟩
      · exact hall g
    · intro hall
      have hown := hall (group a)
      rw [hcons, if_pos rfl] at hown
      refine ⟨(List.nodup_cons.mp hown).1, fun g ↦ ?_⟩
      have hg := hall g
      rw [hcons] at hg
      split_ifs at hg
      · exact (List.nodup_cons.mp hg).2
      · exact hg

/-- **Without gap or duplicate.** -/
theorem keyed_iff_perm_range (h : Rooted group number rows) :
    Keyed (fun r ↦ (group r, number r)) rows ↔
      ∀ g, ∃ n, (numbers group number g rows).Perm (List.range' 1 n) := by
  rw [keyed_iff_nodup_numbers]
  refine forall_congr' fun g ↦ ⟨fun hnodup ↦ ?_, fun ⟨n, hperm⟩ ↦ ?_⟩
  · refine ⟨(numbers group number g rows).length, ?_⟩
    -- a number `k` in use has `k` numbers below it in use, so it is at most their count
    have hsub : numbers group number g rows ⊆
        List.range' 1 (numbers group number g rows).length := by
      intro k hk
      obtain ⟨r, hr, rfl, rfl⟩ := mem_numbers.mp hk
      have hbelow : List.range' 1 (number r) ⊆ numbers group number (group r) rows := by
        intro j hj
        obtain ⟨hj1, hj2⟩ := List.mem_range'_1.mp hj
        exact mem_numbers.mpr (h.exists_number hr hj1 (by omega))
      have hrange : (List.range' 1 (number r)).Nodup := List.nodup_range'
      have hlength := (hrange.subperm hbelow).length_le
      rw [List.length_range'] at hlength
      have := h.one_le hr
      exact List.mem_range'_1.mpr ⟨this, by omega⟩
    exact (hnodup.subperm hsub).perm_of_length_le (Nat.le_of_eq List.length_range')
  · exact hperm.nodup_iff.mpr List.nodup_range'

/-- **A new row.** -/
theorem keyed_concat_iff {new : ρ} (hkeyed : Keyed (fun r ↦ (group r, number r)) rows)
    (h : Rooted group number rows) (hnew : Rooted group number (rows ++ [new])) :
    Keyed (fun r ↦ (group r, number r)) (rows ++ [new]) ↔
      number new = nextNumber group number (group new) rows := by
  have hfree : Keyed (fun r ↦ (group r, number r)) (rows ++ [new]) ↔
      ∀ b ∈ rows, group b = group new → number b ≠ number new := by
    refine ⟨fun hk b hb hgroup hnumber ↦ ?_, fun hk ↦ hkeyed.concat fun b hb hkey ↦ ?_⟩
    · rw [Keyed, List.map_append, List.nodup_append] at hk
      exact hk.2.2 _ (List.mem_map_of_mem hb) _ (List.mem_map_of_mem (List.mem_singleton_self new))
        (Prod.ext hgroup hnumber)
    · exact hk b hb (congrArg Prod.fst hkey) (congrArg Prod.snd hkey)
  -- the new row follows one that was there
  have hroot : number new = 1 ∨
      ∃ b ∈ rows, group b = group new ∧ number new = number b + 1 := by
    rcases hnew new (List.mem_append_right _ (List.mem_singleton_self new)) with
      hone | ⟨b, hb, hgroup, hnumber⟩
    · exact .inl hone
    · rcases List.mem_append.mp hb with hb | hb
      · exact .inr ⟨b, hb, hgroup, hnumber⟩
      · rw [List.mem_singleton.mp hb] at hnumber
        omega
  rw [hfree, nextNumber]
  cases hlast : last group number (group new) rows with
  | none =>
    have hnone := fun b hb ↦ ne_group_of_last_none hlast (b := b) hb
    refine iff_of_true (fun b hb hgroup ↦ absurd hgroup (hnone b hb)) ?_
    rcases hroot with hone | ⟨b, hb, hgroup, -⟩
    · exact hone
    · exact absurd hgroup (hnone b hb)
  | some m =>
    change _ ↔ number new = number m + 1
    obtain ⟨hm, hmgroup⟩ := last_mem hlast
    constructor
    · intro hall
      have hone := h.one_le hm
      have hgt : number m < number new := by
        by_contra hle
        have hnew1 : 1 ≤ number new := by
          rcases hroot with hroot | ⟨b, -, -, hroot⟩ <;> omega
        obtain ⟨b, hb, hgroup, hnumber⟩ := h.exists_number hm hnew1 (by omega)
        exact hall b hb (hgroup.trans hmgroup) hnumber
      rcases hroot with hroot | ⟨b, hb, hgroup, hnumber⟩
      · omega
      · have := number_le_last hlast hb hgroup
        omega
    · intro hnext b hb hgroup hnumber
      have := number_le_last hlast hb hgroup
      omega

end Table

end ReqSys
