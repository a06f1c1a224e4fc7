import Mathlib.Tactic.IntervalCases
import ReqSys.Foundation.PyText

/-!
# Hexadecimal texts and blanks

The lowercase hexadecimal digits are ASCII, keep their case, come back from upper case and are no
blanks; so a text of them is left alone by `lower` and by `strip`. What `strip` removes from a text
in general are blanks: the other characters are all kept (`countP_strip`).
-/

namespace ReqSys

namespace PyText

/-- The code points of the lowercase hexadecimal digits. -/
theorem range_of_isHexDigit {c : Char} (h : isHexDigit c = true) :
    48 ≤ c.toNat ∧ c.toNat ≤ 57 ∨ 97 ≤ c.toNat ∧ c.toNat ≤ 102 := by
  simpa [isHexDigit, Char.le_def, UInt32.le_iff_toNat_le] using h

theorem isHexDigit_facts {c : Char} (h : isHexDigit c = true) :
    c.toNat < 128 ∧ c.toLower = c ∧ c.toUpper.toLower = c ∧ isSpace c = false := by
  have hrange := range_of_isHexDigit h
  obtain ⟨n, hn⟩ : ∃ n, c.toNat = n := ⟨_, rfl⟩
  obtain rfl : c = Char.ofNat n := by rw [← hn, Char.ofNat_toNat]
  rw [hn] at hrange
  obtain ⟨h₁, h₂⟩ | ⟨h₁, h₂⟩ := hrange
  all_goals interval_cases n <;> decide

/-- No blank becomes a digit in lower case. -/
theorem not_isSpace_of_toLower {c : Char} (h : isHexDigit c.toLower = true) :
    isSpace c = false := by
  have hblanks : ∀ n ∈ [0x09, 0x0A, 0x0B, 0x0C, 0x0D, 0x1C, 0x1D, 0x1E, 0x1F, 0x20, 0x85, 0xA0,
      0x1680, 0x2000, 0x2001, 0x2002, 0x2003, 0x2004, 0x2005, 0x2006, 0x2007, 0x2008, 0x2009,
      0x200A, 0x2028, 0x2029, 0x202F, 0x205F, 0x3000],
      isHexDigit (Char.ofNat n).toLower = false := by decide
  by_contra hspace
  have hmem := List.contains_iff_mem.mp (Bool.not_eq_false _ ▸ hspace)
  have hfalse := hblanks c.toNat hmem
  rw [Char.ofNat_toNat, h] at hfalse
  cases hfalse

theorem forall_of_isHex {n : ℕ} {s : String} (h : isHex n s = true) :
    ∀ c ∈ s.toList, isHexDigit c = true := by
  simpa using (Bool.and_eq_true_iff.mp h).2

theorem length_of_isHex {n : ℕ} {s : String} (h : isHex n s = true) : s.toList.length = n := by
  simpa using (Bool.and_eq_true_iff.mp h).1

/-- A lowercase digest is its own lower case. -/
theorem asciiLower_of_isHex {n : ℕ} {s : String} (h : isHex n s = true) : asciiLower s = s := by
  have hmap := List.map_congr_left (g := id) fun c hc ↦
    (isHexDigit_facts (forall_of_isHex h c hc)).2.1
  rw [asciiLower, hmap, List.map_id, String.ofList_toList]

theorem strip_of_forall {s : String} (h : ∀ c ∈ s.toList, isSpace c = false) : strip s = s := by
  have hdrop : ∀ l : List Char, (∀ c ∈ l, isSpace c = false) → l.dropWhile isSpace = l := by
    intro l hl
    cases l with
    | nil => rfl
    | cons c l => rw [List.dropWhile_cons, hl c List.mem_cons_self, if_neg Bool.false_ne_true]
  rw [strip, hdrop _ h, hdrop _ fun c hc ↦ h c (List.mem_reverse.mp hc), List.reverse_reverse,
    String.ofList_toList]

theorem strip_of_isHex {n : ℕ} {s : String} (h : isHex n (asciiLower s) = true) : strip s = s := by
  refine strip_of_forall fun c hc ↦ not_isSpace_of_toLower (forall_of_isHex h _ ?_)
  rw [asciiLower, String.toList_ofList]
  exact List.mem_map_of_mem hc

/-- **Stripping removes blanks only.** -/
theorem countP_strip (s : String) :
    (strip s).toList.countP (fun c ↦ !isSpace c) = s.toList.countP fun c ↦ !isSpace c := by
  have hdrop : ∀ l : List Char, (l.dropWhile isSpace).countP (fun c ↦ !isSpace c)
      = l.countP fun c ↦ !isSpace c := by
    intro l
    induction l with
    | nil => rfl
    | cons c l ih =>
      rw [List.dropWhile_cons]
      split_ifs with hc
      · rw [ih, List.countP_cons_of_neg (by simp [hc])]
      · rfl
  rw [strip, String.toList_ofList, List.countP_reverse, hdrop, List.countP_reverse, hdrop]

end PyText

end ReqSys
