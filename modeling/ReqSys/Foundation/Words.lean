import Mathlib.Data.List.Infix

/-!
# Words of a text

The words of a text are what is left between its blanks. Joining words with one blank between any
two of them and one at either end makes a substring test a comparison of words: a row of words
occurs in another one exactly when one such text occurs in the other (`pad_infix_pad_iff`). The
blanks at the ends are what keeps a word from matching inside another word.
-/

namespace ReqSys

namespace Words

variable {α : Type*} {p : α → Bool} {sep : α}

/-- `split()` at the characters with the property. -/
def words (p : α → Bool) (l : List α) : List (List α) := (l.splitOnP p).filter (· ≠ [])

@[simp] theorem words_nil : words p [] = [] := rfl

/-- A blank ends a word. -/
theorem words_append_cons (l r : List α) {a : α} (ha : p a = true) :
    words p (l ++ a :: r) = words p l ++ words p r := by
  rw [words, List.splitOnP_append_cons l r ha, List.filter_append, words, words]

theorem words_of_forall {l : List α} (hne : l ≠ []) (h : ∀ a ∈ l, p a = false) :
    words p l = [l] := by
  rw [words, List.splitOnP_eq_singleton h]
  exact List.filter_eq_self.mpr (List.forall_mem_singleton.mpr (decide_eq_true hne))

/-- A word is not empty and has no blank inside. -/
theorem mem_words {l w : List α} (h : w ∈ words p l) : w ≠ [] ∧ ∀ a ∈ w, p a = false := by
  obtain ⟨hmem, hne⟩ := List.mem_filter.mp h
  refine ⟨of_decide_eq_true hne, ?_⟩
  clear h hne
  induction l generalizing w with
  | nil =>
    rw [List.splitOnP_nil, List.mem_singleton] at hmem
    rw [hmem]
    exact List.forall_mem_nil _
  | cons a l ih =>
    obtain ⟨first, rest, hsplit⟩ := List.exists_cons_of_ne_nil (List.splitOnP_ne_nil p l)
    rw [List.splitOnP_cons_eq_if_modifyHead, hsplit] at hmem
    rw [hsplit] at ih
    split_ifs at hmem with ha
    · rcases List.mem_cons.mp hmem with rfl | hmem
      · exact List.forall_mem_nil _
      · exact ih hmem
    · rw [List.modifyHead_cons] at hmem
      rcases List.mem_cons.mp hmem with rfl | hmem
      · rw [Bool.not_eq_true] at ha
        exact List.forall_mem_cons.mpr ⟨ha, ih List.mem_cons_self⟩
      · exact ih (List.mem_cons_of_mem _ hmem)

/-! ## Padded words -/

/-- The words with one blank before, between and after them. -/
def pad (sep : α) (ws : List (List α)) : List α := sep :: ws.flatMap fun w ↦ w ++ [sep]

/-- Every word is not empty and free of the blank. -/
def Plain (sep : α) (ws : List (List α)) : Prop := ∀ w ∈ ws, w ≠ [] ∧ sep ∉ w

theorem pad_append (sep : α) (ws ws' : List (List α)) :
    pad sep (ws ++ ws') = pad sep ws ++ ws'.flatMap fun w ↦ w ++ [sep] := by
  rw [pad, List.flatMap_append, pad, List.cons_append]

/-- A padded text ends with a blank. -/
theorem exists_pad_eq_concat (sep : α) (ws : List (List α)) : ∃ u, pad sep ws = u ++ [sep] := by
  rcases List.eq_nil_or_concat ws with rfl | ⟨ws, w, rfl⟩
  · exact ⟨[], rfl⟩
  · refine ⟨pad sep ws ++ w, ?_⟩
    rw [List.concat_eq_append, pad_append, List.flatMap_singleton, List.append_assoc]

variable [DecidableEq α]

/-- The words of a padded text, also where more text follows. -/
theorem words_flatMap_append {ws : List (List α)} (h : Plain sep ws) (v : List α) :
    words (· = sep) ((ws.flatMap fun w ↦ w ++ [sep]) ++ v) = ws ++ words (· = sep) v := by
  induction ws with
  | nil => rfl
  | cons w ws ih =>
    obtain ⟨⟨hne, hsep⟩, h⟩ := List.forall_mem_cons.mp h
    have hblank : decide (sep = sep) = true := decide_eq_true rfl
    rw [List.flatMap_cons, List.append_assoc, List.append_assoc, List.singleton_append,
      words_append_cons w _ hblank, ih h, words_of_forall hne]
    · rfl
    · intro a ha
      rw [decide_eq_false_iff_not]
      rintro rfl
      exact hsep ha

/-- **Substrings of padded texts are rows of words.** -/
theorem pad_infix_pad_iff {ts ws : List (List α)} (hts : Plain sep ts) (hws : Plain sep ws) :
    pad sep ts <:+: pad sep ws ↔ ts <:+: ws := by
  constructor
  · rintro ⟨u, v, h⟩
    have hwords := congrArg (words fun a ↦ decide (a = sep)) h
    have hblank : decide (sep = sep) = true := decide_eq_true rfl
    have hall : words (· = sep) (pad sep ws) = ws := by
      have hrest := words_flatMap_append hws []
      rw [List.append_nil, words_nil, List.append_nil] at hrest
      have hfirst := @words_append_cons α (· = sep) [] (ws.flatMap fun w ↦ w ++ [sep]) sep hblank
      rw [hrest] at hfirst
      exact hfirst
    rw [hall, List.append_assoc, pad, List.cons_append,
      @words_append_cons α (· = sep) u _ sep hblank, words_flatMap_append hts] at hwords
    exact ⟨words (· = sep) u, words (· = sep) v, by rw [List.append_assoc]; exact hwords⟩
  · rintro ⟨a, b, rfl⟩
    obtain ⟨u, hu⟩ := exists_pad_eq_concat sep a
    refine ⟨u, b.flatMap fun w ↦ w ++ [sep], ?_⟩
    rw [List.append_assoc a, pad_append, hu, List.flatMap_append, pad]
    simp only [List.append_assoc, List.cons_append, List.nil_append]

end Words

end ReqSys
