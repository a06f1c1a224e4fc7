import ReqSys.Vba.CallSites

/-!
# VBA call graphs: lines with nested calls

A line of an expression is a text with calls of known procedures in it, which have such texts for
arguments. `Line` is this structure, `Line.render` its text, and `Line.calls` the calls in the
order in which they begin.

`_split_arguments` follows the parentheses, so of a whole argument list it returns the arguments
(`splitArguments_render`). Of a list that is cut off within a nested call it returns an argument
that is not closed (`splitArguments_cut`), which no call has (`closed_of_mem_arguments`).
-/

namespace ReqSys

namespace Vba

open PyText Regex

/-! ## Lines -/

/-- The text of an expression: characters, and calls with their arguments. The commas between the
arguments are characters. -/
inductive Line
  | nil
  | char (c : Char) (rest : Line)
  | call (name space : List Char) (inside rest : Line)
  deriving DecidableEq

/-- A call on a line. -/
structure Call where
  name : List Char
  inside : Line
  deriving DecidableEq

namespace Line

def render : Line → List Char
  | nil => []
  | char c rest => c :: rest.render
  | call name space inside rest =>
    name ++ (space ++ '(' :: (inside.render ++ ')' :: rest.render))

/-- The calls, in the order in which they begin. -/
def calls : Line → List Call
  | nil => []
  | char _ rest => rest.calls
  | call name _ inside rest => ⟨name, inside⟩ :: (inside.calls ++ rest.calls)

/-- The calls that are not the first one among the arguments of another call. With the flag, neither
is the first one here. -/
def visible : Bool → Line → List Call
  | _, nil => []
  | hidden, char _ rest => rest.visible hidden
  | false, call name _ inside rest => ⟨name, inside⟩ :: (inside.visible true ++ rest.visible false)
  | true, call _ _ inside rest => inside.visible true ++ rest.visible false

/-- The texts between the commas that do not belong to the arguments of a call. -/
def pieces : Line → List (List Char)
  | nil => [[]]
  | char c rest =>
    if c = ',' then [] :: rest.pieces else rest.pieces.modifyHead (c :: ·)
  | call name space inside rest =>
    rest.pieces.modifyHead (name ++ (space ++ '(' :: (inside.render ++ [')'])) ++ ·)

end Line

/-- The arguments of a call. -/
def Call.arguments (c : Call) : List String :=
  if strip (String.ofList c.inside.render) = "" then []
  else c.inside.pieces.map fun piece ↦ strip (String.ofList piece)

section WellFormed

variable (T : Tables)

/-- A character of an identifier, a number or an operator, a blank or a comma. -/
structure Plain (c : Char) : Prop where
  ordinary : isWord T.toUnicode c = true ∨ isSpace c = true ∨ c.toNat < 128
  symbol : c ≠ '(' ∧ c ≠ ')' ∧ c ≠ '\n' ∧ c ≠ doubleQuote ∧ c ≠ apostrophe

/-- A name is spelled as that of a known procedure, up to case. -/
structure Spells (procedures : List ProcedureRange) (name : List Char) : Prop where
  nonempty : name ≠ []
  word : ∀ c ∈ name, isWord T.toUnicode c = true
  known : ∃ p ∈ procedures, T.lower p.name = T.lower (String.ofList name) ∧
    List.Forall₂ (fun c d ↦ T.same c d = true) p.name.toList name

/-- Between the name of a procedure and its arguments. -/
def Gap (space : List Char) : Prop := ∀ c ∈ space, isSpace c = true ∧ c ≠ '\n'

/-- The line is made of plain characters and of calls of known procedures, and a name is not the end
of a longer word. -/
def Line.Good (procedures : List ProcedureRange) : Option Char → Line → Prop
  | _, .nil => True
  | _, .char c rest => Plain T c ∧ rest.Good procedures (some c)
  | before, .call name space inside rest =>
    (∀ c ∈ before, isWord T.toUnicode c = false) ∧ Spells T procedures name ∧ Gap space ∧
      inside.Good procedures (some '(') ∧ rest.Good procedures (some ')')

end WellFormed

/-! ## Characters -/

section Characters

variable {T : Tables} {c : Char}

/-- A character that a splitting takes as it is. -/
def Bland (c : Char) : Prop :=
  c ≠ '(' ∧ c ≠ ')' ∧ c ≠ ',' ∧ c ≠ doubleQuote ∧ c ≠ apostrophe

theorem bland_of_word (h : isWord T.toUnicode c = true) : Bland c := by
  have hsymbol : ∀ d : Char, d.toNat < 128 → d.isAlphanum = false → (d == '_') = false →
      c ≠ d := by
    rintro d hd halnum hunderscore rfl
    rw [isWord, T.isAlnum_ascii c hd, halnum, hunderscore] at h
    cases h
  refine ⟨?_, ?_, ?_, ?_, ?_⟩ <;> exact hsymbol _ (by decide) (by decide) (by decide)

theorem bland_of_space (h : isSpace c = true) : Bland c := by
  have hsymbol : ∀ d : Char, isSpace d = false → c ≠ d := by
    rintro d hd rfl
    rw [hd] at h
    cases h
  exact ⟨hsymbol _ (by decide), hsymbol _ (by decide), hsymbol _ (by decide),
    hsymbol _ (by decide), hsymbol _ (by decide)⟩

theorem not_word_of_space (h : isSpace c = true) : isWord T.toUnicode c = false := by
  rw [isWord, T.space_not_alnum c h, Bool.false_or, beq_eq_false_iff_ne]
  rintro rfl
  revert h
  decide

end Characters

/-! ## Splitting the arguments -/

section Splitting

variable {T : Tables} {procedures : List ProcedureRange}

/-- A text is added to the argument that is read. -/
def Splitting.push (s : Splitting) (l : List Char) : Splitting :=
  { s with current := s.current ++ l }

/-- The arguments at the end. -/
def Splitting.result (s : Splitting) : List String :=
  s.arguments ++ [strip (String.ofList s.current)]

/-- A character outside of literals that is no quotation mark. -/
theorem read_of_none {s : Splitting} {c : Char} (hs : s.quote = none)
    (hc : c ≠ doubleQuote ∧ c ≠ apostrophe) :
    s.read c
      = if c = '(' then { s with current := s.current ++ [c], depth := s.depth + 1 }
        else if c = ')' then { s with current := s.current ++ [c], depth := s.depth - 1 }
        else if c = ',' ∧ s.depth = 0 then
          { s with arguments := s.arguments ++ [strip (String.ofList s.current)], current := [] }
        else s.push [c] := by
  obtain ⟨arguments, current, depth, quote⟩ := s
  obtain rfl : quote = none := hs
  rw [Splitting.read]
  dsimp only
  rw [if_neg (not_or.mpr hc)]
  rfl

theorem quote_read {s : Splitting} {c : Char} (hs : s.quote = none)
    (hc : c ≠ doubleQuote ∧ c ≠ apostrophe) : (s.read c).quote = none := by
  rw [read_of_none hs hc]
  split_ifs <;> exact hs

/-- Outside of literals the characters are read one by one. -/
theorem splitFrom_eq_foldl {l : List Char} {s : Splitting} (hs : s.quote = none)
    (hl : ∀ c ∈ l, c ≠ doubleQuote ∧ c ≠ apostrophe) :
    splitFrom l s = l.foldl Splitting.read s := by
  induction l, s using splitFrom.induct with
  | case1 s => rfl
  | case2 s c => rfl
  | case3 s c d rest h => 
    rw [hs] at h
    cases h.1
  | case4 s c d rest h ih =>
    obtain ⟨hc, hrest⟩ := List.forall_mem_cons.mp hl
    rw [splitFrom, if_neg h, List.foldl_cons]
    exact ih (quote_read hs hc) hrest

theorem read_bland {s : Splitting} {c : Char} (hs : s.quote = none) (hc : Bland c) :
    s.read c = s.push [c] := by
  obtain ⟨hopen, hclose, hcomma, hmarks⟩ := hc
  rw [read_of_none hs hmarks, if_neg hopen, if_neg hclose, if_neg fun h ↦ hcomma h.1]

theorem push_push (s : Splitting) (l l' : List Char) : (s.push l).push l' = s.push (l ++ l') := by
  rw [Splitting.push, Splitting.push, Splitting.push, List.append_assoc]

theorem foldl_read_bland {s : Splitting} {l : List Char} (hs : s.quote = none)
    (hl : ∀ c ∈ l, Bland c) : l.foldl Splitting.read s = s.push l := by
  induction l generalizing s with
  | nil => rw [List.foldl_nil, Splitting.push, List.append_nil]
  | cons c l ih =>
    obtain ⟨hc, hl⟩ := List.forall_mem_cons.mp hl
    rw [List.foldl_cons, read_bland hs hc, ih (s := s.push [c]) hs hl, push_push]
    rfl

/-- The opening of an argument list is read at any depth. -/
theorem foldl_read_opening {s : Splitting} {name space : List Char} (hs : s.quote = none)
    (hname : ∀ c ∈ name, isWord T.toUnicode c = true) (hspace : Gap space) (rest : List Char) :
    (name ++ (space ++ '(' :: rest)).foldl Splitting.read s
      = rest.foldl Splitting.read
        { s with current := s.current ++ (name ++ (space ++ ['('])), depth := s.depth + 1 } := by
  rw [List.foldl_append, foldl_read_bland hs fun c hc ↦ bland_of_word (hname c hc),
    List.foldl_append, foldl_read_bland (s := s.push name) hs fun c hc ↦
      bland_of_space (hspace c hc).1, List.foldl_cons, push_push]
  rw [read_of_none (by exact hs) ⟨by decide, by decide⟩, if_pos rfl]
  simp [Splitting.push]

theorem read_closing {s : Splitting} (hs : s.quote = none) :
    s.read ')' = { s with current := s.current ++ [')'], depth := s.depth - 1 } := by
  rw [read_of_none hs ⟨by decide, by decide⟩, if_neg (by decide), if_pos rfl]

/-- Within an argument list the whole text belongs to the argument. -/
theorem foldl_read_inside {before : Option Char} {l : Line} (hl : l.Good T procedures before)
    {s : Splitting} (hs : s.quote = none) (hdepth : 0 < s.depth) :
    l.render.foldl Splitting.read s = s.push l.render := by
  induction l generalizing s before with
  | nil => rw [Line.render, List.foldl_nil, Splitting.push, List.append_nil]
  | char c rest ih =>
    obtain ⟨hc, hrest⟩ := hl
    have hread : s.read c = s.push [c] := by
      rw [read_of_none hs hc.symbol.2.2.2, if_neg hc.symbol.1, if_neg hc.symbol.2.1,
        if_neg fun h ↦ hdepth.ne' h.2]
    rw [Line.render, List.foldl_cons, hread, ih hrest (s := s.push [c]) hs hdepth, push_push]
    rfl
  | call name space inside rest ihinside ihrest =>
    obtain ⟨-, hname, hspace, hinside, hrest⟩ := hl
    rw [Line.render, foldl_read_opening hs hname.word hspace, List.foldl_append,
      ihinside hinside (by exact hs) (Nat.succ_pos _), List.foldl_cons, read_closing (by exact hs),
      ihrest hrest (by exact hs) (by exact hdepth)]
    simp [Splitting.push]

theorem modifyHead_nil_append (l : List (List Char)) : l.modifyHead ([] ++ ·) = l := by
  cases l <;> rfl

/-- At the top the text is split at its commas. -/
theorem result_foldl_read {before : Option Char} {l : Line} (hl : l.Good T procedures before)
    {s : Splitting} (hs : s.quote = none) (hdepth : s.depth = 0) :
    (l.render.foldl Splitting.read s).result
      = s.arguments ++
        (l.pieces.modifyHead (s.current ++ ·)).map fun piece ↦ strip (String.ofList piece) := by
  induction l generalizing s before with
  | nil => simp [Line.render, Line.pieces, Splitting.result]
  | char c rest ih =>
    obtain ⟨hc, hrest⟩ := hl
    rw [Line.render, List.foldl_cons, ih hrest (quote_read hs hc.symbol.2.2.2) ?_, Line.pieces,
      read_of_none hs hc.symbol.2.2.2, if_neg hc.symbol.1, if_neg hc.symbol.2.1]
    · by_cases hcomma : c = ','
      · rw [if_pos ⟨hcomma, hdepth⟩, if_pos hcomma]
        change _ ++ (rest.pieces.modifyHead ([] ++ ·)).map _ = _
        rw [modifyHead_nil_append]
        simp
      · rw [if_neg fun h ↦ hcomma h.1, if_neg hcomma]
        simp [Splitting.push, List.modifyHead_modifyHead, Function.comp_def]
    · rw [read_of_none hs hc.symbol.2.2.2, if_neg hc.symbol.1, if_neg hc.symbol.2.1]
      split_ifs <;> exact hdepth
  | call name space inside rest ihinside ihrest =>
    obtain ⟨-, hname, hspace, hinside, hrest⟩ := hl
    rw [Line.render, foldl_read_opening hs hname.word hspace, List.foldl_append,
      foldl_read_inside hinside (by exact hs) (Nat.succ_pos _), List.foldl_cons,
      read_closing (by exact hs), ihrest hrest (by exact hs) (by exact hdepth)]
    simp [Splitting.push, Line.pieces, List.modifyHead_modifyHead, Function.comp_def]

/-- The text that is read ends with a comma if no argument is begun after it. -/
theorem endsWith_comma_of_current {l : List Char} (hl : ∀ c ∈ l, c ≠ doubleQuote ∧ c ≠ apostrophe)
    (hne : l ≠ []) (h : (l.foldl Splitting.read {}).current = []) :
    ∃ l', l = l' ++ [','] := by
  induction l using List.reverseRecOn with
  | nil => exact absurd rfl hne
  | append_singleton l c _ =>
    obtain ⟨hl, hc⟩ := List.forall_mem_append.mp hl
    have hquote : ∀ (l : List Char) (s : Splitting), s.quote = none →
        (∀ c ∈ l, c ≠ doubleQuote ∧ c ≠ apostrophe) → (l.foldl Splitting.read s).quote = none := by
      intro l
      induction l with
      | nil => exact fun s hs _ ↦ hs
      | cons c l ih =>
        intro s hs hl
        obtain ⟨hc, hl⟩ := List.forall_mem_cons.mp hl
        exact ih _ (quote_read hs hc) hl
    rw [List.foldl_append, List.foldl_cons, List.foldl_nil,
      read_of_none (hquote l {} rfl hl) (hc c List.mem_cons_self)] at h
    have happend : ∀ x : List Char, x ++ [c] ≠ [] := fun x ↦ by simp
    split_ifs at h with h1 h2 h3
    · exact absurd h (happend _)
    · exact absurd h (happend _)
    · exact ⟨l, by rw [h3.1]⟩
    · exact absurd h (happend _)

theorem render_unmarked {before : Option Char} {l : Line} (hl : l.Good T procedures before) :
    ∀ c ∈ l.render, c ≠ doubleQuote ∧ c ≠ apostrophe := by
  induction l generalizing before with
  | nil => exact fun c hc ↦ absurd hc List.not_mem_nil
  | char c rest ih => exact List.forall_mem_cons.mpr ⟨hl.1.symbol.2.2.2, ih hl.2⟩
  | call name space inside rest ihinside ihrest =>
    obtain ⟨-, hname, hspace, hinside, hrest⟩ := hl
    rw [Line.render, List.forall_mem_append, List.forall_mem_append, List.forall_mem_cons,
      List.forall_mem_append, List.forall_mem_cons]
    exact ⟨fun c hc ↦ (bland_of_word (hname.word c hc)).2.2.2,
      fun c hc ↦ (bland_of_space (hspace c hc).1).2.2.2, ⟨by decide, by decide⟩, ihinside hinside,
      ⟨by decide, by decide⟩, ihrest hrest⟩

/-- `_split_arguments` of a whole argument list returns its arguments. -/
theorem splitArguments_render {before : Option Char} {c : Call}
    (hl : c.inside.Good T procedures before) :
    splitArguments (some (String.ofList c.inside.render)) = c.arguments := by
  have hmarks := render_unmarked hl
  rw [splitArguments, Call.arguments]
  dsimp only
  split
  next => rfl
  next hblank =>
    rw [String.toList_ofList, splitFrom_eq_foldl rfl hmarks]
    have hresult := result_foldl_read hl (s := {}) rfl rfl
    have hend : (c.inside.render.foldl Splitting.read {}).current ≠ [] ∨
        endsWith "," (String.ofList c.inside.render) = true := by
      by_cases hcurrent : (c.inside.render.foldl Splitting.read {}).current = []
      · refine .inr ?_
        obtain ⟨l', hl'⟩ := endsWith_comma_of_current hmarks (by
          intro hnil
          rw [hnil] at hblank
          exact hblank rfl) hcurrent
        rw [endsWith, List.isSuffixOf_iff_suffix, hl', String.toList_ofList, String.toList_ofList]
        exact List.suffix_append _ _
      · exact .inl hcurrent
    rw [if_pos hend]
    rw [Splitting.result, List.nil_append, modifyHead_nil_append] at hresult
    exact hresult

/-! ### A text that is cut off -/

theorem mem_strip {s : String} {c : Char} (hc : isSpace c = false) :
    c ∈ (strip s).toList ↔ c ∈ s.toList := by
  have hdrop : ∀ l : List Char, c ∈ l.dropWhile isSpace ↔ c ∈ l := by
    intro l
    refine ⟨fun h ↦ (List.dropWhile_suffix _).subset h, fun h ↦ ?_⟩
    rw [← List.takeWhile_append_dropWhile (p := isSpace) (l := l), List.mem_append] at h
    refine h.resolve_left fun htake ↦ ?_
    rw [List.mem_takeWhile_imp htake] at hc
    cases hc
  rw [strip, String.toList_ofList, List.mem_reverse, hdrop, List.mem_reverse, hdrop]

/-- A text that is cut off after the opening of an argument list ends in an argument that is not
closed. -/
theorem splitArguments_cut {l : List Char} (hl : ∀ c ∈ l, c ≠ doubleQuote ∧ c ≠ apostrophe)
    (hopen : '(' ∈ l) (hclose : ')' ∉ l) :
    ∃ a ∈ splitArguments (some (String.ofList l)), '(' ∈ a.toList ∧ ')' ∉ a.toList := by
  -- once an argument list is open, the argument goes on to the end
  have hread : ∀ (l : List Char) (s : Splitting), s.quote = none → ')' ∉ s.current →
      (∀ c ∈ l, c ≠ doubleQuote ∧ c ≠ apostrophe) → ')' ∉ l →
      '(' ∈ l ∨ 0 < s.depth ∧ '(' ∈ s.current →
      '(' ∈ (l.foldl Splitting.read s).current ∧ ')' ∉ (l.foldl Splitting.read s).current := by
    intro l
    induction l with
    | nil =>
      rintro s - hcurrent - - (h | h)
      · exact absurd h List.not_mem_nil
      · exact ⟨h.2, hcurrent⟩
    | cons c l ih =>
      intro s hs hcurrent hl hclose h
      obtain ⟨hc, hl⟩ := List.forall_mem_cons.mp hl
      obtain ⟨hne, hclose⟩ := not_or.mp (List.mem_cons.not.mp hclose)
      have happend : ')' ∉ s.current ++ [c] := by simp [hcurrent, hne]
      refine ih (s.read c) (quote_read hs hc) ?_ hl hclose ?_
      · rw [read_of_none hs hc]
        split_ifs
        · exact happend
        · exact happend
        · exact List.not_mem_nil
        · exact happend
      · rw [read_of_none hs hc]
        split_ifs with hopen hclosing hcomma
        · exact .inr ⟨Nat.succ_pos _, by simp [hopen]⟩
        · exact absurd hclosing.symm hne
        · refine h.imp (fun h ↦ (List.mem_cons.mp h).resolve_left fun heq ↦ hopen heq.symm) ?_
          exact fun h ↦ absurd hcomma.2 h.1.ne'
        · refine h.imp (fun h ↦ (List.mem_cons.mp h).resolve_left fun heq ↦ hopen heq.symm) ?_
          exact fun h ↦ ⟨h.1, List.mem_append_left _ h.2⟩
  obtain ⟨hin, hout⟩ := hread l {} rfl List.not_mem_nil hl hclose (.inl hopen)
  have hblank : strip (String.ofList l) ≠ "" :=
    strip_ne_empty (by rwa [String.toList_ofList]) (show isSpace '(' = false by decide)
  rw [splitArguments]
  dsimp only
  rw [if_neg hblank, String.toList_ofList, splitFrom_eq_foldl rfl hl,
    if_pos (.inl (List.ne_nil_of_mem hin))]
  refine ⟨_, List.mem_append_right _ (List.mem_singleton_self _), ?_, ?_⟩
  · rwa [mem_strip (by decide), String.toList_ofList]
  · rwa [mem_strip (by decide), String.toList_ofList]

/-- The arguments of a call are closed. -/
theorem closed_of_mem_arguments {before : Option Char} {c : Call}
    (hl : c.inside.Good T procedures before) {a : String} (ha : a ∈ c.arguments)
    (hopen : '(' ∈ a.toList) : ')' ∈ a.toList := by
  have hhead : ∀ (x : List Char) (l : List (List Char)), ('(' ∈ x → ')' ∈ x) →
      (∀ piece ∈ l, '(' ∈ piece → ')' ∈ piece) →
      ∀ piece ∈ l.modifyHead (x ++ ·), '(' ∈ piece → ')' ∈ piece := by
    intro x l hx hl piece hpiece
    cases l with
    | nil => exact absurd hpiece List.not_mem_nil
    | cons y l =>
      obtain ⟨hy, hl⟩ := List.forall_mem_cons.mp hl
      obtain rfl | hpiece := List.mem_cons.mp hpiece
      · rw [List.mem_append, List.mem_append]
        exact Or.imp hx hy
      · exact hl piece hpiece
  have hpieces : ∀ (l : Line) (before : Option Char), l.Good T procedures before →
      ∀ piece ∈ l.pieces, '(' ∈ piece → ')' ∈ piece := by
    intro l
    induction l with
    | nil => simp [Line.pieces]
    | char c rest ih =>
      rintro before ⟨hc, hrest⟩
      rw [Line.pieces]
      split
      · exact List.forall_mem_cons.mpr ⟨fun h ↦ absurd h List.not_mem_nil, ih _ hrest⟩
      · refine hhead [c] _ (fun h ↦ ?_) (ih _ hrest)
        exact absurd (List.mem_singleton.mp h).symm hc.symbol.1
    | call name space inside rest _ ih =>
      rintro before ⟨-, -, -, -, hrest⟩
      rw [Line.pieces]
      exact hhead _ _ (fun _ ↦ by simp) (ih _ hrest)
  rw [Call.arguments] at ha
  split at ha
  · exact absurd ha List.not_mem_nil
  · obtain ⟨piece, hpiece, rfl⟩ := List.mem_map.mp ha
    rw [mem_strip (by decide), String.toList_ofList] at hopen ⊢
    exact hpieces _ _ hl piece hpiece hopen

end Splitting

end Vba

end ReqSys
