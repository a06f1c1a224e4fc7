import ReqSys.Vba.Lines

/-!
# VBA call graphs: the search for known names

The pattern `\b(names)\s*\((.*?)\)` takes for the arguments of a call what stands before the next
closing parenthesis, and the search goes on behind it. So the first call among the arguments of a
call that is found is passed over, and with it the first one among its own arguments, and so on;
the calls after that are found again. `Line.visible` is this rule over the structure of a line.

The line is cut into tokens, over which a scan with one bit of state says what is found
(`groups_matchesFrom`). The bit says whether the search is within a match. `scan_tokens` connects
the scan with the structure.
-/

namespace ReqSys

namespace Vba

open PyText Regex

/-! ## Tokens -/

/-- What a line consists of from left to right. -/
inductive Token
  | char (c : Char)
  | opening (name space : List Char)
  | closing

/-- The text of tokens. -/
def chars : List Token → List Char
  | [] => []
  | .char c :: ts => c :: chars ts
  | .opening name space :: ts => name ++ (space ++ '(' :: chars ts)
  | .closing :: ts => ')' :: chars ts

def Line.tokens : Line → List Token
  | nil => []
  | char c rest => .char c :: rest.tokens
  | call name space inside rest =>
    .opening name space :: (inside.tokens ++ .closing :: rest.tokens)

theorem chars_append (ts ts' : List Token) : chars (ts ++ ts') = chars ts ++ chars ts' := by
  induction ts with
  | nil => rfl
  | cons t ts ih =>
    cases t with
    | char c => rw [List.cons_append, chars, chars, ih, List.cons_append]
    | opening name space => rw [List.cons_append, chars, chars, ih]; simp
    | closing => rw [List.cons_append, chars, chars, ih, List.cons_append]

theorem chars_tokens (l : Line) : chars l.tokens = l.render := by
  induction l with
  | nil => rfl
  | char c rest ih => rw [Line.tokens, chars, ih, Line.render]
  | call name space inside rest ihinside ihrest =>
    rw [Line.tokens, chars, chars_append, chars, ihinside, ihrest, Line.render]

section WellFormed

variable (T : Tables) (procedures : List ProcedureRange)

/-- Tokens of a line that is well formed: every opening has a closing behind it. -/
def Fine : Option Char → List Token → Prop
  | _, [] => True
  | _, .char c :: ts => Plain T c ∧ Fine (some c) ts
  | before, .opening name space :: ts =>
    (∀ c ∈ before, isWord T.toUnicode c = false) ∧ Spells T procedures name ∧ Gap space ∧
      .closing ∈ ts ∧ Fine (some '(') ts
  | _, .closing :: ts => Fine (some ')') ts

variable {T procedures}

theorem Line.Good.fine {l : Line} {before : Option Char} (h : l.Good T procedures before)
    {ts : List Token} (hts : ∀ before, Fine T procedures before ts) :
    Fine T procedures before (l.tokens ++ ts) := by
  induction l generalizing before ts with
  | nil => exact hts before
  | char c rest ih => exact ⟨h.1, ih h.2 hts⟩
  | call name space inside rest ihinside ihrest =>
    obtain ⟨hbefore, hname, hspace, hinside, hrest⟩ := h
    rw [Line.tokens, List.cons_append, List.append_assoc]
    exact ⟨hbefore, hname, hspace, by simp, ihinside hinside fun _ ↦ ihrest hrest hts⟩

/-- After the first closing. -/
theorem Fine.after {before : Option Char} {ts ts' : List Token}
    (h : Fine T procedures before (ts ++ .closing :: ts')) : Fine T procedures (some ')') ts' := by
  induction ts generalizing before with
  | nil => exact h
  | cons t ts ih =>
    cases t with
    | char c => exact ih h.2
    | opening name space => exact ih h.2.2.2.2
    | closing => exact ih h

/-- What holds of the characters at the beginning of a line. -/
theorem Fine.forall_mem {P : Char → Prop} {before : Option Char} {ts ts' : List Token}
    (h : Fine T procedures before (ts ++ ts')) (hplain : ∀ c, Plain T c → P c)
    (hword : ∀ c, isWord T.toUnicode c = true → P c)
    (hspace : ∀ c, isSpace c = true → c ≠ '\n' → P c) (hopen : P '(')
    (hclose : .closing ∈ ts → P ')') : ∀ c ∈ chars ts, P c := by
  induction ts generalizing before with
  | nil => exact fun c hc ↦ absurd hc List.not_mem_nil
  | cons t ts ih =>
    have hclose' : .closing ∈ ts → P ')' := fun h ↦ hclose (List.mem_cons_of_mem _ h)
    cases t with
    | char c => exact List.forall_mem_cons.mpr ⟨hplain c h.1, ih h.2 hclose'⟩
    | opening name space =>
      obtain ⟨-, hname, hgap, -, hts⟩ := h
      rw [chars, List.forall_mem_append, List.forall_mem_append, List.forall_mem_cons]
      exact ⟨fun c hc ↦ hword c (hname.word c hc), fun c hc ↦ hspace c (hgap c hc).1 (hgap c hc).2,
        hopen, ih hts hclose'⟩
    | closing => exact List.forall_mem_cons.mpr ⟨hclose List.mem_cons_self, ih h hclose'⟩

/-- The characters of a line are ordinary: a blank or sign is only equal to itself. -/
theorem Fine.ordinary {before : Option Char} {ts : List Token} (h : Fine T procedures before ts) :
    ∀ c ∈ chars ts, isWord T.toUnicode c = true ∨ isSpace c = true ∨ c.toNat < 128 :=
  Fine.forall_mem (by rwa [List.append_nil]) (fun _ hc ↦ hc.ordinary)
    (fun _ hc ↦ .inl hc) (fun _ hc _ ↦ .inr (.inl hc)) (.inr (.inr (by decide)))
    fun _ ↦ .inr (.inr (by decide))

variable {before : Option Char} {ts ts' : List Token} (h : Fine T procedures before (ts ++ ts'))

include h

theorem Fine.no_newline : ∀ c ∈ chars ts, c ≠ '\n' := by
  refine h.forall_mem (fun _ hc ↦ hc.symbol.2.2.1) (fun c hc ↦ ?_) (fun _ _ hc ↦ hc) (by decide)
    fun _ ↦ by decide
  rintro rfl
  rw [not_word_of_space (by decide)] at hc
  cases hc

/-- There is no closing parenthesis but that of a closing. -/
theorem Fine.no_closing (hclosing : .closing ∉ ts) : ∀ c ∈ chars ts, c ≠ ')' :=
  h.forall_mem (fun _ hc ↦ hc.symbol.2.1) (fun _ hc ↦ (bland_of_word hc).2.1)
    (fun _ hc _ ↦ (bland_of_space hc).2.1) (by decide) fun h ↦ absurd h hclosing

end WellFormed

/-! ## What the pattern finds -/

/-- The calls that are found: a name, and the text from the opening parenthesis to the next closing
one, after which the search goes on. With the flag, the search has not come so far. -/
def scan : Bool → List Token → List (List Char × List Char)
  | _, [] => []
  | inMatch, .char _ :: ts => scan inMatch ts
  | false, .opening name _ :: ts => (name, (chars ts).takeWhile (· ≠ ')')) :: scan true ts
  | true, .opening _ _ :: ts => scan true ts
  | _, .closing :: ts => scan false ts

/-- What the pattern takes for the arguments of a call. -/
def Call.captured (c : Call) : List Char := c.inside.render.takeWhile (· ≠ ')')

theorem takeWhile_closing (l l' : List Char) :
    (l ++ ')' :: l').takeWhile (· ≠ ')') = l.takeWhile (· ≠ ')') := by
  induction l with
  | nil => simp
  | cons c l ih => rw [List.cons_append, List.takeWhile_cons, List.takeWhile_cons, ih]

/-- The calls that are found on a line are the visible ones. -/
theorem scan_tokens (l : Line) (inMatch : Bool) (ts : List Token) :
    scan inMatch (l.tokens ++ ts)
      = (l.visible inMatch).map (fun c ↦ (c.name, c.captured)) ++
        scan (inMatch && l.calls.isEmpty) ts := by
  induction l generalizing inMatch ts with
  | nil => rw [Line.tokens, Line.visible, Line.calls]; simp
  | char c rest ih =>
    rw [Line.tokens, List.cons_append, Line.visible, Line.calls, ← ih]
    cases inMatch <;> rfl
  | call name space inside rest ihinside ihrest =>
    rw [Line.tokens, List.cons_append, List.append_assoc, List.cons_append]
    have hrest : ∀ b, scan b (.closing :: (rest.tokens ++ ts))
        = (rest.visible false).map (fun c ↦ (c.name, c.captured)) ++ scan false ts := by
      intro b
      have hfalse := ihrest false ts
      rw [Bool.false_and] at hfalse
      cases b <;> exact hfalse
    cases inMatch with
    | false =>
      have hcaptured :
          (chars (inside.tokens ++ .closing :: (rest.tokens ++ ts))).takeWhile (· ≠ ')')
            = inside.render.takeWhile (· ≠ ')') := by
        rw [chars_append, chars, chars_tokens, takeWhile_closing]
      rw [scan, hcaptured, ihinside, hrest, Line.visible]
      simp [Call.captured]
    | true =>
      rw [scan, ihinside, hrest, Line.visible, Line.calls]
      simp

/-! ## Where the pattern matches -/

section Pattern

variable {T : Tables} {procedures : List ProcedureRange} {names : List String}

/-- The first place of a kind is where two texts agree. -/
theorem append_cons_inj {P : Char → Prop} {p q x y : List Char} {c d : Char} (hp : ∀ e ∈ p, ¬P e)
    (hq : ∀ e ∈ q, ¬P e) (hc : P c) (hd : P d) (h : p ++ c :: x = q ++ d :: y) :
    p = q ∧ c = d := by
  induction p generalizing q with
  | nil =>
    cases q with
    | nil => exact ⟨rfl, (List.cons.inj h).1⟩
    | cons e q =>
      obtain ⟨rfl, -⟩ := List.cons.inj h
      exact absurd hc (hq _ List.mem_cons_self)
  | cons e p ih =>
    cases q with
    | nil =>
      obtain ⟨rfl, -⟩ := List.cons.inj h
      exact absurd hd (hp _ List.mem_cons_self)
    | cons e' q =>
      obtain ⟨rfl, htail⟩ := List.cons.inj h
      obtain ⟨rfl, hcd⟩ := ih (List.forall_mem_cons.mp hp).2 (List.forall_mem_cons.mp hq).2 htail
      exact ⟨rfl, hcd⟩

/-- A parenthesis. -/
def Paren (c : Char) : Prop := c = '(' ∨ c = ')'

/-- From within a text no call begins: the next opening belongs to a name that is no end of a longer
word. -/
theorem no_call_within {ts : List Token} {u : List Char} {d : Char}
    (h : Fine T procedures (some d) ts) (hu : ∀ c ∈ u ++ [d], ¬Paren c) {w sp r : List Char}
    (hw : ∀ c ∈ w, isWord T.toUnicode c = true) (hsp : ∀ c ∈ sp, isSpace c = true) :
    u ++ d :: chars ts ≠ w ++ (sp ++ '(' :: r) := by
  have hparen : ∀ c ∈ w ++ sp, ¬Paren c := by
    refine List.forall_mem_append.mpr ⟨fun c hc ↦ ?_, fun c hc ↦ ?_⟩
    · exact not_or.mpr ⟨(bland_of_word (hw c hc)).1, (bland_of_word (hw c hc)).2.1⟩
    · exact not_or.mpr ⟨(bland_of_space (hsp c hc)).1, (bland_of_space (hsp c hc)).2.1⟩
  intro heq
  rw [← List.append_assoc w] at heq
  induction ts generalizing u d with
  | nil =>
    have hmem : '(' ∈ u ++ [d] := by
      rw [show u ++ [d] = u ++ d :: chars [] from rfl, heq]
      simp
    exact hu _ hmem (.inl rfl)
  | cons t ts ih =>
    cases t with
    | char c =>
      refine ih (u := u ++ [d]) h.2 (List.forall_mem_append.mpr ⟨hu, ?_⟩) ?_
      · rw [List.forall_mem_singleton]
        exact not_or.mpr ⟨h.1.symbol.1, h.1.symbol.2.1⟩
      · rw [← heq]
        simp [chars]
    | closing =>
      have hsplit : (u ++ [d]) ++ ')' :: chars ts = (w ++ sp) ++ '(' :: r := by
        rw [← heq]
        simp [chars]
      exact absurd (append_cons_inj hu hparen (.inr rfl) (.inl rfl) hsplit).2 (by decide)
    | opening name space =>
      obtain ⟨hbefore, hname, hgap, -, -⟩ := h
      have hsplit : (u ++ [d] ++ (name ++ space)) ++ '(' :: chars ts = (w ++ sp) ++ '(' :: r := by
        rw [← heq]
        simp [chars]
      have hall : ∀ c ∈ u ++ [d] ++ (name ++ space), ¬Paren c := by
        refine List.forall_mem_append.mpr ⟨hu, List.forall_mem_append.mpr ⟨fun c hc ↦ ?_,
          fun c hc ↦ ?_⟩⟩
        · have hbland := bland_of_word (hname.word c hc)
          exact not_or.mpr ⟨hbland.1, hbland.2.1⟩
        · have hbland := bland_of_space (hgap c hc).1
          exact not_or.mpr ⟨hbland.1, hbland.2.1⟩
      obtain ⟨hsame, -⟩ := append_cons_inj hall hparen (.inl rfl) (.inl rfl) hsplit
      -- the character before the name would be one of a name or the name one of blanks
      obtain ⟨a, rfl, -⟩ | ⟨a, -, rfl⟩ := List.append_eq_append_iff.mp hsame
      · have hd := hw d (by simp)
        rw [hbefore d rfl] at hd
        cases hd
      · obtain ⟨e, he⟩ := List.exists_mem_of_ne_nil _ hname.nonempty
        have hspace := hsp e (by simp [he])
        have hword := hname.word e he
        rw [not_word_of_space hspace] at hword
        cases hword

/-- A name matches text of words only. -/
theorem word_of_same {name w : List Char}
    (hsame : List.Forall₂ (fun c d ↦ T.same c d = true) name w)
    (hname : ∀ c ∈ name, isWord T.toUnicode c = true)
    (hw : ∀ c ∈ w, isWord T.toUnicode c = true ∨ isSpace c = true ∨ c.toNat < 128) :
    ∀ c ∈ w, isWord T.toUnicode c = true := by
  induction hsame with
  | nil => exact fun c hc ↦ absurd hc List.not_mem_nil
  | @cons c d name w hcd _ ih =>
    obtain ⟨hc, hname⟩ := List.forall_mem_cons.mp hname
    obtain ⟨hd, hw⟩ := List.forall_mem_cons.mp hw
    refine List.forall_mem_cons.mpr ⟨hd.elim id fun hsymbol ↦ ?_, ih hname hw⟩
    by_contra hword
    rw [T.same_symbol c d hcd (Bool.eq_false_iff.mpr hword) hsymbol] at hc
    exact hword hc

theorem seqs_cons (r : Re) (rs : List Re) : seqs (r :: rs) = .seq r (seqs rs) := rfl

/-- What a match of the pattern begins with. -/
theorem exists_of_mem_run_known {before : Option Char} {rest : List Char} {u : State}
    (h : u ∈ Regex.run (knownCallRe T names) ⟨before, rest, []⟩) :
    ∃ name ∈ names, ∃ w sp r, List.Forall₂ (fun c d ↦ T.same c d = true) name.toList w ∧
      (∀ c ∈ sp, isSpace c = true) ∧ rest = w ++ (sp ++ '(' :: r) := by
  rw [knownCallRe, seqs_cons, mem_run_seq] at h
  obtain ⟨s₁, h₁, h⟩ := h
  obtain rfl : s₁ = ⟨before, rest, []⟩ := by
    rw [wordBoundary, Regex.run] at h₁
    split at h₁
    · exact List.mem_singleton.mp h₁
    · exact absurd h₁ List.not_mem_nil
  rw [seqs_cons, mem_run_seq] at h
  obtain ⟨s₂, h₂, h⟩ := h
  obtain ⟨v, hv, rfl⟩ := mem_run_group.mp h₂
  obtain ⟨r, hr, hv⟩ := mem_run_alts.mp hv
  obtain ⟨name, hname, rfl⟩ := List.mem_map.mp hr
  obtain ⟨w, hw, hrest, hv⟩ := mem_run_literal.mp hv
  rw [seqs_cons, mem_run_seq] at h
  obtain ⟨s₃, h₃, h⟩ := h
  obtain ⟨sp, hsp, hrest', hs₃⟩ := exists_of_mem_iterate h₃
  rw [seqs_cons, mem_run_seq] at h
  obtain ⟨s₄, h₄, -⟩ := h
  obtain ⟨c, hc, hrest'', -⟩ := mem_run_char.mp h₄
  obtain rfl : c = '(' := beq_iff_eq.mp hc
  rw [byLength, List.mem_insertionSort] at hname
  refine ⟨name, hname, w, sp, s₄.rest, hw, hsp, ?_⟩
  rw [← hrest'', ← hrest']
  exact hrest

/-- The pattern without the name. -/
def argumentsRe : Re := seqs [blanks, symbol '(', .group 2 (.star false dot), symbol ')']

theorem run_symbol_of_ne {c d : Char} (h : d ≠ c) (before : Option Char) (rest : List Char)
    (groups : List (ℕ × List Char)) : Regex.run (symbol c) ⟨before, d :: rest, groups⟩ = [] := by
  rw [symbol, Regex.run]
  dsimp only
  rw [if_neg (by simpa using h)]

theorem run_symbol (c : Char) (before : Option Char) (rest : List Char)
    (groups : List (ℕ × List Char)) :
    Regex.run (symbol c) ⟨before, c :: rest, groups⟩ = [⟨some c, rest, groups⟩] := by
  rw [symbol, Regex.run]
  dsimp only
  rw [if_pos (beq_self_eq_true c)]

/-- A sequence that begins with a symbol. -/
theorem head?_run_symbol_seq (c : Char) (r : Re) (before : Option Char) (rest : List Char)
    (groups : List (ℕ × List Char)) :
    (Regex.run (.seq (symbol c) r) ⟨before, c :: rest, groups⟩).head?
      = (Regex.run r ⟨some c, rest, groups⟩).head? := by
  rw [head?_run_seq, run_symbol]
  simp

theorem head?_run_symbol_seq_of_ne {c d : Char} (h : d ≠ c) (r : Re) (before : Option Char)
    (rest : List Char) (groups : List (ℕ × List Char)) :
    (Regex.run (.seq (symbol c) r) ⟨before, d :: rest, groups⟩).head? = none := by
  rw [head?_run_seq, run_symbol_of_ne h]
  rfl

/-- The arguments end at the first closing parenthesis. -/
theorem head?_run_arguments {space body tail : List Char} (hspace : Gap space)
    (hclose : ∀ c ∈ body, c ≠ ')') (hline : ∀ c ∈ body, c ≠ '\n') (before : Option Char)
    (groups : List (ℕ × List Char)) :
    (Regex.run argumentsRe ⟨before, space ++ '(' :: (body ++ ')' :: tail), groups⟩).head?
      = some ⟨some ')', tail, (2, body) :: groups⟩ := by
  rw [argumentsRe, seqs_cons, head?_run_seq, blanks, Regex.run,
    findSome?_iterate_greedy (fun c hc ↦ (hspace c hc).1) (show isSpace '(' = false by decide)
      (fun before c rest groups hc ↦ head?_run_symbol_seq_of_ne (by
        rintro rfl
        revert hc
        decide) _ _ _ _) (by simp), seqs_cons, head?_run_symbol_seq, seqs_cons, head?_run_seq,
    Regex.run, List.findSome?_map, Regex.run]
  refine findSome?_iterate_lazy (fun c hc ↦ ?_) (fun before c rest hc ↦ ?_) (by simp) _ ?_
  · exact bne_iff_ne.mpr (hline c hc)
  · exact head?_run_symbol_seq_of_ne (hclose c hc) _ _ _ _
  · dsimp only [Function.comp]
    rw [seqs_cons, head?_run_symbol_seq]
    have hbody := consumed_advance (s := ⟨some '(', body ++ ')' :: tail, groups⟩) rfl
      ⟨lastChar (some '(') body, ')' :: tail, groups⟩ rfl
    rw [hbody]
    rfl

/-- Behind a shorter name there is no argument list. -/
theorem head?_run_arguments_of_word {c : Char} (hc : isWord T.toUnicode c = true)
    (before : Option Char) (rest : List Char) (groups : List (ℕ × List Char)) :
    (Regex.run argumentsRe ⟨before, c :: rest, groups⟩).head? = none := by
  rw [List.head?_eq_none_iff, List.eq_nil_iff_forall_not_mem]
  intro u hu
  rw [argumentsRe, seqs_cons, mem_run_seq] at hu
  obtain ⟨v, hv, hu⟩ := hu
  obtain ⟨sp, hsp, hrest, -⟩ := exists_of_mem_iterate hv
  rw [seqs_cons, mem_run_seq] at hu
  obtain ⟨x, hx, -⟩ := hu
  obtain ⟨d, hd, hrest', -⟩ := mem_run_char.mp hx
  obtain rfl : d = '(' := beq_iff_eq.mp hd
  rw [hrest'] at hrest
  cases sp with
  | nil =>
    obtain ⟨rfl, -⟩ := List.cons.inj hrest
    exact (bland_of_word hc).1 rfl
  | cons e sp =>
    obtain ⟨rfl, -⟩ := List.cons.inj hrest
    rw [not_word_of_space (hsp c List.mem_cons_self)] at hc
    cases hc

theorem findSome?_eq_some_of_forall {α β : Type*} {f : α → Option β} {l : List α} {b : β}
    (hall : ∀ a ∈ l, f a = none ∨ f a = some b) (hsome : ∃ a ∈ l, f a = some b) :
    l.findSome? f = some b := by
  induction l with
  | nil => exact absurd hsome (by simp)
  | cons a l ih =>
    obtain ⟨ha, hl⟩ := List.forall_mem_cons.mp hall
    rw [List.findSome?_cons]
    obtain hnone | hb := ha
    · rw [hnone]
      refine ih hl ?_
      obtain ⟨a', ha', hb⟩ := hsome
      obtain rfl | ha' := List.mem_cons.mp ha'
      · rw [hnone] at hb
        cases hb
      · exact ⟨a', ha', hb⟩
    · rw [hb]

theorem exists_of_forall₂ {α β : Type*} {R : α → β → Prop} {l : List α} {w : List β}
    (h : List.Forall₂ R l w) {d : β} (hd : d ∈ w) : ∃ c ∈ l, R c d := by
  induction h with
  | nil => exact absurd hd List.not_mem_nil
  | @cons c e l w hce _ ih =>
    obtain rfl | hd := List.mem_cons.mp hd
    · exact ⟨c, List.mem_cons_self, hce⟩
    · obtain ⟨c', hc', h⟩ := ih hd
      exact ⟨c', List.mem_cons_of_mem _ hc', h⟩

/-- **A call is found** with its name and the text up to the next closing parenthesis. -/
theorem matchAt_opening {before : Option Char} {name space body tail : List Char}
    (hnames : ∀ n ∈ names, ∀ c ∈ n.toList, isWord T.toUnicode c = true)
    (hbefore : ∀ c ∈ before, isWord T.toUnicode c = false) (hne : name ≠ [])
    (hword : ∀ c ∈ name, isWord T.toUnicode c = true)
    (hknown : ∃ n ∈ names, List.Forall₂ (fun c d ↦ T.same c d = true) n.toList name)
    (hspace : Gap space) (hclose : ∀ c ∈ body, c ≠ ')') (hline : ∀ c ∈ body, c ≠ '\n') :
    matchAt (knownCallRe T names) before (name ++ (space ++ '(' :: (body ++ ')' :: tail)))
      = some ⟨some ')', tail, [(2, body), (1, name)]⟩ := by
  set after := space ++ '(' :: (body ++ ')' :: tail) with hafter
  have hboundary : Regex.run (wordBoundary T) ⟨before, name ++ after, []⟩
      = [⟨before, name ++ after, []⟩] := by
    obtain ⟨c, name, rfl⟩ := List.exists_cons_of_ne_nil hne
    rw [wordBoundary, Regex.run]
    refine if_pos ?_
    have hb : before.any (isWord T.toUnicode) = false := by
      cases before with
      | none => rfl
      | some d => exact hbefore d rfl
    rw [hb, List.cons_append, List.head?_cons, Option.any_some, hword c List.mem_cons_self]
    rfl
  rw [matchAt, knownCallRe, seqs_cons, head?_run_seq, hboundary, List.findSome?_singleton,
    seqs_cons, head?_run_seq]
  refine findSome?_eq_some_of_forall (fun u hu ↦ ?_) ?_
  · obtain ⟨v, hv, rfl⟩ := mem_run_group.mp hu
    obtain ⟨r, hr, hv⟩ := mem_run_alts.mp hv
    obtain ⟨n, hn, rfl⟩ := List.mem_map.mp hr
    rw [byLength, List.mem_insertionSort] at hn
    obtain ⟨w, hw, hrest, hv⟩ := mem_run_literal.mp hv
    rw [consumed_advance (w := w) hrest v rfl, hv]
    change name ++ after = w ++ v.rest at hrest
    obtain ⟨x, hx, hxrest⟩ | ⟨x, hx, hxrest⟩ := List.append_eq_append_iff.mp hrest
    · -- the alternative is not shorter than the name
      cases x with
      | nil =>
        rw [List.append_nil] at hx
        rw [List.nil_append] at hxrest
        right
        rw [hx, ← hxrest, hafter]
        exact head?_run_arguments hspace hclose hline _ _
      | cons d x =>
        -- it would go on with a blank or a parenthesis
        have hd : isWord T.toUnicode d = false ∧ (isSpace d = true ∨ d.toNat < 128) := by
          have hfirst : d ∈ (space ++ ['(']).head? := by
            rw [hafter] at hxrest
            cases space with
            | nil => exact (List.cons.inj hxrest).1 ▸ rfl
            | cons e space => exact (List.cons.inj hxrest).1 ▸ rfl
          have hmem := List.mem_of_mem_head? hfirst
          obtain hmem | hmem := List.mem_append.mp hmem
          · exact ⟨not_word_of_space (hspace d hmem).1, .inl (hspace d hmem).1⟩
          · obtain rfl := List.mem_singleton.mp hmem
            refine ⟨?_, .inr (by decide)⟩
            by_contra h
            exact (bland_of_word (Bool.eq_true_of_not_eq_false h)).1 rfl
        have hdw : d ∈ w := by
          rw [hx]
          simp
        obtain ⟨c, hc, hcd⟩ := exists_of_forall₂ hw hdw
        have hcword := hnames n hn c hc
        rw [T.same_symbol c d hcd hd.1 hd.2, hd.1] at hcword
        cases hcword
    · cases x with
      | nil =>
        rw [List.append_nil] at hx
        rw [List.nil_append] at hxrest
        right
        rw [← hx, hxrest, hafter]
        exact head?_run_arguments hspace hclose hline _ _
      | cons d x =>
        left
        rw [hxrest]
        exact head?_run_arguments_of_word (hword d (by rw [hx]; simp)) _ _ _
  · obtain ⟨n, hn, hsame⟩ := hknown
    let v : State := (⟨before, name ++ after, []⟩ : State).advance name after
    have hv : v ∈ Regex.run (alts ((byLength names).map (caseless T)))
        ⟨before, name ++ after, []⟩ := by
      refine mem_run_alts.mpr ⟨_, List.mem_map_of_mem (by rwa [byLength, List.mem_insertionSort]),
        mem_run_literal.mpr ⟨name, hsame, rfl, rfl⟩⟩
    refine ⟨_, mem_run_group.mpr ⟨v, hv, rfl⟩, ?_⟩
    rw [consumed_advance (w := name) rfl v rfl]
    exact head?_run_arguments hspace hclose hline _ _

/-- The names of the procedures are words. -/
def Named (T : Tables) (procedures : List ProcedureRange) : Prop :=
  ∀ p ∈ procedures, p.name ≠ "" ∧ ∀ c ∈ p.name.toList, isWord T.toUnicode c = true

theorem scan_true_append {ts ts' : List Token} (h : .closing ∉ ts) :
    scan true (ts ++ .closing :: ts') = scan false ts' := by
  induction ts with
  | nil => rfl
  | cons t ts ih =>
    obtain ⟨hne, hts⟩ := not_or.mp (List.mem_cons.not.mp h)
    cases t with
    | char c => exact ih hts
    | opening name space => exact ih hts
    | closing => exact absurd rfl hne

/-- No match begins at a character that is not the first one of a call. -/
theorem run_known_eq_nil (hnamed : Named T procedures) {before : Option Char} {c : Char}
    {ts : List Token} (hts : Fine T procedures (some c) ts)
    (hc : isWord T.toUnicode c = true ∨ isSpace c = true ∨ c.toNat < 128)
    (hparen : c ≠ '(' ∧ (c = ')' ∨ ¬Paren c)) :
    Regex.run (knownCallRe T (procedures.map ProcedureRange.name)) ⟨before, c :: chars ts, []⟩
      = [] := by
  rw [List.eq_nil_iff_forall_not_mem]
  intro u hu
  obtain ⟨name, hname, w, sp, r, hsame, hsp, heq⟩ := exists_of_mem_run_known hu
  obtain ⟨p, hp, rfl⟩ := List.mem_map.mp hname
  obtain ⟨hne, hpword⟩ := hnamed p hp
  have hall : ∀ d ∈ w, isWord T.toUnicode d = true ∨ isSpace d = true ∨ d.toNat < 128 := by
    intro d hd
    have hmem : d ∈ c :: chars ts := heq ▸ List.mem_append_left _ hd
    obtain rfl | hmem := List.mem_cons.mp hmem
    · exact hc
    · exact hts.ordinary d hmem
  have hw := word_of_same hsame hpword hall
  obtain rfl | hparen := hparen.2
  · -- a name does not begin with a parenthesis
    cases w with
    | nil =>
      have hempty := List.forall₂_nil_right_iff.mp hsame
      exact hne (String.toList_eq_nil_iff.mp hempty)
    | cons d w =>
      obtain ⟨rfl, -⟩ := List.cons.inj heq
      exact (bland_of_word (hw _ List.mem_cons_self)).2.1 rfl
  · exact no_call_within (u := []) hts (by simpa using hparen) hw hsp heq

/-- **What is found on a line**: the calls that a scan over its tokens comes by. -/
theorem groups_matchesFrom (hnamed : Named T procedures) {before : Option Char} {ts : List Token}
    (hts : Fine T procedures before ts) :
    (matchesFrom (knownCallRe T (procedures.map ProcedureRange.name)) before 0 (chars ts)).map
        Match.groups
      = (scan false ts).map fun x ↦ [(2, x.2), (1, x.1)] := by
  induction hn : ts.length using Nat.strong_induction_on generalizing ts before with
  | _ n ih =>
    subst hn
    cases ts with
    | nil => rfl
    | cons t ts =>
      cases t with
      | char c =>
        obtain ⟨hc, hts⟩ := hts
        have hnone := @run_known_eq_nil _ _ hnamed before _ _ hts hc.ordinary
          ⟨hc.symbol.1, .inr (not_or.mpr ⟨hc.symbol.1, hc.symbol.2.1⟩)⟩
        rw [chars, matchesFrom_of_no_match hnone, scan]
        exact ih _ (Nat.lt_succ_self _) hts rfl
      | closing =>
        have hnone := @run_known_eq_nil _ _ hnamed before ')' _ hts (.inr (.inr (by decide)))
          ⟨by decide, .inl rfl⟩
        rw [chars, matchesFrom_of_no_match hnone, scan]
        exact ih _ (Nat.lt_succ_self _) hts rfl
      | opening name space =>
        obtain ⟨hbefore, hname, hgap, hclosing, hts⟩ := hts
        obtain ⟨ts₁, ts₂, rfl, hfirst⟩ := List.eq_append_cons_of_mem hclosing
        have hclose := hts.no_closing hfirst
        have hbody : (chars (ts₁ ++ .closing :: ts₂)).takeWhile (· ≠ ')') = chars ts₁ := by
          rw [chars_append, chars, takeWhile_closing, List.takeWhile_eq_self_iff]
          exact fun c hc ↦ decide_eq_true (hclose c hc)
        obtain ⟨p, hp, -, hsame⟩ := hname.known
        have hmatch : matchAt (knownCallRe T (procedures.map ProcedureRange.name)) before
            (name ++ (space ++ '(' :: (chars ts₁ ++ ')' :: chars ts₂)))
            = some ⟨some ')', chars ts₂, [(2, chars ts₁), (1, name)]⟩ :=
          matchAt_opening (List.forall_mem_map.mpr fun p hp ↦ (hnamed p hp).2) hbefore
            hname.nonempty hname.word ⟨p.name, List.mem_map_of_mem hp, hsame⟩ hgap hclose
            hts.no_newline
        obtain ⟨c, name, rfl⟩ := List.exists_cons_of_ne_nil hname.nonempty
        rw [scan, hbody, scan_true_append hfirst, List.map_cons, chars, chars_append, chars]
        -- the search goes on after the closing parenthesis
        have hsplit : c :: name ++ (space ++ '(' :: (chars ts₁ ++ ')' :: chars ts₂))
            = c :: (name ++ (space ++ '(' :: (chars ts₁ ++ [')']))) ++ chars ts₂ := by simp
        have hlast : lastChar before (c :: (name ++ (space ++ '(' :: (chars ts₁ ++ [')']))))
            = some ')' := by
          rw [← List.cons_append, lastChar_append, lastChar_append, lastChar_cons, lastChar_append]
          rfl
        rw [hsplit] at hmatch ⊢
        refine (congrArg _ (matchesFrom_of_match
          (t := ⟨some ')', chars ts₂, [(2, chars ts₁), (1, c :: name)]⟩) hmatch)).trans ?_
        rw [hlast, List.map_cons, ih _ ?_ hts.after rfl]
        simp only [List.length_cons, List.length_append]
        omega

end Pattern

end Vba

end ReqSys
