import ReqSys.Vba.NameSearch

/-!
# VBA call graphs: nested calls

What `_source_call_sites` records for the line of an expression. The calls that are found are those
that the search for known names does not pass over, with the text up to the next closing
parenthesis; of each procedure the first one counts. So a procedure whose call is nested may have no
edge, and the arguments of a call with a nested call are cut off.

`nested_iff` says when all is well: for every procedure that is called on the line, the first call
that is found has no call among its arguments, and the same arguments as the first call there is.
-/

namespace ReqSys

namespace Vba

open PyText Regex

/-! ## Recording -/

section Record

variable {T : Tables} {procedures : List ProcedureRange} {caller : ProcedureRange} {lineNo : ℕ}
  {s s' : Reading}

theorem lower_of_known {U : Unicode} {a : String} {p : ProcedureRange}
    (h : knownByLower U procedures a = some p) : U.lower p.name = U.lower a := by
  simpa using List.find?_some h

/-- Two procedures of the dictionary with one name are the same. -/
theorem knownByLower_inj {U : Unicode} {a b : String} {p q : ProcedureRange}
    (hp : knownByLower U procedures a = some p) (hq : knownByLower U procedures b = some q)
    (h : p.name = q.name) : p = q := by
  have hpa := lower_of_known hp
  have hqb := lower_of_known hq
  rw [knownByLower, ← hqb, ← h, hpa, ← knownByLower, hp] at hq
  exact Option.some.inj hq

/-- A call that is found, its name and the text of its arguments. -/
def Reading.found (T : Tables) (procedures : List ProcedureRange) (caller : ProcedureRange)
    (lineNo : ℕ) (s : Reading) (x : List Char × List Char) : Reading :=
  match knownByLower T.toUnicode procedures (String.ofList x.1) with
  | none => s
  | some callee =>
    s.record ⟨caller, callee, lineNo, .functionExpression,
      splitArguments (some (String.ofList x.2))⟩

theorem expression_eq_foldl {found : List Match} {l : List (List Char × List Char)}
    (h : found.map Match.groups = l.map fun x ↦ [(2, x.2), (1, x.1)]) :
    s.expression T procedures caller lineNo found
      = l.foldl (Reading.found T procedures caller lineNo) s := by
  induction found generalizing l s with
  | nil =>
    obtain rfl := List.map_eq_nil_iff.mp h.symm
    rfl
  | cons m found ih =>
    cases l with
    | nil => cases h
    | cons x l =>
      obtain ⟨hm, hfound⟩ := List.cons.inj h
      rw [Reading.expression, List.foldl_cons, ← Reading.expression, ih hfound, List.foldl_cons]
      congr 1
      rw [groupText, groupText, Match.group, Match.group, hm]
      rfl

/-- **What is recorded**: of every procedure the first call that is found. -/
theorem mem_sites_foldl_found {l : List (List Char × List Char)} {site : CallSite} :
    site ∈ (l.foldl (Reading.found T procedures caller lineNo) s).sites ↔
      site ∈ s.sites ∨ ∃ p x, (caller.name, p.name, lineNo, .functionExpression) ∉ s.seen ∧
        l.find? (fun x ↦ knownByLower T.toUnicode procedures (String.ofList x.1) = some p)
          = some x ∧
        site = ⟨caller, p, lineNo, .functionExpression,
          splitArguments (some (String.ofList x.2))⟩ := by
  induction l generalizing s with
  | nil => simp
  | cons x l ih =>
    rw [List.foldl_cons, ih, Reading.found]
    cases hx : knownByLower T.toUnicode procedures (String.ofList x.1) with
    | none => simp [hx]
    | some q =>
      dsimp only
      rw [Reading.record]
      dsimp only
      split
      next hseen =>
        refine or_congr Iff.rfl (exists_congr fun p ↦ exists_congr fun y ↦
          and_congr_right fun hp ↦ and_congr_left fun _ ↦ ?_)
        have hne : q ≠ p := by
          rintro rfl
          exact hp hseen
        simp [hx, hne]
      next hseen =>
        rw [List.mem_append, List.mem_singleton, or_assoc]
        refine or_congr Iff.rfl ?_
        constructor
        · rintro (rfl | ⟨p, y, hp, hy, rfl⟩)
          · exact ⟨q, x, hseen, by simp [hx], rfl⟩
          · rw [List.mem_cons, not_or] at hp
            have hne : q ≠ p := by
              rintro rfl
              exact hp.1 rfl
            exact ⟨p, y, hp.2, by simp [hx, hne, hy], rfl⟩
        · rintro ⟨p, y, hp, hy, rfl⟩
          by_cases hqp : q = p
          · subst hqp
            left
            rw [List.find?_cons, hx] at hy
            simp at hy
            rw [hy]
          · right
            rw [List.find?_cons, hx] at hy
            simp [hqp] at hy
            refine ⟨p, y, ?_, hy, rfl⟩
            rw [List.mem_cons, not_or]
            refine ⟨fun h ↦ hqp ?_, hp⟩
            have hname : p.name = q.name := by simpa using h
            have hyp := List.find?_some hy
            exact (knownByLower_inj (of_decide_eq_true hyp) hx hname).symm

/-- The reading of a line adds call sites and keys of that line. -/
structure Extends (n : ℕ) (s s' : Reading) : Prop where
  sites : ∀ site : CallSite, site.line ≠ n → (site ∈ s'.sites ↔ site ∈ s.sites)
  seen : ∀ k : String × String × ℕ × CallType, k.2.2.1 ≠ n → k ∈ s'.seen → k ∈ s.seen

theorem Extends.refl (n : ℕ) (s : Reading) : Extends n s s := ⟨fun _ _ ↦ Iff.rfl, fun _ _ h ↦ h⟩

theorem Extends.trans {n : ℕ} {s₁ s₂ s₃ : Reading} (h : Extends n s₁ s₂) (h' : Extends n s₂ s₃) :
    Extends n s₁ s₃ :=
  ⟨fun site hn ↦ (h'.sites site hn).trans (h.sites site hn), fun k hn hk ↦
    h.seen k hn (h'.seen k hn hk)⟩

theorem extends_record {n : ℕ} {site : CallSite} (hline : site.line = n) (s : Reading) :
    Extends n s (s.record site) := by
  rw [Reading.record]
  split
  · exact .refl _ _
  · refine ⟨fun other hn ↦ ?_, fun k hn hk ↦ ?_⟩
    · rw [List.mem_append, List.mem_singleton]
      exact or_iff_left fun h ↦ hn (h ▸ hline)
    · refine (List.mem_cons.mp hk).resolve_left fun h ↦ hn ?_
      rw [h, hline]

theorem extends_expression (s : Reading) (found : List Match) :
    Extends lineNo s (s.expression T procedures caller lineNo found) := by
  induction found generalizing s with
  | nil => exact .refl _ _
  | cons m found ih =>
    rw [Reading.expression, List.foldl_cons, ← Reading.expression]
    refine Extends.trans ?_ (ih _)
    split
    · exact .refl _ _
    · exact extends_record (by rfl) _

theorem extends_readLine (s : Reading) (x : String × ℕ) :
    Extends x.2 s (s.readLine T procedures x) := by
  have hdynamic : ∀ d, Extends x.2 s { s with dynamicCalls := d } := fun _ ↦
    ⟨fun _ _ ↦ Iff.rfl, fun _ _ h ↦ h⟩
  rw [Reading.readLine]
  dsimp only
  split
  · exact .refl _ _
  · split
    · exact .refl _ _
    · split
      · split
        · exact extends_record (by rfl) _
        · exact hdynamic _
      · split
        · exact hdynamic _
        · split
          · split
            · exact extends_record (by rfl) _
            · exact .refl _ _
          · split
            · exact .refl _ _
            · exact extends_expression _ _

/-- Other lines do not matter for the call sites of a line. -/
theorem foldl_readLine_of_ne {n : ℕ} {l : List (String × ℕ)} (hl : ∀ x ∈ l, x.2 ≠ n) (s : Reading) :
    (∀ site : CallSite, site.line = n →
      (site ∈ (l.foldl (Reading.readLine T procedures) s).sites ↔ site ∈ s.sites)) ∧
    ∀ k : String × String × ℕ × CallType, k.2.2.1 = n →
      k ∈ (l.foldl (Reading.readLine T procedures) s).seen → k ∈ s.seen := by
  induction l generalizing s with
  | nil => exact ⟨fun _ _ ↦ Iff.rfl, fun _ _ h ↦ h⟩
  | cons x l ih =>
    obtain ⟨hx, hl⟩ := List.forall_mem_cons.mp hl
    obtain ⟨hsites, hseen⟩ := ih hl (s.readLine T procedures x)
    have hextends : Extends x.2 s (s.readLine T procedures x) := extends_readLine s x
    refine ⟨fun site hn ↦ ?_, fun k hn hk ↦ ?_⟩
    · rw [List.foldl_cons, hsites site hn]
      exact hextends.sites site fun h ↦ hx (h.symm.trans hn)
    · rw [List.foldl_cons] at hk
      exact hextends.seen k (fun h ↦ hx (h.symm.trans hn)) (hseen k hn hk)

end Record

/-- A line of the source, between the lines before it and the lines after it. -/
theorem exists_split_numberedLines {source raw : String} {n : ℕ}
    (h : (raw, n) ∈ numberedLines source) :
    ∃ pre post, numberedLines source = pre ++ (raw, n) :: post ∧ (∀ x ∈ pre, x.2 ≠ n) ∧
      ∀ x ∈ post, x.2 ≠ n := by
  obtain ⟨pre, post, hsplit⟩ := List.append_of_mem h
  have hnodup : ((numberedLines source).map Prod.snd).Nodup := by
    rw [numberedLines, List.zipIdx_map_snd]
    exact List.nodup_range'
  rw [hsplit, List.map_append, List.map_cons, List.nodup_append, List.nodup_cons] at hnodup
  obtain ⟨-, ⟨hpost, -⟩, hdisjoint⟩ := hnodup
  refine ⟨pre, post, hsplit, fun x hx hn ↦ ?_, fun x hx hn ↦ ?_⟩
  · exact hdisjoint _ (List.mem_map_of_mem hx) n List.mem_cons_self hn
  · exact hpost (List.mem_map.mpr ⟨x, hx, hn⟩)

/-! ## The line of an expression -/

section Line

variable {T : Tables} {source raw : String} {analysis : Analysis} {n : ℕ}
  {caller p : ProcedureRange} {line : Line}

/-- The procedure that a call is of. -/
def Call.callee (T : Tables) (procedures : List ProcedureRange) (c : Call) :
    Option ProcedureRange :=
  knownByLower T.toUnicode procedures (String.ofList c.name)

/-- The first call of a procedure. -/
def firstOf (T : Tables) (procedures : List ProcedureRange) (p : ProcedureRange)
    (calls : List Call) : Option Call :=
  calls.find? fun c ↦ c.callee T procedures = some p

/-- The line of an expression in a procedure of the module. -/
structure ExpressionLine (T : Tables) (source : String) (analysis : Analysis) (raw : String)
    (n : ℕ) (caller : ProcedureRange) (line : Line) : Prop where
  mem : (raw, n) ∈ numberedLines source
  caller : procedureForLine (procedureRanges T analysis) n = some caller
  code : codeOf raw = String.ofList line.render
  expression : IsExpression T (codeOf raw)
  good : line.Good T (procedureRanges T analysis) none

/-- An expression is searched for the known names. -/
theorem readLine_of_expression (h : ExpressionLine T source analysis raw n caller line)
    (s : Reading) :
    s.readLine T (procedureRanges T analysis) (raw, n)
      = s.expression T (procedureRanges T analysis) caller n
        (finditer (knownCallRe T ((procedureRanges T analysis).map ProcedureRange.name))
          line.render) := by
  obtain ⟨-, hcaller, hcode, ⟨hne, hdeclaration, hending, hliteral, hdynamic, hcall⟩, -⟩ := h
  have hnames : (procedureRanges T analysis).map ProcedureRange.name ≠ [] := by
    intro h
    rw [List.map_eq_nil_iff] at h
    rw [procedureForLine, h] at hcaller
    cases hcaller
  rw [Reading.readLine]
  dsimp only
  rw [if_neg (by rw [hdeclaration, hending]; simpa using hne), hcaller]
  dsimp only
  rw [hliteral]
  dsimp only
  rw [hdynamic]
  dsimp only
  rw [hcall, knownCallPattern, if_neg hnames]
  dsimp only
  rw [hcode, String.toList_ofList]

/-- What the search finds on the line. -/
theorem groups_finditer (hnamed : Named T (procedureRanges T analysis))
    (h : ExpressionLine T source analysis raw n caller line) :
    (finditer (knownCallRe T ((procedureRanges T analysis).map ProcedureRange.name))
        line.render).map Match.groups
      = ((line.visible false).map fun c ↦ (c.name, c.captured)).map
        fun x ↦ [(2, x.2), (1, x.1)] := by
  have hfine : Fine T (procedureRanges T analysis) none line.tokens := by
    rw [← List.append_nil line.tokens]
    exact h.good.fine fun _ ↦ trivial
  have hscan := scan_tokens line false []
  rw [List.append_nil, Bool.false_and, scan, List.append_nil] at hscan
  rw [finditer, ← chars_tokens, groups_matchesFrom hnamed hfine, hscan]

/-- **What is recorded for the line.** -/
theorem mem_sites_iff (hnamed : Named T (procedureRanges T analysis))
    (h : ExpressionLine T source analysis raw n caller line) {site : CallSite}
    (hsite : site.line = n) :
    site ∈ (reading T source analysis).sites ↔
      ∃ p v, firstOf T (procedureRanges T analysis) p (line.visible false) = some v ∧
        site = ⟨caller, p, n, .functionExpression,
          splitArguments (some (String.ofList v.captured))⟩ := by
  obtain ⟨pre, post, hsplit, hpre, hpost⟩ := exists_split_numberedLines h.mem
  set procedures := procedureRanges T analysis with hprocedures
  obtain ⟨hsites, hseen⟩ := @foldl_readLine_of_ne T procedures _ _ hpre {}
  rw [reading, hsplit, List.foldl_append, List.foldl_cons,
    (foldl_readLine_of_ne hpost _).1 site hsite, readLine_of_expression h,
    expression_eq_foldl (groups_finditer hnamed h), mem_sites_foldl_found, hsites site hsite]
  constructor
  · rintro (hempty | ⟨p, x, -, hx, rfl⟩)
    · exact absurd hempty List.not_mem_nil
    · rw [List.find?_map, Option.map_eq_some_iff] at hx
      obtain ⟨v, hv, rfl⟩ := hx
      exact ⟨p, v, hv, rfl⟩
  · rintro ⟨p, v, hv, rfl⟩
    refine .inr ⟨p, (v.name, v.captured), fun hk ↦ ?_, ?_, rfl⟩
    · exact absurd (hseen _ rfl hk) List.not_mem_nil
    · rw [List.find?_map, Option.map_eq_some_iff]
      exact ⟨v, hv, rfl⟩

/-- The arguments of the calls of a line are well formed. -/
theorem Line.Good.inside {procedures : List ProcedureRange} {before : Option Char} {l : Line}
    (hl : l.Good T procedures before) {c : Call} (hc : c ∈ l.calls) :
    ∃ before, c.inside.Good T procedures before := by
  induction l generalizing before with
  | nil => exact absurd hc List.not_mem_nil
  | char d rest ih => exact ih hl.2 hc
  | call name space inside rest ihinside ihrest =>
    obtain ⟨-, -, -, hinside, hrest⟩ := hl
    obtain rfl | hc := List.mem_cons.mp hc
    · exact ⟨_, hinside⟩
    · exact (List.mem_append.mp hc).elim (ihinside hinside) (ihrest hrest)

theorem Line.Good.spells {procedures : List ProcedureRange} {before : Option Char} {l : Line}
    (hl : l.Good T procedures before) {c : Call} (hc : c ∈ l.calls) :
    Spells T procedures c.name := by
  induction l generalizing before with
  | nil => exact absurd hc List.not_mem_nil
  | char d rest ih => exact ih hl.2 hc
  | call name space inside rest ihinside ihrest =>
    obtain ⟨-, hname, -, hinside, hrest⟩ := hl
    obtain rfl | hc := List.mem_cons.mp hc
    · exact hname
    · exact (List.mem_append.mp hc).elim (ihinside hinside) (ihrest hrest)

/-- What is visible is there. -/
theorem mem_calls_of_mem_visible {l : Line} {hidden : Bool} {c : Call}
    (hc : c ∈ l.visible hidden) : c ∈ l.calls := by
  induction l generalizing hidden with
  | nil =>
    rw [Line.visible] at hc
    exact absurd hc List.not_mem_nil
  | char d rest ih =>
    rw [Line.visible] at hc
    exact ih hc
  | call name space inside rest ihinside ihrest =>
    cases hidden with
    | false =>
      obtain rfl | hc := List.mem_cons.mp hc
      · exact List.mem_cons_self
      · exact List.mem_cons_of_mem _ (List.mem_append.mpr
          ((List.mem_append.mp hc).imp ihinside ihrest))
    | true =>
      exact List.mem_cons_of_mem _ (List.mem_append.mpr
        ((List.mem_append.mp hc).imp ihinside ihrest))

/-- Calls without nested ones are visible. -/
theorem visible_of_flat {l : Line} (h : ∀ c ∈ l.calls, c.inside.calls = []) :
    l.visible false = l.calls := by
  have hnone : ∀ (l : Line) (hidden : Bool), l.calls = [] → l.visible hidden = [] := by
    intro l hidden hl
    refine List.eq_nil_iff_forall_not_mem.mpr fun c hc ↦ ?_
    exact absurd (mem_calls_of_mem_visible hc) (hl ▸ List.not_mem_nil)
  induction l with
  | nil => rfl
  | char d rest ih =>
    rw [Line.visible]
    exact ih h
  | call name space inside rest _ ih =>
    obtain ⟨hinside, h⟩ := List.forall_mem_cons.mp h
    rw [Line.visible, Line.calls, hnone inside true hinside, hinside,
      ih fun c hc ↦ h c (List.mem_append_right _ hc)]

/-- With a call among the arguments, they are cut off behind its opening parenthesis. -/
theorem opening_mem_captured {procedures : List ProcedureRange} {before : Option Char} {c : Call}
    (hl : c.inside.Good T procedures before) (hcalls : c.inside.calls ≠ []) :
    '(' ∈ c.captured := by
  rw [Call.captured]
  generalize c.inside = l at hl hcalls
  induction l generalizing before with
  | nil => exact absurd rfl hcalls
  | char d rest ih =>
    rw [Line.render, List.takeWhile_cons, if_pos (decide_eq_true hl.1.symbol.2.1)]
    exact List.mem_cons_of_mem _ (ih hl.2 hcalls)
  | call name space inside rest _ _ =>
    obtain ⟨-, hname, hspace, -⟩ := hl
    have hword : ∀ d ∈ name, decide (d ≠ ')') = true := fun d hd ↦
      decide_eq_true (bland_of_word (hname.word d hd)).2.1
    have hgap : ∀ d ∈ space, decide (d ≠ ')') = true := fun d hd ↦
      decide_eq_true (bland_of_space (hspace d hd).1).2.1
    rw [Line.render, List.takeWhile_append_of_pos hword, List.takeWhile_append_of_pos hgap,
      List.takeWhile_cons, if_pos (by decide)]
    simp

/-- Without one they are taken whole. -/
theorem captured_of_calls_eq_nil {procedures : List ProcedureRange} {before : Option Char}
    {c : Call} (hl : c.inside.Good T procedures before) (hcalls : c.inside.calls = []) :
    c.captured = c.inside.render := by
  rw [Call.captured, List.takeWhile_eq_self_iff]
  generalize c.inside = l at hl hcalls
  induction l generalizing before with
  | nil => exact fun d hd ↦ absurd hd List.not_mem_nil
  | char d rest ih =>
    exact List.forall_mem_cons.mpr ⟨decide_eq_true hl.1.symbol.2.1, ih hl.2 hcalls⟩
  | call name space inside rest _ _ => cases hcalls

/-- The arguments of a call are read off what is captured for another one if and only if that one
has no call among its arguments, and the same arguments. -/
theorem splitArguments_captured_iff {procedures : List ProcedureRange}
    {before before' : Option Char} {v f : Call} (hv : v.inside.Good T procedures before)
    (hf : f.inside.Good T procedures before') :
    splitArguments (some (String.ofList v.captured)) = f.arguments ↔
      v.inside.calls = [] ∧ v.arguments = f.arguments := by
  constructor
  · intro h
    have hcalls : v.inside.calls = [] := by
      by_contra hcalls
      have hmarks : ∀ c ∈ v.captured, c ≠ doubleQuote ∧ c ≠ apostrophe := fun c hc ↦
        render_unmarked hv c ((List.takeWhile_prefix _).subset hc)
      have hclose : ')' ∉ v.captured := fun hmem ↦ by
        rw [Call.captured] at hmem
        exact absurd (List.mem_takeWhile_imp hmem) (by decide)
      obtain ⟨a, ha, hopen, hclosed⟩ :=
        splitArguments_cut hmarks (opening_mem_captured hv hcalls) hclose
      rw [h] at ha
      exact hclosed (closed_of_mem_arguments hf ha hopen)
    rw [captured_of_calls_eq_nil hv hcalls, splitArguments_render hv] at h
    exact ⟨hcalls, h⟩
  · rintro ⟨hcalls, h⟩
    rw [captured_of_calls_eq_nil hv hcalls, splitArguments_render hv, h]

/-! ## The calls of a line -/

theorem mem_edges {site : CallSite} (h : site ∈ (reading T source analysis).sites) :
    site.edge T ∈ (sourceCallSites T source analysis).1 := List.mem_map_of_mem h

theorem parameterBindings_edge (site : CallSite) :
    (site.edge T).parameterBindings
      = bindingPayload T site.arguments site.callee.parameters := by rw [CallSite.edge]

/-- Every procedure that is called on the line is recorded, with the arguments of its first call. -/
def Recorded (T : Tables) (source : String) (analysis : Analysis) (n : ℕ)
    (caller : ProcedureRange) (line : Line) : Prop :=
  ∀ p f, firstOf T (procedureRanges T analysis) p line.calls = some f →
    (⟨caller, p, n, .functionExpression, f.arguments⟩ : CallSite)
      ∈ (reading T source analysis).sites

/-- For every procedure that is called on the line there is an edge, and its bindings are those of
the arguments of the first call. -/
def Bound (T : Tables) (source : String) (analysis : Analysis) (n : ℕ)
    (caller : ProcedureRange) (line : Line) : Prop :=
  ∀ p f, firstOf T (procedureRanges T analysis) p line.calls = some f →
    ∃ e ∈ (sourceCallSites T source analysis).1, e.caller = caller.node ∧ e.callee = p.node ∧
      e.line = some n ∧ e.parameterBindings = bindingPayload T f.arguments p.parameters

/-- The calls of a line are of known procedures. -/
theorem exists_callee (h : ExpressionLine T source analysis raw n caller line) {c : Call}
    (hc : c ∈ line.calls) :
    ∃ p f, c.callee T (procedureRanges T analysis) = some p ∧
      firstOf T (procedureRanges T analysis) p line.calls = some f := by
  obtain ⟨q, hq, hlower, -⟩ := (h.good.spells hc).known
  have hknown : (c.callee T (procedureRanges T analysis)).isSome := by
    rw [Call.callee, knownByLower, List.find?_isSome]
    exact ⟨q, List.mem_reverse.mpr hq, decide_eq_true hlower⟩
  obtain ⟨p, hp⟩ := Option.isSome_iff_exists.mp hknown
  have hfirst : (firstOf T (procedureRanges T analysis) p line.calls).isSome := by
    rw [firstOf, List.find?_isSome]
    exact ⟨c, hc, decide_eq_true hp⟩
  obtain ⟨f, hf⟩ := Option.isSome_iff_exists.mp hfirst
  exact ⟨p, f, hp, hf⟩

/-- All procedures are recorded if and only if for each of them the first call that is found has no
call among its arguments, and the arguments of the first call there is. -/
theorem recorded_iff (hnamed : Named T (procedureRanges T analysis))
    (h : ExpressionLine T source analysis raw n caller line) :
    Recorded T source analysis n caller line ↔
      ∀ p f, firstOf T (procedureRanges T analysis) p line.calls = some f →
        ∃ v, firstOf T (procedureRanges T analysis) p (line.visible false) = some v ∧
          v.inside.calls = [] ∧ v.arguments = f.arguments := by
  refine forall₃_congr fun p f hf ↦ ?_
  obtain ⟨before, hfgood⟩ := h.good.inside (List.mem_of_find?_eq_some hf)
  rw [mem_sites_iff hnamed h rfl]
  constructor
  · rintro ⟨q, v, hv, heq⟩
    obtain ⟨-, rfl, -, -, harguments⟩ := CallSite.mk.inj heq
    obtain ⟨before', hvgood⟩ :=
      h.good.inside (mem_calls_of_mem_visible (List.mem_of_find?_eq_some hv))
    exact ⟨v, hv, (splitArguments_captured_iff hvgood hfgood).mp harguments.symm⟩
  · rintro ⟨v, hv, hflat⟩
    obtain ⟨before', hvgood⟩ :=
      h.good.inside (mem_calls_of_mem_visible (List.mem_of_find?_eq_some hv))
    exact ⟨p, v, hv, by rw [(splitArguments_captured_iff hvgood hfgood).mpr hflat]⟩

/-- What is recorded becomes an edge with its bindings. -/
theorem Recorded.bound (h : Recorded T source analysis n caller line) :
    Bound T source analysis n caller line := fun p f hf ↦
  ⟨_, mem_edges (h p f hf), rfl, rfl, rfl, parameterBindings_edge _⟩

/-- **When no call is lost.** -/
theorem nested_iff (hnamed : Named T (procedureRanges T analysis))
    (h : ExpressionLine T source analysis raw n caller line) :
    (Recorded T source analysis n caller line ↔
      ∀ p f, firstOf T (procedureRanges T analysis) p line.calls = some f →
        ∃ v, firstOf T (procedureRanges T analysis) p (line.visible false) = some v ∧
          v.inside.calls = [] ∧ v.arguments = f.arguments) ∧
    (Recorded T source analysis n caller line → Bound T source analysis n caller line) :=
  ⟨recorded_iff hnamed h, Recorded.bound⟩

/-- In particular no call is lost on a line without nested calls. -/
theorem recorded_of_flat (hnamed : Named T (procedureRanges T analysis))
    (h : ExpressionLine T source analysis raw n caller line)
    (hflat : ∀ c ∈ line.calls, c.inside.calls = []) :
    Recorded T source analysis n caller line := by
  refine (recorded_iff hnamed h).mpr fun p f hf ↦ ?_
  refine ⟨f, ?_, hflat f (List.mem_of_find?_eq_some hf), rfl⟩
  rw [visible_of_flat hflat, hf]

end Line

/-! ## Two lines -/

section Decidable

variable (T : Tables)

instance (c : Char) : Decidable (Plain T c) :=
  decidable_of_iff ((isWord T.toUnicode c = true ∨ isSpace c = true ∨ c.toNat < 128) ∧
      c ≠ '(' ∧ c ≠ ')' ∧ c ≠ '\n' ∧ c ≠ doubleQuote ∧ c ≠ apostrophe)
    ⟨fun h ↦ ⟨h.1, h.2⟩, fun h ↦ ⟨h.1, h.2⟩⟩

-- `List.all` keeps the characters of the text from being sought among all characters

instance (procedures : List ProcedureRange) (name : List Char) :
    Decidable (Spells T procedures name) :=
  decidable_of_iff (name ≠ [] ∧ name.all (isWord T.toUnicode) = true ∧
      ∃ p ∈ procedures, T.lower p.name = T.lower (String.ofList name) ∧
        List.Forall₂ (fun c d ↦ T.same c d = true) p.name.toList name)
    ⟨fun h ↦ ⟨h.1, List.all_eq_true.mp h.2.1, h.2.2⟩,
      fun h ↦ ⟨h.1, List.all_eq_true.mpr h.2, h.3⟩⟩

instance (space : List Char) : Decidable (Gap space) :=
  decidable_of_iff (space.all fun c ↦ isSpace c && c != '\n')
    (by simp [Gap, List.all_eq_true])

instance decidableGood (procedures : List ProcedureRange) :
    (before : Option Char) → (l : Line) → Decidable (l.Good T procedures before)
  | _, .nil => instDecidableTrue
  | _, .char c rest =>
    have := decidableGood procedures (some c) rest
    inferInstanceAs (Decidable (_ ∧ _))
  | before, .call name space inside rest =>
    have := decidableGood procedures (some '(') inside
    have := decidableGood procedures (some ')') rest
    have : Decidable (∀ c ∈ before, isWord T.toUnicode c = false) :=
      decidable_of_iff (before.any (isWord T.toUnicode) = false) (by cases before <;> simp)
    inferInstanceAs (Decidable (_ ∧ Spells T procedures name ∧ Gap space ∧
      inside.Good T procedures (some '(') ∧ rest.Good T procedures (some ')')))

instance (procedures : List ProcedureRange) : Decidable (Named T procedures) :=
  decidable_of_iff (∀ p ∈ procedures, p.name ≠ "" ∧ p.name.toList.all (isWord T.toUnicode) = true)
    (by simp only [Named, List.all_eq_true])

instance (code : String) : Decidable (IsExpression T code) :=
  decidable_of_iff (code ≠ "" ∧ matchStart (declarationRe T) code.toList = none ∧
      matchStart (endRe T) code.toList = none ∧ search (runLiteralRe T) code.toList = none ∧
      search (runDynamicRe T) code.toList = none ∧ matchStart (callRe T) code.toList = none)
    ⟨fun h ↦ ⟨h.1, h.2.1, h.2.2.1, h.2.2.2.1, h.2.2.2.2.1, h.2.2.2.2.2⟩,
      fun h ↦ ⟨h.1, h.2, h.3, h.4, h.5, h.6⟩⟩

instance (source : String) (analysis : Analysis) (raw : String) (n : ℕ) (caller : ProcedureRange)
    (line : Line) : Decidable (ExpressionLine T source analysis raw n caller line) :=
  decidable_of_iff ((raw, n) ∈ numberedLines source ∧
      procedureForLine (procedureRanges T analysis) n = some caller ∧
      codeOf raw = String.ofList line.render ∧ IsExpression T (codeOf raw) ∧
      line.Good T (procedureRanges T analysis) none)
    ⟨fun h ↦ ⟨h.1, h.2.1, h.2.2.1, h.2.2.2.1, h.2.2.2.2⟩,
      fun h ↦ ⟨h.1, h.2, h.3, h.4, h.5⟩⟩

end Decidable

/-- A module with a line without nested calls and a line with one. -/
def sample : String :=
  "Sub A(x, y)\nEnd Sub\nSub B(z)\nEnd Sub\nSub Main()\nx = A(1, y) + b(2)\nx = A(B(1), 2)\nEnd Sub"

def sampleAnalysis : Analysis where
  moduleName := some "m"
  procedures := [⟨"A", 1, 2, ["x", "y"]⟩, ⟨"B", 3, 4, ["z"]⟩, ⟨"Main", 5, 8, []⟩]

/-- Characters before the rest of a line. -/
def Line.chars (s : String) (rest : Line) : Line := s.toList.foldr Line.char rest

def flatLine : Line :=
  .chars "x = " (.call ['A'] [] (.chars "1, y" .nil)
    (.chars " + " (.call ['b'] [] (.chars "2" .nil) .nil)))

def nestedLine : Line :=
  .chars "x = " (.call ['A'] [] (.call ['B'] [] (.chars "1" .nil) (.chars ", 2" .nil)) .nil)

def mainRange : ProcedureRange := ⟨"m", "Main", 5, 8, []⟩

example : nestedLine.calls.length = 2 := by decide +kernel

theorem expressionLine_flat :
    ExpressionLine .ascii sample sampleAnalysis "x = A(1, y) + b(2)" 6 mainRange flatLine := by
  decide +kernel

theorem expressionLine_nested :
    ExpressionLine .ascii sample sampleAnalysis "x = A(B(1), 2)" 7 mainRange nestedLine := by
  decide +kernel

theorem named_sample : Named .ascii (procedureRanges .ascii sampleAnalysis) := by
  decide +kernel

/-- On a line without nested calls all is well. -/
theorem nested_iff_sample :
    Recorded .ascii sample sampleAnalysis 6 mainRange flatLine ∧
      Bound .ascii sample sampleAnalysis 6 mainRange flatLine := by
  obtain ⟨hiff, hbound⟩ := nested_iff named_sample expressionLine_flat
  have hrecorded : Recorded .ascii sample sampleAnalysis 6 mainRange flatLine := by
    refine hiff.mpr fun p f hf ↦ ⟨f, ?_, ?_, rfl⟩
    · rwa [show flatLine.visible false = flatLine.calls by rfl]
    · have hflat : flatLine.calls.all (fun c ↦ c.inside.calls.isEmpty) = true := by decide +kernel
      exact List.isEmpty_iff.mp (List.all_eq_true.mp hflat f (List.mem_of_find?_eq_some hf))
  exact ⟨hrecorded, hbound hrecorded⟩

/-- Of `A(B(1), 2)` the call of `B` is lost, and `A` is bound to `B(1`. -/
theorem nested_call_lost :
    ExpressionLine .ascii sample sampleAnalysis "x = A(B(1), 2)" 7 mainRange nestedLine ∧
    ¬Recorded .ascii sample sampleAnalysis 7 mainRange nestedLine ∧
    ((sourceCallSites .ascii sample sampleAnalysis).1.filter fun e ↦ e.line = some 7).map
        (fun e ↦ (e.callee, e.parameterBindings.map Binding.argument))
      = [("m.A", ["B(1"])] := by
  refine ⟨expressionLine_nested, fun h ↦ ?_, by decide +kernel⟩
  have hB := h ⟨"m", "B", 3, 4, ["z"]⟩ ⟨['B'], .chars "1" .nil⟩ (by decide +kernel)
  exact absurd hB (by decide +kernel)

end Vba

end ReqSys
