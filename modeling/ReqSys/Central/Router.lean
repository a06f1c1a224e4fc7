import Mathlib
import ReqSys.Central.Models
import ReqSys.Foundation.Words

/-!
# The Central: the executor router

`ExecutorRouter.route` joins the title, the target system and the signals to one text, normalizes it
and looks for the terms of each rule in it. `route_eq` reads this as words: a term is present when
its words occur one after the other among the words of all fields, taken in order.

The fields are not told apart any more by then, so a term of several words may stand across the
border of two fields, and which fields meet depends on the order of the signals. A term of one word
cannot (`ocorre_flatMap_of_single`). `route_words` says when this makes a difference.

## Accents and case

`unicodedata.normalize("NFKD", …)` decomposes character by character and then reorders combining
characters only; these are dropped, so what is left is computed character by character. `Folding`
holds the table, and what the router needs to know about lower case: whether a sigma is final is
decided inside a word.
-/

namespace ReqSys

namespace Central

open PyText Words

/-! ## Rules -/

structure RoutingRule where
  ruleId : String
  executor : ExecutorKind
  terms : List String
  humanReason : Option String := none

/-- `ROUTING_RULES`. The order matters: the first rule with a term present wins. -/
def routingRules : List RoutingRule := [
  { ruleId := "identity.blocked"
    executor := .humanGate
    terms := ["consentimento", "admin consent", "permissao", "permission", "credencial",
      "credential", "segredo", "secret", "token expirado", "expired token", "unauthorized",
      "forbidden", "403", "401"]
    humanReason := some "identity_or_permission_missing" },
  { ruleId := "ci.repair"
    executor := .ciRepair
    terms := ["ci", "workflow", "pipeline", "check", "gate", "github actions", "job falhou",
      "build quebrado", "smoke"] },
  { ruleId := "microsoft.graph"
    executor := .graph
    terms := ["graph", "teams", "planner", "sharepoint", "outlook", "m365", "microsoft 365",
      "power platform"] },
  { ruleId := "data.sql"
    executor := .sql
    terms := ["sql", "sql server", "banco de dados", "database", "stored procedure", "t-sql"] },
  { ruleId := "artifact.drive"
    executor := .drive
    terms := ["drive", "google drive", "planilha", "excel", "xlsx", "artefato", "upload"] },
  { ruleId := "desktop.command_gateway"
    executor := .commandGateway
    terms := ["remote desktop", "command gateway", "terminal", "maquina local", "powershell"] },
  { ruleId := "scm.github"
    executor := .github
    terms := ["pull request", "pr", "issue", "branch", "merge", "repositorio", "repository",
      "commit", "gitlab"] },
  { ruleId := "docs"
    executor := .docs
    terms := ["documentacao", "documentation", "readme", "changelog", "runbook"] }]

/-- `UNCLASSIFIED_RULE`. -/
def unclassifiedRule : String := "unclassified"

/-! ## Normalization -/

/-- The tables of the interpreter that the router uses. -/
structure Folding where
  unicode : Unicode
  /-- The compatibility decomposition of a character, without its combining characters. -/
  semAcento : Char → List Char
  semAcento_ascii : ∀ c, c.toNat < 128 → semAcento c = [c]
  lower_blank : ∀ s t,
    unicode.lower (s ++ " " ++ t) = unicode.lower s ++ " " ++ unicode.lower t

variable (F : Folding)

/-- The words of a text: accents removed, lower case, split at everything not alphanumeric. -/
def tokens (texto : String) : List (List Char) :=
  words isSpace ((F.unicode.lower (String.ofList (texto.toList.flatMap F.semAcento))).toList.map
    fun ch ↦ if F.unicode.isAlnum ch then ch else ' ')

/-- `_normalizar`. -/
def normalizar (texto : String) : String :=
  " " ++ String.intercalate " " ((tokens F texto).map String.ofList) ++ " "

/-- `_termo_presente`. -/
def termoPresente (corpusNormalizado termo : String) : Bool :=
  let alvo := normalizar F termo
  strip alvo != "" && contains alvo corpusNormalizado

/-! ## The decision -/

/-- The terms of a rule that are present. -/
def RoutingRule.encontrados (rule : RoutingRule) (presente : String → Bool) : List String :=
  rule.terms.filter presente

/-- The first rule with a term present. -/
def primeira (presente : String → Bool) (rules : List RoutingRule) : Option RoutingRule :=
  rules.find? fun rule ↦ rule.encontrados presente ≠ []

/-- The loop of `route`. -/
def decidir (presente : String → Bool) (rules : List RoutingRule) : RoutingDecision :=
  match primeira presente rules with
  | some rule =>
    { executor := rule.executor
      ruleId := rule.ruleId
      matchedTerms := rule.encontrados presente
      requiresHuman := rule.executor = .humanGate
      humanReason := rule.humanReason }
  | none =>
    { executor := .humanGate
      ruleId := unclassifiedRule
      requiresHuman := true
      humanReason := some "no_matching_executor_rule" }

/-- The fields that are searched. -/
def WorkRequestFields.campos (entrada : WorkRequestFields) : List String :=
  entrada.title :: entrada.targetSystem.getD "" :: entrada.signals

/-- `route`. -/
def route (rules : List RoutingRule) (entrada : WorkRequestInput) : RoutingDecision :=
  let corpus := normalizar F (String.intercalate " " (entrada.campos.filter (· ≠ "")))
  decidir (termoPresente F corpus) rules

/-! ## Words of the fields -/

/-- The words of a term occur one after the other. -/
def ocorre (termo : String) (ws : List (List Char)) : Bool :=
  tokens F termo ≠ [] && decide (tokens F termo <:+: ws)

/-- The words of all fields, in order. -/
def tokensDe (entrada : WorkRequestFields) : List (List Char) := entrada.campos.flatMap (tokens F)

/-- The term occurs inside one field. -/
def noCampo (entrada : WorkRequestFields) (termo : String) : Bool :=
  entrada.campos.any fun campo ↦ ocorre F termo (tokens F campo)

variable {F}

theorem plain_tokens (texto : String) : Plain ' ' (tokens F texto) := by
  intro w hw
  obtain ⟨hne, hblank⟩ := mem_words hw
  refine ⟨hne, fun h ↦ ?_⟩
  have hspace : isSpace ' ' = true := by decide
  rw [hblank ' ' h] at hspace
  cases hspace

theorem tokens_empty : tokens F "" = [] := by
  have hlower : F.unicode.lower "" = "" := F.unicode.lower_ascii "" (by decide)
  rw [tokens]
  change words isSpace ((F.unicode.lower "").toList.map _) = []
  rw [hlower]
  rfl

/-- **A blank separates words**: accents, case and the split look at each side alone. -/
theorem tokens_append (s t : String) :
    tokens F (s ++ " " ++ t) = tokens F s ++ tokens F t := by
  have hblank : F.semAcento ' ' = [' '] := F.semAcento_ascii ' ' (by decide)
  have halnum : F.unicode.isAlnum ' ' = false := F.unicode.isAlnum_ascii ' ' (by decide)
  have hfold : String.ofList ((s ++ " " ++ t).toList.flatMap F.semAcento)
      = String.ofList (s.toList.flatMap F.semAcento) ++ " "
        ++ String.ofList (t.toList.flatMap F.semAcento) := by
    refine String.toList_injective ?_
    simp only [String.toList_append, String.toList_ofList, List.flatMap_append]
    change _ ++ (F.semAcento ' ' ++ []) ++ _ = _ ++ [' '] ++ _
    rw [hblank]
    rfl
  rw [tokens, hfold, F.lower_blank, String.toList_append, String.toList_append, List.map_append,
    List.map_append, List.append_assoc]
  change words isSpace (_ ++ (if F.unicode.isAlnum ' ' then ' ' else ' ') :: _) = _
  rw [words_append_cons _ _ (by rw [ite_self]; decide)]
  rfl

theorem tokens_intercalate (parts : List String) :
    tokens F (String.intercalate " " parts) = parts.flatMap (tokens F) := by
  induction parts with
  | nil => exact tokens_empty
  | cons s parts ih =>
    cases parts with
    | nil =>
      rw [List.flatMap_singleton]
      rfl
    | cons t parts =>
      rw [String.intercalate_cons_cons, tokens_append, ih, List.flatMap_cons, List.flatMap_cons,
        List.flatMap_cons]

/-- Leaving out empty fields leaves out no word. -/
theorem tokens_corpus (entrada : WorkRequestFields) :
    tokens F (String.intercalate " " (entrada.campos.filter (· ≠ ""))) = tokensDe F entrada := by
  rw [tokens_intercalate, tokensDe]
  induction entrada.campos with
  | nil => rfl
  | cons s parts ih =>
    by_cases hs : s = ""
    · rw [List.filter_cons_of_neg (by simp [hs]), ih, hs, List.flatMap_cons, tokens_empty]
      rfl
    · rw [List.filter_cons_of_pos (by simp [hs]), List.flatMap_cons, ih, List.flatMap_cons]

theorem toList_normalizar {texto : String} (h : tokens F texto ≠ []) :
    (normalizar F texto).toList = pad ' ' (tokens F texto) := by
  have hjoin : ∀ ws : List (List Char), ws ≠ [] →
      (String.intercalate " " (ws.map String.ofList) ++ " ").toList
        = ws.flatMap fun w ↦ w ++ [' '] := by
    intro ws
    induction ws with
    | nil => exact fun h ↦ absurd rfl h
    | cons w ws ih =>
      intro _
      cases ws with
      | nil =>
        rw [List.flatMap_singleton, String.toList_append]
        exact congrArg (· ++ [' ']) String.toList_ofList
      | cons w' ws =>
        have ih := ih (List.cons_ne_nil _ _)
        rw [String.toList_append, List.map_cons] at ih
        rw [List.map_cons, List.map_cons, String.intercalate_cons_cons, List.flatMap_cons, ← ih]
        simp only [String.toList_append, String.toList_ofList, List.append_assoc]
        rfl
  rw [normalizar, String.append_assoc, String.toList_append, hjoin _ h]
  rfl

/-- **The substring test compares words.** -/
theorem termoPresente_normalizar (texto termo : String) :
    termoPresente F (normalizar F texto) termo = ocorre F termo (tokens F texto) := by
  rw [termoPresente, ocorre]
  by_cases hterm : tokens F termo = []
  · have hstrip : strip (normalizar F termo) = "" := by
      rw [normalizar, hterm]
      decide
    rw [hstrip, hterm]
    rfl
  · obtain ⟨w, hw⟩ := List.exists_mem_of_ne_nil _ hterm
    obtain ⟨hne, hblank⟩ := mem_words hw
    obtain ⟨c, hc⟩ := List.exists_mem_of_ne_nil _ hne
    have hmem : c ∈ pad ' ' (tokens F termo) :=
      List.mem_cons_of_mem _ (List.mem_flatMap.mpr ⟨w, hw, List.mem_append_left _ hc⟩)
    have hstrip : strip (normalizar F termo) ≠ "" := by
      refine strip_ne_empty ?_ (hblank c hc)
      rw [toList_normalizar hterm]
      exact hmem
    rw [bne_iff_ne.mpr hstrip, decide_eq_true hterm, Bool.true_and, Bool.true_and, Bool.eq_iff_iff,
      contains_iff, decide_eq_true_iff, toList_normalizar hterm]
    by_cases htext : tokens F texto = []
    · -- a text without words holds two blanks
      rw [htext]
      refine iff_of_false (fun h ↦ ?_) fun h ↦ hterm (List.eq_nil_of_infix_nil h)
      have hc' : c ∈ (normalizar F texto).toList := h.subset hmem
      rw [normalizar, htext] at hc'
      have hblank' : c = ' ' := by simpa using hc'
      have hspace := hblank c hc
      rw [hblank'] at hspace
      exact absurd hspace (by decide)
    · rw [toList_normalizar htext]
      exact pad_infix_pad_iff (plain_tokens termo) (plain_tokens texto)

/-- **The decision of the router**, read on words. -/
theorem route_eq (rules : List RoutingRule) (entrada : WorkRequestInput) :
    route F rules entrada
      = decidir (fun termo ↦ ocorre F termo (tokensDe F entrada.toWorkRequestFields)) rules := by
  have hpresente : termoPresente F
      (normalizar F (String.intercalate " " (entrada.campos.filter (· ≠ ""))))
        = fun termo ↦ ocorre F termo (tokensDe F entrada.toWorkRequestFields) := by
    funext termo
    rw [termoPresente_normalizar, tokens_corpus]
  rw [route, hpresente]

/-! ## Inside one field -/

theorem noCampo_iff {entrada : WorkRequestFields} {termo : String} :
    noCampo F entrada termo = true ↔
      ∃ campo ∈ entrada.campos, ocorre F termo (tokens F campo) = true := List.any_eq_true

theorem ocorre_iff {termo : String} {ws : List (List Char)} :
    ocorre F termo ws = true ↔ tokens F termo ≠ [] ∧ tokens F termo <:+: ws := by
  rw [ocorre, Bool.and_eq_true, decide_eq_true_iff, decide_eq_true_iff]

/-- What occurs inside a field occurs among the words of all fields. -/
theorem ocorre_of_noCampo {entrada : WorkRequestFields} {termo : String}
    (h : noCampo F entrada termo = true) : ocorre F termo (tokensDe F entrada) = true := by
  obtain ⟨campo, hcampo, h⟩ := noCampo_iff.mp h
  obtain ⟨hne, hpart⟩ := ocorre_iff.mp h
  refine ocorre_iff.mpr ⟨hne, hpart.trans ?_⟩
  obtain ⟨before, after, hsplit⟩ := List.append_of_mem hcampo
  rw [tokensDe, hsplit, List.flatMap_append, List.flatMap_cons, ← List.append_assoc]
  exact List.infix_append _ _ _

/-- A term of one word does not stand across a border. -/
theorem noCampo_of_single {entrada : WorkRequestFields} {termo : String}
    (hone : (tokens F termo).length ≤ 1) (h : ocorre F termo (tokensDe F entrada) = true) :
    noCampo F entrada termo = true := by
  obtain ⟨hne, hpart⟩ := ocorre_iff.mp h
  obtain ⟨w, hw⟩ : ∃ w, tokens F termo = [w] :=
    List.length_eq_one_iff.mp (le_antisymm hone (List.length_pos_of_ne_nil hne))
  rw [hw] at hpart
  obtain ⟨campo, hcampo, hmem⟩ := List.mem_flatMap.mp (hpart.subset List.mem_cons_self)
  refine noCampo_iff.mpr ⟨campo, hcampo, ocorre_iff.mpr ⟨hne, ?_⟩⟩
  rw [hw]
  exact (List.singleton_infix_iff _ _).mpr hmem

/-! ## Matching across a border -/

/-- The first rule with a term among the words of all fields has no term that only stands across a
border. -/
def SemBorda (F : Folding) (rules : List RoutingRule) (entrada : WorkRequestFields) : Prop :=
  ∀ rule, primeira (fun termo ↦ ocorre F termo (tokensDe F entrada)) rules = some rule →
    ∀ termo ∈ rule.terms, ocorre F termo (tokensDe F entrada) = true →
      noCampo F entrada termo = true

/-- Two ways of matching, the second one finding less, decide the same exactly when they agree on
the terms of the rule that is found first. -/
theorem decidir_eq_iff {p q : String → Bool} (hpq : ∀ t, p t = true → q t = true)
    (rules : List RoutingRule) :
    decidir q rules = decidir p rules ↔
      ∀ rule, primeira q rules = some rule → ∀ t ∈ rule.terms, q t = true → p t = true := by
  constructor
  · intro h rule hrule t ht hq
    have hterms := congrArg RoutingDecision.matchedTerms h
    rw [decidir, hrule] at hterms
    have hmem : t ∈ rule.encontrados q := List.mem_filter.mpr ⟨ht, hq⟩
    change rule.encontrados q = _ at hterms
    rw [hterms, decidir] at hmem
    rcases hp : primeira p rules with _ | rule'
    · rw [hp] at hmem
      exact absurd hmem List.not_mem_nil
    · rw [hp] at hmem
      exact (List.mem_filter.mp hmem).2
  · intro h
    have hempty : ∀ rule : RoutingRule, rule.encontrados q = [] → rule.encontrados p = [] :=
      fun rule hnone ↦ List.filter_eq_nil_iff.mpr fun t ht hpt ↦
        List.filter_eq_nil_iff.mp hnone t ht (hpq t hpt)
    rcases hq : primeira q rules with _ | rule
    · have hp : primeira p rules = none := by
        refine List.find?_eq_none.mpr fun rule hrule hfound ↦ ?_
        have hnone : rule.encontrados q = [] :=
          not_not.mp fun hne ↦ List.find?_eq_none.mp hq rule hrule (decide_eq_true hne)
        exact of_decide_eq_true hfound (hempty rule hnone)
      rw [decidir, decidir, hq, hp]
    · -- the rule found first keeps its terms, and the rules before it have none
      have hsame : rule.encontrados p = rule.encontrados q := by
        refine List.filter_congr fun t ht ↦ ?_
        exact Bool.eq_iff_iff.mpr ⟨hpq t, h rule hq t ht⟩
      have hp : primeira p rules = some rule := by
        obtain ⟨hfound, before, after, hsplit, hbefore⟩ := List.find?_eq_some_iff_append.mp hq
        refine List.find?_eq_some_iff_append.mpr ⟨?_, before, after, hsplit, fun rule' hrule' ↦ ?_⟩
        · rw [hsame]
          exact hfound
        · have hnone := hbefore rule' hrule'
          rw [Bool.not_eq_true', decide_eq_false_iff_not, not_not] at hnone ⊢
          exact hempty rule' hnone
      rw [decidir, decidir, hq, hp]
      simp only [hsame]

theorem noCampo_of_perm {entrada entrada' : WorkRequestFields}
    (htitle : entrada'.title = entrada.title)
    (htarget : entrada'.targetSystem = entrada.targetSystem)
    (hsignals : entrada'.signals.Perm entrada.signals) :
    noCampo F entrada' = noCampo F entrada := by
  funext termo
  rw [Bool.eq_iff_iff, noCampo_iff, noCampo_iff, WorkRequestFields.campos, WorkRequestFields.campos,
    htitle, htarget]
  simp only [List.mem_cons, hsignals.mem_iff]

/-- **The router on words.** It decides by the first rule of which a term has its words, one after
the other, among the words of the title, the target system and the signals in this order, and the
matched terms are those. This is the decision over the single fields exactly when the rule it finds
has no term that only stands across a border; where that holds for two orders of the signals, the
decision is the same. A term of one word never stands across a border. -/
theorem route_words (F : Folding) (rules : List RoutingRule) (entrada : WorkRequestInput) :
    route F rules entrada
        = decidir (fun termo ↦ ocorre F termo (tokensDe F entrada.toWorkRequestFields)) rules ∧
      (route F rules entrada = decidir (noCampo F entrada.toWorkRequestFields) rules ↔
        SemBorda F rules entrada.toWorkRequestFields) ∧
      (∀ entrada' : WorkRequestInput, entrada'.title = entrada.title →
        entrada'.targetSystem = entrada.targetSystem → entrada'.signals.Perm entrada.signals →
        SemBorda F rules entrada.toWorkRequestFields →
        SemBorda F rules entrada'.toWorkRequestFields →
          route F rules entrada' = route F rules entrada) ∧
      ∀ termo, (tokens F termo).length ≤ 1 →
        ocorre F termo (tokensDe F entrada.toWorkRequestFields)
          = noCampo F entrada.toWorkRequestFields termo := by
  have hfields : ∀ e : WorkRequestInput,
      (route F rules e = decidir (noCampo F e.toWorkRequestFields) rules ↔
        SemBorda F rules e.toWorkRequestFields) := by
    intro e
    rw [route_eq]
    exact decidir_eq_iff (fun t ↦ ocorre_of_noCampo) rules
  refine ⟨route_eq rules entrada, hfields entrada, ?_, fun termo hone ↦ ?_⟩
  · intro entrada' htitle htarget hsignals h h'
    rw [(hfields entrada').mpr h', (hfields entrada).mpr h,
      noCampo_of_perm htitle htarget hsignals]
  · exact Bool.eq_iff_iff.mpr ⟨noCampo_of_single hone, ocorre_of_noCampo⟩

/-! ### A term across two signals -/

/-- Tables that leave everything beyond ASCII alone. -/
def Folding.ascii : Folding where
  unicode := Unicode.ascii
  semAcento c := [c]
  semAcento_ascii _ _ := rfl
  lower_blank s t := by
    refine String.toList_injective ?_
    simp only [Unicode.ascii, asciiLower, String.toList_append, String.toList_ofList,
      List.map_append]
    rfl

/-- Two signals that make a term, in this order. -/
def buildQuebrado : WorkRequestInput where
  title := "Revisar contrato"
  project := "reqsys"
  rootCauseId := "rc-1"
  correlationId := "corr-0001"
  signals := ["ultimo build", "quebrado ontem"]
  valid := by decide +kernel

/-- The same signals in the other order. -/
def quebradoBuild : WorkRequestInput where
  title := "Revisar contrato"
  project := "reqsys"
  rootCauseId := "rc-1"
  correlationId := "corr-0001"
  signals := ["quebrado ontem", "ultimo build"]
  valid := by decide +kernel

/-- No field holds the term, and the order of the signals decides. -/
theorem route_across_border : ¬∀ (F : Folding) (rules : List RoutingRule)
    (entrada entrada' : WorkRequestInput), entrada'.title = entrada.title →
    entrada'.targetSystem = entrada.targetSystem → entrada'.signals.Perm entrada.signals →
    route F rules entrada = decidir (noCampo F entrada.toWorkRequestFields) rules ∧
      route F rules entrada' = route F rules entrada := by
  intro h
  have hboth := h Folding.ascii routingRules buildQuebrado quebradoBuild rfl rfl
    (List.Perm.swap _ _ _)
  have hrule := congrArg RoutingDecision.ruleId hboth.2
  revert hrule
  decide +kernel

end Central

end ReqSys
