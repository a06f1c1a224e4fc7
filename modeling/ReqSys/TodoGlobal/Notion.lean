import Mathlib
import ReqSys.Foundation.CallsIn
import ReqSys.Foundation.Guarded
import ReqSys.Foundation.PyText

/-!
# The global todo in Notion

`NotionTodoGlobalClient.upsert` keeps one page for each idempotency key: it queries for the key,
creates a page or patches the one that it has found, and queries again to compare what is stored
with what was sent. Notion has no unique constraint, so a query that finds two pages is an error,
and from then on every upsert of the key fails.

Clients interleave between their requests. A patch keeps the key of its page. A page that is created
has a new key as long as no other client has created one since the query.
-/

namespace ReqSys

namespace TodoGlobal

open PyText

/-! ## Events -/

inductive TodoStatus
  | pendente
  | emAndamento
  | bloqueado
  | concluido
  | cancelado
  deriving DecidableEq

def TodoStatus.text : TodoStatus → String
  | pendente => "PENDENTE"
  | emAndamento => "EM ANDAMENTO"
  | bloqueado => "BLOQUEADO"
  | concluido => "CONCLUÍDO"
  | cancelado => "CANCELADO"

inductive TodoPriority
  | p0
  | p1
  | p2
  | p3

def TodoPriority.text : TodoPriority → String
  | p0 => "P0"
  | p1 => "P1"
  | p2 => "P2"
  | p3 => "P3"

inductive TodoE2EStatus
  | na
  | pendente
  | parcial
  | validado
  | bloqueado

def TodoE2EStatus.text : TodoE2EStatus → String
  | na => "N/A"
  | pendente => "PENDENTE"
  | parcial => "PARCIAL"
  | validado => "VALIDADO"
  | bloqueado => "BLOQUEADO"

inductive TodoType
  | implementacao
  | correcao
  | validacao
  | acaoHumana
  | automacao
  | acompanhamento
  | decisao

def TodoType.text : TodoType → String
  | implementacao => "Implementação"
  | correcao => "Correção"
  | validacao => "Validação"
  | acaoHumana => "Ação humana"
  | automacao => "Automação"
  | acompanhamento => "Acompanhamento"
  | decisao => "Decisão"

structure TodoGlobalTodo where
  title : String
  type : TodoType
  externalId : Option String := none
  status : TodoStatus
  priority : Option TodoPriority := none
  blocker : Option String := none
  nextAction : Option String := none
  completionCriteria : Option String := none
  evidence : Option String := none
  evidenceUrl : Option String := none
  e2eStatus : Option TodoE2EStatus := none
  origin : Option String := none
  originUrl : Option String := none
  source : Option String := none

/-- An event with a key of the form that is accepted. -/
structure TodoGlobalUpsertRequest where
  correlationId : String
  idempotencyKey : String
  project : String
  todo : TodoGlobalTodo
  chave : isHex 64 idempotencyKey = true

inductive Effect
  | created
  | updated
  | unchanged
  deriving DecidableEq

structure TodoGlobalUpsertResponse where
  todoId : ℕ
  idempotencyKey : String
  effect : Effect
  canonicalStatus : TodoStatus
  readbackVerified : Bool
  deriving DecidableEq

/-! ## Pages -/

/-- The properties of `_TEXT_FIELDS`. -/
inductive TextField
  | idempotencyKey
  | correlationId
  | project
  | externalId
  | origin
  | blocker
  | nextAction
  | completionCriteria
  | evidence
  deriving DecidableEq

instance : Fintype TextField where
  elems := {.idempotencyKey, .correlationId, .project, .externalId, .origin,
    .blocker, .nextAction, .completionCriteria, .evidence}
  complete field := by cases field <;> decide

inductive SelectField
  | tipo
  | status
  | prioridade
  | fonte
  | statusE2E
  deriving DecidableEq

instance : Fintype SelectField where
  elems := {.tipo, .status, .prioridade, .fonte, .statusE2E}
  complete field := by cases field <;> decide

/-- The properties of `_URL_FIELDS`. -/
inductive UrlField
  | originUrl
  | evidenceUrl
  deriving DecidableEq

instance : Fintype UrlField where
  elems := {.originUrl, .evidenceUrl}
  complete field := by cases field <;> decide

/-- What is compared: a value or nothing for each property. -/
@[ext]
structure Projection where
  title : Option String
  text : TextField → Option String
  select : SelectField → Option String
  url : UrlField → Option String

instance : DecidableEq Projection := fun _ _ ↦ decidable_of_iff _ Projection.ext_iff.symm

/-- The properties of a page. A title and a rich text are lists of text items. -/
structure Properties where
  title : List String
  text : TextField → List String
  select : SelectField → Option String
  url : UrlField → Option String

/-- `_rich_text`. -/
def richText (value : Option String) : List String := if truthy value then value.toList else []

/-- `_plain_text`. -/
def plainText (values : List String) : Option String :=
  if truthy values.head? then values.head? else none

def sourceOptions : List String := ["ChatGPT", "ReqSys", "GitHub", "Notion", "Outra"]

/-- `_source`. -/
def source (value : Option String) : Option String :=
  if truthy value then value.map fun s ↦ if s ∈ sourceOptions then s else "Outra" else none

/-- `_projection_from_event`. -/
def projectionFromEvent (event : TodoGlobalUpsertRequest) : Projection where
  title := some event.todo.title
  text
    | .idempotencyKey => some event.idempotencyKey
    | .correlationId => some event.correlationId
    | .project => some event.project
    | .externalId => event.todo.externalId
    | .origin => event.todo.origin
    | .blocker => event.todo.blocker
    | .nextAction => event.todo.nextAction
    | .completionCriteria => event.todo.completionCriteria
    | .evidence => event.todo.evidence
  select
    | .tipo => some event.todo.type.text
    | .status => some event.todo.status.text
    | .prioridade => event.todo.priority.map TodoPriority.text
    | .fonte => source event.todo.source
    | .statusE2E => event.todo.e2eStatus.map TodoE2EStatus.text
  url
    | .originUrl => event.todo.originUrl
    | .evidenceUrl => event.todo.evidenceUrl

/-- `_projection_from_page`. -/
def projectionFromPage (props : Properties) : Projection where
  title := plainText props.title
  text field := plainText (props.text field)
  select := props.select
  url := props.url

/-- `{'name': value} if value else None`. -/
def selectName (value : Option String) : Option String := if truthy value then value else none

/-- `_properties`. -/
def properties (event : TodoGlobalUpsertRequest) : Properties where
  title := richText (projectionFromEvent event).title
  text field := richText ((projectionFromEvent event).text field)
  select field := selectName ((projectionFromEvent event).select field)
  url := (projectionFromEvent event).url

/-- A page as Notion answers it. -/
structure Page where
  id : Option ℕ
  properties : Properties

/-! ## Notion -/

/-- The pages of the data source. The id of a page is its place. -/
structure Notion where
  pages : List Properties := []

/-- What `_request` raises. -/
inductive RequestError
  | http (status : ℕ)
  | transport
  | invalidJson
  deriving DecidableEq

inductive NotionTodoGlobalError
  | request (x : RequestError)
  | queryInvalidResults
  | duplicateIdempotencyKey
  | createMissingId
  | pageMissingId
  | readbackIdentityMismatch
  | readbackProjectionMismatch
  deriving DecidableEq

def NotionTodoGlobalError.text : NotionTodoGlobalError → String
  | request (.http status) => "notion_http_" ++ toString status
  | request .transport => "notion_transport_error"
  | request .invalidJson => "notion_invalid_json"
  | queryInvalidResults => "notion_query_invalid_results"
  | duplicateIdempotencyKey => "duplicate_idempotency_key"
  | createMissingId => "notion_create_missing_id"
  | pageMissingId => "notion_page_missing_id"
  | readbackIdentityMismatch => "notion_readback_identity_mismatch"
  | readbackProjectionMismatch => "notion_readback_projection_mismatch"

/-- A request fails before or after it has taken effect. -/
inductive Failure
  | before (x : RequestError)
  | after (x : RequestError)
  deriving DecidableEq

/-- An answer without the list or the id that belongs in it is malformed. -/
structure Env where
  failure : Option Failure := none
  malformed : Bool := false

def Env.answer {β : Type} (e : Env) (b : β) : Except NotionTodoGlobalError β :=
  match e.failure with
  | none => .ok b
  | some (.before x) | some (.after x) => .error (.request x)

/-- The request takes effect. -/
def Env.takesEffect (e : Env) : Bool :=
  match e.failure with
  | some (.before _) => false
  | _ => true

inductive Cmd
  | query (key : String)
  | create (props : Properties)
  | patch (pageId : ℕ) (props : Properties)

abbrev Cmd.Ans : Cmd → Type
  | query _ => Option (List Page)
  | create _ => Page
  | patch _ _ => Unit

/-- The key that a page has. -/
def key (props : Properties) : List String := props.text .idempotencyKey

/-- The pages with a key, two at most. -/
def Notion.query (n : Notion) (k : String) : List Page :=
  ((n.pages.zipIdx.filter fun page ↦ key page.1 = [k]).take 2).map fun page ↦
    { id := some page.2, properties := page.1 }

def exec (_ : ℕ) : (op : Cmd) → Env → Notion → Notion × Except NotionTodoGlobalError op.Ans
  | .query k, e, n => (n, e.answer (if e.malformed then none else some (n.query k)))
  | .create props, e, n =>
    (if e.takesEffect then { n with pages := n.pages ++ [props] } else n,
      e.answer { id := if e.malformed then none else some n.pages.length, properties := props })
  | .patch pageId props, e, n =>
    (if e.takesEffect then { n with pages := n.pages.set pageId props } else n, e.answer ())

def machine : Machine Cmd.Ans NotionTodoGlobalError Notion Env where
  exec := exec
  close _ n := n

abbrev Process := Program Cmd.Ans NotionTodoGlobalError

def run (op : Cmd) : Process op.Ans := .perform op

/-! ## The client -/

/-- `_query_exact`. -/
def queryExact (k : String) : Process (List Page) := do
  match ← run (.query k) with
  | none => .raise .queryInvalidResults
  | some results => if 1 < results.length then .raise .duplicateIdempotencyKey else return results

/-- The create or the patch of an upsert. -/
def write (event : TodoGlobalUpsertRequest) : List Page → Process (ℕ × Effect)
  | [] => do
    let created ← run (.create (properties event))
    match created.id with
    | none => .raise .createMissingId
    | some pageId => return (pageId, .created)
  | page :: _ =>
    match page.id with
    | none => .raise .pageMissingId
    | some pageId =>
      if projectionFromPage page.properties = projectionFromEvent event then
        return (pageId, .unchanged)
      else do
        run (.patch pageId (properties event))
        return (pageId, .updated)

/-- `upsert`. -/
def upsert (event : TodoGlobalUpsertRequest) : Process TodoGlobalUpsertResponse := do
  let found ← queryExact event.idempotencyKey
  let (pageId, effect) ← write event found
  let readback ← queryExact event.idempotencyKey
  match readback with
  | [page] =>
    if page.id ≠ some pageId then .raise .readbackIdentityMismatch
    else if projectionFromPage page.properties ≠ projectionFromEvent event then
      .raise .readbackProjectionMismatch
    else
      return {
        todoId := pageId
        idempotencyKey := event.idempotencyKey
        effect
        canonicalStatus := event.todo.status
        readbackVerified := true }
  | _ => .raise .readbackIdentityMismatch

abbrev Clients := Pool Notion (Process TodoGlobalUpsertResponse)

abbrev Step := Move TodoGlobalUpsertRequest Env × 
  Option (Except NotionTodoGlobalError TodoGlobalUpsertResponse)

/-- Overlapping upserts of several clients, on a data source that is empty first. -/
def clients : TransitionSystem Clients Step := Pool.interleaving {} upsert machine

variable {n n' : Notion} {k : String} {props : Properties}

/-! ## Keys -/

theorem truthy_some {s : String} (h : s ≠ "") : truthy (some s) = true := by
  simp [truthy, h]

/-- What an event writes has its key. -/
theorem key_properties (event : TodoGlobalUpsertRequest) :
    key (properties event) = [event.idempotencyKey] := by
  have hne : event.idempotencyKey ≠ "" := by
    intro hempty
    have hkey := event.chave
    rw [hempty] at hkey
    exact absurd hkey (by decide)
  change richText (some event.idempotencyKey) = _
  rw [richText, truthy_some hne]
  rfl

/-- Pages stay, with their keys. -/
def Stays (n n' : Notion) : Prop :=
  ∀ (id : ℕ) (props : Properties), n.pages[id]? = some props →
    ∃ props', n'.pages[id]? = some props' ∧ key props' = key props

theorem Stays.refl (n : Notion) : Stays n n := fun _ props h ↦ ⟨props, h, rfl⟩

theorem Stays.trans {n n' n'' : Notion} (h : Stays n n') (h' : Stays n' n'') : Stays n n'' := by
  intro id props hprops
  obtain ⟨props', hprops', hkey⟩ := h id props hprops
  obtain ⟨props'', hprops'', hkey'⟩ := h' id props' hprops'
  exact ⟨props'', hprops'', hkey'.trans hkey⟩

/-- A patch is about a page with the key that it writes. -/
def Fits : Cmd → Notion → Prop
  | .patch pageId props, n => ∃ old, n.pages[pageId]? = some old ∧ key old = key props
  | _, _ => True

theorem stays_exec (i : ℕ) {op : Cmd} {e : Env} (h : Fits op n) : Stays n (exec i op e n).1 := by
  cases op with
  | query k => exact .refl n
  | create props =>
    rw [exec]
    dsimp only
    split
    · intro id old hold
      obtain ⟨hlt, -⟩ := List.getElem?_eq_some_iff.mp hold
      exact ⟨old, (List.getElem?_append_left hlt).trans hold, rfl⟩
    · exact .refl n
  | patch pageId props =>
    rw [exec]
    dsimp only
    split
    · intro id old hold
      obtain ⟨page, hpage, hkey⟩ := h
      by_cases hid : id = pageId
      · subst hid
        rw [hold] at hpage
        cases hpage
        obtain ⟨hlt, -⟩ := List.getElem?_eq_some_iff.mp hold
        exact ⟨props, List.getElem?_set_self hlt, hkey.symm⟩
      · exact ⟨old, (List.getElem?_set_ne (Ne.symm hid)).trans hold, rfl⟩
    · exact .refl n

/-- What a query finds. -/
theorem mem_query {page : Page} (h : page ∈ n.query k) :
    ∃ id, page.id = some id ∧ n.pages[id]? = some page.properties ∧ key page.properties = [k] := by
  obtain ⟨⟨props, id⟩, hmem, rfl⟩ := List.mem_map.mp h
  obtain ⟨hmem, hkey⟩ := List.mem_filter.mp (List.mem_of_mem_take hmem)
  exact ⟨id, rfl, List.mem_zipIdx_iff_getElem?.mp hmem, of_decide_eq_true hkey⟩

/-! ## One page a key -/

/-- **No two pages have the same key.** -/
def Unique (n : Notion) : Prop := (n.pages.map key).Nodup

/-- Two pages with the same key stay. -/
theorem Stays.unique (h : Stays n n') (h' : Unique n') : Unique n := by
  rw [Unique, List.nodup_iff_getElem?_ne_getElem?] at h' ⊢
  intro a b hlt hb heq
  rw [List.length_map] at hb
  rw [List.getElem?_map, List.getElem?_map, List.getElem?_eq_getElem hb,
    List.getElem?_eq_getElem (hlt.trans hb)] at heq
  obtain ⟨props, hprops, hkey⟩ := h a _ (List.getElem?_eq_getElem (hlt.trans hb))
  obtain ⟨props', hprops', hkey'⟩ := h b _ (List.getElem?_eq_getElem hb)
  obtain ⟨hb', -⟩ := List.getElem?_eq_some_iff.mp hprops'
  refine h' a b hlt (by rwa [List.length_map]) ?_
  rw [List.getElem?_map, List.getElem?_map, hprops, hprops', Option.map_some, Option.map_some, hkey,
    hkey']
  exact heq

/-- Then a query finds one page at most. -/
theorem Unique.length_query_le (h : Unique n) (k : String) : (n.query k).length ≤ 1 := by
  have hcount : (n.pages.zipIdx.filter fun page ↦ key page.1 = [k]).length
      = (n.pages.map key).count [k] := by
    rw [← List.countP_eq_length_filter, List.count, List.countP_map]
    have hfst : (n.pages.zipIdx.map Prod.fst) = n.pages := List.zipIdx_map_fst ..
    conv_rhs => rw [← hfst, List.countP_map]
    refine List.countP_congr fun page _ ↦ ?_
    simp
  rw [Notion.query, List.length_map, List.length_take, hcount]
  exact (min_le_right _ _).trans (List.nodup_iff_count_le_one.mp h [k])

/-! ## What an upsert relies on -/

/-- Later stores: the pages stay, and `U` is neither lost nor gained. -/
def Later (U : Notion → Prop) (n n' : Notion) : Prop := Stays n n' ∧ (U n ↔ U n')

theorem Later.refl (U : Notion → Prop) (n : Notion) : Later U n n := ⟨.refl n, Iff.rfl⟩

theorem Later.trans {U : Notion → Prop} {n n' n'' : Notion} (h : Later U n n')
    (h' : Later U n' n'') : Later U n n'' :=
  ⟨h.1.trans h'.1, h.2.trans h'.2⟩

/-- A machine that answers as Notion does and keeps `U`, if patches are about pages with the key
that they write. -/
structure Serves (M : Machine Cmd.Ans NotionTodoGlobalError Notion Env) (U : Notion → Prop) :
    Prop where
  unique : ∀ {n}, U n → Unique n
  later : ∀ {i op e n}, Fits op n → Later U n (M.exec i op e n).1
  query : ∀ {i k e n found}, (M.exec i (.query k) e n).2 = .ok (some found) → found = n.query k
  request : ∀ {i op e n x}, (M.exec i op e n).2 = .error x → ∃ y, x = .request y

variable {M : Machine Cmd.Ans NotionTodoGlobalError Notion Env} {U : Notion → Prop}

/-- The pages that were found are there, and while `U` holds the query does not find two. -/
theorem fits_queryExact (hM : Serves M U) (i : ℕ) (k : String) (n : Notion) :
    (queryExact k).CallsIn M i (Later U) Fits
      (fun r n' ↦ (U n' → r ≠ .error .duplicateIdempotencyKey) ∧
        ∀ found, r = .ok found → ∀ page ∈ found, ∃ id props, page.id = some id ∧
          n'.pages[id]? = some props ∧ key props = [k]) n := by
  refine .perform_bind fun n₁ _ ↦ ⟨trivial, fun e found hfound ↦ ?_, fun e x hx ↦ ?_⟩
  · have hlater : Later U n₁ (M.exec i (.query k) e n₁).1 := hM.later trivial
    cases found with
    | none => exact .raise ⟨fun _ ↦ by rintro ⟨⟩, by rintro _ ⟨⟩⟩
    | some found =>
      obtain rfl := hM.query hfound
      dsimp only
      split
      next hlen =>
        refine .raise ⟨fun hU ↦ absurd hlen (not_lt.mpr ?_), by rintro _ ⟨⟩⟩
        exact (hM.unique (hlater.2.mpr hU)).length_query_le k
      next =>
        refine .ret ⟨fun _ ↦ by rintro ⟨⟩, ?_⟩
        rintro found ⟨⟩ page hpage
        obtain ⟨id, hid, hprops, hkey⟩ := mem_query hpage
        obtain ⟨props, hprops, hkey'⟩ := hlater.1 id _ hprops
        exact ⟨id, props, hid, hprops, hkey'.trans hkey⟩
  · obtain ⟨y, rfl⟩ := hM.request hx
    exact ⟨fun _ ↦ by rintro ⟨⟩, by rintro _ ⟨⟩⟩

/-- A page that was found is patched with the key that it has. -/
theorem fits_write (hM : Serves M U) (i : ℕ) (event : TodoGlobalUpsertRequest) (n : Notion)
    {found : List Page} (hfound : ∀ page ∈ found, ∃ id props, page.id = some id ∧
      n.pages[id]? = some props ∧ key props = [event.idempotencyKey]) :
    (write event found).CallsIn M i (Later U) Fits
      (fun r _ ↦ r ≠ .error .duplicateIdempotencyKey) n := by
  cases found with
  | nil =>
    refine .perform_bind fun n₁ _ ↦ ⟨trivial, fun e created _ ↦ ?_, fun e x hx ↦ ?_⟩
    · split
      · exact .raise (by rintro ⟨⟩)
      · exact .ret (by rintro ⟨⟩)
    · obtain ⟨y, rfl⟩ := hM.request hx
      rintro ⟨⟩
  | cons page found =>
    obtain ⟨id, props, hid, hprops, hkey⟩ := hfound page List.mem_cons_self
    rw [write, hid]
    dsimp only
    split
    · exact .ret (by rintro ⟨⟩)
    · refine .perform_bind fun n₁ h₁ ↦ ⟨?_, fun e _ _ ↦ .ret (by rintro ⟨⟩), fun e x hx ↦ ?_⟩
      · -- the page is still there, with its key
        obtain ⟨props', hprops', hkey'⟩ := h₁.1 id props hprops
        exact ⟨props', hprops', (hkey'.trans hkey).trans (key_properties event).symm⟩
      · obtain ⟨y, rfl⟩ := hM.request hx
        rintro ⟨⟩

/-- **An upsert** patches pages with the key that they have, and while `U` holds it does not find
two pages. -/
theorem fits_upsert (hM : Serves M U) (i : ℕ) (event : TodoGlobalUpsertRequest) (n : Notion) :
    (upsert event).CallsIn M i (Later U) Fits
      (fun r n' ↦ U n' → r ≠ .error .duplicateIdempotencyKey) n := by
  refine .bind (fits_queryExact hM i event.idempotencyKey n) (fun found n₁ h₁ ↦ ?_)
    fun x n₁ h₁ hU ↦ ?_
  · refine .bind (fits_write hM i event n₁ (h₁.2 found rfl)) (fun (pageId, effect) n₂ _ ↦ ?_)
      fun x n₂ h₂ _ ↦ ?_
    · refine .bind (fits_queryExact hM i event.idempotencyKey n₂) (fun readback n₃ _ ↦ ?_)
        fun x n₃ h₃ hU ↦ ?_
      · split
        · split
          · exact .raise fun _ ↦ by rintro ⟨⟩
          · split
            · exact .raise fun _ ↦ by rintro ⟨⟩
            · exact .ret fun _ ↦ by rintro ⟨⟩
        · exact .raise fun _ ↦ by rintro ⟨⟩
      · rintro ⟨⟩
        exact h₃.1 hU rfl
    · rintro ⟨⟩
      exact h₂ rfl
  · rintro ⟨⟩
    exact h₁.1 hU rfl

/-- How the clients bound each other. -/
theorem bounds (hM : Serves M U) (hclose : ∀ i n, M.close i n = n) :
    Pool.Bounds M (fun _ ↦ Later U) (fun _ ↦ Fits)
      (fun _ r n ↦ U n → r ≠ .error .duplicateIdempotencyKey) (fun _ _ ↦ True) upsert where
  refl _ := .refl U
  trans := .trans
  exec hfits _ := hM.later hfits
  close _ := by
    rw [hclose]
    exact .refl U _
  code _ := fits_upsert hM ..
  ended h hr hU := hr (h.2.mpr hU)
  idle _ _ := trivial
  closed _ _ := trivial

/-! ## The condition -/

/-- **The condition.** A page is created with a new key. -/
def New (n : Notion) : ℕ × Cmd × Env → Prop
  | (_, .create props, e) => e.takesEffect = true → ∀ page ∈ n.pages, key page ≠ key props
  | _ => True

theorem unique_exec_iff (i : ℕ) {op : Cmd} {e : Env} (h : Unique n) (hop : Fits op n) :
    Unique (exec i op e n).1 ↔ New n (i, op, e) := by
  cases op with
  | query k => exact iff_of_true h trivial
  | create props =>
    rw [exec, New]
    cases heffect : e.takesEffect with
    | false => exact iff_of_true h fun hfalse ↦ (by cases hfalse)
    | true =>
      simp only [if_true, Unique, List.map_append, List.map_singleton]
      rw [List.nodup_append_comm, List.singleton_append, List.nodup_cons]
      refine ⟨fun hnew _ page hpage heq ↦ hnew.1 (heq ▸ List.mem_map_of_mem hpage),
        fun hnew ↦ ⟨fun hmem ↦ ?_, h⟩⟩
      obtain ⟨page, hpage, heq⟩ := List.mem_map.mp hmem
      exact hnew trivial page hpage heq
  | patch pageId props =>
    refine iff_of_true ?_ trivial
    rw [exec]
    split
    · obtain ⟨old, hold, hkey⟩ := hop
      obtain ⟨hlt, rfl⟩ := List.getElem?_eq_some_iff.mp hold
      have hsame : (n.pages.set pageId props).map key = n.pages.map key := by
        rw [List.map_set, ← hkey, ← List.getElem_map key (h := by simpa using hlt)]
        exact List.set_getElem_self _
      rw [Unique, hsame]
      exact h
    · exact h

/-! ## Runs -/

theorem Env.request_of_error {β : Type} {e : Env} {b : β} {x : NotionTodoGlobalError}
    (h : e.answer b = .error x) : ∃ y, x = .request y := by
  rw [Env.answer] at h
  split at h <;> cases h
  · exact ⟨_, rfl⟩
  · exact ⟨_, rfl⟩

theorem Env.eq_of_answer {β : Type} {e : Env} {a b : β} (h : e.answer b = .ok a) : a = b := by
  rw [Env.answer] at h
  split at h <;> cases h
  rfl

theorem request_of_exec (i : ℕ) {op : Cmd} {e : Env} {x : NotionTodoGlobalError}
    (h : (exec i op e n).2 = .error x) : ∃ y, x = .request y := by
  cases op <;> exact Env.request_of_error h

theorem query_of_exec (i : ℕ) {e : Env} {found : List Page}
    (h : (exec i (.query k) e n).2 = .ok (some found)) : found = n.query k := by
  have hfound := Env.eq_of_answer h
  split at hfound
  · cases hfound
  · exact Option.some.inj hfound

theorem serves_machine : Serves machine fun _ ↦ False where
  unique := False.elim
  later := by
    intro i op e n hfits
    exact ⟨stays_exec i hfits, Iff.rfl⟩
  query := by
    intro i k e n found h
    exact query_of_exec i h
  request := by
    intro i op e n x h
    exact request_of_exec i h

/-- The machine that does not create a second page keeps the keys apart. -/
theorem serves_guard : Serves (machine.guard New (.request .transport)) Unique where
  unique := id
  later := by
    intro i op e n hfits
    obtain ⟨hnew, hexec⟩ | hexec := machine.guard_exec_cases New (.request .transport) i op e n
    · rw [hexec]
      have hstays := stays_exec i (e := e) hfits
      exact ⟨hstays, fun hU ↦ (unique_exec_iff i hU hfits).mpr hnew, hstays.unique⟩
    · rw [hexec]
      exact .refl Unique n
  query := by
    intro i k e n found h
    obtain ⟨-, hexec⟩ | hexec :=
      machine.guard_exec_cases New (.request .transport) i (.query k) e n
    · rw [hexec] at h
      exact query_of_exec i h
    · rw [hexec] at h
      cases h
  request := by
    intro i op e n x h
    obtain ⟨-, hexec⟩ | hexec := machine.guard_exec_cases New (.request .transport) i op e n
    · rw [hexec] at h
      exact request_of_exec i h
    · rw [hexec] at h
      cases h
      exact ⟨_, rfl⟩

/-- **One page a key.** While every page that is created has a new key, no two pages have the same
key and no upsert fails because of two; and the first page that is created with a key that is there
breaks this. -/
theorem one_page_a_key {tr : List Step} {p : Clients}
    (h : (clients.restrict fun p m ↦ ∀ x ∈ p.nextCall m.1, New p.store x).Run tr p) :
    Unique p.store ∧
    (∀ m r p', clients.step p (m, some r) p' → r ≠ .error .duplicateIdempotencyKey) ∧
    ∀ m p', clients.step p m p' → (Unique p'.store ↔ ∀ x ∈ p.nextCall m.1, New p.store x) := by
  obtain ⟨hnow, hnext⟩ := Pool.invariant_iff_of_callsIn (I := Unique)
    (bounds serves_machine fun _ _ ↦ rfl) (fun _ ↦ trivial) (show Unique {} from List.nodup_nil)
    (fun {n i op e} hI hop ↦ unique_exec_iff i hI hop) (fun hI ↦ hI) h
  refine ⟨hnow, fun m r p' hstep ↦ ?_, hnext⟩
  have hcalling := Pool.calling_of_run (bounds serves_guard fun _ _ ↦ rfl) (fun _ ↦ trivial)
    (Pool.run_guard (.request .transport) h)
  exact (hcalling.running _ _ (Pool.task_of_outcome hstep)).outcome hnow

/-! ## Two small runs -/

theorem isHex_sample : isHex 64 (String.ofList (List.replicate 64 'a')) = true := by decide

/-- A todo of the sample, in a state. -/
def sampleEvent (status : TodoStatus) : TodoGlobalUpsertRequest where
  correlationId := "correlation"
  idempotencyKey := String.ofList (List.replicate 64 'a')
  project := "ReqSys"
  todo := { title := "Revisar", type := .acompanhamento, status }
  chave := isHex_sample

/-- An upsert is over before the next one starts. -/
def sampleSerial : List (Move TodoGlobalUpsertRequest Env) :=
  .start 0 (sampleEvent .pendente) :: List.replicate 4 (.advance 0 {})
    ++ .start 1 (sampleEvent .emAndamento) :: List.replicate 3 (.advance 1 {})

/-- Two clients find no page, and both create one. -/
def sampleOverlap : List (Move TodoGlobalUpsertRequest Env) :=
  [.start 0 (sampleEvent .pendente), .start 1 (sampleEvent .pendente), .advance 0 {}, .advance 1 {},
    .advance 0 {}, .advance 1 {}, .advance 0 {}, .advance 0 {}]

def sampleMoves (moves : List (Move TodoGlobalUpsertRequest Env)) : List Step × Clients :=
  TransitionSystem.runCalls (Pool.move upsert machine) moves ⟨{}, fun _ ↦ none⟩

instance (n : Notion) : ∀ x : ℕ × Cmd × Env, Decidable (New n x)
  | (_, .create props, e) => inferInstanceAs (Decidable (e.takesEffect = true →
      ∀ page ∈ n.pages, key page ≠ key props))
  | (_, .query _, _) | (_, .patch _ _, _) => .isTrue trivial

/-- One client after the other. -/
theorem one_page_a_key_sample :
    (sampleMoves sampleSerial).2.store.pages.map (·.select .status) = [some "EM ANDAMENTO"] ∧
    Unique (sampleMoves sampleSerial).2.store := by
  have hrun : (clients.restrict fun p m ↦ ∀ x ∈ p.nextCall m.1, New p.store x).Run
      (sampleMoves sampleSerial).1 (sampleMoves sampleSerial).2 :=
    TransitionSystem.run_restrict_runCalls _ (by decide +kernel)
  exact ⟨by decide +kernel, (one_page_a_key hrun).1⟩

/-- Two clients create a page for the same event, and the upsert fails. -/
theorem page_twice : ∃ tr p, clients.Run tr p ∧ ¬Unique p.store ∧
    some (.error .duplicateIdempotencyKey) ∈ tr.map Prod.snd :=
  ⟨_, (sampleMoves sampleOverlap).2, TransitionSystem.run_runCalls _ _ _,
    by unfold Unique; decide +kernel, by decide +kernel⟩

end TodoGlobal

end ReqSys
