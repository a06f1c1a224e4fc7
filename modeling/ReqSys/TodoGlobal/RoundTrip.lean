import Mathlib
import ReqSys.Foundation.Serial
import ReqSys.TodoGlobal.Notion

/-!
# What is written to Notion and read back

`upsert` compares the page that it reads back with the projection of the event. A page has no empty
rich text: `_rich_text` writes nothing for it, and `_plain_text` reads nothing as `None`. The
projection of an event keeps an optional text as it was sent, though, so that an event with an empty
text never compares equal with what was stored of it. `_source` shows how it could be: there an
empty text is `None` on both sides.

The event is written before the comparison fails, and every further attempt fails in the same way.
-/

namespace ReqSys

namespace TodoGlobal

open PyText

/-! ## What the schema accepts -/

/-- `Field(default=None, max_length=n)`. -/
def AtMost (n : ℕ) (value : Option String) : Prop := ∀ s ∈ value, s.length ≤ n

instance (n : ℕ) (value : Option String) : Decidable (AtMost n value) :=
  inferInstanceAs (Decidable (∀ s ∈ value, s.length ≤ n))

/-- What `TodoGlobalTodo` accepts, `validar_estado_operacional` included. -/
structure TodoGlobalTodo.Valid (todo : TodoGlobalTodo) : Prop where
  title : 1 ≤ todo.title.length ∧ todo.title.length ≤ 500
  externalId : AtMost 300 todo.externalId
  blocker : AtMost 2000 todo.blocker
  nextAction : AtMost 2000 todo.nextAction
  completionCriteria : AtMost 2000 todo.completionCriteria
  evidence : AtMost 4000 todo.evidence
  evidenceUrl : AtMost 2000 todo.evidenceUrl
  origin : AtMost 500 todo.origin
  originUrl : AtMost 2000 todo.originUrl
  source : AtMost 100 todo.source
  bloqueado : todo.status = .bloqueado →
    truthy todo.blocker = true ∧ truthy todo.nextAction = true
  concluido : todo.status = .concluido →
    truthy todo.completionCriteria = true ∧ truthy todo.evidence = true

/-- What `TodoGlobalUpsertRequest` accepts; the form of the key is part of the request. -/
structure TodoGlobalUpsertRequest.Valid (event : TodoGlobalUpsertRequest) : Prop where
  correlationId : 8 ≤ event.correlationId.length ∧ event.correlationId.length ≤ 128
  project : 1 ≤ event.project.length ∧ event.project.length ≤ 200
  todo : event.todo.Valid

/-- The texts of a todo that need not be there. -/
def TodoGlobalTodo.optionalTexts (todo : TodoGlobalTodo) : List (Option String) :=
  [todo.externalId, todo.origin, todo.blocker, todo.nextAction, todo.completionCriteria,
    todo.evidence]

variable {event : TodoGlobalUpsertRequest} {n : Notion} {props : Properties}

/-! ## The encodings -/

theorem truthy_iff {value : Option String} :
    truthy value = true ↔ ∃ s, value = some s ∧ s ≠ "" := by
  cases value with
  | none => simp [truthy]
  | some s => simp [truthy]

/-- **A rich text reads back unless it is empty.** -/
theorem plainText_richText (value : Option String) :
    plainText (richText value) = if value = some "" then none else value := by
  rw [richText]
  cases value with
  | none => rfl
  | some s =>
    by_cases hs : s = ""
    · subst hs
      rfl
    · rw [truthy_some hs, if_pos rfl, if_neg fun heq ↦ hs (Option.some.inj heq)]
      exact if_pos (truthy_some hs)

theorem plainText_richText_eq_iff {value : Option String} :
    plainText (richText value) = value ↔ value ≠ some "" := by
  rw [plainText_richText]
  split_ifs with hempty
  · rw [hempty]
    simp
  · exact iff_of_true rfl hempty

/-- No text that is read is empty. -/
theorem plainText_ne_some_empty (values : List String) : plainText values ≠ some "" := by
  rw [plainText]
  split_ifs with htruthy
  · obtain ⟨s, hs, hne⟩ := truthy_iff.mp htruthy
    rw [hs]
    exact fun heq ↦ hne (Option.some.inj heq)
  · simp

theorem selectName_eq_iff {value : Option String} : selectName value = value ↔ value ≠ some "" := by
  rw [selectName]
  cases value with
  | none => simp
  | some s => by_cases hs : s = "" <;> simp [truthy, hs]

theorem source_ne_some_empty (value : Option String) : source value ≠ some "" := by
  rw [source]
  split_ifs with htruthy
  · obtain ⟨s, rfl, hne⟩ := truthy_iff.mp htruthy
    rw [Option.map_some]
    split_ifs
    · exact fun heq ↦ hne (Option.some.inj heq)
    · decide
  · simp

/-- The words of a selection are no empty texts. -/
theorem select_ne_some_empty (event : TodoGlobalUpsertRequest) (field : SelectField) :
    (projectionFromEvent event).select field ≠ some "" := by
  cases field with
  | tipo => cases htype : event.todo.type <;> simp [projectionFromEvent, htype, TodoType.text]
  | status =>
    cases hstatus : event.todo.status <;> simp [projectionFromEvent, hstatus, TodoStatus.text]
  | prioridade =>
    rcases hpriority : event.todo.priority with _ | p
    · simp [projectionFromEvent, hpriority]
    · cases p <;> simp [projectionFromEvent, hpriority, TodoPriority.text]
  | fonte => exact source_ne_some_empty event.todo.source
  | statusE2E =>
    rcases hstatus : event.todo.e2eStatus with _ | s
    · simp [projectionFromEvent, hstatus]
    · cases s <;> simp [projectionFromEvent, hstatus, TodoE2EStatus.text]

theorem ne_some_empty_of_length {s : String} (h : 1 ≤ s.length) : some s ≠ some "" := by
  rintro heq
  rw [Option.some.inj heq] at h
  exact absurd h (by decide)

theorem idempotencyKey_ne (event : TodoGlobalUpsertRequest) :
    some event.idempotencyKey ≠ some "" := by
  intro heq
  have hkey := event.chave
  rw [Option.some.inj heq] at hkey
  exact absurd hkey (by decide)

/-- Of a valid event only the texts that need not be there can be empty. -/
theorem forall_text_iff (h : event.Valid) :
    (∀ field, (projectionFromEvent event).text field ≠ some "") ↔
      some "" ∉ event.todo.optionalTexts := by
  simp only [TodoGlobalTodo.optionalTexts, List.mem_cons, List.not_mem_nil, or_false, not_or]
  constructor
  · intro htext
    exact ⟨(htext .externalId).symm, (htext .origin).symm, (htext .blocker).symm,
      (htext .nextAction).symm, (htext .completionCriteria).symm, (htext .evidence).symm⟩
  · rintro ⟨hexternalId, horigin, hblocker, hnextAction, hcriteria, hevidence⟩ field
    cases field with
    | idempotencyKey => exact idempotencyKey_ne event
    | correlationId => exact ne_some_empty_of_length (by have := h.correlationId.1; omega)
    | project => exact ne_some_empty_of_length h.project.1
    | externalId => exact Ne.symm hexternalId
    | origin => exact Ne.symm horigin
    | blocker => exact Ne.symm hblocker
    | nextAction => exact Ne.symm hnextAction
    | completionCriteria => exact Ne.symm hcriteria
    | evidence => exact Ne.symm hevidence

/-- **The round trip.** What is written of a valid event reads back as its projection exactly when
no optional text is empty. -/
theorem roundTrip_iff (h : event.Valid) :
    projectionFromPage (properties event) = projectionFromEvent event ↔
      some "" ∉ event.todo.optionalTexts := by
  rw [← forall_text_iff h, Projection.ext_iff]
  constructor
  · rintro ⟨-, htext, -⟩ field
    exact plainText_richText_eq_iff.mp (congrFun htext field)
  · intro htext
    refine ⟨?_, funext fun field ↦ plainText_richText_eq_iff.mpr (htext field),
      funext fun field ↦ selectName_eq_iff.mpr (select_ne_some_empty event field), rfl⟩
    exact plainText_richText_eq_iff.mpr (ne_some_empty_of_length h.todo.title.1)

/-- No page reads as an event with an empty text. -/
theorem projectionFromPage_ne {field : TextField}
    (h : (projectionFromEvent event).text field = some "") (props : Properties) :
    projectionFromPage props ≠ projectionFromEvent event := by
  intro heq
  rw [← heq] at h
  exact plainText_ne_some_empty _ h

/-! ## Requests that are answered -/

/-- The request takes effect and its answer is well formed. -/
def Answers (e : Env) : Prop := e.failure = none ∧ e.malformed = false

variable {α : Type} {i : ℕ} {Q : Except NotionTodoGlobalError α → Notion → Prop}

theorem query_bind {k : String} {f : Option (List Page) → Process α}
    (h : (f (some (n.query k))).EndsIn machine i Answers Eq Q n) :
    (run (.query k) >>= f).EndsIn machine i Answers Eq Q n := by
  refine .perform_bind ?_
  rintro _ ⟨failure, malformed⟩ rfl ⟨rfl, rfl⟩
  exact ⟨_, rfl, h⟩

theorem create_bind {f : Page → Process α}
    (h : (f ⟨some n.pages.length, props⟩).EndsIn machine i Answers Eq Q
      { n with pages := n.pages ++ [props] }) :
    (run (.create props) >>= f).EndsIn machine i Answers Eq Q n := by
  refine .perform_bind ?_
  rintro _ ⟨failure, malformed⟩ rfl ⟨rfl, rfl⟩
  exact ⟨_, rfl, h⟩

theorem patch_bind {pageId : ℕ} {f : Unit → Process α}
    (h : (f ()).EndsIn machine i Answers Eq Q { n with pages := n.pages.set pageId props }) :
    (run (.patch pageId props) >>= f).EndsIn machine i Answers Eq Q n := by
  refine .perform_bind ?_
  rintro _ ⟨failure, malformed⟩ rfl ⟨rfl, rfl⟩
  exact ⟨_, rfl, h⟩

/-! ## The pages of a key -/

/-- The page with a key. -/
def HasPage (n : Notion) (k : String) (id : ℕ) (props : Properties) : Prop :=
  n.pages[id]? = some props ∧ key props = [k]

/-- With one page a key, a query finds the page that is there. -/
theorem query_of_hasPage (hn : Unique n) {k : String} {id : ℕ} (h : HasPage n k id props) :
    n.query k = [⟨some id, props⟩] := by
  have hmem : (props, id) ∈ n.pages.zipIdx.filter fun page ↦ key page.1 = [k] := by
    rw [List.mem_filter]
    exact ⟨List.mem_zipIdx_iff_getElem?.mpr h.1, decide_eq_true h.2⟩
  have hlength := hn.length_query_le k
  rw [Notion.query] at hlength ⊢
  rw [List.length_map, List.length_take] at hlength
  obtain ⟨x, hx⟩ := List.length_eq_one_iff.mp
    (le_antisymm (by omega) (List.length_pos_of_mem hmem))
  rw [hx, List.mem_singleton] at hmem
  rw [hx, ← hmem]
  rfl

/-- Otherwise it finds none. -/
theorem query_eq_nil_or (hn : Unique n) (k : String) :
    (n.query k = [] ∧ ∀ page ∈ n.pages, key page ≠ [k]) ∨
      ∃ id props, n.query k = [⟨some id, props⟩] ∧ HasPage n k id props := by
  by_cases h : ∃ page ∈ n.pages, key page = [k]
  · obtain ⟨page, hpage, hkey⟩ := h
    obtain ⟨id, hid⟩ := List.mem_iff_getElem?.mp hpage
    exact .inr ⟨id, page, query_of_hasPage hn ⟨hid, hkey⟩, hid, hkey⟩
  · push Not at h
    refine .inl ⟨List.eq_nil_iff_forall_not_mem.mpr fun page hpage ↦ ?_, h⟩
    obtain ⟨id, -, hid, hkey⟩ := mem_query hpage
    exact h _ (List.mem_of_getElem? hid) hkey

theorem queryExact_bind {k : String} {f : List Page → Process α} (hn : Unique n)
    (h : (f (n.query k)).EndsIn machine i Answers Eq Q n) :
    (queryExact k >>= f).EndsIn machine i Answers Eq Q n := by
  rw [queryExact, Program.bind_assoc]
  refine query_bind ?_
  dsimp only
  rw [if_neg (not_lt.mpr (hn.length_query_le k))]
  exact h

/-! ## An upsert without interference -/

/-- The answer to an upsert that is verified. -/
def response (event : TodoGlobalUpsertRequest) (pageId : ℕ) (effect : Effect) :
    TodoGlobalUpsertResponse where
  todoId := pageId
  idempotencyKey := event.idempotencyKey
  effect := effect
  canonicalStatus := event.todo.status
  readbackVerified := true

/-- The readback of an upsert. -/
def readBack (event : TodoGlobalUpsertRequest) (written : ℕ × Effect) :
    Process TodoGlobalUpsertResponse := do
  match ← queryExact event.idempotencyKey with
  | [page] =>
    if page.id ≠ some written.1 then .raise .readbackIdentityMismatch
    else if projectionFromPage page.properties ≠ projectionFromEvent event then
      .raise .readbackProjectionMismatch
    else return response event written.1 written.2
  | _ => .raise .readbackIdentityMismatch

theorem upsert_eq (event : TodoGlobalUpsertRequest) :
    upsert event = queryExact event.idempotencyKey >>= fun found ↦
      write event found >>= readBack event := rfl

theorem readBack_ends (hn : Unique n) {id : ℕ} (h : HasPage n event.idempotencyKey id props)
    (effect : Effect) :
    (readBack event (id, effect)).EndsIn machine i Answers Eq
      (fun r n' ↦ n' = n ∧
        r = if projectionFromPage props = projectionFromEvent event then
          .ok (response event id effect) else .error .readbackProjectionMismatch) n := by
  rw [readBack]
  refine queryExact_bind hn ?_
  rw [query_of_hasPage hn h]
  dsimp only
  rw [if_neg (not_not.mpr rfl)]
  by_cases heq : projectionFromPage props = projectionFromEvent event
  · rw [if_neg (not_not.mpr heq), if_pos heq]
    exact ⟨rfl, rfl⟩
  · rw [if_pos heq, if_neg heq]
    exact ⟨rfl, rfl⟩

/-- A page that reads as the event stays as it is. -/
theorem write_unchanged {id : ℕ}
    (heq : projectionFromPage props = projectionFromEvent event) :
    write event [⟨some id, props⟩] = return (id, .unchanged) := by
  rw [write]
  exact if_pos heq

/-- **A write** leaves one page with the key, which reads as the event or is what was written. -/
theorem write_ends (hn : Unique n) :
    (write event (n.query event.idempotencyKey)).EndsIn machine i Answers Eq
      (fun r n' ↦ Unique n' ∧ ∃ id props effect, r = .ok (id, effect) ∧
        HasPage n' event.idempotencyKey id props ∧
        (projectionFromPage props = projectionFromEvent event ∨ props = properties event)) n := by
  have hanswers : ({} : Env).takesEffect = true := rfl
  obtain ⟨hnil, hnew⟩ | ⟨id, props, hquery, hpage⟩ := query_eq_nil_or hn event.idempotencyKey
  · rw [hnil, write]
    refine create_bind ?_
    have hfits : Fits (.create (properties event)) n := trivial
    have hunique := (unique_exec_iff i (e := {}) hn hfits).mpr fun _ page hmem ↦ by
      rw [key_properties]
      exact hnew page hmem
    refine ⟨hunique, n.pages.length, properties event, .created, rfl, ⟨?_, key_properties event⟩,
      .inr rfl⟩
    exact List.getElem?_concat_length
  · rw [hquery]
    by_cases heq : projectionFromPage props = projectionFromEvent event
    · rw [write_unchanged heq]
      exact ⟨hn, id, props, .unchanged, rfl, hpage, .inl heq⟩
    · rw [write]
      dsimp only
      rw [if_neg heq]
      refine patch_bind ?_
      have hfits : Fits (.patch id (properties event)) n :=
        ⟨props, hpage.1, hpage.2.trans (key_properties event).symm⟩
      have hunique := (unique_exec_iff i (e := {}) hn hfits).mpr trivial
      obtain ⟨hlt, -⟩ := List.getElem?_eq_some_iff.mp hpage.1
      exact ⟨hunique, id, properties event, .updated, rfl,
        ⟨List.getElem?_set_self hlt, key_properties event⟩, .inr rfl⟩

/-- **An upsert without interference** is verified when what is written reads back. -/
theorem upsert_ends (hn : Unique n)
    (hround : projectionFromPage (properties event) = projectionFromEvent event) :
    (upsert event).EndsIn machine i Answers Eq
      (fun r n' ↦ Unique n' ∧ ∃ id props effect, r = .ok (response event id effect) ∧
        HasPage n' event.idempotencyKey id props ∧
        projectionFromPage props = projectionFromEvent event) n := by
  rw [upsert_eq]
  refine queryExact_bind hn (.bind (write_ends hn) ?_ ?_)
  · rintro written n' ⟨hn', id, props, effect, hwritten, hpage, hprops⟩
    cases hwritten
    have heq : projectionFromPage props = projectionFromEvent event := by
      obtain heq | rfl := hprops
      · exact heq
      · exact hround
    refine (readBack_ends hn' hpage effect).imp ?_
    rintro r n'' ⟨rfl, rfl⟩
    exact ⟨hn', id, props, effect, if_pos heq, hpage, heq⟩
  · rintro x n' ⟨-, id, props, effect, hx, -⟩
    cases hx

/-- The repetition has nothing to write. -/
theorem upsert_again (hn : Unique n) {id : ℕ} (hpage : HasPage n event.idempotencyKey id props)
    (heq : projectionFromPage props = projectionFromEvent event) :
    (upsert event).EndsIn machine i Answers Eq
      (fun r n' ↦ n' = n ∧ r = .ok (response event id .unchanged)) n := by
  rw [upsert_eq]
  refine queryExact_bind hn ?_
  rw [query_of_hasPage hn hpage, write_unchanged heq]
  refine (readBack_ends hn hpage .unchanged).imp ?_
  rintro r n' ⟨rfl, rfl⟩
  exact ⟨rfl, if_pos heq⟩

/-- **An event with an empty text** is written and fails, each time. -/
theorem upsert_fails (hn : Unique n) {field : TextField}
    (h : (projectionFromEvent event).text field = some "") :
    (upsert event).EndsIn machine i Answers Eq
      (fun r n' ↦ Unique n' ∧ r = .error .readbackProjectionMismatch) n := by
  rw [upsert_eq]
  refine queryExact_bind hn (.bind (write_ends hn) ?_ ?_)
  · rintro written n' ⟨hn', id, props, effect, hwritten, hpage, -⟩
    cases hwritten
    refine (readBack_ends hn' hpage effect).imp ?_
    rintro r n'' ⟨rfl, rfl⟩
    exact ⟨hn', if_neg (projectionFromPage_ne h props)⟩
  · rintro x n' ⟨-, id, props, effect, hx, -⟩
    cases hx

/-! ## Upserts one after the other -/

/-- The upserts of a data source that is empty first, without interference. Requests may fail. -/
def upserts : TransitionSystem Notion
    (TodoGlobalUpsertRequest × Except NotionTodoGlobalError TodoGlobalUpsertResponse) :=
  Program.serial {} upsert machine

theorem queryExact_alone (i : ℕ) (n : Notion) (k : String) :
    Program.Alone machine i n
      (fun r n' ↦ n' = n ∧ ∀ found, r = .ok found → found = n.query k) (queryExact k) := by
  rw [queryExact]
  refine Program.alone_perform_bind (fun e n' a hexec ↦ ?_) fun e n' x hexec ↦ ?_
  · have hn' : n' = n := (congrArg Prod.fst hexec).symm
    subst hn'
    cases a with
    | none => exact ⟨rfl, by rintro _ ⟨⟩⟩
    | some found =>
      have hfound := query_of_exec i (congrArg Prod.snd hexec)
      dsimp only
      split
      · exact ⟨rfl, by rintro _ ⟨⟩⟩
      · exact ⟨rfl, by rintro _ ⟨⟩; exact hfound⟩
  · exact ⟨(congrArg Prod.fst hexec).symm, by rintro _ ⟨⟩⟩

theorem write_alone (i : ℕ) (hn : Unique n) (event : TodoGlobalUpsertRequest) :
    Program.Alone machine i n (fun _ n' ↦ Unique n')
      (write event (n.query event.idempotencyKey)) := by
  obtain ⟨hnil, hnew⟩ | ⟨id, props, hquery, hpage⟩ := query_eq_nil_or hn event.idempotencyKey
  · have hfits : Fits (.create (properties event)) n := trivial
    have hunique : ∀ e, Unique (exec i (.create (properties event)) e n).1 := fun e ↦
      (unique_exec_iff i hn hfits).mpr fun _ page hmem ↦ by
        rw [key_properties]
        exact hnew page hmem
    rw [hnil, write]
    refine Program.alone_perform_bind (fun e n' a hexec ↦ ?_) fun e n' x hexec ↦ ?_
    · obtain rfl : _ = n' := congrArg Prod.fst hexec
      split
      · exact hunique e
      · exact hunique e
    · obtain rfl : _ = n' := congrArg Prod.fst hexec
      exact hunique e
  · have hfits : Fits (.patch id (properties event)) n :=
      ⟨props, hpage.1, hpage.2.trans (key_properties event).symm⟩
    have hunique : ∀ e, Unique (exec i (.patch id (properties event)) e n).1 := fun e ↦
      (unique_exec_iff i hn hfits).mpr trivial
    rw [hquery, write]
    dsimp only
    split
    · exact hn
    · refine Program.alone_perform_bind (fun e n' a hexec ↦ ?_) fun e n' x hexec ↦ ?_
      · obtain rfl : _ = n' := congrArg Prod.fst hexec
        exact hunique e
      · obtain rfl : _ = n' := congrArg Prod.fst hexec
        exact hunique e

theorem upsert_alone (i : ℕ) (hn : Unique n) (event : TodoGlobalUpsertRequest) :
    Program.Alone machine i n (fun _ n' ↦ Unique n') (upsert event) := by
  rw [upsert_eq]
  refine (queryExact_alone i n _).bind ?_ ?_
  · rintro found n' ⟨rfl, hfound⟩
    obtain rfl := hfound found rfl
    refine (write_alone i hn event).bind (fun {written n'} hn' ↦ ?_) fun hn' ↦ hn'
    refine (queryExact_alone i n' _).bind ?_ ?_
    · rintro readback n'' ⟨rfl, -⟩
      split
      · split_ifs
        · exact hn'
        · exact hn'
        · exact hn'
      · exact hn'
    · rintro x n'' ⟨rfl, -⟩
      exact hn'
  · rintro x n' ⟨rfl, -⟩
    exact hn

/-- Upserts one after the other keep one page a key. -/
theorem unique_of_upserts {tr} (h : upserts.Run tr n) : Unique n := by
  refine h.invariant (I := Unique) ?_ ?_
  · rintro _ rfl
    exact List.nodup_nil
  · rintro n ⟨event, r⟩ n' hn hstep
    obtain ⟨i, n₁, hn₁, rfl⟩ := Program.Alone.step (fun i ↦ upsert_alone i hn event) hstep
    exact hn₁

/-! ## Verified upserts -/

/-- Without interference and with every request answered, the upsert of an event is verified, and
its repetition finds nothing to write. -/
def Verified (event : TodoGlobalUpsertRequest) (n : Notion) : Prop :=
  ∀ i, (upsert event).EndsIn machine i Answers Eq
    (fun r n₁ ↦ (∃ a, r = .ok a ∧ a.readbackVerified = true) ∧
      ∀ j, (upsert event).EndsIn machine j Answers Eq
        (fun r' n₂ ↦ n₂ = n₁ ∧
          ∃ a, r' = .ok a ∧ a.effect = .unchanged ∧ a.readbackVerified = true) n₁) n

theorem verified_iff (h : event.Valid) (hn : Unique n) :
    Verified event n ↔ some "" ∉ event.todo.optionalTexts := by
  constructor
  · intro hverified
    by_contra hempty
    have hfield : ∃ field, (projectionFromEvent event).text field = some "" := by
      by_contra hnone
      push Not at hnone
      exact (forall_text_iff h).mp hnone hempty
    obtain ⟨field, hfield⟩ := hfield
    obtain ⟨r, n', ⟨⟨a, ha, -⟩, -⟩, -, hr⟩ := Program.EndsIn.exists_and (fun _ ↦ rfl)
      ⟨{}, rfl, rfl⟩ (hverified 0) (upsert_fails hn hfield)
    rw [ha] at hr
    cases hr
  · intro hnone i
    refine (upsert_ends hn ((roundTrip_iff h).mpr hnone)).imp ?_
    rintro r n₁ ⟨hn₁, id, props, effect, rfl, hpage, heq⟩
    refine ⟨⟨_, rfl, rfl⟩, fun j ↦ (upsert_again hn₁ hpage heq).imp ?_⟩
    rintro r' n₂ ⟨hn₂, rfl⟩
    exact ⟨hn₂, _, rfl, rfl, rfl⟩

/-- **Writing and reading back.** Of an event that the schema accepts, what is written reads back,
and after any upserts its upsert is verified and has nothing to write the second time, exactly when
none of the optional texts is the empty text. -/
theorem reads_back_iff (event : TodoGlobalUpsertRequest) (h : event.Valid) :
    (projectionFromPage (properties event) = projectionFromEvent event ↔
      some "" ∉ event.todo.optionalTexts) ∧
    ∀ tr n, upserts.Run tr n → (Verified event n ↔ some "" ∉ event.todo.optionalTexts) :=
  ⟨roundTrip_iff h, fun _ _ hrun ↦ verified_iff h (unique_of_upserts hrun)⟩

/-- An event without optional texts. -/
theorem reads_back_iff_sample :
    (projectionFromPage (properties (sampleEvent .pendente))
        = projectionFromEvent (sampleEvent .pendente) ↔
      some "" ∉ (sampleEvent .pendente).todo.optionalTexts) ∧
    ∀ tr n, upserts.Run tr n →
      (Verified (sampleEvent .pendente) n ↔ some "" ∉ (sampleEvent .pendente).todo.optionalTexts) :=
  reads_back_iff (sampleEvent .pendente)
    { correlationId := by decide
      project := by decide
      todo :=
        { title := by decide
          externalId := by decide
          blocker := by decide
          nextAction := by decide
          completionCriteria := by decide
          evidence := by decide
          evidenceUrl := by decide
          origin := by decide
          originUrl := by decide
          source := by decide
          bloqueado := by decide
          concluido := by decide } }

/-- The event of the sample with an empty blocker. -/
def emptyBlocker : TodoGlobalUpsertRequest :=
  { sampleEvent .pendente with todo := { (sampleEvent .pendente).todo with blocker := some "" } }

/-- The event is accepted and written, and the upsert and its repetition fail. -/
theorem empty_blocker_fails : emptyBlocker.Valid ∧
    projectionFromPage (properties emptyBlocker) ≠ projectionFromEvent emptyBlocker ∧
    (((upsert emptyBlocker).runAlone machine 0 (List.replicate 3 {}) {}).map fun x ↦
      (x.1.pages.length, x.2)) = some (1, .error .readbackProjectionMismatch) ∧
    (((upsert emptyBlocker).runAlone machine 0 (List.replicate 3 {})
      ⟨[properties emptyBlocker]⟩).map fun x ↦
        (x.1.pages.length, x.2)) = some (1, .error .readbackProjectionMismatch) := by
  refine ⟨?_, by decide, by decide +kernel, by decide +kernel⟩
  exact {
    correlationId := by decide
    project := by decide
    todo :=
      { title := by decide
        externalId := by decide
        blocker := by decide
        nextAction := by decide
        completionCriteria := by decide
        evidence := by decide
        evidenceUrl := by decide
        origin := by decide
        originUrl := by decide
        source := by decide
        bloqueado := by decide
        concluido := by decide } }

end TodoGlobal

end ReqSys
