import Mathlib
import ReqSys.Foundation.Calendar
import ReqSys.Foundation.Program
import ReqSys.Foundation.Table
import ReqSys.ServiceCases.Domain

/-!
# Service management: sessions over one database

`create_service_case` and `transition_service_case` as programs over the statements they execute.
Every query, every statement and every commit is one atomic call; between two of them other sessions
run.

## Transactions

A session writes nothing that others see until it commits. What it has flushed is kept aside as its
*pending* write: the row inserted by `create_service_case`, or the row updated by the
compare-and-swap of `transition_service_case`. The commit makes the pending write and the event
visible together, or raises if the key of the event is taken. A session that ends without a commit
is rolled back.

A pending write locks its keys. A statement of another session that needs one of them waits; when it
does not get the lock it raises `OperationalError`, and a schedule in which it waits is one that
does not advance it until the lock is free.

The tables that these two operations only read (services, approvals, change evidence) belong to
others: what a query of them answers is part of the input `Env` of the call.
-/

namespace ReqSys

namespace ServiceCases

/-! ## Tables -/

inductive Source
  | reqsys | teams
  deriving DecidableEq

/-- A row of `rsm_service_cases`. -/
structure CaseRecord where
  caseId : String
  caseType : CaseType
  serviceId : String
  requester : String
  impact : Impact
  urgency : Urgency
  priority : CasePriority
  state : CaseState
  source : Source
  correlationId : String
  idempotencyKey : String
  version : ℕ
  schemaVersion : String
  createdAt : DateTime
  updatedAt : DateTime
  deriving DecidableEq

/-- The types of events. The two operations below write the first two. -/
inductive EventType
  | caseCreated | stateTransitioned
  | incidentLinkedToProblem | problemRootCauseRecorded
  | slaApplied | assignmentChanged | approvalRequested | approvalDecided
  | changeRuntimeEvidenceRecorded
  deriving DecidableEq

/-- A row of `rsm_service_case_events`. -/
structure CaseEvent where
  eventId : String
  caseId : String
  eventType : EventType
  fromState : Option CaseState
  toState : Option CaseState
  correlationId : String
  evidenceUri : Option String := none
  evidenceSha256 : Option String := none
  createdAt : DateTime
  deriving DecidableEq

/-- What a session has written and not yet committed. -/
inductive Pending
  | insertCase (record : CaseRecord)
  /-- The row of `caseId` with its new state, version and time of change. -/
  | updateCase (caseId : String) (state : CaseState) (version : ℕ) (updatedAt : DateTime)
  deriving DecidableEq

/-- The committed tables, the events in commit order, and the pending writes by session. -/
structure Db where
  cases : List CaseRecord := []
  events : List CaseEvent := []
  pending : List (ℕ × Pending) := []

namespace Db

/-- `db.get(ServiceCaseRecord, case_id)`. -/
def getCase (db : Db) (caseId : String) : Option CaseRecord :=
  Table.lookup CaseRecord.caseId caseId db.cases

/-- The row with an idempotency key. -/
def caseByKey (db : Db) (key : String) : Option CaseRecord :=
  Table.lookup CaseRecord.idempotencyKey key db.cases

/-- `db.get(ServiceCaseEventRecord, event_id)`. -/
def getEvent (db : Db) (eventId : String) : Option CaseEvent :=
  Table.lookup CaseEvent.eventId eventId db.events

/-- The pending write of a session. -/
def pendingOf (db : Db) (i : ℕ) : Option Pending :=
  (Table.lookup Prod.fst i db.pending).map Prod.snd

/-- Forget the pending write of a session. -/
def rollback (db : Db) (i : ℕ) : Db :=
  { db with pending := db.pending.filter fun x ↦ x.1 ≠ i }

/-- Set the pending write of a session. -/
def stage (db : Db) (i : ℕ) (w : Pending) : Db :=
  { db with pending := (i, w) :: (db.rollback i).pending }

/-- Another session holds the row. -/
def rowLocked (db : Db) (i : ℕ) (caseId : String) : Bool :=
  db.pending.any fun x ↦ x.1 ≠ i &&
    match x.2 with
    | .updateCase c _ _ _ => c = caseId
    | .insertCase _ => false

/-- Another session is inserting a row with one of the unique keys. -/
def keyLocked (db : Db) (i : ℕ) (record : CaseRecord) : Bool :=
  db.pending.any fun x ↦ x.1 ≠ i &&
    match x.2 with
    | .insertCase r => r.caseId = record.caseId || r.idempotencyKey = record.idempotencyKey
    | .updateCase _ _ _ _ => false

/-- The tables with a pending write made visible. -/
def apply (db : Db) : Pending → Db
  | .insertCase record => { db with cases := db.cases ++ [record] }
  | .updateCase caseId state version updatedAt =>
    let set (r : CaseRecord) : CaseRecord := { r with state, version, updatedAt }
    { db with cases := Table.update CaseRecord.caseId caseId set db.cases }

/-- `db.flush()` of a new row. -/
def flushCase (db : Db) (i : ℕ) (record : CaseRecord) : Db × Except RsmError Unit :=
  if (db.getCase record.caseId).isSome || (db.caseByKey record.idempotencyKey).isSome then
    (db, .error .integrity)
  else if db.keyLocked i record then (db, .error .operational)
  else (db.stage i (.insertCase record), .ok ())

/-- `UPDATE … WHERE case_id = … AND version = …`, with the number of rows changed. -/
def updateCase (db : Db) (i : ℕ) (caseId : String) (expectedVersion : ℕ) (state : CaseState)
    (now : DateTime) : Db × Except RsmError ℕ :=
  if db.rowLocked i caseId then (db, .error .operational)
  else
    match db.getCase caseId with
    | none => (db, .ok 0)
    | some r =>
      if r.version = expectedVersion then
        (db.stage i (.updateCase caseId state (expectedVersion + 1) now), .ok 1)
      else (db, .ok 0)

/-- `db.add(event); db.commit()`. -/
def commit (db : Db) (i : ℕ) (event : CaseEvent) : Db × Except RsmError Unit :=
  if (db.getEvent event.eventId).isSome then (db, .error .integrity)
  else
    let visible := match db.pendingOf i with
      | none => db
      | some w => db.apply w
    ({ visible.rollback i with events := db.events ++ [event] }, .ok ())

end Db

/-! ## Statements -/

/-- What a call gets from outside: the clock of the database, a random UUID, and the answers of the
queries on the tables of others. -/
structure Env where
  now : DateTime
  uuid4 : String := ""
  /-- `ativo` of the service, if it exists. -/
  service : Option Bool := some true
  approvals : List ApprovalStatus := []
  /-- The status of the latest change evidence. -/
  latestChange : Option ChangeValidationStatus := none

/-- The atomic calls of the two operations. -/
inductive Stmt
  | getService (serviceId : String)
  | caseByKey (key : String)
  | newCaseId
  | getEvent (eventId : String)
  | getCase (caseId : String)
  | approvalStatuses (caseId : String)
  | latestChangeEvidence (caseId : String)
  /-- The row as the code builds it; its timestamps are the database's. -/
  | flushCase (record : DateTime → CaseRecord)
  | updateCase (caseId : String) (expectedVersion : ℕ) (state : CaseState)
  /-- The event as the code builds it; its timestamp is the database's. -/
  | commit (event : DateTime → CaseEvent)
  | rollback

abbrev Stmt.Ans : Stmt → Type
  | getService _ => Option Bool
  | caseByKey _ => Option CaseRecord
  | newCaseId => String
  | getEvent _ => Option CaseEvent
  | getCase _ => Option CaseRecord
  | approvalStatuses _ => List ApprovalStatus
  | latestChangeEvidence _ => Option ChangeValidationStatus
  | flushCase _ => Unit
  | updateCase _ _ _ => ℕ
  | commit _ => Unit
  | rollback => Unit

/-- The effect and the answer of a statement of session `i`. -/
def exec (i : ℕ) : (op : Stmt) → Env → Db → Db × Except RsmError op.Ans
  | .getService _, e, db => (db, .ok e.service)
  | .caseByKey key, _, db => (db, .ok (db.caseByKey key))
  | .newCaseId, e, db => (db, .ok e.uuid4)
  | .getEvent eventId, _, db => (db, .ok (db.getEvent eventId))
  | .getCase caseId, _, db => (db, .ok (db.getCase caseId))
  | .approvalStatuses _, e, db => (db, .ok e.approvals)
  | .latestChangeEvidence _, e, db => (db, .ok e.latestChange)
  | .flushCase record, e, db => db.flushCase i (record e.now)
  | .updateCase caseId expectedVersion state, e, db =>
    db.updateCase i caseId expectedVersion state e.now
  | .commit event, e, db => db.commit i (event e.now)
  | .rollback, _, db => (db.rollback i, .ok ())

/-- The database; a session that ends is rolled back. -/
def machine : Machine Stmt.Ans RsmError Db Env where
  exec := exec
  close i db := db.rollback i

/-! ## The operations -/

/-- `ServiceCaseCreateRequest`. -/
structure CreateRequest where
  caseType : CaseType
  serviceId : String
  requester : String
  impact : Impact
  urgency : Urgency
  idempotencyKey : String
  eventId : String
  source : Source := .reqsys
  requester_length : 1 ≤ requester.length ∧ requester.length ≤ 200
  idempotencyKey_hex : PyText.isHex 64 idempotencyKey = true

/-- `ServiceCaseTransitionRequest`. -/
structure TransitionRequest where
  targetState : CaseState
  expectedVersion : ℕ
  eventId : String
  evidenceUri : Option String := none
  evidenceSha256 : Option String := none
  expectedVersion_pos : 1 ≤ expectedVersion
  evidenceUri_length : ∀ u ∈ evidenceUri, 1 ≤ u.length ∧ u.length ≤ 1000
  evidenceSha256_hex : ∀ h ∈ evidenceSha256, PyText.isHex 64 h = true

/-- The registered transition guards. -/
inductive TransitionGuard
  /-- `_approval_transition_guard`. -/
  | approval
  /-- `_change_close_guard`. -/
  | changeClose
  deriving DecidableEq

/-- How UUIDs are parsed, and `TRANSITION_GUARDS`. -/
structure Config where
  parseUuid : String → Option String
  guards : List TransitionGuard

abbrev Operation (α : Type) := Program Stmt.Ans RsmError α

/-- One statement. -/
def run (op : Stmt) : Operation op.Ans := Program.perform op

/-- `_active_service`. -/
def activeService (serviceId : String) : Operation Unit := do
  match ← run (.getService serviceId) with
  | none => .raise (.notFound "serviço não encontrado")
  | some ativo =>
    .ofExcept (require (ativo = true) (.conflict "serviço inativo não aceita novos casos"))

/-- `_same_creation_intent`. -/
def sameCreationIntent (record : CaseRecord) (payload : CreateRequest) : Bool :=
  record.caseType = payload.caseType && record.serviceId = payload.serviceId
    && record.requester = PyText.strip payload.requester && record.impact = payload.impact
    && record.urgency = payload.urgency && record.source = payload.source

/-- `_assert_same_creation_intent`, and the answer of a replay. -/
def replayOf (existing : CaseRecord) (payload : CreateRequest) :
    Operation (CaseRecord × Bool) := do
  .ofExcept (require (sameCreationIntent existing payload = true)
    (.conflict "idempotency_key já utilizada por outra intenção"))
  return (existing, true)

/-- The row that `create_service_case` inserts. -/
def newRecord (domain : ServiceCase) (payload : CreateRequest) (now : DateTime) : CaseRecord where
  caseId := domain.caseId
  caseType := domain.caseType
  serviceId := domain.serviceId
  requester := domain.requester
  impact := domain.impact
  urgency := domain.urgency
  priority := domain.priority
  state := domain.state
  source := payload.source
  correlationId := domain.correlationId
  idempotencyKey := domain.idempotencyKey
  version := 1
  schemaVersion := domain.schemaVersion
  createdAt := now
  updatedAt := now

/-- Its `CASE_CREATED` event. -/
def createdEvent (domain : ServiceCase) (payload : CreateRequest) (correlationId : String)
    (now : DateTime) : CaseEvent where
  eventId := payload.eventId
  caseId := domain.caseId
  eventType := .caseCreated
  fromState := none
  toState := some domain.state
  correlationId := correlationId
  createdAt := now

/-- `db.add(record); db.flush(); db.add(event); db.commit()`. -/
def insertCase (domain : ServiceCase) (payload : CreateRequest) (correlationId : String) :
    Operation Unit := do
  run (.flushCase (newRecord domain payload))
  run (.commit (createdEvent domain payload correlationId))

/-- `create_service_case`. -/
def createServiceCase (cfg : Config) (payload : CreateRequest) (correlationId : String) :
    Operation (CaseRecord × Bool) := do
  activeService payload.serviceId
  match ← run (.caseByKey payload.idempotencyKey) with
  | some existing => replayOf existing payload
  | none =>
    let caseId ← run .newCaseId
    let domain ← .ofExcept (ServiceCase.build cfg.parseUuid
      { caseId
        caseType := payload.caseType
        serviceId := payload.serviceId
        requester := payload.requester
        impact := payload.impact
        urgency := payload.urgency
        correlationId
        idempotencyKey := payload.idempotencyKey })
    match ← (insertCase domain payload correlationId).attempt with
    | .ok _ =>
      -- `db.refresh(record)`
      match ← run (.getCase domain.caseId) with
      | none => .raise .operational
      | some record => return (record, false)
    | .error .integrity =>
      run .rollback
      match ← run (.caseByKey payload.idempotencyKey) with
      | some existing => replayOf existing payload
      | none => .raise (.conflict "event_id ou identidade já utilizada")
    | .error x => .raise x

/-- `_domain`. -/
def domainOf (cfg : Config) (record : CaseRecord) : Except RsmError ServiceCase :=
  ServiceCase.build cfg.parseUuid
    { caseId := record.caseId
      caseType := record.caseType
      serviceId := record.serviceId
      requester := record.requester
      impact := record.impact
      urgency := record.urgency
      correlationId := record.correlationId
      idempotencyKey := record.idempotencyKey
      state := record.state
      schemaVersion := record.schemaVersion }

/-- A registered guard. -/
def TransitionGuard.check (record : CaseRecord) (target : CaseState) :
    TransitionGuard → Operation Unit
  | approval =>
    if requiresApproval record.state target then do
      let statuses ← run (.approvalStatuses record.caseId)
      .ofExcept (assertApprovalAllowsTransition record.state target statuses)
    else return ()
  | changeClose =>
    if record.caseType = .change ∧ target = .closed then do
      let latest ← run (.latestChangeEvidence record.caseId)
      .ofExcept (assertChangeCanClose latest)
    else return ()

/-- The evidence a resolution needs. -/
def resolutionEvidence (payload : TransitionRequest) : Except RsmError Unit :=
  if payload.targetState = .resolved then do
    require (PyText.truthy payload.evidenceUri = true ∧ PyText.truthy payload.evidenceSha256 = true)
      (.conflict "resolução exige evidência objetiva")
    evidenceReference payload.eventId (payload.evidenceUri.getD "")
      (payload.evidenceSha256.getD "")
  else .ok ()

/-- The `STATE_TRANSITIONED` event. -/
def transitionEvent (caseId : String) (payload : TransitionRequest) (fromState toState : CaseState)
    (correlationId : String) (now : DateTime) : CaseEvent where
  eventId := payload.eventId
  caseId := caseId
  eventType := .stateTransitioned
  fromState := some fromState
  toState := some toState
  correlationId := correlationId
  evidenceUri := payload.evidenceUri
  evidenceSha256 := payload.evidenceSha256
  createdAt := now

/-- The answer to a replayed `event_id`. -/
def replayTransition (caseId : String) (payload : TransitionRequest) (event : CaseEvent) :
    Operation (CaseRecord × Bool) := do
  .ofExcept (require (event.caseId = caseId ∧ event.toState = some payload.targetState)
    (.conflict "event_id já utilizado por outro efeito"))
  match ← run (.getCase caseId) with
  | none => .raise (.notFound "ServiceCase não encontrado")
  | some record => return (record, true)

/-- The compare-and-swap, the event and the commit. -/
def writeTransition (caseId : String) (payload : TransitionRequest) (fromState : CaseState)
    (updated : ServiceCase) (correlationId : String) : Operation (CaseRecord × Bool) := do
  let rowcount ← run (.updateCase caseId payload.expectedVersion updated.state)
  if rowcount ≠ 1 then do
    run .rollback
    .raise (.conflict "atualização concorrente detectada")
  else do
    match ← (run (.commit (transitionEvent caseId payload fromState updated.state
        correlationId))).attempt with
    | .ok _ =>
      match ← run (.getCase caseId) with
      | none => .raise .operational
      | some refreshed => return (refreshed, false)
    | .error .integrity =>
      run .rollback
      .raise (.conflict "event_id já utilizado")
    | .error x => .raise x

/-- `transition_service_case`. -/
def transitionServiceCase (cfg : Config) (caseId : String) (payload : TransitionRequest)
    (correlationId : String) : Operation (CaseRecord × Bool) := do
  match ← run (.getEvent payload.eventId) with
  | some event => replayTransition caseId payload event
  | none =>
    match ← run (.getCase caseId) with
    | none => .raise (.notFound "ServiceCase não encontrado")
    | some record =>
      .ofExcept (require (record.version = payload.expectedVersion)
        (.conflict ("versão divergente: esperado=" ++ toString payload.expectedVersion
          ++ " atual=" ++ toString record.version)))
      let domain ← .ofExcept (domainOf cfg record)
      .ofExcept (resolutionEvidence payload)
      cfg.guards.forM (TransitionGuard.check record payload.targetState)
      let updated ← .ofExcept (domain.transitionTo cfg.parseUuid payload.targetState)
      writeTransition caseId payload record.state updated correlationId

/-! ## Sessions -/

/-- The operations a session may run. -/
inductive Request
  | create (payload : CreateRequest) (correlationId : String)
  | transition (caseId : String) (payload : TransitionRequest) (correlationId : String)

def code (cfg : Config) : Request → Operation (CaseRecord × Bool)
  | .create payload correlationId => createServiceCase cfg payload correlationId
  | .transition caseId payload correlationId =>
    transitionServiceCase cfg caseId payload correlationId

/-- The database and the operations running over it. -/
abbrev Sessions := Pool Db (Operation (CaseRecord × Bool))

/-- A move of the sessions, with the answer it delivers. -/
abbrev SessionMove := Move Request Env × Option (Except RsmError (CaseRecord × Bool))

/-- Any number of sessions over one database, which is empty at first. -/
def sessions (cfg : Config) : TransitionSystem Sessions SessionMove :=
  Pool.interleaving {} (code cfg) machine

/-! ## A small help desk

One service and one case: the inputs of the concrete runs of this development. -/

def sampleServiceId : String := "11111111-1111-4111-8111-111111111111"

def sampleCaseId : String := "22222222-2222-4222-8222-222222222222"

/-- Both guards, and the two UUIDs above, which are in canonical form. -/
def sampleConfig : Config where
  parseUuid s := if s = sampleServiceId ∨ s = sampleCaseId then some s else none
  guards := [.approval, .changeClose]

def sampleEnv : Env where
  now := .newYearNoon
  uuid4 := sampleCaseId

def sampleCreate : CreateRequest where
  caseType := .incident
  serviceId := sampleServiceId
  requester := "ana"
  impact := .high
  urgency := .medium
  idempotencyKey := "0000000000000000000000000000000000000000000000000000000000000000"
  eventId := "33333333-3333-4333-8333-333333333333"
  requester_length := by decide
  idempotencyKey_hex := by decide +kernel

def sampleTransition (target : CaseState) (version : ℕ) (eventId : String)
    (hversion : 1 ≤ version := by decide) : TransitionRequest where
  targetState := target
  expectedVersion := version
  eventId := eventId
  expectedVersion_pos := hversion
  evidenceUri_length := by simp
  evidenceSha256_hex := by simp

/-- Session 0 creates the case; sessions 1 and 2 then both read version 1, and session 1 cancels the
case before session 2 compares and swaps. -/
def sampleMoves : List (Move Request Env) :=
  .start 0 (.create sampleCreate "c-1") :: List.replicate 7 (.advance 0 sampleEnv)
    ++ [.start 1 (.transition sampleCaseId
          (sampleTransition .canceled 1 "44444444-4444-4444-8444-444444444444" Nat.one_pos) "c-2"),
        .start 2 (.transition sampleCaseId
          (sampleTransition .triage 1 "55555555-5555-4555-8555-555555555555" Nat.one_pos) "c-3"),
        .advance 2 sampleEnv, .advance 2 sampleEnv]
    ++ List.replicate 5 (.advance 1 sampleEnv) ++ List.replicate 3 (.advance 2 sampleEnv)

/-- The trace and the final sessions of a list of moves. -/
def sampleRun (moves : List (Move Request Env)) : List SessionMove × Sessions :=
  TransitionSystem.runCalls (Pool.move (code sampleConfig) machine) moves ⟨{}, fun _ ↦ none⟩

theorem run_sampleRun (moves : List (Move Request Env)) :
    (sessions sampleConfig).Run (sampleRun moves).1 (sampleRun moves).2 :=
  TransitionSystem.run_runCalls _ _ moves

end ServiceCases

end ReqSys
