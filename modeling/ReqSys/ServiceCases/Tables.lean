import ReqSys.ServiceCases.Controls
import ReqSys.ServiceCases.Sessions

/-!
# Service management: the side tables

The operations on a case write a row of a side table together with an event of the case, in one
commit. `Tables` is the database of the cases and events with these tables beside them, `Write` what
one commit adds to them, and `OpStmt` the statements of all operations: those of the cases, the
queries of the side tables, and the commit.

## Commits

A commit inserts the row and the event, or raises `IntegrityError` when a key of one of them is
taken. The row of an approval is also updated: the object relational mapper writes the columns that
differ from the row the session had loaded, so a decision without a reason leaves the column of the
reason alone.

The policies belong to others, as the services do: what a query of them answers is an input. The
two queries by which the transition guards look into the side tables are answered from the tables.
-/

namespace ReqSys

namespace ServiceCases

/-! ## Rows -/

/-- A row of `rsm_incident_problem_links`. -/
structure IncidentProblemLink where
  eventId : String
  incidentCaseId : String
  problemCaseId : String
  correlationId : String
  createdAt : DateTime
  deriving DecidableEq

/-- A row of `rsm_problem_root_causes`. -/
structure RootCause where
  eventId : String
  problemCaseId : String
  statement : String
  evidenceUri : String
  evidenceSha256 : String
  correlationId : String
  createdAt : DateTime
  deriving DecidableEq

/-- A row of `rsm_case_sla`. -/
structure CaseSla where
  caseId : String
  policyId : String
  priority : CasePriority
  startedAt : DateTime
  responseDueAt : DateTime
  resolutionDueAt : DateTime
  correlationId : String
  createdAt : DateTime
  deriving DecidableEq

/-- A row of `rsm_case_assignments`. -/
structure CaseAssignment where
  assignmentId : String
  caseId : String
  sequence : ℕ
  assignmentGroup : String
  assignee : Option String
  previousGroup : Option String
  previousAssignee : Option String
  eventId : String
  correlationId : String
  createdAt : DateTime
  deriving DecidableEq

/-- A row of `rsm_case_approvals`. -/
structure CaseApproval where
  approvalId : String
  caseId : String
  sequence : ℕ
  approver : String
  status : ApprovalStatus := .pending
  decisionReason : Option String := none
  requestedEventId : String
  decisionEventId : Option String := none
  correlationId : String
  requestedAt : DateTime
  decidedAt : Option DateTime := none
  deriving DecidableEq

/-- A row of `rsm_change_execution_evidence`. -/
structure ChangeEvidence where
  eventId : String
  caseId : String
  requirementRef : String
  sddRef : String
  pullRequestRef : String
  ciRunId : String
  ciConclusion : String
  execution : ChangeExecutionEvidence
  correlationId : String
  payloadSha256 : String
  createdAt : DateTime
  deriving DecidableEq

/-- The columns that a decision writes; without a reason that column is left out. -/
structure Decision where
  status : ApprovalStatus
  reason : Option String
  eventId : String
  decidedAt : DateTime
  deriving DecidableEq

/-- The row of an approval after a decision. -/
def CaseApproval.decide (d : Decision) (a : CaseApproval) : CaseApproval :=
  { a with
    status := d.status
    decisionReason := d.reason.or a.decisionReason
    decisionEventId := some d.eventId
    decidedAt := some d.decidedAt }

/-- The order of the closing guard: `observed_at`, `created_at`, `event_id`, all descending. -/
def ChangeEvidence.newestFirst (a b : ChangeEvidence) : Bool :=
  decide (b.execution.observedAt.instant < a.execution.observedAt.instant) ||
    decide (a.execution.observedAt.instant = b.execution.observedAt.instant) &&
      (decide (b.createdAt.toMicros < a.createdAt.toMicros) ||
        decide (a.createdAt.toMicros = b.createdAt.toMicros) && decide (b.eventId ≤ a.eventId))

/-! ## The database -/

/-- What a commit adds to the side tables. -/
inductive Write
  | link (row : IncidentProblemLink)
  | rootCause (row : RootCause)
  | sla (row : CaseSla)
  | assignment (row : CaseAssignment)
  | approval (row : CaseApproval)
  | decision (approvalId : String) (d : Decision)
  | evidence (row : ChangeEvidence)
  deriving DecidableEq

/-- The cases and their events with the side tables. -/
structure Tables extends Db where
  links : List IncidentProblemLink := []
  rootCauses : List RootCause := []
  slas : List CaseSla := []
  assignments : List CaseAssignment := []
  approvals : List CaseApproval := []
  evidences : List ChangeEvidence := []

namespace Tables

/-- The link between an incident and a problem. -/
def logicalLink (db : Tables) (incidentCaseId problemCaseId : String) :
    Option IncidentProblemLink :=
  db.links.find? fun r ↦ r.incidentCaseId = incidentCaseId ∧ r.problemCaseId = problemCaseId

/-- `_current_assignment`. -/
def currentAssignment (db : Tables) (caseId : String) : Option CaseAssignment :=
  Table.least (fun a b ↦ decide (b.sequence ≤ a.sequence))
    (db.assignments.filter fun r ↦ r.caseId = caseId)

/-- The approval of a case with the largest sequence. -/
def lastApproval (db : Tables) (caseId : String) : Option CaseApproval :=
  Table.least (fun a b ↦ decide (b.sequence ≤ a.sequence))
    (db.approvals.filter fun r ↦ r.caseId = caseId)

def getApproval (db : Tables) (approvalId : String) : Option CaseApproval :=
  Table.lookup CaseApproval.approvalId approvalId db.approvals

/-- `_approval_statuses`. -/
def approvalStatuses (db : Tables) (caseId : String) : List ApprovalStatus :=
  (db.approvals.filter fun r ↦ r.caseId = caseId).map CaseApproval.status

/-- The evidence that the closing guard looks at. -/
def latestEvidence (db : Tables) (caseId : String) : Option ChangeEvidence :=
  Table.least ChangeEvidence.newestFirst (db.evidences.filter fun r ↦ r.caseId = caseId)

/-- A primary or unique key of the written row is taken. -/
def taken (db : Tables) : Write → Bool
  | .link r => db.links.any fun x ↦ x.eventId = r.eventId
      || x.incidentCaseId = r.incidentCaseId && x.problemCaseId = r.problemCaseId
  | .rootCause r => db.rootCauses.any fun x ↦ x.eventId = r.eventId
  | .sla r => db.slas.any fun x ↦ x.caseId = r.caseId
  | .assignment r => db.assignments.any fun x ↦ x.assignmentId = r.assignmentId
      || x.eventId = r.eventId
  | .approval r => db.approvals.any fun x ↦ x.approvalId = r.approvalId
      || x.requestedEventId = r.requestedEventId
  | .decision approvalId d => db.approvals.any fun x ↦ x.approvalId ≠ approvalId
      && x.decisionEventId = some d.eventId
  | .evidence r => db.evidences.any fun x ↦ x.eventId = r.eventId

/-- The tables with a write in them. -/
def written (db : Tables) : Write → Tables
  | .link r => { db with links := db.links ++ [r] }
  | .rootCause r => { db with rootCauses := db.rootCauses ++ [r] }
  | .sla r => { db with slas := db.slas ++ [r] }
  | .assignment r => { db with assignments := db.assignments ++ [r] }
  | .approval r => { db with approvals := db.approvals ++ [r] }
  | .decision approvalId d =>
    { db with
      approvals := Table.update CaseApproval.approvalId approvalId (CaseApproval.decide d)
        db.approvals }
  | .evidence r => { db with evidences := db.evidences ++ [r] }

/-- The row that a write updates is gone. -/
def missing (db : Tables) : Write → Bool
  | .decision approvalId _ => (db.getApproval approvalId).isNone
  | _ => false

/-- The tables with an event in the log. -/
def logged (db : Tables) (event : CaseEvent) : Tables :=
  { db with events := db.events ++ [event] }

/-- `db.add(row); db.add(event); db.commit()`. An update that finds no row raises as well. -/
def commit (db : Tables) (w : Write) (event : CaseEvent) : Tables × Except RsmError Unit :=
  if db.missing w then (db, .error .operational)
  else if (db.getEvent event.eventId).isSome || db.taken w then (db, .error .integrity)
  else ((db.written w).logged event, .ok ())

end Tables

/-! ## Statements -/

/-- What a call gets from outside: also the policy that a query finds. -/
structure OpEnv extends Env where
  policy : Option SlaPolicy := none

/-- The atomic calls of the operations. -/
inductive OpStmt
  | base (op : Stmt)
  | uuid4
  | getPolicy (policyId : String)
  | getLink (eventId : String)
  | logicalLink (incidentCaseId problemCaseId : String)
  | getRootCause (eventId : String)
  | getSla (caseId : String)
  | currentAssignment (caseId : String)
  | assignmentByEvent (eventId : String)
  | getAssignment (assignmentId : String)
  | lastApproval (caseId : String)
  | approvalByEvent (eventId : String)
  | getApproval (approvalId : String)
  | getEvidence (eventId : String)
  /-- The row and the event as the code builds them; their timestamps are the database's. -/
  | commit (write : DateTime → Write) (event : DateTime → CaseEvent)

abbrev OpStmt.Ans : OpStmt → Type
  | base op => op.Ans
  | uuid4 => String
  | getPolicy _ => Option SlaPolicy
  | getLink _ => Option IncidentProblemLink
  | logicalLink _ _ => Option IncidentProblemLink
  | getRootCause _ => Option RootCause
  | getSla _ => Option CaseSla
  | currentAssignment _ => Option CaseAssignment
  | assignmentByEvent _ => Option CaseAssignment
  | getAssignment _ => Option CaseAssignment
  | lastApproval _ => Option CaseApproval
  | approvalByEvent _ => Option CaseApproval
  | getApproval _ => Option CaseApproval
  | getEvidence _ => Option ChangeEvidence
  | commit _ _ => Unit

namespace Tables

/-- The inputs of a statement of the cases: the guards see the side tables as they are. -/
def envOf (db : Tables) (e : OpEnv) : Stmt → Env
  | .approvalStatuses caseId => { e.toEnv with approvals := db.approvalStatuses caseId }
  | .latestChangeEvidence caseId =>
    { e.toEnv with latestChange := (db.latestEvidence caseId).map fun r ↦ r.execution.status }
  | _ => e.toEnv

/-- The effect and the answer of a statement of session `i`. -/
def exec (i : ℕ) : (op : OpStmt) → OpEnv → Tables → Tables × Except RsmError op.Ans
  | .base op, e, db =>
    let r := ServiceCases.exec i op (db.envOf e op) db.toDb
    ({ db with toDb := r.1 }, r.2)
  | .uuid4, e, db => (db, .ok e.uuid4)
  | .getPolicy _, e, db => (db, .ok e.policy)
  | .getLink eventId, _, db => (db, .ok (Table.lookup IncidentProblemLink.eventId eventId db.links))
  | .logicalLink incident problem, _, db => (db, .ok (db.logicalLink incident problem))
  | .getRootCause eventId, _, db =>
    (db, .ok (Table.lookup RootCause.eventId eventId db.rootCauses))
  | .getSla caseId, _, db => (db, .ok (Table.lookup CaseSla.caseId caseId db.slas))
  | .currentAssignment caseId, _, db => (db, .ok (db.currentAssignment caseId))
  | .assignmentByEvent eventId, _, db =>
    (db, .ok (Table.lookup CaseAssignment.eventId eventId db.assignments))
  | .getAssignment assignmentId, _, db =>
    (db, .ok (Table.lookup CaseAssignment.assignmentId assignmentId db.assignments))
  | .lastApproval caseId, _, db => (db, .ok (db.lastApproval caseId))
  | .approvalByEvent eventId, _, db =>
    (db, .ok (Table.lookup CaseApproval.requestedEventId eventId db.approvals))
  | .getApproval approvalId, _, db => (db, .ok (db.getApproval approvalId))
  | .getEvidence eventId, _, db =>
    (db, .ok (Table.lookup ChangeEvidence.eventId eventId db.evidences))
  | .commit write event, e, db => db.commit (write e.now) (event e.now)

/-- A session that ends is rolled back. -/
def close (i : ℕ) (db : Tables) : Tables := { db with toDb := db.toDb.rollback i }

end Tables

/-- The database of the operations. -/
def opMachine : Machine OpStmt.Ans RsmError Tables OpEnv where
  exec := Tables.exec
  close := Tables.close

end ServiceCases

end ReqSys
