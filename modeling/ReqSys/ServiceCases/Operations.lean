import ReqSys.Foundation.Serial
import ReqSys.ServiceCases.Tables

/-!
# Service management: the operations on a case

The seven operations that write a side table, as programs over the statements they execute, and the
two of the cases embedded among them. All of them have one shape: they look for a replay, load what
they need, check, and write the row and its event in one commit. They differ in what they look for
and in which order, and in what they do when the commit finds a key taken.

`operations` is the system: any number of sessions over one database.
-/

namespace ReqSys

namespace ServiceCases

/-! ## Requests -/

/-- `IncidentProblemLinkRequest`. -/
structure LinkRequest where
  problemCaseId : String
  eventId : String

/-- `ProblemRootCauseRequest`. -/
structure RootCauseRequest where
  eventId : String
  statement : String
  evidenceUri : String
  evidenceSha256 : String
  statement_length : 1 ≤ statement.length ∧ statement.length ≤ 2000
  evidenceUri_length : 1 ≤ evidenceUri.length ∧ evidenceUri.length ≤ 1000
  evidenceSha256_hex : PyText.isHex 64 evidenceSha256 = true

/-- `CaseSlaApplyRequest`. -/
structure SlaRequest where
  policyId : String
  eventId : String

/-- `CaseAssignmentRequest`. -/
structure AssignmentRequest where
  assignmentGroup : String
  assignee : Option String := none
  eventId : String
  assignmentGroup_length : 1 ≤ assignmentGroup.length ∧ assignmentGroup.length ≤ 200
  assignee_length : ∀ s ∈ assignee, s.length ≤ 200

/-- `ApprovalRequestCreate`. -/
structure ApprovalRequest where
  approver : String
  eventId : String
  approver_length : 1 ≤ approver.length ∧ approver.length ≤ 200

/-- `ApprovalDecisionRequest`. -/
structure DecisionRequest where
  decision : ApprovalStatus
  eventId : String
  reason : Option String := none
  reason_length : ∀ s ∈ reason, s.length ≤ 1000

/-- `ChangeEvidenceRequest`; its `ci_conclusion` can only be `success`. -/
structure EvidenceRequest where
  eventId : String
  requirementRef : String
  sddRef : String
  pullRequestRef : String
  headSha : String
  ciRunId : String
  deploymentRef : String
  environment : String
  runtimeSha : String
  postDeployEvidenceUri : String
  postDeployEvidenceSha256 : String
  status : ChangeValidationStatus
  observedAt : ObservedAt
  rollback : Rollback := {}
  text_length : ∀ x ∈ [(requirementRef, 200), (sddRef, 300), (pullRequestRef, 200),
    (ciRunId, 120), (deploymentRef, 300), (environment, 80), (postDeployEvidenceUri, 1000)]
      ++ (rollback.ref.map fun s ↦ (s, 300)).toList
      ++ (rollback.evidenceUri.map fun s ↦ (s, 1000)).toList,
    1 ≤ x.1.length ∧ x.1.length ≤ x.2
  sha_pattern : ∀ s ∈ [headSha, runtimeSha] ++ rollback.runtimeSha.toList,
    isGitSha (PyText.asciiLower s) = true
  sha256_pattern : ∀ s ∈ postDeployEvidenceSha256 :: rollback.evidenceSha256.toList,
    PyText.isHex 64 s = true

/-- How UUIDs are parsed and texts are hashed. -/
structure OpConfig where
  parseUuid : String → Option String
  sha256 : String → String

/-- With the guards that the modules register on import. -/
def OpConfig.toConfig (cfg : OpConfig) : Config where
  parseUuid := cfg.parseUuid
  guards := [.approval, .changeClose]

/-- The texts that `_fingerprint` joins. -/
def fingerprintFields (p : EvidenceRequest) : List String :=
  [p.eventId, PyText.strip p.requirementRef, PyText.strip p.sddRef, PyText.strip p.pullRequestRef,
    PyText.asciiLower p.headSha, PyText.strip p.ciRunId, "success", PyText.strip p.deploymentRef,
    PyText.strip p.environment, PyText.asciiLower p.runtimeSha,
    PyText.strip p.postDeployEvidenceUri, p.postDeployEvidenceSha256, p.status.value,
    p.observedAt.isoformat, p.rollback.ref.getD "",
    PyText.asciiLower (p.rollback.runtimeSha.getD ""), p.rollback.evidenceUri.getD "",
    p.rollback.evidenceSha256.getD ""]

/-- `_fingerprint`. -/
def fingerprint (cfg : OpConfig) (p : EvidenceRequest) : String :=
  cfg.sha256 (String.intercalate "\x1f" (fingerprintFields p))

/-! ## Steps that the operations share -/

abbrev OpProgram (α : Type) := Program OpStmt.Ans RsmError α

/-- One statement. -/
def ask (op : OpStmt) : OpProgram op.Ans := Program.perform op

/-- An operation on the cases. -/
def onCases {α : Type} (p : Operation α) : OpProgram α := p.embed OpStmt.base fun _ r ↦ r

/-- `_case`, and the lookups of the two cases of a link. -/
def caseOr (caseId message : String) : OpProgram CaseRecord := do
  match ← ask (.base (.getCase caseId)) with
  | none => .raise (.notFound message)
  | some record => return record

/-- `_event_exists`. -/
def eventExists (eventId : String) (expectedType : EventType) (caseId : String) :
    OpProgram Bool := do
  match ← ask (.base (.getEvent eventId)) with
  | none => return false
  | some existing => do
    .ofExcept (require (existing.caseId = caseId ∧ existing.eventType = expectedType)
      (.conflict "event_id já utilizado por outro efeito"))
    return true

/-- The event must not be in the log. -/
def eventUnused (eventId : String) : OpProgram Unit := do
  match ← ask (.base (.getEvent eventId)) with
  | none => return ()
  | some _ => .raise (.conflict "event_id já utilizado por outro efeito")

/-- `db.refresh(record)` after the commit, and the answer. -/
def refreshed {α : Type} (o : Option α) : OpProgram (α × Bool) :=
  match o with
  | none => .raise .operational
  | some record => return (record, false)

/-- The answer of a replay, or the error when there is no row to answer with. -/
def replayed {α : Type} (o : Option α) (message : String) : OpProgram (α × Bool) :=
  match o with
  | none => .raise (.conflict message)
  | some record => return (record, true)

/-- `db.commit()`, with what follows it and what follows the rollback of an `IntegrityError`. -/
def commitOr {α : Type} (write : DateTime → Write) (event : DateTime → CaseEvent)
    (done collision : OpProgram α) : OpProgram α := do
  match ← (ask (.commit write event)).attempt with
  | .ok _ => done
  | .error .integrity => do
    ask (.base .rollback)
    collision
  | .error x => .raise x

/-- `_append_event`, and the events of links, root causes and evidence. -/
def sideEvent (eventId caseId : String) (eventType : EventType) (correlationId : String)
    (evidence : Option (String × String)) (now : DateTime) : CaseEvent where
  eventId := eventId
  caseId := caseId
  eventType := eventType
  fromState := none
  toState := none
  correlationId := correlationId
  evidenceUri := evidence.map Prod.fst
  evidenceSha256 := evidence.map Prod.snd
  createdAt := now

/-! ## Incidents and problems -/

/-- The row that `link_incident_to_problem` inserts. -/
def newLink (eventId : String) (relation : IncidentProblemRelation) (now : DateTime) : Write :=
  .link
    { eventId
      incidentCaseId := relation.incidentCaseId
      problemCaseId := relation.problemCaseId
      correlationId := relation.correlationId
      createdAt := now }

/-- What is left to say when the commit of a link finds a key taken. -/
def linkCollision (eventId : String) (relation : IncidentProblemRelation) :
    OpProgram (IncidentProblemLink × Bool) := do
  match ← ask (.getLink eventId) with
  | some replay =>
    if replay.incidentCaseId = relation.incidentCaseId
        ∧ replay.problemCaseId = relation.problemCaseId then return (replay, true)
    else .raise (.conflict "event_id já utilizado por outro efeito")
  | none =>
    match ← ask (.base (.getEvent eventId)) with
    | some _ => .raise (.conflict "event_id já utilizado por outro efeito")
    | none =>
      match ← ask (.logicalLink relation.incidentCaseId relation.problemCaseId) with
      | some logical => return (logical, true)
      | none => .raise (.conflict "relação ou event_id já utilizado")

/-- The relation of the two cases that were loaded. -/
def checkedRelation (cfg : OpConfig) (incident problem : CaseRecord)
    (incidentCaseId problemCaseId correlationId : String) :
    Except RsmError IncidentProblemRelation := do
  let relation ← IncidentProblemRelation.build cfg.parseUuid incidentCaseId problemCaseId
    correlationId
  let incidentCase ← domainOf cfg.toConfig incident
  let problemCase ← domainOf cfg.toConfig problem
  validateIncidentProblemRelation incidentCase problemCase relation
  return relation

/-- `link_incident_to_problem`. -/
def linkIncidentToProblem (cfg : OpConfig) (incidentCaseId : String) (payload : LinkRequest)
    (correlationId : String) : OpProgram (IncidentProblemLink × Bool) := do
  match ← ask (.getLink payload.eventId) with
  | some replay => do
    .ofExcept (require
      (replay.incidentCaseId = incidentCaseId ∧ replay.problemCaseId = payload.problemCaseId)
      (.conflict "event_id já utilizado por outra relação INCIDENT -> PROBLEM"))
    return (replay, true)
  | none => do
    eventUnused payload.eventId
    let incident ← caseOr incidentCaseId "INCIDENT não encontrado"
    let problem ← caseOr payload.problemCaseId "PROBLEM não encontrado"
    let relation ← .ofExcept (checkedRelation cfg incident problem incidentCaseId
      payload.problemCaseId correlationId)
    match ← ask (.logicalLink relation.incidentCaseId relation.problemCaseId) with
    | some logical => return (logical, true)
    | none =>
      commitOr (newLink payload.eventId relation)
        (sideEvent payload.eventId relation.incidentCaseId .incidentLinkedToProblem
          relation.correlationId none)
        (do refreshed (← ask (.getLink payload.eventId)))
        (linkCollision payload.eventId relation)

/-- The row that `record_problem_root_cause` inserts. -/
def newRootCause (eventId : String) (cause : ProblemRootCause) (now : DateTime) : Write :=
  .rootCause
    { eventId
      problemCaseId := cause.problemCaseId
      statement := cause.statement
      evidenceUri := cause.evidenceUri
      evidenceSha256 := cause.evidenceSha256
      correlationId := cause.correlationId
      createdAt := now }

/-- The root cause of the problem that was loaded. -/
def checkedRootCause (cfg : OpConfig) (problem : CaseRecord) (problemCaseId : String)
    (payload : RootCauseRequest) (correlationId : String) : Except RsmError ProblemRootCause := do
  let cause ← ProblemRootCause.build cfg.parseUuid payload.eventId problemCaseId payload.statement
    payload.evidenceUri payload.evidenceSha256 correlationId
  let domain ← domainOf cfg.toConfig problem
  validateProblemRootCause domain cause
  return cause

/-- `record_problem_root_cause`. -/
def recordProblemRootCause (cfg : OpConfig) (problemCaseId : String) (payload : RootCauseRequest)
    (correlationId : String) : OpProgram (RootCause × Bool) := do
  match ← ask (.getRootCause payload.eventId) with
  | some replay => do
    .ofExcept (require
      (replay.problemCaseId = problemCaseId ∧ replay.statement = PyText.strip payload.statement
        ∧ replay.evidenceUri = PyText.strip payload.evidenceUri
        ∧ replay.evidenceSha256 = payload.evidenceSha256)
      (.conflict "event_id já utilizado por outra causa raiz"))
    return (replay, true)
  | none => do
    eventUnused payload.eventId
    let problem ← caseOr problemCaseId "PROBLEM não encontrado"
    let cause ← .ofExcept (checkedRootCause cfg problem problemCaseId payload correlationId)
    commitOr (newRootCause payload.eventId cause)
      (sideEvent payload.eventId cause.problemCaseId .problemRootCauseRecorded cause.correlationId
        (some (cause.evidenceUri, cause.evidenceSha256)))
      (do refreshed (← ask (.getRootCause payload.eventId)))
      (do
        match ← ask (.getRootCause payload.eventId) with
        | some replay =>
          if replay.problemCaseId = problemCaseId ∧ replay.statement = cause.statement
              ∧ replay.evidenceUri = cause.evidenceUri
              ∧ replay.evidenceSha256 = cause.evidenceSha256 then return (replay, true)
          else .raise (.conflict "event_id já utilizado")
        | none => .raise (.conflict "event_id já utilizado"))

/-! ## SLA, assignment and approval -/

/-- The row that `apply_case_sla` inserts. -/
def newSla (caseId : String) (targets : SlaTargets) (correlationId : String) (now : DateTime) :
    Write :=
  .sla
    { caseId
      policyId := targets.policyId
      priority := targets.priority
      startedAt := targets.startedAt
      responseDueAt := targets.responseDueAt
      resolutionDueAt := targets.resolutionDueAt
      correlationId
      createdAt := now }

/-- The targets of a case under a policy. -/
def slaTargets (cfg : OpConfig) (policy : SlaPolicy) (case : CaseRecord) :
    Except RsmError SlaTargets := do
  let policy ← SlaPolicy.build cfg.parseUuid policy
  calculateSlaTargets policy case.priority case.createdAt

/-- `apply_case_sla`. -/
def applyCaseSla (cfg : OpConfig) (caseId : String) (payload : SlaRequest)
    (correlationId : String) : OpProgram (CaseSla × Bool) := do
  let case ← caseOr caseId "ServiceCase não encontrado"
  if ← eventExists payload.eventId .slaApplied caseId then
    replayed (← ask (.getSla caseId)) "evento de SLA registrado sem prazo persistido"
  else
    -- an unknown policy is refused even when the case has its targets already
    match ← ask (.getPolicy payload.policyId) with
    | none => .raise (.notFound "política de SLA não encontrada")
    | some policy =>
      match ← ask (.getSla caseId) with
      | some existing => do
        .ofExcept (require (existing.policyId = payload.policyId)
          (.conflict "caso já possui política de SLA divergente aplicada"))
        return (existing, true)
      | none => do
        let targets ← .ofExcept (slaTargets cfg policy case)
        commitOr (newSla caseId targets correlationId)
          (sideEvent payload.eventId caseId .slaApplied correlationId none)
          (do refreshed (← ask (.getSla caseId)))
          (do replayed (← ask (.getSla caseId)) "SLA já aplicado para este caso")

/-- The sequence after a row, if there is one. -/
def nextSequence (last : Option ℕ) : ℕ := (last.map (· + 1)).getD 1

/-- The row that `change_assignment` inserts. -/
def newAssignment (assignmentId : String) (current : Option CaseAssignment)
    (change : AssignmentChange) (eventId correlationId : String) (now : DateTime) : Write :=
  .assignment
    { assignmentId
      caseId := change.caseId
      sequence := nextSequence (current.map CaseAssignment.sequence)
      assignmentGroup := change.assignmentGroup
      assignee := change.assignee
      previousGroup := change.previousGroup
      previousAssignee := change.previousAssignee
      eventId
      correlationId
      createdAt := now }

/-- The change over the current assignment. -/
def changeOver (current : Option CaseAssignment) (caseId : String) (payload : AssignmentRequest)
    (correlationId : String) : Except RsmError AssignmentChange :=
  planAssignment caseId payload.assignmentGroup payload.assignee
    (current.map CaseAssignment.assignmentGroup) (current.bind CaseAssignment.assignee)
    correlationId

/-- `change_assignment`, once the current assignment is loaded and the change is planned. -/
def insertAssignment (current : Option CaseAssignment) (change : AssignmentChange)
    (caseId eventId correlationId : String) : OpProgram (CaseAssignment × Bool) := do
  let assignmentId ← ask .uuid4
  commitOr (newAssignment assignmentId current change eventId correlationId)
    (sideEvent eventId caseId .assignmentChanged correlationId none)
    (do refreshed (← ask (.getAssignment assignmentId)))
    (.raise (.conflict "atribuição concorrente detectada"))

/-- `change_assignment`. -/
def changeAssignment (caseId : String) (payload : AssignmentRequest) (correlationId : String) :
    OpProgram (CaseAssignment × Bool) := do
  let _ ← caseOr caseId "ServiceCase não encontrado"
  if ← eventExists payload.eventId .assignmentChanged caseId then
    replayed (← ask (.assignmentByEvent payload.eventId))
      "evento de atribuição registrado sem histórico"
  else do
    let current ← ask (.currentAssignment caseId)
    let change ← .ofExcept (changeOver current caseId payload correlationId)
    match current with
    | some row =>
      if change.isNoop then return (row, true)
      else insertAssignment current change caseId payload.eventId correlationId
    | none => insertAssignment none change caseId payload.eventId correlationId

/-- The row that `request_approval` inserts. -/
def newApproval (approvalId caseId : String) (last : Option CaseApproval)
    (payload : ApprovalRequest) (correlationId : String) (now : DateTime) : Write :=
  .approval
    { approvalId
      caseId
      sequence := nextSequence (last.map CaseApproval.sequence)
      approver := PyText.strip payload.approver
      requestedEventId := payload.eventId
      correlationId
      requestedAt := now }

/-- `request_approval`. -/
def requestApproval (caseId : String) (payload : ApprovalRequest) (correlationId : String) :
    OpProgram (CaseApproval × Bool) := do
  let _ ← caseOr caseId "ServiceCase não encontrado"
  if ← eventExists payload.eventId .approvalRequested caseId then
    replayed (← ask (.approvalByEvent payload.eventId))
      "evento de aprovação registrado sem histórico"
  else do
    let last ← ask (.lastApproval caseId)
    let approvalId ← ask .uuid4
    commitOr (newApproval approvalId caseId last payload correlationId)
      (sideEvent payload.eventId caseId .approvalRequested correlationId none)
      (do refreshed (← ask (.getApproval approvalId)))
      (.raise (.conflict "aprovação já solicitada com este event_id"))

/-- `(reason or '').strip() or None`. -/
def normalizedReason (reason : Option String) : Option String :=
  let s := PyText.strip (reason.getD "")
  if s = "" then none else some s

/-- The columns that `decide_approval` writes. -/
def newDecision (approvalId : String) (payload : DecisionRequest) (now : DateTime) : Write :=
  .decision approvalId
    { status := payload.decision
      reason := normalizedReason payload.reason
      eventId := payload.eventId
      decidedAt := now }

/-- `decide_approval`, once the approval of the case is loaded. -/
def decideLoaded (caseId : String) (record : CaseApproval) (payload : DecisionRequest)
    (correlationId : String) : OpProgram (CaseApproval × Bool) := do
  if ← eventExists payload.eventId .approvalDecided caseId then do
    .ofExcept (require (record.decisionEventId = some payload.eventId)
      (.conflict "event_id já utilizado por outra decisão"))
    return (record, true)
  else do
    .ofExcept (validateApprovalDecision record.status payload.decision)
    commitOr (newDecision record.approvalId payload)
      (sideEvent payload.eventId caseId .approvalDecided correlationId none)
      (do refreshed (← ask (.getApproval record.approvalId)))
      (.raise (.conflict "decisão concorrente detectada"))

/-- `decide_approval`. -/
def decideApproval (caseId approvalId : String) (payload : DecisionRequest)
    (correlationId : String) : OpProgram (CaseApproval × Bool) := do
  let _ ← caseOr caseId "ServiceCase não encontrado"
  match ← ask (.getApproval approvalId) with
  | none => .raise (.notFound "aprovação não encontrada para o caso")
  | some record =>
    if record.caseId = caseId then decideLoaded caseId record payload correlationId
    else .raise (.notFound "aprovação não encontrada para o caso")

/-! ## The evidence of a change -/

/-- `_execution_evidence`. -/
def executionEvidence (p : EvidenceRequest) : Except RsmError ChangeExecutionEvidence :=
  ChangeExecutionEvidence.build
    { headSha := p.headSha
      deploymentRef := p.deploymentRef
      environment := p.environment
      runtimeSha := p.runtimeSha
      postDeployEvidenceUri := p.postDeployEvidenceUri
      postDeployEvidenceSha256 := p.postDeployEvidenceSha256
      status := p.status
      observedAt := p.observedAt
      rollback := p.rollback }

/-- What `record_change_evidence` has checked before it builds the row. -/
structure CheckedEvidence where
  traceability : ChangeTraceability
  ci : ChangeCiEvidence
  execution : ChangeExecutionEvidence

/-- The checks of `record_change_evidence` on the payload. -/
def checkedEvidence (cfg : OpConfig) (case : CaseRecord) (p : EvidenceRequest) :
    Except RsmError CheckedEvidence := do
  let traceability ← ChangeTraceability.build p.requirementRef p.sddRef p.pullRequestRef p.headSha
  let ci ← ChangeCiEvidence.build p.headSha p.ciRunId "success"
  let domain ← domainOf cfg.toConfig case
  validateChangeCi domain traceability ci
  let execution ← executionEvidence p
  return { traceability, ci, execution }

/-- The row that `record_change_evidence` inserts. -/
def newEvidence (caseId eventId : String) (checked : CheckedEvidence)
    (correlationId payloadSha256 : String) (now : DateTime) : Write :=
  .evidence
    { eventId
      caseId
      requirementRef := checked.traceability.requirement
      sddRef := checked.traceability.sdd
      pullRequestRef := checked.traceability.pullRequest
      ciRunId := checked.ci.runId
      ciConclusion := checked.ci.conclusion
      execution := { checked.execution with headSha := checked.traceability.headSha }
      correlationId
      payloadSha256
      createdAt := now }

/-- The same evidence of the same case. -/
def sameEvidence (cfg : OpConfig) (caseId : String) (payload : EvidenceRequest)
    (row : ChangeEvidence) : Bool :=
  row.caseId = caseId && row.payloadSha256 = fingerprint cfg payload

/-- `record_change_evidence`. -/
def recordChangeEvidence (cfg : OpConfig) (caseId : String) (payload : EvidenceRequest)
    (correlationId : String) : OpProgram (ChangeEvidence × Bool) := do
  let case ← caseOr caseId "ServiceCase não encontrado"
  .ofExcept (require (case.caseType = .change)
    (.conflict "evidência de CHANGE exige case_type CHANGE"))
  match ← ask (.getEvidence payload.eventId) with
  | some existing => do
    .ofExcept (require (sameEvidence cfg caseId payload existing = true)
      (.conflict "event_id já utilizado por outra evidência"))
    return (existing, true)
  | none => do
    eventUnused payload.eventId
    .ofExcept (require (case.state = .resolved)
      (.conflict "evidência pós-deploy só pode ser registrada com CHANGE em RESOLVED"))
    let checked ← .ofExcept (checkedEvidence cfg case payload)
    commitOr (newEvidence caseId payload.eventId checked correlationId (fingerprint cfg payload))
      (sideEvent payload.eventId caseId .changeRuntimeEvidenceRecorded correlationId
        (some (checked.execution.postDeployEvidenceUri,
          checked.execution.postDeployEvidenceSha256)))
      (do refreshed (← ask (.getEvidence payload.eventId)))
      (do
        match ← ask (.getEvidence payload.eventId) with
        | some persisted =>
          if sameEvidence cfg caseId payload persisted then return (persisted, true)
          else .raise (.conflict "evidência concorrente ou event_id duplicado")
        | none => .raise (.conflict "evidência concorrente ou event_id duplicado"))

/-! ## Sessions -/

/-- The operations that a session may run. -/
inductive OpRequest
  | create (payload : CreateRequest) (correlationId : String)
  | transition (caseId : String) (payload : TransitionRequest) (correlationId : String)
  | link (incidentCaseId : String) (payload : LinkRequest) (correlationId : String)
  | rootCause (problemCaseId : String) (payload : RootCauseRequest) (correlationId : String)
  | sla (caseId : String) (payload : SlaRequest) (correlationId : String)
  | assign (caseId : String) (payload : AssignmentRequest) (correlationId : String)
  | requestApproval (caseId : String) (payload : ApprovalRequest) (correlationId : String)
  | decide (caseId approvalId : String) (payload : DecisionRequest) (correlationId : String)
  | evidence (caseId : String) (payload : EvidenceRequest) (correlationId : String)

/-- The row that an operation answers with. -/
inductive Row
  | case (row : CaseRecord)
  | link (row : IncidentProblemLink)
  | rootCause (row : RootCause)
  | sla (row : CaseSla)
  | assignment (row : CaseAssignment)
  | approval (row : CaseApproval)
  | evidence (row : ChangeEvidence)

/-- The row and whether the call was a duplicate, under the type that all operations share. -/
def answer {α : Type} (f : α → Row) (p : OpProgram (α × Bool)) : OpProgram (Row × Bool) := do
  let (row, duplicate) ← p
  return (f row, duplicate)

def opCode (cfg : OpConfig) : OpRequest → OpProgram (Row × Bool)
  | .create payload correlationId =>
    answer .case (onCases (createServiceCase cfg.toConfig payload correlationId))
  | .transition caseId payload correlationId =>
    answer .case (onCases (transitionServiceCase cfg.toConfig caseId payload correlationId))
  | .link incidentCaseId payload correlationId =>
    answer .link (linkIncidentToProblem cfg incidentCaseId payload correlationId)
  | .rootCause problemCaseId payload correlationId =>
    answer .rootCause (recordProblemRootCause cfg problemCaseId payload correlationId)
  | .sla caseId payload correlationId =>
    answer .sla (applyCaseSla cfg caseId payload correlationId)
  | .assign caseId payload correlationId =>
    answer .assignment (changeAssignment caseId payload correlationId)
  | .requestApproval caseId payload correlationId =>
    answer .approval (requestApproval caseId payload correlationId)
  | .decide caseId approvalId payload correlationId =>
    answer .approval (decideApproval caseId approvalId payload correlationId)
  | .evidence caseId payload correlationId =>
    answer .evidence (recordChangeEvidence cfg caseId payload correlationId)

/-- The database and the operations running over it. -/
abbrev OpSessions := Pool Tables (OpProgram (Row × Bool))

/-- A move of the sessions, with the answer it delivers. -/
abbrev OpMove := Move OpRequest OpEnv × Option (Except RsmError (Row × Bool))

/-- Any number of sessions over one database, which is empty at first. -/
def operations (cfg : OpConfig) : TransitionSystem OpSessions OpMove :=
  Pool.interleaving {} (opCode cfg) opMachine

/-- The same operations one after the other. -/
def serialOperations (cfg : OpConfig) :
    TransitionSystem Tables (OpRequest × Except RsmError (Row × Bool)) :=
  Program.serial {} (opCode cfg) opMachine

/-! ## The small help desk, continued -/

def sampleOpConfig : OpConfig where
  parseUuid := sampleConfig.parseUuid
  sha256 s := s

def sampleOpEnv : OpEnv where
  toEnv := sampleEnv

def sampleAssignment (group eventId : String)
    (hgroup : 1 ≤ group.length ∧ group.length ≤ 200 := by decide) : AssignmentRequest where
  assignmentGroup := group
  eventId := eventId
  assignmentGroup_length := hgroup
  assignee_length := by simp

def sampleRedes : AssignmentRequest := sampleAssignment "redes" "e-1"

def sampleApproval (eventId : String) : ApprovalRequest where
  approver := "bia"
  eventId := eventId
  approver_length := by decide

def sampleDecision (decision : ApprovalStatus) (eventId : String) : DecisionRequest where
  decision := decision
  eventId := eventId
  reason_length := by simp

/-- The results and the tables after requests that do not overlap. -/
def sampleSerial (requests : List OpRequest) :
    List (OpRequest × Except RsmError (Row × Bool)) × Tables :=
  Program.runSerial opMachine (opCode sampleOpConfig) (List.replicate 12 sampleOpEnv) requests {}

theorem run_sampleSerial (requests : List OpRequest) :
    (serialOperations sampleOpConfig).Run (sampleSerial requests).1 (sampleSerial requests).2 :=
  Program.run_runSerial ({} : Tables) opMachine (opCode sampleOpConfig)
    (List.replicate 12 sampleOpEnv) requests

/-- The trace and the sessions after moves that may overlap. -/
def sampleSessions (moves : List (Move OpRequest OpEnv)) : List OpMove × OpSessions :=
  TransitionSystem.runCalls (Pool.move (opCode sampleOpConfig) opMachine) moves ⟨{}, fun _ ↦ none⟩

theorem run_sampleSessions (moves : List (Move OpRequest OpEnv)) :
    (operations sampleOpConfig).Run (sampleSessions moves).1 (sampleSessions moves).2 :=
  TransitionSystem.run_runCalls _ _ moves

/-- Session `i` runs a request of at most seven calls to its end. -/
def sampleAlone (i : ℕ) (r : OpRequest) : List (Move OpRequest OpEnv) :=
  .start i r :: List.replicate 8 (.advance i sampleOpEnv)

end ServiceCases

end ReqSys
