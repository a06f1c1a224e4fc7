import ReqSys.Foundation.IsoText
import ReqSys.ServiceCases.Domain

/-!
# Service management: the domain of the operations on a case

What the operations on a case check before they write: SLA targets, assignments, approval decisions,
the relation of an incident to a problem, root causes, and the evidence of a change. Everything here
is a function of its arguments. The constructors of the source normalise as they check, so each of
them is a function from the raw fields to the normalised value or to the error.

SHA-256 is a parameter, like the parser of UUIDs.
-/

namespace ReqSys

namespace ServiceCases

/-! ## Actors and assignments -/

/-- `_actor` of a required field. -/
def requiredActor (value fieldName : String) : Except RsmError String :=
  text value fieldName 200

/-- `_actor` of an optional field: a blank one counts as absent. -/
def optionalActor (value : Option String) (fieldName : String) :
    Except RsmError (Option String) :=
  match value with
  | none => .ok none
  | some v =>
    if PyText.strip v = "" then .ok none
    else do
      require ((PyText.strip v).length ≤ 200) (.validation (fieldName ++ " excede 200 caracteres"))
      return some (PyText.strip v)

structure AssignmentChange where
  caseId : String
  assignmentGroup : String
  assignee : Option String
  previousGroup : Option String
  previousAssignee : Option String
  correlationId : String
  deriving DecidableEq

/-- `is_noop`. -/
def AssignmentChange.isNoop (c : AssignmentChange) : Bool :=
  some c.assignmentGroup = c.previousGroup && c.assignee = c.previousAssignee

/-- `plan_assignment`, with the checks of `AssignmentChange`. -/
def planAssignment (caseId assignmentGroup : String) (assignee : Option String)
    (currentGroup currentAssignee : Option String) (correlationId : String) :
    Except RsmError AssignmentChange := do
  let assignmentGroup ← requiredActor assignmentGroup "assignment_group"
  let assignee ← optionalActor assignee "assignee"
  let previousGroup ← optionalActor currentGroup "previous_group"
  let previousAssignee ← optionalActor currentAssignee "previous_assignee"
  let correlationId ← requiredActor correlationId "correlation_id"
  return { caseId, assignmentGroup, assignee, previousGroup, previousAssignee, correlationId }

/-- A text as `_actor` leaves it. -/
def Normalized (s : String) : Prop := PyText.strip s = s ∧ s ≠ "" ∧ s.length ≤ 200

theorem normalized_of_requiredActor {value fieldName s : String}
    (h : requiredActor value fieldName = .ok s) : s = PyText.strip value ∧ Normalized s := by
  obtain ⟨hne, h⟩ := require_bind_eq_ok.mp h
  obtain ⟨hlen, h⟩ := require_bind_eq_ok.mp h
  cases h
  exact ⟨rfl, PyText.strip_strip value, hne, hlen⟩

theorem normalized_of_optionalActor {value : Option String} {fieldName : String}
    {o : Option String} (h : optionalActor value fieldName = .ok o) : ∀ s ∈ o, Normalized s := by
  intro s hs
  cases value with
  | none =>
    cases h
    cases hs
  | some v =>
    rw [optionalActor] at h
    split at h
    · cases h
      cases hs
    next hne =>
      obtain ⟨hlen, h⟩ := require_bind_eq_ok.mp h
      cases h
      cases hs
      exact ⟨PyText.strip_strip v, hne, hlen⟩

/-- What `_actor` has normalised it leaves alone. -/
theorem optionalActor_of_normalized {o : Option String} (h : ∀ s ∈ o, Normalized s)
    (fieldName : String) : optionalActor o fieldName = .ok o := by
  cases o with
  | none => rfl
  | some s =>
    obtain ⟨hstrip, hne, hlen⟩ := h s rfl
    rw [optionalActor, hstrip, if_neg hne, require_bind_of_true hlen]
    rfl

/-- An assignment planned over one that was planned before records it as its previous one. -/
theorem planAssignment_eq_ok {caseId assignmentGroup : String}
    {assignee currentGroup currentAssignee : Option String} {correlationId : String}
    {c : AssignmentChange}
    (h : planAssignment caseId assignmentGroup assignee currentGroup currentAssignee correlationId
      = .ok c) (hgroup : ∀ s ∈ currentGroup, Normalized s)
    (hassignee : ∀ s ∈ currentAssignee, Normalized s) :
    Normalized c.assignmentGroup ∧ (∀ s ∈ c.assignee, Normalized s) ∧
      c.previousGroup = currentGroup ∧ c.previousAssignee = currentAssignee := by
  obtain ⟨group, hg, h⟩ := bind_eq_ok.mp h
  obtain ⟨who, hw, h⟩ := bind_eq_ok.mp h
  obtain ⟨previousGroup, hpg, h⟩ := bind_eq_ok.mp h
  obtain ⟨previousAssignee, hpa, h⟩ := bind_eq_ok.mp h
  obtain ⟨_, -, h⟩ := bind_eq_ok.mp h
  cases h
  rw [optionalActor_of_normalized hgroup] at hpg
  rw [optionalActor_of_normalized hassignee] at hpa
  cases hpg
  cases hpa
  exact ⟨(normalized_of_requiredActor hg).2, normalized_of_optionalActor hw, rfl, rfl⟩

/-! ## SLA targets -/

/-- `PRIORITY_SLA_FACTOR`. -/
def CasePriority.slaFactor : CasePriority → ℕ
  | p1 => 1 | p2 => 2 | p3 => 4 | p4 => 8

/-- A row of `rsm_sla_policies`, as far as an application reads it. -/
structure SlaPolicy where
  policyId : String
  name : String
  responseMinutes : ℕ
  resolutionMinutes : ℕ
  active : Bool := true
  deriving DecidableEq

/-- `_domain_policy`, with the checks of `SlaPolicy`. -/
def SlaPolicy.build (parse : String → Option String) (p : SlaPolicy) :
    Except RsmError SlaPolicy := do
  let policyId ← uuid parse p.policyId "policy_id"
  let name ← text p.name "name" 200
  require (0 < p.responseMinutes) (.validation "response_minutes deve ser positivo")
  require (p.responseMinutes ≤ p.resolutionMinutes)
    (.validation "resolution_minutes não pode ser menor que response_minutes")
  return { p with policyId, name }

structure SlaTargets where
  policyId : String
  priority : CasePriority
  startedAt : DateTime
  responseDueAt : DateTime
  resolutionDueAt : DateTime
  deriving DecidableEq

/-- `started_at + timedelta(minutes=…)`. -/
def dueAt (startedAt : DateTime) (minutes : ℕ) : Except RsmError DateTime :=
  orThrow (startedAt.addSeconds (minutes * 60)) .overflow

/-- `calculate_sla_targets`, with the checks of `SlaTargets`. -/
def calculateSlaTargets (policy : SlaPolicy) (priority : CasePriority) (startedAt : DateTime) :
    Except RsmError SlaTargets := do
  require (policy.active = true) (.validation "política de SLA inativa não pode ser aplicada")
  let responseDueAt ← dueAt startedAt (policy.responseMinutes * priority.slaFactor)
  let resolutionDueAt ← dueAt startedAt (policy.resolutionMinutes * priority.slaFactor)
  require (¬responseDueAt ≤ startedAt)
    (.validation "response_due_at deve ser posterior a started_at")
  require (responseDueAt ≤ resolutionDueAt)
    (.validation "resolution_due_at não pode preceder response_due_at")
  return { policyId := policy.policyId, priority, startedAt, responseDueAt, resolutionDueAt }

/-! ## Approval decisions -/

def ApprovalStatus.value : ApprovalStatus → String
  | pending => "PENDING" | approved => "APPROVED" | rejected => "REJECTED"

/-- `validate_approval_decision`. -/
def validateApprovalDecision (current decision : ApprovalStatus) : Except RsmError Unit := do
  require (decision ≠ .pending) (.validation "decisão deve ser APPROVED ou REJECTED")
  require (current = .pending)
    (.validation ("aprovação já decidida como " ++ current.value ++ " não pode ser alterada"))

theorem validateApprovalDecision_eq_ok {current decision : ApprovalStatus} {u : Unit}
    (h : validateApprovalDecision current decision = .ok u) :
    decision ≠ .pending ∧ current = .pending := by
  obtain ⟨hdecision, h⟩ := require_bind_eq_ok.mp h
  exact ⟨hdecision, require_eq_ok.mp h⟩

/-! ## Incidents, problems and root causes -/

structure IncidentProblemRelation where
  incidentCaseId : String
  problemCaseId : String
  correlationId : String
  deriving DecidableEq

/-- `IncidentProblemRelation.__post_init__`. -/
def IncidentProblemRelation.build (parse : String → Option String)
    (incidentCaseId problemCaseId correlationId : String) :
    Except RsmError IncidentProblemRelation := do
  let incidentCaseId ← uuid parse incidentCaseId "incident_case_id"
  let problemCaseId ← uuid parse problemCaseId "problem_case_id"
  require (incidentCaseId ≠ problemCaseId)
    (.validation "INCIDENT não pode apontar para si mesmo como PROBLEM")
  let correlationId ← text correlationId "correlation_id" 120
  return { incidentCaseId, problemCaseId, correlationId }

/-- `validate_incident_problem_relation`. -/
def validateIncidentProblemRelation (incident problem : ServiceCase)
    (relation : IncidentProblemRelation) : Except RsmError Unit := do
  require (incident.caseType = .incident)
    (.validation "origem da relação deve ser case_type INCIDENT")
  require (problem.caseType = .problem)
    (.validation "destino da relação deve ser case_type PROBLEM")
  require (incident.caseId = relation.incidentCaseId ∧ problem.caseId = relation.problemCaseId)
    (.validation "relação não corresponde aos ServiceCases informados")

structure ProblemRootCause where
  problemCaseId : String
  statement : String
  evidenceUri : String
  evidenceSha256 : String
  correlationId : String
  deriving DecidableEq

/-- `EvidenceReference(event_id, 'root-cause', uri, sha256)` and `ProblemRootCause`. -/
def ProblemRootCause.build (parse : String → Option String) (eventId problemCaseId statement
    evidenceUri evidenceSha256 correlationId : String) : Except RsmError ProblemRootCause := do
  let _ ← text eventId "evidence_id" 200
  let _ ← text "root-cause" "kind" 80
  let evidenceUri ← text evidenceUri "uri" 1000
  require (PyText.isHex 64 evidenceSha256 = true)
    (.validation "sha256 de evidência deve ser hexadecimal minúsculo com 64 caracteres")
  let problemCaseId ← uuid parse problemCaseId "problem_case_id"
  let statement ← text statement "statement" 2000
  let correlationId ← text correlationId "correlation_id" 120
  return { problemCaseId, statement, evidenceUri, evidenceSha256, correlationId }

/-- `validate_problem_root_cause`. -/
def validateProblemRootCause (problem : ServiceCase) (rootCause : ProblemRootCause) :
    Except RsmError Unit := do
  require (problem.caseType = .problem)
    (.validation "causa raiz aceita somente case_type PROBLEM")
  require (problem.caseId = rootCause.problemCaseId)
    (.validation "causa raiz não corresponde ao PROBLEM informado")

/-! ## The evidence of a change -/

namespace ChangeValidationStatus

def value : ChangeValidationStatus → String
  | passed => "PASSED" | failed => "FAILED" | rolledBack => "ROLLED_BACK"

/-- `allows_close`. -/
def allowsClose : ChangeValidationStatus → Bool
  | passed | rolledBack => true
  | failed => false

end ChangeValidationStatus

/-- A `datetime` as it is sent: the time on the wall and, unless it is naive, the seconds by which
the wall is ahead of UTC. -/
structure ObservedAt where
  wall : DateTime
  offset : Option ℤ
  deriving DecidableEq

namespace ObservedAt

/-- The instant, in microseconds; a naive time counts as UTC. -/
def instant (t : ObservedAt) : ℤ := t.wall.toMicros - t.offset.getD 0 * 1000000

/-- The offset as `isoformat` writes it. -/
def isoOffset : Option ℤ → List Char
  | none => []
  | some z =>
    let n := z.natAbs
    (if 0 ≤ z then '+' else '-') :: (digits 2 (n / 3600) ++ ':' :: digits 2 (n / 60 % 60))
      ++ if n % 60 = 0 then [] else ':' :: digits 2 (n % 60)

/-- `observed_at.isoformat()`. -/
def isoformat (t : ObservedAt) : String :=
  String.ofList (t.wall.isoSeconds
    ++ (if t.wall.microsecond = 0 then [] else '.' :: digits 6 t.wall.microsecond)
    ++ isoOffset t.offset)

end ObservedAt

/-- `^(?:[a-f0-9]{40}|[a-f0-9]{64})$`. -/
def isGitSha (s : String) : Bool := PyText.isHex 40 s || PyText.isHex 64 s

/-- `_commit_sha` and `_git_sha`, which differ in the text of their error. -/
def gitSha (value fieldName complaint : String) : Except RsmError String := do
  let normalized := PyText.asciiLower (← text value fieldName 64)
  require (isGitSha normalized = true) (.validation (fieldName ++ complaint))
  return normalized

/-- `_commit_sha` of the service management domain. -/
def commitSha (value fieldName : String) : Except RsmError String :=
  gitSha value fieldName " deve ser SHA completo hexadecimal de 40 ou 64 caracteres"

/-- `_git_sha` of the change evidence domain. -/
def executionSha (value fieldName : String) : Except RsmError String :=
  gitSha value fieldName " deve ser SHA Git completo hexadecimal de 40 ou 64 caracteres"

/-- `_digest`. -/
def digest (value fieldName : String) : Except RsmError String := do
  let normalized := PyText.asciiLower (← text value fieldName 64)
  require (PyText.isHex 64 normalized = true)
    (.validation (fieldName ++ " deve ser SHA-256 hexadecimal minúsculo"))
  return normalized

structure ChangeTraceability where
  requirement : String
  sdd : String
  pullRequest : String
  headSha : String
  deriving DecidableEq

/-- `ChangeTraceability`, with its three `ExternalReference`s. -/
def ChangeTraceability.build (requirement sdd pullRequest headSha : String) :
    Except RsmError ChangeTraceability := do
  let requirement ← text requirement "external_id" 200
  let sdd ← text sdd "external_id" 200
  let pullRequest ← text pullRequest "external_id" 200
  let headSha ← commitSha headSha "head_sha"
  return { requirement, sdd, pullRequest, headSha }

structure ChangeCiEvidence where
  headSha : String
  runId : String
  conclusion : String
  deriving DecidableEq

/-- `ChangeCiEvidence.__post_init__`. -/
def ChangeCiEvidence.build (headSha runId conclusion : String) :
    Except RsmError ChangeCiEvidence := do
  let headSha ← commitSha headSha "head_sha"
  let runId ← text runId "run_id" 120
  let conclusion := PyText.asciiLower (← text conclusion "conclusion" 40)
  return { headSha, runId, conclusion }

/-- `validate_change_ci`. -/
def validateChangeCi (case : ServiceCase) (traceability : ChangeTraceability)
    (evidence : ChangeCiEvidence) : Except RsmError Unit := do
  require (case.caseType = .change)
    (.validation "validação de CHANGE aceita somente case_type CHANGE")
  require (evidence.headSha = traceability.headSha)
    (.validation "CI verde de outro SHA não pode avançar CHANGE")
  require (evidence.conclusion = "success")
    (.validation "CI do SHA atual deve concluir com success")

/-- The four fields of a rollback. -/
structure Rollback where
  ref : Option String := none
  runtimeSha : Option String := none
  evidenceUri : Option String := none
  evidenceSha256 : Option String := none
  deriving DecidableEq

/-- `has_any_rollback`. -/
def Rollback.any (r : Rollback) : Bool :=
  r.ref.isSome || r.runtimeSha.isSome || r.evidenceUri.isSome || r.evidenceSha256.isSome

/-- `has_all_rollback`. -/
def Rollback.all (r : Rollback) : Bool :=
  r.ref.isSome && r.runtimeSha.isSome && r.evidenceUri.isSome && r.evidenceSha256.isSome

structure ChangeExecutionEvidence where
  headSha : String
  deploymentRef : String
  environment : String
  runtimeSha : String
  postDeployEvidenceUri : String
  postDeployEvidenceSha256 : String
  status : ChangeValidationStatus
  observedAt : ObservedAt
  rollback : Rollback
  deriving DecidableEq

/-- The rollback fields, once the evidence says that the change was rolled back. -/
def Rollback.build (headSha : String) (r : Rollback) : Except RsmError Rollback := do
  require (r.all = true)
    (.validation "rollback exige referência, runtime SHA e evidência completos")
  let runtimeSha ← executionSha (r.runtimeSha.getD "") "rollback_runtime_sha"
  require (runtimeSha ≠ headSha)
    (.validation "rollback_runtime_sha deve divergir do SHA revertido")
  let ref ← text (r.ref.getD "") "rollback_ref" 300
  let evidenceUri ← text (r.evidenceUri.getD "") "rollback_evidence_uri" 1000
  let evidenceSha256 ← digest (r.evidenceSha256.getD "") "rollback_evidence_sha256"
  return ⟨some ref, some runtimeSha, some evidenceUri, some evidenceSha256⟩

/-- `ChangeExecutionEvidence.__post_init__`. -/
def ChangeExecutionEvidence.build (e : ChangeExecutionEvidence) :
    Except RsmError ChangeExecutionEvidence := do
  let headSha ← executionSha e.headSha "head_sha"
  let runtimeSha ← executionSha e.runtimeSha "runtime_sha"
  let deploymentRef ← text e.deploymentRef "deployment_ref" 300
  let environment ← text e.environment "environment" 80
  let postDeployEvidenceUri ← text e.postDeployEvidenceUri "post_deploy_evidence_uri" 1000
  let postDeployEvidenceSha256 ← digest e.postDeployEvidenceSha256 "post_deploy_evidence_sha256"
  require (e.observedAt.offset.isSome = true) (.validation "observed_at deve possuir timezone")
  require (runtimeSha = headSha) (.validation "runtime SHA divergente do SHA do CHANGE")
  let rollback ←
    if e.status = .rolledBack then Rollback.build headSha e.rollback
    else if e.rollback.any then
      .error (.validation "campos de rollback só são aceitos com status ROLLED_BACK")
    else .ok e.rollback
  return {
    headSha, deploymentRef, environment, runtimeSha, postDeployEvidenceUri,
    postDeployEvidenceSha256, status := e.status, observedAt := e.observedAt, rollback }

end ServiceCases

end ReqSys
