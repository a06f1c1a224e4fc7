import ReqSys.Foundation.Calendar
import ReqSys.Foundation.PyText

/-!
# The Central: work requests and evidence

The data of the control plane: work requests with their operational status, the evidence recorded
about them, and the results executors hand back.

Inputs are validated where they are built. The fields of an input are a structure of their own, the
check of the model is a Boolean on these fields, and the input carries the proof that it passed, so
an input that a producer could not have sent cannot be written down. A `WorkRequest` is different:
`model_copy` changes fields without validating them again, hence its constraints are a predicate
that a stored request may fail.

## Evidence is a finite map

`checks` is a dictionary over four keys and nothing depends on the order of its entries. It is a
function to `Option`, merged by letting the more recent entry win.
-/

namespace ReqSys

namespace Central

/-! ## Enumerations -/

inductive Environment
  | dev | hml | prod
  deriving DecidableEq

inductive Priority
  | p0 | p1 | p2 | p3
  deriving DecidableEq

/-- `_PRIORITY_ORDER`. -/
def Priority.ordem : Priority → ℕ
  | p0 => 0 | p1 => 1 | p2 => 2 | p3 => 3

inductive ExecutorKind
  | github | ciRepair | commandGateway | graph | sql | drive | docs | humanGate
  deriving DecidableEq

def ExecutorKind.value : ExecutorKind → String
  | github => "github" | ciRepair => "ci_repair" | commandGateway => "command_gateway"
  | graph => "graph" | sql => "sql" | drive => "drive" | docs => "docs"
  | humanGate => "human_gate"

inductive WorkRequestStatus
  | received | queued | admitted | executing | awaitingEvidence | evidenced | blocked | cancelled
  deriving DecidableEq

namespace WorkRequestStatus

def value : WorkRequestStatus → String
  | received => "RECEIVED" | queued => "QUEUED" | admitted => "ADMITTED"
  | executing => "EXECUTING" | awaitingEvidence => "AWAITING_EVIDENCE"
  | evidenced => "EVIDENCED" | blocked => "BLOCKED" | cancelled => "CANCELLED"

/-- `ACTIVE_STATUSES`. -/
def active : List WorkRequestStatus := [admitted, executing, awaitingEvidence]

/-- `_TRANSICOES`. -/
def transicoes : WorkRequestStatus → List WorkRequestStatus
  | received => [queued, admitted, blocked, cancelled]
  | queued => [admitted, blocked, cancelled]
  | admitted => [executing, queued, blocked, cancelled]
  | executing => [awaitingEvidence, blocked, cancelled]
  | awaitingEvidence => [evidenced, executing, blocked, cancelled]
  | blocked => [queued, admitted, cancelled]
  | evidenced => []
  | cancelled => []

end WorkRequestStatus

inductive EvidenceCheck
  | positive | negativeControl | idempotency | independentRead
  deriving DecidableEq

/-- `REQUIRED_CHECKS`, sorted by value. -/
def EvidenceCheck.required : List EvidenceCheck :=
  [idempotency, independentRead, negativeControl, positive]

theorem EvidenceCheck.mem_required (c : EvidenceCheck) : c ∈ EvidenceCheck.required := by
  cases c <;> decide

inductive CheckResult
  | pass | fail | pending
  deriving DecidableEq

inductive EvidenceStatus
  | notValidated | partiallyPassed | evidenced | blocked | superseded
  deriving DecidableEq

def EvidenceStatus.value : EvidenceStatus → String
  | notValidated => "NOT_VALIDATED" | partiallyPassed => "PARTIAL" | evidenced => "EVIDENCED"
  | blocked => "BLOCKED" | superseded => "SUPERSEDED"

/-! ## Errors -/

/-- The exceptions the service, the store and the models raise. -/
inductive CentralError
  | workRequestNotFound (requestId : String)
  | invalidTransition (message : String)
  | concurrentUpdate (message : String)
  /-- The `ValidationError` of the named model. -/
  | validation (model : String)
  /-- An exception of the executor that no handler of the worker catches. -/
  | interrupted (classe : String)
  deriving DecidableEq

/-! ## Work requests -/

/-- The pattern `^[a-f0-9]{7,40}$`. -/
def isSha (s : String) : Bool :=
  7 ≤ s.toList.length && s.toList.length ≤ 40 && s.toList.all PyText.isHexDigit

/-- `Field(min_length=lo, max_length=hi)`. -/
def lengthBetween (lo hi : ℕ) (s : String) : Bool := lo ≤ s.length && s.length ≤ hi

/-- `Field(default=None, max_length=hi)`. -/
def lengthAtMost (hi : ℕ) (s : Option String) : Bool := s.all (lengthBetween 0 hi)

/-- The fields of `WorkRequestInput`. -/
structure WorkRequestFields where
  title : String
  project : String
  environment : Environment := .dev
  priority : Priority := .p2
  rootCauseId : String
  correlationId : String
  signals : List String := []
  targetSystem : Option String := none
  repository : Option String := none
  branch : Option String := none
  sha : Option String := none
  completionCriteria : Option String := none
  originUrl : Option String := none
  deriving DecidableEq

/-- What the validators of the model leave: bounded texts, signals stripped and not empty. -/
def WorkRequestFields.accepted (f : WorkRequestFields) : Bool :=
  lengthBetween 1 500 f.title && lengthBetween 1 200 f.project && lengthBetween 1 200 f.rootCauseId
    && lengthBetween 8 128 f.correlationId && f.signals.length ≤ 50
    && f.signals.all (fun s ↦ PyText.strip s == s && lengthBetween 1 500 s)
    && lengthAtMost 120 f.targetSystem && lengthAtMost 300 f.repository && lengthAtMost 300 f.branch
    && f.sha.all isSha && lengthAtMost 2000 f.completionCriteria && lengthAtMost 2000 f.originUrl

/-- An input of the Central. -/
structure WorkRequestInput extends WorkRequestFields where
  valid : toWorkRequestFields.accepted = true

structure WorkRequest where
  requestId : String
  title : String
  project : String
  environment : Environment
  priority : Priority
  rootCauseId : String
  correlationId : String
  signals : List String
  targetSystem : Option String
  repository : Option String
  branch : Option String
  sha : Option String
  completionCriteria : Option String
  originUrl : Option String
  executor : ExecutorKind
  routingRule : String
  status : WorkRequestStatus
  blocker : Option String
  nextAction : Option String
  createdAt : DateTime
  updatedAt : DateTime
  deriving DecidableEq

/-- The constraints of the model, checked by its constructor and when it is read from text. -/
def WorkRequest.accepted (r : WorkRequest) : Bool :=
  lengthBetween 1 200 r.requestId && lengthAtMost 2000 r.blocker && lengthAtMost 2000 r.nextAction
    && (r.status != .blocked || (PyText.truthy r.blocker && PyText.truthy r.nextAction))

/-- The decision of the router. -/
structure RoutingDecision where
  executor : ExecutorKind
  ruleId : String
  matchedTerms : List String := []
  requiresHuman : Bool := false
  humanReason : Option String := none

/-! ## Evidence -/

/-- The verifications of one record. -/
abbrev Checks := EvidenceCheck → Option CheckResult

namespace Checks

def empty : Checks := fun _ ↦ none

/-- `dict(old)` updated with `new`. -/
def merge (old new : Checks) : Checks := fun c ↦ new c <|> old c

/-- The truth value of the dictionary. -/
def any (checks : Checks) : Bool := EvidenceCheck.required.any fun c ↦ (checks c).isSome

end Checks

/-- The fields of `EvidenceRecordInput`. -/
structure EvidenceFields where
  requestId : String
  sha : String
  environment : Environment
  checks : Checks
  productionTouched : Bool := false
  evidenceRunUrl : Option String := none

def EvidenceFields.accepted (f : EvidenceFields) : Bool :=
  lengthBetween 1 200 f.requestId && isSha f.sha && lengthAtMost 2000 f.evidenceRunUrl
    && f.checks.any

/-- Evidence as a producer may send it. -/
structure EvidenceRecordInput extends EvidenceFields where
  valid : toEvidenceFields.accepted = true

/-- The constructor of the model. -/
def EvidenceRecordInput.build (f : EvidenceFields) : Except CentralError EvidenceRecordInput :=
  if h : f.accepted = true then .ok ⟨f, h⟩ else .error (.validation "EvidenceRecordInput")

structure EvidenceRecord where
  requestId : String
  sha : String
  environment : Environment
  checks : Checks
  productionTouched : Bool
  evidenceRunUrl : Option String
  status : EvidenceStatus
  recordedAt : DateTime
  supersededBySha : Option String := none

/-- `missing_checks`. -/
def EvidenceRecord.missingChecks (r : EvidenceRecord) : List EvidenceCheck :=
  EvidenceCheck.required.filter fun c ↦ (r.checks c).getD .pending != .pass

/-- `derivar_status`. -/
def derivarStatus (checks : Checks) : EvidenceStatus :=
  let aprovadas := EvidenceCheck.required.filter fun c ↦ checks c == some .pass
  if EvidenceCheck.required.any fun c ↦ checks c == some .fail then .blocked
  else if EvidenceCheck.required.all fun c ↦ aprovadas.contains c then .evidenced
  else if aprovadas ≠ [] then .partiallyPassed
  else .notValidated

/-- The result of applying evidence to the current record. -/
structure EvidenceApplication where
  registro : EvidenceRecord
  anteriorInvalidado : Option EvidenceRecord

/-- The checks a record holds once `entrada` is applied: those of the same SHA accumulate. -/
def mergedChecks (anterior : Option EvidenceRecord) (entrada : EvidenceRecordInput) : Checks :=
  match anterior with
  | some a => if a.sha = entrada.sha then a.checks.merge entrada.checks else entrada.checks
  | none => entrada.checks

/-- The previous record once `entrada` is applied, if its SHA is another one. -/
def invalidado (anterior : Option EvidenceRecord) (entrada : EvidenceRecordInput) :
    Option EvidenceRecord :=
  match anterior with
  | some a =>
    if a.sha = entrada.sha then none
    else some { a with status := .superseded, supersededBySha := some entrada.sha }
  | none => none

/-- `aplicar_evidencia`. -/
def aplicarEvidencia (anterior : Option EvidenceRecord) (entrada : EvidenceRecordInput)
    (agora : DateTime) : EvidenceApplication where
  registro :=
    { requestId := entrada.requestId
      sha := entrada.sha
      environment := entrada.environment
      checks := mergedChecks anterior entrada
      productionTouched := entrada.productionTouched
      evidenceRunUrl := entrada.evidenceRunUrl
      status := derivarStatus (mergedChecks anterior entrada)
      recordedAt := agora }
  anteriorInvalidado := invalidado anterior entrada

/-- `status_valido_para_sha`. -/
def statusValidoParaSha (registro : Option EvidenceRecord) (sha : Option String) :
    EvidenceStatus :=
  match registro with
  | none => .notValidated
  | some r => if sha.isSome && sha != some r.sha then .notValidated else r.status

/-- For a known SHA the ledger says `EVIDENCED` exactly when its record is of that SHA and says
so. -/
theorem statusValidoParaSha_some {registro : Option EvidenceRecord} {sha : String} :
    statusValidoParaSha registro (some sha) = .evidenced ↔
      ∃ r, registro = some r ∧ r.sha = sha ∧ r.status = .evidenced := by
  rcases registro with _ | r
  · simp [statusValidoParaSha]
  · by_cases h : sha = r.sha
    · simp [statusValidoParaSha, h]
    · simp [statusValidoParaSha, h, Ne.symm h]

/-! ## Execution -/

inductive ExecutionOutcome
  | success | failed | blocked
  deriving DecidableEq

/-- What an executor hands back. `__post_init__` refuses a failure without a reason and a success
without a verification. -/
structure ExecutionResult where
  outcome : ExecutionOutcome
  checks : Checks := Checks.empty
  evidenceRunUrl : Option String := none
  blocker : Option String := none
  nextAction : Option String := none
  detail : Option String := none
  reason_of_failure : outcome ≠ .success →
    PyText.truthy blocker = true ∧ PyText.truthy nextAction = true
  checks_of_success : outcome = .success → checks.any = true

/-- An exception an executor raises: its class, and whether that is an `Exception`. The cancellation
of a task is not. -/
structure Excecao where
  classe : String
  comum : Bool := true
  deriving DecidableEq

/-- The instant of the concrete runs of this development. -/
def sampleInstant : DateTime := .newYearNoon

end Central

end ReqSys
