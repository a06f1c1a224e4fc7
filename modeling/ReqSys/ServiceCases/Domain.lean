import ReqSys.Foundation.Checked
import ReqSys.Foundation.PyText

/-!
# Service management: the domain of a case

The state machine of a service case and the checks its constructor makes. `ServiceCase.build` is
`__post_init__`: it normalises identifiers and texts, and refuses what it cannot normalise; a
transition is checked against the table and then builds the case anew, so the checks run again.

`str(UUID(text))` is a parameter: nothing here depends on which texts parse.
-/

namespace ReqSys

namespace ServiceCases

/-! ## Enumerations -/

inductive CaseType
  | request | incident | problem | change
  deriving DecidableEq

inductive CaseState
  | new | triage | pendingApproval | inProgress | pendingExternal | resolved | closed | canceled
  deriving DecidableEq

namespace CaseState

def value : CaseState → String
  | new => "NEW" | triage => "TRIAGE" | pendingApproval => "PENDING_APPROVAL"
  | inProgress => "IN_PROGRESS" | pendingExternal => "PENDING_EXTERNAL"
  | resolved => "RESOLVED" | closed => "CLOSED" | canceled => "CANCELED"

/-- `_ALLOWED_TRANSITIONS`. -/
def allowedTransitions : CaseState → List CaseState
  | new => [triage, canceled]
  | triage => [pendingApproval, inProgress, canceled]
  | pendingApproval => [triage, inProgress, canceled]
  | inProgress => [pendingExternal, resolved, canceled]
  | pendingExternal => [inProgress, resolved, canceled]
  | resolved => [inProgress, closed]
  | closed => []
  | canceled => []

end CaseState

inductive Impact
  | low | medium | high | critical
  deriving DecidableEq

/-- `_IMPACT_WEIGHT`. -/
def Impact.weight : Impact → ℕ
  | low => 1 | medium => 2 | high => 3 | critical => 4

inductive Urgency
  | low | medium | high | critical
  deriving DecidableEq

/-- `_URGENCY_WEIGHT`. -/
def Urgency.weight : Urgency → ℕ
  | low => 1 | medium => 2 | high => 3 | critical => 4

inductive CasePriority
  | p1 | p2 | p3 | p4
  deriving DecidableEq

inductive ApprovalStatus
  | pending | approved | rejected
  deriving DecidableEq

inductive ChangeValidationStatus
  | passed | failed | rolledBack
  deriving DecidableEq

/-! ## Errors -/

/-- The exceptions of the domain and of the operations, and the two the database raises. -/
inductive RsmError
  /-- `ServiceCaseNotFoundError`. -/
  | notFound (message : String)
  /-- `ServiceCaseConflictError`. -/
  | conflict (message : String)
  /-- `InvalidStateTransition`. -/
  | invalidTransition (message : String)
  /-- `ServiceManagementValidationError`. -/
  | validation (message : String)
  /-- `IntegrityError`: a primary or unique key is taken. -/
  | integrity
  /-- `OperationalError`: another session holds the lock for too long. -/
  | operational
  /-- `OverflowError`: the calendar ends before a deadline. -/
  | overflow
  deriving DecidableEq

/-! ## Checks -/

/-- `_text`. -/
def text (value fieldName : String) (maxLength : ℕ) : Except RsmError String := do
  let normalized := PyText.strip value
  require (normalized ≠ "") (.validation (fieldName ++ " deve ser informado"))
  require (normalized.length ≤ maxLength)
    (.validation (fieldName ++ " excede " ++ toString maxLength ++ " caracteres"))
  return normalized

/-- `_uuid`, given `str(UUID(text))`. -/
def uuid (parse : String → Option String) (value fieldName : String) : Except RsmError String :=
  orThrow (parse value) (.validation (fieldName ++ " deve ser UUID válido"))

/-- `calculate_priority`. -/
def calculatePriority (impact : Impact) (urgency : Urgency) : CasePriority :=
  let score := impact.weight + urgency.weight
  if 7 ≤ score then .p1 else if 5 ≤ score then .p2 else if 3 ≤ score then .p3 else .p4

def schemaVersion : String := "1.0.0"

/-! ## Cases -/

/-- The arguments of the constructor. -/
structure CaseFields where
  caseId : String
  caseType : CaseType
  serviceId : String
  requester : String
  impact : Impact
  urgency : Urgency
  correlationId : String
  idempotencyKey : String
  state : CaseState := .new
  schemaVersion : String := ServiceCases.schemaVersion
  deriving DecidableEq

structure ServiceCase extends CaseFields where
  priority : CasePriority
  deriving DecidableEq

/-- `__post_init__`. -/
def ServiceCase.build (parse : String → Option String) (f : CaseFields) :
    Except RsmError ServiceCase := do
  let caseId ← uuid parse f.caseId "case_id"
  let serviceId ← uuid parse f.serviceId "service_id"
  let requester ← text f.requester "requester" 200
  let correlationId ← text f.correlationId "correlation_id" 120
  require (PyText.isHex 64 f.idempotencyKey = true)
    (.validation "idempotency_key deve ser SHA-256 hexadecimal minúsculo")
  require (f.schemaVersion = ServiceCases.schemaVersion)
    (.validation ("schema_version deve ser " ++ ServiceCases.schemaVersion))
  return {
    caseId, caseType := f.caseType, serviceId, requester, impact := f.impact,
    urgency := f.urgency, correlationId, idempotencyKey := f.idempotencyKey, state := f.state,
    schemaVersion := f.schemaVersion, priority := calculatePriority f.impact f.urgency }

/-- `transition_to`. -/
def ServiceCase.transitionTo (parse : String → Option String) (c : ServiceCase)
    (target : CaseState) : Except RsmError ServiceCase := do
  require (target ∈ c.state.allowedTransitions)
    (.invalidTransition ("transição não permitida: " ++ c.state.value ++ " -> " ++ target.value))
  ServiceCase.build parse { c.toCaseFields with state := target }

/-- A case that was built has the state it was built with. -/
theorem ServiceCase.state_of_build {parse : String → Option String} {f : CaseFields}
    {c : ServiceCase} (h : ServiceCase.build parse f = .ok c) : c.state = f.state := by
  obtain ⟨_, -, h⟩ := bind_eq_ok.mp h
  obtain ⟨_, -, h⟩ := bind_eq_ok.mp h
  obtain ⟨_, -, h⟩ := bind_eq_ok.mp h
  obtain ⟨_, -, h⟩ := bind_eq_ok.mp h
  obtain ⟨-, h⟩ := require_bind_eq_ok.mp h
  obtain ⟨-, h⟩ := require_bind_eq_ok.mp h
  cases h
  rfl

/-- A transition that succeeds is one of the table and leads to its target. -/
theorem ServiceCase.transitionTo_eq_ok {parse : String → Option String} {c c' : ServiceCase}
    {target : CaseState} (h : c.transitionTo parse target = .ok c') :
    target ∈ c.state.allowedTransitions ∧ c'.state = target := by
  obtain ⟨hallowed, hbuild⟩ := require_bind_eq_ok.mp h
  exact ⟨hallowed, ServiceCase.state_of_build hbuild⟩

/-- `EvidenceReference(evidence_id, 'resolution', uri, sha256)`: the checks, without the value. -/
def evidenceReference (evidenceId uri sha256 : String) : Except RsmError Unit := do
  let _ ← text evidenceId "evidence_id" 200
  let _ ← text "resolution" "kind" 80
  let _ ← text uri "uri" 1000
  require (PyText.isHex 64 sha256 = true)
    (.validation "sha256 de evidência deve ser hexadecimal minúsculo com 64 caracteres")

/-! ## Preconditions of transitions -/

/-- `requires_approval`. -/
def requiresApproval (fromState toState : CaseState) : Bool :=
  fromState = .pendingApproval && toState = .inProgress

/-- `assert_approval_allows_transition`, with the conflict the guard turns it into. -/
def assertApprovalAllowsTransition (fromState toState : CaseState)
    (statuses : List ApprovalStatus) : Except RsmError Unit :=
  require (requiresApproval fromState toState = true → .approved ∈ statuses)
    (.conflict ("transição " ++ fromState.value ++ " -> " ++ toState.value
      ++ " exige aprovação APPROVED"))

/-- `assert_change_can_close`, with the conflict the guard turns it into. -/
def assertChangeCanClose (latest : Option ChangeValidationStatus) : Except RsmError Unit :=
  require (latest = some .passed ∨ latest = some .rolledBack)
    (.conflict "operação CHANGE rejeitada por pré-condição")

end ServiceCases

end ReqSys
