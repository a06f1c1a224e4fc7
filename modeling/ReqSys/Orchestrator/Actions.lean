import ReqSys.Foundation.Program
import ReqSys.Foundation.Table
import ReqSys.Orchestrator.Readiness

/-!
# Orchestrator: actions and their evidence

Two tables of SQLite: the queue of actions, and a ledger of evidence that is only appended to. An
execution sets its action to `running`, assesses the readiness, stores the terminal status, and
appends the evidence; each of these is a transaction of its own. If anything raises on the way, the
status becomes `failed`.

A `SELECT` does not open a transaction in the driver, so a lookup and the write that follows it are
two atomic calls. `abertas` is not in the database. It records which process has stored `succeeded`
for which action, until the process ends.
-/

namespace ReqSys

namespace Orchestrator

/-! ## The tables -/

inductive Risk
  | green | yellow | red
  deriving DecidableEq

inductive Status
  | ready | awaitingApproval | running | succeeded | blocked | failed
  deriving DecidableEq

/-- A row of `actions`. -/
structure OperationalAction where
  actionId : String
  idempotencyKey : String
  source : String
  project : String
  environment : String
  actionType : String
  repository : Option String
  branch : Option String
  sha : Option String
  risk : Risk
  status : Status
  executor : String
  nextAction : String
  validation : Json
  correlationId : String
  payload : Json
  attempts : ℕ := 0
  createdAt : String
  updatedAt : String

/-- A row of `evidence`. -/
structure EvidenceRecord where
  evidenceId : String
  idempotencyKey : String
  actionId : String
  correlationId : String
  environment : String
  branch : Option String
  sha : Option String
  kind : String
  status : String
  source : String
  observedAt : String
  payload : Json

structure Banco where
  actions : List OperationalAction := []
  evidence : List EvidenceRecord := []
  abertas : List (ℕ × String) := []

namespace Banco

def action (s : Banco) (actionId : String) : Option OperationalAction :=
  Table.lookup OperationalAction.actionId actionId s.actions

/-- The status of an action. -/
def status (s : Banco) (actionId : String) : Option Status :=
  (s.action actionId).map OperationalAction.status

end Banco

/-! ## Calls -/

/-- What a call gets from outside. -/
structure Env where
  now : String := ""
  manifesto : Leitura := .ausente
  /-- What SQLite raises: the database is locked, the disk is full. The transaction is undone. -/
  falha : Option String := none

inductive Cmd
  | utcNow
  | lerManifesto (path : String)
  | selectAction (actionId : String)
  | selectActionByKey (key : String)
  | insertAction (action : OperationalAction)
  /-- The update, and the row read again. -/
  | updateStatus (actionId : String) (status : Status) (attempts : ℕ) (now : String)
  | selectEvidenceByKey (key : String)
  | insertEvidence (record : EvidenceRecord)
  | listEvidence (correlationId : String)

abbrev Cmd.Ans : Cmd → Type
  | utcNow => String
  | lerManifesto _ => Leitura
  | selectAction _ | selectActionByKey _ => Option OperationalAction
  | insertAction _ | updateStatus _ _ _ _ => OperationalAction
  | selectEvidenceByKey _ => Option EvidenceRecord
  | insertEvidence _ => EvidenceRecord
  | listEvidence _ => List EvidenceRecord

/-- A row with the same action id, key or correlation id. -/
def OperationalAction.colide (a b : OperationalAction) : Bool :=
  a.actionId == b.actionId || a.idempotencyKey == b.idempotencyKey ||
    a.correlationId == b.correlationId

/-- The columns that `set_action_status` writes. -/
def OperationalAction.gravado (a : OperationalAction) (status : Status) (attempts : ℕ)
    (now : String) : OperationalAction :=
  { a with status := status, attempts := attempts, updatedAt := now }

/-- A row with the same evidence id or key. -/
def EvidenceRecord.colide (a b : EvidenceRecord) : Bool :=
  a.evidenceId == b.evidenceId || a.idempotencyKey == b.idempotencyKey

/-- The effect and the answer of a call of process `i` that gets through. -/
def efeito (i : ℕ) : (op : Cmd) → Env → Banco → Banco × Except Erro op.Ans
  | .utcNow, e, s => (s, .ok e.now)
  | .lerManifesto _, e, s => (s, .ok e.manifesto)
  | .selectAction actionId, _, s => (s, .ok (s.action actionId))
  | .selectActionByKey key, _, s =>
    (s, .ok (Table.lookup OperationalAction.idempotencyKey key s.actions))
  | .insertAction action, _, s =>
    if s.actions.any action.colide then (s, .error (.externo "UNIQUE constraint failed"))
    else ({ s with actions := s.actions ++ [action] }, .ok action)
  | .updateStatus actionId status attempts now, _, s =>
    match s.action actionId with
    | none => (s, .error (.externo "AssertionError"))
    | some a =>
      ({ s with
          actions := Table.update OperationalAction.actionId actionId
            (·.gravado status attempts now) s.actions
          abertas := if status = .succeeded then (i, actionId) :: s.abertas else s.abertas },
        .ok (a.gravado status attempts now))
  | .selectEvidenceByKey key, _, s =>
    (s, .ok (Table.lookup EvidenceRecord.idempotencyKey key s.evidence))
  | .insertEvidence record, _, s =>
    if s.evidence.any record.colide then (s, .error (.externo "UNIQUE constraint failed"))
    else ({ s with evidence := s.evidence ++ [record] }, .ok record)
  | .listEvidence correlationId, _, s =>
    let rows := (s.evidence.filter fun x ↦ x.correlationId = correlationId).insertionSort
      fun a b ↦ b.observedAt ≤ a.observedAt
    (s, .ok (rows.take 200))

/-- The calls that open a connection. -/
def Cmd.conecta : Cmd → Bool
  | utcNow | lerManifesto _ => false
  | _ => true

def exec (i : ℕ) (op : Cmd) (e : Env) (s : Banco) : Banco × Except Erro op.Ans :=
  match e.falha, op.conecta with
  | some mensagem, true => (s, .error (.externo mensagem))
  | _, _ => efeito i op e s

/-- The database. When a process ends, its executions are no longer open. -/
def machine : Machine Cmd.Ans Erro Banco Env where
  exec := exec
  close i s := { s with abertas := s.abertas.filter fun x ↦ x.1 ≠ i }

/-! ## The store -/

abbrev Processo := Program Cmd.Ans Erro

/-- One call. -/
def run (op : Cmd) : Processo op.Ans := .perform op

/-- What an action is to do. -/
structure Intent where
  source : String
  project : String
  environment : String
  actionType : String
  repository : Option String
  branch : Json
  sha : Json
  risk : Risk
  executor : String
  nextAction : String
  validation : Json
  payload : Json

/-- `_persisted_action_intent`. -/
def OperationalAction.intent (a : OperationalAction) : Intent where
  source := a.source
  project := a.project
  environment := a.environment
  actionType := a.actionType
  repository := a.repository
  branch := .ofOption a.branch
  sha := .ofOption a.sha
  risk := a.risk
  executor := a.executor
  nextAction := a.nextAction
  validation := a.validation
  payload := a.payload

/-- Equality of two intents, as dictionaries. -/
def Intent.igual (a b : Intent) : Bool :=
  a.source = b.source && a.project = b.project && a.environment = b.environment &&
    a.actionType = b.actionType && a.repository = b.repository && a.branch.pyEq b.branch &&
    a.sha.pyEq b.sha && a.risk = b.risk && a.executor = b.executor &&
    a.nextAction = b.nextAction && a.validation.pyEq b.validation && a.payload.pyEq b.payload

/-- A value bound to a column of type `TEXT`. -/
def Config.bind (cfg : Config) : Json → Except Erro (Option String)
  | .null => .ok none
  | .str s => .ok (some s)
  | .bool b => .ok (some (if b then "1" else "0"))
  | .num q => .ok (some (cfg.repr (.num q)))
  | .arr _ | .obj _ => .error (.externo "type is not supported")

/-- `initial_status`. -/
def Risk.initialStatus : Risk → Status
  | green => .ready
  | yellow => .awaitingApproval
  | red => .blocked

/-- The dictionary whose hash is the key, unless the caller has one. -/
def Intent.material (x : Intent) : Json :=
  .obj [("source", .str x.source), ("project", .str x.project),
    ("environment", .str x.environment), ("action_type", .str x.actionType),
    ("repository", .ofOption x.repository), ("branch", x.branch), ("sha", x.sha),
    ("payload", x.payload)]

/-- The row that `enqueue` inserts. -/
def newAction (cfg : Config) (x : Intent) (key now : String) : Except Erro OperationalAction := do
  let branch ← cfg.bind x.branch
  let sha ← cfg.bind x.sha
  return {
    actionId := "ACT-" ++ PyText.take 20 key
    idempotencyKey := key
    source := x.source
    project := x.project
    environment := x.environment
    actionType := x.actionType
    repository := x.repository
    branch := branch
    sha := sha
    risk := x.risk
    status := x.risk.initialStatus
    executor := x.executor
    nextAction := x.nextAction
    validation := x.validation
    correlationId := "REQSYS-ACT-" ++ PyText.take 16 key
    payload := x.payload
    createdAt := now
    updatedAt := now }

/-- `enqueue`. -/
def enqueue (cfg : Config) (x : Intent) (idempotencyMaterial : Json) :
    Processo (OperationalAction × Bool) := do
  .ofExcept (assertSafeMetadata cfg x.payload "payload")
  .ofExcept (assertSafeMetadata cfg x.validation "validation")
  let key := cfg.sha256 (idempotencyMaterial.orElse x.material)
  let now ← run .utcNow
  match ← run (.selectActionByKey key) with
  | some existing =>
    if existing.intent.igual x then return (existing, false)
    else .raise .identityConflict
  | none => do
    let action ← .ofExcept (newAction cfg x key now)
    let action ← run (.insertAction action)
    return (action, true)

/-- `set_action_status`. -/
def setActionStatus (actionId : String) (status : Status) (incrementAttempts : Bool) :
    Processo OperationalAction := do
  let now ← run .utcNow
  match ← run (.selectAction actionId) with
  | none => .raise (.keyError actionId)
  | some row =>
    run (.updateStatus actionId status (row.attempts + if incrementAttempts then 1 else 0) now)

/-- The dictionary whose hash is the key of an evidence. -/
def evidenceMaterial (action : OperationalAction) (kind status source : String) (payload : Json) :
    Json :=
  .obj [("action_id", .str action.actionId), ("kind", .str kind), ("status", .str status),
    ("source", .str source), ("payload", payload)]

/-- The row that `append_evidence` inserts. -/
def newEvidence (action : OperationalAction) (kind status source : String) (payload : Json)
    (key observedAt : String) : EvidenceRecord where
  evidenceId := "EVD-" ++ PyText.take 20 key
  idempotencyKey := key
  actionId := action.actionId
  correlationId := action.correlationId
  environment := action.environment
  branch := action.branch
  sha := action.sha
  kind := kind
  status := status
  source := source
  observedAt := observedAt
  payload := payload

/-- `append_evidence`. -/
def appendEvidence (cfg : Config) (action : OperationalAction) (kind status source : String)
    (payload : Json) : Processo (EvidenceRecord × Bool) := do
  .ofExcept (assertSafeMetadata cfg payload "payload")
  let key := cfg.sha256 (evidenceMaterial action kind status source payload)
  let observedAt ← run .utcNow
  match ← run (.selectEvidenceByKey key) with
  | some existing => return (existing, false)
  | none => do
    let record ← run (.insertEvidence (newEvidence action kind status source payload key observedAt))
    return (record, true)

/-! ## The orchestrator -/

/-- An orchestrator, as a process constructs it: `manifest_path` and `environ`. -/
structure Orquestrador where
  manifestPath : String
  environ : Environ

/-- `OperationalOrchestrator.readiness`. -/
def Orquestrador.readiness (cfg : Config) (o : Orquestrador) : Processo Assessment := do
  let leitura ← run (.lerManifesto o.manifestPath)
  .ofExcept (Orchestrator.readiness cfg o.manifestPath leitura o.environ)

inductive Resposta
  | enfileirada (action : OperationalAction) (created : Bool)
  | ignorada (reason : String)
  | naoExecutada (reason : String) (action : OperationalAction) (evidence : List EvidenceRecord)
  | executada (action : OperationalAction) (result : Assessment) (evidence : EvidenceRecord)
      (evidenceCreated : Bool)

/-- `enqueue_readiness_check`. -/
def enqueueReadinessCheck (cfg : Config) (o : Orquestrador) (sha branch project repository : String) :
    Processo Resposta := do
  let leitura ← run (.lerManifesto o.manifestPath)
  let manifest ← .ofExcept (loadReadinessManifest o.manifestPath leitura)
  let environment := cfg.str (Json.get "environment" manifest)
  let (action, created) ← enqueue cfg {
      source := "readiness_as_code"
      project := project
      environment := environment
      actionType := "readiness_check"
      repository := some repository
      branch := .str branch
      sha := .str sha
      risk := .green
      executor := "readiness_check"
      nextAction := "executar_readiness_e_registrar_evidencia"
      validation := .obj [("required", .bool true), ("e2e", .bool true),
        ("independent_evidence", .bool true), ("idempotency", .bool true)]
      payload := .obj [("manifest", .str o.manifestPath)] }
    (.obj [("type", .str "readiness_check"), ("environment", .str environment),
      ("repository", .str repository), ("branch", .str branch), ("sha", .str sha)])
  return .enfileirada action created

/-- `ingest_workflow_run`. -/
def ingestWorkflowRun (cfg : Config) (run : List (String × Json)) (project environment : String) :
    Processo Resposta :=
  let conclusion := Json.get "conclusion" run
  let runId := Json.get "id" run
  let headSha := Json.get "head_sha" run
  if cfg.str ((Json.get "status" run).orElse (.str "unknown")) ≠ "completed" then
    return .ignorada "run_not_terminal"
  else if conclusion.pyEq (.str "success") then return .ignorada "healthy_run"
  else do
    let workflow := ((Json.get "name" run).orElse (Json.get "workflow_name" run)).orElse
      (.str "unknown")
    let (action, created) ← enqueue cfg {
        source := "github_actions"
        project := project
        environment := environment
        actionType := "ci_failure"
        repository := some (cfg.str ((Json.get "repository" run).orElse
          (.str "ericson-j-santos/reqsys-v2-enterprise-real")))
        branch := Json.get "head_branch" run
        sha := headSha
        risk := .yellow
        executor := "github_agent"
        nextAction := "analisar_causa_raiz_e_corrigir_menor_incremento_no_mesmo_pr"
        validation := .obj [("required", .bool true), ("e2e", .bool true),
          ("independent_evidence", .bool true), ("revalidate_new_sha", .bool true)]
        payload := .obj [("run_id", runId), ("workflow", .str (cfg.str workflow)),
          ("conclusion", conclusion), ("event", Json.get "event" run),
          ("html_url", Json.get "html_url" run)] }
      (.obj [("type", .str "ci_failure"), ("run_id", runId), ("head_sha", headSha),
        ("conclusion", conclusion)])
    return .enfileirada action created

/-- The status after an assessment. -/
def AssessmentStatus.terminal : AssessmentStatus → Status
  | ready => .succeeded
  | blocked => .blocked

/-- The body of the `try` of `execute`. -/
def avaliar (cfg : Config) (o : Orquestrador) (actionId : String) (action : OperationalAction) :
    Processo Resposta :=
  if action.executor = "readiness_check" then do
    let assessment ← o.readiness cfg
    let action ← setActionStatus actionId assessment.status.terminal false
    let (evidence, created) ← appendEvidence cfg action "readiness" assessment.status.value
      "readiness_as_code" assessment.toJson
    return .executada action assessment evidence created
  else .raise (.orchestratorError ("Executor não implementado: " ++ action.executor))

/-- `execute`. -/
def execute (cfg : Config) (o : Orquestrador) (actionId : String) (confirm : Bool) :
    Processo Resposta := do
  match ← run (.selectAction actionId) with
  | none => .raise (.keyError actionId)
  | some action =>
    if action.status = .succeeded then do
      let evidence ← run (.listEvidence action.correlationId)
      return .naoExecutada "already_succeeded" action evidence
    else if action.risk = .red then return .naoExecutada "human_only" action []
    else if action.risk = .yellow ∧ !confirm then
      return .naoExecutada "approval_required" action []
    else if action.executor ≠ "readiness_check" then
      return .naoExecutada "external_executor_required" action []
    else do
      let action ← setActionStatus actionId .running true
      match ← (avaliar cfg o actionId action).attempt with
      | .ok resposta => return resposta
      | .error x => do
        let _ ← setActionStatus actionId .failed false
        .raise x

/-! ## Processes -/

/-- What a process does. -/
inductive Pedido
  | enqueueReadinessCheck (o : Orquestrador) (sha branch project repository : String)
  | ingestWorkflowRun (run : List (String × Json)) (project environment : String)
  | execute (o : Orquestrador) (actionId : String) (confirm : Bool)

def code (cfg : Config) : Pedido → Processo Resposta
  | .enqueueReadinessCheck o sha branch project repository =>
    enqueueReadinessCheck cfg o sha branch project repository
  | .ingestWorkflowRun run project environment => ingestWorkflowRun cfg run project environment
  | .execute o actionId confirm => execute cfg o actionId confirm

/-- The database and the processes running over it. -/
abbrev Processos := Pool Banco (Processo Resposta)

/-- A move of the processes, with the outcome it delivers. -/
abbrev Passo := Move Pedido Env × Option (Except Erro Resposta)

/-- Any number of processes over one database, which is empty at first. -/
def orquestracao (cfg : Config) : TransitionSystem Processos Passo :=
  Pool.interleaving {} (code cfg) machine

/-! ## A small queue -/

/-- A manifest with one capability, which is configured. -/
def sampleManifesto : Json :=
  .obj [("environment", .str "development"), ("capabilities", .obj [("sql_server",
    .obj [("required", .bool true), ("source", .str "static"), ("configured", .bool true)])])]

/-- Two hashes are enough for one action and its evidence. -/
def sampleConfig : Config where
  sha256
    | .obj (("type", _) :: _) => "5e884898da28047151d0e56f8dc6292773603d0d6aabbdd62a11ef721d1542d8"
    | _ => "8d969eef6ecad3c29a3a629280e686cf0c3f5d5a86aff3ca12020c923adc6c92"
  repr _ := ""
  unicode := .ascii

def sampleOrquestrador : Orquestrador where
  manifestPath := "config/operational-orchestrator/dev.yaml"
  environ _ := none

def sampleEnv : Env where
  now := "2026-01-01T00:00:00+00:00"
  manifesto := .lido sampleManifesto

/-- The readiness check that process 0 enqueues. -/
def sampleActionId : String := "ACT-5e884898da28047151d0"

def sampleEnqueue : Pedido :=
  .enqueueReadinessCheck sampleOrquestrador "sha-1" "main" "reqsys" "reqsys-v2"

def sampleExecute : Pedido := .execute sampleOrquestrador sampleActionId false

/-- Process `i` takes `n` steps. -/
def sampleSteps (i n : ℕ) : List (Move Pedido Env) := List.replicate n (.advance i sampleEnv)

/-- Process `i` starts and takes `n` steps. -/
def sampleStart (i : ℕ) (c : Pedido) (n : ℕ) : List (Move Pedido Env) :=
  .start i c :: sampleSteps i n

/-- The trace and the processes after moves that may overlap. -/
def sampleRun (moves : List (Move Pedido Env)) : List Passo × Processos :=
  TransitionSystem.runCalls (Pool.move (code sampleConfig) machine) moves ⟨{}, fun _ ↦ none⟩

theorem run_sampleRun (moves : List (Move Pedido Env)) :
    (orquestracao sampleConfig).Run (sampleRun moves).1 (sampleRun moves).2 :=
  TransitionSystem.run_runCalls _ _ moves

end Orchestrator

end ReqSys
