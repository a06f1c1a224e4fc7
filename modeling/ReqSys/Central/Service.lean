import ReqSys.Central.Store
import ReqSys.Foundation.Program

/-!
# The Central: service methods and the worker cycle

Each method of `CentralService` and each cycle of `CentralWorker` is a program over the atomic calls
of the store, so that what other replicas do between two of its calls is left open. `replicas` is
the transition system of any number of such programs over one store.

The router, the hash and the registry of executors are given to the service when it is built and
are arbitrary here.
-/

namespace ReqSys

namespace Central

/-- What a service and its worker are built with. -/
structure Config where
  backend : Backend
  /-- `ExecutorRouter.route`. -/
  route : WorkRequestInput → RoutingDecision
  /-- `hashlib.sha256(text.encode("utf-8")).hexdigest()`. -/
  sha256Hex : String → String
  /-- The limit of `WipPolicy`. -/
  maxActiveRootCauses : ℕ
  maxActiveRootCauses_pos : 1 ≤ maxActiveRootCauses
  /-- The executors with an adapter. -/
  registry : List ExecutorKind

/-- A method of the service. -/
abbrev Method (α : Type) := Program StoreOp.Ans CentralError α

/-- One atomic call. -/
def chamar (op : StoreOp) : Method op.Ans := Program.perform op

namespace Service

variable (cfg : Config)

/-! ## `CentralService` -/

/-- `_gerar_request_id`. -/
def gerarRequestId (entrada : WorkRequestInput) : String :=
  let semente := entrada.correlationId ++ "|" ++ entrada.project ++ "|" ++ entrada.title
  "WR-" ++ PyText.asciiUpper (PyText.take 24 (cfg.sha256Hex semente))

/-- The request that `registrar` builds. -/
def novaSolicitacao (entrada : WorkRequestInput) (momento : DateTime) : WorkRequest :=
  let decisao := cfg.route entrada
  { requestId := gerarRequestId cfg entrada
    title := entrada.title
    project := entrada.project
    environment := entrada.environment
    priority := entrada.priority
    rootCauseId := entrada.rootCauseId
    correlationId := entrada.correlationId
    signals := entrada.signals
    targetSystem := entrada.targetSystem
    repository := entrada.repository
    branch := entrada.branch
    sha := entrada.sha
    completionCriteria := entrada.completionCriteria
    originUrl := entrada.originUrl
    executor := decisao.executor
    routingRule := decisao.ruleId
    status := if decisao.requiresHuman then .blocked else .received
    blocker := if decisao.requiresHuman then decisao.humanReason else none
    nextAction :=
      if decisao.requiresHuman then
        some "Resolver dependência humana antes de admitir na fila executável."
      else none
    createdAt := momento
    updatedAt := momento }

/-- `registrar`. -/
def registrar (entrada : WorkRequestInput) (momento : DateTime) : Method WorkRequest :=
  let solicitacao := novaSolicitacao cfg entrada momento
  if solicitacao.accepted then do
    let armazenada ← chamar (.criarSeAusente solicitacao)
    return armazenada.1
  else .raise (.validation "WorkRequest")

/-- `obter`. -/
def obter (requestId : String) : Method WorkRequest := do
  match ← chamar (.obter requestId) with
  | none => .raise (.workRequestNotFound requestId)
  | some solicitacao => return solicitacao

/-- `listar`. -/
def listar : Method (List WorkRequest) := chamar .listar

/-- `plano_de_admissao`. -/
def planoDeAdmissao : Method AdmissionPlan := do
  return WipPolicy.plan cfg.maxActiveRootCauses (← listar)

/-- `sorted(set(ids))`. -/
def sortedSet (ids : List String) : List String := ids.dedup.insertionSort (· ≤ ·)

/-- `aplicar_admissao`: the requests and the plan of the snapshot. -/
def aplicarAdmissao : Method (List WorkRequest × AdmissionPlan) := do
  let plano := WipPolicy.plan cfg.maxActiveRootCauses (← listar)
  (sortedSet plano.admittedRequestIds).forM fun q ↦ do
    let _ ← chamar (.atualizar q (.promover .admitted))
  (sortedSet plano.queuedRequestIds).forM fun q ↦ do
    let _ ← chamar (.atualizar q (.promover .queued))
  return (← listar, plano)

/-- The candidates of `proximo_item`. -/
def candidato (executor : Option ExecutorKind) (item : WorkRequest) : Bool :=
  item.status = .admitted && item.executor != .humanGate && executor.all (· == item.executor)

/-- The sort key of `proximo_item`: the place in the plan, then the id. -/
def ordemCandidato (plano : AdmissionPlan) (a b : WorkRequest) : Bool :=
  ((compare (plano.admittedRequestIds.idxOf a.requestId)
      (plano.admittedRequestIds.idxOf b.requestId)).then
    (compare a.requestId b.requestId)).isLE

/-- `proximo_item`. -/
def proximoItem (executor : Option ExecutorKind) : Method (Option WorkRequest) := do
  let snapshot ← aplicarAdmissao cfg
  return ((snapshot.1.filter (candidato executor)).insertionSort
    fun a b ↦ ordemCandidato snapshot.2 a b = true).head?

/-- The gate of `transicionar`: read the request, then the ledger. -/
def exigirEvidencia (requestId : String) : Method Unit := do
  let solicitacao ← obter requestId
  let status ← chamar (.statusEvidencia requestId solicitacao.sha)
  if status ≠ .evidenced then
    .raise (.invalidTransition ("conclusão exige evidência EVIDENCED no SHA corrente (atual: "
      ++ status.value ++ ")"))
  else return ()

/-- `transicionar`. -/
def transicionar (requestId : String) (novoStatus : WorkRequestStatus)
    (blocker nextAction : Option String) : Method WorkRequest := do
  if novoStatus = .evidenced then exigirEvidencia requestId
  match ← chamar (.atualizar requestId (.transicionar novoStatus blocker nextAction)) with
  | none => .raise (.workRequestNotFound requestId)
  | some atualizada => return atualizada

/-- `registrar_evidencia`: the ledger first, then the request. -/
def registrarEvidencia (entrada : EvidenceRecordInput) : Method EvidenceRecord := do
  match ← chamar (.obter entrada.requestId) with
  | none => .raise (.workRequestNotFound entrada.requestId)
  | some _ =>
    let registro ← chamar (.registrarEvidencia entrada)
    let _ ← chamar (.atualizar entrada.requestId (.alinhar entrada.sha registro.status))
    return registro

/-! ## `CentralWorker` -/

inductive CicloResultado
  | ocioso | evidenciado | aguardandoEvidencia | bloqueado | cedido
  deriving DecidableEq

structure CicloRelatorio where
  resultado : CicloResultado
  requestId : Option String := none
  executor : Option ExecutorKind := none
  evidenceStatus : Option EvidenceStatus := none
  verificacoesPendentes : List EvidenceCheck := []
  blocker : Option String := none
  deriving DecidableEq

/-- `str(sha)`. -/
def shaText (sha : Option String) : String := sha.getD "None"

/-- `_bloquear`. -/
def bloquear (solicitacao : WorkRequest) (blocker nextAction : String) (checks : Checks) :
    Method CicloRelatorio := do
  if checks.any && PyText.truthy solicitacao.sha then
    let entrada ← .ofExcept (EvidenceRecordInput.build
      { requestId := solicitacao.requestId
        sha := shaText solicitacao.sha
        environment := solicitacao.environment
        checks := checks })
    let _ ← registrarEvidencia entrada
  let bloqueada ← transicionar solicitacao.requestId .blocked (some blocker) (some nextAction)
  return {
    resultado := .bloqueado
    requestId := some bloqueada.requestId
    executor := some bloqueada.executor
    blocker := some blocker }

/-- `_concluir`. -/
def concluir (solicitacao : WorkRequest) (resultado : ExecutionResult) :
    Method CicloRelatorio := do
  let entrada ← .ofExcept (EvidenceRecordInput.build
    { requestId := solicitacao.requestId
      sha := shaText solicitacao.sha
      environment := solicitacao.environment
      checks := resultado.checks
      productionTouched := solicitacao.environment = .prod
      evidenceRunUrl := resultado.evidenceRunUrl })
  let registro ← registrarEvidencia entrada
  if registro.status ≠ .evidenced then
    return {
      resultado := .aguardandoEvidencia
      requestId := some solicitacao.requestId
      executor := some solicitacao.executor
      evidenceStatus := some registro.status
      verificacoesPendentes := registro.missingChecks }
  else
    match ← (transicionar solicitacao.requestId .evidenced none none).attempt with
    | .ok final =>
      return {
        resultado := .evidenciado
        requestId := some final.requestId
        executor := some final.executor
        evidenceStatus := some registro.status }
    | .error (.invalidTransition _) =>
      return {
        resultado := .cedido
        requestId := some solicitacao.requestId
        executor := some solicitacao.executor
        evidenceStatus := some registro.status }
    | .error x => .raise x

/-- The result that stands for an exception of the executor. -/
def resultadoDeExcecao (classe : String) : ExecutionResult where
  outcome := .failed
  blocker := some ("executor_excecao:" ++ classe)
  nextAction := some "Investigar o executor: exceção não tratada durante a execução."
  reason_of_failure _ := by
    refine ⟨?_, by decide⟩
    simp [PyText.truthy]
  checks_of_success h := by cases h

/-- The result of a call of the executor. -/
def resultadoDe : Except Excecao ExecutionResult → Except CentralError ExecutionResult
  | .ok resultado => .ok resultado
  | .error x =>
    if x.comum then .ok (resultadoDeExcecao x.classe) else .error (.interrupted x.classe)

/-- A Python `or` on an optional text. -/
def orElse (s : Option String) (d : String) : String := if PyText.truthy s then s.getD d else d

/-- The part of a cycle that follows the choice of a request whose executor has an adapter. -/
def executarItem (solicitacao : WorkRequest) : Method CicloRelatorio := do
  match ← (transicionar solicitacao.requestId .executing none none).attempt with
  | .error (.invalidTransition _) =>
    return {
      resultado := .cedido
      requestId := some solicitacao.requestId
      executor := some solicitacao.executor }
  | .error (.workRequestNotFound _) => return { resultado := .ocioso }
  | .error x => .raise x
  | .ok solicitacao =>
    let resultado ← .ofExcept (resultadoDe (← chamar (.executar solicitacao)))
    if resultado.outcome ≠ .success then
      bloquear solicitacao (orElse resultado.blocker "executor_falhou")
        (orElse resultado.nextAction "Investigar a falha do executor.") resultado.checks
    else concluir solicitacao resultado

/-- `executar_um_ciclo`. -/
def executarUmCiclo (executor : Option ExecutorKind) : Method CicloRelatorio := do
  match ← proximoItem cfg executor with
  | none => return { resultado := .ocioso }
  | some solicitacao =>
    if cfg.registry.contains solicitacao.executor then executarItem solicitacao
    else
      bloquear solicitacao ("executor_nao_configurado:" ++ solicitacao.executor.value)
        ("Configurar CENTRAL_EXECUTOR_ENDPOINTS para '" ++ solicitacao.executor.value
          ++ "' ou rotear a solicitação para outro executor.") Checks.empty

end Service

/-! ## Replicas -/

/-- The methods a replica may run. `momento` is the reading of the clock in `registrar`. -/
inductive Chamada
  | registrar (entrada : WorkRequestInput) (momento : DateTime)
  | obter (requestId : String)
  | listar
  | planoDeAdmissao
  | aplicarAdmissao
  | proximoItem (executor : Option ExecutorKind)
  | transicionar (requestId : String) (novoStatus : WorkRequestStatus)
      (blocker nextAction : Option String)
  | registrarEvidencia (entrada : EvidenceRecordInput)
  | obterEvidencia (requestId : String)
  | historicoEvidencia (requestId : String)
  | executarUmCiclo (executor : Option ExecutorKind)

/-- What a method returns. -/
inductive Resposta
  | solicitacao (r : WorkRequest)
  | proximo (r : Option WorkRequest)
  | lista (l : List WorkRequest)
  | plano (p : AdmissionPlan)
  | snapshot (l : List WorkRequest) (p : AdmissionPlan)
  | evidencia (r : Option EvidenceRecord)
  | historico (l : List EvidenceRecord)
  | ciclo (r : Service.CicloRelatorio)

/-- The program of a call. -/
def code (cfg : Config) : Chamada → Method Resposta
  | .registrar entrada momento => do return .solicitacao (← Service.registrar cfg entrada momento)
  | .obter q => do return .solicitacao (← Service.obter q)
  | .listar => do return .lista (← Service.listar)
  | .planoDeAdmissao => do return .plano (← Service.planoDeAdmissao cfg)
  | .aplicarAdmissao => do
    let snapshot ← Service.aplicarAdmissao cfg
    return .snapshot snapshot.1 snapshot.2
  | .proximoItem executor => do return .proximo (← Service.proximoItem cfg executor)
  | .transicionar q novo blocker nextAction => do
    return .solicitacao (← Service.transicionar q novo blocker nextAction)
  | .registrarEvidencia entrada => do
    return .evidencia (some (← Service.registrarEvidencia entrada))
  | .obterEvidencia q => do
    return .evidencia (← chamar (.obterEvidencia q))
  | .historicoEvidencia q => do
    return .historico (← chamar (.historicoEvidencia q))
  | .executarUmCiclo executor => do return .ciclo (← Service.executarUmCiclo cfg executor)

/-- A store and the methods running over it. -/
abbrev Replicas := Pool Store (Method Resposta)

/-- A move of the replicas, with the answer it delivers. -/
abbrev Passo := Move Chamada Env × Option (Except CentralError Resposta)

/-- The store as the machine of the replicas: who calls makes no difference, and a replica that
stops leaves nothing to undo. -/
def machine (b : Backend) : Machine StoreOp.Ans CentralError Store Env where
  exec _ op e s := exec b op e s
  close _ s := s

/-- Any number of replicas over one store, which is empty at first. -/
def replicas (cfg : Config) : TransitionSystem Replicas Passo :=
  Pool.interleaving {} (code cfg) (machine cfg.backend)

/-! ## A small Central

One producer, one request and one replica: the inputs of the concrete runs of this development. -/

/-- The defaults, with the hash and the route of the one request below. -/
def sampleConfig : Config where
  backend := .redis
  route _ := { executor := .ciRepair, ruleId := "ci.repair", matchedTerms := ["ci"] }
  sha256Hex text :=
    if text = "corr-0001|reqsys|Corrigir CI" then
      "a56548002b7f0d23dd18bfdeed346c222da87acfb654b936d67bb568fb018216"
    else ""
  maxActiveRootCauses := 3
  maxActiveRootCauses_pos := by decide
  registry := [.ciRepair]

def sampleId : String := "WR-A56548002B7F0D23DD18BFDE"

def sampleInput : WorkRequestInput where
  title := "Corrigir CI"
  project := "reqsys"
  rootCauseId := "rc-1"
  correlationId := "corr-0001"
  sha := some "aaaaaaa"
  valid := by decide +kernel

/-- All verifications passed. -/
def sampleEvidence : EvidenceRecordInput where
  requestId := sampleId
  sha := "aaaaaaa"
  environment := .dev
  checks _ := some .pass
  valid := by decide +kernel

/-- A failed verification of the same SHA. -/
def sampleFailure : EvidenceRecordInput where
  requestId := sampleId
  sha := "aaaaaaa"
  environment := .dev
  checks c := if c = .positive then some .fail else none
  valid := by decide +kernel

/-- Run one method from start to end in `n` moves. -/
def serial (c : Chamada) (n : ℕ) : List (Move Chamada Env) :=
  .start 0 c :: List.replicate n (.advance 0 { agora := sampleInstant })

/-- Register, admit, execute, prove and conclude the request. -/
def concludeMoves : List (Move Chamada Env) :=
  serial (.registrar sampleInput sampleInstant) 2 ++ serial .aplicarAdmissao 4
    ++ serial (.transicionar sampleId .executing none none) 2
    ++ serial (.registrarEvidencia sampleEvidence) 4
    ++ serial (.transicionar sampleId .evidenced none none) 4

/-- The trace and the final replicas of a list of moves. -/
def sampleRun (moves : List (Move Chamada Env)) : List Passo × Replicas :=
  TransitionSystem.runCalls (Pool.move (code sampleConfig) (machine sampleConfig.backend)) moves
    ⟨{}, fun _ ↦ none⟩

theorem run_restrict_sampleRun {C : Replicas → Passo → Prop} {moves : List (Move Chamada Env)}
    (h : TransitionSystem.CallsMeet (Pool.move (code sampleConfig) (machine sampleConfig.backend)) C
      moves ⟨{}, fun _ ↦ none⟩) :
    ((replicas sampleConfig).restrict C).Run (sampleRun moves).1 (sampleRun moves).2 :=
  TransitionSystem.run_restrict_runCalls _ h

theorem run_sampleRun (moves : List (Move Chamada Env)) :
    (replicas sampleConfig).Run (sampleRun moves).1 (sampleRun moves).2 :=
  TransitionSystem.run_runCalls _ _ moves

end Central

end ReqSys
