import Mathlib
import ReqSys.RuntimeJobs.Redis

/-!
# Runtime jobs: the service, the queue and the worker

`JobService` over `JobRepositoryRedis` and `RedisQueueGateway`, and the loop of the worker, as
programs over the commands they send. The loops of the source have no end; here `consumir` is given
how often it waits and the worker how many jobs it takes. A process that runs out of either stops
between two commands, as one that is killed there does.

`runtime` is the system: any number of processes over one Redis, with keys that expire at any time.
-/

namespace ReqSys

namespace RuntimeJobs

/-! ## Configuration -/

/-- `TodoGlobalUpsertResult`, its fields that the runtime compares. -/
structure TodoGlobalUpsertResult where
  idempotencyKey : String
  canonicalStatus : String
  readbackVerified : Bool

/-- `RuntimeSettings`, with what the libraries do: validating and dumping the answer of the adapter,
`str` of a JSON value, the digest of an event id, and the sanitizer of error texts. Times are in
microseconds. -/
structure Config where
  maxTentativas : ℤ
  maxQueueSize : ℕ
  retryBackoffBase : ℕ
  retryBackoffMax : ℕ
  todoGlobalAdapterUrl : Option String
  modelValidate : Json → Except Erro TodoGlobalUpsertResult
  modelDump : TodoGlobalUpsertResult → Json
  str : Json → String
  sha256 : String → String
  sanitizarErro : String → String

/-- `AsyncJobCreateRequest`. -/
structure AsyncJobCreateRequest where
  origem : String
  tipoOperacao : TipoOperacao
  destino : String
  payload : Json
  destinoUrl : Option String := none
  correlationId : Option String := none

/-- `TodoEventV1`: the fields that the service reads by name, and `model_dump(mode="json")`. -/
structure TodoEventV1 where
  eventId : String
  correlationId : String
  idempotencyKey : String
  producer : Option String := none
  payload : Json

abbrev Processo (α : Type) := Program Cmd.Ans Erro α

def run (op : Cmd) : Processo op.Ans := Program.perform op

/-! ## The queue -/

/-- `publicar`. -/
def publicar (cfg : Config) (jobId : String) (delay : ℕ) : Processo Unit := do
  let result ←
    if 0 < delay then run (.publicarAtrasado jobId delay cfg.maxQueueSize)
    else run (.publicar jobId cfg.maxQueueSize)
  if result then return () else .raise .queueCapacity

/-- What a worker holds: `_current_job_id` and `_current_lease_token`. -/
structure Posse where
  jobId : String
  token : String

/-- `consumir`, with the number of times it waits. -/
def consumir : ℕ → Processo (Option Posse)
  | 0 => return none
  | esperas + 1 => do
    run (.promover 100)
    match ← run .brpoplpush with
    | none => consumir esperas
    | some jobId =>
      let token ← run .uuid4
      if ← run (.adquirir jobId token) then return some ⟨jobId, token⟩
      else
        let _ ← run (.lrem jobId)
        run (.lpush jobId)
        consumir esperas

/-- `confirmar`. -/
def confirmar (posse : Posse) : Processo Unit := do
  let _ ← run (.lrem posse.jobId)
  let _ ← run (.liberar posse.jobId posse.token)
  return ()

/-- One turn of `recuperar_jobs_orfaos`. -/
def recuperarOrfao (jobId : String) : Processo Unit := do
  if ← run (.existeLease jobId) then return ()
  else
    let removed ← run (.lrem jobId)
    if removed ≠ 0 then run (.lpush jobId) else return ()

/-- `recuperar_jobs_orfaos`. -/
def recuperarJobsOrfaos : Processo Unit := do
  let jobIds ← run .lrange
  jobIds.forM recuperarOrfao

/-! ## The operation -/

/-- `payload[key]`. -/
def getItem (key : String) : Json → Except Erro Json
  | .obj entries =>
    match entries.find? fun x ↦ x.1 = key with
    | some x => .ok x.2
    | none => .error (.keyError key)
  | _ => .error (.outro "TypeError")

/-- `RuntimeError(mensagem)` unless the condition holds. -/
def exigir (c : Prop) [Decidable c] (mensagem : String) : Except Erro Unit :=
  if c then .ok () else .error (.runtimeError mensagem)

/-- The checks on the answer of the adapter. -/
def conferirResultado (cfg : Config) (job : JobAssincrono) (raw : Json) : Except Erro Json := do
  let result ← cfg.modelValidate raw
  let expectedKey ← getItem "idempotency_key" job.payload
  let todo ← getItem "todo" job.payload
  let expectedStatus ← getItem "status" todo
  exigir (result.idempotencyKey = cfg.str expectedKey) "todo_global_adapter_identity_mismatch"
  exigir (result.canonicalStatus = cfg.str expectedStatus) "todo_global_adapter_status_mismatch"
  exigir (result.readbackVerified = true) "todo_global_adapter_readback_not_verified"
  return cfg.modelDump result

/-- `not job.destino_url`. -/
def semUrl (job : JobAssincrono) : Bool := job.destinoUrl.getD "" = ""

/-- `_executar_operacao`. -/
def executarOperacao (cfg : Config) (job : JobAssincrono) : Processo Json := do
  if job.tipoOperacao = .sincronizarTodoGlobal then
    if semUrl job then .raise (.runtimeError "todo_global_adapter_not_configured")
    else
      let raw ← run (.postJson job)
      .ofExcept (conferirResultado cfg job raw)
  else if semUrl job then
    let processedAt ← run .agora
    return .obj [("modo", .str "simulado_dev"), ("destino", .str job.destino),
      ("tipo_operacao", .str job.tipoOperacao.value), ("processed_at", .str processedAt)]
  else run (.postJson job)

/-! ## Processing -/

/-- `atualizar_status(DEAD_LETTER, …)`, `salvar` and `quarentenar`. -/
def moverParaDlq (cfg : Config) (job : JobAssincrono) (erro : String) : Processo Unit := do
  run (.salvar { job with status := .deadLetter, lastError := some (cfg.sanitizarErro erro) })
  run (.quarentenar job.jobId)

/-- The delay of the next attempt. -/
def retryDelay (cfg : Config) (tentativas : ℕ) : ℕ :=
  min (cfg.retryBackoffBase * 2 ^ (tentativas - 1)) cfg.retryBackoffMax

/-- `_registrar_falha`. -/
def registrarFalha (cfg : Config) (job : JobAssincrono) (erro : String) : Processo Unit := do
  if job.maxTentativas ≤ job.tentativas then moverParaDlq cfg job erro
  else
    let retrying := { job with status := .retrying, lastError := some erro }
    run (.salvar retrying)
    match ← (publicar cfg job.jobId (retryDelay cfg job.tentativas)).attempt with
    | .ok _ => return ()
    | .error .queueCapacity => moverParaDlq cfg retrying "retry_queue_capacity_exceeded"
    | .error x => .raise x

/-- `job.atualizar_status(COMPLETED, resultado=resultado)`; `None` leaves the result alone. -/
def concluido (job : JobAssincrono) (resultado : Json) : JobAssincrono :=
  { job with
    status := .completed
    resultado := match resultado with
      | .null => job.resultado
      | r => some r }

/-- The new attempt that `processar_job` stores before it executes it. -/
def novaTentativa (job : JobAssincrono) : JobAssincrono :=
  { job with tentativas := job.tentativas + 1, status := .processing }

/-- `processar_job`, once the attempt is stored. -/
def executarTentativa (cfg : Config) (job : JobAssincrono) : Processo Unit := do
  match ← (executarOperacao cfg job).attempt with
  | .ok resultado => run (.salvar (concluido job resultado))
  | .error x =>
    if x.Tratado then registrarFalha cfg job (cfg.sanitizarErro x.str) else .raise x

/-- `processar_job`. -/
def processarJob (cfg : Config) (jobId : String) : Processo Unit := do
  match ← run (.obter jobId) with
  | none => .raise (.keyError jobId)
  | some job =>
    if job.status.Final then return ()
    else
      run (.salvar (novaTentativa job))
      executarTentativa cfg (novaTentativa job)

/-- `listar`: the jobs of the index, one after the other. -/
def listar : List String → Processo (List JobAssincrono)
  | [] => return []
  | jobId :: jobIds => do
    let job ← run (.obter jobId)
    let jobs ← listar jobIds
    return job.toList ++ jobs

/-- The loop of `recuperar_jobs_pendentes`: it ends at the first publication that is rejected. -/
def republicar (cfg : Config) : List JobAssincrono → Processo Unit
  | [] => return ()
  | job :: jobs => do
    if job.status = .queued then
      match ← (publicar cfg job.jobId 0).attempt with
      | .ok _ => republicar cfg jobs
      | .error .queueCapacity => return ()
      | .error x => .raise x
    else republicar cfg jobs

/-- `recuperar_jobs_pendentes`. -/
def recuperarJobsPendentes (cfg : Config) : Processo Unit := do
  let jobIds ← run .membros
  let jobs ← listar jobIds
  republicar cfg jobs

/-- The loop of `executar_worker_local`, with the number of jobs it takes. -/
def turnos (cfg : Config) (esperas : ℕ) : ℕ → Processo Unit
  | 0 => return ()
  | n + 1 => do
    match ← consumir esperas with
    | none => return ()
    | some posse =>
      let fim ← (processarJob cfg posse.jobId).attempt
      confirmar posse
      match fim with
      | .error .cancelado => .raise .cancelado
      | _ => turnos cfg esperas n

/-- `executar_worker_local`. -/
def executarWorkerLocal (cfg : Config) (esperas n : ℕ) : Processo Unit := do
  recuperarJobsOrfaos
  recuperarJobsPendentes cfg
  turnos cfg esperas n

/-! ## Creation -/

/-- `_gerar_job_id`: the time and a random suffix. -/
def gerarJobId (instante sufixo : String) : String := "JOB-" ++ instante ++ "-" ++ sufixo

/-- `_gerar_todo_job_id`. -/
def gerarTodoJobId (cfg : Config) (eventId : String) : String := "TODOEVENT-" ++ cfg.sha256 eventId

/-- `publicar`, and `remover` if the queue rejects it. -/
def publicarOuRemover (cfg : Config) (jobId : String) : Processo Unit := do
  match ← (publicar cfg jobId 0).attempt with
  | .ok _ => return ()
  | .error .queueCapacity => do
    run (.remover jobId)
    .raise .queueCapacity
  | .error x => .raise x

/-- The job that `criar_job` stores. -/
def novoJob (cfg : Config) (request : AsyncJobCreateRequest) (jobId uuid : String) :
    JobAssincrono where
  jobId
  origem := request.origem
  tipoOperacao := request.tipoOperacao
  destino := request.destino
  payload := request.payload
  correlationId := request.correlationId.getD ("reqsys-" ++ uuid)
  maxTentativas := cfg.maxTentativas
  destinoUrl := request.destinoUrl

/-- `criar_job`. -/
def criarJob (cfg : Config) (request : AsyncJobCreateRequest) : Processo Unit := do
  let uuid ← run .uuid4
  let instante ← run .agora
  let sufixo ← run .uuid4
  let job := novoJob cfg request (gerarJobId instante sufixo) uuid
  run (.salvar job)
  publicarOuRemover cfg job.jobId

/-- The job of an event. -/
def jobDoEvento (cfg : Config) (event : TodoEventV1) : JobAssincrono where
  jobId := gerarTodoJobId cfg event.eventId
  origem := event.producer.getD "todo_event"
  tipoOperacao := .sincronizarTodoGlobal
  destino := "todo_global"
  payload := event.payload
  correlationId := event.correlationId
  maxTentativas := cfg.maxTentativas
  destinoUrl := cfg.todoGlobalAdapterUrl

/-- The answer to a new event. -/
def aceite (cfg : Config) (event : TodoEventV1) : TodoEventAcceptedResponse where
  eventId := event.eventId
  jobId := gerarTodoJobId cfg event.eventId
  correlationId := event.correlationId
  idempotencyKey := event.idempotencyKey
  statusUrl := "/api/todo-events/" ++ event.eventId

/-- The answer to an event that was stored before. -/
def aceiteDuplicado (event : TodoEventV1) (stored : JobAssincrono) (chave : String) :
    TodoEventAcceptedResponse where
  eventId := event.eventId
  jobId := stored.jobId
  status := stored.status
  correlationId := stored.correlationId
  idempotencyKey := chave
  duplicateEvent := true
  statusUrl := "/api/todo-events/" ++ event.eventId
  message := "Evento já persistido; nenhum novo efeito lógico foi criado."

/-- `criar_todo_evento`, when the event is new. -/
def publicarNovo (cfg : Config) (event : TodoEventV1) : Processo Unit := do
  publicarOuRemover cfg (gerarTodoJobId cfg event.eventId)
  run (.responder (aceite cfg event))

/-- The answer from a stored job. -/
def responderDuplicado (cfg : Config) (event : TodoEventV1) (stored : JobAssincrono) :
    Processo Unit := do
  let chave ← .ofExcept (getItem "idempotency_key" stored.payload)
  run (.responder (aceiteDuplicado event stored (cfg.str chave)))

/-- `criar_todo_evento`, with the job that was stored before. -/
def tratarDuplicado (cfg : Config) (event : TodoEventV1) (stored : JobAssincrono) :
    Processo Unit := do
  if !stored.payload.pyEq event.payload then .raise .identityConflict
  else if stored.status = .queued then
    -- the event stays accepted when the queue is full
    match ← (publicar cfg stored.jobId 0).attempt with
    | .ok _ | .error .queueCapacity => responderDuplicado cfg event stored
    | .error x => .raise x
  else responderDuplicado cfg event stored

/-- `criar_todo_evento`, when the event was stored before: `criar_se_ausente` reads the job. -/
def responderExistente (cfg : Config) (event : TodoEventV1) : Processo Unit := do
  match ← run (.obter (gerarTodoJobId cfg event.eventId)) with
  | none => .raise (.keyError (gerarTodoJobId cfg event.eventId))
  | some stored => tratarDuplicado cfg event stored

/-- `criar_todo_evento`. -/
def criarTodoEvento (cfg : Config) (event : TodoEventV1) : Processo Unit := do
  if ← run (.criarSeAusente (jobDoEvento cfg event)) then publicarNovo cfg event
  else responderExistente cfg event

/-! ## Processes -/

/-- What a process does. Redis itself ends leases and the keys of jobs. -/
inductive Pedido
  | criarJob (request : AsyncJobCreateRequest)
  | criarTodoEvento (event : TodoEventV1)
  | worker (esperas n : ℕ)
  | expirar (jobId : String)
  | expirarJob (jobId : String)

def code (cfg : Config) : Pedido → Processo Unit
  | .criarJob request => criarJob cfg request
  | .criarTodoEvento event => criarTodoEvento cfg event
  | .worker esperas n => executarWorkerLocal cfg esperas n
  | .expirar jobId => run (.expirar jobId)
  | .expirarJob jobId => run (.expirarJob jobId)

/-- Redis and the processes running over it. -/
abbrev Processos := Pool Redis (Processo Unit)

/-- A move of the processes, with the outcome it delivers. -/
abbrev Passo := Move Pedido Env × Option (Except Erro Unit)

/-- Any number of processes over one Redis, which is empty at first. -/
def runtime (cfg : Config) : TransitionSystem Processos Passo :=
  Pool.interleaving {} (code cfg) machine

/-! ## A small runtime -/

/-- Three attempts and a queue of two places. The digest is that of `evt-0001`. -/
def sampleConfig : Config where
  maxTentativas := 3
  maxQueueSize := 2
  retryBackoffBase := 1000000
  retryBackoffMax := 60000000
  todoGlobalAdapterUrl := some "https://todo.example"
  modelValidate raw :=
    match getItem "idempotency_key" raw, getItem "canonical_status" raw,
        getItem "readback_verified" raw with
    | .ok (.str key), .ok (.str status), .ok (.bool verified) => .ok ⟨key, status, verified⟩
    | _, _, _ => .error (.valueError "validation error")
  modelDump result := .obj [("idempotency_key", .str result.idempotencyKey),
    ("canonical_status", .str result.canonicalStatus),
    ("readback_verified", .bool result.readbackVerified)]
  str
    | .str s => s
    | _ => ""
  sha256 _ := "71DF1A9D56214F2A11C85DDE083C2A2815FA760AE150B859AA542DB3C47CFCDE"
  sanitizarErro erro := erro

/-- What the adapter answers when all is well. -/
def sampleResposta : Json :=
  .obj [("idempotency_key", .str "k-1"), ("canonical_status", .str "PENDENTE"),
    ("readback_verified", .bool true)]

def sampleEnv : Env where
  uuid4 := "0A1B2C3D"
  instante := "20260105090000"
  resposta := .ok sampleResposta

/-- A request with a destination. -/
def sampleRequest (tipoOperacao : TipoOperacao) : AsyncJobCreateRequest where
  origem := "power_automate"
  tipoOperacao := tipoOperacao
  destino := "reqsys_runtime"
  payload := .obj []
  destinoUrl := some "https://destino.example"

/-- The id that `sampleRequest` gets. -/
def sampleJobId : String := gerarJobId sampleEnv.instante sampleEnv.uuid4

/-- The trace and the processes after moves that may overlap. -/
def sampleRun (moves : List (Move Pedido Env)) : List Passo × Processos :=
  TransitionSystem.runCalls (Pool.move (code sampleConfig) machine) moves ⟨{}, fun _ ↦ none⟩

theorem run_sampleRun (moves : List (Move Pedido Env)) :
    (runtime sampleConfig).Run (sampleRun moves).1 (sampleRun moves).2 :=
  TransitionSystem.run_runCalls _ _ moves

/-- The processes after one more step of process `i`. -/
def sampleNext (p : Processos) (i : ℕ) : Processos :=
  (Pool.move (code sampleConfig) machine (.advance i sampleEnv) p).1

theorem step_sampleNext (p : Processos) (i : ℕ) :
    ∃ m, m.1 = .advance i sampleEnv ∧ (runtime sampleConfig).step p m (sampleNext p i) :=
  ⟨(_, (Pool.move (code sampleConfig) machine (.advance i sampleEnv) p).2), rfl, rfl⟩

/-- Process `i` takes `n` steps. -/
def sampleSteps (i n : ℕ) : List (Move Pedido Env) := List.replicate n (.advance i sampleEnv)

/-- Process `i` starts and takes `n` steps. -/
def sampleStart (i : ℕ) (pedido : Pedido) (n : ℕ) : List (Move Pedido Env) :=
  .start i pedido :: sampleSteps i n

/-- A worker waits, a job is created, and the worker takes and processes it. -/
def sampleProcessed (tipoOperacao : TipoOperacao) : List (Move Pedido Env) :=
  sampleStart 1 (.worker 1 1) 2 ++ sampleStart 0 (.criarJob (sampleRequest tipoOperacao)) 6
    ++ sampleSteps 1 9

end RuntimeJobs

end ReqSys
