import ReqSys.OperationalQueue.Streams

/-!
# Operational queue: the provider on Redis Streams and its workers

`enqueue`, `dequeue`, `complete` and `fail` send several commands each, and `OperationalWorker` and
`OperationalRecoveryWorker` call them. The recovery does not go through `dequeue`: it claims pending
messages that are idle, links them to their tasks, and executes the tasks as it finds them.
-/

namespace ReqSys

namespace OperationalQueue

/-- `retryBase` is the base of the delays, which is not negative, in microseconds. -/
structure Config where
  sha256 : String → String
  retryBase : ℕ
  /-- `batch_size` of the recovery. -/
  batchSize : ℕ

abbrev Processo := Program Cmd.Ans Erro

/-- One command. -/
def run (op : Cmd) : Processo op.Ans := .perform op

/-- `except Exception as exc: raise OperationalQueueUnavailableError(f'{texto}: {exc}')`, after an
`except` that lets some exceptions through. -/
def embrulhar {α : Type} (passa : Erro → Bool) (texto : String) (p : Processo α) : Processo α := do
  match ← p.attempt with
  | .ok a => return a
  | .error x => .raise (if passa x then x else .indisponivel (texto ++ ": " ++ x.str))

/-- `except Exception`, of every exception. -/
def nenhum (_ : Erro) : Bool := false

def Erro.Indisponivel : Erro → Bool
  | indisponivel _ => true
  | _ => false

/-! ## The provider -/

/-- `_ensure_group`. -/
def ensureGroup : Processo Unit :=
  embrulhar nenhum "Redis Streams indisponível" (run .ensureGroup)

/-- `get`. -/
def get (taskId : String) : Processo (Option OperationalTask) :=
  if taskId = "" then return none
  else embrulhar nenhum "Falha ao consultar tarefa no Redis" (run (.get taskId))

/-- `enqueue`, once the key is taken. -/
def criar (task : OperationalTask) : Processo OperationalTask := do
  run (.criar task)
  return task

/-- `enqueue`, when the key was taken before. -/
def existente (cfg : Config) (task : OperationalTask) (key : String) :
    Processo OperationalTask := do
  match ← run (.getIndex (cfg.sha256 key)) with
  | none => .raise (.indisponivel "Índice de idempotência inconsistente no Redis")
  | some existingId =>
    match ← get existingId with
    | none => .raise (.indisponivel "Índice de idempotência inconsistente no Redis")
    | some existing =>
      if sameTaskIntent existing task then return existing else .raise .identityConflict

/-- The body of `enqueue`. -/
def inserir (cfg : Config) (task : OperationalTask) : Processo OperationalTask :=
  match task.chave with
  | none => criar task
  | some key => do
    if ← run (.setnx (cfg.sha256 key) task) then criar task else existente cfg task key

/-- `enqueue`. -/
def enqueue (cfg : Config) (task : OperationalTask) : Processo OperationalTask := do
  ensureGroup
  embrulhar (fun x ↦ x.Indisponivel || x = .identityConflict)
    "Falha ao enfileirar no Redis Streams" (inserir cfg task)

/-- One turn of the loop of `_promote_due_retries`. -/
def promover (taskId : String) : Processo Unit := do
  if ← run (.zrem taskId) then run (.xadd taskId) else return ()

/-- `_promote_due_retries`. -/
def promoteDueRetries : Processo Unit := do
  let now ← run .now
  let taskIds ← run (.zrangebyscore now)
  taskIds.forM promover

/-- `dequeue`, with the message that was read. -/
def receber (message : ℕ) (taskId : String) : Processo (Option OperationalTask) := do
  match ← get taskId with
  | none => do
    run (.xack message)
    return none
  | some task => do
    let now ← run .now
    run (.reservar (task.reservada now) message)
    return some (task.reservada now)

/-- The body of `dequeue`. -/
def retirar : Processo (Option OperationalTask) := do
  promoteDueRetries
  match ← run .xreadgroup with
  | none => return none
  | some (message, taskId) => receber message taskId

/-- `dequeue`. -/
def dequeue : Processo (Option OperationalTask) := do
  ensureGroup
  embrulhar Erro.Indisponivel "Falha ao consumir Redis Streams" retirar

/-- `complete`. -/
def complete (taskId : String) (result : Json) : Processo Unit := do
  match ← get taskId with
  | none => .raise (.keyError taskId)
  | some task => do
    let now ← run .now
    let message ← run (.hget taskId)
    embrulhar nenhum "Falha ao confirmar tarefa no Redis Streams"
      (run (.concluir (task.concluida result now) message))

/-- `fail`, on a task with attempts left: the task as it is stored. -/
def reagendada (cfg : Config) (error : String) (now : ℕ) (task : OperationalTask) :
    OperationalTask :=
  { task with
    lastError := some error
    updatedAt := now
    status := .pending
    nextAttemptAt := some (now + retryDelay cfg.retryBase task.attempts) }

/-- `fail`, on a task without: the task as it is stored. -/
def descartada (error : String) (now : ℕ) (task : OperationalTask) : OperationalTask :=
  { task with
    lastError := some error
    updatedAt := now
    status := .deadLetter
    nextAttemptAt := none }

/-- Its entry in the dead letter stream. -/
def entradaDlq (error : String) (now : ℕ) (task : OperationalTask) : EntradaDlq where
  taskId := task.taskId
  correlationId := task.correlationId
  attempts := task.attempts
  failedAt := now
  error := error

/-- The transaction of `fail`. -/
def registrarFalha (cfg : Config) (error : String) (now : ℕ) (task : OperationalTask)
    (message : Option ℕ) : Processo Unit :=
  if task.maxAttempts ≤ task.attempts then
    run (.descartar (descartada error now task) (entradaDlq error now task) message)
  else
    run (.reagendar (reagendada cfg error now task) (now + retryDelay cfg.retryBase task.attempts)
      message)

/-- `fail`. -/
def fail (cfg : Config) (taskId error : String) : Processo Unit := do
  match ← get taskId with
  | none => .raise (.keyError taskId)
  | some task => do
    let now ← run .now
    let message ← run (.hget taskId)
    embrulhar nenhum "Falha ao registrar retry/DLQ no Redis Streams"
      (registrarFalha cfg error now task message)

/-! ## The workers -/

/-- `execute_operational_task` and `complete`; whatever they raise goes to `fail`. -/
def processar (cfg : Config) (task : OperationalTask) (recuperada : Bool) : Processo Unit := do
  let fim ← Program.attempt do
    let result ← run (.executar task recuperada)
    complete task.taskId result
  match fim with
  | .ok _ => return ()
  | .error x => fail cfg task.taskId x.str

/-- `OperationalWorker.run_once`. -/
def workerRunOnce (cfg : Config) : Processo Unit := do
  match ← dequeue with
  | none => return ()
  | some task => processar cfg task false

/-- One turn of the loop of `OperationalRecoveryWorker.run_once`. -/
def recuperar (cfg : Config) (x : ℕ × String) : Processo Unit := do
  if x.2 = "" then run (.xack x.1)
  else
    match ← get x.2 with
    | none => run (.xack x.1)
    | some task => do
      run (.hset x.2 x.1)
      processar cfg task true

/-- `OperationalRecoveryWorker.run_once`. -/
def recoveryRunOnce (cfg : Config) : Processo Unit := do
  ensureGroup
  let messages ← embrulhar nenhum "Falha ao recuperar mensagens abandonadas no Redis Streams"
    (run (.xautoclaim cfg.batchSize))
  messages.forM (recuperar cfg)

/-! ## Processes -/

/-- What a process does. -/
inductive Pedido
  | enqueue (nova : NovaTarefa)
  | dequeue
  | complete (taskId : String) (result : Json)
  | fail (taskId error : String)
  | worker
  | recovery

/-- A program that returns no task. -/
def semTarefa (p : Processo Unit) : Processo (Option OperationalTask) := do
  p
  return none

def code (cfg : Config) : Pedido → Processo (Option OperationalTask)
  | .enqueue nova => do
    let task ← enqueue cfg nova.task
    return some task
  | .dequeue => dequeue
  | .complete taskId result => semTarefa (complete taskId result)
  | .fail taskId error => semTarefa (fail cfg taskId error)
  | .worker => semTarefa (workerRunOnce cfg)
  | .recovery => semTarefa (recoveryRunOnce cfg)

/-- Redis and the processes running over it. -/
abbrev Processos := Pool Streams (Processo (Option OperationalTask))

/-- A move of the processes, with the outcome it delivers. -/
abbrev Passo (κ : Type) := Move κ Env × Option (Except Erro (Option OperationalTask))

/-- Any number of processes over one Redis, which is empty at first. -/
def fila (cfg : Config) : TransitionSystem Processos (Passo Pedido) :=
  Pool.interleaving {} (code cfg) machine

/-- What a process does when only the two workers take tasks. -/
inductive Turno
  | enqueue (nova : NovaTarefa)
  | worker
  | recovery

def Turno.pedido : Turno → Pedido
  | enqueue nova => .enqueue nova
  | worker => .worker
  | recovery => .recovery

/-- Producers, workers and recoveries, any number of each. -/
def trabalho (cfg : Config) : TransitionSystem Processos (Passo Turno) :=
  Pool.interleaving {} (fun c ↦ code cfg c.pedido) machine

/-! ## A small queue -/

/-- The digest is that of `k-1`. -/
def sampleConfig : Config where
  sha256 _ := "7c35c5a1785d20704e44d5de4beb81c1fce91b6fe48ed7c3159af6f7f832078b"
  retryBase := 1000000
  batchSize := 10

/-- A task under the key `k-1`. -/
def sampleNova (payload : List (String × Json)) (maxAttempts : ℤ) : NovaTarefa where
  task :=
    { taskType := .generic
      payload := payload
      correlationId := "corr-1"
      idempotencyKey := some "k-1"
      maxAttempts := maxAttempts
      taskId := "t-1" }
  pending := rfl
  attempts := rfl
  nextAttemptAt := rfl

/-- The payload of a task whose execution raises. -/
def sampleErro : List (String × Json) := [("force_error", .bool true)]

/-- A time at which a first retry is due, with the first message idle. -/
def sampleEnv : Env where
  now := 2000000
  instante := "1970-01-01T00:00:02+00:00"
  ociosas := [0]

section Sample

variable {κ : Type}

/-- Process `i` takes `n` steps. -/
def sampleSteps (i n : ℕ) (e : Env) : List (Move κ Env) := List.replicate n (.advance i e)

/-- Process `i` starts and takes `n` steps. -/
def sampleStart (i : ℕ) (c : κ) (n : ℕ) (e : Env) : List (Move κ Env) :=
  .start i c :: sampleSteps i n e

end Sample

/-- The trace and the processes after moves that may overlap. -/
def sampleRun (moves : List (Move Pedido Env)) : List (Passo Pedido) × Processos :=
  TransitionSystem.runCalls (Pool.move (code sampleConfig) machine) moves ⟨{}, fun _ ↦ none⟩

theorem run_sampleRun (moves : List (Move Pedido Env)) :
    (fila sampleConfig).Run (sampleRun moves).1 (sampleRun moves).2 :=
  TransitionSystem.run_runCalls _ _ moves

/-- The same, of producers, workers and recoveries. -/
def sampleWork (moves : List (Move Turno Env)) : List (Passo Turno) × Processos :=
  TransitionSystem.runCalls (Pool.move (fun c : Turno ↦ code sampleConfig c.pedido) machine) moves
    ⟨{}, fun _ ↦ none⟩

theorem run_sampleWork (moves : List (Move Turno Env)) :
    (trabalho sampleConfig).Run (sampleWork moves).1 (sampleWork moves).2 :=
  TransitionSystem.run_runCalls _ _ moves

/-- The processes after one more step of process `i`. -/
def sampleNext (p : Processos) (i : ℕ) : Processos :=
  (Pool.move (fun c : Turno ↦ code sampleConfig c.pedido) machine (.advance i sampleEnv) p).1

theorem step_sampleNext (p : Processos) (i : ℕ) :
    ∃ m, m.1 = .advance i sampleEnv ∧ (trabalho sampleConfig).step p m (sampleNext p i) :=
  ⟨(_, (Pool.move (fun c : Turno ↦ code sampleConfig c.pedido) machine
    (.advance i sampleEnv) p).2), rfl, rfl⟩

end OperationalQueue

end ReqSys
