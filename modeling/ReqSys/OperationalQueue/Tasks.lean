import Mathlib
import ReqSys.Foundation.PyJson
import ReqSys.Foundation.Table
import ReqSys.Foundation.TransitionSystem

/-!
# Operational queue: tasks and the queue in memory

A task carries its own state: its status, how often it was taken, and when it may be taken again.
The provider in memory keeps the tasks, a queue of their ids and an index of idempotency keys; every
method holds one lock, so it is one step.

Times are in microseconds. A new task is pending and was never taken; that is how the API builds it.
-/

namespace ReqSys

namespace OperationalQueue

/-! ## Tasks -/

inductive OperationalTaskStatus
  | pending | running | completed | failed | deadLetter
  deriving DecidableEq

/-- A status after which a task is not worked on any more. -/
def OperationalTaskStatus.Final (st : OperationalTaskStatus) : Prop :=
  st = .completed ∨ st = .deadLetter

instance : DecidablePred OperationalTaskStatus.Final := fun st ↦
  inferInstanceAs (Decidable (st = .completed ∨ st = .deadLetter))

inductive OperationalTaskType
  | requirementAnalysis | bddGeneration | qaValidation | githubAutomation | teamsNotification
  | emailReport | generic
  deriving DecidableEq

def OperationalTaskType.value : OperationalTaskType → String
  | requirementAnalysis => "requirement_analysis"
  | bddGeneration => "bdd_generation"
  | qaValidation => "qa_validation"
  | githubAutomation => "github_automation"
  | teamsNotification => "teams_notification"
  | emailReport => "email_report"
  | generic => "generic"

/-- `OperationalTask`, without its time of creation. -/
structure OperationalTask where
  taskType : OperationalTaskType
  payload : List (String × Json)
  correlationId : String
  idempotencyKey : Option String := none
  maxAttempts : ℤ := 3
  taskId : String
  status : OperationalTaskStatus := .pending
  attempts : ℕ := 0
  updatedAt : ℕ := 0
  nextAttemptAt : Option ℕ := none
  lastError : Option String := none
  result : Option Json := none

/-- A task as it is built: pending, and never taken. -/
structure NovaTarefa where
  task : OperationalTask
  pending : task.status = .pending
  attempts : task.attempts = 0
  nextAttemptAt : task.nextAttemptAt = none

/-- The key under which a task is idempotent; an empty key is none. -/
def OperationalTask.chave (task : OperationalTask) : Option String :=
  task.idempotencyKey.filter fun key ↦ key ≠ ""

inductive Erro
  /-- `OperationalQueueUnavailableError`. -/
  | indisponivel (mensagem : String)
  /-- `OperationalTaskIdentityConflictError`. -/
  | identityConflict
  | keyError (taskId : String)
  /-- The `RuntimeError` of an execution. -/
  | runtimeError (mensagem : String)
  /-- What the Redis client raises. -/
  | redis (mensagem : String)
  deriving DecidableEq

/-- `str(exc)`. -/
def Erro.str : Erro → String
  | indisponivel m | runtimeError m | redis m => m
  | identityConflict => "idempotency_key_reused_with_different_task_intent"
  | keyError taskId => "'" ++ taskId ++ "'"

/-- `_retry_delay_seconds`, of a base that is not negative. -/
def retryDelay (base attempts : ℕ) : ℕ := base * 2 ^ (attempts - 1)

/-- `_same_task_intent`. -/
def sameTaskIntent (existing incoming : OperationalTask) : Bool :=
  existing.taskType = incoming.taskType
    && Json.pyEq (.obj existing.payload) (.obj incoming.payload)
    && existing.maxAttempts = incoming.maxAttempts

/-- What `dequeue` makes of a task. -/
def OperationalTask.reservada (task : OperationalTask) (now : ℕ) : OperationalTask :=
  { task with
    status := .running
    attempts := task.attempts + 1
    nextAttemptAt := none
    updatedAt := now }

/-- What `complete` makes of a task. -/
def OperationalTask.concluida (task : OperationalTask) (result : Json) (now : ℕ) :
    OperationalTask :=
  { task with status := .completed, result := some result, updatedAt := now }

/-! ## The queue in memory -/

/-- The state of `OperationalQueue`. The head of the queue is its left end. -/
structure Memoria where
  queue : List String := []
  tasks : List OperationalTask := []
  idempotencyIndex : List (String × String) := []

namespace Memoria

/-- `get`. -/
def get (s : Memoria) (taskId : String) : Option OperationalTask :=
  Table.lookup OperationalTask.taskId taskId s.tasks

/-- A task is changed in place. -/
def change (s : Memoria) (taskId : String) (f : OperationalTask → OperationalTask) : Memoria :=
  { s with tasks := Table.update OperationalTask.taskId taskId f s.tasks }

/-- `enqueue`, of a task whose key is not known. -/
def insere (s : Memoria) (task : OperationalTask) : Memoria where
  queue := s.queue ++ [task.taskId]
  tasks := Table.upsert OperationalTask.taskId task (fun _ ↦ task) s.tasks
  idempotencyIndex :=
    match task.chave with
    | none => s.idempotencyIndex
    | some key => Table.put s.idempotencyIndex (key, task.taskId)

/-- `enqueue`. -/
def enqueue (task : OperationalTask) (s : Memoria) : Memoria × Except Erro OperationalTask :=
  match task.chave.bind fun key ↦ Table.get? key s.idempotencyIndex with
  | none => (s.insere task, .ok task)
  | some existingId =>
    match s.get existingId with
    | none => (s, .error (.keyError existingId))
    | some existing =>
      if sameTaskIntent existing task then (s, .ok existing) else (s, .error .identityConflict)

/-- The loop of `dequeue`, with the number of turns left. It starts with one turn for every id, so
it never pops from an empty queue. -/
def turnos (now : ℕ) : ℕ → Memoria → Memoria × Option OperationalTask
  | 0, s => (s, none)
  | n + 1, s =>
    match s.queue with
    | [] => (s, none)
    | taskId :: rest =>
      match s.get taskId with
      | none => turnos now n { s with queue := rest }
      | some task =>
        if task.status = .pending then
          if task.nextAttemptAt.any fun t ↦ now < t then
            turnos now n { s with queue := rest ++ [taskId] }
          else
            ({ s with queue := rest }.change taskId fun t ↦ t.reservada now,
              some (task.reservada now))
        else turnos now n { s with queue := rest }

/-- `dequeue`. -/
def dequeue (now : ℕ) (s : Memoria) : Memoria × Option OperationalTask :=
  turnos now s.queue.length s

/-- `complete`. -/
def complete (taskId : String) (result : Json) (now : ℕ) (s : Memoria) :
    Memoria × Except Erro Unit :=
  match s.get taskId with
  | none => (s, .error (.keyError taskId))
  | some _ => (s.change taskId fun t ↦ t.concluida result now, .ok ())

/-- `fail`, in memory: the task is given up, or scheduled again. -/
def falha (base : ℕ) (error : String) (now : ℕ) (task : OperationalTask) : OperationalTask :=
  if task.maxAttempts ≤ task.attempts then
    { task with lastError := some error, updatedAt := now, status := .deadLetter }
  else
    { task with
      lastError := some error
      updatedAt := now
      status := .pending
      nextAttemptAt := some (now + retryDelay base task.attempts) }

/-- `fail`. -/
def fail (base : ℕ) (taskId error : String) (now : ℕ) (s : Memoria) : Memoria × Except Erro Unit :=
  match s.get taskId with
  | none => (s, .error (.keyError taskId))
  | some task =>
    if task.maxAttempts ≤ task.attempts then
      (s.change taskId fun t ↦ falha base error now t, .ok ())
    else
      ({ s with queue := s.queue ++ [taskId] }.change taskId fun t ↦ falha base error now t, .ok ())

end Memoria

/-- The calls of the queue in memory, with the times they read. -/
inductive Chamada
  | enqueue (nova : NovaTarefa)
  | dequeue (now : ℕ)
  | complete (taskId : String) (result : Json) (now : ℕ)
  | fail (taskId error : String) (now : ℕ)

/-- What a call does, and the task it returns if any. -/
def Memoria.exec (base : ℕ) : Chamada → Memoria → Memoria × Except Erro (Option OperationalTask)
  | .enqueue nova, s => ((s.enqueue nova.task).1, (s.enqueue nova.task).2.map some)
  | .dequeue now, s => ((s.dequeue now).1, .ok (s.dequeue now).2)
  | .complete taskId result now, s =>
    ((s.complete taskId result now).1, (s.complete taskId result now).2.map fun _ ↦ none)
  | .fail taskId error now, s =>
    ((s.fail base taskId error now).1, (s.fail base taskId error now).2.map fun _ ↦ none)

/-- How the queue is used: ids are fresh, and only running tasks are completed or failed. -/
def Chamada.Permitida (s : Memoria) : Chamada → Prop
  | enqueue nova => s.get nova.task.taskId = none
  | dequeue _ => True
  | complete taskId _ _ | fail taskId _ _ => (s.get taskId).any fun t ↦ t.status = .running

instance (s : Memoria) : DecidablePred (Chamada.Permitida s)
  | .enqueue nova => decidable_of_iff ((s.get nova.task.taskId).isNone = true)
      Option.isNone_iff_eq_none
  | .dequeue _ => instDecidableTrue
  | .complete _ _ _ | .fail _ _ _ => inferInstanceAs (Decidable (_ = true))

/-- Any sequence of such calls. -/
def emMemoria (base : ℕ) :
    TransitionSystem Memoria (Chamada × Except Erro (Option OperationalTask)) :=
  (TransitionSystem.ofExec {} (Memoria.exec base)).restrict fun s a ↦ a.1.Permitida s

end OperationalQueue

end ReqSys
