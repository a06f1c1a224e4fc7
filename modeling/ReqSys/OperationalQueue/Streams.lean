import ReqSys.Foundation.Program
import ReqSys.OperationalQueue.Tasks
import Mathlib.Data.List.Sort

/-!
# Operational queue: the commands of Redis Streams

The durable provider keeps a task in one key and its id in a stream, read by one consumer group. A
message that was delivered stays pending until it is acknowledged; a task that is tried again waits
in the retry set until `dequeue` moves it back to the stream. Every command and every transaction is
one atomic call; between two of them other processes run.

## What is left to the input

The clock is an input of a call, and so is which pending messages have been idle for long enough
when `XAUTOCLAIM` looks. Any command may fail: the connection breaks before the command reaches
Redis, or after it took effect and before the answer came back. Either way the client raises.

A message is named by its place in the stream. `execucoes` and `reservas` are not in Redis. They
record which tasks were executed before they were finished, each time with the attempts counted so
far, and which task took each idempotency key.
-/

namespace ReqSys

namespace OperationalQueue

/-! ## The keys -/

/-- An entry of the dead letter stream; `failedAt` is the time whose text it holds. -/
structure EntradaDlq where
  taskId : String
  correlationId : String
  attempts : ℕ
  failedAt : ℕ
  error : String

/-- The keys of the provider. -/
structure Streams where
  tasks : List OperationalTask := []
  idempotency : List (String × String) := []
  stream : List String := []
  /-- How many messages the group has delivered. -/
  entregues : ℕ := 0
  /-- The messages that were delivered and are not acknowledged. -/
  pel : List ℕ := []
  retry : List (String × ℕ) := []
  processing : List (String × ℕ) := []
  dlq : List EntradaDlq := []
  execucoes : List (String × ℕ) := []
  reservas : List (String × OperationalTask) := []

namespace Streams

/-- `GET` of a task. -/
def get (s : Streams) (taskId : String) : Option OperationalTask :=
  Table.lookup OperationalTask.taskId taskId s.tasks

/-- `SET` of a task. -/
def set (s : Streams) (task : OperationalTask) : Streams :=
  { s with tasks := Table.upsert OperationalTask.taskId task (fun _ ↦ task) s.tasks }

/-- `XADD`. -/
def xadd (s : Streams) (taskId : String) : Streams := { s with stream := s.stream ++ [taskId] }

/-- `XACK`. -/
def xack (s : Streams) (message : ℕ) : Streams :=
  { s with pel := s.pel.filter fun m ↦ m ≠ message }

/-- `XACK` if there is a message, and `HDEL`. -/
def confirmar (s : Streams) (taskId : String) (message : Option ℕ) : Streams :=
  { message.elim s s.xack with processing := s.processing.filter fun x ↦ x.1 ≠ taskId }

/-- `ZADD`: a member keeps one score. -/
def zadd (s : Streams) (taskId : String) (score : ℕ) : Streams :=
  { s with retry := (taskId, score) :: s.retry.filter fun x ↦ x.1 ≠ taskId }

/-- `ZREM`. -/
def zrem (s : Streams) (taskId : String) : Streams :=
  { s with retry := s.retry.filter fun x ↦ x.1 ≠ taskId }

/-- `ZRANGEBYSCORE -inf now LIMIT 0 100`: by score, then by member. -/
def devidos (s : Streams) (now : ℕ) : List String :=
  (((s.retry.filter fun x ↦ x.2 ≤ now).insertionSort
    fun a b ↦ a.2 < b.2 ∨ a.2 = b.2 ∧ a.1 ≤ b.1).take 100).map Prod.fst

/-- `XREADGROUP … COUNT 1 … >`: the next message, with its field. -/
def xreadgroup (s : Streams) : Streams × Option (ℕ × String) :=
  match s.stream[s.entregues]? with
  | none => (s, none)
  | some taskId =>
    ({ s with entregues := s.entregues + 1, pel := s.pel ++ [s.entregues] },
      some (s.entregues, taskId))

/-- `XAUTOCLAIM`: pending messages that are idle, with their fields. -/
def xautoclaim (s : Streams) (ociosas : List ℕ) (count : ℕ) : List (ℕ × String) :=
  ((s.pel.filter fun m ↦ m ∈ ociosas).take count).filterMap fun m ↦ s.stream[m]?.map fun id ↦ (m, id)

end Streams

/-! ## Commands -/

/-- An error of the connection. -/
structure Falha where
  /-- The command took effect. -/
  aplicada : Bool
  mensagem : String

/-- What a call gets from outside. -/
structure Env where
  /-- `datetime.now(UTC)`, in microseconds. -/
  now : ℕ := 0
  /-- The time as text. -/
  instante : String := ""
  /-- The messages that are idle. -/
  ociosas : List ℕ := []
  falha : Option Falha := none

/-- The atomic calls of the provider and its workers. -/
inductive Cmd
  /-- `PING` and `XGROUP CREATE`. -/
  | ensureGroup
  /-- `SET index task_id NX`. -/
  | setnx (digest : String) (task : OperationalTask)
  /-- `GET` of the index. -/
  | getIndex (digest : String)
  | get (taskId : String)
  /-- The transaction of `enqueue`. -/
  | criar (task : OperationalTask)
  | zrangebyscore (now : ℕ)
  | zrem (taskId : String)
  | xadd (taskId : String)
  | xreadgroup
  | xack (message : ℕ)
  /-- The transaction of `dequeue`. -/
  | reservar (task : OperationalTask) (message : ℕ)
  | hget (taskId : String)
  | hset (taskId : String) (message : ℕ)
  /-- The transaction of `complete`. -/
  | concluir (task : OperationalTask) (message : Option ℕ)
  /-- The transaction of `fail`, with attempts left. -/
  | reagendar (task : OperationalTask) (score : ℕ) (message : Option ℕ)
  /-- The transaction of `fail`, without. -/
  | descartar (task : OperationalTask) (entrada : EntradaDlq) (message : Option ℕ)
  | xautoclaim (count : ℕ)
  | now
  /-- `execute_operational_task`, by a worker or by the recovery. -/
  | executar (task : OperationalTask) (recuperada : Bool)

abbrev Cmd.Ans : Cmd → Type
  | ensureGroup => Unit
  | setnx _ _ => Bool
  | getIndex _ => Option String
  | get _ => Option OperationalTask
  | criar _ => Unit
  | zrangebyscore _ => List String
  | zrem _ => Bool
  | xadd _ => Unit
  | xreadgroup => Option (ℕ × String)
  | xack _ => Unit
  | reservar _ _ => Unit
  | hget _ => Option ℕ
  | hset _ _ => Unit
  | concluir _ _ => Unit
  | reagendar _ _ _ => Unit
  | descartar _ _ _ => Unit
  | xautoclaim _ => List (ℕ × String)
  | now => ℕ
  | executar _ _ => Json

/-- A call that does not reach Redis. -/
def Cmd.Local : Cmd → Prop
  | now | executar _ _ => True
  | _ => False

instance : DecidablePred Cmd.Local
  | .now | .executar _ _ => instDecidableTrue
  | .ensureGroup | .setnx _ _ | .getIndex _ | .get _ | .criar _ | .zrangebyscore _ | .zrem _
  | .xadd _ | .xreadgroup | .xack _ | .reservar _ _ | .hget _ | .hset _ _ | .concluir _ _
  | .reagendar _ _ _ | .descartar _ _ _ | .xautoclaim _ => instDecidableFalse

/-- `payload.get(key)`. -/
def payloadGet (key : String) (task : OperationalTask) : Option Json :=
  (task.payload.find? fun x ↦ x.1 = key).map Prod.snd

/-- `payload.get('force_error') is True`. -/
def forceError (task : OperationalTask) : Bool :=
  match payloadGet "force_error" task with
  | some (.bool true) => true
  | _ => false

/-- `execute_operational_task`. -/
def executeOperationalTask (task : OperationalTask) (instante : String) : Except Erro Json :=
  let action :=
    if task.taskType = .generic then (payloadGet "action" task).getD (.str "noop")
    else .str task.taskType.value
  if forceError task then .error (.runtimeError "erro operacional simulado para validar retry/dlq")
  else .ok (.obj [("schema_version", .str "1.0.0"), ("status", .str "processed"),
    ("action", action), ("correlation_id", .str task.correlationId),
    ("processed_at", .str instante)])

/-- The task is stored with a final status. -/
def Streams.Encerrada (s : Streams) (taskId : String) : Prop :=
  (s.get taskId).any fun t ↦ t.status.Final

instance (s : Streams) (taskId : String) : Decidable (s.Encerrada taskId) :=
  inferInstanceAs (Decidable (_ = true))

/-- The effect and the answer of a command that gets through. -/
def efeito : (op : Cmd) → Env → Streams → Streams × Except Erro op.Ans
  | .ensureGroup, _, s => (s, .ok ())
  | .setnx digest task, _, s =>
    if (Table.get? digest s.idempotency).isSome then (s, .ok false)
    else
      ({ s with
        idempotency := s.idempotency ++ [(digest, task.taskId)]
        reservas := s.reservas ++ [(digest, task)] }, .ok true)
  | .getIndex digest, _, s => (s, .ok (Table.get? digest s.idempotency))
  | .get taskId, _, s => (s, .ok (s.get taskId))
  | .criar task, _, s => ((s.set task).xadd task.taskId, .ok ())
  | .zrangebyscore now, _, s => (s, .ok (s.devidos now))
  | .zrem taskId, _, s => (s.zrem taskId, .ok (s.retry.any fun x ↦ x.1 = taskId))
  | .xadd taskId, _, s => (s.xadd taskId, .ok ())
  | .xreadgroup, _, s => (s.xreadgroup.1, .ok s.xreadgroup.2)
  | .xack message, _, s => (s.xack message, .ok ())
  | .reservar task message, _, s =>
    ({ s.set task with processing := Table.put s.processing (task.taskId, message) }, .ok ())
  | .hget taskId, _, s => (s, .ok (Table.get? taskId s.processing))
  | .hset taskId message, _, s =>
    ({ s with processing := Table.put s.processing (taskId, message) }, .ok ())
  | .concluir task message, _, s => ((s.set task).confirmar task.taskId message, .ok ())
  | .reagendar task score message, _, s =>
    (((s.set task).zadd task.taskId score).confirmar task.taskId message, .ok ())
  | .descartar task entrada message, _, s =>
    ({ (s.set task).confirmar task.taskId message with dlq := s.dlq ++ [entrada] }, .ok ())
  | .xautoclaim count, e, s => (s, .ok (s.xautoclaim e.ociosas count))
  | .now, e, s => (s, .ok e.now)
  | .executar task _, e, s =>
    (if s.Encerrada task.taskId then s
      else { s with execucoes := s.execucoes ++ [(task.taskId, task.attempts)] },
      executeOperationalTask task e.instante)

/-- A command, through a connection that may fail. -/
def exec (op : Cmd) (e : Env) (s : Streams) : Streams × Except Erro op.Ans :=
  match e.falha with
  | none => efeito op e s
  | some f =>
    if op.Local then efeito op e s
    else (if f.aplicada then (efeito op e s).1 else s, .error (.redis f.mensagem))

/-- Redis; a process that ends leaves everything as it is. -/
def machine : Machine Cmd.Ans Erro Streams Env where
  exec _ := exec
  close _ s := s

/-! ## What the commands do -/

/-- The answer of a command is lost. -/
def Env.Perde (e : Env) : Prop := ∃ f ∈ e.falha, f.aplicada = true

/-- A command does not reach Redis. -/
def Env.Impede (e : Env) : Prop := ∃ f ∈ e.falha, f.aplicada = false

/-- **What a call can do.** It gets through, or its answer is lost, or it does not reach Redis. -/
theorem exec_cases (op : Cmd) (e : Env) (s : Streams) :
    exec op e s = efeito op e s ∨
    (e.Perde ∧ ∃ m, exec op e s = ((efeito op e s).1, .error (.redis m))) ∨
    (e.Impede ∧ ∃ m, exec op e s = (s, .error (.redis m))) := by
  rw [exec]
  split
  · exact .inl rfl
  next f hf =>
    split
    · exact .inl rfl
    · right
      cases haplicada : f.aplicada with
      | true => exact .inl ⟨⟨f, hf, haplicada⟩, f.mensagem, rfl⟩
      | false => exact .inr ⟨⟨f, hf, haplicada⟩, f.mensagem, rfl⟩

theorem exec_fst (op : Cmd) (e : Env) (s : Streams) :
    (exec op e s).1 = s ∨ (exec op e s).1 = (efeito op e s).1 := by
  obtain h | ⟨-, m, h⟩ | ⟨-, m, h⟩ := exec_cases op e s
  · exact .inr (congrArg Prod.fst h)
  · rw [h]
    exact .inr rfl
  · rw [h]
    exact .inl rfl

/-- What a call answers is an error of the connection, or the answer of the command. -/
theorem exec_snd (op : Cmd) (e : Env) (s : Streams) :
    (exec op e s).2 = (efeito op e s).2 ∨ ∃ m, (exec op e s).2 = .error (.redis m) := by
  obtain h | ⟨-, m, h⟩ | ⟨-, m, h⟩ := exec_cases op e s
  · exact .inl (congrArg Prod.snd h)
  all_goals
    rw [h]
    exact .inr ⟨m, rfl⟩

namespace Streams

variable (s : Streams)

theorem get_set (task : OperationalTask) (taskId : String) :
    (s.set task).get taskId = if taskId = task.taskId then some task else s.get taskId :=
  Table.lookup_upsert_const task s.tasks

theorem taskId_of_get {taskId : String} {task : OperationalTask} (h : s.get taskId = some task) :
    task.taskId = taskId := Table.key_of_lookup h

@[simp] theorem get_xack (message : ℕ) : (s.xack message).get = s.get := rfl

@[simp] theorem get_confirmar (taskId : String) (message : Option ℕ) :
    (s.confirmar taskId message).get = s.get := by
  cases message <;> rfl

@[simp] theorem stream_confirmar (taskId : String) (message : Option ℕ) :
    (s.confirmar taskId message).stream = s.stream := by
  cases message <;> rfl

@[simp] theorem entregues_confirmar (taskId : String) (message : Option ℕ) :
    (s.confirmar taskId message).entregues = s.entregues := by
  cases message <;> rfl

@[simp] theorem retry_confirmar (taskId : String) (message : Option ℕ) :
    (s.confirmar taskId message).retry = s.retry := by
  cases message <;> rfl

end Streams

end OperationalQueue

end ReqSys
