import ReqSys.Foundation.Program
import ReqSys.Foundation.PyJson
import ReqSys.Foundation.Table
import Mathlib.Data.List.Sort

/-!
# Runtime jobs: the Redis commands

`JobService` keeps its jobs in one Redis key each and moves their ids between four structures: the
queue, the delayed set, the processing list and the dead letter list. A lease is a key with a time
to live. Every command, script and transaction is one atomic call; between two of them other
processes run.

## What is left to the input

The clock, random ids and what the external operation answers are inputs of a call. So is the order
of `SMEMBERS`, which Redis does not fix. A lease may expire at any time, and so may the key of a
job: `expirar` and `expirarJob` are the calls by which Redis does so. The index keeps the id of a
job whose key has expired.

`postagens` and `respostas` are not in Redis. They record what has left the runtime: the external
operations that were started, each with the attempt it belongs to, and the acceptances that were
answered.
-/

namespace ReqSys

namespace RuntimeJobs

/-! ## Jobs -/

inductive JobStatus
  | queued | processing | completed | retrying | failed | deadLetter
  deriving DecidableEq

/-- A status that `processar_job` does not leave. -/
def JobStatus.Final (s : JobStatus) : Prop := s = .completed ∨ s = .deadLetter

instance : DecidablePred JobStatus.Final := fun s ↦
  inferInstanceAs (Decidable (s = .completed ∨ s = .deadLetter))

inductive TipoOperacao
  | enviarResposta | sincronizarRequisito | notificarStatus | sincronizarTodoGlobal
  deriving DecidableEq

def TipoOperacao.value : TipoOperacao → String
  | enviarResposta => "enviar_resposta"
  | sincronizarRequisito => "sincronizar_requisito"
  | notificarStatus => "notificar_status"
  | sincronizarTodoGlobal => "sincronizar_todo_global"

/-- `JobAssincrono`, without its times of creation and change. -/
structure JobAssincrono where
  jobId : String
  origem : String
  tipoOperacao : TipoOperacao
  destino : String
  payload : Json
  correlationId : String
  maxTentativas : ℤ
  destinoUrl : Option String := none
  status : JobStatus := .queued
  tentativas : ℕ := 0
  lastError : Option String := none
  resultado : Option Json := none

/-- `TodoEventAcceptedResponse`. -/
structure TodoEventAcceptedResponse where
  eventId : String
  jobId : String
  status : JobStatus := .queued
  correlationId : String
  idempotencyKey : String
  duplicateEvent : Bool := false
  statusUrl : String
  message : String := "Evento persistido e aceito para processamento assíncrono."

/-- The exceptions, by the classes that `processar_job` tells apart. -/
inductive Erro
  | httpError (mensagem : String)
  | runtimeError (mensagem : String)
  | valueError (mensagem : String)
  /-- `QueueCapacityError`, a `RuntimeError`. -/
  | queueCapacity
  /-- `TodoEventIdentityConflictError`, a `ValueError`. -/
  | identityConflict
  /-- A `KeyError`; among them `JobNaoEncontradoError`. -/
  | keyError (chave : String)
  /-- Any other `Exception`. -/
  | outro (mensagem : String)
  /-- A `BaseException` that is not an `Exception`, such as a cancellation. -/
  | cancelado
  deriving DecidableEq

/-- `except (httpx.HTTPError, RuntimeError, ValueError)`. -/
def Erro.Tratado : Erro → Prop
  | httpError _ | runtimeError _ | valueError _ | queueCapacity | identityConflict => True
  | keyError _ | outro _ | cancelado => False

instance : DecidablePred Erro.Tratado
  | .httpError _ | .runtimeError _ | .valueError _ | .queueCapacity | .identityConflict =>
    instDecidableTrue
  | .keyError _ | .outro _ | .cancelado => instDecidableFalse

/-- `str(exc)`. -/
def Erro.str : Erro → String
  | httpError m | runtimeError m | valueError m | outro m => m
  | queueCapacity => "queue_capacity_exceeded"
  | identityConflict => "event_id_reused_with_different_payload"
  | keyError chave => "'" ++ chave ++ "'"
  | cancelado => ""

/-! ## The keys -/

/-- The keys of the runtime. The head of a list is its left end. -/
structure Redis where
  jobs : List JobAssincrono := []
  index : List String := []
  queue : List String := []
  delayed : List (String × ℕ) := []
  processing : List String := []
  dlq : List String := []
  leases : List (String × String) := []
  postagens : List (String × ℕ) := []
  respostas : List TodoEventAcceptedResponse := []

namespace Redis

def obter (s : Redis) (jobId : String) : Option JobAssincrono :=
  Table.lookup JobAssincrono.jobId jobId s.jobs

/-- The transaction of `salvar`. -/
def salvar (s : Redis) (job : JobAssincrono) : Redis :=
  { s with
    jobs := Table.upsert JobAssincrono.jobId job (fun _ ↦ job) s.jobs
    index := s.index.insert job.jobId }

/-- The end of the key of a job. -/
def semJob (s : Redis) (jobId : String) : Redis :=
  { s with jobs := s.jobs.filter fun j ↦ j.jobId ≠ jobId }

/-- The transaction of `remover`. -/
def remover (s : Redis) (jobId : String) : Redis :=
  { s.semJob jobId with index := s.index.erase jobId }

/-- `LLEN queue + ZCARD delayed`, as the publishing scripts count. -/
def tamanho (s : Redis) : ℕ := s.queue.length + s.delayed.length

/-- `ZADD`: a member keeps one score. -/
def zadd (s : Redis) (jobId : String) (score : ℕ) : Redis :=
  { s with delayed := (jobId, score) :: s.delayed.filter fun x ↦ x.1 ≠ jobId }

/-- `ZRANGEBYSCORE -inf now LIMIT 0 limit`: by score, then by member. -/
def devidos (s : Redis) (agora limite : ℕ) : List String :=
  (((s.delayed.filter fun x ↦ x.2 ≤ agora).insertionSort
    fun a b ↦ a.2 < b.2 ∨ a.2 = b.2 ∧ a.1 ≤ b.1).take limite).map Prod.fst

/-- One turn of the loop of `_PROMOTE_DELAYED_SCRIPT`. -/
def promoverUm (s : Redis) (jobId : String) : Redis :=
  if s.delayed.any fun x ↦ x.1 = jobId then
    { s with
      delayed := s.delayed.filter fun x ↦ x.1 ≠ jobId
      queue := jobId :: s.queue }
  else s

/-- `_PROMOTE_DELAYED_SCRIPT`. -/
def promover (s : Redis) (agora limite : ℕ) : Redis :=
  (s.devidos agora limite).foldl promoverUm s

/-- `BRPOPLPUSH queue processing`; nothing if the queue stays empty until the timeout. -/
def brpoplpush (s : Redis) : Redis × Option String :=
  match s.queue.getLast? with
  | none => (s, none)
  | some jobId =>
    ({ s with queue := s.queue.dropLast, processing := jobId :: s.processing }, some jobId)

/-- `LREM processing 1 id`: the occurrence nearest to the head. -/
def lrem (s : Redis) (jobId : String) : Redis :=
  { s with processing := s.processing.erase jobId }

/-- The token under which a job is leased. -/
def lease (s : Redis) (jobId : String) : Option String :=
  (Table.lookup Prod.fst jobId s.leases).map Prod.snd

/-- The end of a lease. -/
def semLease (s : Redis) (jobId : String) : Redis :=
  { s with leases := s.leases.filter fun x ↦ x.1 ≠ jobId }

end Redis

/-! ## Commands -/

/-- What a call gets from outside. -/
structure Env where
  /-- `time.time()`, in microseconds. -/
  agora : ℕ := 0
  /-- A random id: a token, or the suffix of a job id. -/
  uuid4 : String := ""
  /-- The time as text. -/
  instante : String := ""
  /-- In which order `SMEMBERS` answers. -/
  ordem : List String := []
  /-- What the external operation answers. -/
  resposta : Except Erro Json := .ok .null

/-- The atomic calls of the runtime. -/
inductive Cmd
  | salvar (job : JobAssincrono)
  /-- `_CREATE_IF_ABSENT_SCRIPT`. -/
  | criarSeAusente (job : JobAssincrono)
  | remover (jobId : String)
  | obter (jobId : String)
  /-- `SMEMBERS` of the index. -/
  | membros
  /-- `_PUBLISH_SCRIPT`. -/
  | publicar (jobId : String) (maxQueueSize : ℕ)
  /-- `_PUBLISH_DELAYED_SCRIPT`. -/
  | publicarAtrasado (jobId : String) (delay maxQueueSize : ℕ)
  /-- `_PROMOTE_DELAYED_SCRIPT`. -/
  | promover (limite : ℕ)
  | brpoplpush
  | uuid4
  | agora
  /-- `SET lease token EX … NX`. -/
  | adquirir (jobId token : String)
  /-- `LREM processing 1 id`, with the number of entries removed. -/
  | lrem (jobId : String)
  | lpush (jobId : String)
  /-- `_RELEASE_LEASE_SCRIPT`. -/
  | liberar (jobId token : String)
  /-- The transaction of `quarentenar`. -/
  | quarentenar (jobId : String)
  /-- `LRANGE processing 0 -1`. -/
  | lrange
  | existeLease (jobId : String)
  | postJson (job : JobAssincrono)
  | responder (resposta : TodoEventAcceptedResponse)
  | expirar (jobId : String)
  | expirarJob (jobId : String)

abbrev Cmd.Ans : Cmd → Type
  | salvar _ => Unit
  | criarSeAusente _ => Bool
  | remover _ => Unit
  | obter _ => Option JobAssincrono
  | membros => List String
  | publicar _ _ => Bool
  | publicarAtrasado _ _ _ => Bool
  | promover _ => Unit
  | brpoplpush => Option String
  | uuid4 => String
  | agora => String
  | adquirir _ _ => Bool
  | lrem _ => ℕ
  | lpush _ => Unit
  | liberar _ _ => Bool
  | quarentenar _ => Unit
  | lrange => List String
  | existeLease _ => Bool
  | postJson _ => Json
  | responder _ => Unit
  | expirar _ => Unit
  | expirarJob _ => Unit

/-- The effect and the answer of a command. -/
def exec : (op : Cmd) → Env → Redis → Redis × Except Erro op.Ans
  | .salvar job, _, s => (s.salvar job, .ok ())
  | .criarSeAusente job, _, s =>
    if (s.obter job.jobId).isSome then (s, .ok false) else (s.salvar job, .ok true)
  | .remover jobId, _, s => (s.remover jobId, .ok ())
  | .obter jobId, _, s => (s, .ok (s.obter jobId))
  | .membros, e, s => (s, .ok (if e.ordem.isPerm s.index then e.ordem else s.index))
  | .publicar jobId maxQueueSize, _, s =>
    if s.tamanho < maxQueueSize then ({ s with queue := jobId :: s.queue }, .ok true)
    else (s, .ok false)
  | .publicarAtrasado jobId delay maxQueueSize, e, s =>
    if s.tamanho < maxQueueSize then (s.zadd jobId (e.agora + delay), .ok true)
    else (s, .ok false)
  | .promover limite, e, s => (s.promover e.agora limite, .ok ())
  | .brpoplpush, _, s => (s.brpoplpush.1, .ok s.brpoplpush.2)
  | .uuid4, e, s => (s, .ok e.uuid4)
  | .agora, e, s => (s, .ok e.instante)
  | .adquirir jobId token, _, s =>
    if (s.lease jobId).isSome then (s, .ok false)
    else ({ s with leases := (jobId, token) :: s.leases }, .ok true)
  | .lrem jobId, _, s => (s.lrem jobId, .ok (if jobId ∈ s.processing then 1 else 0))
  | .lpush jobId, _, s => ({ s with queue := jobId :: s.queue }, .ok ())
  | .liberar jobId token, _, s =>
    if s.lease jobId = some token then (s.semLease jobId, .ok true) else (s, .ok false)
  | .quarentenar jobId, _, s =>
    ({ s.lrem jobId with dlq := jobId :: s.dlq.filter fun x ↦ x ≠ jobId }, .ok ())
  | .lrange, _, s => (s, .ok s.processing)
  | .existeLease jobId, _, s => (s, .ok (s.lease jobId).isSome)
  | .postJson job, e, s =>
    ({ s with postagens := s.postagens ++ [(job.jobId, job.tentativas)] }, e.resposta)
  | .responder resposta, _, s => ({ s with respostas := s.respostas ++ [resposta] }, .ok ())
  | .expirar jobId, _, s => (s.semLease jobId, .ok ())
  | .expirarJob jobId, _, s => (s.semJob jobId, .ok ())

/-- Redis; a process that ends leaves everything as it is. -/
def machine : Machine Cmd.Ans Erro Redis Env where
  exec _ := exec
  close _ s := s

/-! ## What the commands do to the jobs -/

namespace Redis

variable (s : Redis)

theorem obter_salvar (job : JobAssincrono) (jobId : String) :
    (s.salvar job).obter jobId = if jobId = job.jobId then some job else s.obter jobId :=
  Table.lookup_upsert_const job s.jobs

theorem obter_semJob (jobId jobId' : String) :
    (s.semJob jobId').obter jobId = if jobId = jobId' then none else s.obter jobId :=
  Table.lookup_filter_ne jobId jobId' s.jobs

theorem jobId_of_obter {jobId : String} {job : JobAssincrono} (h : s.obter jobId = some job) :
    job.jobId = jobId := Table.key_of_lookup h

/-- Only the structures of the queue may differ. -/
def MesmosJobs (s s' : Redis) : Prop :=
  ∃ queue delayed processing dlq leases, s' = { s with queue, delayed, processing, dlq, leases }

end Redis

/-- A command of the queue: it touches neither the keys of the jobs nor the world outside. -/
def Cmd.Fila : Cmd → Prop
  | salvar _ | criarSeAusente _ | remover _ | obter _ | postJson _ | responder _ | expirarJob _ =>
    False
  | _ => True

/-- **What a command of the queue can do.** -/
theorem mesmosJobs_of_fila {op : Cmd} (h : op.Fila) (e : Env) (s : Redis) :
    s.MesmosJobs (exec op e s).1 := by
  have hpromover : ∀ (jobIds : List String) (s : Redis),
      s.MesmosJobs (jobIds.foldl Redis.promoverUm s) := by
    intro jobIds
    induction jobIds with
    | nil => exact fun s ↦ ⟨_, _, _, _, _, rfl⟩
    | cons jobId jobIds ih =>
      intro s
      obtain ⟨_, _, _, _, _, hrest⟩ := ih (s.promoverUm jobId)
      rw [List.foldl_cons, hrest, Redis.promoverUm]
      split <;> exact ⟨_, _, _, _, _, rfl⟩
  cases op with
  | salvar | criarSeAusente | remover | obter | postJson | responder | expirarJob => exact h.elim
  | promover limite => exact hpromover _ s
  | brpoplpush =>
    rw [exec, Redis.brpoplpush]
    split <;> exact ⟨_, _, _, _, _, rfl⟩
  | publicar | publicarAtrasado | adquirir | liberar =>
    rw [exec]
    split <;> exact ⟨_, _, _, _, _, rfl⟩
  | _ => exact ⟨_, _, _, _, _, rfl⟩

/-- The operations started so far, before and after a command. -/
theorem postagens_exec (op : Cmd) (e : Env) (s : Redis) :
    (exec op e s).1.postagens = s.postagens ∨ ∃ job, op = .postJson job ∧
      (exec op e s).1.postagens = s.postagens ++ [(job.jobId, job.tentativas)] := by
  by_cases hfila : op.Fila
  · obtain ⟨_, _, _, _, _, hexec⟩ := mesmosJobs_of_fila hfila e s
    rw [hexec]
    exact .inl rfl
  · cases op with
    | postJson job => exact .inr ⟨job, rfl, rfl⟩
    | criarSeAusente job =>
      left
      rw [exec]
      split <;> rfl
    | salvar | remover | obter | responder | expirarJob => exact .inl rfl
    | _ => exact absurd trivial hfila

/-- The acceptances answered so far, before and after a command. -/
theorem respostas_exec (op : Cmd) (e : Env) (s : Redis) :
    (exec op e s).1.respostas = s.respostas ∨ ∃ r, op = .responder r ∧
      (exec op e s).1.respostas = s.respostas ++ [r] := by
  by_cases hfila : op.Fila
  · obtain ⟨_, _, _, _, _, hexec⟩ := mesmosJobs_of_fila hfila e s
    rw [hexec]
    exact .inl rfl
  · cases op with
    | responder r => exact .inr ⟨r, rfl, rfl⟩
    | criarSeAusente job =>
      left
      rw [exec]
      split <;> rfl
    | salvar | remover | obter | postJson | expirarJob => exact .inl rfl
    | _ => exact absurd trivial hfila

/-- **What a command can do to a job.** It leaves it alone, stores it, or takes it away. -/
theorem obter_exec_cases (op : Cmd) (e : Env) (s : Redis) (jobId : String) :
    (exec op e s).1.obter jobId = s.obter jobId ∨
    (∃ job, job.jobId = jobId ∧ (op = .salvar job ∨ op = .criarSeAusente job ∧
      s.obter jobId = none) ∧ (exec op e s).1.obter jobId = some job) ∨
    (op = .remover jobId ∨ op = .expirarJob jobId) ∧ (exec op e s).1.obter jobId = none := by
  have hkept : op.Fila → (exec op e s).1.obter jobId = s.obter jobId := by
    intro hfila
    obtain ⟨_, _, _, _, _, hexec⟩ := mesmosJobs_of_fila hfila e s
    rw [hexec]
    rfl
  have hstored : ∀ job : JobAssincrono, (s.salvar job).obter jobId = s.obter jobId ∨
      job.jobId = jobId ∧ (s.salvar job).obter jobId = some job := by
    intro job
    rw [Redis.obter_salvar]
    by_cases hid : jobId = job.jobId
    · exact .inr ⟨hid.symm, if_pos hid⟩
    · exact .inl (if_neg hid)
  have hgone : ∀ jobId', (s.semJob jobId').obter jobId = s.obter jobId ∨
      jobId' = jobId ∧ (s.semJob jobId').obter jobId = none := by
    intro jobId'
    rw [Redis.obter_semJob]
    by_cases hid : jobId = jobId'
    · exact .inr ⟨hid.symm, if_pos hid⟩
    · exact .inl (if_neg hid)
  cases op with
  | salvar job =>
    exact (hstored job).imp_right fun h ↦ .inl ⟨job, h.1, .inl rfl, h.2⟩
  | criarSeAusente job =>
    rw [exec]
    split
    · exact .inl rfl
    next habsent =>
      refine (hstored job).imp_right fun h ↦ .inl ⟨job, h.1, .inr ⟨rfl, ?_⟩, h.2⟩
      rw [h.1] at habsent
      exact Option.not_isSome_iff_eq_none.mp habsent
  | remover jobId' =>
    refine (hgone jobId').imp_right fun h ↦ .inr ⟨.inl ?_, h.2⟩
    rw [h.1]
  | expirarJob jobId' =>
    refine (hgone jobId').imp_right fun h ↦ .inr ⟨.inr ?_, h.2⟩
    rw [h.1]
  | obter | postJson | responder => exact .inl rfl
  | _ => exact .inl (hkept trivial)

end RuntimeJobs

end ReqSys
