import ReqSys.Central.Models
import ReqSys.Foundation.Table
import Mathlib.Data.List.Sort

/-!
# The Central: the store and the admission policy

`CentralStore` has two implementations. Their atomic calls are given here side by side: they keep
the same requests and the same current evidence, and differ in the order of `listar`, in what
reading a stored request checks, in the history of evidence and in whether a write can give up.

* In memory the history entry of an invalidated record is overwritten, and it is the last entry of
  its request, since every record is appended when it becomes current. In Redis the invalidation is
  appended as an entry of its own.
* Redis stores text, so a request is validated again each time it is read.
* A compare-and-swap in Redis that conflicts five times raises. Whether it does is decided by the
  other replicas, hence part of the input `Env` of the call.

Mutators are data: the service passes three of them to `atualizar`, and `Mutator.apply` is what each
does to the current request.

`WipPolicy.plan` decides which root causes occupy the slots.
-/

namespace ReqSys

namespace Central

/-! ## Mutators -/

/-- The functions passed to `atualizar`. -/
inductive Mutator
  /-- `_promover(item, destino)`. -/
  | promover (destino : WorkRequestStatus)
  /-- The closure of `transicionar`. -/
  | transicionar (novoStatus : WorkRequestStatus) (blocker nextAction : Option String)
  /-- The closure of `registrar_evidencia`, over `entrada.sha` and `registro.status`. -/
  | alinhar (sha : String) (registroStatus : EvidenceStatus)

/-- `_promover`. -/
def promover (atual : WorkRequest) (destino : WorkRequestStatus) (agora : DateTime) :
    WorkRequest :=
  if destino = .admitted ∧ atual.status ∈ [.received, .queued] then
    { atual with status := destino, updatedAt := agora }
  else if destino = .queued ∧ atual.status = .received then
    { atual with status := destino, updatedAt := agora }
  else atual

/-- The mutator of `transicionar`. -/
def mudarStatus (atual : WorkRequest) (novoStatus : WorkRequestStatus)
    (blocker nextAction : Option String) (agora : DateTime) : Except CentralError WorkRequest :=
  if novoStatus ∉ atual.status.transicoes then
    .error (.invalidTransition ("transição " ++ atual.status.value ++ " -> " ++ novoStatus.value
      ++ " não permitida"))
  else if novoStatus = .blocked then
    if !(PyText.truthy blocker && PyText.truthy nextAction) then
      .error (.invalidTransition "bloqueio exige blocker e next_action")
    else .ok { atual with status := novoStatus, updatedAt := agora, blocker, nextAction }
  else .ok { atual with status := novoStatus, updatedAt := agora, blocker := none, nextAction }

/-- The mutator of `registrar_evidencia`. -/
def alinhar (atual : WorkRequest) (sha : String) (registroStatus : EvidenceStatus)
    (agora : DateTime) : WorkRequest :=
  if atual.status ∈ WorkRequestStatus.active ∧ registroStatus ≠ .blocked then
    { atual with sha := some sha, updatedAt := agora, status := .awaitingEvidence }
  else { atual with sha := some sha, updatedAt := agora }

def Mutator.apply : Mutator → DateTime → WorkRequest → Except CentralError WorkRequest
  | promover destino, agora, atual => .ok (Central.promover atual destino agora)
  | transicionar novo blocker nextAction, agora, atual =>
    mudarStatus atual novo blocker nextAction agora
  | alinhar sha registroStatus, agora, atual => .ok (Central.alinhar atual sha registroStatus agora)

theorem promover_requestId (atual : WorkRequest) (destino : WorkRequestStatus) (agora : DateTime) :
    (promover atual destino agora).requestId = atual.requestId := by
  unfold promover
  split_ifs <;> rfl

theorem alinhar_requestId (atual : WorkRequest) (sha : String) (st : EvidenceStatus)
    (agora : DateTime) : (alinhar atual sha st agora).requestId = atual.requestId := by
  unfold alinhar
  split_ifs <;> rfl

/-- An accepted transition is one of the table, and leaves everything but the status, its reasons
and the time alone. -/
theorem mudarStatus_eq_ok {atual novo : WorkRequest} {status : WorkRequestStatus}
    {blocker nextAction : Option String} {agora : DateTime}
    (h : mudarStatus atual status blocker nextAction agora = .ok novo) :
    status ∈ atual.status.transicoes ∧ ∃ b,
      novo = { atual with status := status, updatedAt := agora, blocker := b, nextAction } := by
  unfold mudarStatus at h
  split_ifs at h with htrans hblocked hreason
  all_goals
    refine ⟨htrans, ?_⟩
    cases h
    exact ⟨_, rfl⟩

theorem Mutator.apply_requestId {m : Mutator} {agora : DateTime} {atual novo : WorkRequest}
    (h : m.apply agora atual = .ok novo) : novo.requestId = atual.requestId := by
  cases m with
  | promover destino =>
    cases h
    exact promover_requestId atual destino agora
  | alinhar sha st =>
    cases h
    exact alinhar_requestId atual sha st agora
  | transicionar status blocker nextAction =>
    obtain ⟨-, b, rfl⟩ := mudarStatus_eq_ok h
    rfl

/-! ## The store -/

inductive Backend
  | memory | redis
  deriving DecidableEq

structure Store where
  /-- One request for each id, in order of creation. -/
  requests : List WorkRequest := []
  /-- The current evidence, one record for each request. -/
  evidencia : List EvidenceRecord := []
  historico : List EvidenceRecord := []

/-- What a call gets from outside: the clock, whether the other replicas make a compare-and-swap
give up, and what the executor returns or raises. -/
structure Env where
  agora : DateTime
  conflito : Bool := false
  execucao : Except Excecao ExecutionResult := .error { classe := "NotImplementedError" }

namespace Store

variable (b : Backend) (s : Store)

/-- Reading a stored request: Redis validates the text. -/
def ler (r : WorkRequest) : Except CentralError WorkRequest :=
  if b = .redis ∧ r.accepted = false then .error (.validation "WorkRequest") else .ok r

theorem ler_eq_ok {b : Backend} {r r' : WorkRequest} (h : ler b r = .ok r') : r' = r := by
  unfold ler at h
  split_ifs at h
  cases h
  rfl

/-- The request stored under an id. -/
def find (requestId : String) : Option WorkRequest :=
  Table.lookup WorkRequest.requestId requestId s.requests

def obter (requestId : String) : Except CentralError (Option WorkRequest) :=
  match s.find requestId with
  | none => .ok none
  | some r => (ler b r).map some

/-- In memory the order of creation, in Redis the order of the ids. -/
def listar : Except CentralError (List WorkRequest) :=
  match b with
  | .memory => .ok s.requests
  | .redis => (s.requests.insertionSort fun r r' ↦ r.requestId ≤ r'.requestId).mapM (ler b)

def criarSeAusente (solicitacao : WorkRequest) :
    Store × Except CentralError (WorkRequest × Bool) :=
  match s.find solicitacao.requestId with
  | some existente => (s, (ler b existente).map fun r ↦ (r, false))
  | none => ({ s with requests := s.requests ++ [solicitacao] }, .ok (solicitacao, true))

/-- Replace the request stored under an id. -/
def escrever (requestId : String) (novo : WorkRequest) : Store :=
  { s with requests := Table.update WorkRequest.requestId requestId (fun _ ↦ novo) s.requests }

/-- Read, apply the mutator, write. -/
def atualizar (requestId : String) (m : Mutator) (e : Env) :
    Store × Except CentralError (Option WorkRequest) :=
  if b = .redis ∧ e.conflito = true then
    (s, .error (.concurrentUpdate ("não foi possível atualizar " ++ requestId ++ " sem conflito")))
  else
    match s.find requestId with
    | none => (s, .ok none)
    | some raw =>
      match ler b raw >>= m.apply e.agora with
      | .error x => (s, .error x)
      | .ok novo => (s.escrever requestId novo, .ok (some novo))

def obterEvidencia (requestId : String) : Option EvidenceRecord :=
  Table.lookup EvidenceRecord.requestId requestId s.evidencia

/-- Overwrite the last entry of a request. -/
def substituirUltimo (requestId : String) (novo : EvidenceRecord) (l : List EvidenceRecord) :
    List EvidenceRecord :=
  match l.reverse.findIdx? (fun r ↦ r.requestId = requestId) with
  | none => l
  | some i => (l.reverse.set i novo).reverse

/-- The history once an application of evidence is recorded. -/
def anexar (a : EvidenceApplication) (l : List EvidenceRecord) : List EvidenceRecord :=
  match b with
  | .memory =>
    (match a.anteriorInvalidado with
      | none => l
      | some antigo => substituirUltimo antigo.requestId antigo l) ++ [a.registro]
  | .redis => l ++ a.anteriorInvalidado.toList ++ [a.registro]

/-- Make a record current and note it in the history. -/
def gravar (a : EvidenceApplication) : Store :=
  { s with
    evidencia := Table.upsert EvidenceRecord.requestId a.registro (fun _ ↦ a.registro) s.evidencia
    historico := anexar b a s.historico }

def registrarEvidencia (entrada : EvidenceRecordInput) (e : Env) :
    Store × Except CentralError EvidenceRecord :=
  if b = .redis ∧ e.conflito = true then
    (s, .error (.concurrentUpdate ("não foi possível registrar evidência de "
      ++ entrada.requestId)))
  else
    let aplicacao := aplicarEvidencia (s.obterEvidencia entrada.requestId) entrada e.agora
    (s.gravar b aplicacao, .ok aplicacao.registro)

def historicoEvidencia (requestId : String) : List EvidenceRecord :=
  s.historico.filter fun r ↦ r.requestId = requestId

def statusEvidencia (requestId : String) (sha : Option String) : EvidenceStatus :=
  statusValidoParaSha (s.obterEvidencia requestId) sha

end Store

/-! ## Atomic calls -/

/-- The atomic calls of a service method: those of the store, and the executor of a worker. -/
inductive StoreOp
  | criarSeAusente (solicitacao : WorkRequest)
  | obter (requestId : String)
  | listar
  | atualizar (requestId : String) (m : Mutator)
  | registrarEvidencia (entrada : EvidenceRecordInput)
  | obterEvidencia (requestId : String)
  | historicoEvidencia (requestId : String)
  | statusEvidencia (requestId : String) (sha : Option String)
  /-- `adaptador.executar`: what it returns or raises. -/
  | executar (solicitacao : WorkRequest)

/-- The answer of a call. -/
abbrev StoreOp.Ans : StoreOp → Type
  | criarSeAusente _ => WorkRequest × Bool
  | obter _ => Option WorkRequest
  | listar => List WorkRequest
  | atualizar _ _ => Option WorkRequest
  | registrarEvidencia _ => EvidenceRecord
  | obterEvidencia _ => Option EvidenceRecord
  | historicoEvidencia _ => List EvidenceRecord
  | statusEvidencia _ _ => EvidenceStatus
  | executar _ => Except Excecao ExecutionResult

/-- The effect and the answer of a call. -/
def exec (b : Backend) : (op : StoreOp) → Env → Store → Store × Except CentralError op.Ans
  | .criarSeAusente r, _, s => s.criarSeAusente b r
  | .obter q, _, s => (s, s.obter b q)
  | .listar, _, s => (s, s.listar b)
  | .atualizar q m, e, s => s.atualizar b q m e
  | .registrarEvidencia entrada, e, s => s.registrarEvidencia b entrada e
  | .obterEvidencia q, _, s => (s, .ok (s.obterEvidencia q))
  | .historicoEvidencia q, _, s => (s, .ok (s.historicoEvidencia q))
  | .statusEvidencia q sha, _, s => (s, .ok (s.statusEvidencia q sha))
  | .executar _, e, s => (s, .ok e.execucao)

/-! ## The admission policy -/

structure RootCauseSlot where
  rootCauseId : String
  priority : Priority
  oldestCreatedAt : DateTime
  requestIds : List String
  deriving DecidableEq

structure AdmissionPlan where
  maxActiveRootCauses : ℕ
  admittedSlots : List RootCauseSlot
  queuedSlots : List RootCauseSlot
  wipBreach : Bool

/-- `admitted_request_ids`. -/
def AdmissionPlan.admittedRequestIds (p : AdmissionPlan) : List String :=
  p.admittedSlots.flatMap RootCauseSlot.requestIds

/-- `queued_request_ids`. -/
def AdmissionPlan.queuedRequestIds (p : AdmissionPlan) : List String :=
  p.queuedSlots.flatMap RootCauseSlot.requestIds

namespace WipPolicy

/-- The sort key of the requests of one cause. -/
def ordemItem (a b : WorkRequest) : Bool :=
  ((compare a.priority.ordem b.priority.ordem).then <|
    (compare a.createdAt.toMicros b.createdAt.toMicros).then (compare a.requestId b.requestId)).isLE

/-- `_ordem`. -/
def ordem (a b : RootCauseSlot) : Bool :=
  ((compare a.priority.ordem b.priority.ordem).then <|
    (compare a.oldestCreatedAt.toMicros b.oldestCreatedAt.toMicros).then
      (compare a.rootCauseId b.rootCauseId)).isLE

/-- The earlier of two instants. -/
def earlier (a b : DateTime) : DateTime := if a ≤ b then a else b

/-- `_montar_slot`. The requests of a cause are never empty. -/
def montarSlot (causa : String) (itens : List WorkRequest) : Option RootCauseSlot :=
  match itens.insertionSort (fun a b ↦ ordemItem a b = true) with
  | [] => none
  | primeiro :: demais =>
    some {
      rootCauseId := causa
      priority := primeiro.priority
      oldestCreatedAt := demais.foldl (fun d r ↦ earlier d r.createdAt) primeiro.createdAt
      requestIds := (primeiro :: demais).map WorkRequest.requestId }

/-- Active, or waiting for admission. -/
def elegivel (r : WorkRequest) : Bool :=
  WorkRequestStatus.active.contains r.status || r.status = .received || r.status = .queued

/-- The causes of a list of requests, in the order they first appear. -/
def causas (requests : List WorkRequest) : List String :=
  (requests.map WorkRequest.rootCauseId).reverse.dedup.reverse

/-- `plan`. -/
def plan (limite : ℕ) (requests : List WorkRequest) : AdmissionPlan :=
  let elegiveis := requests.filter elegivel
  let slots := ((causas elegiveis).filterMap fun c ↦
      montarSlot c (elegiveis.filter fun r ↦ r.rootCauseId = c)).insertionSort
    fun a b ↦ ordem a b = true
  let ativas := (requests.filter fun r ↦ WorkRequestStatus.active.contains r.status).map
    WorkRequest.rootCauseId
  let emAndamento := slots.filter fun t ↦ ativas.contains t.rootCauseId
  let candidatas := slots.filter fun t ↦ !ativas.contains t.rootCauseId
  let vagasLivres := limite - emAndamento.length
  { maxActiveRootCauses := limite
    admittedSlots := emAndamento ++ candidatas.take vagasLivres
    queuedSlots := candidatas.drop vagasLivres
    wipBreach := limite < emAndamento.length }

end WipPolicy

end Central

end ReqSys
