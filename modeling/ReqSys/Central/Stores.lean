import ReqSys.Foundation.Checked
import ReqSys.Central.Store

/-!
# The Central: the two stores

`InMemoryCentralStore` and `RedisCentralStore` of `central_store.py`, each over its own structures
and for arbitrary mutators, run one call after the other. The module promises the same semantics
for both.

They differ in three places.

* Redis keeps text and validates a request whenever it reads it, so a request that a mutator took out
  of its constraints can no longer be read there.
* When evidence of another commit arrives, the memory store overwrites the history entry of the
  invalidated record while Redis appends the invalidation as an entry of its own.
* The key of the history of `q` is the key of the record of `q:history`. The one is a list and the
  other a text, and Redis refuses to read either as the other.

`stores_agree_iff` says that nothing else separates them: for clients that use a given set of ids,
every query has the same answer on both after a sequence of calls exactly when no call of the
sequence did one of the three.

In memory, the current record of a request and its entry in the history are the same object, which
is how the entry is found again. The current evidence is therefore kept as its place in the history.
-/

namespace ReqSys

namespace Central

/-- A mutator passed to `atualizar`. -/
abbrev Mutacao := WorkRequest → Except CentralError WorkRequest

/-! ## In memory -/

/-- The state of `InMemoryCentralStore`. -/
structure InMemoryCentralStore where
  requests : List (String × WorkRequest) := []
  /-- The place of the current record of a request in the history. -/
  evidencia : List (String × ℕ) := []
  historico : List EvidenceRecord := []

namespace InMemoryCentralStore

variable (m : InMemoryCentralStore)

def obter (requestId : String) : Option WorkRequest := Table.get? requestId m.requests

def listar : List WorkRequest := m.requests.map Prod.snd

def criarSeAusente (solicitacao : WorkRequest) : InMemoryCentralStore × (WorkRequest × Bool) :=
  match m.obter solicitacao.requestId with
  | some existente => (m, existente, false)
  | none =>
    ({ m with requests := Table.put m.requests (solicitacao.requestId, solicitacao) },
      solicitacao, true)

def atualizar (requestId : String) (mutator : Mutacao) :
    InMemoryCentralStore × Except CentralError (Option WorkRequest) :=
  match m.obter requestId with
  | none => (m, .ok none)
  | some atual =>
    match mutator atual with
    | .error x => (m, .error x)
    | .ok novo => ({ m with requests := Table.put m.requests (requestId, novo) }, .ok (some novo))

def obterEvidencia (requestId : String) : Option EvidenceRecord :=
  (Table.get? requestId m.evidencia).bind fun place ↦ m.historico[place]?

def historicoEvidencia (requestId : String) : List EvidenceRecord :=
  m.historico.filter fun r ↦ r.requestId = requestId

def statusEvidencia (requestId : String) (sha : Option String) : EvidenceStatus :=
  statusValidoParaSha (m.obterEvidencia requestId) sha

/-- The history with the entry of the previous record overwritten, if it was invalidated. -/
def invalidar (requestId : String) (anterior : Option EvidenceRecord) : List EvidenceRecord :=
  match Table.get? requestId m.evidencia, anterior with
  | some place, some antigo => m.historico.set place antigo
  | _, _ => m.historico

def registrarEvidencia (entrada : EvidenceRecordInput) (agora : DateTime) :
    InMemoryCentralStore × EvidenceRecord :=
  let aplicacao := aplicarEvidencia (m.obterEvidencia entrada.requestId) entrada agora
  let historico := m.invalidar entrada.requestId aplicacao.anteriorInvalidado
  ({ m with evidencia := Table.put m.evidencia (entrada.requestId, historico.length)
            historico := historico ++ [aplicacao.registro] }, aplicacao.registro)

end InMemoryCentralStore

/-! ## In Redis -/

/-- The error of a command on a key that holds a value of another kind. -/
structure WrongType where
  key : String

/-- The state of `RedisCentralStore`: its four kinds of keys. -/
structure RedisCentralStore where
  requests : List (String × WorkRequest) := []
  /-- The set of the ids. -/
  index : List String := []
  evidencia : List (String × EvidenceRecord) := []
  history : List (String × List EvidenceRecord) := []

namespace RedisCentralStore

variable (r : RedisCentralStore)

/-- `WorkRequest.model_validate_json`. -/
def validar (w : WorkRequest) : Except CentralError WorkRequest :=
  if w.accepted then .ok w else .error (.validation "WorkRequest")

def obter (requestId : String) : Except CentralError (Option WorkRequest) :=
  match Table.get? requestId r.requests with
  | none => .ok none
  | some w => (validar w).map some

/-- The index without the ids that have no request, which `listar` removes, and the requests. -/
def listar : RedisCentralStore × Except CentralError (List WorkRequest) :=
  let ordenados := r.index.insertionSort (· ≤ ·)
  match (ordenados.filterMap fun q ↦ Table.get? q r.requests).mapM validar with
  | .error x => (r, .error x)
  | .ok solicitacoes =>
    ({ r with index := r.index.filter fun q ↦ (Table.get? q r.requests).isSome }, .ok solicitacoes)

/-- `SADD`. -/
def sadd (requestId : String) (index : List String) : List String :=
  if requestId ∈ index then index else index ++ [requestId]

/-- Write a request and its id. -/
def criar (solicitacao : WorkRequest) : RedisCentralStore :=
  { r with requests := Table.put r.requests (solicitacao.requestId, solicitacao)
           index := sadd solicitacao.requestId r.index }

def criarSeAusente (solicitacao : WorkRequest) :
    RedisCentralStore × Except CentralError (WorkRequest × Bool) :=
  match Table.get? solicitacao.requestId r.requests with
  | none => (r.criar solicitacao, .ok (solicitacao, true))
  | some _ =>
    match r.obter solicitacao.requestId with
    | .error x => (r, .error x)
    | .ok (some existente) => (r, .ok (existente, false))
    | .ok none => (r.criar solicitacao, .ok (solicitacao, true))

def atualizar (requestId : String) (mutator : Mutacao) :
    RedisCentralStore × Except CentralError (Option WorkRequest) :=
  match Table.get? requestId r.requests with
  | none => (r, .ok none)
  | some raw =>
    match validar raw >>= mutator with
    | .error x => (r, .error x)
    | .ok novo => ({ r with requests := Table.put r.requests (requestId, novo) }, .ok (some novo))

/-- The id whose record has the key of the history of `q`. -/
def historyId (q : String) : String := q ++ ":history"

/-- The key of the record of `q` holds a history. -/
def holdsList (q : String) : Prop := ∃ e ∈ r.history, historyId e.1 = q

instance (q : String) : Decidable (r.holdsList q) :=
  inferInstanceAs (Decidable (∃ e ∈ r.history, _))

/-- The key of the history of `q` holds a record. -/
def holdsRecord (q : String) : Prop := (Table.get? (historyId q) r.evidencia).isSome = true

instance (q : String) : Decidable (r.holdsRecord q) := inferInstanceAs (Decidable (_ = true))

def obterEvidencia (requestId : String) : Except WrongType (Option EvidenceRecord) :=
  if r.holdsList requestId then .error ⟨requestId⟩ else .ok (Table.get? requestId r.evidencia)

/-- The entries under a history key. -/
def entradas (requestId : String) : List EvidenceRecord := (Table.get? requestId r.history).getD []

def historicoEvidencia (requestId : String) : Except WrongType (List EvidenceRecord) :=
  if r.holdsRecord requestId then .error ⟨historyId requestId⟩ else .ok (r.entradas requestId)

def statusEvidencia (requestId : String) (sha : Option String) :
    Except WrongType EvidenceStatus :=
  (r.obterEvidencia requestId).map fun registro ↦ statusValidoParaSha registro sha

def registrarEvidencia (entrada : EvidenceRecordInput) (agora : DateTime) :
    RedisCentralStore × Except WrongType EvidenceRecord :=
  match r.obterEvidencia entrada.requestId with
  | .error x => (r, .error x)
  | .ok anterior =>
    let aplicacao := aplicarEvidencia anterior entrada agora
    let evidencia := Table.put r.evidencia (entrada.requestId, aplicacao.registro)
    -- a transaction goes on after a command that failed, so the record is written in any case
    if r.holdsRecord entrada.requestId then
      ({ r with evidencia }, .error ⟨historyId entrada.requestId⟩)
    else
      let entradas := r.entradas entrada.requestId ++ aplicacao.anteriorInvalidado.toList
        ++ [aplicacao.registro]
      ({ r with evidencia, history := Table.put r.history (entrada.requestId, entradas) },
        .ok aplicacao.registro)

end RedisCentralStore

/-! ## Sequences of calls -/

/-- The writing calls of the store; `agora` is the reading of the clock. -/
inductive StoreCall
  | criarSeAusente (solicitacao : WorkRequest)
  | atualizar (requestId : String) (mutator : Mutacao)
  | registrarEvidencia (entrada : EvidenceRecordInput) (agora : DateTime)

def InMemoryCentralStore.exec (m : InMemoryCentralStore) : StoreCall → InMemoryCentralStore
  | .criarSeAusente solicitacao => (m.criarSeAusente solicitacao).1
  | .atualizar q mutator => (m.atualizar q mutator).1
  | .registrarEvidencia entrada agora => (m.registrarEvidencia entrada agora).1

def RedisCentralStore.exec (r : RedisCentralStore) : StoreCall → RedisCentralStore
  | .criarSeAusente solicitacao => (r.criarSeAusente solicitacao).1
  | .atualizar q mutator => (r.atualizar q mutator).1
  | .registrarEvidencia entrada agora => (r.registrarEvidencia entrada agora).1

/-- The request a call is about. -/
def StoreCall.requestId : StoreCall → String
  | criarSeAusente solicitacao => solicitacao.requestId
  | atualizar q _ => q
  | registrarEvidencia entrada _ => entrada.requestId

/-- Every query about one of the ids has the same answer on both stores, and so has `listar`, as a
set. -/
structure Agree (ids : Set String) (m : InMemoryCentralStore) (r : RedisCentralStore) : Prop where
  obter : ∀ q ∈ ids, r.obter q = .ok (m.obter q)
  listar : ∃ l, r.listar.2 = .ok l ∧ ∀ w, w ∈ l ↔ w ∈ m.listar
  obterEvidencia : ∀ q ∈ ids, r.obterEvidencia q = .ok (m.obterEvidencia q)
  statusEvidencia : ∀ q ∈ ids, ∀ sha, r.statusEvidencia q sha = .ok (m.statusEvidencia q sha)
  historicoEvidencia : ∀ q ∈ ids, r.historicoEvidencia q = .ok (m.historicoEvidencia q)

/-- No id in use shares a key with the evidence of `q`. -/
def Separate (ids : Set String) (q : String) : Prop :=
  RedisCentralStore.historyId q ∉ ids ∧ ∀ q' ∈ ids, RedisCentralStore.historyId q' ≠ q

/-- The call stores no request outside the constraints of the model; evidence it records is for the
commit of the current record, if there is one, and no other id in use shares its keys. -/
def StoreCall.Plain (ids : Set String) (m : InMemoryCentralStore) : StoreCall → Prop
  | .criarSeAusente solicitacao =>
    m.obter solicitacao.requestId = none → solicitacao.accepted = true
  | .atualizar q mutator =>
    ∀ atual novo, m.obter q = some atual → mutator atual = .ok novo → novo.accepted = true
  | .registrarEvidencia entrada _ => Separate ids entrada.requestId ∧
    ∀ anterior, m.obterEvidencia entrada.requestId = some anterior → anterior.sha = entrada.sha

/-- All calls of a sequence are plain, each in the state before it. -/
def AllPlain (ids : Set String) : InMemoryCentralStore → List StoreCall → Prop
  | _, [] => True
  | m, c :: cs => c.Plain ids m ∧ AllPlain ids (m.exec c) cs

/-! ## The history in memory -/

variable {ids : Set String} {m : InMemoryCentralStore} {r : RedisCentralStore}

/-- The current record of a request stands in the history under that request. -/
def InMemoryCentralStore.Anchored (m : InMemoryCentralStore) : Prop :=
  ∀ q place, Table.get? q m.evidencia = some place →
    ∃ registro, m.historico[place]? = some registro ∧ registro.requestId = q

theorem invalidado_requestId {anterior : Option EvidenceRecord} {entrada : EvidenceRecordInput}
    {antigo : EvidenceRecord} (h : invalidado anterior entrada = some antigo) :
    ∃ a, anterior = some a ∧ antigo.requestId = a.requestId ∧ a.sha ≠ entrada.sha := by
  cases anterior with
  | none => cases h
  | some a =>
    rw [invalidado] at h
    split at h
    · cases h
    next hsha =>
      cases h
      exact ⟨a, rfl, rfl, hsha⟩

/-- Overwriting the entry of an invalidated record keeps the request of every entry. -/
theorem map_requestId_invalidar (h : m.Anchored) (entrada : EvidenceRecordInput) :
    (m.invalidar entrada.requestId
      (invalidado (m.obterEvidencia entrada.requestId) entrada)).map EvidenceRecord.requestId
      = m.historico.map EvidenceRecord.requestId := by
  unfold InMemoryCentralStore.invalidar
  split
  next place antigo hplace hantigo =>
    obtain ⟨registro, hregistro, -⟩ := h _ _ hplace
    obtain ⟨a, ha, hsame, -⟩ := invalidado_requestId hantigo
    rw [InMemoryCentralStore.obterEvidencia, hplace, Option.bind_some, hregistro] at ha
    obtain rfl : registro = a := Option.some.inj ha
    have hget : (m.historico.map EvidenceRecord.requestId)[place]? = some registro.requestId := by
      rw [List.getElem?_map, hregistro, Option.map_some]
    obtain ⟨hlt, heq⟩ := List.getElem?_eq_some_iff.mp hget
    rw [List.map_set, hsame, ← heq]
    exact List.set_getElem_self hlt
  next => rfl

/-- The number of entries of a request, read off the requests of the entries. -/
theorem length_historico (q : String) :
    (m.historicoEvidencia q).length
      = (m.historico.map EvidenceRecord.requestId).countP (decide <| · = q) := by
  rw [InMemoryCentralStore.historicoEvidencia, ← List.countP_eq_length_filter, List.countP_map]
  rfl

/-- Recording evidence adds one entry to its request. -/
theorem length_historico_registrar (h : m.Anchored) (entrada : EvidenceRecordInput)
    (agora : DateTime) (q : String) :
    ((m.registrarEvidencia entrada agora).1.historicoEvidencia q).length
      = (m.historicoEvidencia q).length + if entrada.requestId = q then 1 else 0 := by
  rw [length_historico, length_historico, ← map_requestId_invalidar h entrada]
  simp only [InMemoryCentralStore.registrarEvidencia, List.map_append, List.map_cons, List.map_nil,
    List.countP_append, aplicarEvidencia]
  by_cases hq : entrada.requestId = q <;> simp [hq]

theorem anchored_registrar (h : m.Anchored) (entrada : EvidenceRecordInput) (agora : DateTime) :
    (m.registrarEvidencia entrada agora).1.Anchored := by
  intro q place hplace
  have hids := map_requestId_invalidar h entrada
  rw [InMemoryCentralStore.registrarEvidencia, Table.get?_put] at hplace
  split at hplace
  next hq =>
    obtain rfl := Option.some.inj hplace
    refine ⟨(m.registrarEvidencia entrada agora).2, ?_, hq.symm⟩
    simp [InMemoryCentralStore.registrarEvidencia]
  next hq =>
    -- an older place: its entry may have been overwritten, but for the same request
    obtain ⟨registro, hregistro, hid⟩ := h q place hplace
    have hget := congrArg (·[place]?) hids
    simp only [List.getElem?_map, hregistro, Option.map_some] at hget
    obtain ⟨registro', hregistro', hid'⟩ := Option.map_eq_some_iff.mp hget
    refine ⟨registro', ?_, hid'.trans hid⟩
    exact (List.getElem?_append_left (List.getElem?_eq_some_iff.mp hregistro').1).trans hregistro'

theorem anchored_exec (h : m.Anchored) (c : StoreCall) : (m.exec c).Anchored := by
  cases c with
  | criarSeAusente solicitacao =>
    simp only [InMemoryCentralStore.exec, InMemoryCentralStore.criarSeAusente]
    split <;> exact h
  | atualizar q mutator =>
    simp only [InMemoryCentralStore.exec, InMemoryCentralStore.atualizar]
    split
    · exact h
    · split <;> exact h
  | registrarEvidencia entrada agora => exact anchored_registrar h entrada agora

/-! ## Plain calls keep the stores together -/

/-- The two stores hold the same, and what Redis holds about the ids in use can be read. -/
structure Together (ids : Set String) (m : InMemoryCentralStore) (r : RedisCentralStore) :
    Prop where
  requests : r.requests = m.requests
  keyed : Table.Keyed Prod.fst m.requests
  index : ∀ q, q ∈ r.index ↔ q ∈ m.requests.map Prod.fst
  valid : ∀ e ∈ m.requests, e.2.accepted = true
  evidencia : ∀ q, Table.get? q r.evidencia = m.obterEvidencia q
  history : ∀ q, r.entradas q = m.historicoEvidencia q
  list : ∀ q ∈ ids, ¬r.holdsList q
  record : ∀ q ∈ ids, ¬r.holdsRecord q

theorem validar_eq_ok {w : WorkRequest} (h : w.accepted = true) :
    RedisCentralStore.validar w = .ok w := by rw [RedisCentralStore.validar, if_pos h]

theorem mapM_validar {l : List WorkRequest} (h : ∀ w ∈ l, w.accepted = true) :
    l.mapM RedisCentralStore.validar = .ok l := by
  induction l with
  | nil => rfl
  | cons w l ih =>
    obtain ⟨hw, hl⟩ := List.forall_mem_cons.mp h
    rw [List.mapM_cons, validar_eq_ok hw, ih hl]
    rfl

theorem Together.obterEvidencia (h : Together ids m r) {q : String} (hq : q ∈ ids) :
    r.obterEvidencia q = .ok (m.obterEvidencia q) := by
  rw [RedisCentralStore.obterEvidencia, if_neg (h.list q hq), h.evidencia]

theorem Together.agree (h : Together ids m r) : Agree ids m r where
  obter q _ := by
    rw [RedisCentralStore.obter, InMemoryCentralStore.obter, h.requests]
    cases hw : Table.get? q m.requests with
    | none => rfl
    | some w =>
      simp only [validar_eq_ok (h.valid _ (Table.mem_of_get? hw))]
      rfl
  listar := by
    have hmem : ∀ w, w ∈ (r.index.insertionSort (· ≤ ·)).filterMap
        (fun q ↦ Table.get? q r.requests) ↔ w ∈ m.listar := by
      intro w
      simp only [List.mem_filterMap, List.mem_insertionSort, h.index, h.requests,
        InMemoryCentralStore.listar, List.mem_map]
      constructor
      · rintro ⟨q, -, hq⟩
        exact ⟨(q, w), Table.mem_of_get? hq, rfl⟩
      · rintro ⟨⟨q, w'⟩, he, rfl⟩
        exact ⟨q, ⟨(q, w'), he, rfl⟩, h.keyed.get?_of_mem he⟩
    have hvalid : ∀ w ∈ (r.index.insertionSort (· ≤ ·)).filterMap
        (fun q ↦ Table.get? q r.requests), w.accepted = true := by
      intro w hw
      obtain ⟨e, he, rfl⟩ := List.mem_map.mp ((hmem w).mp hw)
      exact h.valid e he
    refine ⟨_, ?_, hmem⟩
    rw [RedisCentralStore.listar, mapM_validar hvalid]
  obterEvidencia _ hq := h.obterEvidencia hq
  statusEvidencia q hq sha := by
    rw [RedisCentralStore.statusEvidencia, h.obterEvidencia hq]
    rfl
  historicoEvidencia q hq := by
    rw [RedisCentralStore.historicoEvidencia, if_neg (h.record q hq), h.history]

theorem mem_sadd {q q' : String} {index : List String} :
    q ∈ RedisCentralStore.sadd q' index ↔ q ∈ index ∨ q = q' := by
  rw [RedisCentralStore.sadd]
  split
  next h =>
    constructor
    · exact Or.inl
    · rintro (hq | rfl)
      · exact hq
      · exact h
  next => simp

/-- The keys after a write. -/
theorem mem_keys_put {α : Type} {q : String} {e : String × α} {d : List (String × α)} :
    q ∈ (Table.put d e).map Prod.fst ↔ q ∈ d.map Prod.fst ∨ q = e.1 := by
  rw [← Table.isSome_get?, Table.get?_put, ← Table.isSome_get?]
  by_cases hq : q = e.1 <;> simp [hq]

theorem together_criar (h : Together ids m r) (solicitacao : WorkRequest)
    (hplain : m.obter solicitacao.requestId = none → solicitacao.accepted = true) :
    Together ids (m.criarSeAusente solicitacao).1 (r.criarSeAusente solicitacao).1 := by
  rw [RedisCentralStore.criarSeAusente, InMemoryCentralStore.criarSeAusente, h.requests]
  cases hget : m.obter solicitacao.requestId with
  | some existente =>
    rw [InMemoryCentralStore.obter] at hget
    have hread : r.obter solicitacao.requestId = .ok (some existente) := by
      rw [RedisCentralStore.obter, h.requests, hget]
      simp only [validar_eq_ok (h.valid _ (Table.mem_of_get? hget))]
      rfl
    simp only [hget, hread]
    exact h
  | none =>
    have hok := hplain hget
    rw [InMemoryCentralStore.obter] at hget
    simp only [hget]
    refine ⟨?_, h.keyed.put _, fun q ↦ ?_, fun e he ↦ ?_, h.evidencia, h.history, h.list, h.record⟩
    · rw [RedisCentralStore.criar, h.requests]
    · rw [RedisCentralStore.criar, mem_sadd, mem_keys_put, h.index]
    · rcases Table.mem_put he with he | rfl
      · exact h.valid e he
      · exact hok

theorem together_atualizar (h : Together ids m r) (q : String) (mutator : Mutacao)
    (hplain : ∀ atual novo, m.obter q = some atual → mutator atual = .ok novo →
      novo.accepted = true) : Together ids (m.atualizar q mutator).1 (r.atualizar q mutator).1 := by
  rw [RedisCentralStore.atualizar, InMemoryCentralStore.atualizar, h.requests]
  cases hget : m.obter q with
  | none =>
    rw [InMemoryCentralStore.obter] at hget
    simp only [hget]
    exact h
  | some atual =>
    have hstored : Table.get? q m.requests = some atual := hget
    simp only [hstored, validar_eq_ok (h.valid _ (Table.mem_of_get? hstored)), ok_bind]
    cases hnovo : mutator atual with
    | error x => exact h
    | ok novo =>
      refine ⟨rfl, h.keyed.put _, fun q' ↦ ?_, fun e he ↦ ?_, h.evidencia, h.history, h.list, h.record⟩
      · -- the key was there already
        rw [mem_keys_put, h.index]
        have hmem : q ∈ m.requests.map Prod.fst :=
          List.mem_map.mpr ⟨_, Table.mem_of_get? hstored, rfl⟩
        constructor
        · exact Or.inl
        · rintro (hq | rfl)
          · exact hq
          · exact hmem
      · rcases Table.mem_put he with he | rfl
        · exact h.valid e he
        · exact hplain atual novo hget hnovo

theorem invalidado_eq_none {anterior : Option EvidenceRecord} {entrada : EvidenceRecordInput}
    (h : ∀ a, anterior = some a → a.sha = entrada.sha) : invalidado anterior entrada = none := by
  cases hinv : invalidado anterior entrada with
  | none => rfl
  | some antigo =>
    obtain ⟨a, ha, -, hne⟩ := invalidado_requestId hinv
    exact absurd (h a ha) hne

/-- Evidence for the commit of the current record is appended in memory. -/
theorem registrar_eq_append (entrada : EvidenceRecordInput) (agora : DateTime)
    (hplain : ∀ a, m.obterEvidencia entrada.requestId = some a → a.sha = entrada.sha) :
    (m.registrarEvidencia entrada agora).1 =
      { m with evidencia := Table.put m.evidencia (entrada.requestId, m.historico.length)
               historico := m.historico ++ [(m.registrarEvidencia entrada agora).2] } := by
  have hkeep : m.invalidar entrada.requestId
      (invalidado (m.obterEvidencia entrada.requestId) entrada) = m.historico := by
    rw [invalidado_eq_none hplain]
    unfold InMemoryCentralStore.invalidar
    split <;> first | rfl | simp_all
  simp only [InMemoryCentralStore.registrarEvidencia, aplicarEvidencia, hkeep]

/-- What Redis writes when the keys of the evidence hold what they should. -/
theorem registrar_redis (entrada : EvidenceRecordInput) (agora : DateTime)
    (hlist : ¬r.holdsList entrada.requestId) (hrecord : ¬r.holdsRecord entrada.requestId)
    {anterior : Option EvidenceRecord} (hget : Table.get? entrada.requestId r.evidencia = anterior) :
    (r.registrarEvidencia entrada agora).1 =
      { r with
        evidencia := Table.put r.evidencia
          (entrada.requestId, (aplicarEvidencia anterior entrada agora).registro)
        history := Table.put r.history (entrada.requestId, r.entradas entrada.requestId
          ++ (invalidado anterior entrada).toList
          ++ [(aplicarEvidencia anterior entrada agora).registro]) } := by
  simp only [RedisCentralStore.registrarEvidencia, RedisCentralStore.obterEvidencia, if_neg hlist,
    if_neg hrecord, hget]
  rfl

/-- A history key after a write. -/
theorem holdsList_put {q q' : String} {l : List EvidenceRecord} {evidencia} :
    RedisCentralStore.holdsList
        { r with evidencia := evidencia, history := Table.put r.history (q', l) } q
      ↔ r.holdsList q ∨ RedisCentralStore.historyId q' = q := by
  constructor
  · rintro ⟨e, he, rfl⟩
    rcases Table.mem_put he with he | rfl
    · exact Or.inl ⟨e, he, rfl⟩
    · exact Or.inr rfl
  · intro h
    have hkey : ∀ k, (Table.get? k (Table.put r.history (q', l))).isSome = true →
        ∃ e ∈ Table.put r.history (q', l), e.1 = k := by
      intro k hk
      exact List.mem_map.mp (Table.isSome_get?.mp hk)
    rcases h with ⟨e, he, rfl⟩ | rfl
    · obtain ⟨e', he', heq⟩ := hkey e.1 (by
        rw [Table.isSome_get?, mem_keys_put]
        exact Or.inl (List.mem_map_of_mem he))
      exact ⟨e', he', congrArg _ heq⟩
    · obtain ⟨e', he', heq⟩ := hkey q' (by rw [Table.get?_put, if_pos rfl]; rfl)
      exact ⟨e', he', congrArg _ heq⟩

/-- A record key after a write. -/
theorem holdsRecord_put {q q' : String} {registro : EvidenceRecord} {history} :
    RedisCentralStore.holdsRecord
        { r with evidencia := Table.put r.evidencia (q', registro), history := history } q
      ↔ r.holdsRecord q ∨ RedisCentralStore.historyId q = q' := by
  simp only [RedisCentralStore.holdsRecord, Table.isSome_get?, mem_keys_put]

theorem together_registrar (h : Together ids m r) (hm : m.Anchored) (entrada : EvidenceRecordInput)
    (agora : DateTime) (hid : entrada.requestId ∈ ids) (hsep : Separate ids entrada.requestId)
    (hplain : ∀ a, m.obterEvidencia entrada.requestId = some a → a.sha = entrada.sha) :
    Together ids (m.registrarEvidencia entrada agora).1 (r.registrarEvidencia entrada agora).1 := by
  rw [registrar_redis entrada agora (h.list _ hid) (h.record _ hid) (h.evidencia _),
    registrar_eq_append entrada agora hplain, invalidado_eq_none hplain]
  refine ⟨h.requests, h.keyed, h.index, h.valid, fun q ↦ ?_, fun q ↦ ?_, fun q hq ↦ ?_,
    fun q hq ↦ ?_⟩
  · change _ = (Table.get? q (Table.put m.evidencia _)).bind _
    rw [Table.get?_put, Table.get?_put, h.evidencia]
    by_cases hq : q = entrada.requestId
    · rw [if_pos hq, if_pos hq, Option.bind_some, List.getElem?_concat_length]
      rfl
    · rw [if_neg hq, if_neg hq, InMemoryCentralStore.obterEvidencia]
      cases hplace : Table.get? q m.evidencia with
      | none => rfl
      | some place =>
        obtain ⟨registro, hregistro, -⟩ := hm q place hplace
        have hlt := (List.getElem?_eq_some_iff.mp hregistro).1
        rw [Option.bind_some, Option.bind_some, List.getElem?_append_left hlt]
  · rw [RedisCentralStore.entradas, Table.get?_put, InMemoryCentralStore.historicoEvidencia,
      List.filter_append, List.filter_singleton, ← InMemoryCentralStore.historicoEvidencia,
      ← h.history]
    by_cases hq : q = entrada.requestId
    · subst hq
      have hsame : decide ((m.registrarEvidencia entrada agora).2.requestId = entrada.requestId)
          = true := decide_eq_true rfl
      rw [if_pos rfl, hsame, Option.getD_some, Option.toList_none, List.append_nil]
      rfl
    · have hother : decide ((m.registrarEvidencia entrada agora).2.requestId = q) = false :=
        decide_eq_false (Ne.symm hq)
      rw [if_neg hq, hother, ← RedisCentralStore.entradas]
      simp
  · rw [holdsList_put]
    rintro (hlist | rfl)
    · exact h.list q hq hlist
    · exact hsep.1 hq
  · rw [holdsRecord_put]
    rintro (hrecord | heq)
    · exact h.record q hq hrecord
    · exact hsep.2 q hq heq

theorem together_exec (h : Together ids m r) (hm : m.Anchored) {c : StoreCall}
    (hid : c.requestId ∈ ids) (hc : c.Plain ids m) : Together ids (m.exec c) (r.exec c) := by
  cases c with
  | criarSeAusente solicitacao => exact together_criar h solicitacao hc
  | atualizar q mutator => exact together_atualizar h q mutator hc
  | registrarEvidencia entrada agora => exact together_registrar h hm entrada agora hid hc.1 hc.2

/-! ## Any other call separates them for good -/

/-- A key that holds what the id in use does not expect there. -/
def Clash (ids : Set String) (r : RedisCentralStore) : Prop :=
  ∃ q ∈ ids, r.holdsList q ∨ r.holdsRecord q

/-- About one of the ids in use: a request in Redis that can no longer be read, a clash of keys, or
more entries in the history of Redis than in memory. -/
def Apart (ids : Set String) (m : InMemoryCentralStore) (r : RedisCentralStore) : Prop :=
  (∃ q ∈ ids, ∃ w, Table.get? q r.requests = some w ∧ w.accepted = false)
    ∨ Clash ids r ∨ ∃ q ∈ ids, (m.historicoEvidencia q).length < (r.entradas q).length

theorem Apart.not_agree (h : Apart ids m r) : ¬Agree ids m r := by
  intro hagree
  have hrecord : ∀ q ∈ ids, ¬r.holdsRecord q := by
    intro q hq hclash
    have hhistory := hagree.historicoEvidencia q hq
    rw [RedisCentralStore.historicoEvidencia, if_pos hclash] at hhistory
    cases hhistory
  rcases h with ⟨q, hq, w, hw, hbad⟩ | ⟨q, hq, hclash | hclash⟩ | ⟨q, hq, hlt⟩
  · have hobter := hagree.obter q hq
    rw [RedisCentralStore.obter, hw] at hobter
    simp only [RedisCentralStore.validar, hbad] at hobter
    cases hobter
  · have hget := hagree.obterEvidencia q hq
    rw [RedisCentralStore.obterEvidencia, if_pos hclash] at hget
    cases hget
  · exact hrecord q hq hclash
  · have hhistory := hagree.historicoEvidencia q hq
    rw [RedisCentralStore.historicoEvidencia, if_neg (hrecord q hq)] at hhistory
    rw [Except.ok.inj hhistory] at hlt
    exact lt_irrefl _ hlt

/-- Recording evidence in Redis adds the record, and before it the invalidated one. -/
theorem length_entradas_registrar (entrada : EvidenceRecordInput) (agora : DateTime)
    (hlist : ¬r.holdsList entrada.requestId) (hrecord : ¬r.holdsRecord entrada.requestId)
    (q : String) :
    ((r.registrarEvidencia entrada agora).1.entradas q).length
      = (r.entradas q).length
        + if entrada.requestId = q then
            (invalidado (Table.get? entrada.requestId r.evidencia) entrada).toList.length + 1
          else 0 := by
  rw [registrar_redis entrada agora hlist hrecord rfl]
  simp only [RedisCentralStore.entradas, Table.get?_put]
  by_cases hq : q = entrada.requestId
  · subst hq
    simp
  · rw [if_neg hq, if_neg (Ne.symm hq), Nat.add_zero]

/-- An unreadable request stays: it is not created again and cannot be updated. -/
theorem unreadable_exec {q : String} {w : WorkRequest} (hw : Table.get? q r.requests = some w)
    (hbad : w.accepted = false) (c : StoreCall) :
    Table.get? q (r.exec c).requests = some w := by
  cases c with
  | criarSeAusente solicitacao =>
    simp only [RedisCentralStore.exec, RedisCentralStore.criarSeAusente]
    split
    next hnone =>
      rw [RedisCentralStore.criar, Table.get?_put, if_neg, hw]
      rintro rfl
      rw [hw] at hnone
      cases hnone
    next w' hsome =>
      split
      next => exact hw
      next => exact hw
      next hnone =>
        rw [RedisCentralStore.obter, hsome] at hnone
        simp only [RedisCentralStore.validar] at hnone
        split at hnone <;> cases hnone
  | atualizar q' mutator =>
    simp only [RedisCentralStore.exec, RedisCentralStore.atualizar]
    split
    next => exact hw
    next raw hraw =>
      split
      next => exact hw
      next novo hnovo =>
        rw [Table.get?_put, if_neg, hw]
        rintro rfl
        rw [hw] at hraw
        cases hraw
        simp only [RedisCentralStore.validar, hbad] at hnovo
        cases hnovo
  | registrarEvidencia entrada agora =>
    simp only [RedisCentralStore.exec, RedisCentralStore.registrarEvidencia]
    split
    · exact hw
    · split <;> exact hw

/-- Creating and updating requests leave the evidence alone. -/
theorem evidence_exec (c : StoreCall) (hc : ∀ entrada agora, c ≠ .registrarEvidencia entrada agora) :
    (m.exec c).historico = m.historico ∧ (r.exec c).history = r.history
      ∧ (r.exec c).evidencia = r.evidencia := by
  cases c with
  | criarSeAusente solicitacao =>
    simp only [InMemoryCentralStore.exec, InMemoryCentralStore.criarSeAusente,
      RedisCentralStore.exec, RedisCentralStore.criarSeAusente]
    refine ⟨?_, ?_, ?_⟩
    · split <;> rfl
    all_goals
      split
      · rfl
      · split <;> rfl
  | atualizar q mutator =>
    simp only [InMemoryCentralStore.exec, InMemoryCentralStore.atualizar,
      RedisCentralStore.exec, RedisCentralStore.atualizar]
    refine ⟨?_, ?_, ?_⟩
    all_goals
      split
      · rfl
      · split <;> rfl
  | registrarEvidencia entrada agora => exact absurd rfl (hc entrada agora)

/-- A clash of keys stays: no key is ever removed. -/
theorem Clash.exec (h : Clash ids r) (c : StoreCall) : Clash ids (r.exec c) := by
  obtain ⟨q, hq, h⟩ := h
  refine ⟨q, hq, ?_⟩
  by_cases hc : ∃ entrada agora, c = .registrarEvidencia entrada agora
  · obtain ⟨entrada, agora, rfl⟩ := hc
    simp only [RedisCentralStore.exec, RedisCentralStore.registrarEvidencia]
    split
    · exact h
    · split
      · exact h.imp id fun h ↦ holdsRecord_put.mpr (Or.inl h)
      · exact h.imp (fun h ↦ holdsList_put.mpr (Or.inl h)) fun h ↦ holdsRecord_put.mpr (Or.inl h)
  · have hsame := evidence_exec (m := {}) (r := r) c fun entrada agora heq ↦ hc ⟨entrada, agora, heq⟩
    rwa [RedisCentralStore.holdsList, RedisCentralStore.holdsRecord, hsame.2.1, hsame.2.2]

theorem length_historico_exec (hm : m.Anchored) (c : StoreCall) (hid : c.requestId ∈ ids)
    (hclash : ¬Clash ids r) (q : String) :
    ((m.exec c).historicoEvidencia q).length + (r.entradas q).length
      ≤ (m.historicoEvidencia q).length + ((r.exec c).entradas q).length := by
  by_cases hc : ∃ entrada agora, c = .registrarEvidencia entrada agora
  · obtain ⟨entrada, agora, rfl⟩ := hc
    have hlen := length_historico_registrar hm entrada agora q
    have hlen' := length_entradas_registrar (r := r) entrada agora
      (fun h ↦ hclash ⟨_, hid, Or.inl h⟩) (fun h ↦ hclash ⟨_, hid, Or.inr h⟩) q
    change ((m.registrarEvidencia entrada agora).1.historicoEvidencia q).length + _
      ≤ _ + ((r.registrarEvidencia entrada agora).1.entradas q).length
    rw [hlen, hlen']
    split <;> omega
  · have hsame := evidence_exec (m := m) (r := r) c fun entrada agora heq ↦ hc ⟨entrada, agora, heq⟩
    rw [InMemoryCentralStore.historicoEvidencia, hsame.1, ← InMemoryCentralStore.historicoEvidencia,
      RedisCentralStore.entradas, RedisCentralStore.entradas, hsame.2.1]

theorem Apart.exec (h : Apart ids m r) (hm : m.Anchored) (c : StoreCall) (hid : c.requestId ∈ ids) :
    Apart ids (m.exec c) (r.exec c) := by
  by_cases hclash : Clash ids r
  · exact Or.inr (Or.inl (hclash.exec c))
  rcases h with ⟨q, hq, w, hw, hbad⟩ | h | ⟨q, hq, hlt⟩
  · exact Or.inl ⟨q, hq, w, unreadable_exec hw hbad c, hbad⟩
  · exact absurd h hclash
  · have hle := length_historico_exec hm c hid hclash q
    exact Or.inr (Or.inr ⟨q, hq, by omega⟩)

/-- Evidence under keys that another id shares clashes with it. -/
theorem clash_of_not_separate (h : Together ids m r) (entrada : EvidenceRecordInput)
    (agora : DateTime) (hid : entrada.requestId ∈ ids) (hsep : ¬Separate ids entrada.requestId) :
    Clash ids (r.registrarEvidencia entrada agora).1 := by
  rw [registrar_redis entrada agora (h.list _ hid) (h.record _ hid) rfl]
  by_cases hshared : RedisCentralStore.historyId entrada.requestId ∈ ids
  · exact ⟨_, hshared, Or.inl (holdsList_put.mpr (Or.inr rfl))⟩
  · simp only [Separate, hshared, not_false_eq_true, true_and, not_forall, not_not] at hsep
    obtain ⟨q, hq, heq⟩ := hsep
    exact ⟨q, hq, Or.inr (holdsRecord_put.mpr (Or.inr heq))⟩

/-- Evidence of another commit gives Redis one entry more. -/
theorem history_of_other_sha (h : Together ids m r) (hm : m.Anchored)
    (entrada : EvidenceRecordInput) (agora : DateTime) (hid : entrada.requestId ∈ ids)
    {anterior : EvidenceRecord} (hanterior : m.obterEvidencia entrada.requestId = some anterior)
    (hsha : anterior.sha ≠ entrada.sha) :
    ((m.registrarEvidencia entrada agora).1.historicoEvidencia entrada.requestId).length
      < ((r.registrarEvidencia entrada agora).1.entradas entrada.requestId).length := by
  have hinv : (invalidado (Table.get? entrada.requestId r.evidencia) entrada).toList.length
      = 1 := by
    rw [h.evidencia, hanterior, invalidado, if_neg hsha]
    rfl
  rw [length_historico_registrar hm, length_entradas_registrar entrada agora (h.list _ hid)
    (h.record _ hid), if_pos rfl, if_pos rfl, hinv, h.history]
  omega

theorem apart_of_not_plain (h : Together ids m r) (hm : m.Anchored) {c : StoreCall}
    (hid : c.requestId ∈ ids) (hc : ¬c.Plain ids m) : Apart ids (m.exec c) (r.exec c) := by
  cases c with
  | criarSeAusente solicitacao =>
    obtain ⟨hnone, hbad⟩ := Classical.not_imp.mp hc
    refine Or.inl ⟨solicitacao.requestId, hid, solicitacao, ?_, by simpa using hbad⟩
    have hget : Table.get? solicitacao.requestId r.requests = none := by
      rw [h.requests]
      exact hnone
    simp only [RedisCentralStore.exec, RedisCentralStore.criarSeAusente, hget,
      RedisCentralStore.criar, Table.get?_put, if_pos]
  | atualizar q mutator =>
    simp only [StoreCall.Plain, not_forall] at hc
    obtain ⟨atual, novo, hatual, hnovo, hbad⟩ := hc
    refine Or.inl ⟨q, hid, novo, ?_, by simpa using hbad⟩
    have hstored : Table.get? q m.requests = some atual := hatual
    simp only [RedisCentralStore.exec, RedisCentralStore.atualizar, h.requests, hstored,
      validar_eq_ok (h.valid _ (Table.mem_of_get? hstored)), ok_bind, hnovo, Table.get?_put, if_pos]
  | registrarEvidencia entrada agora =>
    by_cases hsep : Separate ids entrada.requestId
    · simp only [StoreCall.Plain, hsep, true_and, not_forall] at hc
      obtain ⟨anterior, hanterior, hsha⟩ := hc
      exact Or.inr (Or.inr ⟨_, hid, history_of_other_sha h hm entrada agora hid hanterior hsha⟩)
    · exact Or.inr (Or.inl (clash_of_not_separate h entrada agora hid hsep))

theorem Apart.foldl (h : Apart ids m r) (hm : m.Anchored) (cs : List StoreCall)
    (hids : ∀ c ∈ cs, c.requestId ∈ ids) :
    Apart ids (cs.foldl InMemoryCentralStore.exec m) (cs.foldl RedisCentralStore.exec r) := by
  induction cs generalizing m r with
  | nil => exact h
  | cons c cs ih =>
    obtain ⟨hid, hids⟩ := List.forall_mem_cons.mp hids
    exact ih (h.exec hm c hid) (anchored_exec hm c) hids

theorem agree_foldl_iff (h : Together ids m r) (hm : m.Anchored) (cs : List StoreCall)
    (hids : ∀ c ∈ cs, c.requestId ∈ ids) :
    Agree ids (cs.foldl InMemoryCentralStore.exec m) (cs.foldl RedisCentralStore.exec r)
      ↔ AllPlain ids m cs := by
  induction cs generalizing m r with
  | nil => exact iff_of_true h.agree trivial
  | cons c cs ih =>
    obtain ⟨hid, hids⟩ := List.forall_mem_cons.mp hids
    by_cases hc : c.Plain ids m
    · rw [List.foldl_cons, List.foldl_cons,
        ih (together_exec h hm hid hc) (anchored_exec hm c) hids]
      exact ⟨fun hcs ↦ ⟨hc, hcs⟩, fun hcs ↦ hcs.2⟩
    · have hapart := (apart_of_not_plain h hm hid hc).foldl (anchored_exec hm c) cs hids
      exact iff_of_false hapart.not_agree fun hcs ↦ hc hcs.1

/-- **When the two stores agree.** After any sequence of calls on two empty stores, every query
about the ids in use has the same answer on both exactly when every call of the sequence was plain.
-/
theorem stores_agree_iff (ids : Set String) (cs : List StoreCall)
    (hids : ∀ c ∈ cs, c.requestId ∈ ids) :
    Agree ids (cs.foldl InMemoryCentralStore.exec {}) (cs.foldl RedisCentralStore.exec {})
      ↔ AllPlain ids {} cs := by
  refine agree_foldl_iff ?_ ?_ cs hids
  · refine ⟨rfl, List.nodup_nil, by simp, List.forall_mem_nil _, fun _ ↦ rfl, fun _ ↦ rfl, ?_, ?_⟩
    · rintro q - ⟨e, he, -⟩
      exact absurd he List.not_mem_nil
    · intro q _ h
      cases h
  · intro q place h
    cases h

/-! ### A change of commit -/

/-- A passed verification of a commit. -/
def firstProof : EvidenceRecordInput where
  requestId := "WR-1"
  sha := "aaaaaaa"
  environment := .dev
  checks c := if c = .positive then some .pass else none
  valid := by decide +kernel

/-- The same verification after a new commit. -/
def secondProof : EvidenceRecordInput where
  requestId := "WR-1"
  sha := "bbbbbbb"
  environment := .dev
  checks c := if c = .positive then some .pass else none
  valid := by decide +kernel

def sameCommit : List StoreCall :=
  [.registrarEvidencia firstProof sampleInstant, .registrarEvidencia firstProof sampleInstant]

def changeOfCommit : List StoreCall :=
  [.registrarEvidencia firstProof sampleInstant, .registrarEvidencia secondProof sampleInstant]

/-- As long as the commit stays the stores agree. -/
theorem stores_agree_same_commit :
    Agree {"WR-1"} (sameCommit.foldl InMemoryCentralStore.exec {})
      (sameCommit.foldl RedisCentralStore.exec {}) := by
  have hsep : Separate {"WR-1"} "WR-1" := by
    refine ⟨by decide +kernel, ?_⟩
    rintro q rfl
    decide +kernel
  refine (stores_agree_iff {"WR-1"} sameCommit ?_).mpr ⟨⟨hsep, ?_⟩, ⟨hsep, ?_⟩, trivial⟩
  · intro c hc
    rcases List.mem_cons.mp hc with rfl | hc
    · rfl
    · rw [List.mem_singleton.mp hc]
      rfl
  · intro anterior h
    cases h
  · intro anterior h
    cases h
    rfl

/-- After a change of commit the history has two entries in memory and three in Redis. -/
theorem stores_disagree : ¬∀ cs : List StoreCall, Agree {q | q ∈ cs.map StoreCall.requestId}
    (cs.foldl InMemoryCentralStore.exec {}) (cs.foldl RedisCentralStore.exec {}) := by
  intro h
  have hhistory := (h changeOfCommit).historicoEvidencia "WR-1" (by decide +kernel)
  have hlen := congrArg (Except.map List.length) hhistory
  have hredis : ((changeOfCommit.foldl RedisCentralStore.exec {}).historicoEvidencia "WR-1").map
      List.length = .ok 3 := rfl
  have hmemory : ((changeOfCommit.foldl InMemoryCentralStore.exec {}).historicoEvidencia
      "WR-1").length = 2 := by decide +kernel
  rw [hredis, Except.map, hmemory] at hlen
  cases hlen

end Central

end ReqSys
