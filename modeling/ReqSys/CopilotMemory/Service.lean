import ReqSys.CopilotMemory.Engine
import ReqSys.Foundation.Table

/-!
# Copilot memory: records and history

A record holds the current content of a memory, its hash and version, and what is known about
Planner. Every version has a row of history with its snapshot. `sincronizar_item` takes items from
any side, `listar_comandos_planner` returns what is to be sent to Planner, and
`confirmar_comando_planner` is told whether that was done.

Every call runs in a session of its own and commits at most once; a call that raises leaves the
tables as they are.
-/

namespace ReqSys

namespace CopilotMemory

/-! ## The tables -/

structure CopilotMemoryRecord extends Snapshot, EstadoPlanner where
  memoryId : String
  ultimaOrigem : String := "reqsys"
  contentHash : String
  versao : ℕ := 1
  correlationId : String := ""
  deriving DecidableEq

structure CopilotMemoryHistory where
  memoryId : String
  versao : ℕ
  contentHash : String
  origem : String
  correlationId : String
  /-- `snapshot_json`. -/
  snapshot : Snapshot
  deriving DecidableEq

structure Banco where
  records : List CopilotMemoryRecord := []
  history : List CopilotMemoryHistory := []

namespace Banco

variable (db : Banco)

def record (memoryId : String) : Option CopilotMemoryRecord :=
  Table.lookup CopilotMemoryRecord.memoryId memoryId db.records

/-- `_localizar_record`. -/
def localizarRecord (memoryId plannerTaskId : Option String) : Option CopilotMemoryRecord :=
  (memoryId.bind db.record).or
    (plannerTaskId.bind fun t ↦ db.records.find? fun r ↦ r.plannerTaskId = some t)

/-- Another record has the task. -/
def tarefaOcupada (r : CopilotMemoryRecord) : Bool :=
  r.plannerTaskId.isSome &&
    db.records.any fun x ↦ x.memoryId ≠ r.memoryId && x.plannerTaskId = r.plannerTaskId

/-- Commit a changed record, with new rows of history. -/
def atualizar (r : CopilotMemoryRecord) (novas : List CopilotMemoryHistory) : Except Erro Banco := do
  require (¬db.tarefaOcupada r) .integrityError
  return {
    records := Table.update CopilotMemoryRecord.memoryId r.memoryId (fun _ ↦ r) db.records
    history := db.history ++ novas }

/-- Commit a new record, with its row of history. -/
def inserir (r : CopilotMemoryRecord) (nova : CopilotMemoryHistory) : Except Erro Banco := do
  require (db.record r.memoryId = none ∧ ¬db.tarefaOcupada r) .integrityError
  return { records := db.records ++ [r], history := db.history ++ [nova] }

end Banco

/-! ## Synchronisation -/

/-- `texto(payload.get('origem') or 'reqsys').lower()`. -/
def Payload.origemNormalizada (cfg : Config) (payload : Payload) : String :=
  cfg.unicode.lower
    (PyText.strip (if PyText.truthy payload.origem then payload.origem.getD "" else "reqsys"))

/-- The item comes from Planner. -/
def Payload.dePlanner (cfg : Config) (payload : Payload) : Bool :=
  payload.origemNormalizada cfg == "planner"

/-- `_registrar_historico`: the row of the current version. -/
def CopilotMemoryRecord.historico (r : CopilotMemoryRecord) (origem correlationId : String) :
    CopilotMemoryHistory where
  memoryId := r.memoryId
  versao := r.versao
  contentHash := r.contentHash
  origem := origem
  correlationId := correlationId
  snapshot := r.toSnapshot

/-- The decision about Planner, if the item asks for one. -/
def decidir (cfg : Config) (payload : Payload) (plannerTaskId : Option String) (snapshot : Snapshot)
    (atual : EstadoPlanner) : Except Erro EstadoPlanner :=
  if payload.dePlanner cfg ∨ payload.atualizarPlanner then
    aplicarDecisaoPlanner (payload.dePlanner cfg) payload.atualizarPlanner plannerTaskId
      (plannerHash cfg snapshot.toCamposPlanner) atual
  else .ok atual

/-- An item of Planner while an update of Planner is pending. -/
def durantePendencia (cfg : Config) (payload : Payload) (correlationId : String)
    (record : CopilotMemoryRecord) : Except Erro CopilotMemoryRecord := do
  let visto : CopilotMemoryRecord :=
    { record with ultimaOrigem := payload.origemNormalizada cfg, correlationId := correlationId }
  match ← avaliarPlannerDurantePendencia cfg payload record.plannerAppliedHash with
  | .eco => return visto
  | .conflito => return { visto with
      plannerSyncStatus := .conflito
      ultimoErro :=
        "Planner alterado enquanto existia atualização local pendente; revisão necessária" }

/-- An item that changes nothing of the content. -/
def semMudanca (cfg : Config) (payload : Payload) (correlationId : String)
    (record : CopilotMemoryRecord) (snapshot : Snapshot) : Except Erro CopilotMemoryRecord := do
  let estado ← decidir cfg payload record.plannerTaskId snapshot record.toEstadoPlanner
  return { record with
    toEstadoPlanner := estado
    ultimaOrigem := payload.origemNormalizada cfg
    correlationId := correlationId }

/-- The next version. -/
def comMudanca (cfg : Config) (payload : Payload) (correlationId : String)
    (record : CopilotMemoryRecord) (snapshot : Snapshot) : Except Erro CopilotMemoryRecord := do
  let estado ← decidir cfg payload snapshot.plannerTaskId snapshot record.toEstadoPlanner
  return { record with
    toSnapshot := snapshot
    toEstadoPlanner := estado
    contentHash := contentHash cfg snapshot
    versao := record.versao + 1
    ultimaOrigem := payload.origemNormalizada cfg
    correlationId := correlationId }

/-- The first version. -/
def novoRecord (cfg : Config) (payload : Payload) (correlationId memoryId : String)
    (snapshot : Snapshot) : Except Erro CopilotMemoryRecord := do
  let estado ← decidir cfg payload snapshot.plannerTaskId snapshot {}
  return {
    toSnapshot := snapshot
    toEstadoPlanner := estado
    memoryId := memoryId
    contentHash := contentHash cfg snapshot
    ultimaOrigem := payload.origemNormalizada cfg
    correlationId := correlationId }

/-- `sincronizar_item`: the tables, the record, and whether its content changed. -/
def sincronizarItem (cfg : Config) (payload : Payload) (correlationId : String) (db : Banco) :
    Except Erro (Banco × CopilotMemoryRecord × Bool) :=
  let origem := payload.origemNormalizada cfg
  match db.localizarRecord (textoOuNone payload.memoryId) (textoOuNone payload.plannerTaskId) with
  | some record =>
    if payload.dePlanner cfg ∧ record.plannerSyncStatus = .pendente then do
      let visto ← durantePendencia cfg payload correlationId record
      let db ← db.atualizar visto []
      return (db, visto, false)
    else do
      let snapshot ← montarSnapshot payload (some record.toSnapshot)
      if record.contentHash = contentHash cfg snapshot then do
        let igual ← semMudanca cfg payload correlationId record snapshot
        let db ← db.atualizar igual []
        return (db, igual, false)
      else do
        let novo ← comMudanca cfg payload correlationId record snapshot
        let db ← db.atualizar novo [novo.historico origem correlationId]
        return (db, novo, true)
  | none => do
    let memoryId := (textoOuNone payload.memoryId).getD (gerarMemoryId cfg payload.plannerTaskId)
    require (memoryId ≠ "") (.valueError "memoryId ou plannerTaskId é obrigatório")
    let snapshot ← montarSnapshot payload none
    let novo ← novoRecord cfg payload correlationId memoryId snapshot
    let db ← db.inserir novo (novo.historico origem correlationId)
    return (db, novo, true)

/-! ## Commands for Planner -/

/-- An item of `listar_comandos_planner`. -/
structure Comando where
  memoryId : String
  plannerTaskId : Option String
  campos : CamposPlanner
  desiredHash : String
  correlationId : String

/-- `listar_comandos_planner`. -/
def listarComandosPlanner (cfg : Config) (limit : ℕ) (db : Banco) : List Comando :=
  let records := db.records.filter fun r ↦
    r.atualizarPlanner && r.plannerSyncStatus = .pendente && r.plannerTaskId.isSome
  (records.take limit).map fun r ↦ {
    memoryId := r.memoryId
    plannerTaskId := r.plannerTaskId
    campos := r.toCamposPlanner
    desiredHash := plannerHash cfg r.toCamposPlanner
    correlationId := r.correlationId }

/-- What `confirmar_comando_planner` is called with. -/
structure Confirmacao where
  memoryId : String
  sucesso : Bool
  correlationId : String
  plannerTaskId : Option String := none
  erro : Option String := none

/-- The task that the confirmation may bring. -/
def Confirmacao.tarefa (c : Confirmacao) (atual : Option String) : Option String :=
  if PyText.truthy c.plannerTaskId then some (texto c.plannerTaskId) else atual

/-- The record after a confirmation. -/
def CopilotMemoryRecord.confirmado (cfg : Config) (r : CopilotMemoryRecord) (c : Confirmacao) :
    CopilotMemoryRecord :=
  { r with
    plannerTaskId := c.tarefa r.plannerTaskId
    toEstadoPlanner :=
      if c.sucesso then {
        plannerAppliedHash := plannerHash cfg r.toCamposPlanner
        plannerSyncStatus := .sincronizado }
      else {
        plannerAppliedHash := r.plannerAppliedHash
        atualizarPlanner := true
        plannerSyncStatus := .erro
        ultimoErro :=
          if PyText.take 500 (texto c.erro) = "" then
            "Power Automate não confirmou atualização do Planner"
          else PyText.take 500 (texto c.erro) }
    ultimaOrigem := "reqsys"
    correlationId := c.correlationId }

/-- `confirmar_comando_planner`. -/
def confirmarComandoPlanner (cfg : Config) (c : Confirmacao) (db : Banco) :
    Except Erro (Banco × CopilotMemoryRecord) := do
  let record ← orThrow (db.record c.memoryId)
    (.valueError ("Memória " ++ c.memoryId ++ " não encontrada"))
  let db ← db.atualizar (record.confirmado cfg c) []
  return (db, record.confirmado cfg c)

/-! ## What a call does to the records -/

section Calls

variable {cfg : Config} {db db' : Banco} {r : CopilotMemoryRecord}

theorem localizarRecord_mem {memoryId plannerTaskId : Option String}
    (h : db.localizarRecord memoryId plannerTaskId = some r) : r ∈ db.records := by
  rw [Banco.localizarRecord, Option.or_eq_some_iff] at h
  obtain h | ⟨-, h⟩ := h
  · obtain ⟨m, -, hm⟩ := Option.bind_eq_some_iff.mp h
    exact Table.mem_of_lookup hm
  · obtain ⟨t, -, ht⟩ := Option.bind_eq_some_iff.mp h
    exact List.mem_of_find?_eq_some ht

theorem of_atualizar {novas : List CopilotMemoryHistory} (h : db.atualizar r novas = .ok db') :
    db'.records = Table.update CopilotMemoryRecord.memoryId r.memoryId (fun _ ↦ r) db.records ∧
      db'.history = db.history ++ novas := by
  obtain ⟨-, h⟩ := require_bind_eq_ok.mp h
  cases h
  exact ⟨rfl, rfl⟩

theorem of_inserir {nova : CopilotMemoryHistory} (h : db.inserir r nova = .ok db') :
    db.record r.memoryId = none ∧ db'.records = db.records ++ [r] ∧
      db'.history = db.history ++ [nova] := by
  obtain ⟨hnovo, h⟩ := require_bind_eq_ok.mp h
  cases h
  exact ⟨hnovo.1, rfl, rfl⟩

/-- **What `sincronizar_item` does.** It looks at an item of Planner while an update is pending,
finds that nothing changed, writes the next version, or the first one. -/
theorem sincronizarItem_cases {payload : Payload} {correlationId : String} {changed : Bool}
    (h : sincronizarItem cfg payload correlationId db = .ok (db', r, changed)) :
    (∃ record, db.localizarRecord (textoOuNone payload.memoryId) (textoOuNone payload.plannerTaskId)
        = some record ∧
      ((payload.dePlanner cfg = true ∧ record.plannerSyncStatus = .pendente ∧
        durantePendencia cfg payload correlationId record = .ok r ∧ db.atualizar r [] = .ok db') ∨
      ∃ snapshot, montarSnapshot payload (some record.toSnapshot) = .ok snapshot ∧
        ¬(payload.dePlanner cfg = true ∧ record.plannerSyncStatus = .pendente) ∧
        ((record.contentHash = contentHash cfg snapshot ∧
          semMudanca cfg payload correlationId record snapshot = .ok r ∧
          db.atualizar r [] = .ok db') ∨
        (record.contentHash ≠ contentHash cfg snapshot ∧
          comMudanca cfg payload correlationId record snapshot = .ok r ∧
          db.atualizar r [r.historico (payload.origemNormalizada cfg) correlationId]
            = .ok db')))) ∨
    ∃ memoryId snapshot, (db.localizarRecord (textoOuNone payload.memoryId)
        (textoOuNone payload.plannerTaskId) = none ∧
      memoryId = (textoOuNone payload.memoryId).getD (gerarMemoryId cfg payload.plannerTaskId) ∧
      memoryId ≠ "") ∧ montarSnapshot payload none = .ok snapshot ∧
      novoRecord cfg payload correlationId memoryId snapshot = .ok r ∧
      db.inserir r (r.historico (payload.origemNormalizada cfg) correlationId) = .ok db' := by
  rw [sincronizarItem] at h
  split at h
  next record hrecord =>
    refine .inl ⟨record, hrecord, ?_⟩
    split at h
    next hpendente =>
      obtain ⟨visto, hvisto, h⟩ := bind_eq_ok.mp h
      obtain ⟨db'', hdb, h⟩ := bind_eq_ok.mp h
      cases h
      exact .inl ⟨hpendente.1, hpendente.2, hvisto, hdb⟩
    next hpendente =>
      obtain ⟨snapshot, hsnapshot, h⟩ := bind_eq_ok.mp h
      refine .inr ⟨snapshot, hsnapshot, hpendente, ?_⟩
      split at h
      next hhash =>
        obtain ⟨igual, higual, h⟩ := bind_eq_ok.mp h
        obtain ⟨db'', hdb, h⟩ := bind_eq_ok.mp h
        cases h
        exact .inl ⟨hhash, higual, hdb⟩
      next hhash =>
        obtain ⟨novo, hnovo, h⟩ := bind_eq_ok.mp h
        obtain ⟨db'', hdb, h⟩ := bind_eq_ok.mp h
        cases h
        exact .inr ⟨hhash, hnovo, hdb⟩
  next hnone =>
    obtain ⟨hne, h⟩ := require_bind_eq_ok.mp h
    obtain ⟨snapshot, hsnapshot, h⟩ := bind_eq_ok.mp h
    obtain ⟨novo, hnovo, h⟩ := bind_eq_ok.mp h
    obtain ⟨db'', hdb, h⟩ := bind_eq_ok.mp h
    cases h
    exact .inr ⟨_, snapshot, ⟨hnone, rfl, hne⟩, hsnapshot, hnovo, hdb⟩

end Calls

/-! ## A small memory -/

/-- The hashes for one task of Planner: of the fields of Planner, and of all content. -/
def sampleDigest : Option String → ℤ → String
  | none, 0 => "64024dc0b406bbc8343af135c5a4a6009dbdd867799f1c22ad64dceb9c921538"
  | none, 50 => "60cddc6ebde31d661fec313952721043332c276429100e2dfedfdb774c683a0c"
  | none, _ => "34e6b7fca884c52b18f4f83ba9b49af0773fcce17716f1a2e4834496b4636423"
  | some "task-1", 0 => "45d93a5cc29210349a5ac86f4cbcf34498d4ec38d1abbb44a96b76130add36ea"
  | some "task-1", 50 => "06b36aa34ab14b873178cc0abb6b6e2da94d2e67a37b466da5b7c6d52b0f16b2"
  | some "task-1", _ => "ee1b841711da5c911bb74c203e9ac1ae54d5e14464fe10df02d9ba87e66a3752"
  | some _, _ => "66b48ce383de02ec590f9aa4bfdb98a0ac8b249a5544aa82c48824b23627d3ea"

theorem sampleDigest_ne (tarefa : Option String) (percentual : ℤ) :
    sampleDigest tarefa percentual ≠ "" := by
  fun_cases sampleDigest <;> decide

def sampleConfig : Config where
  hashJson x :=
    match Json.get "planner_task_id" x.items, Json.get "planner_percentual" x.items with
    | .str tarefa, .num q => sampleDigest (some tarefa) q.num
    | _, .num q => sampleDigest none q.num
    | _, _ => sampleDigest none 100
  sha256 _ := "7afaa346b4bf92bf9dc21e9ae809887412a86beb766842e99df7fee6573a4781"
  unicode := .ascii
  hashJson_ne x := by
    split <;> exact sampleDigest_ne _ _

/-- The task, as Planner reports it or an item asks for it. -/
def sampleItem (origem : String) (percentual : ℤ) : Payload where
  plannerTaskId := some "task-1"
  plannerTitulo := some "Revisar contrato"
  plannerStatus := some "aberto"
  plannerPercentual := some percentual
  plannerPrazo := some ""
  origem := some origem
  atualizarPlanner := origem ≠ "planner"

def sampleMemoryId : String := "planner-7afaa346b4bf92bf9dc21e9a"

end CopilotMemory

end ReqSys
