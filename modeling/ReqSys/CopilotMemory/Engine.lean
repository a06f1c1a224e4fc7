import ReqSys.Foundation.Checked
import ReqSys.Foundation.PyJson
import ReqSys.Foundation.PyText

/-!
# Copilot memory: the core

A memory holds fourteen fields of content, four of which describe a task of Planner. A snapshot of
them is merged from what is stored and what a payload brings, and hashed twice: all of it, to see
whether anything changed, and the fields of Planner, to see whether Planner has them already.

The rules decide what becomes of an item that Planner reports or that is to be sent to Planner.
-/

namespace ReqSys

namespace CopilotMemory

/-- What is hashed is the canonical text of a dictionary, or a task id. A hexadecimal digest is not
empty. -/
structure Config where
  hashJson : Json → String
  sha256 : String → String
  unicode : Unicode
  hashJson_ne : ∀ x, hashJson x ≠ ""

inductive Erro
  | valueError (mensagem : String)
  /-- A unique index refuses the row. -/
  | integrityError
  deriving DecidableEq

inductive SyncStatus
  | naoSolicitado | pendente | sincronizado | erro | conflito
  deriving DecidableEq

/-! ## Snapshots -/

/-- `CAMPOS_PLANNER`. -/
structure CamposPlanner where
  plannerTitulo : String := ""
  plannerStatus : String := ""
  plannerPercentual : ℤ := 0
  plannerPrazo : String := ""
  deriving DecidableEq

/-- `CAMPOS_CONTEUDO`; the defaults are those of `snapshot_vazio`. -/
structure Snapshot extends CamposPlanner where
  plannerTaskId : Option String := none
  assunto : String := ""
  contexto : String := ""
  estadoAtual : String := ""
  decisao : String := ""
  pendencia : String := ""
  proximoPasso : String := ""
  fonteUrl : String := ""
  dataFonte : String := ""
  validade : String := "ativa"
  deriving DecidableEq

/-- An item of `sincronizar_item`. -/
structure Payload where
  memoryId : Option String := none
  plannerTaskId : Option String := none
  assunto : Option String := none
  contexto : Option String := none
  estadoAtual : Option String := none
  decisao : Option String := none
  pendencia : Option String := none
  proximoPasso : Option String := none
  fonteUrl : Option String := none
  dataFonte : Option String := none
  validade : Option String := none
  plannerTitulo : Option String := none
  plannerStatus : Option String := none
  plannerPercentual : Option ℤ := none
  plannerPrazo : Option String := none
  origem : Option String := none
  atualizarPlanner : Bool := false

/-- `texto`. -/
def texto (valor : Option String) : String := PyText.strip (valor.getD "")

/-- `texto(…) or None`. -/
def textoOuNone (valor : Option String) : Option String :=
  if texto valor = "" then none else some (texto valor)

/-- A field of text that the payload may bring. -/
def campo (valor : Option String) (atual : String) : String :=
  match valor with
  | none => atual
  | some s => PyText.strip s

/-- The percentage that the payload may bring. -/
def campoPercentual (valor : Option ℤ) (atual : ℤ) : Except Erro ℤ :=
  match valor with
  | none => .ok atual
  | some n =>
    if n < 0 ∨ n > 100 then .error (.valueError "plannerPercentual deve estar entre 0 e 100")
    else .ok n

/-- A snapshot without a subject takes the title of the task. -/
def Snapshot.comAssunto (s : Snapshot) : Snapshot :=
  if s.assunto = "" ∧ s.plannerTitulo ≠ "" then { s with assunto := s.plannerTitulo } else s

/-- `montar_snapshot`. -/
def montarSnapshot (payload : Payload) (atual : Option Snapshot) : Except Erro Snapshot := do
  let base := atual.getD {}
  let percentual ← campoPercentual payload.plannerPercentual base.plannerPercentual
  let snapshot : Snapshot := {
    plannerTaskId :=
      if payload.plannerTaskId.isSome then textoOuNone payload.plannerTaskId else base.plannerTaskId
    assunto := campo payload.assunto base.assunto
    contexto := campo payload.contexto base.contexto
    estadoAtual := campo payload.estadoAtual base.estadoAtual
    decisao := campo payload.decisao base.decisao
    pendencia := campo payload.pendencia base.pendencia
    proximoPasso := campo payload.proximoPasso base.proximoPasso
    fonteUrl := campo payload.fonteUrl base.fonteUrl
    dataFonte := campo payload.dataFonte base.dataFonte
    validade := campo payload.validade base.validade
    plannerTitulo := campo payload.plannerTitulo base.plannerTitulo
    plannerStatus := campo payload.plannerStatus base.plannerStatus
    plannerPercentual := percentual
    plannerPrazo := campo payload.plannerPrazo base.plannerPrazo }
  return snapshot.comAssunto

/-- `planner_snapshot_recebido`: the state of a task, if the payload has all of it. -/
def plannerSnapshotRecebido (payload : Payload) : Option CamposPlanner := do
  let titulo ← payload.plannerTitulo
  let status ← payload.plannerStatus
  let percentual ← payload.plannerPercentual
  let prazo ← payload.plannerPrazo
  return {
    plannerTitulo := PyText.strip titulo
    plannerStatus := PyText.strip status
    plannerPercentual := percentual
    plannerPrazo := PyText.strip prazo }

/-! ## Hashes -/

/-- The entries of the four fields. -/
def CamposPlanner.entries (c : CamposPlanner) : List (String × Json) :=
  [("planner_titulo", .str c.plannerTitulo), ("planner_status", .str c.plannerStatus),
    ("planner_percentual", .num c.plannerPercentual), ("planner_prazo", .str c.plannerPrazo)]

/-- `planner_hash`. -/
def plannerHash (cfg : Config) (c : CamposPlanner) : String := cfg.hashJson (.obj c.entries)

/-- `content_hash`. -/
def contentHash (cfg : Config) (s : Snapshot) : String :=
  cfg.hashJson (.obj ([("planner_task_id", .ofOption s.plannerTaskId), ("assunto", .str s.assunto),
    ("contexto", .str s.contexto), ("estado_atual", .str s.estadoAtual),
    ("decisao", .str s.decisao), ("pendencia", .str s.pendencia),
    ("proximo_passo", .str s.proximoPasso), ("fonte_url", .str s.fonteUrl),
    ("data_fonte", .str s.dataFonte), ("validade", .str s.validade)] ++ s.entries))

/-- `gerar_memory_id`. -/
def gerarMemoryId (cfg : Config) (plannerTaskId : Option String) : String :=
  if texto plannerTaskId = "" then ""
  else "planner-" ++ PyText.take 24 (cfg.sha256 (texto plannerTaskId))

/-! ## Decisions -/

inductive Avaliacao
  | eco | conflito
  deriving DecidableEq

/-- `avaliar_planner_durante_pendencia`. -/
def avaliarPlannerDurantePendencia (cfg : Config) (payload : Payload)
    (plannerAppliedHash : String) : Except Erro Avaliacao :=
  match plannerSnapshotRecebido payload with
  | none => .error (.valueError
      "origem=planner exige estado completo: título, status, percentual e prazo")
  | some recebido =>
    .ok (if plannerHash cfg recebido = plannerAppliedHash then .eco else .conflito)

/-- What is stored about Planner. -/
structure EstadoPlanner where
  plannerAppliedHash : String := ""
  atualizarPlanner : Bool := false
  plannerSyncStatus : SyncStatus := .naoSolicitado
  ultimoErro : String := ""
  deriving DecidableEq

/-- `aplicar_decisao_planner`, of an item that Planner reports or that is to be sent to Planner. -/
def aplicarDecisaoPlanner (planner solicitarPlanner : Bool) (plannerTaskId : Option String)
    (novoPlannerHash : String) (atual : EstadoPlanner) : Except Erro EstadoPlanner :=
  if planner then
    .ok { plannerAppliedHash := novoPlannerHash, plannerSyncStatus := .sincronizado }
  else if solicitarPlanner then do
    require (texto plannerTaskId ≠ "")
      (.valueError "plannerTaskId é obrigatório para atualizar o Planner")
    if novoPlannerHash ≠ atual.plannerAppliedHash then
      return { plannerAppliedHash := atual.plannerAppliedHash, atualizarPlanner := true,
               plannerSyncStatus := .pendente }
    else
      return { plannerAppliedHash := atual.plannerAppliedHash, plannerSyncStatus := .sincronizado }
  else
    .ok { plannerAppliedHash := atual.plannerAppliedHash,
          plannerSyncStatus := atual.plannerSyncStatus }

/-! ## The state that Planner reports -/

theorem comAssunto_campos (s : Snapshot) : s.comAssunto.toCamposPlanner = s.toCamposPlanner := by
  rw [Snapshot.comAssunto]
  split <;> rfl

/-- **A complete report** determines the fields of Planner in the snapshot. -/
theorem campos_montarSnapshot {payload : Payload} {atual : Option Snapshot} {s : Snapshot}
    (h : montarSnapshot payload atual = .ok s) {recebido : CamposPlanner}
    (hrecebido : plannerSnapshotRecebido payload = some recebido) :
    s.toCamposPlanner = recebido := by
  obtain ⟨titulo, htitulo, hrecebido⟩ := Option.bind_eq_some_iff.mp hrecebido
  obtain ⟨status, hstatus, hrecebido⟩ := Option.bind_eq_some_iff.mp hrecebido
  obtain ⟨percentual, hpercentual, hrecebido⟩ := Option.bind_eq_some_iff.mp hrecebido
  obtain ⟨prazo, hprazo, hrecebido⟩ := Option.bind_eq_some_iff.mp hrecebido
  cases hrecebido
  obtain ⟨novo, hnovo, h⟩ := bind_eq_ok.mp h
  cases h
  have hnovo' : novo = percentual := by
    rw [hpercentual, campoPercentual] at hnovo
    split at hnovo
    · cases hnovo
    · exact (Except.ok.inj hnovo).symm
  rw [comAssunto_campos, htitulo, hstatus, hprazo, hnovo']
  rfl

end CopilotMemory

end ReqSys
