import Mathlib
import ReqSys.Foundation.Checked
import ReqSys.Foundation.PyText
import ReqSys.Foundation.Table

/-!
# The agile runtime: work items

A work item moves through sixteen states along `statusTransitions`. Two of them have a gate:
`pronto_para_sprint`, the definition of ready, and `concluido`, the definition of done. The gates
are evaluated by the transition that enters the state, and by nothing else. The fields that they
read are written by four other operations: the traceability update, the routing to an agent, the
registration of an evidence and the synchronization with the events of the code host.

The synchronization handles its events one by one. On the rows it is a map: each row is changed by
the events that are addressed to it, in their order (`rows_sincronizarWorkItemsGit`).
-/

namespace ReqSys

namespace Agile

open PyText

/-! ## Work items -/

inductive Tipo
  | epic
  | feature
  | story
  | task
  | bug
  | spike
  | risk
  | techDebt
  | adr
  deriving DecidableEq

def Tipo.texto : Tipo → String
  | epic => "epic"
  | feature => "feature"
  | story => "story"
  | task => "task"
  | bug => "bug"
  | spike => "spike"
  | risk => "risk"
  | techDebt => "tech_debt"
  | adr => "adr"

inductive Prioridade
  | p0
  | p1
  | p2
  | p3
  deriving DecidableEq

def Prioridade.texto : Prioridade → String
  | p0 => "P0"
  | p1 => "P1"
  | p2 => "P2"
  | p3 => "P3"

inductive Status
  | novo
  | refinando
  | prontoParaSprint
  | planejado
  | emExecucao
  | emRevisao
  | emCi
  | homologacao
  | evidenciado
  | producao
  | monitorado
  | concluido
  | bloqueado
  | reprovado
  | cancelado
  | reaberto
  deriving DecidableEq

def Status.texto : Status → String
  | novo => "novo"
  | refinando => "refinando"
  | prontoParaSprint => "pronto_para_sprint"
  | planejado => "planejado"
  | emExecucao => "em_execucao"
  | emRevisao => "em_revisao"
  | emCi => "em_ci"
  | homologacao => "homologacao"
  | evidenciado => "evidenciado"
  | producao => "producao"
  | monitorado => "monitorado"
  | concluido => "concluido"
  | bloqueado => "bloqueado"
  | reprovado => "reprovado"
  | cancelado => "cancelado"
  | reaberto => "reaberto"

/-- `STATUS_TRANSITIONS`. -/
def statusTransitions : Status → List Status
  | .novo => [.refinando, .cancelado]
  | .refinando => [.prontoParaSprint, .bloqueado, .cancelado]
  | .prontoParaSprint => [.planejado, .refinando, .bloqueado]
  | .planejado => [.emExecucao, .bloqueado, .cancelado]
  | .emExecucao => [.emRevisao, .bloqueado, .reprovado]
  | .emRevisao => [.emCi, .emExecucao, .reprovado]
  | .emCi => [.homologacao, .reprovado, .emExecucao]
  | .homologacao => [.evidenciado, .reprovado]
  | .evidenciado => [.producao, .reaberto]
  | .producao => [.monitorado, .reaberto]
  | .monitorado => [.concluido, .reaberto]
  | .concluido => [.reaberto]
  | .bloqueado => [.refinando, .planejado, .emExecucao, .cancelado]
  | .reprovado => [.emExecucao, .emRevisao, .emCi, .cancelado]
  | .cancelado => [.reaberto]
  | .reaberto => [.refinando, .emExecucao, .cancelado]

inductive ChangeProvider
  | github
  | gitlab
  deriving DecidableEq

inductive CiProvider
  | githubActions
  | gitlabCi
  | other
  deriving DecidableEq

inductive CiStatus
  | pending
  | running
  | success
  | failed
  | cancelled
  | unknown
  deriving DecidableEq

inductive AmbienteDeploy
  | dev
  | test
  | homolog
  | prod
  | none
  deriving DecidableEq

inductive DeployStatus
  | notStarted
  | deployed
  | failed
  | rolledBack
  | unknown
  deriving DecidableEq

/-- A row of `agile_work_items`. -/
structure AgileWorkItem where
  id : ℤ
  codigo : String
  tipo : Tipo
  titulo : String
  descricao : String
  status : Status := .novo
  prioridade : Prioridade
  pontos : ℕ
  valorNegocio : ℕ
  scoreRisco : ℕ
  ownerAi : Option String
  requisitoId : Option ℤ
  sprintId : Option ℤ
  parentId : Option ℤ
  criteriosAceite : Option String
  repositorio : Option String
  branch : Option String
  changeProvider : Option ChangeProvider := none
  changeId : Option String := none
  changeUrl : Option String := none
  ciProvider : Option CiProvider := none
  ciRunId : Option String := none
  ciStatus : CiStatus := .unknown
  ciUrl : Option String := none
  ambienteDeploy : AmbienteDeploy := .none
  deployStatus : DeployStatus := .notStarted
  deployUrl : Option String := none
  deriving DecidableEq

inductive TipoEvidencia
  | pr
  | mr
  | ci
  | deploy
  | teste
  | homologacao
  | monitoramento
  | auditoria
  | outro
  deriving DecidableEq

/-- The remark of an evidence: a text, or what the synchronization records of an event. -/
inductive Observacao
  | texto (s : String)
  | git (provedor repo referencia branch : Option String)
  deriving DecidableEq

/-- A row of `agile_evidences`. -/
structure AgileEvidence where
  id : ℕ
  workItemId : ℤ
  tipo : TipoEvidencia
  titulo : String
  url : Option String
  status : String
  observacao : Option Observacao
  correlationId : String
  criadoPor : Option String
  deriving DecidableEq

/-- The payload of an audit event. -/
inductive Carga
  | camposMinimizados
  | git (workItemCodigo : String) (tipo referencia url : Option String)
  deriving DecidableEq

/-- A row of `auditoria_eventos`. -/
structure AuditoriaEvento where
  correlationId : String
  usuario : String
  acao : String
  entidade : String
  entidadeId : String
  payloadMinimo : Carga
  deriving DecidableEq

/-- `agile_work_items`. Rows are not deleted, so the identifiers count the rows; identifiers and
codes are unique. -/
structure Tabela where
  rows : List AgileWorkItem := []
  keyed : Table.Keyed AgileWorkItem.id rows := by exact List.nodup_nil
  codigos : Table.Keyed AgileWorkItem.codigo rows := by exact List.nodup_nil
  below : ∀ r ∈ rows, r.id ≤ rows.length := by simp

namespace Tabela

/-- A new row, whose code is free. -/
def insert (t : Tabela) (novo : ℤ → AgileWorkItem)
    (hid : (novo (t.rows.length + 1)).id = t.rows.length + 1)
    (hcodigo : ∀ r ∈ t.rows, r.codigo ≠ (novo (t.rows.length + 1)).codigo) : Tabela where
  rows := t.rows ++ [novo (t.rows.length + 1)]
  keyed := t.keyed.concat fun r hr ↦ by
    rw [hid]
    exact (Int.lt_add_one_of_le (t.below r hr)).ne
  codigos := t.codigos.concat hcodigo
  below := by
    intro r hr
    rw [List.length_append, List.length_singleton, Nat.cast_add, Nat.cast_one]
    obtain hr | hr := List.mem_append.mp hr
    · exact (t.below r hr).trans (by omega)
    · rw [List.mem_singleton.mp hr, hid]

/-- Assignments to columns of a row, neither of them its identifier nor its code. -/
def alterar (t : Tabela) (id : ℤ) (f : AgileWorkItem → AgileWorkItem)
    (hid : ∀ r, (f r).id = r.id) (hcodigo : ∀ r, (f r).codigo = r.codigo) : Tabela where
  rows := Table.update AgileWorkItem.id id f t.rows
  keyed := t.keyed.keyed_update hid
  codigos := by
    rw [Table.Keyed, Table.map_update hcodigo]
    exact t.codigos
  below := by
    intro r hr
    rw [Table.update, List.length_map]
    obtain ⟨hr, -⟩ | ⟨r', hr', -, rfl⟩ := Table.mem_update hr
    · exact t.below r hr
    · rw [hid]
      exact t.below r' hr'

end Tabela

/-- The database. -/
structure Banco where
  itens : Tabela := {}
  evidencias : List AgileEvidence := []
  eventos : List AuditoriaEvento := []

/-! ## Gates -/

inductive Erro
  | naoEncontrado
  | transicaoInvalida (detail : String)
  | gate (gate : Status) (camposFaltantes : List String)
  | integrityError
  deriving DecidableEq

/-- The status code of the answer; the unique column is not handled. -/
def Erro.statusCode : Erro → ℕ
  | naoEncontrado => 404
  | transicaoInvalida _ => 409
  | gate _ _ => 422
  | integrityError => 500

/-- `item.evidencias`. -/
def Banco.evidenciasDe (b : Banco) (item : AgileWorkItem) : List AgileEvidence :=
  b.evidencias.filter fun e ↦ decide (e.workItemId = item.id)

/-- `faltantes`. -/
def camposFaltantes (item : AgileWorkItem) (evidencias : List AgileEvidence) :
    Status → List String
  | .prontoParaSprint =>
    (if truthy item.criteriosAceite then [] else ["criterios_aceite"]) ++
    (if item.sprintId.getD 0 ≠ 0 then [] else ["sprint_id"]) ++
    (if truthy item.ownerAi then [] else ["owner"]) ++
    (if item.pontos ≤ 0 then ["pontos"] else [])
  | .concluido =>
    (if truthy item.changeUrl then [] else ["change_url"]) ++
    (if item.ciStatus = .unknown then ["ci_status"] else []) ++
    (if item.ambienteDeploy = .none then ["ambiente_deploy"] else []) ++
    (if evidencias = [] then ["evidencias"] else [])
  | _ => []

/-- `_validar_gate`. -/
def validarGate (item : AgileWorkItem) (evidencias : List AgileEvidence) (destino : Status) :
    Except Erro Unit :=
  require (camposFaltantes item evidencias destino = [])
    (.gate destino (camposFaltantes item evidencias destino))

/-- The other states have no gate. -/
theorem camposFaltantes_of_ne {item : AgileWorkItem} {evidencias : List AgileEvidence}
    {destino : Status} (hpronto : destino ≠ .prontoParaSprint) (hconcluido : destino ≠ .concluido) :
    camposFaltantes item evidencias destino = [] := by
  rw [camposFaltantes] <;> assumption

/-- The gate of `pronto_para_sprint`. -/
theorem validarGate_prontoParaSprint {item : AgileWorkItem} {evidencias : List AgileEvidence} :
    validarGate item evidencias .prontoParaSprint = .ok () ↔
      truthy item.criteriosAceite ∧ item.sprintId.getD 0 ≠ 0 ∧ truthy item.ownerAi ∧
        0 < item.pontos := by
  rw [validarGate, require_eq_ok, camposFaltantes]
  simp only [List.append_eq_nil_iff, ite_eq_left_iff, ite_eq_right_iff, List.cons_ne_nil,
    imp_false, not_not, not_le, and_assoc]

/-- The gate of `concluido`. -/
theorem validarGate_concluido {item : AgileWorkItem} {evidencias : List AgileEvidence} :
    validarGate item evidencias .concluido = .ok () ↔
      truthy item.changeUrl ∧ item.ciStatus ≠ .unknown ∧ item.ambienteDeploy ≠ .none ∧
        evidencias ≠ [] := by
  rw [validarGate, require_eq_ok, camposFaltantes]
  simp only [List.append_eq_nil_iff, ite_eq_left_iff, ite_eq_right_iff, List.cons_ne_nil,
    imp_false, not_not, and_assoc, ne_eq]

/-! ## Routing to an agent -/

/-- A row of `_AGENT_RULES`. -/
structure Regra where
  ownerAi : String
  keywords : List String
  categoria : String
  pipeline : String
  deriving DecidableEq

/-- The last rule, which also applies where no keyword occurs. -/
def regraRequisitos : Regra where
  ownerAi := "analista-requisitos-ia"
  keywords := ["requisito", "story", "criterio", "gherkin", "ambiguo", "refinamento", "moscow",
    "dor", "dod"]
  categoria := "requisitos-refinamento"
  pipeline := "requirements-review"

/-- `_AGENT_RULES`. -/
def agentRules : List Regra :=
  [{ ownerAi := "security-ia"
     keywords := ["seguranca", "security", "lgpd", "vulnerabilidade", "jwt", "token", "secret",
       "permissao", "auth", "cors"]
     categoria := "seguranca-governanca"
     pipeline := "security-governance-gates" },
   { ownerAi := "devops-ia"
     keywords := ["ci", "cd", "deploy", "pipeline", "github", "gitlab", "workflow", "action", "fly",
       "docker", "release"]
     categoria := "devops-ci-cd"
     pipeline := "ci-cd-pipeline" },
   { ownerAi := "backend-ia"
     keywords := ["api", "endpoint", "fastapi", "sqlalchemy", "schema", "banco", "sql", "servico",
       "backend", "pydantic"]
     categoria := "backend-api"
     pipeline := "backend-ci" },
   { ownerAi := "frontend-ia"
     keywords := ["frontend", "tela", "view", "vue", "vite", "vuetify", "ux", "ui", "kanban",
       "dashboard", "responsivo"]
     categoria := "frontend-ux"
     pipeline := "frontend-ci" },
   { ownerAi := "qa-ia"
     keywords := ["teste", "testes", "pytest", "coverage", "qualidade", "validar", "evidencia",
       "regressao"]
     categoria := "qa-validacao"
     pipeline := "quality-gates" },
   { ownerAi := "arquiteto-ia"
     keywords := ["arquitetura", "adr", "desacoplamento", "governanca", "dominio", "hexagonal",
       "runtime"]
     categoria := "arquitetura"
     pipeline := "architecture-review" },
   regraRequisitos]

/-- The accents that `_normalizar_texto` replaces. -/
def semAcento : Char → Char
  | 'ç' => 'c'
  | 'ã' => 'a'
  | 'á' => 'a'
  | 'é' => 'e'
  | 'í' => 'i'
  | 'ó' => 'o'
  | 'ú' => 'u'
  | c => c

/-- `_normalizar_texto`. -/
def normalizarTexto (U : Unicode) (valor : String) : String :=
  String.ofList ((U.lower valor).toList.map semAcento)

/-- `_selecionar_regra`: the first rule with the most keywords in the text. -/
def selecionarRegra (texto : String) : Regra × List String :=
  agentRules.foldl
    (fun melhor regra ↦
      let hits := regra.keywords.filter fun keyword ↦ contains keyword texto
      if melhor.2.length < hits.length then (regra, hits) else melhor)
    (regraRequisitos, [])

/-- `_prioridade_recomendada`. -/
def prioridadeRecomendada (item : AgileWorkItem) : Prioridade :=
  if 85 ≤ item.scoreRisco ∨ 90 ≤ item.valorNegocio then .p0
  else if 60 ≤ item.scoreRisco ∨ 70 ≤ item.valorNegocio ∨ 8 ≤ item.pontos then .p1
  else item.prioridade

/-- `re.sub` of every maximal run of characters of a class by a hyphen. -/
def subCorridas (p : Char → Bool) : Bool → List Char → List Char
  | _, [] => []
  | dentro, c :: cs =>
    if p c then
      if dentro then subCorridas p true cs else '-' :: subCorridas p true cs
    else c :: subCorridas p false cs

/-- `str.strip('-')`. -/
def stripHifens (cs : List Char) : List Char :=
  (cs.dropWhile fun c ↦ c == '-').rdropWhile fun c ↦ c == '-'

/-- `_slug`. -/
def slug (U : Unicode) (valor : String) : String :=
  let normalizado := (normalizarTexto U valor).toList
  let normalizado := subCorridas (fun c ↦ !(c.isLower || c.isDigit)) false normalizado
  let normalizado := stripHifens (subCorridas (fun c ↦ c == '-') false normalizado)
  if normalizado = [] then "work-item" else String.ofList normalizado

/-- The directory of the branches of an agent. -/
def prefixoDe (ownerAi : String) : String :=
  (List.lookup ownerAi
    [("security-ia", "security"), ("devops-ia", "ci"), ("backend-ia", "backend"),
     ("frontend-ia", "frontend"), ("qa-ia", "test"), ("arquiteto-ia", "arch"),
     ("analista-requisitos-ia", "req")]).getD "agile"

/-- `_branch_sugerida`. -/
def branchSugerida (U : Unicode) (item : AgileWorkItem) (ownerAi : String) : String :=
  let codigo := slug U (if item.codigo = "" then s!"agi-{item.id}" else item.codigo)
  let titulo := take 48 (slug U (if item.titulo = "" then "work-item" else item.titulo))
  String.ofList (stripHifens s!"feature/{prefixoDe ownerAi}/{codigo}-{titulo}".toList)

/-- `_calcular_confianca`, in hundredths. -/
def calcularConfianca (item : AgileWorkItem) (hits : List String) : ℕ :=
  let base := 45 + min hits.length 6 * 7 + 4 + (if truthy item.criteriosAceite then 5 else 0)
  let base := if 70 ≤ item.scoreRisco then base - 4 else base
  max 35 (min base 95)

/-- The confidence as it is printed. -/
def textoConfianca (confianca : ℕ) : String :=
  if confianca % 10 = 0 then s!"0.{confianca / 10}" else s!"0.{confianca}"

/-- `sorted`, of texts. -/
def ordenados (textos : List String) : List String :=
  textos.mergeSort fun s t ↦ decide (s ≤ t)

/-- `_labels`. -/
def labels (item : AgileWorkItem) (regra : Regra) (prioridade : Prioridade) : List String :=
  let risco := if 70 ≤ item.scoreRisco then "alto" else if 35 ≤ item.scoreRisco then "medio"
    else "baixo"
  let tipo := String.ofList (item.tipo.texto.toList.map fun c ↦ if c = '_' then '-' else c)
  ordenados
    ["agile-runtime", "multi-ia-router", s!"ai:{regra.ownerAi}", s!"categoria:{regra.categoria}",
     s!"prioridade:{asciiLower prioridade.texto}", s!"risco:{risco}", s!"tipo:{tipo}"]

/-- `_acoes_recomendadas`. -/
def acoesRecomendadas (regra : Regra) (item : AgileWorkItem) : List String :=
  ["Registrar owner IA sugerido no work item.",
   "Aplicar labels sugeridas no issue/PR/MR quando houver integração externa ativa.",
   "Criar ou reaproveitar branch sugerida antes da execução técnica.",
   s!"Usar pipeline recomendado: {regra.pipeline}."] ++
  (if regra.ownerAi ∈ ["security-ia", "devops-ia"] ∨ 70 ≤ item.scoreRisco then
    ["Exigir revisão humana antes de merge/deploy."] else []) ++
  (if regra.ownerAi = "qa-ia" then
    ["Adicionar evidência de teste automatizado ao Agile Runtime."] else [])

structure AgileAIRoutingRecommendation where
  ownerAi : String
  categoria : String
  labels : List String
  branchSugerida : String
  pipelineSugerido : String
  prioridadeSugerida : Prioridade
  confianca : ℕ
  justificativas : List String
  acoesRecomendadas : List String
  deriving DecidableEq

/-- `recomendar_roteamento_multi_ia`. -/
def recomendarRoteamentoMultiIa (U : Unicode) (item : AgileWorkItem) :
    AgileAIRoutingRecommendation :=
  let texto := normalizarTexto U (" ".intercalate
    [item.tipo.texto, item.titulo, item.descricao, item.criteriosAceite.getD "",
     item.repositorio.getD "", item.branch.getD ""])
  let regra := (selecionarRegra texto).1
  let hits := (selecionarRegra texto).2
  let prioridade := prioridadeRecomendada item
  { ownerAi := regra.ownerAi
    categoria := regra.categoria
    labels := labels item regra prioridade
    branchSugerida :=
      if truthy item.branch then item.branch.getD "" else branchSugerida U item regra.ownerAi
    pipelineSugerido := regra.pipeline
    prioridadeSugerida := prioridade
    confianca := calcularConfianca item hits
    justificativas :=
      [s!"Classificacao por categoria operacional: {regra.categoria}.",
       s!"IA destino sugerida: {regra.ownerAi}.",
       s!"Pipeline recomendado: {regra.pipeline}."] ++
      (if hits = [] then [] else
        ["Termos detectados: " ++ ", ".intercalate ((ordenados hits).take 8) ++ "."]) ++
      (if 70 ≤ item.scoreRisco then
        ["Risco alto detectado; manter revisão humana obrigatória antes de merge."] else [])
    acoesRecomendadas := acoesRecomendadas regra item }

/-- The rule that is selected is one of the rules. -/
theorem selecionarRegra_mem (texto : String) : (selecionarRegra texto).1 ∈ agentRules := by
  have hfold : ∀ (regras : List Regra) (melhor : Regra × List String), melhor.1 ∈ agentRules →
      regras ⊆ agentRules → (regras.foldl
        (fun melhor regra ↦
          let hits := regra.keywords.filter fun keyword ↦ contains keyword texto
          if melhor.2.length < hits.length then (regra, hits) else melhor) melhor).1
        ∈ agentRules := by
    intro regras
    induction regras with
    | nil => exact fun _ h _ ↦ h
    | cons regra regras ih =>
      intro melhor hmelhor hsub
      rw [List.foldl_cons]
      apply ih
      · dsimp only
        split
        · exact hsub List.mem_cons_self
        · exact hmelhor
      · exact fun r hr ↦ hsub (List.mem_cons_of_mem _ hr)
  exact hfold agentRules _ (by simp [agentRules]) (List.Subset.refl _)

/-- The routing names the agent of a rule. -/
theorem exists_regra (U : Unicode) (item : AgileWorkItem) :
    ∃ regra ∈ agentRules, (recomendarRoteamentoMultiIa U item).ownerAi = regra.ownerAi :=
  ⟨_, selecionarRegra_mem _, rfl⟩

theorem truthy_ownerAi (U : Unicode) (item : AgileWorkItem) :
    truthy (some (recomendarRoteamentoMultiIa U item).ownerAi) = true := by
  obtain ⟨regra, hregra, howner⟩ := exists_regra U item
  have hall : ∀ regra ∈ agentRules, truthy (some regra.ownerAi) = true := by decide +kernel
  rw [howner]
  exact hall regra hregra

/-! ## Operations -/

/-- `_codigo`, at a reading of `time_ns`. -/
def codigoDe (rotulo : String) (timeNs : ℕ) : String :=
  rotulo ++ "-" ++ String.ofList (timeNs.repr.toList.rtake 9)

/-- `AgileWorkItemCriar`. -/
structure AgileWorkItemCriar where
  tipo : Tipo := .story
  titulo : String
  descricao : String
  prioridade : Prioridade := .p2
  pontos : ℕ := 0
  valorNegocio : ℕ := 0
  scoreRisco : ℕ := 0
  ownerAi : Option String := none
  requisitoId : Option ℤ := none
  sprintId : Option ℤ := none
  parentId : Option ℤ := none
  criteriosAceite : Option String := none
  repositorio : Option String := none
  branch : Option String := none
  titulo_length : 5 ≤ titulo.length ∧ titulo.length ≤ 220 := by decide
  descricao_length : 10 ≤ descricao.length := by decide
  pontos_le : pontos ≤ 100 := by decide
  valorNegocio_le : valorNegocio ≤ 100 := by decide
  scoreRisco_le : scoreRisco ≤ 100 := by decide
  ownerAi_length : ∀ s ∈ ownerAi, s.length ≤ 80 := by decide
  repositorio_length : ∀ s ∈ repositorio, s.length ≤ 220 := by decide
  branch_length : ∀ s ∈ branch, s.length ≤ 160 := by decide

/-- `AgileWorkItem(codigo=…, **payload.model_dump())`. -/
def AgileWorkItemCriar.item (p : AgileWorkItemCriar) (codigo : String) (id : ℤ) :
    AgileWorkItem where
  id := id
  codigo := codigo
  tipo := p.tipo
  titulo := p.titulo
  descricao := p.descricao
  prioridade := p.prioridade
  pontos := p.pontos
  valorNegocio := p.valorNegocio
  scoreRisco := p.scoreRisco
  ownerAi := p.ownerAi
  requisitoId := p.requisitoId
  sprintId := p.sprintId
  parentId := p.parentId
  criteriosAceite := p.criteriosAceite
  repositorio := p.repositorio
  branch := p.branch

/-- `AgileWorkflowTransicao`; the reason is not read. -/
structure AgileWorkflowTransicao where
  status : Status

/-- `AgileTraceabilityAtualizar`. -/
structure AgileTraceabilityAtualizar where
  repositorio : Option String := none
  branch : Option String := none
  changeProvider : Option ChangeProvider := none
  changeId : Option String := none
  changeUrl : Option String := none
  ciProvider : Option CiProvider := none
  ciRunId : Option String := none
  ciStatus : CiStatus := .unknown
  ciUrl : Option String := none
  ambienteDeploy : AmbienteDeploy := .none
  deployStatus : DeployStatus := .notStarted
  deployUrl : Option String := none
  repositorio_length : ∀ s ∈ repositorio, s.length ≤ 220 := by decide
  branch_length : ∀ s ∈ branch, s.length ≤ 160 := by decide
  changeId_length : ∀ s ∈ changeId, s.length ≤ 80 := by decide
  ciRunId_length : ∀ s ∈ ciRunId, s.length ≤ 120 := by decide

/-- `setattr(item, campo, valor)`, for every field of the payload, given or not. -/
def AgileTraceabilityAtualizar.aplicar (p : AgileTraceabilityAtualizar) (item : AgileWorkItem) :
    AgileWorkItem :=
  { item with
    repositorio := p.repositorio
    branch := p.branch
    changeProvider := p.changeProvider
    changeId := p.changeId
    changeUrl := p.changeUrl
    ciProvider := p.ciProvider
    ciRunId := p.ciRunId
    ciStatus := p.ciStatus
    ciUrl := p.ciUrl
    ambienteDeploy := p.ambienteDeploy
    deployStatus := p.deployStatus
    deployUrl := p.deployUrl }

/-- `AgileEvidenceCriar`. -/
structure AgileEvidenceCriar where
  tipo : TipoEvidencia
  titulo : String
  url : Option String := none
  status : String := "registrada"
  observacao : Option String := none
  criadoPor : Option String := none
  titulo_length : 5 ≤ titulo.length ∧ titulo.length ≤ 220 := by decide
  status_length : status.length ≤ 30 := by decide
  criadoPor_length : ∀ s ∈ criadoPor, s.length ≤ 120 := by decide

/-- An event of the code host, as `git_parser` makes it. -/
structure EventoGit where
  workItemCodigo : Option String
  tipo : Option String
  provedor : Option String
  repo : Option String
  branch : Option String
  referencia : Option String
  url : Option String
  ambiente : Option String
  autor : Option String
  prMerged : Bool := false
  mrMerged : Bool := false
  deriving DecidableEq

/-- `_mapear_ambiente_deploy`. -/
def mapearAmbienteDeploy (ambiente : Option String) : AmbienteDeploy :=
  (List.lookup ambiente
    [(some "dev", .dev), (some "staging", .homolog), (some "prod", .prod)]).getD .none

namespace EventoGit

/-- `(evento.get('work_item_codigo') or '').upper()`. -/
def codigo (U : Unicode) (e : EventoGit) : String :=
  if truthy e.workItemCodigo then U.upper (e.workItemCodigo.getD "") else U.upper ""

/-- `evento.get('tipo') in {'pr', 'merge_request'}`. -/
def deMudanca (e : EventoGit) : Bool := decide (e.tipo ∈ [some "pr", some "merge_request"])

/-- `evento.get('pr_merged') or evento.get('mr_merged')`. -/
def merged (e : EventoGit) : Bool := e.prMerged || e.mrMerged

/-- What an event assigns to the work item that it is addressed to. -/
def aplicar (e : EventoGit) (item : AgileWorkItem) : AgileWorkItem :=
  { item with
    repositorio := if truthy e.repo then e.repo else item.repositorio
    branch := if truthy e.branch then e.branch else item.branch
    changeProvider :=
      if e.deMudanca then
        some (if e.provedor.getD "github" = "gitlab" then .gitlab else .github)
      else item.changeProvider
    changeId := if e.deMudanca then e.referencia else item.changeId
    changeUrl := if e.deMudanca then e.url else item.changeUrl
    ambienteDeploy :=
      if mapearAmbienteDeploy e.ambiente ≠ .none then mapearAmbienteDeploy e.ambiente
      else item.ambienteDeploy
    status :=
      if e.merged ∧ item.status ∈ [.emExecucao, .emRevisao] then .emCi else item.status
    ciStatus := if e.merged then .pending else item.ciStatus }

/-- The evidence of an event. -/
def evidencia (e : EventoGit) (id : ℕ) (item : AgileWorkItem) : AgileEvidence where
  id := id
  workItemId := item.id
  tipo := if e.deMudanca then .pr else .auditoria
  titulo := "Git " ++ e.tipo.getD "evento" ++ " detectado via webhook"
  url := e.url
  status := "sincronizado"
  observacao := some (.git e.provedor e.repo e.referencia e.branch)
  correlationId := "webhook"
  criadoPor := some (if truthy e.autor then e.autor.getD "" else "git-webhook")

/-- The audit event of an event. -/
def auditoria (U : Unicode) (e : EventoGit) (item : AgileWorkItem) : AuditoriaEvento where
  correlationId := "webhook"
  usuario := if truthy e.autor then e.autor.getD "" else "git"
  acao := "AGILE_WORK_ITEM_SINCRONIZADO_VIA_GIT"
  entidade := "agile_work_item"
  entidadeId := toString item.id
  payloadMinimo := .git (e.codigo U) e.tipo e.referencia e.url

end EventoGit

/-- What a call answers. -/
inductive Resposta
  | workItem (item : AgileWorkItem)
  | evidence (evidencia : AgileEvidence)
  | routing (item : AgileWorkItem) (recomendacao : AgileAIRoutingRecommendation)
  | ids (ids : List ℤ)
  deriving DecidableEq

/-- `x_correlation_id or 'sem-correlation-id'`. -/
def correlacao (xCorrelationId : Option String) : String :=
  if truthy xCorrelationId then xCorrelationId.getD "" else "sem-correlation-id"

namespace Banco

/-- `_get_work_item`. -/
def getWorkItem (b : Banco) (id : ℤ) : Except Erro AgileWorkItem :=
  orThrow (Table.lookup AgileWorkItem.id id b.itens.rows) .naoEncontrado

/-- `registrar_evento`, on a work item. -/
def registrarEvento (b : Banco) (x : Option String) (usuario acao : String) (item : AgileWorkItem) :
    Banco :=
  { b with
    eventos := b.eventos ++
      [{ correlationId := correlacao x
         usuario := usuario
         acao := acao
         entidade := "agile_work_item"
         entidadeId := toString item.id
         payloadMinimo := .camposMinimizados }] }

/-- `criar_work_item`. -/
def criarWorkItem (b : Banco) (timeNs : ℕ) (p : AgileWorkItemCriar) (x : Option String) :
    Except Erro (Banco × Resposta) :=
  let codigo := codigoDe "AGI" timeNs
  let item := p.item codigo (b.itens.rows.length + 1)
  if h : ∀ r ∈ b.itens.rows, r.codigo ≠ codigo then
    let b := { b with itens := b.itens.insert (p.item codigo) rfl h }
    .ok (b.registrarEvento x "agile-runtime" "AGILE_WORK_ITEM_CRIADO" item, .workItem item)
  else .error .integrityError

/-- `transicionar_work_item`. -/
def transicionarWorkItem (b : Banco) (id : ℤ) (p : AgileWorkflowTransicao) (x : Option String) :
    Except Erro (Banco × Resposta) := do
  let item ← b.getWorkItem id
  require (p.status ∈ statusTransitions item.status)
    (.transicaoInvalida s!"Transicao invalida: {item.status.texto} -> {p.status.texto}")
  validarGate item (b.evidenciasDe item) p.status
  let b := { b with
    itens := b.itens.alterar id (fun r ↦ { r with status := p.status }) (fun _ ↦ rfl)
      (fun _ ↦ rfl) }
  .ok (b.registrarEvento x "agile-runtime" "AGILE_WORKFLOW_TRANSICIONADO" item,
    .workItem { item with status := p.status })

/-- `atualizar_rastreabilidade`. -/
def atualizarRastreabilidade (b : Banco) (id : ℤ) (p : AgileTraceabilityAtualizar)
    (x : Option String) : Except Erro (Banco × Resposta) := do
  let item ← b.getWorkItem id
  let b := { b with itens := b.itens.alterar id p.aplicar (fun _ ↦ rfl) (fun _ ↦ rfl) }
  .ok (b.registrarEvento x "agile-runtime" "AGILE_TRACEABILITY_ATUALIZADA" item,
    .workItem (p.aplicar item))

/-- `criar_evidencia`. -/
def criarEvidencia (b : Banco) (id : ℤ) (p : AgileEvidenceCriar) (x : Option String) :
    Except Erro (Banco × Resposta) := do
  let item ← b.getWorkItem id
  let evidencia : AgileEvidence :=
    { id := b.evidencias.length + 1
      workItemId := item.id
      tipo := p.tipo
      titulo := p.titulo
      url := p.url
      status := p.status
      observacao := p.observacao.map Observacao.texto
      correlationId := correlacao x
      criadoPor := p.criadoPor }
  .ok ({ b with
    evidencias := b.evidencias ++ [evidencia]
    eventos := b.eventos ++
      [{ correlationId := correlacao x
         usuario := if truthy p.criadoPor then p.criadoPor.getD "" else "agile-runtime"
         acao := "AGILE_EVIDENCIA_REGISTRADA"
         entidade := "agile_evidence"
         entidadeId := toString evidencia.id
         payloadMinimo := .camposMinimizados }] }, .evidence evidencia)

/-- What the routing assigns to the work item. -/
def roteado (r : AgileAIRoutingRecommendation) (item : AgileWorkItem) : AgileWorkItem :=
  { item with
    ownerAi := some r.ownerAi
    prioridade := r.prioridadeSugerida
    branch := if truthy item.branch then item.branch else some r.branchSugerida }

theorem id_roteado (r : AgileAIRoutingRecommendation) (item : AgileWorkItem) :
    (roteado r item).id = item.id := rfl

theorem codigo_roteado (r : AgileAIRoutingRecommendation) (item : AgileWorkItem) :
    (roteado r item).codigo = item.codigo := rfl

/-- The evidence of a routing. -/
def evidenciaRoteamento (r : AgileAIRoutingRecommendation) (id : ℕ) (item : AgileWorkItem)
    (x : Option String) : AgileEvidence where
  id := id
  workItemId := item.id
  tipo := .auditoria
  titulo := "Roteamento Multi-IA aplicado"
  url := none
  status := "aplicado"
  observacao := some (.texto
    (s!"owner_ai={r.ownerAi}; categoria={r.categoria}; pipeline={r.pipelineSugerido}; " ++
      s!"confianca={textoConfianca r.confianca}"))
  correlationId := correlacao x
  criadoPor := some "multi-ia-sprint-router"

/-- `aplicar_roteamento_multi_ia`. -/
def aplicarRoteamentoMultiIa (U : Unicode) (b : Banco) (id : ℤ) (x : Option String) :
    Except Erro (Banco × Resposta) := do
  let item ← b.getWorkItem id
  let routing := recomendarRoteamentoMultiIa U item
  let b := { b with
    itens := b.itens.alterar id (roteado routing) (id_roteado routing) (codigo_roteado routing)
    evidencias := b.evidencias ++
      [evidenciaRoteamento routing (b.evidencias.length + 1) item x] }
  .ok (b.registrarEvento x "multi-ia-sprint-router" "AGILE_MULTI_IA_ROUTING_APLICADO" item,
    .routing item routing)

/-- The body of the loop of `sincronizar_work_items_git`. -/
def sincronizarEvento (U : Unicode) (b : Banco) (e : EventoGit) : Banco × Option ℤ :=
  if e.codigo U = "" then (b, none)
  else match Table.lookup AgileWorkItem.codigo (e.codigo U) b.itens.rows with
    | none => (b, none)
    | some item =>
      ({ itens := b.itens.alterar item.id e.aplicar (fun _ ↦ rfl) (fun _ ↦ rfl)
         evidencias := b.evidencias ++ [e.evidencia (b.evidencias.length + 1) item]
         eventos := b.eventos ++ [e.auditoria U item] }, some item.id)

/-- `sincronizar_work_items_git`. -/
def sincronizarWorkItemsGit (U : Unicode) (b : Banco) (eventos : List EventoGit) :
    Banco × List ℤ :=
  eventos.foldl
    (fun acc e ↦ ((sincronizarEvento U acc.1 e).1,
      acc.2 ++ (sincronizarEvento U acc.1 e).2.toList))
    (b, [])

end Banco

/-! ## Runs -/

/-- A call of an operation. -/
inductive Chamada
  | criarWorkItem (timeNs : ℕ) (p : AgileWorkItemCriar) (x : Option String)
  | transicionarWorkItem (id : ℤ) (p : AgileWorkflowTransicao) (x : Option String)
  | atualizarRastreabilidade (id : ℤ) (p : AgileTraceabilityAtualizar) (x : Option String)
  | criarEvidencia (id : ℤ) (p : AgileEvidenceCriar) (x : Option String)
  | aplicarRoteamentoMultiIa (id : ℤ) (x : Option String)
  | sincronizarWorkItemsGit (eventos : List EventoGit)

/-- What a call answers, with the database after it. -/
def Chamada.resultado (U : Unicode) (b : Banco) : Chamada → Except Erro (Banco × Resposta)
  | .criarWorkItem timeNs p x => b.criarWorkItem timeNs p x
  | .transicionarWorkItem id p x => b.transicionarWorkItem id p x
  | .atualizarRastreabilidade id p x => b.atualizarRastreabilidade id p x
  | .criarEvidencia id p x => b.criarEvidencia id p x
  | .aplicarRoteamentoMultiIa id x => b.aplicarRoteamentoMultiIa U id x
  | .sincronizarWorkItemsGit eventos =>
    .ok ((b.sincronizarWorkItemsGit U eventos).1, .ids (b.sincronizarWorkItemsGit U eventos).2)

/-- The database after a call; a call that is refused leaves it alone. -/
def Banco.chamar (U : Unicode) (b : Banco) (c : Chamada) : Banco :=
  match c.resultado U b with
  | .ok (b, _) => b
  | .error _ => b

/-- The database after a list of calls. -/
def Banco.chamadas (U : Unicode) (cs : List Chamada) : Banco := cs.foldl (Banco.chamar U) {}

/-! ## The effect on a row -/

/-- An event is addressed to a work item. -/
def EventoGit.enderecado (U : Unicode) (e : EventoGit) (r : AgileWorkItem) : Bool :=
  decide (r.codigo = e.codigo U) && decide (e.codigo U ≠ "")

/-- The loop of the synchronization, on one row. -/
def sincronizado (U : Unicode) (eventos : List EventoGit) (r : AgileWorkItem) : AgileWorkItem :=
  eventos.foldl (fun r e ↦ if e.enderecado U r then e.aplicar r else r) r

/-- What a call does to a row. -/
def Chamada.efeito (U : Unicode) (b : Banco) : Chamada → AgileWorkItem → AgileWorkItem
  | .criarWorkItem _ _ _, r => r
  | .transicionarWorkItem id p _, r =>
    if r.id = id ∧ p.status ∈ statusTransitions r.status ∧
        camposFaltantes r (b.evidenciasDe r) p.status = [] then
      { r with status := p.status }
    else r
  | .atualizarRastreabilidade id p _, r => if r.id = id then p.aplicar r else r
  | .criarEvidencia _ _ _, r => r
  | .aplicarRoteamentoMultiIa id _, r =>
    if r.id = id then Banco.roteado (recomendarRoteamentoMultiIa U r) r else r
  | .sincronizarWorkItemsGit eventos, r => sincronizado U eventos r

variable {U : Unicode} {b : Banco}

/-- A function that leaves every row alone. -/
private theorem map_rows_eq {f : AgileWorkItem → AgileWorkItem} (h : ∀ r ∈ b.itens.rows, f r = r) :
    b.itens.rows.map f = b.itens.rows :=
  (List.map_congr_left h).trans (List.map_id _)

/-- The row of an identifier is the only one. -/
theorem Banco.getWorkItem_eq_ok {id : ℤ} {item : AgileWorkItem}
    (h : b.getWorkItem id = .ok item) :
    item ∈ b.itens.rows ∧ item.id = id ∧ ∀ r ∈ b.itens.rows, r.id = id → r = item := by
  rw [Banco.getWorkItem, orThrow_eq_ok] at h
  have hmem := Table.mem_of_lookup h
  have hid := Table.key_of_lookup h
  exact ⟨hmem, hid, fun r hr hrid ↦ b.itens.keyed.eq_of_key_eq hr hmem (hrid.trans hid.symm)⟩

theorem Banco.getWorkItem_of_forall_ne {id : ℤ} {e : Erro} (h : b.getWorkItem id = .error e) :
    ∀ r ∈ b.itens.rows, r.id ≠ id := by
  intro r hr hid
  obtain ⟨item, hitem⟩ := Table.exists_lookup hr hid
  rw [Banco.getWorkItem, hitem] at h
  cases h

/-- One event: the row it is addressed to is changed. -/
theorem rows_sincronizarEvento (e : EventoGit) :
    (b.sincronizarEvento U e).1.itens.rows
      = b.itens.rows.map fun r ↦ if e.enderecado U r then e.aplicar r else r := by
  rw [Banco.sincronizarEvento]
  split_ifs with hcodigo
  · refine (map_rows_eq fun r _ ↦ if_neg ?_).symm
    simp [EventoGit.enderecado, hcodigo]
  · rcases hlookup : Table.lookup AgileWorkItem.codigo (e.codigo U) b.itens.rows with _ | item
    · refine (map_rows_eq fun r hr ↦ if_neg ?_).symm
      simp [EventoGit.enderecado, Table.ne_key_of_lookup_none hlookup hr]
    · have hitem := Table.mem_of_lookup hlookup
      refine List.map_congr_left fun r hr ↦ ?_
      -- identifiers and codes single out the same row
      have hiff : r.id = item.id ↔ e.enderecado U r = true := by
        rw [EventoGit.enderecado, decide_eq_true hcodigo, Bool.and_true, decide_eq_true_iff,
          ← Table.key_of_lookup hlookup]
        constructor
        · intro h
          rw [b.itens.keyed.eq_of_key_eq hr hitem h]
        · intro h
          rw [b.itens.codigos.eq_of_key_eq hr hitem h]
      simp only [hiff]

/-- **Synchronization.** Each row is changed by the events that are addressed to it. -/
theorem rows_sincronizarWorkItemsGit (eventos : List EventoGit) :
    (b.sincronizarWorkItemsGit U eventos).1.itens.rows
      = b.itens.rows.map (sincronizado U eventos) := by
  have hfold : ∀ (b : Banco) (ids : List ℤ), (eventos.foldl
      (fun acc e ↦ ((Banco.sincronizarEvento U acc.1 e).1,
        acc.2 ++ (Banco.sincronizarEvento U acc.1 e).2.toList)) (b, ids)).1.itens.rows
      = b.itens.rows.map (sincronizado U eventos) := by
    induction eventos with
    | nil => exact fun b _ ↦ (map_rows_eq fun _ _ ↦ rfl).symm
    | cons e eventos ih =>
      intro b ids
      rw [List.foldl_cons, ih, rows_sincronizarEvento, List.map_map]
      rfl
  exact hfold b []

/-- **Effect of a call.** Every row is changed by itself, and a row that is added is new. -/
theorem rows_chamar (c : Chamada) :
    ∃ novos, (b.chamar U c).itens.rows = b.itens.rows.map (c.efeito U b) ++ novos ∧
      ∀ r ∈ novos, r.status = .novo := by
  cases c with
  | criarWorkItem timeNs p x =>
    have hmap : b.itens.rows.map (Chamada.efeito U b (.criarWorkItem timeNs p x))
        = b.itens.rows := map_rows_eq fun _ _ ↦ rfl
    rw [hmap, Banco.chamar, Chamada.resultado, Banco.criarWorkItem]
    split_ifs with hcodigo
    · exact ⟨[_], rfl, fun r hr ↦ by rw [List.mem_singleton.mp hr]; rfl⟩
    · exact ⟨[], (List.append_nil _).symm, fun r hr ↦ absurd hr List.not_mem_nil⟩
  | transicionarWorkItem id p x =>
    refine ⟨[], ?_, fun r hr ↦ absurd hr List.not_mem_nil⟩
    rw [List.append_nil, Banco.chamar, Chamada.resultado, Banco.transicionarWorkItem]
    rcases hget : b.getWorkItem id with e | item
    · refine (map_rows_eq fun r hr ↦ if_neg ?_).symm
      exact fun h ↦ Banco.getWorkItem_of_forall_ne hget r hr h.1
    · obtain ⟨hitem, hid, hunico⟩ := Banco.getWorkItem_eq_ok hget
      by_cases hproximo : p.status ∈ statusTransitions item.status
      · by_cases hgate : camposFaltantes item (b.evidenciasDe item) p.status = []
        · simp only [bind, Except.bind, validarGate, require, if_pos hproximo, if_pos hgate]
          refine List.map_congr_left fun r hr ↦ ?_
          by_cases hr' : r.id = id
          · rw [if_pos hr', Chamada.efeito, if_pos]
            rw [hunico r hr hr']
            exact ⟨hid, hproximo, hgate⟩
          · rw [if_neg hr', Chamada.efeito, if_neg fun h ↦ hr' h.1]
        · simp only [bind, Except.bind, validarGate, require, if_pos hproximo, if_neg hgate]
          refine (map_rows_eq fun r hr ↦ if_neg ?_).symm
          rintro ⟨hr', -, h⟩
          rw [hunico r hr hr'] at h
          exact hgate h
      · simp only [bind, Except.bind, require, if_neg hproximo]
        refine (map_rows_eq fun r hr ↦ if_neg ?_).symm
        rintro ⟨hr', h, -⟩
        rw [hunico r hr hr'] at h
        exact hproximo h
  | atualizarRastreabilidade id p x =>
    refine ⟨[], ?_, fun r hr ↦ absurd hr List.not_mem_nil⟩
    rw [List.append_nil, Banco.chamar, Chamada.resultado, Banco.atualizarRastreabilidade]
    rcases hget : b.getWorkItem id with e | item
    · exact (map_rows_eq fun r hr ↦ if_neg (Banco.getWorkItem_of_forall_ne hget r hr)).symm
    · rfl
  | criarEvidencia id p x =>
    refine ⟨[], ?_, fun r hr ↦ absurd hr List.not_mem_nil⟩
    have hmap : b.itens.rows.map (Chamada.efeito U b (.criarEvidencia id p x)) = b.itens.rows :=
      map_rows_eq fun _ _ ↦ rfl
    rw [List.append_nil, hmap, Banco.chamar, Chamada.resultado, Banco.criarEvidencia]
    rcases hget : b.getWorkItem id with e | item <;> rfl
  | aplicarRoteamentoMultiIa id x =>
    refine ⟨[], ?_, fun r hr ↦ absurd hr List.not_mem_nil⟩
    rw [List.append_nil, Banco.chamar, Chamada.resultado, Banco.aplicarRoteamentoMultiIa]
    rcases hget : b.getWorkItem id with e | item
    · exact (map_rows_eq fun r hr ↦ if_neg (Banco.getWorkItem_of_forall_ne hget r hr)).symm
    · obtain ⟨-, -, hunico⟩ := Banco.getWorkItem_eq_ok hget
      refine List.map_congr_left fun r hr ↦ ?_
      by_cases hr' : r.id = id
      · rw [if_pos hr', Chamada.efeito, if_pos hr', hunico r hr hr']
      · rw [if_neg hr', Chamada.efeito, if_neg hr']
  | sincronizarWorkItemsGit eventos =>
    refine ⟨[], ?_, fun r hr ↦ absurd hr List.not_mem_nil⟩
    rw [List.append_nil]
    exact rows_sincronizarWorkItemsGit eventos

theorem id_sincronizado (eventos : List EventoGit) (r : AgileWorkItem) :
    (sincronizado U eventos r).id = r.id := by
  induction eventos generalizing r with
  | nil => rfl
  | cons e eventos ih =>
    rw [sincronizado, List.foldl_cons, ← sincronizado, ih]
    split <;> rfl

theorem codigo_sincronizado (eventos : List EventoGit) (r : AgileWorkItem) :
    (sincronizado U eventos r).codigo = r.codigo := by
  induction eventos generalizing r with
  | nil => rfl
  | cons e eventos ih =>
    rw [sincronizado, List.foldl_cons, ← sincronizado, ih]
    split <;> rfl

/-- The identifier of a row stays. -/
theorem id_efeito (c : Chamada) (r : AgileWorkItem) : (c.efeito U b r).id = r.id := by
  cases c with
  | criarWorkItem timeNs p x => rfl
  | transicionarWorkItem id p x =>
    rw [Chamada.efeito]
    split <;> rfl
  | atualizarRastreabilidade id p x =>
    rw [Chamada.efeito]
    split <;> rfl
  | criarEvidencia id p x => rfl
  | aplicarRoteamentoMultiIa id x =>
    rw [Chamada.efeito]
    split <;> rfl
  | sincronizarWorkItemsGit eventos => exact id_sincronizado eventos r

/-- Evidences are only added. -/
theorem evidencias_chamar (c : Chamada) : b.evidencias <+: (b.chamar U c).evidencias := by
  rw [Banco.chamar]
  cases c with
  | criarWorkItem timeNs p x =>
    rw [Chamada.resultado, Banco.criarWorkItem]
    split_ifs <;> exact List.prefix_rfl
  | transicionarWorkItem id p x =>
    rw [Chamada.resultado, Banco.transicionarWorkItem]
    rcases hget : b.getWorkItem id with e | item
    · exact List.prefix_rfl
    · by_cases hproximo : p.status ∈ statusTransitions item.status <;>
        by_cases hgate : camposFaltantes item (b.evidenciasDe item) p.status = [] <;>
        simp [bind, Except.bind, validarGate, require, hproximo, hgate, Banco.registrarEvento]
  | atualizarRastreabilidade id p x =>
    rw [Chamada.resultado, Banco.atualizarRastreabilidade]
    rcases hget : b.getWorkItem id with e | item <;> exact List.prefix_rfl
  | criarEvidencia id p x =>
    rw [Chamada.resultado, Banco.criarEvidencia]
    rcases hget : b.getWorkItem id with e | item
    · exact List.prefix_rfl
    · exact List.prefix_append _ _
  | aplicarRoteamentoMultiIa id x =>
    rw [Chamada.resultado, Banco.aplicarRoteamentoMultiIa]
    rcases hget : b.getWorkItem id with e | item
    · exact List.prefix_rfl
    · exact List.prefix_append _ _
  | sincronizarWorkItemsGit eventos =>
    have hfold : ∀ (b : Banco) (ids : List ℤ), b.evidencias <+: (eventos.foldl
        (fun acc e ↦ ((Banco.sincronizarEvento U acc.1 e).1,
          acc.2 ++ (Banco.sincronizarEvento U acc.1 e).2.toList)) (b, ids)).1.evidencias := by
      induction eventos with
      | nil => exact fun _ _ ↦ List.prefix_rfl
      | cons e eventos ih =>
        intro b ids
        refine List.IsPrefix.trans ?_ (ih _ _)
        rw [Banco.sincronizarEvento]
        split_ifs
        · exact List.prefix_rfl
        · split
          · exact List.prefix_rfl
          · exact List.prefix_append _ _
    exact hfold b []

end Agile

end ReqSys
