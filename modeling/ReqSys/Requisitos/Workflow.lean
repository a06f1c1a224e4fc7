import Mathlib
import ReqSys.Foundation.Checked
import ReqSys.Foundation.PyText

/-!
# Requirements: the workflow

A requirement moves between states along a table of edges. Three functions read the table.
`_validar_transicao` accepts or refuses a transition, `_montar_workflow_state` shows which
transitions are open, and `_proximo_estado_sugerido` names one of them. The status is free text, and
the three do not agree on a text that is no key of the table: the view shows nothing, while the
validation and the suggestion take `refinamento`. The webhook of the Git providers writes such a
text, `implementado`.

The view says what the validation accepts if and only if the state of the requirement is a key of
the table or terminal (`concorda_iff`).
-/

namespace ReqSys

namespace Requisitos

/-! ## Requirements -/

/-- A row of `requisitos`. -/
structure Requisito where
  id : ℕ
  codigo : String
  titulo : String
  descricao : String
  urgencia : String := "media"
  area : String
  sistema : String
  solicitante : String
  status : String := "recebido"
  impactoRegulatorio : Bool := false
  deriving DecidableEq

/-- The body of a request for a transition. -/
structure RequisitoTransicaoCriar where
  schemaVersion : String := "1.0.0"
  novoStatus : String
  usuario : String
  motivo : String
  evidencia : Option String := none

/-! ## The table -/

def statusProntos : List String :=
  ["aprovado", "pronto", "concluido", "concluído", "done", "aceito", "validado", "evidenciado",
    "exportado"]

def workflowEstados : List String :=
  ["recebido", "refinamento", "pronto_para_aprovacao", "aprovado", "em_execucao", "validado",
    "evidenciado", "exportado"]

def transicoesPermitidas : List (String × List String) :=
  [("recebido", ["refinamento", "bloqueado", "devolvido"]),
    ("pendente", ["refinamento", "bloqueado", "devolvido"]),
    ("em_analise", ["refinamento", "bloqueado", "devolvido"]),
    ("analise", ["refinamento", "bloqueado", "devolvido"]),
    ("refinamento", ["pronto_para_aprovacao", "bloqueado", "devolvido"]),
    ("pronto_para_aprovacao", ["aprovado", "refinamento", "devolvido"]),
    ("aguardando_aprovacao", ["aprovado", "refinamento", "devolvido"]),
    ("aprovado", ["em_execucao", "bloqueado"]),
    ("em_execucao", ["validado", "bloqueado"]),
    ("validado", ["evidenciado", "em_execucao"]),
    ("evidenciado", ["exportado", "validado"]),
    ("bloqueado", ["refinamento", "devolvido"]),
    ("devolvido", ["refinamento", "bloqueado"])]

def estadosTerminais : List String := ["exportado"]

/-- `_TRANSICOES_PERMITIDAS.get(estado, padrao)`. -/
def permitidosDe (estado : String) (padrao : List String) : List String :=
  (transicoesPermitidas.lookup estado).getD padrao

/-! ## Texts and scores -/

/-- `_normalizar_texto`. -/
def normalizarTexto (valor : Option String) : String := PyText.strip (valor.getD "")

/-- `s.replace(' ', '_')`. -/
def sublinhado (s : String) : String :=
  String.ofList (s.toList.map fun c ↦ if c = ' ' then '_' else c)

/-- `_normalizar_chave`. -/
def normalizarChave (U : Unicode) (valor : Option String) : String :=
  sublinhado (U.lower (normalizarTexto valor))

def termosDeAceite : List String :=
  ["criterio", "critério", "bdd", "dado que", "quando", "entao", "então"]

/-- The test of `_tem_criterio_aceite`, on the description. -/
def textoComCriterio (U : Unicode) (descricao : String) : Bool :=
  termosDeAceite.any fun termo ↦ PyText.contains termo (U.lower (normalizarTexto descricao))

/-- `_tem_criterio_aceite`. -/
def temCriterioAceite (U : Unicode) (r : Requisito) : Bool := textoComCriterio U r.descricao

/-- `_calcular_score_prontidao`. -/
def calcularScoreProntidao (U : Unicode) (r : Requisito) : ℕ :=
  let camposMinimos := [r.titulo, r.descricao, r.area, r.sistema, r.solicitante, r.urgencia]
  let descricao := normalizarTexto r.descricao
  let statusNormalizado := normalizarChave U r.status
  let pontos := 12 * camposMinimos.countP fun valor : String ↦ normalizarTexto valor ≠ ""
  let pontos := pontos +
    if 80 ≤ descricao.length then 12 else if 40 ≤ descricao.length then 6 else 0
  let pontos := pontos + if temCriterioAceite U r then 10 else 0
  let pontos := pontos + if statusNormalizado ∈ statusProntos then 6 else 0
  max 0 (min 100 pontos)

/-! ## The suggestion and the view -/

/-- `sorted` of a set of texts. -/
def ordenados (estados : List String) : List String :=
  estados.insertionSort fun a b ↦ a ≤ b

/-- `_proximo_estado_sugerido`. -/
def proximoEstadoSugerido (U : Unicode) (statusAtual : Option String) : Option String :=
  let atual := normalizarChave U statusAtual
  if atual ∈ estadosTerminais then none
  else
    let permitidos := permitidosDe atual ["refinamento"]
    match workflowEstados.find? (· ∈ permitidos) with
    | some estado => some estado
    | none => (ordenados permitidos).head?

structure CriteriosMinimos where
  dadosMinimos : Bool
  criterioAceiteDetectado : Bool
  scoreMinimoRefinamento : Bool
  evidenciaObrigatoriaExportacao : Bool

/-- What `_montar_workflow_state` returns. -/
structure WorkflowState where
  schemaVersion : String
  estadoAtual : String
  estadoLabel : String
  fluxoAlvo : List String
  transicoesPermitidas : List String
  proximoEstadoSugerido : Option String
  estadoTerminal : Bool
  scoreProntidao : ℕ
  criteriosMinimos : CriteriosMinimos

/-- `_normalizar_chave(requisito.status) or 'recebido'`. -/
def estadoAtual (U : Unicode) (r : Requisito) : String :=
  if normalizarChave U r.status = "" then "recebido" else normalizarChave U r.status

/-- `_montar_workflow_state`. -/
def montarWorkflowState (U : Unicode) (r : Requisito) : WorkflowState :=
  let statusAtual := estadoAtual U r
  let permitidos := ordenados (permitidosDe statusAtual [])
  let score := calcularScoreProntidao U r
  { schemaVersion := "1.0.0"
    estadoAtual := statusAtual
    estadoLabel := r.status
    fluxoAlvo := workflowEstados
    transicoesPermitidas := permitidos
    proximoEstadoSugerido := proximoEstadoSugerido U statusAtual
    estadoTerminal := statusAtual ∈ estadosTerminais
    scoreProntidao := score
    criteriosMinimos :=
      { dadosMinimos :=
          [r.titulo, r.descricao, r.area, r.sistema, r.solicitante].all fun valor : String ↦
            normalizarTexto valor ≠ ""
        criterioAceiteDetectado := temCriterioAceite U r
        scoreMinimoRefinamento := 70 ≤ score
        evidenciaObrigatoriaExportacao := true } }

/-! ## The validation -/

/-- The detail of a refused request. -/
structure Detalhe where
  code : String
  message : String
  estadoAtual : Option String := none
  novoStatus : Option String := none
  permitidos : Option (List String) := none
  identificador : Option String := none
  pontuacao : Option ℕ := none
  pontuacaoMinima : Option ℕ := none
  pendencias : List String := []
  alertas : List String := []
  deriving DecidableEq

structure HTTPException where
  statusCode : ℕ
  detail : Detalhe
  deriving DecidableEq

/-- `_validar_transicao`: the state it leaves and the one it enters. -/
def validarTransicao (U : Unicode) (r : Requisito) (payload : RequisitoTransicaoCriar) :
    Except HTTPException (String × String) := do
  let origem := estadoAtual U r
  let destino := normalizarChave U payload.novoStatus
  let permitidos := permitidosDe origem ["refinamento"]
  require (origem ∉ estadosTerminais)
    { statusCode := 409
      detail :=
        { code := "REQUISITO_ESTADO_TERMINAL"
          message := "Requisito em estado terminal não permite nova transição."
          estadoAtual := origem } }
  require (destino ∈ permitidos)
    { statusCode := 422
      detail :=
        { code := "TRANSICAO_INVALIDA"
          message := "Transição não permitida pela máquina de estados governada."
          estadoAtual := origem
          novoStatus := destino
          permitidos := ordenados permitidos } }
  require (destino ∈ ["pronto_para_aprovacao", "aprovado"] → temCriterioAceite U r)
    { statusCode := 422
      detail :=
        { code := "CRITERIO_ACEITE_OBRIGATORIO"
          message := "Transição exige critério de aceite ou BDD detectável na descrição." } }
  require (destino = "pronto_para_aprovacao" → 70 ≤ calcularScoreProntidao U r)
    { statusCode := 422
      detail :=
        { code := "SCORE_PRONTIDAO_INSUFICIENTE"
          message := "Transição exige score de prontidão mínimo de 70." } }
  require (destino ∈ ["evidenciado", "exportado"] → normalizarTexto payload.evidencia ≠ "")
    { statusCode := 422
      detail :=
        { code := "EVIDENCIA_OBRIGATORIA"
          message := "Transição exige evidência operacional informada." } }
  return (origem, destino)

/-- What an accepted transition has passed. -/
theorem validarTransicao_eq_ok {U : Unicode} {r : Requisito} {payload : RequisitoTransicaoCriar}
    {origem destino : String} :
    validarTransicao U r payload = .ok (origem, destino) ↔
      origem = estadoAtual U r ∧ destino = normalizarChave U payload.novoStatus ∧
      origem ∉ estadosTerminais ∧ destino ∈ permitidosDe origem ["refinamento"] ∧
      (destino ∈ ["pronto_para_aprovacao", "aprovado"] → temCriterioAceite U r) ∧
      (destino = "pronto_para_aprovacao" → 70 ≤ calcularScoreProntidao U r) ∧
      (destino ∈ ["evidenciado", "exportado"] → normalizarTexto payload.evidencia ≠ "") := by
  rw [validarTransicao, require_bind_eq_ok, require_bind_eq_ok, require_bind_eq_ok,
    require_bind_eq_ok, require_bind_eq_ok]
  constructor
  · rintro ⟨hterminal, hpermitido, hcriterio, hscore, hevidencia, heq⟩
    cases heq
    exact ⟨rfl, rfl, hterminal, hpermitido, hcriterio, hscore, hevidencia⟩
  · rintro ⟨rfl, rfl, hterminal, hpermitido, hcriterio, hscore, hevidencia⟩
    exact ⟨hterminal, hpermitido, hcriterio, hscore, hevidencia, rfl⟩

/-! ## The view and the validation -/

/-- The view says that a transition is open, given evidence. -/
def WorkflowState.Aberta (w : WorkflowState) (destino : String) : Prop :=
  destino ∈ w.transicoesPermitidas ∧
    (destino ∈ ["pronto_para_aprovacao", "aprovado"] →
      w.criteriosMinimos.criterioAceiteDetectado = true) ∧
    (destino = "pronto_para_aprovacao" → w.criteriosMinimos.scoreMinimoRefinamento = true)

/-- The view of a requirement and the validation of its transitions agree: with evidence, exactly
the open transitions are accepted, and the suggested state is one of those permitted. -/
def Concorda (U : Unicode) (r : Requisito) : Prop :=
  (∀ payload : RequisitoTransicaoCriar, normalizarTexto payload.evidencia ≠ "" →
    ((∃ arco, validarTransicao U r payload = .ok arco) ↔
      (montarWorkflowState U r).Aberta (normalizarChave U payload.novoStatus))) ∧
  ∀ estado ∈ (montarWorkflowState U r).proximoEstadoSugerido,
    estado ∈ (montarWorkflowState U r).transicoesPermitidas

/-- The states that the table or the list of terminal states names. -/
def estadosConhecidos : List String := transicoesPermitidas.map Prod.fst ++ estadosTerminais

section View

variable {U : Unicode} {r : Requisito} {estado : String}

theorem mem_ordenados {estados : List String} : estado ∈ ordenados estados ↔ estado ∈ estados :=
  List.mem_insertionSort _

/-- On stripped ASCII text the tables of the interpreter play no part. -/
theorem normalizarChave_of_ascii {s : String} (hascii : PyText.IsAscii s)
    (hstrip : PyText.strip s = s) : normalizarChave U s = sublinhado (PyText.asciiLower s) := by
  rw [normalizarChave, normalizarTexto, Option.getD_some, hstrip, U.lower_ascii s hascii]

example : normalizarChave .ascii (some " Em Execucao ") = "em_execucao" := by decide +kernel

/-- A known state is its own key. -/
theorem normalizarChave_of_conhecido (h : estado ∈ estadosConhecidos) :
    normalizarChave U estado = estado := by
  have hproprio : ∀ estado ∈ estadosConhecidos, PyText.IsAscii estado ∧
      PyText.strip estado = estado ∧ sublinhado (PyText.asciiLower estado) = estado := by
    decide +kernel
  obtain ⟨hascii, hstrip, hchave⟩ := hproprio estado h
  rw [normalizarChave_of_ascii hascii hstrip, hchave]

/-- A key of the table has its own targets, whatever the default. -/
theorem permitidosDe_of_mem (h : estado ∈ transicoesPermitidas.map Prod.fst)
    (padrao : List String) : permitidosDe estado padrao = permitidosDe estado [] := by
  have hsome : ∀ estado ∈ transicoesPermitidas.map Prod.fst,
      (transicoesPermitidas.lookup estado).isSome := by decide +kernel
  obtain ⟨destinos, hdestinos⟩ := Option.isSome_iff_exists.mp (hsome estado h)
  rw [permitidosDe, permitidosDe, hdestinos, Option.getD_some, Option.getD_some]

/-- Any other text has the default. -/
theorem permitidosDe_of_notMem (h : estado ∉ transicoesPermitidas.map Prod.fst)
    (padrao : List String) : permitidosDe estado padrao = padrao := by
  have hnone : transicoesPermitidas.lookup estado = none := by
    rw [List.lookup_eq_none_iff]
    intro arco harco
    rw [bne_iff_ne]
    rintro rfl
    exact h (List.mem_map_of_mem harco)
  rw [permitidosDe, hnone, Option.getD_none]

example : permitidosDe "exportado" ["refinamento"] = ["refinamento"] := by decide +kernel

/-- What is suggested is a target of the state. -/
theorem mem_of_proximoEstadoSugerido {s : Option String} {proximo : String}
    (h : proximoEstadoSugerido U s = some proximo) :
    proximo ∈ permitidosDe (normalizarChave U s) ["refinamento"] := by
  rw [proximoEstadoSugerido] at h
  split at h
  · cases h
  · dsimp only at h
    split at h
    next estado hfind =>
      cases h
      have hmem := List.find?_some hfind
      exact of_decide_eq_true hmem
    next => exact mem_ordenados.mp (List.mem_of_head? h)

theorem mem_transicoesPermitidas :
    estado ∈ (montarWorkflowState U r).transicoesPermitidas ↔
      estado ∈ permitidosDe (estadoAtual U r) [] := mem_ordenados

/-- With evidence, the validation asks what the view shows and a state that is not terminal, of the
targets that it takes for the state. -/
theorem exists_validarTransicao_eq_ok {payload : RequisitoTransicaoCriar}
    (hevidencia : normalizarTexto payload.evidencia ≠ "")
    (hpermitidos : permitidosDe (estadoAtual U r) ["refinamento"]
      = permitidosDe (estadoAtual U r) [])
    (hterminal : estadoAtual U r ∉ estadosTerminais) :
    (∃ arco, validarTransicao U r payload = .ok arco) ↔
      (montarWorkflowState U r).Aberta (normalizarChave U payload.novoStatus) := by
  have haberta : (montarWorkflowState U r).Aberta (normalizarChave U payload.novoStatus) ↔
      normalizarChave U payload.novoStatus ∈ permitidosDe (estadoAtual U r) [] ∧
      (normalizarChave U payload.novoStatus ∈ ["pronto_para_aprovacao", "aprovado"] →
        temCriterioAceite U r) ∧
      (normalizarChave U payload.novoStatus = "pronto_para_aprovacao" →
        70 ≤ calcularScoreProntidao U r) := by
    rw [WorkflowState.Aberta, mem_transicoesPermitidas]
    simp only [montarWorkflowState, decide_eq_true_eq]
  rw [haberta, ← hpermitidos]
  constructor
  · rintro ⟨⟨origem, destino⟩, harco⟩
    obtain ⟨rfl, rfl, -, hpermitido, hcriterio, hscore, -⟩ := validarTransicao_eq_ok.mp harco
    exact ⟨hpermitido, hcriterio, hscore⟩
  · rintro ⟨hpermitido, hcriterio, hscore⟩
    exact ⟨_, validarTransicao_eq_ok.mpr
      ⟨rfl, rfl, hterminal, hpermitido, hcriterio, hscore, fun _ ↦ hevidencia⟩⟩

/-- The state `exportado` is no key of the table. -/
theorem notMem_of_terminal (h : estado ∈ estadosTerminais) :
    estado ∉ transicoesPermitidas.map Prod.fst := by
  have hfora : ∀ estado ∈ estadosTerminais, estado ∉ transicoesPermitidas.map Prod.fst := by
    decide +kernel
  exact hfora estado h

/-- In a state of the table, the view shows what the validation accepts. -/
theorem concorda_of_tabela (h : estadoAtual U r ∈ transicoesPermitidas.map Prod.fst) :
    Concorda U r := by
  constructor
  · intro payload hevidencia
    exact exists_validarTransicao_eq_ok hevidencia (permitidosDe_of_mem h _)
      fun hterminal ↦ notMem_of_terminal hterminal h
  · intro proximo hproximo
    have hchave : normalizarChave U (estadoAtual U r) = estadoAtual U r :=
      normalizarChave_of_conhecido (List.mem_append_left _ h)
    have hmem := mem_of_proximoEstadoSugerido (Option.mem_def.mp hproximo)
    rw [hchave, permitidosDe_of_mem h] at hmem
    exact mem_transicoesPermitidas.mpr hmem

/-- In a terminal state nothing is shown, suggested or accepted. -/
theorem concorda_of_terminal (h : estadoAtual U r ∈ estadosTerminais) : Concorda U r := by
  have hfora := notMem_of_terminal h
  constructor
  · intro payload _
    refine iff_of_false ?_ ?_
    · rintro ⟨⟨origem, destino⟩, harco⟩
      obtain ⟨rfl, -, hterminal, -⟩ := validarTransicao_eq_ok.mp harco
      exact hterminal h
    · rintro ⟨haberta, -⟩
      rw [mem_transicoesPermitidas, permitidosDe_of_notMem hfora] at haberta
      exact List.not_mem_nil haberta
  · intro proximo hproximo
    have hchave : normalizarChave U (estadoAtual U r) = estadoAtual U r :=
      normalizarChave_of_conhecido (List.mem_append_right _ h)
    have hnone : proximoEstadoSugerido U (estadoAtual U r) = none := by
      rw [proximoEstadoSugerido]
      exact if_pos (by rw [hchave]; exact h)
    exact absurd ((Option.mem_def.mp hproximo).symm.trans hnone) (Option.some_ne_none _)

/-- In any other state the validation accepts `refinamento`, which the view does not show. -/
theorem not_concorda_of_desconhecido (h : estadoAtual U r ∉ transicoesPermitidas.map Prod.fst)
    (hterminal : estadoAtual U r ∉ estadosTerminais) : ¬Concorda U r := by
  rintro ⟨haceita, -⟩
  let payload : RequisitoTransicaoCriar :=
    { novoStatus := "refinamento", usuario := "po", motivo := "retomada", evidencia := "ata" }
  have hdestino : normalizarChave U payload.novoStatus = "refinamento" :=
    normalizarChave_of_conhecido (by decide +kernel)
  have hevidencia : normalizarTexto payload.evidencia ≠ "" := by decide +kernel
  have hok : validarTransicao U r payload = .ok (estadoAtual U r, "refinamento") := by
    refine validarTransicao_eq_ok.mpr
      ⟨rfl, hdestino.symm, hterminal, ?_, ?_, ?_, fun _ ↦ hevidencia⟩
    · rw [permitidosDe_of_notMem h]
      exact List.mem_singleton_self _
    · exact fun hmem ↦ absurd hmem (by decide)
    · exact fun heq ↦ absurd heq (by decide)
  obtain ⟨hmem, -⟩ := (haceita payload hevidencia).mp ⟨_, hok⟩
  rw [mem_transicoesPermitidas, permitidosDe_of_notMem h] at hmem
  exact List.not_mem_nil hmem

end View

/-- **The view and the validation.** The view of a requirement shows what the validation accepts,
and suggests one of the states that it shows, if and only if the state of the requirement is one
that the program knows: a key of the table, or terminal. -/
theorem concorda_iff (U : Unicode) (r : Requisito) :
    Concorda U r ↔ estadoAtual U r ∈ estadosConhecidos := by
  rw [estadosConhecidos, List.mem_append]
  constructor
  · intro hconcorda
    by_contra hfora
    rw [not_or] at hfora
    exact not_concorda_of_desconhecido hfora.1 hfora.2 hconcorda
  · rintro (htabela | hterminal)
    · exact concorda_of_tabela htabela
    · exact concorda_of_terminal hterminal

/-- A requirement that a merged pull request has marked as implemented: the validation sends it back
to `refinamento`, and the view shows no way out. -/
theorem implementado_not_concorda :
    ¬∀ (U : Unicode) (r : Requisito), Concorda U r := by
  intro h
  let r : Requisito :=
    { id := 1
      codigo := "REQ-100000001"
      titulo := "Exportar relatório"
      descricao := "Quando o usuário exporta, então o arquivo é gravado."
      area := "negocio"
      sistema := "reqsys"
      solicitante := "ana"
      status := "implementado" }
  let payload : RequisitoTransicaoCriar :=
    { novoStatus := "refinamento", usuario := "po", motivo := "retomada", evidencia := "ata" }
  have hok : ∃ arco, validarTransicao Unicode.ascii r payload = .ok arco :=
    ⟨("implementado", "refinamento"), by decide +kernel⟩
  obtain ⟨hmem, -⟩ := ((h Unicode.ascii r).1 payload (by decide +kernel)).mp hok
  have hvazia : (montarWorkflowState Unicode.ascii r).transicoesPermitidas = [] := by decide +kernel
  rw [hvazia] at hmem
  exact List.not_mem_nil hmem

end Requisitos

end ReqSys
