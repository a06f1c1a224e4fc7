import Mathlib
import ReqSys.Requisitos.Gates

/-!
# Requirements: the collection

`gerar_requisito` makes a requirement of a form. The form is scored first, and only a form with 80
points or more becomes a requirement. What it becomes is a description with fixed headings, and one
of them is `Critérios de aceite`. The workflow looks for the words of a criterion of acceptance in
the description and finds the heading. So the only test of the criteria is the score, where they
count 15 of the 40 points above the 60 that every form has, and the other ones suffice.

`soComCriterios_iff` says for which forms a requirement without any criterion is approved, and for
which a regulatory one is made although its reference is blank: the score asks for a reference that
is not blank, the refusal only for one that is not empty.
-/

namespace ReqSys

namespace Requisitos

/-! ## The form -/

inductive Origem
  | reqsys
  | microsoftForms
  | powerApps
  | teams
  | powerAutomate
  | outro
  deriving DecidableEq

def Origem.texto : Origem → String
  | reqsys => "reqsys"
  | microsoftForms => "microsoft_forms"
  | powerApps => "power_apps"
  | teams => "teams"
  | powerAutomate => "power_automate"
  | outro => "outro"

inductive TipoDemanda
  | novaFuncionalidade
  | alteracao
  | correcao
  | automacao
  | relatorio
  | integracao
  | regulatorio
  deriving DecidableEq

def TipoDemanda.texto : TipoDemanda → String
  | novaFuncionalidade => "nova_funcionalidade"
  | alteracao => "alteracao"
  | correcao => "correcao"
  | automacao => "automacao"
  | relatorio => "relatorio"
  | integracao => "integracao"
  | regulatorio => "regulatorio"

/-- `_ROTULOS_TIPO`. -/
def TipoDemanda.rotulo : TipoDemanda → String
  | novaFuncionalidade => "Nova funcionalidade"
  | alteracao => "Alteração"
  | correcao => "Correção"
  | automacao => "Automação"
  | relatorio => "Relatório"
  | integracao => "Integração"
  | regulatorio => "Regulatório"

inductive Urgencia
  | baixa
  | media
  | alta
  | critica
  deriving DecidableEq

def Urgencia.texto : Urgencia → String
  | baixa => "baixa"
  | media => "media"
  | alta => "alta"
  | critica => "critica"

/-- A text of the given lengths. -/
def Entre (minimo maximo : ℕ) (s : String) : Prop := minimo ≤ s.length ∧ s.length ≤ maximo

instance (minimo maximo : ℕ) (s : String) : Decidable (Entre minimo maximo s) :=
  inferInstanceAs (Decidable (_ ∧ _))

/-- A form, as the schema accepts it. -/
structure LevantamentoRequisito where
  versaoContrato : String := "1.0.0"
  chaveIdempotencia : String
  origem : Origem := .reqsys
  solicitante : String
  area : String
  sistema : String
  tipoDemanda : TipoDemanda
  problema : String
  objetivo : String
  usuarioAfetado : String
  processoAtual : Option String := none
  cenarioDesejado : String
  regrasNegocio : List String := []
  criteriosAceite : List String
  dadosNecessarios : List String := []
  integracoes : List String := []
  restricoes : List String := []
  impactoRegulatorio : Bool := false
  urgencia : Urgencia := .media
  /-- `data_limite.isoformat()`. -/
  dataLimite : Option String := none
  referenciaExterna : Option String := none
  observacoes : Option String := none
  chave_len : Entre 8 120 chaveIdempotencia := by decide +kernel
  solicitante_len : Entre 2 120 solicitante := by decide +kernel
  area_len : Entre 2 80 area := by decide +kernel
  sistema_len : Entre 2 80 sistema := by decide +kernel
  problema_len : Entre 30 3000 problema := by decide +kernel
  objetivo_len : Entre 20 2000 objetivo := by decide +kernel
  usuario_len : Entre 2 300 usuarioAfetado := by decide +kernel
  processo_len : ∀ s ∈ processoAtual, s.length ≤ 3000 := by decide +kernel
  cenario_len : Entre 20 3000 cenarioDesejado := by decide +kernel
  regras_len : regrasNegocio.length ≤ 20 := by decide +kernel
  criterios_len : 1 ≤ criteriosAceite.length ∧ criteriosAceite.length ≤ 20 := by decide +kernel
  dados_len : dadosNecessarios.length ≤ 20 := by decide +kernel
  integracoes_len : integracoes.length ≤ 20 := by decide +kernel
  restricoes_len : restricoes.length ≤ 20 := by decide +kernel
  referencia_len : ∀ s ∈ referenciaExterna, s.length ≤ 200 := by decide +kernel
  observacoes_len : ∀ s ∈ observacoes, s.length ≤ 2000 := by decide +kernel

/-! ## The score -/

structure AvaliacaoLevantamento where
  pontuacao : ℕ
  classificacao : String
  prontoParaGerar : Bool
  pendencias : List String
  alertas : List String

/-- `_itens_validos`. -/
def itensValidos (itens : List String) : List String := (itens.map PyText.strip).filter (· ≠ "")

/-- `valor and valor.strip()`. -/
def preenchido (valor : Option String) : Bool := normalizarTexto valor ≠ ""

def pontuacaoMinimaGeracao : ℕ := 80

/-- `_avaliar_levantamento`. -/
def avaliarLevantamento (p : LevantamentoRequisito) : AvaliacaoLevantamento :=
  let regras := itensValidos p.regrasNegocio
  let criterios := itensValidos p.criteriosAceite
  let dados := itensValidos p.dadosNecessarios
  let integracoes := itensValidos p.integracoes
  let restricoes := itensValidos p.restricoes
  let pontuacao := 60
  let pontuacao := pontuacao + if preenchido p.processoAtual then 5 else 0
  let pontuacao := pontuacao + if regras ≠ [] then 10 else 0
  let pontuacao := pontuacao +
    if 2 ≤ criterios.length then 15 else if criterios.length = 1 then 8 else 0
  let pontuacao := pontuacao + if dados ≠ [] ∨ integracoes ≠ [] ∨ restricoes ≠ [] then 5 else 0
  let pontuacao := pontuacao + if preenchido p.referenciaExterna then 5 else 0
  let pontuacao := max 0 (min 100 pontuacao)
  let pendencias :=
    (if preenchido p.processoAtual then [] else
      ["Descrever o processo atual ou declarar explicitamente que não existe processo anterior."])
    ++ (if regras ≠ [] then [] else
      ["Confirmar as regras de negócio aplicáveis ou declarar que não há regras específicas."])
    ++ (if 2 ≤ criterios.length then [] else if criterios.length = 1 then
      ["Adicionar pelo menos mais um critério de aceite verificável."] else
      ["Informar ao menos um critério de aceite verificável."])
    ++ (if preenchido p.referenciaExterna then [] else if p.impactoRegulatorio then
      ["Demanda regulatória deve informar norma, política, chamado ou outra referência externa "
        ++ "rastreável."] else [])
  let alertas :=
    (if dados ≠ [] ∨ integracoes ≠ [] ∨ restricoes ≠ [] then [] else
      ["Nenhum dado, integração ou restrição foi informado; confirmar se o escopo realmente não "
        ++ "possui dependências."])
    ++ (if criterios.any (·.length < 15) then
      ["Há critério de aceite muito curto; prefira uma condição objetiva e testável."] else [])
  { pontuacao
    classificacao :=
      if 90 ≤ pontuacao then "ouro"
      else if 80 ≤ pontuacao then "controlado"
      else if 60 ≤ pontuacao then "refinamento"
      else "incompleto"
    prontoParaGerar :=
      pontuacaoMinimaGeracao ≤ pontuacao &&
        !(p.impactoRegulatorio && !PyText.truthy p.referenciaExterna)
    pendencias
    alertas }

/-! ## The description -/

/-- `_lista_markdown`. -/
def listaMarkdown (titulo : String) (itens : List String) (vazio : String) : String :=
  let validos := itensValidos itens
  let corpo :=
    if validos ≠ [] then String.intercalate "\n" (validos.map fun item ↦ "- " ++ item)
    else "- " ++ vazio
  "## " ++ titulo ++ "\n" ++ corpo

/-- `s.rstrip('.')`. -/
def semPontoFinal (s : String) : String := String.ofList (s.toList.rdropWhile (· = '.'))

/-- `valor or padrao`. -/
def ouPadrao (valor : Option String) (padrao : String) : String :=
  if PyText.truthy valor then valor.getD "" else padrao

/-- The parts of the description. -/
def partesDaDescricao (p : LevantamentoRequisito) : List String :=
  let historia := "Como " ++ PyText.strip p.usuarioAfetado ++ ", preciso de " ++
    PyText.strip p.cenarioDesejado ++ ", para " ++ PyText.strip p.objetivo ++ "."
  ["## Problema",
    PyText.strip p.problema,
    "## Objetivo",
    PyText.strip p.objetivo,
    "## História do usuário",
    historia,
    "## Processo atual",
    if PyText.truthy p.processoAtual then PyText.strip (p.processoAtual.getD "")
      else "Não informado.",
    listaMarkdown "Regras de negócio" p.regrasNegocio "Nenhuma regra específica informada.",
    listaMarkdown "Critérios de aceite" p.criteriosAceite "Nenhum critério informado.",
    listaMarkdown "Dados necessários" p.dadosNecessarios "Nenhum dado adicional informado.",
    listaMarkdown "Integrações" p.integracoes "Nenhuma integração informada.",
    listaMarkdown "Restrições" p.restricoes "Nenhuma restrição informada.",
    "## Rastreabilidade",
    "- Origem: " ++ p.origem.texto,
    "- Tipo de demanda: " ++ p.tipoDemanda.texto,
    "- Referência externa: " ++ ouPadrao p.referenciaExterna "não informada",
    "- Data limite: " ++ p.dataLimite.getD "não informada"] ++
  if PyText.truthy p.observacoes then
    ["## Observações", PyText.strip (p.observacoes.getD "")]
  else []

/-- `_montar_requisito`. -/
def montarRequisito (p : LevantamentoRequisito) : Campos where
  titulo := PyText.take 200
    (p.tipoDemanda.rotulo ++ ": " ++ semPontoFinal (PyText.strip p.objetivo))
  descricao := String.intercalate "\n\n" (partesDaDescricao p)
  urgencia := p.urgencia.texto
  area := PyText.strip p.area
  sistema := PyText.strip p.sistema
  solicitante := PyText.strip p.solicitante
  impactoRegulatorio := p.impactoRegulatorio

/-! ## The generation -/

/-- The SHA-256 digests, in hexadecimal. -/
structure Hashes where
  /-- `_hash_idempotencia`. -/
  chave : String → String
  /-- `_hash_payload`, of the canonical JSON of the form. -/
  payload : LevantamentoRequisito → String

/-- `payload_minimo.contains(hash)`, where only digests are long enough. -/
def Carga.Menciona (hash : String) : Carga → Prop
  | coletaAvaliada _ _ _ _ _ _ _ _ chaveHash payloadHash => chaveHash = hash ∨ payloadHash = hash
  | requisitoGerado _ _ _ _ chaveHash payloadHash => chaveHash = hash ∨ payloadHash = hash
  | _ => False

instance (hash : String) : DecidablePred (Carga.Menciona hash)
  | .coletaAvaliada _ _ _ _ _ _ _ _ chaveHash payloadHash =>
    inferInstanceAs (Decidable (chaveHash = hash ∨ payloadHash = hash))
  | .requisitoGerado _ _ _ _ chaveHash payloadHash =>
    inferInstanceAs (Decidable (chaveHash = hash ∨ payloadHash = hash))
  | .camposMinimizados _ => instDecidableFalse
  | .transicao _ _ _ _ _ => instDecidableFalse
  | .git _ _ _ _ => instDecidableFalse
  | .status _ _ _ _ => instDecidableFalse

/-- `codigos_pendencia`. -/
def codigosPendencia (p : LevantamentoRequisito) : List String :=
  (if preenchido p.processoAtual then [] else ["PROCESSO_ATUAL_NAO_INFORMADO"])
  ++ (if itensValidos p.regrasNegocio ≠ [] then [] else ["REGRAS_NEGOCIO_NAO_INFORMADAS"])
  ++ (if (itensValidos p.criteriosAceite).length < 2 then ["CRITERIOS_ACEITE_INSUFICIENTES"]
      else [])
  ++ (if p.impactoRegulatorio && !preenchido p.referenciaExterna then
      ["REFERENCIA_REGULATORIA_NAO_INFORMADA"] else [])

/-- `x_correlation_id or f'coleta-{hash_idempotencia[:24]}'`. -/
def correlacaoDaColeta (H : Hashes) (p : LevantamentoRequisito) (x : Option String) : String :=
  ouPadrao x ("coleta-" ++ PyText.take 24 (H.chave p.chaveIdempotencia))

/-- The event of an assessment. -/
def eventoAvaliacao (H : Hashes) (p : LevantamentoRequisito) (correlationId : String) :
    AuditoriaEvento :=
  let avaliacao := avaliarLevantamento p
  { correlationId
    usuario := p.solicitante
    acao := "COLETA_REQUISITO_AVALIADA"
    entidade := "coleta_requisito"
    entidadeId := H.chave p.chaveIdempotencia
    payloadMinimo := .coletaAvaliada p.versaoContrato p.origem.texto p.tipoDemanda.texto
      avaliacao.pontuacao avaliacao.classificacao avaliacao.prontoParaGerar (codigosPendencia p)
      avaliacao.alertas.length (H.chave p.chaveIdempotencia) (H.payload p) }

/-- `_evento_avaliacao_existente`. -/
def Banco.avaliacaoExistente (b : Banco) (chaveHash payloadHash : String) : Bool :=
  b.eventos.any fun e ↦ e.acao = "COLETA_REQUISITO_AVALIADA" ∧
    e.payloadMinimo.Menciona chaveHash ∧ e.payloadMinimo.Menciona payloadHash

/-- `registrar_avaliacao_coleta`, of a payload that is new. -/
def Banco.registrarAvaliacao (H : Hashes) (p : LevantamentoRequisito) (correlationId : String)
    (b : Banco) : Banco :=
  if b.avaliacaoExistente (H.chave p.chaveIdempotencia) (H.payload p) then b
  else b.registrarEvento (eventoAvaliacao H p correlationId)

/-- `_buscar_requisito_idempotente`. -/
def Banco.buscarRequisitoIdempotente (N : Numerais) (b : Banco) (chaveHash : String) :
    Except Erro (Option Requisito) :=
  match (b.eventos.filter fun e ↦ e.acao = "REQUISITO_GERADO_POR_COLETA" ∧
    e.entidade = "requisito" ∧ e.payloadMinimo.Menciona chaveHash).getLast? with
  | none => .ok none
  | some evento => do
    let id ← N.ler evento.entidadeId
    return id.bind (buscarPorId b.requisitos)

/-- The event of a requirement that has been made of a form. -/
def eventoGerado (H : Hashes) (p : LevantamentoRequisito) (correlationId : String)
    (requisitoId : ℕ) : AuditoriaEvento :=
  let avaliacao := avaliarLevantamento p
  { correlationId
    usuario := p.solicitante
    acao := "REQUISITO_GERADO_POR_COLETA"
    entidade := "requisito"
    entidadeId := requisitoId.repr
    payloadMinimo := .requisitoGerado p.origem.texto p.tipoDemanda.texto avaliacao.pontuacao
      avaliacao.classificacao (H.chave p.chaveIdempotencia) (H.payload p) }

/-- The form is refused. -/
def requerRefinamento (p : LevantamentoRequisito) : HTTPException :=
  let avaliacao := avaliarLevantamento p
  { statusCode := 422
    detail :=
      { code := "LEVANTAMENTO_REQUER_REFINAMENTO"
        message :=
          "A coleta ainda não atingiu o nível mínimo para gerar um requisito governado."
        pontuacao := avaliacao.pontuacao
        pontuacaoMinima := pontuacaoMinimaGeracao
        pendencias := avaliacao.pendencias
        alertas := avaliacao.alertas } }

/-- What `gerar_requisito` returns of the requirement. -/
structure Geracao where
  requisito : Requisito
  reutilizado : Bool
  deriving DecidableEq

/-- `gerar_requisito`, with the hexadecimal digits of `uuid4`. -/
def Banco.gerarRequisito (U : Unicode) (N : Numerais) (H : Hashes) (p : LevantamentoRequisito)
    (uuid : String) (x : Option String) (b : Banco) : Banco × Except Erro Geracao :=
  let correlationId := correlacaoDaColeta H p x
  let b := b.registrarAvaliacao H p correlationId
  if (avaliarLevantamento p).prontoParaGerar then
    match b.buscarRequisitoIdempotente N (H.chave p.chaveIdempotencia) with
    | .error e => (b, .error e)
    | .ok (some requisito) => (b, .ok { requisito, reutilizado := true })
    | .ok none =>
      match b.criar ("REQ-" ++ U.upper (PyText.take 12 uuid)) (montarRequisito p)
        (some "recebido") with
      | (b, .error e) => (b, .error e)
      | (b, .ok requisito) =>
        (b.registrarEvento (eventoGerado H p correlationId requisito.id),
          .ok { requisito, reutilizado := false })
  else (b, .error (.http (requerRefinamento p)))

/-- The arguments of a transition. -/
structure Transicao where
  identificador : String
  payload : RequisitoTransicaoCriar
  correlationId : Option String := none

/-- The database after transitions, one after the other. -/
def Banco.transicionadas (U : Unicode) (N : Numerais) (b : Banco) (transicoes : List Transicao) :
    Banco :=
  transicoes.foldl (fun b t ↦ (b.transicionarRequisito U N t.identificador t.payload
    t.correlationId).1) b

/-! ## What the description contains -/

/-- What is documented of `str.lower`: only a sigma is lowered by what stands around it, and the
accented letters of the heading are lower case already. -/
structure CaixaLocal (U : Unicode) : Prop where
  trecho : ∀ a b c : String, 'Σ' ∉ b.toList → ∃ x z, U.lower (a ++ b ++ c) = x ++ U.lower b ++ z
  acento : U.lower "Critérios de aceite" = "critérios de aceite"

section Description

variable {U : Unicode} {p : LevantamentoRequisito}

theorem intercalate_append (sep : String) {l l' : List String} (hl : l ≠ []) (hl' : l' ≠ []) :
    String.intercalate sep (l ++ l')
      = String.intercalate sep l ++ sep ++ String.intercalate sep l' := by
  induction l with
  | nil => exact absurd rfl hl
  | cons a l ih =>
    cases l with
    | nil =>
      obtain ⟨b, l', rfl⟩ := List.exists_cons_of_ne_nil hl'
      rw [List.singleton_append, String.intercalate_cons_cons, String.intercalate_singleton]
    | cons a' l =>
      rw [List.cons_append, List.cons_append, String.intercalate_cons_cons,
        String.intercalate_cons_cons, ← List.cons_append, ih (List.cons_ne_nil _ _)]
      simp only [String.append_assoc]

/-- A join starts with its first part. -/
theorem exists_intercalate_cons (sep a : String) (l : List String) :
    ∃ z, String.intercalate sep (a :: l) = a ++ z := by
  cases l with
  | nil => exact ⟨"", by rw [String.intercalate_singleton, String.append_empty]⟩
  | cons b l => exact ⟨sep ++ String.intercalate sep (b :: l), by
      rw [String.intercalate_cons_cons, String.append_assoc]⟩

/-- The description starts with the heading of the problem, and the headings up to that of the
criteria are long enough. -/
theorem descricao_eq (p : LevantamentoRequisito) :
    ∃ meio resto : String, (montarRequisito p).descricao
      = "## Problema" ++ meio ++ "Critérios de aceite" ++ resto ∧ 61 ≤ meio.length := by
  obtain ⟨historia, processo, regras, corpo, fundo, hpartes⟩ :
      ∃ historia processo regras corpo fundo, partesDaDescricao p
        = ["## Problema", PyText.strip p.problema, "## Objetivo", PyText.strip p.objetivo,
            "## História do usuário", historia, "## Processo atual", processo, regras]
          ++ ("## " ++ "Critérios de aceite" ++ "\n" ++ corpo) :: fundo :=
    ⟨_, _, _, _, _, rfl⟩
  obtain ⟨z, hz⟩ := exists_intercalate_cons "\n\n"
    ("## " ++ "Critérios de aceite" ++ "\n" ++ corpo) fundo
  refine ⟨"\n\n" ++ String.intercalate "\n\n" [PyText.strip p.problema, "## Objetivo",
    PyText.strip p.objetivo, "## História do usuário", historia, "## Processo atual", processo,
    regras] ++ "\n\n" ++ "## ", "\n" ++ corpo ++ z, ?_, ?_⟩
  · rw [montarRequisito, hpartes, intercalate_append _ (List.cons_ne_nil _ _)
      (List.cons_ne_nil _ _), hz, String.intercalate_cons_cons]
    simp only [String.append_assoc]
  · have hobjetivo : "## Objetivo".length = 11 := by decide +kernel
    have hhistoria : "## História do usuário".length = 22 := by decide +kernel
    have hprocesso : "## Processo atual".length = 17 := by decide +kernel
    have hlinha : "\n\n".length = 2 := by decide +kernel
    simp only [String.intercalate_cons_cons, String.intercalate_singleton, String.length_append,
      hobjetivo, hhistoria, hprocesso, hlinha]
    omega

example : "Critérios de aceite".length = 19 := by decide +kernel

/-- The description has the heading of the criteria, and text of some length before it. -/
theorem descricao_strip (p : LevantamentoRequisito) :
    ∃ antes depois : String, PyText.strip (montarRequisito p).descricao
      = antes ++ "Critérios de aceite" ++ depois ∧ 61 ≤ antes.length := by
  obtain ⟨meio, resto, hdescricao, hlen⟩ := descricao_eq p
  have htitulo : "## Problema".toList = '#' :: "# Problema".toList := by decide +kernel
  have hcriterios : "Critérios de aceite".toList = "Critérios de aceit".toList ++ ['e'] := by
    decide +kernel
  have hlista : (montarRequisito p).descricao = String.ofList ('#' ::
      ("# Problema".toList ++ meio.toList) ++ "Critérios de aceit".toList ++ 'e' :: resto.toList)
      := by
    rw [hdescricao, ← String.toList_inj, String.toList_ofList, String.toList_append,
      String.toList_append, String.toList_append, htitulo, hcriterios]
    simp only [List.cons_append, List.append_assoc, List.nil_append]
  obtain ⟨r, hr⟩ := PyText.toList_strip_append (l := "# Problema".toList ++ meio.toList)
    (m := "Critérios de aceit".toList) (r := resto.toList) (c := '#') (d := 'e')
    (by decide +kernel) (by decide +kernel)
  refine ⟨"## Problema" ++ meio, String.ofList r, ?_, ?_⟩
  · have hr' : (String.ofList r).toList = r := String.toList_ofList
    rw [hlista, ← String.toList_inj, hr, String.toList_append, String.toList_append,
      String.toList_append, hr', htitulo, hcriterios]
    simp only [List.cons_append, List.append_assoc, List.nil_append]
  · rw [String.length_append]
    omega

/-- The description is long enough for the score. -/
theorem length_descricao (p : LevantamentoRequisito) :
    80 ≤ (normalizarTexto (montarRequisito p).descricao).length := by
  obtain ⟨antes, depois, hstrip, hlen⟩ := descricao_strip p
  have hcriterios : "Critérios de aceite".length = 19 := by decide +kernel
  rw [normalizarTexto, Option.getD_some, hstrip, String.length_append, String.length_append,
    hcriterios]
  omega

example : textoComCriterio .ascii "## Critérios de aceite" = true := by decide +kernel

/-- The workflow finds a criterion in every requirement that is made of a form. -/
theorem textoComCriterio_montar (hU : CaixaLocal U) (p : LevantamentoRequisito) :
    textoComCriterio U (montarRequisito p).descricao = true := by
  obtain ⟨antes, depois, hstrip, -⟩ := descricao_strip p
  obtain ⟨x, z, hlower⟩ := hU.trecho antes "Critérios de aceite" depois (by decide +kernel)
  rw [textoComCriterio, List.any_eq_true]
  refine ⟨"critério", by decide, ?_⟩
  rw [PyText.contains_iff, normalizarTexto, Option.getD_some, hstrip, hlower, hU.acento,
    String.toList_append, String.toList_append]
  refine List.IsInfix.trans ?_ (List.infix_append _ _ _)
  exact ⟨[], ['s', ' ', 'd', 'e', ' ', 'a', 'c', 'e', 'i', 't', 'e'], by decide +kernel⟩

end Description

/-! ## The score of the requirement -/

section Score

variable {U : Unicode} {p : LevantamentoRequisito} {codigo status : String} {id : ℕ}

/-- How many of the area, the system and the applicant are filled in. -/
def LevantamentoRequisito.preenchidos (p : LevantamentoRequisito) : ℕ :=
  [p.area, p.sistema, p.solicitante].countP (PyText.strip · ≠ "")

/-- The states before the approval, whose names add nothing to the score. -/
def estadosIniciais : List String := ["recebido", "refinamento", "bloqueado", "devolvido"]

example : ∀ status ∈ estadosIniciais, status ∈ estadosConhecidos := by decide +kernel

theorem titulo_preenchido (p : LevantamentoRequisito) :
    normalizarTexto (montarRequisito p).titulo ≠ "" := by
  have hrotulo : ∀ tipo : TipoDemanda, ∃ c l, tipo.rotulo.toList = c :: l ∧
      PyText.isSpace c = false := by
    intro tipo
    cases tipo with
    | novaFuncionalidade => exact ⟨'N', "ova funcionalidade".toList, by decide +kernel⟩
    | alteracao => exact ⟨'A', "lteração".toList, by decide +kernel⟩
    | correcao => exact ⟨'C', "orreção".toList, by decide +kernel⟩
    | automacao => exact ⟨'A', "utomação".toList, by decide +kernel⟩
    | relatorio => exact ⟨'R', "elatório".toList, by decide +kernel⟩
    | integracao => exact ⟨'I', "ntegração".toList, by decide +kernel⟩
    | regulatorio => exact ⟨'R', "egulatório".toList, by decide +kernel⟩
  obtain ⟨c, l, hl, hspace⟩ := hrotulo p.tipoDemanda
  refine PyText.strip_ne_empty (c := c) ?_ hspace
  rw [Option.getD_some, montarRequisito, PyText.take, String.toList_ofList, String.toList_append,
    String.toList_append, hl]
  exact List.mem_cons_self

theorem urgencia_preenchida (p : LevantamentoRequisito) :
    normalizarTexto (montarRequisito p).urgencia ≠ "" := by
  have htodas : ∀ u : Urgencia, normalizarTexto u.texto ≠ "" := by
    intro u
    cases u <;> decide +kernel
  exact htodas p.urgencia

theorem descricao_preenchida (p : LevantamentoRequisito) :
    normalizarTexto (montarRequisito p).descricao ≠ "" := by
  intro hvazia
  have hlen := length_descricao p
  rw [hvazia] at hlen
  exact absurd hlen (by decide)

/-- The score of a requirement with a long description and a criterion, before the approval. -/
theorem calcularScoreProntidao_eq {r : Requisito} {n : ℕ}
    (hcount : [r.titulo, r.descricao, r.area, r.sistema, r.solicitante, r.urgencia].countP
      (fun valor : String ↦ decide (normalizarTexto valor ≠ "")) = n)
    (hlen : 80 ≤ (normalizarTexto r.descricao).length) (hcriterio : temCriterioAceite U r = true)
    (hstatus : normalizarChave U r.status ∉ statusProntos) :
    calcularScoreProntidao U r = min 100 (22 + 12 * n) := by
  rw [calcularScoreProntidao, hcount, hcriterio, if_pos hlen, if_pos rfl, if_neg hstatus]
  omega

/-- Before the approval, the score counts the texts that are filled in. -/
theorem calcularScoreProntidao_montar (hstatus : status ∈ estadosIniciais)
    (hcriterio : textoComCriterio U (montarRequisito p).descricao = true) :
    calcularScoreProntidao U ((montarRequisito p).requisito codigo status id)
      = min 100 (22 + 12 * (3 + p.preenchidos)) := by
  have hiniciais : ∀ status ∈ estadosIniciais,
      status ∈ estadosConhecidos ∧ status ∉ statusProntos := by decide +kernel
  obtain ⟨hconhecido, hpronto⟩ := hiniciais status hstatus
  have hstrip : ∀ s : String, normalizarTexto (PyText.strip s) = PyText.strip s :=
    PyText.strip_strip
  have harea : (montarRequisito p).area = PyText.strip p.area := by rw [montarRequisito]
  have hsistema : (montarRequisito p).sistema = PyText.strip p.sistema := by rw [montarRequisito]
  have hsolicitante : (montarRequisito p).solicitante = PyText.strip p.solicitante := by
    rw [montarRequisito]
  refine calcularScoreProntidao_eq ?_ ?_ ?_ ?_
  · rw [LevantamentoRequisito.preenchidos, Campos.titulo_requisito, Campos.descricao_requisito,
      Campos.area_requisito, Campos.sistema_requisito, Campos.solicitante_requisito,
      Campos.urgencia_requisito, harea, hsistema, hsolicitante]
    simp only [List.countP_cons, List.countP_nil, hstrip, decide_eq_true_eq, titulo_preenchido,
      descricao_preenchida, urgencia_preenchida, ne_eq, not_false_eq_true, if_true]
    omega
  · rw [Campos.descricao_requisito]
    exact length_descricao p
  · rw [temCriterioAceite, Campos.descricao_requisito]
    exact hcriterio
  · rw [Campos.status_requisito, normalizarChave_of_conhecido hconhecido]
    exact hpronto

end Score

/-! ## Runs -/

/-- What the collection is meant to keep out: a requirement that is made of a form is approved only
if the form has a criterion of acceptance, and is made of a regulatory form only if it has a
reference. -/
structure SoComCriterios (U : Unicode) (N : Numerais) (H : Hashes) (p : LevantamentoRequisito) :
    Prop where
  criterios : ∀ (b : Banco) uuid x (b' : Banco) requisito transicoes,
    b.gerarRequisito U N H p uuid x = (b', .ok { requisito, reutilizado := false }) →
    (∃ r ∈ (b'.transicionadas U N transicoes).requisitos.rows,
      r.id = requisito.id ∧ r.status = "aprovado") →
    ∃ item ∈ p.criteriosAceite, PyText.strip item ≠ ""
  regulatorio : ∀ (b : Banco) uuid x (b' : Banco) requisito,
    b.gerarRequisito U N H p uuid x = (b', .ok { requisito, reutilizado := false }) →
    p.impactoRegulatorio = true → normalizarTexto p.referenciaExterna ≠ ""

/-- The three things that count five points each. -/
def LevantamentoRequisito.complementos (p : LevantamentoRequisito) : List Bool :=
  [preenchido p.processoAtual,
    itensValidos p.dadosNecessarios ≠ [] ∨ itensValidos p.integracoes ≠ [] ∨
      itensValidos p.restricoes ≠ [],
    preenchido p.referenciaExterna]

/-- The form has no criterion, but rules and two of the three complements, and one of the area, the
system and the applicant. -/
def AprovavelSemCriterios (p : LevantamentoRequisito) : Prop :=
  itensValidos p.criteriosAceite = [] ∧ itensValidos p.regrasNegocio ≠ [] ∧
    2 ≤ p.complementos.count true ∧
    (p.impactoRegulatorio = true → PyText.truthy p.referenciaExterna = true) ∧ 0 < p.preenchidos

/-- The points of the criteria. -/
def LevantamentoRequisito.pontosDosCriterios (p : LevantamentoRequisito) : ℕ :=
  if 2 ≤ (itensValidos p.criteriosAceite).length then 15
  else if (itensValidos p.criteriosAceite).length = 1 then 8 else 0

/-- The form is regulatory, with a reference that is blank but not empty, and has twenty points
without it. -/
def ReferenciaEmBranco (p : LevantamentoRequisito) : Prop :=
  p.impactoRegulatorio = true ∧ PyText.truthy p.referenciaExterna = true ∧
    normalizarTexto p.referenciaExterna = "" ∧
    20 ≤ (if itensValidos p.regrasNegocio ≠ [] then 10 else 0) + p.pontosDosCriterios +
      5 * p.complementos.count true

section Generation

variable {U : Unicode} {N : Numerais} {H : Hashes} {p : LevantamentoRequisito}

/-- The score of a form. -/
theorem pontuacao_avaliar (p : LevantamentoRequisito) :
    (avaliarLevantamento p).pontuacao = min 100 (60 +
      (if itensValidos p.regrasNegocio ≠ [] then 10 else 0) + p.pontosDosCriterios +
      5 * p.complementos.count true) := by
  have hcinco : ∀ (c : Prop) [Decidable c],
      (if c then 5 else 0 : ℕ) = 5 * if c then 1 else 0 := by
    intro c _
    split <;> rfl
  rw [avaliarLevantamento, LevantamentoRequisito.pontosDosCriterios,
    LevantamentoRequisito.complementos]
  simp only [List.count_cons, List.count_nil, beq_true, decide_eq_true_eq, hcinco]
  omega

/-- A form is accepted with 80 points, and with a reference that is not empty when it is
regulatory. -/
theorem prontoParaGerar_iff (p : LevantamentoRequisito) :
    (avaliarLevantamento p).prontoParaGerar = true ↔
      20 ≤ (if itensValidos p.regrasNegocio ≠ [] then 10 else 0) + p.pontosDosCriterios +
        5 * p.complementos.count true ∧
      (p.impactoRegulatorio = true → PyText.truthy p.referenciaExterna = true) := by
  have hpronto : (avaliarLevantamento p).prontoParaGerar
      = (decide (pontuacaoMinimaGeracao ≤ (avaliarLevantamento p).pontuacao) &&
        !(p.impactoRegulatorio && !PyText.truthy p.referenciaExterna)) := by
    rw [avaliarLevantamento]
  rw [hpronto, pontuacao_avaliar, pontuacaoMinimaGeracao, Bool.and_eq_true, decide_eq_true_eq]
  refine and_congr (by omega) ?_
  cases p.impactoRegulatorio <;> cases PyText.truthy p.referenciaExterna <;> decide

/-- Without a criterion, a form is accepted with rules and two complements. -/
theorem prontoParaGerar_iff_of_semCriterios (h : itensValidos p.criteriosAceite = []) :
    (avaliarLevantamento p).prontoParaGerar = true ↔
      itensValidos p.regrasNegocio ≠ [] ∧ 2 ≤ p.complementos.count true ∧
      (p.impactoRegulatorio = true → PyText.truthy p.referenciaExterna = true) := by
  have hpontos : p.pontosDosCriterios = 0 := by
    rw [LevantamentoRequisito.pontosDosCriterios, h]
    rfl
  have hcount : p.complementos.count true ≤ 3 := List.count_le_length
  rw [prontoParaGerar_iff, hpontos, ← and_assoc]
  refine and_congr_left' ?_
  split
  next hregras =>
    rw [and_iff_right hregras]
    omega
  next hregras =>
    refine iff_of_false (by omega) fun h ↦ hregras h.1

example : itensValidos ["", "  "] = [] := by decide +kernel

/-- What a generation does: the form is accepted, and a requirement is added in the state
`recebido`. -/
theorem gerarRequisito_eq_ok {b b' : Banco} {uuid : String} {x : Option String}
    {requisito : Requisito}
    (h : b.gerarRequisito U N H p uuid x = (b', .ok { requisito, reutilizado := false })) :
    (avaliarLevantamento p).prontoParaGerar = true ∧
      ∃ codigo id, requisito = (montarRequisito p).requisito codigo "recebido" id ∧
        b'.requisitos.rows = b.requisitos.rows ++ [requisito] := by
  rw [Banco.gerarRequisito] at h
  have hrows : (b.registrarAvaliacao H p (correlacaoDaColeta H p x)).requisitos
      = b.requisitos := by
    rw [Banco.registrarAvaliacao]
    split <;> rfl
  split at h
  next hpronto =>
    refine ⟨hpronto, ?_⟩
    split at h
    · cases h
    · cases h
    · split at h
      · cases h
      next b₁ r hcriar =>
        cases h
        obtain ⟨hr, hrows₁⟩ := criar_eq_ok hcriar
        refine ⟨_, _, hr, ?_⟩
        rw [← hrows]
        exact hrows₁
  next => cases h

/-! ### Forms without a name -/

/-- The requirement is that of the form, in a state before the approval. -/
def Presa (p : LevantamentoRequisito) (id : ℕ) (b : Banco) : Prop :=
  ∀ r ∈ b.requisitos.rows, r.id = id →
    ∃ codigo, ∃ status ∈ estadosIniciais, r = (montarRequisito p).requisito codigo status id

/-- Without area, system and applicant, the score keeps the requirement before the approval. -/
theorem presa_transicionar {b : Banco} {id : ℕ} {identificador : String}
    {payload : RequisitoTransicaoCriar} {correlationId : Option String}
    (hp : p.preenchidos = 0) (h : Presa p id b) :
    Presa p id (b.transicionarRequisito U N identificador payload correlationId).1 := by
  rw [Banco.transicionarRequisito]
  split
  next => exact h
  next r hbusca =>
    split
    next => exact h
    next origem destino hok =>
      intro r' hr' hid
      obtain ⟨hr', -⟩ | ⟨r₀, hr₀, hid₀, rfl⟩ := Table.mem_update hr'
      · exact h r' hr' hid
      · have hr := mem_of_buscarRequisitoPorIdentificador hbusca
        obtain rfl := b.requisitos.keyed.eq_of_key_eq hr₀ hr hid₀
        obtain ⟨codigo, status, hstatus, rfl⟩ := h r₀ hr₀ hid
        rw [Campos.comStatus_requisito]
        refine ⟨codigo, destino, ?_, rfl⟩
        have hiniciais : ∀ status ∈ estadosIniciais, status ∈ statusGravados := by decide +kernel
        have htabela : ∀ status ∈ estadosIniciais, ∀ destino ∈ permitidosDe status ["refinamento"],
            destino ∈ estadosIniciais ∨ destino = "pronto_para_aprovacao" := by decide +kernel
        obtain ⟨rfl, -, -, harco, hcriterio, hscore, -⟩ := validarTransicao_eq_ok.mp hok
        rw [estadoAtual_of_gravado (hiniciais _ (by rw [Campos.status_requisito]; exact hstatus)),
          Campos.status_requisito] at harco
        refine (htabela status hstatus destino harco).resolve_right fun hpronto ↦ ?_
        have htem := hcriterio (by rw [hpronto]; exact List.mem_cons_self)
        rw [temCriterioAceite, Campos.descricao_requisito] at htem
        have hbaixo := hscore hpronto
        rw [calcularScoreProntidao_montar hstatus htem, hp] at hbaixo
        omega

theorem presa_transicionadas {b : Banco} {id : ℕ} (transicoes : List Transicao)
    (hp : p.preenchidos = 0) (h : Presa p id b) : Presa p id (b.transicionadas U N transicoes) := by
  induction transicoes generalizing b with
  | nil => exact h
  | cons t transicoes ih => exact ih (presa_transicionar hp h)

/-! ### Forms with a name -/

/-- The way from `recebido` to the approval. -/
def caminho : List Transicao :=
  ["refinamento", "pronto_para_aprovacao", "aprovado"].map fun novoStatus ↦
    { identificador := (1 : ℕ).repr
      payload := { novoStatus, usuario := "po", motivo := "fluxo", evidencia := "ata" } }

example : ∀ t ∈ caminho, t.payload.novoStatus ∈ estadosConhecidos := by decide +kernel

/-- A transition of the only requirement. -/
theorem transicionar_unica {b : Banco} {codigo status destino : String}
    (hb : b.requisitos.rows = [(montarRequisito p).requisito codigo status 1])
    (hstatus : status ∈ estadosConhecidos) (hdestino : destino ∈ estadosConhecidos)
    (hterminal : status ∉ estadosTerminais) (harco : destino ∈ permitidosDe status ["refinamento"])
    (hcriterio : textoComCriterio U (montarRequisito p).descricao = true)
    (hscore : destino = "pronto_para_aprovacao" →
      70 ≤ calcularScoreProntidao U ((montarRequisito p).requisito codigo status 1)) :
    (b.transicionarRequisito U N (1 : ℕ).repr
      { novoStatus := destino, usuario := "po", motivo := "fluxo", evidencia := "ata" }
      none).1.requisitos.rows = [(montarRequisito p).requisito codigo destino 1] := by
  have hbusca : buscarRequisitoPorIdentificador N b.requisitos (1 : ℕ).repr
      = .ok ((montarRequisito p).requisito codigo status 1) := by
    rw [buscarRequisitoPorIdentificador, buscarPorCodigoOuId, N.ler_repr, ok_bind, hb,
      List.find?_cons_of_pos]
    · rfl
    · exact decide_eq_true (.inr (by rw [Campos.id_requisito]))
  have hatual : estadoAtual U ((montarRequisito p).requisito codigo status 1) = status := by
    rw [estadoAtual_of_gravado, Campos.status_requisito]
    rw [Campos.status_requisito]
    exact List.mem_cons_of_mem _ hstatus
  have hata : normalizarTexto (some "ata") ≠ "" := by decide +kernel
  have hok : validarTransicao U ((montarRequisito p).requisito codigo status 1)
      { novoStatus := destino, usuario := "po", motivo := "fluxo", evidencia := "ata" }
        = .ok (status, destino) := by
    refine validarTransicao_eq_ok.mpr ⟨hatual.symm, (normalizarChave_of_conhecido hdestino).symm,
      hterminal, harco, fun _ ↦ ?_, hscore, fun _ ↦ hata⟩
    rw [temCriterioAceite, Campos.descricao_requisito]
    exact hcriterio
  rw [Banco.transicionarRequisito, hbusca]
  dsimp only
  rw [hok]
  change Table.update Requisito.id _ (Requisito.comStatus destino) b.requisitos.rows = _
  rw [hb, Table.update, List.map_singleton, if_pos rfl, Campos.comStatus_requisito]

/-- An accepted form whose key is unknown is stored, with an event. -/
theorem gerarRequisito_of_novo {b b' : Banco} {uuid : String} {x : Option String}
    {requisito : Requisito} (h : (avaliarLevantamento p).prontoParaGerar = true)
    (hbusca : (b.registrarAvaliacao H p (correlacaoDaColeta H p x)).buscarRequisitoIdempotente N
      (H.chave p.chaveIdempotencia) = .ok none)
    (hcriar : (b.registrarAvaliacao H p (correlacaoDaColeta H p x)).criar
      ("REQ-" ++ U.upper (PyText.take 12 uuid)) (montarRequisito p) (some "recebido")
        = (b', .ok requisito)) :
    b.gerarRequisito U N H p uuid x
      = (b'.registrarEvento (eventoGerado H p (correlacaoDaColeta H p x) requisito.id),
        .ok { requisito, reutilizado := false }) := by
  rw [Banco.gerarRequisito, if_pos h, hbusca]
  dsimp only
  rw [hcriar]

/-- An accepted form becomes the only requirement of an empty database. -/
theorem gerarRequisito_vazio (h : (avaliarLevantamento p).prontoParaGerar = true) (uuid : String)
    (x : Option String) :
    ∃ b' codigo, Banco.gerarRequisito U N H p uuid x {} = (b',
      .ok { requisito := (montarRequisito p).requisito codigo "recebido" 1,
            reutilizado := false }) ∧
      b'.requisitos.rows = [(montarRequisito p).requisito codigo "recebido" 1] := by
  have havaliada : Banco.registrarAvaliacao H p (correlacaoDaColeta H p x) {}
      = ({} : Banco).registrarEvento (eventoAvaliacao H p (correlacaoDaColeta H p x)) := rfl
  have hbusca : (Banco.registrarAvaliacao H p (correlacaoDaColeta H p x)
      {}).buscarRequisitoIdempotente N (H.chave p.chaveIdempotencia) = .ok none := by
    rw [havaliada]
    rfl
  have hlivre : ∀ r ∈ (Banco.registrarAvaliacao H p (correlacaoDaColeta H p x)
      {}).requisitos.rows, r.codigo ≠ "REQ-" ++ U.upper (PyText.take 12 uuid) := by
    rw [havaliada]
    exact fun r hr ↦ absurd hr List.not_mem_nil
  obtain ⟨b', hcriar⟩ := criar_of_livre (montarRequisito p) "recebido" hlivre
  refine ⟨_, _, gerarRequisito_of_novo h hbusca hcriar, ?_⟩
  exact (criar_eq_ok hcriar).2

/-- A form without a criterion, with enough of the rest, is approved. -/
theorem caminho_aprova (hU : CaixaLocal U) (h : 0 < p.preenchidos) {b : Banco} {codigo : String}
    (hb : b.requisitos.rows = [(montarRequisito p).requisito codigo "recebido" 1]) :
    (b.transicionadas U N caminho).requisitos.rows
      = [(montarRequisito p).requisito codigo "aprovado" 1] := by
  have hcriterio := textoComCriterio_montar hU p
  have harcos : ∀ arco ∈ [("recebido", "refinamento"), ("refinamento", "pronto_para_aprovacao"),
      ("pronto_para_aprovacao", "aprovado")], arco.1 ∈ estadosConhecidos ∧
      arco.2 ∈ estadosConhecidos ∧ arco.1 ∉ estadosTerminais ∧
      arco.2 ∈ permitidosDe arco.1 ["refinamento"] := by decide +kernel
  have hpasso : ∀ arco ∈ [("recebido", "refinamento"), ("refinamento", "pronto_para_aprovacao"),
      ("pronto_para_aprovacao", "aprovado")], ∀ b : Banco,
      b.requisitos.rows = [(montarRequisito p).requisito codigo arco.1 1] →
      (b.transicionarRequisito U N (1 : ℕ).repr
        { novoStatus := arco.2, usuario := "po", motivo := "fluxo", evidencia := "ata" }
        none).1.requisitos.rows = [(montarRequisito p).requisito codigo arco.2 1] := by
    intro arco harco b hb
    obtain ⟨horigem, hdestino, hterminal, hpermitido⟩ := harcos arco harco
    refine transicionar_unica hb horigem hdestino hterminal hpermitido hcriterio fun hpronto ↦ ?_
    have hrefinamento : ∀ arco ∈ [("recebido", "refinamento"),
        ("refinamento", "pronto_para_aprovacao"), ("pronto_para_aprovacao", "aprovado")],
        arco.2 = "pronto_para_aprovacao" → arco.1 ∈ estadosIniciais := by decide +kernel
    rw [calcularScoreProntidao_montar (hrefinamento arco harco hpronto) hcriterio]
    omega
  have h₁ := hpasso ("recebido", "refinamento") List.mem_cons_self b hb
  have h₂ := hpasso ("refinamento", "pronto_para_aprovacao")
    (List.mem_cons_of_mem _ List.mem_cons_self) _ h₁
  exact hpasso ("pronto_para_aprovacao", "aprovado")
    (List.mem_cons_of_mem _ (List.mem_cons_of_mem _ List.mem_cons_self)) _ h₂

end Generation

/-- **Criteria.** A form keeps the promise of the collection, in every database and through every
sequence of transitions, if and only if it is none of two kinds: without a criterion, but with
enough points for the rest and a name, and regulatory with a blank reference and enough points. -/
theorem soComCriterios_iff (U : Unicode) (N : Numerais) (H : Hashes) (hU : CaixaLocal U)
    (p : LevantamentoRequisito) :
    SoComCriterios U N H p ↔ ¬AprovavelSemCriterios p ∧ ¬ReferenciaEmBranco p := by
  constructor
  · intro h
    refine ⟨?_, ?_⟩
    · rintro ⟨hcriterios, hregras, hcomplementos, hreferencia, hpreenchidos⟩
      have hpronto := (prontoParaGerar_iff_of_semCriterios hcriterios).mpr
        ⟨hregras, hcomplementos, hreferencia⟩
      obtain ⟨b', codigo, hgerar, hrows⟩ :=
        gerarRequisito_vazio (U := U) (N := N) (H := H) hpronto "" none
      have haprovado := caminho_aprova (N := N) hU hpreenchidos hrows
      obtain ⟨item, hitem, hne⟩ := h.criterios _ _ _ _ _ caminho hgerar
        ⟨(montarRequisito p).requisito codigo "aprovado" 1,
          by rw [haprovado]; exact List.mem_cons_self,
          by rw [Campos.id_requisito, Campos.id_requisito], by rw [Campos.status_requisito]⟩
      have hvalido : PyText.strip item ∈ itensValidos p.criteriosAceite :=
        List.mem_filter.mpr ⟨List.mem_map_of_mem hitem, decide_eq_true hne⟩
      rw [hcriterios] at hvalido
      exact List.not_mem_nil hvalido
    · rintro ⟨himpacto, hreferencia, hbranco, hpontos⟩
      have hpronto := (prontoParaGerar_iff p).mpr ⟨hpontos, fun _ ↦ hreferencia⟩
      obtain ⟨b', codigo, hgerar, -⟩ :=
        gerarRequisito_vazio (U := U) (N := N) (H := H) hpronto "" none
      exact h.regulatorio _ _ _ _ _ hgerar himpacto hbranco
  · rintro ⟨hcriterios, hreferencia⟩
    constructor
    · intro b uuid x b' requisito transicoes hgerar haprovado
      by_contra hsem
      push Not at hsem
      have hvazios : itensValidos p.criteriosAceite = [] := by
        rw [itensValidos, List.filter_eq_nil_iff]
        intro item hitem
        obtain ⟨bruto, hbruto, rfl⟩ := List.mem_map.mp hitem
        rw [hsem bruto hbruto]
        decide
      obtain ⟨hpronto, codigo, id, rfl, hrows⟩ := gerarRequisito_eq_ok hgerar
      obtain ⟨hregras, hcomplementos, hreferencia⟩ :=
        (prontoParaGerar_iff_of_semCriterios hvazios).mp hpronto
      have hpreenchidos : p.preenchidos = 0 := by
        by_contra hne
        exact hcriterios ⟨hvazios, hregras, hcomplementos, hreferencia, Nat.pos_of_ne_zero hne⟩
      have hpresa : Presa p id b' := by
        intro r hr hid
        have hmem : (montarRequisito p).requisito codigo "recebido" id ∈ b'.requisitos.rows := by
          rw [hrows]
          exact List.mem_append_right _ (List.mem_singleton_self _)
        exact ⟨codigo, "recebido", List.mem_cons_self,
          b'.requisitos.keyed.eq_of_key_eq hr hmem (by rw [Campos.id_requisito, hid])⟩
      obtain ⟨r, hr, hid, hstatus⟩ := haprovado
      rw [Campos.id_requisito] at hid
      obtain ⟨codigo', status, hinicial, rfl⟩ :=
        presa_transicionadas transicoes hpreenchidos hpresa r hr hid
      rw [Campos.status_requisito] at hstatus
      rw [hstatus] at hinicial
      exact absurd hinicial (by decide +kernel)
    · intro b uuid x b' requisito hgerar himpacto hbranco
      obtain ⟨hpronto, -⟩ := gerarRequisito_eq_ok hgerar
      obtain ⟨hpontos, hcheia⟩ := (prontoParaGerar_iff p).mp hpronto
      exact hreferencia ⟨himpacto, hcheia himpacto, hbranco, hpontos⟩

/-- The ASCII tables lower character by character. -/
theorem caixaLocal_ascii : CaixaLocal .ascii where
  trecho a b c _ := by
    refine ⟨PyText.asciiLower a, PyText.asciiLower c, ?_⟩
    change PyText.asciiLower (a ++ b ++ c)
      = PyText.asciiLower a ++ PyText.asciiLower b ++ PyText.asciiLower c
    rw [PyText.asciiLower, PyText.asciiLower, PyText.asciiLower, PyText.asciiLower,
      String.toList_append, String.toList_append, List.map_append, List.map_append,
      String.ofList_append, String.ofList_append]
  acento := by decide +kernel

private theorem referencia_none : ∀ s ∈ (none : Option String), s.length ≤ 200 := by simp

/-- A form, with the given criteria. -/
def formularioCom (criterios : List String)
    (h : 1 ≤ criterios.length ∧ criterios.length ≤ 20 := by decide +kernel) :
    LevantamentoRequisito where
  chaveIdempotencia := "coleta-2026-001"
  solicitante := "ana"
  area := "negocio"
  sistema := "reqsys"
  tipoDemanda := .relatorio
  problema := "O relatório mensal é montado à mão."
  objetivo := "Exportar o relatório mensal."
  usuarioAfetado := "analista"
  processoAtual := "Planilha preenchida à mão."
  cenarioDesejado := "um relatório exportado pelo sistema"
  regrasNegocio := ["O relatório fecha no último dia útil."]
  criteriosAceite := criterios
  dadosNecessarios := ["Lançamentos do mês"]
  criterios_len := h
  referencia_len := referencia_none

/-- Digests that play no part. -/
def semHashes : Hashes := ⟨id, LevantamentoRequisito.chaveIdempotencia⟩

theorem soComCriterios_formulario :
    SoComCriterios .ascii .ascii semHashes
      (formularioCom ["O arquivo exportado contém todos os lançamentos do mês."]) :=
  (soComCriterios_iff .ascii .ascii semHashes caixaLocal_ascii _).mpr
    ⟨fun h ↦ absurd h.1 (by decide +kernel), fun h ↦ absurd h.1 (by decide +kernel)⟩

/-- One blank criterion: the form has 80 points, and its requirement is approved. -/
theorem criterio_em_branco_aprovado :
    ¬∀ p : LevantamentoRequisito, SoComCriterios .ascii .ascii semHashes p := by
  intro h
  have hpronto : (avaliarLevantamento (formularioCom ["  "])).prontoParaGerar = true := by
    decide +kernel
  obtain ⟨b', codigo, hgerar, hrows⟩ :=
    gerarRequisito_vazio (U := .ascii) (N := .ascii) (H := semHashes) hpronto "" none
  have haprovado := caminho_aprova (N := .ascii) caixaLocal_ascii (by decide +kernel) hrows
  obtain ⟨item, hitem, hne⟩ := (h (formularioCom ["  "])).criterios _ _ _ _ _ caminho hgerar
    ⟨(montarRequisito (formularioCom ["  "])).requisito codigo "aprovado" 1,
      by rw [haprovado]; exact List.mem_cons_self,
      by rw [Campos.id_requisito, Campos.id_requisito], by rw [Campos.status_requisito]⟩
  have hbrancos : ∀ item ∈ (formularioCom ["  "]).criteriosAceite, PyText.strip item = "" := by
    decide +kernel
  exact hne (hbrancos item hitem)

end Requisitos

end ReqSys
