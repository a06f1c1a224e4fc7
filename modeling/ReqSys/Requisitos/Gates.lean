import Mathlib
import ReqSys.Requisitos.Webhook

/-!
# Requirements: the gates

The guards of `_validar_transicao` sit on single edges: a criterion of acceptance is asked for where
a requirement is sent to approval and where it is approved, evidence where it is marked as evidenced
or exported. The graph has cycles, and other functions write the status as well: a new requirement
starts in `refinamento`, and the webhook of the Git providers writes `implementado`.

No path leads around a gate (`governado`). Every way into `aprovado` asks for the criterion, nothing
changes the description, and the states behind `aprovado` are only entered from each other, so that
a requirement in one of them was approved after it was last in `refinamento`.
-/

namespace ReqSys

namespace Requisitos

/-! ## Transitions -/

/-- `_buscar_requisito_por_identificador`. -/
def buscarRequisitoPorIdentificador (N : Numerais) (t : Tabela) (identificador : String) :
    Except Erro Requisito := do
  let requisito ← buscarPorCodigoOuId N t identificador
  orThrow requisito <| .http
    { statusCode := 404
      detail :=
        { code := "REQUISITO_NAO_ENCONTRADO"
          message := "Requisito nao encontrado pelo codigo ou id informado."
          identificador } }

/-- The event of a transition. -/
def eventoTransicao (U : Unicode) (r : Requisito) (payload : RequisitoTransicaoCriar)
    (correlationId : Option String) (origem destino : String) : AuditoriaEvento where
  correlationId := correlacao correlationId
  usuario := payload.usuario
  acao := "REQUISITO_TRANSICIONADO"
  entidade := "requisito"
  entidadeId := r.id.repr
  payloadMinimo := .transicao origem destino payload.motivo
    (normalizarTexto payload.evidencia ≠ "") (calcularScoreProntidao U (r.comStatus destino))

/-- `transicionar_requisito`. The route of the Runtime Core does the same and publishes the event
afterwards. -/
def Banco.transicionarRequisito (U : Unicode) (N : Numerais) (identificador : String)
    (payload : RequisitoTransicaoCriar) (correlationId : Option String) (b : Banco) :
    Banco × Except Erro AuditoriaEvento :=
  match buscarRequisitoPorIdentificador N b.requisitos identificador with
  | .error e => (b, .error e)
  | .ok r =>
    match validarTransicao U r payload with
    | .error e => (b, .error (.http e))
    | .ok (origem, destino) =>
      let evento := eventoTransicao U r payload correlationId origem destino
      ((b.escreverStatus r.id destino).registrarEvento evento, .ok evento)

/-- A call of the repository, of the transition or of the webhook. -/
inductive Operacao
  | criar (codigo : String) (campos : Campos)
  | transicionarRequisito (identificador : String) (payload : RequisitoTransicaoCriar)
      (correlationId : Option String)
  | salvarVinculos (vinculos : List Vinculo)

/-- The database after a call. -/
def Banco.executar (U : Unicode) (N : Numerais) (b : Banco) : Operacao → Banco
  | .criar codigo campos => (b.criar codigo campos none).1
  | .transicionarRequisito identificador payload correlationId =>
    (b.transicionarRequisito U N identificador payload correlationId).1
  | .salvarVinculos vinculos => b.salvarVinculos U vinculos

/-- The database after calls, one after the other. -/
def executadas (U : Unicode) (N : Numerais) (operacoes : List Operacao) : Banco :=
  operacoes.foldl (Banco.executar U N) .vazio

/-! ## What the gates promise -/

/-- The states behind the approval. -/
def estadosGovernados : List String :=
  ["aprovado", "em_execucao", "validado", "evidenciado", "exportado"]

/-- The states that ask for evidence. -/
def estadosComEvidencia : List String := ["evidenciado", "exportado"]

/-- The event records that the requirement entered the state. -/
def AuditoriaEvento.EntraEm (e : AuditoriaEvento) (id : ℕ) (destino : String) : Prop :=
  e.acao = "REQUISITO_TRANSICIONADO" ∧ e.entidade = "requisito" ∧ e.entidadeId = id.repr ∧
    ∃ origem motivo evidencia score,
      e.payloadMinimo = .transicao origem destino motivo evidencia score

/-- The event records evidence. -/
def AuditoriaEvento.ComEvidencia (e : AuditoriaEvento) : Prop :=
  ∃ origem destino motivo score, e.payloadMinimo = .transicao origem destino motivo true score

/-- There is an event into `aprovado` after the last entry into `refinamento`. -/
def Aprovado (escritas : List Escrita) (id : ℕ) : Prop :=
  ∃ antes e depois, escritas = antes ++ .evento e :: depois ∧ e.EntraEm id "aprovado" ∧
    Escrita.status id "refinamento" ∉ depois

/-- The last event into the state records evidence. -/
def Evidenciado (escritas : List Escrita) (id : ℕ) (estado : String) : Prop :=
  ∃ antes e depois, escritas = antes ++ .evento e :: depois ∧ e.EntraEm id estado ∧
    e.ComEvidencia ∧ ∀ e', Escrita.evento e' ∈ depois → ¬e'.EntraEm id estado

/-- A requirement that has passed the gates of its state. -/
structure Governado (U : Unicode) (escritas : List Escrita) (r : Requisito) : Prop where
  aprovado : r.status ∈ estadosGovernados → Aprovado escritas r.id
  criterio : r.status ∈ estadosGovernados → temCriterioAceite U r = true
  evidencia : r.status ∈ estadosComEvidencia → Evidenciado escritas r.id r.status

/-! ## What a write keeps -/

section Writes

variable {U : Unicode} {escritas novas : List Escrita} {id : ℕ} {r : Requisito}

/-- The writes leave the gates of the requirement alone. -/
def Neutras (novas : List Escrita) (r : Requisito) : Prop :=
  Escrita.status r.id "refinamento" ∉ novas ∧
    ∀ e, Escrita.evento e ∈ novas → ∀ estado, ¬e.EntraEm r.id estado

theorem Aprovado.append (h : Aprovado escritas id)
    (hnovas : Escrita.status id "refinamento" ∉ novas) : Aprovado (escritas ++ novas) id := by
  obtain ⟨antes, e, depois, rfl, he, hdepois⟩ := h
  refine ⟨antes, e, depois ++ novas, ?_, he, ?_⟩
  · rw [List.append_assoc, List.cons_append]
  · rw [List.mem_append, not_or]
    exact ⟨hdepois, hnovas⟩

theorem Evidenciado.append {estado : String} (h : Evidenciado escritas id estado)
    (hnovas : ∀ e, Escrita.evento e ∈ novas → ¬e.EntraEm id estado) :
    Evidenciado (escritas ++ novas) id estado := by
  obtain ⟨antes, e, depois, rfl, he, hevidencia, hdepois⟩ := h
  refine ⟨antes, e, depois ++ novas, ?_, he, hevidencia, fun e' he' ↦ ?_⟩
  · rw [List.append_assoc, List.cons_append]
  · obtain he' | he' := List.mem_append.mp he'
    · exact hdepois e' he'
    · exact hnovas e' he'

/-- What a requirement has passed, it has passed after more writes. -/
theorem Governado.append (h : Governado U escritas r) (hnovas : Neutras novas r) :
    Governado U (escritas ++ novas) r where
  aprovado hstatus := (h.aprovado hstatus).append hnovas.1
  criterio := h.criterio
  evidencia hstatus := (h.evidencia hstatus).append fun e he ↦ hnovas.2 e he r.status

/-- The requirement that a write is about. -/
def Escrita.alvo : Escrita → String
  | .status id _ => id.repr
  | .evento e => e.entidadeId

/-- Writes about other requirements are neutral. -/
theorem Neutras.of_alvo (h : ∀ x ∈ novas, x.alvo ≠ r.id.repr) : Neutras novas r :=
  ⟨fun hmem ↦ h _ hmem rfl, fun _ he _ hentra ↦ h _ he hentra.2.2.1⟩

/-- Outside the governed states there is no gate. -/
theorem Governado.of_notMem (h : r.status ∉ estadosGovernados) : Governado U escritas r where
  aprovado hstatus := absurd hstatus h
  criterio hstatus := absurd hstatus h
  evidencia hstatus := absurd (List.mem_of_mem_drop (i := 3) hstatus) h

end Writes

/-! ## The table -/

/-- The texts that the program writes as a status. -/
def statusGravados : List String := "implementado" :: estadosConhecidos

example : ∀ status ∈ estadosGovernados, status ∈ statusGravados := by decide +kernel

section Table

variable {U : Unicode} {r : Requisito} {origem destino : String}

/-- A status that the program has written is its own key. -/
theorem estadoAtual_of_gravado (h : r.status ∈ statusGravados) : estadoAtual U r = r.status := by
  have hproprio : ∀ estado ∈ statusGravados, PyText.IsAscii estado ∧
      PyText.strip estado = estado ∧ sublinhado (PyText.asciiLower estado) = estado ∧
      estado ≠ "" := by
    decide +kernel
  obtain ⟨hascii, hstrip, hchave, hvazio⟩ := hproprio r.status h
  have hnormal : normalizarChave U r.status = r.status := by
    rw [normalizarChave_of_ascii hascii hstrip, hchave]
  rw [estadoAtual, hnormal, if_neg hvazio]

/-- A target of a state stands in its row of the table, or is the default. -/
theorem mem_permitidosDe {padrao : List String} (h : destino ∈ permitidosDe origem padrao) :
    (∃ arco ∈ transicoesPermitidas, arco.1 = origem ∧ destino ∈ arco.2) ∨ destino ∈ padrao := by
  rw [permitidosDe] at h
  rcases hlookup : transicoesPermitidas.lookup origem with _ | destinos
  · rw [hlookup, Option.getD_none] at h
    exact .inr h
  · rw [hlookup, Option.getD_some] at h
    obtain ⟨l₁, l₂, hsplit, -⟩ := List.lookup_eq_some_iff.mp hlookup
    refine .inl ⟨(origem, destinos), ?_, rfl, h⟩
    rw [hsplit]
    exact List.mem_append_right _ List.mem_cons_self

/-- The governed states are entered through `aprovado` or from each other. -/
theorem governado_of_arco (h : destino ∈ permitidosDe origem ["refinamento"])
    (hdestino : destino ∈ estadosGovernados) :
    destino = "aprovado" ∨ origem ∈ estadosGovernados := by
  have htabela : ∀ arco ∈ transicoesPermitidas, ∀ destino ∈ arco.2, destino ∈ estadosGovernados →
      destino = "aprovado" ∨ arco.1 ∈ estadosGovernados := by decide +kernel
  have hpadrao : ∀ destino ∈ ["refinamento"], destino ∉ estadosGovernados := by decide +kernel
  obtain ⟨arco, harco, rfl, hmem⟩ | hmem := mem_permitidosDe h
  · exact htabela arco harco destino hmem hdestino
  · exact absurd hdestino (hpadrao destino hmem)

/-- The targets are known states. -/
theorem gravado_of_arco (h : destino ∈ permitidosDe origem ["refinamento"]) :
    destino ∈ statusGravados := by
  have htabela : ∀ arco ∈ transicoesPermitidas, ∀ destino ∈ arco.2, destino ∈ statusGravados := by
    decide +kernel
  have hpadrao : ∀ destino ∈ ["refinamento"], destino ∈ statusGravados := by decide +kernel
  obtain ⟨arco, harco, -, hmem⟩ | hmem := mem_permitidosDe h
  · exact htabela arco harco destino hmem
  · exact hpadrao destino hmem

end Table

/-! ## Runs -/

/-- Every requirement has a status that the program writes, and has passed the gates of its
state. -/
def Invariante (U : Unicode) (b : Banco) : Prop :=
  ∀ r ∈ b.requisitos.rows, r.status ∈ statusGravados ∧ Governado U b.escritas r

section Run

variable {U : Unicode} {N : Numerais} {b b' : Banco} {r : Requisito}

/-- Writes that are neutral to every requirement keep the invariant. -/
theorem Invariante.neutras {novas : List Escrita} (h : Invariante U b)
    (hrequisitos : b'.requisitos = b.requisitos) (hescritas : b'.escritas = b.escritas ++ novas)
    (hnovas : ∀ r, Neutras novas r) : Invariante U b' := by
  intro r hr
  rw [hrequisitos] at hr
  rw [hescritas]
  exact ⟨(h r hr).1, (h r hr).2.append (hnovas r)⟩

/-- A new status of one requirement keeps the invariant, if the requirement has passed the gates of
the new state. -/
theorem Invariante.escrever {status : String} {novas : List Escrita} (h : Invariante U b)
    (hr : r ∈ b.requisitos.rows) (hrequisitos : b'.requisitos = b.requisitos.comStatus r.id status)
    (hescritas : b'.escritas = b.escritas ++ novas) (halvo : ∀ x ∈ novas, x.alvo = r.id.repr)
    (hstatus : status ∈ statusGravados)
    (hgovernado : Governado U (b.escritas ++ novas) (r.comStatus status)) : Invariante U b' := by
  intro r' hr'
  rw [hrequisitos] at hr'
  rw [hescritas]
  obtain ⟨hr', hne⟩ | ⟨r₀, hr₀, hid, rfl⟩ := Table.mem_update hr'
  · refine ⟨(h r' hr').1, (h r' hr').2.append (.of_alvo fun x hx heq ↦ hne ?_)⟩
    exact Nat.repr_inj.mp (heq.symm.trans (halvo x hx))
  · obtain rfl := b.requisitos.keyed.eq_of_key_eq hr₀ hr hid
    exact ⟨hstatus, hgovernado⟩

/-! ### Creation -/

theorem invariante_criar (codigo : String) (campos : Campos) (h : Invariante U b) :
    Invariante U (b.criar codigo campos none).1 := by
  have hrecebido : "recebido" ∈ statusGravados ∧ "recebido" ∉ estadosGovernados := by
    decide +kernel
  have hrefinamento : "refinamento" ∈ statusGravados ∧ "refinamento" ∉ estadosGovernados := by
    decide +kernel
  rw [Banco.criar]
  split
  next hlivre =>
    let novo : Requisito := campos.requisito codigo "recebido" b.requisitos.next
    let meio : Banco :=
      { b with
        requisitos := b.requisitos.insert (campos.requisito codigo "recebido") rfl hlivre
        escritas := b.escritas ++ [.status novo.id "recebido"] }
    have hmeio : Invariante U meio := by
      intro r hr
      obtain hr | hr := List.mem_append.mp hr
      · refine ⟨(h r hr).1, (h r hr).2.append (.of_alvo fun x hx ↦ ?_)⟩
        rw [List.mem_singleton.mp hx]
        exact fun heq ↦ (b.requisitos.below r hr).ne' (Nat.repr_inj.mp heq)
      · rw [List.mem_singleton.mp hr]
        exact ⟨hrecebido.1, .of_notMem hrecebido.2⟩
    have hnovo : novo ∈ meio.requisitos.rows :=
      List.mem_append_right _ (List.mem_singleton_self _)
    have halvo : ∀ x ∈ [Escrita.status novo.id "refinamento"], x.alvo = novo.id.repr := by
      intro x hx
      rw [List.mem_singleton.mp hx]
      rfl
    exact hmeio.escrever hnovo rfl rfl halvo hrefinamento.1 (.of_notMem hrefinamento.2)
  next => exact h

example : "refinamento" ∉ estadosGovernados := by decide +kernel

/-! ### Transitions -/

/-- What is found is stored. -/
theorem mem_of_buscarRequisitoPorIdentificador {t : Tabela} {identificador : String}
    (h : buscarRequisitoPorIdentificador N t identificador = .ok r) : r ∈ t.rows := by
  rw [buscarRequisitoPorIdentificador, bind_eq_ok] at h
  obtain ⟨requisito, hbusca, h⟩ := h
  rw [orThrow_eq_ok] at h
  rw [buscarPorCodigoOuId, bind_eq_ok] at hbusca
  obtain ⟨id, -, hbusca⟩ := hbusca
  have hfind := Except.ok.inj hbusca
  rw [h] at hfind
  exact List.mem_of_find?_eq_some hfind

theorem entraEm_eventoTransicao (payload : RequisitoTransicaoCriar) (correlationId : Option String)
    (origem destino : String) :
    (eventoTransicao U r payload correlationId origem destino).EntraEm r.id destino :=
  ⟨rfl, rfl, rfl, _, _, _, _, rfl⟩

/-- An accepted transition passes the gates of the state that it enters. -/
theorem governado_transicao {escritas : List Escrita} {payload : RequisitoTransicaoCriar}
    {correlationId : Option String} {origem destino : String} (hstatus : r.status ∈ statusGravados)
    (hr : Governado U escritas r) (hok : validarTransicao U r payload = .ok (origem, destino)) :
    Governado U
      (escritas ++ [.status r.id destino,
        .evento (eventoTransicao U r payload correlationId origem destino)])
      (r.comStatus destino) := by
  obtain ⟨rfl, -, -, harco, hcriterio, -, hevidencia⟩ := validarTransicao_eq_ok.mp hok
  rw [estadoAtual_of_gravado hstatus] at harco ⊢
  let evento := eventoTransicao U r payload correlationId r.status destino
  have hsplit : escritas ++ [.status r.id destino, .evento evento]
      = (escritas ++ [.status r.id destino]) ++ .evento evento :: [] := by
    rw [List.append_assoc, List.singleton_append]
  have hentra : evento.EntraEm r.id destino := entraEm_eventoTransicao _ _ _ _
  constructor
  · intro hgovernado
    by_cases haprovado : destino = "aprovado"
    · refine ⟨_, evento, [], hsplit, ?_, List.not_mem_nil⟩
      rw [← haprovado]
      exact hentra
    · have horigem := (governado_of_arco harco hgovernado).resolve_left haprovado
      refine (hr.aprovado horigem).append ?_
      have hrefinamento : "refinamento" ∉ estadosGovernados := by decide +kernel
      intro hmem
      obtain heq | hmem := List.mem_cons.mp hmem
      · cases heq
        exact hrefinamento hgovernado
      · cases List.mem_singleton.mp hmem
  · intro hgovernado
    by_cases haprovado : destino = "aprovado"
    · exact hcriterio (List.mem_cons_of_mem _ (List.mem_singleton.mpr haprovado))
    · exact hr.criterio ((governado_of_arco harco hgovernado).resolve_left haprovado)
  · intro hdestino
    refine ⟨_, evento, [], hsplit, hentra, ?_, fun _ he ↦ absurd he List.not_mem_nil⟩
    refine ⟨r.status, destino, payload.motivo, calcularScoreProntidao U (r.comStatus destino), ?_⟩
    have htem : decide (normalizarTexto payload.evidencia ≠ "") = true :=
      decide_eq_true (hevidencia hdestino)
    exact congrArg (Carga.transicao r.status destino payload.motivo · _) htem

theorem invariante_transicionarRequisito (identificador : String)
    (payload : RequisitoTransicaoCriar) (correlationId : Option String) (h : Invariante U b) :
    Invariante U (b.transicionarRequisito U N identificador payload correlationId).1 := by
  rw [Banco.transicionarRequisito]
  split
  next => exact h
  next r hbusca =>
    split
    next => exact h
    next origem destino hok =>
      have hr := mem_of_buscarRequisitoPorIdentificador hbusca
      obtain ⟨hstatus, hgovernado⟩ := h r hr
      have harco := (validarTransicao_eq_ok.mp hok).2.2.2.1
      refine h.escrever hr rfl (List.append_assoc _ _ _) ?_ (gravado_of_arco harco)
        (governado_transicao hstatus hgovernado hok)
      intro x hx
      obtain rfl | hx := List.mem_cons.mp hx
      · rfl
      · rw [List.mem_singleton.mp hx]
        rfl

/-! ### Links -/

/-- Only a transition records that a state is entered. -/
theorem neutras_evento {e : AuditoriaEvento}
    (h : ∀ origem destino motivo evidencia score,
      e.payloadMinimo ≠ .transicao origem destino motivo evidencia score) (r : Requisito) :
    Neutras [.evento e] r := by
  refine ⟨fun hmem ↦ ?_, fun e' he' estado hentra ↦ ?_⟩
  · cases List.mem_singleton.mp hmem
  · cases List.mem_singleton.mp he'
    obtain ⟨-, -, -, origem, motivo, evidencia, score, hcarga⟩ := hentra
    exact h _ _ _ _ _ hcarga

example : "implementado" ∈ statusGravados ∧ "implementado" ∉ estadosGovernados := by decide +kernel

theorem invariante_avancarStatus {v : Vinculo} {id : ℕ} (h : Invariante U b) :
    Invariante U (b.avancarStatus v id) := by
  have himplementado : "implementado" ∈ statusGravados ∧ "implementado" ∉ estadosGovernados := by
    decide +kernel
  rw [Banco.avancarStatus]
  split
  · split
    next => exact h
    next r hbusca =>
      split
      · have hr := Table.mem_of_lookup hbusca
        have hid : r.id = id := Table.key_of_lookup hbusca
        subst hid
        refine h.escrever hr rfl (List.append_assoc _ _ _) ?_ himplementado.1
          (.of_notMem himplementado.2)
        intro x hx
        obtain rfl | hx := List.mem_cons.mp hx
        · rfl
        · rw [List.mem_singleton.mp hx]
          rfl
      · exact h
  · exact h

theorem invariante_salvarVinculo {v : Vinculo} (h : Invariante U b) :
    Invariante U (b.salvarVinculo U v) := by
  rw [Banco.salvarVinculo]
  split
  · exact h
  · refine invariante_avancarStatus (h.neutras rfl rfl (neutras_evento fun _ _ _ _ _ heq ↦ ?_))
    cases heq

theorem invariante_salvarVinculos {vinculos : List Vinculo} (h : Invariante U b) :
    Invariante U (b.salvarVinculos U vinculos) := by
  induction vinculos generalizing b with
  | nil => exact h
  | cons v vinculos ih => exact ih (invariante_salvarVinculo h)

/-! ### Calls -/

/-- Every call keeps the invariant. -/
theorem invariante_executar (operacao : Operacao) (h : Invariante U b) :
    Invariante U (b.executar U N operacao) := by
  cases operacao with
  | criar codigo campos => exact invariante_criar codigo campos h
  | transicionarRequisito identificador payload correlationId =>
    exact invariante_transicionarRequisito identificador payload correlationId h
  | salvarVinculos vinculos => exact invariante_salvarVinculos h

theorem invariante_executadas (operacoes : List Operacao) :
    Invariante U (executadas U N operacoes) := by
  induction operacoes using List.reverseRecOn with
  | nil => exact fun r hr ↦ absurd hr List.not_mem_nil
  | append_singleton operacoes operacao ih =>
    rw [executadas, List.foldl_concat]
    exact invariante_executar operacao ih

end Run

/-- A requirement on its way to the export. -/
def percurso : List Operacao :=
  .criar "REQ-100000001"
    { titulo := "Exportar relatório"
      descricao := "Quando o usuário exporta, então o arquivo é gravado."
      area := "negocio"
      sistema := "reqsys"
      solicitante := "ana" } ::
  ["pronto_para_aprovacao", "aprovado", "em_execucao", "validado", "evidenciado",
    "exportado"].map fun novoStatus ↦ .transicionarRequisito "REQ-100000001"
      { novoStatus, usuario := "ana", motivo := "fluxo", evidencia := "ata" } none

end Requisitos

end ReqSys
