import ReqSys.Foundation.Program
import ReqSys.Foundation.PyJson
import ReqSys.Foundation.PyText
import ReqSys.Foundation.Table

/-!
# Pentaho integration: batches

A batch is one row. The API creates it, workers claim and process it, a recovery withdraws claims
that are too old, and an operator sends a quarantined batch back. Every commit is one atomic call.

The claim and the recovery are `UPDATE` statements with a condition on the status. The outcome of a
worker and the reset by an operator are written by the session: it compares the object with what it
had loaded and sets the columns that differ, for the row with that `id`, whatever that row holds by
then.

`posse` and `encerradas` are not columns. A claim is named by the value it gives to `tentativas`;
they record which claim a process works under, and how claims ended.
-/

namespace ReqSys

namespace Pentaho

/-! ## Batches -/

inductive StatusLote
  | pendente | processando | concluido | quarentena
  deriving DecidableEq

/-- `PentahoLoteEntrada`, as its schema accepts it. -/
structure PentahoLoteEntrada where
  origem : String := "PENTAHO"
  processo : String
  versaoEntrada : ℤ := 1
  dataReferencia : Option String := none
  lote : Option String := none
  registros : List (List (String × Json))
  origem_length : 1 ≤ origem.length ∧ origem.length ≤ 64
  processo_length : 1 ≤ processo.length ∧ processo.length ≤ 120
  versaoEntrada_pos : 1 ≤ versaoEntrada
  dataReferencia_length : ∀ s ∈ dataReferencia, s.length ≤ 10
  lote_length : ∀ s ∈ lote, s.length ≤ 128
  registros_pos : 1 ≤ registros.length

/-- `payload.model_dump()`. -/
def PentahoLoteEntrada.modelDump (payload : PentahoLoteEntrada) : List (String × Json) :=
  [("origem", .str payload.origem), ("processo", .str payload.processo),
    ("versaoEntrada", .num payload.versaoEntrada),
    ("dataReferencia", payload.dataReferencia.elim .null .str),
    ("lote", payload.lote.elim .null .str), ("registros", .arr (payload.registros.map .obj))]

/-- `PentahoIntegrationBatch`. -/
structure Lote where
  id : ℕ
  criadoEm : ℤ
  atualizadoEm : Option ℤ
  processadoEm : Option ℤ
  loteId : String
  loteExterno : Option String
  idempotencyKey : String
  correlationId : String
  origem : String
  processo : String
  versaoEntrada : ℤ
  dataReferencia : Option String
  payloadJson : String
  status : StatusLote
  registrosRecebidos : ℕ
  registrosAceitos : ℕ
  registrosRejeitados : ℕ
  tentativas : ℕ
  erroCodigo : Option String
  erroMensagem : Option String
  deriving DecidableEq

inductive Erro
  /-- `HTTPException`. -/
  | http (statusCode : ℕ) (detail : String)
  | valueError (mensagem : String)
  /-- What `json.loads` raises, or `.get` on a value that is no dictionary. -/
  | payload (mensagem : String)
  | integrityError (mensagem : String)
  /-- Any other error of the database. The transaction is rolled back. -/
  | banco (mensagem : String)
  deriving DecidableEq

/-- `str(exc)`. -/
def Erro.str : Erro → String
  | http code detail => PyText.intRepr code ++ ": " ++ detail
  | valueError m | payload m | integrityError m | banco m => m

/-- `_serializar_payload` writes with `dumps`; `loads` reads an object back. -/
structure Config where
  dumps : List (String × Json) → String
  loads : String → Except String (List (String × Json))
  maxRegistros : ℕ
  timeoutProcessamentoSegundos : ℤ
  maxTentativas : ℤ

/-! ## What is written -/

/-- The values of a recovery, after the test on the attempts. -/
structure Valores where
  status : StatusLote
  erroCodigo : String
  erroMensagem : String
  atualizadoEm : ℤ
  processadoEm : Option ℤ

/-- `valores`. -/
def valores (instante limiteTentativas : ℤ) (tentativas : ℕ) : Valores :=
  if limiteTentativas ≤ tentativas then
    { status := .quarentena
      erroCodigo := "LIMITE_TENTATIVAS_RECUPERACAO"
      erroMensagem := "Lote interrompido repetidamente e direcionado à quarentena"
      atualizadoEm := instante
      processadoEm := some instante }
  else
    { status := .pendente
      erroCodigo := "RECUPERADO_APOS_INTERRUPCAO"
      erroMensagem := "Lote retornou à fila após processamento interrompido"
      atualizadoEm := instante
      processadoEm := none }

namespace Lote

/-- The claim. -/
def reivindicado (lote : Lote) (agora : ℤ) : Lote :=
  { lote with
    status := .processando
    tentativas := lote.tentativas + 1
    atualizadoEm := some agora }

/-- `condicao_abandono`. -/
def Abandonado (lote : Lote) (limite : ℤ) : Prop :=
  (∃ t, lote.atualizadoEm = some t ∧ t < limite) ∨ lote.atualizadoEm = none ∧ lote.criadoEm < limite

instance (lote : Lote) (limite : ℤ) : Decidable (lote.Abandonado limite) :=
  decidable_of_iff (lote.atualizadoEm.any (fun t ↦ t < limite) = true ∨
      lote.atualizadoEm = none ∧ lote.criadoEm < limite) <| by
    rw [Abandonado, Option.any_eq_true]
    simp only [decide_eq_true_eq]

/-- The recovery. -/
def recuperado (lote : Lote) (v : Valores) : Lote :=
  { lote with
    status := v.status
    erroCodigo := some v.erroCodigo
    erroMensagem := some v.erroMensagem
    atualizadoEm := some v.atualizadoEm
    processadoEm := v.processadoEm }

/-- A processed batch. -/
def concluido (lote : Lote) (registros aceitos : ℕ) (agora : ℤ) : Lote :=
  { lote with
    registrosRecebidos := registros
    registrosAceitos := aceitos
    registrosRejeitados := registros - aceitos
    status := .concluido
    erroCodigo := none
    erroMensagem := none
    atualizadoEm := some agora
    processadoEm := some agora }

/-- A batch whose processing failed. -/
def quarentenado (lote : Lote) (erro : String) (agora : ℤ) : Lote :=
  { lote with
    status := .quarentena
    erroCodigo := some "FALHA_PROCESSAMENTO_ADAPTADOR"
    erroMensagem := some (PyText.take 2000 erro)
    atualizadoEm := some agora
    processadoEm := some agora }

/-- A batch that is to be processed again. -/
def reaberto (lote : Lote) (agora : ℤ) : Lote :=
  { lote with
    status := .pendente
    erroCodigo := none
    erroMensagem := none
    processadoEm := none
    atualizadoEm := some agora }

/-- A column of the row, if the object was changed from `antigo` to `novo`. -/
def coluna {α : Type} [DecidableEq α] (antigo novo atual : α) : α :=
  if antigo = novo then atual else novo

/-- The row, after the session wrote its changes. If `atualizado_em` is none of them the database
sets it. -/
def gravado (antigo novo : Lote) (now : ℤ) (atual : Lote) : Lote :=
  if antigo = novo then atual
  else
    { atual with
      registrosRecebidos :=
        coluna antigo.registrosRecebidos novo.registrosRecebidos atual.registrosRecebidos
      registrosAceitos :=
        coluna antigo.registrosAceitos novo.registrosAceitos atual.registrosAceitos
      registrosRejeitados :=
        coluna antigo.registrosRejeitados novo.registrosRejeitados atual.registrosRejeitados
      status := coluna antigo.status novo.status atual.status
      erroCodigo := coluna antigo.erroCodigo novo.erroCodigo atual.erroCodigo
      erroMensagem := coluna antigo.erroMensagem novo.erroMensagem atual.erroMensagem
      atualizadoEm := coluna antigo.atualizadoEm novo.atualizadoEm (some now)
      processadoEm := coluna antigo.processadoEm novo.processadoEm atual.processadoEm }

end Lote

/-! ## The table -/

/-- A claim: the batch and the value that it gave to `tentativas`. -/
abbrev Reivindicacao := ℕ × ℕ

/-- How a claim ended. -/
inductive Desfecho
  /-- Its worker wrote an outcome. -/
  | resultado (status : StatusLote)
  /-- The recovery withdrew it. -/
  | retirada
  deriving DecidableEq

structure Banco where
  lotes : List Lote := []
  /-- The claim that a process works under. -/
  posse : ℕ → Option Reivindicacao := fun _ ↦ none
  encerradas : List (Reivindicacao × Desfecho) := []

namespace Banco

/-- The row of an `id`. -/
def lote (s : Banco) (id : ℕ) : Option Lote := Table.lookup Lote.id id s.lotes

/-- The row of a `lote_id`. -/
def obter (s : Banco) (loteId : String) : Option Lote := Table.lookup Lote.loteId loteId s.lotes

/-- A row is changed. -/
def change (s : Banco) (id : ℕ) (f : Lote → Lote) : Banco :=
  { s with lotes := Table.update Lote.id id f s.lotes }

/-- The `UPDATE` of a claim. -/
def reivindicar (s : Banco) (i : ℕ) (loteId : String) (agora : ℤ) : Banco × Bool :=
  match s.obter loteId with
  | none => (s, false)
  | some lote =>
    if lote.status = .pendente then
      ({ s.change lote.id fun l ↦ l.reivindicado agora with
        posse := Function.update s.posse i (some (lote.id, lote.tentativas + 1)) }, true)
    else (s, false)

/-- The `UPDATE` of a recovery, and whether it changed a row. -/
def recuperar (s : Banco) (limite : ℤ) (id : ℕ) (v : Valores) : Banco × Bool :=
  match s.lote id with
  | none => (s, false)
  | some lote =>
    if lote.status = .processando ∧ lote.Abandonado limite then
      ({ s.change id fun l ↦ l.recuperado v with
        encerradas := s.encerradas ++ [((id, lote.tentativas), .retirada)] }, true)
    else (s, false)

/-- The statements of a recovery, up to its commit. The batches come with the attempts that were
read. -/
def recuperarTodos (limite instante limiteTentativas : ℤ) :
    List (ℕ × ℕ) → Banco → Banco × List Bool
  | [], s => (s, [])
  | (id, tentativas) :: abandonados, s =>
    let x := s.recuperar limite id (valores instante limiteTentativas tentativas)
    let y := recuperarTodos limite instante limiteTentativas abandonados x.1
    (y.1, x.2 :: y.2)

end Banco

/-- What a call gets from outside. -/
structure Env where
  /-- The clock, in microseconds. -/
  now : ℤ := 0
  uuid : String := ""
  falha : Option String := none

/-- The atomic calls. -/
inductive Cmd
  /-- `_agora`. -/
  | agora
  | uuid4
  | buscarPorIdempotencia (key : String)
  /-- The insertion of a batch, of which the database chooses `id` and `criado_em`. -/
  | inserir (lote : Lote)
  /-- The query by `lote_id`. -/
  | obter (loteId : String)
  /-- The query by `id`. -/
  | buscar (id : ℕ)
  | reivindicar (loteId : String) (agora : ℤ)
  /-- The commit of an object that was loaded as `antigo`. -/
  | gravar (antigo novo : Lote)
  /-- The candidates of `processar_proximo_lote`. -/
  | listarPendentes (limite : ℕ)
  | listarAbandonados (limite : ℤ)
  | recuperar (limite instante limiteTentativas : ℤ) (abandonados : List (ℕ × ℕ))

abbrev Cmd.Ans : Cmd → Type
  | agora => ℤ
  | uuid4 => String
  | buscarPorIdempotencia _ => Option Lote
  | inserir _ => ℕ
  | obter _ => Option Lote
  | buscar _ => Option Lote
  | reivindicar _ _ => Bool
  | gravar _ _ => Unit
  | listarPendentes _ => List String
  | listarAbandonados _ => List Lote
  | recuperar _ _ _ _ => List Bool

/-- A call that does not reach the database. -/
def Cmd.Local : Cmd → Prop
  | agora | uuid4 => True
  | _ => False

instance : DecidablePred Cmd.Local
  | .agora | .uuid4 => instDecidableTrue
  | .buscarPorIdempotencia _ | .inserir _ | .obter _ | .buscar _ | .reivindicar _ _ | .gravar _ _
  | .listarPendentes _ | .listarAbandonados _ | .recuperar _ _ _ _ => instDecidableFalse

/-- `ORDER BY criado_em, id`. -/
def maisAntigo (a b : Lote) : Prop :=
  a.criadoEm < b.criadoEm ∨ a.criadoEm = b.criadoEm ∧ a.id ≤ b.id

instance : DecidableRel maisAntigo := fun a b ↦
  inferInstanceAs (Decidable (a.criadoEm < b.criadoEm ∨ a.criadoEm = b.criadoEm ∧ a.id ≤ b.id))

/-- The effect and the answer of a call of process `i`. -/
def efeito (i : ℕ) : (op : Cmd) → Env → Banco → Banco × Except Erro op.Ans
  | .agora, e, s => (s, .ok e.now)
  | .uuid4, e, s => (s, .ok e.uuid)
  | .buscarPorIdempotencia key, _, s =>
    (s, .ok (Table.lookup Lote.idempotencyKey key s.lotes))
  | .inserir lote, e, s =>
    if s.lotes.any fun l ↦ l.loteId = lote.loteId || l.idempotencyKey = lote.idempotencyKey then
      (s, .error (.integrityError "UNIQUE constraint failed"))
    else
      let id := s.lotes.length + 1
      ({ s with lotes := s.lotes ++ [{ lote with id := id, criadoEm := e.now }] }, .ok id)
  | .obter loteId, _, s => (s, .ok (s.obter loteId))
  | .buscar id, _, s => (s, .ok (s.lote id))
  | .reivindicar loteId agora, _, s =>
    ((s.reivindicar i loteId agora).1, .ok (s.reivindicar i loteId agora).2)
  | .gravar antigo novo, e, s =>
    match s.lote antigo.id with
    | none => (s, .error (.banco "UPDATE statement expected to update 1 row(s); 0 were matched"))
    | some _ =>
      ({ s.change antigo.id (Lote.gravado antigo novo e.now) with
        encerradas := s.encerradas ++
          match s.posse i with
          | some c => if novo.status = .pendente then [] else [(c, .resultado novo.status)]
          | none => [] }, .ok ())
  | .listarPendentes limite, _, s =>
    let pendentes := (s.lotes.filter fun l ↦ l.status = .pendente).insertionSort maisAntigo
    (s, .ok ((pendentes.take limite).map Lote.loteId))
  | .listarAbandonados limite, _, s =>
    (s, .ok ((s.lotes.filter fun l ↦ l.status = .processando ∧ l.Abandonado limite).insertionSort
      fun a b ↦ a.id ≤ b.id))
  | .recuperar limite instante limiteTentativas abandonados, _, s =>
    let x := s.recuperarTodos limite instante limiteTentativas abandonados
    (x.1, .ok x.2)

/-- A call, over a database that may fail. -/
def exec (i : ℕ) (op : Cmd) (e : Env) (s : Banco) : Banco × Except Erro op.Ans :=
  match e.falha with
  | none => efeito i op e s
  | some m => if op.Local then efeito i op e s else (s, .error (.banco m))

/-- The database; a process that ends holds no claim. -/
def machine : Machine Cmd.Ans Erro Banco Env where
  exec := exec
  close i s := { s with posse := Function.update s.posse i none }

/-! ## The service -/

abbrev Processo := Program Cmd.Ans Erro

/-- One call. -/
def run (op : Cmd) : Processo op.Ans := .perform op

/-- `validar_entrada`. -/
def validarEntrada (cfg : Config) (payload : PentahoLoteEntrada)
    (idempotencyKey correlationId : String) : Except Erro Unit :=
  if payload.versaoEntrada ≠ 1 then
    .error (.http 422 ("Versão de entrada não suportada: " ++ PyText.intRepr payload.versaoEntrada
      ++ ". Suportadas: [1]"))
  else if cfg.maxRegistros < payload.registros.length then
    .error (.http 413 "Quantidade de registros excede o limite configurado para um lote")
  else if PyText.strip idempotencyKey = "" then
    .error (.http 422 "Idempotency-Key não pode ser vazio")
  else if PyText.strip correlationId = "" then
    .error (.http 422 "X-Correlation-Id não pode ser vazio")
  else .ok ()

/-- `_validar_reuso_idempotencia`. -/
def validarReusoIdempotencia (cfg : Config) (existente : Lote) (payloadJson : String) :
    Except Erro Unit :=
  match cfg.loads existente.payloadJson with
  | .error _ =>
    .error (.http 409 "Lote existente possui conteúdo inválido para validação de idempotência")
  | .ok payload =>
    if cfg.dumps payload ≠ payloadJson then
      .error (.http 409 "Idempotency-Key já utilizada com conteúdo diferente")
    else .ok ()

/-- The object of a new batch. -/
def novoLote (payload : PentahoLoteEntrada)
    (loteId idempotencyKey correlationId payloadJson : String) : Lote where
  id := 0
  criadoEm := 0
  atualizadoEm := none
  processadoEm := none
  loteId := loteId
  loteExterno := payload.lote
  idempotencyKey := idempotencyKey
  correlationId := correlationId
  origem := payload.origem
  processo := payload.processo
  versaoEntrada := payload.versaoEntrada
  dataReferencia := payload.dataReferencia
  payloadJson := payloadJson
  status := .pendente
  registrosRecebidos := payload.registros.length
  registrosAceitos := 0
  registrosRejeitados := 0
  tentativas := 0
  erroCodigo := none
  erroMensagem := none

/-- `db.refresh`. -/
def refresh (id : ℕ) : Processo Lote := do
  match ← run (.buscar id) with
  | none => .raise (.banco "Could not refresh instance")
  | some lote => return lote

/-- `criar_ou_obter_lote`. -/
def criarOuObterLote (cfg : Config) (payload : PentahoLoteEntrada)
    (idempotencyKey correlationId : String) : Processo (Lote × Bool) := do
  .ofExcept (validarEntrada cfg payload idempotencyKey correlationId)
  let payloadJson := cfg.dumps payload.modelDump
  match ← run (.buscarPorIdempotencia idempotencyKey) with
  | some existente => do
    .ofExcept (validarReusoIdempotencia cfg existente payloadJson)
    return (existente, true)
  | none => do
    let loteId ← run .uuid4
    match ← (Program.attempt do
      let id ← run (.inserir (novoLote payload loteId idempotencyKey correlationId payloadJson))
      refresh id) with
    | .ok lote => return (lote, false)
    | .error (.integrityError m) => do
      match ← run (.buscarPorIdempotencia idempotencyKey) with
      | some existente => do
        .ofExcept (validarReusoIdempotencia cfg existente payloadJson)
        return (existente, true)
      | none => .raise (.integrityError m)
    | .error x => .raise x

/-- `obter_lote`. -/
def obterLote (loteId : String) : Processo Lote := do
  match ← run (.obter loteId) with
  | none => .raise (.http 404 "Lote Pentaho não encontrado")
  | some lote => return lote

/-- `reivindicar_lote`. -/
def reivindicarLote (loteId : String) : Processo (Option Lote) := do
  let agora ← run .agora
  if ← run (.reivindicar loteId agora) then run (.obter loteId) else return none

/-- A record that is accepted. -/
def aceito : Json → Bool
  | .obj (_ :: _) => true
  | _ => false

/-- The numbers of records that were received and that are accepted. -/
def contarRegistros (cfg : Config) (payloadJson : String) : Except Erro (ℕ × ℕ) :=
  match cfg.loads payloadJson with
  | .error m => .error (.payload m)
  | .ok payload =>
    match (payload.find? fun x ↦ x.1 = "registros").map Prod.snd with
    | some (.arr registros) =>
      if registros.countP aceito = 0 then
        .error (.valueError "Nenhum registro válido foi recebido no lote")
      else .ok (registros.length, registros.countP aceito)
    | _ => .error (.valueError "Payload persistido sem lista de registros")

/-- `_executar_lote_reivindicado`. -/
def executarLoteReivindicado (cfg : Config) (lote : Lote) : Processo Unit := do
  let fim ← Program.attempt do
    let contagem ← .ofExcept (contarRegistros cfg lote.payloadJson)
    let agora ← run .agora
    run (.gravar lote (lote.concluido contagem.1 contagem.2 agora))
  match fim with
  | .ok _ => return ()
  | .error x => do
    match ← run (.buscar lote.id) with
    | none => .raise x
    | some atual => do
      let agora ← run .agora
      run (.gravar atual (atual.quarentenado x.str agora))

/-- `processar_lote_por_id`. -/
def processarLotePorId (cfg : Config) (loteId : String) : Processo Bool := do
  match ← reivindicarLote loteId with
  | none => return false
  | some lote => do
    executarLoteReivindicado cfg lote
    return true

/-- The loop of `processar_proximo_lote`. -/
def processarPrimeiro (cfg : Config) : List String → Processo (Option String)
  | [] => return none
  | loteId :: candidatos => do
    if ← processarLotePorId cfg loteId then return some loteId
    else processarPrimeiro cfg candidatos

/-- `processar_proximo_lote`. -/
def processarProximoLote (cfg : Config) (limiteBusca : ℤ) : Processo (Option String) := do
  let candidatos ← run (.listarPendentes (max 1 (min limiteBusca 100)).toNat)
  processarPrimeiro cfg candidatos

/-- What `recuperar_lotes_abandonados` returns. -/
structure Recuperacao where
  recuperados : ℕ
  quarentena : ℕ
  avaliados : ℕ

/-- `agora or _agora()`. -/
def instanteDe : Option ℤ → Processo ℤ
  | some t => return t
  | none => run .agora

/-- `recuperar_lotes_abandonados`. -/
def recuperarLotesAbandonados (cfg : Config) (agora timeoutSegundos maxTentativas : Option ℤ) :
    Processo Recuperacao := do
  let instante ← instanteDe agora
  let timeout := timeoutSegundos.getD cfg.timeoutProcessamentoSegundos
  let limiteTentativas := maxTentativas.getD cfg.maxTentativas
  if timeout < 1 then .raise (.valueError "timeout_segundos deve ser maior que zero")
  else if limiteTentativas < 1 then .raise (.valueError "max_tentativas deve ser maior que zero")
  else do
    let limite := instante - timeout * 1000000
    let abandonados ← run (.listarAbandonados limite)
    let alterados ← run (.recuperar limite instante limiteTentativas
      (abandonados.map fun lote ↦ (lote.id, lote.tentativas)))
    let feitos := (abandonados.zip alterados).filterMap fun x ↦
      if x.2 then some (valores instante limiteTentativas x.1.tentativas).status else none
    return {
      recuperados := feitos.countP fun st ↦ st ≠ .quarentena
      quarentena := feitos.count .quarentena
      avaliados := abandonados.length }

/-- `preparar_reprocessamento`. -/
def prepararReprocessamento (loteId : String) : Processo Lote := do
  let lote ← obterLote loteId
  if lote.status ≠ .quarentena then
    .raise (.http 409 "Somente lotes em QUARENTENA podem ser reprocessados")
  else do
    let agora ← run .agora
    run (.gravar lote (lote.reaberto agora))
    refresh lote.id

/-- `executar_ciclo`, of a worker. -/
def executarCiclo (cfg : Config) : Processo (Option String × ℕ × ℕ) := do
  let fim ← Program.attempt do
    let recuperacao ← recuperarLotesAbandonados cfg none none none
    let loteId ← processarProximoLote cfg 20
    return (loteId, recuperacao.recuperados, recuperacao.quarentena)
  match fim with
  | .ok x => return x
  | .error _ => return (none, 0, 0)

/-! ## Processes -/

/-- What a process does. -/
inductive Pedido
  | criar (payload : PentahoLoteEntrada) (idempotencyKey correlationId : String)
  | processar (loteId : String)
  | processarProximo (limiteBusca : ℤ)
  | recuperar (agora timeoutSegundos maxTentativas : Option ℤ)
  | reprocessar (loteId : String)
  | ciclo

/-- What a process returns. -/
inductive Saida
  | lote (lote : Lote) (duplicado : Bool)
  | processado (b : Bool)
  | proximo (loteId : Option String)
  | recuperacao (r : Recuperacao)
  | ciclo (loteId : Option String) (recuperados quarentena : ℕ)

def code (cfg : Config) : Pedido → Processo Saida
  | .criar payload idempotencyKey correlationId => do
    let x ← criarOuObterLote cfg payload idempotencyKey correlationId
    return .lote x.1 x.2
  | .processar loteId => do
    let b ← processarLotePorId cfg loteId
    return .processado b
  | .processarProximo limiteBusca => do
    let o ← processarProximoLote cfg limiteBusca
    return .proximo o
  | .recuperar agora timeoutSegundos maxTentativas => do
    let r ← recuperarLotesAbandonados cfg agora timeoutSegundos maxTentativas
    return .recuperacao r
  | .reprocessar loteId => do
    let lote ← prepararReprocessamento loteId
    return .lote lote false
  | .ciclo => do
    let x ← executarCiclo cfg
    return .ciclo x.1 x.2.1 x.2.2

/-- The database and the processes running over it. -/
abbrev Processos := Pool Banco (Processo Saida)

/-- A move of the processes, with the outcome it delivers. -/
abbrev Passo := Move Pedido Env × Option (Except Erro Saida)

/-- Any number of processes over one database, which is empty at first. -/
def integracao (cfg : Config) : TransitionSystem Processos Passo :=
  Pool.interleaving {} (code cfg) machine

/-! ## A small integration -/

def sampleEntrada : PentahoLoteEntrada where
  processo := "CARGA"
  registros := [[("produto", .num 1)]]
  origem_length := by decide
  processo_length := by decide
  versaoEntrada_pos := by decide
  dataReferencia_length := by simp
  lote_length := by simp
  registros_pos := by decide

/-- The text is that of `sampleEntrada`. -/
def sampleConfig : Config where
  dumps _ := "\x7b\"dataReferencia\":null,\"lote\":null,\"origem\":\"PENTAHO\"," ++
    "\"processo\":\"CARGA\",\"registros\":[\x7b\"produto\":1\x7d],\"versaoEntrada\":1\x7d"
  loads _ := .ok [("dataReferencia", .null), ("lote", .null), ("origem", .str "PENTAHO"),
    ("processo", .str "CARGA"), ("registros", .arr [.obj [("produto", .num 1)]]),
    ("versaoEntrada", .num 1)]
  maxRegistros := 10000
  timeoutProcessamentoSegundos := 300
  maxTentativas := 5

/-- Process `i` takes `n` steps. -/
def sampleSteps (i n : ℕ) (e : Env) : List (Move Pedido Env) := List.replicate n (.advance i e)

/-- Process `i` starts and takes `n` steps. -/
def sampleStart (i : ℕ) (c : Pedido) (n : ℕ) (e : Env) : List (Move Pedido Env) :=
  .start i c :: sampleSteps i n e

/-- A batch is created. -/
def sampleCriado : List (Move Pedido Env) :=
  sampleStart 0 (.criar sampleEntrada "idem-1" "corr-1") 5 { uuid := "lote-1" }

/-- The trace and the processes after moves that may overlap. -/
def sampleRun (moves : List (Move Pedido Env)) : List Passo × Processos :=
  TransitionSystem.runCalls (Pool.move (code sampleConfig) machine) moves ⟨{}, fun _ ↦ none⟩

theorem run_sampleRun (moves : List (Move Pedido Env)) :
    (integracao sampleConfig).Run (sampleRun moves).1 (sampleRun moves).2 :=
  TransitionSystem.run_runCalls _ _ moves

/-- The processes after one more step of process `i`. -/
def sampleNext (p : Processos) (i : ℕ) (e : Env) : Processos :=
  (Pool.move (code sampleConfig) machine (.advance i e) p).1

theorem step_sampleNext (p : Processos) (i : ℕ) (e : Env) :
    ∃ m, m.1 = .advance i e ∧ (integracao sampleConfig).step p m (sampleNext p i e) :=
  ⟨(_, (Pool.move (code sampleConfig) machine (.advance i e) p).2), rfl, rfl⟩

end Pentaho

end ReqSys
