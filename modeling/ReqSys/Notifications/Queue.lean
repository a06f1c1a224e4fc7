import Mathlib
import ReqSys.Foundation.Calendar
import ReqSys.Foundation.CallsIn
import ReqSys.Foundation.PyJson
import ReqSys.Foundation.PyText
import ReqSys.Foundation.Table

/-!
# The queue of Teams notifications

`criar_item_fila` stores a message in the queue. `executar_item_fila` delivers one: it refuses an
item that is being processed or has used up its attempts, claims the item with a first commit, calls
the gateway, and stores the outcome with a second commit. The guard looks at the object that the
caller has loaded, and both commits are updates by primary key.

Sessions interleave between the statements. Beside the table the store keeps what the table does not
say: the gateway calls for each item, where each session stands between its two commits, and how
many calls the gateway had when an item was first stored as delivered.
-/

namespace ReqSys

namespace Notifications

open PyText

/-! ## Messages -/

/-- A text as the request models leave it: stripped, not empty, and of bounded length. -/
def Texto (n : ℕ) : Type := {s : String // strip s = s ∧ s ≠ "" ∧ s.length ≤ n}

inductive DestinoTipo
  | auto
  | chat
  | chat1a1
  | canal
  | webhook

inductive Modo
  | auto
  | graphDelegado
  | webhook
  | graphAppOnly
  | bot
  | flowBot

inductive ContentType
  | text
  | html

/-- What a message says and where it goes. -/
structure Mensagem where
  origem : String
  tipoEvento : Texto 80
  ambiente : Texto 40
  correlationId : String
  titulo : Texto 300
  texto : Texto 20000
  contentType : ContentType
  autor : Texto 120
  metadata : List (String × Json)
  destinoTipo : DestinoTipo
  destinoId : Option (Texto 500)
  modo : Modo
  permitirFallback : Bool
  dryRun : Bool

/-- `TeamsNotificationEnqueueRequest`. -/
structure EnqueueRequest where
  origem : String := "manual"
  tipoEvento : Texto 80
  ambiente : Texto 40
  correlationId : Option (Texto 160) := none
  titulo : Texto 300
  texto : Texto 20000
  contentType : ContentType := .text
  autor : Texto 120
  metadata : List (String × Json) := []
  destinoTipo : DestinoTipo := .auto
  destinoId : Option (Texto 500) := none
  modo : Modo := .auto
  permitirFallback : Bool := true
  dryRun : Bool := false
  enviarAgora : Bool := true
  maxTentativas : ℕ := 3
  limite : 1 ≤ maxTentativas ∧ maxTentativas ≤ 10

/-- What `TeamsGatewayMessageRequest` is given. -/
structure GatewayRequest where
  destinoTipo : DestinoTipo
  modo : Modo
  destinoId : Option (Texto 500)
  texto : Texto 20000
  contentType : ContentType
  autor : Texto 120
  permitirFallback : Bool
  dryRun : Bool
  metadata : List (String × Json)

/-- What the gateway answers. -/
structure Resultado where
  entregue : Bool
  canalUsado : Option String := none
  statusCode : Option ℤ := none
  messageId : Option String := none
  erro : Option String := none
  motivo : Option String := none

inductive StatusEvento
  | pendente
  | processando
  | enviado
  | falha
  | cancelado
  deriving DecidableEq

/-- A row of `teams_notification_queue`. -/
structure Item extends Mensagem where
  statusEvento : StatusEvento := .pendente
  tentativas : ℕ := 0
  maxTentativas : ℕ
  ultimaTentativaEm : Option DateTime := none
  enviadoEm : Option DateTime := none
  canalUsado : Option String := none
  statusHttp : Option ℤ := none
  latenciaMs : Option ℕ := none
  providerMessageId : Option String := none
  motivoFalha : Option String := none

inductive FilaError
  /-- `ValueError`. -/
  | valor (detalhe : String)
  /-- `RuntimeError`. -/
  | execucao (detalhe : String)
  | http (status : ℕ) (detalhe : String)
  /-- The row of an object is gone: `ObjectDeletedError`. -/
  | apagado
  | integridade
  /-- What the gateway raises. -/
  | gateway (tipo : String)

/-- `type(exc).__name__`. -/
def FilaError.tipo : FilaError → String
  | valor _ => "ValueError"
  | execucao _ => "RuntimeError"
  | http _ _ => "HTTPException"
  | apagado => "ObjectDeletedError"
  | integridade => "IntegrityError"
  | gateway tipo => tipo

/-! ## Metadata -/

section Metadata

variable (U : Unicode)

def sensitiveKeys : List String :=
  ["token", "secret", "password", "passwd", "authorization", "webhook", "signature", "api_key"]

def sensivel (key : String) : Bool := sensitiveKeys.any fun marker ↦ contains marker (U.lower key)

mutual

/-- `_sanitize_metadata`. -/
def sanitizeMetadata : Json → Json
  | .obj entries => .obj (sanitizeEntries entries)
  | .arr items => .arr (sanitizeItems 100 items)
  | .str s => .str (take 2000 s)
  | .null => .null
  | .bool b => .bool b
  | .num q => .num q
termination_by structural x => x

/-- The entries of a dictionary. -/
def sanitizeEntries : List (String × Json) → List (String × Json)
  | [] => []
  | entry :: entries => sanitizeEntry entry :: sanitizeEntries entries
termination_by structural entries => entries

def sanitizeEntry : String × Json → String × Json
  | (key, item) => (key, if sensivel U key then .str "[REDACTED]" else sanitizeMetadata item)
termination_by structural entry => entry

/-- The first items of a list. -/
def sanitizeItems (n : ℕ) : List Json → List Json
  | [] => []
  | item :: items => if n = 0 then [] else sanitizeMetadata item :: sanitizeItems (n - 1) items
termination_by structural items => items

end

end Metadata

/-- `_gateway_request`. -/
def gatewayRequest (idEvento : ℕ) (item : Mensagem) : GatewayRequest where
  destinoTipo := item.destinoTipo
  modo := item.modo
  destinoId := item.destinoId
  texto := item.texto
  contentType := item.contentType
  autor := item.autor
  permitirFallback := item.permitirFallback
  dryRun := item.dryRun
  metadata := Table.merge item.metadata
    [("central_notification_event_id", .num idEvento), ("origem", .str item.origem),
      ("event_type", .str item.tipoEvento.val), ("environment", .str item.ambiente.val),
      ("titulo", .str item.titulo.val)]

/-! ## The table -/

/-- Where a session stands between its two commits. -/
inductive Etapa
  | reivindicado
  | enviado
  deriving DecidableEq

/-- The table with its sequence; the gateway calls for each item and the claims that died before
theirs; the stage of each session; and the gateway calls when an item was first stored as
delivered. -/
structure Banco where
  itens : ℕ → Option Item := fun _ ↦ none
  proximo : ℕ := 1
  chamadas : ℕ → ℕ := fun _ ↦ 0
  perdidas : ℕ → ℕ := fun _ ↦ 0
  etapa : ℕ → Option (ℕ × Etapa) := fun _ ↦ none
  aoEnviar : ℕ → Option ℕ := fun _ ↦ none

/-- The inputs of a statement: the clock, the time a call took, an id, and what the gateway does. -/
structure Env where
  agora : DateTime
  latenciaMs : ℕ := 0
  uuid4 : String := ""
  gateway : Except String Resultado := .ok { entregue := true }

/-- The statements, each with its commit, the gateway and the inputs. The commits of
`executar_item_fila` have the object as it was loaded and as it was changed. -/
inductive Cmd
  | uuid4
  | agora
  | latencia
  | criar (item : Item)
  | obter (idEvento : ℕ)
  | refresh (idEvento : ℕ)
  | reivindicar (idEvento : ℕ) (item novo : Item)
  | enviar (idEvento : ℕ) (request : GatewayRequest) (correlationId : String)
  | concluir (idEvento : ℕ) (item novo : Item)

abbrev Cmd.Ans : Cmd → Type
  | uuid4 => String
  | agora => DateTime
  | latencia => ℕ
  | criar _ => ℕ
  | obter _ => Option Item
  | refresh _ => Item
  | reivindicar _ _ _ | concluir _ _ _ => Unit
  | enviar _ _ _ => Resultado

/-- A column of an update: what the session has not changed is not written. -/
def coluna {β : Type} [DecidableEq β] (item novo atual : β) : β :=
  if item = novo then atual else novo

/-- The row after the update of an object. -/
def Item.gravar (item novo atual : Item) : Item :=
  { atual with
    statusEvento := coluna item.statusEvento novo.statusEvento atual.statusEvento
    tentativas := coluna item.tentativas novo.tentativas atual.tentativas
    ultimaTentativaEm :=
      coluna item.ultimaTentativaEm novo.ultimaTentativaEm atual.ultimaTentativaEm
    enviadoEm := coluna item.enviadoEm novo.enviadoEm atual.enviadoEm
    canalUsado := coluna item.canalUsado novo.canalUsado atual.canalUsado
    statusHttp := coluna item.statusHttp novo.statusHttp atual.statusHttp
    latenciaMs := coluna item.latenciaMs novo.latenciaMs atual.latenciaMs
    providerMessageId :=
      coluna item.providerMessageId novo.providerMessageId atual.providerMessageId
    motivoFalha := coluna item.motivoFalha novo.motivoFalha atual.motivoFalha }

open Function (update)

def exec (i : ℕ) : (op : Cmd) → Env → Banco → Banco × Except FilaError op.Ans
  | .uuid4, e, d => (d, .ok e.uuid4)
  | .agora, e, d => (d, .ok e.agora)
  | .latencia, e, d => (d, .ok e.latenciaMs)
  | .criar item, _, d =>
    match d.itens d.proximo with
    | some _ => (d, .error .integridade)
    | none =>
      ({ d with itens := update d.itens d.proximo (some item), proximo := d.proximo + 1 },
        .ok d.proximo)
  | .obter idEvento, _, d => (d, .ok (d.itens idEvento))
  | .refresh idEvento, _, d =>
    match d.itens idEvento with
    | some item => (d, .ok item)
    | none => (d, .error .apagado)
  | .reivindicar idEvento item novo, _, d =>
    match d.itens idEvento with
    | some atual =>
      ({ d with
          itens := update d.itens idEvento (some (item.gravar novo atual))
          etapa := update d.etapa i (some (idEvento, .reivindicado)) }, .ok ())
    | none => (d, .error .apagado)
  | .enviar idEvento _ _, e, d =>
    ({ d with
        chamadas := update d.chamadas idEvento (d.chamadas idEvento + 1)
        etapa := update d.etapa i (some (idEvento, .enviado)) },
      match e.gateway with
      | .ok resultado => .ok resultado
      | .error tipo => .error (.gateway tipo))
  | .concluir idEvento item novo, _, d =>
    match d.itens idEvento with
    | some atual =>
      let gravado := item.gravar novo atual
      ({ d with
          itens := update d.itens idEvento (some gravado)
          etapa := update d.etapa i none
          aoEnviar := if gravado.statusEvento = .enviado then
              update d.aoEnviar idEvento ((d.aoEnviar idEvento).or (some (d.chamadas idEvento)))
            else d.aoEnviar }, .ok ())
    | none => (d, .error .apagado)

/-- A session that ends or dies. -/
def close (i : ℕ) (d : Banco) : Banco :=
  match d.etapa i with
  | some (idEvento, .reivindicado) =>
    { d with
      perdidas := update d.perdidas idEvento (d.perdidas idEvento + 1)
      etapa := update d.etapa i none }
  | _ => { d with etapa := update d.etapa i none }

def machine : Machine Cmd.Ans FilaError Banco Env where
  exec := exec
  close := close

abbrev Process := Program Cmd.Ans FilaError

def run (op : Cmd) : Process op.Ans := .perform op

/-! ## The service -/

variable (U : Unicode)

/-- `criar_item_fila`. -/
def criarItemFila (payload : EnqueueRequest) : Process (ℕ × Item) := do
  let correlationId ← match payload.correlationId with
    | some correlationId => pure correlationId.val
    | none => do
      let uuid4 ← run .uuid4
      pure s!"teams-notification-{uuid4}"
  let metadata := Table.merge (sanitizeEntries U payload.metadata)
    [("origem", .str payload.origem), ("event_type", .str payload.tipoEvento.val),
      ("environment", .str payload.ambiente.val), ("titulo", .str payload.titulo.val)]
  let idEvento ← run (.criar
    { origem := payload.origem, tipoEvento := payload.tipoEvento, ambiente := payload.ambiente,
      correlationId, titulo := payload.titulo, texto := payload.texto,
      contentType := payload.contentType, autor := payload.autor, metadata,
      destinoTipo := payload.destinoTipo, destinoId := payload.destinoId, modo := payload.modo,
      permitirFallback := payload.permitirFallback, dryRun := payload.dryRun,
      maxTentativas := payload.maxTentativas })
  let item ← run (.refresh idEvento)
  return (idEvento, item)

/-- The result that stands for an exception of the gateway. -/
def falhaDoProvedor (exc : FilaError) : Resultado :=
  let failureCode := s!"provider_exception_{U.lower exc.tipo}"
  { entregue := false, erro := some failureCode, motivo := some failureCode }

/-- The result that `executar_item_fila` goes on with. -/
def doGateway : Except FilaError Resultado → Resultado
  | .ok result => result
  | .error exc => falhaDoProvedor U exc

/-- `result.get('erro') or result.get('motivo') or 'Entrega não confirmada.'`. -/
def motivoDaFalha (result : Resultado) : String :=
  if truthy result.erro then result.erro.getD ""
  else if truthy result.motivo then result.motivo.getD ""
  else "Entrega não confirmada."

/-- The object after the call of the gateway. -/
def Item.entregar (refreshed : Item) (result : Resultado) (latenciaMs : ℕ)
    (agora : Option DateTime) : Item :=
  { refreshed with
    statusEvento := if result.entregue then .enviado else .falha
    canalUsado := result.canalUsado
    statusHttp := result.statusCode
    latenciaMs := some latenciaMs
    providerMessageId := result.messageId
    motivoFalha := if result.entregue then none else some (take 2000 (motivoDaFalha result))
    enviadoEm := agora.or refreshed.enviadoEm }

/-- The call of the gateway, inside the `try`. -/
def chamarGateway (idEvento : ℕ) : Process Resultado := do
  let item ← run (.refresh idEvento)
  run (.enviar idEvento (gatewayRequest idEvento item.toMensagem)
    s!"{item.correlationId}:attempt:{item.tentativas}")

/-- `executar_item_fila`. -/
def executarItemFila (idEvento : ℕ) (item : Item) : Process Item := do
  if item.statusEvento = .processando then
    .raise (.valor "Mensagem já está em processamento.")
  else if item.maxTentativas ≤ item.tentativas then
    .raise (.valor "Limite de tentativas atingido; exige nova mensagem governada.")
  else do
    let agora ← run .agora
    run (.reivindicar idEvento item { item with
      statusEvento := .processando, tentativas := item.tentativas + 1,
      ultimaTentativaEm := some agora, motivoFalha := none })
    let result := doGateway U (← (chamarGateway idEvento).attempt)
    let latenciaMs ← run .latencia
    match ← run (.obter idEvento) with
    | none => .raise (.execucao s!"Evento de notificação não encontrado após envio: {idEvento}")
    | some refreshed => do
      let agora ← if result.entregue then do
          let agora ← run .agora
          pure (some agora)
        else pure none
      run (.concluir idEvento refreshed (refreshed.entregar result latenciaMs agora))
      run (.refresh idEvento)

/-- `except ValueError`: what a route answers with 409. -/
def conflito : Except FilaError Item → Process Item
  | .ok item => pure item
  | .error (.valor detalhe) => .raise (.http 409 detalhe)
  | .error exc => .raise exc

/-- `enfileirar_notificacao`. -/
def enfileirarNotificacao (payload : EnqueueRequest) : Process Item := do
  let (idEvento, item) ← criarItemFila U payload
  if payload.enviarAgora then executarItemFila U idEvento item
  else pure item

/-- `processar_notificacao`. -/
def processarNotificacao (idEvento : ℕ) : Process Item := do
  match ← run (.obter idEvento) with
  | none => .raise (.http 404 "Evento de notificação não encontrado.")
  | some item => do conflito (← (executarItemFila U idEvento item).attempt)

/-- `reprocessar_notificacao`. -/
def reprocessarNotificacao (idDlq : ℕ) : Process Item := do
  match ← run (.obter idDlq) with
  | none => .raise (.http 404 "Item não encontrado na DLQ.")
  | some item =>
    if item.statusEvento ≠ .falha then .raise (.http 404 "Item não encontrado na DLQ.")
    else do conflito (← (executarItemFila U idDlq item).attempt)

inductive Request
  | enfileirar (payload : EnqueueRequest)
  | processar (idEvento : ℕ)
  | reprocessar (idDlq : ℕ)

def code : Request → Process Item
  | .enfileirar payload => enfileirarNotificacao U payload
  | .processar idEvento => processarNotificacao U idEvento
  | .reprocessar idDlq => reprocessarNotificacao U idDlq

/-- The queue and the calls running on it. -/
abbrev Sessoes := Pool Banco (Process Item)

abbrev Step := Move Request Env × Option (Except FilaError Item)

/-- Overlapping calls, on a queue that is empty first. -/
def sessoes : TransitionSystem Sessoes Step := Pool.interleaving {} (code U) machine

end Notifications

end ReqSys
