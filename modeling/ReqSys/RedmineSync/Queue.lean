import ReqSys.Foundation.Program
import ReqSys.Foundation.Table
import Mathlib.Data.Int.Notation
import Mathlib.Data.List.Sort

/-!
# Redmine sync: the queue

A flow writes the issues that are wanted into a table of Dataverse, and workers create them in
Redmine. A worker lists the pending rows first, reserves them one after the other by an update
without a condition, creates the issue, and stores the new status. Reservations that are too old are
given back at the start of every run.

Every request to Dataverse or Redmine is one atomic call. A request to Dataverse may fail before or
after it took effect; the client raises either way. What the worker writes to the other tables, and
to the audit log of the service, has no effect here but that it may fail.

`issues` is not in Dataverse. It records for which row an issue was created.
-/

namespace ReqSys

namespace RedmineSync

/-! ## The table -/

inductive StatusFila
  | pending | processing | sent | error
  deriving DecidableEq

/-- A row of `cr85a_redminequeue`. -/
structure ItemFila where
  rowId : String
  createdOn : ℤ
  correlationId : Option String := none
  subject : Option String := none
  trackerId : Option ℤ := none
  retryCount : Option ℤ := none
  status : StatusFila := .pending
  reservedAt : Option ℤ := none
  errorDetail : Option String := none
  redmineIssueId : Option ℤ := none

structure Dataverse where
  fila : List ItemFila := []
  issues : List String := []

namespace Dataverse

def item (s : Dataverse) (rowId : String) : Option ItemFila :=
  Table.lookup ItemFila.rowId rowId s.fila

/-- The status of a row. -/
def status (s : Dataverse) (rowId : String) : Option StatusFila :=
  (s.item rowId).map ItemFila.status

/-- `update_row`. -/
def updateRow (s : Dataverse) (rowId : String) (campos : ItemFila → ItemFila) : Dataverse :=
  { s with fila := Table.update ItemFila.rowId rowId campos s.fila }

end Dataverse

inductive Erro
  | dataverseError (mensagem : String)
  | integracaoError (mensagem : String)
  /-- What the database of the service raises. -/
  | banco (mensagem : String)
  deriving DecidableEq

/-- A request that failed. -/
structure Falha where
  /-- It took effect. -/
  aplicada : Bool
  mensagem : String

/-- What `criar_issue_generica` returns. -/
structure Issue where
  issueId : Option ℤ
  redmineUrl : Option String

/-- What a call gets from outside. -/
structure Env where
  /-- The clock, in microseconds. -/
  now : ℤ := 0
  falha : Option Falha := none
  /-- What Redmine answers. -/
  redmine : Except String Issue := .error ""
  /-- The row of the other table with the correlation id. -/
  agileSync : Option String := none

/-! ## Calls -/

inductive Tabela
  | redmineQueue | agileSync | auditLog

inductive Evento
  | queueReservationTimeoutRecovered | redmineIssueCreated | redmineIssueFailed

inductive AgileStatus
  | synced | error

/-- The atomic calls. The updates of the queue come with the fields that they set. -/
inductive Cmd
  | agora
  | resolverEntitySetName (tabela : Tabela)
  /-- The flow adds a row. -/
  | incluir (item : ItemFila)
  | listarTravados (limite : ℤ)
  | listarPendentes (top : ℤ)
  /-- `status` is `PENDING`, `reservedat` is empty. -/
  | liberar (rowId : String)
  /-- `status` is `PROCESSING`. -/
  | reservar (rowId : String) (agora : ℤ)
  /-- `criar_issue_generica`, for this row. -/
  | criarIssue (rowId subject : String) (trackerId : Option ℤ)
  /-- `status` is `SENT`. -/
  | enviar (rowId : String)
  | gravarIssueId (rowId : String) (issueId : Option ℤ)
  | registrarFalha (rowId : String) (status : StatusFila) (tentativas : ℤ) (erro : String)
  | gravarStatus (rowId : String) (status : StatusFila)
  | buscarAgileSync (correlationId : String)
  | atualizarAgileSync (rowId : String) (status : AgileStatus)
  | criarAuditLog (correlationId : String) (evento : Evento) (agora : ℤ) (sucesso : Bool)
  /-- `registrar_evento`. -/
  | registrarEvento (correlationId : String) (evento : Evento) (rowId : String)

abbrev Cmd.Ans : Cmd → Type
  | agora => ℤ
  | listarTravados _ => List (String × String)
  | listarPendentes _ => List ItemFila
  | criarIssue _ _ _ => Issue
  | buscarAgileSync _ => Option String
  | resolverEntitySetName _ | incluir _ | liberar _ | reservar _ _ | enviar _ | gravarIssueId _ _
  | registrarFalha _ _ _ _ | gravarStatus _ _ | atualizarAgileSync _ _ | criarAuditLog _ _ _ _
  | registrarEvento _ _ _ => Unit

/-- `$top`, as the client limits it. -/
def limiteTop (top : ℤ) : ℕ := (max 1 (min top 500)).toNat

/-- The effect and the answer of a call that gets through. -/
def efeito : (op : Cmd) → Env → Dataverse → Dataverse × Except Erro op.Ans
  | .agora, e, s => (s, .ok e.now)
  | .resolverEntitySetName _, _, s => (s, .ok ())
  | .incluir item, _, s =>
    ({ s with fila := Table.insertOrIgnore ItemFila.rowId { item with status := .pending } s.fila },
      .ok ())
  | .listarTravados limite, _, s =>
    let travados := s.fila.filter fun x ↦ x.status = .processing ∧ x.reservedAt.any (· ≤ limite)
    (s, .ok ((travados.take 100).map fun x ↦ (x.rowId, x.correlationId.getD "")))
  | .listarPendentes top, _, s =>
    let pendentes := (s.fila.filter fun x ↦ x.status = .pending).insertionSort
      fun a b ↦ a.createdOn ≤ b.createdOn
    (s, .ok (pendentes.take (limiteTop top)))
  | .liberar rowId, _, s =>
    (s.updateRow rowId fun x ↦ { x with status := .pending, reservedAt := none }, .ok ())
  | .reservar rowId agora, _, s =>
    (s.updateRow rowId fun x ↦ { x with status := .processing, reservedAt := some agora }, .ok ())
  | .criarIssue rowId _ _, e, s =>
    match e.redmine with
    | .ok issue => ({ s with issues := s.issues ++ [rowId] }, .ok issue)
    | .error m => (s, .error (.integracaoError m))
  | .enviar rowId, _, s => (s.updateRow rowId fun x ↦ { x with status := .sent }, .ok ())
  | .gravarIssueId rowId issueId, _, s =>
    (s.updateRow rowId fun x ↦ { x with redmineIssueId := issueId }, .ok ())
  | .registrarFalha rowId status tentativas erro, _, s =>
    (s.updateRow rowId fun x ↦
      { x with status := status, retryCount := some tentativas, errorDetail := some erro }, .ok ())
  | .gravarStatus rowId status, _, s =>
    (s.updateRow rowId fun x ↦ { x with status := status }, .ok ())
  | .buscarAgileSync _, e, s => (s, .ok e.agileSync)
  | .atualizarAgileSync _ _, _, s => (s, .ok ())
  | .criarAuditLog _ _ _ _, _, s => (s, .ok ())
  | .registrarEvento _ _ _, _, s => (s, .ok ())

/-- What a failing call raises; a call that is no request does not fail. -/
def Cmd.erro : Cmd → Option (String → Erro)
  | agora | incluir _ | criarIssue _ _ _ => none
  | registrarEvento _ _ _ => some .banco
  | _ => some .dataverseError

/-- A call, over a connection that may fail. -/
def exec (op : Cmd) (e : Env) (s : Dataverse) : Dataverse × Except Erro op.Ans :=
  match e.falha, op.erro with
  | some f, some erro => (if f.aplicada then (efeito op e s).1 else s, .error (erro f.mensagem))
  | _, _ => efeito op e s

/-- Dataverse; a process that ends leaves everything as it is. -/
def machine : Machine Cmd.Ans Erro Dataverse Env where
  exec _ := exec
  close _ s := s

/-! ## The worker -/

abbrev Processo := Program Cmd.Ans Erro

/-- One call. -/
def run (op : Cmd) : Processo op.Ans := .perform op

/-- `except DataverseError`, of a body that then goes on. -/
def tolerar (p : Processo Unit) : Processo Unit := do
  match ← p.attempt with
  | .ok _ => return ()
  | .error (.dataverseError _) => return ()
  | .error x => .raise x

/-- `_mascarar` is `mascarar`. -/
structure Config where
  mascarar : String → String

/-- The arguments of `processar_fila_redmine`. -/
structure Parametros where
  loteMax : ℤ := 20
  reservaTimeoutMinutos : ℤ := 15
  maxTentativas : ℤ := 5
  dryRun : Bool := false
  /-- Whether there is a database of the service. -/
  db : Bool := false

/-- `if db is not None: registrar_evento(…)`. -/
def registrarLocal (db : Bool) (correlationId : String) (evento : Evento) (rowId : String) :
    Processo Unit :=
  if db then run (.registrarEvento correlationId evento rowId) else return ()

/-- `_registrar_auditlog_dataverse`. -/
def registrarAuditlogDataverse (correlationId : String) (evento : Evento) (sucesso : Bool) :
    Processo Unit := tolerar do
  run (.resolverEntitySetName .auditLog)
  let agora ← run .agora
  run (.criarAuditLog correlationId evento agora sucesso)

/-- `_atualizar_agilesync`. -/
def atualizarAgilesync (correlationId : String) (novoStatus : AgileStatus) : Processo Unit :=
  if correlationId = "" then return ()
  else tolerar do
    run (.resolverEntitySetName .agileSync)
    match ← run (.buscarAgileSync correlationId) with
    | none => return ()
    | some rowId => run (.atualizarAgileSync rowId novoStatus)

/-- One turn of the loop of `limpar_reservas_travadas`. -/
def liberarReserva (db : Bool) (x : String × String) : Processo Unit := do
  match ← (run (.liberar x.1)).attempt with
  | .error (.dataverseError _) => return ()
  | .error erro => .raise erro
  | .ok _ => registrarLocal db x.2 .queueReservationTimeoutRecovered x.1

/-- `limpar_reservas_travadas`. -/
def limparReservasTravadas (timeoutMinutos : ℤ) (db : Bool) : Processo ℕ := do
  run (.resolverEntitySetName .redmineQueue)
  let agora ← run .agora
  let itens ← run (.listarTravados (agora - timeoutMinutos * 60000000))
  itens.forM (liberarReserva db)
  return itens.length

/-- An entry of `itens_processados`. -/
structure ItemProcessado where
  rowId : String
  correlationId : String
  status : StatusFila
  erro : Option String := none
  tentativas : Option ℤ := none
  issue : Option Issue := none

/-- The reserved row: the issue is created, and the status stored. -/
def criarEnviar (par : Parametros) (item : ItemFila) : Processo ItemProcessado := do
  let correlationId := item.correlationId.getD ""
  let resultado ← run (.criarIssue item.rowId (item.subject.getD "") item.trackerId)
  run (.enviar item.rowId)
  tolerar (run (.gravarIssueId item.rowId resultado.issueId))
  atualizarAgilesync correlationId .synced
  registrarAuditlogDataverse correlationId .redmineIssueCreated true
  registrarLocal par.db correlationId .redmineIssueCreated item.rowId
  return { rowId := item.rowId, correlationId := correlationId, status := .sent,
           issue := some resultado }

/-- The new status after an error of Redmine, with the error if that can be stored. -/
def gravarFalha (rowId : String) (novoStatus : StatusFila) (novaTentativa : ℤ) (erro : String) :
    Processo Unit := do
  match ← (run (.registrarFalha rowId novoStatus novaTentativa erro)).attempt with
  | .ok _ => return ()
  | .error (.dataverseError _) => run (.gravarStatus rowId novoStatus)
  | .error x => .raise x

/-- `except IntegracaoError`. -/
def registrarErro (cfg : Config) (par : Parametros) (item : ItemFila) (mensagem : String) :
    Processo ItemProcessado := do
  let correlationId := item.correlationId.getD ""
  let novaTentativa := item.retryCount.getD 0 + 1
  let novoStatus := if par.maxTentativas ≤ novaTentativa then .error else .pending
  gravarFalha item.rowId novoStatus novaTentativa (cfg.mascarar mensagem)
  atualizarAgilesync correlationId .error
  registrarAuditlogDataverse correlationId .redmineIssueFailed false
  registrarLocal par.db correlationId .redmineIssueFailed item.rowId
  return { rowId := item.rowId, correlationId := correlationId, status := novoStatus,
           tentativas := some novaTentativa, erro := some (cfg.mascarar mensagem) }

/-- One turn of the loop of `processar_fila_redmine`. -/
def processarItem (cfg : Config) (par : Parametros) (item : ItemFila) :
    Processo ItemProcessado := do
  let reserva ← Program.attempt do
    let agora ← run .agora
    run (.reservar item.rowId agora)
  match reserva with
  | .error (.dataverseError m) =>
    return { rowId := item.rowId, correlationId := item.correlationId.getD "", status := .pending,
             erro := some (cfg.mascarar m) }
  | .error x => .raise x
  | .ok _ => do
    match ← (criarEnviar par item).attempt with
    | .ok x => return x
    | .error (.integracaoError m) => registrarErro cfg par item m
    | .error x => .raise x

/-- The loop of `processar_fila_redmine`. -/
def processarItens (cfg : Config) (par : Parametros) :
    List ItemFila → Processo (List ItemProcessado)
  | [] => return []
  | item :: itens => do
    let x ← processarItem cfg par item
    let xs ← processarItens cfg par itens
    return x :: xs

/-- What `processar_fila_redmine` returns. -/
inductive Resultado
  | ensaio (reservasLiberadas : ℕ) (pendentes : List ItemFila)
  | real (reservasLiberadas processados criados falhas : ℕ) (itens : List ItemProcessado)

/-- `processar_fila_redmine`. -/
def processarFilaRedmine (cfg : Config) (par : Parametros) : Processo Resultado := do
  let reservasLiberadas ← limparReservasTravadas par.reservaTimeoutMinutos par.db
  run (.resolverEntitySetName .redmineQueue)
  let pendentes ← run (.listarPendentes par.loteMax)
  if par.dryRun then return .ensaio reservasLiberadas pendentes
  else do
    let itens ← processarItens cfg par pendentes
    let criados := itens.countP fun x ↦ x.status = .sent
    return .real reservasLiberadas pendentes.length criados (itens.length - criados) itens

/-! ## Processes -/

/-- What a process does. -/
inductive Pedido
  /-- The flow adds a row. -/
  | fluxo (item : ItemFila)
  | processar (par : Parametros)
  | limpar (timeoutMinutos : ℤ)

def code (cfg : Config) : Pedido → Processo (Option Resultado)
  | .fluxo item => do
    run (.incluir item)
    return none
  | .processar par => do
    let r ← processarFilaRedmine cfg par
    return some r
  | .limpar timeoutMinutos => do
    let _ ← limparReservasTravadas timeoutMinutos false
    return none

/-- Dataverse and the processes running over it. -/
abbrev Processos := Pool Dataverse (Processo (Option Resultado))

/-- A move of the processes, with the outcome it delivers. -/
abbrev Passo := Move Pedido Env × Option (Except Erro (Option Resultado))

/-- Any number of processes over one queue, which is empty at first. -/
def sincronizacao (cfg : Config) : TransitionSystem Processos Passo :=
  Pool.interleaving {} (code cfg) machine

/-! ## A small queue -/

def sampleConfig : Config where
  mascarar m := m

def sampleItem : ItemFila where
  rowId := "row-1"
  createdOn := 0
  correlationId := some "corr-1"
  subject := some "Nova issue"

/-- Redmine creates the issue, and the row of the other table is found. -/
def sampleEnv : Env where
  now := 1000000
  redmine := .ok ⟨some 7, some "https://redmine/issues/7"⟩
  agileSync := some "agile-1"

/-- Process `i` takes `n` steps. -/
def sampleSteps (i n : ℕ) (e : Env) : List (Move Pedido Env) := List.replicate n (.advance i e)

/-- Process `i` starts and takes `n` steps. -/
def sampleStart (i : ℕ) (c : Pedido) (n : ℕ) (e : Env) : List (Move Pedido Env) :=
  .start i c :: sampleSteps i n e

/-- The trace and the processes after moves that may overlap. -/
def sampleRun (moves : List (Move Pedido Env)) : List Passo × Processos :=
  TransitionSystem.runCalls (Pool.move (code sampleConfig) machine) moves ⟨{}, fun _ ↦ none⟩

theorem run_sampleRun (moves : List (Move Pedido Env)) :
    (sincronizacao sampleConfig).Run (sampleRun moves).1 (sampleRun moves).2 :=
  TransitionSystem.run_runCalls _ _ moves

end RedmineSync

end ReqSys
