import Mathlib.Data.List.Sort
import ReqSys.Foundation.IsoText
import ReqSys.Foundation.Program
import ReqSys.Foundation.Table

/-!
# Redmine lifecycle: the links of a requirement

One requirement and its Redmine issue. Besides the link to the issue, the table `vinculos_git` keeps
two kinds of rows for it: control rows, in whose title the batch keeps its lock, its attempts and
its quarantine, and state rows, in whose title the synchronisation keeps its checkpoint. A title is
the JSON text of a record with sorted keys; it is modelled by the record, as equal records have
equal texts and only they have.

Several sessions use the table. A row gets its number when it is inserted, but the others see it
only from the commit on. A session keeps the titles it has loaded until it commits, and loads them
again when they are next used. What a command does besides, such as the link to the issue and the
answers of Redmine, comes from outside.
-/

namespace ReqSys

namespace RedmineLifecycle

/-! ## Records -/

structure Lock where
  owner : String
  correlationId : String
  acquiredAt : String
  expiresAt : String
  deriving DecidableEq

/-- The title of a control row; the defaults are those of `_empty_control`. -/
structure Controle where
  version : ℕ := 1
  lock : Option Lock := none
  attempts : ℕ := 0
  lastError : Option String := none
  lastErrorAt : Option String := none
  nextAttemptAt : Option String := none
  quarantined : Bool := false
  quarantineReason : Option String := none
  quarantinedAt : Option String := none
  lastSuccessAt : Option String := none
  lastCorrelationId : Option String := none
  deriving DecidableEq

/-- What Redmine refers to by number and name. -/
structure Referencia where
  id : Option ℤ := none
  name : Option String := none

structure Journal where
  id : ℤ
  notes : Option String := none
  user : Option Referencia := none
  createdOn : Option String := none

/-- An issue, as Redmine returns it. -/
structure Issue where
  subject : Option String := none
  description : Option String := none
  status : Option Referencia := none
  assignedTo : Option Referencia := none
  doneRatio : Option ℤ := none
  journals : List Journal := []

/-- What `_execution_snapshot` keeps of an issue. -/
structure Execucao where
  statusId : Option ℤ
  statusName : Option String
  assigneeId : Option ℤ
  assigneeName : Option String
  doneRatio : Option ℤ
  deriving DecidableEq

/-- The title of a state row. -/
structure EstadoSync where
  version : ℕ := 1
  reqsysFingerprint : String
  executionFingerprint : String
  lastJournalId : ℤ
  execution : Execucao
  deriving DecidableEq

/-- `payload_minimo`, by the kind of event. -/
inductive Payload
  | reqsysToRedmine (issueId : ℤ) (changedFields : List String) (reqsysFingerprint
      remoteBeforeFingerprint remoteAfterFingerprint : String)
  | redmineToReqsys (issueId : ℤ) (changedFields : List String) (execution : Execucao)
      (executionFingerprint : String)
  | journal (issueId journalId : ℤ) (author : Referencia) (createdOn : Option String)
      (notes : String) (notesTruncated : Bool) (notesSha256 : String)
  | falha (issueId : ℤ) (attempts : ℕ) (maxTentativas : ℤ) (error : String) (quarantined : Bool)
      (nextAttemptAt : Option String) (backoffMinutos : Option ℤ)

inductive Acao
  | redmineSyncReqsysToRedmine | redmineSyncRedmineToReqsys | redmineJournalImportado
  | redmineSyncQuarentena | redmineSyncFalha
  deriving DecidableEq

structure AuditoriaEvento where
  correlationId : String
  usuario : String
  acao : Acao
  payload : Payload

/-- The link to the issue. -/
structure IssueLink where
  referencia : String

/-! ## The table and its sessions -/

structure Linha where
  id : ℕ
  titulo : Controle
  deriving DecidableEq

structure LinhaEstado where
  id : ℕ
  titulo : EstadoSync

/-- A lock that `_acquire_lock` has returned: the row, and the title with the lock. -/
structure Reserva where
  linha : ℕ
  titulo : Controle

structure Sessao where
  /-- The titles of the control rows that are loaded and not expired. -/
  titulos : ℕ → Option Controle := fun _ ↦ none
  /-- The row that is inserted and not committed. -/
  pendente : Option Linha := none
  /-- The number of its worker identifier. -/
  worker : Option ℕ := none
  /-- Its lock, between `_acquire_lock` and `_release_lock`. -/
  reserva : Option Reserva := none

/-- The rows of the requirement, in the order of their numbers, and the sessions. -/
structure Banco where
  controles : List Linha := []
  estados : List LinhaEstado := []
  auditoria : List AuditoriaEvento := []
  proximoId : ℕ := 1
  /-- How many identifiers `uuid4` has given. -/
  uuids : ℕ := 0
  relogio : DateTime
  sessoes : ℕ → Sessao := fun _ ↦ {}
  /-- The sessions whose lock another session has taken over. -/
  tomada : ℕ → Bool := fun _ ↦ false
  /-- The control rows became visible in the order of their numbers. -/
  emOrdem : Bool := true
  /-- A session has written the row when it returned a lock that had been taken over. -/
  sobrescrita : Bool := false

inductive Erro
  | redmineLifecycleSyncError (mensagem : String)
  | integracaoError (mensagem : String)
  /-- Any other exception. -/
  | outro (mensagem : String)
  deriving DecidableEq

/-- What a command gets from outside. -/
structure Env where
  /-- The clock. -/
  agora : DateTime
  /-- What the database raises. -/
  falha : Option String := none
  /-- What Redmine answers to a request for the issue. -/
  issue : Except Erro Issue := .error (.integracaoError "")
  /-- What Redmine answers to an update. -/
  atualizacao : Except Erro Unit := .ok ()

/-- Who writes a control row. -/
inductive Fase
  | adquirir | devolver
  deriving DecidableEq

inductive Cmd
  /-- `SessionLocal()`. -/
  | abrir
  | now
  | uuid4
  /-- The link to the issue. -/
  | issueLink
  /-- `_sync_state_link`. -/
  | syncStateLink
  /-- `obter_issue_redmine`. -/
  | obterIssue (issueId : ℤ)
  /-- `atualizar_issue_redmine`. -/
  | atualizarIssue (issueId : ℤ) (campos : List (String × String))
  /-- The events and the state row, if any, are added and committed. -/
  | gravarSync (eventos : List AuditoriaEvento) (estado : Option (Option ℕ × EstadoSync))
  /-- `_control_links`. -/
  | controlLinks
  /-- A control row is inserted. -/
  | inserir (titulo : Controle)
  | commit
  /-- `db.delete` and `db.commit`. -/
  | excluir (id : ℕ)
  /-- The attribute `titulo` of a control row. -/
  | titulo (id : ℕ)
  /-- The `UPDATE` of `_swap_control` and its commit. -/
  | swap (fase : Fase) (id : ℕ) (rawBefore control : Controle)
  | refresh (id : ℕ)
  /-- `_audit`. -/
  | audit (evento : AuditoriaEvento)

abbrev Cmd.Ans : Cmd → Type
  | now => DateTime
  | uuid4 => ℕ
  | issueLink => Option IssueLink
  | syncStateLink => Option LinhaEstado
  | obterIssue _ => Issue
  | controlLinks => List ℕ
  | inserir _ => ℕ
  | titulo _ => Controle
  | swap _ _ _ _ => ℕ
  | abrir | atualizarIssue _ _ | gravarSync _ _ | commit | excluir _ | refresh _ | audit _ => Unit

/-! ## What a command does -/

namespace Banco

/-- Time does not go back. -/
def avancar (agora : DateTime) (w : Banco) : Banco :=
  { w with relogio := if w.relogio ≤ agora then agora else w.relogio }

/-- The control row with a number. -/
def linha (w : Banco) (id : ℕ) : Option Linha := Table.lookup Linha.id id w.controles

def setSessao (w : Banco) (i : ℕ) (s : Sessao) : Banco :=
  { w with sessoes := Function.update w.sessoes i s }

/-- The titles of session `i` are expired by a commit. -/
def expirar (w : Banco) (i : ℕ) : Banco :=
  w.setSessao i { w.sessoes i with titulos := fun _ ↦ none }

/-- Session `i` loads a row. -/
def carregar (w : Banco) (i : ℕ) (row : Linha) : Banco :=
  w.setSessao i { w.sessoes i with
    titulos := Function.update (w.sessoes i).titulos row.id (some row.titulo) }

/-- Session `i` loads the rows that it has not loaded. -/
def carregarTodas (w : Banco) (i : ℕ) : Banco :=
  w.setSessao i { w.sessoes i with
    titulos := fun id ↦ (w.sessoes i).titulos id <|> (w.linha id).map Linha.titulo }

/-- The row that session `i` has inserted becomes visible. -/
def publicar (w : Banco) (i : ℕ) : Banco :=
  match (w.sessoes i).pendente with
  | none => w.expirar i
  | some row =>
    { (w.setSessao i { w.sessoes i with titulos := fun _ ↦ none, pendente := none }) with
      controles := w.controles.orderedInsert (fun r r' ↦ r.id ≤ r'.id) row
      emOrdem := w.emOrdem && w.controles.all fun r ↦ decide (r.id < row.id) }

/-- The title of a row is replaced. -/
def gravar (w : Banco) (id : ℕ) (titulo : Controle) : Banco :=
  { w with controles := Table.update Linha.id id (fun r ↦ { r with titulo := titulo }) w.controles }

/-- Session `i` holds a lock in the row `id`. -/
def reservou (w : Banco) (i id : ℕ) : Bool := (w.sessoes i).reserva.any (·.linha = id)

/-- Session `i` has the lock that it has written. -/
def adquirir (w : Banco) (i id : ℕ) (titulo : Controle) : Banco :=
  { (w.setSessao i { w.sessoes i with reserva := some ⟨id, titulo⟩ }) with
    tomada := fun j ↦ j ≠ i && (w.tomada j || w.reservou j id) }

/-- Session `i` has no lock any more. -/
def devolver (w : Banco) (i : ℕ) : Banco := w.setSessao i { w.sessoes i with reserva := none }

/-- The state row is inserted or updated. -/
def gravarEstado (w : Banco) : Option (Option ℕ × EstadoSync) → Banco
  | none => w
  | some (none, titulo) =>
    { w with estados := w.estados ++ [⟨w.proximoId, titulo⟩], proximoId := w.proximoId + 1 }
  | some (some id, titulo) =>
    { w with
      estados := Table.update LinhaEstado.id id (fun r ↦ { r with titulo := titulo }) w.estados }

end Banco

/-- What session `i` does with a command that the database does not refuse. -/
def efeito (link : Option IssueLink) (i : ℕ) :
    (op : Cmd) → Env → Banco → Banco × Except Erro op.Ans
  | .abrir, _, w => ({ (w.setSessao i {}) with tomada := Function.update w.tomada i false }, .ok ())
  | .now, _, w => (w, .ok w.relogio)
  | .uuid4, _, w =>
    ({ (w.setSessao i { w.sessoes i with worker := some w.uuids }) with uuids := w.uuids + 1 },
      .ok w.uuids)
  | .issueLink, _, w => (w, .ok link)
  | .syncStateLink, _, w => (w, .ok w.estados.getLast?)
  | .obterIssue _, e, w => (w, e.issue)
  | .atualizarIssue _ _, e, w => (w, e.atualizacao)
  | .gravarSync eventos estado, _, w =>
    (({ w with auditoria := w.auditoria ++ eventos }.gravarEstado estado).expirar i, .ok ())
  | .controlLinks, _, w => (w.carregarTodas i, .ok (w.controles.map Linha.id))
  | .inserir titulo, _, w =>
    ({ (w.setSessao i { w.sessoes i with pendente := some ⟨w.proximoId, titulo⟩ }) with
        proximoId := w.proximoId + 1 }, .ok w.proximoId)
  | .commit, _, w => (w.publicar i, .ok ())
  | .excluir id, _, w =>
    ({ w with controles := w.controles.filter (·.id ≠ id) }.expirar i, .ok ())
  | .titulo id, _, w =>
    match (w.sessoes i).titulos id, w.linha id with
    | some titulo, _ => (w, .ok titulo)
    | none, some row => (w.carregar i row, .ok row.titulo)
    | none, none => (w, .error (.outro "ObjectDeletedError"))
  | .swap fase id rawBefore control, _, w =>
    let encontrada := (w.linha id).any (·.titulo = rawBefore)
    let w' := if encontrada then w.gravar id control else w
    let w' := match fase with
      | .adquirir => if encontrada then w'.adquirir i id control else w'
      | .devolver =>
        { w'.devolver i with sobrescrita := w.sobrescrita || (encontrada && w.tomada i) }
    (w'.expirar i, .ok (if encontrada then 1 else 0))
  | .refresh id, _, w =>
    match w.linha id with
    | some row => (w.carregar i row, .ok ())
    | none => (w, .error (.outro "InvalidRequestError"))
  | .audit evento, _, w => ({ w with auditoria := w.auditoria ++ [evento] }.expirar i, .ok ())

/-- What session `i` does with a command. -/
def exec (link : Option IssueLink) (i : ℕ) (op : Cmd) (e : Env) (w : Banco) :
    Banco × Except Erro op.Ans :=
  match e.falha with
  | some mensagem => (w.avancar e.agora, .error (.outro mensagem))
  | none => efeito link i op e (w.avancar e.agora)

/-- The sessions over the table; one that ends is rolled back. -/
def machine (link : Option IssueLink) : Machine Cmd.Ans Erro Banco Env where
  exec := exec link
  close i w := { (w.setSessao i {}) with tomada := Function.update w.tomada i false }

abbrev Processo := Program Cmd.Ans Erro

/-- One command. -/
def run (op : Cmd) : Processo op.Ans := .perform op

end RedmineLifecycle

end ReqSys
