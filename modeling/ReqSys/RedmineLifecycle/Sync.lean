import ReqSys.Foundation.PyText
import ReqSys.RedmineLifecycle.Links

/-!
# Redmine lifecycle: the synchronisation of one requirement

`sincronizar_requisito_redmine` reads the issue, writes the subject and the description that ReqSys
owns if they differ, reads the issue again to see that they were written, and stores what it has
seen of the execution and the new journals, all in one commit. If there is nothing to store, it does
not commit.
-/

namespace ReqSys

namespace RedmineLifecycle

/-- The requirement, and the functions of the standard library. -/
structure Config where
  codigo : String
  issueLink : Option IssueLink
  /-- `montar_campos_requisito_redmine` of the requirement. -/
  desired : List (String × String)
  /-- `int` of a text. -/
  int : String → Option ℤ
  repr : String → String
  sha256 : String → String
  fingerprintCampos : List (String × String) → String
  fingerprintExecucao : Execucao → String
  /-- The hexadecimal digits that a worker identifier ends with. -/
  uuid : ℕ → String
  uuid_injective : Function.Injective uuid

def syncStateVersion : ℕ := 1

def maxJournalNotesChars : ℕ := 4000

/-! ## What is read of an issue -/

def ownedRemoteContent (issue : Issue) : List (String × String) :=
  [("subject", issue.subject.getD ""), ("description", issue.description.getD "")]

def executionSnapshot (issue : Issue) : Execucao where
  statusId := issue.status.bind Referencia.id
  statusName := issue.status.bind Referencia.name
  assigneeId := issue.assignedTo.bind Referencia.id
  assigneeName := issue.assignedTo.bind Referencia.name
  doneRatio := issue.doneRatio

/-- The journals after the last one that was seen. -/
def newJournals (issue : Issue) (lastJournalId : ℤ) : List Journal :=
  (issue.journals.filter fun j ↦ decide (lastJournalId < j.id)).insertionSort fun j k ↦ j.id ≤ k.id

/-- `max([last_journal_id] + [...])`. -/
def maxJournalId (lastJournalId : ℤ) (journals : List Journal) : ℤ :=
  (journals.map Journal.id).foldl max lastJournalId

/-- The fields that differ from what Redmine has. -/
def differing (campos remote : List (String × String)) : List (String × String) :=
  campos.filter fun c ↦ decide (Table.get? c.1 remote ≠ some c.2)

/-- The fields of the execution that changed. -/
def changedExecution (execution : Execucao) (before : Option Execucao) : List String :=
  [("status_id", decide (before.bind Execucao.statusId ≠ execution.statusId)),
    ("status_name", decide (before.bind Execucao.statusName ≠ execution.statusName)),
    ("assignee_id", decide (before.bind Execucao.assigneeId ≠ execution.assigneeId)),
    ("assignee_name", decide (before.bind Execucao.assigneeName ≠ execution.assigneeName)),
    ("done_ratio", decide (before.bind Execucao.doneRatio ≠ execution.doneRatio))].filterMap
      fun c ↦ if c.2 then some c.1 else none

/-- The event of a journal with notes. -/
def journalEvent (cfg : Config) (issueId : ℤ) (journal : Journal) (correlationId actor : String) :
    Option AuditoriaEvento :=
  let notes := PyText.strip (journal.notes.getD "")
  if notes = "" then none
  else some {
    correlationId := correlationId
    usuario := actor
    acao := .redmineJournalImportado
    payload := .journal issueId journal.id (journal.user.getD {}) journal.createdOn
      (PyText.take maxJournalNotesChars notes)
      (decide (maxJournalNotesChars < notes.toList.length)) (cfg.sha256 notes) }

/-! ## The method -/

structure ResultadoSync where
  issueId : ℤ
  dryRun : Bool
  planned : Bool
  applied : Bool
  changedFields : List String
  fingerprint : String
  executionChanged : Bool
  execution : Execucao
  executionFingerprint : String
  newJournalIds : List ℤ
  importedCommentCount : ℕ
  lastJournalId : ℤ
  stateChanged : Bool
  mutationCount : ℕ

/-- `_issue_link`: the number of the issue. -/
def exigirIssueLink (cfg : Config) : Processo ℤ := do
  match ← run .issueLink with
  | none => .raise (.redmineLifecycleSyncError
      s!"Requisito {cfg.codigo} não possui vínculo de issue Redmine.")
  | some link =>
    match cfg.int link.referencia with
    | none => .raise (.redmineLifecycleSyncError
        s!"Vínculo Redmine inválido para {cfg.codigo}: {cfg.repr link.referencia}.")
    | some issueId =>
      if issueId ≤ 0 then
        .raise (.redmineLifecycleSyncError
          s!"Vínculo Redmine inválido para {cfg.codigo}: {cfg.repr link.referencia}.")
      else return issueId

/-- The names, sorted. -/
def sortedNames (campos : List (String × String)) : List String :=
  (campos.map Prod.fst).insertionSort (· ≤ ·)

/-- The fields are written and read again. The issue that was read last, and whether fields were
applied. -/
def aplicarCampos (issueId : ℤ) (changed : List (String × String)) (issueBefore : Issue)
    (dryRun : Bool) : Processo (Issue × Bool) :=
  if changed = [] || dryRun then return (issueBefore, false)
  else do
    run (.atualizarIssue issueId changed)
    let issueEffective ← run (.obterIssue issueId)
    let notApplied := differing changed (ownedRemoteContent issueEffective)
    if notApplied ≠ [] then
      .raise (.redmineLifecycleSyncError
        ("Redmine respondeu à atualização, mas a leitura independente não confirmou os campos: "
          ++ String.intercalate ", " (sortedNames notApplied) ++ "."))
    else return (issueEffective, true)

/-- The state after the issue was read. -/
def stateAfter (cfg : Config) (issue : Issue) (lastJournalId : ℤ) : EstadoSync where
  version := syncStateVersion
  reqsysFingerprint := cfg.fingerprintCampos cfg.desired
  executionFingerprint := cfg.fingerprintExecucao (executionSnapshot issue)
  lastJournalId := maxJournalId lastJournalId (newJournals issue lastJournalId)
  execution := executionSnapshot issue

/-- `sincronizar_requisito_redmine`. -/
def sincronizarRequisitoRedmine (cfg : Config) (correlationId actor : String) (dryRun : Bool) :
    Processo ResultadoSync := do
  let issueId ← exigirIssueLink cfg
  let stateLink ← run .syncStateLink
  let stateBefore := stateLink.map LinhaEstado.titulo
  let lastJournalId := (stateBefore.map EstadoSync.lastJournalId).getD 0
  let issueBefore ← run (.obterIssue issueId)
  let changed := differing cfg.desired (ownedRemoteContent issueBefore)
  let (issue, applied) ← aplicarCampos issueId changed issueBefore dryRun
  let state := stateAfter cfg issue lastJournalId
  let executionChanged :=
    decide (stateBefore.map EstadoSync.executionFingerprint ≠ some state.executionFingerprint)
  let journals := newJournals issue lastJournalId
  let journalEvents := journals.filterMap fun j ↦ journalEvent cfg issueId j correlationId actor
  let stateChanged := decide (stateBefore ≠ some state)
  let evento := fun acao payload ↦
    ({ correlationId, usuario := actor, acao, payload } : AuditoriaEvento)
  if !dryRun && (applied || executionChanged || !journalEvents.isEmpty || stateChanged) then
    let eventos :=
      (if applied then [evento .redmineSyncReqsysToRedmine (.reqsysToRedmine issueId
          (sortedNames changed) state.reqsysFingerprint
          (cfg.fingerprintCampos (ownedRemoteContent issueBefore))
          (cfg.fingerprintCampos (ownedRemoteContent issue)))] else []) ++
      (if executionChanged then [evento .redmineSyncRedmineToReqsys (.redmineToReqsys issueId
          (changedExecution state.execution (stateBefore.map EstadoSync.execution))
          state.execution state.executionFingerprint)] else []) ++ journalEvents
    run (.gravarSync eventos (if stateChanged then some (stateLink.map LinhaEstado.id, state)
      else none))
  return {
    issueId, dryRun
    planned := !changed.isEmpty
    applied
    changedFields := sortedNames changed
    fingerprint := state.reqsysFingerprint
    executionChanged
    execution := state.execution
    executionFingerprint := state.executionFingerprint
    newJournalIds := journals.map Journal.id
    importedCommentCount := journalEvents.length
    lastJournalId := state.lastJournalId
    stateChanged
    mutationCount := if dryRun then 0 else
      applied.toNat + executionChanged.toNat + journalEvents.length + stateChanged.toNat }

end RedmineLifecycle

end ReqSys
