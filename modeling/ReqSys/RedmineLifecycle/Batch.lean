import ReqSys.RedmineLifecycle.Sync

/-!
# Redmine lifecycle: the batch

`reconciliar_requisito` synchronises one requirement under a lock that it keeps in the control row,
and records there whether that failed, when to try again and whether the requirement is in
quarantine. The row is created by the first session that needs it; two sessions may do so at once,
and then the row with the least number counts and the other one is removed by who has inserted it.
The lock is taken and returned by a compare-and-swap on the text of the row.
-/

namespace ReqSys

namespace RedmineLifecycle

/-! ## Times -/

/-- The instant without its microseconds. -/
def aoSegundo (value : DateTime) : DateTime :=
  { value with microsecond := 0, microsecond_lt := (Nat.zero_le _).trans_lt value.microsecond_lt }

/-- `_iso`. -/
def iso (value : DateTime) : String := (aoSegundo value).iso

/-- `_parse`. -/
def parse (value : Option String) : Option DateTime := value.bind DateTime.parseIso

/-- `a + timedelta(minutes=m)`. -/
def maisMinutos (a : DateTime) (m : ℤ) : Processo DateTime :=
  match a.addSeconds (m * 60) with
  | some b => return b
  | none => .raise (.outro "OverflowError")

/-- The instant is set and after now. -/
def depoisDe (value : Option DateTime) (agora : DateTime) : Bool := value.any fun t ↦ !(t ≤ agora)

/-- The control has a lock that has not expired. -/
def Controle.vigente (control : Controle) (agora : DateTime) : Bool :=
  control.lock.any fun lock ↦ depoisDe (parse (some lock.expiresAt)) agora

def maxErrorChars : ℕ := 500

/-- `_backoff_minutos`. -/
def backoffMinutos (attempts : ℕ) (baseMinutos maxMinutos : ℤ) : ℤ :=
  min (max 1 baseMinutos * 2 ^ min (attempts - 1) 16) (max 1 maxMinutos)

/-! ## The control row -/

/-- `_ensure_control_link`: the number of the row that counts. -/
def ensureControlLink : Processo ℕ := do
  match ← run .controlLinks with
  | existing :: _ => return existing
  | [] => do
    let criado ← run (.inserir {})
    run .commit
    match ← run .controlLinks with
    | [] => .raise (.outro "IndexError")
    | canonical :: _ => do
      if canonical ≠ criado then run (.excluir criado)
      return canonical

/-- `_swap_control`. -/
def swapControl (fase : Fase) (link : ℕ) (rawBefore control : Controle) : Processo Bool := do
  let updated ← run (.swap fase link rawBefore control)
  run (.refresh link)
  return updated = 1

/-- `_acquire_lock`. -/
def acquireLock (link : ℕ) (owner correlationId : String) (lockTimeoutMinutos : ℤ)
    (agora : DateTime) : Processo (Bool × Controle) := do
  let rawBefore ← run (.titulo link)
  if rawBefore.vigente agora then return (false, rawBefore)
  else do
    let expira ← maisMinutos agora (max 1 lockTimeoutMinutos)
    let control := { rawBefore with
      lock := some {
        owner, correlationId
        acquiredAt := iso agora
        expiresAt := iso expira } }
    if ← swapControl .adquirir link rawBefore control then return (true, control)
    else return (false, ← run (.titulo link))

/-- `_release_lock`. -/
def releaseLock (link : ℕ) (control : Controle) : Processo Unit := do
  let rawBefore ← run (.titulo link)
  let _ ← swapControl .devolver link rawBefore { control with lock := none }

/-! ## The method -/

inductive Outcome
  | sincronizado | puladoLock | puladoBackoff | puladoQuarentena | quarentenado | falhou | dryRun
  deriving DecidableEq

/-- What `reconciliar_requisito` returns, besides the requirement. -/
structure Resposta where
  outcome : Outcome
  redmineIssueId : Option ℤ := none
  errorType : Option String := none
  errorRef : Option String := none
  attempts : ℕ
  quarantined : Bool
  nextAttemptAt : Option String := none
  quarantineReason : Option String := none
  lockOwner : Option String := none
  wouldProcess : Option Bool := none
  backoffMinutos : Option ℤ := none
  mutationCount : Option ℕ := none
  sync : Option ResultadoSync := none

/-- The arguments of a call. -/
structure Pedido where
  correlationId : String
  actor : String
  dryRun : Bool := false
  incluirQuarentena : Bool := false
  lockTimeoutMinutos : ℤ := 10
  maxTentativas : ℤ := 5
  backoffBaseMinutos : ℤ := 5
  backoffMaxMinutos : ℤ := 240

/-- The name of the exceptions that the batch handles, and their text. -/
def Erro.tratado : Erro → Option (String × String)
  | .redmineLifecycleSyncError mensagem => some ("RedmineLifecycleSyncError", mensagem)
  | .integracaoError mensagem => some ("IntegracaoError", mensagem)
  | .outro _ => none

/-- The answer to a dry run. -/
def responderDryRun (issueId : ℤ) (agora : DateTime) : Processo Resposta := do
  let links ← run .controlLinks
  let control ← match links with
    | [] => pure ({} : Controle)
    | link :: _ => run (.titulo link)
  return {
    outcome := .dryRun
    redmineIssueId := some issueId
    wouldProcess := some (!control.quarantined && !depoisDe (parse control.nextAttemptAt) agora)
    attempts := control.attempts
    quarantined := control.quarantined
    nextAttemptAt := control.nextAttemptAt
    mutationCount := some 0 }

/-- When to try again, unless the requirement goes into quarantine. -/
def proximaTentativa (ped : Pedido) (attempts : ℕ) (quarentenado : Bool) (agora : DateTime) :
    Processo (Option ℤ × Option String) :=
  if quarentenado then return (none, none)
  else do
    let proximoEm := backoffMinutos attempts ped.backoffBaseMinutos ped.backoffMaxMinutos
    let nextAttemptAt ← maisMinutos agora proximoEm
    return (some proximoEm, some (iso nextAttemptAt))

/-- The control after a failure. -/
def Controle.comFalha (control : Controle) (ped : Pedido) (attempts : ℕ) (erro : String)
    (quarentenado : Bool) (nextAttemptAt : Option String) (agora : DateTime) : Controle :=
  { control with
    attempts := attempts
    lastError := some erro
    lastErrorAt := some (iso agora)
    lastCorrelationId := some ped.correlationId
    quarantined := quarentenado || control.quarantined
    quarantineReason := if quarentenado then some erro else control.quarantineReason
    quarantinedAt := if quarentenado then some (iso agora) else control.quarantinedAt
    nextAttemptAt := nextAttemptAt }

/-- The control after a success. -/
def Controle.comSucesso (control : Controle) (ped : Pedido) (agora : DateTime) : Controle :=
  { control with
    attempts := 0
    lastError := none
    lastErrorAt := none
    nextAttemptAt := none
    lastSuccessAt := some (iso agora)
    lastCorrelationId := some ped.correlationId }

/-- The synchronisation has failed. -/
def registrarFalha (ped : Pedido) (issueId : ℤ) (link : ℕ) (control : Controle)
    (tipo mensagem : String) (agora : DateTime) : Processo Resposta := do
  let attempts := control.attempts + 1
  let erro := PyText.take maxErrorChars mensagem
  let quarentenado := decide (max 1 ped.maxTentativas ≤ attempts)
  let (proximoEm, nextAttemptAt) ← proximaTentativa ped attempts quarentenado agora
  releaseLock link (control.comFalha ped attempts erro quarentenado nextAttemptAt agora)
  run (.audit {
    correlationId := ped.correlationId
    usuario := ped.actor
    acao := if quarentenado then .redmineSyncQuarentena else .redmineSyncFalha
    payload := .falha issueId attempts ped.maxTentativas erro quarentenado nextAttemptAt
      proximoEm })
  return {
    outcome := if quarentenado then .quarentenado else .falhou
    redmineIssueId := some issueId
    errorType := some tipo
    errorRef := some ped.correlationId
    attempts
    quarantined := quarentenado
    nextAttemptAt
    backoffMinutos := proximoEm }

/-- The synchronisation under the lock, and what is recorded of it. -/
def sincronizarComLock (cfg : Config) (ped : Pedido) (issueId : ℤ) (link : ℕ) (control : Controle)
    (agora : DateTime) : Processo Resposta := do
  match ← (sincronizarRequisitoRedmine cfg ped.correlationId ped.actor false).attempt with
  | .error x =>
    match x.tratado with
    | none => .raise x
    | some (tipo, mensagem) => registrarFalha ped issueId link control tipo mensagem agora
  | .ok resultado => do
    releaseLock link (control.comSucesso ped agora)
    return {
      outcome := .sincronizado
      redmineIssueId := some issueId
      attempts := 0
      quarantined := false
      mutationCount := some resultado.mutationCount
      sync := some resultado }

/-- What follows once the control row is there. -/
def reconciliarLinha (cfg : Config) (ped : Pedido) (workerId : String) (issueId : ℤ)
    (agora : DateTime) : Processo Resposta := do
  let link ← ensureControlLink
  let control ← run (.titulo link)
  if control.quarantined && !ped.incluirQuarentena then
    return {
      outcome := .puladoQuarentena
      redmineIssueId := some issueId
      attempts := control.attempts
      quarantined := true
      quarantineReason := control.quarantineReason }
  else if depoisDe (parse control.nextAttemptAt) agora then
    return {
      outcome := .puladoBackoff
      redmineIssueId := some issueId
      attempts := control.attempts
      quarantined := false
      nextAttemptAt := control.nextAttemptAt }
  else do
    let (acquired, control) ←
      acquireLock link workerId ped.correlationId ped.lockTimeoutMinutos agora
    if acquired then sincronizarComLock cfg ped issueId link control agora
    else
      return {
        outcome := .puladoLock
        redmineIssueId := some issueId
        attempts := control.attempts
        quarantined := control.quarantined
        lockOwner := control.lock.map Lock.owner }

/-- The answer when there is no issue. -/
def semIssue (ped : Pedido) (errorType : String) : Resposta where
  outcome := .falhou
  errorType := some errorType
  errorRef := some ped.correlationId
  attempts := 0
  quarantined := false

/-- `reconciliar_requisito`, in a session of its own; the time and the worker are its own. -/
def reconciliarRequisito (cfg : Config) (ped : Pedido) : Processo Resposta := do
  run .abrir
  let agora ← run .now
  let n ← run .uuid4
  let workerId := "worker-" ++ cfg.uuid n
  match ← run .issueLink with
  | none => return semIssue ped "vinculo_ausente"
  | some issueLink =>
    let issueId := (cfg.int issueLink.referencia).getD 0
    if issueId ≤ 0 then return semIssue ped "vinculo_invalido"
    else if ped.dryRun then responderDryRun issueId agora
    else reconciliarLinha cfg ped workerId issueId agora

/-! ## Sessions -/

/-- The table and the calls running on it. -/
abbrev Processos := Pool Banco (Processo Resposta)

/-- A move, with the outcome it delivers. -/
abbrev Passo := Move Pedido Env × Option (Except Erro Resposta)

/-- Any number of sessions, starting without control rows. -/
def reconciliacoes (cfg : Config) (relogio : DateTime) : TransitionSystem Processos Passo :=
  Pool.interleaving { relogio } (reconciliarRequisito cfg) (machine cfg.issueLink)

end RedmineLifecycle

end ReqSys
