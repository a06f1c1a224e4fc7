import ReqSys.Foundation.Program
import ReqSys.Foundation.PyText

/-!
# Session security: epochs of tokens

All tokens carry the epoch in which they were issued. One row of the database holds the current
epoch: `invalidate_all` raises it, and `validate_token_security` refuses the tokens of earlier
epochs.

Every call has a database session of its own. It reads the row, which it creates if there is none,
and `invalidate_all` writes the new epoch in a later transaction. Any number of calls run at once,
and a transaction may fail before or after its commit.
-/

namespace ReqSys

namespace SessionSecurity

/-! ## The row -/

/-- The singleton of `security_session_state`. -/
structure SecuritySessionState where
  sessionEpoch : ℕ := 0
  invalidatedAt : Option String := none
  invalidatedBy : Option String := none
  invalidationReason : Option String := none
  correlationId : Option String := none
  deriving DecidableEq

/-- The table: the row, if there is one. -/
abbrev Banco := Option SecuritySessionState

inductive Erro
  /-- What the database raises. -/
  | banco (mensagem : String)
  /-- There is a row already. -/
  | integrityError
  /-- No row was updated. -/
  | staleData
  /-- There is no row to refresh from. -/
  | invalidRequest
  deriving DecidableEq

inductive Cmd
  /-- `SELECT` of the row. -/
  | get
  /-- `INSERT` of the row, and commit. -/
  | insert (state : SecuritySessionState)
  /-- `UPDATE` of the columns that differ from what was loaded, and commit. -/
  | update (loaded state : SecuritySessionState)
  /-- `datetime.now`. -/
  | now

abbrev Cmd.Ans : Cmd → Type
  | get => Option SecuritySessionState
  | insert _ | update _ _ => Unit
  | now => String

/-- A transaction that failed. -/
structure Falha where
  /-- It was committed. -/
  aplicada : Bool
  mensagem : String

structure Env where
  now : String
  falha : Option Falha := none

/-- A column of an `UPDATE`. -/
def coluna {α : Type} [DecidableEq α] (loaded state current : α) : α :=
  if state = loaded then current else state

/-- The row after an `UPDATE`. -/
def SecuritySessionState.updated (loaded state current : SecuritySessionState) :
    SecuritySessionState where
  sessionEpoch := coluna loaded.sessionEpoch state.sessionEpoch current.sessionEpoch
  invalidatedAt := coluna loaded.invalidatedAt state.invalidatedAt current.invalidatedAt
  invalidatedBy := coluna loaded.invalidatedBy state.invalidatedBy current.invalidatedBy
  invalidationReason :=
    coluna loaded.invalidationReason state.invalidationReason current.invalidationReason
  correlationId := coluna loaded.correlationId state.correlationId current.correlationId

/-- The effect and the answer of a command. -/
def efeito (now : String) : (op : Cmd) → Banco → Banco × Except Erro op.Ans
  | .get, db => (db, .ok db)
  | .insert state, none => (some state, .ok ())
  | .insert _, some current => (some current, .error .integrityError)
  | .update loaded state, some current => (some (loaded.updated state current), .ok ())
  | .update _ _, none => (none, .error .staleData)
  | .now, db => (db, .ok now)

def exec (op : Cmd) (e : Env) (db : Banco) : Banco × Except Erro op.Ans :=
  match e.falha with
  | some f => (if f.aplicada then (efeito e.now op db).1 else db, .error (.banco f.mensagem))
  | none => efeito e.now op db

/-- The database; a session that is closed leaves it as it is. -/
def machine : Machine Cmd.Ans Erro Banco Env where
  exec _ := exec
  close _ db := db

/-! ## The service -/

/-- `authz_version` is the hash of the tables of permissions, which are constants of the code. -/
structure Config where
  authzVersion : String

abbrev Processo := Program Cmd.Ans Erro

/-- One command. -/
def run (op : Cmd) : Processo op.Ans := .perform op

/-- `db.refresh`. -/
def refresh : Processo SecuritySessionState := do
  match ← run .get with
  | some state => return state
  | none => .raise .invalidRequest

/-- `_get_or_create`. -/
def getOrCreate : Processo SecuritySessionState := do
  match ← run .get with
  | some state => return state
  | none => do
    run (.insert {})
    refresh

structure SessionSecuritySnapshot extends SecuritySessionState where
  authzVersion : String

/-- `snapshot`. -/
def snapshot (cfg : Config) : Processo SessionSecuritySnapshot := do
  let state ← getOrCreate
  return { toSecuritySessionState := state, authzVersion := cfg.authzVersion }

/-- What `invalidate_all` is called with. -/
structure Invalidacao where
  actor : String
  reason : String
  correlationId : String

/-- The row of the next epoch. -/
def SecuritySessionState.invalidado (state : SecuritySessionState) (x : Invalidacao)
    (now : String) : SecuritySessionState where
  sessionEpoch := state.sessionEpoch + 1
  invalidatedAt := some now
  invalidatedBy := some (PyText.take 200 x.actor)
  invalidationReason := some (PyText.take 1000 x.reason)
  correlationId := some (PyText.take 120 x.correlationId)

/-- `invalidate_all`. -/
def invalidateAll (cfg : Config) (x : Invalidacao) : Processo SessionSecuritySnapshot := do
  let state ← getOrCreate
  let now ← run .now
  run (.update state (state.invalidado x now))
  let state ← refresh
  return { toSecuritySessionState := state, authzVersion := cfg.authzVersion }

/-- `token_security_claims`. -/
def tokenSecurityClaims (cfg : Config) : Processo (ℕ × String) := do
  let state ← snapshot cfg
  return (state.sessionEpoch, state.authzVersion)

/-- The security claims of a token, if it has them. -/
structure Token where
  sessionEpoch : Option ℤ := none
  authzVersion : Option String := none
  deriving DecidableEq

/-- `int(payload.get('session_epoch', 0) or 0)`. -/
def Token.epoch (token : Token) : ℤ := token.sessionEpoch.getD 0

/-- Whether a token is valid, and why it is not. -/
abbrev Validade := Bool × Option String

def revogado : Validade := (false, some "SESSION_REVOKED")

/-- The decision of `validate_token_security`. -/
def SessionSecuritySnapshot.validar (state : SessionSecuritySnapshot) (token : Token) : Validade :=
  if token.epoch < state.sessionEpoch then revogado
  else if PyText.truthy token.authzVersion ∧ token.authzVersion ≠ some state.authzVersion then
    (false, some "AUTHORIZATION_CHANGED")
  else (true, none)

/-- `validate_token_security`. -/
def validateTokenSecurity (cfg : Config) (token : Token) : Processo Validade := do
  let state ← snapshot cfg
  return state.validar token

/-! ## Concurrent calls -/

inductive Chamada
  | invalidateAll (x : Invalidacao)
  | tokenSecurityClaims
  | validateTokenSecurity (token : Token)

inductive Resposta
  | invalidada (state : SessionSecuritySnapshot)
  | claims (sessionEpoch : ℕ) (authzVersion : String)
  /-- What was found of this token. -/
  | validade (token : Token) (v : Validade)

def code (cfg : Config) : Chamada → Processo Resposta
  | .invalidateAll x => do
    let state ← invalidateAll cfg x
    return .invalidada state
  | .tokenSecurityClaims => do
    let (sessionEpoch, authzVersion) ← tokenSecurityClaims cfg
    return .claims sessionEpoch authzVersion
  | .validateTokenSecurity token => do
    let v ← validateTokenSecurity cfg token
    return .validade token v

/-- The database and the calls running over it. -/
abbrev Processos := Pool Banco (Processo Resposta)

/-- A move, with the outcome it delivers. -/
abbrev Passo := Move Chamada Env × Option (Except Erro Resposta)

/-- Any number of calls over one database, which is empty at first. -/
def sessoes (cfg : Config) : TransitionSystem Processos Passo :=
  Pool.interleaving none (code cfg) machine

end SessionSecurity

end ReqSys
