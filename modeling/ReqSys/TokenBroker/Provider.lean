import ReqSys.Foundation.Program
import ReqSys.TokenBroker.Tokens

/-!
# Token broker: refresh of the tokens

The broker stores one pair of tokens. `get_access_token` returns the access token while it is good
for a while, and else exchanges the refresh token for a new pair, which invalidates it at GitHub.
`seed_refresh_token` stores the first refresh token, if none is stored.

Both methods do this in a transaction that begins with `BEGIN IMMEDIATE`. Only one connection can be
in such a transaction, and the others give up after a while. The lock that the threads of one
process share orders what the database orders anyway; it is left out here.

GitHub issues refresh tokens that are good for one use. The answer to a refresh arrives, unless
there is no connection in the first place, and neither the writes in an open transaction nor its
commit fail. A call may stop for ever at any point, but its connection is not closed then.
-/

namespace ReqSys

namespace TokenBroker

namespace Provider

/-! ## GitHub -/

/-- The tokens that GitHub issues, one pair after the other. The first ones are those of the
authorisations; their refresh tokens are what the broker can be seeded with. -/
structure GitHub where
  refreshToken : ℕ → String
  accessToken : ℕ → String
  expiresIn : ℕ → ℤ
  refreshExpiresIn : ℕ → ℤ
  autorizados : ℕ
  refreshToken_injective : Function.Injective refreshToken
  refreshToken_ne : ∀ n, refreshToken n ≠ ""
  accessToken_ne : ∀ n, accessToken n ≠ ""
  expiresIn_pos : ∀ n, 0 < expiresIn n
  refreshExpiresIn_pos : ∀ n, 0 < refreshExpiresIn n

/-- The `n`-th pair. -/
def GitHub.par (gh : GitHub) (n : ℕ) : Par where
  accessToken := gh.accessToken n
  refreshToken := gh.refreshToken n
  expiresIn := gh.expiresIn n
  refreshExpiresIn := gh.refreshExpiresIn n

/-- What GitHub knows. -/
structure Registro where
  /-- How many pairs were issued. -/
  emitidos : ℕ
  /-- The refresh tokens that are good. -/
  vivos : List String
  /-- The refresh tokens that were presented. -/
  apresentados : List String := []

/-- A refresh token is presented. -/
def Registro.apresentar (gh : GitHub) (refreshToken : String) (g : Registro) :
    Registro × Response :=
  if refreshToken ∈ g.vivos then
    ({ emitidos := g.emitidos + 1
       vivos := g.vivos.filter (· ≠ refreshToken) ++ [gh.refreshToken g.emitidos]
       apresentados := g.apresentados ++ [refreshToken] },
      ⟨200, some (gh.par g.emitidos).toJson⟩)
  else
    ({ g with apresentados := g.apresentados ++ [refreshToken] },
      ⟨200, some (.obj [("error", .str "bad_refresh_token")])⟩)

/-! ## The store -/

structure TokenState where
  refreshToken : String
  accessToken : Option String := none
  accessExpiresAt : Option ℤ := none
  refreshExpiresAt : Option ℤ := none
  deriving DecidableEq

/-- The database, and GitHub. -/
structure Mundo where
  /-- The committed row of `token_state`, decrypted. -/
  row : Option TokenState := none
  /-- The call whose transaction is open, and the row as this transaction sees it. -/
  transaction : Option (ℕ × Option TokenState) := none
  github : Registro
  /-- The row as it was when a call last committed. -/
  ultimoCommit : ℕ → Option TokenState := fun _ ↦ none

inductive Erro
  | brokerNotReady (detail : String)
  /-- What the HTTP client raises. -/
  | httpx
  /-- What SQLite raises. -/
  | sqlite (mensagem : String)
  deriving DecidableEq

inductive Cmd
  /-- `BEGIN IMMEDIATE`. -/
  | begin
  /-- `SELECT` of the row. -/
  | select
  /-- `INSERT` of the row, or `UPDATE` if it is there. -/
  | replace (state : TokenState)
  | commit
  | rollback
  /-- `int(time.time())`. -/
  | now
  /-- The refresh token is sent to GitHub. -/
  | post (refreshToken : String)

abbrev Cmd.Ans : Cmd → Type
  | select => Option TokenState
  | now => ℤ
  | post _ => Response
  | begin | replace _ | commit | rollback => Unit

structure Env where
  now : ℤ := 0
  /-- What `BEGIN IMMEDIATE` or the reading of the row raises. -/
  falha : Option Erro := none
  semConexao : Bool := false

/-- What call `i` does to the world with a command, and the answer. -/
def exec (gh : GitHub) (i : ℕ) : (op : Cmd) → Env → Mundo → Mundo × Except Erro op.Ans
  | .begin, e, w =>
    match e.falha, w.transaction with
    | none, none => ({ w with transaction := some (i, w.row) }, .ok ())
    | some x, _ => (w, .error x)
    | none, some _ => (w, .error (.sqlite "database is locked"))
  | .select, e, w =>
    match e.falha, w.transaction with
    | none, some (_, vista) => (w, .ok vista)
    | none, none => (w, .ok w.row)
    | some x, _ => (w, .error x)
  | .replace state, _, w => ({ w with transaction := some (i, some state) }, .ok ())
  | .commit, _, w =>
    match w.transaction with
    | some (_, vista) =>
      ({ w with
          row := vista
          transaction := none
          ultimoCommit := Function.update w.ultimoCommit i vista }, .ok ())
    | none => (w, .ok ())
  | .rollback, _, w => ({ w with transaction := none }, .ok ())
  | .now, e, w => (w, .ok e.now)
  | .post refreshToken, e, w =>
    if e.semConexao then (w, .error .httpx)
    else ({ w with github := (w.github.apresentar gh refreshToken).1 },
      .ok (w.github.apresentar gh refreshToken).2)

/-- The world; a call that ends leaves it as it is. -/
def machine (gh : GitHub) : Machine Cmd.Ans Erro Mundo Env where
  exec := exec gh
  close _ w := w

/-! ## The methods -/

structure Config where
  py : Conversoes
  clientId : String
  clientSecret : String
  refreshSkewSeconds : ℤ

abbrev Processo := Program Cmd.Ans Erro

/-- One command. -/
def run (op : Cmd) : Processo op.Ans := .perform op

/-- Go on only if the condition holds. -/
def exigir (b : Bool) (detail : String) : Processo Unit :=
  if b then return () else .raise (.brokerNotReady detail)

/-- The answer to a refresh, with `None` for one that cannot be read. -/
def lerResposta (cfg : Config) (response : Response) : Option Par :=
  response.json.bind (lerPar cfg.py)

/-- What is stored of a pair. -/
def Par.novo (par : Par) (now : ℤ) : TokenState where
  refreshToken := par.refreshToken
  accessToken := some par.accessToken
  accessExpiresAt := some (now + par.expiresIn)
  refreshExpiresAt := some (now + par.refreshExpiresIn)

/-- The end of `_refresh`, with the answer. -/
def receber (cfg : Config) (response : Response) : Processo TokenState := do
  exigir (response.statusCode = 200) "github_refresh_rejected"
  match lerResposta cfg response with
  | none => .raise (.brokerNotReady "github_refresh_invalid_response")
  | some par => do
    exigir (par.accessToken ≠ "" && par.refreshToken ≠ "") "github_refresh_invalid_response"
    exigir (par.expiresIn > 0 && par.refreshExpiresIn > 0) "github_refresh_invalid_expiry"
    let now ← run .now
    return Par.novo par now

/-- `_refresh`. -/
def refresh (cfg : Config) (refreshToken : String) : Processo TokenState := do
  match ← (run (.post refreshToken)).attempt with
  | .error .httpx => .raise (.brokerNotReady "github_refresh_unavailable")
  | .error x => .raise x
  | .ok response => receber cfg response

/-- A time that is set. -/
def instante (t : Option ℤ) : Option ℤ := t.filter (· ≠ 0)

/-- The refresh token has expired. -/
def TokenState.expirado (state : TokenState) (now : ℤ) : Bool :=
  (instante state.refreshExpiresAt).any (· ≤ now)

/-- The access token, while it is good for long enough. -/
def TokenState.vigente (state : TokenState) (cfg : Config) (now : ℤ) : Option String :=
  if (instante state.accessExpiresAt).any (· > now + cfg.refreshSkewSeconds) then
    state.accessToken.filter (· ≠ "")
  else none

/-- The transaction of `get_access_token`. -/
def obterToken (cfg : Config) : Processo String := do
  match ← run .select with
  | none => .raise (.brokerNotReady "github_app_authorization_required")
  | some state => do
    exigir (state.refreshToken ≠ "") "github_app_authorization_required"
    let now ← run .now
    exigir (!state.expirado now) "github_refresh_token_expired"
    match state.vigente cfg now with
    | some accessToken => do
      run .commit
      return accessToken
    | none => do
      let refreshed ← refresh cfg state.refreshToken
      run (.replace refreshed)
      run .commit
      return refreshed.accessToken.getD ""

/-- `try: … except …: rollback`. -/
def emTransacao {α : Type} (p : Processo α) : Processo α := do
  run .begin
  match ← p.attempt with
  | .ok a => return a
  | .error x => do
    run .rollback
    .raise x

/-- `get_access_token`. -/
def getAccessToken (cfg : Config) : Processo String := do
  exigir (cfg.clientId ≠ "" && cfg.clientSecret ≠ "") "github_app_not_configured"
  emTransacao (obterToken cfg)

/-- The transaction of `seed_refresh_token`. -/
def semear (refreshToken : String) : Processo Unit := do
  match ← run .select with
  | some _ => run .commit
  | none => do
    run (.replace { refreshToken := refreshToken })
    run .commit

/-- `seed_refresh_token`. -/
def seedRefreshToken (refreshToken : String) : Processo Unit :=
  if refreshToken = "" then return () else emTransacao (semear refreshToken)

/-! ## Threads and processes -/

/-- A call. The broker is seeded with the refresh token of an authorisation, or with none. -/
inductive Pedido (gh : GitHub)
  | getAccessToken
  | seedRefreshToken (refreshToken : String)
      (emitido : refreshToken = "" ∨ ∃ k < gh.autorizados, refreshToken = gh.refreshToken k)

inductive Resposta
  | token (accessToken : String)
  | semeado
  deriving DecidableEq

def code (cfg : Config) (gh : GitHub) : Pedido gh → Processo Resposta
  | .getAccessToken => do
    let accessToken ← getAccessToken cfg
    return .token accessToken
  | .seedRefreshToken refreshToken _ => do
    seedRefreshToken refreshToken
    return .semeado

/-- No row, and GitHub after the authorisations. -/
def inicio (gh : GitHub) : Mundo where
  github := {
    emitidos := gh.autorizados
    vivos := (List.range gh.autorizados).map gh.refreshToken }

/-- The world and the calls running in it. -/
abbrev Processos := Pool Mundo (Processo Resposta)

/-- A move, with the outcome it delivers. -/
abbrev Passo (gh : GitHub) := Move (Pedido gh) Env × Option (Except Erro Resposta)

/-- Any number of calls over one store. -/
def chamadas (cfg : Config) (gh : GitHub) : TransitionSystem Processos (Passo gh) :=
  Pool.interleaving (inicio gh) (code cfg gh) (machine gh)

end Provider

end TokenBroker

end ReqSys
