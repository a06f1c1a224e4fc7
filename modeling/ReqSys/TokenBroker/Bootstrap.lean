import ReqSys.Foundation.Program
import ReqSys.Foundation.PyText
import ReqSys.Foundation.Table
import ReqSys.TokenBroker.Tokens

/-!
# Token broker: the bootstrap of the GitHub App

Four requests lead from nothing to authorised tokens. `bootstrap_start` shows a form, the manifest
callback stores the credentials of the App that was created, the install callback sends the user to
the authorisation, and the OAuth callback exchanges its code for tokens and stores them. Each
request after the first brings a state that the one before it has created, and that is consumed
once.

Every access to SQLite is a transaction of its own, and the requests to GitHub lie between them. Any
number of clients send requests, in any order.
-/

namespace ReqSys

namespace TokenBroker

namespace Bootstrap

/-! ## The store -/

structure AppCredentials where
  appId : ℤ
  slug : String
  clientId : String
  clientSecret : String
  deriving DecidableEq

structure AuthorizedTokenState where
  refreshToken : String
  accessToken : String
  accessExpiresAt : ℤ
  refreshExpiresAt : ℤ
  deriving DecidableEq

/-- A row of `bootstrap_state`. -/
structure BootstrapState where
  stateHash : String
  purpose : String
  context : Option String
  expiresAt : ℤ
  consumedAt : Option ℤ := none
  deriving DecidableEq

/-- `BootstrapStore`, with what is decrypted. -/
structure BootstrapStore where
  appCredentials : Option AppCredentials := none
  tokenState : Option AuthorizedTokenState := none
  states : List BootstrapState := []
  /-- No column: the `client_id` with which the stored tokens were obtained. -/
  obtidoCom : Option String := none

inductive Erro
  | bootstrap (detail : String)
  | http (status : ℕ) (detail : String)
  /-- What the HTTP client raises. -/
  | httpx (mensagem : String)
  /-- Any other exception. -/
  | outro (mensagem : String)
  deriving DecidableEq

/-! ## Commands -/

inductive Cmd
  /-- `int(time.time())`. -/
  | now
  /-- `secrets.token_urlsafe(32)`. -/
  | tokenUrlsafe
  | hasAuthorizedTokens
  | insertState (row : BootstrapState)
  /-- The transaction of `consume_state`. -/
  | consumeState (stateHash purpose : String) (now : ℤ)
  | saveAppCredentials (credentials : AppCredentials)
  | loadAppCredentials
  /-- `save_authorized_tokens`, of tokens obtained with this `client_id`. -/
  | saveAuthorizedTokens (tokenState : AuthorizedTokenState) (clientId : String)
  | postManifest (code : String)
  | postToken (clientId clientSecret code : String)
  | getRepositories (accessToken : String) (installationId : ℤ) (page : ℕ)
  | onAuthorized

abbrev Cmd.Ans : Cmd → Type
  | now => ℤ
  | tokenUrlsafe => String
  | hasAuthorizedTokens => Bool
  | consumeState _ _ _ => Option String
  | loadAppCredentials => Option AppCredentials
  | postManifest _ | postToken _ _ _ | getRepositories _ _ _ => Response
  | insertState _ | saveAppCredentials _ | saveAuthorizedTokens _ _ | onAuthorized => Unit

/-- A command that failed. -/
structure Falha where
  /-- It took effect. -/
  aplicada : Bool
  erro : Erro

structure Env where
  now : ℤ := 0
  token : String := ""
  response : Response := ⟨500, none⟩
  falha : Option Falha := none

/-- The state may be consumed. -/
def BootstrapState.Aceito (row : BootstrapState) (purpose : String) (now : ℤ) : Prop :=
  row.purpose = purpose ∧ row.consumedAt = none ∧ now ≤ row.expiresAt

instance (row : BootstrapState) (purpose : String) (now : ℤ) : Decidable (row.Aceito purpose now) :=
  inferInstanceAs (Decidable (_ ∧ _ ∧ _))

/-- The row with this hash. -/
def BootstrapStore.state (s : BootstrapStore) (stateHash : String) : Option BootstrapState :=
  Table.lookup BootstrapState.stateHash stateHash s.states

/-- The effect and the answer of a command. -/
def efeito (e : Env) : (op : Cmd) → BootstrapStore → BootstrapStore × Except Erro op.Ans
  | .now, s => (s, .ok e.now)
  | .tokenUrlsafe, s => (s, .ok e.token)
  | .hasAuthorizedTokens, s => (s, .ok s.tokenState.isSome)
  | .insertState row, s =>
    match s.state row.stateHash with
    | some _ => (s, .error (.outro "UNIQUE constraint failed: bootstrap_state.state_hash"))
    | none => ({ s with states := s.states ++ [row] }, .ok ())
  | .consumeState stateHash purpose now, s =>
    match s.state stateHash with
    | some row =>
      if row.Aceito purpose now then
        ({ s with
          states := Table.update BootstrapState.stateHash stateHash
            (fun row ↦ { row with consumedAt := some now }) s.states }, .ok row.context)
      else (s, .error (.bootstrap "bootstrap_state_rejected"))
    | none => (s, .error (.bootstrap "bootstrap_state_rejected"))
  | .saveAppCredentials credentials, s => ({ s with appCredentials := some credentials }, .ok ())
  | .loadAppCredentials, s => (s, .ok s.appCredentials)
  | .saveAuthorizedTokens tokenState clientId, s =>
    ({ s with tokenState := some tokenState, obtidoCom := some clientId }, .ok ())
  | .postManifest _, s | .postToken _ _ _, s | .getRepositories _ _ _, s => (s, .ok e.response)
  | .onAuthorized, s => (s, .ok ())

def exec (op : Cmd) (e : Env) (s : BootstrapStore) : BootstrapStore × Except Erro op.Ans :=
  match e.falha with
  | some f => (if f.aplicada then (efeito e op s).1 else s, .error f.erro)
  | none => efeito e op s

/-- SQLite and GitHub; a request that ends leaves everything as it is. -/
def machine : Machine Cmd.Ans Erro BootstrapStore Env where
  exec _ := exec
  close _ s := s

/-! ## The methods -/

structure Config where
  py : Conversoes
  unicode : Unicode
  sha256 : String → String
  bootstrapEnabled : Bool
  publicBaseUrl : String
  githubAppManifestPermission : String
  /-- `Fernet` accepts the key. -/
  chaveValida : Bool
  bootstrapStateTtlSeconds : ℤ
  allowedRepository : String

abbrev Processo := Program Cmd.Ans Erro

/-- One command. -/
def run (op : Cmd) : Processo op.Ans := .perform op

/-- Go on only if the condition holds. -/
def exigir (b : Bool) (x : Erro) : Processo Unit := if b then return () else .raise x

/-- `try: … except …: raise …`. -/
def tratar {α : Type} (p : Processo α) (trata : Erro → Erro) : Processo α := do
  match ← p.attempt with
  | .ok a => return a
  | .error x => .raise (trata x)

/-- A `BootstrapError` becomes this answer. -/
def Erro.deBootstrap (status : ℕ) (detail : String) : Erro → Erro
  | .bootstrap _ => .http status detail
  | x => x

/-- A `BootstrapError` becomes an answer with its text. -/
def Erro.comTexto (status : ℕ) : Erro → Erro
  | .bootstrap detail => .http status detail
  | x => x

/-- An error of the HTTP client becomes this one. -/
def Erro.deHttpx (y : Erro) : Erro → Erro
  | .httpx _ => y
  | x => x

/-- `response.json()`, with what it raises. -/
def corpo (response : Response) (x : Erro) : Processo Json :=
  match response.json with
  | some payload => return payload
  | none => .raise x

/-- What `response.json()` raises. -/
def jsonDecodeError : Erro := .outro "JSONDecodeError"

/-- `create_state`. -/
def createState (cfg : Config) (purpose : String) (ttlSeconds : ℤ) (context : Option String) :
    Processo String := do
  exigir (ttlSeconds > 0) (.bootstrap "invalid_bootstrap_state_ttl")
  let rawState ← run .tokenUrlsafe
  let now ← run .now
  run (.insertState {
    stateHash := cfg.sha256 rawState
    purpose := purpose
    context := context
    expiresAt := now + ttlSeconds })
  return rawState

/-- `consume_state`. -/
def consumeState (cfg : Config) (rawState purpose : String) : Processo (Option String) := do
  exigir (rawState ≠ "") (.bootstrap "missing_bootstrap_state")
  let now ← run .now
  run (.consumeState (cfg.sha256 rawState) purpose now)

/-- `load_app_credentials`. -/
def loadAppCredentials : Processo (Option AppCredentials) := do
  let row ← run .loadAppCredentials
  exigir (row.all fun c ↦ c.clientId ≠ "" && c.clientSecret ≠ "")
    (.bootstrap "github_app_credentials_invalid")
  return row

/-- `[a-z0-9_]`. -/
def permissionChar (c : Char) : Bool := c.isLower || c.isDigit || c == '_'

/-- `base_url`. -/
def Config.baseUrl (cfg : Config) : String :=
  String.ofList (cfg.publicBaseUrl.toList.rdropWhile (· == '/'))

/-- `_require_enabled`. -/
def requireEnabled (cfg : Config) : Processo Unit := do
  exigir cfg.bootstrapEnabled (.http 404 "not_found")
  exigir (PyText.startsWith "https://" cfg.baseUrl) (.http 503 "bootstrap_not_configured")
  exigir (cfg.githubAppManifestPermission ≠ "" &&
      cfg.githubAppManifestPermission.toList.all permissionChar)
    (.http 503 "bootstrap_not_configured")
  exigir cfg.chaveValida (.http 503 "bootstrap_not_configured")

/-- `_parse_manifest_credentials`. -/
def parseManifestCredentials (cfg : Config) (payload : Json) : Processo AppCredentials :=
  match payload with
  | .obj entries =>
    let texto := fun key ↦ cfg.py.str ((Json.get key entries).orElse (.str ""))
    match cfg.py.int ((Json.get "id" entries).orElse (.num 0)) with
    | none => .raise (.bootstrap "github_manifest_invalid_response")
    | some appId => do
      let credentials : AppCredentials := {
        appId := appId
        slug := texto "slug"
        clientId := texto "client_id"
        clientSecret := texto "client_secret" }
      exigir (credentials.appId > 0 && credentials.slug ≠ "" && credentials.clientId ≠ "" &&
        credentials.clientSecret ≠ "") (.bootstrap "github_manifest_invalid_response")
      return credentials
  | _ => .raise (.bootstrap "github_manifest_invalid_response")

/-- `_parse_oauth_tokens`. -/
def parseOauthTokens (cfg : Config) (payload : Json) : Processo AuthorizedTokenState :=
  match lerPar cfg.py payload with
  | none => .raise (.bootstrap "github_oauth_invalid_response")
  | some par => do
    exigir (par.accessToken ≠ "" && par.refreshToken ≠ "" && par.expiresIn > 0 &&
      par.refreshExpiresIn > 0) (.bootstrap "github_oauth_invalid_response")
    let now ← run .now
    return {
      refreshToken := par.refreshToken
      accessToken := par.accessToken
      accessExpiresAt := now + par.expiresIn
      refreshExpiresAt := now + par.refreshExpiresIn }

/-- The list of repositories on a page, and `total_count`. -/
def lerRepositories (payload : Json) : Option (List Json × Json) :=
  match payload with
  | .obj entries =>
    match Json.get "repositories" entries with
    | .arr repositories => some (repositories, Json.get "total_count" entries)
    | _ => none
  | _ => none

/-- The repository that has to be reached. -/
def Config.ehPermitido (cfg : Config) (repository : Json) : Bool :=
  match repository with
  | .obj entries => Json.pyEq (Json.get "full_name" entries) (.str cfg.allowedRepository)
  | _ => false

/-- The pages that `_verify_repository_installation` has still to read. -/
def verifyPages (cfg : Config) (accessToken : String) (installationId : ℤ) :
    List ℕ → Processo Unit
  | [] => .raise (.bootstrap "github_app_repository_access_required")
  | page :: pages => do
    let response ← tratar (run (.getRepositories accessToken installationId page))
      (Erro.deHttpx (.bootstrap "github_installation_verification_unavailable"))
    exigir (response.statusCode = 200) (.bootstrap "github_installation_verification_rejected")
    let payload ← corpo response
      (.bootstrap "github_installation_verification_invalid_response")
    match lerRepositories payload with
    | none => .raise (.bootstrap "github_installation_verification_invalid_response")
    | some (repositories, totalCount) => do
      exigir (!(cfg.py.isInt totalCount && !Json.pyEq totalCount (.num 1)))
        (.bootstrap "github_app_repository_scope_too_broad")
      if repositories.any cfg.ehPermitido then return ()
      else if repositories.length < 100 then
        .raise (.bootstrap "github_app_repository_access_required")
      else verifyPages cfg accessToken installationId pages

/-- `_verify_repository_installation`. -/
def verifyRepositoryInstallation (cfg : Config) (accessToken : String) (installationId : ℤ) :
    Processo Unit := verifyPages cfg accessToken installationId (List.range' 1 100)

/-! ## The requests -/

inductive Pedido
  | bootstrapStart
  | manifestCallback (code csrfState : String)
  | installCallback (installationId : ℤ) (installState : Option String)
  | oauthCallback (code csrfState : String)

inductive Resposta
  /-- The form, whose action has the state. -/
  | form (csrfState : String)
  /-- To the installation of the App, with the state in a cookie. -/
  | install (slug installState : String)
  /-- To the authorisation, with the state in the URL. -/
  | authorize (clientId oauthState : String)
  | ready

/-- The checks of a text in the query. -/
def queryText (s : String) : Processo Unit :=
  exigir (1 ≤ s.length && s.length ≤ 500) (.http 422 "")

/-- `code.isalnum()`. -/
def isalnum (cfg : Config) (s : String) : Bool := s ≠ "" && s.toList.all cfg.unicode.isAlnum

/-- `bootstrap_start`. -/
def bootstrapStart (cfg : Config) : Processo Resposta := do
  requireEnabled cfg
  if ← run .hasAuthorizedTokens then .raise (.http 409 "github_app_already_authorized")
  else do
    let csrfState ← createState cfg "manifest" cfg.bootstrapStateTtlSeconds none
    return .form csrfState

/-- `manifest_callback`. -/
def manifestCallback (cfg : Config) (code csrfState : String) : Processo Resposta := do
  queryText code
  queryText csrfState
  requireEnabled cfg
  let _ ← tratar (consumeState cfg csrfState "manifest")
    (Erro.deBootstrap 400 "bootstrap_state_rejected")
  exigir (isalnum cfg code) (.http 400 "github_manifest_code_rejected")
  let response ← tratar (run (.postManifest code))
    (Erro.deHttpx (.http 502 "github_manifest_unavailable"))
  exigir (response.statusCode = 201) (.http 502 "github_manifest_rejected")
  let payload ← corpo response jsonDecodeError
  let credentials ← tratar (parseManifestCredentials cfg payload)
    (Erro.deBootstrap 502 "github_manifest_invalid_response")
  run (.saveAppCredentials credentials)
  let installState ← createState cfg "installation" cfg.bootstrapStateTtlSeconds none
  return .install credentials.slug installState

/-- `install_callback`. -/
def installCallback (cfg : Config) (installationId : ℤ) (installState : Option String) :
    Processo Resposta := do
  exigir (installationId > 0) (.http 422 "")
  requireEnabled cfg
  let row ← tratar (do
      let _ ← consumeState cfg (installState.getD "") "installation"
      loadAppCredentials)
    (Erro.deBootstrap 400 "bootstrap_state_rejected")
  match row with
  | none => .raise (.http 409 "github_app_not_configured")
  | some credentials => do
    let oauthState ← createState cfg "oauth" cfg.bootstrapStateTtlSeconds
      (some (PyText.intRepr installationId))
    return .authorize credentials.clientId oauthState

/-- `int(installation_context or '0')`. -/
def installationId (context : Option String) : Processo ℤ :=
  match lerInteiro (if PyText.truthy context then context.getD "" else "0") with
  | some n => return n
  | none => .raise (.http 400 "bootstrap_state_rejected")

/-- `oauth_callback`. -/
def oauthCallback (cfg : Config) (code csrfState : String) : Processo Resposta := do
  queryText code
  queryText csrfState
  requireEnabled cfg
  let (installationId, row) ← tratar (do
      let context ← consumeState cfg csrfState "oauth"
      let installationId ← installationId context
      let row ← loadAppCredentials
      return (installationId, row))
    (Erro.deBootstrap 400 "bootstrap_state_rejected")
  exigir (installationId > 0) (.http 409 "github_app_not_configured")
  match row with
  | none => .raise (.http 409 "github_app_not_configured")
  | some credentials => do
    let response ← tratar (run (.postToken credentials.clientId credentials.clientSecret code))
      (Erro.deHttpx (.http 502 "github_oauth_unavailable"))
    exigir (response.statusCode = 200) (.http 502 "github_oauth_rejected")
    let payload ← corpo response jsonDecodeError
    let tokenState ← tratar (do
        let tokenState ← parseOauthTokens cfg payload
        verifyRepositoryInstallation cfg tokenState.accessToken installationId
        return tokenState)
      (Erro.comTexto 502)
    run (.saveAuthorizedTokens tokenState credentials.clientId)
    run .onAuthorized
    return .ready

def code (cfg : Config) : Pedido → Processo Resposta
  | .bootstrapStart => bootstrapStart cfg
  | .manifestCallback code csrfState => manifestCallback cfg code csrfState
  | .installCallback installationId installState => installCallback cfg installationId installState
  | .oauthCallback code csrfState => oauthCallback cfg code csrfState

/-- The store and the requests running over it. -/
abbrev Processos := Pool BootstrapStore (Processo Resposta)

/-- A move, with the outcome it delivers. -/
abbrev Passo := Move Pedido Env × Option (Except Erro Resposta)

/-- Any number of requests over one store, which is empty at first. -/
def clientes (cfg : Config) : TransitionSystem Processos Passo :=
  Pool.interleaving {} (code cfg) machine

end Bootstrap

end TokenBroker

end ReqSys
