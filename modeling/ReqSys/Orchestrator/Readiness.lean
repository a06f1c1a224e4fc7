import ReqSys.Foundation.Checked
import ReqSys.Foundation.PyJson
import ReqSys.Foundation.PyText

/-!
# Orchestrator: readiness as code

A manifest lists the capabilities that an environment needs. Those with source `env` are configured
when the variables they refer to are set, the others say themselves whether they are.

Everything that is stored is searched for keys that look like secrets first. The assessment of a
manifest passes this search whenever the references of its capabilities do
(`Assessment.safe_toJson`): its own keys are harmless.
-/

namespace ReqSys

namespace Orchestrator

inductive Erro
  | orchestratorError (mensagem : String)
  | manifestError (mensagem : String)
  /-- `OperationalActionIdentityConflictError`. -/
  | identityConflict
  | keyError (actionId : String)
  | typeError
  /-- What the database raises, or the reading of the manifest. -/
  | externo (mensagem : String)
  deriving DecidableEq

/-- The hash of the canonical text of a value, the text that `str` gives for what is no string, and
the letter-case tables. -/
structure Config where
  sha256 : Json → String
  repr : Json → String
  unicode : Unicode

/-- `str(x)`. -/
def Config.str (cfg : Config) : Json → String
  | .str s => s
  | x => cfg.repr x

/-! ## Safe metadata -/

def sensitiveKeyMarkers : List String :=
  ["token", "secret", "password", "authorization", "api_key", "credential"]

/-- `any(marker in normalized for marker in _SENSITIVE_KEY_MARKERS)`. -/
def Config.sensivel (cfg : Config) (key : String) : Bool :=
  sensitiveKeyMarkers.any fun marker ↦ PyText.contains marker (cfg.unicode.lower key)

section Safe

variable (cfg : Config)

mutual

/-- `_assert_safe_metadata`. -/
def assertSafeMetadata : Json → String → Except Erro Unit
  | .obj entries, path => assertSafeEntries entries path
  | .arr items, path => assertSafeItems items path 0
  | .null, _ | .bool _, _ | .num _, _ | .str _, _ => .ok ()
termination_by structural x => x

def assertSafeEntries : List (String × Json) → String → Except Erro Unit
  | [], _ => .ok ()
  | entry :: entries, path => do
    assertSafeEntry entry path
    assertSafeEntries entries path
termination_by structural entries => entries

def assertSafeEntry : String × Json → String → Except Erro Unit
  | (key, child), path =>
    if cfg.sensivel key then
      .error (.orchestratorError ("Metadado sensível não permitido em " ++ path ++ "." ++ key ++
        "; grave apenas referência, nunca o valor."))
    else assertSafeMetadata child (path ++ "." ++ key)
termination_by structural entry => entry

def assertSafeItems : List Json → String → ℕ → Except Erro Unit
  | [], _, _ => .ok ()
  | item :: items, path, index => do
    assertSafeMetadata item (path ++ "[" ++ toString index ++ "]")
    assertSafeItems items path (index + 1)
termination_by structural items => items

end

end Safe

/-- Nothing is found, whatever the path in the error message would be. -/
def Safe (cfg : Config) (x : Json) : Prop := ∀ path, assertSafeMetadata cfg x path = .ok ()

section SafeLemmas

variable {cfg : Config}

theorem safe_str (s : String) : Safe cfg (.str s) := fun _ ↦ rfl

theorem safe_bool (b : Bool) : Safe cfg (.bool b) := fun _ ↦ rfl

theorem safe_num (q : ℚ) : Safe cfg (.num q) := fun _ ↦ rfl

theorem safe_arr {items : List Json} (h : ∀ x ∈ items, Safe cfg x) : Safe cfg (.arr items) := by
  intro path
  have hitems : ∀ index, assertSafeItems cfg items path index = .ok () := by
    induction items with
    | nil => exact fun _ ↦ rfl
    | cons x items ih =>
      obtain ⟨hx, hitems⟩ := List.forall_mem_cons.mp h
      intro index
      rw [assertSafeItems, hx _]
      exact ih hitems (index + 1)
  exact hitems 0

theorem safe_nil : Safe cfg (.obj []) := fun _ ↦ rfl

theorem safe_cons {key : String} {x : Json} {entries : List (String × Json)}
    (hkey : cfg.sensivel key = false) (hx : Safe cfg x) (h : Safe cfg (.obj entries)) :
    Safe cfg (.obj ((key, x) :: entries)) := by
  intro path
  rw [assertSafeMetadata, assertSafeEntries, assertSafeEntry,
    if_neg (by rw [hkey]; exact Bool.false_ne_true), hx _]
  exact h path

/-- A key that is ASCII text without a marker. -/
theorem sensivel_ascii {key : String} (hascii : PyText.IsAscii key)
    (hkey : (sensitiveKeyMarkers.any fun marker ↦
      PyText.contains marker (PyText.asciiLower key)) = false) : cfg.sensivel key = false := by
  rw [Config.sensivel, cfg.unicode.lower_ascii key hascii]
  exact hkey

end SafeLemmas

/-! ## The manifest -/

/-- What is at the path of the manifest. -/
inductive Leitura
  | ausente
  /-- Neither JSON nor, without the library for it, YAML. -/
  | semYaml
  /-- The file or its text cannot be read. -/
  | ilegivel (mensagem : String)
  | lido (payload : Json)

/-- The object at the root of a manifest. -/
abbrev Manifesto := List (String × Json)

/-- The capabilities, with their configurations. -/
def Manifesto.capabilities (manifest : Manifesto) : List (String × Json) :=
  (Json.get "capabilities" manifest).items

def isBool : Json → Bool
  | .bool _ => true
  | _ => false

/-- `isinstance(refs, list) and refs and all(isinstance(item, str) and item for item in refs)`. -/
def referenciasValidas : Json → Bool
  | .arr refs => !refs.isEmpty && refs.all fun item ↦ item.isStr && item.truthy
  | _ => false

/-- `sorted(forbidden)`. -/
def camposProibidos (config : List (String × Json)) : List String :=
  ["credential", "password", "secret", "token", "value"].filter fun campo ↦
    config.any fun e ↦ e.1 == campo

/-- One turn of the loop of `load_readiness_manifest`. -/
def verificarCapability (x : String × Json) : Except Erro Unit :=
  let erro (texto : String) : Erro := .manifestError ("capabilities." ++ x.1 ++ texto)
  match x.2 with
  | .obj config => do
    require (isBool (Json.get "required" config)) (erro ".required deve ser booleano.")
    match Json.get "source" config with
    | .str source => do
      require (source = "env" ∨ source = "static") (erro ".source deve ser env ou static.")
      require (source = "env" → referenciasValidas (Json.get "references" config))
        (erro ".references deve ser uma lista não vazia.")
      require (source = "static" → isBool (Json.get "configured" config))
        (erro ".configured deve ser booleano para source=static.")
      require (camposProibidos config = [])
        (erro (" contém campos proibidos: " ++
          String.intercalate ", " (camposProibidos config) ++ "."))
    -- a list or a dictionary is not looked up in a set
    | .arr _ | .obj _ => throw .typeError
    | .null | .bool _ | .num _ => throw (erro ".source deve ser env ou static.")
  | .null | .bool _ | .num _ | .str _ | .arr _ => throw (erro " deve ser um objeto.")

/-- `isinstance(environment, str) and environment.strip()`. -/
def environmentValido : Json → Bool
  | .str environment => PyText.strip environment != ""
  | _ => false

/-- `load_readiness_manifest`. -/
def loadReadinessManifest (path : String) : Leitura → Except Erro Manifesto
  | .ausente => .error (.manifestError ("Manifesto de readiness ausente: " ++ path))
  | .semYaml => .error (.manifestError ("O manifesto não usa sintaxe JSON/YAML compatível com a " ++
      "biblioteca padrão; instale PyYAML."))
  | .ilegivel mensagem => .error (.externo mensagem)
  | .lido (.obj manifest) => do
    require (environmentValido (Json.get "environment" manifest))
      (.manifestError "environment é obrigatório.")
    require (Manifesto.capabilities manifest ≠ [])
      (.manifestError "capabilities deve ser um objeto não vazio.")
    (Manifesto.capabilities manifest).forM verificarCapability
    return manifest
  | .lido _ => .error (.manifestError "O manifesto deve conter um objeto no nível raiz.")

/-! ## The assessment -/

structure Check where
  capability : String
  required : Bool
  configured : Bool
  source : Json
  references : List Json
  missingReferences : List Json
  description : String

inductive AssessmentStatus
  | ready | blocked
  deriving DecidableEq

def AssessmentStatus.value : AssessmentStatus → String
  | ready => "ready"
  | blocked => "blocked"

structure Assessment where
  environment : Json
  status : AssessmentStatus
  requiredTotal : ℕ
  configuredRequired : ℕ
  missingRequired : List String
  checks : List Check

def Check.toJson (c : Check) : Json :=
  .obj [("capability", .str c.capability), ("required", .bool c.required),
    ("configured", .bool c.configured), ("source", c.source),
    ("references", .arr c.references), ("missing_references", .arr c.missingReferences),
    ("description", .str c.description)]

def Assessment.toJson (a : Assessment) : Json :=
  .obj [("environment", a.environment), ("status", .str a.status.value),
    ("required_total", .num a.requiredTotal), ("configured_required", .num a.configuredRequired),
    ("missing_required", .arr (a.missingRequired.map .str)),
    ("checks", .arr (a.checks.map Check.toJson))]

/-- The environment variables of a process. -/
abbrev Environ := String → Option String

/-- `str(env.get(ref, "")).strip()` is not empty. -/
def Environ.definida (environ : Environ) : Json → Bool
  | .str ref => PyText.strip ((environ ref).getD "") != ""
  | _ => false

/-- `list(config.get("references") or [])`. -/
def listaReferencias (config : List (String × Json)) : Except Erro (List Json) :=
  match ((Json.get "references" config).orElse (.arr [])).toList with
  | .ok references => .ok references
  | .error .typeError => .error .typeError

/-- One turn of the loop of `evaluate_readiness`. -/
def avaliarCapability (cfg : Config) (environ : Environ) (x : String × Json) :
    Except Erro Check := do
  let config := x.2.items
  let source := Json.get "source" config
  let references ← listaReferencias config
  let env := source.pyEq (.str "env")
  let missingReferences := if env then references.filter fun ref ↦ !environ.definida ref else []
  let configured :=
    if env then missingReferences.isEmpty else (Json.get "configured" config).truthy
  return {
    capability := x.1
    required := (Json.get "required" config).truthy
    configured := configured
    source := source
    references := references
    missingReferences := missingReferences
    description := cfg.str ((Json.get "description" config).orElse (.str "")) }

/-- `evaluate_readiness`. -/
def evaluateReadiness (cfg : Config) (manifest : Manifesto) (environ : Environ) :
    Except Erro Assessment := do
  let checks ← manifest.capabilities.mapM (avaliarCapability cfg environ)
  let required := checks.filter Check.required
  let missingRequired := (required.filter fun c ↦ !c.configured).map Check.capability
  return {
    environment := Json.get "environment" manifest
    status := if missingRequired.isEmpty then .ready else .blocked
    requiredTotal := required.length
    configuredRequired := required.countP Check.configured
    missingRequired := missingRequired
    checks := checks }

/-- `OperationalOrchestrator.readiness`. -/
def readiness (cfg : Config) (path : String) (leitura : Leitura) (environ : Environ) :
    Except Erro Assessment := do
  let manifest ← loadReadinessManifest path leitura
  evaluateReadiness cfg manifest environ

/-! ## The assessment is safe metadata -/

/-- The references of the capabilities are safe. For source `env` they are texts, and always are. -/
def Manifesto.ReferenciasSeguras (cfg : Config) (manifest : Manifesto) : Prop :=
  ∀ x ∈ manifest.capabilities, ∀ references, listaReferencias x.2.items = .ok references →
    ∀ ref ∈ references, Safe cfg ref

section SafeAssessment

variable {cfg : Config} {manifest : Manifesto}

theorem source_of_verificarCapability {x : String × Json} (h : verificarCapability x = .ok ()) :
    ∃ source, Json.get "source" x.2.items = .str source := by
  obtain ⟨name, config⟩ := x
  cases config with
  | obj config =>
    cases hsource : Json.get "source" config with
    | str source => exact ⟨source, hsource⟩
    | _ =>
      simp only [verificarCapability, hsource] at h
      obtain ⟨-, h⟩ := require_bind_eq_ok.mp h
      cases h
  | _ => cases h

/-- **What a manifest that is loaded looks like.** -/
theorem of_loadReadinessManifest {path : String} {leitura : Leitura}
    (h : loadReadinessManifest path leitura = .ok manifest) :
    leitura = .lido (.obj manifest) ∧
      (∃ environment, Json.get "environment" manifest = .str environment) ∧
      ∀ x ∈ manifest.capabilities, ∃ source, Json.get "source" x.2.items = .str source := by
  rw [loadReadinessManifest.eq_def] at h
  split at h
  case h_4 entries =>
    obtain ⟨henvironment, h⟩ := require_bind_eq_ok.mp h
    obtain ⟨-, h⟩ := require_bind_eq_ok.mp h
    obtain ⟨⟨⟩, hall, h⟩ := bind_eq_ok.mp h
    cases h
    refine ⟨rfl, ?_, fun x hx ↦ source_of_verificarCapability (ok_of_forM hall x hx)⟩
    rw [environmentValido.eq_def] at henvironment
    split at henvironment
    next environment heq => exact ⟨environment, heq⟩
    next => exact absurd henvironment Bool.false_ne_true
  all_goals cases h

/-- The keys of an assessment hold no marker. -/
theorem sensivel_fixa {key : String} (hkey : key ∈ ["environment", "status", "required_total",
    "configured_required", "missing_required", "checks", "capability", "required", "configured",
    "source", "references", "missing_references", "description"]) : cfg.sensivel key = false := by
  have hall : ∀ k ∈ ["environment", "status", "required_total", "configured_required",
      "missing_required", "checks", "capability", "required", "configured", "source", "references",
      "missing_references", "description"], PyText.IsAscii k ∧ (sensitiveKeyMarkers.any fun marker ↦
        PyText.contains marker (PyText.asciiLower k)) = false := by
    decide +kernel
  exact sensivel_ascii (hall key hkey).1 (hall key hkey).2

theorem Check.safe_toJson {c : Check} (hsource : Safe cfg c.source)
    (hrefs : ∀ ref ∈ c.references, Safe cfg ref)
    (hmissing : ∀ ref ∈ c.missingReferences, Safe cfg ref) : Safe cfg c.toJson :=
  safe_cons (sensivel_fixa (by decide)) (safe_str _) <|
  safe_cons (sensivel_fixa (by decide)) (safe_bool _) <|
  safe_cons (sensivel_fixa (by decide)) (safe_bool _) <|
  safe_cons (sensivel_fixa (by decide)) hsource <|
  safe_cons (sensivel_fixa (by decide)) (safe_arr hrefs) <|
  safe_cons (sensivel_fixa (by decide)) (safe_arr hmissing) <|
  safe_cons (sensivel_fixa (by decide)) (safe_str _) safe_nil

theorem Assessment.safe_toJson {a : Assessment} (henvironment : Safe cfg a.environment)
    (hchecks : ∀ c ∈ a.checks, Safe cfg c.toJson) : Safe cfg a.toJson :=
  safe_cons (sensivel_fixa (by decide)) henvironment <|
  safe_cons (sensivel_fixa (by decide)) (safe_str _) <|
  safe_cons (sensivel_fixa (by decide)) (safe_num _) <|
  safe_cons (sensivel_fixa (by decide)) (safe_num _) <|
  safe_cons (sensivel_fixa (by decide)) (safe_arr fun x hx ↦ by
    obtain ⟨name, -, rfl⟩ := List.mem_map.mp hx
    exact safe_str name) <|
  safe_cons (sensivel_fixa (by decide)) (safe_arr fun x hx ↦ by
    obtain ⟨c, hc, rfl⟩ := List.mem_map.mp hx
    exact hchecks c hc) safe_nil

theorem safe_toJson_of_avaliarCapability {environ : Environ} {x : String × Json} {c : Check}
    (h : avaliarCapability cfg environ x = .ok c)
    (hsource : ∃ source, Json.get "source" x.2.items = .str source)
    (hrefs : ∀ references, listaReferencias x.2.items = .ok references →
      ∀ ref ∈ references, Safe cfg ref) : Safe cfg c.toJson := by
  rw [avaliarCapability] at h
  obtain ⟨references, hreferences, h⟩ := bind_eq_ok.mp h
  have hsafe := hrefs references hreferences
  obtain ⟨source, hsource⟩ := hsource
  cases h
  refine Check.safe_toJson (hsource ▸ safe_str source) hsafe fun ref href ↦ ?_
  split at href
  · exact hsafe ref (List.mem_of_mem_filter href)
  · cases href

/-- **The assessment of a manifest is safe metadata**, if its references are. -/
theorem safe_of_readiness {path : String} {leitura : Leitura} {environ : Environ} {a : Assessment}
    (h : readiness cfg path leitura environ = .ok a)
    (hrefs : ∀ manifest, leitura = .lido (.obj manifest) →
      Manifesto.ReferenciasSeguras cfg manifest) : Safe cfg a.toJson := by
  obtain ⟨manifest, hload, h⟩ := bind_eq_ok.mp h
  obtain ⟨hleitura, ⟨environment, henvironment⟩, hsource⟩ := of_loadReadinessManifest hload
  obtain ⟨checks, hchecks, h⟩ := bind_eq_ok.mp h
  cases h
  refine Assessment.safe_toJson (henvironment ▸ safe_str environment) fun c hc ↦ ?_
  obtain ⟨x, hx, hxc⟩ := exists_of_mapM hchecks c hc
  exact safe_toJson_of_avaliarCapability hxc (hsource x hx) (hrefs manifest hleitura x hx)

end SafeAssessment

end Orchestrator

end ReqSys
