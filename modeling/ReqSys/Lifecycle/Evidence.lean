import Mathlib
import ReqSys.Foundation.PyText
import ReqSys.Foundation.Table

/-!
# Lifecycle: the evidence of a requirement

`register_lifecycle_evidence` normalises what it is given, looks for a link of the requirement with
the same provider, kind, reference and environment, and updates the one it finds or inserts a new
one. The repository is stored with a new link, but the search does not ask for it. So the evidence
of one repository is taken for that of another one with the same reference, such as the number of a
pull request.

The links are those that were registered if and only if no two registrations differ in the
repository alone (`evidencias_distintas_iff`).
-/

namespace ReqSys

namespace Lifecycle

/-! ## Records -/

structure Requisito where
  id : ℕ
  codigo : String
  titulo : String := ""
  status : String

/-- A row of `vinculos_git`. -/
structure VinculoGit where
  id : ℕ
  requisitoCodigo : String
  requisitoId : Option ℕ
  tipo : String
  provedor : String
  repo : String
  referencia : String
  url : Option String := none
  titulo : Option String := none
  autor : Option String := none
  ambiente : Option String := none
  criadoEm : String
  deriving DecidableEq

/-- What identifies evidence, after normalisation. -/
structure Identidade where
  provedor : String
  tipo : String
  repo : String
  referencia : String
  ambiente : Option String
  deriving DecidableEq

/-- What the search asks for. -/
def Identidade.semRepo (t : Identidade) : String × String × String × Option String :=
  (t.provedor, t.tipo, t.referencia, t.ambiente)

def VinculoGit.identidade (v : VinculoGit) : Identidade where
  provedor := v.provedor
  tipo := v.tipo
  repo := v.repo
  referencia := v.referencia
  ambiente := v.ambiente

/-- The table, whose identifiers are assigned in ascending order. -/
structure Vinculos where
  rows : List VinculoGit := []
  next : ℕ := 1
  keyed : Table.Keyed VinculoGit.id rows := by exact List.nodup_nil
  below : ∀ v ∈ rows, v.id < next := by simp

namespace Vinculos

/-- A new row. -/
def insert (vs : Vinculos) (row : ℕ → VinculoGit) (hrow : (row vs.next).id = vs.next) :
    Vinculos where
  rows := vs.rows ++ [row vs.next]
  next := vs.next + 1
  keyed := vs.keyed.concat fun v hv ↦ by rw [hrow]; exact (vs.below v hv).ne
  below := by
    intro v hv
    obtain hv | hv := List.mem_append.mp hv
    · exact (vs.below v hv).trans (Nat.lt_succ_self _)
    · rw [List.mem_singleton.mp hv, hrow]
      exact Nat.lt_succ_self _

/-- A changed row. -/
def update (vs : Vinculos) (id : ℕ) (f : VinculoGit → VinculoGit) (hf : ∀ v, (f v).id = v.id) :
    Vinculos where
  rows := Table.update VinculoGit.id id f vs.rows
  next := vs.next
  keyed := vs.keyed.keyed_update hf
  below := by
    intro v hv
    obtain ⟨hv, -⟩ | ⟨w, hw, -, rfl⟩ := Table.mem_update hv
    · exact vs.below v hv
    · rw [hf]
      exact vs.below w hw

end Vinculos

/-- What an event says of registered evidence. -/
structure Detalhes where
  codigo : String
  statusRequisito : String
  provedor : String
  tipo : String
  referencia : String
  ambiente : Option String
  created : Bool
  deriving DecidableEq

structure AuditoriaEvento where
  correlationId : String
  usuario : String
  acao : String
  entidade : String
  entidadeId : ℕ
  payloadMinimo : Detalhes
  deriving DecidableEq

structure Banco where
  vinculos : Vinculos := {}
  eventos : List AuditoriaEvento := []

/-! ## The links of a requirement -/

def allowedEvidenceTypes : List String := ["issue", "branch", "pr", "commit", "deploy"]

def allowedEnvironments : List String := ["dev", "staging", "prod"]

/-- `_find_link`. -/
def findLink (rows : List VinculoGit) (requisitoId : ℕ) (provedor tipo : String)
    (referencia ambiente : Option String) : Option VinculoGit :=
  Table.least (fun a b ↦ decide (b.id ≤ a.id)) <| rows.filter fun v ↦
    v.requisitoId = some requisitoId && v.provedor = provedor && v.tipo = tipo &&
      referencia.all (v.referencia = ·) && ambiente.all (v.ambiente = some ·)

/-- The value, where there is one. -/
def ou (novo atual : Option String) : Option String := if PyText.truthy novo then novo else atual

/-- What `_upsert_link` writes into the link that it has found. -/
def VinculoGit.atualizado (url titulo autor ambiente : Option String) (v : VinculoGit) :
    VinculoGit :=
  { v with
    url := ou url v.url
    titulo := ou titulo v.titulo
    autor := ou autor v.autor
    ambiente := ou ambiente v.ambiente }

/-- `_upsert_link`. -/
def upsertLink (agora : String) (vs : Vinculos) (requisito : Requisito) (t : Identidade)
    (url titulo autor : Option String) : VinculoGit × Bool × Vinculos :=
  match findLink vs.rows requisito.id t.provedor t.tipo (some t.referencia) t.ambiente with
  | some existente =>
    (existente.atualizado url titulo autor t.ambiente, false,
      vs.update existente.id (VinculoGit.atualizado url titulo autor t.ambiente) fun _ ↦ rfl)
  | none =>
    let link : ℕ → VinculoGit := fun id ↦
      { id
        requisitoCodigo := requisito.codigo
        requisitoId := some requisito.id
        tipo := t.tipo
        provedor := t.provedor
        repo := t.repo
        referencia := t.referencia
        url
        titulo
        autor
        ambiente := t.ambiente
        criadoEm := agora }
    (link vs.next, true, vs.insert link rfl)

/-- What `lifecycle_snapshot` returns. -/
structure Snapshot where
  requisitoId : ℕ
  codigo : String
  statusRequisito : String
  stages : List (String × Bool)
  progressoPercentual : ℚ
  redmine : Option VinculoGit
  githubIssue : Option VinculoGit
  githubPr : Option VinculoGit
  githubCommit : Option VinculoGit
  deploys : List (String × Option VinculoGit)
  links : List VinculoGit
  readyForExplicitCompletion : Bool

/-- The links of a requirement, in the order of their identifiers. -/
def Vinculos.de (vs : Vinculos) (requisitoId : ℕ) : List VinculoGit :=
  vs.rows.filter fun v ↦ v.requisitoId = some requisitoId

/-- `lifecycle_snapshot`. -/
def lifecycleSnapshot (vs : Vinculos) (requisito : Requisito) : Snapshot :=
  let links := (vs.de requisito.id).insertionSort fun a b ↦ a.id ≤ b.id
  let first (provedor tipo : String) (ambiente : Option String) : Option VinculoGit :=
    links.reverse.find? fun v ↦
      v.provedor = provedor && v.tipo = tipo && ambiente.all (v.ambiente = some ·)
  let redmine := first "redmine" "issue" none
  let githubIssue := first "github" "issue" none
  let githubPr := first "github" "pr" none
  let githubCommit := first "github" "commit" none
  let deploy (ambiente : String) := first "deployment" "deploy" (some ambiente)
  let stages := [("requisito", true), ("redmine", redmine.isSome),
    ("github_issue", githubIssue.isSome), ("pull_request", githubPr.isSome),
    ("commit", githubCommit.isSome), ("deploy_dev", (deploy "dev").isSome),
    ("deploy_staging", (deploy "staging").isSome), ("deploy_prod", (deploy "prod").isSome)]
  { requisitoId := requisito.id
    codigo := requisito.codigo
    statusRequisito := requisito.status
    stages
    progressoPercentual := (stages.countP Prod.snd : ℚ) / stages.length * 100
    redmine
    githubIssue
    githubPr
    githubCommit
    deploys := allowedEnvironments.map fun ambiente ↦ (ambiente, deploy ambiente)
    links
    readyForExplicitCompletion := (deploy "prod").isSome }

/-! ## The registration -/

/-- The arguments of `register_lifecycle_evidence`, and the time at which the row is written. -/
structure Registro where
  provedor : String
  tipo : String
  repo : String
  referencia : String
  correlationId : String
  actor : String
  url : Option String := none
  titulo : Option String := none
  ambiente : Option String := none
  agora : String

inductive Erro
  | lifecycleError (mensagem : String)
  deriving DecidableEq

/-- What identifies the evidence, or why it is refused. -/
def Registro.normalizado (U : Unicode) (c : Registro) : Except Erro Identidade :=
  let provedor := U.lower (PyText.strip c.provedor)
  let tipo := U.lower (PyText.strip c.tipo)
  let texto := U.lower (PyText.strip (c.ambiente.getD ""))
  let ambiente := if texto = "" then none else some texto
  let referencia := PyText.strip c.referencia
  if tipo ∉ allowedEvidenceTypes then
    .error (.lifecycleError s!"Tipo de evidência inválido: '{tipo}'.")
  else if referencia = "" then .error (.lifecycleError "referencia é obrigatória.")
  else if tipo = "deploy" then
    if ∀ a ∈ ambiente, a ∉ allowedEnvironments then
      .error (.lifecycleError "Deploy exige ambiente dev, staging ou prod.")
    else .ok { provedor := "deployment", tipo, repo := c.repo, referencia, ambiente }
  else if ambiente ≠ none then
    .error (.lifecycleError "ambiente só pode ser informado para evidência de deploy.")
  else .ok { provedor, tipo, repo := c.repo, referencia, ambiente }

structure Resultado where
  snapshot : Snapshot
  evidenceCreated : Bool
  evidence : VinculoGit

/-- `register_lifecycle_evidence`. -/
def registerLifecycleEvidence (U : Unicode) (requisito : Requisito) (b : Banco) (c : Registro) :
    Banco × Except Erro Resultado :=
  match c.normalizado U with
  | .error e => (b, .error e)
  | .ok t =>
    let (link, created, vinculos) :=
      upsertLink c.agora b.vinculos requisito t c.url c.titulo (some c.actor)
    let evento : AuditoriaEvento :=
      { correlationId := c.correlationId
        usuario := c.actor
        acao := "LIFECYCLE_EVIDENCIA_REGISTRADA"
        entidade := "requisito"
        entidadeId := requisito.id
        payloadMinimo :=
          { codigo := requisito.codigo
            statusRequisito := requisito.status
            provedor := link.provedor
            tipo := link.tipo
            referencia := link.referencia
            ambiente := link.ambiente
            created } }
    ({ vinculos, eventos := b.eventos ++ [evento] },
      .ok { snapshot := lifecycleSnapshot vinculos requisito
            evidenceCreated := created
            evidence := link })

/-- The database after the calls. -/
def registrados (U : Unicode) (requisito : Requisito) (b : Banco) (calls : List Registro) : Banco :=
  calls.foldl (fun b c ↦ (registerLifecycleEvidence U requisito b c).1) b

/-- What was registered, one entry a call. -/
def identidades (U : Unicode) (calls : List Registro) : List Identidade :=
  calls.filterMap fun c ↦ (c.normalizado U).toOption

/-! ## What a registration does -/

section Step

variable {U : Unicode} {requisito : Requisito} {b : Banco} {c : Registro} {t : Identidade}

/-- Only deployments have an environment. -/
theorem ambiente_of_normalizado (h : c.normalizado U = .ok t) :
    t.tipo = "deploy" ↔ t.ambiente ≠ none := by
  simp only [Registro.normalizado] at h
  generalize (if U.lower (PyText.strip (c.ambiente.getD "")) = "" then none
    else some (U.lower (PyText.strip (c.ambiente.getD "")))) = ambiente at h
  split_ifs at h with htipo hvazia hdeploy hfora hdeployado
  · cases h
    refine iff_of_true hdeploy fun hnone ↦ hfora ?_
    obtain rfl : ambiente = none := hnone
    exact fun a ha ↦ by cases ha
  · cases h
    exact iff_of_false hdeploy fun hne ↦ hdeployado hne

/-! ### The rows -/

theorem mem_de {vs : Vinculos} {requisitoId : ℕ} {v : VinculoGit} :
    v ∈ vs.de requisitoId ↔ v ∈ vs.rows ∧ v.requisitoId = some requisitoId := by
  rw [Vinculos.de, List.mem_filter, decide_eq_true_eq]

@[simp]
theorem rows_insert (vs : Vinculos) (row : ℕ → VinculoGit) (hrow : (row vs.next).id = vs.next) :
    (vs.insert row hrow).rows = vs.rows ++ [row vs.next] := rfl

@[simp]
theorem rows_update (vs : Vinculos) (id : ℕ) (f : VinculoGit → VinculoGit)
    (hf : ∀ v, (f v).id = v.id) :
    (vs.update id f hf).rows = Table.update VinculoGit.id id f vs.rows := rfl

/-- What a changed row keeps, the links of a requirement keep. -/
theorem map_de_update {β : Type} {g : VinculoGit → β} {vs : Vinculos} {id requisitoId : ℕ}
    {f : VinculoGit → VinculoGit} {hf : ∀ v, (f v).id = v.id}
    (hrequisito : ∀ v, (f v).requisitoId = v.requisitoId)
    (hg : ∀ v ∈ vs.rows, v.id = id → g (f v) = g v) :
    ((vs.update id f hf).de requisitoId).map g = (vs.de requisitoId).map g := by
  rw [Vinculos.de, Vinculos.de, rows_update, Table.update, List.filter_map, List.map_map]
  have hfilter : (fun v ↦ decide (v.requisitoId = some requisitoId)) ∘
      (fun v ↦ if v.id = id then f v else v)
        = fun v ↦ decide (v.requisitoId = some requisitoId) := by
    funext v
    rw [Function.comp_apply]
    split
    · rw [hrequisito]
    · rfl
  rw [hfilter]
  refine List.map_congr_left fun v hv ↦ ?_
  rw [Function.comp_apply]
  split
  next hid => exact hg v (List.mem_of_mem_filter hv) hid
  next => rfl

/-! ### The search -/

/-- What is found is a link of the requirement with what the search asks for. -/
theorem of_findLink {v : VinculoGit} {rows : List VinculoGit}
    (h : findLink rows requisito.id t.provedor t.tipo (some t.referencia) t.ambiente = some v) :
    v ∈ rows ∧ v.requisitoId = some requisito.id ∧ v.provedor = t.provedor ∧ v.tipo = t.tipo ∧
      v.referencia = t.referencia ∧ ∀ a ∈ t.ambiente, v.ambiente = some a := by
  have hmem := Table.mem_of_least h
  rw [List.mem_filter] at hmem
  simp only [Bool.and_eq_true, decide_eq_true_eq, Option.all_some, Option.all_eq_true] at hmem
  obtain ⟨hv, ⟨⟨⟨hrequisito, hprovedor⟩, htipo⟩, hreferencia⟩, hambiente⟩ := hmem
  exact ⟨hv, hrequisito, hprovedor, htipo, hreferencia, hambiente⟩

theorem findLink_eq_none {rows : List VinculoGit}
    (h : findLink rows requisito.id t.provedor t.tipo (some t.referencia) t.ambiente = none)
    {v : VinculoGit} (hv : v ∈ rows) (hrequisito : v.requisitoId = some requisito.id) :
    v.identidade.semRepo ≠ t.semRepo := by
  intro heq
  simp only [Identidade.semRepo, VinculoGit.identidade, Prod.mk.injEq] at heq
  obtain ⟨hprovedor, htipo, hreferencia, hambiente⟩ := heq
  have hnot := List.filter_eq_nil_iff.mp (Table.least_eq_none.mp h) v hv
  refine hnot ?_
  simp only [Bool.and_eq_true, decide_eq_true_eq, Option.all_some, Option.all_eq_true]
  exact ⟨⟨⟨⟨hrequisito, hprovedor⟩, htipo⟩, hreferencia⟩, fun a ha ↦ hambiente.trans ha⟩

/-- An update does not change what identifies a link. -/
theorem identidade_atualizado {v : VinculoGit} {url titulo autor : Option String}
    (h : ∀ a ∈ t.ambiente, v.ambiente = some a) :
    (v.atualizado url titulo autor t.ambiente).identidade = v.identidade := by
  have hou : ou t.ambiente v.ambiente = v.ambiente := by
    rw [ou]
    split
    next htruthy =>
      cases hambiente : t.ambiente with
      | none =>
        rw [hambiente] at htruthy
        cases htruthy
      | some a => rw [h a hambiente]
    next => rfl
  rw [VinculoGit.atualizado, VinculoGit.identidade, VinculoGit.identidade]
  dsimp only
  rw [hou]

/-! ### A step -/

/-- What identifies the links of the requirement. -/
def Banco.identidades (b : Banco) (requisito : Requisito) : List Identidade :=
  (b.vinculos.de requisito.id).map VinculoGit.identidade

/-- What identifies the links, against what was registered. -/
structure Registradas (ids ts : List Identidade) : Prop where
  unica : (ids.map Identidade.semRepo).Nodup
  registrada : ∀ t ∈ ids, t ∈ ts
  presente : ∀ t ∈ ts, t.semRepo ∈ ids.map Identidade.semRepo
  deploy : ∀ t ∈ ts, t.tipo = "deploy" ↔ t.ambiente ≠ none

/-- What a registration does to the links. -/
inductive Passou (requisito : Requisito) (t : Identidade) (b b' : Banco) : Prop
  | atualizou (v : VinculoGit) (hv : v ∈ b.vinculos.de requisito.id)
      (hsem : v.identidade.semRepo = t.semRepo)
      (hidentidades : b'.identidades requisito = b.identidades requisito)
      (hids : (b'.vinculos.de requisito.id).map VinculoGit.id
        = (b.vinculos.de requisito.id).map VinculoGit.id)
      (houtros : ∀ w ∈ b.vinculos.rows, w.id ≠ v.id → w ∈ b'.vinculos.rows)
  | inseriu (hnova : t.semRepo ∉ (b.identidades requisito).map Identidade.semRepo)
      (hidentidades : b'.identidades requisito = b.identidades requisito ++ [t])
      (houtros : ∀ w ∈ b.vinculos.rows, w ∈ b'.vinculos.rows)

theorem vinculos_registrados (hok : c.normalizado U = .ok t) :
    (registerLifecycleEvidence U requisito b c).1.vinculos
      = (upsertLink c.agora b.vinculos requisito t c.url c.titulo (some c.actor)).2.2 := by
  rw [registerLifecycleEvidence, hok]

theorem registrar_passou {ts : List Identidade} (hok : c.normalizado U = .ok t)
    (hts : Registradas (b.identidades requisito) ts) :
    Passou requisito t b (registerLifecycleEvidence U requisito b c).1 := by
  have hvinculos := @vinculos_registrados _ requisito b _ _ hok
  cases hfound : findLink b.vinculos.rows requisito.id t.provedor t.tipo (some t.referencia)
      t.ambiente with
  | some v =>
    obtain ⟨hv, hrequisito, hprovedor, htipo, hreferencia, hambiente⟩ := of_findLink hfound
    have hmem : v ∈ b.vinculos.de requisito.id := mem_de.mpr ⟨hv, hrequisito⟩
    have hsame : v.ambiente = t.ambiente := by
      cases ht : t.ambiente with
      | some a => exact hambiente a ht
      | none =>
        -- what is no deployment has no environment
        by_contra hne
        have hdeploy := hts.deploy _ (hts.registrada _ (List.mem_map_of_mem hmem))
        exact (ambiente_of_normalizado hok).mp (htipo.symm.trans (hdeploy.mpr hne)) ht
    simp only [upsertLink, hfound] at hvinculos
    refine .atualizou v hmem ?_ ?_ ?_ fun w hw hne ↦ ?_
    · rw [Identidade.semRepo, Identidade.semRepo, ← hprovedor, ← htipo, ← hreferencia, ← hsame]
      rfl
    · rw [Banco.identidades, hvinculos]
      refine map_de_update (fun _ ↦ rfl) fun w hw hid ↦ ?_
      obtain rfl : w = v := b.vinculos.keyed.eq_of_key_eq hw hv hid
      exact identidade_atualizado hambiente
    · rw [hvinculos]
      exact map_de_update (fun _ ↦ rfl) fun _ _ _ ↦ rfl
    · rw [hvinculos]
      exact Table.mem_update_of_ne hw hne
  | none =>
    simp only [upsertLink, hfound] at hvinculos
    refine .inseriu (fun hmem ↦ ?_) ?_ fun w hw ↦ ?_
    · obtain ⟨_, hmem, hsem⟩ := List.mem_map.mp hmem
      obtain ⟨v, hv, rfl⟩ := List.mem_map.mp hmem
      obtain ⟨hv, hrequisito⟩ := mem_de.mp hv
      exact findLink_eq_none hfound hv hrequisito hsem
    · rw [Banco.identidades, hvinculos, Vinculos.de, rows_insert, List.filter_append,
        List.map_append]
      simp [Banco.identidades, Vinculos.de, VinculoGit.identidade]
    · rw [hvinculos]
      exact List.mem_append_left _ hw

theorem Registradas.deploy_concat {ids ts : List Identidade} (hts : Registradas ids ts)
    (hok : c.normalizado U = .ok t) :
    ∀ t' ∈ ts ++ [t], t'.tipo = "deploy" ↔ t'.ambiente ≠ none := by
  intro t' ht'
  obtain ht' | ht' := List.mem_append.mp ht'
  · exact hts.deploy t' ht'
  · rw [List.mem_singleton.mp ht']
    exact ambiente_of_normalizado hok

/-- **A registration** keeps the links together with what was registered. -/
theorem Registradas.step {ts : List Identidade} (hok : c.normalizado U = .ok t)
    (hts : Registradas (b.identidades requisito) ts) :
    Registradas ((registerLifecycleEvidence U requisito b c).1.identidades requisito)
      (ts ++ [t]) := by
  cases registrar_passou hok hts with
  | atualizou v hv hsem hidentidades hids houtros =>
    rw [hidentidades]
    refine ⟨hts.unica, fun t' ht' ↦ List.mem_append_left _ (hts.registrada t' ht'), ?_,
      hts.deploy_concat hok⟩
    intro t' ht'
    obtain ht' | ht' := List.mem_append.mp ht'
    · exact hts.presente t' ht'
    · rw [List.mem_singleton.mp ht', ← hsem]
      exact List.mem_map_of_mem (List.mem_map_of_mem hv)
  | inseriu hnova hidentidades houtros =>
    rw [hidentidades]
    refine ⟨?_, fun t' ht' ↦ ?_, fun t' ht' ↦ ?_, hts.deploy_concat hok⟩
    · rw [List.map_append]
      exact List.concat_eq_append ▸ hts.unica.concat hnova
    · obtain ht' | ht' := List.mem_append.mp ht'
      · exact List.mem_append_left _ (hts.registrada t' ht')
      · exact List.mem_append_right _ ht'
    · rw [List.map_append, List.mem_append]
      obtain ht' | ht' := List.mem_append.mp ht'
      · exact .inl (hts.presente t' ht')
      · exact .inr (List.mem_map_of_mem ht')

end Step

/-! ## Sequences of registrations -/

section Sequences

variable {U : Unicode} {requisito : Requisito} {b : Banco} {calls pre post : List Registro}
  {c : Registro} {t : Identidade}

theorem registrados_concat : registrados U requisito b (pre ++ [c])
    = (registerLifecycleEvidence U requisito (registrados U requisito b pre) c).1 := by
  rw [registrados, List.foldl_append]
  rfl

theorem identidades_append : identidades U (calls ++ post)
    = identidades U calls ++ identidades U post := List.filterMap_append

theorem mem_identidades : t ∈ identidades U calls ↔ ∃ c ∈ calls, c.normalizado U = .ok t := by
  rw [identidades, List.mem_filterMap]
  refine exists_congr fun c ↦ and_congr_right fun _ ↦ ?_
  cases c.normalizado U with
  | error e => simp [Except.toOption]
  | ok t' => simp [Except.toOption]

/-- **Any sequence of registrations.** -/
theorem registradas (hb : b.vinculos.de requisito.id = []) (calls : List Registro) :
    Registradas ((registrados U requisito b calls).identidades requisito)
      (identidades U calls) := by
  induction calls using List.reverseRecOn with
  | nil =>
    rw [registrados, List.foldl_nil, Banco.identidades, hb]
    exact ⟨List.nodup_nil, fun _ h ↦ h, fun _ h ↦ absurd h List.not_mem_nil,
      fun _ h ↦ absurd h List.not_mem_nil⟩
  | append_singleton pre c ih =>
    rw [registrados_concat, identidades_append]
    cases hok : c.normalizado U with
    | error e =>
      rw [registerLifecycleEvidence, hok, identidades, identidades, List.filterMap_cons, hok]
      change Registradas _ (identidades U pre ++ [])
      rw [List.append_nil]
      exact ih
    | ok t =>
      have hsingle : identidades U [c] = [t] := by
        rw [identidades, List.filterMap_cons, hok]
        rfl
      rw [hsingle]
      exact ih.step hok

/-- **The property.** The links are those that were registered, once each; a repeated registration
adds none; and the links of another repository stay as they are. -/
structure NaoConfundidas (U : Unicode) (requisito : Requisito) (b : Banco)
    (calls : List Registro) : Prop where
  links : ((registrados U requisito b calls).identidades requisito).Perm
    (identidades U calls).dedup
  repetidas : ∀ pre c post t, calls = pre ++ c :: post → c.normalizado U = .ok t →
    t ∈ identidades U pre →
    ((registrados U requisito b (pre ++ [c])).vinculos.de requisito.id).map VinculoGit.id
      = ((registrados U requisito b pre).vinculos.de requisito.id).map VinculoGit.id
  separadas : ∀ pre c post t, calls = pre ++ c :: post → c.normalizado U = .ok t →
    ∀ v ∈ (registrados U requisito b pre).vinculos.rows, v.repo ≠ t.repo →
      v ∈ (registrados U requisito b (pre ++ [c])).vinculos.rows

/-- **The condition.** No two registrations differ in the repository alone. -/
def ReposIguais (U : Unicode) (calls : List Registro) : Prop :=
  ∀ t ∈ identidades U calls, ∀ t' ∈ identidades U calls, t.semRepo = t'.semRepo → t.repo = t'.repo

theorem Identidade.ext_semRepo {t t' : Identidade} (hsem : t.semRepo = t'.semRepo)
    (hrepo : t.repo = t'.repo) : t = t' := by
  obtain ⟨provedor, tipo, repo, referencia, ambiente⟩ := t
  simp only [semRepo, Prod.mk.injEq] at hsem hrepo
  obtain ⟨rfl, rfl, rfl, rfl⟩ := hsem
  rw [hrepo]

/-- **Evidence is kept apart** if and only if no two registrations differ in the repository
alone. -/
theorem evidencias_distintas_iff (U : Unicode) (requisito : Requisito) (b : Banco)
    (hb : b.vinculos.de requisito.id = []) (calls : List Registro) :
    NaoConfundidas U requisito b calls ↔ ReposIguais U calls := by
  have hts := registradas (U := U) hb calls
  constructor
  · intro h t ht t' ht' hsem
    rw [← List.mem_dedup, ← h.links.mem_iff] at ht ht'
    rw [List.inj_on_of_nodup_map hts.unica ht ht' hsem]
  · intro h
    refine ⟨?_, ?_, ?_⟩
    · rw [List.perm_ext_iff_of_nodup hts.unica.of_map (List.nodup_dedup _)]
      intro t
      rw [List.mem_dedup]
      refine ⟨hts.registrada t, fun ht ↦ ?_⟩
      obtain ⟨t', ht', hsem⟩ := List.mem_map.mp (hts.presente t ht)
      rwa [← Identidade.ext_semRepo hsem (h t' (hts.registrada t' ht') t ht hsem)]
    · rintro pre c post t rfl hok hrepetida
      have hpre := registradas (U := U) hb pre
      rw [registrados_concat]
      cases registrar_passou hok hpre with
      | atualizou v hv hsem hidentidades hids houtros => exact hids
      | inseriu hnova hidentidades houtros => exact absurd (hpre.presente t hrepetida) hnova
    · rintro pre c post t rfl hok w hw hrepo
      have hpre := registradas (U := U) hb pre
      rw [registrados_concat]
      cases registrar_passou hok hpre with
      | inseriu hnova hidentidades houtros => exact houtros w hw
      | atualizou v hv hsem hidentidades hids houtros =>
        refine houtros w hw fun hid ↦ hrepo ?_
        obtain ⟨hv', -⟩ := mem_de.mp hv
        rw [(registrados U requisito b pre).vinculos.keyed.eq_of_key_eq hw hv' hid]
        refine h v.identidade ?_ t ?_ hsem
        · rw [identidades_append]
          exact List.mem_append_left _ (hpre.registrada _ (List.mem_map_of_mem hv))
        · exact mem_identidades.mpr ⟨c, List.mem_append_right _ List.mem_cons_self, hok⟩

end Sequences

/-! ## A small instance -/

def sampleRequisito : Requisito where
  id := 7
  codigo := "REQ-987654321"
  status := "em_execucao"

/-- A pull request. -/
def sampleRegistro (repo referencia : String) : Registro where
  provedor := "GitHub "
  tipo := "pr"
  repo := repo
  referencia := referencia
  correlationId := "corr-pr"
  actor := "github-actions"
  agora := "2026-07-16T12:00:00+00:00"

/-- Two pull requests of one repository, the first of them registered twice. -/
def sampleRegistros : List Registro :=
  [sampleRegistro "org/repo" "1512", sampleRegistro "org/repo" "1513",
    sampleRegistro "org/repo" "1512"]

theorem evidencias_distintas_sample :
    NaoConfundidas Unicode.ascii sampleRequisito {} sampleRegistros := by
  refine (evidencias_distintas_iff Unicode.ascii sampleRequisito {} rfl sampleRegistros).mpr ?_
  rw [ReposIguais]
  decide +kernel

/-- Pull requests of two repositories with the same number have one link. -/
theorem evidencias_confundidas : ¬NaoConfundidas Unicode.ascii sampleRequisito {}
    [sampleRegistro "org/a" "1512", sampleRegistro "org/b" "1512"] := by
  intro h
  have hlength := h.links.length_eq
  revert hlength
  decide +kernel

end Lifecycle

end ReqSys
