import Mathlib
import ReqSys.Foundation.Serial
import ReqSys.RedmineLifecycle.Workers

/-!
# Redmine lifecycle: the journals

The synchronisations of one requirement, one after the other, over the table and the issue. In
Redmine the issue belongs to everybody: its fields may change at any time, and journals are added,
each with a greater number than those before. A request may fail before or after Redmine has done
what it asks for.

The checkpoint is the greatest number among the journals that the last successful run has read, and
it is stored in the same commit as the events of the journals after the old checkpoint. So each
journal with notes up to the checkpoint has one event, and the others have none.
-/

namespace ReqSys

namespace RedmineLifecycle

open Program

/-! ## The issue in Redmine -/

/-- A journal that is added: by how much it leaves out numbers, and what it says. -/
structure Comentario where
  salto : ℕ := 0
  notes : Option String := none
  user : Option Referencia := none
  createdOn : Option String := none

/-- The number of the last journal. -/
def ultimoId (journals : List Journal) : ℤ := (journals.getLast?.map Journal.id).getD 0

/-- Journals are added at the end. -/
def comentar (journals : List Journal) : List Comentario → List Journal
  | [] => journals
  | c :: cs =>
    comentar (journals ++ [{
      id := ultimoId journals + 1 + c.salto
      notes := c.notes
      user := c.user
      createdOn := c.createdOn }]) cs

/-- What others do with the issue. -/
structure Mudanca where
  /-- Another subject and description. -/
  conteudo : Option (Option String × Option String) := none
  /-- Another status, assignee and ratio. -/
  execucao : Option (Option Referencia × Option Referencia × Option ℤ) := none
  novos : List Comentario := []

def Issue.mudar (issue : Issue) (m : Mudanca) : Issue :=
  let (subject, description) := m.conteudo.getD (issue.subject, issue.description)
  let (status, assignedTo, doneRatio) :=
    m.execucao.getD (issue.status, issue.assignedTo, issue.doneRatio)
  { subject, description, status, assignedTo, doneRatio
    journals := comentar issue.journals m.novos }

/-- An update by ReqSys. -/
def Issue.aplicar (issue : Issue) (campos : List (String × String)) : Issue :=
  { issue with
    subject := (Table.get? "subject" campos).or issue.subject
    description := (Table.get? "description" campos).or issue.description }

/-! ## The table and the issue -/

structure Mundo where
  banco : Banco
  remoto : Issue

/-- What a command gets from outside. -/
structure Ambiente where
  /-- The clock. -/
  agora : DateTime
  /-- What the database raises. -/
  falha : Option String := none
  /-- What others do before Redmine answers. -/
  mudanca : Mudanca := {}
  /-- An update is lost. -/
  semEfeito : Bool := false
  /-- What a request to Redmine raises. -/
  erro : Option Erro := none

/-- The issue when Redmine answers. -/
def Issue.depois (issue : Issue) (e : Ambiente) : Cmd → Issue
  | .obterIssue _ => issue.mudar e.mudanca
  | .atualizarIssue _ campos =>
    (if e.semEfeito then issue else issue.aplicar campos).mudar e.mudanca
  | _ => issue

/-- What the commands get of the issue. -/
def Ambiente.env (e : Ambiente) (issue : Issue) : Env where
  agora := e.agora
  falha := e.falha
  issue := match e.erro with
    | none => .ok issue
    | some x => .error x
  atualizacao := match e.erro with
    | none => .ok ()
    | some x => .error x

def execMundo (link : Option IssueLink) (i : ℕ) (op : Cmd) (e : Ambiente) (w : Mundo) :
    Mundo × Except Erro op.Ans :=
  let remoto := w.remoto.depois e op
  let (banco, r) := exec link i op (e.env remoto) w.banco
  ({ banco, remoto }, r)

/-- The sessions over the table and the issue. -/
def maquinaMundo (link : Option IssueLink) : Machine Cmd.Ans Erro Mundo Ambiente where
  exec := execMundo link
  close i w := { w with banco := (machine link).close i w.banco }

/-- A run of the synchronisation, and what the requirement says then. -/
structure Rodada where
  subject : String
  description : String
  correlationId : String
  actor : String
  dryRun : Bool := false

/-- `montar_campos_requisito_redmine`. -/
def Rodada.desired (c : Rodada) : List (String × String) :=
  [("subject", c.subject), ("description", c.description)]

def Rodada.codigo (cfg : Config) (c : Rodada) : Processo ResultadoSync :=
  sincronizarRequisitoRedmine { cfg with desired := c.desired } c.correlationId c.actor c.dryRun

/-- A run to its end, alone. -/
def Rodou (cfg : Config) (c : Rodada) (es : List Ambiente) (w w' : Mundo)
    (r : Except Erro ResultadoSync) : Prop :=
  ∃ i w₁, (c.codigo cfg).runAlone (maquinaMundo cfg.issueLink) i es w = some (w₁, r) ∧
    w' = (maquinaMundo cfg.issueLink).close i w₁

inductive Passagem
  | redmine (m : Mudanca)
  | rodada (c : Rodada) (r : Except Erro ResultadoSync)

/-- Runs one after the other, with changes of the issue before, in and between them. -/
def historia (cfg : Config) (relogio : DateTime) : TransitionSystem Mundo Passagem where
  init w := w = { banco := { relogio }, remoto := {} }
  step w l w' := match l with
    | .redmine m => w' = { w with remoto := w.remoto.mudar m }
    | .rodada c r => ∃ es, Rodou cfg c es w w' r

/-! ## What is stored -/

/-- The rows of the table. -/
def Banco.linhas (w : Banco) : List Linha × List LinhaEstado × List AuditoriaEvento × ℕ :=
  (w.controles, w.estados, w.auditoria, w.proximoId)

/-- The state that counts. -/
def Banco.estado (w : Banco) : Option EstadoSync := w.estados.getLast?.map LinhaEstado.titulo

/-- The checkpoint. -/
def Banco.lastJournalId (w : Banco) : ℤ := (w.estado.map EstadoSync.lastJournalId).getD 0

/-- The journal that an event is about. -/
def AuditoriaEvento.journalId (evento : AuditoriaEvento) : Option ℤ :=
  match evento.acao, evento.payload with
  | .redmineJournalImportado, .journal _ journalId _ _ _ _ _ => some journalId
  | _, _ => none

/-- How many events a journal has. -/
def Banco.importados (w : Banco) (journalId : ℤ) : ℕ :=
  w.auditoria.countP fun evento ↦ decide (evento.journalId = some journalId)

/-- A journal has notes. -/
def Journal.comNotas (j : Journal) : Bool := PyText.strip (j.notes.getD "") != ""

variable {cfg : Config} {c : Rodada} {w w' : Mundo} {i : ℕ} {A : Ambiente → Prop}

/-! ## The journals of the issue -/

/-- The numbers of the journals are positive and increase. -/
structure Ordenados (journals : List Journal) : Prop where
  positivos : ∀ j ∈ journals, 0 < j.id
  crescentes : journals.Pairwise fun j j' ↦ j.id < j'.id

/-- The journals stay, and others come after them. -/
structure Crescem (journals journals' : List Journal) : Prop where
  inicio : journals <+: journals'
  ordenados : Ordenados journals → Ordenados journals'

theorem Crescem.refl (journals : List Journal) : Crescem journals journals :=
  ⟨List.prefix_refl _, id⟩

theorem Crescem.trans {a b c : List Journal} (h : Crescem a b) (h' : Crescem b c) : Crescem a c :=
  ⟨h.inicio.trans h'.inicio, h'.ordenados ∘ h.ordenados⟩

theorem ultimoId_concat (journals : List Journal) (j : Journal) :
    ultimoId (journals ++ [j]) = j.id := by
  rw [ultimoId, List.getLast?_concat]
  rfl

/-- The last journal has the greatest number. -/
theorem Ordenados.le_ultimoId {journals : List Journal} (h : Ordenados journals) {j : Journal}
    (hj : j ∈ journals) : j.id ≤ ultimoId journals := by
  obtain ⟨-, hcres⟩ := h
  rcases List.eq_nil_or_concat' journals with rfl | ⟨antes, ultimo, rfl⟩
  · exact absurd hj List.not_mem_nil
  · rw [ultimoId_concat]
    obtain hj | hj := List.mem_append.mp hj
    · exact ((List.pairwise_append.mp hcres).2.2 j hj ultimo (List.mem_singleton_self ultimo)).le
    · exact (congrArg Journal.id (List.mem_singleton.mp hj)).le

theorem Ordenados.ultimoId_nonneg {journals : List Journal} (h : Ordenados journals) :
    0 ≤ ultimoId journals := by
  rw [ultimoId]
  rcases hlast : journals.getLast? with _ | j
  · exact le_rfl
  · exact (h.positivos j (List.mem_of_getLast? hlast)).le

theorem crescem_comentar (journals : List Journal) (novos : List Comentario) :
    Crescem journals (comentar journals novos) := by
  induction novos generalizing journals with
  | nil => exact .refl journals
  | cons c cs ih =>
    refine .trans ⟨List.prefix_append _ _, fun h ↦ ⟨?_, ?_⟩⟩ (ih _)
    · intro j hj
      obtain hj | hj := List.mem_append.mp hj
      · exact h.positivos j hj
      · rw [List.mem_singleton.mp hj]
        have := h.ultimoId_nonneg
        change 0 < ultimoId journals + 1 + c.salto
        omega
    · refine List.pairwise_append.mpr ⟨h.crescentes, List.pairwise_singleton _ _, ?_⟩
      -- the new number is greater than all the others
      intro j hj j' hj'
      rw [List.mem_singleton.mp hj']
      have := h.le_ultimoId hj
      change j.id < ultimoId journals + 1 + c.salto
      omega

theorem crescem_mudar (issue : Issue) (m : Mudanca) :
    Crescem issue.journals (issue.mudar m).journals := crescem_comentar _ _

theorem crescem_depois (issue : Issue) (e : Ambiente) (op : Cmd) :
    Crescem issue.journals (issue.depois e op).journals := by
  cases op with
  | obterIssue issueId => exact crescem_mudar issue e.mudanca
  | atualizarIssue issueId campos =>
    rw [Issue.depois]
    split
    · exact crescem_mudar issue e.mudanca
    · exact crescem_mudar (issue.aplicar campos) e.mudanca
  | _ => exact .refl _

/-! ## A run -/

/-- What ReqSys wants other than Redmine has it. -/
def Rodada.changed (c : Rodada) (issue : Issue) : List (String × String) :=
  differing c.desired (ownedRemoteContent issue)

/-- The issue between the two reads of a run that updates it. -/
def Issue.entre (antes : Issue) (campos : List (String × String)) (e e' : Ambiente) : Issue :=
  ((antes.depois e (.atualizarIssue 0 campos)).mudar e'.mudanca)

/-- What a run has read: the issue at first, and the issue that counts. -/
inductive Leu (c : Rodada) (A : Ambiente → Prop) (antes : Issue) : Issue → Bool → Prop
  | igual : (c.changed antes = [] ∨ c.dryRun = true) → Leu c A antes antes false
  | aplicado {e e' : Ambiente} : c.changed antes ≠ [] → c.dryRun = false → A e → A e' →
      differing (c.changed antes) (ownedRemoteContent (antes.entre (c.changed antes) e e')) = [] →
      Leu c A antes (antes.entre (c.changed antes) e e') true

/-- The state that a run stores. -/
def novoEstado (cfg : Config) (c : Rodada) (b : Banco) (issue : Issue) : EstadoSync :=
  stateAfter { cfg with desired := c.desired } issue b.lastJournalId

/-- The events of the journals that a run imports. -/
def eventosDe (cfg : Config) (c : Rodada) (issueId : ℤ) (b : Banco) (issue : Issue) :
    List AuditoriaEvento :=
  (newJournals issue b.lastJournalId).filterMap fun j ↦
    journalEvent { cfg with desired := c.desired } issueId j c.correlationId c.actor

/-- What a run sees of the execution is not what is stored. -/
def execucaoMudou (cfg : Config) (c : Rodada) (b : Banco) (issue : Issue) : Bool :=
  decide (b.estado.map EstadoSync.executionFingerprint
    ≠ some (novoEstado cfg c b issue).executionFingerprint)

/-- The state that a run stores is another one. -/
def estadoMudou (cfg : Config) (c : Rodada) (b : Banco) (issue : Issue) : Bool :=
  decide (b.estado ≠ some (novoEstado cfg c b issue))

/-- What a run has stored. -/
structure Gravou (cfg : Config) (c : Rodada) (b : Banco) (issue : Issue) (applied : Bool)
    (res : ResultadoSync) (b' : Banco) : Prop where
  seco : c.dryRun = true → b'.linhas = b.linhas ∧ res.mutationCount = 0
  estado : c.dryRun = false → b'.estado = some (novoEstado cfg c b issue)
  eventos : c.dryRun = false → ∃ issueId outros, (∀ e ∈ outros, e.journalId = none) ∧
    b'.auditoria = b.auditoria ++ (outros ++ eventosDe cfg c issueId b issue)
  nada : c.dryRun = false → applied = false → b.estado = some (novoEstado cfg c b issue) →
    newJournals issue b.lastJournalId = [] → b'.linhas = b.linhas ∧ res.mutationCount = 0

/-- What a run has not stored, and not taken from the issue. -/
structure Antes (w w' : Mundo) : Prop where
  linhas : w'.banco.linhas = w.banco.linhas
  crescem : Crescem w.remoto.journals w'.remoto.journals

/-- What a run has done. -/
inductive Fez (cfg : Config) (c : Rodada) (A : Ambiente → Prop) (w : Mundo) :
    Except Erro ResultadoSync → Mundo → Prop
  | falhou {x : Erro} {w' : Mundo} : Antes w w' → Fez cfg c A w (.error x) w'
  | sincronizou {res : ResultadoSync} {w' : Mundo} {e : Ambiente} {applied : Bool} : A e →
      Leu c A (w.remoto.mudar e.mudanca) w'.remoto applied →
      Gravou cfg c w.banco w'.remoto applied res w'.banco → Fez cfg c A w (.ok res) w'

/-! ### Commands -/

def Cmd.Consulta : Cmd → Prop
  | .issueLink | .syncStateLink | .obterIssue _ | .atualizarIssue _ _ => True
  | _ => False

/-- What a query answers. -/
def Cmd.Diz (lk : Option IssueLink) (w : Mundo) : (op : Cmd) → op.Ans → Prop
  | .issueLink, a => a = lk
  | .syncStateLink, a => a = w.banco.estados.getLast?
  | .obterIssue _, a => a = w.remoto
  | _, _ => True

variable {lk : Option IssueLink} {w₁ : Mundo}

theorem Antes.refl (w : Mundo) : Antes w w := ⟨rfl, .refl _⟩

theorem Antes.trans {w₂ : Mundo} (h : Antes w w₁) (h' : Antes w₁ w₂) : Antes w w₂ :=
  ⟨h'.linhas.trans h.linhas, h.crescem.trans h'.crescem⟩

theorem Antes.exec (h : Antes w w₁) {op : Cmd} (hop : op.Consulta) (e : Ambiente) :
    Antes w (execMundo lk i op e w₁).1 := by
  refine ⟨.trans ?_ h.linhas, h.crescem.trans (crescem_depois w₁.remoto e op)⟩
  simp only [execMundo, RedmineLifecycle.exec]
  cases op with
  | issueLink | syncStateLink | obterIssue _ | atualizarIssue _ _ => split <;> rfl
  | _ => exact hop.elim

theorem Cmd.diz_exec {op : Cmd} {e : Ambiente} {a : op.Ans} {w₂ : Mundo}
    (h : execMundo lk i op e w₁ = (w₂, .ok a)) : op.Diz lk w₂ a := by
  simp only [execMundo, exec] at h
  split at h
  · cases h
  · cases op with
    | issueLink | syncStateLink =>
      cases h
      rfl
    | obterIssue issueId =>
      simp only [Ambiente.env, efeito] at h
      rcases he : e.erro with _ | x <;> rw [he] at h <;> cases h
      rfl
    | _ => trivial

/-- A query, and the rest. -/
theorem consulta_bind {α : Type} {Q : Except Erro α → Mundo → Prop} {op : Cmd}
    {f : op.Ans → Processo α} (hop : op.Consulta) (hw : Antes w w₁)
    (herror : ∀ x w₂, Antes w w₂ → Q (.error x) w₂)
    (h : ∀ e a w₂, A e → Antes w w₂ → w₂.remoto = w₁.remoto.depois e op → op.Diz lk w₂ a →
      (f a).EndsIn (maquinaMundo lk) i A Eq Q w₂) :
    (run op >>= f).EndsIn (maquinaMundo lk) i A Eq Q w₁ := by
  refine endsIn_perform_bind (fun e he w₂ a hexec ↦ ?_) fun e _ w₂ x hexec ↦ ?_
  · have hw₂ : (execMundo lk i op e w₁).1 = w₂ := congrArg Prod.fst hexec
    refine h e a w₂ he ?_ ?_ (Cmd.diz_exec hexec)
    · exact hw₂ ▸ hw.exec hop e
    · exact hw₂ ▸ rfl
  · have hw₂ : (execMundo lk i op e w₁).1 = w₂ := congrArg Prod.fst hexec
    exact herror x w₂ (hw₂ ▸ hw.exec hop e)

/-- The issue is read, and written if it has to be. -/
theorem aplicarCampos_bind {α : Type} {Q : Except Erro α → Mundo → Prop} {issueId : ℤ}
    {f : Issue × Bool → Processo α} (hw : Antes w w₁)
    (herror : ∀ x w₂, Antes w w₂ → Q (.error x) w₂)
    (h : ∀ b w₂, Antes w w₂ → Leu c A w₁.remoto w₂.remoto b →
      (f (w₂.remoto, b)).EndsIn (maquinaMundo lk) i A Eq Q w₂) :
    (aplicarCampos issueId (c.changed w₁.remoto) w₁.remoto c.dryRun >>= f).EndsIn
      (maquinaMundo lk) i A Eq Q w₁ := by
  rw [aplicarCampos]
  by_cases hchanged : c.changed w₁.remoto = [] ∨ c.dryRun = true
  · rw [if_pos (by simpa using hchanged)]
    exact h false w₁ hw (.igual hchanged)
  · rw [if_neg (by simpa using hchanged), Program.bind_assoc]
    obtain ⟨hne, hdry⟩ := not_or.mp hchanged
    refine consulta_bind trivial hw herror fun e _ w₂ he hw₂ hremoto₂ _ ↦ ?_
    rw [Program.bind_assoc]
    refine consulta_bind trivial hw₂ herror fun e' issue w₃ he' hw₃ hremoto₃ hissue ↦ ?_
    obtain rfl : issue = w₃.remoto := hissue
    dsimp only
    split
    · exact herror _ w₃ hw₃
    next hdif =>
      have hremoto : w₃.remoto = w₁.remoto.entre (c.changed w₁.remoto) e e' := by
        rw [hremoto₃, hremoto₂]
        rfl
      refine h true w₃ hw₃ ?_
      rw [hremoto] at hdif ⊢
      exact .aplicado hne (Bool.eq_false_iff.mpr hdry) he he' (not_not.mp hdif)

/-! ### The commit -/

@[simp]
theorem estado_gravarEstado (b : Banco) (titulo : EstadoSync) :
    (b.gravarEstado (some (b.estados.getLast?.map LinhaEstado.id, titulo))).estado
      = some titulo := by
  rcases List.eq_nil_or_concat' b.estados with hnil | ⟨antes, ultimo, hestados⟩
  · simp [Banco.estado, Banco.gravarEstado, hnil]
  · simp [Banco.estado, Banco.gravarEstado, hestados, Table.update]

theorem eventosDe_eq_nil {b : Banco} {issue : Issue} {issueId : ℤ}
    (h : newJournals issue b.lastJournalId = []) : eventosDe cfg c issueId b issue = [] := by
  rw [eventosDe, h, List.filterMap_nil]

theorem estadoMudou_eq_false {b : Banco} {issue : Issue} :
    estadoMudou cfg c b issue = false ↔ b.estado = some (novoEstado cfg c b issue) := by
  rw [estadoMudou, decide_eq_false_iff_not, not_not]

theorem execucaoMudou_eq_false {b : Banco} {issue : Issue}
    (h : b.estado = some (novoEstado cfg c b issue)) : execucaoMudou cfg c b issue = false := by
  rw [execucaoMudou, decide_eq_false_iff_not, not_not]
  exact congrArg (Option.map EstadoSync.executionFingerprint) h

/-- The command that stores them. -/
theorem gravarSync_exec {eventos : List AuditoriaEvento} {estado : Option (Option ℕ × EstadoSync)}
    {e : Ambiente} {a : Unit}
    (h : execMundo lk i (.gravarSync eventos estado) e w = (w', .ok a)) :
    w'.remoto = w.remoto ∧ w'.banco.estado = (w.banco.gravarEstado estado).estado ∧
      w'.banco.auditoria = w.banco.auditoria ++ eventos := by
  simp only [execMundo, exec] at h
  split at h
  · cases h
  · cases h
    rcases estado with _ | ⟨_ | id, titulo⟩ <;> exact ⟨rfl, rfl, rfl⟩

theorem gravarSync_error {eventos : List AuditoriaEvento}
    {estado : Option (Option ℕ × EstadoSync)} {e : Ambiente} {x : Erro}
    (h : execMundo lk i (.gravarSync eventos estado) e w = (w', .error x)) : Antes w w' := by
  simp only [execMundo, exec] at h
  split at h
  · cases h
    exact ⟨rfl, .refl _⟩
  · cases h

/-- The end of a run: the events and the state are stored, unless there is nothing to store. -/
theorem gravar_endsIn (applied : Bool) {issueId : ℤ} {outros : List AuditoriaEvento}
    {res : ResultadoSync} {Q : Except Erro ResultadoSync → Mundo → Prop} (hw : Antes w w₁)
    (houtros : applied = false → execucaoMudou cfg c w.banco w₁.remoto = false → outros = [])
    (hjournal : ∀ e ∈ outros, e.journalId = none)
    (hcount : res.mutationCount = if c.dryRun = true then 0 else
      applied.toNat + (execucaoMudou cfg c w.banco w₁.remoto).toNat
        + (eventosDe cfg c issueId w.banco w₁.remoto).length
        + (estadoMudou cfg c w.banco w₁.remoto).toNat)
    (herror : ∀ x w', Antes w w' → Q (.error x) w')
    (h : ∀ w', w'.remoto = w₁.remoto → Gravou cfg c w.banco w₁.remoto applied res w'.banco →
      Q (.ok res) w') :
    EndsIn (maquinaMundo lk) i A Eq Q
      (if (!c.dryRun && (applied || execucaoMudou cfg c w.banco w₁.remoto
          || !(eventosDe cfg c issueId w.banco w₁.remoto).isEmpty
          || estadoMudou cfg c w.banco w₁.remoto)) = true then
        run (.gravarSync (outros ++ eventosDe cfg c issueId w.banco w₁.remoto)
          (if estadoMudou cfg c w.banco w₁.remoto = true then
            some (w.banco.estados.getLast?.map LinhaEstado.id,
              novoEstado cfg c w.banco w₁.remoto)
          else none)) >>= fun _ ↦ .ret res
      else .ret res) w₁ := by
  have hestados : w₁.banco.estados = w.banco.estados := congrArg (·.2.1) hw.linhas
  have hestado : w₁.banco.estado = w.banco.estado := by rw [Banco.estado, hestados, Banco.estado]
  have hauditoria : w₁.banco.auditoria = w.banco.auditoria := congrArg (·.2.2.1) hw.linhas
  split
  next hmuda =>
    simp only [Bool.and_eq_true, Bool.not_eq_true'] at hmuda
    obtain ⟨hdry, hmuda⟩ := hmuda
    refine endsIn_perform_bind (fun e _ w₂ _ hexec ↦ ?_) fun e _ w₂ x hexec ↦
      herror x w₂ (hw.trans (gravarSync_error hexec))
    obtain ⟨hremoto₂, hestado₂, hauditoria₂⟩ := gravarSync_exec hexec
    refine h w₂ hremoto₂ ⟨?_, fun _ ↦ ?_, fun _ ↦ ?_, fun _ happ hest hnew ↦ ?_⟩
    · rw [hdry]
      intro hfalse
      cases hfalse
    · rw [hestado₂]
      split
      · rw [← hestados, estado_gravarEstado]
      next hsem =>
        rw [← estadoMudou_eq_false.mp (Bool.eq_false_iff.mpr hsem), ← hestado]
        rfl
    · exact ⟨issueId, outros, hjournal, by rw [hauditoria₂, hauditoria]⟩
    · rw [happ, execucaoMudou_eq_false hest, eventosDe_eq_nil hnew,
        estadoMudou_eq_false.mpr hest] at hmuda
      cases hmuda
  next hmuda =>
    rw [Bool.and_eq_true, not_and] at hmuda
    refine h w₁ rfl ⟨fun hdry ↦ ⟨hw.linhas, by rw [hcount, if_pos hdry]⟩, fun hdry ↦ ?_,
      fun hdry ↦ ?_, fun hdry happ hest hnew ↦ ⟨hw.linhas, ?_⟩⟩
    · have hmuda := hmuda (by rw [hdry]; rfl)
      simp only [Bool.or_eq_true, not_or, Bool.not_eq_true] at hmuda
      rw [hestado]
      exact estadoMudou_eq_false.mp hmuda.2
    · have hmuda := hmuda (by rw [hdry]; rfl)
      simp only [Bool.or_eq_true, not_or, Bool.not_eq_true, Bool.not_eq_false',
        List.isEmpty_iff] at hmuda
      obtain ⟨⟨⟨happ, hexec⟩, heventos⟩, -⟩ := hmuda
      refine ⟨issueId, outros, hjournal, ?_⟩
      rw [houtros happ hexec, heventos, hauditoria, List.nil_append, List.append_nil]
    · rw [hcount, if_neg (by rw [hdry]; exact Bool.false_ne_true), happ,
        execucaoMudou_eq_false hest, eventosDe_eq_nil hnew, estadoMudou_eq_false.mpr hest]
      rfl

/-- What a run to its end does. -/
theorem codigo_endsIn :
    (c.codigo cfg).EndsIn (maquinaMundo lk) i A Eq (Fez cfg c A w) w := by
  rw [Rodada.codigo, sincronizarRequisitoRedmine, exigirIssueLink]
  simp only [Program.bind_assoc]
  refine consulta_bind trivial (.refl w) (fun _ _ ↦ .falhou) fun _ link w₁ _ hw₁ hremoto₁ hlink ↦ ?_
  rcases link with _ | link
  · exact .falhou hw₁
  dsimp only
  rcases cfg.int link.referencia with _ | issueId
  · exact .falhou hw₁
  dsimp only
  split
  · exact .falhou hw₁
  refine consulta_bind trivial hw₁ (fun _ _ ↦ .falhou) fun _ stateLink w₂ _ hw₂ hremoto₂ hlink ↦ ?_
  obtain rfl : stateLink = w₂.banco.estados.getLast? := hlink
  refine consulta_bind trivial hw₂ (fun _ _ ↦ .falhou) fun e issue w₃ he hw₃ hremoto₃ hissue ↦ ?_
  obtain rfl : issue = w₃.remoto := hissue
  refine aplicarCampos_bind (c := c) hw₃ (fun _ _ ↦ .falhou) fun applied w₄ hw₄ hleu ↦ ?_
  have hremoto : w₃.remoto = w.remoto.mudar e.mudanca := by
    rw [hremoto₃, hremoto₂, hremoto₁]
    rfl
  dsimp only
  have hestados : w₂.banco.estados = w.banco.estados := congrArg (·.2.1) hw₂.linhas
  rw [hestados]
  refine gravar_endsIn (c := c) applied hw₄ ?_ ?_ rfl (fun _ _ ↦ .falhou)
    fun w₅ hremoto₅ hgravou ↦ ?_
  · intro happ hexec
    rw [if_neg (Bool.eq_false_iff.mp happ)]
    exact if_neg (Bool.eq_false_iff.mp hexec)
  · intro evento hevento
    obtain hevento | hevento := List.mem_append.mp hevento
    all_goals
      split at hevento
      · rw [List.mem_singleton.mp hevento]
        rfl
      · exact absurd hevento List.not_mem_nil
  · rw [hremoto] at hleu
    rw [← hremoto₅] at hleu
    exact .sincronizou he hleu (hremoto₅ ▸ hgravou)

theorem Fez.close {r : Except Erro ResultadoSync} (h : Fez cfg c A w r w') :
    Fez cfg c A w r ((maquinaMundo lk).close i w') := by
  cases h with
  | falhou h => exact .falhou ⟨h.linhas, h.crescem⟩
  | sincronizou he hleu hgravou =>
    exact .sincronizou he hleu ⟨hgravou.seco, hgravou.estado, hgravou.eventos, hgravou.nada⟩

theorem Rodou.fez {es : List Ambiente} {r : Except Erro ResultadoSync}
    (h : Rodou cfg c es w w' r) : Fez cfg c (· ∈ es) w r w' := by
  obtain ⟨i, w₁, hrun, rfl⟩ := h
  exact (EndsIn.runAlone (fun _ ↦ rfl) codigo_endsIn (fun _ ↦ id) hrun).close

theorem Leu.crescem {antes depois : Issue} {applied : Bool} (h : Leu c A antes depois applied) :
    Crescem antes.journals depois.journals := by
  cases h with
  | igual _ => exact .refl _
  | aplicado _ _ _ _ _ => exact (crescem_depois antes _ _).trans (crescem_mudar _ _)

theorem Fez.crescem {r : Except Erro ResultadoSync} (h : Fez cfg c A w r w') :
    Crescem w.remoto.journals w'.remoto.journals := by
  cases h with
  | falhou h => exact h.crescem
  | sincronizou _ hleu _ => exact (crescem_mudar _ _).trans hleu.crescem

/-! ## The checkpoint -/

theorem le_maxJournalId (n : ℤ) (journals : List Journal) : n ≤ maxJournalId n journals := by
  rw [maxJournalId]
  induction journals generalizing n with
  | nil => exact le_rfl
  | cons j journals ih => exact (le_max_left n j.id).trans (ih _)

theorem id_le_maxJournalId {n : ℤ} {journals : List Journal} {j : Journal} (hj : j ∈ journals) :
    j.id ≤ maxJournalId n journals := by
  rw [maxJournalId]
  induction journals generalizing n with
  | nil => exact absurd hj List.not_mem_nil
  | cons k journals ih =>
    obtain rfl | hj := List.mem_cons.mp hj
    · exact (le_max_right n j.id).trans (le_maxJournalId _ journals)
    · exact ih hj

theorem maxJournalId_le {n m : ℤ} {journals : List Journal} (hn : n ≤ m)
    (h : ∀ j ∈ journals, j.id ≤ m) : maxJournalId n journals ≤ m := by
  rw [maxJournalId]
  induction journals generalizing n with
  | nil => exact hn
  | cons j journals ih =>
    obtain ⟨hj, h⟩ := List.forall_mem_cons.mp h
    exact ih (max_le hn hj) h

theorem mem_newJournals {issue : Issue} {n : ℤ} {j : Journal} :
    j ∈ newJournals issue n ↔ j ∈ issue.journals ∧ n < j.id := by
  rw [newJournals, List.mem_insertionSort, List.mem_filter, decide_eq_true_iff]

/-- The new checkpoint is the number of the last journal. -/
theorem maxJournalId_newJournals {issue : Issue} {n : ℤ} (hord : Ordenados issue.journals)
    (hn : n ≤ ultimoId issue.journals) (hzero : 0 ≤ n) :
    maxJournalId n (newJournals issue n) = ultimoId issue.journals := by
  refine le_antisymm (maxJournalId_le hn fun j hj ↦ hord.le_ultimoId (mem_newJournals.mp hj).1) ?_
  obtain hlt | hge := lt_or_ge n (ultimoId issue.journals)
  · rw [ultimoId] at hlt ⊢
    rcases hlast : issue.journals.getLast? with _ | j
    · rw [hlast] at hlt
      exact absurd hlt hzero.not_gt
    · rw [hlast] at hlt
      exact id_le_maxJournalId (mem_newJournals.mpr ⟨List.mem_of_getLast? hlast, hlt⟩)
  · exact hge.trans (le_maxJournalId n _)

/-- After the last journal there is none. -/
theorem newJournals_ultimoId {issue : Issue} (hord : Ordenados issue.journals) :
    newJournals issue (ultimoId issue.journals) = [] := by
  rw [List.eq_nil_iff_forall_not_mem]
  intro j hj
  obtain ⟨hj, hlt⟩ := mem_newJournals.mp hj
  exact (hord.le_ultimoId hj).not_gt hlt

/-- The journals that are added have greater numbers. -/
theorem Crescem.mem_of_le {journals journals' : List Journal} (h : Crescem journals journals')
    (hord : Ordenados journals) {j : Journal} (hj : j ∈ journals')
    (hle : j.id ≤ ultimoId journals) : j ∈ journals := by
  obtain ⟨novos, rfl⟩ := h.inicio
  obtain ⟨hpos, hcres⟩ := h.ordenados hord
  obtain hj' | hj' := List.mem_append.mp hj
  · exact hj'
  · rw [ultimoId] at hle
    rcases hlast : journals.getLast? with _ | k
    · rw [hlast] at hle
      exact absurd hle (hpos j hj).not_ge
    · rw [hlast] at hle
      have hlt := (List.pairwise_append.mp hcres).2.2 k (List.mem_of_getLast? hlast) j hj'
      exact absurd hle hlt.not_ge

theorem Crescem.ultimoId_le {journals journals' : List Journal} (h : Crescem journals journals')
    (hord : Ordenados journals) : ultimoId journals ≤ ultimoId journals' := by
  have hord' := h.ordenados hord
  rw [ultimoId]
  rcases hlast : journals.getLast? with _ | j
  · exact hord'.ultimoId_nonneg
  · exact hord'.le_ultimoId (h.inicio.subset (List.mem_of_getLast? hlast))

/-! ## The events -/

/-- The event of a journal is about it, and only journals with notes have one. -/
theorem journalId_journalEvent {cfg : Config} {issueId : ℤ} {j : Journal}
    {correlationId actor : String} {n : ℤ} :
    ((journalEvent cfg issueId j correlationId actor).map
      fun evento ↦ decide (evento.journalId = some n)).getD false
        = (j.comNotas && decide (j.id = n)) := by
  rw [journalEvent, Journal.comNotas]
  by_cases hnotes : PyText.strip (j.notes.getD "") = ""
  · rw [if_pos hnotes, hnotes]
    rfl
  · rw [if_neg hnotes, bne_iff_ne.mpr hnotes, Bool.true_and]
    simp [AuditoriaEvento.journalId]

/-- The events that are stored. -/
theorem Gravou.importados {b b' : Banco} {issue : Issue} {applied : Bool} {res : ResultadoSync}
    (h : Gravou cfg c b issue applied res b') (hdry : c.dryRun = false) (n : ℤ) :
    b'.importados n = b.importados n + issue.journals.countP fun j ↦
      (j.comNotas && decide (j.id = n)) && decide (b.lastJournalId < j.id) := by
  obtain ⟨issueId, outros, houtros, hauditoria⟩ := h.eventos hdry
  have houtros : outros.countP (fun evento ↦ decide (evento.journalId = some n)) = 0 := by
    refine List.countP_eq_zero.mpr fun evento hevento ↦ ?_
    rw [houtros evento hevento]
    exact Bool.false_ne_true
  rw [Banco.importados, hauditoria, List.countP_append, List.countP_append, houtros, zero_add,
    eventosDe, List.countP_filterMap, Banco.importados, newJournals,
    (List.perm_insertionSort _ _).countP_eq, List.countP_filter]
  refine congrArg _ (List.countP_congr fun j _ ↦ ?_)
  rw [journalId_journalEvent]

/-- Of the journals with a number there is one. -/
theorem Ordenados.countP_id {journals : List Journal} (h : Ordenados journals) {j : Journal}
    (hj : j ∈ journals) {p : Journal → Bool} (hp : p j = true)
    (hid : ∀ k, p k = true → k.id = j.id) : journals.countP p = 1 := by
  obtain ⟨antes, depois, rfl⟩ := List.append_of_mem hj
  obtain ⟨-, hdepois, hantes⟩ := List.pairwise_append.mp h.crescentes
  have hantes : antes.countP p = 0 := by
    refine List.countP_eq_zero.mpr fun k hk hpk ↦ ?_
    exact (hantes k hk j List.mem_cons_self).ne (hid k hpk)
  have hdepois : depois.countP p = 0 := by
    refine List.countP_eq_zero.mpr fun k hk hpk ↦ ?_
    exact ((List.pairwise_cons.mp hdepois).1 k hk).ne' (hid k hpk)
  rw [List.countP_append, List.countP_cons, hantes, hdepois, if_pos hp]

/-! ## Runs -/

/-- The journals with notes up to the checkpoint have one event each, and the others none. -/
structure EmDia (w : Mundo) : Prop where
  ordenados : Ordenados w.remoto.journals
  nonneg : 0 ≤ w.banco.lastJournalId
  le : w.banco.lastJournalId ≤ ultimoId w.remoto.journals
  importados : ∀ j ∈ w.remoto.journals, j.comNotas = true → j.id ≤ w.banco.lastJournalId →
    w.banco.importados j.id = 1
  restantes : ∀ n, w.banco.lastJournalId < n → w.banco.importados n = 0

theorem lastJournalId_congr {b b' : Banco} (h : b'.linhas = b.linhas) :
    b'.lastJournalId = b.lastJournalId := by
  have hestados : b'.estados = b.estados := congrArg (·.2.1) h
  rw [Banco.lastJournalId, Banco.estado, hestados, Banco.lastJournalId, Banco.estado]

theorem importados_congr {b b' : Banco} (h : b'.linhas = b.linhas) (n : ℤ) :
    b'.importados n = b.importados n := by
  have hauditoria : b'.auditoria = b.auditoria := congrArg (·.2.2.1) h
  rw [Banco.importados, hauditoria, Banco.importados]

/-- Nothing is stored, and journals may be added. -/
theorem EmDia.crescer (h : EmDia w) (hlinhas : w'.banco.linhas = w.banco.linhas)
    (hcrescem : Crescem w.remoto.journals w'.remoto.journals) : EmDia w' := by
  have hlast := lastJournalId_congr hlinhas
  have himportados := importados_congr hlinhas
  refine ⟨hcrescem.ordenados h.ordenados, hlast ▸ h.nonneg, ?_, fun j hj hnotas hle ↦ ?_,
    fun n hn ↦ ?_⟩
  · rw [hlast]
    exact h.le.trans (hcrescem.ultimoId_le h.ordenados)
  · rw [hlast] at hle
    rw [himportados]
    exact h.importados j (hcrescem.mem_of_le h.ordenados hj (hle.trans h.le)) hnotas hle
  · rw [hlast] at hn
    rw [himportados]
    exact h.restantes n hn

/-- A run that stores what it has read. -/
theorem EmDia.gravou {applied : Bool} {res : ResultadoSync} (h : EmDia w)
    (hcrescem : Crescem w.remoto.journals w'.remoto.journals) (hdry : c.dryRun = false)
    (hgravou : Gravou cfg c w.banco w'.remoto applied res w'.banco) :
    EmDia w' ∧ w'.banco.lastJournalId = ultimoId w'.remoto.journals := by
  have hord := hcrescem.ordenados h.ordenados
  have hlast : w'.banco.lastJournalId = ultimoId w'.remoto.journals := by
    rw [Banco.lastJournalId, hgravou.estado hdry]
    exact maxJournalId_newJournals hord (h.le.trans (hcrescem.ultimoId_le h.ordenados)) h.nonneg
  have hle : w.banco.lastJournalId ≤ w'.banco.lastJournalId := by
    rw [hlast]
    exact h.le.trans (hcrescem.ultimoId_le h.ordenados)
  refine ⟨⟨hord, h.nonneg.trans hle, hlast.le, fun j hj hnotas _ ↦ ?_, fun n hn ↦ ?_⟩, hlast⟩
  · rw [hgravou.importados hdry]
    obtain hvelho | hnovo := le_or_gt j.id w.banco.lastJournalId
    · -- the journal has its event, and does not get another one
      have hj' := hcrescem.mem_of_le h.ordenados hj (hvelho.trans h.le)
      rw [h.importados j hj' hnotas hvelho, List.countP_eq_zero.mpr]
      intro k _ hk
      simp only [Bool.and_eq_true, decide_eq_true_eq] at hk
      omega
    · -- it has none, and gets one
      rw [h.restantes j.id hnovo, hord.countP_id hj]
      · simp only [hnotas, decide_true, Bool.true_and, decide_eq_true_eq]
        exact hnovo
      · intro k hk
        simp only [Bool.and_eq_true, decide_eq_true_eq] at hk
        exact hk.1.2
  · rw [hgravou.importados hdry, h.restantes n (hle.trans_lt hn), List.countP_eq_zero.mpr]
    intro k hk hpk
    simp only [Bool.and_eq_true, decide_eq_true_eq] at hpk
    have := hord.le_ultimoId hk
    omega

/-- What every run preserves. -/
theorem EmDia.fez {r : Except Erro ResultadoSync} (h : EmDia w) (hfez : Fez cfg c A w r w') :
    EmDia w' := by
  cases hfez with
  | falhou hantes => exact h.crescer hantes.linhas hantes.crescem
  | sincronizou _ hleu hgravou =>
    have hcrescem := (crescem_mudar w.remoto _).trans hleu.crescem
    rcases hdry : c.dryRun with _ | _
    · exact (h.gravou hcrescem hdry hgravou).1
    · exact h.crescer (hgravou.seco hdry).1 hcrescem

theorem EmDia.step {relogio : DateTime} {l : Passagem} (h : EmDia w)
    (hstep : (historia cfg relogio).step w l w') : EmDia w' := by
  cases l with
  | redmine m =>
    obtain rfl : w' = _ := hstep
    exact h.crescer rfl (crescem_mudar _ m)
  | rodada c r =>
    obtain ⟨es, hrodou⟩ := hstep
    exact h.fez hrodou.fez

theorem emDia_of_run {relogio : DateTime} {tr : List Passagem}
    (hrun : (historia cfg relogio).Run tr w) : EmDia w := by
  refine hrun.invariant (I := EmDia) ?_ EmDia.step
  rintro w rfl
  exact ⟨⟨List.forall_mem_nil _, List.Pairwise.nil⟩, le_rfl, le_rfl, List.forall_mem_nil _,
    fun _ _ ↦ rfl⟩

/-- The checkpoint does not decrease. -/
theorem lastJournalId_le_of_step {relogio : DateTime} {l : Passagem} (h : EmDia w)
    (hstep : (historia cfg relogio).step w l w') :
    w.banco.lastJournalId ≤ w'.banco.lastJournalId := by
  cases l with
  | redmine m =>
    obtain rfl : w' = _ := hstep
    exact le_rfl
  | rodada c r =>
    obtain ⟨es, hrodou⟩ := hstep
    cases hrodou.fez with
    | falhou hantes => exact (lastJournalId_congr hantes.linhas).ge
    | sincronizou _ hleu hgravou =>
      have hcrescem := (crescem_mudar w.remoto _).trans hleu.crescem
      rcases hdry : c.dryRun with _ | _
      · rw [(h.gravou hcrescem hdry hgravou).2]
        exact h.le.trans (hcrescem.ultimoId_le h.ordenados)
      · exact (lastJournalId_congr (hgravou.seco hdry).1).ge

theorem lastJournalId_le_of_path {relogio : DateTime} {tr : List Passagem} (h : EmDia w)
    (hpath : (historia cfg relogio).Path w tr w') :
    w.banco.lastJournalId ≤ w'.banco.lastJournalId := by
  refine (hpath.preserves (P := fun v ↦ EmDia v ∧ w.banco.lastJournalId ≤ v.banco.lastJournalId)
    ?_ ⟨h, le_rfl⟩).2
  rintro v _ v' ⟨hv, hle⟩ hstep
  exact ⟨hv.step hstep, hle.trans (lastJournalId_le_of_step hv hstep)⟩

/-! ## A second run -/

/-- An update leaves the other fields alone. -/
theorem get?_aplicar {issue : Issue} {campos : List (String × String)} {k : String}
    (hk : Table.get? k campos = none) :
    Table.get? k (ownedRemoteContent (issue.aplicar campos))
      = Table.get? k (ownedRemoteContent issue) := by
  have hresto {a b : String} (hs : k ≠ "subject") (hd : k ≠ "description") :
      Table.get? k [("subject", a), ("description", b)] = none := by
    rw [Table.get?_eq_none]
    rintro e he rfl
    rcases List.mem_cons.mp he with rfl | he
    · exact hs rfl
    · exact hd (congrArg Prod.fst (List.mem_singleton.mp he))
  by_cases hs : k = "subject"
  · subst hs
    rw [ownedRemoteContent, Issue.aplicar, hk, Option.none_or]
    rfl
  · by_cases hd : k = "description"
    · subst hd
      rw [ownedRemoteContent, Issue.aplicar, hk, Option.none_or]
      rfl
    · rw [ownedRemoteContent, hresto hs hd, ownedRemoteContent, hresto hs hd]

theorem Issue.mudar_conteudo {issue : Issue} {m : Mudanca} (h : m.conteudo = none) :
    ownedRemoteContent (issue.mudar m) = ownedRemoteContent issue := by
  rw [Issue.mudar, h]
  rfl

/-- After a run the fields are those that ReqSys wants. -/
theorem Leu.changed {antes depois : Issue} {applied : Bool} (h : Leu c A antes depois applied)
    (hdry : c.dryRun = false) (hA : ∀ e, A e → e.mudanca.conteudo = none) :
    c.changed depois = [] := by
  cases h with
  | igual hsem =>
    obtain hsem | hdry' := hsem
    · exact hsem
    · rw [hdry] at hdry'
      cases hdry'
  | @aplicado e e' _ _ he he' hdif =>
    rw [Rodada.changed, differing, List.filter_eq_nil_iff]
    rintro ⟨k, v⟩ hkv hne
    by_cases hmem : (k, v) ∈ c.changed antes
    · -- the field was written, and read again
      exact List.filter_eq_nil_iff.mp hdif (k, v) hmem hne
    · have hantes : Table.get? k (ownedRemoteContent antes) = some v := by
        by_contra hne'
        exact hmem (List.mem_filter.mpr ⟨hkv, decide_eq_true hne'⟩)
      have hk : Table.get? k (c.changed antes) = none := by
        rw [Table.get?_eq_none]
        rintro ⟨_, v'⟩ hmem' rfl
        have hv' : v = v' := by
          have hkeyed : Table.Keyed Prod.fst c.desired := by
            simp [Table.Keyed, Rodada.desired]
          exact congrArg Prod.snd
            (hkeyed.eq_of_key_eq hkv (List.mem_filter.mp hmem').1 rfl)
        exact hmem (hv' ▸ hmem')
      have hdepois : Table.get? k (ownedRemoteContent (antes.entre (c.changed antes) e e'))
          = some v := by
        rw [Issue.entre, Issue.mudar_conteudo (hA e' he'), Issue.depois,
          Issue.mudar_conteudo (hA e he)]
        split
        · exact hantes
        · rw [get?_aplicar hk, hantes]
      exact of_decide_eq_true hne hdepois

theorem Leu.of_changed_eq_nil {antes depois : Issue} {applied : Bool}
    (h : Leu c A antes depois applied) (hc : c.changed antes = []) :
    depois = antes ∧ applied = false := by
  cases h with
  | igual _ => exact ⟨rfl, rfl⟩
  | aplicado hne _ _ _ _ => exact absurd hc hne

/-- A second run has nothing to do. -/
theorem Fez.again {c' : Rodada} {w'' : Mundo} {res : ResultadoSync} {A' : Ambiente → Prop}
    {r : Except Erro ResultadoSync} (h : EmDia w) (hfez : Fez cfg c A w (.ok res) w')
    (hdry : c.dryRun = false) (hA : ∀ e, A e → e.mudanca.conteudo = none)
    (hc : c'.desired = c.desired) (hA' : ∀ e, A' e → e.mudanca = {})
    (hfez' : Fez cfg c' A' w' r w'') :
    w''.banco.linhas = w'.banco.linhas ∧
      ∀ res', r = .ok res' → w''.remoto = w'.remoto ∧ res'.mutationCount = 0 := by
  cases hfez with
  | sincronizou _ hleu hgravou =>
    have hcrescem := (crescem_mudar w.remoto _).trans hleu.crescem
    obtain ⟨hemdia, hlast⟩ := h.gravou hcrescem hdry hgravou
    cases hfez' with
    | falhou hantes =>
      refine ⟨hantes.linhas, ?_⟩
      rintro _ ⟨⟩
    | @sincronizou res' _ e' applied he' hleu' hgravou' =>
      have hmudar : w'.remoto.mudar e'.mudanca = w'.remoto := by
        rw [hA' e' he']
        rfl
      rw [hmudar] at hleu'
      have hchanged : c'.changed w'.remoto = [] := by
        rw [Rodada.changed, hc]
        exact hleu.changed hdry hA
      obtain ⟨hremoto, happ⟩ := hleu'.of_changed_eq_nil hchanged
      rw [hremoto, happ] at hgravou'
      have hnew : newJournals w'.remoto w'.banco.lastJournalId = [] := by
        rw [hlast]
        exact newJournals_ultimoId hemdia.ordenados
      have hestado : w'.banco.estado = some (novoEstado cfg c' w'.banco w'.remoto) := by
        have hmax : maxJournalId w.banco.lastJournalId
            (newJournals w'.remoto w.banco.lastJournalId) = w'.banco.lastJournalId := by
          rw [Banco.lastJournalId.eq_def w'.banco, hgravou.estado hdry]
          rfl
        rw [hgravou.estado hdry, novoEstado, novoEstado, stateAfter, stateAfter, hc, hnew, hmax]
        rfl
      obtain ⟨hlinhas, hcount⟩ : w''.banco.linhas = w'.banco.linhas ∧ res'.mutationCount = 0 := by
        rcases hdry' : c'.dryRun with _ | _
        · exact hgravou'.nada hdry' rfl hestado hnew
        · exact hgravou'.seco hdry'
      refine ⟨hlinhas, ?_⟩
      rintro _ ⟨⟩
      exact ⟨hremoto, hcount⟩

/-- **The journals are imported once.** After a run that succeeds and is not dry, each journal with
notes has one event and the checkpoint is the number of the last journal; the checkpoint never
decreases; and if nobody else has written the fields of the issue during the run, a second run with
nothing changed has nothing to do. -/
theorem journals_imported_once (cfg : Config) (relogio : DateTime) {tr : List Passagem} {w : Mundo}
    (hrun : (historia cfg relogio).Run tr w) :
    (∀ tr' w', (historia cfg relogio).Path w tr' w' →
      w.banco.lastJournalId ≤ w'.banco.lastJournalId) ∧
    ∀ c es w' res, c.dryRun = false → Rodou cfg c es w w' (.ok res) →
      (∀ j ∈ w'.remoto.journals, j.comNotas = true → w'.banco.importados j.id = 1) ∧
      w'.banco.lastJournalId = ultimoId w'.remoto.journals ∧
      (∀ j ∈ w'.remoto.journals, j.id ≤ w'.banco.lastJournalId) ∧
      ((∀ e ∈ es, e.mudanca.conteudo = none) → ∀ c' es' w'' r, c'.subject = c.subject →
        c'.description = c.description → (∀ e ∈ es', e.mudanca = {}) →
        Rodou cfg c' es' w' w'' r → w''.banco.linhas = w'.banco.linhas ∧
          ∀ res', r = .ok res' → w''.remoto = w'.remoto ∧ res'.mutationCount = 0) := by
  have hemdia := emDia_of_run hrun
  refine ⟨fun _ _ ↦ lastJournalId_le_of_path hemdia, fun c es w' res hdry hrodou ↦ ?_⟩
  have hfez := hrodou.fez
  obtain ⟨hemdia', hlast⟩ : EmDia w' ∧ w'.banco.lastJournalId = ultimoId w'.remoto.journals := by
    cases hfez with
    | sincronizou _ hleu hgravou =>
      exact hemdia.gravou ((crescem_mudar w.remoto _).trans hleu.crescem) hdry hgravou
  have hle : ∀ j ∈ w'.remoto.journals, j.id ≤ w'.banco.lastJournalId := by
    rw [hlast]
    exact fun j ↦ hemdia'.ordenados.le_ultimoId
  refine ⟨fun j hj hnotas ↦ hemdia'.importados j hj hnotas (hle j hj), hlast, hle, ?_⟩
  intro hconteudo c' es' w'' r hsubject hdescription hes' hrodou'
  refine hfez.again hemdia hdry hconteudo ?_ hes' hrodou'.fez
  rw [Rodada.desired, hsubject, hdescription, Rodada.desired]

/-! ## Two small runs -/

/-- The requirement of issue 7, with short fingerprints. -/
def sampleResumos : Config :=
  { sampleConfig with
    fingerprintCampos := fun campos ↦ String.intercalate "|" (campos.map Prod.snd)
    fingerprintExecucao := fun execucao ↦ execucao.statusName.getD "" }

/-- The issue with a comment. -/
def sampleComentada : Mudanca where
  conteudo := some (some "antigo", some "d")
  novos := [{ notes := some "ok" }]

/-- The issue before the first run. -/
def sampleMundo : Mundo where
  banco := { relogio := .newYearNoon }
  remoto := ({} : Issue).mudar sampleComentada

def sampleRodada : Rodada where
  subject := "s"
  description := "d"
  correlationId := "c"
  actor := "batch"

/-- Noon, and nobody does anything. -/
def sampleAmbiente : Ambiente where
  agora := .newYearNoon

/-- Somebody writes another description when the issue is read for the second time. -/
def sampleEdicao : Ambiente where
  agora := .newYearNoon
  mudanca := { conteudo := some (some "s", some "outra") }

/-- A run that succeeds. -/
def sampleRoda (es : List Ambiente) (w : Mundo) : Option (Mundo × ResultadoSync) :=
  match (sampleRodada.codigo sampleResumos).runAlone (maquinaMundo sampleResumos.issueLink) 0 es w
  with
  | some (w₁, .ok r) => some ((maquinaMundo sampleResumos.issueLink).close 0 w₁, r)
  | _ => none

theorem rodou_of_sampleRoda {es : List Ambiente} {res : ResultadoSync}
    (h : sampleRoda es w = some (w', res)) :
    Rodou sampleResumos sampleRodada es w w' (.ok res) := by
  rw [sampleRoda] at h
  split at h
  next w₁ r₁ hrun =>
    cases h
    exact ⟨0, w₁, hrun, rfl⟩
  next => cases h

theorem run_sampleMundo :
    (historia sampleResumos .newYearNoon).Run [.redmine sampleComentada] sampleMundo :=
  ⟨_, rfl, .single rfl⟩

/-- The issue has a comment, and the first run imports it. -/
theorem journals_imported_once_sample : ∃ w' res w'' res',
    Rodou sampleResumos sampleRodada (List.replicate 8 sampleAmbiente) sampleMundo w' (.ok res) ∧
    w'.banco.importados 1 = 1 ∧ w'.banco.lastJournalId = 1 ∧ res.mutationCount = 4 ∧
    Rodou sampleResumos sampleRodada (List.replicate 8 sampleAmbiente) w' w'' (.ok res') ∧
    res'.mutationCount = 0 := by
  have hruns : ((sampleRoda (List.replicate 8 sampleAmbiente) sampleMundo).bind fun x ↦
      (sampleRoda (List.replicate 8 sampleAmbiente) x.1).map fun _ ↦
        (x.2.mutationCount, x.1.remoto.journals.map fun j ↦ (j.id, j.comNotas)))
      = some (4, [(1, true)]) := by decide +kernel
  obtain ⟨⟨w', res⟩, hroda, hruns⟩ := Option.bind_eq_some_iff.mp hruns
  obtain ⟨⟨w'', res'⟩, hroda', hfacts⟩ := Option.map_eq_some_iff.mp hruns
  simp only [Prod.mk.injEq] at hfacts
  obtain ⟨hcount, hjournals⟩ := hfacts
  have hrodou := rodou_of_sampleRoda hroda
  have hrodou' := rodou_of_sampleRoda hroda'
  have hsem : ∀ e ∈ List.replicate 8 sampleAmbiente, e.mudanca = {} :=
    fun e he ↦ by rw [List.eq_of_mem_replicate he]; rfl
  obtain ⟨himportados, hlast, -, hsegunda⟩ := (journals_imported_once sampleResumos .newYearNoon
    run_sampleMundo).2 sampleRodada _ w' res rfl hrodou
  have hsegunda := hsegunda (fun e he ↦ by rw [hsem e he]) sampleRodada _ w'' (.ok res') rfl rfl
    hsem hrodou'
  have hj : ∃ j, w'.remoto.journals = [j] ∧ j.id = 1 ∧ j.comNotas = true := by
    obtain ⟨j, hj, hid⟩ := List.map_eq_singleton_iff.mp hjournals
    simp only [Prod.mk.injEq] at hid
    exact ⟨j, hj, hid⟩
  obtain ⟨j, hj, hid, hnotas⟩ := hj
  refine ⟨w', res, w'', res', hrodou, ?_, ?_, hcount, hrodou', (hsegunda.2 res' rfl).2⟩
  · exact hid ▸ himportados j (hj ▸ List.mem_singleton_self j) hnotas
  · rw [hlast, hj]
    exact hid

/-- The second read of a run does not look at the description, which somebody has just written: the
second run writes it, although nothing has changed since the first. -/
theorem second_run_writes : ∃ tr w es w' res es' w'' res',
    (historia sampleResumos .newYearNoon).Run tr w ∧
    Rodou sampleResumos sampleRodada es w w' (.ok res) ∧ (∀ e ∈ es', e.mudanca = {}) ∧
    Rodou sampleResumos sampleRodada es' w' w'' (.ok res') ∧ res'.mutationCount ≠ 0 := by
  have hruns : ((sampleRoda (List.replicate 4 sampleAmbiente ++ [sampleEdicao, sampleAmbiente])
      sampleMundo).bind fun x ↦ (sampleRoda (List.replicate 8 sampleAmbiente) x.1).map fun y ↦
        y.2.mutationCount) = some 1 := by decide +kernel
  obtain ⟨⟨w', res⟩, hroda, hruns⟩ := Option.bind_eq_some_iff.mp hruns
  obtain ⟨⟨w'', res'⟩, hroda', hcount⟩ := Option.map_eq_some_iff.mp hruns
  refine ⟨_, sampleMundo, _, w', res, _, w'', res', run_sampleMundo, rodou_of_sampleRoda hroda,
    fun e he ↦ ?_, rodou_of_sampleRoda hroda', by rw [hcount]; decide⟩
  rw [List.eq_of_mem_replicate he]
  rfl

end RedmineLifecycle

end ReqSys
