import Mathlib
import ReqSys.Foundation.Calendar
import ReqSys.Foundation.CallsIn
import ReqSys.Foundation.PyText
import ReqSys.Foundation.Receipts
import ReqSys.Foundation.Table

/-!
# OCR results: the review

`salvar` stores the extraction of a job once: it looks for the row of the job, and the unique
`job_id` refuses a second insert. `decidir` loads the row, refuses it unless it is pending, and then
writes the decision with an update by primary key. The sessions interleave between the statements.

The store keeps, beside the table, the extraction that was committed first for each job, and the
decisions that were committed for it. The extraction is never replaced. A decision is, by the update
of a reviewer who loaded the row before the decision was committed.
-/

namespace ReqSys

namespace Ocr

namespace Review

open PyText

/-! ## Rows -/

inductive StatusRevisao
  | auto
  | pendente
  | aprovado
  | rejeitado
  deriving DecidableEq

def StatusRevisao.text : StatusRevisao → String
  | auto => "AUTO"
  | pendente => "PENDENTE"
  | aprovado => "APROVADO"
  | rejeitado => "REJEITADO"

/-- What the engine returns. The confidence is the exact value of the float. -/
structure OcrResultado where
  jobId : String
  correlationId : String
  tipoDocumento : String
  campo : String
  estadoOcr : String
  confianca : ℚ
  valor : String
  motivos : List String := []
  engineVersion : String
  deriving DecidableEq

/-- The columns that `salvar` gives. -/
structure Extracao where
  jobId : String
  correlationId : String
  tipoDocumento : String
  campo : String
  estadoOcr : String
  confianca : ℚ
  engineVersion : String
  keyVersion : String
  payloadProtegido : String
  criadoEm : DateTime
  deriving DecidableEq

/-- The columns of the review. -/
structure Revisao where
  statusRevisao : StatusRevisao
  reviewerHash : Option String := none
  decisaoProtegida : Option String := none
  revisadoEm : Option DateTime := none
  deriving DecidableEq

/-- A row of `ocr_resultados`. -/
structure OcrResultadoPersistido extends Extracao, Revisao where
  id : ℕ
  deriving DecidableEq

/-- What `_metadata` shows of a row. -/
structure Metadata where
  jobId : String
  correlationId : String
  tipoDocumento : String
  campo : String
  estadoOcr : String
  confianca : ℚ
  engineVersion : String
  keyVersion : String
  statusRevisao : StatusRevisao
  criadoEm : DateTime
  revisadoEm : Option DateTime
  piiExposta : Bool
  deriving DecidableEq

/-- What is encrypted. -/
inductive Payload
  | resultado (valor : String) (motivos : List String)
  | decisao (observacao : String)

/-- What the repository is built with: the tables of the interpreter, its hash and its rounding to
six places, and the protector with its key. -/
structure Host where
  unicode : Unicode
  sha256 : String → String
  round6 : ℚ → ℚ
  keyVersion : String
  /-- `proteger` with a nonce. -/
  proteger : Payload → (aad nonce : String) → String

inductive ReviewError
  /-- `ValueError`. -/
  | valor (detalhe : String)
  /-- `LookupError`. -/
  | ausente (detalhe : String)
  /-- `IntegrityError`. -/
  | integridade
  deriving DecidableEq

variable (H : Host)

def metadata (item : OcrResultadoPersistido) : Metadata where
  jobId := item.jobId
  correlationId := item.correlationId
  tipoDocumento := item.tipoDocumento
  campo := item.campo
  estadoOcr := item.estadoOcr
  confianca := H.round6 item.confianca
  engineVersion := item.engineVersion
  keyVersion := item.keyVersion
  statusRevisao := item.statusRevisao
  criadoEm := item.criadoEm
  revisadoEm := item.revisadoEm
  piiExposta := false

/-- The review of a row that `salvar` adds. -/
def inicial (estadoOcr : String) : Revisao where
  statusRevisao := if estadoOcr = "AUTO" then .auto else .pendente

/-! ## The table -/

/-- The table with its sequence, and what was committed for each job: the first extraction and the
decisions. -/
structure Banco where
  resultados : List OcrResultadoPersistido := []
  proximo : ℕ := 1
  gravadas : String → Option Extracao := fun _ ↦ none
  decisoes : String → List Revisao := fun _ ↦ []

/-- The inputs of a statement: what `os.urandom` and the clock give. -/
structure Env where
  nonce : String
  agora : DateTime

/-- The statements, each with its commit, and the inputs. -/
inductive Cmd
  | obter (jobId : String)
  | urandom
  | agora
  | inserir (x : Extracao) (r : Revisao)
  /-- The update of the row with this id, in the decision about a job. -/
  | decidir (jobId : String) (id : ℕ) (r : Revisao)
  | refresh (id : ℕ)

abbrev Cmd.Ans : Cmd → Type
  | obter _ => Option OcrResultadoPersistido
  | urandom => String
  | agora => DateTime
  | inserir _ _ | decidir _ _ _ => Unit
  | refresh _ => OcrResultadoPersistido

/-- The values of a decision. -/
def OcrResultadoPersistido.revisar (r : Revisao) (item : OcrResultadoPersistido) :
    OcrResultadoPersistido :=
  { item with toRevisao := r }

def exec (_ : ℕ) : (op : Cmd) → Env → Banco → Banco × Except ReviewError op.Ans
  | .obter jobId, _, d => (d, .ok (Table.lookup (·.jobId) jobId d.resultados))
  | .urandom, e, d => (d, .ok e.nonce)
  | .agora, e, d => (d, .ok e.agora)
  | .inserir x r, _, d =>
    if d.resultados.any (·.jobId = x.jobId) then (d, .error .integridade)
    else
      ({ d with
          resultados := d.resultados ++ [{ toExtracao := x, toRevisao := r, id := d.proximo }]
          proximo := d.proximo + 1
          gravadas := Function.update d.gravadas x.jobId ((d.gravadas x.jobId).or (some x)) },
        .ok ())
  | .decidir jobId id r, _, d =>
    ({ d with
        resultados := Table.update OcrResultadoPersistido.id id (.revisar r) d.resultados
        decisoes := Function.update d.decisoes jobId (d.decisoes jobId ++ [r]) }, .ok ())
  | .refresh id, _, d =>
    match Table.lookup OcrResultadoPersistido.id id d.resultados with
    | some item => (d, .ok item)
    | none => (d, .error (.ausente "Could not refresh instance"))

def machine : Machine Cmd.Ans ReviewError Banco Env where
  exec := exec
  close _ d := d

abbrev Process := Program Cmd.Ans ReviewError

def run (op : Cmd) : Process op.Ans := .perform op

/-! ## The repository -/

/-- `salvar`. -/
def salvar (resultado : OcrResultado) : Process Unit := do
  let existente ← run (.obter resultado.jobId)
  if existente.isSome then return
  let nonce ← run .urandom
  let protegido :=
    H.proteger (.resultado resultado.valor resultado.motivos) resultado.jobId nonce
  let agora ← run .agora
  run (.inserir
    { jobId := resultado.jobId, correlationId := resultado.correlationId,
      tipoDocumento := resultado.tipoDocumento, campo := resultado.campo,
      estadoOcr := resultado.estadoOcr, confianca := resultado.confianca,
      engineVersion := resultado.engineVersion, keyVersion := H.keyVersion,
      payloadProtegido := protegido, criadoEm := agora }
    (inicial resultado.estadoOcr))

/-- The decision that a reviewer gives. -/
def lerDecisao (decisao : String) : Except ReviewError StatusRevisao :=
  let decisao := strip (H.unicode.upper decisao)
  if decisao = "APROVADO" then .ok .aprovado
  else if decisao = "REJEITADO" then .ok .rejeitado
  else .error (.valor "decisao deve ser APROVADO ou REJEITADO")

/-- `decidir`. -/
def decidir (jobId decisao reviewer observacao : String) : Process Metadata := do
  let decisao ← .ofExcept (lerDecisao H decisao)
  match ← run (.obter jobId) with
  | none => .raise (.ausente "resultado OCR não encontrado")
  | some item =>
    if item.statusRevisao ≠ .pendente then
      .raise (.valor s!"resultado não está pendente de revisão: {item.statusRevisao.text}")
    else do
      let nonce ← run .urandom
      let agora ← run .agora
      run (.decidir jobId item.id
        { statusRevisao := decisao
          reviewerHash := some (H.sha256 reviewer)
          decisaoProtegida := some (H.proteger (.decisao observacao) s!"{jobId}:decisao" nonce)
          revisadoEm := some agora })
      let item ← run (.refresh item.id)
      return metadata H item

inductive Request
  | salvar (resultado : OcrResultado)
  | decidir (jobId decisao reviewer observacao : String)

/-- What a call returns; a decision, with the job that it was asked for. -/
inductive Reply
  | salvo
  | decidido (jobId : String) (m : Metadata)

def code : Request → Process Reply
  | .salvar resultado => do
    salvar H resultado
    return .salvo
  | .decidir jobId decisao reviewer observacao => do
    let m ← decidir H jobId decisao reviewer observacao
    return .decidido jobId m

abbrev Sessoes := Pool Banco (Process Reply)

abbrev Step := Move Request Env × Option (Except ReviewError Reply)

/-- Overlapping calls, on a table that is empty first. -/
def sessoes : TransitionSystem Sessoes Step := Pool.interleaving {} (code H) machine

variable {H} {d : Banco}

/-! ## What stays -/

/-- The rows stay, with their extractions. -/
def Permanece (d d' : Banco) : Prop :=
  ∀ r ∈ d.resultados, ∃ r' ∈ d'.resultados, r'.id = r.id ∧ r'.toExtracao = r.toExtracao

theorem Permanece.refl (d : Banco) : Permanece d d := fun r hr ↦ ⟨r, hr, rfl, rfl⟩

theorem Permanece.trans {d d' d'' : Banco} (h : Permanece d d') (h' : Permanece d' d'') :
    Permanece d d'' := by
  intro r hr
  obtain ⟨r', hr', hid, hx⟩ := h r hr
  obtain ⟨r'', hr'', hid', hx'⟩ := h' r' hr'
  exact ⟨r'', hr'', hid'.trans hid, hx'.trans hx⟩

theorem permanece_exec (i : ℕ) (op : Cmd) (e : Env) (d : Banco) :
    Permanece d (exec i op e d).1 := by
  cases op with
  | inserir x r =>
    rw [exec]
    split
    · exact .refl d
    · exact fun r hr ↦ ⟨r, List.mem_append_left _ hr, rfl, rfl⟩
  | decidir jobId id r =>
    intro row hrow
    by_cases hid : row.id = id
    · exact ⟨row.revisar r, Table.mem_update_self hrow hid, rfl, rfl⟩
    · exact ⟨row, Table.mem_update_of_ne hrow hid, rfl, rfl⟩
  | refresh id =>
    rw [exec]
    split <;> exact .refl d
  | _ => exact .refl d

/-- A decision is about the row of its job, and a row is added with the review it starts with. -/
def Carregado : Cmd → Banco → Prop
  | .decidir jobId id r, d => (∃ row ∈ d.resultados, row.id = id ∧ row.jobId = jobId) ∧
      (r.statusRevisao = .aprovado ∨ r.statusRevisao = .rejeitado)
  | .inserir x r, _ => r = inicial x.estadoOcr
  | _, _ => True

theorem decisao_of_lerDecisao {decisao : String} {s : StatusRevisao}
    (h : lerDecisao H decisao = .ok s) : s = .aprovado ∨ s = .rejeitado := by
  simp only [lerDecisao] at h
  split at h
  · cases h
    exact .inl rfl
  · split at h
    · cases h
      exact .inr rfl
    · cases h

theorem carregado_salvar (i : ℕ) (resultado : OcrResultado) (d : Banco) :
    (salvar H resultado).CallsIn machine i Permanece Carregado (fun _ _ ↦ True) d := by
  refine .of_allCalls (.bind (.perform fun _ ↦ trivial) fun existente ↦ ?_) fun _ _ ↦ trivial
  dsimp only
  split
  · exact .ret _
  · exact .bind (.perform fun _ ↦ trivial) fun nonce ↦ .bind (.perform fun _ ↦ trivial) fun agora ↦
      .perform fun _ ↦ rfl

theorem carregado_decidir (i : ℕ) (jobId decisao reviewer observacao : String) (d : Banco) :
    (decidir H jobId decisao reviewer observacao).CallsIn machine i Permanece Carregado
      (fun _ _ ↦ True) d := by
  rw [decidir]
  cases hdecisao : lerDecisao H decisao with
  | error x => exact .raise trivial
  | ok decisao =>
    refine .perform_bind' fun d₁ _ ↦ ⟨trivial, fun _ item hitem ↦ ?_⟩
    cases hitem
    split
    · exact .raise trivial
    next item hlookup =>
      split
      · exact .raise trivial
      · refine .perform_bind' fun d₂ h₂ ↦ ⟨trivial, fun _ nonce _ ↦ ?_⟩
        refine .perform_bind' fun d₃ h₃ ↦ ⟨trivial, fun _ agora _ ↦ ?_⟩
        refine .perform_bind' fun d₄ h₄ ↦ ⟨?_, fun _ _ _ ↦ ?_⟩
        · -- the row that was loaded is still there
          obtain ⟨row, hrow, hid, hx⟩ := ((Permanece.trans h₂ h₃).trans h₄) item
            (Table.mem_of_lookup hlookup)
          have hjob := Table.key_of_lookup hlookup
          exact ⟨⟨row, hrow, hid, (congrArg Extracao.jobId hx).trans hjob⟩,
            decisao_of_lerDecisao hdecisao⟩
        · exact .perform_bind' fun _ _ ↦ ⟨trivial, fun _ _ _ ↦ .ret trivial⟩

theorem carregado_code (i : ℕ) (c : Request) (d : Banco) :
    (code H c).CallsIn machine i Permanece Carregado (fun _ _ ↦ True) d := by
  cases c with
  | salvar resultado =>
    exact (carregado_salvar i resultado d).bind (fun _ _ _ ↦ .ret trivial) fun _ _ _ ↦ trivial
  | decidir jobId decisao reviewer observacao =>
    exact (carregado_decidir i jobId decisao reviewer observacao d).bind
      (fun _ _ _ ↦ .ret trivial) fun _ _ _ ↦ trivial

/-! ## What is decided -/

/-- **Each row has the extraction committed first for its job, and at most one decision**, which it
still has. -/
structure Revisado (d : Banco) : Prop where
  ids : Table.Keyed OcrResultadoPersistido.id d.resultados
  novos : ∀ r ∈ d.resultados, r.id < d.proximo
  jobs : Table.Keyed (fun r : OcrResultadoPersistido ↦ r.jobId) d.resultados
  gravadas : ∀ r ∈ d.resultados, d.gravadas r.jobId = some r.toExtracao
  revisoes : ∀ r ∈ d.resultados,
    (d.decisoes r.jobId = [] ∧ r.toRevisao = inicial r.estadoOcr) ∨
    (d.decisoes r.jobId = [r.toRevisao] ∧ r.estadoOcr ≠ "AUTO" ∧
      (r.statusRevisao = .aprovado ∨ r.statusRevisao = .rejeitado))
  sem : ∀ jobId, (∀ r ∈ d.resultados, r.jobId ≠ jobId) →
    d.decisoes jobId = [] ∧ d.gravadas jobId = none

theorem Revisado.length_le (h : Revisado d) (jobId : String) : (d.decisoes jobId).length ≤ 1 := by
  by_cases hjob : ∀ r ∈ d.resultados, r.jobId ≠ jobId
  · rw [(h.sem jobId hjob).1]
    exact Nat.zero_le _
  · push Not at hjob
    obtain ⟨r, hr, rfl⟩ := hjob
    obtain ⟨hnone, -⟩ | ⟨hone, -⟩ := h.revisoes r hr
    · rw [hnone]
      exact Nat.zero_le _
    · rw [hone]
      exact le_rfl

/-- A row whose extraction is automatic has no decision. -/
theorem Revisado.auto (h : Revisado d) {r : OcrResultadoPersistido} (hr : r ∈ d.resultados)
    (hauto : r.estadoOcr = "AUTO") : r.toRevisao = inicial "AUTO" := by
  obtain ⟨-, heq⟩ | ⟨-, hne, -⟩ := h.revisoes r hr
  · exact hauto ▸ heq
  · exact absurd hauto hne

theorem Revisado.inserir (h : Revisado d) {i : ℕ} {x : Extracao} {e : Env} :
    Revisado (exec i (.inserir x (inicial x.estadoOcr)) e d).1 := by
  rw [exec]
  split
  next => exact h
  next hany =>
    have hnone : ∀ r ∈ d.resultados, r.jobId ≠ x.jobId := fun r hr hjob ↦
      hany (List.any_eq_true.mpr ⟨r, hr, decide_eq_true hjob⟩)
    obtain ⟨hdecisoes, hgravadas⟩ := h.sem _ hnone
    refine ⟨h.ids.concat fun r hr ↦ (h.novos r hr).ne, fun r hr ↦ ?_,
      h.jobs.concat hnone, fun r hr ↦ ?_, fun r hr ↦ ?_, fun jobId hjob ↦ ?_⟩
    · obtain hr | hr := List.mem_append.mp hr
      · exact (h.novos r hr).trans (Nat.lt_succ_self _)
      · cases List.mem_singleton.mp hr
        exact Nat.lt_succ_self _
    · obtain hr | hr := List.mem_append.mp hr
      · exact (Function.update_of_ne (hnone r hr) _ _).trans (h.gravadas r hr)
      · cases List.mem_singleton.mp hr
        refine (Function.update_self ..).trans ?_
        rw [hgravadas]
        rfl
    · obtain hr | hr := List.mem_append.mp hr
      · exact h.revisoes r hr
      · cases List.mem_singleton.mp hr
        exact .inl ⟨hdecisoes, rfl⟩
    · obtain ⟨hold, hnew⟩ := List.forall_mem_append.mp hjob
      obtain ⟨hd, hg⟩ := h.sem jobId hold
      refine ⟨hd, (Function.update_of_ne ?_ _ _).trans hg⟩
      exact (hnew _ (List.mem_singleton_self _)).symm

/-- **The exact effect of a decision.** -/
theorem Revisado.decidir_iff (h : Revisado d) {i : ℕ} {e : Env} {jobId : String} {id : ℕ}
    {r : Revisao} (hop : Carregado (.decidir jobId id r) d) :
    Revisado (exec i (.decidir jobId id r) e d).1 ↔
      ∀ row ∈ d.resultados, row.id = id → row.statusRevisao = .pendente := by
  obtain ⟨⟨row₀, hrow₀, rfl, rfl⟩, hr⟩ := hop
  have hone : ∀ row ∈ d.resultados, row.id = row₀.id → row = row₀ := fun row hrow hid ↦
    h.ids.eq_of_key_eq hrow hrow₀ hid
  have hdecisoes : (exec i (.decidir row₀.jobId row₀.id r) e d).1.decisoes row₀.jobId
      = d.decisoes row₀.jobId ++ [r] := Function.update_self ..
  constructor
  · intro h' row hrow hid
    rw [hone row hrow hid]
    have hmem : row₀.revisar r ∈ (exec i (.decidir row₀.jobId row₀.id r) e d).1.resultados :=
      Table.mem_update_self hrow₀ rfl
    obtain ⟨hnone, -⟩ | ⟨honly, hne, -⟩ := h'.revisoes _ hmem
    · have hempty := hdecisoes.symm.trans hnone
      cases List.append_ne_nil_of_right_ne_nil _ (List.cons_ne_nil r []) hempty
    · -- there was no decision before
      have hempty : d.decisoes row₀.jobId = [] := by
        have hlength := congrArg List.length (hdecisoes.symm.trans honly)
        rw [List.length_append] at hlength
        exact List.eq_nil_of_length_eq_zero (Nat.succ.inj hlength)
      obtain ⟨-, hinicial⟩ | ⟨hsome, -⟩ := h.revisoes row₀ hrow₀
      · rw [hinicial, inicial]
        exact if_neg hne
      · rw [hempty] at hsome
        cases hsome
  · intro hpendente
    have hpendente := hpendente row₀ hrow₀ rfl
    obtain ⟨hempty, hinicial⟩ | ⟨-, -, hdecided⟩ := h.revisoes row₀ hrow₀
    · have hne : row₀.estadoOcr ≠ "AUTO" := by
        intro hauto
        rw [hinicial, inicial, if_pos hauto] at hpendente
        cases hpendente
      -- the other rows are those of other jobs
      have hother : ∀ row ∈ d.resultados, row.id ≠ row₀.id → row.jobId ≠ row₀.jobId := by
        intro row hrow hid hjob
        exact hid (congrArg OcrResultadoPersistido.id (h.jobs.eq_of_key_eq hrow hrow₀ hjob))
      refine ⟨h.ids.keyed_update (f := OcrResultadoPersistido.revisar r) fun _ ↦ rfl,
        fun row hrow ↦ ?_, ?_, fun row hrow ↦ ?_, fun row hrow ↦ ?_, fun jobId hjob ↦ ?_⟩
      · obtain ⟨hold, -⟩ | ⟨row, hold, -, rfl⟩ := Table.mem_update hrow
        · exact h.novos row hold
        · exact h.novos row hold
      · have hcoluna := @Table.map_update _ _ _ OcrResultadoPersistido.id _
          (fun row : OcrResultadoPersistido ↦ row.jobId) row₀.id
          (OcrResultadoPersistido.revisar r) (fun _ ↦ rfl) d.resultados
        exact (congrArg List.Nodup hcoluna).mpr h.jobs
      · obtain ⟨hold, -⟩ | ⟨row, hold, -, rfl⟩ := Table.mem_update hrow
        · exact h.gravadas row hold
        · exact h.gravadas row hold
      · obtain ⟨hold, hid⟩ | ⟨row, hold, hid, rfl⟩ := Table.mem_update hrow
        · have hsame : (exec i (.decidir row₀.jobId row₀.id r) e d).1.decisoes row.jobId
              = d.decisoes row.jobId := Function.update_of_ne (hother row hold hid) _ _
          rw [hsame]
          exact h.revisoes row hold
        · cases hone row hold hid
          refine .inr ⟨?_, hne, hr⟩
          rw [hempty] at hdecisoes
          exact hdecisoes
      · have hne' : jobId ≠ row₀.jobId := by
          rintro rfl
          exact hjob _ (Table.mem_update_self hrow₀ rfl) rfl
        obtain ⟨hd, hg⟩ := h.sem jobId fun row hrow heq ↦ by
          obtain ⟨row', hrow', -, hx⟩ :=
            permanece_exec i (.decidir row₀.jobId row₀.id r) e d row hrow
          exact hjob row' hrow' ((congrArg Extracao.jobId hx).trans heq)
        exact ⟨(Function.update_of_ne hne' _ _).trans hd, hg⟩
    · rw [hpendente] at hdecided
      obtain h | h := hdecided <;> cases h

/-- **The condition.** A decision is committed while the row is pending. -/
def Pendente (d : Banco) : ℕ × Cmd × Env → Prop
  | (_, .decidir _ id _, _) => ∀ row ∈ d.resultados, row.id = id → row.statusRevisao = .pendente
  | _ => True

theorem revisado_exec_iff {i : ℕ} {op : Cmd} {e : Env} (h : Revisado d) (hop : Carregado op d) :
    Revisado (exec i op e d).1 ↔ Pendente d (i, op, e) := by
  cases op with
  | decidir jobId id r => exact h.decidir_iff hop
  | inserir x r =>
    obtain rfl : r = inicial x.estadoOcr := hop
    exact iff_of_true h.inserir trivial
  | refresh id =>
    refine iff_of_true ?_ trivial
    rw [exec]
    split <;> exact h
  | obter jobId => exact iff_of_true h trivial
  | urandom => exact iff_of_true h trivial
  | agora => exact iff_of_true h trivial

/-! ## Whole runs -/

/-- The rows stay with their extractions, and those that are not pending stay as they are. -/
def Estavel (d d' : Banco) : Prop :=
  ∀ r ∈ d.resultados, ∃ r' ∈ d'.resultados, r'.id = r.id ∧ r'.toExtracao = r.toExtracao ∧
    (r.statusRevisao ≠ .pendente → r' = r)

theorem Estavel.refl (d : Banco) : Estavel d d := fun r hr ↦ ⟨r, hr, rfl, rfl, fun _ ↦ rfl⟩

theorem Estavel.trans {d d' d'' : Banco} (h : Estavel d d') (h' : Estavel d' d'') :
    Estavel d d'' := by
  intro r hr
  obtain ⟨r', hr', hid, hx, hsame⟩ := h r hr
  obtain ⟨r'', hr'', hid', hx', hsame'⟩ := h' r' hr'
  refine ⟨r'', hr'', hid'.trans hid, hx'.trans hx, fun hne ↦ ?_⟩
  cases hsame hne
  exact hsame' hne

theorem estavel_exec {i : ℕ} {op : Cmd} {e : Env} (h : Pendente d (i, op, e)) :
    Estavel d (exec i op e d).1 := by
  cases op with
  | inserir x r =>
    rw [exec]
    split
    · exact .refl d
    · exact fun r hr ↦ ⟨r, List.mem_append_left _ hr, rfl, rfl, fun _ ↦ rfl⟩
  | decidir jobId id r =>
    intro row hrow
    by_cases hid : row.id = id
    · exact ⟨row.revisar r, Table.mem_update_self hrow hid, rfl, rfl,
        fun hne ↦ absurd (h row hrow hid) hne⟩
    · exact ⟨row, Table.mem_update_of_ne hrow hid, rfl, rfl, fun _ ↦ rfl⟩
  | refresh id =>
    rw [exec]
    split <;> exact .refl d
  | _ => exact .refl d

/-- The answer to a statement that commits a decision about the job. -/
def Decide (jobId : String) (op : Cmd) (_ : Except ReviewError op.Ans) : Prop :=
  ∃ id r, op = .decidir jobId id r

/-- The call reports that the job is decided. -/
def Decidido (jobId : String) (x : Reply) : Prop := ∃ m, x = .decidido jobId m

theorem unpaid_decidir (jobId decisao reviewer observacao : String) :
    (decidir H jobId decisao reviewer observacao).Unpaid (Decide jobId) fun _ ↦ True := by
  refine .of_rest fun decisao ↦ .of_rest fun item ↦ ?_
  cases item with
  | none => exact .raise _
  | some item =>
    dsimp only
    split
    · exact .raise _
    · exact .of_rest fun nonce ↦ .of_rest fun agora ↦ .perform_bind fun _ ↦ ⟨_, _, rfl⟩

theorem unpaid_code (jobId : String) (c : Request) :
    (code H c).Unpaid (Decide jobId) (Decidido jobId) := by
  cases c with
  | salvar resultado =>
    refine .of_rest fun _ ↦ .ret ?_
    rintro ⟨m, ⟨⟩⟩
  | decidir jobId' decisao reviewer observacao =>
    by_cases hjob : jobId' = jobId
    · subst hjob
      exact (unpaid_decidir jobId' decisao reviewer observacao).bind fun _ hnever ↦
        absurd trivial hnever
    · refine .of_rest fun _ ↦ .ret ?_
      rintro ⟨m, h⟩
      exact hjob (Reply.decidido.inj h).1

theorem decisoes_exec (jobId : String) (i : ℕ) (op : Cmd) (e : Env) (d : Banco) :
    (d.decisoes jobId).length ≤ ((exec i op e d).1.decisoes jobId).length ∧
    (Decide jobId op (exec i op e d).2 →
      (d.decisoes jobId).length + 1 ≤ ((exec i op e d).1.decisoes jobId).length) := by
  cases op with
  | decidir jobId' id r =>
    by_cases hjob : jobId = jobId'
    · subst hjob
      have hconcat : (exec i (.decidir jobId id r) e d).1.decisoes jobId
          = d.decisoes jobId ++ [r] := Function.update_self ..
      rw [hconcat, List.length_append, List.length_singleton]
      exact ⟨Nat.le_succ _, fun _ ↦ le_rfl⟩
    · have hsame : (exec i (.decidir jobId' id r) e d).1.decisoes jobId = d.decisoes jobId :=
        Function.update_of_ne hjob _ _
      rw [hsame]
      refine ⟨le_rfl, ?_⟩
      rintro ⟨id', r', heq⟩
      exact absurd (Cmd.decidir.inj heq).1.symm hjob
  | inserir x r =>
    refine ⟨?_, by rintro ⟨_, _, ⟨⟩⟩⟩
    rw [exec]
    split <;> exact le_rfl
  | refresh id =>
    refine ⟨?_, by rintro ⟨_, _, ⟨⟩⟩⟩
    rw [exec]
    split <;> exact le_rfl
  | _ => exact ⟨le_rfl, by rintro ⟨_, _, ⟨⟩⟩⟩

/-- The move delivers a decision about the job. -/
def decidiu (jobId : String) : Step → Bool
  | (_, some (.ok (.decidido jobId' _))) => jobId' = jobId
  | _ => false

theorem delivers_of_decidiu {jobId : String} {m : Step} (h : decidiu jobId m = true) :
    Pool.Delivers (Decidido jobId) m := by
  unfold decidiu at h
  split at h
  · exact ⟨_, rfl, _, by rw [of_decide_eq_true h]⟩
  · cases h

theorem revisado_inicio : Revisado {} where
  ids := List.nodup_nil
  novos := fun _ hr ↦ absurd hr List.not_mem_nil
  jobs := List.nodup_nil
  gravadas := fun _ hr ↦ absurd hr List.not_mem_nil
  revisoes := fun _ hr ↦ absurd hr List.not_mem_nil
  sem := fun _ _ ↦ ⟨rfl, rfl⟩

/-- **A review is decided once.** While every decision is committed on a row that is still pending,
each row has the extraction that was committed first for its job, automatic results have no
decision, rows keep their extraction and their decision for good, and at most one call for a job
returns a decision; and the first decision about a row that is not pending breaks this. -/
theorem decided_once (H : Host) {tr : List Step} {p : Sessoes}
    (h : ((sessoes H).restrict fun p m ↦ ∀ x ∈ p.nextCall m.1, Pendente p.store x).Run tr p) :
    (∀ r ∈ p.store.resultados, p.store.gravadas r.jobId = some r.toExtracao) ∧
    (∀ r ∈ p.store.resultados, r.estadoOcr = "AUTO" → r.toRevisao = inicial "AUTO") ∧
    (∀ tr' p', ((sessoes H).restrict fun p m ↦ ∀ x ∈ p.nextCall m.1, Pendente p.store x).Path
      p tr' p' → Estavel p.store p'.store) ∧
    (∀ jobId, tr.countP (decidiu jobId) ≤ 1) ∧
    ∀ m p', (sessoes H).step p m p' →
      (Revisado p'.store ↔ ∀ x ∈ p.nextCall m.1, Pendente p.store x) := by
  obtain ⟨hnow, hnext⟩ := Pool.invariant_iff_of_callsIn (I := Revisado)
    (.of_monotone Permanece.refl Permanece.trans (fun {i op e d} _ ↦ permanece_exec i op e d)
      (fun _ d ↦ Permanece.refl d)
      carregado_code)
    (fun _ ↦ trivial) revisado_inicio (fun hI hop ↦ revisado_exec_iff hI hop) (fun hI ↦ hI) h
  refine ⟨hnow.gravadas, fun r hr ↦ hnow.auto hr, fun tr' p' hpath ↦ ?_, fun jobId ↦ ?_, hnext⟩
  · exact Pool.rel_of_restrict (P := fun _ ↦ True) (C := Pendente) Estavel.refl Estavel.trans
      (fun c ↦ Program.AllCalls.of_forall (fun _ ↦ trivial) _) (fun _ hC ↦ estavel_exec hC)
      (fun d _ ↦ Estavel.refl d) h.of_restrict hpath
  · have hcount := Pool.countP_delivers_le
      (decisoes_exec jobId) (fun _ _ ↦ le_rfl) (unpaid_code jobId) h.of_restrict
    refine le_trans (List.countP_mono_left fun m _ hm ↦ ?_)
      (hcount.trans (hnow.length_le jobId))
    simpa using delivers_of_decidiu hm

/-! ## Two small runs -/

def sampleHost : Host where
  unicode := .ascii
  sha256 := id
  round6 := id
  keyVersion := "v1"
  proteger _ aad nonce := aad ++ nonce

def sampleResultado : OcrResultado where
  jobId := "job"
  correlationId := "c"
  tipoDocumento := "RG"
  campo := "nome"
  estadoOcr := "REVISAO"
  confianca := 1 / 2
  valor := "Ana"
  engineVersion := "1.0.0"

def sampleAdvance (i : ℕ) : Move Request Env := .advance i ⟨"n", .newYearNoon⟩

/-- A result is stored, and two reviewers start to decide about it. -/
def sampleStart : List (Move Request Env) :=
  .start 0 (.salvar sampleResultado) :: List.replicate 5 (sampleAdvance 0)
    ++ [.start 1 (.decidir "job" "aprovado" "r1" ""), .start 2 (.decidir "job" "rejeitado" "r2" "")]

/-- One reviewer after the other. -/
def sampleSerial : List (Move Request Env) :=
  sampleStart ++ List.replicate 6 (sampleAdvance 1) ++ List.replicate 6 (sampleAdvance 2)

/-- Both load the row before either decides. -/
def sampleOverlap : List (Move Request Env) :=
  sampleStart ++ sampleAdvance 2 :: List.replicate 6 (sampleAdvance 1)
    ++ List.replicate 5 (sampleAdvance 2)

def sampleMoves (moves : List (Move Request Env)) : List Step × Sessoes :=
  TransitionSystem.runCalls (Pool.move (code sampleHost) machine) moves ⟨{}, fun _ ↦ none⟩

instance (d : Banco) : ∀ x : ℕ × Cmd × Env, Decidable (Pendente d x)
  | (_, .decidir _ id _, _) => inferInstanceAs (Decidable
      (∀ row ∈ d.resultados, row.id = id → row.statusRevisao = .pendente))
  | (_, .obter _, _) | (_, .urandom, _) | (_, .agora, _) | (_, .inserir _ _, _)
  | (_, .refresh _, _) => .isTrue trivial

/-- The second reviewer is refused. -/
theorem decided_once_sample : (sampleMoves sampleSerial).1.countP (decidiu "job") = 1 ∧
    (sampleMoves sampleSerial).2.store.resultados.map (·.statusRevisao) = [.aprovado] ∧
    ∀ r ∈ (sampleMoves sampleSerial).2.store.resultados,
      (sampleMoves sampleSerial).2.store.gravadas r.jobId = some r.toExtracao := by
  have hrun : ((sessoes sampleHost).restrict
      fun p m ↦ ∀ x ∈ p.nextCall m.1, Pendente p.store x).Run
      (sampleMoves sampleSerial).1 (sampleMoves sampleSerial).2 :=
    TransitionSystem.run_restrict_runCalls _ (by decide +kernel)
  exact ⟨by decide +kernel, by decide +kernel, (decided_once sampleHost hrun).1⟩

/-- Both reviewers are told that their decision stands, and the approval is gone. -/
theorem decision_lost : ∃ tr p, (sessoes sampleHost).Run tr p ∧ tr.countP (decidiu "job") = 2 ∧
    p.store.decisoes "job" ≠ [] ∧
    p.store.resultados.map (·.statusRevisao) = [.rejeitado] :=
  ⟨(sampleMoves sampleOverlap).1, (sampleMoves sampleOverlap).2,
    TransitionSystem.run_runCalls _ _ _, by decide +kernel, by decide +kernel, by decide +kernel⟩

end Review

end Ocr

end ReqSys
