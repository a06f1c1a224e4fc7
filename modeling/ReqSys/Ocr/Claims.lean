import Mathlib
import ReqSys.Foundation.Calendar
import ReqSys.Foundation.CallsIn
import ReqSys.Foundation.Table

/-!
# OCR jobs: the claims

A worker takes an OCR job by inserting a row into `ocr_job_claims`, or, where there is one whose
lease has run out, by taking that row over. It extends its lease with an update of its own row, and
it drops the claim by a read and a delete. Every statement is a step of its own here, and all
workers look at one clock.

An owner holds a job from the statement that grants it a lease until the lease runs out or its own
`liberar` has deleted. The table is right when every job that is held has the row of its holder:
the primary key then leaves one holder a job. The inserts and the updates keep it so. But `liberar`
deletes by the primary key alone, and what it deletes need not be the row that it has read: the
lease may run out in between, and the row may be another owner's by then.
-/

namespace ReqSys

namespace Ocr

/-- A row of `ocr_job_claims`. -/
structure OcrJobClaim where
  jobId : String
  ownerToken : String
  leaseUntil : DateTime
  atualizadoEm : DateTime
  deriving DecidableEq

inductive ClaimError
  /-- `OCR_JOB_CLAIM_LEASE_SECONDS deve ser maior que zero`. -/
  | lease
  /-- The calendar ends before the lease. -/
  | overflow
  /-- `IntegrityError`. -/
  | integridade
  deriving DecidableEq

/-- `RepositorioClaimsOcrSqlAlchemy`. -/
structure RepositorioClaims where
  leaseSeconds : ℕ
  positivo : 1 ≤ leaseSeconds

/-- The constructor: the argument, the environment variable or ten minutes. -/
def RepositorioClaims.novo (leaseSeconds ambiente : Option ℤ) :
    Except ClaimError RepositorioClaims :=
  let configured := leaseSeconds.getD (ambiente.getD 600)
  if h : 1 ≤ configured then .ok ⟨configured.toNat, by omega⟩ else .error .lease

/-- `now + timedelta(seconds=self._lease_seconds)`. -/
def RepositorioClaims.leaseUntil (r : RepositorioClaims) (now : DateTime) :
    Except ClaimError DateTime :=
  match now.addSeconds r.leaseSeconds with
  | some t => .ok t
  | none => .error .overflow

namespace Claims

/-! ## The table -/

/-- The table and the clock, and what was granted to each owner for each job and not released. -/
structure Banco where
  claims : List OcrJobClaim := []
  relogio : DateTime
  concedido : String × String → Option DateTime := fun _ ↦ none

/-- The clock does not go back. -/
def Banco.avanca (d : Banco) (agora : DateTime) : Banco :=
  { d with relogio := if d.relogio ≤ agora then agora else d.relogio }

/-- The lease of the row is granted to its owner. -/
def Banco.concede (d : Banco) (c : OcrJobClaim) (claims : List OcrJobClaim) : Banco :=
  { d with
    claims
    concedido := Function.update d.concedido (c.jobId, c.ownerToken) (some c.leaseUntil) }

/-- The values of an update, in the rows that it is about. -/
def atualizados (c : OcrJobClaim) (onde : OcrJobClaim → Bool) (claims : List OcrJobClaim) :
    List OcrJobClaim :=
  claims.map fun r ↦ if onde r then
    { r with
      ownerToken := c.ownerToken, leaseUntil := c.leaseUntil, atualizadoEm := c.atualizadoEm }
  else r

/-- An update, with the number of its rows. -/
def Banco.atualizar (d : Banco) (c : OcrJobClaim) (onde : OcrJobClaim → Bool) : Banco × ℕ :=
  if d.claims.any onde then
    (d.concede c (atualizados c onde d.claims), d.claims.countP onde)
  else (d, 0)

/-- The rows that `adquirir` takes over. -/
def vencido (c : OcrJobClaim) (now : DateTime) (r : OcrJobClaim) : Bool :=
  decide (r.jobId = c.jobId) && decide (r.leaseUntil ≤ now)

/-- The rows that `renovar` extends. -/
def proprio (c : OcrJobClaim) (r : OcrJobClaim) : Bool :=
  decide (r.jobId = c.jobId) && decide (r.ownerToken = c.ownerToken)

/-- The statements, each with its commit, and the clock. -/
inductive Cmd
  | agora
  | inserir (c : OcrJobClaim)
  | retomar (c : OcrJobClaim) (now : DateTime)
  | estender (c : OcrJobClaim)
  | obter (jobId : String)
  /-- The delete by primary key in the `liberar` of an owner. -/
  | excluir (jobId ownerToken : String)

abbrev Cmd.Ans : Cmd → Type
  | agora => DateTime
  | inserir _ | excluir _ _ => Unit
  | retomar _ _ | estender _ => ℕ
  | obter _ => Option OcrJobClaim

/-- What a statement does. -/
def Cmd.aplicar (d : Banco) : (op : Cmd) → Banco × Except ClaimError op.Ans
  | .agora => (d, .ok d.relogio)
  | .inserir c =>
    if d.claims.any (·.jobId = c.jobId) then (d, .error .integridade)
    else (d.concede c (d.claims ++ [c]), .ok ())
  | .retomar c now => ((d.atualizar c (vencido c now)).1, .ok (d.atualizar c (vencido c now)).2)
  | .estender c => ((d.atualizar c (proprio c)).1, .ok (d.atualizar c (proprio c)).2)
  | .obter jobId => (d, .ok (Table.lookup OcrJobClaim.jobId jobId d.claims))
  | .excluir jobId ownerToken =>
    ({ d with
        claims := d.claims.filter (·.jobId ≠ jobId)
        concedido := Function.update d.concedido (jobId, ownerToken) none }, .ok ())

/-- A statement is executed at some time. -/
def exec (_ : ℕ) (op : Cmd) (agora : DateTime) (d : Banco) : Banco × Except ClaimError op.Ans :=
  op.aplicar (d.avanca agora)

def machine : Machine Cmd.Ans ClaimError Banco DateTime where
  exec := exec
  close _ d := d

abbrev Process := Program Cmd.Ans ClaimError

def run (op : Cmd) : Process op.Ans := .perform op

/-! ## The repository -/

/-- `adquirir`, at the time of the clock. -/
def adquirir (r : RepositorioClaims) (jobId ownerToken : String) : Process Bool := do
  let now ← run .agora
  let leaseUntil ← .ofExcept (r.leaseUntil now)
  let claim : OcrJobClaim := { jobId, ownerToken, leaseUntil, atualizadoEm := now }
  match ← (run (.inserir claim)).attempt with
  | .ok _ => return true
  | .error .integridade => do
    let rowcount ← run (.retomar claim now)
    return rowcount == 1
  | .error x => .raise x

/-- `renovar`, at the time of the clock. -/
def renovar (r : RepositorioClaims) (jobId ownerToken : String) : Process Bool := do
  let now ← run .agora
  let leaseUntil ← .ofExcept (r.leaseUntil now)
  let rowcount ← run (.estender { jobId, ownerToken, leaseUntil, atualizadoEm := now })
  return rowcount == 1

/-- `liberar`. -/
def liberar (jobId ownerToken : String) : Process Bool := do
  match ← run (.obter jobId) with
  | none => return false
  | some item =>
    if item.ownerToken ≠ ownerToken then return false
    run (.excluir jobId ownerToken)
    return true

/-- What a worker calls, its repository with its own lease. -/
inductive Request
  | adquirir (r : RepositorioClaims) (jobId ownerToken : String)
  | renovar (r : RepositorioClaims) (jobId ownerToken : String)
  | liberar (jobId ownerToken : String)

def code : Request → Process Bool
  | .adquirir r jobId ownerToken => Claims.adquirir r jobId ownerToken
  | .renovar r jobId ownerToken => Claims.renovar r jobId ownerToken
  | .liberar jobId ownerToken => Claims.liberar jobId ownerToken

/-- The table and the calls running on it. -/
abbrev Workers := Pool Banco (Process Bool)

abbrev Step := Move Request DateTime × Option (Except ClaimError Bool)

/-- Overlapping calls of several workers, on a table that is empty first. -/
def workers (inicio : DateTime) : TransitionSystem Workers Step :=
  Pool.interleaving { relogio := inicio } code machine

variable {d : Banco} {c : OcrJobClaim}

/-! ## The clock -/

theorem relogio_le_avanca (d : Banco) (agora : DateTime) :
    d.relogio ≤ (d.avanca agora).relogio := by
  rw [Banco.avanca]
  dsimp only
  split
  next h => exact h
  next => exact DateTime.toMicros_le_iff.mpr le_rfl

theorem le_trans_micros {a b t : DateTime} (h : a ≤ b) (h' : b ≤ t) : a ≤ t :=
  DateTime.toMicros_le_iff.mpr
    ((DateTime.toMicros_le_iff.mp h).trans (DateTime.toMicros_le_iff.mp h'))

theorem relogio_atualizar (d : Banco) (c : OcrJobClaim) (onde : OcrJobClaim → Bool) :
    (d.atualizar c onde).1.relogio = d.relogio := by
  rw [Banco.atualizar]
  split <;> rfl

theorem relogio_aplicar (d : Banco) (op : Cmd) : (op.aplicar d).1.relogio = d.relogio := by
  cases op with
  | inserir c =>
    rw [Cmd.aplicar]
    split <;> rfl
  | retomar c now => exact relogio_atualizar ..
  | estender c => exact relogio_atualizar ..
  | _ => rfl

/-- The clock in a row. -/
def Depois (d d' : Banco) : Prop := d.relogio ≤ d'.relogio

theorem Depois.refl (d : Banco) : Depois d d := DateTime.toMicros_le_iff.mpr le_rfl

theorem depois_exec (i : ℕ) (op : Cmd) (agora : DateTime) (d : Banco) :
    Depois d (exec i op agora d).1 := by
  rw [Depois, exec, relogio_aplicar]
  exact relogio_le_avanca d agora

/-- `adquirir` takes over with a time that is past. -/
def Passado : Cmd → Banco → Prop
  | .retomar _ now, d => now ≤ d.relogio
  | _, _ => True

theorem passado_adquirir (i : ℕ) (r : RepositorioClaims) (jobId ownerToken : String) (d : Banco) :
    (adquirir r jobId ownerToken).CallsIn machine i Depois Passado (fun _ _ ↦ True) d := by
  refine .perform_bind' fun d₁ _ ↦ ⟨trivial, fun agora now hnow ↦ ?_⟩
  -- from here on the clock shows at least what was read
  cases hnow
  cases r.leaseUntil (d₁.avanca agora).relogio with
  | error x => exact .raise trivial
  | ok leaseUntil =>
    refine .attempt_bind (Q := fun _ ↦ Depois (d₁.avanca agora)) (.perform fun d₂ h₂ ↦ ?_)
      fun x d₃ h₃ ↦ ?_
    · exact ⟨trivial, fun agora₂ ↦ le_trans_micros h₂ (depois_exec i _ agora₂ d₂)⟩
    · split
      · exact .ret trivial
      · refine .perform_bind' fun d₄ h₄ ↦ ⟨?_, fun _ _ _ ↦ .ret trivial⟩
        exact le_trans_micros h₃ h₄
      · exact .raise trivial

theorem passado_code (i : ℕ) (x : Request) (d : Banco) :
    (code x).CallsIn machine i Depois Passado (fun _ _ ↦ True) d := by
  cases x with
  | adquirir r jobId ownerToken => exact passado_adquirir i r jobId ownerToken d
  | renovar r jobId ownerToken =>
    exact .of_allCalls (.bind (.perform fun _ ↦ trivial) fun now ↦ .bind (.ofExcept _)
      fun leaseUntil ↦ .bind (.perform fun _ ↦ trivial) fun _ ↦ .ret _) fun _ _ ↦ trivial
  | liberar jobId ownerToken =>
    refine .of_allCalls (.bind (.perform fun _ ↦ trivial) fun item ↦ ?_) fun _ _ ↦ trivial
    cases item with
    | none => exact .ret _
    | some item =>
      dsimp only
      split
      · exact .ret _
      · exact .bind (.perform fun _ ↦ trivial) fun _ ↦ .ret _

/-! ## Who holds a job -/

/-- The owner was granted the job, has not released it, and the lease has not run out. -/
def Detem (d : Banco) (agora : DateTime) (jobId ownerToken : String) : Prop :=
  ∃ lease, d.concedido (jobId, ownerToken) = some lease ∧ ¬lease ≤ agora

/-- **Every job that is held has the row of its holder.** -/
structure Exclusivo (d : Banco) : Prop where
  chaves : Table.Keyed OcrJobClaim.jobId d.claims
  registrado : ∀ c ∈ d.claims, d.concedido (c.jobId, c.ownerToken) = some c.leaseUntil
  presente : ∀ {jobId ownerToken}, Detem d d.relogio jobId ownerToken →
    ∃ c ∈ d.claims, c.jobId = jobId ∧ c.ownerToken = ownerToken

theorem Detem.antes {agora : DateTime} {jobId ownerToken : String}
    (h : Detem d agora jobId ownerToken) (hle : d.relogio ≤ agora) :
    Detem d d.relogio jobId ownerToken := by
  obtain ⟨lease, hlease, hviva⟩ := h
  exact ⟨lease, hlease, fun hvencida ↦ hviva (le_trans_micros hvencida hle)⟩

/-- One holder a job, until a statement is executed again. -/
theorem Exclusivo.unico (h : Exclusivo d) {agora : DateTime} (hle : d.relogio ≤ agora)
    {jobId o o' : String} (ho : Detem d agora jobId o) (ho' : Detem d agora jobId o') : o = o' := by
  obtain ⟨c, hc, hjob, rfl⟩ := h.presente (ho.antes hle)
  obtain ⟨c', hc', hjob', rfl⟩ := h.presente (ho'.antes hle)
  rw [h.chaves.eq_of_key_eq hc hc' (hjob.trans hjob'.symm)]

theorem Exclusivo.avanca (h : Exclusivo d) (agora : DateTime) : Exclusivo (d.avanca agora) where
  chaves := h.chaves
  registrado := h.registrado
  presente := by
    rintro jobId ownerToken ⟨lease, hlease, hviva⟩
    exact h.presente ⟨lease, hlease, fun hle ↦
      hviva (le_trans_micros hle (relogio_le_avanca d agora))⟩

/-- The row of a job gives way to that of a grant if nobody else holds the job. -/
theorem Exclusivo.concede (h : Exclusivo d) {claims : List OcrJobClaim}
    (hchaves : Table.Keyed OcrJobClaim.jobId claims)
    (hmem : ∀ r ∈ claims, (r ∈ d.claims ∧ r.jobId ≠ c.jobId) ∨
      r.jobId = c.jobId ∧ r.ownerToken = c.ownerToken ∧ r.leaseUntil = c.leaseUntil)
    (hnova : ∃ r ∈ claims, r.jobId = c.jobId ∧ r.ownerToken = c.ownerToken)
    (hresta : ∀ r ∈ d.claims, r.jobId ≠ c.jobId → r ∈ claims)
    (hlivre : ∀ r ∈ d.claims, r.jobId = c.jobId →
      r.ownerToken = c.ownerToken ∨ r.leaseUntil ≤ d.relogio) :
    Exclusivo (d.concede c claims) where
  chaves := hchaves
  registrado := by
    intro r hr
    obtain ⟨hr, hne⟩ | ⟨hjob, howner, hlease⟩ := hmem r hr
    · refine (Function.update_of_ne (fun heq ↦ hne ?_) _ _).trans (h.registrado r hr)
      exact congrArg Prod.fst heq
    · rw [hjob, howner, hlease]
      exact Function.update_self ..
  presente := by
    rintro jobId ownerToken ⟨lease, hlease, hviva⟩
    by_cases hself : (jobId, ownerToken) = (c.jobId, c.ownerToken)
    · cases hself
      exact hnova
    have hold : d.concedido (jobId, ownerToken) = some lease :=
      (Function.update_of_ne hself _ _).symm.trans hlease
    obtain ⟨r, hr, rfl, rfl⟩ := h.presente ⟨lease, hold, hviva⟩
    refine ⟨r, hresta r hr fun hjob ↦ ?_, rfl, rfl⟩
    obtain howner | hle := hlivre r hr hjob
    · exact hself (by rw [hjob, howner])
    · rw [h.registrado r hr] at hold
      exact hviva (Option.some.inj hold ▸ hle)

theorem mem_atualizados {onde : OcrJobClaim → Bool} {claims : List OcrJobClaim} {r' : OcrJobClaim}
    (h : r' ∈ atualizados c onde claims) :
    (r' ∈ claims ∧ onde r' = false) ∨ ∃ r ∈ claims, onde r = true ∧ r'.jobId = r.jobId ∧
      r'.ownerToken = c.ownerToken ∧ r'.leaseUntil = c.leaseUntil := by
  obtain ⟨r, hr, rfl⟩ := List.mem_map.mp h
  cases honde : onde r with
  | false => exact .inl ⟨by simpa [honde] using hr, by simp [honde]⟩
  | true => exact .inr ⟨r, hr, honde, by simp⟩

theorem keyed_atualizados {onde : OcrJobClaim → Bool} {claims : List OcrJobClaim}
    (h : Table.Keyed OcrJobClaim.jobId claims) :
    Table.Keyed OcrJobClaim.jobId (atualizados c onde claims) := by
  have hcoluna : (atualizados c onde claims).map OcrJobClaim.jobId
      = claims.map OcrJobClaim.jobId := by
    rw [atualizados, List.map_map]
    refine List.map_congr_left fun r _ ↦ ?_
    rw [Function.comp_apply]
    split <;> rfl
  rw [Table.Keyed, hcoluna]
  exact h

/-- An update that is only about rows of the job that nobody else holds. -/
theorem Exclusivo.atualizar (h : Exclusivo d) {onde : OcrJobClaim → Bool}
    (honde : ∀ r ∈ d.claims, onde r = true → r.jobId = c.jobId ∧
      (r.ownerToken = c.ownerToken ∨ r.leaseUntil ≤ d.relogio)) :
    Exclusivo (d.atualizar c onde).1 := by
  rw [Banco.atualizar]
  split
  next hany =>
    obtain ⟨r₀, hr₀, honde₀⟩ := List.any_eq_true.mp hany
    have hjob₀ := (honde r₀ hr₀ honde₀).1
    -- the row of the job is the one that is updated
    have hone : ∀ r ∈ d.claims, r.jobId = c.jobId → r = r₀ := fun r hr hjob ↦
      h.chaves.eq_of_key_eq hr hr₀ (hjob.trans hjob₀.symm)
    refine h.concede (keyed_atualizados h.chaves) ?_ ?_ ?_ ?_
    · intro r' hr'
      obtain ⟨hr', hfalse⟩ | ⟨r, hr, htrue, hjob, howner, hlease⟩ := mem_atualizados hr'
      · refine .inl ⟨hr', fun hjob ↦ ?_⟩
        rw [hone r' hr' hjob, honde₀] at hfalse
        cases hfalse
      · exact .inr ⟨hjob.trans (honde r hr htrue).1, howner, hlease⟩
    · exact ⟨_, List.mem_map.mpr ⟨r₀, hr₀, rfl⟩, by rw [if_pos honde₀]; exact ⟨hjob₀, rfl⟩⟩
    · intro r hr hjob
      refine List.mem_map.mpr ⟨r, hr, if_neg fun htrue ↦ ?_⟩
      exact hjob (honde r hr htrue).1
    · intro r hr hjob
      rw [hone r hr hjob]
      exact (honde r₀ hr₀ honde₀).2
  next => exact h

theorem Exclusivo.inserir (h : Exclusivo d) (hnone : ∀ r ∈ d.claims, r.jobId ≠ c.jobId) :
    Exclusivo (d.concede c (d.claims ++ [c])) := by
  refine h.concede (h.chaves.concat fun r hr ↦ hnone r hr) ?_ ?_ ?_ ?_
  · intro r hr
    obtain hr | hr := List.mem_append.mp hr
    · exact .inl ⟨hr, hnone r hr⟩
    · cases List.mem_singleton.mp hr
      exact .inr ⟨rfl, rfl, rfl⟩
  · exact ⟨c, List.mem_append_right _ (List.mem_singleton_self c), rfl, rfl⟩
  · exact fun r hr _ ↦ List.mem_append_left _ hr
  · exact fun r hr hjob ↦ absurd hjob (hnone r hr)

/-- **The condition.** `liberar` deletes a row that is its owner's or has run out. -/
def Propria (d : Banco) : ℕ × Cmd × DateTime → Prop
  | (_, .excluir jobId ownerToken, agora) => ∀ c ∈ d.claims, c.jobId = jobId →
      c.ownerToken = ownerToken ∨ c.leaseUntil ≤ (d.avanca agora).relogio
  | _ => True

/-- **The exact effect of the delete.** -/
theorem Exclusivo.excluir_iff (h : Exclusivo d) (jobId ownerToken : String) :
    Exclusivo ((Cmd.excluir jobId ownerToken).aplicar d).1 ↔
      ∀ c ∈ d.claims, c.jobId = jobId → c.ownerToken = ownerToken ∨ c.leaseUntil ≤ d.relogio := by
  constructor
  · intro h' c hc hjob
    by_contra! hc'
    obtain ⟨howner, hviva⟩ := hc'
    -- the holder is another one, and its row is gone
    have hconcedido : ((Cmd.excluir jobId ownerToken).aplicar d).1.concedido
        (c.jobId, c.ownerToken) = some c.leaseUntil := by
      refine (Function.update_of_ne (fun heq ↦ howner ?_) _ _).trans (h.registrado c hc)
      exact congrArg Prod.snd heq
    obtain ⟨r, hr, hrjob, -⟩ := h'.presente ⟨c.leaseUntil, hconcedido, hviva⟩
    have hne := (List.mem_filter.mp hr).2
    exact of_decide_eq_true hne (hrjob.trans hjob)
  · intro hlivre
    refine ⟨h.chaves.sublist (List.filter_sublist.map _), fun c hc ↦ ?_, ?_⟩
    · obtain ⟨hc, hne⟩ := List.mem_filter.mp hc
      refine (Function.update_of_ne (fun heq ↦ of_decide_eq_true hne ?_) _ _).trans
        (h.registrado c hc)
      exact congrArg Prod.fst heq
    · rintro jobId' ownerToken' ⟨lease, hlease, hviva⟩
      have hself : (jobId', ownerToken') ≠ (jobId, ownerToken) := by
        rintro ⟨⟩
        have hnone := (Function.update_self ..).symm.trans hlease
        cases hnone
      have hold : d.concedido (jobId', ownerToken') = some lease :=
        (Function.update_of_ne hself _ _).symm.trans hlease
      obtain ⟨c, hc, rfl, rfl⟩ := h.presente ⟨lease, hold, hviva⟩
      refine ⟨c, List.mem_filter.mpr ⟨hc, decide_eq_true fun hjob ↦ ?_⟩, rfl, rfl⟩
      obtain howner | hle := hlivre c hc hjob
      · exact hself (by rw [hjob, howner])
      · rw [h.registrado c hc] at hold
        exact hviva (Option.some.inj hold ▸ hle)

/-- **A statement** keeps every holder's row exactly when it meets the condition. -/
theorem exclusivo_exec_iff {i : ℕ} {op : Cmd} {agora : DateTime} (h : Exclusivo d)
    (hop : Passado op d) : Exclusivo (exec i op agora d).1 ↔ Propria d (i, op, agora) := by
  have hd := h.avanca agora
  cases op with
  | agora => exact iff_of_true hd trivial
  | obter jobId => exact iff_of_true hd trivial
  | excluir jobId ownerToken => exact hd.excluir_iff jobId ownerToken
  | inserir c =>
    refine iff_of_true ?_ trivial
    rw [exec, Cmd.aplicar]
    split
    next => exact hd
    next hany =>
      refine hd.inserir fun r hr hjob ↦ hany ?_
      exact List.any_eq_true.mpr ⟨r, hr, decide_eq_true hjob⟩
  | estender c =>
    refine iff_of_true (hd.atualizar fun r _ honde ↦ ?_) trivial
    rw [proprio, Bool.and_eq_true] at honde
    exact ⟨of_decide_eq_true honde.1, .inl (of_decide_eq_true honde.2)⟩
  | retomar c now =>
    refine iff_of_true (hd.atualizar fun r _ honde ↦ ?_) trivial
    rw [vencido, Bool.and_eq_true] at honde
    refine ⟨of_decide_eq_true honde.1, .inr ?_⟩
    exact le_trans_micros (of_decide_eq_true honde.2)
      (le_trans_micros hop (relogio_le_avanca d agora))

theorem exclusivo_inicio {inicio : DateTime} : Exclusivo { relogio := inicio } where
  chaves := List.nodup_nil
  registrado := fun _ hc ↦ absurd hc List.not_mem_nil
  presente := by
    rintro jobId ownerToken ⟨lease, hlease, -⟩
    cases hlease

/-- **A job has one holder.** While every `liberar` deletes a row that is its owner's or has run
out, no two owners hold one job at the same time, and every holder has its row; and the first delete
of another holder's row breaks this. -/
theorem claims_exclusive (inicio : DateTime) {tr : List Step} {p : Workers}
    (h : ((workers inicio).restrict fun p m ↦ ∀ x ∈ p.nextCall m.1, Propria p.store x).Run tr p) :
    (∀ agora, p.store.relogio ≤ agora → ∀ jobId o o', Detem p.store agora jobId o →
      Detem p.store agora jobId o' → o = o') ∧
    (∀ jobId o, Detem p.store p.store.relogio jobId o →
      ∃ c ∈ p.store.claims, c.jobId = jobId ∧ c.ownerToken = o) ∧
    ∀ m p', (workers inicio).step p m p' →
      (Exclusivo p'.store ↔ ∀ x ∈ p.nextCall m.1, Propria p.store x) := by
  obtain ⟨hnow, hnext⟩ := Pool.invariant_iff_of_callsIn (I := Exclusivo)
    (.of_monotone Depois.refl (fun h h' ↦ le_trans_micros h h')
      (fun {i op e d} _ ↦ depois_exec i op e d)
      (fun _ d ↦ Depois.refl d) passado_code)
    (fun _ ↦ trivial) exclusivo_inicio (fun hI hop ↦ exclusivo_exec_iff hI hop) (fun hI ↦ hI) h
  exact ⟨fun agora hle jobId o o' ho ho' ↦ hnow.unico hle ho ho',
    fun jobId o ho ↦ hnow.presente ho, hnext⟩

/-! ## Two small runs -/

def sampleRepositorio : RepositorioClaims := ⟨60, by decide⟩

/-- Some seconds after the start. -/
def sampleAgora (segundos : ℤ) : DateTime :=
  (DateTime.newYearNoon.addSeconds segundos).getD .newYearNoon

/-- Worker `a` takes the job and then starts to release it. -/
def sampleStart : List (Move Request DateTime) :=
  [.start 0 (.adquirir sampleRepositorio "job" "a")]
    ++ List.replicate 3 (.advance 0 (sampleAgora 0))
    ++ [.start 0 (.liberar "job" "a"), .start 1 (.adquirir sampleRepositorio "job" "b"),
      .start 2 (.adquirir sampleRepositorio "job" "c")]

/-- The release is over before the next worker takes the job. -/
def sampleSerial : List (Move Request DateTime) :=
  sampleStart ++ List.replicate 3 (.advance 0 (sampleAgora 50))
    ++ List.replicate 3 (.advance 1 (sampleAgora 70))

/-- The lease of `a` runs out between the two steps of its release, and `b` takes the job over. -/
def sampleOverlap : List (Move Request DateTime) :=
  sampleStart ++ [.advance 0 (sampleAgora 50)]
    ++ List.replicate 4 (.advance 1 (sampleAgora 70))
    ++ .advance 0 (sampleAgora 80) :: List.replicate 3 (.advance 2 (sampleAgora 90))

def sampleMoves (moves : List (Move Request DateTime)) : List Step × Workers :=
  TransitionSystem.runCalls (Pool.move code machine) moves
    ⟨{ relogio := sampleAgora 0 }, fun _ ↦ none⟩

instance (d : Banco) (agora : DateTime) (jobId ownerToken : String) :
    Decidable (Detem d agora jobId ownerToken) :=
  match h : d.concedido (jobId, ownerToken) with
  | none => .isFalse (by rintro ⟨lease, hlease, -⟩; rw [h] at hlease; cases hlease)
  | some lease => decidable_of_iff (¬lease ≤ agora)
      ⟨fun hviva ↦ ⟨lease, h, hviva⟩, by
        rintro ⟨lease', hlease, hviva⟩
        rw [h] at hlease
        cases hlease
        exact hviva⟩

instance (d : Banco) : ∀ x : ℕ × Cmd × DateTime, Decidable (Propria d x)
  | (_, .excluir jobId ownerToken, agora) => inferInstanceAs (Decidable (∀ c ∈ d.claims,
      c.jobId = jobId → c.ownerToken = ownerToken ∨ c.leaseUntil ≤ (d.avanca agora).relogio))
  | (_, .agora, _) | (_, .inserir _, _) | (_, .retomar _ _, _) | (_, .estender _, _)
  | (_, .obter _, _) => .isTrue trivial

/-- One worker after the other. -/
theorem claims_exclusive_sample :
    Detem (sampleMoves sampleSerial).2.store (sampleAgora 70) "job" "b" ∧
    ¬Detem (sampleMoves sampleSerial).2.store (sampleAgora 70) "job" "a" := by
  have hrun : ((workers (sampleAgora 0)).restrict
      fun p m ↦ ∀ x ∈ p.nextCall m.1, Propria p.store x).Run
      (sampleMoves sampleSerial).1 (sampleMoves sampleSerial).2 :=
    TransitionSystem.run_restrict_runCalls _ (by decide +kernel)
  have hb : Detem (sampleMoves sampleSerial).2.store (sampleAgora 70) "job" "b" := by
    decide +kernel
  have hle : (sampleMoves sampleSerial).2.store.relogio ≤ sampleAgora 70 := by decide +kernel
  have honly := (claims_exclusive (sampleAgora 0) hrun).1 (sampleAgora 70) hle "job" "a" "b"
  exact ⟨hb, fun ha ↦ absurd (honly ha hb) (by decide)⟩

/-- Worker `a` deletes the row of `b`, and `c` gets the job that `b` still holds. -/
theorem claim_lost : ∃ tr p, (workers (sampleAgora 0)).Run tr p ∧
    Detem p.store p.store.relogio "job" "b" ∧ Detem p.store p.store.relogio "job" "c" :=
  ⟨_, (sampleMoves sampleOverlap).2, TransitionSystem.run_runCalls _ _ _, by decide +kernel,
    by decide +kernel⟩

end Claims

end Ocr

end ReqSys
