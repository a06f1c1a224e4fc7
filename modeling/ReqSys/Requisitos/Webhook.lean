import Mathlib
import ReqSys.Foundation.Serial
import ReqSys.Requisitos.Repository

/-!
# Requirements: the links of the Git providers

`salvar_vinculos` stores what a webhook says of commits and pull requests: a link each, an audit
event when the code is that of a stored requirement, and the status `implementado` when the request
was merged. One commit ends the function, but `registrar_evento` commits as well, in the middle of
the loop. When the database fails after that, the session is given up with a part of the links
stored, and a redelivery of the webhook stores them again.

The links are stored together or not at all if and only if none of them names a stored requirement
(`atomica_iff`).
-/

namespace ReqSys

namespace Requisitos

/-! ## Links -/

/-- What the parser of the webhook says of a commit or a request. -/
structure Vinculo where
  requisitoCodigo : String
  tipo : String
  provedor : String
  repo : String
  referencia : String
  url : Option String := none
  titulo : Option String := none
  autor : Option String := none
  ambiente : Option String := none
  prMerged : Bool := false
  mrMerged : Bool := false
  deriving DecidableEq

/-- The row of a link. -/
def Vinculo.linha (v : Vinculo) (requisitoId : Option ℕ) (id : ℕ) : VinculoGit where
  id
  requisitoCodigo := v.requisitoCodigo
  requisitoId
  tipo := v.tipo
  provedor := v.provedor
  repo := v.repo
  referencia := v.referencia
  url := v.url
  titulo := v.titulo
  autor := v.autor
  ambiente := v.ambiente

/-- `v.get('autor') or 'git'`. -/
def Vinculo.usuario (v : Vinculo) : String :=
  if PyText.truthy v.autor then v.autor.getD "" else "git"

/-- The request was merged. -/
def Vinculo.merged (v : Vinculo) : Bool := v.prMerged || v.mrMerged

/-- The event of a link. -/
def Vinculo.eventoDetectado (U : Unicode) (v : Vinculo) (requisitoId : ℕ) : AuditoriaEvento where
  correlationId := "webhook"
  usuario := v.usuario
  acao := "GIT_" ++ U.upper v.tipo ++ "_DETECTADO"
  entidade := "requisito"
  entidadeId := requisitoId.repr
  payloadMinimo := .git v.provedor v.repo v.referencia v.url

/-- The event of a new status. -/
def Vinculo.eventoStatus (v : Vinculo) (requisitoId : ℕ) (statusAnterior : String) :
    AuditoriaEvento where
  correlationId := "webhook"
  usuario := v.usuario
  acao := "STATUS_ATUALIZADO_VIA_GIT"
  entidade := "requisito"
  entidadeId := requisitoId.repr
  payloadMinimo :=
    .status statusAnterior "implementado" (v.provedor ++ "_" ++ v.tipo) v.referencia

/-- The identifier that the next link gets. -/
def Banco.proximoVinculo (b : Banco) : ℕ := (b.vinculos.map VinculoGit.id).foldr max 0 + 1

def Banco.inserirVinculo (b : Banco) (v : Vinculo) (requisitoId : Option ℕ) : Banco :=
  { b with vinculos := b.vinculos ++ [v.linha requisitoId b.proximoVinculo] }

/-! ## The session -/

/-- What is committed, and what the open transaction sees. -/
structure Sessao where
  banco : Banco
  transacao : Banco

inductive Cmd
  /-- `buscar_por_codigo`. -/
  | buscarPorCodigo (codigo : String)
  /-- `buscar_por_id`. -/
  | buscarPorId (requisitoId : ℕ)
  /-- A link is added and flushed. -/
  | inserirVinculo (v : Vinculo) (requisitoId : Option ℕ)
  /-- A status is assigned, in the session only. -/
  | atribuirStatus (requisitoId : ℕ) (status : String)
  /-- `registrar_evento`, which commits. -/
  | registrarEvento (e : AuditoriaEvento)
  | commit

abbrev Cmd.Ans : Cmd → Type
  | buscarPorCodigo _ => Option Requisito
  | buscarPorId _ => Option Requisito
  | inserirVinculo _ _ => ℕ
  | atribuirStatus _ _ => Unit
  | registrarEvento _ => Unit
  | commit => Unit

/-- The transaction is committed. -/
def Sessao.confirmada (b : Banco) : Sessao := ⟨b, b⟩

/-- A command, and the error with which the database answers it, if any. A failed command has no
effect. -/
def exec (_ : ℕ) : (op : Cmd) → Option Erro → Sessao → Sessao × Except Erro op.Ans
  | .atribuirStatus id status, _, s =>
    ({ s with transacao := s.transacao.escreverStatus id status }, .ok ())
  | .buscarPorCodigo codigo, none, s => (s, .ok (buscarPorCodigo s.transacao.requisitos codigo))
  | .buscarPorId id, none, s => (s, .ok (buscarPorId s.transacao.requisitos id))
  | .inserirVinculo v requisitoId, none, s =>
    ({ s with transacao := s.transacao.inserirVinculo v requisitoId },
      .ok s.transacao.proximoVinculo)
  | .registrarEvento e, none, s => (.confirmada (s.transacao.registrarEvento e), .ok ())
  | .commit, none, s => (.confirmada s.transacao, .ok ())
  | .buscarPorCodigo _, some erro, s => (s, .error erro)
  | .buscarPorId _, some erro, s => (s, .error erro)
  | .inserirVinculo _ _, some erro, s => (s, .error erro)
  | .registrarEvento _, some erro, s => (s, .error erro)
  | .commit, some erro, s => (s, .error erro)

/-- When the request ends, the session is closed and what is not committed is rolled back. -/
def sessoes : Machine Cmd.Ans Erro Sessao (Option Erro) where
  exec := exec
  close _ s := .confirmada s.banco

/-- One command. -/
abbrev pedir (op : Cmd) : Program Cmd.Ans Erro op.Ans := .perform op

/-! ## `salvar_vinculos` -/

/-- The statuses that a merged request leaves alone. -/
def statusFinais : List String := ["encerrado", "implementado"]

/-- The status of the requirement of a merged request. -/
def avancarStatus (v : Vinculo) (requisitoId : ℕ) : Program Cmd.Ans Erro Unit := do
  if v.merged then
    match ← pedir (.buscarPorId requisitoId) with
    | none => return
    | some requisito =>
      if requisito.status ∉ statusFinais then
        pedir (.atribuirStatus requisitoId "implementado")
        pedir (.registrarEvento (v.eventoStatus requisitoId requisito.status))

/-- The body of the loop. Identifiers are positive, so `if req_id` asks whether there is one. -/
def salvarVinculo (U : Unicode) (v : Vinculo) : Program Cmd.Ans Erro ℕ := do
  let requisito ← pedir (.buscarPorCodigo v.requisitoCodigo)
  let id ← pedir (.inserirVinculo v (requisito.map Requisito.id))
  match requisito with
  | none => return id
  | some requisito =>
    pedir (.registrarEvento (v.eventoDetectado U requisito.id))
    avancarStatus v requisito.id
    return id

/-- The loop. -/
def percorrer (U : Unicode) : List Vinculo → Program Cmd.Ans Erro (List ℕ)
  | [] => return []
  | v :: vinculos => do
    let id ← salvarVinculo U v
    let ids ← percorrer U vinculos
    return id :: ids

/-- `salvar_vinculos`. -/
def salvarVinculos (U : Unicode) (vinculos : List Vinculo) : Program Cmd.Ans Erro (List ℕ) := do
  let ids ← percorrer U vinculos
  pedir .commit
  return ids

/-! ## What is stored when nothing fails -/

/-- The status after a merged request. -/
def Banco.avancarStatus (b : Banco) (v : Vinculo) (requisitoId : ℕ) : Banco :=
  if v.merged then
    match Requisitos.buscarPorId b.requisitos requisitoId with
    | none => b
    | some requisito =>
      if requisito.status ∉ statusFinais then
        (b.escreverStatus requisitoId "implementado").registrarEvento
          (v.eventoStatus requisitoId requisito.status)
      else b
  else b

/-- What one link adds. -/
def Banco.salvarVinculo (U : Unicode) (b : Banco) (v : Vinculo) : Banco :=
  match Requisitos.buscarPorCodigo b.requisitos v.requisitoCodigo with
  | none => b.inserirVinculo v none
  | some requisito =>
    ((b.inserirVinculo v (some requisito.id)).registrarEvento
      (v.eventoDetectado U requisito.id)).avancarStatus v requisito.id

/-- What the links add. -/
def Banco.salvarVinculos (U : Unicode) (b : Banco) (vinculos : List Vinculo) : Banco :=
  vinculos.foldl (Banco.salvarVinculo U) b

/-- A link without what the database gives it. -/
def VinculoGit.conteudo (l : VinculoGit) : VinculoGit := { l with id := 0, requisitoId := none }

/-! ## Runs without a failure -/

section SemFalha

variable {U : Unicode} {b : Banco} {v : Vinculo} {vinculos : List Vinculo} {s : Sessao}

@[simp]
theorem vinculos_escreverStatus (id : ℕ) (status : String) :
    (b.escreverStatus id status).vinculos = b.vinculos := rfl

@[simp]
theorem vinculos_registrarEvento (e : AuditoriaEvento) :
    (b.registrarEvento e).vinculos = b.vinculos := rfl

@[simp]
theorem requisitos_registrarEvento (e : AuditoriaEvento) :
    (b.registrarEvento e).requisitos = b.requisitos := rfl

@[simp]
theorem requisitos_inserirVinculo (requisitoId : Option ℕ) :
    (b.inserirVinculo v requisitoId).requisitos = b.requisitos := rfl

@[simp]
theorem vinculos_inserirVinculo (requisitoId : Option ℕ) :
    (b.inserirVinculo v requisitoId).vinculos
      = b.vinculos ++ [v.linha requisitoId b.proximoVinculo] := rfl

@[simp]
theorem vinculos_avancarStatus (requisitoId : ℕ) :
    (b.avancarStatus v requisitoId).vinculos = b.vinculos := by
  rw [Banco.avancarStatus]
  split
  · split
    · rfl
    · split
      · rfl
      · rfl
  · rfl

/-- A link adds one row. -/
theorem map_conteudo_salvarVinculo :
    (b.salvarVinculo U v).vinculos.map VinculoGit.conteudo
      = b.vinculos.map VinculoGit.conteudo ++ [v.linha none 0] := by
  rw [Banco.salvarVinculo]
  split
  · rw [vinculos_inserirVinculo, List.map_append]
    rfl
  · rw [vinculos_avancarStatus, vinculos_registrarEvento, vinculos_inserirVinculo, List.map_append]
    rfl

/-- Every link of the list adds one row. -/
theorem map_conteudo_salvarVinculos :
    (b.salvarVinculos U vinculos).vinculos.map VinculoGit.conteudo
      = b.vinculos.map VinculoGit.conteudo ++ vinculos.map (Vinculo.linha · none 0) := by
  induction vinculos generalizing b with
  | nil => exact (List.append_nil _).symm
  | cons v vinculos ih =>
    have hrest : b.salvarVinculos U (v :: vinculos)
        = (b.salvarVinculo U v).salvarVinculos U vinculos := rfl
    rw [hrest, ih, map_conteudo_salvarVinculo, List.append_assoc, List.map_cons,
      List.singleton_append]

/-- A command that is answered, and the rest. -/
theorem endsIn_pedir_bind {α : Type} {op : Cmd} {f : op.Ans → Program Cmd.Ans Erro α}
    {Q : Except Erro α → Sessao → Prop} {s' : Sessao} {a : op.Ans}
    (hexec : exec 0 op none s = (s', .ok a))
    (hf : (f a).EndsIn sessoes 0 (· = none) Eq Q s') :
    (pedir op >>= f).EndsIn sessoes 0 (· = none) Eq Q s := by
  refine Program.endsIn_perform_bind ?_ ?_
  · rintro _ rfl s₁ a₁ h
    cases hexec.symm.trans h
    exact hf
  · rintro _ rfl s₁ x h
    cases hexec.symm.trans h

theorem avancarStatus_semFalha (requisitoId : ℕ) (h : s.transacao = b) :
    (avancarStatus v requisitoId).EndsIn sessoes 0 (· = none) Eq
      (fun r s' ↦ r = .ok () ∧ s'.transacao = b.avancarStatus v requisitoId) s := by
  subst h
  rw [avancarStatus, Banco.avancarStatus]
  split
  · refine endsIn_pedir_bind rfl ?_
    rcases hbusca : buscarPorId s.transacao.requisitos requisitoId with _ | requisito
    · exact ⟨rfl, rfl⟩
    · dsimp only
      split
      · refine endsIn_pedir_bind rfl ?_
        rintro _ _ rfl rfl
        exact ⟨rfl, rfl⟩
      · exact ⟨rfl, rfl⟩
  · exact ⟨rfl, rfl⟩

theorem salvarVinculo_semFalha (h : s.transacao = b) :
    (salvarVinculo U v).EndsIn sessoes 0 (· = none) Eq
      (fun r s' ↦ (∃ id, r = .ok id) ∧ s'.transacao = b.salvarVinculo U v) s := by
  subst h
  rw [salvarVinculo, Banco.salvarVinculo]
  refine endsIn_pedir_bind rfl (endsIn_pedir_bind rfl ?_)
  rcases hbusca : buscarPorCodigo s.transacao.requisitos v.requisitoCodigo with _ | requisito
  · exact ⟨⟨_, rfl⟩, rfl⟩
  · refine endsIn_pedir_bind rfl ((avancarStatus_semFalha requisito.id rfl).bind ?_ ?_)
    · rintro ⟨⟩ s' ⟨-, hs'⟩
      exact ⟨⟨_, rfl⟩, hs'⟩
    · rintro x s' ⟨herro, -⟩
      cases herro

theorem percorrer_semFalha (h : s.transacao = b) :
    (percorrer U vinculos).EndsIn sessoes 0 (· = none) Eq
      (fun r s' ↦ (∃ ids, r = .ok ids) ∧ s'.transacao = b.salvarVinculos U vinculos) s := by
  induction vinculos generalizing b s with
  | nil => exact ⟨⟨_, rfl⟩, h⟩
  | cons v vinculos ih =>
    refine (salvarVinculo_semFalha h).bind ?_ ?_
    · rintro id s' ⟨-, hs'⟩
      refine (ih hs').bind ?_ ?_
      · rintro ids s'' ⟨-, hs''⟩
        exact ⟨⟨_, rfl⟩, hs''⟩
      · rintro x s'' ⟨⟨ids, herro⟩, -⟩
        cases herro
    · rintro x s' ⟨⟨id, herro⟩, -⟩
      cases herro

/-- **A delivery.** When the database does not fail, the links are stored one after the other, and
committed. -/
theorem salvarVinculos_semFalha :
    (salvarVinculos U vinculos).EndsIn sessoes 0 (· = none) Eq
      (fun r s' ↦ (∃ ids, r = .ok ids) ∧ s' = .confirmada (b.salvarVinculos U vinculos))
      (.confirmada b) := by
  refine (percorrer_semFalha rfl).bind ?_ ?_
  · rintro ids s' ⟨-, hs'⟩
    refine endsIn_pedir_bind rfl ?_
    rw [hs']
    exact ⟨⟨_, rfl⟩, rfl⟩
  · rintro x s' ⟨⟨ids, herro⟩, -⟩
    cases herro

end SemFalha

/-! ## Failures -/

/-- Wherever the database fails, a call that raises has stored nothing, so that a delivery that
succeeds afterwards stores every link once. -/
def Atomica (U : Unicode) (b : Banco) (vinculos : List Vinculo) : Prop :=
  ∀ es s' erro,
    (salvarVinculos U vinculos).runAlone sessoes 0 es (.confirmada b) = some (s', .error erro) →
    s'.banco = b ∧
    ∀ es' s'' ids, (∀ e ∈ es', e = none) →
      (salvarVinculos U vinculos).runAlone sessoes 0 es' (sessoes.close 0 s')
        = some (s'', .ok ids) →
      s''.banco.vinculos.map VinculoGit.conteudo
        = b.vinculos.map VinculoGit.conteudo ++ vinculos.map (Vinculo.linha · none 0)

/-- The link names a stored requirement. -/
def Banco.Conhece (b : Banco) (v : Vinculo) : Prop :=
  ∃ requisito, Requisitos.buscarPorCodigo b.requisitos v.requisitoCodigo = some requisito

section Falhas

variable {U : Unicode} {b : Banco} {v : Vinculo} {vinculos : List Vinculo} {s : Sessao}

/-! ### Links of unknown requirements -/

/-- Nothing has been committed, and the requirements are the stored ones. -/
def Intocada (b : Banco) (s : Sessao) : Prop :=
  s.banco = b ∧ s.transacao.requisitos = b.requisitos

/-- A command that is answered or not, and the rest. -/
theorem alone_pedir_bind {α : Type} {op : Cmd} {f : op.Ans → Program Cmd.Ans Erro α}
    {Q : Except Erro α → Sessao → Prop} {s' : Sessao} {a : op.Ans}
    (hexec : exec 0 op none s = (s', .ok a)) (hfalha : ∀ x, exec 0 op (some x) s = (s, .error x))
    (hf : Program.Alone sessoes 0 s' Q (f a)) (herro : ∀ x, Q (.error x) s) :
    Program.Alone sessoes 0 s Q (pedir op >>= f) := by
  refine Program.alone_perform_bind ?_ ?_
  · rintro (_ | x) s₁ a₁ h
    · cases hexec.symm.trans h
      exact hf
    · cases (hfalha x).symm.trans h
  · rintro (_ | x) s₁ x₁ h
    · cases hexec.symm.trans h
    · cases (hfalha x).symm.trans h
      exact herro x

theorem salvarVinculo_desconhecido (h : ¬b.Conhece v) (hs : Intocada b s) :
    Program.Alone sessoes 0 s (fun _ s' ↦ Intocada b s') (salvarVinculo U v) := by
  have hbusca : buscarPorCodigo s.transacao.requisitos v.requisitoCodigo = none := by
    rw [hs.2]
    exact Option.eq_none_iff_forall_ne_some.mpr fun requisito heq ↦ h ⟨requisito, heq⟩
  rw [salvarVinculo]
  refine alone_pedir_bind rfl (fun _ ↦ rfl) ?_ fun _ ↦ hs
  rw [hbusca]
  exact alone_pedir_bind rfl (fun _ ↦ rfl) ⟨hs.1, hs.2⟩ fun _ ↦ hs

theorem percorrer_desconhecidos (h : ∀ v ∈ vinculos, ¬b.Conhece v) (hs : Intocada b s) :
    Program.Alone sessoes 0 s (fun _ s' ↦ Intocada b s') (percorrer U vinculos) := by
  induction vinculos generalizing s with
  | nil => exact hs
  | cons v vinculos ih =>
    obtain ⟨hv, hvinculos⟩ := List.forall_mem_cons.mp h
    refine (salvarVinculo_desconhecido hv hs).bind ?_ fun hs' ↦ hs'
    intro id s' hs'
    exact (ih hvinculos hs').bind (fun hs'' ↦ hs'') fun hs'' ↦ hs''

/-- Without a known requirement nothing is committed before the end. -/
theorem salvarVinculos_desconhecidos (h : ∀ v ∈ vinculos, ¬b.Conhece v) :
    Program.Alone sessoes 0 (.confirmada b)
      (fun r s' ↦ ∀ erro, r = .error erro → s'.banco = b) (salvarVinculos U vinculos) := by
  refine (percorrer_desconhecidos h ⟨rfl, rfl⟩).bind ?_ fun hs _ _ ↦ hs.1
  intro ids s' hs'
  refine alone_pedir_bind rfl (fun _ ↦ rfl) ?_ fun _ _ _ ↦ hs'.1
  intro erro herro
  cases herro

/-! ### Links of known requirements -/

/-- The program can fail with more than `n` links committed. -/
def PodeFalhar {α : Type} (n : ℕ) (s : Sessao) (p : Program Cmd.Ans Erro α) : Prop :=
  ∃ es s' erro, p.runAlone sessoes 0 es s = some (s', .error erro) ∧ n < s'.banco.vinculos.length

/-- A command that is answered, before the failure. -/
theorem PodeFalhar.depois {α : Type} {n : ℕ} {op : Cmd} {f : op.Ans → Program Cmd.Ans Erro α}
    {s' : Sessao} {a : op.Ans} (hexec : exec 0 op none s = (s', .ok a))
    (h : PodeFalhar n s' (f a)) : PodeFalhar n s (pedir op >>= f) := by
  obtain ⟨es, s'', erro, hrun, hn⟩ := h
  refine ⟨none :: es, s'', erro, ?_, hn⟩
  have hstep : (pedir op >>= f).runAlone sessoes 0 (none :: es) s
      = ((Program.ofExcept (exec 0 op none s).2).bind f).runAlone sessoes 0 es
        (exec 0 op none s).1 := rfl
  rw [hstep, hexec]
  exact hrun

/-- The command that fails. -/
theorem PodeFalhar.agora {α : Type} {n : ℕ} {op : Cmd} {f : op.Ans → Program Cmd.Ans Erro α}
    (hfalha : ∀ x, exec 0 op (some x) s = (s, .error x)) (hn : n < s.banco.vinculos.length) :
    PodeFalhar n s (pedir op >>= f) := by
  let erro : Erro := .operationalError "disk I/O error"
  refine ⟨[some erro], s, erro, ?_, hn⟩
  have hstep : (pedir op >>= f).runAlone sessoes 0 [some erro] s
      = ((Program.ofExcept (exec 0 op (some erro) s).2).bind f).runAlone sessoes 0 []
        (exec 0 op (some erro) s).1 := rfl
  rw [hstep, hfalha]
  rfl

/-- The loop: one link, and the other ones. -/
theorem percorrer_cons_bind {α : Type} (f : List ℕ → Program Cmd.Ans Erro α) :
    percorrer U (v :: vinculos) >>= f
      = salvarVinculo U v >>= fun id ↦ percorrer U vinculos >>= fun ids ↦ f (id :: ids) := by
  rw [percorrer, Program.bind_assoc]
  exact congrArg (salvarVinculo U v >>= ·) (funext fun id ↦ Program.bind_assoc _ _ _)

/-- The end of the function. -/
def fim (g : List ℕ → List ℕ) (ids : List ℕ) : Program Cmd.Ans Erro (List ℕ) := do
  pedir .commit
  return g ids

/-- The rest of the list and the final commit. -/
theorem PodeFalhar.resto {n : ℕ} {g : List ℕ → List ℕ} (hn : n < s.banco.vinculos.length) :
    PodeFalhar n s (percorrer U vinculos >>= fim g) := by
  cases vinculos with
  | nil => exact .agora (fun _ ↦ rfl) hn
  | cons v vinculos =>
    rw [percorrer_cons_bind, salvarVinculo, Program.bind_assoc]
    exact .agora (fun _ ↦ rfl) hn

/-- Once the event of a link is committed, something can still fail. -/
theorem PodeFalhar.avancar {n : ℕ} {g : List ℕ → List ℕ} (requisitoId : ℕ)
    (hn : n < s.banco.vinculos.length) :
    PodeFalhar n s (avancarStatus v requisitoId >>= fun _ ↦ percorrer U vinculos >>= fim g) := by
  rw [avancarStatus]
  split
  · rw [Program.bind_assoc]
    exact .agora (fun _ ↦ rfl) hn
  · exact .resto hn

/-- The first link of a known requirement is committed with its event, before the end. -/
theorem PodeFalhar.de_conhecido {n : ℕ} {g : List ℕ → List ℕ}
    (h : ∃ v ∈ vinculos, s.transacao.Conhece v) (hn : n ≤ s.transacao.vinculos.length) :
    PodeFalhar n s (percorrer U vinculos >>= fim g) := by
  induction vinculos generalizing s g with
  | nil =>
    obtain ⟨v, hv, -⟩ := h
    exact absurd hv List.not_mem_nil
  | cons v vinculos ih =>
    rw [percorrer_cons_bind, salvarVinculo, Program.bind_assoc]
    refine .depois rfl ?_
    rw [Program.bind_assoc]
    refine .depois rfl ?_
    rcases hbusca : buscarPorCodigo s.transacao.requisitos v.requisitoCodigo with _ | requisito
    · obtain ⟨v', hv', requisito, hconhece⟩ := h
      obtain rfl | hv' := List.mem_cons.mp hv'
      · cases hbusca.symm.trans hconhece
      · refine @ih _ (fun ids ↦ g (s.transacao.proximoVinculo :: ids))
          ⟨v', hv', requisito, hconhece⟩ ?_
        rw [vinculos_inserirVinculo, List.length_append]
        omega
    · dsimp only
      rw [Program.bind_assoc]
      refine .depois rfl ?_
      rw [Program.bind_assoc]
      refine @PodeFalhar.avancar U v vinculos _ n (fun ids ↦ g (s.transacao.proximoVinculo :: ids))
        requisito.id ?_
      change n < (s.transacao.vinculos ++ [_]).length
      rw [List.length_append, List.length_singleton]
      omega

end Falhas

/-- **Atomicity.** A call that raises has stored nothing, wherever the database fails, if and only
if no link of the list names a stored requirement. -/
theorem atomica_iff (U : Unicode) (b : Banco) (vinculos : List Vinculo) :
    Atomica U b vinculos ↔ ∀ v ∈ vinculos, ¬b.Conhece v := by
  constructor
  · intro hatomica v hv hconhece
    obtain ⟨es, s', erro, hrun, hn⟩ :=
      @PodeFalhar.de_conhecido U vinculos (.confirmada b) b.vinculos.length id
        ⟨v, hv, hconhece⟩ le_rfl
    rw [(hatomica es s' erro hrun).1] at hn
    exact lt_irrefl _ hn
  · intro h es s' erro hrun
    have hbanco : s'.banco = b :=
      Program.EndsIn.runAlone (fun _ ↦ rfl) (salvarVinculos_desconhecidos h)
        (fun _ _ ↦ trivial) hrun erro rfl
    refine ⟨hbanco, fun es' s'' ids hes' hrun' ↦ ?_⟩
    have hclose : sessoes.close 0 s' = .confirmada b := congrArg Sessao.confirmada hbanco
    rw [hclose] at hrun'
    obtain ⟨-, hs''⟩ :=
      Program.EndsIn.runAlone (fun _ ↦ rfl) (salvarVinculos_semFalha (U := U)) hes' hrun'
    rw [hs'']
    exact map_conteudo_salvarVinculos

/-- A database with one requirement. -/
def bancoComRequisito : Banco :=
  (Banco.vazio.criar "REQ-100000001"
    { titulo := "Exportar relatório"
      descricao := "Quando o usuário exporta, então o arquivo é gravado."
      area := "negocio"
      sistema := "reqsys"
      solicitante := "ana" } none).1

/-- A commit that names it. -/
def vinculoDeCommit : Vinculo where
  requisitoCodigo := "REQ-100000001"
  tipo := "commit"
  provedor := "github"
  repo := "org/reqsys"
  referencia := "9fceb02d0ae598e95dc970b74767f19372d61af8"

/-- The final commit fails: the link and its event stay. -/
theorem commit_final_not_atomica :
    ¬∀ (U : Unicode) (b : Banco) (vinculos : List Vinculo), Atomica U b vinculos := by
  intro h
  have hbanco := (h .ascii bancoComRequisito [vinculoDeCommit]
    [none, none, none, some (.operationalError "disk I/O error")] _ _ rfl).1
  have hvinculos := congrArg (fun b ↦ b.vinculos.length) hbanco
  exact absurd hvinculos (by decide +kernel)

end Requisitos

end ReqSys
