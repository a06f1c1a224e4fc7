import Mathlib
import ReqSys.Foundation.Serial
import ReqSys.RedmineLifecycle.Workers

/-!
# Redmine lifecycle: the answer and the row

What `reconciliar_requisito` answers is built in each branch anew, next to what the branch stores in
the control row. `Respondeu` lists the branches: the answer, and the row after it. The two agree
except in three of them, which answer that the requirement is not in quarantine without looking: the
pending backoff, the success, and the failure that is not the last one allowed. A quarantined
requirement comes there only if quarantined ones are included.
-/

namespace ReqSys

namespace RedmineLifecycle

open Program

/-! ## The call with a given time -/

/-- `reconciliar_requisito` with the argument `agora`, in an open session. -/
def reconciliarEm (cfg : Config) (ped : Pedido) (agora : DateTime) : Processo Resposta := do
  let n ← run .uuid4
  let workerId := "worker-" ++ cfg.uuid n
  match ← run .issueLink with
  | none => return semIssue ped "vinculo_ausente"
  | some issueLink =>
    let issueId := (cfg.int issueLink.referencia).getD 0
    if issueId ≤ 0 then return semIssue ped "vinculo_invalido"
    else if ped.dryRun then responderDryRun issueId agora
    else reconciliarLinha cfg ped workerId issueId agora

/-- The same, in a session of its own. -/
def chamadaEm (cfg : Config) (ped : Pedido) (agora : DateTime) : Processo Resposta := do
  run .abrir
  reconciliarEm cfg ped agora

/-- Without the argument, the time is that of the clock. -/
theorem reconciliarRequisito_eq (cfg : Config) (ped : Pedido) :
    reconciliarRequisito cfg ped =
      (run .abrir >>= fun _ ↦ run .now >>= fun agora ↦ reconciliarEm cfg ped agora) := rfl

/-- The number of the issue, if there is one. -/
def Config.issueId (cfg : Config) : Option ℤ :=
  (cfg.issueLink.map fun link ↦ (cfg.int link.referencia).getD 0).filter (0 < ·)

/-- The control of the requirement: what the row that counts says, if there is an issue and a
row. -/
def Banco.controle (cfg : Config) (w : Banco) : Controle :=
  if cfg.issueId = none then {} else (w.controles.head?.map Linha.titulo).getD {}

/-- The answer has the key `next_attempt_at`. -/
def Resposta.comProxima (r : Resposta) : Bool :=
  match r.outcome with
  | .puladoBackoff | .quarentenado | .dryRun => true
  | .falhou => r.redmineIssueId.isSome
  | .sincronizado | .puladoLock | .puladoQuarentena => false

/-- **The answer is the state.** -/
structure Resposta.Diz (r : Resposta) (c : Controle) : Prop where
  attempts : r.attempts = c.attempts
  quarantined : r.quarantined = c.quarantined
  nextAttemptAt : r.comProxima = true → r.nextAttemptAt = c.nextAttemptAt

def Outcome.pulado : Outcome → Bool
  | .puladoLock | .puladoBackoff | .puladoQuarentena => true
  | .sincronizado | .quarentenado | .falhou | .dryRun => false

/-! ## Branches -/

/-- A time to try again is pending. -/
def Controle.pendente (c : Controle) (agora : DateTime) : Bool :=
  depoisDe (parse c.nextAttemptAt) agora

/-- When a lock that is taken now expires. -/
def Pedido.expira (ped : Pedido) (agora : DateTime) : Option DateTime :=
  agora.addSeconds (max 1 ped.lockTimeoutMinutos * 60)

/-- The branches of a call on a control: the answer, and the control after it. The synchronisation
ends in one of the ways of `S`. -/
inductive Respondeu (S : Except Erro ResultadoSync → Prop) (ped : Pedido) (issueId : ℤ)
    (agora : DateTime) (c : Controle) : Resposta → Controle → Prop
  | quarentena : c.quarantined = true → ped.incluirQuarentena = false →
      Respondeu S ped issueId agora c {
        outcome := .puladoQuarentena
        redmineIssueId := some issueId
        attempts := c.attempts
        quarantined := true
        quarantineReason := c.quarantineReason } c
  | backoff : (c.quarantined && !ped.incluirQuarentena) = false → c.pendente agora = true →
      Respondeu S ped issueId agora c {
        outcome := .puladoBackoff
        redmineIssueId := some issueId
        attempts := c.attempts
        quarantined := false
        nextAttemptAt := c.nextAttemptAt } c
  | lock : (c.quarantined && !ped.incluirQuarentena) = false → c.pendente agora = false →
      c.vigente agora = true →
      Respondeu S ped issueId agora c {
        outcome := .puladoLock
        redmineIssueId := some issueId
        attempts := c.attempts
        quarantined := c.quarantined
        lockOwner := c.lock.map Lock.owner } c
  | falhou {x : Erro} {tipo mensagem : String} {quarentenado : Bool} {proximoEm : Option ℤ}
      {nextAttemptAt : Option String} {lock : Option Lock} :
      (c.quarantined && !ped.incluirQuarentena) = false → c.pendente agora = false →
      c.vigente agora = false → (ped.expira agora).isSome = true → S (.error x) →
      Respondeu S ped issueId agora c {
        outcome := if quarentenado then .quarentenado else .falhou
        redmineIssueId := some issueId
        errorType := some tipo
        errorRef := some ped.correlationId
        attempts := c.attempts + 1
        quarantined := quarentenado
        nextAttemptAt
        backoffMinutos := proximoEm }
        { Controle.comFalha { c with lock } ped (c.attempts + 1)
            (PyText.take maxErrorChars mensagem) quarentenado nextAttemptAt agora with
          lock := none }
  | sincronizado {resultado : ResultadoSync} {lock : Option Lock} :
      (c.quarantined && !ped.incluirQuarentena) = false → c.pendente agora = false →
      c.vigente agora = false → (ped.expira agora).isSome = true → S (.ok resultado) →
      Respondeu S ped issueId agora c {
        outcome := .sincronizado
        redmineIssueId := some issueId
        attempts := 0
        quarantined := false
        mutationCount := some resultado.mutationCount
        sync := some resultado }
        { Controle.comSucesso { c with lock } ped agora with lock := none }

variable {S : Except Erro ResultadoSync → Prop} {cfg : Config} {ped : Pedido} {issueId : ℤ}
  {agora : DateTime} {c c' : Controle} {r : Resposta}

/-- **The condition.** The requirement is not in quarantine, or quarantined ones are left out, or
the call ends at the lock: no backoff is pending, and somebody else has the lock, or the calendar
ends before the new one would. -/
def Coerente (ped : Pedido) (agora : DateTime) (c : Controle) : Prop :=
  c.quarantined = false ∨ ped.incluirQuarentena = false ∨
    c.pendente agora = false ∧ (c.vigente agora = true ∨ ped.expira agora = none)

instance (ped : Pedido) (agora : DateTime) (c : Controle) : Decidable (Coerente ped agora c) :=
  inferInstanceAs (Decidable (_ ∨ _ ∨ _ ∧ (_ ∨ _)))

/-- Only requirements outside quarantine come to the synchronisation on such a control. -/
theorem Coerente.livre (hc : Coerente ped agora c)
    (hquar : (c.quarantined && !ped.incluirQuarentena) = false) (hvig : c.vigente agora = false)
    (hexp : (ped.expira agora).isSome = true) : c.quarantined = false := by
  obtain hq | hincl | ⟨-, hvig' | hexp'⟩ := hc
  · exact hq
  · rwa [hincl, Bool.not_false, Bool.and_true] at hquar
  · rw [hvig] at hvig'
    cases hvig'
  · rw [hexp'] at hexp
    cases hexp

/-- On such a control every branch answers what the row says. -/
theorem Respondeu.diz (h : Respondeu S ped issueId agora c r c') (hc : Coerente ped agora c) :
    r.Diz c' := by
  cases h with
  | quarentena hq _ => exact ⟨rfl, hq.symm, fun _ ↦ by contradiction⟩
  | backoff hquar hpend =>
    obtain hq | hincl | ⟨hnpend, -⟩ := hc
    · exact ⟨rfl, hq.symm, fun _ ↦ rfl⟩
    · rw [hincl, Bool.not_false, Bool.and_true] at hquar
      exact ⟨rfl, hquar.symm, fun _ ↦ rfl⟩
    · rw [hnpend] at hpend
      cases hpend
  | lock _ _ _ => exact ⟨rfl, rfl, fun _ ↦ by contradiction⟩
  | @falhou _ _ _ quarentenado _ _ _ hquar _ hvig hexp _ =>
    have hq := hc.livre hquar hvig hexp
    refine ⟨rfl, ?_, fun _ ↦ rfl⟩
    change quarentenado = (quarentenado || c.quarantined)
    rw [hq, Bool.or_false]
  | sincronizado hquar _ hvig hexp _ =>
    exact ⟨rfl, (hc.livre hquar hvig hexp).symm, fun _ ↦ by contradiction⟩

/-- On another one the branches that are left say that there is no quarantine. -/
theorem Respondeu.not_diz (h : Respondeu S ped issueId agora c r c') (hS : ∀ x, ¬S (.error x))
    (hc : ¬Coerente ped agora c) : ¬r.Diz c' := by
  rw [Coerente, not_or, not_or, Bool.not_eq_false] at hc
  obtain ⟨hq, hincl, hresto⟩ := hc
  intro hdiz
  cases h with
  | quarentena _ hincl' => exact hincl hincl'
  | backoff _ _ =>
    have hfalse : false = c.quarantined := hdiz.quarantined
    rw [hq] at hfalse
    cases hfalse
  | lock _ hpend hvig => exact hresto ⟨hpend, .inl hvig⟩
  | falhou _ _ _ _ hx => exact hS _ hx
  | sincronizado _ _ _ _ _ =>
    have hfalse : false = c.quarantined := hdiz.quarantined
    rw [hq] at hfalse
    cases hfalse

/-- After a success outside quarantine no call is skipped. -/
theorem Respondeu.not_pulado {S' : Except Erro ResultadoSync → Prop} {ped' : Pedido}
    {n : ℤ} {agora' : DateTime} {r' : Resposta} {c'' : Controle}
    (h : Respondeu S ped issueId agora c r c') (hc : Coerente ped agora c)
    (hr : r.outcome = .sincronizado) (h' : Respondeu S' ped' n agora' c' r' c'') :
    r'.outcome.pulado = false := by
  have hdepois : c'.quarantined = false ∧ c'.nextAttemptAt = none ∧ c'.lock = none := by
    cases h with
    | sincronizado hquar _ hvig hexp _ => exact ⟨hc.livre hquar hvig hexp, rfl, rfl⟩
    | @falhou _ _ _ quarentenado _ _ _ _ _ _ _ _ => cases quarentenado <;> cases hr
    | quarentena _ _ => cases hr
    | backoff _ _ => cases hr
    | lock _ _ _ => cases hr
  obtain ⟨hq, hnext, hlock⟩ := hdepois
  cases h' with
  | quarentena hq' _ =>
    rw [hq] at hq'
    cases hq'
  | backoff _ hpend =>
    rw [Controle.pendente, hnext] at hpend
    cases hpend
  | lock _ _ hvig =>
    rw [Controle.vigente, hlock] at hvig
    cases hvig
  | @falhou _ _ _ quarentenado _ _ _ _ _ _ _ _ => cases quarentenado <;> rfl
  | sincronizado _ _ _ _ _ => rfl

/-! ## The calls of a session on its own -/

/-- The row that counts says `c`, and the session has loaded nothing else of it. -/
structure Diante (i link : ℕ) (c : Controle) (w : Banco) : Prop where
  cabeca : w.controles.head? = some ⟨link, c⟩
  carregado : ∀ t ∈ (w.sessoes i).titulos link, t = c

/-- How a program ends: with an answer that has the property, or with an exception that it may
raise. -/
def Termina {α : Type} (E : Erro → Prop) (P : α → Banco → Prop) : Except Erro α → Banco → Prop
  | .ok a, w => P a w
  | .error x, _ => E x

variable {α : Type} {A : Env → Prop} {E : Erro → Prop} {P : α → Banco → Prop} {i link : ℕ}
  {w : Banco} {lk : Option IssueLink}

theorem Diante.avancar (h : Diante i link c w) (t : DateTime) : Diante i link c (w.avancar t) :=
  ⟨h.cabeca, h.carregado⟩

theorem Diante.linha (h : Diante i link c w) : w.linha link = some ⟨link, c⟩ :=
  linha_of_head? h.cabeca

/-- A command that the database does not refuse, and the rest. -/
theorem comando_bind {op : Cmd} {f : op.Ans → Processo α}
    (hA : ∀ e m, A e → e.falha = some m → E (.outro m))
    (h : ∀ e, A e → ∃ a, (efeito lk i op e (w.avancar e.agora)).2 = .ok a ∧
      (f a).EndsIn (machine lk) i A Eq (Termina E P) (efeito lk i op e (w.avancar e.agora)).1) :
    (run op >>= f).EndsIn (machine lk) i A Eq (Termina E P) w := by
  rintro _ e rfl he
  change (Program.bind (.ofExcept (exec lk i op e w).2) f).EndsIn _ i A Eq _ (exec lk i op e w).1
  rw [exec]
  rcases hfalha : e.falha with _ | m
  · obtain ⟨a, ha, hf⟩ := h e he
    dsimp only
    rw [ha]
    exact hf
  · exact hA e m he hfalha

theorem titulo_bind {f : Controle → Processo α}
    (hA : ∀ e m, A e → e.falha = some m → E (.outro m)) (hw : Diante i link c w)
    (h : ∀ w', Diante i link c w' → (f c).EndsIn (machine lk) i A Eq (Termina E P) w') :
    (run (.titulo link) >>= f).EndsIn (machine lk) i A Eq (Termina E P) w := by
  refine comando_bind hA fun e _ ↦ ⟨c, ?_⟩
  have hw := hw.avancar e.agora
  rw [efeito]
  rcases htitulo : ((w.avancar e.agora).sessoes i).titulos link with _ | t
  · simp only [hw.linha]
    refine ⟨trivial, h _ ⟨hw.cabeca, fun t ht ↦ ?_⟩⟩
    simp only [Banco.carregar, Banco.setSessao, Function.update_self] at ht
    exact (Option.some.inj ht).symm
  · obtain rfl := hw.carregado t htitulo
    exact ⟨rfl, h _ hw⟩

theorem refresh_bind {f : Unit → Processo α}
    (hA : ∀ e m, A e → e.falha = some m → E (.outro m)) (hw : Diante i link c w)
    (h : ∀ w', Diante i link c w' → (f ()).EndsIn (machine lk) i A Eq (Termina E P) w') :
    (run (.refresh link) >>= f).EndsIn (machine lk) i A Eq (Termina E P) w := by
  refine comando_bind hA fun e _ ↦ ⟨(), ?_⟩
  have hw := hw.avancar e.agora
  rw [efeito]
  simp only [hw.linha]
  refine ⟨trivial, h _ ⟨hw.cabeca, fun t ht ↦ ?_⟩⟩
  simp only [Banco.carregar, Banco.setSessao, Function.update_self] at ht
  exact (Option.some.inj ht).symm

/-- Alone, the row is written. -/
theorem swapControl_bind {fase : Fase} {control : Controle} {f : Bool → Processo α}
    (hA : ∀ e m, A e → e.falha = some m → E (.outro m)) (hw : Diante i link c w)
    (h : ∀ w', Diante i link control w' → (f true).EndsIn (machine lk) i A Eq (Termina E P) w') :
    (swapControl fase link c control >>= f).EndsIn (machine lk) i A Eq (Termina E P) w := by
  rw [swapControl, Program.bind_assoc]
  refine comando_bind hA fun e _ ↦ ⟨1, ?_⟩
  have hw := hw.avancar e.agora
  have hencontrada : ((w.avancar e.agora).linha link).any (·.titulo = c) = true := by
    rw [hw.linha]
    simp
  obtain ⟨resto, hresto⟩ := List.head?_eq_some_iff.mp hw.cabeca
  have hgravar : ((w.avancar e.agora).gravar link control).controles.head?
      = some ⟨link, control⟩ := by
    rw [Banco.gravar, hresto]
    simp [Table.update]
  refine ⟨?_, ?_⟩
  · cases fase <;> simp only [efeito, hencontrada, if_true]
  rw [Program.bind_assoc]
  refine refresh_bind (c := control) hA ⟨?_, ?_⟩ h
  · cases fase <;> simp only [efeito, hencontrada, if_true] <;> exact hgravar
  · intro t ht
    cases fase <;> simp only [efeito, Banco.expirar, Banco.setSessao, Function.update_self] at ht
    all_goals cases ht

/-- The lock is given back with a control. -/
theorem releaseLock_bind {control : Controle} {f : Unit → Processo α}
    (hA : ∀ e m, A e → e.falha = some m → E (.outro m)) (hw : Diante i link c w)
    (h : ∀ w', Diante i link { control with lock := none } w' →
      (f ()).EndsIn (machine lk) i A Eq (Termina E P) w') :
    (releaseLock link control >>= f).EndsIn (machine lk) i A Eq (Termina E P) w := by
  rw [releaseLock, Program.bind_assoc]
  refine titulo_bind hA hw fun w₁ hw₁ ↦ ?_
  rw [Program.bind_assoc]
  exact swapControl_bind hA hw₁ h

theorem controlLinks_bind {f : List ℕ → Processo α}
    (hA : ∀ e m, A e → e.falha = some m → E (.outro m))
    (hw : ∀ id, (w.sessoes i).titulos id = none)
    (h : ∀ w', w'.controles = w.controles →
      (∀ id, (w'.sessoes i).titulos id = (w.linha id).map Linha.titulo) →
      (f (w.controles.map Linha.id)).EndsIn (machine lk) i A Eq (Termina E P) w') :
    (run .controlLinks >>= f).EndsIn (machine lk) i A Eq (Termina E P) w := by
  refine comando_bind hA fun e _ ↦ ⟨_, rfl, h _ rfl fun id ↦ ?_⟩
  have hnone : ((w.avancar e.agora).sessoes i).titulos id = none := hw id
  simp only [efeito, Banco.carregarTodas, Banco.setSessao, Function.update_self, hnone]
  rfl

theorem inserir_bind {titulo : Controle} {f : ℕ → Processo α}
    (hA : ∀ e m, A e → e.falha = some m → E (.outro m))
    (h : ∀ id w', w'.controles = w.controles → (w'.sessoes i).pendente = some ⟨id, titulo⟩ →
      (f id).EndsIn (machine lk) i A Eq (Termina E P) w') :
    (run (.inserir titulo) >>= f).EndsIn (machine lk) i A Eq (Termina E P) w := by
  refine comando_bind hA fun e _ ↦ ⟨_, rfl, h _ _ rfl ?_⟩
  simp only [efeito, Banco.setSessao, Function.update_self]

theorem commit_bind {row : Linha} {f : Unit → Processo α}
    (hA : ∀ e m, A e → e.falha = some m → E (.outro m))
    (hw : (w.sessoes i).pendente = some row)
    (h : ∀ w', w'.controles = w.controles.orderedInsert (fun r r' ↦ r.id ≤ r'.id) row →
      (∀ id, (w'.sessoes i).titulos id = none) →
      (f ()).EndsIn (machine lk) i A Eq (Termina E P) w') :
    (run .commit >>= f).EndsIn (machine lk) i A Eq (Termina E P) w := by
  refine comando_bind hA fun e _ ↦ ⟨(), rfl, ?_⟩
  have hpendente : ((w.avancar e.agora).sessoes i).pendente = some row := hw
  refine h _ ?_ fun id ↦ ?_
  · simp only [efeito, Banco.publicar, hpendente]
    rfl
  · simp only [efeito, Banco.publicar, hpendente, Banco.setSessao, Function.update_self]

/-- The first of the rows is loaded. -/
theorem diante_of_controlLinks {w' : Banco} {row : Linha} {resto : List Linha}
    (hcontroles : w.controles = row :: resto) (hw' : w'.controles = w.controles)
    (htitulos : ∀ id, (w'.sessoes i).titulos id = (w.linha id).map Linha.titulo) :
    Diante i row.id row.titulo w' := by
  refine ⟨by rw [hw', hcontroles]; rfl, fun t ht ↦ ?_⟩
  have hlinha : w.linha row.id = some row := linha_of_head? (by rw [hcontroles]; rfl)
  rw [htitulos, hlinha] at ht
  exact (Option.some.inj ht).symm

/-- The row is found or made. -/
theorem ensureControlLink_bind {f : ℕ → Processo α}
    (hA : ∀ e m, A e → e.falha = some m → E (.outro m))
    (hw : ∀ id, (w.sessoes i).titulos id = none)
    (h : ∀ link w', Diante i link ((w.controles.head?.map Linha.titulo).getD {}) w' →
      (f link).EndsIn (machine lk) i A Eq (Termina E P) w') :
    (ensureControlLink >>= f).EndsIn (machine lk) i A Eq (Termina E P) w := by
  rw [ensureControlLink, Program.bind_assoc]
  refine controlLinks_bind hA hw fun w₁ hw₁ htitulos₁ ↦ ?_
  rcases hcontroles : w.controles with _ | ⟨row, resto⟩
  · rw [hcontroles] at h hw₁
    rw [List.map_nil]
    dsimp only
    rw [Program.bind_assoc]
    refine inserir_bind hA fun id w₂ hw₂ hpendente ↦ ?_
    rw [Program.bind_assoc]
    refine commit_bind hA hpendente fun w₃ hw₃ htitulos₃ ↦ ?_
    rw [hw₂, hw₁, List.orderedInsert_nil] at hw₃
    rw [Program.bind_assoc]
    refine controlLinks_bind hA htitulos₃ fun w₄ hw₄ htitulos₄ ↦ ?_
    -- the only row is the one that was inserted
    rw [hw₃, List.map_singleton]
    dsimp only
    rw [if_neg (not_not.mpr rfl)]
    exact h id w₄ (diante_of_controlLinks hw₃ hw₄ htitulos₄)
  · have hdiante := diante_of_controlLinks hcontroles hw₁ htitulos₁
    rw [hcontroles] at h
    exact h row.id w₁ hdiante

/-! ## The synchronisation -/

/-- The synchronisation leaves the row alone, and ends in one of the ways of `S`. -/
def Sincroniza (cfg : Config) (ped : Pedido) (A : Env → Prop) (i : ℕ)
    (S : Except Erro ResultadoSync → Prop) : Prop :=
  ∀ link c w, Diante i link c w →
    (sincronizarRequisitoRedmine cfg ped.correlationId ped.actor false).EndsIn
      (machine cfg.issueLink) i A Eq (fun x w' ↦ S x ∧ Diante i link c w') w

theorem diante_efeito {op : Cmd} (hop : op.Neutro) (e : Env) (hw : Diante i link c w) :
    Diante i link c (efeito lk i op e w).1 := by
  have hexpirar : ∀ {w : Banco}, Diante i link c w → Diante i link c (w.expirar i) := by
    intro w hw
    refine ⟨hw.cabeca, fun t ht ↦ ?_⟩
    simp only [Banco.expirar, Banco.setSessao, Function.update_self] at ht
    cases ht
  cases op with
  | gravarSync eventos estado =>
    refine hexpirar ⟨?_, ?_⟩
    · rcases estado with _ | ⟨_ | id, titulo⟩ <;> exact hw.cabeca
    · rcases estado with _ | ⟨_ | id, titulo⟩ <;> exact hw.carregado
  | audit evento => exact hexpirar ⟨hw.cabeca, hw.carregado⟩
  | now | issueLink | syncStateLink | obterIssue _ | atualizarIssue _ _ => exact hw
  | abrir | uuid4 | controlLinks | inserir _ | commit | excluir _ | titulo _ | swap _ _ _ _
  | refresh _ => exact hop.elim

theorem diante_exec {op : Cmd} (hop : op.Neutro) (e : Env) (hw : Diante i link c w) :
    Diante i link c (exec lk i op e w).1 := by
  rw [exec]
  split
  · exact hw.avancar e.agora
  · exact diante_efeito hop e (hw.avancar e.agora)

/-- In any case it ends in some way. -/
theorem sincroniza_true (cfg : Config) (ped : Pedido) (A : Env → Prop) (i : ℕ) :
    Sincroniza cfg ped A i fun _ ↦ True := by
  intro link c w hw
  refine EndsIn.imp (endsIn_of_calls (J := Diante i link c)
    (fun op e s hop hs ↦ diante_exec hop e hs)
    (sincronizar_neutro cfg ped.correlationId ped.actor false) hw) fun _ _ h ↦ ⟨trivial, h⟩

/-- Redmine has the fields already, and the database does not refuse anything. -/
def envBom (agora : DateTime) (subject description : String) : Env where
  agora
  issue := .ok { subject := some subject, description := some description }

theorem falha_envBom {agora : DateTime} {subject description : String} :
    ∀ e m, e = envBom agora subject description → e.falha = some m → False := by
  rintro _ m rfl hm
  cases hm

/-- Then the synchronisation succeeds. -/
theorem sincroniza_ok {subject description : String}
    (hcampos : cfg.desired = [("subject", subject), ("description", description)])
    (hissue : cfg.issueId = some issueId) (agora : DateTime) (i : ℕ) :
    Sincroniza cfg ped (· = envBom agora subject description) i fun x ↦ ∃ res, x = .ok res := by
  intro link c w hw
  obtain ⟨lk, hlk, hint, hpos⟩ : ∃ lk, cfg.issueLink = some lk ∧
      cfg.int lk.referencia = some issueId ∧ ¬issueId ≤ 0 := by
    obtain ⟨hmap, hpos⟩ := Option.filter_eq_some_iff.mp hissue
    obtain ⟨lk, hlk, hint⟩ := Option.map_eq_some_iff.mp hmap
    have hpos : ¬issueId ≤ 0 := not_le.mpr (of_decide_eq_true hpos)
    refine ⟨lk, hlk, ?_, hpos⟩
    cases hreferencia : cfg.int lk.referencia with
    | none =>
      rw [hreferencia] at hint
      exact absurd hint.ge hpos
    | some n =>
      rw [hreferencia] at hint
      exact congrArg some hint
  have hok : (sincronizarRequisitoRedmine cfg ped.correlationId ped.actor false).EndsIn
      (machine cfg.issueLink) i (· = envBom agora subject description) Eq
      (Termina (fun _ ↦ False) fun _ _ ↦ True) w := by
    rw [sincronizarRequisitoRedmine, exigirIssueLink, Program.bind_assoc]
    refine comando_bind falha_envBom fun e _ ↦ ⟨cfg.issueLink, rfl, ?_⟩
    rw [hlk]
    dsimp only
    rw [hint]
    dsimp only
    rw [if_neg hpos]
    refine comando_bind falha_envBom fun e _ ↦ ⟨_, rfl, ?_⟩
    refine comando_bind falha_envBom ?_
    rintro _ rfl
    refine ⟨_, rfl, ?_⟩
    have higuais : differing cfg.desired (ownedRemoteContent
        { subject := some subject, description := some description }) = [] := by
      rw [hcampos]
      simp [differing, ownedRemoteContent, Table.get?, Table.lookup]
    rw [higuais, aplicarCampos, if_pos (by simp)]
    change EndsIn _ i _ Eq _ (if _ then _ else _) _
    split
    · exact comando_bind falha_envBom fun e _ ↦ ⟨(), rfl, trivial⟩
    · exact trivial
  refine (hok.and (sincroniza_true cfg ped _ i link c w hw)).imp fun x w' h ↦ ?_
  cases x with
  | ok res => exact ⟨⟨res, rfl⟩, h.2.2⟩
  | error x => exact h.1.elim

/-! ## A call -/

/-- Alone, the lock is taken unless somebody has it. -/
theorem acquireLock_bind {owner : String} {f : Bool × Controle → Processo α}
    (hA : ∀ e m, A e → e.falha = some m → E (.outro m)) (hw : Diante i link c w)
    (hE : c.vigente agora = false → ped.expira agora = none → ∀ x, E x)
    (hvigente : c.vigente agora = true → ∀ w', Diante i link c w' →
      (f (false, c)).EndsIn (machine lk) i A Eq (Termina E P) w')
    (hlivre : c.vigente agora = false → (ped.expira agora).isSome = true → ∀ lock w',
      Diante i link { c with lock } w' →
      (f (true, { c with lock })).EndsIn (machine lk) i A Eq (Termina E P) w') :
    (acquireLock link owner ped.correlationId ped.lockTimeoutMinutos agora >>= f).EndsIn
      (machine lk) i A Eq (Termina E P) w := by
  rw [acquireLock, Program.bind_assoc]
  refine titulo_bind hA hw fun w₁ hw₁ ↦ ?_
  split
  next hvig => exact hvigente hvig w₁ hw₁
  next hvig =>
    have hvig := Bool.eq_false_iff.mpr hvig
    rw [Program.bind_assoc, maisMinutos]
    rcases hexpira : agora.addSeconds (max 1 ped.lockTimeoutMinutos * 60) with _ | expira
    · exact hE hvig hexpira _
    · dsimp only
      change EndsIn _ i A Eq _ ((swapControl .adquirir link c _ >>= _) >>= f) w₁
      rw [Program.bind_assoc]
      refine swapControl_bind hA hw₁ fun w₂ hw₂ ↦ ?_
      exact hlivre hvig (by rw [Pedido.expira, hexpira]; rfl) _ w₂ hw₂

/-- The synchronisation under the lock. -/
theorem sincronizarComLock_endsIn {lock : Option Lock} {P : Resposta → Banco → Prop}
    (hA : ∀ e m, A e → e.falha = some m → E (.outro m)) (hsync : Sincroniza cfg ped A i S)
    (hw : Diante i link { c with lock } w) (hS : ∀ x, S (.error x) → ∀ y, E y)
    (hquar : (c.quarantined && !ped.incluirQuarentena) = false)
    (hpend : c.pendente agora = false) (hvig : c.vigente agora = false)
    (hexp : (ped.expira agora).isSome = true)
    (hP : ∀ r c' w', Respondeu S ped issueId agora c r c' → Diante i link c' w' → P r w') :
    (sincronizarComLock cfg ped issueId link { c with lock } agora).EndsIn (machine cfg.issueLink)
      i A Eq (Termina E P) w := by
  rw [sincronizarComLock]
  refine EndsIn.attempt_bind (hsync link _ w hw) fun {x w₁} h ↦ ?_
  obtain ⟨hx, hw₁⟩ := h
  cases x with
  | ok resultado =>
    refine releaseLock_bind hA hw₁ fun w₂ hw₂ ↦ ?_
    exact hP _ _ w₂ (.sincronizado hquar hpend hvig hexp hx) hw₂
  | error x =>
    dsimp only
    rcases htratado : x.tratado with _ | ⟨tipo, mensagem⟩
    · exact hS x hx x
    · dsimp only
      rw [registrarFalha]
      have hproxima : ∀ (quarentenado : Bool) (f : Option ℤ × Option String → Processo Resposta),
          (∀ prox, (f prox).EndsIn (machine cfg.issueLink) i A Eq (Termina E P) w₁) →
          (proximaTentativa ped (c.attempts + 1) quarentenado agora >>= f).EndsIn
            (machine cfg.issueLink) i A Eq (Termina E P) w₁ := by
        intro quarentenado f hf
        rw [proximaTentativa]
        split
        · exact hf _
        · rw [Program.bind_assoc, maisMinutos]
          split
          · exact hf _
          · exact hS x hx _
      refine hproxima _ _ ?_
      rintro ⟨proximoEm, nextAttemptAt⟩
      refine releaseLock_bind hA hw₁ fun w₂ hw₂ ↦ ?_
      refine comando_bind hA fun e _ ↦ ⟨(), rfl, ?_⟩
      exact hP _ _ _ (.falhou hquar hpend hvig hexp hx)
        (diante_efeito (show Cmd.Neutro (.audit _) from trivial) e (hw₂.avancar e.agora))

/-- Once there is an issue. -/
theorem reconciliarLinha_endsIn {workerId : String} {P : Resposta → Banco → Prop}
    (hA : ∀ e m, A e → e.falha = some m → E (.outro m)) (hsync : Sincroniza cfg ped A i S)
    (hw : ∀ id, (w.sessoes i).titulos id = none)
    (hc : (w.controles.head?.map Linha.titulo).getD {} = c) (hS : ∀ x, S (.error x) → ∀ y, E y)
    (hE : c.pendente agora = false → c.vigente agora = false → ped.expira agora = none → ∀ x, E x)
    (hP : ∀ r c' link w', Respondeu S ped issueId agora c r c' → Diante i link c' w' → P r w') :
    (reconciliarLinha cfg ped workerId issueId agora).EndsIn (machine cfg.issueLink) i A Eq
      (Termina E P) w := by
  rw [reconciliarLinha]
  refine ensureControlLink_bind hA hw fun link w₁ hw₁ ↦ ?_
  rw [hc] at hw₁
  refine titulo_bind hA hw₁ fun w₂ hw₂ ↦ ?_
  split
  next hquar =>
    rw [Bool.and_eq_true, Bool.not_eq_true'] at hquar
    exact hP _ _ link w₂ (.quarentena hquar.1 hquar.2) hw₂
  next hquar =>
    have hquar := Bool.eq_false_iff.mpr hquar
    split
    next hpend => exact hP _ _ link w₂ (.backoff hquar hpend) hw₂
    next hpend =>
      have hpend := Bool.eq_false_iff.mpr hpend
      refine acquireLock_bind hA hw₂ (hE hpend) (fun hvig w₃ hw₃ ↦ ?_)
        fun hvig hexp lock w₃ hw₃ ↦ ?_
      · exact hP _ _ link w₃ (.lock hquar hpend hvig) hw₃
      · exact sincronizarComLock_endsIn hA hsync hw₃ hS hquar hpend hvig hexp
          fun r c' w' hr hw' ↦ hP r c' link w' hr hw'

theorem responderDryRun_endsIn {P : Resposta → Banco → Prop}
    (hA : ∀ e m, A e → e.falha = some m → E (.outro m))
    (hw : ∀ id, (w.sessoes i).titulos id = none) (hP : ∀ r w', r.outcome = .dryRun → P r w') :
    (responderDryRun issueId agora).EndsIn (machine lk) i A Eq (Termina E P) w := by
  rw [responderDryRun]
  refine controlLinks_bind hA hw fun w₁ hw₁ htitulos₁ ↦ ?_
  rcases hcontroles : w.controles with _ | ⟨row, resto⟩
  · exact hP _ _ rfl
  · refine titulo_bind hA (diante_of_controlLinks hcontroles hw₁ htitulos₁) fun w₂ _ ↦ ?_
    exact hP _ _ rfl

/-- **A call alone** answers in one of the branches, and leaves the control that belongs to it. -/
theorem reconciliarEm_endsIn {P : Resposta → Banco → Prop}
    (hA : ∀ e m, A e → e.falha = some m → E (.outro m)) (hsync : Sincroniza cfg ped A i S)
    (hw : ∀ id, (w.sessoes i).titulos id = none) (hS : ∀ x, S (.error x) → ∀ y, E y)
    (hE : (w.controle cfg).pendente agora = false → (w.controle cfg).vigente agora = false →
      ped.expira agora = none → ∀ x, E x)
    (hsem : cfg.issueId = none → ∀ x w', P (semIssue ped x) w')
    (hdry : ped.dryRun = true → ∀ r w', r.outcome = .dryRun → P r w')
    (hP : ∀ issueId r c' w', cfg.issueId = some issueId →
      Respondeu S ped issueId agora (w.controle cfg) r c' → w'.controle cfg = c' → P r w') :
    (reconciliarEm cfg ped agora).EndsIn (machine cfg.issueLink) i A Eq (Termina E P) w := by
  rw [reconciliarEm]
  refine comando_bind hA fun e _ ↦ ⟨_, rfl, ?_⟩
  refine comando_bind hA fun e₂ _ ↦ ⟨cfg.issueLink, rfl, ?_⟩
  have hw₂ : ∀ id, (((efeito cfg.issueLink i .uuid4 e (w.avancar e.agora)).1.sessoes i).titulos
      id) = none := by
    intro id
    simp only [efeito, Banco.setSessao, Function.update_self]
    exact hw id
  rcases hlink : cfg.issueLink with _ | lk
  · exact hsem (by rw [Config.issueId, hlink]; rfl) _ _
  have hissue : cfg.issueId = (some ((cfg.int lk.referencia).getD 0)).filter (0 < ·) := by
    rw [Config.issueId, hlink]
    rfl
  dsimp only
  split
  next hneg =>
    refine hsem ?_ _ _
    rw [hissue, Option.filter_some, if_neg (by simpa using hneg)]
  next hpos =>
    rw [Option.filter_some, if_pos (by simpa using hpos)] at hissue
    rw [hlink] at hw₂
    have hcontrole : ∀ w' : Banco, w'.controle cfg
        = (w'.controles.head?.map Linha.titulo).getD {} := by
      intro w'
      rw [Banco.controle, hissue, if_neg (by simp)]
    split
    next hped => exact responderDryRun_endsIn hA hw₂ (hdry hped)
    next =>
      refine hlink ▸ reconciliarLinha_endsIn hA hsync (hlink ▸ hw₂) (hcontrole w).symm hS hE ?_
      intro r c' link w' hr hw'
      refine hP _ r c' w' hissue hr ?_
      rw [hcontrole, hw'.cabeca]
      rfl

/-- The same, with the session. -/
theorem chamadaEm_endsIn {P : Resposta → Banco → Prop}
    (hA : ∀ e m, A e → e.falha = some m → E (.outro m)) (hsync : Sincroniza cfg ped A i S)
    (hS : ∀ x, S (.error x) → ∀ y, E y)
    (hE : (w.controle cfg).pendente agora = false → (w.controle cfg).vigente agora = false →
      ped.expira agora = none → ∀ x, E x)
    (hsem : cfg.issueId = none → ∀ x w', P (semIssue ped x) w')
    (hdry : ped.dryRun = true → ∀ r w', r.outcome = .dryRun → P r w')
    (hP : ∀ issueId r c' w', cfg.issueId = some issueId →
      Respondeu S ped issueId agora (w.controle cfg) r c' → w'.controle cfg = c' → P r w') :
    (chamadaEm cfg ped agora).EndsIn (machine cfg.issueLink) i A Eq (Termina E P) w := by
  refine comando_bind hA fun e _ ↦ ⟨(), rfl, ?_⟩
  refine reconciliarEm_endsIn hA hsync (fun id ↦ ?_) hS hE hsem hdry hP
  simp only [efeito, Banco.setSessao, Function.update_self]

/-! ## The answer is the state -/

/-- A call alone. -/
def Chama (cfg : Config) (ped : Pedido) (agora : DateTime) (w w' : Banco) (r : Resposta) : Prop :=
  ∃ i es w₁, (chamadaEm cfg ped agora).runAlone (machine cfg.issueLink) i es w = some (w₁, .ok r) ∧
    w' = (machine cfg.issueLink).close i w₁

/-- What a call alone has done. -/
theorem Chama.of {w' : Banco} (h : Chama cfg ped agora w w' r) {P : Resposta → Banco → Prop}
    (hsem : cfg.issueId = none → ∀ x w', P (semIssue ped x) w')
    (hdry : ped.dryRun = true → ∀ r w', r.outcome = .dryRun → P r w')
    (hP : ∀ issueId r c' w', cfg.issueId = some issueId →
      Respondeu (fun _ ↦ True) ped issueId agora (w.controle cfg) r c' → w'.controle cfg = c' →
      P r w') : ∃ w₁, P r w₁ ∧ w'.controle cfg = w₁.controle cfg := by
  obtain ⟨i, es, w₁, hrun, rfl⟩ := h
  have hends := chamadaEm_endsIn (i := i) (A := fun _ ↦ True) (E := fun _ ↦ True)
    (fun _ _ _ _ ↦ trivial) (sincroniza_true cfg ped _ i) (fun _ _ _ ↦ trivial)
    (fun _ _ _ _ ↦ trivial) hsem hdry hP
  exact ⟨w₁, EndsIn.runAlone (fun _ ↦ rfl) hends (fun _ _ ↦ trivial) hrun, rfl⟩

/-- The answer is what the row says, and after a success no branch of a next call is a skip. -/
def Resposta.Vale (cfg : Config) (r : Resposta) (w : Banco) : Prop :=
  r.Diz (w.controle cfg) ∧ (r.outcome = .sincronizado → ∀ ped' n agora' r' c'',
    Respondeu (fun _ ↦ True) ped' n agora' (w.controle cfg) r' c'' → r'.outcome.pulado = false)

/-- **The answer is the state.** The calls that are not dry runs answer what is then stored, and
after a success no call is skipped, exactly on the controls that meet the condition. -/
theorem answer_is_state_iff (cfg : Config) {subject description : String}
    (hcampos : cfg.desired = [("subject", subject), ("description", description)]) (ped : Pedido)
    (hped : ped.dryRun = false) (agora : DateTime) (w : Banco) :
    (∀ w' r, Chama cfg ped agora w w' r → r.Diz (w'.controle cfg) ∧
      (r.outcome = .sincronizado → ∀ ped' agora' w'' r', Chama cfg ped' agora' w' w'' r' →
        r'.outcome.pulado = false)) ↔ Coerente ped agora (w.controle cfg) := by
  constructor
  · intro h
    by_contra hc
    have hq : (w.controle cfg).quarantined = true := by
      by_contra hq
      exact hc (.inl (Bool.eq_false_iff.mpr hq))
    have hissue : ∃ n, cfg.issueId = some n := by
      rw [← Option.ne_none_iff_exists']
      intro hnone
      rw [Banco.controle, if_pos hnone] at hq
      cases hq
    obtain ⟨n, hissue⟩ := hissue
    -- Redmine answers, and so the call says that there is no quarantine
    have hends : (chamadaEm cfg ped agora).EndsIn (machine cfg.issueLink) 0
        (· = envBom agora subject description) Eq
        (Termina (fun _ ↦ False) fun r w' ↦ ¬r.Diz (w'.controle cfg)) w := by
      refine chamadaEm_endsIn falha_envBom (sincroniza_ok hcampos hissue agora 0)
        (by rintro x ⟨res, ⟨⟩⟩)
        (fun hpend hvig hexp ↦ (hc (.inr (.inr ⟨hpend, .inr hexp⟩))).elim)
        (fun hnone ↦ by rw [hissue] at hnone; cases hnone)
        (fun hdry ↦ by rw [hped] at hdry; cases hdry) fun issueId r c' w' _ hr hw' ↦ ?_
      rw [hw']
      exact hr.not_diz (by rintro x ⟨res, ⟨⟩⟩) hc
    obtain ⟨es, hes, w', r, hrun⟩ := exists_runAlone (machine cfg.issueLink) 0
      (envBom agora subject description) (chamadaEm cfg ped agora) w
    have hfim := EndsIn.runAlone (fun _ ↦ rfl) hends hes hrun
    cases r with
    | ok r => exact hfim (h _ r ⟨0, es, w', hrun, rfl⟩).1
    | error x => exact hfim
  · intro hc w' r h
    obtain ⟨w₁, ⟨hdiz, hdepois⟩, hw'⟩ :
        ∃ w₁, r.Vale cfg w₁ ∧ w'.controle cfg = w₁.controle cfg := by
      refine h.of (P := Resposta.Vale cfg) (fun hnone x w₁ ↦ ?_)
        (fun hdry ↦ by rw [hped] at hdry; cases hdry) fun issueId r c' w₁ _ hr hw₁ ↦ ?_
      · rw [Resposta.Vale, Banco.controle, if_pos hnone]
        exact ⟨⟨rfl, rfl, fun h ↦ (by cases h)⟩, fun h ↦ (by cases h)⟩
      · rw [Resposta.Vale, hw₁]
        exact ⟨hr.diz hc, fun hsinc _ _ _ _ _ h' ↦ hr.not_pulado hc hsinc h'⟩
    rw [hw']
    refine ⟨hdiz, fun hr ped' agora' w'' r' h' ↦ ?_⟩
    obtain ⟨_, hpulado, -⟩ := h'.of (P := fun r' _ ↦ r'.outcome.pulado = false)
      (fun _ _ _ ↦ rfl) (fun _ r' _ hr' ↦ by rw [hr']; rfl)
      fun n r' c'' _ _ hr' _ ↦ hdepois hr ped' n agora' r' c'' (hw' ▸ hr')
    exact hpulado

/-! ## Two small runs -/

/-- The requirement with two fields. -/
def sampleCampos : Config :=
  { sampleConfig with desired := [("subject", "s"), ("description", "d")] }

/-- A requirement that is in quarantine after one attempt. -/
def sampleQuarentena : Banco where
  controles := [⟨1, { attempts := 1, quarantined := true }⟩]
  proximoId := 2
  relogio := .newYearNoon

/-- A call at noon, when Redmine has the fields. -/
def sampleChama (ped : Pedido) (w : Banco) : Option (Banco × Resposta) :=
  match (chamadaEm sampleCampos ped .newYearNoon).runAlone (machine sampleCampos.issueLink) 0
    (List.replicate 30 (envBom .newYearNoon "s" "d")) w with
  | some (w₁, .ok r) => some ((machine sampleCampos.issueLink).close 0 w₁, r)
  | _ => none

theorem chama_of_sampleChama {w w' : Banco} (h : sampleChama ped w = some (w', r)) :
    Chama sampleCampos ped .newYearNoon w w' r := by
  rw [sampleChama] at h
  split at h
  next w₁ r₁ hrun =>
    cases h
    exact ⟨0, _, w₁, hrun, rfl⟩
  next => cases h

/-- The first call of a requirement. -/
theorem answer_is_state_iff_sample : ∃ w' r,
    Chama sampleCampos samplePedido .newYearNoon { relogio := .newYearNoon } w' r ∧
    r.outcome = .sincronizado ∧ r.Diz (w'.controle sampleCampos) := by
  have hrun : (sampleChama samplePedido { relogio := .newYearNoon }).map (·.2.outcome)
      = some .sincronizado := by decide +kernel
  obtain ⟨⟨w', r⟩, hchama, houtcome⟩ := Option.map_eq_some_iff.mp hrun
  have hchama := chama_of_sampleChama hchama
  have hanswers := (answer_is_state_iff sampleCampos rfl samplePedido rfl .newYearNoon
    { relogio := .newYearNoon }).mpr (by decide +kernel)
  exact ⟨w', r, hchama, houtcome, (hanswers w' r hchama).1⟩

/-- The requirement in quarantine is synchronised, the answer says that it is not in quarantine, and
the next call leaves it out because it is. -/
theorem answer_is_not_state : ∃ w' r w'' r',
    Chama sampleCampos { samplePedido with incluirQuarentena := true } .newYearNoon
      sampleQuarentena w' r ∧ r.outcome = .sincronizado ∧ r.quarantined = false ∧
    (w'.controle sampleCampos).quarantined = true ∧
    Chama sampleCampos samplePedido .newYearNoon w' w'' r' ∧ r'.outcome = .puladoQuarentena := by
  have hruns : ((sampleChama { samplePedido with incluirQuarentena := true }
      sampleQuarentena).bind fun x ↦ (sampleChama samplePedido x.1).map fun y ↦
        (x.2.outcome, x.2.quarantined, (x.1.controle sampleCampos).quarantined, y.2.outcome))
      = some (.sincronizado, false, true, .puladoQuarentena) := by decide +kernel
  obtain ⟨⟨w', r⟩, hchama, hruns⟩ := Option.bind_eq_some_iff.mp hruns
  obtain ⟨⟨w'', r'⟩, hchama', hfacts⟩ := Option.map_eq_some_iff.mp hruns
  simp only [Prod.mk.injEq] at hfacts
  obtain ⟨houtcome, hresposta, hlinha, houtcome'⟩ := hfacts
  exact ⟨w', r, w'', r', chama_of_sampleChama hchama, houtcome, hresposta, hlinha,
    chama_of_sampleChama hchama', houtcome'⟩

end RedmineLifecycle

end ReqSys
