import Mathlib
import ReqSys.RedmineLifecycle.Lock

/-!
# Redmine lifecycle: one worker at a time

What a session knows between its commands is that it has its own identifier, which row counts, and
that the lock it has written is its lock. The others leave this alone, so each program can be
followed command by command.

Two results come out. At any time at most one session has a lock that has not expired; and a session
whose lock has been taken over leaves the row alone when it returns the lock. Both need the title
that `_release_lock` loads to be the session's own, which fails once the synchronisation has
committed and another session has the lock; the first one also needs the control rows to become
visible in the order of their numbers. Runs in which these fail stand beside the theorems.
-/

namespace ReqSys

namespace RedmineLifecycle

open Discipline

variable {cfg : Config} {i : ℕ} {w w' : Banco}

/-! ## What a session knows -/

/-- Session `i` has its identifier, has read the clock, and has this lock or none. -/
structure Sabe (i n : ℕ) (agora : DateTime) (link : Option ℕ) (reserva : Option Reserva)
    (w : Banco) : Prop where
  worker : (w.sessoes i).worker = some n
  reserva : (w.sessoes i).reserva = reserva
  agora : agora ≤ w.relogio
  canonico : ∀ id ∈ link, Canonico id w

section Sabe

variable {n : ℕ} {agora : DateTime} {link : Option ℕ} {reserva : Option Reserva}

theorem Canonico.tolera {id : ℕ} (h : Canonico id w) (ht : Tolera i w w') : Canonico id w' :=
  fun hord ↦ ht.cabeca hord id (h (ht.emOrdem hord))

theorem Sabe.tolera (h : Sabe i n agora link reserva w) (ht : Tolera i w w') :
    Sabe i n agora link reserva w' where
  worker := ht.sessao ▸ h.worker
  reserva := ht.sessao ▸ h.reserva
  agora := le_trans_dateTime h.agora ht.relogio
  canonico id hid := (h.canonico id hid).tolera ht

theorem Sabe.keeps (h : Sabe i n agora link reserva w) (hkeeps : (disciplina cfg).Keeps i w w')
    (hworker : (w'.sessoes i).worker = (w.sessoes i).worker) {reserva' : Option Reserva}
    (hreserva : (w'.sessoes i).reserva = reserva') : Sabe i n agora link reserva' w' :=
  -- what the others tolerate does not depend on who they are
  have ht : Tolera (i + 1) w w' := hkeeps.others (i + 1) (Nat.succ_ne_self i)
  { worker := hworker.trans h.worker
    reserva := hreserva
    agora := le_trans_dateTime h.agora ht.relogio
    canonico := fun id hid hord ↦ ht.cabeca hord id (h.canonico id hid (ht.emOrdem hord)) }

end Sabe

theorem tolera_avancar (t : DateTime) : Tolera i w (w.avancar t) :=
  ⟨rfl, relogio_le_avancar t w, fun h ↦ h, fun _ _ h ↦ h⟩

/-- What a call does: it raises, or it has its effect once the time has passed. -/
theorem exec_conferida (cfg : Config) (i : ℕ) (op : Cmd) (e : Env) (w : Banco) :
    (∃ w₁ x, (conferida cfg).exec i op e w = (w₁, .error x) ∧
      (w₁ = w ∨ w₁ = w.avancar e.agora)) ∨
    Confere (w.avancar e.agora) (i, op, e) ∧
      (conferida cfg).exec i op e w = efeito cfg.issueLink i op e (w.avancar e.agora) := by
  obtain ⟨hC, hexec⟩ | hexec :=
    (machine cfg.issueLink).guard_exec_cases Confere (.outro "") i op e w
  · cases hfalha : e.falha with
    | some mensagem =>
      refine .inl ⟨w.avancar e.agora, .outro mensagem, hexec.trans ?_, .inr rfl⟩
      simp only [machine, exec, hfalha]
    | none =>
      refine .inr ⟨?_, hexec.trans ?_⟩
      · cases op <;> exact hC
      · simp only [machine, exec, hfalha]
  · exact .inl ⟨_, _, hexec, .inl rfl⟩

/-- How a program ends, if it returns. -/
abbrev Fim {α : Type} (P : α → Banco → Prop) : Except Erro α → Banco → Prop :=
  fun r w ↦ ∀ a, r = .ok a → P a w

section Comandos

variable {K : Banco → Prop}

theorem keeps_exec {op : Cmd} {e : Env} (hK : ∀ {w w'}, Tolera i w w' → K w → K w')
    (hI : Valido cfg w) (hw : K w)
    (hkeeps : ∀ w, Valido cfg w → K w → Confere w (i, op, e) →
      (disciplina cfg).Keeps i w (w.depois cfg i op e)) :
    (disciplina cfg).Keeps i w ((conferida cfg).exec i op e w).1 := by
  have ht := keeps_avancar (i := i) e.agora hI
  obtain ⟨w₁, x, hexec, rfl | rfl⟩ | ⟨hC, hexec⟩ := exec_conferida cfg i op e w
  · rw [hexec]
    exact .same hI
  · rw [hexec]
    exact ht
  · rw [hexec]
    exact ht.trans (hkeeps _ ht.inv (hK (tolera_avancar _) hw) hC)

/-- **One command**, in a state of which the session knows `K`. -/
theorem comando_bind_safe {α : Type} {op : Cmd} {f : op.Ans → Processo α} {P : α → Banco → Prop}
    (hK : ∀ {w w'}, Tolera i w w' → K w → K w') (hw : K w)
    (hkeeps : ∀ w e, Valido cfg w → K w → Confere w (i, op, e) →
      (disciplina cfg).Keeps i w (w.depois cfg i op e))
    (hok : ∀ w e a, Valido cfg w → K w → Confere w (i, op, e) →
      (efeito cfg.issueLink i op e w).2 = .ok a →
      (disciplina cfg).Safe i (Fim P) (w.depois cfg i op e) (f a)) :
    (disciplina cfg).Safe i (Fim P) w (run op >>= f) := by
  refine Safe.perform_bind (fun w₁ e hI hR ↦ keeps_exec hK hI (hK hR hw) fun w ↦ hkeeps w e)
    (fun w₁ e a hI hR ha ↦ ?_) (fun _ _ _ _ _ _ _ h ↦ by cases h)
  obtain ⟨w₂, x, hexec, -⟩ | ⟨hC, hexec⟩ := exec_conferida cfg i op e w₁
  · rw [hexec] at ha
    cases ha
  · rw [hexec] at ha ⊢
    exact hok _ e a (keeps_avancar (i := i) e.agora hI).inv
      (hK (tolera_avancar _) (hK hR hw)) hC ha

end Comandos

/-! ### Commands that leave the lock and the identifier alone -/

/-- The commands of the synchronisation, and those that only read or record. -/
def Cmd.Neutro : Cmd → Prop
  | .now | .issueLink | .syncStateLink | .obterIssue _ | .atualizarIssue _ _ | .gravarSync _ _
  | .audit _ => True
  | _ => False

def Cmd.Quieto : Cmd → Prop
  | .abrir | .uuid4 | .swap _ _ _ _ => False
  | _ => True

theorem Cmd.Neutro.quieto {op : Cmd} (h : op.Neutro) : op.Quieto := by
  cases op <;> trivial

theorem gravarEstado_sessoes (w : Banco) (estado : Option (Option ℕ × EstadoSync)) :
    (w.gravarEstado estado).sessoes = w.sessoes := by
  rcases estado with _ | ⟨_ | id, titulo⟩ <;> rfl

theorem sessao_quieto (cfg : Config) {i : ℕ} {op : Cmd} (hop : op.Quieto) (e : Env) (w : Banco) :
    ((w.depois cfg i op e).sessoes i).worker = (w.sessoes i).worker ∧
      ((w.depois cfg i op e).sessoes i).reserva = (w.sessoes i).reserva := by
  cases op <;> simp only [Banco.depois, efeito, Banco.expirar, Banco.carregarTodas,
    sessoes_setSessao_self, gravarEstado_sessoes, and_self]
  case abrir | uuid4 | swap => exact hop.elim
  case commit =>
    rw [Banco.publicar]
    split
    · exact ⟨by rw [Banco.expirar, sessoes_setSessao_self],
        by rw [Banco.expirar, sessoes_setSessao_self]⟩
    · exact ⟨by rw [sessoes_setSessao_self], by rw [sessoes_setSessao_self]⟩
  case titulo id =>
    split
    · exact ⟨rfl, rfl⟩
    · exact ⟨by rw [Banco.carregar, sessoes_setSessao_self],
        by rw [Banco.carregar, sessoes_setSessao_self]⟩
    · exact ⟨rfl, rfl⟩
  case refresh id =>
    split
    · exact ⟨by rw [Banco.carregar, sessoes_setSessao_self],
        by rw [Banco.carregar, sessoes_setSessao_self]⟩
    · exact ⟨rfl, rfl⟩

theorem keeps_neutro {op : Cmd} {e : Env} (hop : op.Neutro) (h : Valido cfg w) :
    (disciplina cfg).Keeps i w (w.depois cfg i op e) := by
  cases op with
  | now | issueLink | syncStateLink | obterIssue | atualizarIssue => exact .same h
  | gravarSync eventos estado =>
    rcases estado with _ | ⟨_ | id, titulo⟩
    all_goals
      refine keeps_expirada h (.of_eq (fun _ hj ↦ Function.update_of_ne hj _ _) rfl rfl rfl rfl
        le_rfl fun _ h ↦ h) (sessoes_setSessao_self ..)
  | audit evento =>
    exact keeps_expirada h (.of_eq (fun _ hj ↦ Function.update_of_ne hj _ _) rfl rfl rfl rfl
      le_rfl fun _ h ↦ h) (sessoes_setSessao_self ..)
  | _ => exact hop.elim

section Programas

variable {α : Type} {P : α → Banco → Prop} {n link : ℕ} {agora : DateTime} {l : Option ℕ}
  {reserva : Option Reserva}

/-- A command that leaves the lock and the identifier of its session alone. -/
theorem quieto_bind_safe {op : Cmd} {f : op.Ans → Processo α} (hop : op.Quieto)
    (hw : Sabe i n agora l reserva w)
    (hkeeps : ∀ w e, Valido cfg w → Sabe i n agora l reserva w → Confere w (i, op, e) →
      (disciplina cfg).Keeps i w (w.depois cfg i op e))
    (hok : ∀ w e a, Valido cfg w → Sabe i n agora l reserva w → Confere w (i, op, e) →
      Sabe i n agora l reserva (w.depois cfg i op e) →
      (efeito cfg.issueLink i op e w).2 = .ok a →
      (disciplina cfg).Safe i (Fim P) (w.depois cfg i op e) (f a)) :
    (disciplina cfg).Safe i (Fim P) w (run op >>= f) := by
  refine comando_bind_safe (fun ht h ↦ h.tolera ht) hw hkeeps fun w e a hI hs hC ha ↦ ?_
  obtain ⟨hworker, hreserva⟩ := sessao_quieto cfg hop e w
  exact hok w e a hI hs hC (hs.keeps (hkeeps w e hI hs hC) hworker (hreserva.trans hs.reserva)) ha

theorem neutro_bind_safe {op : Cmd} {f : op.Ans → Processo α} (hop : op.Neutro)
    (hw : Sabe i n agora l reserva w)
    (hf : ∀ w a, Sabe i n agora l reserva w → (disciplina cfg).Safe i (Fim P) w (f a)) :
    (disciplina cfg).Safe i (Fim P) w (run op >>= f) :=
  quieto_bind_safe hop.quieto hw (fun _ _ hI _ _ ↦ keeps_neutro hop hI)
    fun _ _ a _ _ _ hs _ ↦ hf _ a hs

/-- A program of such commands, whether it returns or raises. -/
theorem neutro_safe {p : Processo α} (hp : p.AllCalls Cmd.Neutro)
    (hw : Sabe i n agora l reserva w) :
    (disciplina cfg).Safe i (fun _ w ↦ Sabe i n agora l reserva w) w p := by
  refine Safe.of_calls (fun _ hR h ↦ h.tolera hR) (fun {w op e} hop hI hs ↦ ?_) hp hw
  refine ⟨keeps_exec (K := fun _ ↦ True) (fun _ h ↦ h) hI trivial
    fun _ hI _ _ ↦ keeps_neutro hop hI, ?_⟩
  obtain ⟨w₁, x, hexec, rfl | rfl⟩ | ⟨hC, hexec⟩ := exec_conferida cfg i op e w
  · rw [hexec]
    exact hs
  · rw [hexec]
    exact hs.tolera (tolera_avancar _)
  · rw [hexec]
    obtain ⟨hworker, hreserva⟩ := sessao_quieto cfg hop.quieto e (w.avancar e.agora)
    exact (hs.tolera (tolera_avancar _)).keeps
      (keeps_neutro hop (keeps_avancar (i := i) e.agora hI).inv) hworker
      (hreserva.trans hs.reserva)

theorem ret_safe {a : α} (h : P a w) : (disciplina cfg).Safe i (Fim P) w (.ret a) :=
  .ret fun _ heq ↦ by
    cases heq
    exact h

theorem raise_safe {x : Erro} : (disciplina cfg).Safe i (Fim P) w (.raise x) :=
  .raise fun _ heq ↦ by cases heq

theorem bind_safe {β : Type} {P' : β → Banco → Prop} {p : Processo β} {f : β → Processo α}
    (hp : (disciplina cfg).Safe i (Fim P') w p)
    (hf : ∀ b w, P' b w → (disciplina cfg).Safe i (Fim P) w (f b)) :
    (disciplina cfg).Safe i (Fim P) w (p >>= f) :=
  hp.bind (fun h ↦ hf _ _ (h _ rfl)) fun _ _ heq ↦ by cases heq

/-! ### The programs -/

/-- The row that counts, as a session without a lock sees it. -/
theorem titulo_bind_safe {f : Controle → Processo α} (hw : Sabe i n agora l none w)
    (hf : ∀ w a, Sabe i n agora l none w → (disciplina cfg).Safe i (Fim P) w (f a)) :
    (disciplina cfg).Safe i (Fim P) w (run (.titulo link) >>= f) :=
  quieto_bind_safe trivial hw (fun _ _ hI _ hC ↦ keeps_titulo hI hC)
    fun _ _ a _ _ _ hs _ ↦ hf _ a hs

theorem controlLinks_bind_safe {f : List ℕ → Processo α} (hw : Sabe i n agora none none w)
    (hf : ∀ w ids, Sabe i n agora none none w → (∀ id ∈ ids.head?, Canonico id w) →
      (disciplina cfg).Safe i (Fim P) w (f ids)) :
    (disciplina cfg).Safe i (Fim P) w (run .controlLinks >>= f) := by
  refine quieto_bind_safe trivial hw (fun _ _ hI hs _ ↦ keeps_controlLinks hI hs.reserva)
    fun w e ids _ _ _ hs ha ↦ hf _ _ hs fun id hid _ ↦ ?_
  cases ha
  rw [List.head?_map] at hid
  exact hid

theorem Sabe.comLink (h : Sabe i n agora none reserva w) {id : ℕ} (hid : Canonico id w) :
    Sabe i n agora (some id) reserva w where
  worker := h.worker
  reserva := h.reserva
  agora := h.agora
  canonico := by
    rintro _ ⟨⟩
    exact hid

theorem ensureControlLink_safe (hw : Sabe i n agora none none w) :
    (disciplina cfg).Safe i (Fim fun link w ↦ Sabe i n agora (some link) none w) w
      ensureControlLink := by
  refine controlLinks_bind_safe hw fun w ids hs hids ↦ ?_
  cases ids with
  | cons existing _ => exact ret_safe (hs.comLink (hids existing rfl))
  | nil =>
    refine quieto_bind_safe trivial hs (fun _ _ hI hs _ ↦ keeps_inserir hI hs.reserva rfl)
      fun _ _ criado _ _ _ hs _ ↦ ?_
    refine quieto_bind_safe trivial hs (fun _ _ hI hs _ ↦ keeps_commit hI hs.reserva)
      fun _ _ _ _ _ _ hs _ ↦ ?_
    refine controlLinks_bind_safe hs fun w ids hs hids ↦ ?_
    cases ids with
    | nil => exact raise_safe
    | cons canonical _ =>
      have hlink := hs.comLink (hids canonical rfl)
      dsimp only
      split
      next hne =>
        refine quieto_bind_safe trivial hlink (fun _ _ hI hs _ ↦
          keeps_excluir hI hne (hs.canonico canonical rfl)) fun _ _ _ _ _ _ hs _ ↦ ?_
        exact ret_safe hs
      next => exact ret_safe hlink

theorem maisMinutos_bind_safe {β : Type} {a : DateTime} {m : ℤ} {f : DateTime → Processo β}
    {P : β → Banco → Prop} (hf : ∀ b, (disciplina cfg).Safe i (Fim P) w (f b)) :
    (disciplina cfg).Safe i (Fim P) w (maisMinutos a m >>= f) := by
  rw [maisMinutos]
  split
  · exact hf _
  · exact raise_safe

theorem refresh_bind_safe {f : Unit → Processo α} (hw : Sabe i n agora l reserva w)
    (hf : ∀ w, Sabe i n agora l reserva w → (disciplina cfg).Safe i (Fim P) w (f ())) :
    (disciplina cfg).Safe i (Fim P) w (run (.refresh link) >>= f) :=
  quieto_bind_safe trivial hw (fun _ _ hI _ hC ↦ keeps_refresh hI hC)
    fun _ _ _ _ _ _ hs _ ↦ hf _ hs

/-- **The lock is taken** by one session, or not. -/
theorem swap_adquirir_bind_safe {rawBefore control : Controle} {f : ℕ → Processo α}
    (hw : Sabe i n agora (some link) none w)
    (howner : control.lock.map Lock.owner = some (nome cfg n))
    (hvencido : rawBefore.vigente agora = false)
    (htravou : ∀ w, Sabe i n agora (some link) (some ⟨link, control⟩) w →
      (disciplina cfg).Safe i (Fim P) w (f 1))
    (hnao : ∀ w, Sabe i n agora (some link) none w → (disciplina cfg).Safe i (Fim P) w (f 0)) :
    (disciplina cfg).Safe i (Fim P) w (run (.swap .adquirir link rawBefore control) >>= f) := by
  have hkeeps : ∀ w (e : Env), Valido cfg w → Sabe i n agora (some link) none w →
      (disciplina cfg).Keeps i w (w.depois cfg i (.swap .adquirir link rawBefore control) e) := by
    intro w e hI hs
    refine keeps_adquirir hI (hs.canonico link rfl) hs.worker howner ?_
    rw [← Bool.not_eq_true] at hvencido ⊢
    exact fun hv ↦ hvencido (Controle.vigente_of_le hs.agora hv)
  refine comando_bind_safe (fun ht h ↦ h.tolera ht) hw (fun w e hI hs _ ↦ hkeeps w e hI hs)
    fun w e a hI hs _ ha ↦ ?_
  have hk := hkeeps w e hI hs
  simp only [efeito] at ha
  cases ha
  simp only [Banco.depois, efeito] at hk ⊢
  by_cases hfound : (w.linha link).any (·.titulo = rawBefore) = true
  · simp only [hfound, if_true] at hk ⊢
    have hself : (w.travado i link control).sessoes i = _ := travado_sessoes_self
    have hworker := congrArg Sessao.worker hself
    exact htravou _ (hs.keeps hk hworker (congrArg Sessao.reserva hself))
  · simp only [hfound, Bool.false_eq_true, if_false] at hk ⊢
    refine hnao _ (hs.keeps hk ?_ ?_)
    · rw [Banco.expirar, sessoes_setSessao_self]
    · rw [Banco.expirar, sessoes_setSessao_self, hs.reserva]

theorem acquireLock_safe {correlationId : String} {lockTimeoutMinutos : ℤ}
    (hw : Sabe i n agora (some link) none w) :
    (disciplina cfg).Safe i
      (Fim fun a w ↦ a.1 = true → Sabe i n agora (some link) (some ⟨link, a.2⟩) w) w
      (acquireLock link (nome cfg n) correlationId lockTimeoutMinutos agora) := by
  refine titulo_bind_safe hw fun w rawBefore hs ↦ ?_
  split
  · exact ret_safe fun h ↦ by cases h
  next hvencido =>
    refine maisMinutos_bind_safe fun expira ↦ ?_
    dsimp only
    rw [swapControl, Program.bind_assoc]
    refine swap_adquirir_bind_safe hs rfl (Bool.eq_false_of_not_eq_true hvencido)
      (fun w hs ↦ ?_) fun w hs ↦ ?_
    · rw [Program.bind_assoc]
      exact refresh_bind_safe hs fun w hs ↦ ret_safe fun _ ↦ hs
    · rw [Program.bind_assoc]
      refine refresh_bind_safe hs fun w hs ↦ ?_
      exact titulo_bind_safe hs fun w a hs ↦ ret_safe fun h ↦ by cases h

/-- What a session with a lock reads in the row is the title that it has written. -/
theorem titulo_ok {e : Env} {control a : Controle} (hI : Valido cfg w)
    (hs : Sabe i n agora (some link) (some ⟨link, control⟩) w)
    (hC : Confere w (i, .titulo link, e))
    (ha : (efeito cfg.issueLink i (.titulo link) e w).2 = .ok a) : a = control := by
  simp only [efeito] at ha
  split at ha
  next titulo htitulo =>
    cases ha
    exact hI.carregado i _ _ hs.reserva htitulo
  next row hnone hrow =>
    cases ha
    exact hC _ hs.reserva rfl hnone row hrow
  next => cases ha

theorem releaseLock_safe {control control' : Controle}
    (hw : Sabe i n agora (some link) (some ⟨link, control⟩) w) :
    (disciplina cfg).Safe i (Fim fun _ w ↦ Sabe i n agora (some link) none w) w
      (releaseLock link control') := by
  refine quieto_bind_safe trivial hw (fun _ _ hI _ hC ↦ keeps_titulo hI hC)
    fun w e a hI hs hC hs' ha ↦ ?_
  obtain rfl := titulo_ok hI hs hC ha
  rw [swapControl, Program.bind_assoc]
  refine comando_bind_safe (fun ht h ↦ h.tolera ht) hs' (fun w e hI hs _ ↦
    keeps_devolver hI (hs.canonico link rfl) hs.reserva rfl) fun w e b hI hs _ _ ↦ ?_
  have hk : (disciplina cfg).Keeps i w
      (w.depois cfg i (.swap .devolver link a { control' with lock := none }) e) :=
    keeps_devolver hI (hs.canonico link rfl) hs.reserva rfl
  have hs'' : Sabe i n agora (some link) none
      (w.depois cfg i (.swap .devolver link a { control' with lock := none }) e) := by
    refine hs.keeps hk ?_ ?_
    all_goals
      simp only [Banco.depois, efeito, Banco.expirar, sessoes_setSessao_self, Banco.devolver]
    split <;> rfl
  rw [Program.bind_assoc]
  exact refresh_bind_safe hs'' fun w hs ↦ ret_safe hs

/-! ### The synchronisation -/

theorem run_neutro (op : Cmd) (h : op.Neutro) : (run op).AllCalls Cmd.Neutro := .perform h

theorem exigirIssueLink_neutro (cfg : Config) : (exigirIssueLink cfg).AllCalls Cmd.Neutro := by
  refine (run_neutro .issueLink trivial).bind fun link ↦ ?_
  cases link with
  | none => exact .raise _
  | some link =>
    dsimp only
    split
    · exact .raise _
    · split
      · exact .raise _
      · exact .ret _

theorem aplicarCampos_neutro (issueId : ℤ) (changed : List (String × String)) (issueBefore : Issue)
    (dryRun : Bool) : (aplicarCampos issueId changed issueBefore dryRun).AllCalls Cmd.Neutro := by
  rw [aplicarCampos]
  split
  · exact .ret _
  · refine (run_neutro (.atualizarIssue issueId changed) trivial).bind fun _ ↦ ?_
    refine (run_neutro (.obterIssue issueId) trivial).bind fun _ ↦ ?_
    dsimp only
    split
    · exact .raise _
    · exact .ret _

/-- The synchronisation does not touch the control rows. -/
theorem sincronizar_neutro (cfg : Config) (correlationId actor : String) (dryRun : Bool) :
    (sincronizarRequisitoRedmine cfg correlationId actor dryRun).AllCalls Cmd.Neutro := by
  refine (exigirIssueLink_neutro cfg).bind fun issueId ↦ ?_
  refine (run_neutro .syncStateLink trivial).bind fun _ ↦ ?_
  refine (run_neutro (.obterIssue issueId) trivial).bind fun _ ↦ ?_
  refine (aplicarCampos_neutro ..).bind fun _ ↦ ?_
  dsimp only
  split
  · exact (run_neutro (.gravarSync _ _) trivial).bind fun _ ↦ .ret _
  · exact .ret _

theorem proximaTentativa_bind_safe {β : Type} {ped : Pedido} {attempts : ℕ} {quarentenado : Bool}
    {f : Option ℤ × Option String → Processo β} {P : β → Banco → Prop}
    (hf : ∀ b, (disciplina cfg).Safe i (Fim P) w (f b)) :
    (disciplina cfg).Safe i (Fim P) w
      (proximaTentativa ped attempts quarentenado agora >>= f) := by
  rw [proximaTentativa]
  split
  · exact hf _
  · rw [Program.bind_assoc]
    exact maisMinutos_bind_safe fun b ↦ hf _

theorem registrarFalha_safe {ped : Pedido} {issueId : ℤ} {control : Controle}
    {tipo mensagem : String} (hw : Sabe i n agora (some link) (some ⟨link, control⟩) w) :
    (disciplina cfg).Safe i (Fim fun _ _ ↦ True) w
      (registrarFalha ped issueId link control tipo mensagem agora) := by
  refine proximaTentativa_bind_safe fun b ↦ bind_safe (releaseLock_safe hw) fun _ w hs ↦ ?_
  exact neutro_bind_safe (by trivial) hs fun _ _ _ ↦ ret_safe trivial

theorem sincronizarComLock_safe {ped : Pedido} {issueId : ℤ} {control : Controle}
    (hw : Sabe i n agora (some link) (some ⟨link, control⟩) w) :
    (disciplina cfg).Safe i (Fim fun _ _ ↦ True) w
      (sincronizarComLock cfg ped issueId link control agora) := by
  have hsync : (disciplina cfg).Safe i
      (fun _ w ↦ Sabe i n agora (some link) (some ⟨link, control⟩) w) w
      (sincronizarRequisitoRedmine cfg ped.correlationId ped.actor false).attempt :=
    (neutro_safe (sincronizar_neutro ..) hw).attempt fun h ↦ h
  refine Safe.bind hsync (fun {r w} hs ↦ ?_) fun _ _ heq ↦ by cases heq
  cases r with
  | error x =>
    dsimp only
    split
    · exact raise_safe
    · exact registrarFalha_safe hs
  | ok resultado => exact bind_safe (releaseLock_safe hs) fun _ _ _ ↦ ret_safe trivial

theorem reconciliarLinha_safe {ped : Pedido} {issueId : ℤ} (hw : Sabe i n agora none none w) :
    (disciplina cfg).Safe i (Fim fun _ _ ↦ True) w
      (reconciliarLinha cfg ped (nome cfg n) issueId agora) := by
  refine bind_safe (ensureControlLink_safe hw) fun link w hs ↦ ?_
  refine titulo_bind_safe hs fun w control hs ↦ ?_
  split
  · exact ret_safe trivial
  · split
    · exact ret_safe trivial
    · refine bind_safe (acquireLock_safe hs) fun a w hs ↦ ?_
      dsimp only
      split
      next hacquired => exact sincronizarComLock_safe (hs hacquired)
      next => exact ret_safe trivial

theorem responderDryRun_safe {issueId : ℤ} (hw : Sabe i n agora none none w) :
    (disciplina cfg).Safe i (Fim fun _ _ ↦ True) w (responderDryRun issueId agora) := by
  refine controlLinks_bind_safe hw fun w ids hs _ ↦ ?_
  cases ids with
  | nil => exact ret_safe trivial
  | cons id _ => exact titulo_bind_safe hs fun _ _ _ ↦ ret_safe trivial

/-- **A call keeps the discipline.** -/
theorem reconciliarRequisito_safe (ped : Pedido) :
    (disciplina cfg).Safe i (Fim fun _ _ ↦ True) w (reconciliarRequisito cfg ped) := by
  refine comando_bind_safe (K := fun _ ↦ True) (fun _ h ↦ h) trivial
    (fun _ _ hI _ _ ↦ keeps_abrir hI) fun w e _ hI _ _ _ ↦ ?_
  refine comando_bind_safe (K := fun w ↦ w.sessoes i = {}) (fun ht h ↦ ht.sessao.trans h)
    (Function.update_self ..) (fun _ _ hI _ _ ↦ keeps_neutro (by trivial) hI)
    fun w e agora hI hs _ ha ↦ ?_
  cases ha
  refine comando_bind_safe (K := fun w' ↦ w'.sessoes i = {} ∧ w.relogio ≤ w'.relogio)
    (fun ht h ↦ ⟨ht.sessao.trans h.1, le_trans_dateTime h.2 ht.relogio⟩)
    ⟨hs, le_refl_dateTime _⟩ (fun _ _ hI hs _ ↦ keeps_uuid4 hI (by rw [hs.1]))
    fun w' e n hI hs _ ha ↦ ?_
  cases ha
  have hsabe : Sabe i w'.uuids w.relogio none none (w'.depois cfg i .uuid4 e) := by
    refine ⟨?_, ?_, hs.2, fun _ h ↦ by cases h⟩
    · exact congrArg Sessao.worker (sessoes_setSessao_self ..)
    · refine (congrArg Sessao.reserva (sessoes_setSessao_self ..)).trans ?_
      rw [hs.1]
  refine neutro_bind_safe (by trivial) hsabe fun w'' link hs ↦ ?_
  cases link with
  | none => exact ret_safe trivial
  | some issueLink =>
    dsimp only
    split
    · exact ret_safe trivial
    · split
      · exact responderDryRun_safe hs
      · exact reconciliarLinha_safe hs

end Programas

/-! ## A small instance -/

/-- A requirement with issue 7, of which ReqSys owns no field. -/
def sampleConfig : Config where
  codigo := "REQ-1"
  issueLink := some ⟨"7"⟩
  desired := []
  int _ := some 7
  repr := id
  sha256 := id
  fingerprintCampos _ := ""
  fingerprintExecucao _ := ""
  uuid n := String.ofList (List.replicate n 'a')
  uuid_injective m n h := by
    have hlength := congrArg (fun s ↦ s.toList.length) h
    simpa only [String.toList_ofList, List.length_replicate] using hlength

def samplePedido : Pedido where
  correlationId := "c"
  actor := "batch"

/-- One in the afternoon. -/
def sampleTarde : DateTime :=
  { DateTime.newYearNoon with
    hour := 13
    hour_lt := by decide }

/-- Session `i` takes `n` steps at some time. -/
def sampleSteps (i n : ℕ) (agora : DateTime) : List (Move Pedido Env) :=
  List.replicate n (.advance i { agora, issue := .ok {} })

/-- The trace and the sessions after the moves. -/
def sampleRun (moves : List (Move Pedido Env)) : List Passo × Processos :=
  TransitionSystem.runCalls (Pool.move (reconciliarRequisito sampleConfig)
    (machine sampleConfig.issueLink)) moves ⟨{ relogio := .newYearNoon }, fun _ ↦ none⟩

/-- Session 1 creates the row and takes the lock, and session 2 comes too late. -/
def sampleSerial : List (Move Pedido Env) :=
  .start 1 samplePedido :: sampleSteps 1 12 .newYearNoon ++
    .start 2 samplePedido :: sampleSteps 2 7 .newYearNoon

/-- Sessions 1 and 2 both insert a row, and the second row is seen first. -/
def sampleCruzada : List (Move Pedido Env) :=
  .start 1 samplePedido :: sampleSteps 1 6 .newYearNoon ++
    .start 2 samplePedido :: sampleSteps 2 12 .newYearNoon ++ sampleSteps 1 6 .newYearNoon

/-- Session 0 has stored the state of the issue, so that session 1 has nothing to store; session 2
takes the lock of session 1 over before that one returns it. -/
def sampleSemMudanca : List (Move Pedido Env) :=
  .start 0 samplePedido :: sampleSteps 0 20 .newYearNoon ++
    .start 1 samplePedido :: sampleSteps 1 12 .newYearNoon ++
    .start 2 samplePedido :: sampleSteps 2 8 sampleTarde ++ sampleSteps 1 1 sampleTarde

/-- Session 1 stores the state of the issue, session 2 takes its lock over, and session 1 loads the
title of the row again. -/
def sampleComMudanca : List (Move Pedido Env) :=
  .start 1 samplePedido :: sampleSteps 1 16 .newYearNoon ++
    .start 2 samplePedido :: sampleSteps 2 8 sampleTarde ++ sampleSteps 1 1 sampleTarde

/-! ## Runs -/

theorem keeps_close (h : Valido cfg w) :
    (disciplina cfg).Keeps i w ((conferida cfg).close i w) :=
  keeps_abrir (e := { agora := w.relogio }) h

theorem valido_inicio (cfg : Config) (relogio : DateTime) : Valido cfg { relogio } := by
  constructor <;> intros
  case sobrescrita => rfl
  all_goals contradiction

variable {relogio : DateTime} {tr : List Passo} {p p' : Processos}

/-- The invariant holds in every run whose calls meet the condition. -/
theorem valido_of_run (h : ((reconciliacoes cfg relogio).restrict
    fun p m ↦ ∀ x ∈ p.nextCall m.1, Confere p.store x).Run tr p) : Valido cfg p.store := by
  have hrun : (Pool.interleaving { relogio } (reconciliarRequisito cfg) (conferida cfg)).Run tr p :=
    Pool.run_guard (Erro.outro "") h
  exact (Pool.safe_of_run (D := disciplina cfg) (valido_inicio cfg relogio)
    (fun _ ped _ _ ↦ (reconciliarRequisito_safe ped).imp fun _ ↦ trivial)
    (fun _ _ hI ↦ keeps_close hI) hrun).inv

/-- Session `i` is between `_acquire_lock` and `_release_lock`, and its lock has not expired. -/
def Banco.Trava (w : Banco) (t : DateTime) (i : ℕ) : Prop :=
  ∃ r ∈ (w.sessoes i).reserva, r.titulo.vigente t = true

instance (w : Banco) (t : DateTime) (i : ℕ) : Decidable (w.Trava t i) :=
  decidable_of_iff ((w.sessoes i).reserva.any fun r ↦ r.titulo.vigente t) (Option.any_eq_true _ _)

theorem emOrdem_exec {op : Cmd} {e : Env} (h : w.emOrdem = true)
    (hC : EmSequencia w (i, op, e)) : ((machine cfg.issueLink).exec i op e w).1.emOrdem = true := by
  simp only [machine, exec]
  split
  · exact h
  · cases op <;> simp only [efeito]
    case commit =>
      simp only [Banco.publicar]
      split
      · exact h
      next row hrow =>
        refine (Bool.and_eq_true _ _).mpr ⟨h, List.all_eq_true.mpr fun r hr ↦ decide_eq_true ?_⟩
        exact hC row hrow r hr
    case gravarSync eventos estado => rcases estado with _ | ⟨_ | id, titulo⟩ <;> exact h
    case titulo id => split <;> exact h
    case refresh id => split <;> exact h
    case swap fase id rawBefore control =>
      generalize ((w.avancar e.agora).linha id).any (·.titulo = rawBefore) = encontrada
      cases fase <;> cases encontrada <;> exact h
    all_goals exact h

theorem emOrdem_of_run (h : ((reconciliacoes cfg relogio).restrict
    fun p m ↦ ∀ x ∈ p.nextCall m.1, Ordenada p.store x).Run tr p) : p.store.emOrdem = true := by
  refine h.invariant (I := fun p ↦ p.store.emOrdem = true) (fun hs ↦ by rw [hs])
    fun {p m p'} hp hstep ↦ ?_
  obtain ⟨hC, hstep⟩ := hstep
  rw [Pool.step_eq hstep]
  obtain ⟨-, hm⟩ | ⟨i, c, -, hm⟩ | ⟨i, op, e, k, hcall, -, hm⟩ | ⟨i, -, hm⟩ :=
    Pool.move_cases (reconciliarRequisito cfg) (machine cfg.issueLink) m.1 p
  all_goals rw [hm]
  · exact hp
  · exact hp
  · exact emOrdem_exec hp (hC _ hcall).2
  · exact hp

/-- **One worker at a time**: at any time, at most one session has a lock that has not expired,
if a title is loaded by a session with a lock only while it is its own, and the control rows become
visible in the order of their numbers. -/
theorem um_por_vez (cfg : Config) (relogio : DateTime) {tr : List Passo} {p : Processos}
    (h : ((reconciliacoes cfg relogio).restrict
      fun p m ↦ ∀ x ∈ p.nextCall m.1, Ordenada p.store x).Run tr p) {t : DateTime}
    (ht : p.store.relogio ≤ t) {i j : ℕ} (hi : p.store.Trava t i) (hj : p.store.Trava t j) :
    i = j := by
  have hI : Valido cfg p.store :=
    valido_of_run (h.restrict_mono fun _ _ hC x hx ↦ (hC x hx).1)
  obtain ⟨r, hr, hv⟩ := hi
  obtain ⟨r', hr', hv'⟩ := hj
  exact hI.exclusiva (emOrdem_of_run h) i j r r' hr hr' (Controle.vigente_of_le ht hv)
    (Controle.vigente_of_le ht hv')

example : (sampleRun sampleSerial).2.store.controles.length = 1 := by decide +kernel

/-- Session 1 has the lock, and no other session. -/
theorem um_por_vez_serial : (sampleRun sampleSerial).2.store.Trava .newYearNoon 1 ∧
    ∀ j, (sampleRun sampleSerial).2.store.Trava .newYearNoon j → j = 1 := by
  have hrun : ((reconciliacoes sampleConfig .newYearNoon).restrict
      fun p m ↦ ∀ x ∈ p.nextCall m.1, Ordenada p.store x).Run (sampleRun sampleSerial).1
      (sampleRun sampleSerial).2 := TransitionSystem.run_restrict_runCalls _ (by decide +kernel)
  have htrava : (sampleRun sampleSerial).2.store.Trava .newYearNoon 1 := by decide +kernel
  exact ⟨htrava, fun j hj ↦
    um_por_vez sampleConfig .newYearNoon hrun (by decide +kernel) hj htrava⟩

/-- A row that is seen before one with a smaller number: two sessions have a lock. -/
theorem dois_de_uma_vez : ∃ tr p, (reconciliacoes sampleConfig .newYearNoon).Run tr p ∧
    p.store.Trava p.store.relogio 1 ∧ p.store.Trava p.store.relogio 2 :=
  ⟨_, (sampleRun sampleCruzada).2, TransitionSystem.run_runCalls _ _ _, by decide +kernel,
    by decide +kernel⟩

/-- The effect of returning a lock on what the history records. -/
theorem devolver_controles {id : ℕ} {rawBefore control : Controle} {e : Env}
    (htomada : w.tomada i = true)
    (hmuda :
      ((machine cfg.issueLink).exec i (.swap .devolver id rawBefore control) e w).1.sobrescrita
        = false) :
    ((machine cfg.issueLink).exec i (.swap .devolver id rawBefore control) e w).1.controles
      = w.controles := by
  simp only [machine, exec] at hmuda ⊢
  split at hmuda
  · rfl
  · have htomada' : (w.avancar e.agora).tomada i = true := htomada
    simp only [efeito, htomada', Bool.and_true] at hmuda ⊢
    have hnao := (Bool.or_eq_false_iff.mp hmuda).2
    simp only [hnao, Bool.false_eq_true, if_false]
    rfl

/-- **A late worker overwrites nothing**: a session whose lock another session has taken over leaves
the control rows unchanged when it returns the lock, if a title is loaded by a session with a lock
only while it is its own. -/
theorem atrasada_nao_grava (cfg : Config) (relogio : DateTime) {tr : List Passo} {p p' : Processos}
    (h : ((reconciliacoes cfg relogio).restrict
      fun p m ↦ ∀ x ∈ p.nextCall m.1, Confere p.store x).Run tr p) {m : Passo}
    (hstep : (reconciliacoes cfg relogio).step p m p') {i id : ℕ} {rawBefore control : Controle}
    {e : Env} (hcall : p.nextCall m.1 = some (i, .swap .devolver id rawBefore control, e))
    (htomada : p.store.tomada i = true) : p'.store.controles = p.store.controles := by
  have hnext : ∀ x ∈ p.nextCall m.1, Confere p.store x := by
    intro x hx
    rw [hcall] at hx
    cases hx
    trivial
  have hI : Valido cfg p'.store := valido_of_run (h.snoc ⟨hnext, hstep⟩)
  have heq := Pool.step_eq hstep
  obtain ⟨hnone, -⟩ | ⟨j, c, hnone, -⟩ | ⟨j, op, e', k, hcall', -, hm⟩ | ⟨j, hnone, -⟩ :=
    Pool.move_cases (reconciliarRequisito cfg) (machine cfg.issueLink) m.1 p
  · rw [hnone] at hcall
    cases hcall
  · rw [hnone] at hcall
    cases hcall
  · rw [hcall] at hcall'
    cases hcall'
    have hsobrescrita := hI.sobrescrita
    rw [heq, hm] at hsobrescrita ⊢
    exact devolver_controles htomada hsobrescrita
  · rw [hnone] at hcall
    cases hcall

/-- The swap of `_release_lock`. -/
def Cmd.devolve : Cmd → Bool
  | .swap .devolver _ _ _ => true
  | _ => false

theorem exists_devolver {p : Processos} {m : Move Pedido Env} {i : ℕ}
    (h : ((p.nextCall m).any fun x ↦ decide (x.1 = i) && x.2.1.devolve) = true) :
    ∃ id rawBefore control e, p.nextCall m = some (i, .swap .devolver id rawBefore control, e) := by
  obtain ⟨⟨j, op, e⟩, hcall, hx⟩ := (Option.any_eq_true _ _).mp h
  obtain ⟨hj, hop⟩ := (Bool.and_eq_true _ _).mp hx
  have hji : j = i := of_decide_eq_true hj
  subst hji
  cases op with
  | swap fase id rawBefore control =>
    cases fase with
    | devolver => exact ⟨id, rawBefore, control, e, hcall⟩
    | adquirir => cases hop
  | _ => cases hop

/-- The sessions after one more step of session 1. -/
def sampleNext (moves : List (Move Pedido Env)) : Processos × Option (Except Erro Resposta) :=
  Pool.move (reconciliarRequisito sampleConfig) (machine sampleConfig.issueLink)
    (.advance 1 { agora := sampleTarde, issue := .ok {} }) (sampleRun moves).2

theorem step_sampleNext (moves : List (Move Pedido Env)) :
    (reconciliacoes sampleConfig .newYearNoon).step (sampleRun moves).2
      (.advance 1 { agora := sampleTarde, issue := .ok {} }, (sampleNext moves).2)
      (sampleNext moves).1 := rfl

/-- Session 1 has lost its lock, and returns it without writing the row. -/
theorem atrasada_sample : (sampleRun sampleSemMudanca).2.store.tomada 1 = true ∧
    (sampleNext sampleSemMudanca).1.store.controles
      = (sampleRun sampleSemMudanca).2.store.controles := by
  have hrun : ((reconciliacoes sampleConfig .newYearNoon).restrict
      fun p m ↦ ∀ x ∈ p.nextCall m.1, Confere p.store x).Run (sampleRun sampleSemMudanca).1
      (sampleRun sampleSemMudanca).2 :=
    TransitionSystem.run_restrict_runCalls _ (by decide +kernel)
  obtain ⟨id, rawBefore, control, e, hcall⟩ :=
    exists_devolver (p := (sampleRun sampleSemMudanca).2)
      (m := .advance 1 { agora := sampleTarde, issue := .ok {} }) (i := 1) (by decide +kernel)
  have htomada : (sampleRun sampleSemMudanca).2.store.tomada 1 = true := by decide +kernel
  exact ⟨htomada,
    atrasada_nao_grava sampleConfig .newYearNoon hrun (step_sampleNext _) hcall htomada⟩

/-- A session that has committed reads the lock of the other one, and overwrites it. -/
theorem atrasada_grava : ∃ tr p m p' i id rawBefore control e,
    (reconciliacoes sampleConfig .newYearNoon).Run tr p ∧
      (reconciliacoes sampleConfig .newYearNoon).step p m p' ∧
      p.nextCall m.1 = some (i, .swap .devolver id rawBefore control, e) ∧
      p.store.tomada i = true ∧ p'.store.controles ≠ p.store.controles := by
  obtain ⟨id, rawBefore, control, e, hcall⟩ :=
    exists_devolver (p := (sampleRun sampleComMudanca).2)
      (m := .advance 1 { agora := sampleTarde, issue := .ok {} }) (i := 1) (by decide +kernel)
  exact ⟨_, (sampleRun sampleComMudanca).2,
    (.advance 1 { agora := sampleTarde, issue := .ok {} }, (sampleNext sampleComMudanca).2),
    (sampleNext sampleComMudanca).1, 1, id, rawBefore, control, e,
    TransitionSystem.run_runCalls _ _ _, step_sampleNext _, hcall, by decide +kernel,
    by decide +kernel⟩

end RedmineLifecycle

end ReqSys
