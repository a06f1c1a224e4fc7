import ReqSys.Foundation.Guarded
import ReqSys.RedmineLifecycle.Batch

/-!
# Redmine lifecycle: the lock

The lock of a session is the title that it has written into the control row. While the row that
counts is the same for everyone, a lock that has not expired is the title of that row, so that
nobody else writes there: a lock is taken only from a title whose lock has expired, and given back
only by a session that finds its own title. The commands keep this, those of a session with a lock
under the condition that what it loads is its own.
-/

namespace ReqSys

namespace RedmineLifecycle

open Discipline

/-! ## Conditions -/

/-- A session that has the lock loads the title of the row only while it is the one that the session
has written there. -/
def Confere (w : Banco) : ℕ × Cmd × Env → Prop
  | (i, .titulo id, _) => ∀ r ∈ (w.sessoes i).reserva, r.linha = id →
      (w.sessoes i).titulos id = none → ∀ row ∈ w.linha id, row.titulo = r.titulo
  | (i, .refresh id, _) => ∀ r ∈ (w.sessoes i).reserva, r.linha = id →
      ∀ row ∈ w.linha id, row.titulo = r.titulo
  | _ => True

/-- A control row becomes visible only while no row with a greater number is. -/
def EmSequencia (w : Banco) : ℕ × Cmd × Env → Prop
  | (i, .commit, _) => ∀ row ∈ (w.sessoes i).pendente, ∀ r ∈ w.controles, r.id < row.id
  | _ => True

instance (w : Banco) : ∀ x : ℕ × Cmd × Env, Decidable (Confere w x)
  | (i, .titulo id, _) => inferInstanceAs (Decidable (∀ r ∈ (w.sessoes i).reserva, r.linha = id →
      (w.sessoes i).titulos id = none → ∀ row ∈ w.linha id, row.titulo = r.titulo))
  | (i, .refresh id, _) => inferInstanceAs (Decidable (∀ r ∈ (w.sessoes i).reserva, r.linha = id →
      ∀ row ∈ w.linha id, row.titulo = r.titulo))
  | (_, .abrir, _) | (_, .now, _) | (_, .uuid4, _) | (_, .issueLink, _) | (_, .syncStateLink, _)
  | (_, .obterIssue _, _) | (_, .atualizarIssue _ _, _) | (_, .gravarSync _ _, _)
  | (_, .controlLinks, _) | (_, .inserir _, _) | (_, .commit, _) | (_, .excluir _, _)
  | (_, .swap _ _ _ _, _) | (_, .audit _, _) => .isTrue trivial

instance (w : Banco) : ∀ x : ℕ × Cmd × Env, Decidable (EmSequencia w x)
  | (i, .commit, _) => inferInstanceAs (Decidable (∀ row ∈ (w.sessoes i).pendente,
      ∀ r ∈ w.controles, r.id < row.id))
  | (_, .abrir, _) | (_, .now, _) | (_, .uuid4, _) | (_, .issueLink, _) | (_, .syncStateLink, _)
  | (_, .obterIssue _, _) | (_, .atualizarIssue _ _, _) | (_, .gravarSync _ _, _)
  | (_, .controlLinks, _) | (_, .inserir _, _) | (_, .titulo _, _) | (_, .excluir _, _)
  | (_, .refresh _, _) | (_, .swap _ _ _ _, _) | (_, .audit _, _) => .isTrue trivial

/-- Both conditions. -/
def Ordenada (w : Banco) (x : ℕ × Cmd × Env) : Prop := Confere w x ∧ EmSequencia w x

instance (w : Banco) (x : ℕ × Cmd × Env) : Decidable (Ordenada w x) :=
  inferInstanceAs (Decidable (Confere w x ∧ EmSequencia w x))

/-! ## Times -/

theorem depoisDe_of_le {value : Option DateTime} {a b : DateTime} (h : a ≤ b)
    (hb : depoisDe value b = true) : depoisDe value a = true := by
  obtain ⟨t, ht, htb⟩ := (Option.any_eq_true _ _).mp hb
  refine (Option.any_eq_true _ _).mpr ⟨t, ht, ?_⟩
  rw [Bool.not_eq_true', decide_eq_false_iff_not, DateTime.toMicros_le_iff] at htb ⊢
  rw [DateTime.toMicros_le_iff] at h
  omega

/-- A lock that has not expired had not expired before. -/
theorem Controle.vigente_of_le {c : Controle} {a b : DateTime} (h : a ≤ b)
    (hb : c.vigente b = true) : c.vigente a = true := by
  obtain ⟨l, hl, hlb⟩ := (Option.any_eq_true _ _).mp hb
  exact (Option.any_eq_true _ _).mpr ⟨l, hl, depoisDe_of_le h hlb⟩

theorem le_refl_dateTime (a : DateTime) : a ≤ a := DateTime.toMicros_le_iff.mpr le_rfl

theorem le_trans_dateTime {a b c : DateTime} (h : a ≤ b) (h' : b ≤ c) : a ≤ c := by
  rw [DateTime.toMicros_le_iff] at *
  omega

theorem relogio_le_avancar (t : DateTime) (w : Banco) : w.relogio ≤ (w.avancar t).relogio := by
  rw [Banco.avancar]
  dsimp only
  split
  next h => exact h
  next => exact le_refl_dateTime _

/-! ## The invariant -/

/-- The worker identifier with a number. -/
def nome (cfg : Config) (n : ℕ) : String := "worker-" ++ cfg.uuid n

theorem nome_injective (cfg : Config) : Function.Injective (nome cfg) := by
  intro m n h
  have hlist := congrArg String.toList h
  rw [nome, nome, String.toList_append, String.toList_append] at hlist
  exact cfg.uuid_injective (String.toList_inj.mp (List.append_cancel_left hlist))

/-- The number of the control row that counts. -/
def Banco.cabeca (w : Banco) : Option ℕ := w.controles.head?.map Linha.id

/-- The invariant of the table and its sessions. -/
structure Valido (cfg : Config) (w : Banco) : Prop where
  workers : ∀ i n, (w.sessoes i).worker = some n → n < w.uuids
  distintos : ∀ i j n, (w.sessoes i).worker = some n → (w.sessoes j).worker = some n → i = j
  semLock : ∀ i row, (w.sessoes i).pendente = some row → row.titulo.lock = none
  /-- A lock bears the name of its session. -/
  dono : ∀ i r, (w.sessoes i).reserva = some r → ∃ n l, (w.sessoes i).worker = some n ∧
    r.titulo.lock = some l ∧ l.owner = nome cfg n
  carregado : ∀ i r t, (w.sessoes i).reserva = some r →
    (w.sessoes i).titulos r.linha = some t → t = r.titulo
  /-- The lock that was taken over has another name. -/
  tomada : ∀ i r row, (w.sessoes i).reserva = some r → w.tomada i = true → row ∈ w.controles →
    row.id = r.linha → row.titulo.lock.map Lock.owner ≠ r.titulo.lock.map Lock.owner
  /-- All locks are in the first row; one that has not expired is there. -/
  canonica : w.emOrdem = true → ∀ i r, (w.sessoes i).reserva = some r →
    ∃ row, w.controles.head? = some row ∧ row.id = r.linha ∧
      (r.titulo.vigente w.relogio = true → row.titulo = r.titulo)
  exclusiva : w.emOrdem = true → ∀ i j r r', (w.sessoes i).reserva = some r →
    (w.sessoes j).reserva = some r' → r.titulo.vigente w.relogio = true →
    r'.titulo.vigente w.relogio = true → i = j
  sobrescrita : w.sobrescrita = false

/-- What session `i` relies on. -/
structure Tolera (i : ℕ) (w w' : Banco) : Prop where
  sessao : w'.sessoes i = w.sessoes i
  relogio : w.relogio ≤ w'.relogio
  emOrdem : w'.emOrdem = true → w.emOrdem = true
  cabeca : w'.emOrdem = true → ∀ id, w.cabeca = some id → w'.cabeca = some id

/-- The machine on which a session with a lock does not load another's title. -/
noncomputable def conferida (cfg : Config) : Machine Cmd.Ans Erro Banco Env :=
  (machine cfg.issueLink).guard Confere (.outro "")

noncomputable def disciplina (cfg : Config) : Discipline (conferida cfg) where
  I := Valido cfg
  R := Tolera
  refl _ _ := ⟨rfl, le_refl_dateTime _, fun h ↦ h, fun _ _ h ↦ h⟩
  trans h h' :=
    ⟨h'.sessao.trans h.sessao, le_trans_dateTime h.relogio h'.relogio,
      fun hord ↦ h.emOrdem (h'.emOrdem hord),
      fun hord id hid ↦ h'.cabeca hord id (h.cabeca (h'.emOrdem hord) id hid)⟩

variable {cfg : Config} {i : ℕ} {w w' : Banco}

/-! ## Changes of one session -/

/-- Only session `i` changes, rows without a lock, and what the proofs are not about. -/
structure Muda (i : ℕ) (w w' : Banco) : Prop where
  outras : ∀ j, j ≠ i → w'.sessoes j = w.sessoes j
  linhas : ∀ row ∈ w'.controles, row ∈ w.controles ∨ row.titulo.lock = none
  relogio : w'.relogio = w.relogio
  emOrdem : w'.emOrdem = true → w.emOrdem = true
  primeira : w'.emOrdem = true → ∀ row, w.controles.head? = some row →
    w'.controles.head? = some row
  sobrescrita : w'.sobrescrita = w.sobrescrita
  uuids : w.uuids ≤ w'.uuids
  tomada : ∀ j, w'.tomada j = true → w.tomada j = true

/-- The rows are the same. -/
theorem Muda.of_eq (houtras : ∀ j, j ≠ i → w'.sessoes j = w.sessoes j)
    (hcontroles : w'.controles = w.controles) (hrelogio : w'.relogio = w.relogio)
    (hemOrdem : w'.emOrdem = w.emOrdem) (hsobrescrita : w'.sobrescrita = w.sobrescrita)
    (huuids : w.uuids ≤ w'.uuids) (htomada : ∀ j, w'.tomada j = true → w.tomada j = true) :
    Muda i w w' where
  outras := houtras
  linhas _ hrow := .inl (hcontroles ▸ hrow)
  relogio := hrelogio
  emOrdem hord := hemOrdem ▸ hord
  primeira _ _ hrow := hcontroles.symm ▸ hrow
  sobrescrita := hsobrescrita
  uuids := huuids
  tomada := htomada

theorem Muda.tolera (h : Muda i w w') {j : ℕ} (hj : j ≠ i) : Tolera j w w' where
  sessao := h.outras j hj
  relogio := h.relogio ▸ le_refl_dateTime _
  emOrdem := h.emOrdem
  cabeca hord id hid := by
    obtain ⟨row, hrow, rfl⟩ := Option.map_eq_some_iff.mp hid
    rw [Banco.cabeca, h.primeira hord row hrow]
    rfl

/-- The session keeps its lock and its identifier, or it has no lock any more. -/
theorem Valido.muda (h : Valido cfg w) (hm : Muda i w w')
    (hworker : ∀ n, (w'.sessoes i).worker = some n → (w.sessoes i).worker = some n)
    (hpendente : ∀ row, (w'.sessoes i).pendente = some row → row.titulo.lock = none)
    (hreserva : ∀ r, (w'.sessoes i).reserva = some r → (w.sessoes i).reserva = some r ∧
      (w'.sessoes i).worker = (w.sessoes i).worker)
    (hcarregado : ∀ r t, (w'.sessoes i).reserva = some r →
      (w'.sessoes i).titulos r.linha = some t → t = r.titulo) : Valido cfg w' := by
  have hworkers : ∀ j n, (w'.sessoes j).worker = some n → (w.sessoes j).worker = some n := by
    intro j n hn
    by_cases hj : j = i
    · subst hj
      exact hworker n hn
    · rwa [hm.outras j hj] at hn
  have hreservas : ∀ j r, (w'.sessoes j).reserva = some r → (w.sessoes j).reserva = some r := by
    intro j r hr
    by_cases hj : j = i
    · subst hj
      exact (hreserva r hr).1
    · rwa [hm.outras j hj] at hr
  refine ⟨fun j n hn ↦ (h.workers j n (hworkers j n hn)).trans_le hm.uuids,
    fun j k n hj hk ↦ h.distintos j k n (hworkers j n hj) (hworkers k n hk),
    fun j row hrow ↦ ?_, fun j r hr ↦ ?_, fun j r t hr ht ↦ ?_,
    fun j r row hr ht hrow hid ↦ ?_,
    fun hord j r hr ↦ ?_, fun hord j k r r' hr hr' ↦ ?_, hm.sobrescrita.trans h.sobrescrita⟩
  · by_cases hj : j = i
    · subst hj
      exact hpendente row hrow
    · rw [hm.outras j hj] at hrow
      exact h.semLock j row hrow
  · obtain ⟨n, l, hn, hl⟩ := h.dono j r (hreservas j r hr)
    refine ⟨n, l, ?_, hl⟩
    by_cases hj : j = i
    · subst hj
      rw [(hreserva r hr).2, hn]
    · rw [hm.outras j hj, hn]
  · by_cases hj : j = i
    · subst hj
      exact hcarregado r t hr ht
    · rw [hm.outras j hj] at hr ht
      exact h.carregado j r t hr ht
  · obtain hold | hnone := hm.linhas row hrow
    · exact h.tomada j r row (hreservas j r hr) (hm.tomada j ht) hold hid
    · obtain ⟨n, l, -, hl, -⟩ := h.dono j r (hreservas j r hr)
      rw [hnone, hl]
      exact (Option.some_ne_none _).symm
  · rw [hm.relogio]
    obtain ⟨row, hrow, hrest⟩ := h.canonica (hm.emOrdem hord) j r (hreservas j r hr)
    exact ⟨row, hm.primeira hord row hrow, hrest⟩
  · rw [hm.relogio]
    exact h.exclusiva (hm.emOrdem hord) j k r r' (hreservas j r hr) (hreservas k r' hr')

theorem keeps_muda (h : Valido cfg w') (hm : Muda i w w') : (disciplina cfg).Keeps i w w' :=
  ⟨h, fun _ hj ↦ hm.tolera hj⟩

/-- Time passes. -/
theorem keeps_avancar (t : DateTime) (h : Valido cfg w) :
    (disciplina cfg).Keeps i w (w.avancar t) := by
  have hle := relogio_le_avancar t w
  have hold : ∀ c : Controle, c.vigente (w.avancar t).relogio = true →
      c.vigente w.relogio = true := fun c ↦ Controle.vigente_of_le hle
  refine ⟨⟨h.workers, h.distintos, h.semLock, h.dono, h.carregado, h.tomada, fun hord j r hr ↦ ?_,
    fun hord j k r r' hr hr' hv hv' ↦ h.exclusiva hord j k r r' hr hr' (hold _ hv) (hold _ hv'),
    h.sobrescrita⟩, fun j _ ↦ ⟨rfl, hle, fun h ↦ h, fun _ _ h ↦ h⟩⟩
  obtain ⟨row, hrow, hid, htitulo⟩ := h.canonica hord j r hr
  exact ⟨row, hrow, hid, fun hv ↦ htitulo (hold _ hv)⟩

/-! ## Commands -/

theorem muda_setSessao (w : Banco) (i : ℕ) (s : Sessao) : Muda i w (w.setSessao i s) :=
  .of_eq (fun _ hj ↦ Function.update_of_ne hj _ _) rfl rfl rfl rfl le_rfl fun _ h ↦ h

@[simp] theorem sessoes_setSessao_self (w : Banco) (i : ℕ) (s : Sessao) :
    (w.setSessao i s).sessoes i = s := Function.update_self ..

/-- Session `i` has no titles loaded any more; the rest of its record is the same. -/
theorem keeps_expirada (h : Valido cfg w) (hm : Muda i w w')
    (hsessao : w'.sessoes i = { w.sessoes i with titulos := fun _ ↦ none }) :
    (disciplina cfg).Keeps i w w' := by
  refine keeps_muda (h.muda hm (fun n hn ↦ ?_) (fun row hrow ↦ ?_) (fun r hr ↦ ?_)
    fun r t _ ht ↦ ?_) hm
  all_goals rw [hsessao] at *
  · exact hn
  · exact h.semLock i row hrow
  · exact ⟨hr, rfl⟩
  · cases ht

theorem keeps_carregar {row : Linha} (h : Valido cfg w)
    (hrow : ∀ r, (w.sessoes i).reserva = some r → r.linha = row.id → row.titulo = r.titulo) :
    (disciplina cfg).Keeps i w (w.carregar i row) := by
  have hm : Muda i w (w.carregar i row) := muda_setSessao w i _
  refine keeps_muda (h.muda hm (fun n hn ↦ ?_) (fun row' hrow' ↦ ?_) (fun r hr ↦ ?_)
    fun r t hr ht ↦ ?_) hm
  all_goals rw [Banco.carregar, sessoes_setSessao_self] at *
  · exact hn
  · exact h.semLock i row' hrow'
  · exact ⟨hr, rfl⟩
  · dsimp only at hr ht
    by_cases hid : r.linha = row.id
    · rw [hid, Function.update_self] at ht
      rw [← Option.some.inj ht]
      exact hrow r hr hid
    · rw [Function.update_of_ne hid] at ht
      exact h.carregado i r t hr ht

/-- The effect on a table on which the database does not fail. -/
abbrev Banco.depois (cfg : Config) (i : ℕ) (op : Cmd) (e : Env) (w : Banco) : Banco :=
  (efeito cfg.issueLink i op e w).1

theorem linha_id {id : ℕ} {row : Linha} (h : w.linha id = some row) : row.id = id :=
  Table.key_of_lookup h

theorem keeps_titulo {id : ℕ} {e : Env} (h : Valido cfg w) (hC : Confere w (i, .titulo id, e)) :
    (disciplina cfg).Keeps i w (w.depois cfg i (.titulo id) e) := by
  simp only [Banco.depois, efeito]
  split
  next => exact .same h
  next row hnone hrow =>
    refine keeps_carregar h fun r hr hid ↦ hC r hr (hid.trans (linha_id hrow)) hnone row hrow
  next => exact .same h

theorem keeps_refresh {id : ℕ} {e : Env} (h : Valido cfg w) (hC : Confere w (i, .refresh id, e)) :
    (disciplina cfg).Keeps i w (w.depois cfg i (.refresh id) e) := by
  simp only [Banco.depois, efeito]
  split
  next row hrow =>
    exact keeps_carregar h fun r hr hid ↦ hC r hr (hid.trans (linha_id hrow)) row hrow
  next => exact .same h

/-- A session without a lock may change its record, but not its identifier. -/
theorem keeps_livre {s : Sessao} (h : Valido cfg w) (hm : Muda i w w') (hs : w'.sessoes i = s)
    (hworker : ∀ n, s.worker = some n → (w.sessoes i).worker = some n)
    (hpendente : ∀ row, s.pendente = some row → row.titulo.lock = none)
    (hreserva : s.reserva = none) :
    (disciplina cfg).Keeps i w w' := by
  subst hs
  refine keeps_muda (h.muda hm hworker hpendente (fun r hr ↦ ?_) fun r t hr _ ↦ ?_) hm
  all_goals
    rw [hreserva] at hr
    cases hr

theorem keeps_abrir {e : Env} (h : Valido cfg w) :
    (disciplina cfg).Keeps i w (w.depois cfg i .abrir e) := by
  have hm : Muda i w (w.depois cfg i .abrir e) := by
    refine .of_eq (fun _ hj ↦ Function.update_of_ne hj _ _) rfl rfl rfl rfl le_rfl fun j hj ↦ ?_
    by_cases hji : j = i
    · subst hji
      simp only [Banco.depois, efeito, Function.update_self] at hj
      cases hj
    · simpa only [Banco.depois, efeito, Function.update_of_ne hji] using hj
  refine keeps_livre h hm (Function.update_self ..) (fun n hn ↦ ?_) (fun row hrow ↦ ?_) rfl
  · cases hn
  · cases hrow

theorem keeps_controlLinks {e : Env} (h : Valido cfg w) (hlivre : (w.sessoes i).reserva = none) :
    (disciplina cfg).Keeps i w (w.depois cfg i .controlLinks e) :=
  keeps_livre h (muda_setSessao w i _) (Function.update_self ..) (fun _ hn ↦ hn) (h.semLock i)
    hlivre

theorem keeps_inserir {e : Env} {titulo : Controle} (h : Valido cfg w)
    (hlivre : (w.sessoes i).reserva = none) (htitulo : titulo.lock = none) :
    (disciplina cfg).Keeps i w (w.depois cfg i (.inserir titulo) e) := by
  refine keeps_livre h (.of_eq (fun _ hj ↦ Function.update_of_ne hj _ _) rfl rfl rfl rfl le_rfl
    fun _ h ↦ h) (Function.update_self ..) (fun _ hn ↦ hn) (fun row hrow ↦ ?_) hlivre
  rw [← Option.some.inj hrow]
  exact htitulo

/-- A fresh identifier. -/
theorem keeps_uuid4 {e : Env} (h : Valido cfg w) (hlivre : (w.sessoes i).reserva = none) :
    (disciplina cfg).Keeps i w (w.depois cfg i .uuid4 e) := by
  have hself : (w.depois cfg i .uuid4 e).sessoes i = { w.sessoes i with worker := some w.uuids } :=
    Function.update_self ..
  have hother : ∀ j, j ≠ i → (w.depois cfg i .uuid4 e).sessoes j = w.sessoes j :=
    fun j hj ↦ Function.update_of_ne hj _ _
  have hreserva : ∀ j r, ((w.depois cfg i .uuid4 e).sessoes j).reserva = some r →
      j ≠ i ∧ (w.sessoes j).reserva = some r := by
    intro j r hr
    by_cases hj : j = i
    · subst hj
      rw [hself] at hr
      rw [hlivre] at hr
      cases hr
    · rw [hother j hj] at hr
      exact ⟨hj, hr⟩
  have hworker : ∀ j n, ((w.depois cfg i .uuid4 e).sessoes j).worker = some n →
      (j = i ∧ n = w.uuids) ∨ (j ≠ i ∧ (w.sessoes j).worker = some n) := by
    intro j n hn
    by_cases hj : j = i
    · subst hj
      rw [hself] at hn
      exact .inl ⟨rfl, (Option.some.inj hn).symm⟩
    · rw [hother j hj] at hn
      exact .inr ⟨hj, hn⟩
  refine ⟨⟨fun j n hn ↦ ?_, fun j k n hj hk ↦ ?_, fun j row hrow ↦ ?_, fun j r hr ↦ ?_,
    fun j r t hr ht ↦ ?_, fun j r row hr ↦ h.tomada j r row (hreserva j r hr).2,
    fun hord j r hr ↦ h.canonica hord j r (hreserva j r hr).2,
    fun hord j k r r' hr hr' ↦ h.exclusiva hord j k r r' (hreserva j r hr).2 (hreserva k r' hr').2,
    h.sobrescrita⟩, fun j hj ↦ ⟨hother j hj, le_refl_dateTime _, fun h ↦ h, fun _ _ h ↦ h⟩⟩
  · change n < w.uuids + 1
    obtain ⟨-, rfl⟩ | ⟨-, hold⟩ := hworker j n hn
    · exact Nat.lt_succ_self _
    · exact (h.workers j n hold).trans (Nat.lt_succ_self _)
  · obtain ⟨hj, hnj⟩ | ⟨-, hj⟩ := hworker j n hj
    · obtain ⟨hk, -⟩ | ⟨-, hk⟩ := hworker k n hk
      · rw [hj, hk]
      · exact absurd (h.workers k n hk) (hnj ▸ Nat.lt_irrefl _)
    · obtain ⟨-, hnk⟩ | ⟨-, hk⟩ := hworker k n hk
      · exact absurd (h.workers j n hj) (hnk ▸ Nat.lt_irrefl _)
      · exact h.distintos j k n hj hk
  · by_cases hj : j = i
    · subst hj
      rw [hself] at hrow
      exact h.semLock j row hrow
    · rw [hother j hj] at hrow
      exact h.semLock j row hrow
  · obtain ⟨hj, hr⟩ := hreserva j r hr
    rw [hother j hj]
    exact h.dono j r hr
  · obtain ⟨hj, hr⟩ := hreserva j r hr
    rw [hother j hj] at ht
    exact h.carregado j r t hr ht

/-! ### The control rows -/

theorem orderedInsert_of_forall_lt {row : Linha} {l : List Linha} (h : ∀ r ∈ l, r.id < row.id) :
    l.orderedInsert (fun r r' ↦ r.id ≤ r'.id) row = l ++ [row] := by
  induction l with
  | nil => rfl
  | cons r l ih =>
    obtain ⟨hr, hl⟩ := List.forall_mem_cons.mp h
    rw [List.orderedInsert, if_neg (Nat.not_le.mpr hr), ih hl, List.cons_append]

theorem head?_append_of_some {α : Type} {l l' : List α} {a : α} (h : l.head? = some a) :
    (l ++ l').head? = some a := by
  rw [List.head?_append, h]
  rfl

theorem keeps_commit {e : Env} (h : Valido cfg w) (hlivre : (w.sessoes i).reserva = none) :
    (disciplina cfg).Keeps i w (w.depois cfg i .commit e) := by
  simp only [Banco.depois, efeito, Banco.publicar]
  split
  next => exact keeps_expirada h (muda_setSessao w i _) (sessoes_setSessao_self ..)
  next row hrow =>
    refine keeps_livre h ?_ (Function.update_self ..) (fun _ hn ↦ hn) (fun _ h ↦ ?_) hlivre
    · refine ⟨fun _ hj ↦ Function.update_of_ne hj _ _, fun r hr ↦ ?_, rfl, fun hord ↦ ?_,
        fun hord r hr ↦ ?_, rfl, le_rfl, fun _ h ↦ h⟩
      · obtain rfl | hr := (List.mem_orderedInsert ..).mp hr
        · exact .inr (h.semLock i _ hrow)
        · exact .inl hr
      · exact ((Bool.and_eq_true _ _).mp hord).1
      · have hall := List.all_eq_true.mp ((Bool.and_eq_true _ _).mp hord).2
        dsimp only
        rw [orderedInsert_of_forall_lt fun r hr ↦ of_decide_eq_true (hall r hr)]
        exact head?_append_of_some hr
    · cases h

/-- What a session knows of the row that counts. -/
def Canonico (id : ℕ) (w : Banco) : Prop := w.emOrdem = true → w.cabeca = some id

theorem keeps_excluir {e : Env} {id canonical : ℕ} (h : Valido cfg w) (hne : canonical ≠ id)
    (hcanonico : Canonico canonical w) :
    (disciplina cfg).Keeps i w (w.depois cfg i (.excluir id) e) := by
  refine keeps_expirada h ?_ (sessoes_setSessao_self ..)
  refine ⟨fun _ hj ↦ Function.update_of_ne hj _ _, fun r hr ↦ .inl (List.mem_of_mem_filter hr), rfl,
    fun hord ↦ hord, fun hord row hrow ↦ ?_, rfl, le_rfl, fun _ h ↦ h⟩
  have hid := hcanonico hord
  rw [Banco.cabeca, hrow] at hid
  obtain ⟨l, hl⟩ := List.head?_eq_some_iff.mp hrow
  have hkeep : row.id ≠ id := Option.some.inj hid ▸ hne
  change (w.controles.filter _).head? = _
  rw [hl, List.filter_cons, if_pos (decide_eq_true hkeep)]
  rfl

/-! ### The lock -/

theorem head?_gravar (w : Banco) (id : ℕ) (titulo : Controle) :
    (w.gravar id titulo).controles.head?
      = w.controles.head?.map fun r ↦ if r.id = id then { r with titulo := titulo } else r := by
  rw [Banco.gravar, Table.update, List.head?_map]

theorem cabeca_gravar (w : Banco) (id : ℕ) (titulo : Controle) :
    (w.gravar id titulo).cabeca = w.cabeca := by
  rw [Banco.cabeca, head?_gravar, Banco.cabeca, Option.map_map]
  refine congrArg (Option.map · _) (funext fun r ↦ ?_)
  simp only [Function.comp_apply]
  split <;> rfl

/-- The row that counts is found by its number. -/
theorem linha_of_head? {row : Linha} (h : w.controles.head? = some row) :
    w.linha row.id = some row := by
  obtain ⟨l, hl⟩ := List.head?_eq_some_iff.mp h
  rw [Banco.linha, Table.lookup, hl]
  exact List.find?_cons_of_pos (decide_eq_true rfl)

/-- All locks are in the row that counts. -/
theorem Valido.linha_eq (h : Valido cfg w) {link : ℕ} (hord : w.emOrdem = true)
    (hlink : Canonico link w) {r : Reserva} (hr : (w.sessoes i).reserva = some r) :
    ∃ row, w.controles.head? = some row ∧ row.id = link ∧ r.linha = link ∧
      w.linha link = some row ∧ (r.titulo.vigente w.relogio = true → row.titulo = r.titulo) := by
  obtain ⟨row, hrow, hid, hv⟩ := h.canonica hord i r hr
  have hcabeca := hlink hord
  rw [Banco.cabeca, hrow] at hcabeca
  have hrowid : row.id = link := Option.some.inj hcabeca
  exact ⟨row, hrow, hrowid, hid ▸ hrowid, hrowid ▸ linha_of_head? hrow, hv⟩

/-- Two locks with the same title are of one session. -/
theorem Valido.sessao_unica (h : Valido cfg w) {j : ℕ} {r r' : Reserva}
    (hr : (w.sessoes i).reserva = some r) (hr' : (w.sessoes j).reserva = some r')
    (heq : r.titulo = r'.titulo) : i = j := by
  obtain ⟨n, l, hn, hl, hnome⟩ := h.dono i r hr
  obtain ⟨m, l', hm, hl', hnome'⟩ := h.dono j r' hr'
  rw [← heq, hl] at hl'
  cases hl'
  exact h.distintos i j n hn (nome_injective cfg (hnome.symm.trans hnome') ▸ hm)

theorem mem_gravar {id : ℕ} {titulo : Controle} {row : Linha}
    (h : row ∈ (w.gravar id titulo).controles) :
    (row ∈ w.controles ∧ row.id ≠ id) ∨ row.id = id ∧ row.titulo = titulo := by
  obtain ⟨r, hr, rfl⟩ := List.mem_map.mp h
  by_cases hid : r.id = id
  · rw [if_pos hid]
    exact .inr ⟨hid, rfl⟩
  · rw [if_neg hid]
    exact .inl ⟨hr, hid⟩

/-- Nobody else has a lock that has not expired when the row that counts has none. -/
theorem Valido.vencida (h : Valido cfg w) {link : ℕ} {titulo : Controle} {row : Linha}
    (hord : w.emOrdem = true) (hlink : Canonico link w) (hrow : w.linha link = some row)
    (htitulo : row.titulo = titulo) (hvencido : titulo.vigente w.relogio = false) {j : ℕ}
    {r : Reserva} (hr : (w.sessoes j).reserva = some r) : r.titulo.vigente w.relogio ≠ true := by
  intro hv
  obtain ⟨row', -, -, -, hrow', heq⟩ := h.linha_eq hord hlink hr
  rw [hrow] at hrow'
  cases hrow'
  rw [← heq hv, htitulo, hvencido] at hv
  cases hv

theorem linha_of_encontrada {id : ℕ} {titulo : Controle}
    (h : (w.linha id).any (·.titulo = titulo) = true) :
    ∃ row, w.linha id = some row ∧ row.titulo = titulo := by
  obtain ⟨row, hrow, htitulo⟩ := (Option.any_eq_true _ _).mp h
  exact ⟨row, hrow, of_decide_eq_true htitulo⟩

/-- Session `i` writes the row `link`. -/
structure Grava (i link : ℕ) (control : Controle) (w w' : Banco) : Prop where
  outras : ∀ j, j ≠ i → w'.sessoes j = w.sessoes j
  worker : (w'.sessoes i).worker = (w.sessoes i).worker
  pendente : (w'.sessoes i).pendente = (w.sessoes i).pendente
  titulos : ∀ id, (w'.sessoes i).titulos id = none
  controles : w'.controles = (w.gravar link control).controles
  relogio : w'.relogio = w.relogio
  emOrdem : w'.emOrdem = w.emOrdem
  uuids : w'.uuids = w.uuids
  sobrescrita : w'.sobrescrita = false

section Grava

variable {link : ℕ} {control : Controle}

theorem Grava.workers (hg : Grava i link control w w') (j : ℕ) :
    (w'.sessoes j).worker = (w.sessoes j).worker := by
  by_cases hj : j = i
  · rw [hj, hg.worker]
  · rw [hg.outras j hj]

theorem Grava.pendentes (hg : Grava i link control w w') (j : ℕ) :
    (w'.sessoes j).pendente = (w.sessoes j).pendente := by
  by_cases hj : j = i
  · rw [hj, hg.pendente]
  · rw [hg.outras j hj]

theorem Grava.tolera (hg : Grava i link control w w') {j : ℕ} (hj : j ≠ i) : Tolera j w w' where
  sessao := hg.outras j hj
  relogio := hg.relogio ▸ le_refl_dateTime _
  emOrdem hord := hg.emOrdem ▸ hord
  cabeca _ id hid := by
    rw [Banco.cabeca, hg.controles]
    exact (cabeca_gravar w link control).trans hid

/-- The row that counts after it is written. -/
theorem Grava.head? (hg : Grava i link control w w') (hord : w.emOrdem = true)
    (hlink : Canonico link w) : w'.controles.head? = some ⟨link, control⟩ := by
  obtain ⟨row, hrow, hid⟩ := Option.map_eq_some_iff.mp (hlink hord)
  rw [hg.controles, head?_gravar, hrow, Option.map_some, if_pos hid, ← hid]

theorem keeps_grava (h : Valido cfg w) (hg : Grava i link control w w') (hlink : Canonico link w)
    (hdono : ∀ r, (w'.sessoes i).reserva = some r → ∃ n l, (w.sessoes i).worker = some n ∧
      r.titulo.lock = some l ∧ l.owner = nome cfg n)
    (htomada : ∀ j r, (w'.sessoes j).reserva = some r → w'.tomada j = true → r.linha ≠ link →
      w.tomada j = true)
    (hdiferente : ∀ j r, (w'.sessoes j).reserva = some r → w'.tomada j = true → j ≠ i ∧
      control.lock.map Lock.owner ≠ r.titulo.lock.map Lock.owner)
    (hcanonica : w.emOrdem = true → ∀ j r, (w'.sessoes j).reserva = some r →
      r.linha = link ∧ (r.titulo.vigente w.relogio = true → control = r.titulo))
    (hexclusiva : w.emOrdem = true → ∀ j k r r', (w'.sessoes j).reserva = some r →
      (w'.sessoes k).reserva = some r' → r.titulo.vigente w.relogio = true →
      r'.titulo.vigente w.relogio = true → j = k) : (disciplina cfg).Keeps i w w' := by
  refine ⟨⟨fun j n hn ↦ ?_, fun j k n hj hk ↦ ?_, fun j row hrow ↦ ?_, fun j r hr ↦ ?_,
    fun j r t hr ht ↦ ?_, fun j r row hr ht hrow hid ↦ ?_, fun hord j r hr ↦ ?_, ?_,
    hg.sobrescrita⟩, fun j hj ↦ hg.tolera hj⟩
  · rw [hg.uuids]
    exact h.workers j n (hg.workers j ▸ hn)
  · exact h.distintos j k n (hg.workers j ▸ hj) (hg.workers k ▸ hk)
  · exact h.semLock j row (hg.pendentes j ▸ hrow)
  · rw [hg.workers]
    by_cases hj : j = i
    · subst hj
      exact hdono r hr
    · rw [hg.outras j hj] at hr
      exact h.dono j r hr
  · by_cases hj : j = i
    · subst hj
      rw [hg.titulos] at ht
      cases ht
    · rw [hg.outras j hj] at hr ht
      exact h.carregado j r t hr ht
  · obtain ⟨hj, hne⟩ := hdiferente j r hr ht
    obtain ⟨hmem, hother⟩ | ⟨-, htitulo⟩ := mem_gravar (hg.controles ▸ hrow)
    · have ht' := htomada j r hr ht (hid ▸ hother)
      rw [hg.outras j hj] at hr
      exact h.tomada j r row hr ht' hmem hid
    · rw [htitulo]
      exact hne
  · have hord' := hg.emOrdem ▸ hord
    obtain ⟨hlinha, hv⟩ := hcanonica hord' j r hr
    exact ⟨⟨link, control⟩, hg.head? hord' hlink, hlinha.symm, hg.relogio ▸ hv⟩
  · rw [hg.emOrdem, hg.relogio]
    exact hexclusiva

end Grava

/-- The table after session `i` has written its lock. -/
def Banco.travado (w : Banco) (i link : ℕ) (control : Controle) : Banco :=
  ((w.gravar link control).adquirir i link control).expirar i

section Travado

variable {link : ℕ} {control : Controle}

theorem travado_sessoes_self : (w.travado i link control).sessoes i
    = { w.sessoes i with titulos := fun _ ↦ none, reserva := some ⟨link, control⟩ } := by
  rw [Banco.travado, Banco.expirar, sessoes_setSessao_self, Banco.adquirir]
  dsimp only
  rw [sessoes_setSessao_self]
  rfl

theorem travado_sessoes_of_ne {j : ℕ} (hj : j ≠ i) :
    (w.travado i link control).sessoes j = w.sessoes j :=
  (Function.update_of_ne hj _ _).trans (Function.update_of_ne hj _ _)

theorem travado_reserva {j : ℕ} {r : Reserva}
    (hr : ((w.travado i link control).sessoes j).reserva = some r) :
    (j = i ∧ r = ⟨link, control⟩) ∨ j ≠ i ∧ (w.sessoes j).reserva = some r := by
  by_cases hj : j = i
  · subst hj
    rw [travado_sessoes_self] at hr
    exact .inl ⟨rfl, (Option.some.inj hr).symm⟩
  · rw [travado_sessoes_of_ne hj] at hr
    exact .inr ⟨hj, hr⟩

theorem travado_tomada {j : ℕ} (hj : (w.travado i link control).tomada j = true) :
    j ≠ i ∧ (w.tomada j = true ∨ w.reservou j link = true) := by
  obtain ⟨hne, hor⟩ := (Bool.and_eq_true _ _).mp hj
  exact ⟨of_decide_eq_true hne, (Bool.or_eq_true _ _).mp hor⟩

theorem grava_travado (h : w.sobrescrita = false) :
    Grava i link control w (w.travado i link control) where
  outras _ hj := travado_sessoes_of_ne hj
  worker := by rw [travado_sessoes_self]
  pendente := by rw [travado_sessoes_self]
  titulos _ := by rw [travado_sessoes_self]
  controles := rfl
  relogio := rfl
  emOrdem := rfl
  uuids := rfl
  sobrescrita := h

end Travado

/-- The lock is taken from a row without one that has not expired. -/
theorem keeps_adquirir {e : Env} {link n : ℕ} {rawBefore control : Controle}
    (h : Valido cfg w) (hlink : Canonico link w) (hworker : (w.sessoes i).worker = some n)
    (howner : control.lock.map Lock.owner = some (nome cfg n))
    (hvencido : rawBefore.vigente w.relogio = false) :
    (disciplina cfg).Keeps i w (w.depois cfg i (.swap .adquirir link rawBefore control) e) := by
  obtain ⟨l, hlock, howner⟩ := Option.map_eq_some_iff.mp howner
  simp only [Banco.depois, efeito]
  by_cases hfound : (w.linha link).any (·.titulo = rawBefore) = true
  · obtain ⟨row, hrow, htitulo⟩ := linha_of_encontrada hfound
    simp only [hfound, if_true]
    change (disciplina cfg).Keeps i w (w.travado i link control)
    have hvenceu : w.emOrdem = true → ∀ {j r}, (w.sessoes j).reserva = some r →
        r.titulo.vigente w.relogio = true → False := fun hord _ _ hr hv ↦
      h.vencida hord hlink hrow htitulo hvencido hr hv
    refine keeps_grava h (grava_travado h.sobrescrita) hlink (fun r hr ↦ ?_)
      (fun j r hr ht hne ↦ ?_) (fun j r hr ht ↦ ?_) (fun hord j r hr ↦ ?_)
      fun hord j k r r' hr hr' hv hv' ↦ ?_
    · obtain ⟨-, rfl⟩ | ⟨hne, -⟩ := travado_reserva hr
      · exact ⟨n, l, hworker, hlock, howner⟩
      · exact absurd rfl hne
    · obtain ⟨hj, htomada | hreservou⟩ := travado_tomada ht
      · exact htomada
      · rw [travado_sessoes_of_ne hj] at hr
        rw [Banco.reservou, hr] at hreservou
        exact absurd (of_decide_eq_true hreservou) hne
    · obtain ⟨hj, -⟩ := travado_tomada ht
      rw [travado_sessoes_of_ne hj] at hr
      obtain ⟨m, l', hm, hl', hnome⟩ := h.dono j r hr
      refine ⟨hj, ?_⟩
      rw [hlock, hl', Option.map_some, Option.map_some, howner, hnome]
      intro heq
      exact hj (h.distintos j i n (nome_injective cfg (Option.some.inj heq) ▸ hm) hworker)
    · obtain ⟨-, rfl⟩ | ⟨-, hold⟩ := travado_reserva hr
      · exact ⟨rfl, fun _ ↦ rfl⟩
      · obtain ⟨-, -, -, hlinha, -⟩ := h.linha_eq hord hlink hold
        exact ⟨hlinha, fun hv ↦ (hvenceu hord hold hv).elim⟩
    · obtain ⟨hj, -⟩ | ⟨-, hold⟩ := travado_reserva hr
      · obtain ⟨hk, -⟩ | ⟨-, hold⟩ := travado_reserva hr'
        · rw [hj, hk]
        · exact (hvenceu hord hold hv').elim
      · exact (hvenceu hord hold hv).elim
  · simp only [Bool.not_eq_true] at hfound
    simp only [hfound, Bool.false_eq_true, if_false]
    exact keeps_expirada h (muda_setSessao w i _) (sessoes_setSessao_self ..)

/-- The table after session `i` has written the row and given its lock back. -/
def Banco.destravado (w : Banco) (i link : ℕ) (control : Controle) : Banco :=
  { ((w.gravar link control).devolver i) with sobrescrita := false }.expirar i

section Destravado

variable {link : ℕ} {control : Controle}

theorem destravado_sessoes_self : (w.destravado i link control).sessoes i
    = { w.sessoes i with titulos := fun _ ↦ none, reserva := none } := by
  rw [Banco.destravado, Banco.expirar, sessoes_setSessao_self, Banco.devolver]
  dsimp only
  rw [sessoes_setSessao_self]
  rfl

theorem destravado_sessoes_of_ne {j : ℕ} (hj : j ≠ i) :
    (w.destravado i link control).sessoes j = w.sessoes j :=
  (Function.update_of_ne hj _ _).trans (Function.update_of_ne hj _ _)

theorem destravado_reserva {j : ℕ} {r : Reserva}
    (hr : ((w.destravado i link control).sessoes j).reserva = some r) :
    j ≠ i ∧ (w.sessoes j).reserva = some r := by
  by_cases hj : j = i
  · subst hj
    rw [destravado_sessoes_self] at hr
    cases hr
  · rw [destravado_sessoes_of_ne hj] at hr
    exact ⟨hj, hr⟩

theorem grava_destravado : Grava i link control w (w.destravado i link control) where
  outras _ hj := destravado_sessoes_of_ne hj
  worker := by rw [destravado_sessoes_self]
  pendente := by rw [destravado_sessoes_self]
  titulos _ := by rw [destravado_sessoes_self]
  controles := rfl
  relogio := rfl
  emOrdem := rfl
  uuids := rfl
  sobrescrita := rfl

end Destravado

/-- A session whose lock was taken over does not find its title. -/
theorem Valido.nao_tomada (h : Valido cfg w) {r : Reserva} {row : Linha}
    (hr : (w.sessoes i).reserva = some r) (hrow : w.linha r.linha = some row)
    (htitulo : row.titulo = r.titulo) : w.tomada i = false := by
  rw [← Bool.not_eq_true]
  intro ht
  refine h.tomada i r row hr ht (Table.mem_of_lookup hrow) (linha_id hrow) ?_
  rw [htitulo]

/-- **The lock is given back** by the session that has it, or nothing is written. -/
theorem keeps_devolver {e : Env} {link : ℕ} {control control' : Controle} (h : Valido cfg w)
    (hlink : Canonico link w) (hreserva : (w.sessoes i).reserva = some ⟨link, control⟩)
    (hlock : control'.lock = none) :
    (disciplina cfg).Keeps i w (w.depois cfg i (.swap .devolver link control control') e) := by
  simp only [Banco.depois, efeito]
  by_cases hfound : (w.linha link).any (·.titulo = control) = true
  · obtain ⟨row, hrow, htitulo⟩ := linha_of_encontrada hfound
    have htomada : w.tomada i = false := h.nao_tomada hreserva hrow htitulo
    simp only [hfound, if_true, htomada, Bool.and_false, h.sobrescrita, Bool.or_false]
    change (disciplina cfg).Keeps i w (w.destravado i link control')
    have hvenceu : w.emOrdem = true → ∀ {j r}, j ≠ i → (w.sessoes j).reserva = some r →
        r.titulo.vigente w.relogio = true → False := by
      intro hord j r hj hr hv
      obtain ⟨row', -, -, -, hrow', heq⟩ := h.linha_eq hord hlink hr
      rw [hrow] at hrow'
      cases hrow'
      exact hj (h.sessao_unica hr hreserva ((heq hv).symm.trans htitulo))
    have hdono : ∀ {j r}, (w.sessoes j).reserva = some r →
        control'.lock.map Lock.owner ≠ r.titulo.lock.map Lock.owner := by
      intro j r hr
      obtain ⟨m, l, -, hl, -⟩ := h.dono j r hr
      rw [hlock, hl]
      exact (Option.some_ne_none _).symm
    refine keeps_grava h grava_destravado hlink (fun r hr ↦ ?_)
      (fun j r _ ht _ ↦ ht) (fun j r hr _ ↦ ?_) (fun hord j r hr ↦ ?_)
      fun hord j k r r' hr hr' hv hv' ↦ ?_
    · exact absurd rfl (destravado_reserva hr).1
    · obtain ⟨hj, hold⟩ := destravado_reserva hr
      exact ⟨hj, hdono hold⟩
    · obtain ⟨hj, hold⟩ := destravado_reserva hr
      obtain ⟨-, -, -, hlinha, -⟩ := h.linha_eq hord hlink hold
      exact ⟨hlinha, fun hv ↦ (hvenceu hord hj hold hv).elim⟩
    · exact h.exclusiva hord j k r r' (destravado_reserva hr).2 (destravado_reserva hr').2 hv hv'
  · simp only [Bool.not_eq_true] at hfound
    simp only [hfound, Bool.false_eq_true, if_false, Bool.false_and, Bool.or_false]
    refine keeps_livre (s := { w.sessoes i with titulos := fun _ ↦ none, reserva := none }) h
      (.of_eq (fun _ hj ↦ ?_) rfl rfl rfl rfl le_rfl fun _ h ↦ h) ?_ (fun _ hn ↦ hn) (h.semLock i)
      rfl
    · exact (Function.update_of_ne hj _ _).trans (Function.update_of_ne hj _ _)
    · rw [Banco.expirar, sessoes_setSessao_self, Banco.devolver]
      dsimp only
      rw [sessoes_setSessao_self]

end RedmineLifecycle

end ReqSys
