import ReqSys.Foundation.Obligations
import ReqSys.Foundation.RelyGuarantee
import ReqSys.TokenBroker.Provider

/-!
# Token broker: every refresh token is presented once

A call presents the stored refresh token inside its transaction, and stores the one it gets before
the transaction ends. No other transaction can begin in between, so none sees the token that GitHub
has invalidated. This is a discipline in the sense of `Discipline`: while a transaction is open the
others leave the store and GitHub alone, and whenever none is open the stored token is good.

`rotacao_of_run` collects what follows for every run: no token is presented twice, the stored token
is good after every commit, what is returned is what was stored, and a call that raises changes
nothing.
-/

namespace ReqSys

namespace TokenBroker

namespace Provider

open Program Discipline

variable {gh : GitHub} {cfg : Config}

/-! ## GitHub -/

/-- What GitHub knows is about tokens it has issued, and no token is good after it was presented. -/
structure Regular (gh : GitHub) (g : Registro) : Prop where
  vivos : ∀ t ∈ g.vivos, ∃ k < g.emitidos, t = gh.refreshToken k
  apresentados : ∀ t ∈ g.apresentados, (∃ k < g.emitidos, t = gh.refreshToken k) ∧ t ∉ g.vivos
  nodup : g.apresentados.Nodup

theorem apresentar_eq {g : Registro} {t : String} (ht : t ∈ g.vivos) :
    g.apresentar gh t = ({ emitidos := g.emitidos + 1
                           vivos := g.vivos.filter (· ≠ t) ++ [gh.refreshToken g.emitidos]
                           apresentados := g.apresentados ++ [t] },
      ⟨200, some (gh.par g.emitidos).toJson⟩) := by
  rw [Registro.apresentar, if_pos ht]

/-- **A token that is good** is invalidated, and the new one is good. -/
theorem Regular.apresentar {g : Registro} (h : Regular gh g) {t : String} (ht : t ∈ g.vivos) :
    Regular gh (g.apresentar gh t).1 ∧
      gh.refreshToken g.emitidos ∈ (g.apresentar gh t).1.vivos := by
  have hnovo : ∀ {k : ℕ}, k < g.emitidos → gh.refreshToken k ≠ gh.refreshToken g.emitidos :=
    fun hk heq ↦ hk.ne (gh.refreshToken_injective heq)
  have hold : ∀ {x : String}, (∃ k < g.emitidos, x = gh.refreshToken k) →
      ∃ k < g.emitidos + 1, x = gh.refreshToken k :=
    fun ⟨k, hk, hx⟩ ↦ ⟨k, hk.trans (Nat.lt_succ_self _), hx⟩
  rw [apresentar_eq ht]
  refine ⟨⟨fun x hx ↦ ?_, fun x hx ↦ ?_, ?_⟩, List.mem_append_right _ (List.mem_singleton_self _)⟩
  · obtain hx | hx := List.mem_append.mp hx
    · exact hold (h.vivos x (List.mem_of_mem_filter hx))
    · exact ⟨g.emitidos, Nat.lt_succ_self _, List.mem_singleton.mp hx⟩
  · have hdead : ∀ {y : String}, (∃ k < g.emitidos, y = gh.refreshToken k) →
        y ∉ g.vivos.filter (· ≠ t) →
        (∃ k < g.emitidos + 1, y = gh.refreshToken k) ∧
          y ∉ g.vivos.filter (· ≠ t) ++ [gh.refreshToken g.emitidos] := by
      intro y hy hfilter
      refine ⟨hold hy, fun hmem ↦ ?_⟩
      obtain hmem | hmem := List.mem_append.mp hmem
      · exact hfilter hmem
      · obtain ⟨k, hk, rfl⟩ := hy
        exact hnovo hk (List.mem_singleton.mp hmem)
    obtain hx | hx := List.mem_append.mp hx
    · obtain ⟨hissued, hx⟩ := h.apresentados x hx
      exact hdead hissued fun hmem ↦ hx (List.mem_of_mem_filter hmem)
    · obtain rfl := List.mem_singleton.mp hx
      refine hdead (h.vivos x ht) fun hmem ↦ ?_
      exact of_decide_eq_true (List.mem_filter.mp hmem).2 rfl
  · refine List.nodup_append.mpr ⟨h.nodup, List.nodup_singleton t, fun x hx y hy heq ↦ ?_⟩
    rw [List.mem_singleton.mp hy] at heq
    exact (h.apresentados x hx).2 (heq ▸ ht)

/-! ## The discipline -/

/-- The refresh token of the row is good. -/
def Vivo (w : Mundo) (row : Option TokenState) : Prop :=
  ∀ r ∈ row, r.refreshToken ∈ w.github.vivos

/-- The invariant of the world. -/
structure Valido (gh : GitHub) (w : Mundo) : Prop where
  regular : Regular gh w.github
  /-- The stored token is good whenever no transaction is open. -/
  livre : w.transaction = none → Vivo w w.row
  /-- What the broker may be seeded with is good until it is seeded. -/
  inicial : w.row = none → ∀ k < gh.autorizados, gh.refreshToken k ∈ w.github.vivos

/-- What call `i` relies on: while its transaction is open, the others do nothing. -/
structure Respeita (i : ℕ) (w w' : Mundo) : Prop where
  aberta : ∀ vista, w.transaction = some (i, vista) →
    w'.transaction = some (i, vista) ∧ w'.row = w.row ∧ w'.github = w.github
  ultimoCommit : w'.ultimoCommit i = w.ultimoCommit i

/-- The discipline of the transactions. -/
def disciplina (gh : GitHub) : Discipline (machine gh) where
  I := Valido gh
  R := Respeita
  refl _ _ := ⟨fun _ h ↦ ⟨h, rfl, rfl⟩, rfl⟩
  trans h h' :=
    ⟨fun vista hv ↦
      have ⟨ht, hrow, hgithub⟩ := h.aberta vista hv
      have ⟨ht', hrow', hgithub'⟩ := h'.aberta vista ht
      ⟨ht', hrow'.trans hrow, hgithub'.trans hgithub⟩,
      h'.ultimoCommit.trans h.ultimoCommit⟩

section Commands

variable {i : ℕ} {w w' : Mundo} {vista : Option TokenState}

/-- What a call does in its own transaction does not concern the others. -/
theorem keeps_aberta (ht : w.transaction = some (i, vista)) (hI : Valido gh w')
    (hcommit : ∀ j, j ≠ i → w'.ultimoCommit j = w.ultimoCommit j) :
    (disciplina gh).Keeps i w w' := by
  refine ⟨hI, fun j hj ↦ ⟨fun v hv ↦ ?_, hcommit j hj⟩⟩
  rw [ht] at hv
  cases hv
  exact absurd rfl hj

/-- A new transaction, if none is open. -/
theorem begin_cases (gh : GitHub) (i : ℕ) (e : Env) (w : Mundo) :
    (∃ x, exec gh i .begin e w = (w, .error x)) ∨
    w.transaction = none ∧
      exec gh i .begin e w = ({ w with transaction := some (i, w.row) }, .ok ()) := by
  rcases hfalha : e.falha with _ | x
  · rcases ht : w.transaction with _ | v
    · exact .inr ⟨rfl, by simp only [exec, hfalha, ht]⟩
    · exact .inl ⟨.sqlite "database is locked", by simp only [exec, hfalha, ht]⟩
  · exact .inl ⟨x, by simp only [exec, hfalha]⟩

theorem begin_keeps (hI : Valido gh w) (e : Env) :
    (disciplina gh).Keeps i w (exec gh i .begin e w).1 := by
  obtain ⟨x, hx⟩ | ⟨hnone, hx⟩ := begin_cases gh i e w
  · rw [hx]
    exact .same hI
  · rw [hx]
    refine ⟨⟨hI.regular, fun h ↦ (nomatch h), hI.inicial⟩, fun j hj ↦ ⟨fun v hv ↦ ?_, rfl⟩⟩
    rw [hnone] at hv
    cases hv

theorem select_store (gh : GitHub) (i : ℕ) (e : Env) (w : Mundo) :
    (exec gh i .select e w).1 = w := by
  simp only [exec]
  split <;> rfl

theorem select_ok (gh : GitHub) {e : Env} (ht : w.transaction = some (i, vista))
    {a : Option TokenState} (h : (exec gh i .select e w).2 = .ok a) : a = vista := by
  simp only [exec] at h
  split at h
  next hv =>
    rw [ht] at hv
    cases hv
    exact (Except.ok.inj h).symm
  next hv =>
    rw [ht] at hv
    cases hv
  next => cases h

/-- The transaction is rolled back while the stored token is good. -/
theorem rollback_keeps (hI : Valido gh w) (ht : w.transaction = some (i, vista))
    (hvivo : Vivo w w.row) (e : Env) : (disciplina gh).Keeps i w (exec gh i .rollback e w).1 :=
  keeps_aberta ht ⟨hI.regular, fun _ ↦ hvivo, hI.inicial⟩ fun _ _ ↦ rfl

theorem replace_keeps (hI : Valido gh w) (ht : w.transaction = some (i, vista))
    (state : TokenState) (e : Env) :
    (disciplina gh).Keeps i w (exec gh i (.replace state) e w).1 :=
  keeps_aberta ht ⟨hI.regular, fun h ↦ (nomatch h), hI.inicial⟩ fun _ _ ↦ rfl

theorem commit_eq (ht : w.transaction = some (i, vista)) (e : Env) :
    exec gh i .commit e w = ({ w with
      row := vista
      transaction := none
      ultimoCommit := Function.update w.ultimoCommit i vista }, .ok ()) := by
  simp only [exec, ht]

/-- The transaction is committed while the token it stores is good. -/
theorem commit_keeps (hI : Valido gh w) (ht : w.transaction = some (i, vista))
    (hvivo : Vivo w vista) (hvista : vista = none → w.row = none) (e : Env) :
    (disciplina gh).Keeps i w (exec gh i .commit e w).1 := by
  rw [commit_eq ht]
  exact keeps_aberta ht ⟨hI.regular, fun _ ↦ hvivo, fun h ↦ hI.inicial (hvista h)⟩
    fun j hj ↦ Function.update_of_ne hj _ _

end Commands

/-! ## The methods -/

section Methods

variable {α : Type} {i : ℕ} {w : Mundo}

/-- The transaction is open and the stored token is good, so that it may be rolled back. -/
def Desfaz (i : ℕ) (w : Mundo) : Prop := (∃ vista, w.transaction = some (i, vista)) ∧ Vivo w w.row

theorem Desfaz.stable {w' : Mundo} (h : Desfaz i w) (hR : Respeita i w w') : Desfaz i w' := by
  obtain ⟨⟨vista, ht⟩, hvivo⟩ := h
  obtain ⟨ht', hrow, hgithub⟩ := hR.aberta vista ht
  refine ⟨⟨vista, ht'⟩, ?_⟩
  rw [Vivo, hrow, hgithub]
  exact hvivo

/-- How a method ends inside a transaction. -/
def Dentro (i : ℕ) (Q : α → Mundo → Prop) : Except Erro α → Mundo → Prop
  | .ok a, w => Q a w
  | .error _, w => Desfaz i w

theorem exigir_bind_safe {β : Type} {b : Bool} {detail : String} {f : Unit → Processo β}
    {Q : Except Erro β → Mundo → Prop} (hf : b = true → (disciplina gh).Safe i Q w (f ()))
    (he : Q (.error (.brokerNotReady detail)) w) :
    (disciplina gh).Safe i Q w (exigir b detail >>= f) := by
  cases b with
  | true => exact hf rfl
  | false => exact .raise he

theorem exigir_bind_of_true {β : Type} {b : Bool} {detail : String} {f : Unit → Processo β}
    (h : b = true) : (exigir b detail >>= f) = f () := by
  rw [h]
  rfl

/-- **A transaction.** What it does may assume that the stored token is good at the beginning. -/
theorem emTransacao_safe {p : Processo α} {Q : α → Mundo → Prop}
    (hp : ∀ w, Valido gh w → w.transaction = some (i, w.row) → Vivo w w.row →
      (disciplina gh).Safe i (Dentro i Q) w p) :
    (disciplina gh).Safe i (fun r w ↦ ∀ a, r = .ok a → Q a w) w (emTransacao p) := by
  refine Safe.perform_bind (fun w e hI _ ↦ begin_keeps hI e) (fun w e _ hI _ hans ↦ ?_)
    fun _ _ _ _ _ _ a ha ↦ nomatch ha
  obtain ⟨x, hx⟩ | ⟨hnone, hx⟩ := begin_cases gh i e w
  · have hans : (exec gh i .begin e w).2 = .ok _ := hans
    rw [hx] at hans
    cases hans
  · change (disciplina gh).Safe i _ (exec gh i .begin e w).1 _
    rw [hx]
    have hopen := hp { w with transaction := some (i, w.row) }
      ⟨hI.regular, fun h ↦ (nomatch h), hI.inicial⟩ rfl (hI.livre hnone)
    have hattempt : (disciplina gh).Safe i (fun r w ↦ ∀ r', r = .ok r' → Dentro i Q r' w)
        { w with transaction := some (i, w.row) } p.attempt := by
      refine hopen.attempt fun h r' hr' ↦ ?_
      cases hr'
      exact h
    refine hattempt.bind (fun {r w} hr ↦ ?_) fun _ a ha ↦ nomatch ha
    · cases r with
      | ok a =>
        refine .ret fun a' ha' ↦ ?_
        cases ha'
        exact hr _ rfl
      | error x =>
        have hdesfaz : Desfaz i w := hr _ rfl
        refine Safe.perform_bind (fun w' e hI hR ↦ ?_) (fun _ _ _ _ _ _ ↦ .raise ?_) ?_
        · obtain ⟨⟨vista, ht⟩, hvivo⟩ := hdesfaz.stable hR
          exact rollback_keeps hI ht hvivo e
        · exact fun a ha ↦ nomatch ha
        · exact fun _ _ _ _ _ _ a ha ↦ nomatch ha

/-- The answer to a good refresh token is read without an error. -/
theorem receber_par (n : ℕ) : receber cfg ⟨200, some (gh.par n).toJson⟩
    = run .now >>= fun now ↦ return Par.novo (gh.par n) now := by
  have hpar : lerResposta cfg ⟨200, some (gh.par n).toJson⟩ = some (gh.par n) :=
    lerPar_toJson cfg.py (gh.par n)
  have htokens : (decide ((gh.par n).accessToken ≠ "") && decide ((gh.par n).refreshToken ≠ ""))
      = true :=
    Bool.and_eq_true_iff.mpr ⟨decide_eq_true (gh.accessToken_ne n),
      decide_eq_true (gh.refreshToken_ne n)⟩
  have hprazos : (decide ((gh.par n).expiresIn > 0) && decide ((gh.par n).refreshExpiresIn > 0))
      = true :=
    Bool.and_eq_true_iff.mpr ⟨decide_eq_true (gh.expiresIn_pos n),
      decide_eq_true (gh.refreshExpiresIn_pos n)⟩
  rw [receber, hpar]
  dsimp only
  rw [exigir_bind_of_true (decide_eq_true rfl), exigir_bind_of_true htokens,
    exigir_bind_of_true hprazos]

/-- **`_refresh` of the stored token.** If the token was presented, a new one is returned. -/
theorem refresh_safe {vista : Option TokenState} {state : TokenState}
    (ht : w.transaction = some (i, vista)) (hrow : w.row = some state) (hvivo : Vivo w w.row) :
    (disciplina gh).Safe i (Dentro i fun novo w ↦ w.transaction = some (i, vista) ∧
      w.row = some state ∧ novo.refreshToken ∈ w.github.vivos ∧
      ∃ a, novo.accessToken = some a) w (refresh cfg state.refreshToken) := by
  have hgood : ∀ {w'}, Respeita i w w' → state.refreshToken ∈ w'.github.vivos := fun hR ↦ by
    rw [(hR.aberta vista ht).2.2]
    exact hvivo state hrow
  refine .call (fun w' e hI hR ↦ ?_) fun w' e hI hR ↦ ?_
  · change (disciplina gh).Keeps i w' (exec gh i (.post state.refreshToken) e w').1
    obtain ⟨ht', hrow', -⟩ := hR.aberta vista ht
    simp only [exec]
    split
    · exact .same hI
    · refine keeps_aberta ht' ⟨(hI.regular.apresentar (hgood hR)).1, fun h ↦ ?_, fun h ↦ ?_⟩
        fun _ _ ↦ rfl
      · exact nomatch ht'.symm.trans h
      · exact nomatch (hrow'.trans hrow).symm.trans h
  · obtain ⟨ht', hrow', hgithub⟩ := hR.aberta vista ht
    obtain ⟨-, hnovo⟩ := hI.regular.apresentar (hgood hR)
    change (disciplina gh).Safe i _ (exec gh i (.post state.refreshToken) e w').1
      ((Program.ofExcept (exec gh i (.post state.refreshToken) e w').2).attempt >>= _)
    simp only [exec]
    split
    · -- there was no connection: nothing was presented
      refine .raise ⟨⟨vista, ht'⟩, ?_⟩
      rw [Vivo, hrow', hgithub]
      exact hvivo
    · rw [apresentar_eq (hgood hR)] at hnovo ⊢
      change (disciplina gh).Safe i _ _ (receber cfg ⟨200, some (gh.par w'.github.emitidos).toJson⟩)
      rw [receber_par]
      refine Safe.read_bind (fun _ _ ↦ rfl) (fun w₁ e now _ hR₁ _ ↦ .ret ?_)
        fun _ _ x _ _ hx ↦ (nomatch hx)
      obtain ⟨ht₁, hrow₁, hgithub₁⟩ := hR₁.aberta vista ht'
      refine ⟨ht₁, hrow₁.trans (hrow'.trans hrow), ?_, _, rfl⟩
      rw [hgithub₁]
      exact hnovo

/-- The access token was stored when the call committed. -/
def Gravado (i : ℕ) (accessToken : String) (w : Mundo) : Prop :=
  ∃ row, w.ultimoCommit i = some row ∧ row.accessToken = some accessToken

/-- A commit of a token that is good. -/
theorem commit_safe (vista : Option TokenState) (ht : w.transaction = some (i, vista))
    (hvivo : Vivo w vista) (hvista : vista = none → w.row = none) :
    (disciplina gh).Safe i (Dentro i fun _ w ↦ w.ultimoCommit i = vista) w (run .commit) := by
  refine .call (fun w' e hI hR ↦ ?_) fun w' e hI hR ↦ ?_
  · obtain ⟨ht', hrow, hgithub⟩ := hR.aberta _ ht
    refine commit_keeps hI ht' (fun r hr ↦ ?_) (fun h ↦ hrow.trans (hvista h)) e
    rw [hgithub]
    exact hvivo r hr
  · change (disciplina gh).Safe i _ (exec gh i .commit e w').1
      (Program.ofExcept (exec gh i .commit e w').2)
    rw [commit_eq (hR.aberta _ ht).1]
    exact .ret (Function.update_self ..)

/-- The commit of a call that returns the access token it stores. -/
theorem commit_token_safe {state : TokenState} {a : String}
    (ht : w.transaction = some (i, some state)) (hvivo : state.refreshToken ∈ w.github.vivos)
    (ha : state.accessToken = some a) :
    (disciplina gh).Safe i (Dentro i (Gravado i)) w (run .commit >>= fun _ ↦ return a) := by
  refine (commit_safe _ ht (fun r hr ↦ ?_) fun h ↦ nomatch h).bind
    (fun hcommit ↦ .ret ⟨state, hcommit, ha⟩) fun h ↦ h
  rw [← Option.some.inj hr]
  exact hvivo

/-- An access token that is good for a while is that of the row. -/
theorem accessToken_of_vigente {state : TokenState} {now : ℤ} {a : String}
    (h : state.vigente cfg now = some a) : state.accessToken = some a := by
  rw [TokenState.vigente] at h
  split at h
  · exact (Option.filter_eq_some_iff.mp h).1
  · cases h

/-- **The transaction of `get_access_token`.** -/
theorem obterToken_safe (ht : w.transaction = some (i, w.row))
    (hvivo : Vivo w w.row) : (disciplina gh).Safe i (Dentro i (Gravado i)) w (obterToken cfg) := by
  have hdesfaz : ∀ {w'}, Respeita i w w' → Desfaz i w' := fun hR ↦
    Desfaz.stable ⟨⟨_, ht⟩, hvivo⟩ hR
  refine Safe.read_bind (fun w' e ↦ select_store gh i e w') (fun w' e a _ hR hans ↦ ?_)
    fun w' e x _ hR _ ↦ hdesfaz hR
  obtain ⟨ht', hrow, -⟩ := hR.aberta _ ht
  obtain rfl := select_ok gh ht' hans
  split
  next => exact .raise (hdesfaz hR)
  next state hstate =>
    refine exigir_bind_safe (fun _ ↦ ?_) (hdesfaz hR)
    refine Safe.read_bind (fun _ _ ↦ rfl) (fun w₁ e now hI₁ hR₁ _ ↦ ?_) fun w₁ e x _ hR₁ hx ↦
      (nomatch hx)
    have hdesfaz₁ := (hdesfaz hR).stable hR₁
    obtain ⟨ht₁, hrow₁, -⟩ := hR₁.aberta _ ht'
    rw [hstate] at ht₁
    have hrow₁ : w₁.row = some state := (hrow₁.trans hrow).trans hstate
    refine exigir_bind_safe (fun _ ↦ ?_) hdesfaz₁
    split
    next a ha =>
      exact commit_token_safe ht₁ (hdesfaz₁.2 state hrow₁) (accessToken_of_vigente ha)
    next =>
      refine (refresh_safe ht₁ hrow₁ hdesfaz₁.2).bind (fun {novo w₂} hnovo ↦ ?_) fun h ↦ h
      obtain ⟨ht₂, hrow₂, hvivo₂, a, ha⟩ := hnovo
      refine Safe.perform_bind (fun w₃ e hI₃ hR₃ ↦ ?_) (fun w₃ e _ hI₃ hR₃ _ ↦ ?_)
        fun w₃ e x _ hR₃ hx ↦ (nomatch hx)
      · exact replace_keeps hI₃ (hR₃.aberta _ ht₂).1 novo e
      · rw [ha]
        refine commit_token_safe rfl ?_ ha
        change novo.refreshToken ∈ w₃.github.vivos
        rw [(hR₃.aberta _ ht₂).2.2]
        exact hvivo₂

/-- **The transaction of `seed_refresh_token`.** -/
theorem semear_safe {refreshToken : String}
    (hemitido : ∃ k < gh.autorizados, refreshToken = gh.refreshToken k)
    (ht : w.transaction = some (i, w.row)) (hvivo : Vivo w w.row) :
    (disciplina gh).Safe i (Dentro i fun _ _ ↦ True) w (semear refreshToken) := by
  have hdesfaz : ∀ {w'}, Respeita i w w' → Desfaz i w' := fun hR ↦
    Desfaz.stable ⟨⟨_, ht⟩, hvivo⟩ hR
  have hfim : ∀ {x : Except Erro Unit} {w'} {vista : Option TokenState},
      Dentro i (fun _ w ↦ w.ultimoCommit i = vista) x w' → Dentro i (fun _ _ ↦ True) x w' := by
    intro x w' vista h
    cases x with
    | ok _ => exact trivial
    | error _ => exact h
  refine Safe.read_bind (fun w' e ↦ select_store gh i e w') (fun w' e a hI hR hans ↦ ?_)
    fun w' e x _ hR _ ↦ hdesfaz hR
  obtain ⟨ht', hrow, -⟩ := hR.aberta _ ht
  obtain rfl := select_ok gh ht' hans
  split
  next state hstate =>
    refine (commit_safe (some state) (hstate ▸ ht') (fun r hr ↦ ?_) fun h ↦ nomatch h).imp hfim
    exact (hdesfaz hR).2 r ((hrow.trans hstate).trans hr)
  next hnone =>
    refine Safe.perform_bind (fun w₁ e hI₁ hR₁ ↦ ?_) (fun w₁ e _ hI₁ hR₁ _ ↦ ?_)
      fun w₁ e x _ hR₁ hx ↦ (nomatch hx)
    · exact replace_keeps hI₁ (hR₁.aberta _ ht').1 _ e
    · refine (commit_safe (some { refreshToken := refreshToken }) rfl (fun r hr ↦ ?_)
        fun h ↦ nomatch h).imp hfim
      obtain ⟨k, hk, rfl⟩ := hemitido
      rw [← Option.some.inj hr]
      exact hI₁.inicial (((hR₁.aberta _ ht').2.1.trans hrow).trans hnone) k hk

/-- What a call delivers was stored when it committed. -/
def Devolve (i : ℕ) : Except Erro Resposta → Mundo → Prop
  | .ok (.token accessToken), w => Gravado i accessToken w
  | _, _ => True

theorem Devolve.stable (r : Except Erro Resposta) (w w' : Mundo) (hR : Respeita i w w')
    (h : Devolve i r w) : Devolve i r w' := by
  match r, h with
  | .ok (.token _), ⟨row, hcommit, ha⟩ => exact ⟨row, hR.ultimoCommit.trans hcommit, ha⟩
  | .ok .semeado, _ => trivial
  | .error _, _ => trivial

theorem code_safe (c : Pedido gh) :
    (disciplina gh).Safe i (Devolve i) w (code cfg gh c) := by
  cases c with
  | getAccessToken =>
    refine Safe.bind (Q := fun r w ↦ ∀ a, r = .ok a → Gravado i a w) ?_ (fun h ↦ .ret (h _ rfl))
      fun _ ↦ trivial
    refine exigir_bind_safe (fun _ ↦ ?_) fun a ha ↦ nomatch ha
    exact emTransacao_safe fun w _ ht hvivo ↦ obterToken_safe ht hvivo
  | seedRefreshToken refreshToken emitido =>
    refine Safe.bind (Q := fun _ _ ↦ True) ?_ (fun _ ↦ .ret trivial) fun _ ↦ trivial
    rw [seedRefreshToken]
    split
    next => exact .ret trivial
    next hne =>
      exact (emTransacao_safe fun w _ ht hvivo ↦
        semear_safe (emitido.resolve_left hne) ht hvivo).imp fun _ ↦ trivial

end Methods

/-! ## A commit is the last thing a call does -/

/-- A commit that was done. -/
def Grava : (op : Cmd) → Except Erro op.Ans → Prop
  | .commit, .ok _ => True
  | _, _ => False

section Ends

variable {α : Type} {Q : α → Prop}

theorem run_allCalls {op : Cmd} (h : ∀ r, ¬Grava op r) :
    (run op).AllCalls fun op ↦ ∀ r, ¬Grava op r := .perform h

theorem exigir_allCalls (b : Bool) (detail : String) :
    (exigir b detail).AllCalls fun op ↦ ∀ r, ¬Grava op r := by
  cases b with
  | true => exact .ret _
  | false => exact .raise _

theorem emTransacao_endsAfter {p : Processo α} (hp : p.EndsAfter Grava Q) :
    (emTransacao p).EndsAfter Grava Q := by
  refine .allCalls_bind (run_allCalls fun _ h ↦ h) fun _ ↦
    hp.attempt.bind (fun r ↦ ?_) fun r hr ↦ ?_
  · cases r with
    | ok a => exact trivial
    | error x => exact .allCalls_bind (run_allCalls fun _ h ↦ h) fun _ ↦ trivial
  · obtain ⟨a, rfl, ha⟩ := hr
    exact ⟨a, rfl, ha⟩

theorem refresh_allCalls (refreshToken : String) :
    (refresh cfg refreshToken).AllCalls fun op ↦ ∀ r, ¬Grava op r := by
  refine .bind (.attempt (run_allCalls fun _ h ↦ h)) fun r ↦ ?_
  split
  · exact .raise _
  · exact .raise _
  · refine .bind (exigir_allCalls _ _) fun _ ↦ ?_
    split
    · exact .raise _
    · exact .bind (exigir_allCalls _ _) fun _ ↦ .bind (exigir_allCalls _ _) fun _ ↦
        .bind (run_allCalls fun _ h ↦ h) fun _ ↦ .ret _

theorem obterToken_endsAfter : (obterToken cfg).EndsAfter Grava fun _ ↦ True := by
  refine .allCalls_bind (run_allCalls fun _ h ↦ h) fun row ↦ ?_
  split
  · exact trivial
  · refine .allCalls_bind (exigir_allCalls _ _) fun _ ↦ .allCalls_bind (run_allCalls fun _ h ↦ h)
      fun now ↦ .allCalls_bind (exigir_allCalls _ _) fun _ ↦ ?_
    split
    · exact .perform_bind (fun _ h ↦ h) fun _ ↦ ⟨_, rfl, trivial⟩
    · exact .allCalls_bind (refresh_allCalls _) fun _ ↦ .allCalls_bind (run_allCalls fun _ h ↦ h)
        fun _ ↦ .perform_bind (fun _ h ↦ h) fun _ ↦ ⟨_, rfl, trivial⟩

theorem commit_endsAfter : (run .commit).EndsAfter Grava fun _ ↦ True := by
  intro r
  cases r with
  | ok a => exact ⟨fun _ ↦ ⟨a, rfl, trivial⟩, trivial⟩
  | error x => exact ⟨fun h ↦ h.elim, trivial⟩

theorem semear_endsAfter (refreshToken : String) :
    (semear refreshToken).EndsAfter Grava fun _ ↦ True := by
  refine .allCalls_bind (run_allCalls fun _ h ↦ h) fun row ↦ ?_
  split
  · exact commit_endsAfter
  · exact .allCalls_bind (run_allCalls fun _ h ↦ h) fun _ ↦ commit_endsAfter

theorem code_endsAfter (c : Pedido gh) : (code cfg gh c).EndsAfter Grava fun _ ↦ True := by
  cases c with
  | getAccessToken =>
    exact EndsAfter.bind (.allCalls_bind (exigir_allCalls _ _) fun _ ↦
      emTransacao_endsAfter obterToken_endsAfter) (fun _ ↦ trivial) fun _ _ ↦ ⟨_, rfl, trivial⟩
  | seedRefreshToken refreshToken emitido =>
    refine EndsAfter.bind (Q := fun _ ↦ True) ?_ (fun _ ↦ trivial) fun _ _ ↦ ⟨_, rfl, trivial⟩
    rw [seedRefreshToken]
    split
    · exact trivial
    · exact emTransacao_endsAfter (semear_endsAfter refreshToken)

end Ends

/-- Only a commit changes the stored row. -/
theorem grava_of_row_ne {i : ℕ} {op : Cmd} {e : Env} {w : Mundo}
    (h : (exec gh i op e w).1.row ≠ w.row) : Grava op (exec gh i op e w).2 := by
  cases op with
  | commit =>
    simp only [exec]
    split <;> trivial
  | begin =>
    obtain ⟨x, hx⟩ | ⟨-, hx⟩ := begin_cases gh i e w
    · exact absurd (by rw [hx]) h
    · exact absurd (by rw [hx]) h
  | select => exact absurd (by rw [select_store]) h
  | post refreshToken =>
    refine absurd ?_ h
    simp only [exec]
    split <;> rfl
  | replace _ => exact absurd rfl h
  | rollback => exact absurd rfl h
  | now => exact absurd rfl h

/-! ## Runs -/

theorem valido_inicio (gh : GitHub) : Valido gh (inicio gh) := by
  have hvivos : ∀ t ∈ (inicio gh).github.vivos, ∃ k < gh.autorizados, t = gh.refreshToken k := by
    intro t ht
    obtain ⟨k, hk, rfl⟩ := List.mem_map.mp ht
    exact ⟨k, List.mem_range.mp hk, rfl⟩
  refine ⟨⟨hvivos, fun t ht ↦ (nomatch ht), List.nodup_nil⟩, fun _ r hr ↦ (nomatch hr), ?_⟩
  exact fun _ k hk ↦ List.mem_map.mpr ⟨k, List.mem_range.mpr hk, rfl⟩

/-- A move that does not end what slot `i` does. -/
def Durante (i : ℕ) (m : Passo gh) : Prop := m.1.slot = i → m.2 = none ∧ m.1 ≠ .crash i

/-- The move is not of slot `i`, or leaves the stored row as it is. -/
def Preserva (cfg : Config) (gh : GitHub) (i : ℕ) (p : Processos) (m : Passo gh) : Prop :=
  m.1.slot = i → (Pool.move (code cfg gh) (machine gh) m.1 p).1.store.row = p.store.row

section Run

variable {p p' p'' : Processos} {m : Passo gh} {tr tr' : List (Passo gh)}

theorem disciplined_of_run (h : (chamadas cfg gh).Run tr p) :
    Pool.DisciplinedTo (disciplina gh) Devolve p :=
  Pool.safeTo_of_run (fun _ ↦ Devolve.stable) (valido_inicio gh)
    (fun _ c _ _ ↦ code_safe c) (fun _ _ hI ↦ .same hI) h

/-- A move that changes the stored row is the last of its call before it returns. -/
theorem returns_of_row_ne (hends : ∀ i q, p.task i = some q → q.EndsAfter Grava fun _ ↦ True)
    (hstep : (chamadas cfg gh).step p m p') (hrow : p'.store.row ≠ p.store.row) :
    ∃ q, p'.task m.1.slot = some q ∧ q.Returns fun _ ↦ True := by
  rw [Pool.step_eq hstep] at hrow ⊢
  obtain ⟨-, hm⟩ | ⟨i, c, -, -, hm⟩ | ⟨i, op, e, k, hnext, htask, hm⟩ | ⟨-, hm⟩ :=
    Pool.move_forms (code cfg gh) (machine gh) m.1 p
  all_goals rw [hm] at hrow ⊢
  · exact absurd rfl hrow
  · exact absurd rfl hrow
  · rw [Pool.eq_advance_of_nextCall hnext]
    exact ⟨_, Function.update_self .., (hends i _ htask _).1 (grava_of_row_ne hrow)⟩
  · exact absurd rfl hrow

theorem endsAfter_of_run (h : (chamadas cfg gh).Run tr p) :
    ∀ i q, p.task i = some q → q.EndsAfter Grava fun _ ↦ True :=
  Pool.hereditary_of_run code_endsAfter (fun hq r ↦ (hq r).2) h

/-- Until a call ends it leaves the stored row as it is, or it is about to return. -/
theorem preserva_or_returns {i : ℕ} (hrun : (chamadas cfg gh).Run tr p)
    (hpath : ((chamadas cfg gh).restrict fun _ ↦ Durante i).Path p tr' p') :
    ((chamadas cfg gh).restrict (Preserva cfg gh i)).Path p tr' p' ∨
      ∃ q, p'.task i = some q ∧ q.Returns fun _ ↦ True := by
  induction hpath with
  | nil => exact .inl (.nil _)
  | @snoc s s' tr' m hpath hstep ih =>
    obtain ⟨hdurante, hstep⟩ := hstep
    obtain hpreserva | ⟨q, hq, a, rfl, -⟩ := ih
    · by_cases hm : Preserva cfg gh i s m
      · exact .inl (hpreserva.snoc ⟨hm, hstep⟩)
      · obtain ⟨hslot, hrow⟩ := Classical.not_imp.mp hm
        have hrow : s'.store.row ≠ s.store.row := by
          rw [Pool.step_eq hstep]
          exact hrow
        rw [← hslot]
        exact .inr (returns_of_row_ne (endsAfter_of_run (hrun.extend hpath.of_restrict)) hstep hrow)
    · obtain hsame | ⟨op, e, k, heq, -⟩ := Pool.task_of_quiet hstep hq hdurante
      · exact .inr ⟨_, hsame, a, rfl, trivial⟩
      · cases heq

/-- **Every refresh token is presented once.** In every run

* no refresh token is presented twice;
* the stored refresh token is good whenever no transaction is open, and so after every commit;
* an access token that is returned was stored when its call committed;
* a call that raises has left the stored row as it was. -/
theorem rotacao_of_run (h : (chamadas cfg gh).Run tr p) :
    p.store.github.apresentados.Nodup ∧
    (p.store.transaction = none → ∀ row ∈ p.store.row, row.refreshToken ∈ p.store.github.vivos) ∧
    (∀ n p' accessToken, (chamadas cfg gh).step p (n, some (.ok (.token accessToken))) p' →
      ∃ row, p.store.ultimoCommit n.slot = some row ∧ row.accessToken = some accessToken) ∧
    ∀ i tr' p' n x p'', ((chamadas cfg gh).restrict fun _ ↦ Durante i).Path p tr' p' →
      (chamadas cfg gh).step p' (n, some (.error x)) p'' → n.slot = i →
      ((chamadas cfg gh).restrict (Preserva cfg gh i)).Path p tr' p' := by
  have hp := disciplined_of_run h
  refine ⟨hp.inv.regular.nodup, hp.inv.livre, fun n p' a hstep ↦ hp.outcome hstep, ?_⟩
  intro i tr' p' n x p'' hpath hstep hn
  obtain hpreserva | ⟨q, hq, a, rfl, -⟩ := preserva_or_returns h hpath
  · exact hpreserva
  · -- a call that is about to return does not raise
    rw [← hn, Pool.task_of_outcome hstep] at hq
    cases hq

end Run

/-! ## Two calls -/

/-- Tokens of different lengths. -/
def sampleToken (marca : Char) (n : ℕ) : String :=
  String.ofList ('g' :: 'h' :: marca :: '_' :: List.replicate n 'a')

theorem length_sampleToken (marca : Char) (n : ℕ) :
    (sampleToken marca n).toList.length = n + 4 := by
  rw [sampleToken, String.toList_ofList]
  exact congrArg (· + 4) List.length_replicate

theorem sampleToken_ne (marca : Char) (n : ℕ) : sampleToken marca n ≠ "" := by
  intro h
  have hlength := length_sampleToken marca n
  rw [h] at hlength
  cases hlength

def sampleGitHub : GitHub where
  refreshToken := sampleToken 'r'
  accessToken := sampleToken 'u'
  expiresIn _ := 28800
  refreshExpiresIn _ := 15897600
  autorizados := 1
  refreshToken_injective m n h := by
    have hlength := congrArg (fun s ↦ s.toList.length) h
    exact Nat.add_right_cancel ((length_sampleToken 'r' m).symm.trans
      (hlength.trans (length_sampleToken 'r' n)))
  refreshToken_ne := sampleToken_ne 'r'
  accessToken_ne := sampleToken_ne 'u'
  expiresIn_pos _ := by decide
  refreshExpiresIn_pos _ := by decide

def sampleConfig : Config where
  py := sampleConversoes
  clientId := "Iv1.a"
  clientSecret := "segredo"
  refreshSkewSeconds := 300

/-- Call `i` takes `n` steps at some time. -/
def sampleSteps (i n : ℕ) (now : ℤ) : List (Move (Pedido sampleGitHub) Env) :=
  List.replicate n (.advance i { now := now })

/-- The broker is seeded. Call 1 begins and refreshes; call 2 finds the database locked. -/
def sampleMoves : List (Move (Pedido sampleGitHub) Env) :=
  [.start 0 (.seedRefreshToken (sampleToken 'r' 0) (.inr ⟨0, by decide, rfl⟩))] ++
    sampleSteps 0 5 1767225600 ++ [.start 1 .getAccessToken] ++ sampleSteps 1 4 1767225600 ++
    [.start 2 .getAccessToken] ++ sampleSteps 2 2 1767225600 ++ sampleSteps 1 3 1767225600

/-- The trace and the calls after the moves. -/
def sampleRun : List (Passo sampleGitHub) × Processos :=
  TransitionSystem.runCalls (Pool.move (code sampleConfig sampleGitHub) (machine sampleGitHub))
    sampleMoves ⟨inicio sampleGitHub, fun _ ↦ none⟩

/-- The refresh token of the authorisation was presented, and only once. -/
theorem rotacao_sample : sampleRun.2.store.github.apresentados = [sampleToken 'r' 0] ∧
    sampleRun.2.store.github.apresentados.Nodup ∧
    ∀ row ∈ sampleRun.2.store.row, row.refreshToken ∈ sampleRun.2.store.github.vivos := by
  have hrun : (chamadas sampleConfig sampleGitHub).Run sampleRun.1 sampleRun.2 :=
    TransitionSystem.run_runCalls _ _ _
  have h := rotacao_of_run hrun
  exact ⟨by decide +kernel, h.1, h.2.1 (by decide +kernel)⟩

end Provider

end TokenBroker

end ReqSys
