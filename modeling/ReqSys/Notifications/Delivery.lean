import ReqSys.Foundation.Receipts
import ReqSys.Notifications.Queue

/-!
# The queue of Teams notifications: how often the gateway is called

A session claims an item with its first commit and calls the gateway once before its second. So as
long as every claim is made on a row that nobody else has claimed, that has the attempts the session
has loaded, and that is not delivered, the attempts of an item are the calls of the gateway, and no
call comes after a delivery.

The guard looks at the loaded object, and it does not ask whether the item is delivered. So two
sessions that have loaded the same item both claim it, and a delivered item is sent once more.
-/

namespace ReqSys

namespace Notifications

open Function (update)

variable {U : Unicode} {d d' : Banco}

/-! ## Where a session stands -/

/-- What the other sessions leave alone: the stage of the session, and the limit of each item. -/
def Alheio (i : ℕ) (d d' : Banco) : Prop :=
  d'.etapa i = d.etapa i ∧ ∀ id item, d.itens id = some item →
    ∃ item', d'.itens id = some item' ∧ item'.maxTentativas = item.maxTentativas

/-- The session has no claim. -/
def Livre (i : ℕ) (d : Banco) : Prop := d.etapa i = none

/-- A claim is made on an existing item that passes the guard as it was loaded, by a session without
one; the gateway is called by a session that has a claim, and the second commit comes after. -/
def Apto (i : ℕ) : Cmd → Banco → Prop
  | .criar item, _ => item.tentativas = 0
  | .reivindicar id item novo, d => d.etapa i = none ∧ item.statusEvento ≠ .processando ∧
      item.tentativas < item.maxTentativas ∧ novo.statusEvento = .processando ∧
      novo.tentativas = item.tentativas + 1 ∧
      ∃ atual, d.itens id = some atual ∧ atual.maxTentativas = item.maxTentativas
  | .enviar id _ _, d => d.etapa i = some (id, .reivindicado)
  | .concluir id item novo, d => d.etapa i = some (id, .enviado) ∧ novo.tentativas = item.tentativas
  | _, _ => True

theorem Alheio.refl (i : ℕ) (d : Banco) : Alheio i d d := ⟨rfl, fun _ item h ↦ ⟨item, h, rfl⟩⟩

theorem Alheio.trans {i : ℕ} {d d' d'' : Banco} (h : Alheio i d d') (h' : Alheio i d' d'') :
    Alheio i d d'' := by
  refine ⟨h'.1.trans h.1, fun id item hitem ↦ ?_⟩
  obtain ⟨item', hitem', hmax⟩ := h.2 id item hitem
  obtain ⟨item'', hitem'', hmax'⟩ := h'.2 id item' hitem'
  exact ⟨item'', hitem'', hmax'.trans hmax⟩

/-- A row is replaced by one with the same limit. -/
theorem limites_update {itens : ℕ → Option Item} {id : ℕ} {novo : Item}
    (h : ∀ atual, itens id = some atual → novo.maxTentativas = atual.maxTentativas) {id' : ℕ}
    {item : Item} (hitem : itens id' = some item) :
    ∃ item', update itens id (some novo) id' = some item' ∧
      item'.maxTentativas = item.maxTentativas := by
  by_cases hid : id' = id
  · subst hid
    exact ⟨novo, Function.update_self .., h item hitem⟩
  · exact ⟨item, (Function.update_of_ne hid _ _).trans hitem, rfl⟩

theorem alheio_exec {i j : ℕ} {op : Cmd} {e : Env} (hj : j ≠ i) : Alheio j d (exec i op e d).1 := by
  cases op with
  | criar item =>
    rw [exec]
    split
    next => exact .refl j d
    next hnone =>
      refine ⟨rfl, fun id item hitem ↦ limites_update (fun atual hatual ↦ ?_) hitem⟩
      rw [hnone] at hatual
      cases hatual
  | refresh id =>
    rw [exec]
    split <;> exact .refl j d
  | reivindicar id item novo =>
    rw [exec]
    split
    next atual hatual =>
      refine ⟨Function.update_of_ne hj _ _, fun id' item' hitem ↦
        limites_update (fun atual' hatual' ↦ ?_) hitem⟩
      rw [hatual] at hatual'
      cases hatual'
      rfl
    next => exact .refl j d
  | enviar id request correlationId =>
    exact ⟨Function.update_of_ne hj _ _, fun _ item hitem ↦ ⟨item, hitem, rfl⟩⟩
  | concluir id item novo =>
    rw [exec]
    split
    next atual hatual =>
      refine ⟨Function.update_of_ne hj _ _, fun id' item' hitem ↦
        limites_update (fun atual' hatual' ↦ ?_) hitem⟩
      rw [hatual] at hatual'
      cases hatual'
      rfl
    next => exact .refl j d
  | _ => exact .refl j d

theorem etapa_close (i : ℕ) (d : Banco) : (close i d).etapa = update d.etapa i none := by
  rw [close]
  split <;> rfl

theorem itens_close (i : ℕ) (d : Banco) : (close i d).itens = d.itens := by
  rw [close]
  split <;> rfl

theorem alheio_close {i j : ℕ} (hj : j ≠ i) : Alheio j d (close i d) := by
  refine ⟨?_, fun id item hitem ↦ ⟨item, ?_, rfl⟩⟩
  · rw [etapa_close]
    exact Function.update_of_ne hj _ _
  · rw [itens_close]
    exact hitem

theorem livre_close (i : ℕ) (d : Banco) : Livre i (close i d) := by
  rw [Livre, etapa_close]
  exact Function.update_self ..

/-- The calls of a program in the slot `i`. -/
abbrev Chama {α : Type} (i : ℕ) (Q : Except FilaError α → Banco → Prop)
    (p : Program Cmd.Ans FilaError α) (d : Banco) : Prop :=
  p.CallsIn machine i (Alheio i) (Apto i) Q d

variable {i : ℕ}

/-- After the claim the gateway is called, whatever it answers. -/
theorem chama_gateway {id : ℕ} {item : Item} (hetapa : d.etapa i = some (id, .reivindicado))
    (hitem : d.itens id = some item) :
    Chama i (fun _ d' ↦ d'.etapa i = some (id, .enviado) ∧ ∃ item', d'.itens id = some item')
      (chamarGateway id) d := by
  refine .perform_bind fun d₁ h₁ ↦ ?_
  obtain ⟨item₁, hitem₁, -⟩ := h₁.2 id item hitem
  have hrefresh : ∀ e, exec i (.refresh id) e d₁ = (d₁, .ok item₁) := by
    intro e
    simp only [exec, hitem₁]
  refine ⟨trivial, fun e a _ ↦ ?_, fun e x hx ↦ ?_⟩
  · change Chama i _ _ (exec i (.refresh id) e d₁).1
    rw [hrefresh]
    refine .call (fun d₂ h₂ ↦ h₂.1.trans (h₁.1.trans hetapa)) fun d₂ e₂ h₂ ↦ .ofExcept ?_
    obtain ⟨item₂, hitem₂, -⟩ := h₂.2 id item₁ hitem₁
    exact ⟨Function.update_self .., item₂, hitem₂⟩
  · change (exec i (.refresh id) e d₁).2 = _ at hx
    rw [hrefresh] at hx
    cases hx

/-- The second commit and the refresh after it. -/
theorem chama_concluir {id : ℕ} {item refreshed novo : Item}
    (hetapa : d.etapa i = some (id, .enviado)) (hitem : d.itens id = some item)
    (hnovo : novo.tentativas = refreshed.tentativas) :
    Chama i (fun _ ↦ Livre i)
      (do run (.concluir id refreshed novo); run (.refresh id) : Process Item) d := by
  refine .perform_bind fun d₁ h₁ ↦ ?_
  obtain ⟨item₁, hitem₁, -⟩ := h₁.2 id item hitem
  refine ⟨⟨h₁.1.trans hetapa, hnovo⟩, fun e₁ _ _ ↦ ?_, fun e₁ x hx ↦ ?_⟩
  · have hlivre : Livre i (exec i (.concluir id refreshed novo) e₁ d₁).1 := by
      rw [exec, hitem₁]
      exact Function.update_self ..
    refine .call (fun _ _ ↦ trivial) fun d₂ e₂ h₂ ↦ .ofExcept ?_
    change Livre i (exec i (.refresh id) e₂ d₂).1
    rw [exec]
    split <;> exact h₂.1.trans hlivre
  · change (exec i (.concluir id refreshed novo) e₁ d₁).2 = _ at hx
    simp only [exec, hitem₁] at hx
    cases hx

/-- `executar_item_fila` on an object that was loaded with its limit. -/
theorem chama_executar {id : ℕ} {item atual : Item} (hlivre : Livre i d)
    (hatual : d.itens id = some atual) (hmax : atual.maxTentativas = item.maxTentativas) :
    Chama i (fun _ ↦ Livre i) (executarItemFila U id item) d := by
  rw [executarItemFila]
  split
  · exact .raise hlivre
  next hstatus =>
    split
    · exact .raise hlivre
    next hlimite =>
      refine .perform_bind fun d₁ h₁ ↦ ⟨trivial, fun e agora _ ↦ ?_, fun e x hx ↦ (by cases hx)⟩
      -- the claim
      refine .perform_bind fun d₂ h₂ ↦ ?_
      have h₂ : Alheio i d d₂ := h₁.trans h₂
      obtain ⟨atual₂, hatual₂, hmax₂⟩ := h₂.2 id atual hatual
      refine ⟨⟨h₂.1.trans hlivre, hstatus, Nat.lt_of_not_le hlimite, rfl, rfl, atual₂, hatual₂,
        hmax₂.trans hmax⟩, fun e₂ _ _ ↦ ?_, fun e₂ x hx ↦ ?_⟩
      · change Chama i _ _ (exec i (.reivindicar id item _) e₂ d₂).1
        simp only [exec, hatual₂]
        refine .attempt_bind (chama_gateway (Function.update_self ..) (Function.update_self ..))
          fun result d₃ h₃ ↦ ?_
        obtain ⟨hetapa₃, item₃, hitem₃⟩ := h₃
        refine .perform_bind fun d₄ h₄ ↦ ⟨trivial, fun e₄ latencia _ ↦ ?_,
          fun e₄ x hx ↦ (by cases hx)⟩
        refine .perform_bind fun d₅ h₅ ↦ ⟨trivial, fun e₅ lido hlido ↦ ?_,
          fun e₅ x hx ↦ (by cases hx)⟩
        have h₅ : Alheio i d₃ d₅ := h₄.trans h₅
        obtain ⟨item₅, hitem₅, -⟩ := h₅.2 id item₃ hitem₃
        cases hlido
        rw [hitem₅]
        dsimp only
        split
        · refine .perform_bind fun d₆ h₆ ↦ ⟨trivial, fun e₆ agora _ ↦ ?_,
            fun e₆ x hx ↦ (by cases hx)⟩
          have h₆ : Alheio i d₃ d₆ := h₅.trans h₆
          obtain ⟨item₆, hitem₆, -⟩ := h₆.2 id item₃ hitem₃
          exact chama_concluir (h₆.1.trans hetapa₃) hitem₆ rfl
        · exact chama_concluir (h₅.1.trans hetapa₃) hitem₅ rfl
      · change (exec i (.reivindicar id item _) e₂ d₂).2 = _ at hx
        simp only [exec, hatual₂] at hx
        cases hx

/-- What `criar_item_fila` returns is in the table. -/
def Criado (i : ℕ) (r : Except FilaError (ℕ × Item)) (d : Banco) : Prop :=
  Livre i d ∧ ∀ id item, r = .ok (id, item) →
    ∃ atual, d.itens id = some atual ∧ atual.maxTentativas = item.maxTentativas

/-- The insert and the refresh after it. -/
theorem chama_inserir {item : Item} (hlivre : Livre i d) (hzero : item.tentativas = 0) :
    Chama i (Criado i)
      (do let id ← run (.criar item); let item ← run (.refresh id); return (id, item) :
        Program Cmd.Ans FilaError (ℕ × Item)) d := by
  refine .perform_bind fun d₁ h₁ ↦ ⟨hzero, fun e₁ id hid ↦ ?_, fun e₁ x hx ↦ ?_⟩
  · have hlivre₁ : Livre i (exec i (.criar item) e₁ d₁).1 := by
      rw [exec]
      split <;> exact h₁.1.trans hlivre
    refine .perform_bind fun d₂ h₂ ↦ ⟨trivial, fun e₂ item₂ hitem₂ ↦ .ret ?_, fun e₂ x _ ↦ ?_⟩
    · change (exec i (.refresh id) e₂ d₂).2 = .ok item₂ at hitem₂
      change Criado i _ (exec i (.refresh id) e₂ d₂).1
      rw [exec] at hitem₂ ⊢
      split at hitem₂
      next atual hatual =>
        cases hitem₂
        refine ⟨h₂.1.trans hlivre₁, fun id' item' heq ↦ ?_⟩
        cases heq
        exact ⟨item₂, hatual, rfl⟩
      next => cases hitem₂
    · refine ⟨?_, fun id' item' heq ↦ (by cases heq)⟩
      change Livre i (exec i (.refresh id) e₂ d₂).1
      rw [exec]
      split <;> exact h₂.1.trans hlivre₁
  · refine ⟨?_, fun id' item' heq ↦ (by cases heq)⟩
    change Livre i (exec i (.criar item) e₁ d₁).1
    rw [exec]
    split <;> exact h₁.1.trans hlivre

theorem chama_criar (payload : EnqueueRequest) (hlivre : Livre i d) :
    Chama i (Criado i) (criarItemFila U payload) d := by
  rw [criarItemFila]
  cases payload.correlationId with
  | some correlationId => exact chama_inserir hlivre rfl
  | none =>
    refine .perform_bind fun d₁ h₁ ↦ ⟨trivial, fun e₁ uuid4 _ ↦ ?_, fun e₁ x hx ↦ (by cases hx)⟩
    exact chama_inserir (h₁.1.trans hlivre) rfl

theorem chama_conflito {r : Except FilaError Item} (hlivre : Livre i d) :
    Chama i (fun _ ↦ Livre i) (conflito r) d := by
  cases r with
  | ok item => exact .ret hlivre
  | error exc => cases exc <;> exact .raise hlivre

/-- Loading the item and executing it. -/
theorem chama_carregar {id : ℕ} {item : Item} (hlivre : Livre i d)
    (hitem : d.itens id = some item) :
    Chama i (fun _ ↦ Livre i) (do conflito (← (executarItemFila U id item).attempt)) d :=
  .attempt_bind (chama_executar hlivre hitem rfl) fun _ _ h ↦ chama_conflito h

theorem chama_code {c : Request} (hlivre : Livre i d) : Chama i (fun _ ↦ Livre i) (code U c) d := by
  cases c with
  | enfileirar payload =>
    refine .bind (chama_criar payload hlivre) (fun (id, item) d₁ h₁ ↦ ?_) fun _ _ h ↦ h.1
    obtain ⟨hlivre₁, hcriado⟩ := h₁
    obtain ⟨atual, hatual, hmax⟩ := hcriado id item rfl
    dsimp only
    split
    · exact chama_executar hlivre₁ hatual hmax
    · exact .ret hlivre₁
  | processar id =>
    refine .perform_bind fun d₁ h₁ ↦ ⟨trivial, fun e₁ lido hlido ↦ ?_, fun e₁ x hx ↦ (by cases hx)⟩
    have hlivre₁ : Livre i d₁ := h₁.1.trans hlivre
    cases hlido
    cases hitem : d₁.itens id with
    | none => exact .raise hlivre₁
    | some item => exact chama_carregar hlivre₁ hitem
  | reprocessar id =>
    refine .perform_bind fun d₁ h₁ ↦ ⟨trivial, fun e₁ lido hlido ↦ ?_, fun e₁ x hx ↦ (by cases hx)⟩
    have hlivre₁ : Livre i d₁ := h₁.1.trans hlivre
    cases hlido
    cases hitem : d₁.itens id with
    | none => exact .raise hlivre₁
    | some item =>
      dsimp only
      split
      · exact .raise hlivre₁
      · exact chama_carregar hlivre₁ hitem

theorem bounds (U : Unicode) :
    Pool.Bounds machine Alheio Apto (fun i _ ↦ Livre i) Livre (code U) where
  refl := Alheio.refl
  trans := Alheio.trans
  exec _ hj := alheio_exec hj
  close hj := alheio_close hj
  code := chama_code
  ended h hlivre := h.1.trans hlivre
  idle h hlivre := h.1.trans hlivre
  closed := livre_close

/-! ## What the store says about an item -/

/-- **The claims on an item are counted.** At most one session has it, the attempts are the gateway
calls and the claims that have not led to one, and no call has come after a delivery. -/
structure Contado (d : Banco) (id : ℕ) : Prop where
  unico : ∀ {i j e e'}, d.etapa i = some (id, e) → d.etapa j = some (id, e') → i = j
  processando : ∀ {i e}, d.etapa i = some (id, e) →
    ∃ item, d.itens id = some item ∧ item.statusEvento = .processando
  limite : ∀ {item}, d.itens id = some item → item.tentativas ≤ item.maxTentativas
  pendente : ∀ {i item}, d.etapa i = some (id, .reivindicado) → d.itens id = some item →
    item.tentativas = d.chamadas id + d.perdidas id + 1
  quitado : ∀ {item}, d.itens id = some item → (∀ i, d.etapa i ≠ some (id, .reivindicado)) →
    item.tentativas = d.chamadas id + d.perdidas id
  entregue : ∀ {n}, d.aoEnviar id = some n → d.chamadas id = n ∧
    (∃ item, d.itens id = some item ∧ item.statusEvento = .enviado) ∧
    ∀ i e, d.etapa i ≠ some (id, e)
  ausente : d.itens id = none → d.chamadas id = 0 ∧ d.perdidas id = 0 ∧ d.aoEnviar id = none

/-- Every item is accounted for. -/
def Fila (d : Banco) : Prop := ∀ id, Contado d id

/-- Only what the store has about the item matters. -/
theorem Contado.frame {id : ℕ} (h : Contado d id) (hitens : d'.itens id = d.itens id)
    (hchamadas : d'.chamadas id = d.chamadas id) (hperdidas : d'.perdidas id = d.perdidas id)
    (hao : d'.aoEnviar id = d.aoEnviar id)
    (hetapa : ∀ j e, d'.etapa j = some (id, e) ↔ d.etapa j = some (id, e)) : Contado d' id where
  unico hi hj := h.unico ((hetapa _ _).mp hi) ((hetapa _ _).mp hj)
  processando hi := hitens ▸ h.processando ((hetapa _ _).mp hi)
  limite hitem := h.limite (hitens ▸ hitem)
  pendente hi hitem := by
    rw [hchamadas, hperdidas]
    exact h.pendente ((hetapa _ _).mp hi) (hitens ▸ hitem)
  quitado hitem hnone := by
    rw [hchamadas, hperdidas]
    exact h.quitado (hitens ▸ hitem) fun i hi ↦ hnone i ((hetapa _ _).mpr hi)
  entregue hn := by
    obtain ⟨hc, hitem, hnone⟩ := h.entregue (hao ▸ hn)
    exact ⟨hchamadas.trans hc, hitens ▸ hitem, fun i e hi ↦ hnone i e ((hetapa _ _).mp hi)⟩
  ausente hnone := by
    rw [hchamadas, hperdidas, hao]
    exact h.ausente (hitens ▸ hnone)

/-- A session that turns from one thing to another, neither of them about the item. -/
theorem etapa_update_iff {id : ℕ} {x : Option (ℕ × Etapa)}
    (hold : ∀ e, d.etapa i ≠ some (id, e)) (hnew : ∀ e, x ≠ some (id, e)) (j : ℕ) (e : Etapa) :
    update d.etapa i x j = some (id, e) ↔ d.etapa j = some (id, e) := by
  by_cases hj : j = i
  · subst hj
    rw [Function.update_self]
    exact iff_of_false (hnew e) (hold e)
  · rw [Function.update_of_ne hj]

theorem Fila.criar (h : Fila d) {item : Item} {e : Env} (hzero : item.tentativas = 0) :
    Fila (exec i (.criar item) e d).1 := by
  rw [exec]
  split
  next => exact h
  next hnone =>
    intro id
    by_cases hid : id = d.proximo
    · subst hid
      obtain ⟨hchamadas, hperdidas, hao⟩ := (h d.proximo).ausente hnone
      -- nobody has claimed what is not there
      have hlivre : ∀ j e, d.etapa j ≠ some (d.proximo, e) := by
        intro j e hj
        obtain ⟨item', hitem', -⟩ := (h d.proximo).processando hj
        rw [hnone] at hitem'
        cases hitem'
      have hitem : ∀ item', update d.itens d.proximo (some item) d.proximo = some item' →
          item'.tentativas = 0 := by
        intro item' hitem'
        rw [Function.update_self] at hitem'
        cases hitem'
        exact hzero
      refine ⟨fun hi ↦ absurd hi (hlivre _ _), fun hi ↦ absurd hi (hlivre _ _),
        fun hitem' ↦ ?_, fun hi ↦ absurd hi (hlivre _ _), fun hitem' _ ↦ ?_, fun hn ↦ ?_,
        fun habsent ↦ ?_⟩
      · rw [hitem _ hitem']
        exact Nat.zero_le _
      · rw [hitem _ hitem']
        dsimp only
        rw [hchamadas, hperdidas]
      · rw [hao] at hn
        cases hn
      · have habsent := (Function.update_self ..).symm.trans habsent
        cases habsent
    · exact (h id).frame (Function.update_of_ne hid _ _) rfl rfl rfl fun _ _ ↦ Iff.rfl

/-- The claim comes first, on a row with the attempts that were loaded, and before a delivery. -/
def Unico (d : Banco) (id : ℕ) (item : Item) : Prop :=
  (∀ j e, d.etapa j ≠ some (id, e)) ∧ d.aoEnviar id = none ∧
    ∀ atual, d.itens id = some atual → atual.tentativas = item.tentativas

/-- **The exact effect of a claim.** -/
theorem Fila.reivindicar_iff (h : Fila d) {id : ℕ} {item novo : Item} {e : Env}
    (hop : Apto i (.reivindicar id item novo) d) :
    Fila (exec i (.reivindicar id item novo) e d).1 ↔ Unico d id item := by
  obtain ⟨hlivre, hstatus, hlimite, hnovo, htentativas, atual, hatual, hmax⟩ := hop
  have hexec : (exec i (.reivindicar id item novo) e d).1
      = { d with
          itens := update d.itens id (some (item.gravar novo atual))
          etapa := update d.etapa i (some (id, .reivindicado)) } := by
    simp only [exec, hatual]
  have hgravado : (item.gravar novo atual).tentativas = item.tentativas + 1 := by
    have hne : item.tentativas ≠ novo.tentativas := by omega
    exact (if_neg hne).trans htentativas
  rw [hexec]
  constructor
  · intro h'
    have hself : update d.etapa i (some (id, .reivindicado)) i = some (id, .reivindicado) :=
      Function.update_self ..
    have houtros : ∀ j e, d.etapa j ≠ some (id, e) := by
      intro j e hj
      have hne : j ≠ i := by
        rintro rfl
        rw [hlivre] at hj
        cases hj
      exact hne ((h' id).unico ((Function.update_of_ne hne _ _).trans hj) hself)
    refine ⟨houtros, ?_, fun atual' hatual' ↦ ?_⟩
    · cases hao : d.aoEnviar id with
      | none => rfl
      | some n => exact absurd hself (((h' id).entregue hao).2.2 i _)
    · have hold := (h id).quitado hatual' fun j ↦ houtros j _
      have hnew := (h' id).pendente hself (Function.update_self ..)
      dsimp only at hnew
      rw [hgravado] at hnew
      omega
  · rintro ⟨houtros, hao, higuais⟩ id'
    by_cases hid : id' = id
    · subst hid
      have hitem : ∀ {item'}, update d.itens id' (some (item.gravar novo atual)) id' = some item' →
          item' = item.gravar novo atual := by
        intro item' hitem'
        rw [Function.update_self] at hitem'
        cases hitem'
        rfl
      have hvez : ∀ {j e}, update d.etapa i (some (id', .reivindicado)) j = some (id', e) →
          j = i := by
        intro j e hj
        by_contra hne
        rw [Function.update_of_ne hne] at hj
        exact houtros j e hj
      refine ⟨fun hi hj ↦ (hvez hi).trans (hvez hj).symm, fun _ ↦ ?_, fun hitem' ↦ ?_,
        fun _ hitem' ↦ ?_, fun _ hnone ↦ ?_, fun hn ↦ ?_, fun habsent ↦ ?_⟩
      · refine ⟨_, Function.update_self .., ?_⟩
        exact (if_neg fun heq ↦ hstatus (heq.trans hnovo)).trans hnovo
      · rw [hitem hitem', hgravado]
        exact hlimite.trans_eq hmax.symm
      · rw [hitem hitem', hgravado, ← higuais atual hatual]
        exact congrArg (· + 1) ((h id').quitado hatual fun j ↦ houtros j _)
      · exact absurd (Function.update_self ..) (hnone i)
      · rw [hao] at hn
        cases hn
      · have habsent := (Function.update_self ..).symm.trans habsent
        cases habsent
    · refine (h id').frame (Function.update_of_ne hid _ _) rfl rfl rfl
        (etapa_update_iff (fun e hi ↦ ?_) fun e heq ↦ ?_)
      · rw [hlivre] at hi
        cases hi
      · cases heq
        exact hid rfl

/-- The session that has the item gives it up. -/
theorem Contado.livre {id : ℕ} {e : Etapa} (h : Contado d id) (hi : d.etapa i = some (id, e)) :
    ∀ j e', update d.etapa i none j ≠ some (id, e') := by
  intro j e' hj
  by_cases hne : j = i
  · rw [hne, Function.update_self] at hj
    cases hj
  · rw [Function.update_of_ne hne] at hj
    exact hne (h.unico hj hi)

/-- The other items do not notice what the session does with its own. -/
theorem etapa_update_of_ne {id id' : ℕ} {e : Etapa} (hi : d.etapa i = some (id, e)) (hid : id' ≠ id)
    {x : Option (ℕ × Etapa)} (hx : ∀ e, x ≠ some (id', e)) (j : ℕ) (e' : Etapa) :
    update d.etapa i x j = some (id', e') ↔ d.etapa j = some (id', e') := by
  refine etapa_update_iff (fun e'' hi' ↦ ?_) hx j e'
  rw [hi] at hi'
  cases hi'
  exact hid rfl

theorem Fila.enviar (h : Fila d) {id : ℕ} {request : GatewayRequest} {correlationId : String}
    {e : Env} (hi : d.etapa i = some (id, .reivindicado)) :
    Fila (exec i (.enviar id request correlationId) e d).1 := by
  intro id'
  by_cases hid : id' = id
  · subst hid
    obtain ⟨item, hitem, hstatus⟩ := (h id').processando hi
    have hvez : ∀ {j e}, update d.etapa i (some (id', .enviado)) j = some (id', e) →
        j = i ∧ e = .enviado := by
      intro j e hj
      by_cases hne : j = i
      · subst hne
        rw [Function.update_self] at hj
        cases hj
        exact ⟨rfl, rfl⟩
      · rw [Function.update_of_ne hne] at hj
        exact absurd ((h id').unico hj hi) hne
    refine ⟨fun hi' hj' ↦ (hvez hi').1.trans (hvez hj').1.symm, fun _ ↦ ⟨item, hitem, hstatus⟩,
      fun hitem' ↦ (h id').limite hitem', fun hi' _ ↦ ?_, fun hitem' _ ↦ ?_, fun hn ↦ ?_,
      fun habsent ↦ ?_⟩
    · cases (hvez hi').2
    · have hold := (h id').pendente hi hitem'
      have hmais : (exec i (.enviar id' request correlationId) e d).1.chamadas id'
          = d.chamadas id' + 1 := Function.update_self ..
      rw [hmais, hold]
      exact Nat.add_right_comm ..
    · exact absurd hi (((h id').entregue hn).2.2 i _)
    · have hnone := hitem.symm.trans habsent
      cases hnone
  · refine (h id').frame rfl (Function.update_of_ne hid _ _) rfl rfl (etapa_update_of_ne hi hid ?_)
    intro e' heq
    cases heq
    exact hid rfl

theorem Fila.concluir (h : Fila d) {id : ℕ} {item novo : Item} {e : Env}
    (hop : Apto i (.concluir id item novo) d) : Fila (exec i (.concluir id item novo) e d).1 := by
  obtain ⟨hi, htentativas⟩ := hop
  obtain ⟨atual, hatual, -⟩ := (h id).processando hi
  have hexec : (exec i (.concluir id item novo) e d).1
      = { d with
          itens := update d.itens id (some (item.gravar novo atual))
          etapa := update d.etapa i none
          aoEnviar := if (item.gravar novo atual).statusEvento = .enviado then
              update d.aoEnviar id ((d.aoEnviar id).or (some (d.chamadas id)))
            else d.aoEnviar } := by
    simp only [exec, hatual]
  have hgravado : (item.gravar novo atual).tentativas = atual.tentativas :=
    if_pos htentativas.symm
  rw [hexec]
  intro id'
  by_cases hid : id' = id
  · subst hid
    have hlivre := (h id').livre hi
    have hitem : ∀ {item'}, update d.itens id' (some (item.gravar novo atual)) id' = some item' →
        item' = item.gravar novo atual := by
      intro item' hitem'
      rw [Function.update_self] at hitem'
      cases hitem'
      rfl
    have hao : d.aoEnviar id' = none := by
      cases hao : d.aoEnviar id' with
      | none => rfl
      | some n => exact absurd hi (((h id').entregue hao).2.2 i _)
    refine ⟨fun hi' ↦ absurd hi' (hlivre _ _), fun hi' ↦ absurd hi' (hlivre _ _), fun hitem' ↦ ?_,
      fun hi' ↦ absurd hi' (hlivre _ _), fun hitem' _ ↦ ?_, fun hn ↦ ?_, fun habsent ↦ ?_⟩
    · rw [hitem hitem', hgravado]
      exact (h id').limite hatual
    · rw [hitem hitem', hgravado]
      refine (h id').quitado hatual fun j hj ↦ ?_
      -- the only session that has the item has called already
      cases (h id').unico hj hi
      rw [hi] at hj
      cases hj
    · dsimp only at hn
      split at hn
      next hstatus =>
        rw [Function.update_self, hao] at hn
        cases hn
        exact ⟨rfl, ⟨_, Function.update_self .., hstatus⟩, hlivre⟩
      next =>
        rw [hao] at hn
        cases hn
    · have habsent := (Function.update_self ..).symm.trans habsent
      cases habsent
  · refine (h id').frame (Function.update_of_ne hid _ _) rfl rfl ?_
      (etapa_update_of_ne hi hid fun _ heq ↦ (by cases heq))
    dsimp only
    split
    · exact Function.update_of_ne hid _ _
    · rfl

theorem Fila.close (h : Fila d) (i : ℕ) : Fila (close i d) := by
  intro id'
  rw [Notifications.close]
  split
  next id hi =>
    by_cases hid : id' = id
    · subst hid
      obtain ⟨item, hitem, -⟩ := (h id').processando hi
      have hlivre := (h id').livre hi
      refine ⟨fun hi' ↦ absurd hi' (hlivre _ _), fun hi' ↦ absurd hi' (hlivre _ _),
        fun hitem' ↦ (h id').limite hitem', fun hi' ↦ absurd hi' (hlivre _ _), fun hitem' _ ↦ ?_,
        fun hn ↦ ?_, fun habsent ↦ ?_⟩
      · have hold := (h id').pendente hi hitem'
        dsimp only
        rw [Function.update_self, hold]
        exact Nat.add_assoc ..
      · exact absurd hi (((h id').entregue hn).2.2 i _)
      · rw [habsent] at hitem
        cases hitem
    · exact (h id').frame rfl rfl (Function.update_of_ne hid _ _) rfl
        (etapa_update_of_ne hi hid fun _ heq ↦ (by cases heq))
  next hother =>
    by_cases hid : ∃ e, d.etapa i = some (id', e)
    · obtain ⟨e, hi⟩ := hid
      obtain ⟨item, hitem, -⟩ := (h id').processando hi
      have hlivre := (h id').livre hi
      refine ⟨fun hi' ↦ absurd hi' (hlivre _ _), fun hi' ↦ absurd hi' (hlivre _ _),
        fun hitem' ↦ (h id').limite hitem', fun hi' ↦ absurd hi' (hlivre _ _), fun hitem' _ ↦ ?_,
        fun hn ↦ ?_, fun habsent ↦ ?_⟩
      · refine (h id').quitado hitem' fun j hj ↦ ?_
        cases (h id').unico hj hi
        exact hother id' hj
      · exact absurd hi (((h id').entregue hn).2.2 i _)
      · rw [habsent] at hitem
        cases hitem
    · push Not at hid
      exact (h id').frame rfl rfl rfl rfl (etapa_update_iff hid fun _ heq ↦ (by cases heq))

/-- **The condition.** A claim is made on a row that is neither being processed nor delivered and
has the attempts that the session has loaded. -/
def Atual (d : Banco) : ℕ × Cmd × Env → Prop
  | (_, .reivindicar id item _, _) => ∀ atual, d.itens id = some atual →
      atual.statusEvento ≠ .processando ∧ atual.statusEvento ≠ .enviado ∧
      atual.tentativas = item.tentativas
  | _ => True

/-- The weakest condition: besides, what is being processed may be a claim that has died. -/
def Exata (d : Banco) : ℕ × Cmd × Env → Prop
  | (_, .reivindicar id item _, _) => Unico d id item
  | _ => True

theorem Fila.exata (h : Fila d) {x : ℕ × Cmd × Env} (hx : Atual d x)
    (hop : Apto x.1 x.2.1 d) : Exata d x := by
  obtain ⟨i, op, e⟩ := x
  cases op with
  | reivindicar id item novo =>
    obtain ⟨-, -, -, -, -, atual, hatual, -⟩ := hop
    obtain ⟨hprocessando, henviado, -⟩ := hx atual hatual
    refine ⟨fun j e hj ↦ ?_, ?_, fun atual hatual ↦ (hx atual hatual).2.2⟩
    · obtain ⟨item', hitem', hstatus⟩ := (h id).processando hj
      rw [hatual] at hitem'
      cases hitem'
      exact hprocessando hstatus
    · cases hao : d.aoEnviar id with
      | none => rfl
      | some n =>
        obtain ⟨-, ⟨item', hitem', hstatus⟩, -⟩ := (h id).entregue hao
        rw [hatual] at hitem'
        cases hitem'
        exact absurd hstatus henviado
  | _ => trivial

theorem fila_exec_iff {op : Cmd} {e : Env} (h : Fila d) (hop : Apto i op d) :
    Fila (exec i op e d).1 ↔ Exata d (i, op, e) := by
  cases op with
  | reivindicar id item novo => exact h.reivindicar_iff hop
  | criar item => exact iff_of_true (h.criar hop) trivial
  | enviar id request correlationId => exact iff_of_true (h.enviar hop) trivial
  | concluir id item novo => exact iff_of_true (h.concluir hop) trivial
  | refresh id =>
    refine iff_of_true ?_ trivial
    rw [exec]
    split <;> exact h
  | uuid4 => exact iff_of_true h trivial
  | agora => exact iff_of_true h trivial
  | latencia => exact iff_of_true h trivial
  | obter id => exact iff_of_true h trivial

/-! ## Whole runs -/

theorem fila_inicio : Fila {} := fun _ ↦
  { unico := fun hi ↦ (by cases hi)
    processando := fun hi ↦ (by cases hi)
    limite := fun hitem ↦ (by cases hitem)
    pendente := fun hi ↦ (by cases hi)
    quitado := fun hitem ↦ (by cases hitem)
    entregue := fun hn ↦ (by cases hn)
    ausente := fun _ ↦ ⟨rfl, rfl, rfl⟩ }

theorem livre_inicio (i : ℕ) : Livre i {} := rfl

/-- The runs in which every claim meets the condition. -/
def atuais (U : Unicode) : TransitionSystem Sessoes Step :=
  (sessoes U).restrict fun p m ↦ ∀ x ∈ p.nextCall m.1, Atual p.store x

theorem fila_of_exata {tr : List Step} {p : Sessoes}
    (h : ((sessoes U).restrict fun p m ↦ ∀ x ∈ p.nextCall m.1, Exata p.store x).Run tr p) :
    Fila p.store ∧ ∀ m p', (sessoes U).step p m p' →
      (Fila p'.store ↔ ∀ x ∈ p.nextCall m.1, Exata p.store x) :=
  Pool.invariant_iff_of_callsIn (bounds U) livre_inicio fila_inicio
    (fun hI hop ↦ fila_exec_iff hI hop) (fun hI ↦ hI.close _) h

theorem exata_of_atuais {tr : List Step} {p : Sessoes} (h : (atuais U).Run tr p) :
    ((sessoes U).restrict fun p m ↦ ∀ x ∈ p.nextCall m.1, Exata p.store x).Run tr p := by
  refine TransitionSystem.Run.traceInvariant (T := atuais U) (I := fun tr p ↦ ((sessoes U).restrict
    fun p m ↦ ∀ x ∈ p.nextCall m.1, Exata p.store x).Run tr p) (fun hinit ↦ .start hinit)
    (fun {tr p m p'} _ hrun hstep ↦ ?_) h
  obtain ⟨hatual, hstep⟩ := hstep
  refine hrun.snoc ⟨fun x hx ↦ ?_, hstep⟩
  obtain ⟨k, htask⟩ := Pool.task_of_nextCall hx
  have hcalling := Pool.calling_of_run (bounds U) livre_inicio hrun.of_restrict
  have hop := (hcalling.running _ _ htask).op (Alheio.refl _ _)
  exact (fila_of_exata hrun).1.exata (hatual x hx) hop

theorem perdidas_exec (i : ℕ) (op : Cmd) (e : Env) (d : Banco) :
    (exec i op e d).1.perdidas = d.perdidas := by
  cases op with
  | criar item =>
    rw [exec]
    split <;> rfl
  | refresh id =>
    rw [exec]
    split <;> rfl
  | reivindicar id item novo =>
    rw [exec]
    split <;> rfl
  | concluir id item novo =>
    rw [exec]
    split <;> rfl
  | _ => rfl

/-- A claim dies by a crash only. -/
theorem perdidas_of_run {tr : List Step} {p : Sessoes} (h : (sessoes U).Run tr p)
    (htr : ∀ m ∈ tr, m.1 ≠ .crash m.1.slot) : p.store.perdidas = fun _ ↦ 0 := by
  refine TransitionSystem.Run.traceInvariant
    (I := fun tr p ↦ (∀ m ∈ tr, m.1 ≠ .crash m.1.slot) → p.store.perdidas = fun _ ↦ 0)
    (fun hinit _ ↦ ?_) (fun {tr p m p'} hrun hI hstep htr ↦ ?_) h htr
  · rw [hinit]
  · obtain ⟨htr, hm⟩ := List.forall_mem_append.mp htr
    have hm := hm m (List.mem_singleton_self m)
    have hI := hI htr
    obtain ⟨m, r⟩ := m
    cases r with
    | none =>
      obtain hsame | ⟨i, op, e, hexec⟩ := Pool.store_of_quiet hstep hm
      · rw [hsame]
        exact hI
      · rw [hexec]
        exact (perdidas_exec i op e p.store).trans hI
    | some r =>
      have hlivre := (Pool.calling_of_run (bounds U) livre_inicio hrun).outcome hstep
      rw [Pool.eq_of_outcome hstep]
      change (close m.slot p.store).perdidas = _
      rw [close, hlivre]
      exact hI

/-- **What is delivered is not sent again.** While every claim is made on a row that is neither
being processed nor delivered and has the attempts that the session has loaded, one session at most
is between its two commits on an item, the gateway is called at most `max_tentativas` times, no call
comes after a delivery, and, unless a session dies between its claim and its call, the attempts of
an item that nobody is about to send are its calls. -/
theorem delivered_once (U : Unicode) {tr : List Step} {p : Sessoes} (h : (atuais U).Run tr p) :
    (∀ id i j e e', p.store.etapa i = some (id, e) → p.store.etapa j = some (id, e') → i = j) ∧
    (∀ id item, p.store.itens id = some item → p.store.chamadas id ≤ item.maxTentativas) ∧
    ((∀ m ∈ tr, m.1 ≠ .crash m.1.slot) → ∀ id item, p.store.itens id = some item →
      (∀ i, p.store.etapa i ≠ some (id, .reivindicado)) →
      item.tentativas = p.store.chamadas id) ∧
    (∀ id n, p.store.aoEnviar id = some n → p.store.chamadas id = n) ∧
    ∀ m p', (sessoes U).step p m p' →
      (Fila p'.store ↔ ∀ x ∈ p.nextCall m.1, Exata p.store x) := by
  have hexata := exata_of_atuais h
  obtain ⟨hnow, hnext⟩ := fila_of_exata hexata
  refine ⟨fun id i j e e' ↦ (hnow id).unico, fun id item hitem ↦ ?_,
    fun htr id item hitem hnone ↦ ?_, fun id n hn ↦ ((hnow id).entregue hn).1, hnext⟩
  · have hlimite := (hnow id).limite hitem
    by_cases hclaimed : ∃ i, p.store.etapa i = some (id, .reivindicado)
    · obtain ⟨i, hi⟩ := hclaimed
      have hpendente := (hnow id).pendente hi hitem
      omega
    · have hquitado := (hnow id).quitado hitem (not_exists.mp hclaimed)
      omega
  · rw [(hnow id).quitado hitem hnone, perdidas_of_run hexata.of_restrict htr]
    rfl

/-! ## Two small runs -/

def sampleTexto {n : ℕ} (h : 1 ≤ n := by decide) : Texto n :=
  ⟨"x", by decide +kernel, by decide, by rw [show "x".length = 1 from rfl]; exact h⟩

private theorem autor_length : 1 ≤ 120 := by decide

def samplePayload : EnqueueRequest where
  tipoEvento := sampleTexto
  ambiente := sampleTexto
  correlationId := some sampleTexto
  titulo := sampleTexto
  texto := sampleTexto
  autor := sampleTexto autor_length
  limite := by decide

/-- A step at which the gateway would deliver, or not. -/
def sampleAdvance (i : ℕ) (entregue : Bool) : Move Request Env :=
  .advance i { agora := .newYearNoon, gateway := .ok { entregue } }

/-- A first attempt that fails, and a second one. -/
def sampleRetry : List (Move Request Env) :=
  .start 0 (.enfileirar samplePayload) :: List.replicate 12 (sampleAdvance 0 false)
    ++ .start 1 (.reprocessar 1) :: List.replicate 12 (sampleAdvance 1 true)

/-- An item is delivered, and then processed once more. -/
def sampleAgain : List (Move Request Env) :=
  .start 0 (.enfileirar samplePayload) :: List.replicate 13 (sampleAdvance 0 true)
    ++ .start 1 (.processar 1) :: List.replicate 12 (sampleAdvance 1 true)

def sampleMoves (moves : List (Move Request Env)) : List Step × Sessoes :=
  TransitionSystem.runCalls (Pool.move (code .ascii) machine) moves ⟨{}, fun _ ↦ none⟩

instance (d : Banco) : ∀ x : ℕ × Cmd × Env, Decidable (Atual d x)
  | (_, .reivindicar id item _, _) =>
    match h : d.itens id with
    | none => .isTrue fun atual hatual ↦ (by rw [h] at hatual; cases hatual)
    | some atual => decidable_of_iff (atual.statusEvento ≠ .processando ∧
        atual.statusEvento ≠ .enviado ∧ atual.tentativas = item.tentativas)
        ⟨fun hatual atual' hatual' ↦ by
          rw [h] at hatual'
          cases hatual'
          exact hatual, fun hall ↦ hall atual h⟩
  | (_, .uuid4, _) | (_, .agora, _) | (_, .latencia, _) | (_, .criar _, _) | (_, .obter _, _)
  | (_, .refresh _, _) | (_, .enviar _ _ _, _) | (_, .concluir _ _ _, _) => .isTrue trivial

theorem delivered_once_sample :
    ((sampleMoves sampleRetry).2.store.itens 1).map (·.statusEvento) = some .enviado ∧
    (sampleMoves sampleRetry).2.store.chamadas 1 = 2 ∧
    (sampleMoves sampleRetry).2.store.aoEnviar 1 = some 2 := by
  have hrun : (atuais .ascii).Run (sampleMoves sampleRetry).1 (sampleMoves sampleRetry).2 :=
    TransitionSystem.run_restrict_runCalls _ (by decide +kernel)
  have hao : (sampleMoves sampleRetry).2.store.aoEnviar 1 = some 2 := by decide +kernel
  exact ⟨by decide +kernel, (delivered_once .ascii hrun).2.2.2.1 1 2 hao, hao⟩

/-- The second call comes after the delivery. -/
theorem delivered_twice : ∃ tr p, (sessoes .ascii).Run tr p ∧ p.store.aoEnviar 1 = some 1 ∧
    p.store.chamadas 1 = 2 :=
  ⟨_, (sampleMoves sampleAgain).2, TransitionSystem.run_runCalls _ _ _, by decide +kernel,
    by decide +kernel⟩

end Notifications

end ReqSys
