import ReqSys.Foundation.Answers
import ReqSys.Pentaho.Batches

/-!
# Pentaho integration: withdrawn claims

A worker claims a batch, and writes its outcome later without looking whether the claim is still in
force. So does the operator's reset, which looked at the status before. By then the recovery may
have withdrawn the claim, and others may have worked on the batch.

`withdrawn_void` says what the conditional statements are worth when every write of a session finds
the row as it was loaded, and a worker writes under a claim in force: whoever lost a claim changes
nothing, a completed batch stays completed, and every claim ends once.
-/

namespace ReqSys

namespace Pentaho

open Program

/-! ## A process that claims -/

/-- Nobody writes that a batch is worked on, but by a claim. -/
def Cmd.Normal : Cmd → Prop
  | gravar _ novo => novo.status ≠ .processando
  | _ => True

/-- What a worker does under its claim. -/
def Cmd.Trabalho : Cmd → Prop
  | agora | obter _ | buscar _ => True
  | gravar _ novo => novo.status = .concluido ∨ novo.status = .quarentena
  | _ => False

/-- The answer of a claim that is taken. -/
def Cmd.Toma : (op : Cmd) → Except Erro op.Ans → Prop
  | .reivindicar _ _, .ok true => True
  | _, _ => False

/-- The answers that can occur while there is a batch with this `lote_id`. -/
def Cmd.Possivel (loteId : String) : (op : Cmd) → Except Erro op.Ans → Prop
  | .obter id, .ok none => id ≠ loteId
  | _, _ => True

/-- The batch that a call claims. -/
def Cmd.alvo : Cmd → String
  | reivindicar loteId _ => loteId
  | _ => ""

/-- A program that only works under its claim once it has one, and then returns values with `Q`. -/
def ReivindicaUma {α : Type} (Q : α → Prop) (p : Processo α) : Prop :=
  p.After Cmd.Toma (fun op ↦ Cmd.Possivel op.alvo) Cmd.Normal Cmd.Trabalho Q

/-- A call that claims nothing. -/
def Cmd.Alheia : Cmd → Prop
  | reivindicar _ _ => False
  | op => op.Normal

section Programs

variable {α β : Type} {p : Processo α} {f : α → Processo β} {Q : α → Prop} {R : β → Prop}
  {cfg : Config} {op : Cmd}

theorem Cmd.Alheia.normal (h : op.Alheia) : op.Normal := by
  cases op with
  | reivindicar => exact h.elim
  | _ => exact h

theorem Cmd.Alheia.not_toma (h : op.Alheia) (r : Except Erro op.Ans) : ¬op.Toma r := by
  cases op with
  | reivindicar => exact h.elim
  | _ => exact fun h ↦ h

theorem Cmd.Trabalho.alheia (h : op.Trabalho) : op.Alheia := by
  cases op with
  | reivindicar => exact h
  | gravar antigo novo =>
    intro hstatus
    rw [Cmd.Trabalho, hstatus] at h
    exact h.elim (by nofun) (by nofun)
  | _ => exact trivial

theorem reivindicaUma_of_alheia (hp : p.AllCalls Cmd.Alheia) : ReivindicaUma Q p :=
  .of_allCalls (hp.imp fun _ h ↦ ⟨h.normal, h.not_toma⟩)

/-- What claims nothing may come first. -/
theorem ReivindicaUma.bind_of_alheia (hp : p.AllCalls Cmd.Alheia)
    (hf : ∀ a, ReivindicaUma R (f a)) : ReivindicaUma R (p >>= f) :=
  After.bind (Q := fun _ ↦ False) (reivindicaUma_of_alheia hp) hf fun _ _ h ↦ h.elim

/-- The work under a claim. -/
theorem executar_calls (cfg : Config) (lote : Lote) :
    (executarLoteReivindicado cfg lote).AllCalls Cmd.Trabalho := by
  refine AllCalls.bind (AllCalls.attempt ?_) fun fim ↦ ?_
  · refine AllCalls.bind (.ofExcept _) fun contagem ↦ ?_
    refine AllCalls.bind (.perform trivial) fun agora ↦ ?_
    exact .perform (P := Cmd.Trabalho) (.inl rfl)
  · cases fim with
    | ok => exact .ret _
    | error x =>
      refine AllCalls.bind (.perform trivial) fun o ↦ ?_
      cases o with
      | none => exact .raise _
      | some atual =>
        refine AllCalls.bind (.perform trivial) fun agora ↦ ?_
        exact .perform (P := Cmd.Trabalho) (.inr rfl)

/-- **`reivindicar_lote`** returns the batch that it claims. -/
theorem reivindicarLote_uma (loteId : String) :
    ReivindicaUma (fun o ↦ o.isSome) (reivindicarLote loteId) := by
  refine .bind_of_alheia (.perform trivial) fun agora ↦ ⟨trivial, fun r ↦ ?_⟩
  refine ⟨fun htoma ↦ ?_, fun htoma ↦ ?_⟩
  · cases r with
    | ok b =>
      cases b with
      | true =>
        refine ⟨trivial, fun r hr ↦ ?_⟩
        cases r with
        | ok o =>
          cases o with
          | none => exact absurd rfl hr
          | some lote => exact rfl
        | error x => exact trivial
      | false => exact htoma.elim
    | error x => exact trivial
  · cases r with
    | ok b =>
      cases b with
      | true => exact absurd trivial htoma
      | false => exact trivial
    | error x => exact trivial

theorem processarLotePorId_uma (cfg : Config) (loteId : String) :
    ReivindicaUma (fun b ↦ b = true) (processarLotePorId cfg loteId) := by
  refine After.bind (reivindicarLote_uma loteId) (fun o ↦ ?_) fun o op ho ↦ ?_
  · cases o with
    | none => exact trivial
    | some lote =>
      refine reivindicaUma_of_alheia (AllCalls.bind ?_ fun _ ↦ .ret true)
      exact (executar_calls cfg lote).imp fun _ h ↦ h.alheia
  · cases o with
    | none => cases ho
    | some lote => exact (Meets.of_allCalls (executar_calls cfg lote)).bind fun _ _ ↦ rfl

/-- The loop ends with the first batch that it claims. -/
theorem processarPrimeiro_uma (cfg : Config) (candidatos : List String) :
    ReivindicaUma (fun _ ↦ True) (processarPrimeiro cfg candidatos) := by
  induction candidatos with
  | nil => exact trivial
  | cons loteId candidatos ih =>
    refine After.bind (processarLotePorId_uma cfg loteId) (fun b ↦ ?_) fun b op hb ↦ ?_
    · cases b with
      | true => exact trivial
      | false => exact ih
    · rw [hb]
      exact trivial

theorem processarProximoLote_uma (cfg : Config) (limiteBusca : ℤ) :
    ReivindicaUma (fun _ ↦ True) (processarProximoLote cfg limiteBusca) :=
  .bind_of_alheia (.perform trivial) fun candidatos ↦ processarPrimeiro_uma cfg candidatos

theorem refresh_calls (id : ℕ) : (refresh id).AllCalls Cmd.Alheia := by
  refine AllCalls.bind (.perform trivial) fun o ↦ ?_
  cases o with
  | none => exact .raise _
  | some lote => exact .ret _

theorem criar_calls (cfg : Config) (payload : PentahoLoteEntrada) (key corr : String) :
    (criarOuObterLote cfg payload key corr).AllCalls Cmd.Alheia := by
  have hreuso : ∀ lote : Lote, AllCalls Cmd.Alheia (do
      Program.ofExcept (validarReusoIdempotencia cfg lote (cfg.dumps payload.modelDump))
      return (lote, true) : Processo (Lote × Bool)) :=
    fun lote ↦ AllCalls.bind (.ofExcept _) fun _ ↦ .ret _
  refine AllCalls.bind (.ofExcept _) fun _ ↦ AllCalls.bind (.perform trivial) fun o ↦ ?_
  cases o with
  | some existente => exact hreuso existente
  | none =>
    refine AllCalls.bind (.perform trivial) fun loteId ↦ ?_
    refine AllCalls.bind (AllCalls.attempt ?_) fun r ↦ ?_
    · exact AllCalls.bind (.perform trivial) fun id ↦ refresh_calls id
    · cases r with
      | ok lote => exact .ret _
      | error x =>
        cases x with
        | integrityError m =>
          refine AllCalls.bind (.perform trivial) fun o ↦ ?_
          cases o with
          | some existente => exact hreuso existente
          | none => exact .raise _
        | _ => exact .raise _

theorem recuperar_calls (cfg : Config) (agora timeout max : Option ℤ) :
    (recuperarLotesAbandonados cfg agora timeout max).AllCalls Cmd.Alheia := by
  refine AllCalls.bind ?_ fun instante ↦ ?_
  · cases agora with
    | none => exact .perform trivial
    | some t => exact .ret _
  · dsimp only
    split
    · exact .raise _
    · split
      · exact .raise _
      · refine AllCalls.bind (.perform trivial) fun abandonados ↦ ?_
        exact AllCalls.bind (.perform trivial) fun alterados ↦ .ret _

theorem reprocessar_calls (loteId : String) :
    (prepararReprocessamento loteId).AllCalls Cmd.Alheia := by
  refine AllCalls.bind (AllCalls.bind (.perform trivial) fun o ↦ ?_) fun lote ↦ ?_
  · cases o with
    | none => exact .raise _
    | some lote => exact .ret _
  · split
    · exact .raise _
    · refine AllCalls.bind (.perform trivial) fun agora ↦ ?_
      exact AllCalls.bind (.perform (by nofun : StatusLote.pendente ≠ .processando))
        fun _ ↦ refresh_calls lote.id

theorem executarCiclo_uma (cfg : Config) : ReivindicaUma (fun _ ↦ True) (executarCiclo cfg) := by
  refine After.bind (After.attempt (Q := fun _ ↦ True) ?_) (fun fim ↦ ?_) fun fim op _ ↦ ?_
  · refine ReivindicaUma.bind_of_alheia (recuperar_calls cfg none none none) fun recuperacao ↦ ?_
    exact After.bind (processarProximoLote_uma cfg 20) (fun _ ↦ trivial) fun _ _ _ ↦ trivial
  · cases fim <;> exact trivial
  · cases fim <;> exact trivial

/-- **Every process claims at most one batch**, and only works under its claim from then on. -/
theorem code_uma (cfg : Config) (pedido : Pedido) :
    ReivindicaUma (fun _ ↦ True) (code cfg pedido) := by
  have hsaida : ∀ {α : Type} {p : Processo α} {Q : α → Prop} {f : α → Saida}, ReivindicaUma Q p →
      ReivindicaUma (fun _ ↦ True) (do let a ← p; return f a) :=
    fun hp ↦ After.bind hp (fun _ ↦ trivial) fun _ _ _ ↦ trivial
  have halheia : ∀ {α : Type} {p : Processo α}, p.AllCalls Cmd.Alheia →
      ReivindicaUma (fun _ ↦ True) p := reivindicaUma_of_alheia
  cases pedido with
  | criar payload key corr => exact hsaida (halheia (criar_calls cfg payload key corr))
  | processar loteId => exact hsaida (processarLotePorId_uma cfg loteId)
  | processarProximo limite => exact hsaida (processarProximoLote_uma cfg limite)
  | recuperar agora timeout max => exact hsaida (halheia (recuperar_calls cfg agora timeout max))
  | reprocessar loteId => exact hsaida (halheia (reprocessar_calls loteId))
  | ciclo => exact hsaida (executarCiclo_uma cfg)

end Programs

/-! ## The table -/

namespace Banco

variable {s : Banco} {i id : ℕ} {lote : Lote}

/-- The claim is the last one of its batch, and the batch is worked on. -/
def Vigente (s : Banco) (c : Reivindicacao) : Prop :=
  ∃ lote, s.lote c.1 = some lote ∧ lote.tentativas = c.2 ∧ lote.status = .processando

/-- The claim was withdrawn by the recovery. -/
def Retirada (s : Banco) (c : Reivindicacao) : Prop := (c, .retirada) ∈ s.encerradas

theorem lote_change (s : Banco) (id id' : ℕ) {f : Lote → Lote} (hf : ∀ l, (f l).id = l.id) :
    (s.change id f).lote id' = if id' = id then (s.lote id).map f else s.lote id' :=
  Table.lookup_update (fun l hl ↦ (hf l).trans hl) s.lotes

theorem id_of_lote (h : s.lote id = some lote) : lote.id = id := Table.key_of_lookup h

theorem lote_inserir {novo : Lote} (h : s.lote id = some lote) :
    Banco.lote { s with lotes := s.lotes ++ [novo] } id = some lote := by
  change Table.lookup Lote.id id (s.lotes ++ [novo]) = some lote
  rw [Table.lookup_concat, show Table.lookup Lote.id id s.lotes = _ from h, Option.some_or]

/-- The invariant. A claim that ended is not in force, and it ended once. -/
structure Coerente (s : Banco) : Prop where
  keyed : Table.Keyed Lote.id s.lotes
  id_le : ∀ l ∈ s.lotes, l.id ≤ s.lotes.length
  posse : ∀ i c, s.posse i = some c → ∃ lote, s.lote c.1 = some lote
  tentativas : ∀ c ∈ s.encerradas.map Prod.fst, ∃ lote, s.lote c.1 = some lote ∧
    c.2 ≤ lote.tentativas
  encerradas : ∀ c ∈ s.encerradas.map Prod.fst, ¬s.Vigente c
  nodup : (s.encerradas.map Prod.fst).Nodup

namespace Coerente

theorem lote_of_obter (h : s.Coerente) {loteId : String} (hobter : s.obter loteId = some lote) :
    s.lote lote.id = some lote := h.keyed.lookup_of_mem (Table.mem_of_lookup hobter)

/-- A new row. -/
theorem inserir (h : s.Coerente) {novo : Lote} (hid : novo.id = s.lotes.length + 1) :
    Coerente { s with lotes := s.lotes ++ [novo] } where
  keyed := by
    refine h.keyed.concat fun l hl heq ↦ ?_
    have := h.id_le l hl
    omega
  id_le l hl := by
    rw [List.length_append, List.length_singleton]
    rcases List.mem_append.mp hl with hold | hnew
    · exact Nat.le_succ_of_le (h.id_le l hold)
    · rw [List.mem_singleton.mp hnew, hid]
  posse i c hc := by
    obtain ⟨lote, hlote⟩ := h.posse i c hc
    exact ⟨lote, lote_inserir hlote⟩
  tentativas c hc := by
    obtain ⟨lote, hlote, hle⟩ := h.tentativas c hc
    exact ⟨lote, lote_inserir hlote, hle⟩
  encerradas c hc := by
    rintro ⟨lote, hlote, hvigente⟩
    obtain ⟨old, hold, -⟩ := h.tentativas c hc
    rw [lote_inserir hold] at hlote
    cases hlote
    exact h.encerradas c hc ⟨lote, hold, hvigente⟩
  nodup := h.nodup

/-- A row is changed that keeps its claims. What ends is the claim in force. -/
theorem encerra (h : s.Coerente) {f : Lote → Lote} (hid : ∀ l, (f l).id = l.id)
    (hlote : s.lote id = some lote) (htentativas : (f lote).tentativas = lote.tentativas)
    (hstatus : (f lote).status ≠ .processando) {fim : List (Reivindicacao × Desfecho)}
    (hfim : fim = [] ∨ lote.status = .processando ∧ ∃ d, fim = [((id, lote.tentativas), d)]) :
    Coerente { s.change id f with encerradas := s.encerradas ++ fim } where
  keyed := h.keyed.keyed_update hid
  id_le l hl := by
    have hlength : (Table.update Lote.id id f s.lotes).length = s.lotes.length := List.length_map _
    change l.id ≤ (Table.update Lote.id id f s.lotes).length
    rw [hlength]
    obtain ⟨hold, -⟩ | ⟨old, hold, -, rfl⟩ := Table.mem_update hl
    · exact h.id_le l hold
    · exact (hid old).trans_le (h.id_le old hold)
  posse i c hc := by
    obtain ⟨old, hold⟩ := h.posse i c hc
    have hlookup := lote_change s id c.1 hid
    split at hlookup
    · exact ⟨f lote, hlookup.trans (congrArg (Option.map f) hlote)⟩
    · exact ⟨old, hlookup.trans hold⟩
  tentativas c hc := by
    have hlookup := lote_change s id c.1 hid
    have hle : ∃ old, s.lote c.1 = some old ∧ c.2 ≤ old.tentativas := by
      rw [List.map_append, List.mem_append] at hc
      rcases hc with hold | hnew
      · exact h.tentativas c hold
      · obtain rfl | ⟨-, d, rfl⟩ := hfim
        · cases hnew
        · rw [List.mem_singleton.mp hnew]
          exact ⟨lote, hlote, le_rfl⟩
    obtain ⟨old, hold, hle⟩ := hle
    split at hlookup
    next heq =>
      rw [heq, hlote] at hold
      cases hold
      exact ⟨f lote, hlookup.trans (congrArg (Option.map f) hlote), htentativas ▸ hle⟩
    next => exact ⟨old, hlookup.trans hold, hle⟩
  encerradas c hc := by
    rintro ⟨new, hnew, hcount, hprocessando⟩
    have hlookup := lote_change s id c.1 hid
    rw [show (s.change id f).lote c.1 = _ from hnew] at hlookup
    split at hlookup
    next heq =>
      rw [hlote] at hlookup
      cases hlookup
      exact hstatus hprocessando
    next hne =>
      rw [List.map_append, List.mem_append] at hc
      rcases hc with hold | hend
      · exact h.encerradas c hold ⟨new, hlookup.symm, hcount, hprocessando⟩
      · obtain rfl | ⟨-, d, rfl⟩ := hfim
        · cases hend
        · rw [List.mem_singleton.mp hend] at hne
          exact hne rfl
  nodup := by
    rw [List.map_append]
    obtain rfl | ⟨hprocessando, d, rfl⟩ := hfim
    · rw [List.map_nil, List.append_nil]
      exact h.nodup
    · refine List.nodup_append.mpr ⟨h.nodup, List.nodup_singleton _, fun a ha b hb hab ↦ ?_⟩
      rw [List.mem_singleton.mp hb] at hab
      exact h.encerradas a ha (hab ▸ ⟨lote, hlote, rfl, hprocessando⟩)

/-- **A claim.** -/
theorem reivindica (h : s.Coerente) (hlote : s.lote id = some lote) (agora : ℤ) (i : ℕ) :
    Coerente { s.change id fun l ↦ l.reivindicado agora with
      posse := Function.update s.posse i (some (id, lote.tentativas + 1)) } := by
  have hlookup := fun id' ↦ lote_change s id id' (f := fun l ↦ l.reivindicado agora) fun _ ↦ rfl
  have hkept : ∀ c old, s.lote c = some old → ∃ new,
      (s.change id fun l ↦ l.reivindicado agora).lote c = some new ∧
        old.tentativas ≤ new.tentativas := by
    intro c old hold
    have hc := hlookup c
    split at hc
    next heq =>
      rw [heq, hlote] at hold
      cases hold
      rw [hlote] at hc
      exact ⟨_, hc, Nat.le_succ _⟩
    next => exact ⟨old, hc.trans hold, le_rfl⟩
  constructor
  · exact h.keyed.keyed_update (f := fun l ↦ l.reivindicado agora) fun _ ↦ rfl
  · intro l hl
    have hlength : (Table.update Lote.id id (fun l ↦ l.reivindicado agora) s.lotes).length
        = s.lotes.length := List.length_map _
    change l.id ≤ (Table.update Lote.id id _ s.lotes).length
    rw [hlength]
    obtain ⟨hold, -⟩ | ⟨old, hold, -, rfl⟩ := Table.mem_update hl
    · exact h.id_le l hold
    · exact h.id_le old hold
  · intro j c hc
    have hold : ∃ old, s.lote c.1 = some old := by
      change Function.update s.posse i _ j = some c at hc
      by_cases hj : j = i
      · rw [hj, Function.update_self] at hc
        cases hc
        exact ⟨lote, hlote⟩
      · rw [Function.update_of_ne hj] at hc
        exact h.posse j c hc
    obtain ⟨old, hold⟩ := hold
    obtain ⟨new, hnew, -⟩ := hkept c.1 old hold
    exact ⟨new, hnew⟩
  · intro c hc
    obtain ⟨old, hold, hle⟩ := h.tentativas c hc
    obtain ⟨new, hnew, hgrown⟩ := hkept c.1 old hold
    exact ⟨new, hnew, hle.trans hgrown⟩
  · rintro c hc ⟨new, hnew, hcount, hprocessando⟩
    obtain ⟨old, hold, hle⟩ := h.tentativas c hc
    have hc' := hlookup c.1
    rw [show (s.change id fun l ↦ l.reivindicado agora).lote c.1 = _ from hnew] at hc'
    split at hc'
    next heq =>
      -- the new claim is the next one
      rw [heq, hlote] at hold
      cases hold
      rw [hlote] at hc'
      cases hc'
      exact absurd hcount (by change lote.tentativas + 1 ≠ c.2; omega)
    next => exact h.encerradas c hc ⟨new, hc'.symm, hcount, hprocessando⟩
  · exact h.nodup

/-- The statement of a recovery. -/
theorem recuperar (h : s.Coerente) (limite : ℤ) (id : ℕ) {v : Valores}
    (hv : v.status ≠ .processando) : (s.recuperar limite id v).1.Coerente := by
  rw [Banco.recuperar]
  split
  · exact h
  next lote hlote =>
    split
    next habandoned =>
      exact h.encerra (f := fun l ↦ l.recuperado v) (fun _ ↦ rfl) hlote rfl hv
        (.inr ⟨habandoned.1, .retirada, rfl⟩)
    next => exact h

end Coerente

theorem valores_status (instante limite : ℤ) (tentativas : ℕ) :
    (valores instante limite tentativas).status ≠ .processando := by
  rw [valores]
  split <;> nofun

theorem Coerente.recuperarTodos (limite instante limiteTentativas : ℤ) (abandonados : List (ℕ × ℕ))
    (h : s.Coerente) :
    (s.recuperarTodos limite instante limiteTentativas abandonados).1.Coerente := by
  induction abandonados generalizing s with
  | nil => exact h
  | cons x abandonados ih => exact ih (h.recuperar limite x.1 (valores_status _ _ _))

/-- A recovery changes only batches that are worked on. -/
theorem lote_recuperar (limite : ℤ) (v : Valores) (hlote : s.lote id = some lote)
    (hstatus : lote.status ≠ .processando) (id' : ℕ) :
    (s.recuperar limite id' v).1.lote id = some lote := by
  rw [Banco.recuperar]
  split
  · exact hlote
  next other hother =>
    split
    next habandoned =>
      refine (lote_change s id' id (f := fun l ↦ l.recuperado v) fun _ ↦ rfl).trans ?_
      split
      next heq =>
        rw [← heq, hlote] at hother
        cases hother
        exact absurd habandoned.1 hstatus
      next => exact hlote
    next => exact hlote

theorem lote_recuperarTodos (limite instante limiteTentativas : ℤ) (abandonados : List (ℕ × ℕ))
    (hlote : s.lote id = some lote) (hstatus : lote.status ≠ .processando) :
    (s.recuperarTodos limite instante limiteTentativas abandonados).1.lote id = some lote := by
  induction abandonados generalizing s with
  | nil => exact hlote
  | cons x abandonados ih => exact ih (lote_recuperar limite _ hlote hstatus x.1)

/-- A recovery does not touch the claims that are held. -/
theorem posse_recuperarTodos (limite instante limiteTentativas : ℤ) (abandonados : List (ℕ × ℕ))
    (s : Banco) :
    (s.recuperarTodos limite instante limiteTentativas abandonados).1.posse = s.posse := by
  induction abandonados generalizing s with
  | nil => exact rfl
  | cons x abandonados ih =>
    refine (ih _).trans ?_
    rw [Banco.recuperar]
    split
    · rfl
    · split <;> rfl

/-- A batch that is there stays there, under its `lote_id`. -/
theorem exists_recuperarTodos (limite instante limiteTentativas : ℤ) (abandonados : List (ℕ × ℕ))
    (hlote : s.lote id = some lote) : ∃ lote',
      (s.recuperarTodos limite instante limiteTentativas abandonados).1.lote id = some lote' ∧
        lote'.loteId = lote.loteId := by
  induction abandonados generalizing s lote with
  | nil => exact ⟨lote, hlote, rfl⟩
  | cons x abandonados ih =>
    have hstep : ∃ lote', (s.recuperar limite x.1
        (valores instante limiteTentativas x.2)).1.lote id = some lote' ∧
          lote'.loteId = lote.loteId := by
      rw [Banco.recuperar]
      split
      · exact ⟨lote, hlote, rfl⟩
      · split
        · have hlookup := lote_change s x.1 id
            (f := fun l ↦ l.recuperado (valores instante limiteTentativas x.2)) fun _ ↦ rfl
          split at hlookup
          next heq =>
            rw [show s.lote x.1 = some lote from heq ▸ hlote] at hlookup
            exact ⟨lote.recuperado (valores instante limiteTentativas x.2), hlookup, rfl⟩
          next => exact ⟨lote, hlookup.trans hlote, rfl⟩
        · exact ⟨lote, hlote, rfl⟩
    obtain ⟨lote', hlote', heq⟩ := hstep
    obtain ⟨lote'', hlote'', heq'⟩ := ih hlote'
    exact ⟨lote'', hlote'', heq'.trans heq⟩

end Banco

/-! ## One call -/

/-- The condition on a call. What a session writes was loaded as it is stored; an outcome is written
under a claim in force, and a reset over a batch in quarantine. -/
def EmDia (p : Processos) (x : ℕ × Cmd × Env) : Prop :=
  match x.2.1 with
  | .gravar antigo novo => x.2.2.falha = none → p.store.lote antigo.id = some antigo ∧
      if novo.status = .pendente then antigo.status = .quarentena
      else antigo.status = .processando ∧ p.store.posse x.1 = some (antigo.id, antigo.tentativas)
  | _ => True

instance (p : Processos) : DecidablePred (EmDia p)
  | (_, .gravar _ _, _) => inferInstanceAs (Decidable (_ → _ ∧ ite _ _ _))
  | (_, .agora, _) | (_, .uuid4, _) | (_, .buscarPorIdempotencia _, _) | (_, .inserir _, _)
  | (_, .obter _, _) | (_, .buscar _, _) | (_, .reivindicar _ _, _) | (_, .listarPendentes _, _)
  | (_, .listarAbandonados _, _) | (_, .recuperar _ _ _ _, _) => instDecidableTrue

/-- A completed batch stays completed. -/
def ConclusaoMantida (s s' : Banco) : Prop :=
  ∀ id lote, s.lote id = some lote → lote.status = .concluido →
    ∃ lote', s'.lote id = some lote' ∧ lote'.status = .concluido

/-- In a move of a process whose claim was withdrawn the batch stays as it is. -/
def SemEfeito (p : Processos) (m : Passo) (p' : Processos) : Prop :=
  ∀ c, p.store.posse m.1.slot = some c → p.store.Retirada c → p'.store.lote c.1 = p.store.lote c.1

section Calls

variable {p : Processos} {s : Banco} {i : ℕ} {op : Cmd} {e : Env}

/-- **What a call does to the database.** -/
theorem exec_cases (i : ℕ) (op : Cmd) (e : Env) (s : Banco) :
    (op.Toma (exec i op e s).2 ∧ ∃ loteId agora lote, op = .reivindicar loteId agora ∧
      s.obter loteId = some lote ∧ lote.status = .pendente ∧
      (exec i op e s).1 = { s.change lote.id fun l ↦ l.reivindicado agora with
        posse := Function.update s.posse i (some (lote.id, lote.tentativas + 1)) }) ∨
    ¬op.Toma (exec i op e s).2 ∧ ((exec i op e s).1 = s ∨
      (∃ novo, novo.id = s.lotes.length + 1 ∧
        (exec i op e s).1 = { s with lotes := s.lotes ++ [novo] }) ∨
      (∃ antigo novo, op = .gravar antigo novo ∧ e.falha = none ∧
        (exec i op e s).1 = (efeito i (.gravar antigo novo) e s).1) ∨
      ∃ limite instante limiteTentativas abandonados,
        op = .recuperar limite instante limiteTentativas abandonados ∧
        (exec i op e s).1 = (s.recuperarTodos limite instante limiteTentativas abandonados).1) := by
  have hexec : (∃ m, exec i op e s = (s, .error (.banco m))) ∨
      (e.falha = none ∨ op.Local) ∧ exec i op e s = efeito i op e s := by
    rw [exec]
    split
    next hfalha => exact .inr ⟨.inl hfalha, rfl⟩
    next m _ =>
      split
      next hlocal => exact .inr ⟨.inr hlocal, rfl⟩
      · exact .inl ⟨m, rfl⟩
  obtain ⟨m, hexec⟩ | ⟨hfalha, hexec⟩ := hexec
  all_goals rw [hexec]
  · refine .inr ⟨?_, .inl rfl⟩
    cases op <;> exact fun h ↦ h
  cases op with
  | reivindicar loteId agora =>
    rw [efeito, Banco.reivindicar]
    split
    · exact .inr ⟨fun h ↦ h, .inl rfl⟩
    next lote hlote =>
      split
      next hpendente => exact .inl ⟨trivial, loteId, agora, lote, rfl, hlote, hpendente, rfl⟩
      · exact .inr ⟨fun h ↦ h, .inl rfl⟩
  | inserir lote =>
    refine .inr ⟨fun h ↦ h, ?_⟩
    rw [efeito]
    split
    · exact .inl rfl
    · exact .inr (.inl ⟨{ lote with id := s.lotes.length + 1, criadoEm := e.now }, rfl, rfl⟩)
  | gravar antigo novo =>
    refine .inr ⟨fun h ↦ h, .inr (.inr (.inl ⟨antigo, novo, rfl, ?_, rfl⟩))⟩
    exact hfalha.resolve_right fun hlocal ↦ hlocal
  | recuperar limite instante limiteTentativas abandonados =>
    refine .inr ⟨fun h ↦ h, .inr (.inr (.inr ?_))⟩
    exact ⟨limite, instante, limiteTentativas, abandonados, rfl, rfl⟩
  | _ => exact .inr ⟨fun h ↦ h, .inl rfl⟩

theorem gravado_id (antigo novo : Lote) (now : ℤ) (l : Lote) :
    (Lote.gravado antigo novo now l).id = l.id := by
  rw [Lote.gravado]
  split <;> rfl

theorem gravado_loteId (antigo novo : Lote) (now : ℤ) (l : Lote) :
    (Lote.gravado antigo novo now l).loteId = l.loteId := by
  rw [Lote.gravado]
  split <;> rfl

theorem gravado_tentativas (antigo novo : Lote) (now : ℤ) (l : Lote) :
    (Lote.gravado antigo novo now l).tentativas = l.tentativas := by
  rw [Lote.gravado]
  split <;> rfl

/-- A row that is as it was loaded gets the status that is written. -/
theorem gravado_status (antigo novo : Lote) (now : ℤ) :
    (Lote.gravado antigo novo now antigo).status = novo.status := by
  rw [Lote.gravado]
  split
  next h => rw [h]
  next =>
    change Lote.coluna antigo.status novo.status antigo.status = novo.status
    rw [Lote.coluna]
    split
    next h => exact h
    next => rfl

/-- What a session writes when it is up to date. -/
theorem gravar_exec {antigo novo : Lote} (hdia : EmDia p (i, .gravar antigo novo, e))
    (hfalha : e.falha = none) : ∃ fim,
      (efeito i (.gravar antigo novo) e p.store).1
        = { p.store.change antigo.id (Lote.gravado antigo novo e.now) with
            encerradas := p.store.encerradas ++ fim } ∧
      (fim = [] ∨ antigo.status = .processando ∧
        ∃ d, fim = [((antigo.id, antigo.tentativas), d)]) := by
  obtain ⟨hlote, hwrite⟩ := hdia hfalha
  rw [efeito, hlote]
  refine ⟨_, rfl, ?_⟩
  by_cases hpendente : novo.status = .pendente
  · left
    cases p.store.posse i with
    | none => rfl
    | some c => exact if_pos hpendente
  · rw [if_neg hpendente] at hwrite
    obtain ⟨hprocessando, hposse⟩ := hwrite
    refine .inr ⟨hprocessando, .resultado novo.status, ?_⟩
    rw [hposse]
    exact if_neg hpendente

/-- **One call.** -/
theorem Banco.Coerente.exec (h : p.store.Coerente) (hop : op.Normal) (hdia : EmDia p (i, op, e)) :
    (Pentaho.exec i op e p.store).1.Coerente := by
  obtain ⟨-, loteId, agora, lote, rfl, hlote, -, hexec⟩ | ⟨-, hexec | ⟨novo, hid, hexec⟩ |
    ⟨antigo, novo, rfl, hfalha, hexec⟩ | ⟨limite, instante, limiteTentativas, abandonados, rfl,
      hexec⟩⟩ := exec_cases i op e p.store
  all_goals rw [hexec]
  · exact h.reivindica (h.lote_of_obter hlote) agora i
  · exact h
  · exact h.inserir hid
  · obtain ⟨fim, hefeito, hfim⟩ := gravar_exec hdia hfalha
    rw [hefeito]
    refine h.encerra (gravado_id antigo novo e.now) (hdia hfalha).1 (gravado_tentativas _ _ _ _)
      ?_ hfim
    rw [gravado_status]
    exact hop
  · exact h.recuperarTodos limite instante limiteTentativas abandonados

/-- A batch that is there stays there, under its `lote_id`. -/
theorem exists_exec (i : ℕ) (op : Cmd) (e : Env) {id : ℕ} {lote : Lote}
    (hlote : s.lote id = some lote) :
    ∃ lote', (exec i op e s).1.lote id = some lote' ∧ lote'.loteId = lote.loteId := by
  have hchange : ∀ (id' : ℕ) {f : Lote → Lote}, (∀ l, (f l).id = l.id) →
      (∀ l, (f l).loteId = l.loteId) →
      ∃ lote', (s.change id' f).lote id = some lote' ∧ lote'.loteId = lote.loteId := by
    intro id' f hid hloteId
    have hlookup := Banco.lote_change s id' id hid
    split at hlookup
    next heq =>
      rw [show s.lote id' = some lote from heq ▸ hlote] at hlookup
      exact ⟨f lote, hlookup, hloteId lote⟩
    next => exact ⟨lote, hlookup.trans hlote, rfl⟩
  obtain ⟨-, loteId, agora, other, rfl, -, -, hexec⟩ | ⟨-, hexec | ⟨novo, -, hexec⟩ |
    ⟨antigo, novo, rfl, -, hexec⟩ | ⟨limite, instante, limiteTentativas, abandonados, rfl,
      hexec⟩⟩ := exec_cases i op e s
  all_goals rw [hexec]
  · exact hchange other.id (f := fun l ↦ l.reivindicado agora) (fun _ ↦ rfl) fun _ ↦ rfl
  · exact ⟨lote, hlote, rfl⟩
  · exact ⟨lote, Banco.lote_inserir hlote, rfl⟩
  · rw [efeito]
    split
    · exact ⟨lote, hlote, rfl⟩
    · exact hchange antigo.id (gravado_id antigo novo e.now) (gravado_loteId antigo novo e.now)
  · exact Banco.exists_recuperarTodos _ _ _ _ hlote

/-- A completed batch stays completed. -/
theorem conclusao_exec (h : p.store.Coerente) (hdia : EmDia p (i, op, e)) :
    ConclusaoMantida p.store (exec i op e p.store).1 := by
  intro id lote hlote hconcluido
  obtain ⟨-, loteId, agora, other, rfl, hother, hpendente, hexec⟩ | ⟨-, hexec | ⟨novo, -, hexec⟩ |
    ⟨antigo, novo, rfl, hfalha, hexec⟩ | ⟨limite, instante, limiteTentativas, abandonados, rfl,
      hexec⟩⟩ := exec_cases i op e p.store
  all_goals
    rw [hexec]
    refine ⟨lote, ?_, hconcluido⟩
  · refine (Banco.lote_change p.store other.id id (f := fun l ↦ l.reivindicado agora)
      fun _ ↦ rfl).trans ?_
    split
    next heq =>
      rw [heq, h.lote_of_obter hother] at hlote
      cases hlote
      rw [hconcluido] at hpendente
      cases hpendente
    next => exact hlote
  · exact hlote
  · exact Banco.lote_inserir hlote
  · obtain ⟨fim, hefeito, -⟩ := gravar_exec hdia hfalha
    obtain ⟨hantigo, hwrite⟩ := hdia hfalha
    rw [hefeito]
    refine (Banco.lote_change p.store antigo.id id (gravado_id antigo novo e.now)).trans ?_
    split
    next heq =>
      rw [heq, hantigo] at hlote
      cases hlote
      rw [hconcluido] at hwrite
      split at hwrite
      · cases hwrite
      · cases hwrite.1
    next => exact hlote
  · exact Banco.lote_recuperarTodos _ _ _ _ hlote fun hprocessando ↦ by
      rw [hconcluido] at hprocessando
      cases hprocessando

/-- While there is a batch, its `lote_id` is found. -/
theorem possivel_exec (i : ℕ) (op : Cmd) (e : Env) {id : ℕ} {lote : Lote}
    (hlote : s.lote id = some lote) : op.Possivel lote.loteId (exec i op e s).2 := by
  cases op with
  | obter loteId =>
    rw [exec]
    split
    · change Cmd.Possivel lote.loteId (.obter loteId) (.ok (s.obter loteId))
      cases hobter : s.obter loteId with
      | none =>
        exact fun heq ↦ Table.ne_key_of_lookup_none hobter (Table.mem_of_lookup hlote) heq.symm
      | some other => exact trivial
    · exact trivial
  | _ => exact trivial

/-- Only the caller takes a claim, and only by a call that answers so. -/
theorem posse_exec (h : ¬op.Toma (exec i op e s).2) : (exec i op e s).1.posse = s.posse := by
  obtain ⟨htoma, -⟩ | ⟨-, hexec | ⟨novo, -, hexec⟩ | ⟨antigo, novo, rfl, -, hexec⟩ |
    ⟨limite, instante, limiteTentativas, abandonados, rfl, hexec⟩⟩ := exec_cases i op e s
  · exact absurd htoma h
  all_goals rw [hexec]
  · rw [efeito]
    split <;> rfl
  · exact Banco.posse_recuperarTodos _ _ _ _ s

end Calls

/-! ## Whole runs -/

/-- The invariant: who holds a claim works on a batch that is there, and does nothing else. -/
structure Vigilia (p : Processos) : Prop where
  coerente : p.store.Coerente
  livre : ∀ i, p.task i = none → p.store.posse i = none
  uma : ∀ i q, p.task i = some q → p.store.posse i = none → ReivindicaUma (fun _ ↦ True) q
  trabalho : ∀ i q c, p.task i = some q → p.store.posse i = some c →
    ∃ lote, p.store.lote c.1 = some lote ∧
      q.Meets (Cmd.Possivel lote.loteId) Cmd.Trabalho fun _ ↦ True

/-- The processes, as long as every call is up to date. -/
def emDia (cfg : Config) : TransitionSystem Processos Passo :=
  (integracao cfg).restrict fun p m ↦ ∀ x ∈ p.nextCall m.1, EmDia p x

section Run

variable {cfg : Config} {p : Processos}

theorem vigilia_init : Vigilia ⟨{}, fun _ ↦ none⟩ where
  coerente := {
    keyed := List.nodup_nil
    id_le _ h := nomatch h
    posse _ _ h := nomatch h
    tentativas _ h := nomatch h
    encerradas _ h := nomatch h
    nodup := List.nodup_nil }
  livre _ _ := rfl
  uma _ _ h := nomatch h
  trabalho _ _ _ h := nomatch h

namespace Vigilia

theorem normal (h : Vigilia p) {i : ℕ} {op : Cmd} {k : Except Erro op.Ans → Processo Saida}
    (htask : p.task i = some (.call op k)) : op.Normal := by
  cases hposse : p.store.posse i with
  | none => exact (h.uma i _ htask hposse).1
  | some c =>
    obtain ⟨lote, -, hmeets⟩ := h.trabalho i _ c htask hposse
    exact hmeets.1.alheia.normal

/-- A call of a process that holds a claim. -/
theorem trabalho_exec (h : Vigilia p) (i : ℕ) (op : Cmd) (e : Env) {j : ℕ} {q : Processo Saida}
    {c : Reivindicacao} (htask : p.task j = some q) (hposse : p.store.posse j = some c) :
    ∃ lote, (exec i op e p.store).1.lote c.1 = some lote ∧
      q.Meets (Cmd.Possivel lote.loteId) Cmd.Trabalho fun _ ↦ True := by
  obtain ⟨lote, hlote, hmeets⟩ := h.trabalho j q c htask hposse
  obtain ⟨lote', hlote', heq⟩ := exists_exec i op e hlote
  exact ⟨lote', hlote', heq ▸ hmeets⟩

/-- **One call.** -/
theorem call (h : Vigilia p) {i : ℕ} {op : Cmd} {e : Env}
    {k : Except Erro op.Ans → Processo Saida} (htask : p.task i = some (.call op k))
    (hdia : EmDia p (i, op, e)) :
    Vigilia (Pool.setTask ⟨(exec i op e p.store).1, p.task⟩ i
      (some (k (exec i op e p.store).2))) := by
  have hcoerente := h.coerente.exec (h.normal htask) hdia
  by_cases htoma : op.Toma (exec i op e p.store).2
  · -- a claim: the caller had none, and goes on with its work
    obtain ⟨-, loteId, agora, lote, rfl, hobter, -, hexec⟩ | ⟨hno, -⟩ := exec_cases i op e p.store
    swap
    · exact absurd htoma hno
    have hlote : p.store.lote lote.id = some lote := h.coerente.lote_of_obter hobter
    have hfree : p.store.posse i = none := by
      cases hposse : p.store.posse i with
      | none => rfl
      | some c =>
        obtain ⟨other, -, hmeets⟩ := h.trabalho i _ c htask hposse
        exact hmeets.1.elim
    have hposse : (exec i (.reivindicar loteId agora) e p.store).1.posse
        = Function.update p.store.posse i (some (lote.id, lote.tentativas + 1)) := by rw [hexec]
    have hmeets := ((h.uma i _ htask hfree).2 _).1 htoma
    refine ⟨hcoerente, fun j hj ↦ ?_, fun j q hq hnone ↦ ?_, fun j q c hq hc ↦ ?_⟩
    · have hji : j ≠ i := by
        rintro rfl
        change Function.update p.task j _ j = none at hj
        rw [Function.update_self] at hj
        cases hj
      change (exec i _ e p.store).1.posse j = none
      rw [hposse, Function.update_of_ne hji]
      exact h.livre j ((Pool.task_setTask_of_ne hji).symm.trans hj)
    · change (exec i _ e p.store).1.posse j = none at hnone
      rw [hposse] at hnone
      obtain ⟨hji, hold⟩ | ⟨rfl, -⟩ := Pool.setTask_eq_some hq
      · rw [Function.update_of_ne hji] at hnone
        exact h.uma j q hold hnone
      · rw [Function.update_self] at hnone
        cases hnone
    · change (exec i _ e p.store).1.posse j = some c at hc
      rw [hposse] at hc
      obtain ⟨hji, hold⟩ | ⟨rfl, hnew⟩ := Pool.setTask_eq_some hq
      · rw [Function.update_of_ne hji] at hc
        exact h.trabalho_exec i _ e hold hc
      · rw [Function.update_self] at hc
        cases hc
        cases hnew
        obtain ⟨lote', hlote', heq⟩ := exists_exec j (.reivindicar loteId agora) e hlote
        refine ⟨lote', hlote', ?_⟩
        rw [heq, Table.key_of_lookup hobter]
        exact hmeets
  · have hposse := posse_exec htoma
    refine ⟨hcoerente, fun j hj ↦ ?_, fun j q hq hnone ↦ ?_, fun j q c hq hc ↦ ?_⟩
    · have hji : j ≠ i := by
        rintro rfl
        change Function.update p.task j _ j = none at hj
        rw [Function.update_self] at hj
        cases hj
      change (exec i op e p.store).1.posse j = none
      rw [hposse]
      exact h.livre j ((Pool.task_setTask_of_ne hji).symm.trans hj)
    · change (exec i op e p.store).1.posse j = none at hnone
      rw [hposse] at hnone
      obtain ⟨-, hold⟩ | ⟨rfl, hnew⟩ := Pool.setTask_eq_some hq
      · exact h.uma j q hold hnone
      · cases hnew
        exact ((h.uma j _ htask hnone).2 _).2 htoma
    · change (exec i op e p.store).1.posse j = some c at hc
      rw [hposse] at hc
      obtain ⟨-, hold⟩ | ⟨rfl, hnew⟩ := Pool.setTask_eq_some hq
      · exact h.trabalho_exec i op e hold hc
      · cases hnew
        obtain ⟨lote, hlote, hmeets⟩ := h.trabalho j _ c htask hc
        obtain ⟨lote', hlote', heq⟩ := exists_exec j op e hlote
        exact ⟨lote', hlote', heq ▸ hmeets.2 _ (possivel_exec j op e hlote)⟩

/-- **One move.** -/
theorem step {p' : Processos} {m : Passo} (h : Vigilia p) (hstep : (integracao cfg).step p m p')
    (hdia : ∀ x ∈ p.nextCall m.1, EmDia p x) : Vigilia p' := by
  rw [Pool.step_eq hstep]
  obtain ⟨-, hm⟩ | ⟨i, c, -, hidle, hm⟩ | ⟨i, op, e, k, hcall, htask, hm⟩ | ⟨-, hm⟩ :=
    Pool.move_forms (code cfg) machine m.1 p
  all_goals rw [hm]
  · exact h
  · refine ⟨h.coerente, fun j hj ↦ ?_, fun j q hq hnone ↦ ?_, fun j q c' hq hc ↦ ?_⟩
    · by_cases hji : j = i
      · rw [hji]
        exact h.livre i hidle
      · exact h.livre j ((Pool.task_setTask_of_ne hji).symm.trans hj)
    · obtain ⟨-, hold⟩ | ⟨-, hnew⟩ := Pool.setTask_eq_some hq
      · exact h.uma j q hold hnone
      · cases hnew
        exact code_uma cfg c
    · obtain ⟨-, hold⟩ | ⟨rfl, -⟩ := Pool.setTask_eq_some hq
      · exact h.trabalho j q c' hold hc
      · have hnone := h.livre j hidle
        rw [show p.store.posse j = some c' from hc] at hnone
        cases hnone
  · exact h.call htask (hdia _ hcall)
  · have hposse : ∀ {j}, j ≠ m.1.slot →
        (machine.close m.1.slot p.store).posse j = p.store.posse j := fun hj ↦
      Function.update_of_ne hj _ _
    refine ⟨⟨h.coerente.keyed, h.coerente.id_le, fun j c hc ↦ ?_, h.coerente.tentativas,
      h.coerente.encerradas, h.coerente.nodup⟩, fun j hj ↦ ?_, fun j q hq hnone ↦ ?_,
      fun j q c hq hc ↦ ?_⟩
    · by_cases hj : j = m.1.slot
      · rw [hj] at hc
        change Function.update p.store.posse m.1.slot none m.1.slot = some c at hc
        rw [Function.update_self] at hc
        cases hc
      · exact h.coerente.posse j c ((hposse hj).symm.trans hc)
    · by_cases hji : j = m.1.slot
      · rw [hji]
        exact Function.update_self m.1.slot none p.store.posse
      · exact (hposse hji).trans (h.livre j ((Pool.task_setTask_of_ne hji).symm.trans hj))
    · obtain ⟨hji, hold⟩ | ⟨-, hnew⟩ := Pool.setTask_eq_some hq
      · exact h.uma j q hold ((hposse hji).symm.trans hnone)
      · cases hnew
    · obtain ⟨hji, hold⟩ | ⟨-, hnew⟩ := Pool.setTask_eq_some hq
      · exact h.trabalho j q c hold ((hposse hji).symm.trans hc)
      · cases hnew

/-- Whoever lost a claim changes nothing. -/
theorem lote_exec (h : Vigilia p) {i : ℕ} {op : Cmd} {e : Env}
    {k : Except Erro op.Ans → Processo Saida} (htask : p.task i = some (.call op k))
    (hdia : EmDia p (i, op, e)) {c : Reivindicacao} (hposse : p.store.posse i = some c)
    (hretirada : p.store.Retirada c) :
    (exec i op e p.store).1.lote c.1 = p.store.lote c.1 := by
  obtain ⟨_, _, hmeets⟩ := h.trabalho i _ c htask hposse
  have htrabalho : op.Trabalho := hmeets.1
  obtain ⟨-, loteId, agora, lote, rfl, -, -, -⟩ | ⟨-, hexec | ⟨novo, -, hexec⟩ |
    ⟨antigo, novo, rfl, hfalha, -⟩ | ⟨limite, instante, limiteTentativas, abandonados, rfl, -⟩⟩ :=
    exec_cases i op e p.store
  · exact htrabalho.elim
  · rw [hexec]
  · obtain ⟨lote, hlote⟩ := h.coerente.posse i c hposse
    rw [hexec, hlote]
    exact Banco.lote_inserir hlote
  · -- an outcome is written under a claim in force, and this one is not
    exfalso
    obtain ⟨hantigo, hwrite⟩ := hdia hfalha
    rw [if_neg] at hwrite
    · obtain ⟨hprocessando, hheld⟩ := hwrite
      rw [hposse] at hheld
      cases hheld
      exact h.coerente.encerradas _ (List.mem_map_of_mem hretirada) ⟨antigo, hantigo, rfl,
        hprocessando⟩
    · intro hpendente
      rw [Cmd.Trabalho, hpendente] at htrabalho
      exact htrabalho.elim (by nofun) (by nofun)
  · exact htrabalho.elim

end Vigilia

theorem vigilia_of_run {tr : List Passo} (h : (emDia cfg).Run tr p) : Vigilia p := by
  refine TransitionSystem.Run.invariant (T := emDia cfg) (fun hinit ↦ ?_)
    (fun {p m p'} hp hstep ↦ hp.step hstep.2 hstep.1) h
  rw [show _ = _ from hinit]
  exact vigilia_init

/-- **A lost claim is void**, in every run whose writes are up to date: a worker whose claim was
withdrawn does not change the batch, a completed batch stays completed, and every claim ends once,
by an outcome or by its withdrawal. -/
theorem withdrawn_void (cfg : Config) {tr : List Passo} {p : Processos}
    (h : (emDia cfg).Run tr p) :
    (∀ m p', (emDia cfg).step p m p' → SemEfeito p m p' ∧ ConclusaoMantida p.store p'.store) ∧
      ∀ c, p.store.encerradas.countP (fun x ↦ x.1 = c) ≤ 1 := by
  have hp := vigilia_of_run h
  refine ⟨fun m p' hstep ↦ ?_, fun c ↦ ?_⟩
  · have hsame : ConclusaoMantida p.store p.store := fun id lote hlote h ↦ ⟨lote, hlote, h⟩
    rw [Pool.step_eq hstep.2]
    obtain ⟨-, hm⟩ | ⟨i, c, -, -, hm⟩ | ⟨i, op, e, k, hcall, htask, hm⟩ | ⟨-, hm⟩ :=
      Pool.move_forms (code cfg) machine m.1 p
    all_goals rw [hm]
    · exact ⟨fun _ _ _ ↦ rfl, hsame⟩
    · exact ⟨fun _ _ _ ↦ rfl, hsame⟩
    · have hdia := hstep.1 _ hcall
      refine ⟨fun c hposse hretirada ↦ ?_, conclusao_exec hp.coerente hdia⟩
      rw [Pool.eq_advance_of_nextCall hcall] at hposse
      exact hp.lote_exec htask hdia hposse hretirada
    · exact ⟨fun _ _ _ ↦ rfl, hsame⟩
  · have hcount := List.nodup_iff_count_le_one.mp hp.coerente.nodup c
    rw [List.count, List.countP_map] at hcount
    refine (List.countP_congr fun x _ ↦ ?_).trans_le hcount
    simp

end Run

/-! ## The small integration -/

/-- A worker claims the batch and dies, the claim is withdrawn, and another worker processes it. -/
def sampleRecuperado : List (Move Pedido Env) :=
  sampleCriado ++ sampleStart 1 (.processar "lote-1") 3 {} ++ .crash 1
    :: sampleStart 2 (.recuperar none none none) 4 { now := 301000000 }
    ++ sampleStart 3 (.processar "lote-1") 6 { now := 302000000 }

theorem withdrawn_void_recovered :
    (sampleRun sampleRecuperado).2.store.encerradas
        = [((1, 1), .retirada), ((1, 2), .resultado .concluido)] ∧
      ∀ c, (sampleRun sampleRecuperado).2.store.encerradas.countP (fun x ↦ x.1 = c) ≤ 1 := by
  refine ⟨by decide +kernel, ?_⟩
  have hrun : (emDia sampleConfig).Run _ (sampleRun sampleRecuperado).2 :=
    TransitionSystem.run_restrict_runCalls _ (by decide +kernel)
  exact (withdrawn_void sampleConfig hrun).2

/-- A worker is slow. Its claim is withdrawn into the quarantine, where an operator finds the
batch. -/
def sampleLento : List (Move Pedido Env) :=
  sampleCriado ++ sampleStart 1 (.processar "lote-1") 4 {}
    ++ sampleStart 2 (.recuperar none none (some 1)) 4 { now := 301000000 }
    ++ sampleStart 3 (.reprocessar "lote-1") 2 { now := 302000000 }

/-- The worker completes the batch although its claim was withdrawn; and then the operator's reset
takes it out of `CONCLUIDO`. -/
theorem withdrawn_not_void :
    (∃ tr p m p', (integracao sampleConfig).Run tr p ∧ (integracao sampleConfig).step p m p' ∧
      ¬SemEfeito p m p') ∧
    (∃ tr p m p', (integracao sampleConfig).Run tr p ∧ (integracao sampleConfig).step p m p' ∧
      ¬ConclusaoMantida p.store p'.store) ∧
    ∃ tr p c, (integracao sampleConfig).Run tr p ∧
      ¬p.store.encerradas.countP (fun x ↦ x.1 = c) ≤ 1 := by
  obtain ⟨m, hm, hstep⟩ := step_sampleNext (sampleRun sampleLento).2 1 {}
  obtain ⟨m', -, hstep'⟩ := step_sampleNext (sampleNext (sampleRun sampleLento).2 1 {}) 3 {}
  have hrun := run_sampleRun sampleLento
  have hstatus : ((sampleRun sampleLento).2.store.lote 1).map Lote.status = some .quarentena ∧
      ((sampleNext (sampleRun sampleLento).2 1 {}).store.lote 1).map Lote.status
        = some .concluido ∧
      ((sampleNext (sampleNext (sampleRun sampleLento).2 1 {}) 3 {}).store.lote 1).map Lote.status
        = some .pendente := by decide +kernel
  obtain ⟨hbefore, hmiddle, hafter⟩ := hstatus
  refine ⟨⟨_, _, m, _, hrun, hstep, fun hvoid ↦ ?_⟩,
    ⟨_, _, m', _, hrun.snoc hstep, hstep', fun hkept ↦ ?_⟩,
    ⟨_, _, (1, 1), hrun.snoc hstep, by decide +kernel⟩⟩
  · have hlost : (sampleRun sampleLento).2.store.posse 1 = some (1, 1) ∧
        ((1, 1), Desfecho.retirada) ∈ (sampleRun sampleLento).2.store.encerradas := by
      decide +kernel
    have hsame := hvoid (1, 1) (by rw [hm]; exact hlost.1) hlost.2
    rw [hsame, hbefore] at hmiddle
    cases hmiddle
  · obtain ⟨lote, hlote, hconcluido⟩ := Option.map_eq_some_iff.mp hmiddle
    obtain ⟨lote', hlote', hkept'⟩ := hkept 1 lote hlote hconcluido
    rw [hlote', Option.map_some, hkept'] at hafter
    cases hafter

end Pentaho

end ReqSys
