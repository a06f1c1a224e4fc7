import Mathlib
import ReqSys.Foundation.RelyGuarantee
import ReqSys.Parallelism.Store

/-!
# Parallelism control: the audit chain

Every target has its own chain inside the shared audit list. `AuditChain` is what it says about the
state of the target: the events count its versions, each starts at the stage where the one before
ended, and the last one is the state.

One change appends one event (`AuditChain.concat`), and it needs the event to be made from the state
that is replaced. In memory the lock provides that. In Redis it is what `WATCH` is for: between two
commands of a client the others may write, but a key that was written as often as before is the same
(`Segue`), so a transaction that succeeds replaces the state that was read. That is the discipline
the clients keep.
-/

namespace ReqSys

namespace Parallelism

/-! ## Chains -/

/-- The events of one target tell its state. -/
structure AuditChain (state : ParallelismState) (events : List ParallelismAuditEvent) : Prop where
  version : state.version = events.length
  versions : ∀ k e, events[k]? = some e → e.previousVersion = k ∧ e.newVersion = k + 1
  first : ∀ e, events[0]? = some e → e.previousStage = 0
  stages : ∀ k e e', events[k]? = some e → events[k + 1]? = some e' → e'.previousStage = e.newStage
  deltas : ∀ e ∈ events, ((e.newStage : ℤ) - e.previousStage).natAbs ≤ 1 ∧
    e.previousStage ≤ 3 ∧ e.newStage ≤ 3
  executions : ∀ k e e', events[k]? = some e → events[k + 1]? = some e' →
    e'.executionSha256 ≠ e.executionSha256
  start : events = [] → state.stage = 0 ∧ state.lastExecutionSha256 = none
  last : ∀ e, events.getLast? = some e →
    state.stage = e.newStage ∧ state.lastExecutionSha256 = some e.executionSha256

/-- Every target has its chain in the audit list. -/
def Auditado (states : Target → ParallelismState) (events : List ParallelismAuditEvent) : Prop :=
  ∀ t, (states t).target = t ∧ AuditChain (states t) (events.filter fun e ↦ e.target = t)

theorem decidir_eq_troca {current : ParallelismState} {expectedVersion : ℤ}
    {request : ParallelismPatchRequest} (h : decidir current expectedVersion request = .troca) :
    current.lastExecutionSha256 ≠ some request.executionSha256 ∧
      ((request.stage : ℤ) - current.stage).natAbs ≤ 1 := by
  rw [decidir] at h
  split_ifs at h with _ hsha hdelta
  exact ⟨hsha, Nat.not_lt.mp hdelta⟩

/-- An entry of a list with one more at its end. -/
theorem getElem?_concat_cases {α : Type} {l : List α} {a x : α} {k : ℕ}
    (h : (l ++ [a])[k]? = some x) : l[k]? = some x ∨ k = l.length ∧ x = a := by
  rcases Nat.lt_or_ge k l.length with hk | hk
  · rw [List.getElem?_append_left hk] at h
    exact .inl h
  · rw [List.getElem?_append_right hk] at h
    obtain ⟨hlt, hx⟩ := List.getElem?_eq_some_iff.mp h
    rw [List.length_singleton] at hlt
    rw [List.getElem_singleton] at hx
    exact .inr ⟨by omega, hx.symm⟩

namespace AuditChain

variable {state : ParallelismState} {events : List ParallelismAuditEvent}

theorem stage_le (h : AuditChain state events) : state.stage ≤ 3 := by
  rcases hlast : events.getLast? with _ | e
  · rw [(h.start (List.getLast?_eq_none_iff.mp hlast)).1]
    omega
  · rw [(h.last e hlast).1]
    exact (h.deltas e (List.mem_of_getLast? hlast)).2.2

/-- The event before the next one is the last one. -/
theorem getLast?_of_succ {k : ℕ} {e : ParallelismAuditEvent} (hk : k + 1 = events.length)
    (he : events[k]? = some e) : events.getLast? = some e := by
  rw [List.getLast?_eq_getElem?, ← hk]
  exact he

/-- **A change appends one event.** -/
theorem concat (h : AuditChain state events) {expectedVersion : ℤ}
    {request : ParallelismPatchRequest} (hd : decidir state expectedVersion request = .troca)
    (updatedAt occurredAt : String) :
    AuditChain (updatedState state request updatedAt)
      (events ++ [audit state (updatedState state request updatedAt) request occurredAt]) := by
  obtain ⟨hsha, hdelta⟩ := decidir_eq_troca hd
  -- two consecutive entries are old ones, or the last old one and the new one
  have hpairs : ∀ {k : ℕ} {e e' a : ParallelismAuditEvent}, (events ++ [a])[k]? = some e →
      (events ++ [a])[k + 1]? = some e' → events[k]? = some e ∧ events[k + 1]? = some e' ∨
        events.getLast? = some e ∧ e' = a := by
    intro k e e' a he he'
    rcases getElem?_concat_cases he' with hold' | ⟨hk, rfl⟩
    · have hlt := (List.getElem?_eq_some_iff.mp hold').1
      rw [List.getElem?_append_left (by omega)] at he
      exact .inl ⟨he, hold'⟩
    · rw [List.getElem?_append_left (by omega)] at he
      exact .inr ⟨getLast?_of_succ hk he, rfl⟩
  refine ⟨?_, fun k e he ↦ ?_, fun e he ↦ ?_, fun k e e' he he' ↦ ?_, fun e he ↦ ?_,
    fun k e e' he he' ↦ ?_, fun hnil ↦ ?_, fun e he ↦ ?_⟩
  · rw [List.length_append, List.length_singleton, ← h.version]
    rfl
  · rcases getElem?_concat_cases he with hold | ⟨rfl, rfl⟩
    · exact h.versions k e hold
    · exact ⟨h.version, congrArg (· + 1) h.version⟩
  · rcases getElem?_concat_cases he with hold | ⟨hk, rfl⟩
    · exact h.first e hold
    · exact (h.start (List.length_eq_zero_iff.mp hk.symm)).1
  · rcases hpairs he he' with ⟨hold, hold'⟩ | ⟨hlast, rfl⟩
    · exact h.stages k e e' hold hold'
    · exact (h.last e hlast).1
  · rcases List.mem_append.mp he with hold | hnew
    · exact h.deltas e hold
    · rw [List.mem_singleton.mp hnew]
      exact ⟨hdelta, h.stage_le, request.stage_le⟩
  · rcases hpairs he he' with ⟨hold, hold'⟩ | ⟨hlast, rfl⟩
    · exact h.executions k e e' hold hold'
    · intro heq
      exact hsha ((h.last e hlast).2.trans (congrArg some heq.symm))
  · exact absurd hnil (List.append_ne_nil_of_right_ne_nil _ (List.cons_ne_nil _ _))
  · rw [List.getLast?_concat] at he
    cases he
    exact ⟨rfl, rfl⟩

/-- The event that a change appends is not of the last execution. -/
theorem ne_of_concat {state' : ParallelismState} {e : ParallelismAuditEvent}
    (h : AuditChain state events) (h' : AuditChain state' (events ++ [e])) :
    state.lastExecutionSha256 ≠ some e.executionSha256 := by
  rcases hlast : events.getLast? with _ | e₀
  · rw [(h.start (List.getLast?_eq_none_iff.mp hlast)).2]
    exact fun h ↦ nomatch h
  · rw [(h.last e₀ hlast).2]
    intro heq
    have hne : events ≠ [] := by
      rintro rfl
      cases hlast
    have hlen : events.length - 1 + 1 = events.length := by
      have := List.length_pos_iff.mpr hne
      omega
    refine h'.executions (events.length - 1) e₀ e ?_ ?_ (Option.some.inj heq).symm
    · rw [List.getElem?_append_left (by omega), ← List.getLast?_eq_getElem?]
      exact hlast
    · rw [hlen, List.getElem?_append_right (Nat.le_refl _), Nat.sub_self]
      rfl

end AuditChain

namespace Auditado

variable {states : Target → ParallelismState} {events : List ParallelismAuditEvent}

theorem inicial : Auditado (fun target ↦ { target }) [] := by
  refine fun t ↦ ⟨rfl, rfl, ?_, ?_, ?_, ?_, ?_, fun _ ↦ ⟨rfl, rfl⟩, ?_⟩
  · exact fun _ _ h ↦ nomatch h
  · exact fun _ h ↦ nomatch h
  · exact fun _ _ _ h ↦ nomatch h
  · exact fun _ h ↦ nomatch h
  · exact fun _ _ _ h ↦ nomatch h
  · exact fun _ h ↦ nomatch h

/-- **A change of one target** continues its chain and leaves the others alone. -/
theorem troca (h : Auditado states events) {t : Target} {expectedVersion : ℤ}
    {request : ParallelismPatchRequest}
    (hd : decidir (states t) expectedVersion request = .troca) (updatedAt occurredAt : String) :
    Auditado (Function.update states t (updatedState (states t) request updatedAt))
      (events ++ [audit (states t) (updatedState (states t) request updatedAt) request
        occurredAt]) := by
  intro t'
  obtain ⟨htarget, hchain⟩ := h t'
  rw [List.filter_append]
  by_cases ht : t' = t
  · subst ht
    rw [Function.update_self, List.filter_cons_of_pos ?_, List.filter_nil]
    · exact ⟨htarget, hchain.concat hd updatedAt occurredAt⟩
    · exact decide_eq_true htarget
  · rw [Function.update_of_ne ht, List.filter_cons_of_neg ?_, List.filter_nil, List.append_nil]
    · exact ⟨htarget, hchain⟩
    · have hown : (states t).target = t := (h t).1
      simpa [audit, hown] using Ne.symm ht

/-- What is appended to a chain is not of the last execution of its target. -/
theorem ne_of_concat {states' : Target → ParallelismState} {e : ParallelismAuditEvent}
    (h : Auditado states events) (h' : Auditado states' (events ++ [e])) :
    (states e.target).lastExecutionSha256 ≠ some e.executionSha256 := by
  have hchain := (h' e.target).2
  rw [List.filter_append, List.filter_cons_of_pos (by simp), List.filter_nil] at hchain
  exact (h e.target).2.ne_of_concat hchain

end Auditado

/-! ## In memory -/

/-- What one call does: it replaces the state it finds, or it leaves everything alone. -/
theorem compareAndSwap_cases (c : Pedido) (updatedAt occurredAt : String) (s : InMemory) :
    (s.compareAndSwap (c, updatedAt, occurredAt)).1 = s ∨
      decidir (s.states c.target) c.expectedVersion c.request = .troca := by
  rw [InMemory.compareAndSwap]
  split
  all_goals first
    | exact .inl rfl
    | exact .inr ‹_›

theorem auditado_inMemory {tr : List ((Pedido × String × String) × Except Erro Resultado)}
    {s : InMemory} (h : inMemory.Run tr s) : Auditado s.states s.auditEvents := by
  refine TransitionSystem.Run.invariant (T := inMemory)
    (I := fun s ↦ Auditado s.states s.auditEvents) (fun hinit ↦ ?_) (fun {s a s'} hs hstep ↦ ?_) h
  · rw [show _ = _ from hinit]
    exact .inicial
  · obtain ⟨⟨c, updatedAt, occurredAt⟩, r⟩ := a
    have hstate : s' = (s.compareAndSwap (c, updatedAt, occurredAt)).1 :=
      (congrArg Prod.fst hstep).symm
    rw [hstate]
    obtain hsame | hd := compareAndSwap_cases c updatedAt occurredAt s
    · rw [hsame]
      exact hs
    · simp only [InMemory.compareAndSwap, hd]
      exact hs.troca hd updatedAt occurredAt

/-- A call that raises or repeats the last execution changes nothing. -/
theorem unchanged_inMemory {c : Pedido} {updatedAt occurredAt : String} {s s' : InMemory}
    {r : Except Erro Resultado}
    (h : s.compareAndSwap (c, updatedAt, occurredAt) = (s', r))
    (hr : (∃ x, r = .error x) ∨
      (s.states c.target).lastExecutionSha256 = some c.request.executionSha256) : s' = s := by
  have hstate : (s.compareAndSwap (c, updatedAt, occurredAt)).1 = s' := congrArg Prod.fst h
  obtain hsame | hd := compareAndSwap_cases c updatedAt occurredAt s
  · exact hstate.symm.trans hsame
  · rcases hr with ⟨x, rfl⟩ | hsha
    · simp only [InMemory.compareAndSwap, hd] at h
      cases (congrArg Prod.snd h)
    · exact absurd hsha (decidir_eq_troca hd).1

/-! ## In Redis -/

/-- The states that a client would read. -/
def Redis.estados (s : Redis) (t : Target) : ParallelismState := lido t (s.states t)

/-- The keys change only by being written. -/
def Segue (s s' : Redis) : Prop :=
  ∀ t, s.escritas t ≤ s'.escritas t ∧ (s'.escritas t = s.escritas t → s'.states t = s.states t)

theorem Segue.refl (s : Redis) : Segue s s := fun _ ↦ ⟨Nat.le_refl _, fun _ ↦ rfl⟩

theorem Segue.trans {s s' s'' : Redis} (h : Segue s s') (h' : Segue s' s'') : Segue s s'' := by
  intro t
  obtain ⟨hle, heq⟩ := h t
  obtain ⟨hle', heq'⟩ := h' t
  refine ⟨Nat.le_trans hle hle', fun h ↦ ?_⟩
  rw [heq' (by omega), heq (by omega)]

/-- The clients keep the chains, and rely on the others to count their writes. -/
def clientes : Discipline machine where
  I s := Auditado s.estados s.auditEvents
  R _ := Segue
  refl _ := Segue.refl
  trans := Segue.trans

/-- A transaction that replaces the state it was made from. -/
theorem keeps_execute {i : ℕ} {c : Pedido} {s : Redis} {visto : ℕ} {current : ParallelismState}
    (hI : Auditado s.estados s.auditEvents)
    (hread : s.escritas c.target = visto → s.estados c.target = current)
    (hd : decidir current c.expectedVersion c.request = .troca) (updatedAt occurredAt e : String) :
    clientes.Keeps i s (exec (.execute c.target visto (updatedState current c.request updatedAt)
      (audit current (updatedState current c.request updatedAt) c.request occurredAt)) e s).1 := by
  rw [exec]
  split
  next hvisto =>
    obtain rfl := hread hvisto
    refine ⟨?_, fun j _ t ↦ ?_⟩
    · have hview : Redis.estados { s with
          states := Function.update s.states c.target
            (some (updatedState (s.estados c.target) c.request updatedAt)) }
          = Function.update s.estados c.target
            (updatedState (s.estados c.target) c.request updatedAt) := by
        funext t
        by_cases ht : t = c.target
        · subst ht
          simp [Redis.estados, lido]
        · simp [Redis.estados, Function.update_of_ne ht]
      change Auditado (Redis.estados { s with states := _ }) _
      rw [hview]
      exact hI.troca hd updatedAt occurredAt
    · by_cases ht : t = c.target
      · subst ht
        simp only [Function.update_self]
        exact ⟨by omega, fun h ↦ by omega⟩
      · simp only [Function.update_of_ne ht]
        exact ⟨Nat.le_refl _, fun _ ↦ trivial⟩
  · exact .same hI

section Safe

variable {i : ℕ} {c : Pedido}

/-- The end of a round, given what was read. -/
theorem safe_gravar {s : Redis} {visto : ℕ} {current : ParallelismState}
    (hread : ∀ s', Segue s s' → s'.escritas c.target = visto → s'.estados c.target = current)
    (hd : decidir current c.expectedVersion c.request = .troca) {denovo : Processo Resultado}
    (hdenovo : ∀ s, clientes.Safe i (fun _ _ ↦ True) s denovo) :
    clientes.Safe i (fun _ _ ↦ True) s (gravar c visto current denovo) := by
  refine .read_bind (fun _ _ ↦ rfl) (fun s₁ _ updatedAt _ h₁ _ ↦ ?_) fun _ _ _ _ _ _ ↦ trivial
  refine .read_bind (fun _ _ ↦ rfl) (fun s₂ _ occurredAt _ h₂ _ ↦ ?_) fun _ _ _ _ _ _ ↦ trivial
  have hexecute : clientes.Safe i (fun _ _ ↦ True) s₂ (run (.execute c.target visto
      (updatedState current c.request updatedAt)
      (audit current (updatedState current c.request updatedAt) c.request occurredAt))) := by
    refine .call (fun s' e hI h ↦ ?_) fun _ _ _ _ ↦ .ofExcept trivial
    exact keeps_execute hI (hread s' ((Segue.trans h₁ h₂).trans h)) hd updatedAt occurredAt e
  have hattempt : clientes.Safe i (fun _ _ ↦ True) s₂ _ := hexecute.attempt fun _ ↦ trivial
  refine .bind hattempt (fun {r s'} _ ↦ ?_) fun _ ↦ trivial
  split
  · exact .ret trivial
  · exact hdenovo s'
  · exact .raise trivial

/-- **A client keeps the discipline.** -/
theorem safe_rodadas (c : Pedido) (n : ℕ) (s : Redis) :
    clientes.Safe i (fun _ _ ↦ True) s (rodadas c n) := by
  induction n generalizing s with
  | zero =>
    exact .read_bind (fun _ _ ↦ rfl) (fun _ _ _ _ _ _ ↦ .raise trivial)
      fun _ _ _ _ _ _ ↦ trivial
  | succ n ih =>
    refine .read_bind (fun _ _ ↦ rfl) (fun s₁ _ visto _ _ hvisto ↦ ?_) fun _ _ _ _ _ _ ↦ trivial
    refine .read_bind (fun _ _ ↦ rfl) (fun s₂ _ raw _ h₂ hraw ↦ ?_) fun _ _ _ _ _ _ ↦ trivial
    rw [avaliar]
    split
    · exact .raise trivial
    · refine .read_bind (fun _ _ ↦ rfl) (fun _ _ _ _ _ _ ↦ ?_) fun _ _ _ _ _ _ ↦ trivial
      exact .read_bind (fun _ _ ↦ rfl) (fun _ _ _ _ _ _ ↦ .ret trivial)
        fun _ _ _ _ _ _ ↦ trivial
    · exact .raise trivial
    next hd =>
      refine safe_gravar (fun s' h hsame ↦ ?_) hd ih
      -- written as often as when it was watched, so not since it was read
      cases (hvisto : Except.ok (s₁.escritas c.target) = .ok visto)
      cases (hraw : Except.ok (s₂.states c.target) = .ok raw)
      have hle := (h₂ c.target).1
      have hle' := (h c.target).1
      rw [Redis.estados, (h c.target).2 (by omega)]

end Safe

/-- After its transaction a client returns what it wrote. -/
def Devolve : Processo Resultado → Prop
  | .ret _ => True
  | .raise _ => True
  | .call (.execute _ _ updated event) k => k (.ok ()) = .ret (updated, event) ∧ ∀ r, Devolve (k r)
  | .call (.watch _) k | .call (.get _) k | .call .unwatch k | .call .agora k => ∀ r, Devolve (k r)

theorem Devolve.next {op : Cmd} {k : Except Erro op.Ans → Processo Resultado}
    (h : Devolve (.call op k)) (r : Except Erro op.Ans) : Devolve (k r) := by
  cases op with
  | execute => exact h.2 r
  | _ => exact h r

theorem devolve_gravar {c : Pedido} {visto : ℕ} {current : ParallelismState}
    {denovo : Processo Resultado} (hdenovo : Devolve denovo) :
    Devolve (gravar c visto current denovo) := by
  rintro (x | updatedAt)
  · exact trivial
  rintro (x | occurredAt)
  · exact trivial
  refine ⟨rfl, ?_⟩
  rintro (x | u)
  · cases x with
    | watchError => exact hdenovo
    | _ => exact trivial
  · exact trivial

theorem devolve_rodadas (c : Pedido) (n : ℕ) : Devolve (rodadas c n) := by
  induction n with
  | zero =>
    rintro (x | raw)
    · exact trivial
    · exact trivial
  | succ n ih =>
    rintro (x | visto)
    · exact trivial
    rintro (x | raw)
    · exact trivial
    change Devolve (avaliar c visto (lido c.target raw) (rodadas c n))
    rw [avaliar]
    split
    · exact trivial
    · rintro (x | u)
      · exact trivial
      · rintro (x | occurredAt) <;> exact trivial
    · exact trivial
    · exact devolve_gravar ih

theorem disciplined_emRedis {tr : List Passo} {p : Processos} (h : emRedis.Run tr p) :
    Pool.Disciplined clientes p :=
  Pool.safe_of_run (D := clientes) (show clientes.I {} from .inicial)
    (fun _ c s _ ↦ safe_rodadas c 3 s) (fun _ _ hI ↦ .same hI) h

/-- **What a step of a client can do.** It leaves everything alone, or it is the transaction of a
call that then returns. -/
theorem writes_emRedis {tr : List Passo} {p p' : Processos} {m : Passo} (h : emRedis.Run tr p)
    (hstep : emRedis.step p m p') : p'.store = p.store ∨ ∃ updated event,
      p'.task m.1.slot = some (.ret (updated, event)) ∧
        p'.store.auditEvents = p.store.auditEvents ++ [event] := by
  have hreturns := Pool.hereditary_of_run (H := Devolve) (fun c ↦ devolve_rodadas c 3)
    Devolve.next h
  rw [Pool.step_eq hstep]
  obtain ⟨-, hm⟩ | ⟨i, c, -, hm⟩ | ⟨i, op, e, k, hcall, htask, hm⟩ | ⟨i, -, hm⟩ :=
    Pool.move_cases compareAndSwap machine m.1 p
  all_goals rw [hm]
  · exact .inl rfl
  · exact .inl rfl
  · cases op with
    | execute target visto updated event =>
      have hreturn : k (.ok ()) = .ret (updated, event) := (hreturns i _ htask).1
      change (exec (.execute target visto updated event) e p.store).1 = _ ∨ _
      rw [Pool.eq_advance_of_nextCall hcall]
      by_cases hvisto : p.store.escritas target = visto
      · refine .inr ⟨updated, event, ?_, ?_⟩
        · simp [Pool.setTask, Move.slot, machine, exec, hvisto, hreturn]
        · simp [Pool.setTask, machine, exec, hvisto]
      · left
        rw [exec, if_neg hvisto]
    | _ => exact .inl rfl
  · exact .inl rfl

/-- **The audit chain**, of both stores and for every target, in every state that any number of
calls in any order reach. In memory a call that raises or repeats the last execution changes
nothing. In Redis the only step of a call that changes anything is the last one before it returns,
and then the execution is not the last one. -/
theorem audit_chain :
    (∀ tr s, inMemory.Run tr s → Auditado s.states s.auditEvents ∧
      ∀ c s' r, inMemory.step s (c, r) s' → ((∃ x, r = .error x) ∨
        (s.states c.1.target).lastExecutionSha256 = some c.1.request.executionSha256) → s' = s) ∧
    ∀ tr p, emRedis.Run tr p → Auditado p.store.estados p.store.auditEvents ∧
      ∀ m p', emRedis.step p m p' → p'.store = p.store ∨ ∃ updated event,
        p'.task m.1.slot = some (.ret (updated, event)) ∧
          p'.store.auditEvents = p.store.auditEvents ++ [event] ∧
          (p.store.estados event.target).lastExecutionSha256 ≠ some event.executionSha256 := by
  refine ⟨fun tr s h ↦ ⟨auditado_inMemory h, fun c s' r hstep hr ↦ ?_⟩, fun tr p h ↦ ?_⟩
  · exact unchanged_inMemory hstep hr
  · have hp := (disciplined_emRedis h).inv
    refine ⟨hp, fun m p' hstep ↦ ?_⟩
    refine (writes_emRedis h hstep).imp_right ?_
    rintro ⟨updated, event, hreturn, hevents⟩
    have hp' : Auditado p'.store.estados p'.store.auditEvents :=
      (disciplined_emRedis (h.snoc hstep)).inv
    rw [hevents] at hp'
    exact ⟨updated, event, hreturn, hevents, hp.ne_of_concat hp'⟩

/-! ## A small instance -/

/-- A client raises the worker to the given stage. -/
def samplePedido (expectedVersion : ℤ) (stage : ℕ) (sha : String) (hstage : stage ≤ 3 := by decide)
    (hlength : sha.length = 64 := by decide +kernel)
    (hsha : (sha.toList.all fun c ↦ decide (c.isDigit ∨ 'a' ≤ c ∧ c ≤ 'f')) = true :=
      by decide +kernel) : Pedido where
  target := .worker
  expectedVersion := expectedVersion
  request :=
    { stage
      correlationId := "corr-0001"
      executionSha256 := sha
      actor := "ops"
      stage_le := hstage
      correlationId_length := by decide
      executionSha256_pattern :=
        ⟨hlength, fun c hc ↦ of_decide_eq_true (List.all_eq_true.mp hsha c hc)⟩
      actor_length := by decide }

def samplePrimeiro : Pedido :=
  samplePedido 0 1 "aaaaaaaaaaaaaaaaaaaaaaaaaaaaaaaaaaaaaaaaaaaaaaaaaaaaaaaaaaaaaaaa"
    (Nat.le_add_right 1 2)

def sampleSegundo : Pedido :=
  samplePedido 1 2 "bbbbbbbbbbbbbbbbbbbbbbbbbbbbbbbbbbbbbbbbbbbbbbbbbbbbbbbbbbbbbbbb"

/-- Two changes in memory, the first of them sent twice. -/
def sampleInMemory : InMemory :=
  (TransitionSystem.runCalls (fun c s ↦ InMemory.compareAndSwap c s)
    [(samplePrimeiro, "t1", "t1"), (samplePrimeiro, "t2", "t2"), (sampleSegundo, "t3", "t3")] {}).2

/-- Two clients send the same change to Redis; both have read the key when the first one commits,
and the second one finds the new version in its next round. -/
def sampleRedis : Processos :=
  (TransitionSystem.runCalls (Pool.move compareAndSwap machine)
    (.start 0 samplePrimeiro :: .start 1 samplePrimeiro :: .advance 1 "t0" :: .advance 1 "t0"
      :: List.replicate 6 (.advance 0 "t1") ++ List.replicate 6 (.advance 1 "t2"))
    ⟨{}, fun _ ↦ none⟩).2

theorem audit_chain_sample :
    (sampleInMemory.auditEvents.length = 2 ∧
      Auditado sampleInMemory.states sampleInMemory.auditEvents) ∧
    sampleRedis.store.auditEvents.length = 1 ∧
      Auditado sampleRedis.store.estados sampleRedis.store.auditEvents := by
  refine ⟨⟨by decide +kernel, ?_⟩, by decide +kernel, ?_⟩
  · exact (audit_chain.1 _ _ (TransitionSystem.run_runCalls _ _ _)).1
  · exact (audit_chain.2 _ _ (TransitionSystem.run_runCalls _ _ _)).1

end Parallelism

end ReqSys
