import Mathlib
import ReqSys.Foundation.Numbering
import ReqSys.OperationalQueue.Finished

/-!
# Operational queue: how often a task is executed

`dequeue` counts an attempt and returns the task, and the worker executes it. `fail` compares the
count with the limit; `dequeue` does not. The recovery executes what it finds without counting, so
an attempt of a worker that died after the execution is executed once more for every recovery that
claims its message.

`executions_bounded` says what the count is worth: when `dequeue` counts on from what is stored and
within the limit, no other transaction changes the count, and the recovery executes only an attempt
that was counted, was not executed and is in no other hand, then a task is executed at most
`max(max_attempts, 1)` times before it is finished.
-/

namespace ReqSys

namespace OperationalQueue

open Program Gate

/-! ## The count -/

/-- The attempts that are stored. -/
def Streams.attempts (s : Streams) (id : String) : ℕ :=
  (s.get id).elim 0 OperationalTask.attempts

/-- How often the task was executed before it was finished. -/
def Streams.executada (s : Streams) (id : String) : ℕ := s.execucoes.countP fun x ↦ x.1 = id

/-- Attempt `n` at the task is counted and was not executed. -/
def Contada (id : String) (n : ℕ) (s : Streams) : Prop :=
  1 ≤ n ∧ n ≤ s.attempts id ∧ (id, n) ∉ s.execucoes

instance (id : String) (n : ℕ) : DecidablePred (Contada id n) := fun s ↦
  inferInstanceAs (Decidable (1 ≤ n ∧ n ≤ s.attempts id ∧ (id, n) ∉ s.execucoes))

/-- Attempt `n` at the task by a worker: counted first, then executed. An execution by anyone is the
last call of the attempt. -/
def execGate (id : String) (n : ℕ) : Gate Cmd.Ans Erro where
  acts
    | .executar task false => task.taskId = id ∧ task.attempts = n
    | _ => False
  looks
    | .reservar task _ | .executar task _ => task.taskId = id ∧ task.attempts = n
    | _ => False
  permits
    | .reservar _ _, .ok _ => True
    | _, _ => False
  possible := Visao.livre.Possivel

/-- The condition on a call. An enqueued task is new. `dequeue` counts one more than is stored,
within the limit, and the other transactions keep the count. The recovery executes an unfinished
task only for an attempt that was counted and not executed, and that no other process is about to
execute. -/
def Conta (p : Processos) (x : ℕ × Cmd × Env) : Prop :=
  match x.2.1 with
  | .criar task => p.store.get task.taskId = none ∧ task.attempts = 0
  | .reservar task _ => task.attempts = p.store.attempts task.taskId + 1 ∧
      (task.attempts : ℤ) ≤ max task.maxAttempts 1
  | .concluir task _ | .reagendar task _ _ | .descartar task _ _ =>
      task.attempts = p.store.attempts task.taskId
  | .executar task true => ¬p.store.Encerrada task.taskId →
      Contada task.taskId task.attempts p.store ∧
        ∀ j q, j ≠ x.1 → p.task j = some q → (execGate task.taskId task.attempts).Shut q
  | _ => True

/-! ## The programs are gated -/

section Ready

variable {id : String} {n : ℕ} {cfg : Config} {α : Type} {Q : α → Prop} {p : Processo α}
  {taskId : String}

/-- The task is at this attempt. -/
def OperationalTask.Na (task : OperationalTask) (id : String) (n : ℕ) : Prop :=
  task.taskId = id ∧ task.attempts = n

/-- What executes nothing, or only what is not this attempt of a worker. -/
theorem exec_not_acts_of_sobre {op : Cmd} {E : OperationalTask → Bool → Prop}
    (h : op.Sobre taskId E) (hE : ∀ task, E task false → ¬task.Na id n) :
    ¬(execGate id n).acts op := by
  cases op with
  | executar task recuperada =>
    cases recuperada with
    | true => exact fun h ↦ h
    | false => exact hE task (h.executa task false rfl)
  | _ => exact fun h ↦ h

theorem exec_readyTo_of_sobre {E : OperationalTask → Bool → Prop}
    (hp : p.Meets Visao.livre.Possivel (fun op ↦ op.Fiel Visao.livre ∧ op.Sobre taskId E) Q)
    (hE : ∀ task, E task false → ¬task.Na id n) : (execGate id n).ReadyTo Q p :=
  .of_meets (hp.imp (fun _ h ↦ exec_not_acts_of_sobre h.2 hE) fun _ h ↦ h)

/-- A call that executes nothing. -/
theorem exec_run (op : Cmd) (h : ∀ task, op ≠ .executar task false) :
    (execGate id n).ReadyTo (fun _ ↦ True) (run op) := by
  refine .of_meets (.perform ?_ fun _ _ ↦ trivial)
  cases op with
  | executar task recuperada =>
    cases recuperada with
    | true => exact fun h ↦ h
    | false => exact absurd rfl (h task)
  | _ => exact fun h ↦ h

/-- **`dequeue`** stores the count of the attempt before it returns the task. -/
theorem exec_dequeue : (execGate id n).ReadyTo (fun o ↦ ∀ task ∈ o, ¬task.Na id n) dequeue := by
  refine (embrulhar_readyTo (exec_run .ensureGroup fun _ h ↦ nomatch h)).bind_ready fun _ ↦
    embrulhar_readyTo ?_
  refine ReadyTo.bind_ready (Q := fun _ ↦ True) ?_ fun _ ↦ ?_
  · refine (exec_run .now fun _ h ↦ nomatch h).bind_ready fun now ↦ ?_
    refine (exec_run (.zrangebyscore now) fun _ h ↦ nomatch h).bind_ready fun taskIds ↦ ?_
    refine .forM trivial fun taskId _ ↦ ?_
    refine (exec_run (.zrem taskId) fun _ h ↦ nomatch h).bind_ready fun removed ↦ ?_
    split
    · exact exec_run (.xadd taskId) fun _ h ↦ nomatch h
    · exact ⟨trivial, trivial⟩
  · refine (exec_run .xreadgroup fun _ h ↦ nomatch h).bind_ready fun o ↦ ?_
    cases o with
    | none => exact ⟨fun _ h ↦ (nomatch h), trivial⟩
    | some x =>
      refine ReadyTo.bind_ready (Q := fun _ ↦ True) ?_ fun o ↦ ?_
      · have hget : (get x.2).Meets Visao.livre.Possivel
            (fun op ↦ op.Fiel Visao.livre ∧ op.Sobre x.2 fun _ _ ↦ False) fun _ ↦ True :=
          (get_meets x.2).imp (fun _ h ↦ h) fun _ _ ↦ trivial
        exact exec_readyTo_of_sobre hget fun _ h ↦ h.elim
      · cases o with
        | none =>
          refine (exec_run (.xack x.1) fun _ h ↦ nomatch h).bind_ready fun _ ↦ ?_
          exact ⟨fun _ h ↦ (nomatch h), trivial⟩
        | some task =>
          refine (exec_run .now fun _ h ↦ nomatch h).bind_ready fun now ↦ ?_
          by_cases hna : (task.reservada now).Na id n
          · refine ReadyTo.bind (Q := fun _ ↦ False) ?_ (fun _ ↦ trivial) fun _ h ↦ h.elim
            exact .look (Cmd.reservar (task.reservada now) x.1) (fun h ↦ h) hna
              fun _ _ hpermit ↦ hpermit trivial
          · refine (exec_run (.reservar (task.reservada now) x.1) fun _ h ↦ nomatch h).bind_ready
              fun _ ↦ ⟨fun t ht ↦ ?_, trivial⟩
            cases ht
            exact hna

/-- `complete` and `fail` execute nothing. -/
theorem exec_complete (taskId : String) (result : Json) :
    (execGate id n).ReadyTo (fun _ ↦ True) (complete taskId result) :=
  exec_readyTo_of_sobre (E := fun _ _ ↦ False) (complete_meets taskId result) fun _ h ↦ h.elim

theorem exec_fail (cfg : Config) (taskId error : String) :
    (execGate id n).ReadyTo (fun _ ↦ True) (fail cfg taskId error) :=
  exec_readyTo_of_sobre (E := fun _ _ ↦ False) (fail_meets cfg taskId error) fun _ h ↦ h.elim

/-- After the execution the attempt is over. -/
theorem exec_processar_gated (cfg : Config) (task : OperationalTask) (recuperada : Bool) :
    (execGate id n).GatedTo (fun _ ↦ True) (processar cfg task recuperada) := by
  have hrun : (execGate id n).GatedTo (fun _ ↦ True) (run (.executar task recuperada)) := by
    intro r _
    cases r with
    | ok a => exact ⟨trivial, fun _ _ ↦ trivial⟩
    | error x => exact ⟨trivial, fun _ _ ↦ trivial⟩
  refine GatedTo.bind (GatedTo.attempt (hrun.bind (R := fun _ ↦ True) (fun result ↦ ?_)
    fun result _ ↦ ?_)) (fun fim ↦ ?_) fun fim _ ↦ ?_
  · exact (exec_complete task.taskId result).2
  · exact (exec_complete task.taskId result).1
  · cases fim with
    | ok => exact trivial
    | error x => exact (exec_fail cfg task.taskId x.str).2
  · cases fim with
    | ok => exact trivial
    | error x => exact (exec_fail cfg task.taskId x.str).1

theorem exec_worker (cfg : Config) :
    (execGate id n).ReadyTo (fun _ ↦ True) (workerRunOnce cfg) := by
  refine exec_dequeue.bind (fun o ↦ ?_) fun o ho ↦ ?_
  · cases o with
    | none => exact trivial
    | some task => exact exec_processar_gated cfg task false
  · cases o with
    | none => exact trivial
    | some task =>
      refine (exec_readyTo_of_sobre (processar_meets (E := fun t _ ↦ t = task) cfg rfl) ?_).1
      rintro t rfl
      exact ho t rfl

theorem exec_recovery (cfg : Config) :
    (execGate id n).ReadyTo (fun _ ↦ True) (recoveryRunOnce cfg) := by
  refine (embrulhar_readyTo (exec_run .ensureGroup fun _ h ↦ nomatch h)).bind_ready fun _ ↦ ?_
  have hclaim : (execGate id n).ReadyTo (fun _ ↦ True) (run (.xautoclaim cfg.batchSize)) :=
    exec_run (.xautoclaim _) fun _ h ↦ nomatch h
  refine (embrulhar_readyTo hclaim).bind_ready fun messages ↦ .forM trivial fun x _ ↦ ?_
  refine exec_readyTo_of_sobre (E := fun _ b ↦ b = true)
    (recuperar_meets cfg trivial fun _ ↦ rfl) ?_
  exact fun _ h ↦ nomatch h

/-- **Every worker counts an attempt before it executes it.** -/
theorem exec_ready (id : String) (n : ℕ) (cfg : Config) (c : Turno) :
    (execGate id n).Ready (code cfg c.pedido) := by
  cases c with
  | enqueue nova =>
    refine .of_not_acts (((enqueue_calls cfg nova.task).imp fun op hop hacts ↦ ?_).bind
      fun task ↦ .ret (some task))
    cases op with
    | executar => exact hop
    | _ => exact hacts
  | worker => exact semTarefa_ready (exec_worker cfg)
  | recovery => exact semTarefa_ready (exec_recovery cfg)

end Ready

/-! ## One call -/

section Calls

variable {p : Processos} {i : ℕ} {op : Cmd} {e : Env}

/-- **The count of a task** stays, or is that of the attempt that `dequeue` stores. -/
theorem attempts_exec (hconta : Conta p (i, op, e)) (id : String) :
    (exec op e p.store).1.attempts id = p.store.attempts id ∨
      ∃ task message, op = .reservar task message ∧ task.taskId = id ∧
        (exec op e p.store).1.get id = some task ∧ task.attempts = p.store.attempts id + 1 ∧
        (task.attempts : ℤ) ≤ max task.maxAttempts 1 := by
  obtain hexec | hexec := exec_fst op e p.store
  all_goals rw [hexec]
  · exact .inl rfl
  obtain ⟨task, hgrava, rfl, hstored⟩ | ⟨-, hsame⟩ := get_efeito op e p.store id
  · have hcount : (efeito op e p.store).1.attempts task.taskId = task.attempts := by
      rw [Streams.attempts, hstored, Option.elim_some]
    cases op with
    | criar =>
      cases hgrava
      obtain ⟨hnone, hzero⟩ := hconta
      left
      rw [hcount, hzero, Streams.attempts, hnone, Option.elim_none]
    | reservar _ message =>
      cases hgrava
      exact .inr ⟨task, message, rfl, rfl, hstored, hconta⟩
    | concluir | reagendar | descartar =>
      cases hgrava
      exact .inl (hcount.trans hconta)
    | _ => cases hgrava
  · left
    rw [Streams.attempts, hsame, Streams.attempts]

theorem attempts_le_exec (hconta : Conta p (i, op, e)) (id : String) :
    p.store.attempts id ≤ (exec op e p.store).1.attempts id := by
  obtain h | ⟨task, message, -, -, hget, hnext, -⟩ := attempts_exec hconta id
  · exact h.ge
  · have hcount : (exec op e p.store).1.attempts id = task.attempts := by
      rw [Streams.attempts, hget, Option.elim_some]
    omega

/-- **What is executed** is recorded as long as the task is not finished. -/
theorem execucoes_exec (op : Cmd) (e : Env) (s : Streams) :
    (exec op e s).1.execucoes = s.execucoes ∨
      ∃ task recuperada, op = .executar task recuperada ∧ ¬s.Encerrada task.taskId ∧
        (exec op e s).1.execucoes = s.execucoes ++ [(task.taskId, task.attempts)] := by
  obtain hexec | hexec := exec_fst op e s
  all_goals rw [hexec]
  · exact .inl rfl
  cases op with
  | executar task recuperada =>
    rw [efeito]
    split
    · exact .inl rfl
    next hopen => exact .inr ⟨task, recuperada, rfl, hopen, rfl⟩
  | setnx =>
    rw [efeito]
    split <;> exact .inl rfl
  | xreadgroup =>
    rw [efeito, Streams.xreadgroup]
    split <;> exact .inl rfl
  | concluir _ message | reagendar _ _ message | descartar _ _ message =>
    cases message <;> exact .inl rfl
  | _ => exact .inl rfl

end Calls

/-! ## Whole runs -/

/-- The invariant: attempts are executed one process at a time and once, within the limit of their
task. -/
structure Contagem (p : Processos) : Prop where
  guardada : Guardada p
  watched : ∀ id n, Pool.Watched (execGate id n) (fun _ ↦ True) (Contada id n) p
  exclusive : ∀ id n, Pool.Exclusive (execGate id n) p
  started : ∀ id n, (id, n) ∈ p.store.execucoes → 1 ≤ n ∧ n ≤ p.store.attempts id
  nodup : p.store.execucoes.Nodup
  bound : ∀ id task, p.store.get id = some task → (task.attempts : ℤ) ≤ max task.maxAttempts 1

/-- The workers, as long as every call counts. -/
def contadas (cfg : Config) : TransitionSystem Processos (Passo Turno) :=
  (trabalho cfg).restrict fun p m ↦ ∀ x ∈ p.nextCall m.1, Conta p x

section Run

variable {cfg : Config} {p : Processos}

theorem contagem_init : Contagem ⟨{}, fun _ ↦ none⟩ where
  guardada := .init
  watched _ _ _ _ _ h := nomatch h
  exclusive _ _ _ _ _ _ h := nomatch h
  started _ _ h := nomatch h
  nodup := List.nodup_nil
  bound _ _ h := nomatch h

namespace Contagem

/-- An attempt that `dequeue` stores is new, and counted from then on. -/
theorem contada_of_look (h : Contagem p) {id : String} {n i : ℕ} {op : Cmd} {e : Env}
    (hconta : Conta p (i, op, e)) (hlook : (execGate id n).looks op)
    (hpermits : (execGate id n).permits op (exec op e p.store).2) :
    p.store.attempts id < n ∧ Contada id n (exec op e p.store).1 := by
  cases op with
  | reservar task message =>
    obtain ⟨rfl, rfl⟩ := hlook
    have hexec : exec (.reservar task message) e p.store
        = efeito (.reservar task message) e p.store := by
      obtain hexec | ⟨-, m, hexec⟩ | ⟨-, m, hexec⟩ := exec_cases (.reservar task message) e p.store
      · exact hexec
      all_goals
        rw [hexec] at hpermits
        exact hpermits.elim
    have hcount : (efeito (.reservar task message) e p.store).1.attempts task.taskId
        = task.attempts := by
      change ((p.store.set task).get task.taskId).elim 0 _ = _
      rw [Streams.get_set, if_pos rfl, Option.elim_some]
    have hnext : task.attempts = p.store.attempts task.taskId + 1 := hconta.1
    rw [hexec]
    refine ⟨by omega, by omega, hcount.ge, fun hdone ↦ ?_⟩
    have := (h.started _ _ hdone).2
    omega
  | executar => exact hpermits.elim
  | _ => exact hlook.elim

/-- What is executed was counted and was not executed before, and nobody else is about to execute
it. -/
theorem contada_of_executar (h : Contagem p) {i : ℕ} {task : OperationalTask} {recuperada : Bool}
    {e : Env} {k : Except Erro Json → Processo (Option OperationalTask)}
    (htask : p.task i = some (.call (.executar task recuperada) k))
    (hconta : Conta p (i, .executar task recuperada, e))
    (hopen : ¬p.store.Encerrada task.taskId) :
    Contada task.taskId task.attempts p.store ∧ ∀ j q, j ≠ i → p.task j = some q →
      (execGate task.taskId task.attempts).Shut q := by
  cases recuperada with
  | true => exact hconta hopen
  | false =>
    refine ⟨(h.watched _ _).ok_of_acts trivial htask ⟨rfl, rfl⟩, fun j q hj hq ↦ ?_⟩
    by_contra hq'
    exact hj (h.exclusive _ _ hq htask hq' fun hshut ↦ hshut.1 ⟨rfl, rfl⟩)

/-- A counted attempt stays counted until it is executed. -/
theorem quiet (h : Contagem p) {i : ℕ} {op : Cmd} {e : Env}
    {k : Except Erro op.Ans → Processo (Option OperationalTask)}
    (htask : p.task i = some (.call op k)) (hconta : Conta p (i, op, e)) (id : String) (n : ℕ) :
    Pool.Quiet machine (execGate id n) (Contada id n) p (i, op, e) := by
  rintro ⟨hpos, hle, hnot⟩
  have hle' : n ≤ (exec op e p.store).1.attempts id :=
    Nat.le_trans hle (attempts_le_exec hconta id)
  obtain hkept | ⟨task, recuperada, rfl, hopen, hdone⟩ := execucoes_exec op e p.store
  · refine .inl ⟨hpos, hle', ?_⟩
    change _ ∉ (exec op e p.store).1.execucoes
    rwa [hkept]
  · by_cases hattempt : task.Na id n
    · -- the attempt itself: all others are shut
      obtain ⟨rfl, rfl⟩ := hattempt
      refine .inr fun j q hq ↦ ?_
      by_cases hj : j = i
      · exact .inr ⟨hj, rfl, rfl⟩
      · exact .inl ((h.contada_of_executar htask hconta hopen).2 j q hj hq)
    · refine .inl ⟨hpos, hle', ?_⟩
      change _ ∉ (exec (.executar task recuperada) e p.store).1.execucoes
      rw [hdone, List.mem_append, List.mem_singleton]
      rintro (hold | hnew)
      · exact hnot hold
      · cases hnew
        exact hattempt ⟨rfl, rfl⟩

/-- The count stays within the limit of the task. -/
theorem bound_exec (h : Contagem p) {i : ℕ} {op : Cmd} {e : Env}
    (hmesma : op.MesmaIntencao p.store) (hconta : Conta p (i, op, e)) (id : String)
    (task : OperationalTask) (hget : (exec op e p.store).1.get id = some task) :
    (task.attempts : ℤ) ≤ max task.maxAttempts 1 := by
  obtain hsame | ⟨new, message, -, -, hstored, -, hlimit⟩ := attempts_exec hconta id
  · cases hbefore : p.store.get id with
    | none =>
      have hzero : task.attempts = 0 := by
        rw [Streams.attempts, hget, Streams.attempts, hbefore] at hsame
        exact hsame
      omega
    | some stored =>
      obtain ⟨task', hget', hint⟩ := intencao_exec hmesma e hbefore
      rw [hget] at hget'
      cases hget'
      have hcount : task.attempts = stored.attempts := by
        rw [Streams.attempts, hget, Streams.attempts, hbefore] at hsame
        exact hsame
      have hmax : task.maxAttempts = stored.maxAttempts := congrArg Intencao.maxAttempts hint
      rw [hcount, hmax]
      exact h.bound id stored hbefore
  · rw [hget] at hstored
    cases hstored
    exact hlimit

/-- **One move.** -/
theorem step {p' : Processos} {m : Passo Turno} (h : Contagem p)
    (hstep : (trabalho cfg).step p m p') (hconta : ∀ x ∈ p.nextCall m.1, Conta p x) :
    Contagem p' := by
  have hcriar : ∀ i e task stored, p.nextCall m.1 = some (i, .criar task, e) →
      p.store.get task.taskId = some stored → task.intencao = stored.intencao := by
    intro i e task stored hcall hget
    rw [(show _ ∧ _ from hconta _ hcall).1] at hget
    cases hget
  have hguardada : Guardada p' :=
    h.guardada.step (fun H c ↦ code_meets H.visao cfg c.pedido) hstep hcriar
  have hwatched : ∀ id n, Pool.Watched (execGate id n) (fun _ ↦ True) (Contada id n) p' := by
    intro id n
    refine (h.watched id n).step (M := machine) (exec_ready id n cfg) (fun h ↦ h)
      (fun _ ↦ possivel_livre _ _ _) (fun {i op e} hcall hlook hpermits ↦ ?_) hstep
      (fun _ ↦ trivial) fun x hx ↦ ?_
    · exact (h.contada_of_look (hconta _ hcall) hlook hpermits).2
    · obtain ⟨i, op, e⟩ := x
      obtain ⟨k, htask⟩ := Pool.task_of_nextCall hx
      exact h.quiet htask (hconta _ hx) id n
  have hexclusive : ∀ id n, Pool.Exclusive (execGate id n) p' := by
    intro id n
    refine (h.exclusive id n).step (M := machine) (exec_ready id n cfg) (possivel_livre _ _ _)
      (fun i q hq ↦ (h.watched id n trivial i q hq).1) hstep
      fun {i op e} hcall hlook hpermits j q _ hq ↦ ?_
    -- before it is stored the attempt is not counted, so everyone is shut
    have hnew := (h.contada_of_look (hconta _ hcall) hlook hpermits).1
    refine (h.watched id n trivial j q hq).2.resolve_right fun hcounted ↦ ?_
    exact absurd hcounted.2.1 (Nat.not_le.mpr hnew)
  rw [Pool.step_eq hstep] at hguardada hwatched hexclusive ⊢
  obtain ⟨-, hm⟩ | ⟨i, c, -, hm⟩ | ⟨i, op, e, k, hcall, htask, hm⟩ | ⟨i, -, hm⟩ :=
    Pool.move_cases (fun c : Turno ↦ code cfg c.pedido) machine m.1 p
  all_goals rw [hm] at hguardada hwatched hexclusive ⊢
  · exact ⟨hguardada, hwatched, hexclusive, h.started, h.nodup, h.bound⟩
  · exact ⟨hguardada, hwatched, hexclusive, h.started, h.nodup, h.bound⟩
  · have hcond := hconta _ hcall
    have hmesma : op.MesmaIntencao p.store := by
      refine (h.guardada.fiel p.store.de_historia htask).mesmaIntencao p.store.de_historia ?_
      rintro task stored rfl hget
      exact hcriar i e task stored hcall hget
    have hstarted : ∀ id n, (id, n) ∈ p.store.execucoes →
        1 ≤ n ∧ n ≤ (exec op e p.store).1.attempts id := by
      intro id n hmem
      obtain ⟨hpos, hle⟩ := h.started id n hmem
      exact ⟨hpos, Nat.le_trans hle (attempts_le_exec hcond id)⟩
    have hbound := h.bound_exec hmesma hcond
    obtain hkept | ⟨task, recuperada, rfl, hopen, hdone⟩ := execucoes_exec op e p.store
    · refine ⟨hguardada, hwatched, hexclusive, fun id n hmem ↦ ?_, ?_, hbound⟩
      · exact hstarted id n (hkept ▸ hmem)
      · change (exec op e p.store).1.execucoes.Nodup
        rw [hkept]
        exact h.nodup
    · -- an execution: its attempt was counted, and not executed before
      obtain ⟨⟨hpos, hle, hnot⟩, -⟩ := h.contada_of_executar htask hcond hopen
      refine ⟨hguardada, hwatched, hexclusive, fun id n hmem ↦ ?_, ?_, hbound⟩
      · have hmem' : (id, n) ∈ p.store.execucoes ++ [(task.taskId, task.attempts)] := hdone ▸ hmem
        rcases List.mem_append.mp hmem' with hold | hnew
        · exact hstarted id n hold
        · cases List.mem_singleton.mp hnew
          exact ⟨hpos, Nat.le_trans hle (attempts_le_exec hcond task.taskId)⟩
      · change (exec (.executar task recuperada) e p.store).1.execucoes.Nodup
        rw [hdone]
        refine List.nodup_append.mpr ⟨h.nodup, List.nodup_singleton _, fun a ha b hb hab ↦ hnot ?_⟩
        rw [List.mem_singleton.mp hb] at hab
        exact hab ▸ ha
  · exact ⟨hguardada, hwatched, hexclusive, h.started, h.nodup, h.bound⟩

end Contagem

theorem contagem_of_run {tr : List (Passo Turno)} (h : (contadas cfg).Run tr p) : Contagem p := by
  refine TransitionSystem.Run.invariant (T := contadas cfg) (fun hinit ↦ ?_)
    (fun {p m p'} hp hstep ↦ hp.step hstep.2 hstep.1) h
  rw [show _ = _ from hinit]
  exact contagem_init

end Run

/-! ## The small queue -/

/-- A call that counts, and is not an execution by the recovery. -/
def Cmd.conta (s : Streams) : Cmd → Bool
  | criar task => (s.get task.taskId).isNone && task.attempts = 0
  | reservar task _ => task.attempts = s.attempts task.taskId + 1
      && (task.attempts : ℤ) ≤ max task.maxAttempts 1
  | concluir task _ | reagendar task _ _ | descartar task _ _ =>
      task.attempts = s.attempts task.taskId
  | executar _ recuperada => !recuperada
  | _ => true

theorem conta_of {p : Processos} {x : ℕ × Cmd × Env} (h : x.2.1.conta p.store = true) :
    Conta p x := by
  obtain ⟨i, op, e⟩ := x
  cases op with
  | criar =>
    obtain ⟨hnone, hzero⟩ := Bool.and_eq_true_iff.mp h
    exact ⟨Option.isNone_iff_eq_none.mp hnone, of_decide_eq_true hzero⟩
  | reservar =>
    obtain ⟨hnext, hlimit⟩ := Bool.and_eq_true_iff.mp h
    exact ⟨of_decide_eq_true hnext, of_decide_eq_true hlimit⟩
  | concluir | reagendar | descartar => exact (of_decide_eq_true h : _ = _)
  | executar _ recuperada =>
    cases recuperada with
    | true => cases h
    | false => exact trivial
  | _ => exact trivial

/-- A task that raises is taken by two workers, one after the other. -/
def sampleRetried : List (Move Turno Env) :=
  sampleStart 0 (.enqueue (sampleNova sampleErro 2)) 5 {} ++ sampleStart 1 .worker 14 {}
    ++ sampleStart 2 .worker 16 sampleEnv

example : (sampleWork sampleRetried).2.store.executada "t-1" = 2 := by decide +kernel

/-- A worker takes a task that may be attempted once, executes it and dies. Then the recovery
executes it. -/
def sampleCrashed : List (Move Turno Env) :=
  sampleStart 0 (.enqueue (sampleNova [] 1)) 5 {} ++ sampleStart 1 .worker 9 {} ++ .crash 1
    :: sampleStart 2 .recovery 5 sampleEnv

end OperationalQueue

end ReqSys
