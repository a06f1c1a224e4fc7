import ReqSys.Foundation.Gate
import ReqSys.OperationalQueue.Stranding

/-!
# Operational queue: finished tasks

`complete` and `fail` read a task, and store it again without a condition on its status. So does
`dequeue`. A task stays finished only because nobody works on it any more: no message of it is left,
and no process has one in hand.

To fetch a message of the task is a look in the sense of `Gate`, and so is to take its id out of the
retry set; all transactions on the task are acts. `finished_kept` says that a task is final if it
was finished when its last message was acknowledged and no other process, nor the process itself
later in its batch, still had it in hand.
-/

namespace ReqSys

namespace OperationalQueue

open Program Gate

/-! ## The gate of a task -/

/-- Nothing is known but that `get` returns the task that was asked for. -/
def Visao.livre : Visao where
  DaTarefa _ _ := True
  Intencao _ _ := True

/-- The calls that write the task, but for its creation, each after one that fetched it. -/
def tarefaGate (id : String) : Gate Cmd.Ans Erro where
  acts
    | .criar _ | .executar _ _ => False
    | op => op.alvo = some id
  looks
    | .zrem taskId => taskId = id
    | op => op.Busca
  permits
    | .xreadgroup, .ok (some x) => x.2 = id
    | .xautoclaim _, .ok messages => id ∈ messages.map Prod.snd
    | .zrem _, .ok removed => removed = true
    | _, _ => False
  possible := Visao.livre.Possivel

/-- What a call finishes: the task was not finished before. -/
def Finda (p : Processos) (op : Cmd) (e : Env) (id : String) : Prop :=
  ¬p.store.Encerrada id ∧ (exec op e p.store).1.Encerrada id

/-- The condition on a call. If it finishes a task, no reference of the task remains, no other
process has it in hand, and the caller does not go on with it. The id of an enqueued task is new. -/
def Solta (p : Processos) (x : ℕ × Cmd × Env) : Prop :=
  (∀ task, x.2.1 = .criar task → p.store.get task.taskId = none) ∧
    ∀ id, Finda p x.2.1 x.2.2 id →
      ¬(exec x.2.1 x.2.2 p.store).1.Referenciado id ∧
      (∀ j q, j ≠ x.1 → p.task j = some q → (tarefaGate id).Shut q) ∧
      ∀ k, p.task x.1 = some (.call x.2.1 k) →
        (tarefaGate id).Shut (k (exec x.2.1 x.2.2 p.store).2)

/-- A finished task keeps its status and is not scheduled again. -/
def FimMantido (s s' : Streams) : Prop :=
  ∀ id task, s.get id = some task → task.status.Final →
    (∃ task', s'.get id = some task' ∧ task'.status = task.status) ∧ ¬s'.Referenciado id

/-! ## The programs are gated -/

section Ready

variable {id : String} {cfg : Config}

theorem tarefa_not_acts_of_alvo {op : Cmd} (h : op.alvo ≠ some id) : ¬(tarefaGate id).acts op := by
  cases op with
  | criar | executar => exact fun h ↦ h
  | _ => exact h

theorem tarefa_not_looks_of_busca {op : Cmd} (h : ¬op.Busca) : ¬(tarefaGate id).looks op := by
  cases op with
  | zrem => exact absurd trivial h
  | _ => exact h

theorem tarefa_not_acts_of_none {op : Cmd} (h : op.alvo = none) : ¬(tarefaGate id).acts op := by
  refine tarefa_not_acts_of_alvo ?_
  rw [h]
  exact fun h ↦ nomatch h

/-- What is about another task. -/
theorem tarefa_not_acts_of_sobre {op : Cmd} {taskId : String}
    {E : OperationalTask → Bool → Prop} (h : op.Sobre taskId E) (hid : taskId ≠ id) : ¬(tarefaGate id).acts op :=
  tarefa_not_acts_of_alvo fun halvo ↦ hid (h.alvo id halvo).symm

section Parts

variable {α : Type} {Q : α → Prop} {p : Processo α} {taskId : String}

theorem gatedTo_of_sobre {Q' : α → Prop}
    (hp : p.Meets Visao.livre.Possivel (fun op ↦ op.Fiel Visao.livre ∧ op.Sobre taskId fun _ _ ↦ True) Q') :
    (tarefaGate id).GatedTo Q p :=
  .of_meets (hp.imp (fun _ h ↦ tarefa_not_looks_of_busca h.2.busca) fun _ h ↦ h)

theorem shutTo_of_sobre (hid : taskId ≠ id)
    (hp : p.Meets Visao.livre.Possivel (fun op ↦ op.Fiel Visao.livre ∧ op.Sobre taskId fun _ _ ↦ True) Q) :
    (tarefaGate id).ShutTo Q p :=
  .of_meets (hp.imp (fun _ h ↦ tarefa_not_acts_of_sobre h.2 hid) fun _ h ↦ h)

theorem embrulhar_readyTo {G : Gate Cmd.Ans Erro} {passa : Erro → Bool} {texto : String}
    (hp : G.ReadyTo Q p) : G.ReadyTo Q (embrulhar passa texto p) := by
  refine hp.attempt.bind (fun r ↦ ?_) fun r hr ↦ ?_
  · cases r <;> exact trivial
  · cases r with
    | ok a => exact hr a rfl
    | error x => exact trivial

theorem semTarefa_ready {G : Gate Cmd.Ans Erro} {p : Processo Unit}
    (hp : G.ReadyTo (fun _ ↦ True) p) : G.Ready (semTarefa p) := by
  refine hp.ready.bind fun _ ↦ ?_
  exact Ready.ret none

/-- A call that neither fetches nor writes a task. -/
theorem run_readyTo (op : Cmd) {Q : op.Ans → Prop} (halvo : op.alvo = none)
    (hQ : ∀ a, Visao.livre.Possivel op (.ok a) → Q a) : (tarefaGate id).ReadyTo Q (run op) := by
  exact .of_meets (.perform (tarefa_not_acts_of_none halvo) hQ)

end Parts

theorem ensureGroup_readyTo : (tarefaGate id).ReadyTo (fun _ ↦ True) ensureGroup :=
  embrulhar_readyTo (run_readyTo .ensureGroup rfl fun _ _ ↦ trivial)

/-- **A promotion** takes the id out of the retry set before it adds it to the stream. -/
theorem promover_readyTo (taskId : String) :
    (tarefaGate id).ReadyTo (fun _ ↦ True) (promover taskId) := by
  have hxadd : (run (.xadd taskId)).Meets Visao.livre.Possivel
      (fun op ↦ op.Fiel Visao.livre ∧ op.Sobre taskId fun _ _ ↦ True) fun _ ↦ True :=
    run_sobre_meets (.xadd taskId) trivial rfl (fun h ↦ h) fun _ _ h ↦ nomatch h
  by_cases hid : taskId = id
  · refine ReadyTo.bind (Q := fun removed ↦ removed = false) ?_ (fun removed ↦ ?_)
      fun removed hremoved ↦ ?_
    · refine .look (Cmd.zrem taskId) (tarefa_not_acts_of_none rfl) hid fun removed _ hpermit ↦ ?_
      exact Bool.not_eq_true _ ▸ hpermit
    · split
      · exact gatedTo_of_sobre hxadd
      · exact trivial
    · rw [hremoved]
      exact trivial
  · refine ReadyTo.bind_ready (Q := fun _ ↦ True) ?_ fun removed ↦ ?_
    · exact .of_meets (.perform (tarefa_not_acts_of_none rfl) fun _ _ ↦ trivial)
    · split
      · exact ⟨shutTo_of_sobre hid hxadd, gatedTo_of_sobre hxadd⟩
      · exact ⟨trivial, trivial⟩

/-- **`dequeue`** fetches a task before it stores it, and returns the task that it fetched. -/
theorem dequeue_readyTo :
    (tarefaGate id).ReadyTo (fun o ↦ ∀ task ∈ o, task.taskId ≠ id) dequeue := by
  refine ensureGroup_readyTo.bind_ready fun _ ↦ embrulhar_readyTo ?_
  refine ReadyTo.bind_ready (Q := fun _ ↦ True) ?_ fun _ ↦ ?_
  · refine (run_readyTo (Q := fun _ ↦ True) .now rfl fun _ _ ↦ trivial).bind_ready
      fun now ↦ ?_
    refine (run_readyTo (Q := fun _ ↦ True) (.zrangebyscore now) rfl
      fun _ _ ↦ trivial).bind_ready fun taskIds ↦ ?_
    exact .forM trivial fun taskId _ ↦ promover_readyTo taskId
  · refine ReadyTo.bind (Q := fun o ↦ ∀ x ∈ o, x.2 ≠ id) ?_ (fun o ↦ ?_) fun o ho ↦ ?_
    · refine .look Cmd.xreadgroup (tarefa_not_acts_of_none rfl) trivial fun o _ hpermit x hx ↦ ?_
      rw [hx] at hpermit
      exact hpermit
    · cases o with
      | none => exact trivial
      | some x => exact gatedTo_of_sobre (receber_meets trivial)
    · cases o with
      | none => exact fun task h ↦ nomatch h
      | some x =>
        refine shutTo_of_sobre (ho x rfl) ((receber_meets trivial).imp (fun _ h ↦ h) ?_)
        exact fun o ho' task htask ↦ ho' task htask ▸ ho x rfl

theorem worker_ready (cfg : Config) : (tarefaGate id).ReadyTo (fun _ ↦ True) (workerRunOnce cfg) := by
  refine dequeue_readyTo.bind (fun o ↦ ?_) fun o ho ↦ ?_
  · cases o with
    | none => exact trivial
    | some task => exact gatedTo_of_sobre (processar_meets cfg trivial)
  · cases o with
    | none => exact trivial
    | some task => exact shutTo_of_sobre (ho task rfl) (processar_meets cfg trivial)

theorem recovery_ready (cfg : Config) :
    (tarefaGate id).ReadyTo (fun _ ↦ True) (recoveryRunOnce cfg) := by
  refine ensureGroup_readyTo.bind_ready fun _ ↦ ?_
  refine ReadyTo.bind (Q := fun messages ↦ id ∉ messages.map Prod.snd) ?_ (fun messages ↦ ?_)
    fun messages hmessages ↦ ?_
  · refine embrulhar_readyTo (.look (Cmd.xautoclaim cfg.batchSize)
      (tarefa_not_acts_of_none rfl) trivial ?_)
    exact fun messages _ hpermit ↦ hpermit
  · refine .of_meets (Meets.forM (T := fun _ ↦ True) trivial fun x _ ↦ ?_)
    exact (recuperar_meets (E := fun _ _ ↦ True) cfg trivial fun _ ↦ trivial).imp
      (fun _ h ↦ tarefa_not_looks_of_busca h.2.busca) fun _ h ↦ h
  · refine .of_meets (.forM trivial fun x hx ↦ ?_)
    have hid : x.2 ≠ id := fun h ↦ hmessages (h ▸ List.mem_map_of_mem hx)
    exact (recuperar_meets (E := fun _ _ ↦ True) cfg trivial fun _ ↦ trivial).imp
      (fun _ h ↦ tarefa_not_acts_of_sobre h.2 hid) fun _ h ↦ h

/-- A call of `enqueue`. -/
def Cmd.DeEnqueue : Cmd → Prop
  | ensureGroup | setnx _ _ | getIndex _ | get _ | criar _ => True
  | _ => False

theorem enqueue_calls (cfg : Config) (task : OperationalTask) :
    (enqueue cfg task).AllCalls Cmd.DeEnqueue := by
  have hembrulhar : ∀ {α : Type} {passa : Erro → Bool} {texto : String} {p : Processo α},
      p.AllCalls Cmd.DeEnqueue → (embrulhar passa texto p).AllCalls Cmd.DeEnqueue := by
    intro α passa texto p hp
    refine hp.attempt.bind fun r ↦ ?_
    cases r with
    | ok a => exact .ret a
    | error x => exact .raise _
  have hrun : ∀ op : Cmd, op.DeEnqueue → (run op).AllCalls Cmd.DeEnqueue := fun _ h ↦ .perform h
  have hcriar : (criar task).AllCalls Cmd.DeEnqueue := (hrun (.criar task) trivial).bind fun _ ↦ .ret _
  refine (hembrulhar (hrun .ensureGroup trivial)).bind fun _ ↦ hembrulhar ?_
  rw [inserir]
  split
  · exact hcriar
  · refine (hrun (.setnx _ task) trivial).bind fun acquired ↦ ?_
    split
    · exact hcriar
    · refine (hrun (.getIndex _) trivial).bind fun o ↦ ?_
      split
      · exact .raise _
      next existingId =>
        have hget : (get existingId).AllCalls Cmd.DeEnqueue := by
          rw [get]
          split
          · exact .ret _
          · exact hembrulhar (hrun (.get existingId) trivial)
        refine hget.bind fun o ↦ ?_
        split
        · exact .raise _
        · split
          · exact .ret _
          · exact .raise _

/-- **Every process fetches a task before it writes it**, but for the creation. -/
theorem turno_ready (id : String) (cfg : Config) (c : Turno) :
    (tarefaGate id).Ready (code cfg c.pedido) := by
  cases c with
  | enqueue nova =>
    refine .of_not_acts (((enqueue_calls cfg nova.task).imp fun op hop hacts ↦ ?_).bind
      fun task ↦ .ret (some task))
    cases op with
    | criar => exact hacts
    | ensureGroup | setnx | getIndex | get => exact absurd hacts (by nofun)
    | _ => exact hop
  | worker => exact semTarefa_ready (worker_ready cfg)
  | recovery => exact semTarefa_ready (recovery_ready cfg)

end Ready

/-! ## One call -/

section Calls

variable {s : Streams} {op : Cmd} {e : Env} {id : String}

theorem Streams.encerrada_iff :
    s.Encerrada id ↔ ∃ task, s.get id = some task ∧ task.status.Final := by
  rw [Streams.Encerrada, Option.any_eq_true]
  exact ⟨fun ⟨t, ht, h⟩ ↦ ⟨t, ht, of_decide_eq_true h⟩, fun ⟨t, ht, h⟩ ↦ ⟨t, ht, decide_eq_true h⟩⟩

theorem Streams.referenciado_confirmar_of {taskId : String} {message : Option ℕ}
    (h : (s.confirmar taskId message).Referenciado id) : s.Referenciado id := by
  cases message with
  | none => exact h
  | some m =>
    refine h.imp_right (Or.imp_left ?_)
    rintro ⟨n, hn, hid⟩
    exact ⟨n, List.mem_of_mem_filter hn, hid⟩

/-- **New references** come from the acts and from the creation. -/
theorem referenciado_of_efeito (h : (efeito op e s).1.Referenciado id) :
    s.Referenciado id ∨ (tarefaGate id).acts op ∨ ∃ task, op = .criar task ∧ task.taskId = id := by
  have hxadd : ∀ {s : Streams} {taskId}, (s.xadd taskId).Referenciado id →
      s.Referenciado id ∨ taskId = id := by
    intro s taskId h
    rw [Streams.referenciado_iff] at h ⊢
    rcases h with ⟨m, hm, hopen⟩ | hretry
    · rcases lt_trichotomy m s.stream.length with hlt | rfl | hgt
      · rw [Streams.xadd, List.getElem?_append_left hlt] at hm
        exact .inl (.inl ⟨m, hm, hopen⟩)
      · rw [Streams.xadd, List.getElem?_concat_length] at hm
        exact .inr (Option.some.inj hm)
      · rw [Streams.xadd, List.getElem?_eq_none (by simp; omega)] at hm
        cases hm
    · exact .inl (.inr hretry)
  cases op with
  | xadd taskId =>
    refine (hxadd h).imp_right fun hid ↦ .inl ?_
    exact congrArg some hid
  | criar task =>
    refine (hxadd (s := s.set task) h).imp_right fun hid ↦ .inr ⟨task, rfl, hid⟩
  | zrem taskId =>
    refine .inl (h.imp_right (Or.imp_right fun hretry ↦ ?_))
    obtain ⟨x, hx, hid⟩ := List.mem_map.mp hretry
    exact List.mem_map.mpr ⟨x, List.mem_of_mem_filter hx, hid⟩
  | xack message =>
    have h : (s.confirmar "" (some message)).Referenciado id := h
    exact .inl (Streams.referenciado_confirmar_of h)
  | concluir task message =>
    exact .inl (Streams.referenciado_confirmar_of (s := s.set task) h)
  | descartar task entrada message =>
    have h : ((s.set task).confirmar task.taskId message).Referenciado id := h
    exact .inl (Streams.referenciado_confirmar_of (s := s.set task) h)
  | reagendar task score message =>
    have h := Streams.referenciado_confirmar_of (s := (s.set task).zadd task.taskId score) h
    by_cases hid : task.taskId = id
    · exact .inr (.inl (congrArg some hid))
    · refine .inl (h.imp_right (Or.imp_right fun hretry ↦ ?_))
      rw [Streams.zadd, List.map_cons, List.mem_cons] at hretry
      obtain ⟨x, hx, hxid⟩ := List.mem_map.mp (hretry.resolve_left fun h ↦ hid h.symm)
      exact List.mem_map.mpr ⟨x, List.mem_of_mem_filter hx, hxid⟩
  | xreadgroup =>
    left
    rw [efeito, Streams.xreadgroup] at h
    split at h
    · exact h
    next hnext =>
      rw [Streams.referenciado_iff] at h ⊢
      refine h.imp_left ?_
      rintro ⟨m, hm, hle | hpel⟩
      · exact ⟨m, hm, .inl (Nat.le_of_succ_le hle)⟩
      · rcases List.mem_append.mp hpel with hold | hnew
        · exact ⟨m, hm, .inr hold⟩
        · cases List.mem_singleton.mp hnew
          exact ⟨_, hm, .inl (Nat.le_refl _)⟩
  | setnx | executar =>
    left
    rw [efeito] at h
    split at h <;> exact h
  | _ => exact .inl h

/-- The dead letter stream gets the entry of `fail`. -/
theorem dlq_efeito (op : Cmd) (e : Env) (s : Streams) :
    (efeito op e s).1.dlq = s.dlq ∨ ∃ task entrada message,
      op = .descartar task entrada message ∧ (efeito op e s).1.dlq = s.dlq ++ [entrada] := by
  cases op with
  | descartar task entrada message => exact .inr ⟨task, entrada, message, rfl, rfl⟩
  | setnx | executar =>
    left
    rw [efeito]
    split <;> rfl
  | xreadgroup =>
    left
    rw [efeito, Streams.xreadgroup]
    split <;> rfl
  | concluir task message | reagendar task _ message =>
    left
    cases message <;> rfl
  | _ => exact .inl rfl

/-- `get` returns the task that was asked for. -/
theorem possivel_livre (op : Cmd) (e : Env) (s : Streams) :
    Visao.livre.Possivel op (exec op e s).2 := by
  obtain hsnd | ⟨m, herror⟩ := exec_snd op e s
  · rw [hsnd]
    cases op with
    | get taskId =>
      change Visao.livre.Possivel (.get taskId) (.ok (s.get taskId))
      cases hget : s.get taskId with
      | none => exact trivial
      | some task => exact ⟨s.taskId_of_get hget, trivial⟩
    | hget taskId =>
      change Visao.livre.Possivel (.hget taskId) (.ok (Table.get? taskId s.processing))
      cases Table.get? taskId s.processing <;> exact trivial
    | xreadgroup =>
      change Visao.livre.Possivel .xreadgroup (.ok s.xreadgroup.2)
      cases s.xreadgroup.2 <;> exact trivial
    | xautoclaim => exact fun _ _ ↦ trivial
    | _ => exact trivial
  · rw [herror]
    cases op <;> exact trivial

/-- A fetch finds a reference of the task. -/
theorem referenciado_of_look (hlook : (tarefaGate id).looks op)
    (hpermits : (tarefaGate id).permits op (exec op e s).2) :
    s.Referenciado id ∧ (efeito op e s).1.get id = s.get id := by
  have hsnd : (exec op e s).2 = (efeito op e s).2 := by
    refine (exec_snd op e s).resolve_right ?_
    rintro ⟨m, herror⟩
    rw [herror] at hpermits
    cases op <;> exact hpermits
  rw [hsnd] at hpermits
  cases op with
  | xreadgroup =>
    change (tarefaGate id).permits .xreadgroup (.ok s.xreadgroup.2) at hpermits
    change _ ∧ s.xreadgroup.1.get id = _
    rw [Streams.xreadgroup] at hpermits ⊢
    split at hpermits
    · exact hpermits.elim
    next taskId hnext =>
      cases (hpermits : taskId = id)
      exact ⟨Streams.referenciado_iff.mpr (.inl ⟨_, hnext, .inl (Nat.le_refl _)⟩), rfl⟩
  | xautoclaim count =>
    refine ⟨?_, rfl⟩
    obtain ⟨x, hx, hid⟩ := List.mem_map.mp (show id ∈ (s.xautoclaim e.ociosas count).map _ from hpermits)
    obtain ⟨m, hm, hfield⟩ := List.mem_filterMap.mp hx
    obtain ⟨taskId, hmessage, rfl⟩ := Option.map_eq_some_iff.mp hfield
    cases (hid : taskId = id)
    refine Streams.referenciado_iff.mpr (.inl ⟨m, hmessage, .inr ?_⟩)
    exact List.mem_of_mem_filter (List.mem_of_mem_take hm)
  | zrem taskId =>
    cases (hlook : taskId = id)
    refine ⟨.inr (.inr ?_), rfl⟩
    obtain ⟨x, hx, hid⟩ := List.any_eq_true.mp hpermits
    exact List.mem_map.mpr ⟨x, hx, of_decide_eq_true hid⟩
  | _ => exact hpermits.elim

end Calls

/-! ## Whole runs -/

/-- Producers, workers and recoveries, as long as tasks are finished by their last holder. -/
def soltas (cfg : Config) : TransitionSystem Processos (Passo Turno) :=
  (trabalho cfg).restrict fun p m ↦ ∀ x ∈ p.nextCall m.1, Solta p x

/-- The invariant. -/
structure Acabada (p : Processos) : Prop where
  guardada : Guardada p
  watched : ∀ id, Pool.Watched (tarefaGate id) (fun _ ↦ True) (fun s ↦ ¬s.Encerrada id) p
  solta : ∀ id, p.store.Encerrada id → ¬p.store.Referenciado id
  dlq : ∀ id, p.store.dlq.countP (fun x ↦ x.taskId = id) ≤ 1
  encerrada : ∀ x ∈ p.store.dlq, p.store.Encerrada x.taskId

section Run

variable {cfg : Config} {p : Processos}

theorem acabada_init : Acabada ⟨{}, fun _ ↦ none⟩ where
  guardada := .init
  watched _ _ _ _ h := nomatch h
  solta _ h := nomatch h
  dlq _ := Nat.zero_le _
  encerrada _ h := nomatch h

namespace Acabada

/-- **A finished task is left alone** by every call. -/
theorem get_efeito_of_encerrada (h : Acabada p) {i : ℕ} {op : Cmd}
    {k : Except Erro op.Ans → Processo (Option OperationalTask)}
    (htask : p.task i = some (.call op k))
    (hcriar : ∀ task, op = .criar task → p.store.get task.taskId = none) (e : Env) {id : String}
    (hid : p.store.Encerrada id) :
    (efeito op e p.store).1.get id = p.store.get id ∧ ¬(efeito op e p.store).1.Referenciado id := by
  have hacts : ¬(tarefaGate id).acts op := fun hacts ↦
    (h.watched id).ok_of_acts trivial htask hacts hid
  have hnew : ∀ task, op = .criar task → task.taskId ≠ id := by
    rintro task rfl rfl
    obtain ⟨stored, hget, -⟩ := Streams.encerrada_iff.mp hid
    rw [hcriar task rfl] at hget
    cases hget
  constructor
  · obtain ⟨task, hgrava, rfl, -⟩ | ⟨-, hget⟩ := get_efeito op e p.store id
    · exfalso
      cases op with
      | criar => cases hgrava; exact hnew _ rfl rfl
      | reservar | concluir | reagendar | descartar => cases hgrava; exact hacts rfl
      | _ => cases hgrava
    · exact hget
  · intro href
    obtain hold | hact | ⟨task, hop, htask⟩ := referenciado_of_efeito href
    · exact h.solta id hid hold
    · exact hacts hact
    · exact hnew task hop htask

theorem get_exec_of_encerrada (h : Acabada p) {i : ℕ} {op : Cmd}
    {k : Except Erro op.Ans → Processo (Option OperationalTask)}
    (htask : p.task i = some (.call op k))
    (hcriar : ∀ task, op = .criar task → p.store.get task.taskId = none) (e : Env) {id : String}
    (hid : p.store.Encerrada id) :
    (exec op e p.store).1.get id = p.store.get id ∧ ¬(exec op e p.store).1.Referenciado id := by
  obtain hexec | hexec := exec_fst op e p.store
  all_goals rw [hexec]
  · exact ⟨rfl, h.solta id hid⟩
  · exact h.get_efeito_of_encerrada htask hcriar e hid

/-- **One call.** -/
theorem exec (h : Acabada p) {i : ℕ} {op : Cmd} {e : Env}
    {k : Except Erro op.Ans → Processo (Option OperationalTask)}
    (htask : p.task i = some (.call op k)) (hsolta : Solta p (i, op, e)) :
    (∀ id, (OperationalQueue.exec op e p.store).1.Encerrada id →
      ¬(OperationalQueue.exec op e p.store).1.Referenciado id) ∧
    (∀ id, (OperationalQueue.exec op e p.store).1.dlq.countP (fun x ↦ x.taskId = id) ≤ 1) ∧
    ∀ x ∈ (OperationalQueue.exec op e p.store).1.dlq,
      (OperationalQueue.exec op e p.store).1.Encerrada x.taskId := by
  have hkept : ∀ {id}, p.store.Encerrada id →
      (OperationalQueue.exec op e p.store).1.Encerrada id := by
    intro id hid
    rw [Streams.Encerrada, (h.get_exec_of_encerrada htask hsolta.1 e hid).1]
    exact hid
  refine ⟨fun id hid ↦ ?_, ?_⟩
  · by_cases hold : p.store.Encerrada id
    · exact (h.get_exec_of_encerrada htask hsolta.1 e hold).2
    · exact (hsolta.2 id ⟨hold, hid⟩).1
  · obtain hexec | hexec := exec_fst op e p.store
    · rw [hexec]
      exact ⟨h.dlq, h.encerrada⟩
    · obtain hdlq | ⟨task, entrada, message, rfl, hdlq⟩ := dlq_efeito op e p.store
      · rw [hexec] at hkept ⊢
        rw [hdlq]
        refine ⟨h.dlq, fun x hx ↦ ?_⟩
        exact hkept (h.encerrada x hx)
      · -- the first entry of the task: it was not finished before, and is now
        obtain ⟨-, hstatus, -, hentrada⟩ := h.guardada.fiel p.store.de_historia htask
        have hopen := (h.watched task.taskId).ok_of_acts trivial htask rfl
        have hclosed : (efeito (.descartar task entrada message) e p.store).1.Encerrada
            task.taskId := by
          refine Streams.encerrada_iff.mpr ⟨task, ?_, .inr hstatus⟩
          change ((p.store.set task).confirmar task.taskId message).get task.taskId = _
          rw [Streams.get_confirmar, Streams.get_set, if_pos rfl]
        rw [hexec] at hkept ⊢
        rw [hdlq]
        refine ⟨fun id ↦ ?_, fun x hx ↦ ?_⟩
        · rw [List.countP_append, List.countP_singleton]
          by_cases hid : entrada.taskId = id
          · have hnone : p.store.dlq.countP (fun x ↦ x.taskId = id) = 0 := by
              refine List.countP_eq_zero.mpr fun x hx hxid ↦ hopen ?_
              have hx' := h.encerrada x hx
              rwa [of_decide_eq_true hxid, ← hid, hentrada] at hx'
            rw [hnone]
            split <;> omega
          · rw [if_neg (by simpa using hid)]
            exact h.dlq id
        · rcases List.mem_append.mp hx with hold | hnew
          · exact hkept (h.encerrada x hold)
          · rw [List.mem_singleton.mp hnew, hentrada]
            exact hclosed

/-- **One move.** -/
theorem step {p' : Processos} {m : Passo Turno} (h : Acabada p) (hstep : (trabalho cfg).step p m p')
    (hsolta : ∀ x ∈ p.nextCall m.1, Solta p x) : Acabada p' := by
  have hguardada : Guardada p' := by
    refine h.guardada.step (fun H c ↦ code_meets H.visao cfg c.pedido) hstep
      fun i e task stored hcall hget ↦ ?_
    rw [(hsolta _ hcall).1 task rfl] at hget
    cases hget
  have hwatched : ∀ id, Pool.Watched (tarefaGate id) (fun _ ↦ True) (fun s ↦ ¬s.Encerrada id)
      p' := by
    intro id
    refine (h.watched id).step_of_calm (M := machine) (turno_ready id cfg) (fun h ↦ h) (fun {s _ op e} _ ↦ possivel_livre op e s)
      (fun {i op e} hcall hlook hpermits hclosed ↦ ?_) hstep (fun _ ↦ trivial)
      fun {i op e k} hcall htask hok ↦ ?_
    · obtain ⟨href, hget⟩ := referenciado_of_look hlook hpermits
      have hsame : (OperationalQueue.exec op e p.store).1.get id = p.store.get id := by
        obtain hexec | hexec := exec_fst op e p.store
        all_goals rw [hexec]
        exact hget
      refine h.solta id ?_ href
      rw [Streams.Encerrada, ← hsame]
      exact hclosed
    · by_cases hfinda : (OperationalQueue.exec op e p.store).1.Encerrada id
      · obtain ⟨-, hothers, hcaller⟩ := (hsolta _ hcall).2 id ⟨hok, hfinda⟩
        exact .inr ⟨hothers, .inr (hcaller k htask)⟩
      · exact .inl hfinda
  rw [Pool.step_eq hstep] at hguardada hwatched ⊢
  obtain ⟨-, hm⟩ | ⟨i, c, -, hm⟩ | ⟨i, op, e, k, hcall, htask, hm⟩ | ⟨i, -, hm⟩ :=
    Pool.move_cases (fun c : Turno ↦ code cfg c.pedido) machine m.1 p
  all_goals rw [hm] at hguardada hwatched ⊢
  · exact ⟨hguardada, hwatched, h.solta, h.dlq, h.encerrada⟩
  · exact ⟨hguardada, hwatched, h.solta, h.dlq, h.encerrada⟩
  · obtain ⟨hsolta', hdlq, hencerrada⟩ := h.exec htask (hsolta _ hcall)
    exact ⟨hguardada, hwatched, hsolta', hdlq, hencerrada⟩
  · exact ⟨hguardada, hwatched, h.solta, h.dlq, h.encerrada⟩

end Acabada

theorem acabada_of_run {tr : List (Passo Turno)} (h : (soltas cfg).Run tr p) : Acabada p := by
  refine TransitionSystem.Run.invariant (T := soltas cfg) (fun hinit ↦ ?_)
    (fun {p m p'} hp hstep ↦ hp.step hstep.2 hstep.1) h
  rw [show _ = _ from hinit]
  exact acabada_init

/-- **Finished tasks are final**, in every run in which tasks are finished by their last holder: a
step keeps the status of a finished task and schedules it no more, and the dead letter stream holds
at most one entry of every task. -/
theorem finished_kept (cfg : Config) {tr : List (Passo Turno)} {p : Processos}
    (h : (soltas cfg).Run tr p) :
    (∀ m p', (soltas cfg).step p m p' → FimMantido p.store p'.store) ∧
      ∀ id, p.store.dlq.countP (fun x ↦ x.taskId = id) ≤ 1 := by
  have hp := acabada_of_run h
  refine ⟨fun m p' hstep id task hget hfinal ↦ ?_, hp.dlq⟩
  have hid : p.store.Encerrada id := Streams.encerrada_iff.mpr ⟨task, hget, hfinal⟩
  have hsame : (∃ task', p.store.get id = some task' ∧ task'.status = task.status) ∧
      ¬p.store.Referenciado id := ⟨⟨task, hget, rfl⟩, hp.solta id hid⟩
  rw [Pool.step_eq hstep.2]
  obtain ⟨-, hm⟩ | ⟨i, c, -, hm⟩ | ⟨i, op, e, k, hcall, htask, hm⟩ | ⟨i, -, hm⟩ :=
    Pool.move_cases (fun c : Turno ↦ code cfg c.pedido) machine m.1 p
  all_goals rw [hm]
  · exact hsame
  · exact hsame
  · obtain ⟨hkept, href⟩ := hp.get_exec_of_encerrada htask (hstep.1 _ hcall).1 e hid
    exact ⟨⟨task, hkept.trans hget, rfl⟩, href⟩
  · exact hsame

end Run

/-! ## The small queue -/

/-- A call that finishes nothing and creates only what is new. -/
def Cmd.aberta (s : Streams) (op : Cmd) : Bool :=
  (op.grava.all fun t ↦ ¬t.status.Final) && match op with
    | criar task => (s.get task.taskId).isNone
    | _ => true

theorem solta_of_aberta {p : Processos} {x : ℕ × Cmd × Env} (h : x.2.1.aberta p.store = true) :
    Solta p x := by
  obtain ⟨i, op, e⟩ := x
  obtain ⟨hopen, hnew⟩ := Bool.and_eq_true_iff.mp h
  refine ⟨fun task hop ↦ ?_, fun id hfinda ↦ ?_⟩
  · cases (hop : op = .criar task)
    exact Option.isNone_iff_eq_none.mp hnew
  · exfalso
    obtain ⟨hbefore, hafter⟩ := hfinda
    obtain hexec | hexec := exec_fst op e p.store
    all_goals
      change (exec op e p.store).1.Encerrada id at hafter
      rw [hexec] at hafter
    · exact hbefore hafter
    · obtain ⟨task, hget, hfinal⟩ := Streams.encerrada_iff.mp hafter
      obtain ⟨new, hgrava, rfl, hstored⟩ | ⟨-, hsame⟩ := get_efeito op e p.store id
      · rw [hstored] at hget
        cases hget
        rw [show op.grava = some _ from hgrava] at hopen
        exact of_decide_eq_true hopen hfinal
      · exact hbefore (Streams.encerrada_iff.mpr ⟨task, hsame.symm.trans hget, hfinal⟩)

/-- A task is enqueued, and a worker has taken it, executed it and read it again. -/
def sampleExecuted : Processos :=
  (sampleWork (sampleStart 0 (.enqueue (sampleNova [] 3)) 5 {} ++ sampleStart 1 .worker 11 {})).2

example : (sampleExecuted.store.get "t-1").isSome = true := by decide +kernel

theorem run_sampleExecuted : ∃ tr, (soltas sampleConfig).Run tr sampleExecuted := by
  have hrun : ((trabalho sampleConfig).restrict fun p m ↦
      ∀ x ∈ p.nextCall m.1, x.2.1.aberta p.store = true).Run _ sampleExecuted :=
    TransitionSystem.run_restrict_runCalls _ (by decide +kernel)
  exact ⟨_, hrun.restrict_mono fun _ _ h x hx ↦ solta_of_aberta (h x hx)⟩

/-- The worker is alone. -/
theorem task_sampleExecuted {j : ℕ} (hj : j ≠ 1) : sampleExecuted.task j = none := by
  cases j with
  | zero => exact Option.isNone_iff_eq_none.mp (by decide +kernel)
  | succ j =>
    have hslots : ∀ m ∈ (sampleStart 0 (.enqueue (sampleNova [] 3)) 5 {}
        ++ sampleStart 1 .worker 11 {} : List (Move Turno Env)), m.slot ≤ 1 := by decide
    refine Pool.task_runCalls_of_ne fun m hm hslot ↦ ?_
    have := hslots m hm
    omega

/-- The program is about to create a task. -/
def cria : Option (Processo (Option OperationalTask)) → Bool
  | some (.call (.criar _) _) => true
  | _ => false

/-- The program is about to return. -/
def retorna : Option (Processo (Option OperationalTask)) → Bool
  | some (.ret _) => true
  | _ => false

theorem finished_kept_completed :
    ((sampleNext sampleExecuted 1).store.get "t-1").map OperationalTask.status = some .completed ∧
      ∀ id, (sampleNext sampleExecuted 1).store.dlq.countP (fun x ↦ x.taskId = id) ≤ 1 := by
  have hafter : ((sampleNext sampleExecuted 1).store.get "t-1").map OperationalTask.status
        = some .completed ∧
      (sampleNext sampleExecuted 1).store.stream.drop (sampleNext sampleExecuted 1).store.entregues
        = [] ∧ (sampleNext sampleExecuted 1).store.pel = [] ∧
      (sampleNext sampleExecuted 1).store.retry = [] ∧
      cria (sampleExecuted.task 1) = false ∧
      retorna ((sampleNext sampleExecuted 1).task 1) = true := by decide +kernel
  obtain ⟨hstatus, hdrop, hpel, hretry, hcria, hret⟩ := hafter
  refine ⟨hstatus, ?_⟩
  obtain ⟨tr, hrun⟩ := run_sampleExecuted
  obtain ⟨m, hm, hstep⟩ := step_sampleNext sampleExecuted 1
  refine (finished_kept sampleConfig (hrun.snoc (a := m) ⟨fun x hx ↦ ?_, hstep⟩)).2
  obtain ⟨i, op, e⟩ := x
  rw [hm] at hx
  cases Pool.eq_advance_of_nextCall hx
  obtain ⟨k, htask⟩ := Pool.task_of_nextCall hx
  have hnext : sampleNext sampleExecuted 1 = Pool.setTask
      ⟨(exec op sampleEnv sampleExecuted.store).1, sampleExecuted.task⟩ 1
      (some (k (exec op sampleEnv sampleExecuted.store).2)) := by
    rw [sampleNext, Pool.move, htask]
    rfl
  refine ⟨fun task hop ↦ ?_, fun id _ ↦ ⟨fun href ↦ ?_, fun j q hj hq ↦ ?_, fun k' hk' ↦ ?_⟩⟩
  · cases (hop : op = .criar task)
    rw [htask] at hcria
    cases hcria
  · have href : (sampleNext sampleExecuted 1).store.Referenciado id := by
      rw [hnext]
      exact href
    rw [Streams.Referenciado, hdrop, hpel, hretry] at href
    simp at href
  · rw [task_sampleExecuted hj] at hq
    cases hq
  · -- after the transaction the worker only returns
    rw [show sampleExecuted.task 1 = _ from hk'] at htask
    cases htask
    have hrest : (sampleNext sampleExecuted 1).task 1
        = some (k (exec op sampleEnv sampleExecuted.store).2) := by
      rw [hnext]
      exact Function.update_self 1 _ sampleExecuted.task
    rw [hrest] at hret
    clear hrest
    change (tarefaGate id).Shut (k (exec op sampleEnv sampleExecuted.store).2)
    cases hrest : k (exec op sampleEnv sampleExecuted.store).2 with
    | ret => exact trivial
    | raise => exact trivial
    | call =>
      rw [hrest] at hret
      cases hret

/-- A worker has read a task and is slow. Meanwhile the recovery claims the message, executes the
task and completes it. -/
def sampleOvertaken : List (Move Turno Env) :=
  sampleStart 0 (.enqueue (sampleNova [] 3)) 5 {} ++ sampleStart 1 .worker 6 {}
    ++ sampleStart 2 .recovery 10 sampleEnv

/-- The only attempt of a worker fails. Before it calls `fail` the recovery claims the message, and
the task fails there as well. -/
def sampleTwice : List (Move Turno Env) :=
  sampleStart 0 (.enqueue (sampleNova sampleErro 1)) 5 {} ++ sampleStart 1 .worker 8 {}
    ++ sampleStart 2 .recovery 10 sampleEnv ++ sampleSteps 1 5 sampleEnv

/-- The worker stores `RUNNING` over `COMPLETED`; and a task has two entries in the dead letter
stream. -/
theorem finished_reopened :
    (∃ tr p m p', (trabalho sampleConfig).Run tr p ∧ (trabalho sampleConfig).step p m p' ∧
      ¬FimMantido p.store p'.store) ∧
    ∃ tr p id, (trabalho sampleConfig).Run tr p ∧
      ¬p.store.dlq.countP (fun x ↦ x.taskId = id) ≤ 1 := by
  obtain ⟨m, -, hstep⟩ := step_sampleNext (sampleWork sampleOvertaken).2 1
  refine ⟨⟨_, _, m, _, run_sampleWork sampleOvertaken, hstep, fun hkept ↦ ?_⟩,
    _, _, "t-1", run_sampleWork sampleTwice, by decide +kernel⟩
  have hstatus : ((sampleWork sampleOvertaken).2.store.get "t-1").map OperationalTask.status
        = some .completed ∧
      ((sampleNext (sampleWork sampleOvertaken).2 1).store.get "t-1").map OperationalTask.status
        = some .running := by decide +kernel
  obtain ⟨task, hget, hcompleted⟩ := Option.map_eq_some_iff.mp hstatus.1
  obtain ⟨⟨task', hget', hsame⟩, -⟩ := hkept "t-1" task hget (.inl hcompleted)
  have hrunning := hstatus.2
  rw [hget', Option.map_some, hsame, hcompleted] at hrunning
  cases hrunning

end OperationalQueue

end ReqSys
