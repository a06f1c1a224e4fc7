import ReqSys.OperationalQueue.Copies
import ReqSys.OperationalQueue.Gaps

/-!
# Operational queue: what may be lost between two commands

An unfinished task is found again through its id in the stream, as a message that is not delivered
or not acknowledged, or in the retry set. Two of the methods leave a gap. `_promote_due_retries`
takes an id out of the retry set before it adds it to the stream, and `enqueue` takes an idempotency
key before it stores the task. A process that ends in such a gap leaves an id that stands nowhere,
or a key that no later `enqueue` can use.

So a `ZREM` promises an `XADD` and a `SET NX` promises the transaction of `enqueue`. `tasks_kept`
says what holds as long as these promises are kept: every unfinished task has a reference or is
about to get one, and an `enqueue` can be repeated.
-/

namespace ReqSys

namespace OperationalQueue

open Program

/-! ## References -/

/-- The id of the task stands in the stream, not delivered or pending, or in the retry set. -/
def Streams.Referenciado (s : Streams) (taskId : String) : Prop :=
  taskId ∈ s.stream.drop s.entregues ∨ (∃ m ∈ s.pel, s.stream[m]? = some taskId) ∨
    taskId ∈ s.retry.map Prod.fst

instance (s : Streams) (taskId : String) : Decidable (s.Referenciado taskId) :=
  inferInstanceAs (Decidable (_ ∨ _ ∨ _))

/-- The task is not stored, or finished, or has a reference. -/
def Streams.Amparada (s : Streams) (taskId : String) : Prop :=
  ∀ task ∈ s.get taskId, task.status.Final ∨ s.Referenciado taskId

instance (s : Streams) (taskId : String) : Decidable (s.Amparada taskId) :=
  match h : s.get taskId with
  | none => .isTrue fun task ht ↦ by rw [h] at ht; cases ht
  | some task => decidable_of_iff (task.status.Final ∨ s.Referenciado taskId) <| by
      rw [Streams.Amparada, h]
      exact ⟨fun hd t ht ↦ by cases ht; exact hd, fun hd ↦ hd task rfl⟩

/-- The task is stored as it was enqueued. -/
def Streams.Criada (s : Streams) (task : OperationalTask) : Prop :=
  ∃ stored, s.get task.taskId = some stored ∧ stored.intencao = task.intencao

/-- What the store does not need any more: the `XADD` of a promotion, when the task has a reference,
and the transaction of `enqueue`, when the task that took the key is stored. -/
def Pago : Cmd → Streams → Prop
  | .xadd taskId, s => s.Amparada taskId
  | .criar task, s => ∀ digest, (digest, task) ∈ s.reservas → s.Criada task
  | _, _ => True

/-! ## The condition -/

/-- The condition on a call. Neither half of a promotion or of an `enqueue` fails where it leaves a
gap; a task is stored under an id that is its own; `dequeue` stores a task only while it has a
reference; a message is acknowledged alone only if its task does not need it. -/
def Cmd.Cumpre (p : Processos) (i : ℕ) (e : Env) : Cmd → Prop
  | zrem taskId => e.Perde → (p.store.zrem taskId).Amparada taskId ∨ p.OtherAbout i (.xadd taskId)
  | xadd taskId => e.Impede → p.store.Amparada taskId ∨ p.OtherAbout i (.xadd taskId)
  | setnx digest task => task.taskId ≠ "" ∧ (e.Perde →
      (Table.get? digest p.store.idempotency).isSome ∨ p.store.Criada task ∨
        p.OtherAbout i (.criar task))
  | criar task => (∀ stored, p.store.get task.taskId = some stored →
      stored.intencao = task.intencao) ∧
      (e.Impede → Pago (.criar task) p.store ∨ p.OtherAbout i (.criar task))
  | reservar task _ => p.store.Referenciado task.taskId
  | xack message => ∀ taskId, p.store.stream[message]? = some taskId →
      (p.store.xack message).Amparada taskId
  | _ => True

/-- The condition on a move. -/
def Cumpre (p : Processos) (m : Passo Pedido) : Prop :=
  (∀ x ∈ p.nextCall m.1, x.2.1.Cumpre p x.1 x.2.2) ∧
    ∀ i op k, m.1 = .crash i → p.task i = some (.call op k) →
      Pago op p.store ∨ p.OtherAbout i op

/-! ## What a call does to the references -/

section Calls

variable {s : Streams} {op : Cmd} {taskId : String}

/-- The message that a call acknowledges. -/
def Cmd.confirma : Cmd → Option ℕ
  | xack message => some message
  | concluir _ message | reagendar _ _ message | descartar _ _ message => message
  | _ => none

theorem Streams.referenciado_iff :
    s.Referenciado taskId ↔
      (∃ m, s.stream[m]? = some taskId ∧ (s.entregues ≤ m ∨ m ∈ s.pel)) ∨
        taskId ∈ s.retry.map Prod.fst := by
  rw [Streams.Referenciado, ← or_assoc]
  refine or_congr_left ⟨?_, ?_⟩
  · rintro (hdrop | ⟨m, hpel, hm⟩)
    · obtain ⟨n, hn⟩ := List.mem_iff_getElem?.mp hdrop
      rw [List.getElem?_drop] at hn
      exact ⟨_, hn, .inl (Nat.le_add_right _ _)⟩
    · exact ⟨m, hm, .inr hpel⟩
  · rintro ⟨m, hm, hle | hpel⟩
    · refine .inl (List.mem_iff_getElem?.mpr ⟨m - s.entregues, ?_⟩)
      rw [List.getElem?_drop, Nat.add_sub_cancel' hle]
      exact hm
    · exact .inr ⟨m, hpel, hm⟩

/-- A reference survives what keeps the stream, the messages of the task and its retry. -/
theorem Streams.Referenciado.mono {s' : Streams} (h : s.Referenciado taskId)
    (hstream : s.stream <+: s'.stream)
    (hmessage : ∀ m, s.stream[m]? = some taskId → s.entregues ≤ m ∨ m ∈ s.pel →
      s'.entregues ≤ m ∨ m ∈ s'.pel)
    (hretry : taskId ∈ s.retry.map Prod.fst → taskId ∈ s'.retry.map Prod.fst) :
    s'.Referenciado taskId := by
  rw [Streams.referenciado_iff] at h ⊢
  refine h.imp ?_ hretry
  rintro ⟨m, hm, hopen⟩
  exact ⟨m, getElem?_of_prefix hstream hm, hmessage m hm hopen⟩

theorem mem_map_fst_filter_ne {taskId taskId' : String} {l : List (String × ℕ)}
    (h : taskId ∈ l.map Prod.fst) (hne : taskId ≠ taskId') :
    taskId ∈ (l.filter fun x ↦ x.1 ≠ taskId').map Prod.fst := by
  obtain ⟨x, hx, rfl⟩ := List.mem_map.mp h
  exact List.mem_map_of_mem (List.mem_filter.mpr ⟨hx, by simpa using hne⟩)

theorem Streams.Referenciado.xack (h : s.Referenciado taskId) {message : ℕ}
    (hne : s.stream[message]? ≠ some taskId) : (s.xack message).Referenciado taskId := by
  refine h.mono (List.prefix_refl _) (fun m hm ↦ Or.imp_right fun hpel ↦ ?_) id
  refine List.mem_filter.mpr ⟨hpel, ?_⟩
  simpa using fun hmm : m = message ↦ hne (hmm ▸ hm)

theorem Streams.Referenciado.confirmar (h : s.Referenciado taskId) {message : Option ℕ}
    (hne : ∀ m ∈ message, s.stream[m]? ≠ some taskId) (taskId' : String) :
    (s.confirmar taskId' message).Referenciado taskId := by
  cases message with
  | none => exact h
  | some m => exact h.xack (hne m rfl)

/-- **A reference survives every call** but the promotion of the task and the acknowledgement of one
of its messages. -/
theorem referenciado_efeito (h : s.Referenciado taskId) (hzrem : op ≠ .zrem taskId)
    (hack : ∀ m ∈ op.confirma, s.stream[m]? ≠ some taskId) (e : Env) :
    (efeito op e s).1.Referenciado taskId := by
  cases op with
  | criar task | xadd =>
    exact h.mono (List.prefix_append _ _) (fun _ _ h ↦ h) id
  | zrem taskId' =>
    refine h.mono (List.prefix_refl _) (fun _ _ h ↦ h) fun hretry ↦ ?_
    exact mem_map_fst_filter_ne hretry fun hid ↦ hzrem (hid ▸ rfl)
  | xreadgroup =>
    rw [efeito, Streams.xreadgroup]
    split
    · exact h
    next hnext =>
      refine h.mono (List.prefix_refl _) (fun m hm hopen ↦ ?_) id
      rcases hopen with hle | hpel
      · rcases Nat.eq_or_lt_of_le hle with rfl | hlt
        · exact .inr (List.mem_append_right _ List.mem_cons_self)
        · exact .inl hlt
      · exact .inr (List.mem_append_left _ hpel)
  | xack message => exact h.xack (hack message rfl)
  | concluir task message => exact Streams.Referenciado.confirmar (s := s.set task) h hack _
  | descartar task entrada message =>
    exact Streams.Referenciado.confirmar (s := s.set task) h hack task.taskId
  | reagendar task score message =>
    refine Streams.Referenciado.confirmar (s := (s.set task).zadd task.taskId score) ?_ hack _
    refine h.mono (List.prefix_refl _) (fun _ _ h ↦ h) fun hretry ↦ ?_
    rw [Streams.zadd, List.map_cons, List.mem_cons]
    by_cases hid : taskId = task.taskId
    · exact .inl hid
    · exact .inr (mem_map_fst_filter_ne hretry hid)
  | setnx | executar =>
    rw [efeito]
    split <;> exact h
  | _ => exact h

/-- What is added to the stream has a reference. -/
theorem Streams.referenciado_xadd (hs : s.entregues ≤ s.stream.length) :
    (s.xadd taskId).Referenciado taskId := by
  refine .inl ?_
  rw [Streams.xadd, List.drop_append_of_le_length hs]
  exact List.mem_append_right _ List.mem_cons_self

/-- A task that a transaction stores is finished or has a reference, if `dequeue` stores only tasks
that have one. -/
theorem amparada_of_grava {H : Historia} (hs : s.Coerente) (hfiel : op.Fiel H.visao)
    (hreservar : ∀ task m, op = .reservar task m → s.Referenciado task.taskId) (e : Env)
    {task : OperationalTask} (hgrava : op.grava = some task)
    (hget : (efeito op e s).1.get task.taskId = some task) :
    (efeito op e s).1.Amparada task.taskId := by
  intro stored hstored
  rw [hget] at hstored
  cases hstored
  cases op with
  | criar => cases hgrava; exact .inr (Streams.referenciado_xadd hs.entregues)
  | reservar => cases hgrava; exact .inr (hreservar _ _ rfl)
  | concluir => cases hgrava; exact .inl (.inl hfiel.2.1)
  | descartar => cases hgrava; exact .inl (.inr hfiel.2.1)
  | reagendar task score message =>
    cases hgrava
    refine .inr (.inr (.inr ?_))
    rw [efeito, Streams.retry_confirmar]
    exact List.mem_cons_self
  | _ => cases hgrava

/-- A message that a transaction acknowledges with a task is one of that task. -/
theorem eq_of_confirma {H : Historia} (hfiel : op.Fiel H.visao) (hH : H.De s) {m : ℕ}
    (hm : m ∈ op.confirma) (hmessage : s.stream[m]? = some taskId) :
    op = .xack m ∨ ∃ task, op.grava = some task ∧ task.taskId = taskId := by
  have hown : ∀ {task : OperationalTask}, H.visao.DaTarefa m task.taskId → task.taskId = taskId := by
    intro task h
    have htask := getElem?_of_prefix hH.stream hmessage
    rw [show _ = _ from h] at htask
    exact Option.some.inj htask
  cases op with
  | xack => cases hm; exact .inl rfl
  | concluir task | reagendar task => exact .inr ⟨task, rfl, hown (hfiel.2.2 m hm)⟩
  | descartar task => exact .inr ⟨task, rfl, hown (hfiel.2.2.1 m hm)⟩
  | _ => cases hm

end Calls

/-! ## One call -/

section Step

variable {p : Processos} {i : ℕ} {op : Cmd} {e : Env}

/-- **A task keeps its reference**, or the call promises one, or another process is about to add it.
-/
theorem amparada_exec (hs : p.store.Coerente) (hfiel : op.Fiel p.store.historia.visao)
    (hop : op.Cumpre p i e) {taskId : String}
    (h : p.store.Amparada taskId ∨ .xadd taskId = op) :
    (exec op e p.store).1.Amparada taskId ∨
      promessa op (exec op e p.store).2 = some (.xadd taskId) ∨ p.OtherAbout i (.xadd taskId) := by
  -- the command takes effect, and is not the promotion of this task
  have heffect : op ≠ .zrem taskId → (efeito op e p.store).1.Amparada taskId := by
    intro hzrem
    obtain ⟨new, hgrava, rfl, hget⟩ | ⟨hother, hget⟩ := get_efeito op e p.store taskId
    · refine amparada_of_grava hs hfiel (fun task m hreservar ↦ ?_) e hgrava hget
      rw [hreservar] at hop
      exact hop
    · by_cases hxack : ∃ m, op = .xack m ∧ p.store.stream[m]? = some taskId
      · obtain ⟨m, rfl, hm⟩ := hxack
        exact hop taskId hm
      · rcases h with h | rfl
        · intro task htask
          rw [hget] at htask
          refine (h task htask).imp_right fun href ↦ referenciado_efeito href hzrem (fun m hm hid ↦ ?_) e
          obtain hack | ⟨task, hgrava, heq⟩ :=
            eq_of_confirma hfiel p.store.de_historia hm hid
          · exact hxack ⟨m, hack, hid⟩
          · exact hother task hgrava heq
        · exact fun _ _ ↦ .inr (Streams.referenciado_xadd hs.entregues)
  obtain hexec | ⟨hlost, msg, hexec⟩ | ⟨hblocked, msg, hexec⟩ := exec_cases op e p.store
  all_goals rw [hexec]
  · by_cases hzrem : op = .zrem taskId
    · subst hzrem
      have hbefore : p.store.Amparada taskId := h.resolve_right fun h ↦ nomatch h
      change (p.store.zrem taskId).Amparada taskId ∨
        promessa (.zrem taskId) (.ok (p.store.retry.any fun x ↦ x.1 = taskId)) = _ ∨ _
      cases hin : p.store.retry.any fun x ↦ x.1 = taskId with
      | true => exact .inr (.inl rfl)
      | false =>
        refine .inl fun task htask ↦ (hbefore task htask).imp_right fun href ↦ ?_
        refine href.mono (List.prefix_refl _) (fun _ _ h ↦ h) fun hretry ↦ ?_
        obtain ⟨x, hx, hid⟩ := List.mem_map.mp hretry
        exact absurd (decide_eq_true hid) (List.any_eq_false.mp hin x hx)
    · exact .inl (heffect hzrem)
  · by_cases hzrem : op = .zrem taskId
    · subst hzrem
      exact (hop hlost).imp_right .inr
    · exact .inl (heffect hzrem)
  · rcases h with h | rfl
    · exact .inl h
    · exact (hop hblocked).imp_right .inr

/-- A stored task stays stored. -/
theorem Streams.Criada.exec {s : Streams} {task : OperationalTask} (h : s.Criada task)
    (hop : op.MesmaIntencao s) (e : Env) : (OperationalQueue.exec op e s).1.Criada task := by
  obtain ⟨stored, hget, hint⟩ := h
  obtain ⟨stored', hget', hint'⟩ := intencao_exec hop e hget
  exact ⟨stored', hget', hint'.trans hint⟩

/-- Only `SET NX` takes a key. -/
theorem reservas_efeito (op : Cmd) (e : Env) (s : Streams) :
    ((efeito op e s).1.reservas = s.reservas ∧
      (efeito op e s).1.idempotency = s.idempotency) ∨
    ∃ digest task, op = .setnx digest task ∧ Table.get? digest s.idempotency = none ∧
      (efeito op e s).1.reservas = s.reservas ++ [(digest, task)] ∧
      (efeito op e s).1.idempotency = s.idempotency ++ [(digest, task.taskId)] ∧
      promessa op (efeito op e s).2 = some (.criar task) := by
  cases op with
  | setnx digest task =>
    rw [efeito]
    split
    · exact .inl ⟨rfl, rfl⟩
    next hfree =>
      exact .inr ⟨digest, task, rfl, Option.not_isSome_iff_eq_none.mp hfree, rfl, rfl, rfl⟩
  | executar =>
    rw [efeito]
    split <;> exact .inl ⟨rfl, rfl⟩
  | xreadgroup =>
    rw [efeito, Streams.xreadgroup]
    split <;> exact .inl ⟨rfl, rfl⟩
  | concluir task message | reagendar task _ message | descartar task _ message =>
    cases message <;> exact .inl ⟨rfl, rfl⟩
  | _ => exact .inl ⟨rfl, rfl⟩

/-- **A task that took a key is stored**, or the call promises that, or another process is about to
store it. -/
theorem criada_exec (hmesma : op.MesmaIntencao p.store) (hop : op.Cumpre p i e)
    {task : OperationalTask} (h : Pago (.criar task) p.store ∨ .criar task = op) :
    Pago (.criar task) (exec op e p.store).1 ∨
      promessa op (exec op e p.store).2 = some (.criar task) ∨ p.OtherAbout i (.criar task) := by
  have hstored : (efeito (.criar task) e p.store).1.Criada task := by
    refine ⟨task, ?_, rfl⟩
    exact (Streams.get_set p.store task task.taskId).trans (if_pos rfl)
  have hkept : (exec op e p.store).1.reservas = p.store.reservas → Pago (.criar task) p.store →
      Pago (.criar task) (exec op e p.store).1 := by
    intro hreservas h digest hmem
    rw [hreservas] at hmem
    exact (h digest hmem).exec hmesma e
  obtain hexec | ⟨hlost, msg, hexec⟩ | ⟨hblocked, msg, hexec⟩ := exec_cases op e p.store
  · rcases h with h | rfl
    · obtain ⟨hsame, -⟩ | ⟨digest, new, rfl, hfree, hreservas, -, hpromise⟩ :=
        reservas_efeito op e p.store
      · exact .inl (hkept (by rw [hexec, hsame]) h)
      · by_cases htask : new = task
        · rw [hexec]
          exact .inr (.inl (htask ▸ hpromise))
        · refine .inl fun digest' hmem ↦ ?_
          rw [hexec, hreservas, List.mem_append, List.mem_singleton] at hmem
          rcases hmem with hmem | hmem
          · exact (h digest' hmem).exec hmesma e
          · exact absurd (congrArg Prod.snd hmem).symm htask
    · rw [hexec]
      exact .inl fun _ _ ↦ hstored
  · rcases h with h | rfl
    · obtain ⟨hsame, -⟩ | ⟨digest, new, rfl, hfree, hreservas, -, -⟩ :=
        reservas_efeito op e p.store
      · exact .inl (hkept (by rw [hexec, hsame]) h)
      · by_cases htask : new = task
        · subst htask
          obtain htaken | hcriada | hother := hop.2 hlost
          · rw [hfree] at htaken
            cases htaken
          · exact .inl fun _ _ ↦ hcriada.exec hmesma e
          · exact .inr (.inr hother)
        · refine .inl fun digest' hmem ↦ ?_
          rw [hexec, hreservas, List.mem_append, List.mem_singleton] at hmem
          rcases hmem with hmem | hmem
          · exact (h digest' hmem).exec hmesma e
          · exact absurd (congrArg Prod.snd hmem).symm htask
    · rw [hexec]
      exact .inl fun _ _ ↦ hstored
  · rw [hexec]
    rcases h with h | rfl
    · exact .inl h
    · exact (hop.2 hblocked).imp_right .inr

/-- The index is of the tasks that took the keys, and their ids are not empty. -/
structure Indexada (s : Streams) : Prop where
  indice : s.idempotency = s.reservas.map fun x ↦ (x.1, x.2.taskId)
  taskId : ∀ x ∈ s.reservas, x.2.taskId ≠ ""

theorem Indexada.exec {s : Streams} (h : Indexada s) (e : Env)
    (hop : ∀ digest task, op = .setnx digest task → task.taskId ≠ "") :
    Indexada (OperationalQueue.exec op e s).1 := by
  obtain hexec | hexec := exec_fst op e s
  all_goals rw [hexec]
  · exact h
  · obtain ⟨hreservas, hindice⟩ | ⟨digest, task, rfl, -, hreservas, hindice, -⟩ :=
      reservas_efeito op e s
    · exact ⟨by rw [hreservas, hindice, h.indice], by rw [hreservas]; exact h.taskId⟩
    · constructor
      · rw [hreservas, hindice, h.indice, List.map_append]
        rfl
      · rw [hreservas]
        intro x hx
        rcases List.mem_append.mp hx with hx | hx
        · exact h.taskId x hx
        · cases List.mem_singleton.mp hx
          exact hop digest task rfl

end Step

/-! ## Whole runs -/

/-- The processes, as long as the promises are kept. -/
def cumprida (cfg : Config) : TransitionSystem Processos (Passo Pedido) :=
  (fila cfg).restrict Cumpre

/-- The invariant. -/
structure Mantida (p : Processos) : Prop where
  guardada : Guardada p
  indexada : Indexada p.store
  owed : Pool.Owed Pago p

section Run

variable {cfg : Config} {p : Processos}

theorem mantida_init : Mantida ⟨{}, fun _ ↦ none⟩ where
  guardada := .init
  indexada := ⟨rfl, fun _ h ↦ nomatch h⟩
  owed op := by
    left
    cases op with
    | xadd taskId => exact fun _ h ↦ nomatch h
    | criar task => exact fun _ h ↦ nomatch h
    | _ => exact trivial

/-- **One move.** -/
theorem Mantida.step {p' : Processos} {m : Passo Pedido} (h : Mantida p)
    (hprompt : ∀ i q, p.task i = some q → q.Prompt promessa)
    (hstep : (fila cfg).step p m p') (hcumpre : Cumpre p m) : Mantida p' := by
  have hcriar : ∀ i e task stored, p.nextCall m.1 = some (i, .criar task, e) →
      p.store.get task.taskId = some stored → task.intencao = stored.intencao :=
    fun i e task stored hcall hget ↦ ((hcumpre.1 _ hcall).1 stored hget).symm
  refine ⟨h.guardada.step (fun H ↦ code_meets H.visao cfg) hstep hcriar, ?_, ?_⟩
  · rw [Pool.step_eq hstep]
    obtain ⟨-, hm⟩ | ⟨i, c, -, hm⟩ | ⟨i, op, e, k, hcall, -, hm⟩ | ⟨i, -, hm⟩ :=
      Pool.move_cases (code cfg) machine m.1 p
    all_goals rw [hm]
    · exact h.indexada
    · exact h.indexada
    · refine h.indexada.exec e fun digest task hop ↦ ?_
      subst hop
      exact (hcumpre.1 _ hcall).1
    · exact h.indexada
  · refine h.owed.step hprompt (fun h ↦ h) hstep (fun hcrash htask ↦ hcumpre.2 _ _ _ hcrash htask)
      fun {i op e} hcall op' hop' ↦ ?_
    obtain ⟨k, htask⟩ := Pool.task_of_nextCall hcall
    have hfiel := h.guardada.fiel p.store.de_historia htask
    cases op' with
    | xadd taskId => exact amparada_exec h.guardada.coerente hfiel (hcumpre.1 _ hcall) hop'
    | criar task =>
      refine criada_exec (hfiel.mesmaIntencao p.store.de_historia ?_) (hcumpre.1 _ hcall) hop'
      rintro task stored rfl hget
      exact hcriar i e task stored hcall hget
    | _ => exact .inl trivial

theorem mantida_of_run {tr : List (Passo Pedido)} (h : (cumprida cfg).Run tr p) : Mantida p := by
  refine TransitionSystem.Run.traceInvariant (I := fun _ p ↦ Mantida p) (fun hinit ↦ ?_)
    (fun {tr p m p'} hrun hp hstep ↦ ?_) h
  · rw [show _ = _ from hinit]
    exact mantida_init
  · have hrun : (fila cfg).Run tr p := hrun.of_restrict
    exact hp.step (Pool.hereditary_of_run (code_prompt cfg) (fun hq r ↦ (hq r).2) hrun) hstep.2
      hstep.1

end Run

/-! ## Repeating an `enqueue` -/

/-- How `enqueue` may end: it stores the task, or answers with the stored task that took the key and
has the same intent, or raises because that one has another intent. -/
def Aceita (cfg : Config) (task : OperationalTask) (s : Streams) :
    Except Erro OperationalTask → Streams → Prop
  | .ok stored, s' => s'.get stored.taskId = some stored ∧ (stored = task ∨
      ∃ key first, task.chave = some key ∧ (cfg.sha256 key, first) ∈ s.reservas ∧
        stored.taskId = first.taskId ∧ sameTaskIntent first task = true)
  | .error x, _ => x = .identityConflict ∧
      ∃ key first, task.chave = some key ∧ (cfg.sha256 key, first) ∈ s.reservas ∧
        sameTaskIntent first task = false

section Repeat

variable {cfg : Config} {s : Streams} {task : OperationalTask} {i : ℕ} {α : Type}

/-- Without errors of the connection, and alone. -/
abbrev TerminaEm (i : ℕ) (Q : Except Erro α → Streams → Prop) (p : Processo α) (s : Streams) :
    Prop := p.EndsIn machine i (fun e ↦ e.falha = none) (fun s s' ↦ s = s') Q s

theorem exec_of_falha {op : Cmd} {e : Env} (h : e.falha = none) : exec op e s = efeito op e s := by
  rw [exec, h]

theorem run_termina (op : Cmd) {a : op.Ans} {s' : Streams}
    (hop : ∀ e, efeito op e s = (s', .ok a)) :
    TerminaEm i (fun r s'' ↦ r = .ok a ∧ s'' = s') (run op) s := by
  intro s'' e hs he
  cases hs
  have hexec : exec op e s = (s', .ok a) := (exec_of_falha he).trans (hop e)
  change (Program.ofExcept (exec op e s).2).EndsIn _ _ _ _ _ (exec op e s).1
  rw [hexec]
  exact ⟨rfl, rfl⟩

/-- What returns one value is followed by the rest. -/
theorem termina_bind {β : Type} {p : Processo β} {f : β → Processo α}
    {Q : Except Erro α → Streams → Prop} {a : β} {s' : Streams}
    (hp : TerminaEm i (fun r s'' ↦ r = .ok a ∧ s'' = s') p s) (hf : TerminaEm i Q (f a) s') :
    TerminaEm i Q (p >>= f) s := by
  refine hp.bind (fun h ↦ ?_) fun h ↦ nomatch h.1
  obtain ⟨h, rfl⟩ := h
  cases h
  exact hf

/-- What raises only exceptions that are let through. -/
theorem embrulhar_termina {passa : Erro → Bool} {texto : String} {p : Processo α}
    {Q : Except Erro α → Streams → Prop}
    (hp : TerminaEm i (fun r s' ↦ Q r s' ∧ ∀ x, r = .error x → passa x = true) p s) :
    TerminaEm i Q (embrulhar passa texto p) s := by
  refine EndsIn.attempt_bind hp fun {r s'} hr ↦ ?_
  cases r with
  | ok a => exact hr.1
  | error x =>
    change Q (.error (if passa x then x else _)) s'
    rw [if_pos (hr.2 x rfl)]
    exact hr.1

theorem embrulhar_termina_ok {passa : Erro → Bool} {texto : String} {p : Processo α} {a : α}
    {s' : Streams} (hp : TerminaEm i (fun r s'' ↦ r = .ok a ∧ s'' = s') p s) :
    TerminaEm i (fun r s'' ↦ r = .ok a ∧ s'' = s') (embrulhar passa texto p) s := by
  refine embrulhar_termina (hp.imp fun r s h ↦ ⟨h, fun x hx ↦ ?_⟩)
  rw [h.1] at hx
  cases hx

theorem get_termina (taskId : String) :
    TerminaEm i (fun r s'' ↦ r = .ok (if taskId = "" then none else s.get taskId) ∧ s'' = s)
      (get taskId) s := by
  rw [get]
  split
  · exact ⟨rfl, rfl⟩
  · exact embrulhar_termina_ok (run_termina (.get taskId) fun _ ↦ rfl)

/-- `SET NX` and `GET` of a key that is taken. -/
theorem inserir_termina {key existingId : String} {Q : Except Erro OperationalTask → Streams → Prop}
    (hkey : task.chave = some key)
    (hindex : Table.get? (cfg.sha256 key) s.idempotency = some existingId)
    (hQ : TerminaEm i Q (match if existingId = "" then none else s.get existingId with
      | none => .raise (.indisponivel "Índice de idempotência inconsistente no Redis")
      | some existing =>
        if sameTaskIntent existing task then .ret existing else .raise .identityConflict) s) :
    TerminaEm i Q (inserir cfg task) s := by
  have hsetnx : ∀ e, efeito (.setnx (cfg.sha256 key) task) e s
      = if (Table.get? (cfg.sha256 key) s.idempotency).isSome then (s, .ok false) else _ :=
    fun _ ↦ rfl
  rw [hindex] at hsetnx
  have hgetIndex : ∀ e, efeito (.getIndex (cfg.sha256 key)) e s = (s, .ok (some existingId)) :=
    fun _ ↦ congrArg (fun o ↦ (s, Except.ok o)) hindex
  rw [inserir, hkey]
  refine termina_bind (run_termina (.setnx (cfg.sha256 key) task) hsetnx) ?_
  refine termina_bind (run_termina (.getIndex (cfg.sha256 key)) hgetIndex) ?_
  exact termina_bind (get_termina existingId) hQ

/-- **An `enqueue` can be repeated**, when the task that took its key is stored. -/
theorem enqueue_termina (h : Indexada s)
    (hstored : ∀ key first, task.chave = some key → (cfg.sha256 key, first) ∈ s.reservas →
      s.Criada first) : TerminaEm i (Aceita cfg task s) (enqueue cfg task) s := by
  refine termina_bind (embrulhar_termina_ok (run_termina .ensureGroup fun _ ↦ rfl))
    (embrulhar_termina ?_)
  have hcriar : ∀ s' : Streams, TerminaEm i (fun r s'' ↦ Aceita cfg task s r s'' ∧
      ∀ x, r = .error x → (x.Indisponivel || x = .identityConflict) = true) (criar task) s' := by
    intro s'
    refine termina_bind (run_termina (.criar task) fun _ ↦ rfl)
      ⟨⟨?_, .inl rfl⟩, fun x h ↦ nomatch h⟩
    exact (Streams.get_set s' task task.taskId).trans (if_pos rfl)
  cases hkey : task.chave with
  | none =>
    rw [inserir, hkey]
    exact hcriar s
  | some key =>
    cases hindex : Table.get? (cfg.sha256 key) s.idempotency with
    | none =>
      have hsetnx : ∀ e, efeito (.setnx (cfg.sha256 key) task) e s
          = if (Table.get? (cfg.sha256 key) s.idempotency).isSome then _ else _ := fun _ ↦ rfl
      rw [hindex] at hsetnx
      rw [inserir, hkey]
      exact termina_bind (run_termina (.setnx (cfg.sha256 key) task) hsetnx) (hcriar _)
    | some existingId =>
      -- the key is taken, and the task that took it is stored with its intent
      have hmem := Table.mem_of_get? hindex
      rw [h.indice] at hmem
      obtain ⟨⟨digest, first⟩, hfirst, heq⟩ := List.mem_map.mp hmem
      obtain ⟨rfl, rfl⟩ := Prod.mk.inj heq
      obtain ⟨stored, hget, hint⟩ := hstored key first hkey hfirst
      have hsame : sameTaskIntent stored task = sameTaskIntent first task :=
        sameTaskIntent_congr hint task
      have hid := s.taskId_of_get hget
      refine inserir_termina hkey hindex ?_
      rw [if_neg (h.taskId _ hfirst), hget]
      cases hintent : sameTaskIntent stored task with
      | true =>
        simp only [hintent, if_true]
        refine ⟨⟨?_, .inr ⟨key, first, hkey, hfirst, hid, hsame ▸ hintent⟩⟩, fun x h ↦ nomatch h⟩
        rw [hid, hget]
      | false =>
        simp only [hintent, Bool.false_eq_true, if_false]
        refine ⟨⟨rfl, key, first, hkey, hfirst, hsame ▸ hintent⟩, fun x hx ↦ ?_⟩
        cases hx
        rfl

/-- **A key without a task** makes every `enqueue` under it fail. -/
theorem enqueue_inconsistente {key existingId : String} (hkey : task.chave = some key)
    (hindex : Table.get? (cfg.sha256 key) s.idempotency = some existingId)
    (hget : s.get existingId = none) :
    TerminaEm i (fun r s' ↦ s' = s ∧ ∃ m, r = .error (.indisponivel m)) (enqueue cfg task) s := by
  refine termina_bind (embrulhar_termina_ok (run_termina .ensureGroup fun _ ↦ rfl))
    (embrulhar_termina (inserir_termina hkey hindex ?_))
  rw [hget, ite_self]
  refine ⟨⟨rfl, _, rfl⟩, fun x hx ↦ ?_⟩
  cases hx
  rfl

end Repeat

/-- **No accepted task is lost**, in every run in which the promises are kept. An unfinished task
has a reference, or a process is about to add it to the stream; and an `enqueue` that runs without
errors of the connection is accepted, or refused because its key was taken with another intent,
unless the process that took the key is about to store its task. -/
theorem tasks_kept (cfg : Config) {tr : List (Passo Pedido)} {p : Processos}
    (h : (cumprida cfg).Run tr p) :
    (∀ taskId task, p.store.get taskId = some task → ¬task.status.Final →
      p.store.Referenciado taskId ∨ p.About (.xadd taskId)) ∧
    ∀ i task, (∀ key first, task.chave = some key → (cfg.sha256 key, first) ∈ p.store.reservas →
      ¬p.About (.criar first)) → TerminaEm i (Aceita cfg task p.store) (enqueue cfg task) p.store := by
  have hp := mantida_of_run h
  refine ⟨fun taskId task hget hopen ↦ ?_, fun i task hfree ↦ ?_⟩
  · refine (hp.owed (.xadd taskId)).imp_left fun hkept ↦ ?_
    exact (hkept task hget).resolve_left hopen
  · refine enqueue_termina hp.indexada fun key first hkey hmem ↦ ?_
    exact (hp.owed (.criar first)).resolve_right (hfree key first hkey hmem) _ hmem

/-! ## A task of the small queue -/

/-- A call that meets the condition whatever the other processes do. -/
def Cmd.segura (s : Streams) : Cmd → Bool
  | setnx _ task => task.taskId ≠ ""
  | criar task => (s.get task.taskId).isNone
  | reservar task _ => s.Referenciado task.taskId
  | xack _ => false
  | _ => true

/-- The connection has no errors and no process dies. -/
def segura (p : Processos) (m : Passo Pedido) : Bool :=
  match m.1, p.nextCall m.1 with
  | .crash _, _ => false
  | _, none => true
  | _, some x => x.2.2.falha.isNone && x.2.1.segura p.store

theorem cumpre_of_segura {p : Processos} {m : Passo Pedido} (h : segura p m = true) :
    Cumpre p m := by
  constructor
  · rintro ⟨i, op, e⟩ hx
    rw [segura, show p.nextCall m.1 = _ from hx, Pool.eq_advance_of_nextCall hx] at h
    obtain ⟨hfalha, hop⟩ := Bool.and_eq_true_iff.mp h
    have hnone : e.falha = none := Option.isNone_iff_eq_none.mp hfalha
    have hperde : ¬e.Perde := fun ⟨f, hf, _⟩ ↦ by rw [hnone] at hf; cases hf
    have himpede : ¬e.Impede := fun ⟨f, hf, _⟩ ↦ by rw [hnone] at hf; cases hf
    cases op with
    | zrem => exact fun h ↦ absurd h hperde
    | xadd => exact fun h ↦ absurd h himpede
    | setnx => exact ⟨of_decide_eq_true hop, fun h ↦ absurd h hperde⟩
    | criar task =>
      refine ⟨fun stored hget ↦ ?_, fun h ↦ absurd h himpede⟩
      rw [Option.isNone_iff_eq_none.mp hop] at hget
      cases hget
    | reservar task message =>
      have href : p.store.Referenciado task.taskId := of_decide_eq_true hop
      exact href
    | xack => cases hop
    | _ => exact trivial
  · intro i op k hcrash
    rw [segura, hcrash] at h
    cases h

/-- A task is enqueued, fails once, and is promoted by a second worker. -/
def samplePromoted (n : ℕ) : List (Move Pedido Env) :=
  sampleStart 0 (.enqueue (sampleNova sampleErro 3)) 5 {} ++ sampleStart 1 .worker 13 {}
    ++ sampleStart 2 .worker n sampleEnv

/-- Before the promotion the task waits in the retry set. -/
theorem tasks_kept_retry :
    ((sampleRun (samplePromoted 3)).2.store.get "t-1").map OperationalTask.status = some .pending ∧
      ((sampleRun (samplePromoted 3)).2.store.Referenciado "t-1" ∨
        (sampleRun (samplePromoted 3)).2.About (.xadd "t-1")) := by
  have hstatus : ((sampleRun (samplePromoted 3)).2.store.get "t-1").map OperationalTask.status
      = some .pending := by decide +kernel
  refine ⟨hstatus, ?_⟩
  have hrun : ((fila sampleConfig).restrict fun p m ↦ segura p m = true).Run _
      (sampleRun (samplePromoted 3)).2 := TransitionSystem.run_restrict_runCalls _ (by decide +kernel)
  obtain ⟨task, hget, hpending⟩ := Option.map_eq_some_iff.mp hstatus
  refine (tasks_kept sampleConfig (hrun.restrict_mono fun _ _ ↦ cumpre_of_segura)).1 "t-1" task hget ?_
  rw [hpending]
  decide

/-- The second worker dies between the two commands of the promotion. -/
def sampleStranded : List (Move Pedido Env) := samplePromoted 4 ++ [.crash 2]

/-- `enqueue` dies between the two commands that take the key and store the task. -/
def sampleHalf : List (Move Pedido Env) :=
  sampleStart 0 (.enqueue (sampleNova sampleErro 3)) 2 {} ++ [.crash 0]

/-- No process is left. -/
theorem idle_of_slots {moves : List (Move Pedido Env)} (hslots : ∀ m ∈ moves, m.slot ≤ 2)
    (hidle : ∀ i ≤ 2, ((sampleRun moves).2.task i).isNone) (i : ℕ) :
    (sampleRun moves).2.task i = none := by
  by_cases hi : i ≤ 2
  · exact Option.isNone_iff_eq_none.mp (hidle i hi)
  · exact Pool.task_runCalls_of_ne fun m hm hslot ↦ hi (hslot ▸ hslots m hm)

/-- The id of the task that a process returns. -/
def devolve (m : Passo Pedido) : Option String :=
  match m.2 with
  | some (.ok (some task)) => some task.taskId
  | _ => none

/-- An unfinished task whose `enqueue` returned stands nowhere, and no process is left; and after an
`enqueue` that died halfway, `enqueue` fails whenever it is repeated. -/
theorem tasks_lost :
    (∃ tr p, (fila sampleConfig).Run tr p ∧ (∀ i, p.task i = none) ∧
      ∃ taskId ∈ tr.filterMap devolve, ∃ task, p.store.get taskId = some task ∧
        ¬task.status.Final ∧ ¬p.store.Referenciado taskId) ∧
    ∃ tr p, (fila sampleConfig).Run tr p ∧ (∀ i, p.task i = none) ∧
      ∀ i, TerminaEm i (fun r s ↦ s = p.store ∧ ∃ m, r = .error (.indisponivel m))
        (enqueue sampleConfig (sampleNova sampleErro 3).task) p.store := by
  refine ⟨⟨_, _, run_sampleRun sampleStranded, idle_of_slots (by decide) (by decide +kernel), ?_⟩,
    _, _, run_sampleRun sampleHalf, idle_of_slots (by decide) (by decide +kernel), fun i ↦ ?_⟩
  · have hrun : "t-1" ∈ (sampleRun sampleStranded).1.filterMap devolve ∧
        ((sampleRun sampleStranded).2.store.get "t-1").map OperationalTask.status = some .pending ∧
        ¬(sampleRun sampleStranded).2.store.Referenciado "t-1" := by decide +kernel
    obtain ⟨hreturned, hstatus, hlost⟩ := hrun
    obtain ⟨task, hget, hpending⟩ := Option.map_eq_some_iff.mp hstatus
    refine ⟨"t-1", hreturned, task, hget, ?_, hlost⟩
    rw [hpending]
    decide
  · have hrun : Table.get? (sampleConfig.sha256 "k-1") (sampleRun sampleHalf).2.store.idempotency
        = some "t-1" ∧ ((sampleRun sampleHalf).2.store.get "t-1").isNone := by decide +kernel
    exact enqueue_inconsistente rfl hrun.1 (Option.isNone_iff_eq_none.mp hrun.2)

end OperationalQueue

end ReqSys
