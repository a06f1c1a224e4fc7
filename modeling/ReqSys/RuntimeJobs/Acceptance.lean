import Mathlib
import ReqSys.RuntimeJobs.Calls

/-!
# Runtime jobs: an accepted event stays

`criar_todo_evento` creates the job of an event at most once. Its creator publishes the id, and
takes the job away again if the queue rejects it; in between another call may have found the job and
answered from it.

A creator is *open* while it may still remove the job. At most one process is open for an event, and
then the job is stored. Once the job is stored and no process is open it is settled: nobody can
remove it any more. `accepted_events_stored` says that an acceptance is only answered from a settled
job, as long as a job is not found while its creator is open and does not reach the end of its time
to live.
-/

namespace ReqSys

namespace RuntimeJobs

open Program

/-- The job of an event is stored. -/
def Redis.Guardado (s : Redis) (id : String) : Prop := (s.obter id).isSome

/-- Every accepted event has its job. -/
def AceitosGuardados (cfg : Config) (s : Redis) : Prop :=
  ∀ r ∈ s.respostas, s.Guardado (gerarTodoJobId cfg r.eventId)

/-! ## Two gates -/

/-- The creator of job `id` may remove it until it has published it. -/
def removalGate (cfg : Config) (id : String) : Gate Cmd.Ans Erro where
  acts
    | .remover jobId => jobId = id
    | _ => False
  looks
    | .criarSeAusente job => job.jobId = id
    | .remover jobId => jobId = id
    | .responder r => gerarTodoJobId cfg r.eventId = id
    | _ => False
  permits
    | .criarSeAusente _, .ok created => created = true
    | _, _ => False
  possible _ _ := True

/-- An event is accepted after its job was created or found, and not after it was removed. -/
def answerGate (cfg : Config) (id : String) : Gate Cmd.Ans Erro where
  acts
    | .responder r => gerarTodoJobId cfg r.eventId = id
    | _ => False
  looks
    | .criarSeAusente job => job.jobId = id
    | .remover jobId => jobId = id
    | _ => False
  permits
    | .criarSeAusente _, _ => True
    | _, _ => False
  possible _ _ := True

section Ready

variable {cfg : Config} {id : String} {op : Cmd}

theorem not_looks_removal_of_fila (h : op.Fila) : ¬(removalGate cfg id).looks op := by
  cases op with
  | criarSeAusente | remover | responder => exact h.elim
  | _ => exact fun h ↦ h

theorem not_looks_answer_of_fila (h : op.Fila) : ¬(answerGate cfg id).looks op := by
  cases op with
  | criarSeAusente | remover => exact h.elim
  | _ => exact fun h ↦ h

/-- A worker neither removes a job nor accepts an event. -/
theorem worker_not_acts (h : op.DeWorker) :
    ¬(removalGate cfg id).acts op ∧ ¬(answerGate cfg id).acts op := by
  cases op with
  | remover jobId | responder r =>
    obtain h | ⟨_, h | h | h⟩ := h
    · exact h.elim
    · cases h
    · exact h.elim
    · cases h
  | _ => exact ⟨fun h ↦ h, fun h ↦ h⟩

/-- The ids of the two kinds of jobs differ in their first letter. -/
theorem gerarJobId_ne (cfg : Config) (t x eventId : String) :
    gerarJobId t x ≠ gerarTodoJobId cfg eventId := by
  intro h
  have hlist := congrArg String.toList h
  simp [gerarJobId, gerarTodoJobId] at hlist

/-- What follows the creation of the job of an event. -/
def aposCriacao (cfg : Config) (event : TodoEventV1) : Except Erro Unit → Processo Unit
  | .ok _ => run (.responder (aceite cfg event))
  | .error .queueCapacity => do
    run (.remover (gerarTodoJobId cfg event.eventId))
    .raise .queueCapacity
  | .error x => .raise x

theorem publicarNovo_eq (cfg : Config) (event : TodoEventV1) :
    publicarNovo cfg event
      = (publicar cfg (gerarTodoJobId cfg event.eventId) 0).attempt >>= aposCriacao cfg event := by
  rw [publicarNovo, publicarOuRemover, Program.bind_assoc]
  refine congrArg (_ >>= ·) (funext fun r ↦ ?_)
  rcases r with x | u
  · cases x with
    | queueCapacity => exact Program.bind_assoc _ _ _
    | _ => rfl
  · rfl

/-- It is one call, so it is gated by any gate. -/
theorem gated_aposCriacao (G : Gate Cmd.Ans Erro) (cfg : Config) (event : TodoEventV1)
    (r : Except Erro Unit) : G.Gated (aposCriacao cfg event r) := by
  rcases r with x | u
  · cases x with
    | queueCapacity => exact .perform_bind fun _ ↦ .raise _
    | _ => exact trivial
  · exact .perform _

/-- **The creation** comes before the removal. -/
theorem removal_ready_criarTodoEvento (id : String) (cfg : Config) (event : TodoEventV1) :
    (removalGate cfg id).Ready (criarTodoEvento cfg event) := by
  have hexistente : (removalGate cfg id).Ready (responderExistente cfg event) := by
    refine .of_not_acts ((responderExistente_calls cfg event).imp fun op hop hacts ↦ ?_)
    cases op with
    | remover => exact hop
    | _ => exact hacts
  by_cases hid : gerarTodoJobId cfg event.eventId = id
  · refine .look_bind (fun h ↦ h) hid (fun created ↦ ?_) fun created hpermits ↦ ?_
    · cases created with
      | false => exact hexistente.2
      | true =>
        rw [if_pos rfl, publicarNovo_eq]
        refine .bind_of_not_looks ?_ fun r ↦ gated_aposCriacao _ cfg event r
        exact (publicar_calls cfg _ _).attempt.imp fun _ ↦ not_looks_removal_of_fila
    · cases created with
      | false => exact hexistente.1
      | true => exact absurd rfl hpermits
  · refine .of_not_acts ((criarTodoEvento_calls cfg event).imp fun op hop hacts ↦ ?_)
    cases op with
    | remover jobId => exact hid (hop.symm.trans hacts)
    | _ => exact hacts

/-- **The creation** comes before the acceptance. -/
theorem answer_ready_criarTodoEvento (id : String) (cfg : Config) (event : TodoEventV1) :
    (answerGate cfg id).Ready (criarTodoEvento cfg event) := by
  by_cases hid : gerarTodoJobId cfg event.eventId = id
  · refine .look_bind (fun h ↦ h) hid (fun created ↦ ?_) fun _ hpermits ↦ absurd trivial hpermits
    cases created with
    | false =>
      refine .of_not_looks ((responderExistente_calls cfg event).imp fun op hop hlooks ↦ ?_)
      cases op with
      | criarSeAusente | remover => exact hop
      | _ => exact hlooks
    | true =>
      rw [if_pos rfl, publicarNovo_eq]
      refine .bind_of_not_looks ?_ fun r ↦ gated_aposCriacao _ cfg event r
      exact (publicar_calls cfg _ _).attempt.imp fun _ ↦ not_looks_answer_of_fila
  · refine .of_not_acts ((criarTodoEvento_calls cfg event).imp fun op hop hacts ↦ ?_)
    cases op with
    | responder r =>
      have hevent : r.eventId = event.eventId := hop
      exact hid (hevent ▸ hacts)
    | _ => exact hacts

/-- **Every process creates the job of an event before it removes it.** -/
theorem removal_ready_code (eventId : String) (cfg : Config) (pedido : Pedido) :
    (removalGate cfg (gerarTodoJobId cfg eventId)).Ready (code cfg pedido) := by
  cases pedido with
  | criarJob request =>
    refine .of_not_acts ((criarJob_calls cfg request).imp fun op hop hacts ↦ ?_)
    cases op with
    | remover jobId =>
      obtain ⟨t, x, rfl⟩ := hop
      exact gerarJobId_ne cfg t x eventId hacts
    | _ => exact hacts
  | criarTodoEvento event => exact removal_ready_criarTodoEvento _ cfg event
  | worker esperas n =>
    exact .of_not_acts ((executarWorkerLocal_calls cfg esperas n).imp fun _ h ↦
      (worker_not_acts h).1)
  | expirar jobId | expirarJob jobId => exact .of_not_acts (.perform fun h ↦ h)

/-- **Every process creates or finds the job of an event before it accepts it.** -/
theorem answer_ready_code (id : String) (cfg : Config) (pedido : Pedido) :
    (answerGate cfg id).Ready (code cfg pedido) := by
  cases pedido with
  | criarJob request =>
    refine .of_not_acts ((criarJob_calls cfg request).imp fun op hop hacts ↦ ?_)
    cases op with
    | responder r => exact hop
    | _ => exact hacts
  | criarTodoEvento event => exact answer_ready_criarTodoEvento _ cfg event
  | worker esperas n =>
    exact .of_not_acts ((executarWorkerLocal_calls cfg esperas n).imp fun _ h ↦
      (worker_not_acts h).2)
  | expirar jobId | expirarJob jobId => exact .of_not_acts (.perform fun h ↦ h)

end Ready

/-! ## Settled jobs -/

/-- No process may remove the job before it creates it. -/
def Fechado (cfg : Config) (p : Processos) (id : String) : Prop :=
  ∀ i q, p.task i = some q → (removalGate cfg id).Shut q

/-- The job is stored and nobody may remove it. -/
structure Assentado (cfg : Config) (p : Processos) (id : String) : Prop where
  guardado : p.store.Guardado id
  fechado : Fechado cfg p id

/-- The condition on a call: the job of an event is found only when no other process may still
remove it, and its key does not expire. -/
def Firme (cfg : Config) (p : Processos) (x : ℕ × Cmd × Env) : Prop :=
  (∀ job, x.2.1 = .criarSeAusente job → p.store.Guardado job.jobId →
    ∀ j q, j ≠ x.1 → p.task j = some q → (removalGate cfg job.jobId).Shut q) ∧
  ∀ eventId, x.2.1 ≠ .expirarJob (gerarTodoJobId cfg eventId)

section Exec

variable {cfg : Config} {s : Redis} {op : Cmd}

/-- A stored job disappears only by a removal or at the end of its time to live. -/
theorem guardado_exec {id : String} (h : s.Guardado id) (hremover : op ≠ .remover id)
    (hexpirar : op ≠ .expirarJob id) (e : Env) : (exec op e s).1.Guardado id := by
  obtain hkept | ⟨job, -, -, hstored⟩ | ⟨hgone | hgone, -⟩ := obter_exec_cases op e s id
  · exact (congrArg Option.isSome hkept).trans h
  · rw [Redis.Guardado, hstored]
    rfl
  · exact absurd hgone hremover
  · exact absurd hgone hexpirar

/-- After `criar_se_ausente` the job is stored. -/
theorem guardado_criarSeAusente (job : JobAssincrono) (e : Env) (s : Redis) :
    (exec (.criarSeAusente job) e s).1.Guardado job.jobId := by
  rw [exec]
  split
  next h => exact h
  next =>
    rw [Redis.Guardado, Redis.obter_salvar, if_pos rfl]
    rfl

/-- It creates the job exactly when it was not stored. -/
theorem permits_criarSeAusente {id : String} {job : JobAssincrono} {e : Env} :
    (removalGate cfg id).permits (.criarSeAusente job) (exec (.criarSeAusente job) e s).2 ↔
      ¬s.Guardado job.jobId := by
  rw [exec]
  split
  next h => exact iff_of_false (by rintro ⟨⟩) (fun hnot ↦ hnot h)
  next h => exact iff_of_true rfl h

/-- What a look of the removal gate that permits is. -/
theorem creates_of_look {id : String} {e : Env} (hlook : (removalGate cfg id).looks op)
    (hpermits : (removalGate cfg id).permits op (exec op e s).2) :
    ¬s.Guardado id ∧ (exec op e s).1.Guardado id := by
  cases op with
  | criarSeAusente job =>
    cases (hlook : job.jobId = id)
    exact ⟨permits_criarSeAusente.mp hpermits, guardado_criarSeAusente job e s⟩
  | remover | responder => exact hpermits.elim
  | _ => exact hlook.elim

end Exec

/-! ## Whole runs -/

/-- The invariant for the job of one event. -/
structure Aceites (cfg : Config) (id : String) (p : Processos) : Prop where
  watched : Pool.Watched (removalGate cfg id) (fun _ ↦ True) (Redis.Guardado · id) p
  exclusive : Pool.Exclusive (removalGate cfg id) p
  gated : ∀ i q, p.task i = some q → (answerGate cfg id).Gated q
  answers : ∀ i q, p.task i = some q →
    (answerGate cfg id).Shut q ∨ ¬(removalGate cfg id).Shut q ∨ Assentado cfg p id
  accepted : ∀ r ∈ p.store.respostas, gerarTodoJobId cfg r.eventId = id → Assentado cfg p id

section Run

variable {cfg : Config} {eventId : String} {p p' : Processos} {m : Passo}

theorem aceites_init (id : String) : Aceites cfg id ⟨{}, fun _ ↦ none⟩ where
  watched _ _ _ h := nomatch h
  exclusive _ _ _ _ h := nomatch h
  gated _ _ h := nomatch h
  answers _ _ h := nomatch h
  accepted _ h := nomatch h

/-- The two gates alone, after a move. -/
theorem Aceites.gates (h : Aceites cfg (gerarTodoJobId cfg eventId) p)
    (hstep : (runtime cfg).step p m p') (hfirme : ∀ x ∈ p.nextCall m.1, Firme cfg p x) :
    Pool.Watched (removalGate cfg (gerarTodoJobId cfg eventId)) (fun _ ↦ True)
        (Redis.Guardado · (gerarTodoJobId cfg eventId)) p' ∧
      Pool.Exclusive (removalGate cfg (gerarTodoJobId cfg eventId)) p' := by
  constructor
  · refine h.watched.step (removal_ready_code eventId cfg) (fun h ↦ h) (fun _ ↦ trivial)
      (fun _ hlook hpermits ↦ (creates_of_look hlook hpermits).2) hstep (fun _ ↦ trivial)
      fun x hx hstored ↦ ?_
    obtain ⟨i, op, e⟩ := x
    by_cases hremover : op = .remover (gerarTodoJobId cfg eventId)
    · -- the removal: the process that sends it is the only open one
      subst hremover
      obtain ⟨k, htask⟩ := Pool.task_of_nextCall hx
      refine .inr fun j q hq ↦ ?_
      by_cases hj : j = i
      · exact .inr ⟨hj, rfl⟩
      · left
        by_contra hopen
        exact hj (h.exclusive hq htask hopen fun hshut ↦ hshut.1 rfl)
    · exact .inl (guardado_exec hstored hremover ((hfirme _ hx).2 eventId) e)
  · refine h.exclusive.step (removal_ready_code eventId cfg) trivial
      (fun i q hq ↦ (h.watched trivial i q hq).1) hstep fun _ hlook hpermits j q _ hq ↦ ?_
    exact (h.watched trivial j q hq).2.resolve_right (creates_of_look hlook hpermits).1

/-- **A settled job stays settled.** -/
theorem Assentado.step (h : Assentado cfg p (gerarTodoJobId cfg eventId))
    (hgated : ∀ i q, p.task i = some q →
      (removalGate cfg (gerarTodoJobId cfg eventId)).Gated q)
    (hstep : (runtime cfg).step p m p') (hfirme : ∀ x ∈ p.nextCall m.1, Firme cfg p x) :
    Assentado cfg p' (gerarTodoJobId cfg eventId) := by
  obtain ⟨hstored, hshut⟩ := h
  rw [Pool.step_eq hstep]
  obtain ⟨-, hm⟩ | ⟨i, c, -, hm⟩ | ⟨i, op, e, k, hcall, htask, hm⟩ | ⟨i, -, hm⟩ :=
    Pool.move_cases (code cfg) machine m.1 p
  all_goals rw [hm]
  · exact ⟨hstored, hshut⟩
  · refine ⟨hstored, fun j q hq ↦ ?_⟩
    obtain ⟨-, hold⟩ | ⟨-, hnew⟩ := Pool.setTask_eq_some hq
    · exact hshut j q hold
    · cases hnew
      exact (removal_ready_code eventId cfg c).1
  · have hcaller := hshut i _ htask
    refine ⟨?_, fun j q hq ↦ ?_⟩
    · refine guardado_exec hstored (fun hremover ↦ hcaller.1 ?_) ((hfirme _ hcall).2 eventId) e
      rw [show op = _ from hremover]
      rfl
    · obtain ⟨-, hold⟩ | ⟨-, hnew⟩ := Pool.setTask_eq_some hq
      · exact hshut j q hold
      · cases hnew
        by_cases hlook : (removalGate cfg (gerarTodoJobId cfg eventId)).looks op
        · refine (hgated i _ htask _ trivial).2 hlook fun hpermits ↦ ?_
          exact (creates_of_look hlook hpermits).1 hstored
        · exact hcaller.2.resolve_left hlook _ trivial
  · refine ⟨hstored, fun j q hq ↦ ?_⟩
    obtain ⟨-, hold⟩ | ⟨-, hnew⟩ := Pool.setTask_eq_some hq
    · exact hshut j q hold
    · cases hnew

/-- **What a call settles.** A process that closes by a call without removing the job leaves it
settled; so does one that finds it. -/
theorem Aceites.assentado_of_call (h : Aceites cfg (gerarTodoJobId cfg eventId) p) {i : ℕ}
    {op : Cmd} {e : Env} {k : Except Erro op.Ans → Processo Unit}
    (htask : p.task i = some (.call op k)) (hfirme : Firme cfg p (i, op, e))
    (hremover : op ≠ .remover (gerarTodoJobId cfg eventId))
    (hcloses : (removalGate cfg (gerarTodoJobId cfg eventId)).Shut (k (exec op e p.store).2))
    (hlook : (answerGate cfg (gerarTodoJobId cfg eventId)).looks op ∨
      ¬(removalGate cfg (gerarTodoJobId cfg eventId)).Shut (.call op k)) :
    Assentado cfg (Pool.setTask ⟨(exec op e p.store).1, p.task⟩ i
      (some (k (exec op e p.store).2))) (gerarTodoJobId cfg eventId) := by
  -- the job is stored after the call, and the other processes are shut
  have hafter : (exec op e p.store).1.Guardado (gerarTodoJobId cfg eventId) ∧
      ∀ j q, j ≠ i → p.task j = some q →
        (removalGate cfg (gerarTodoJobId cfg eventId)).Shut q := by
    rcases hlook with hlook | hopen
    · cases op with
      | criarSeAusente job =>
        have hid : job.jobId = gerarTodoJobId cfg eventId := hlook
        refine ⟨hid ▸ guardado_criarSeAusente job e p.store, fun j q hj hq ↦ ?_⟩
        by_cases hstored : p.store.Guardado job.jobId
        · exact hid ▸ hfirme.1 job rfl hstored j q hj hq
        · exact (h.watched trivial j q hq).2.resolve_right (hid ▸ hstored)
      | remover jobId => exact absurd (congrArg Cmd.remover hlook) hremover
      | _ => exact hlook.elim
    · have hstored := (h.watched trivial i _ htask).2.resolve_left hopen
      refine ⟨guardado_exec hstored hremover (hfirme.2 eventId) e, fun j q hj hq ↦ ?_⟩
      by_contra hother
      exact hj (h.exclusive hq htask hother hopen)
  refine ⟨hafter.1, fun j q hq ↦ ?_⟩
  obtain ⟨hj, hold⟩ | ⟨-, hnew⟩ := Pool.setTask_eq_some hq
  · exact hafter.2 j q hj hold
  · cases hnew
    exact hcloses

/-- The caller after its call. -/
theorem Aceites.answers_call (h : Aceites cfg (gerarTodoJobId cfg eventId) p) {i : ℕ}
    {op : Cmd} {e : Env} {k : Except Erro op.Ans → Processo Unit}
    (htask : p.task i = some (.call op k)) (hfirme : Firme cfg p (i, op, e)) :
    (answerGate cfg (gerarTodoJobId cfg eventId)).Shut (k (exec op e p.store).2) ∨
      ¬(removalGate cfg (gerarTodoJobId cfg eventId)).Shut (k (exec op e p.store).2) ∨
      Assentado cfg p (gerarTodoJobId cfg eventId) ∨
      Assentado cfg (Pool.setTask ⟨(exec op e p.store).1, p.task⟩ i
        (some (k (exec op e p.store).2))) (gerarTodoJobId cfg eventId) := by
  by_cases hcloses : (removalGate cfg (gerarTodoJobId cfg eventId)).Shut (k (exec op e p.store).2)
  · by_cases hremover : op = .remover (gerarTodoJobId cfg eventId)
    · subst hremover
      exact .inl ((h.gated i _ htask _ trivial).2 rfl fun h ↦ h)
    · have hsettled := h.assentado_of_call (e := e) htask hfirme hremover hcloses
      by_cases hlook : (answerGate cfg (gerarTodoJobId cfg eventId)).looks op
      · exact .inr (.inr (.inr (hsettled (.inl hlook))))
      · rcases h.answers i _ htask with hshut | hopen | hbefore
        · exact .inl (hshut.2.resolve_left hlook _ trivial)
        · exact .inr (.inr (.inr (hsettled (.inr hopen))))
        · exact .inr (.inr (.inl hbefore))
  · exact .inr (.inl hcloses)

/-- **One move.** -/
theorem Aceites.step (h : Aceites cfg (gerarTodoJobId cfg eventId) p)
    (hstep : (runtime cfg).step p m p') (hfirme : ∀ x ∈ p.nextCall m.1, Firme cfg p x) :
    Aceites cfg (gerarTodoJobId cfg eventId) p' := by
  obtain ⟨hwatched, hexclusive⟩ := h.gates hstep hfirme
  have hstable : Assentado cfg p (gerarTodoJobId cfg eventId) →
      Assentado cfg p' (gerarTodoJobId cfg eventId) := fun hsettled ↦
    hsettled.step (fun i q hq ↦ (h.watched trivial i q hq).1) hstep hfirme
  have hold : ∀ {i q}, p.task i = some q → (answerGate cfg (gerarTodoJobId cfg eventId)).Gated q ∧
      ((answerGate cfg (gerarTodoJobId cfg eventId)).Shut q ∨
        ¬(removalGate cfg (gerarTodoJobId cfg eventId)).Shut q ∨
        Assentado cfg p' (gerarTodoJobId cfg eventId)) := fun hq ↦
    ⟨h.gated _ _ hq, (h.answers _ _ hq).imp_right (Or.imp_right hstable)⟩
  -- the running programs, given what became of the one that moved
  have hprograms : (∀ i q, p'.task i = some q → p.task i = some q ∨
      (answerGate cfg (gerarTodoJobId cfg eventId)).Gated q ∧
        ((answerGate cfg (gerarTodoJobId cfg eventId)).Shut q ∨
          ¬(removalGate cfg (gerarTodoJobId cfg eventId)).Shut q ∨
          Assentado cfg p' (gerarTodoJobId cfg eventId))) →
      (∀ r ∈ p'.store.respostas, gerarTodoJobId cfg r.eventId = gerarTodoJobId cfg eventId →
        r ∈ p.store.respostas ∨ Assentado cfg p' (gerarTodoJobId cfg eventId)) →
      Aceites cfg (gerarTodoJobId cfg eventId) p' := by
    intro hrun hanswered
    refine ⟨hwatched, hexclusive, fun i q hq ↦ ?_, fun i q hq ↦ ?_, fun r hr hid ↦ ?_⟩
    · exact (hrun i q hq).elim (fun hq ↦ (hold hq).1) And.left
    · exact (hrun i q hq).elim (fun hq ↦ (hold hq).2) And.right
    · exact (hanswered r hr hid).elim (fun hr ↦ hstable (h.accepted r hr hid)) fun hs ↦ hs
  rw [Pool.step_eq hstep] at hprograms hstable ⊢
  obtain ⟨-, hm⟩ | ⟨i, c, -, hm⟩ | ⟨i, op, e, k, hcall, htask, hm⟩ | ⟨i, -, hm⟩ :=
    Pool.move_cases (code cfg) machine m.1 p
  all_goals
    rw [hm] at hprograms hstable ⊢
    refine hprograms (fun j q hq ↦ ?_) fun r hr hid ↦ ?_
  · exact .inl hq
  · exact .inl hr
  · obtain ⟨-, hq⟩ | ⟨-, hnew⟩ := Pool.setTask_eq_some hq
    · exact .inl hq
    · cases hnew
      have hready := answer_ready_code (gerarTodoJobId cfg eventId) cfg c
      exact .inr ⟨hready.2, .inl hready.1⟩
  · exact .inl hr
  · obtain ⟨-, hq⟩ | ⟨-, hnew⟩ := Pool.setTask_eq_some hq
    · exact .inl hq
    · cases hnew
      refine .inr ⟨(h.gated i _ htask _ trivial).1, ?_⟩
      refine (h.answers_call htask (hfirme _ hcall)).imp_right (Or.imp_right fun hs ↦ ?_)
      exact hs.elim hstable fun hs ↦ hs
  · obtain hkept | ⟨r', rfl, hanswered⟩ := respostas_exec op e p.store
    · exact .inl (hkept ▸ hr)
    · have hr' : r ∈ p.store.respostas ++ [r'] := hanswered ▸ hr
      rcases List.mem_append.mp hr' with hr | hr
      · exact .inl hr
      · -- the acceptance itself: its process has closed, and it did not remove the job
        cases List.mem_singleton.mp hr
        right
        rcases h.answers i _ htask with hshut | hopen | hsettled
        · exact absurd hid hshut.1
        · have hcloses := ((h.watched trivial i _ htask).1 (exec (.responder r) e p.store).2
            trivial).2 hid fun h ↦ h
          exact h.assentado_of_call htask (hfirme _ hcall) (fun h ↦ nomatch h) hcloses (.inr hopen)
        · exact hstable hsettled
  · obtain ⟨-, hq⟩ | ⟨-, hnew⟩ := Pool.setTask_eq_some hq
    · exact .inl hq
    · cases hnew
  · exact .inl hr

/-- The processes, as long as every call meets the condition. -/
def firme (cfg : Config) : TransitionSystem Processos Passo :=
  (runtime cfg).restrict fun p m ↦ ∀ x ∈ p.nextCall m.1, Firme cfg p x

/-- **An accepted event stays stored**, in every run in which its job is found only when no other
process may still remove it, and does not reach the end of its time to live. -/
theorem accepted_events_stored (cfg : Config) {tr : List Passo} {p : Processos}
    (h : (firme cfg).Run tr p) : AceitosGuardados cfg p.store := by
  have hall : ∀ eventId, Aceites cfg (gerarTodoJobId cfg eventId) p := by
    intro eventId
    refine TransitionSystem.Run.invariant (T := firme cfg)
      (I := Aceites cfg (gerarTodoJobId cfg eventId)) (fun hinit ↦ ?_)
      (fun hp hstep ↦ hp.step hstep.2 hstep.1) h
    rw [show _ = _ from hinit]
    exact aceites_init _
  exact fun r hr ↦ ((hall r.eventId).accepted r hr rfl).guardado

end Run

/-! ## An event of the small runtime -/

def sampleEvent : TodoEventV1 where
  eventId := "evt-0001"
  correlationId := "corr-0001"
  idempotencyKey := "k-1"
  payload := .obj [("idempotency_key", .str "k-1"), ("todo", .obj [("status", .str "PENDENTE")])]

/-- A call that finds no job of an event and ends no key. -/
def Cmd.Inicial (s : Redis) : Cmd → Prop
  | criarSeAusente job => (s.obter job.jobId).isNone
  | expirarJob _ => False
  | _ => True

instance (s : Redis) : DecidablePred (Cmd.Inicial s)
  | .criarSeAusente job => inferInstanceAs (Decidable ((s.obter job.jobId).isNone = true))
  | .expirarJob _ => instDecidableFalse
  | .salvar _ | .lrem _ | .quarentenar _ | .remover _ | .obter _ | .membros | .publicar _ _
  | .publicarAtrasado _ _ _ | .promover _ | .brpoplpush | .uuid4 | .agora | .adquirir _ _ | .lpush _
  | .liberar _ _ | .lrange | .existeLease _ | .postJson _ | .responder _ | .expirar _ =>
    instDecidableTrue

theorem Cmd.Inicial.firme {cfg : Config} {p : Processos} {x : ℕ × Cmd × Env}
    (h : x.2.1.Inicial p.store) : Firme cfg p x := by
  refine ⟨fun job hop hstored ↦ ?_, fun eventId hop ↦ ?_⟩
  · rw [hop, Cmd.Inicial, Option.isNone_iff_eq_none] at h
    rw [Redis.Guardado, h] at hstored
    cases hstored
  · rw [hop] at h
    exact h

theorem accepted_events_stored_one :
    (sampleRun (sampleStart 0 (.criarTodoEvento sampleEvent) 4)).2.store.respostas.length = 1 ∧
      AceitosGuardados sampleConfig
        (sampleRun (sampleStart 0 (.criarTodoEvento sampleEvent) 4)).2.store := by
  refine ⟨by decide +kernel, ?_⟩
  have hrun : ((runtime sampleConfig).restrict fun p m ↦
      ∀ x ∈ p.nextCall m.1, x.2.1.Inicial p.store).Run _
        (sampleRun (sampleStart 0 (.criarTodoEvento sampleEvent) 4)).2 :=
    TransitionSystem.run_restrict_runCalls _ (by decide +kernel)
  exact accepted_events_stored sampleConfig (hrun.restrict_mono fun _ _ h x hx ↦ (h x hx).firme)

/-- The queue is full: a job was published twice. Process 2 creates the job of an event, process 3
finds it and accepts the event, and the publication of process 2 is rejected. -/
def sampleRejected : List (Move Pedido Env) :=
  sampleStart 0 (.criarJob (sampleRequest .notificarStatus)) 6 ++ sampleStart 1 (.worker 1 1) 4
    ++ sampleStart 2 (.criarTodoEvento sampleEvent) 1
    ++ sampleStart 3 (.criarTodoEvento sampleEvent) 4 ++ sampleSteps 2 2

/-- The accepted event has no job. -/
theorem accepted_event_removed :
    ∃ tr p, (runtime sampleConfig).Run tr p ∧ ¬AceitosGuardados sampleConfig p.store := by
  refine ⟨_, _, run_sampleRun sampleRejected, fun h ↦ ?_⟩
  have hlost : ((sampleRun sampleRejected).2.store.respostas.map fun r ↦ r.eventId) = ["evt-0001"] ∧
      ((sampleRun sampleRejected).2.store.obter
        (gerarTodoJobId sampleConfig "evt-0001")).isNone := by decide +kernel
  obtain ⟨r, hr, hevent⟩ : ∃ r ∈ (sampleRun sampleRejected).2.store.respostas,
      r.eventId = "evt-0001" := by
    rw [← List.mem_map, hlost.1]
    exact List.mem_singleton_self _
  have hstored := h r hr
  rw [hevent, Redis.Guardado, Option.isNone_iff_eq_none.mp hlost.2] at hstored
  cases hstored

end RuntimeJobs

end ReqSys
