import ReqSys.RuntimeJobs.References

/-!
# Runtime jobs: finished jobs stay finished

`processar_job` reads a job, returns if it is finished, and from then on saves its own copy. Nothing
ties the saves to what was read: a worker whose lease has expired goes on, and saves over what
another worker has stored since. So the read is a look before an act in the sense of `Gate`.

`final_status_kept` is what remains. As long as a worker stores a final status only when no other
process still has an unfinished copy of the job, no worker ever replaces a final status.
-/

namespace ReqSys

namespace RuntimeJobs

open Program

/-- The saves of job `id` by workers, each after a read that found it unfinished. The save of a
final status is the last one of its attempt. -/
def finalGate (id : String) : Gate Cmd.Ans Erro where
  acts
    | .salvar job => job.jobId = id ∧ job.status ≠ .queued
    | _ => False
  looks
    | .obter jobId => jobId = id
    | .salvar job => job.jobId = id ∧ job.status.Final
    | _ => False
  permits
    | .obter _, .ok (some job) => ¬job.status.Final
    | _, _ => False
  possible
    | .obter jobId, .ok (some job) => job.jobId = jobId
    | _, _ => True

/-- The job is not stored with a final status. -/
def Redis.Aberto (id : String) (s : Redis) : Prop :=
  ∀ job, s.obter id = some job → ¬job.status.Final

/-- A final status stays. Only a creation that draws the same id replaces it. -/
def StatusMantido (s s' : Redis) : Prop :=
  ∀ id job job', s.obter id = some job → job.status.Final → s'.obter id = some job' →
    job'.status = job.status ∨ job'.status = .queued

/-- The condition on a call: a final status is stored only when no other process is past a read that
found the job unfinished. -/
def SemCopias (p : Processos) (x : ℕ × Cmd × Env) : Prop :=
  ∀ job, x.2.1 = .salvar job → job.status.Final →
    ∀ j q, j ≠ x.1 → p.task j = some q → (finalGate job.jobId).Shut q

/-! ## The programs are gated -/

section Ready

variable {id : String} {op : Cmd}

theorem not_acts_of_leitura (h : op.Leitura) : ¬(finalGate id).acts op := by
  cases op with
  | salvar => exact h.elim
  | _ => exact fun h ↦ h

theorem not_looks_of_fila (h : op.Fila) : ¬(finalGate id).looks op := by
  cases op with
  | salvar | obter => exact h.elim
  | _ => exact fun h ↦ h

theorem gated_moverParaDlq (cfg : Config) (job : JobAssincrono) (erro : String) :
    (finalGate id).Gated (moverParaDlq cfg job erro) :=
  .perform_bind fun _ ↦ .of_not_acts (.perform fun h ↦ h)

theorem gated_registrarFalha (cfg : Config) (job : JobAssincrono) (erro : String) :
    (finalGate id).Gated (registrarFalha cfg job erro) := by
  rw [registrarFalha]
  split
  · exact gated_moverParaDlq cfg job erro
  · have hretrying : ¬JobStatus.retrying.Final := by decide
    refine .bind_of_not_looks (.perform fun h ↦ hretrying h.2) fun _ ↦ ?_
    refine .bind_of_not_looks ?_ fun r ↦ ?_
    · exact (publicar_calls cfg _ _).attempt.imp fun _ ↦ not_looks_of_fila
    · split
      · exact trivial
      · exact gated_moverParaDlq cfg _ _
      · exact trivial

theorem gated_executarTentativa (cfg : Config) (job : JobAssincrono) :
    (finalGate id).Gated (executarTentativa cfg job) := by
  rw [executarTentativa_eq]
  refine .bind_of_not_looks ?_ fun r ↦ ?_
  · refine (executarOperacao_calls cfg job).attempt.imp fun op hop ↦ ?_
    rcases hop with hop | rfl
    · exact not_looks_of_fila hop
    · exact fun h ↦ h
  · cases r with
    | ok resultado => exact .perform _
    | error x =>
      rw [aposOperacao]
      split
      · exact gated_registrarFalha cfg job _
      · exact trivial

/-- **The read** comes before every save of an attempt. -/
theorem ready_processarJob (id : String) (cfg : Config) (jobId : String) :
    (finalGate id).Ready (processarJob cfg jobId) := by
  by_cases hid : jobId = id
  · refine .look_bind (fun h ↦ h) hid (fun o ↦ ?_) fun o hpermits ↦ ?_
    · split
      · exact trivial
      · split
        · exact trivial
        · have hprocessing : ¬JobStatus.processing.Final := by decide
          refine .bind_of_not_looks (.perform fun h ↦ hprocessing h.2) fun _ ↦ ?_
          exact gated_executarTentativa cfg _
    · split
      · exact trivial
      next job =>
        rw [if_pos (not_not.mp hpermits)]
        exact trivial
  · -- another job: none of the saves is one of `id`
    refine .perform_bind (fun h ↦ h) fun o ho ↦ ?_
    split
    · exact .raise _
    next job =>
      have hjob : job.jobId = jobId := ho
      split
      · exact .ret _
      · refine .of_not_acts (AllCalls.bind (.perform fun h ↦ hid (hjob.symm.trans h.1)) fun _ ↦ ?_)
        refine (executarTentativa_calls cfg _).imp fun op hop hacts ↦ ?_
        rcases hop with hop | rfl
        · cases op with
          | salvar j => exact hid (hjob.symm.trans (hop.jobId.symm.trans hacts.1))
          | _ => exact hacts
        · exact hacts

/-- **Every process reads a job before it saves it**, but for the creation. -/
theorem ready_code (id : String) (cfg : Config) (pedido : Pedido) :
    (finalGate id).Ready (code cfg pedido) := by
  cases pedido with
  | criarJob request =>
    refine .of_not_acts ((criarJob_calls cfg request).imp fun op hop hacts ↦ ?_)
    cases op with
    | salvar job => exact hacts.2 hop.1
    | _ => exact hacts
  | criarTodoEvento event =>
    refine .of_not_acts ((criarTodoEvento_calls cfg event).imp fun op hop hacts ↦ ?_)
    cases op with
    | salvar job => exact hop
    | _ => exact hacts
  | worker esperas n =>
    exact ready_worker (fun _ ↦ not_acts_of_leitura) (ready_processarJob id cfg) esperas n
  | expirar jobId | expirarJob jobId => exact .of_not_acts (.perform fun h ↦ h)

end Ready

/-! ## Whole runs -/

section Run

variable {cfg : Config} {p : Processos}

/-- Redis answers a read with the job of that id. -/
theorem possible_exec (id : String) (op : Cmd) (e : Env) (s : Redis) :
    (finalGate id).possible op (exec op e s).2 := by
  cases op with
  | obter jobId =>
    change (finalGate id).possible (.obter jobId) (.ok (s.obter jobId))
    cases hjob : s.obter jobId with
    | none => exact trivial
    | some job => exact s.jobId_of_obter hjob
  | _ => exact trivial

/-- A read that permits finds the job unfinished. -/
theorem aberto_of_look {id : String} {op : Cmd} {e : Env} {s : Redis}
    (hlook : (finalGate id).looks op) (hpermits : (finalGate id).permits op (exec op e s).2) :
    (exec op e s).1.Aberto id := by
  cases op with
  | obter jobId =>
    cases (hlook : jobId = id)
    intro job hjob
    change (finalGate _).permits (.obter _) (.ok (s.obter _)) at hpermits
    rw [show s.obter _ = some job from hjob] at hpermits
    exact hpermits
  | salvar => exact hpermits.elim
  | _ => exact hlook.elim

/-- Only the save of a final status closes a job. -/
theorem quiet_of_semCopias {id : String} {i : ℕ} {op : Cmd} {e : Env} (hop : op.Criado)
    (h : SemCopias p (i, op, e)) :
    Pool.Quiet machine (finalGate id) (Redis.Aberto id) p (i, op, e) := by
  intro hopen
  change (exec op e p.store).1.Aberto id ∨ _
  obtain hkept | ⟨job, hid, hsave, hstored⟩ | ⟨-, hgone⟩ := obter_exec_cases op e p.store id
  · left
    intro job hjob
    exact hopen job (hkept.symm.trans hjob)
  · by_cases hfinal : job.status.Final
    · obtain rfl | ⟨rfl, -⟩ := hsave
      · refine .inr fun j q hq ↦ ?_
        by_cases hj : j = i
        · exact .inr ⟨hj, hid, hfinal⟩
        · exact .inl (hid ▸ h job rfl hfinal j q hj hq)
      · rw [hop.1] at hfinal
        exact absurd hfinal (by decide)
    · left
      intro job' hjob'
      rw [hstored] at hjob'
      cases hjob'
      exact hfinal
  · left
    intro job hjob
    rw [hgone] at hjob
    cases hjob

/-- The processes, as long as a final status is stored over no unfinished copy. -/
def semCopias (cfg : Config) : TransitionSystem Processos Passo :=
  (runtime cfg).restrict fun p m ↦ ∀ x ∈ p.nextCall m.1, SemCopias p x

theorem watched_of_run {tr : List Passo} (h : (semCopias cfg).Run tr p) (id : String) :
    Pool.Watched (finalGate id) (fun _ ↦ True) (Redis.Aberto id) p := by
  refine TransitionSystem.Run.traceInvariant
    (I := fun _ p ↦ Pool.Watched (finalGate id) (fun _ ↦ True) (Redis.Aberto id) p)
    (fun hinit ↦ ?_) (fun {tr p m p'} hrun hp hstep ↦ ?_) h
  · rw [show _ = _ from hinit]
    intro _ i q hq
    cases hq
  · refine hp.step (ready_code id cfg) (fun h ↦ h) (fun _ ↦ possible_exec id _ _ _)
      (fun _ hlook hpermits ↦ aberto_of_look hlook hpermits) hstep.2 (fun _ ↦ trivial)
      fun x hx ↦ ?_
    obtain ⟨i, op, e⟩ := x
    obtain ⟨k, htask⟩ := Pool.task_of_nextCall hx
    have hcalls := Pool.allCalls_of_run (code_criado cfg) hrun.of_restrict i _ htask
    exact quiet_of_semCopias hcalls.op (hstep.1 _ hx)

/-- **A final status is final**, in every run in which it is stored over no unfinished copy: a step
keeps it, or is a creation under the same id; the workers never save a job as `QUEUED`. -/
theorem final_status_kept (cfg : Config) {tr : List Passo} {p : Processos}
    (h : (semCopias cfg).Run tr p) :
    (∀ m p', (runtime cfg).step p m p' → StatusMantido p.store p'.store) ∧
      ∀ esperas n, (code cfg (.worker esperas n)).AllCalls fun op ↦
        ∀ job, op = .salvar job → job.status ≠ .queued := by
  refine ⟨fun m p' hstep id job job' hjob hfinal hjob' ↦ ?_, fun esperas n ↦ ?_⟩
  · rw [Pool.step_eq hstep] at hjob'
    obtain ⟨-, hm⟩ | ⟨i, c, -, hm⟩ | ⟨i, op, e, k, -, htask, hm⟩ | ⟨i, -, hm⟩ :=
      Pool.move_cases (code cfg) machine m.1 p
    all_goals
      rw [hm] at hjob'
      have hsame : p.store.obter id = some job' → job'.status = job.status := by
        intro h
        rw [hjob] at h
        cases h
        rfl
    · exact .inl (hsame hjob')
    · exact .inl (hsame hjob')
    · have hexec : (exec op e p.store).1.obter id = some job' := hjob'
      obtain hkept | ⟨new, hid, hsave, hstored⟩ | ⟨-, hgone⟩ := obter_exec_cases op e p.store id
      · exact .inl (hsame (hkept.symm.trans hexec))
      · rw [hstored] at hexec
        cases hexec
        obtain rfl | ⟨-, hnone⟩ := hsave
        · by_cases hqueued : job'.status = .queued
          · exact .inr hqueued
          · -- a save by a worker: the store is one on which it may act
            have hopen := (watched_of_run h id).ok_of_acts trivial htask ⟨hid, hqueued⟩
            exact absurd hfinal (hopen job hjob)
        · rw [hnone] at hjob
          cases hjob
      · rw [hgone] at hexec
        cases hexec
    · exact .inl (hsame hjob')
  · refine (executarWorkerLocal_calls cfg esperas n).imp fun op hop job hsave hqueued ↦ ?_
    subst hsave
    obtain hop | ⟨j, hop | hop⟩ := hop
    · exact hop
    · cases hop
      cases hqueued
    · obtain hop | hop := hop
      · rcases hop.status with h | h | h
        all_goals
          rw [hqueued] at h
          cases h
      · cases hop

end Run

/-! ## Two workers of the small runtime -/

/-- A worker takes a job and stores its first attempt. -/
def sampleTaken : List (Move Pedido Env) :=
  sampleStart 1 (.worker 1 1) 2 ++ sampleStart 0 (.criarJob (sampleRequest .notificarStatus)) 6
    ++ sampleSteps 1 6

/-- A call that stores no final status. -/
def Cmd.NaoFinal : Cmd → Prop
  | salvar job => ¬job.status.Final
  | _ => True

instance : DecidablePred Cmd.NaoFinal
  | .salvar job => inferInstanceAs (Decidable (¬job.status.Final))
  | .lrem _ | .quarentenar _ | .criarSeAusente _ | .remover _ | .obter _ | .membros | .publicar _ _
  | .publicarAtrasado _ _ _ | .promover _ | .brpoplpush | .uuid4 | .agora | .adquirir _ _ | .lpush _
  | .liberar _ _ | .lrange | .existeLease _ | .postJson _ | .responder _ | .expirar _
  | .expirarJob _ => instDecidableTrue

theorem Cmd.NaoFinal.semCopias {p : Processos} {x : ℕ × Cmd × Env} (h : x.2.1.NaoFinal) :
    SemCopias p x := by
  intro job hsave hfinal
  rw [hsave] at h
  exact absurd hfinal h

/-- The processes before the only worker stores that the job is completed. -/
def sampleExecuted : Processos := (sampleRun (sampleTaken ++ sampleSteps 1 1)).2

example : (sampleExecuted.store.obter sampleJobId).isSome = true := by decide +kernel

theorem run_sampleExecuted : ∃ tr, (semCopias sampleConfig).Run tr sampleExecuted := by
  have hrun : ((runtime sampleConfig).restrict fun p m ↦
      ∀ x ∈ p.nextCall m.1, x.2.1.NaoFinal).Run _ sampleExecuted :=
    TransitionSystem.run_restrict_runCalls _ (by decide +kernel)
  exact ⟨_, hrun.restrict_mono fun _ _ h x hx ↦ (h x hx).semCopias⟩

/-- The worker is alone. -/
theorem task_sampleExecuted {j : ℕ} (hj : j ≠ 1) : sampleExecuted.task j = none := by
  have hslots : ∀ m ∈ sampleTaken ++ sampleSteps 1 1, m.slot ≤ 1 := by decide
  cases j with
  | zero => exact Option.isNone_iff_eq_none.mp (by decide +kernel)
  | succ j =>
    refine Pool.task_runCalls_of_ne fun m hm hslot ↦ ?_
    have := hslots m hm
    omega

theorem final_status_kept_completed :
    ((sampleNext sampleExecuted 1).store.obter sampleJobId).map JobAssincrono.status
        = some .completed ∧
      StatusMantido (sampleNext sampleExecuted 1).store
        (sampleNext (sampleNext sampleExecuted 1) 1).store := by
  refine ⟨by decide +kernel, ?_⟩
  obtain ⟨tr, hrun⟩ := run_sampleExecuted
  obtain ⟨m, hm, hstep⟩ := step_sampleNext sampleExecuted 1
  obtain ⟨m', -, hstep'⟩ := step_sampleNext (sampleNext sampleExecuted 1) 1
  have hrun' : (semCopias sampleConfig).Run (tr ++ [m]) (sampleNext sampleExecuted 1) := by
    refine hrun.snoc ⟨fun x hx job hsave hfinal j q hj hq ↦ ?_, hstep⟩
    rw [hm] at hx
    have hslot : x.1 = 1 := by
      obtain ⟨i, op, e⟩ := x
      cases Pool.eq_advance_of_nextCall hx
      rfl
    rw [task_sampleExecuted (hslot ▸ hj)] at hq
    cases hq
  exact (final_status_kept sampleConfig hrun').1 m' _ hstep'

/-- The lease of the first worker expires while its operation runs. A second worker recovers the job
and completes it; then the operation of the first one fails. -/
def sampleOvertaken : List (Move Pedido Env) :=
  sampleTaken ++ sampleStart 2 (.expirar sampleJobId) 1 ++ sampleStart 3 (.worker 1 1) 14
    ++ [.advance 1 { sampleEnv with resposta := .error (.httpError "503") }]

/-- The first worker stores `RETRYING` over `COMPLETED`. -/
theorem final_status_replaced :
    ∃ tr p m p', (runtime sampleConfig).Run tr p ∧ (runtime sampleConfig).step p m p' ∧
      ¬StatusMantido p.store p'.store := by
  obtain ⟨m, -, hstep⟩ := step_sampleNext (sampleRun sampleOvertaken).2 1
  refine ⟨_, _, m, _, run_sampleRun sampleOvertaken, hstep, fun hkept ↦ ?_⟩
  have hbefore : ((sampleRun sampleOvertaken).2.store.obter sampleJobId).map JobAssincrono.status
      = some .completed := by decide +kernel
  have hafter : ((sampleNext (sampleRun sampleOvertaken).2 1).store.obter sampleJobId).map
      JobAssincrono.status = some .retrying := by decide +kernel
  obtain ⟨job, hjob, hstatus⟩ := Option.map_eq_some_iff.mp hbefore
  obtain ⟨job', hjob', hstatus'⟩ := Option.map_eq_some_iff.mp hafter
  rcases hkept sampleJobId job job' hjob (.inl hstatus) hjob' with h | h
  · rw [hstatus, hstatus'] at h
    cases h
  · rw [hstatus'] at h
    cases h

end RuntimeJobs

end ReqSys
