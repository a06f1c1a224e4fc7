import ReqSys.Foundation.Numbering
import ReqSys.RuntimeJobs.Calls

/-!
# Runtime jobs: how often an operation is started

`processar_job` counts an attempt by saving the job with one more, and then starts the operation.
The limit is only compared after a failure that it catches. So the count says how often the
operation was started as long as three things hold: a worker saves what it read, a new attempt is
within the limit, and the count of a job is never thrown away.

`operations_bounded` is proved for such runs. Every attempt is its own gate: the save of attempt `t`
is the look, and the operation of attempt `t` the act. Under the condition the count only grows, so
attempt `t` is saved once, one process at a time may start its operation, and it starts it once.
-/

namespace ReqSys

namespace RuntimeJobs

open Program

/-- The attempts at a job that Redis knows of. -/
def Redis.tentativas (s : Redis) (id : String) : ℕ :=
  (s.obter id).elim 0 JobAssincrono.tentativas

/-- How often the operation of a job was started. -/
def Redis.iniciadas (s : Redis) (id : String) : ℕ :=
  s.postagens.countP fun x ↦ x.1 = id

/-- The condition on a command: a new attempt counts one more than the stored ones and is within the
limit, every other save keeps the count, and a job with attempts does not disappear. -/
def Cmd.Contado (cfg : Config) (s : Redis) : Cmd → Prop
  | salvar job =>
    if job.status = .processing then
      job.tentativas = s.tentativas job.jobId + 1 ∧ (job.tentativas : ℤ) ≤ cfg.maxTentativas
    else job.tentativas = s.tentativas job.jobId
  | remover id | expirarJob id => s.tentativas id = 0
  | _ => True

instance (cfg : Config) (s : Redis) : DecidablePred (Cmd.Contado cfg s)
  | .salvar job => inferInstanceAs (Decidable (if job.status = .processing then _ ∧ _ else _))
  | .remover id | .expirarJob id => inferInstanceAs (Decidable (s.tentativas id = 0))
  | .lrem _ | .quarentenar _ | .criarSeAusente _ | .obter _ | .membros | .publicar _ _
  | .publicarAtrasado _ _ _ | .promover _ | .brpoplpush | .uuid4 | .agora | .adquirir _ _ | .lpush _
  | .liberar _ _ | .lrange | .existeLease _ | .postJson _ | .responder _ | .expirar _ =>
    instDecidableTrue

/-! ## The gate of an attempt -/

/-- Attempt `t` at job `id`: saved first, then started, once. -/
def attemptGate (id : String) (t : ℕ) : Gate Cmd.Ans Erro where
  acts
    | .postJson job => job.jobId = id ∧ job.tentativas = t
    | _ => False
  looks
    | .salvar job => job.jobId = id ∧ job.tentativas = t ∧ job.status = .processing
    | .postJson job => job.jobId = id ∧ job.tentativas = t
    | _ => False
  permits
    | .salvar _, _ => True
    | _, _ => False
  possible _ _ := True

section Ready

variable {id : String} {t : ℕ} {op : Cmd}

theorem attempt_not_acts_of_leitura (h : op.Leitura) : ¬(attemptGate id t).acts op := by
  cases op with
  | postJson => exact h.elim
  | _ => exact fun h ↦ h

theorem ready_aposOperacao (cfg : Config) (job : JobAssincrono) (r : Except Erro Json) :
    (attemptGate id t).Ready (aposOperacao cfg job r) := by
  refine .of_not_acts ((aposOperacao_calls cfg job r).imp fun op hop hacts ↦ ?_)
  cases op with
  | postJson => exact hop
  | _ => exact hacts

theorem gated_executarOperacao (cfg : Config) (job : JobAssincrono) :
    (attemptGate id t).Gated (executarOperacao cfg job) := by
  rw [executarOperacao]
  split
  · split
    · exact trivial
    · exact .perform_bind fun _ ↦ .of_not_acts (.ofExcept _)
  · split
    · exact .perform_bind fun _ ↦ .ret _
    · exact .perform _

/-- **The save** of an attempt comes before its operation. -/
theorem attempt_ready_processarJob (id : String) (t : ℕ) (cfg : Config) (jobId : String) :
    (attemptGate id t).Ready (processarJob cfg jobId) := by
  refine .perform_bind (fun h ↦ h) fun o _ ↦ ?_
  split
  · exact .raise _
  next job _ =>
    split
    · exact .ret _
    · by_cases hattempt : (novaTentativa job).jobId = id ∧ (novaTentativa job).tentativas = t
      · refine .look_bind (fun h ↦ h) ⟨hattempt.1, hattempt.2, rfl⟩ (fun _ ↦ ?_)
          fun _ hpermits ↦ absurd trivial hpermits
        rw [executarTentativa_eq]
        exact (gated_executarOperacao cfg _).attempt.bind fun r ↦ ready_aposOperacao cfg _ r
      · refine .of_not_acts (AllCalls.bind (.perform fun h ↦ h) fun _ ↦ ?_)
        refine (executarTentativa_calls cfg _).imp fun op hop hacts ↦ ?_
        rcases hop with hop | rfl
        · cases op with
          | postJson => exact hop
          | _ => exact hacts
        · exact hattempt hacts

/-- **Every process saves an attempt before it starts its operation.** -/
theorem attempt_ready_code (id : String) (t : ℕ) (cfg : Config) (pedido : Pedido) :
    (attemptGate id t).Ready (code cfg pedido) := by
  cases pedido with
  | criarJob request =>
    refine .of_not_acts ((criarJob_calls cfg request).imp fun op hop hacts ↦ ?_)
    cases op with
    | postJson => exact hop
    | _ => exact hacts
  | criarTodoEvento event =>
    refine .of_not_acts ((criarTodoEvento_calls cfg event).imp fun op hop hacts ↦ ?_)
    cases op with
    | postJson => exact hop
    | _ => exact hacts
  | worker esperas n =>
    exact ready_worker (fun _ ↦ attempt_not_acts_of_leitura)
      (attempt_ready_processarJob id t cfg) esperas n
  | expirar jobId | expirarJob jobId => exact .of_not_acts (.perform fun h ↦ h)

end Ready

/-! ## The count -/

section Count

variable {cfg : Config} {s : Redis} {op : Cmd}

/-- **The count of a job** stays, or is that of the new attempt that is saved. -/
theorem tentativas_exec (hop : op.Criado) (hcounted : op.Contado cfg s) (e : Env) (id : String) :
    (exec op e s).1.tentativas id = s.tentativas id ∨
      ∃ job, op = .salvar job ∧ job.jobId = id ∧ job.status = .processing ∧
        (exec op e s).1.tentativas id = job.tentativas ∧ job.tentativas = s.tentativas id + 1 ∧
        (job.tentativas : ℤ) ≤ cfg.maxTentativas := by
  obtain hkept | ⟨job, rfl, hsave, hstored⟩ | ⟨hgone, hnone⟩ := obter_exec_cases op e s id
  · exact .inl (congrArg (Option.elim · 0 JobAssincrono.tentativas) hkept)
  · have hcount : (exec op e s).1.tentativas job.jobId = job.tentativas :=
      congrArg (Option.elim · 0 JobAssincrono.tentativas) hstored
    obtain rfl | ⟨rfl, habsent⟩ := hsave
    · by_cases hprocessing : job.status = .processing
      · rw [Cmd.Contado, if_pos hprocessing] at hcounted
        exact .inr ⟨job, rfl, rfl, hprocessing, hcount, hcounted.1, hcounted.2⟩
      · rw [Cmd.Contado, if_neg hprocessing] at hcounted
        exact .inl (hcount.trans hcounted)
    · left
      rw [hcount, hop.2, Redis.tentativas, habsent]
      rfl
  · have hzero : s.tentativas id = 0 := by
      rcases hgone with rfl | rfl
      · exact hcounted
      · exact hcounted
    left
    rw [hzero, Redis.tentativas, hnone]
    rfl

theorem tentativas_le_exec (hop : op.Criado) (hcounted : op.Contado cfg s) (e : Env)
    (id : String) : s.tentativas id ≤ (exec op e s).1.tentativas id := by
  obtain h | ⟨job, -, -, -, h, hnext, -⟩ := tentativas_exec hop hcounted e id
  · exact h.ge
  · omega

end Count

/-! ## Whole runs -/

/-- Attempt `t` at job `id` is counted and was not started yet. -/
def Pendente (id : String) (t : ℕ) (s : Redis) : Prop :=
  1 ≤ t ∧ t ≤ s.tentativas id ∧ (id, t) ∉ s.postagens

/-- The invariant: attempts are started one process at a time and once, within the limit. -/
structure Contagem (cfg : Config) (p : Processos) : Prop where
  watched : ∀ id t, Pool.Watched (attemptGate id t) (fun _ ↦ True) (Pendente id t) p
  exclusive : ∀ id t, Pool.Exclusive (attemptGate id t) p
  started : ∀ id t, (id, t) ∈ p.store.postagens → 1 ≤ t ∧ t ≤ p.store.tentativas id
  nodup : p.store.postagens.Nodup
  bound : ∀ id, p.store.tentativas id ≤ cfg.maxTentativas.toNat

/-- The processes, as long as every command is counted. -/
def contado (cfg : Config) : TransitionSystem Processos Passo :=
  (runtime cfg).restrict fun p m ↦ ∀ x ∈ p.nextCall m.1, x.2.1.Contado cfg p.store

section Run

variable {cfg : Config} {p : Processos}

theorem contagem_init : Contagem cfg ⟨{}, fun _ ↦ none⟩ where
  watched _ _ _ _ _ h := nomatch h
  exclusive _ _ _ _ _ _ h := nomatch h
  started _ _ h := nomatch h
  nodup := List.nodup_nil
  bound _ := Nat.zero_le _

/-- A new attempt is pending once it is saved. -/
theorem Contagem.pendente_of_look (h : Contagem cfg p) {id : String} {t : ℕ} {op : Cmd}
    (hop : op.Criado) (hcounted : op.Contado cfg p.store) (e : Env)
    (hlook : (attemptGate id t).looks op)
    (hpermits : (attemptGate id t).permits op (exec op e p.store).2) :
    p.store.tentativas id < t ∧ Pendente id t (exec op e p.store).1 := by
  cases op with
  | salvar job =>
    obtain ⟨rfl, rfl, hprocessing⟩ := hlook
    rw [Cmd.Contado, if_pos hprocessing] at hcounted
    have hcount : (exec (.salvar job) e p.store).1.tentativas job.jobId = job.tentativas := by
      change ((p.store.salvar job).obter job.jobId).elim 0 _ = _
      rw [Redis.obter_salvar, if_pos rfl]
      rfl
    refine ⟨by omega, by omega, hcount.ge, fun hposted ↦ ?_⟩
    have := (h.started _ _ hposted).2
    omega
  | postJson => exact hpermits.elim
  | _ => exact hlook.elim

/-- A pending attempt stays pending until it is started. -/
theorem Contagem.quiet (h : Contagem cfg p) {i : ℕ} {op : Cmd} {e : Env}
    {k : Except Erro op.Ans → Processo Unit} (htask : p.task i = some (.call op k))
    (hop : op.Criado) (hcounted : op.Contado cfg p.store) (id : String) (t : ℕ) :
    Pool.Quiet machine (attemptGate id t) (Pendente id t) p (i, op, e) := by
  rintro ⟨hpos, hle, hnot⟩
  have hle' : t ≤ (exec op e p.store).1.tentativas id :=
    Nat.le_trans hle (tentativas_le_exec hop hcounted e id)
  obtain hkept | ⟨job, rfl, hposted⟩ := postagens_exec op e p.store
  · refine .inl ⟨hpos, hle', ?_⟩
    change _ ∉ (exec op e p.store).1.postagens
    rwa [hkept]
  · by_cases hattempt : job.jobId = id ∧ job.tentativas = t
    · -- the attempt itself: whoever is about to start it is the only one who may
      refine .inr fun j q hq ↦ ?_
      by_cases hj : j = i
      · exact .inr ⟨hj, hattempt⟩
      · left
        by_contra hopen
        exact hj (h.exclusive id t hq htask hopen fun hshut ↦ hshut.1 hattempt)
    · refine .inl ⟨hpos, hle', ?_⟩
      change _ ∉ (exec (.postJson job) e p.store).1.postagens
      rw [hposted, List.mem_append, List.mem_singleton]
      rintro (hold | hnew)
      · exact hnot hold
      · cases hnew
        exact hattempt ⟨rfl, rfl⟩

/-- **One move.** -/
theorem Contagem.step {p' : Processos} {m : Passo} (h : Contagem cfg p)
    (hcalls : ∀ i q, p.task i = some q → q.AllCalls Cmd.Criado)
    (hstep : (runtime cfg).step p m p')
    (hcounted : ∀ x ∈ p.nextCall m.1, x.2.1.Contado cfg p.store) : Contagem cfg p' := by
  have hcriado : ∀ {i op e}, p.nextCall m.1 = some (i, op, e) → op.Criado := by
    intro i op e hx
    obtain ⟨k, htask⟩ := Pool.task_of_nextCall hx
    exact (hcalls i _ htask).op
  have hwatched : ∀ id t, Pool.Watched (attemptGate id t) (fun _ ↦ True) (Pendente id t) p' := by
    intro id t
    refine (h.watched id t).step (attempt_ready_code id t cfg) (fun h ↦ h) (fun _ ↦ trivial)
      (fun {i op e} hx hlook hpermits ↦ ?_) hstep (fun _ ↦ trivial) fun x hx ↦ ?_
    · exact (h.pendente_of_look (hcriado hx) (hcounted _ hx) e hlook hpermits).2
    · obtain ⟨i, op, e⟩ := x
      obtain ⟨k, htask⟩ := Pool.task_of_nextCall hx
      exact h.quiet htask (hcriado hx) (hcounted _ hx) id t
  have hexclusive : ∀ id t, Pool.Exclusive (attemptGate id t) p' := by
    intro id t
    refine (h.exclusive id t).step (attempt_ready_code id t cfg) trivial
      (fun i q hq ↦ (h.watched id t trivial i q hq).1) hstep
      fun {i op e} hx hlook hpermits j q _ hq ↦ ?_
    -- before it is saved the attempt is not pending, so everyone is shut
    have hnew := (h.pendente_of_look (hcriado hx) (hcounted _ hx) e hlook hpermits).1
    refine (h.watched id t trivial j q hq).2.resolve_right fun hpending ↦ ?_
    exact absurd hpending.2.1 (Nat.not_le.mpr hnew)
  rw [Pool.step_eq hstep] at hwatched hexclusive ⊢
  obtain ⟨-, hm⟩ | ⟨i, c, -, hm⟩ | ⟨i, op, e, k, hcall, htask, hm⟩ | ⟨i, -, hm⟩ :=
    Pool.move_cases (code cfg) machine m.1 p
  all_goals rw [hm] at hwatched hexclusive ⊢
  · exact ⟨hwatched, hexclusive, h.started, h.nodup, h.bound⟩
  · exact ⟨hwatched, hexclusive, h.started, h.nodup, h.bound⟩
  · have hop := hcriado hcall
    have hcond := hcounted _ hcall
    have hbound : ∀ id, (exec op e p.store).1.tentativas id ≤ cfg.maxTentativas.toNat := by
      intro id
      obtain hsame | ⟨job, -, -, -, hnew, -, hlimit⟩ := tentativas_exec hop hcond e id
      · exact hsame.trans_le (h.bound id)
      · rw [hnew]
        omega
    have hstarted : ∀ id t, (id, t) ∈ p.store.postagens →
        1 ≤ t ∧ t ≤ (exec op e p.store).1.tentativas id := by
      intro id t hposted
      obtain ⟨hpos, hle⟩ := h.started id t hposted
      exact ⟨hpos, Nat.le_trans hle (tentativas_le_exec hop hcond e id)⟩
    obtain hkept | ⟨job, rfl, hposted⟩ := postagens_exec op e p.store
    · refine ⟨hwatched, hexclusive, fun id t hmem ↦ ?_, ?_, hbound⟩
      · exact hstarted id t (hkept ▸ hmem)
      · change (exec op e p.store).1.postagens.Nodup
        rw [hkept]
        exact h.nodup
    · -- an operation starts: its attempt was pending
      obtain ⟨hpos, hle, hnot⟩ := (h.watched job.jobId job.tentativas).ok_of_acts trivial htask
        ⟨rfl, rfl⟩
      refine ⟨hwatched, hexclusive, fun id t hmem ↦ ?_, ?_, hbound⟩
      · have hmem' : (id, t) ∈ p.store.postagens ++ [(job.jobId, job.tentativas)] := hposted ▸ hmem
        rcases List.mem_append.mp hmem' with hold | hnew
        · exact hstarted id t hold
        · cases List.mem_singleton.mp hnew
          exact ⟨hpos, hle⟩
      · change (exec (.postJson job) e p.store).1.postagens.Nodup
        rw [hposted]
        refine List.nodup_append.mpr ⟨h.nodup, List.nodup_singleton _, fun a ha b hb hab ↦ hnot ?_⟩
        rw [List.mem_singleton.mp hb] at hab
        exact hab ▸ ha
  · exact ⟨hwatched, hexclusive, h.started, h.nodup, h.bound⟩

theorem contagem_of_run {tr : List Passo} (h : (contado cfg).Run tr p) : Contagem cfg p := by
  refine TransitionSystem.Run.traceInvariant (I := fun _ p ↦ Contagem cfg p) (fun hinit ↦ ?_)
    (fun {tr p m p'} hrun hp hstep ↦ ?_) h
  · rw [show _ = _ from hinit]
    exact contagem_init
  · exact hp.step (Pool.allCalls_of_run (code_criado cfg) hrun.of_restrict) hstep.2 hstep.1

end Run

/-! ## The small runtime -/

example : (sampleRun (sampleProcessed .notificarStatus)).2.store.iniciadas sampleJobId = 1 := by
  decide +kernel

/-- A worker takes a job, starts its operation and dies; then its lease expires. -/
def sampleDying (i n : ℕ) : List (Move Pedido Env) :=
  sampleStart i (.worker 1 1) n ++ .crash i :: sampleStart 0 (.expirar sampleJobId) 2

/-- Four workers, one after the other. From the second on they recover the job first. -/
def sampleRedelivered : List (Move Pedido Env) :=
  sampleStart 0 (.criarJob (sampleRequest .notificarStatus)) 6
    ++ sampleDying 1 11 ++ sampleDying 2 13 ++ sampleDying 3 13 ++ sampleDying 4 13

end RuntimeJobs

end ReqSys
