import ReqSys.Foundation.Gate
import ReqSys.RuntimeJobs.Service

/-!
# Runtime jobs: which commands a process sends

The queue structures and the keys of the jobs are touched by different parts of the service. The
queue sends only commands of the kind `Fila`; an attempt at a job posts that job and saves copies of
it, with the attempt number it started with. The properties of the runtime are all about a few
commands, and these lemmas say which processes send them.
-/

namespace ReqSys

namespace RuntimeJobs

open Program

/-! ## The commands of the queue -/

theorem publicar_calls (cfg : Config) (jobId : String) (delay : ℕ) :
    (publicar cfg jobId delay).AllCalls Cmd.Fila := by
  rw [publicar]
  split
  all_goals
    refine (AllCalls.perform trivial).bind fun result ↦ ?_
    cases result with
    | true => exact .ret _
    | false => exact .raise _

theorem consumir_calls (esperas : ℕ) : (consumir esperas).AllCalls Cmd.Fila := by
  induction esperas with
  | zero => exact .ret _
  | succ esperas ih =>
    refine (AllCalls.perform trivial).bind fun _ ↦ (AllCalls.perform trivial).bind fun o ↦ ?_
    split
    · exact ih
    · refine (AllCalls.perform trivial).bind fun token ↦ (AllCalls.perform trivial).bind fun b ↦ ?_
      split
      · exact .ret _
      · exact (AllCalls.perform trivial).bind fun _ ↦ (AllCalls.perform trivial).bind fun _ ↦ ih

theorem confirmar_calls (posse : Posse) : (confirmar posse).AllCalls Cmd.Fila :=
  (AllCalls.perform trivial).bind fun _ ↦ (AllCalls.perform trivial).bind fun _ ↦ .ret _

theorem recuperarJobsOrfaos_calls : recuperarJobsOrfaos.AllCalls Cmd.Fila := by
  refine (AllCalls.perform trivial).bind fun jobIds ↦ AllCalls.forM fun jobId _ ↦ ?_
  refine (AllCalls.perform trivial).bind fun leased ↦ ?_
  split
  · exact .ret _
  · refine (AllCalls.perform trivial).bind fun removed ↦ ?_
    split
    · exact .perform trivial
    · exact .ret _

theorem republicar_calls (cfg : Config) (jobs : List JobAssincrono) :
    (republicar cfg jobs).AllCalls Cmd.Fila := by
  induction jobs with
  | nil => exact .ret _
  | cons job jobs ih =>
    rw [republicar]
    split
    · refine (publicar_calls cfg job.jobId 0).attempt.bind fun r ↦ ?_
      split
      · exact ih
      · exact .ret _
      · exact .raise _
    · exact ih

/-! ## Reading the jobs -/

/-- A command of the queue, or a read of a job. -/
def Cmd.Leitura : Cmd → Prop
  | obter _ => True
  | op => op.Fila

theorem Cmd.Fila.leitura {op : Cmd} (h : op.Fila) : op.Leitura := by
  cases op with
  | obter => trivial
  | _ => exact h

theorem listar_calls (jobIds : List String) : (listar jobIds).AllCalls Cmd.Leitura := by
  induction jobIds with
  | nil => exact .ret _
  | cons jobId jobIds ih =>
    exact (AllCalls.perform trivial).bind fun _ ↦ ih.bind fun _ ↦ .ret _

theorem recuperarJobsPendentes_calls (cfg : Config) :
    (recuperarJobsPendentes cfg).AllCalls Cmd.Leitura := by
  refine (AllCalls.perform trivial).bind fun jobIds ↦ (listar_calls jobIds).bind fun jobs ↦ ?_
  exact (republicar_calls cfg jobs).imp fun _ ↦ Cmd.Fila.leitura

/-! ## An attempt -/

theorem executarOperacao_calls (cfg : Config) (job : JobAssincrono) :
    (executarOperacao cfg job).AllCalls fun op ↦ op.Fila ∨ op = .postJson job := by
  rw [executarOperacao]
  split
  · split
    · exact .raise _
    · exact (AllCalls.perform (.inr rfl)).bind fun _ ↦ .ofExcept _
  · split
    · exact (AllCalls.perform (.inl trivial)).bind fun _ ↦ .ret _
    · exact .perform (.inr rfl)

/-- A copy of a job that an attempt saves when it ends. -/
structure Desfecho (job desfecho : JobAssincrono) : Prop where
  jobId : desfecho.jobId = job.jobId
  tentativas : desfecho.tentativas = job.tentativas
  status : desfecho.status = .retrying ∨ desfecho.status.Final

/-- A command by which an attempt at a job ends. -/
def Cmd.DeDesfecho (job : JobAssincrono) : Cmd → Prop
  | salvar j => Desfecho job j
  | op => op.Fila

theorem Cmd.Fila.deDesfecho {job : JobAssincrono} {op : Cmd} (h : op.Fila) :
    op.DeDesfecho job := by
  cases op with
  | salvar => exact h.elim
  | _ => exact h

theorem moverParaDlq_calls (cfg : Config) {job j : JobAssincrono} (hid : j.jobId = job.jobId)
    (htentativas : j.tentativas = job.tentativas) (erro : String) :
    (moverParaDlq cfg j erro).AllCalls (Cmd.DeDesfecho job) :=
  (AllCalls.perform ⟨hid, htentativas, .inr (.inr rfl)⟩).bind fun _ ↦ .perform trivial

theorem registrarFalha_calls (cfg : Config) (job : JobAssincrono) (erro : String) :
    (registrarFalha cfg job erro).AllCalls (Cmd.DeDesfecho job) := by
  rw [registrarFalha]
  split
  · exact moverParaDlq_calls cfg rfl rfl erro
  · refine (AllCalls.perform ⟨rfl, rfl, .inl rfl⟩).bind fun _ ↦ ?_
    refine AllCalls.bind ?_ fun r ↦ ?_
    · exact (publicar_calls cfg _ _).attempt.imp fun _ ↦ Cmd.Fila.deDesfecho
    · split
      · exact .ret _
      · exact moverParaDlq_calls cfg rfl rfl _
      · exact .raise _

/-- How an attempt goes on after its operation. -/
def aposOperacao (cfg : Config) (job : JobAssincrono) : Except Erro Json → Processo Unit
  | .ok resultado => run (.salvar (concluido job resultado))
  | .error x => if x.Tratado then registrarFalha cfg job (cfg.sanitizarErro x.str) else .raise x

theorem executarTentativa_eq (cfg : Config) (job : JobAssincrono) :
    executarTentativa cfg job = (executarOperacao cfg job).attempt >>= aposOperacao cfg job := by
  rw [executarTentativa]
  refine congrArg (_ >>= ·) (funext fun r ↦ ?_)
  cases r <;> rfl

theorem aposOperacao_calls (cfg : Config) (job : JobAssincrono) (r : Except Erro Json) :
    (aposOperacao cfg job r).AllCalls (Cmd.DeDesfecho job) := by
  cases r with
  | ok resultado => exact .perform ⟨rfl, rfl, .inr (.inl rfl)⟩
  | error x =>
    rw [aposOperacao]
    split
    · exact registrarFalha_calls cfg job _
    · exact .raise _

/-- A command of an attempt at a job. -/
def Cmd.DeTentativa (job : JobAssincrono) (op : Cmd) : Prop :=
  op.DeDesfecho job ∨ op = .postJson job

theorem executarTentativa_calls (cfg : Config) (job : JobAssincrono) :
    (executarTentativa cfg job).AllCalls (Cmd.DeTentativa job) := by
  rw [executarTentativa_eq]
  refine AllCalls.bind ?_ fun r ↦ (aposOperacao_calls cfg job r).imp fun _ ↦ .inl
  exact (executarOperacao_calls cfg job).attempt.imp fun _ ↦ Or.imp_left Cmd.Fila.deDesfecho

/-! ## Creation -/

/-- A command of `criar_job`. -/
def Cmd.DeCriacao : Cmd → Prop
  | salvar j => j.status = .queued ∧ j.tentativas = 0 ∧ ∃ t x, j.jobId = gerarJobId t x
  | remover jobId => ∃ t x, jobId = gerarJobId t x
  | op => op.Fila

theorem Cmd.Fila.deCriacao {op : Cmd} (h : op.Fila) : op.DeCriacao := by
  cases op with
  | salvar | remover => exact h.elim
  | _ => exact h

/-- A command of `criar_todo_evento`, when the event was stored before. -/
def Cmd.DeResposta (event : TodoEventV1) : Cmd → Prop
  | responder r => r.eventId = event.eventId
  | op => op.Leitura

theorem Cmd.Fila.deResposta {event : TodoEventV1} {op : Cmd} (h : op.Fila) :
    op.DeResposta event := by
  cases op with
  | responder => exact h.elim
  | obter => trivial
  | _ => exact h

/-- A command of `criar_todo_evento`. -/
def Cmd.DeEvento (cfg : Config) (event : TodoEventV1) : Cmd → Prop
  | criarSeAusente j => j = jobDoEvento cfg event
  | remover jobId => jobId = gerarTodoJobId cfg event.eventId
  | op => op.DeResposta event

theorem Cmd.DeResposta.deEvento {cfg : Config} {event : TodoEventV1} {op : Cmd}
    (h : op.DeResposta event) : op.DeEvento cfg event := by
  cases op with
  | criarSeAusente | remover => exact h.elim
  | _ => exact h

theorem publicarOuRemover_calls (cfg : Config) {P : Cmd → Prop} (hfila : ∀ op, op.Fila → P op)
    {jobId : String} (hremover : P (.remover jobId)) :
    (publicarOuRemover cfg jobId).AllCalls P := by
  refine AllCalls.bind ((publicar_calls cfg jobId 0).attempt.imp hfila) fun r ↦ ?_
  split
  · exact .ret _
  · exact (AllCalls.perform hremover).bind fun _ ↦ .raise _
  · exact .raise _

theorem criarJob_calls (cfg : Config) (request : AsyncJobCreateRequest) :
    (criarJob cfg request).AllCalls Cmd.DeCriacao := by
  refine (AllCalls.perform trivial).bind fun uuid ↦ (AllCalls.perform trivial).bind fun t ↦ ?_
  refine (AllCalls.perform trivial).bind fun x ↦ ?_
  refine (AllCalls.perform ⟨rfl, rfl, t, x, rfl⟩).bind fun _ ↦ ?_
  exact publicarOuRemover_calls cfg (fun _ ↦ Cmd.Fila.deCriacao) ⟨t, x, rfl⟩

theorem responderDuplicado_calls (cfg : Config) (event : TodoEventV1) (stored : JobAssincrono) :
    (responderDuplicado cfg event stored).AllCalls (Cmd.DeResposta event) :=
  (AllCalls.ofExcept _).bind fun _ ↦ .perform rfl

theorem responderExistente_calls (cfg : Config) (event : TodoEventV1) :
    (responderExistente cfg event).AllCalls (Cmd.DeResposta event) := by
  refine AllCalls.bind (P := Cmd.DeResposta event) (.perform trivial) fun o ↦ ?_
  split
  · exact .raise _
  next stored =>
    rw [tratarDuplicado]
    split
    · exact .raise _
    · split
      · refine AllCalls.bind ?_ fun r ↦ ?_
        · exact (publicar_calls cfg _ _).attempt.imp fun _ ↦ Cmd.Fila.deResposta
        · split
          · exact responderDuplicado_calls cfg event stored
          · exact responderDuplicado_calls cfg event stored
          · exact .raise _
      · exact responderDuplicado_calls cfg event stored

theorem criarTodoEvento_calls (cfg : Config) (event : TodoEventV1) :
    (criarTodoEvento cfg event).AllCalls (Cmd.DeEvento cfg event) := by
  refine AllCalls.bind (P := Cmd.DeEvento cfg event) (.perform rfl) fun created ↦ ?_
  split
  · refine AllCalls.bind ?_ fun _ ↦ .perform rfl
    exact publicarOuRemover_calls cfg (fun _ h ↦ h.deResposta.deEvento) rfl
  · exact (responderExistente_calls cfg event).imp fun _ ↦ Cmd.DeResposta.deEvento

/-! ## The worker -/

/-- A command of a worker that processes jobs. -/
def Cmd.DeWorker (op : Cmd) : Prop :=
  op.Leitura ∨ ∃ job, op = .salvar (novaTentativa job) ∨ op.DeTentativa (novaTentativa job)

theorem processarJob_calls (cfg : Config) (jobId : String) :
    (processarJob cfg jobId).AllCalls Cmd.DeWorker := by
  refine AllCalls.bind (P := Cmd.DeWorker) (.perform (.inl trivial)) fun o ↦ ?_
  split
  · exact .raise _
  next job =>
    split
    · exact .ret _
    · refine AllCalls.bind (P := Cmd.DeWorker) (.perform (.inr ⟨job, .inl rfl⟩)) fun _ ↦ ?_
      exact (executarTentativa_calls cfg _).imp fun op hop ↦ .inr ⟨job, .inr hop⟩

theorem turnos_calls (cfg : Config) (esperas n : ℕ) :
    (turnos cfg esperas n).AllCalls Cmd.DeWorker := by
  have hfila : ∀ op : Cmd, op.Fila → op.DeWorker := fun _ h ↦ .inl h.leitura
  induction n with
  | zero => exact .ret _
  | succ n ih =>
    refine AllCalls.bind ((consumir_calls esperas).imp hfila) fun o ↦ ?_
    split
    · exact .ret _
    next posse =>
      refine (processarJob_calls cfg posse.jobId).attempt.bind fun fim ↦ ?_
      refine ((confirmar_calls posse).imp hfila).bind fun _ ↦ ?_
      split
      · exact .raise _
      · exact ih

theorem executarWorkerLocal_calls (cfg : Config) (esperas n : ℕ) :
    (executarWorkerLocal cfg esperas n).AllCalls Cmd.DeWorker := by
  refine (recuperarJobsOrfaos_calls.imp fun _ h ↦ .inl h.leitura).bind fun _ ↦ ?_
  refine ((recuperarJobsPendentes_calls cfg).imp fun _ h ↦ .inl h).bind fun _ ↦ ?_
  exact turnos_calls cfg esperas n

/-- **Every command of every process.** -/
theorem code_calls (cfg : Config) (pedido : Pedido) :
    (code cfg pedido).AllCalls fun op ↦ op.DeCriacao ∨ (∃ event, op.DeEvento cfg event) ∨
      op.DeWorker ∨ ∃ jobId, op = .expirarJob jobId := by
  cases pedido with
  | criarJob request => exact (criarJob_calls cfg request).imp fun _ ↦ .inl
  | criarTodoEvento event =>
    exact (criarTodoEvento_calls cfg event).imp fun _ h ↦ .inr (.inl ⟨event, h⟩)
  | worker esperas n =>
    exact (executarWorkerLocal_calls cfg esperas n).imp fun _ h ↦ .inr (.inr (.inl h))
  | expirar jobId => exact .perform (.inr (.inr (.inl (.inl trivial))))
  | expirarJob jobId => exact .perform (.inr (.inr (.inr ⟨jobId, rfl⟩)))

/-- A new job is `QUEUED` and has no attempt. -/
def Cmd.Criado : Cmd → Prop
  | criarSeAusente job => job.status = .queued ∧ job.tentativas = 0
  | _ => True

theorem code_criado (cfg : Config) (pedido : Pedido) :
    (code cfg pedido).AllCalls Cmd.Criado := by
  refine (code_calls cfg pedido).imp fun op hop ↦ ?_
  cases op with
  | criarSeAusente job =>
    obtain h | ⟨event, rfl⟩ | (h | ⟨_, h | h | h⟩) | ⟨_, h⟩ := hop
    · exact h.elim
    · exact ⟨rfl, rfl⟩
    · exact h.elim
    · cases h
    · exact h.elim
    · cases h
    · cases h
  | _ => trivial

section Worker

variable {G : Gate Cmd.Ans Erro} {cfg : Config}

theorem ready_turnos (hfila : ∀ op, op.Fila → ¬G.acts op)
    (hprocessar : ∀ jobId, G.Ready (processarJob cfg jobId)) (esperas n : ℕ) :
    G.Ready (turnos cfg esperas n) := by
  induction n with
  | zero => exact .ret _
  | succ n ih =>
    refine .bind (.of_not_acts ((consumir_calls esperas).imp hfila)) fun o ↦ ?_
    split
    · exact .ret _
    next posse =>
      refine .bind (.attempt (hprocessar posse.jobId)) fun fim ↦ ?_
      refine .bind (.of_not_acts ((confirmar_calls posse).imp hfila)) fun _ ↦ ?_
      split
      · exact .raise _
      · exact ih

/-- Between two jobs a worker only moves ids and reads. -/
theorem ready_worker (hleitura : ∀ op, op.Leitura → ¬G.acts op)
    (hprocessar : ∀ jobId, G.Ready (processarJob cfg jobId)) (esperas n : ℕ) :
    G.Ready (executarWorkerLocal cfg esperas n) := by
  have hfila : ∀ op, op.Fila → ¬G.acts op := fun op h ↦ hleitura op h.leitura
  refine .bind (.of_not_acts (recuperarJobsOrfaos_calls.imp hfila)) fun _ ↦ ?_
  refine .bind (.of_not_acts ((recuperarJobsPendentes_calls cfg).imp hleitura)) fun _ ↦ ?_
  exact ready_turnos hfila hprocessar esperas n

end Worker

end RuntimeJobs

end ReqSys
