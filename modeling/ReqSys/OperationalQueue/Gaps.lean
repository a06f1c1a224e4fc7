import Mathlib
import ReqSys.Foundation.Promises
import ReqSys.OperationalQueue.Provider

/-!
# Operational queue: the calls that promise another

Two of the methods leave a gap. `_promote_due_retries` takes an id out of the retry set before it
adds it to the stream, and `enqueue` takes an idempotency key before it stores the task. So a `ZREM`
that removes an id promises an `XADD`, and a `SET NX` that takes a key promises the transaction of
`enqueue`. A program makes the promised call at once; only its end or an error can come in between.
-/

namespace ReqSys

namespace OperationalQueue

open Program

/-- The two calls that promise another. -/
def promessa : (op : Cmd) → Except Erro op.Ans → Option Cmd
  | .zrem taskId, .ok true => some (.xadd taskId)
  | .setnx _ task, .ok true => some (.criar task)
  | _, _ => none

section Prompt

variable {cfg : Config} {α : Type}

/-- A call that promises nothing. -/
def Cmd.Simples (op : Cmd) : Prop := ∀ r, promessa op r = none

theorem embrulhar_prompt {passa : Erro → Bool} {texto : String} {p : Processo α}
    (hp : p.Prompt promessa) : (embrulhar passa texto p).Prompt promessa := by
  refine hp.attempt.bind fun r ↦ ?_
  cases r <;> exact trivial

theorem run_prompt (op : Cmd) (h : op.Simples) : (run op).Prompt promessa :=
  .of_allCalls (.perform h)

theorem get_prompt (taskId : String) : (get taskId).Prompt promessa := by
  rw [get]
  split
  · exact trivial
  · exact embrulhar_prompt (run_prompt (.get taskId) fun _ ↦ rfl)

theorem ensureGroup_prompt : ensureGroup.Prompt promessa :=
  embrulhar_prompt (run_prompt .ensureGroup fun _ ↦ rfl)

theorem complete_prompt (taskId : String) (result : Json) :
    (complete taskId result).Prompt promessa := by
  refine (get_prompt taskId).bind fun o ↦ ?_
  cases o with
  | none => exact trivial
  | some task =>
    refine (run_prompt .now fun _ ↦ rfl).bind fun now ↦ ?_
    refine (run_prompt (.hget taskId) fun _ ↦ rfl).bind fun message ↦ ?_
    exact embrulhar_prompt (run_prompt (.concluir _ message) fun _ ↦ rfl)

theorem fail_prompt (cfg : Config) (taskId error : String) :
    (fail cfg taskId error).Prompt promessa := by
  refine (get_prompt taskId).bind fun o ↦ ?_
  cases o with
  | none => exact trivial
  | some task =>
    refine (run_prompt .now fun _ ↦ rfl).bind fun now ↦ ?_
    refine (run_prompt (.hget taskId) fun _ ↦ rfl).bind fun message ↦ embrulhar_prompt ?_
    rw [registrarFalha]
    split
    · exact run_prompt (.descartar _ _ message) fun _ ↦ rfl
    · exact run_prompt (.reagendar _ _ message) fun _ ↦ rfl

theorem processar_prompt (cfg : Config) (task : OperationalTask) (recuperada : Bool) :
    (processar cfg task recuperada).Prompt promessa := by
  refine Prompt.bind (Prompt.attempt ?_) fun fim ↦ ?_
  · exact (run_prompt (.executar task recuperada) fun _ ↦ rfl).bind fun result ↦
      complete_prompt task.taskId result
  · cases fim with
    | ok => exact trivial
    | error x => exact fail_prompt cfg task.taskId x.str

/-- **A promotion** adds what it took out. -/
theorem promover_prompt (taskId : String) : (promover taskId).Prompt promessa := by
  refine .perform_bind (fun _ ↦ rfl) fun removed ↦ ?_
  cases removed with
  | true =>
    refine ⟨fun op' h ↦ ?_, run_prompt (.xadd taskId) fun _ ↦ rfl⟩
    cases h
    rfl
  | false => exact ⟨fun op' h ↦ (nomatch h), trivial⟩

theorem dequeue_prompt : dequeue.Prompt promessa := by
  refine ensureGroup_prompt.bind fun _ ↦ embrulhar_prompt (Prompt.bind ?_ fun _ ↦ ?_)
  · refine (run_prompt .now fun _ ↦ rfl).bind fun now ↦ ?_
    refine (run_prompt (.zrangebyscore now) fun _ ↦ rfl).bind fun taskIds ↦ ?_
    exact .forM promover_prompt taskIds
  · refine (run_prompt .xreadgroup fun _ ↦ rfl).bind fun o ↦ ?_
    cases o with
    | none => exact trivial
    | some x =>
      refine (get_prompt x.2).bind fun o ↦ ?_
      cases o with
      | none => exact (run_prompt (.xack x.1) fun _ ↦ rfl).bind fun _ ↦ trivial
      | some task =>
        refine (run_prompt .now fun _ ↦ rfl).bind fun now ↦ ?_
        exact (run_prompt (.reservar _ x.1) fun _ ↦ rfl).bind fun _ ↦ trivial

/-- **`enqueue`** stores what it took a key for. -/
theorem enqueue_prompt (cfg : Config) (task : OperationalTask) :
    (enqueue cfg task).Prompt promessa := by
  refine ensureGroup_prompt.bind fun _ ↦ embrulhar_prompt ?_
  have hcriar : (criar task).Prompt promessa :=
    (run_prompt (.criar task) fun _ ↦ rfl).bind fun _ ↦ trivial
  rw [inserir]
  split
  · exact hcriar
  next key _ =>
    refine .perform_bind (fun _ ↦ rfl) fun acquired ↦ ?_
    cases acquired with
    | true =>
      refine ⟨fun op' h ↦ ?_, hcriar⟩
      cases h
      rfl
    | false =>
      refine ⟨by rintro op' ⟨⟩, ?_⟩
      refine (run_prompt (.getIndex (cfg.sha256 key)) fun _ ↦ rfl).bind fun o ↦ ?_
      cases o with
      | none => exact trivial
      | some existingId =>
        refine (get_prompt existingId).bind fun o ↦ ?_
        split
        · exact trivial
        · split <;> exact trivial

/-- **Every process keeps its promises**, unless it ends first. -/
theorem code_prompt (cfg : Config) (pedido : Pedido) : (code cfg pedido).Prompt promessa := by
  cases pedido with
  | enqueue nova => exact (enqueue_prompt cfg nova.task).bind fun _ ↦ trivial
  | dequeue => exact dequeue_prompt
  | complete taskId result => exact (complete_prompt taskId result).bind fun _ ↦ trivial
  | fail taskId error => exact (fail_prompt cfg taskId error).bind fun _ ↦ trivial
  | worker =>
    refine Prompt.bind (dequeue_prompt.bind fun o ↦ ?_) fun _ ↦ trivial
    cases o with
    | none => exact trivial
    | some task => exact processar_prompt cfg task false
  | recovery =>
    refine Prompt.bind (ensureGroup_prompt.bind fun _ ↦ ?_) fun _ ↦ trivial
    refine (embrulhar_prompt (run_prompt (.xautoclaim _) fun _ ↦ rfl)).bind fun messages ↦ ?_
    refine .forM (fun x ↦ ?_) messages
    rw [recuperar]
    split
    · exact run_prompt (.xack x.1) fun _ ↦ rfl
    · refine (get_prompt x.2).bind fun o ↦ ?_
      cases o with
      | none => exact run_prompt (.xack x.1) fun _ ↦ rfl
      | some task =>
        refine (run_prompt (.hset x.2 x.1) fun _ ↦ rfl).bind fun _ ↦ ?_
        exact processar_prompt cfg task true

end Prompt

end OperationalQueue

end ReqSys
