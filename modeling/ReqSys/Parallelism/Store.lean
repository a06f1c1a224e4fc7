import ReqSys.Foundation.Program
import Mathlib.Data.Int.Notation

/-!
# Parallelism control: the two stores

The runtime keeps, for each of three targets, how far its parallelism was raised. A client changes
the stage of a target by `compare_and_swap` with the version it has seen, and every change is
written to one audit list that the targets share.

The in-memory store makes the whole operation under a lock, so it is one step. The Redis store
watches the key, reads it, and commits both writes in a transaction that fails if the key was
written since; then it tries again. Here `WATCH` answers how often the key was written, and the
transaction is given that number: this is what the connection remembers.
-/

namespace ReqSys

namespace Parallelism

inductive Target
  | worker | queue | api
  deriving DecidableEq

/-- A request, as the model checks it. -/
structure ParallelismPatchRequest where
  stage : ℕ
  validationPending : Bool := true
  correlationId : String
  executionSha256 : String
  actor : String
  stage_le : stage ≤ 3
  correlationId_length : 8 ≤ correlationId.length ∧ correlationId.length ≤ 128
  executionSha256_pattern : executionSha256.length = 64 ∧
    ∀ c ∈ executionSha256.toList, c.isDigit ∨ 'a' ≤ c ∧ c ≤ 'f'
  actor_length : 1 ≤ actor.length ∧ actor.length ≤ 128

structure ParallelismState where
  target : Target
  stage : ℕ := 0
  version : ℕ := 0
  validationPending : Bool := false
  lastExecutionSha256 : Option String := none
  correlationId : Option String := none
  updatedBy : Option String := none
  updatedAt : Option String := none
  deriving DecidableEq

structure ParallelismAuditEvent where
  target : Target
  previousStage : ℕ
  newStage : ℕ
  previousVersion : ℕ
  newVersion : ℕ
  correlationId : String
  executionSha256 : String
  actor : String
  occurredAt : String
  deriving DecidableEq

inductive Erro
  | versionConflict (currentVersion : ℕ)
  | valueError (mensagem : String)
  | watchError
  deriving DecidableEq

/-- `_updated_state`. -/
def updatedState (current : ParallelismState) (request : ParallelismPatchRequest)
    (updatedAt : String) : ParallelismState where
  target := current.target
  stage := request.stage
  version := current.version + 1
  validationPending := request.validationPending
  lastExecutionSha256 := some request.executionSha256
  correlationId := some request.correlationId
  updatedBy := some request.actor
  updatedAt := some updatedAt

/-- `_audit`. -/
def audit (previous updated : ParallelismState) (request : ParallelismPatchRequest)
    (occurredAt : String) : ParallelismAuditEvent where
  target := previous.target
  previousStage := previous.stage
  newStage := updated.stage
  previousVersion := previous.version
  newVersion := updated.version
  correlationId := request.correlationId
  executionSha256 := request.executionSha256
  actor := request.actor
  occurredAt := occurredAt

/-- What a call makes of the state it finds. -/
inductive Decisao
  | conflito
  | repeticao
  | salto
  | troca
  deriving DecidableEq

/-- The checks of `compare_and_swap`, in their order. -/
def decidir (current : ParallelismState) (expectedVersion : ℤ) (request : ParallelismPatchRequest) :
    Decisao :=
  if (current.version : ℤ) ≠ expectedVersion then .conflito
  else if current.lastExecutionSha256 = some request.executionSha256 then .repeticao
  else if 1 < ((request.stage : ℤ) - current.stage).natAbs then .salto
  else .troca

def saltoErro : Erro := .valueError "stage delta must be at most one"

abbrev Resultado := ParallelismState × ParallelismAuditEvent

/-- A call of `compare_and_swap`. -/
structure Pedido where
  target : Target
  expectedVersion : ℤ
  request : ParallelismPatchRequest

/-! ## In memory -/

/-- `InMemoryParallelismStore`. -/
structure InMemory where
  states : Target → ParallelismState := fun target ↦ { target }
  auditEvents : List ParallelismAuditEvent := []

/-- `compare_and_swap` in memory, with the two readings of the clock. -/
def InMemory.compareAndSwap (c : Pedido × String × String) (s : InMemory) :
    InMemory × Except Erro Resultado :=
  let ⟨⟨target, expectedVersion, request⟩, updatedAt, occurredAt⟩ := c
  let current := s.states target
  match decidir current expectedVersion request with
  | .conflito => (s, .error (.versionConflict current.version))
  | .repeticao => (s, .ok (current, audit current current request occurredAt))
  | .salto => (s, .error saltoErro)
  | .troca =>
    let updated := updatedState current request updatedAt
    let event := audit current updated request occurredAt
    ({ states := Function.update s.states target updated,
       auditEvents := s.auditEvents ++ [event] }, .ok (updated, event))

/-- Any sequence of calls of the in-memory store. -/
def inMemory : TransitionSystem InMemory ((Pedido × String × String) × Except Erro Resultado) :=
  TransitionSystem.ofExec {} InMemory.compareAndSwap

/-! ## In Redis -/

/-- The keys of `RedisParallelismStore`, and how often each state key was written. -/
structure Redis where
  states : Target → Option ParallelismState := fun _ ↦ none
  auditEvents : List ParallelismAuditEvent := []
  escritas : Target → ℕ := fun _ ↦ 0

/-- The commands of the store. -/
inductive Cmd
  | watch (target : Target)
  | get (target : Target)
  | unwatch
  | agora
  /-- `MULTI`, `SET`, `RPUSH`, `EXEC`, on a connection that watched the key when it had been written
  `visto` times. -/
  | execute (target : Target) (visto : ℕ) (updated : ParallelismState)
      (event : ParallelismAuditEvent)

abbrev Cmd.Ans : Cmd → Type
  | watch _ => ℕ
  | get _ => Option ParallelismState
  | unwatch => Unit
  | agora => String
  | execute _ _ _ _ => Unit

/-- The effect and the answer of a command; the clock is its input. -/
def exec : (op : Cmd) → String → Redis → Redis × Except Erro op.Ans
  | .watch target, _, s => (s, .ok (s.escritas target))
  | .get target, _, s => (s, .ok (s.states target))
  | .unwatch, _, s => (s, .ok ())
  | .agora, now, s => (s, .ok now)
  | .execute target visto updated event, _, s =>
    if s.escritas target = visto then
      ({ states := Function.update s.states target (some updated)
         auditEvents := s.auditEvents ++ [event]
         escritas := Function.update s.escritas target (visto + 1) }, .ok ())
    else (s, .error .watchError)

def machine : Machine Cmd.Ans Erro Redis String where
  exec _ := exec
  close _ s := s

abbrev Processo (α : Type) := Program Cmd.Ans Erro α

def run (op : Cmd) : Processo op.Ans := Program.perform op

/-- The state of a target that was read, or the first one. -/
def lido (target : Target) (raw : Option ParallelismState) : ParallelismState :=
  raw.getD { target }

/-- The end of a round of `compare_and_swap`, with what follows if the transaction fails. -/
def gravar (c : Pedido) (visto : ℕ) (current : ParallelismState) (denovo : Processo Resultado) :
    Processo Resultado := do
  let updated := updatedState current c.request (← run .agora)
  let event := audit current updated c.request (← run .agora)
  match ← (run (.execute c.target visto updated event)).attempt with
  | .ok _ => return (updated, event)
  | .error .watchError => denovo
  | .error x => .raise x

/-- A round of `compare_and_swap`, with the state it read. -/
def avaliar (c : Pedido) (visto : ℕ) (current : ParallelismState) (denovo : Processo Resultado) :
    Processo Resultado :=
  match decidir current c.expectedVersion c.request with
  | .conflito => .raise (.versionConflict current.version)
  | .repeticao => do
    run .unwatch
    return (current, audit current current c.request (← run .agora))
  | .salto => .raise saltoErro
  | .troca => gravar c visto current denovo

/-- The rounds of `compare_and_swap`. -/
def rodadas (c : Pedido) : ℕ → Processo Resultado
  | 0 => do
    let raw ← run (.get c.target)
    .raise (.versionConflict (lido c.target raw).version)
  | n + 1 => do
    let visto ← run (.watch c.target)
    let raw ← run (.get c.target)
    avaliar c visto (lido c.target raw) (rodadas c n)

/-- `compare_and_swap` in Redis. -/
def compareAndSwap (c : Pedido) : Processo Resultado := rodadas c 3

/-- Redis and the calls running over it. -/
abbrev Processos := Pool Redis (Processo Resultado)

/-- A move of the calls, with the outcome it delivers. -/
abbrev Passo := Move Pedido String × Option (Except Erro Resultado)

/-- Any number of clients over one Redis. -/
def emRedis : TransitionSystem Processos Passo :=
  Pool.interleaving {} compareAndSwap machine

end Parallelism

end ReqSys
