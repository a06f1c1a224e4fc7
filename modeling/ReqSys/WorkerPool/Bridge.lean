import Mathlib
import ReqSys.Foundation.Serial
import ReqSys.WorkerPool.Frame

/-!
# The worker pool: the bridge

`enqueue_local_work` hands the issues of a report over to the pool, one after the other, and raises
at the first answer that it does not expect. Here the pool is the store behind the routes of
`main.py`, which has no contract and no work routes, so the bridge uses `/v1/tasks`: an issue is
posted twice, and then read back.

Requests reach a healthy pool. Between two of them the workers may do whatever they do to the tasks;
nobody else enqueues while the bridge runs.
-/

namespace ReqSys

namespace WorkerPool

namespace Bridge

open PyText

variable (H : Host) (cfg : Config)

/-! ## Requests and answers -/

/-- `BridgeError`, or what a call of a worker raises. -/
inductive Erro
  | bridgeError (reason : String)
  | pool (e : PoolError)
  deriving DecidableEq

/-- A decision of the orchestrator, as the bridge reads it. -/
structure Decision where
  kind : String
  number : ℤ
  route : String
  status : String
  deriving DecidableEq

/-- A report of the orchestrator. -/
structure Report where
  repository : String
  baseBranch : String
  correlationId : String
  decisions : List Decision

/-- The body of a request to `/v1/tasks`. -/
structure TaskCreate where
  repository : String
  issueNumber : ℤ
  requestId : String
  correlationId : String
  priority : ℤ := 100
  baseSha : String
  maxAttempts : Option ℤ := none

/-- The bounds of the fields. -/
def TaskCreate.valid (body : TaskCreate) : Bool :=
  3 ≤ body.repository.length ∧ body.repository.length ≤ 256 ∧ 1 ≤ body.issueNumber
    ∧ 1 ≤ body.requestId.length ∧ body.requestId.length ≤ 256
    ∧ 1 ≤ body.correlationId.length ∧ body.correlationId.length ≤ 128
    ∧ 0 ≤ body.priority ∧ body.priority ≤ 10000 ∧ body.baseSha.length = 40
    ∧ body.maxAttempts.all fun n ↦ 1 ≤ n ∧ n ≤ 20

/-- `**payload.model_dump()`. -/
def TaskCreate.args (body : TaskCreate) : EnqueueArgs where
  repository := body.repository
  issueNumber := body.issueNumber
  requestId := body.requestId
  correlationId := body.correlationId
  priority := body.priority
  baseSha := some body.baseSha
  maxAttempts := body.maxAttempts

/-- What the bridge reads of a task; `public_task` leaves out the lease token. -/
structure PublicTask where
  taskId : String
  repository : String
  issueNumber : ℤ
  requestId : String
  baseSha : Option String
  branch : String
  workspaceKey : String
  state : TaskState

def publicTask (t : Task) : PublicTask where
  taskId := t.taskId
  repository := t.repository
  issueNumber := t.issueNumber
  requestId := t.requestId
  baseSha := t.baseSha
  branch := t.branch
  workspaceKey := t.workspaceKey
  state := t.state

/-- The status of the answer to an exception. -/
def httpStatus : PoolError → ℕ
  | .value _ => 422
  | .notFound _ => 404
  | .conflict _ => 409
  | .integrity _ | .overflow => 500

/-- What `http_request` raises for a status. -/
def httpError (code : ℕ) : Erro := .bridgeError s!"worker_pool_http_{code}"

/-- A call of a worker. -/
abbrev WorkerCall := {c : Call // c.op.isEnqueue = false}

/-- What a request gets from outside: what the workers have done before it arrives, and the
surroundings of the route. -/
structure Moment where
  between : List WorkerCall := []
  env : Env

inductive Cmd
  | health
  | contract
  | postTask (body : TaskCreate)
  | getTask (taskId : String)
  | op (c : Call)

/-- The pool has no route for the contract, so there is no answer but 404. -/
abbrev Cmd.Ans : Cmd → Type
  | health => ℕ × String
  | contract => Empty
  | postTask _ => ℕ × Bool × PublicTask
  | getTask _ => ℕ × PublicTask
  | op _ => Reply

/-- What a route does. -/
def route (env : Env) (s : Store) : (op : Cmd) → Store × Except Erro op.Ans
  | .health =>
    if cfg.expectedRulesSha.isSome then (s, .ok (200, "healthy")) else (s, .error (httpError 503))
  | .contract => (s, .error (httpError 404))
  | .postTask body =>
    if body.valid then
      match enqueueTask H cfg env body.args s with
      | (s', .ok (.enqueued row created)) =>
        (s', .ok (if created then 201 else 200, created, publicTask row))
      | (s', .ok _) => (s', .error (httpError 500))
      | (s', .error e) => (s', .error (httpError (httpStatus e)))
    else (s, .error (httpError 422))
  | .getTask tid =>
    match WorkerPool.getTask tid s with
    | .ok row => (s, .ok (200, publicTask row))
    | .error e => (s, .error (httpError (httpStatus e)))
  | .op c =>
    match exec H cfg c s with
    | (s', .ok reply) => (s', .ok reply)
    | (s', .error e) => (s', .error (.pool e))

/-- The store after what the workers have done. -/
def worked (calls : List WorkerCall) (s : Store) : Store :=
  (TransitionSystem.runCalls (exec H cfg) (calls.map Subtype.val) s).2

def machine : Machine Cmd.Ans Erro Store Moment where
  exec _ op m s := route H cfg m.env (worked H cfg m.between s) op
  close _ s := s

abbrev Process := Program Cmd.Ans Erro

/-- One request. -/
def run (op : Cmd) : Process op.Ans := .perform op

/-! ## The bridge -/

/-- `LOCAL_CODEX_ROUTE`. -/
def localCodexRoute : String := "local_codex_branch_first"

/-- `ELIGIBLE_STATUSES`. -/
def eligibleStatuses : List String := ["dispatched", "already_dispatched"]

/-- `local_codex_decisions`. -/
def localCodexDecisions (report : Report) : List Decision :=
  report.decisions.filter fun item ↦ item.kind = "issue" ∧ item.route = localCodexRoute
    ∧ item.status ∈ eligibleStatuses ∧ ¬item.number < 1

/-- `validate_base_sha`. -/
def validateBaseSha (value : String) : Except Erro String :=
  let normalized := H.unicode.lower (strip value)
  if sha40 normalized then .ok normalized else .error (.bridgeError "base_sha_invalid")

/-- `local_codex_request_id`. -/
def localCodexRequestId (repository : String) (issueNumber : ℤ) (baseBranch : String) : String :=
  take 24 (H.sha256Hex (repository ++ ":" ++ intRepr issueNumber ++ ":" ++ baseBranch))

/-- `verify_health`. -/
def verifyHealth : Process Unit := do
  let (code, status) ← run .health
  if code ≠ 200 ∨ status ≠ "healthy" then .raise (.bridgeError "worker_pool_not_ready")
  else return ()

/-- `verify_contract`. -/
def verifyContract (allowLegacyFallback : Bool) : Process String := do
  match ← (run .contract).attempt with
  | .error (.bridgeError reason) =>
    if reason = "worker_pool_http_404" then
      if allowLegacyFallback then return "legacy_fallback"
      else .raise (.bridgeError "worker_pool_contract_required")
    else .raise (.bridgeError reason)
  | .error e => .raise e
  | .ok answer => answer.elim

/-- What was handed over. -/
structure Dispatched where
  taskId : String
  task : PublicTask
  readback : PublicTask
  created : Bool
  replayCreated : Bool

/-- `_validate_task_identity`. -/
def validateTaskIdentity (task : PublicTask) (taskId : String) (body : TaskCreate) :
    Except Erro Unit :=
  if task.taskId ≠ taskId ∨ task.repository ≠ body.repository ∨ task.issueNumber ≠ body.issueNumber
      ∨ task.requestId ≠ body.requestId ∨ task.baseSha ≠ some body.baseSha then
    .error (.bridgeError "worker_pool_readback_mismatch")
  else .ok ()

/-- `_task_id`. -/
def responseTaskId (task : PublicTask) : Process String :=
  if task.taskId = "" then .raise (.bridgeError "worker_pool_task_response_invalid")
  else return task.taskId

/-- `_enqueue_task_fallback`. -/
def enqueueTaskFallback (body : TaskCreate) : Process Dispatched := do
  let (firstCode, firstCreated, first) ← run (.postTask body)
  if firstCode ≠ 200 ∧ firstCode ≠ 201 then .raise (.bridgeError "worker_pool_enqueue_failed")
  else do
    let taskId ← responseTaskId first
    let (replayCode, replayCreated, replay) ← run (.postTask body)
    if replayCode ≠ 200 ∨ replayCreated ≠ false then
      .raise (.bridgeError "worker_pool_replay_not_idempotent")
    else do
      let replayTaskId ← responseTaskId replay
      if replayTaskId ≠ taskId then .raise (.bridgeError "worker_pool_replay_task_mismatch")
      else do
        let (readCode, readback) ← run (.getTask taskId)
        if readCode ≠ 200 then .raise (.bridgeError "worker_pool_readback_failed")
        else do
          Program.ofExcept (validateTaskIdentity readback taskId body)
          return { taskId, task := first, readback, created := firstCreated, replayCreated }

/-- An item of the evidence. -/
structure Item where
  issueNumber : ℤ
  requestId : String
  correlationId : String
  taskId : String
  branch : String
  workspaceKey : String
  state : TaskState
  baseSha : String
  created : Bool
  replayCreated : Bool
  deriving DecidableEq

inductive Outcome
  | noLocalCodexWork
  | workerPoolEnqueued (repository baseSha correlationId contractMode : String) (items : List Item)
  /-- The answer to a call of a worker. -/
  | reply (r : Reply)
  deriving DecidableEq

/-- The arguments of `enqueue_local_work`. -/
structure LocalWork where
  report : Report
  baseSha : String
  allowLegacyFallback : Bool := true

/-- The body for an issue. -/
def bodyFor (repository baseBranch parentCorrelation baseSha : String) (item : Decision) :
    TaskCreate where
  repository := repository
  issueNumber := item.number
  requestId := localCodexRequestId H repository item.number baseBranch
  correlationId := take 128 (parentCorrelation ++ "-issue-" ++ intRepr item.number)
  priority := 10
  baseSha := baseSha
  maxAttempts := some 3

/-- The evidence of an issue. -/
def itemFor (body : TaskCreate) (d : Dispatched) : Item where
  issueNumber := body.issueNumber
  requestId := body.requestId
  correlationId := body.correlationId
  taskId := d.taskId
  branch := d.task.branch
  workspaceKey := d.task.workspaceKey
  state := d.readback.state
  baseSha := body.baseSha
  created := d.created
  replayCreated := d.replayCreated

/-- The loop over the issues. -/
def enqueueAll : List TaskCreate → Process (List Item)
  | [] => return []
  | body :: rest => do
    let dispatched ← enqueueTaskFallback body
    let items ← enqueueAll rest
    return itemFor body dispatched :: items

/-- `enqueue_local_work`. -/
def enqueueLocalWork (a : LocalWork) : Process Outcome := do
  let decisions := localCodexDecisions a.report
  if decisions = [] then return .noLocalCodexWork
  else do
    let baseSha ← .ofExcept (validateBaseSha H a.baseSha)
    let repository := strip a.report.repository
    let baseBranch := strip a.report.baseBranch
    let parentCorrelation := strip a.report.correlationId
    if ¬contains "/" repository ∨ baseBranch = "" ∨ parentCorrelation = "" then
      .raise (.bridgeError "orchestrator_identity_invalid")
    else do
      verifyHealth
      let contractMode ← verifyContract a.allowLegacyFallback
      let items ← enqueueAll
        (decisions.map (bodyFor H repository baseBranch parentCorrelation baseSha))
      return .workerPoolEnqueued repository baseSha parentCorrelation contractMode items

/-! ## The system -/

inductive Request
  | enqueueLocalWork (a : LocalWork)
  | worker (c : Call)

def code : Request → Process Outcome
  | .enqueueLocalWork a => enqueueLocalWork H a
  | .worker c => do return .reply (← run (.op c))

/-- Any sequence of calls of the bridge and of the store, starting on an empty database. -/
def handOvers : TransitionSystem Store (Request × Except Erro Outcome) :=
  Program.serial Store.empty (code H) (machine H cfg)

end Bridge

end WorkerPool

end ReqSys
