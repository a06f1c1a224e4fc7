import ReqSys.Foundation.IsoText
import ReqSys.Foundation.PyText
import ReqSys.Foundation.Table
import Mathlib.Data.List.Perm.Basic

/-!
# The worker pool: tables and errors

The five tables of `WorkerPoolStore` as lists of records, one field per column, in insertion order.
Optional columns are `Option`, timestamps are the texts the store writes, enumerations checked by
the schema are inductive types.

The two partial unique indexes on `tasks` are part of the schema: `writeTask` is the `UPDATE` of one
row by primary key, and refuses a row that would collide with another one in either index.

## What a call reads besides the store

The clock may be read several times within one call, a fresh lease token is drawn, and the scans
without `ORDER BY` return their rows in some order. `Env` collects these; a run supplies one for
each call, so every result about runs holds for all of them.
-/

namespace ReqSys

namespace WorkerPool

/-! ## Enumerations -/

/-- `STATES`. -/
inductive TaskState
  | queued | leased | running | validating | blocked | completed | failed
  deriving DecidableEq

namespace TaskState

/-- The text stored in the column. -/
def text : TaskState → String
  | queued => "queued" | leased => "leased" | running => "running"
  | validating => "validating" | blocked => "blocked" | completed => "completed"
  | failed => "failed"

/-- `ACTIVE`. -/
def active : List TaskState := [leased, running, validating]

end TaskState

/-- `ROLES`. -/
inductive Role
  | builder | validator
  deriving DecidableEq

namespace Role

def text : Role → String
  | builder => "builder" | validator => "validator"

def ofText (s : String) : Option Role :=
  if s = "builder" then some builder else if s = "validator" then some validator else none

end Role

/-- `PROFILES`. -/
inductive Profile
  | normal | estudo
  deriving DecidableEq

namespace Profile

def text : Profile → String
  | normal => "NORMAL" | estudo => "ESTUDO"

def ofText (s : String) : Option Profile :=
  if s = "NORMAL" then some normal else if s = "ESTUDO" then some estudo else none

end Profile

/-! ## Rows -/

/-- A row of `workers`. -/
structure Worker where
  workerId : String
  host : String
  role : Role
  profile : Profile
  capacityScore : ℤ
  controllerVersion : Option String
  rulesSha : Option String
  gatewayOk : Bool
  stateValidated : Bool
  worktreeRoot : Option String
  registeredAt : String
  lastHeartbeatAt : String
  correlationId : String
  deriving DecidableEq

/-- A row of `repository_lanes`. -/
structure Lane where
  repository : String
  enabled : Bool
  maxInFlight : ℤ
  builderClaimCount : ℕ
  validatorClaimCount : ℕ
  lastBuilderClaimedAt : Option String
  lastValidatorClaimedAt : Option String
  updatedAt : String
  deriving DecidableEq

/-- A row of `worker_repository_affinity`. -/
structure Affinity where
  workerId : String
  repository : String
  deriving DecidableEq

/-- A row of `tasks`. -/
structure Task where
  taskId : String
  repository : String
  issueNumber : ℤ
  requestId : String
  idempotencyKey : String
  state : TaskState
  priority : ℤ
  branch : String
  workspaceKey : String
  baseSha : Option String
  producedSha : Option String
  builderWorkerId : Option String
  validatorWorkerId : Option String
  leasedBy : Option String
  leaseToken : Option String
  leaseExpiresAt : Option String
  attemptCount : ℕ
  maxAttempts : ℤ
  blockedReason : Option String
  lastError : Option String
  correlationId : String
  createdAt : String
  updatedAt : String
  lastMaterialProgressAt : String
  completedAt : Option String
  deriving DecidableEq

/-- `state IN ('leased','running','validating')`. -/
def Task.isActive (t : Task) : Bool := t.state ∈ TaskState.active

/-- A row of `quarantine`, without its automatic number: rows are kept in insertion order. -/
structure QuarantineRow where
  taskId : String
  idempotencyKey : String
  correlationId : String
  attemptCount : ℕ
  reason : String
  quarantinedAt : String
  deriving DecidableEq

/-- The database. -/
structure Store where
  workers : List Worker
  lanes : List Lane
  affinities : List Affinity
  tasks : List Task
  quarantine : List QuarantineRow
  deriving DecidableEq

/-- The database `_init` creates. -/
def Store.empty : Store := ⟨[], [], [], [], []⟩

/-! ## Errors and replies -/

/-- The constraints whose violation raises `sqlite3.IntegrityError`. -/
inductive Constraint
  | taskPrimaryKey | taskIdempotencyKey | workerActive | workspaceActive
  deriving DecidableEq

/-- What a call can raise. -/
inductive PoolError
  /-- `ValueError`. -/
  | value (message : String)
  /-- `NotFoundError`. -/
  | notFound (message : String)
  /-- `ConflictError`. -/
  | conflict (message : String)
  /-- `sqlite3.IntegrityError`. -/
  | integrity (constraint : Constraint)
  /-- `OverflowError`: a date outside the calendar, or an integer SQLite cannot hold. -/
  | overflow
  deriving DecidableEq

/-- The `Lease` handed to the claimant. -/
structure Lease where
  taskId : String
  leaseToken : String
  workerId : String
  role : Role
  leaseExpiresAt : String
  deriving DecidableEq

/-- The result of `_recover_stalled`. -/
structure StallCounts where
  rerouted : ℕ
  blocked : ℕ
  failed : ℕ
  deriving DecidableEq

/-- What a call returns. -/
inductive Reply
  | worker (row : Worker)
  | repository (row : Lane)
  | affinities (repositories : List String)
  | enqueued (row : Task) (created : Bool)
  | claimed (grant : Option (Task × Lease))
  | task (row : Task)
  | recovered (count : ℕ)
  | stalled (counts : StallCounts)
  deriving DecidableEq

/-! ## Surroundings -/

/-- What the interpreter supplies and the store only calls. -/
structure Host where
  unicode : Unicode
  /-- `hashlib.sha256(text.encode()).hexdigest()`. -/
  sha256Hex : String → String

/-- The constructor arguments of the store, as validated by `__init__`. -/
structure Config where
  heartbeatTtlSeconds : ℕ
  defaultLeaseSeconds : ℕ
  defaultMaxAttempts : ℕ
  progressStallSeconds : ℕ
  expectedRulesSha : Option String
  heartbeatTtl_pos : 1 ≤ heartbeatTtlSeconds
  defaultLease_pos : 1 ≤ defaultLeaseSeconds
  defaultMaxAttempts_pos : 1 ≤ defaultMaxAttempts
  progressStall_pos : 1 ≤ progressStallSeconds
  expectedRulesSha_hex : ∀ s, expectedRulesSha = some s → PyText.isHex 40 s = true

/-- What one call draws from its surroundings. -/
structure Env where
  /-- The readings of `self.clock()`, in the order the call makes them. -/
  clock : ℕ → DateTime
  /-- The reading made while a worker is considered as an alternative for a task. -/
  alternativeClock : String → String → DateTime
  /-- `uuid.uuid4().hex`. -/
  token : String
  /-- The order in which the scan of expired leases returns its rows. -/
  expiredOrder : List Task → List Task
  expiredOrder_perm : ∀ l, (expiredOrder l).Perm l
  /-- The order in which the scan of stalled tasks returns its rows. -/
  stalledOrder : List Task → List Task
  stalledOrder_perm : ∀ l, (stalledOrder l).Perm l

/-! ## Writing a task row -/

/-- Two rows that `idx_worker_active` does not admit together. -/
def workerClash (t t' : Task) : Bool :=
  t.isActive && t'.isActive && t.leasedBy.isSome && t.leasedBy == t'.leasedBy

/-- Two rows that `idx_workspace_active` does not admit together. -/
def workspaceClash (t t' : Task) : Bool :=
  t.isActive && t'.isActive && t.repository == t'.repository && t.workspaceKey == t'.workspaceKey

/-- `UPDATE tasks SET … WHERE task_id = …`, with both partial unique indexes enforced. -/
def writeTask (t' : Task) (s : Store) : Except PoolError Store :=
  let others := s.tasks.filter fun t ↦ t.taskId ≠ t'.taskId
  if others.any (workerClash t') then .error (.integrity .workerActive)
  else if others.any (workspaceClash t') then .error (.integrity .workspaceActive)
  else .ok { s with tasks := Table.update Task.taskId t'.taskId (fun _ ↦ t') s.tasks }

end WorkerPool

end ReqSys
