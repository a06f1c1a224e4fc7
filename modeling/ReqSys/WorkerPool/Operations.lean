import Mathlib
import ReqSys.Foundation.TransitionSystem
import ReqSys.WorkerPool.Text

/-!
# The worker pool: the operations of the store

Each public method of `WorkerPoolStore` as a function from the database to the database and the
value returned or raised. The part inside `with self._tx()` either commits or leaves the database
as it was (`transaction`); what a method reads after the commit can still raise.

Readings of the clock are numbered in the order the method makes them. The scans that have no
`ORDER BY` go through the order supplied by the surroundings.

## The system

`Call` lists the calls a client can make, `exec` runs one, and `system` is the transition system of
arbitrary sequences of calls on an empty database. Its labels pair each call with its result.
-/

namespace ReqSys

namespace WorkerPool

open PyText

variable (H : Host) (cfg : Config) (env : Env)

/-! ## Plumbing -/

/-- `with self._tx()`: the writes of the body are kept if it returns and undone if it raises. The
method then answers from the committed database. -/
def transaction {α : Type} (body : Except PoolError (Store × α))
    (answer : α → Store → Except PoolError Reply) (s : Store) : Store × Except PoolError Reply :=
  match body with
  | .ok (s', a) => (s', answer a s')
  | .error e => (s, .error e)

/-- `self._d` of a missing row. -/
def rowMissing : PoolError := .notFound "registro não encontrado"

/-- `x or default` of an optional integer argument. -/
def orDefault (x : Option ℤ) (default : ℕ) : ℤ :=
  match x with
  | none => default
  | some n => if n = 0 then default else n

/-- An integer bound to a statement has to fit SQLite's 64 bits. -/
def bindInteger (n : ℤ) : Except PoolError Unit := require (-2 ^ 63 ≤ n ∧ n < 2 ^ 63) .overflow

/-- `UPDATE tasks SET … WHERE task_id = tid`. -/
def updateTask (tid : String) (f : Task → Task) (s : Store) : Except PoolError Store :=
  match Table.lookup Task.taskId tid s.tasks with
  | none => .ok s
  | some t => writeTask (f t) s

def getWorker (workerId : String) (s : Store) : Except PoolError Worker :=
  orThrow (Table.lookup Worker.workerId workerId s.workers) rowMissing

def getTask (tid : String) (s : Store) : Except PoolError Task :=
  orThrow (Table.lookup Task.taskId tid s.tasks) rowMissing

/-- The answer of the methods that end with `return self.get_task(task_id)`. -/
def answerTask (tid : String) (s : Store) : Except PoolError Reply := return .task (← getTask tid s)

/-! ## Workers and repositories -/

structure RegisterArgs where
  workerId : String
  host : String
  role : String
  correlationId : String
  profile : String := "NORMAL"
  capacityScore : ℤ := 50
  controllerVersion : Option String := none
  rulesSha : Option String := none
  gatewayOk : Bool := false
  stateValidated : Bool := false
  worktreeRoot : Option String := none

/-- `(rules_sha or "").strip().lower() or None`. -/
def normalizeRulesSha (rulesSha : Option String) : Option String :=
  let s := H.unicode.lower (strip (rulesSha.getD ""))
  if s = "" then none else some s

def registerWorker (a : RegisterArgs) (s : Store) : Store × Except PoolError Reply :=
  transaction (α := Unit) (do
    require (¬(strip a.workerId = "" ∨ strip a.host = "" ∨ strip a.correlationId = ""))
      (.value "worker_id, host e correlation_id são obrigatórios")
    let role ← orThrow (Role.ofText (H.unicode.lower a.role)) (.value "role/profile inválido")
    let profile ← orThrow (Profile.ofText (H.unicode.upper a.profile))
      (.value "role/profile inválido")
    let rulesSha := normalizeRulesSha H a.rulesSha
    require (rulesSha.all sha40) (.value "rules_sha inválido")
    bindInteger a.capacityScore
    let stamp := (env.clock 0).iso
    let new : Worker :=
      { workerId := strip a.workerId, host := strip a.host, role, profile,
        capacityScore := a.capacityScore, controllerVersion := a.controllerVersion, rulesSha,
        gatewayOk := a.gatewayOk, stateValidated := a.stateValidated,
        worktreeRoot := a.worktreeRoot, registeredAt := stamp, lastHeartbeatAt := stamp,
        correlationId := strip a.correlationId }
    let merge (old : Worker) : Worker := { new with registeredAt := old.registeredAt }
    return ({ s with workers := Table.upsert Worker.workerId new merge s.workers }, ()))
    (fun _ s' ↦ return .worker (← getWorker a.workerId s')) s

/-- A lane as it is inserted, with the defaults of the columns the statement leaves out. -/
def newLane (repository : String) (enabled : Bool) (maxInFlight : ℤ) (stamp : String) : Lane where
  repository := repository
  enabled := enabled
  maxInFlight := maxInFlight
  builderClaimCount := 0
  validatorClaimCount := 0
  lastBuilderClaimedAt := none
  lastValidatorClaimedAt := none
  updatedAt := stamp

/-- `_ensure_repository_lane`. -/
def ensureRepositoryLane (now : DateTime) (repository : String) (s : Store) : Store :=
  let new := newLane repository true 1 now.iso
  { s with lanes := Table.insertOrIgnore Lane.repository new s.lanes }

structure ConfigureArgs where
  repository : String
  enabled : Bool := true
  maxInFlight : ℤ := 1

def getRepository (repository : String) (s : Store) : Except PoolError Lane := do
  let repository ← validateRepository repository
  orThrow (Table.lookup Lane.repository repository s.lanes) rowMissing

def configureRepository (a : ConfigureArgs) (s : Store) : Store × Except PoolError Reply :=
  transaction (α := String) (do
    let repository ← validateRepository a.repository
    require (¬(a.maxInFlight < 1 ∨ a.maxInFlight > 100)) (.value "max_in_flight inválido")
    let stamp := (env.clock 0).iso
    let new := newLane repository a.enabled a.maxInFlight stamp
    let merge (old : Lane) : Lane :=
      { old with enabled := a.enabled, maxInFlight := a.maxInFlight, updatedAt := stamp }
    return ({ s with lanes := Table.upsert Lane.repository new merge s.lanes }, repository))
    (fun repository s' ↦ return .repository (← getRepository repository s')) s

/-- The loop of `replace_worker_affinities`; the counter numbers the readings of the clock. -/
def insertAffinities (workerId : String) : ℕ → List String → Store → Store
  | _, [], s => s
  | k, repository :: rest, s =>
    let s := ensureRepositoryLane (env.clock k) repository s
    insertAffinities workerId (k + 1) rest
      { s with affinities := s.affinities ++ [⟨workerId, repository⟩] }

def replaceWorkerAffinities (workerId : String) (repositories : List String) (s : Store) :
    Store × Except PoolError Reply :=
  transaction (α := List String) (do
    let _ ← getWorker workerId s
    let checked ← repositories.mapM validateRepository
    let normalized := checked.dedup.insertionSort (· ≤ ·)
    let cleared := { s with affinities := s.affinities.filter fun a ↦ a.workerId ≠ workerId }
    return (insertAffinities env workerId 0 normalized cleared, normalized))
    (fun normalized _ ↦ .ok (.affinities normalized)) s

structure HeartbeatArgs where
  workerId : String
  correlationId : String
  profile : Option String := none
  gatewayOk : Option Bool := none
  stateValidated : Option Bool := none

/-- The write of `heartbeat_worker`, computed from the row it read first. -/
def heartbeatWrite (a : HeartbeatArgs) (current : Worker) (s : Store) :
    Except PoolError Store := do
  let given := if truthy a.profile then a.profile.getD "" else current.profile.text
  let profile ← orThrow (Profile.ofText (H.unicode.upper given)) (.value "profile inválido")
  let merge (old : Worker) : Worker :=
    { old with profile, lastHeartbeatAt := (env.clock 0).iso,
               gatewayOk := a.gatewayOk.getD current.gatewayOk,
               stateValidated := a.stateValidated.getD current.stateValidated,
               correlationId := a.correlationId }
  return { s with workers := Table.update Worker.workerId a.workerId merge s.workers }

def heartbeatWorker (a : HeartbeatArgs) (s : Store) : Store × Except PoolError Reply :=
  transaction (α := Unit) (do
    let current ← getWorker a.workerId s
    let s' ← heartbeatWrite H env a current s
    return (s', ()))
    (fun _ s' ↦ return .worker (← getWorker a.workerId s')) s

/-! ## Enqueueing -/

structure EnqueueArgs where
  repository : String
  issueNumber : ℤ
  requestId : String
  correlationId : String
  priority : ℤ := 100
  baseSha : Option String := none
  maxAttempts : Option ℤ := none
  targetBranch : Option String := none

/-- The condition of `_assert_same_enqueue_intent`; the arguments are stripped there once more. -/
def sameEnqueueIntent (row : Task) (a : EnqueueArgs) (baseSha : Option String) (maxAttempts : ℤ)
    (taskBranch : String) : Bool :=
  H.unicode.casefold (strip row.repository) = H.unicode.casefold (strip (strip a.repository))
    ∧ row.issueNumber = a.issueNumber
    ∧ strip row.requestId = strip (strip a.requestId)
    ∧ row.priority = a.priority
    ∧ (if truthy row.baseSha then row.baseSha.map H.unicode.lower else none) = baseSha
    ∧ row.maxAttempts = maxAttempts
    ∧ row.branch = taskBranch

/-- `INSERT INTO tasks`, with both unique keys enforced. -/
def insertTask (t : Task) (s : Store) : Except PoolError Store := do
  require (∀ t' ∈ s.tasks, t'.taskId ≠ t.taskId) (.integrity .taskPrimaryKey)
  require (∀ t' ∈ s.tasks, t'.idempotencyKey ≠ t.idempotencyKey) (.integrity .taskIdempotencyKey)
  return { s with tasks := s.tasks ++ [t] }

/-- The branch of a new task: the one asked for, validated, or a generated one. -/
def enqueueBranch (a : EnqueueArgs) : Except PoolError String :=
  match a.targetBranch with
  | some value => validateTargetBranch H value
  | none => .ok (branch H a.issueNumber (strip a.requestId))

/-- A task as it is inserted. -/
def newTask (a : EnqueueArgs) (key taskBranch stamp : String) (baseSha : Option String)
    (attempts : ℤ) : Task where
  taskId := taskId key
  repository := strip a.repository
  issueNumber := a.issueNumber
  requestId := strip a.requestId
  idempotencyKey := key
  state := .queued
  priority := a.priority
  branch := taskBranch
  workspaceKey := workspace H (strip a.repository) (taskId key)
  baseSha := baseSha
  producedSha := none
  builderWorkerId := none
  validatorWorkerId := none
  leasedBy := none
  leaseToken := none
  leaseExpiresAt := none
  attemptCount := 0
  maxAttempts := attempts
  blockedReason := none
  lastError := none
  correlationId := strip a.correlationId
  createdAt := stamp
  updatedAt := stamp
  lastMaterialProgressAt := stamp
  completedAt := none

/-- The part of `enqueue_task` inside the transaction. -/
def enqueueWrite (a : EnqueueArgs) (key taskBranch stamp : String) (baseSha : Option String)
    (attempts : ℤ) (s : Store) : Except PoolError (Store × Task × Bool) :=
  let s := ensureRepositoryLane (env.clock 1) (strip a.repository) s
  match Table.lookup Task.idempotencyKey key s.tasks with
  | some row => do
    require (sameEnqueueIntent H row a baseSha attempts taskBranch)
      (.conflict "idempotency_key_reused_with_different_task_intent")
    return (s, row, false)
  | none => do
    bindInteger a.issueNumber
    bindInteger a.priority
    bindInteger attempts
    let row := newTask H a key taskBranch stamp baseSha attempts
    let s ← insertTask row s
    return (s, row, true)

def enqueueTask (a : EnqueueArgs) (s : Store) : Store × Except PoolError Reply :=
  transaction (do
    require (¬(¬contains "/" (strip a.repository) ∨ a.issueNumber < 1 ∨ strip a.requestId = ""
      ∨ strip a.correlationId = "")) (.value "identidade da task inválida")
    let baseSha := if truthy a.baseSha then a.baseSha.map H.unicode.lower else none
    require (truthy baseSha → baseSha.all sha40) (.value "base_sha inválido")
    let taskBranch ← enqueueBranch H a
    let key := identity H (strip a.repository) a.issueNumber (strip a.requestId)
    let stamp := (env.clock 0).iso
    let attempts := orDefault a.maxAttempts cfg.defaultMaxAttempts
    require (¬attempts < 1) (.value "max_attempts inválido")
    enqueueWrite H env a key taskBranch stamp baseSha attempts s)
    (fun r _ ↦ .ok (.enqueued r.1 r.2)) s

/-! ## Readiness -/

/-- The text a timestamp column holds, parsed. -/
def readStamp (text : String) : Except PoolError DateTime :=
  orThrow (DateTime.parseIso text) (.value "Invalid isoformat string")

/-- `SELECT 1 FROM tasks WHERE leased_by = … AND state IN (…)`. -/
def holdsActiveTask (workerId : String) (s : Store) : Bool :=
  s.tasks.any fun t ↦ t.leasedBy = some workerId ∧ t.isActive

/-- `_ready`. -/
def ready (now : DateTime) (workerId : String) (role : Role) (s : Store) :
    Except PoolError Worker := do
  let w ← orThrow (Table.lookup Worker.workerId workerId s.workers)
    (.notFound ("worker não encontrado: " ++ workerId))
  require (w.role = role)
    (.conflict ("worker " ++ workerId ++ " não possui role " ++ role.text))
  require (w.profile = .normal)
    (.conflict ("worker " ++ workerId ++ " está em profile " ++ w.profile.text))
  require (w.gatewayOk ∧ w.stateValidated) (.conflict "worker não está governado/pronto")
  require (cfg.expectedRulesSha = none ∨ w.rulesSha = cfg.expectedRulesSha)
    (.conflict "worker rules_sha divergente")
  let heartbeat ← readStamp w.lastHeartbeatAt
  require (¬(cfg.heartbeatTtlSeconds : ℚ) < DateTime.elapsed now heartbeat)
    (.conflict "worker está offline/stale")
  require (¬holdsActiveTask workerId s) (.conflict "worker já possui task ativa")
  return w

/-! ## Recovery -/

/-- `_quarantine`. -/
def quarantineTask (row : Task) (reason stamp : String) (s : Store) : Store :=
  { s with quarantine := s.quarantine ++
      [{ taskId := row.taskId, idempotencyKey := row.idempotencyKey,
         correlationId := row.correlationId, attemptCount := row.attemptCount,
         reason := sanitize H reason, quarantinedAt := stamp }] }

/-- `row["attempt_count"] >= row["max_attempts"]`. -/
def Task.exhausted (t : Task) : Bool := t.maxAttempts ≤ t.attemptCount

/-- `"validating" if row["produced_sha"] else "queued"`. -/
def Task.resumeState (t : Task) : TaskState := if truthy t.producedSha then .validating else .queued

/-- The condition of the scan of expired leases. -/
def expiredAt (stamp : String) (t : Task) : Bool :=
  t.isActive && t.leaseExpiresAt.any fun e ↦ e ≤ stamp

/-- The rows the scan of expired leases returns. -/
def expiredRows (now : DateTime) (s : Store) : List Task :=
  env.expiredOrder (s.tasks.filter (expiredAt now.iso))

/-- The body of the loop of `_recover`. -/
def recoverRow (stamp : String) (s : Store) (row : Task) : Except PoolError Store :=
  let s := if row.exhausted then quarantineTask H row "lease_expired_max_attempts" stamp s else s
  let state := if row.exhausted then .failed else row.resumeState
  updateTask row.taskId (fun t ↦
    { t with state, leasedBy := none, leaseToken := none, leaseExpiresAt := none,
             lastError := some "lease_expired_recovered", updatedAt := stamp }) s

/-- `_recover`. -/
def recover (now : DateTime) (s : Store) : Except PoolError (Store × ℕ) := do
  let s' ← (expiredRows env now s).foldlM (recoverRow H now.iso) s
  return (s', (expiredRows env now s).length)

/-- The repositories a worker is tied to. -/
def affinitiesOf (workerId : String) (s : Store) : List String :=
  (s.affinities.filter fun a ↦ a.workerId = workerId).map Affinity.repository

/-- `NOT EXISTS(affinity) OR EXISTS(affinity for the repository)`. -/
def affinityAllows (workerId repository : String) (s : Store) : Bool :=
  (affinitiesOf workerId s).isEmpty || repository ∈ affinitiesOf workerId s

/-- `_worker_is_alternative`. -/
def workerIsAlternative (row : Task) (worker : Worker) (s : Store) : Except PoolError Bool :=
  let role := if truthy row.producedSha then Role.validator else Role.builder
  if some worker.workerId = row.leasedBy then .ok false
  else if worker.role ≠ role ∨ worker.profile ≠ .normal then .ok false
  else if ¬(worker.gatewayOk ∧ worker.stateValidated) then .ok false
  else if ¬(cfg.expectedRulesSha = none ∨ worker.rulesSha = cfg.expectedRulesSha) then .ok false
  else do
    let heartbeat ← readStamp worker.lastHeartbeatAt
    let now := env.alternativeClock row.taskId worker.workerId
    return ¬(cfg.heartbeatTtlSeconds : ℚ) < DateTime.elapsed now heartbeat
      ∧ ¬holdsActiveTask worker.workerId s ∧ affinityAllows worker.workerId row.repository s

/-- `any(self._worker_is_alternative(…) for worker in workers)`. -/
def anyAlternative (row : Task) (s : Store) : List Worker → Except PoolError Bool
  | [] => .ok false
  | w :: ws => do
    if ← workerIsAlternative cfg env row w s then return true else anyAlternative row s ws

/-- The condition of the scan of stalled tasks. -/
def stalledAt (cutoff : String) (t : Task) : Bool :=
  t.isActive && decide (t.lastMaterialProgressAt ≤ cutoff)

/-- The rows the scan of stalled tasks returns. -/
def stalledRows (now : DateTime) (s : Store) : Except PoolError (List Task) := do
  let cutoff ← orThrow (now.addSeconds (-cfg.progressStallSeconds)) .overflow
  return env.stalledOrder (s.tasks.filter (stalledAt cutoff.iso))

/-- The body of the loop of `_recover_stalled`. -/
def recoverStalledRow (stamp : String) (workers : List Worker) (acc : Store × StallCounts)
    (row : Task) : Except PoolError (Store × StallCounts) := do
  let write (state : TaskState) (blockedReason : Option String) (lastError : String) (s : Store) :=
    updateTask row.taskId (fun t ↦
      { t with state, leasedBy := none, leaseToken := none, leaseExpiresAt := none,
               blockedReason, lastError := some lastError, updatedAt := stamp }) s
  let (s, n) := acc
  if row.exhausted then
    let s := quarantineTask H row "material_progress_timeout_max_attempts" stamp s
    let s ← write .failed none "material_progress_timeout_max_attempts" s
    return (s, { n with failed := n.failed + 1 })
  else if ← anyAlternative cfg env row s workers then
    let s ← write row.resumeState none "material_progress_timeout_rerouted" s
    return (s, { n with rerouted := n.rerouted + 1 })
  else
    let s ← write .blocked (some "material_progress_timeout_no_alternative")
      "material_progress_timeout_no_alternative" s
    return (s, { n with blocked := n.blocked + 1 })

/-- `_recover_stalled`. -/
def recoverStalled (now : DateTime) (s : Store) : Except PoolError (Store × StallCounts) := do
  let rows ← stalledRows cfg env now s
  rows.foldlM (recoverStalledRow H cfg env now.iso s.workers) (s, ⟨0, 0, 0⟩)

def recoverExpiredLeases (s : Store) : Store × Except PoolError Reply :=
  transaction (recover H env (env.clock 0) s) (fun n _ ↦ .ok (.recovered n)) s

def recoverStalledTasks (s : Store) : Store × Except PoolError Reply :=
  transaction (recoverStalled H cfg env (env.clock 0) s) (fun n _ ↦ .ok (.stalled n)) s

/-! ## Claiming -/

structure ClaimArgs where
  workerId : String
  role : String
  correlationId : String
  leaseSeconds : Option ℤ := none

/-- `SELECT COUNT(*) FROM tasks` of a repository in an active state. -/
def activeCount (repository : String) (tasks : List Task) : ℕ :=
  tasks.countP fun t ↦ t.repository = repository ∧ t.isActive

/-- `tasks JOIN repository_lanes`. -/
def tasksWithLane (s : Store) : List (Task × Lane) :=
  s.tasks.filterMap fun t ↦ (Table.lookup Lane.repository t.repository s.lanes).map (t, ·)

/-- The `WHERE` of the builder's query. -/
def builderEligible (workerId : String) (s : Store) (c : Task × Lane) : Bool :=
  c.1.state = .queued ∧ c.2.enabled ∧ affinityAllows workerId c.1.repository s
    ∧ (activeCount c.1.repository s.tasks : ℤ) < c.2.maxInFlight

/-- The `WHERE` of the validator's query. -/
def validatorEligible (workerId : String) (s : Store) (c : Task × Lane) : Bool :=
  c.1.state = .validating ∧ c.1.leasedBy = none ∧ c.1.producedSha ≠ none
    ∧ c.1.builderWorkerId ≠ some workerId ∧ affinityAllows workerId c.1.repository s

/-- The order of the lanes: by count of claims, then lanes never claimed from, then by time. -/
def laneOrder (count : Lane → ℕ) (last : Lane → Option String) (a b : Lane) : Ordering :=
  (compare (count a) (count b)).then <|
    (compare (last a).isSome.toNat (last b).isSome.toNat).then <|
      compare ((last a).getD "") ((last b).getD "")

/-- The builder's `ORDER BY`. -/
def builderOrder (a b : Task × Lane) : Bool :=
  ((laneOrder Lane.builderClaimCount Lane.lastBuilderClaimedAt a.2 b.2).then <|
    (compare a.1.priority b.1.priority).then <|
      (compare a.1.createdAt b.1.createdAt).then (compare a.1.taskId b.1.taskId)).isLE

/-- The validator's `ORDER BY`. -/
def validatorOrder (a b : Task × Lane) : Bool :=
  ((laneOrder Lane.validatorClaimCount Lane.lastValidatorClaimedAt a.2 b.2).then <|
    (compare a.1.priority b.1.priority).then <|
      (compare a.1.updatedAt b.1.updatedAt).then (compare a.1.taskId b.1.taskId)).isLE

/-- The query of `claim_task`. -/
def selectTask (role : Role) (workerId : String) (s : Store) : Option Task :=
  match role with
  | .builder =>
    (Table.least builderOrder ((tasksWithLane s).filter (builderEligible workerId s))).map Prod.fst
  | .validator =>
    (Table.least validatorOrder
      ((tasksWithLane s).filter (validatorEligible workerId s))).map Prod.fst

/-- `(wanted, next_state)`. -/
def claimStates : Role → TaskState × TaskState
  | .builder => (.queued, .leased)
  | .validator => (.validating, .validating)

/-- The counters of the lane after a claim. -/
def bumpLane (role : Role) (stamp : String) (r : Lane) : Lane :=
  match role with
  | .builder => { r with lastBuilderClaimedAt := some stamp,
                         builderClaimCount := r.builderClaimCount + 1, updatedAt := stamp }
  | .validator => { r with lastValidatorClaimedAt := some stamp,
                           validatorClaimCount := r.validatorClaimCount + 1, updatedAt := stamp }

/-- `UPDATE tasks … WHERE task_id = … AND state = … AND leased_by IS NULL`, which has to change
one row, then the counters of the lane. -/
def grantLease (a : ClaimArgs) (role : Role) (row : Task) (expires stamp : String) (s : Store) :
    Except PoolError Store := do
  let t ← orThrow (s.tasks.find? fun t ↦ t.taskId = row.taskId ∧ t.state = (claimStates role).1
    ∧ t.leasedBy = none) (.conflict "task adquirida concorrentemente")
  let validator := if role = .validator then some a.workerId else row.validatorWorkerId
  let s ← writeTask
    { t with state := (claimStates role).2, leasedBy := some a.workerId,
             leaseToken := some env.token, leaseExpiresAt := some expires,
             attemptCount := t.attemptCount + 1, validatorWorkerId := validator,
             correlationId := a.correlationId, updatedAt := stamp,
             lastMaterialProgressAt := stamp } s
  return { s with lanes := Table.update Lane.repository row.repository (bumpLane role stamp)
                    s.lanes }

def claimTask (a : ClaimArgs) (s : Store) : Store × Except PoolError Reply :=
  transaction (α := Option (String × Lease)) (do
    let ttl := orDefault a.leaseSeconds cfg.defaultLeaseSeconds
    let role ← orThrow (Role.ofText (H.unicode.lower a.role)) (.value "role/lease inválido")
    require (¬ttl < 1) (.value "role/lease inválido")
    let now := env.clock 0
    let stamp := (env.clock 1).iso
    let (s, _) ← recover H env (env.clock 2) s
    let (s, _) ← recoverStalled H cfg env (env.clock 3) s
    let _ ← ready cfg (env.clock 4) a.workerId role s
    match selectTask role a.workerId s with
    | none => return (s, none)
    | some row =>
      let expires ← orThrow (now.addSeconds ttl) .overflow
      let s ← grantLease env a role row expires.iso stamp s
      return (s, some (row.taskId, ⟨row.taskId, env.token, a.workerId, role, expires.iso⟩)))
    (fun r s' ↦ match r with
      | none => .ok (.claimed none)
      | some (tid, l) => return .claimed (some (← getTask tid s', l))) s

/-! ## The operations of a lease holder -/

/-- The check of `_lease` on the expiry column. -/
def leaseExpired (now : DateTime) (row : Task) : Except PoolError Bool :=
  match row.leaseExpiresAt with
  | none => .ok true
  | some e => if e = "" then .ok true else do return (← readStamp e) ≤ now

/-- `_lease`. -/
def leaseRow (now : DateTime) (tid worker token : String) (allowed : List TaskState) (s : Store) :
    Except PoolError Task := do
  let row ← orThrow (Table.lookup Task.taskId tid s.tasks)
    (.notFound ("task não encontrada: " ++ tid))
  require (row.state ∈ allowed) (.conflict ("estado inválido: " ++ row.state.text))
  require (row.leasedBy = some worker ∧ row.leaseToken = some token) (.conflict "lease inválido")
  let expired ← leaseExpired now row
  require (expired = false) (.conflict "lease expirado")
  return row

/-- What every call of a lease holder carries. -/
structure LeaseArgs where
  taskId : String
  workerId : String
  leaseToken : String
  correlationId : String

def renewLease (a : LeaseArgs) (leaseSeconds : Option ℤ) (s : Store) :
    Store × Except PoolError Reply :=
  transaction (α := Unit) (do
    let expires ← orThrow
      ((env.clock 0).addSeconds (orDefault leaseSeconds cfg.defaultLeaseSeconds)) .overflow
    let _ ← leaseRow (env.clock 1) a.taskId a.workerId a.leaseToken TaskState.active s
    let s ← updateTask a.taskId (fun t ↦
      { t with leaseExpiresAt := some expires.iso, correlationId := a.correlationId,
               updatedAt := (env.clock 2).iso }) s
    return (s, ()))
    (fun _ ↦ answerTask a.taskId) s

def startTask (a : LeaseArgs) (s : Store) : Store × Except PoolError Reply :=
  transaction (α := Unit) (do
    let _ ← leaseRow (env.clock 0) a.taskId a.workerId a.leaseToken [.leased] s
    let w ← getWorker a.workerId s
    require (w.role = .builder) (.conflict "somente Builder pode iniciar task")
    let stamp := (env.clock 1).iso
    let s ← updateTask a.taskId (fun t ↦
      { t with state := .running, builderWorkerId := some a.workerId,
               correlationId := a.correlationId, updatedAt := stamp,
               lastMaterialProgressAt := stamp }) s
    return (s, ()))
    (fun _ ↦ answerTask a.taskId) s

def submitForValidation (a : LeaseArgs) (producedSha : String) (s : Store) :
    Store × Except PoolError Reply :=
  transaction (α := Unit) (do
    let producedSha := H.unicode.lower producedSha
    require (sha40 producedSha) (.value "produced_sha inválido")
    let row ← leaseRow (env.clock 0) a.taskId a.workerId a.leaseToken [.running] s
    require (row.builderWorkerId = some a.workerId) (.conflict "builder divergente")
    let stamp := (env.clock 1).iso
    let s ← updateTask a.taskId (fun t ↦
      { t with state := .validating, producedSha := some producedSha, leasedBy := none,
               leaseToken := none, leaseExpiresAt := none, correlationId := a.correlationId,
               updatedAt := stamp, lastMaterialProgressAt := stamp }) s
    return (s, ()))
    (fun _ ↦ answerTask a.taskId) s

def completeTask (a : LeaseArgs) (s : Store) : Store × Except PoolError Reply :=
  transaction (α := Unit) (do
    let row ← leaseRow (env.clock 0) a.taskId a.workerId a.leaseToken [.validating] s
    let w ← getWorker a.workerId s
    require (¬(w.role ≠ .validator ∨ row.builderWorkerId = some a.workerId))
      (.conflict "Validator independente obrigatório")
    require (truthy row.producedSha) (.conflict "task sem produced_sha")
    let stamp := (env.clock 1).iso
    let s ← updateTask a.taskId (fun t ↦
      { t with state := .completed, leasedBy := none, leaseToken := none, leaseExpiresAt := none,
               correlationId := a.correlationId, updatedAt := stamp, completedAt := some stamp,
               lastMaterialProgressAt := stamp }) s
    return (s, ()))
    (fun _ ↦ answerTask a.taskId) s

def failTask (a : LeaseArgs) (reason : String) (s : Store) : Store × Except PoolError Reply :=
  transaction (α := Unit) (do
    let cleaned := sanitize H (strip reason)
    let reason := if cleaned = "" then "worker_failure" else cleaned
    let stamp := (env.clock 0).iso
    let row ← leaseRow (env.clock 1) a.taskId a.workerId a.leaseToken TaskState.active s
    let s := if row.exhausted then quarantineTask H row reason stamp s else s
    let state := if row.exhausted then .failed else row.resumeState
    let s ← updateTask a.taskId (fun t ↦
      { t with state, leasedBy := none, leaseToken := none, leaseExpiresAt := none,
               lastError := some reason, correlationId := a.correlationId, updatedAt := stamp }) s
    return (s, ()))
    (fun _ ↦ answerTask a.taskId) s

def blockTask (a : LeaseArgs) (reason : String) (s : Store) : Store × Except PoolError Reply :=
  transaction (α := Unit) (do
    let reason := sanitize H (strip reason)
    require (reason ≠ "") (.value "reason obrigatório")
    let _ ← leaseRow (env.clock 0) a.taskId a.workerId a.leaseToken TaskState.active s
    let stamp := (env.clock 1).iso
    let s ← updateTask a.taskId (fun t ↦
      { t with state := .blocked, leasedBy := none, leaseToken := none, leaseExpiresAt := none,
               blockedReason := some reason, correlationId := a.correlationId, updatedAt := stamp,
               lastMaterialProgressAt := stamp }) s
    return (s, ()))
    (fun _ ↦ answerTask a.taskId) s

def requeueBlocked (tid correlationId : String) (s : Store) : Store × Except PoolError Reply :=
  transaction (α := Unit) (do
    let row ← orThrow (Table.lookup Task.taskId tid s.tasks)
      (.notFound ("task não encontrada: " ++ tid))
    require (row.state = .blocked) (.conflict "somente task bloqueada pode ser reenfileirada")
    let stamp := (env.clock 0).iso
    let s ← updateTask tid (fun t ↦
      { t with state := row.resumeState, blockedReason := none, correlationId, updatedAt := stamp,
               lastMaterialProgressAt := stamp }) s
    return (s, ()))
    (fun _ ↦ answerTask tid) s

/-! ## The snapshot of a task -/

/-- `progress_age` of the snapshot. -/
def progressAge (now : DateTime) (row : Task) : Except PoolError ℚ := do
  return max 0 (DateTime.elapsed now (← readStamp row.lastMaterialProgressAt))

/-- `progress_stalled` of the snapshot. -/
def progressStalled (now : DateTime) (row : Task) : Except PoolError Bool := do
  let age ← progressAge now row
  return row.isActive ∧ (cfg.progressStallSeconds : ℚ) ≤ age

/-! ## The system -/

/-- The calls a client can make. -/
inductive Op
  | registerWorker (a : RegisterArgs)
  | heartbeatWorker (a : HeartbeatArgs)
  | configureRepository (a : ConfigureArgs)
  | replaceWorkerAffinities (workerId : String) (repositories : List String)
  | enqueueTask (a : EnqueueArgs)
  | claimTask (a : ClaimArgs)
  | renewLease (a : LeaseArgs) (leaseSeconds : Option ℤ)
  | startTask (a : LeaseArgs)
  | submitForValidation (a : LeaseArgs) (producedSha : String)
  | completeTask (a : LeaseArgs)
  | failTask (a : LeaseArgs) (reason : String)
  | blockTask (a : LeaseArgs) (reason : String)
  | requeueBlocked (tid correlationId : String)
  | recoverExpiredLeases
  | recoverStalledTasks

/-- A call together with its surroundings. -/
structure Call where
  op : Op
  env : Env

/-- Run one call. -/
def exec (c : Call) (s : Store) : Store × Except PoolError Reply :=
  match c.op with
  | .registerWorker a => WorkerPool.registerWorker H c.env a s
  | .heartbeatWorker a => WorkerPool.heartbeatWorker H c.env a s
  | .configureRepository a => WorkerPool.configureRepository c.env a s
  | .replaceWorkerAffinities w rs => WorkerPool.replaceWorkerAffinities c.env w rs s
  | .enqueueTask a => WorkerPool.enqueueTask H cfg c.env a s
  | .claimTask a => WorkerPool.claimTask H cfg c.env a s
  | .renewLease a n => WorkerPool.renewLease cfg c.env a n s
  | .startTask a => WorkerPool.startTask c.env a s
  | .submitForValidation a sha => WorkerPool.submitForValidation H c.env a sha s
  | .completeTask a => WorkerPool.completeTask c.env a s
  | .failTask a reason => WorkerPool.failTask H c.env a reason s
  | .blockTask a reason => WorkerPool.blockTask H c.env a reason s
  | .requeueBlocked tid corr => WorkerPool.requeueBlocked c.env tid corr s
  | .recoverExpiredLeases => WorkerPool.recoverExpiredLeases H c.env s
  | .recoverStalledTasks => WorkerPool.recoverStalledTasks H cfg c.env s

/-- Any sequence of calls on an empty database. -/
def system : TransitionSystem Store (Call × Except PoolError Reply) :=
  TransitionSystem.ofExec Store.empty (exec H cfg)

/-! ## A small pool

A builder `b`, a validator `v` and up to two tasks of one repository, with the digests of their
identities. -/

def sampleHost : Host where
  unicode := Unicode.ascii
  sha256Hex text :=
    ([("org/repo|1|r1", "02358236bffbd9fa10aea4185d398f20a79afac40d63b64c63e7658ef334dca7"),
      ("r1", "82f3e9c695dc6b8d1b11818d5701919e286de8d47f7c3eb3100c485f79e57828"),
      ("org/repo|cwp-02358236bffbd9fa10aea418",
        "6b526f10fdfd2cc1e462be1d9655cc39b1f1a3909a81b9810500a9ae3a93186b"),
      ("org/repo|2|r2", "fa93e54ca0ff007aba818e68a6179dd7ab7c49dcd5232eca1cfdde00cd0bfeeb"),
      ("r2", "db77fd01af957221a4989b64b3770a83a3c56068405b9f0e9408feae57fd17e4"),
      ("org/repo|cwp-fa93e54ca0ff007aba818e68",
        "66ee39ae83b76c6027c8277e56d476b83a7eaa9e26d7068b00a1325e1f5edd5f")].lookup text).getD ""

def firstTask : String := "cwp-02358236bffbd9fa10aea418"

def secondTask : String := "cwp-fa93e54ca0ff007aba818e68"

/-- The defaults of `__init__`. -/
def sampleConfig : Config where
  heartbeatTtlSeconds := 90
  defaultLeaseSeconds := 120
  defaultMaxAttempts := 3
  progressStallSeconds := 900
  expectedRulesSha := none
  heartbeatTtl_pos := by decide
  defaultLease_pos := by decide
  defaultMaxAttempts_pos := Nat.succ_pos 2
  progressStall_pos := by decide
  expectedRulesSha_hex := nofun

/-- Some minutes and microseconds after noon of the first of January 2026. -/
def afterNoon (minute microsecond : ℕ) (hminute : minute < 60 := by decide)
    (hmicrosecond : microsecond < 1000000 := by decide) : DateTime :=
  { DateTime.newYearNoon with
    minute := minute
    microsecond := microsecond
    minute_lt := hminute
    microsecond_lt := hmicrosecond }

/-- Every reading of the clock is noon, and scans return rows in insertion order. -/
def sampleEnv (token : String) : Env where
  clock _ := .newYearNoon
  alternativeClock _ _ := .newYearNoon
  token := token
  expiredOrder := id
  expiredOrder_perm := List.Perm.refl
  stalledOrder := id
  stalledOrder_perm := List.Perm.refl

/-- A call of the small pool. -/
def sampleCall (op : Op) (token : String := "") : Call := ⟨op, sampleEnv token⟩

/-- The registration of a governed worker. -/
def sampleWorker (workerId role : String) : RegisterArgs where
  workerId := workerId
  host := "host"
  role := role
  correlationId := "c"
  gatewayOk := true
  stateValidated := true

/-- A task of the sample repository. -/
def sampleEnqueue (issueNumber : ℤ) (requestId : String) : EnqueueArgs where
  repository := "org/repo"
  issueNumber := issueNumber
  requestId := requestId
  correlationId := "c"

/-- Register both workers and enqueue the first task. -/
def setupCalls : List Call :=
  [sampleCall (.registerWorker (sampleWorker "b" "builder")),
   sampleCall (.registerWorker (sampleWorker "v" "validator")),
   sampleCall (.enqueueTask (sampleEnqueue 1 "r1"))]

/-- The builder claims, starts and submits the first task. -/
def buildCalls (producedSha : String) : List Call :=
  [sampleCall (.claimTask { workerId := "b", role := "builder", correlationId := "c" }) "token-1",
   sampleCall (.startTask ⟨firstTask, "b", "token-1", "c"⟩),
   sampleCall (.submitForValidation ⟨firstTask, "b", "token-1", "c"⟩ producedSha)]

/-- The validator claims the first task. -/
def validatorClaim : Call :=
  sampleCall (.claimTask { workerId := "v", role := "validator", correlationId := "c" }) "token-2"

/-- The hand-off of one task from the builder to the validator. -/
def handoffCalls (producedSha : String) : List Call :=
  setupCalls ++ buildCalls producedSha
    ++ [validatorClaim, sampleCall (.completeTask ⟨firstTask, "v", "token-2", "c"⟩)]

/-- The trace and the final database of a list of calls on an empty database. -/
def sampleRun (calls : List Call) : List (Call × Except PoolError Reply) × Store :=
  TransitionSystem.runCalls (exec sampleHost sampleConfig) calls Store.empty

theorem run_sampleRun (calls : List Call) :
    (system sampleHost sampleConfig).Run (sampleRun calls).1 (sampleRun calls).2 :=
  TransitionSystem.run_runCalls Store.empty (exec sampleHost sampleConfig) calls

end WorkerPool

end ReqSys
