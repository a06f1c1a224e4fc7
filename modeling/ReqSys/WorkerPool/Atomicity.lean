import Mathlib
import ReqSys.WorkerPool.Watchdog
import ReqSys.WorkerPool.Expiry

/-!
# The worker pool: calls that raise

Everything a call writes is written inside one transaction, so a call that raises there changes
nothing. But several calls read back after the commit, and what they read back can be missing.

It never is, with one exception: `register_worker` writes its row under the stripped name and reads
it back under the name as given. With blanks around the name the worker is registered and the call
raises `NotFoundError`. `error_atomicity_iff` says that there is no other such call, among the writes
of the store, its reads and `snapshot`, which runs two transactions before it reads.
-/

namespace ReqSys

namespace WorkerPool

open PyText

variable {H : Host} {cfg : Config} {env : Env} {s s' : Store} {r : Except PoolError Reply}

/-! ## Reads -/

def workerAffinities (workerId : String) (s : Store) : Except PoolError Reply := do
  let _ ← getWorker workerId s
  return .affinities ((affinitiesOf workerId s).mergeSort (· ≤ ·))

/-- `ORDER BY id DESC`. -/
def listQuarantine (s : Store) : List QuarantineRow := s.quarantine.reverse

/-! ## The snapshot -/

/-- A worker in the snapshot; the age is shown unrounded. -/
structure WorkerView where
  row : Worker
  online : Bool
  heartbeatAge : ℚ
  activeTask : Option String
  activeSha : Option String
  repositoryAffinity : List String
  whyIdle : Option String

/-- A task in the snapshot, without its lease token; the age is shown unrounded. -/
structure TaskView where
  row : Task
  progressAge : ℚ
  progressStalled : Bool

/-- A repository in the snapshot. -/
structure RepositoryView where
  row : Lane
  queued : ℕ
  active : ℕ

structure Snapshot where
  generatedAt : String
  workers : List WorkerView
  repositories : List RepositoryView
  queue : TaskState → ℕ
  quarantineCount : ℕ
  tasks : List TaskView

/-- Compare by one key and then by the next. -/
def lexLe {κ μ : Type} [LT κ] [DecidableLT κ] [LT μ] [DecidableLT μ] (a b : κ × μ) : Bool :=
  a.1 < b.1 || (!decide (b.1 < a.1) && !decide (b.2 < a.2))

/-- The rows of `SELECT * FROM tasks WHERE state<>'completed'`. -/
def openTasks (s : Store) : List Task :=
  (s.tasks.filter fun t ↦ t.state ≠ .completed).mergeSort fun t t' ↦
    t.priority < t'.priority || (t.priority = t'.priority
      && lexLe (t.createdAt, t.taskId) (t'.createdAt, t'.taskId))

/-- `why_idle`. -/
def whyIdle (s : Store) (w : Worker) (online : Bool) (task : Option Task) : Option String :=
  if !online then some "offline_or_stale"
  else if w.profile = .estudo then some "profile_estudo"
  else if ¬(w.gatewayOk ∧ w.stateValidated) then some "governance_not_ready"
  else if task.isSome then none
  else if w.role = .builder ∧ s.tasks.countP (·.state = .queued) = 0 then some "no_queued_work"
  else if w.role = .validator ∧ s.tasks.countP (·.state = .validating) = 0 then
    some "no_validation_work"
  else some "available"

def workerView (cfg : Config) (now : DateTime) (s : Store) (w : Worker) :
    Except PoolError WorkerView := do
  let age := max 0 (DateTime.elapsed now (← readStamp w.lastHeartbeatAt))
  let online : Bool := age ≤ cfg.heartbeatTtlSeconds
  -- the last task of a holder replaces the others in the dictionary
  let task := ((openTasks s).filter fun t ↦ truthy t.leasedBy
    ∧ t.leasedBy = some w.workerId).getLast?
  return { row := w, online, heartbeatAge := age, activeTask := task.map Task.taskId,
           activeSha := task.bind Task.producedSha,
           repositoryAffinity := (affinitiesOf w.workerId s).mergeSort (· ≤ ·),
           whyIdle := WorkerPool.whyIdle s w online task }

def taskView (cfg : Config) (now : DateTime) (t : Task) : Except PoolError TaskView := do
  return ⟨t, ← progressAge now t, ← progressStalled cfg now t⟩

def repositoryView (s : Store) (lane : Lane) : RepositoryView where
  row := lane
  queued := s.tasks.countP fun t ↦ t.repository = lane.repository ∧ t.state = .queued
  active := s.tasks.countP fun t ↦ t.repository = lane.repository ∧ t.isActive

/-- What `snapshot` reads after its two transactions. -/
def snapshotView (cfg : Config) (now : DateTime) (s : Store) : Except PoolError Snapshot := do
  let workers ← (s.workers.mergeSort fun w w' ↦
    lexLe (w.host, w.workerId) (w'.host, w'.workerId)).mapM (workerView cfg now s)
  let tasks ← (openTasks s).mapM (taskView cfg now)
  return { generatedAt := now.iso, workers,
           repositories := (s.lanes.mergeSort fun l l' ↦ l.repository ≤ l'.repository).map
             (repositoryView s),
           queue := fun st ↦ s.tasks.countP (·.state = st),
           quarantineCount := s.quarantine.length, tasks }

/-- `snapshot`; it runs two transactions and then reads, each with surroundings of its own. -/
def snapshot (H : Host) (cfg : Config) (envs : ℕ → Env) (s : Store) :
    Store × Except PoolError Snapshot :=
  match recoverExpiredLeases H (envs 0) s with
  | (s₁, .error e) => (s₁, .error e)
  | (s₁, .ok _) =>
    match recoverStalledTasks H cfg (envs 1) s₁ with
    | (s₂, .error e) => (s₂, .error e)
    | (s₂, .ok _) => (s₂, snapshotView cfg ((envs 2).clock 0) s₂)

/-! ## Public calls -/

/-- The public methods: those that write, those that read, and `snapshot`. -/
inductive PublicOp
  | write (op : Op)
  | getWorker (workerId : String)
  | getRepository (repository : String)
  | workerAffinities (workerId : String)
  | getTask (tid : String)
  | listQuarantine
  | snapshot

/-- What a public method returns. -/
inductive PublicReply
  | reply (r : Reply)
  | quarantine (rows : List QuarantineRow)
  | snapshot (view : Snapshot)

/-- A public call, with the surroundings of each of its transactions. -/
structure PublicCall where
  op : PublicOp
  env : ℕ → Env

/-- Run a public call. -/
def PublicCall.run (H : Host) (cfg : Config) (c : PublicCall) (s : Store) :
    Store × Except PoolError PublicReply :=
  match c.op with
  | .write op =>
    let (s', r) := exec H cfg ⟨op, c.env 0⟩ s
    (s', r.map .reply)
  | .getWorker workerId => (s, (WorkerPool.getWorker workerId s).map fun w ↦ .reply (.worker w))
  | .getRepository repository =>
    (s, (WorkerPool.getRepository repository s).map fun l ↦ .reply (.repository l))
  | .workerAffinities workerId => (s, (WorkerPool.workerAffinities workerId s).map .reply)
  | .getTask tid => (s, (answerTask tid s).map .reply)
  | .listQuarantine => (s, .ok (.quarantine (WorkerPool.listQuarantine s)))
  | .snapshot =>
    let (s', r) := WorkerPool.snapshot H cfg c.env s
    (s', r.map .snapshot)

/-- Any sequence of public calls on an empty database. -/
def publicSystem (H : Host) (cfg : Config) :
    TransitionSystem Store (PublicCall × Except PoolError PublicReply) :=
  TransitionSystem.ofExec Store.empty (PublicCall.run H cfg)

/-- The errors of the service: `ValueError`, `NotFoundError` and `ConflictError`. -/
def PoolError.Declared : PoolError → Prop
  | .value _ | .notFound _ | .conflict _ => True
  | .integrity _ | .overflow => False

/-! ## Runs of public calls -/

/-- The calls of the store reach what the public calls reach. -/
theorem PublicCall.run_reachable {tr : List (Call × Except PoolError Reply)}
    (h : (system H cfg).Run tr s) (c : PublicCall) :
    ∃ tr', (system H cfg).Run tr' (c.run H cfg s).1 := by
  have hexec : ∀ {tr u} c', (system H cfg).Run tr u →
      ∃ tr', (system H cfg).Run tr' (exec H cfg c' u).1 := fun c' hu ↦
    ⟨_, hu.snoc (a := (c', (exec H cfg c' _).2)) rfl⟩
  obtain ⟨op, envs⟩ := c
  cases op with
  | write op => exact hexec ⟨op, envs 0⟩ h
  | snapshot =>
    obtain ⟨tr₁, h₁⟩ := hexec ⟨.recoverExpiredLeases, envs 0⟩ h
    change ∃ tr', (system H cfg).Run tr' (snapshot H cfg envs s).1
    rw [snapshot]
    change (system H cfg).Run tr₁ (recoverExpiredLeases H (envs 0) s).1 at h₁
    split
    next s₁ e heq =>
      rw [heq] at h₁
      exact ⟨tr₁, h₁⟩
    next s₁ _ heq =>
      rw [heq] at h₁
      obtain ⟨tr₂, h₂⟩ := hexec ⟨.recoverStalledTasks, envs 1⟩ h₁
      change (system H cfg).Run tr₂ (recoverStalledTasks H cfg (envs 1) s₁).1 at h₂
      split
      next s₂ e heq' =>
        rw [heq'] at h₂
        exact ⟨tr₂, h₂⟩
      next s₂ _ heq' =>
        rw [heq'] at h₂
        exact ⟨tr₂, h₂⟩
  | _ => exact ⟨tr, h⟩

theorem exists_run_of_public {tr : List (PublicCall × Except PoolError PublicReply)}
    (h : (publicSystem H cfg).Run tr s) : ∃ tr', (system H cfg).Run tr' s := by
  refine h.invariant (I := fun u ↦ ∃ tr', (system H cfg).Run tr' u) ?_ ?_
  · rintro u rfl
    exact ⟨[], TransitionSystem.Run.start rfl⟩
  · rintro u ⟨c, r⟩ v ⟨tr', hu⟩ hrun
    have hv := PublicCall.run_reachable hu c
    rwa [show c.run H cfg u = (v, r) from hrun] at hv

/-! ## Answers after a commit -/

/-- A call returns, or it changed nothing. -/
def Answered (s s' : Store) (r : Except PoolError Reply) : Prop :=
  (∃ reply, r = .ok reply) ∨ s' = s

theorem LeaseOutcome.answered {act : Act} {a : LeaseArgs} (hk : Table.Keyed Task.taskId s.tasks)
    (h : LeaseOutcome H act a s s' r) : Answered s s' r := by
  rcases h with ⟨⟨row, t', quarantined, hrow, -, hchange, -, rfl⟩, hr⟩ | ⟨rfl, -⟩
  · exact Or.inl ⟨_, hr.trans (answerTask_update hk hrow rfl hchange.identity_eq.1)⟩
  · exact Or.inr rfl

/-- The answer of a call that reads nothing back. -/
theorem transaction_answered {α : Type} {body : Except PoolError (Store × α)}
    {answer : α → Store → Reply}
    (h : transaction body (fun a u ↦ .ok (answer a u)) s = (s', r)) : Answered s s' r := by
  rcases transaction_cases h with ⟨a, -, hr⟩ | ⟨rfl, -⟩
  · exact Or.inl ⟨_, hr⟩
  · exact Or.inr rfl

/-- A worker that was read is found again after an update of its row. -/
theorem getWorker_update {workerId : String} {current : Worker}
    (h : getWorker workerId s = .ok current) (merge : Worker → Worker)
    (hmerge : ∀ w, (merge w).workerId = w.workerId) : ∃ w, getWorker workerId
      { s with workers := Table.update Worker.workerId workerId merge s.workers } = .ok w := by
  refine ⟨merge current, orThrow_eq_ok.mpr ?_⟩
  rw [Table.lookup_update fun w hw ↦ (hmerge w).trans hw, if_pos rfl, orThrow_eq_ok.mp h]
  rfl

theorem heartbeatWorker_answered {a : HeartbeatArgs}
    (h : heartbeatWorker H env a s = (s', r)) : Answered s s' r := by
  rcases transaction_cases h with ⟨_, hbody, hr⟩ | ⟨rfl, -⟩
  · obtain ⟨current, hcurrent, hbody⟩ := bind_eq_ok.mp hbody
    obtain ⟨s₁, hwrite, hbody⟩ := bind_eq_ok.mp hbody
    cases hbody
    rw [heartbeatWrite, orThrow_bind_eq_ok] at hwrite
    obtain ⟨profile, -, hwrite⟩ := hwrite
    cases hwrite
    -- the row that was read first is still there under its name
    obtain ⟨w, hw⟩ := getWorker_update hcurrent (fun old ↦
      { old with profile, lastHeartbeatAt := (env.clock 0).iso,
                 gatewayOk := a.gatewayOk.getD current.gatewayOk,
                 stateValidated := a.stateValidated.getD current.stateValidated,
                 correlationId := a.correlationId }) fun _ ↦ rfl
    left
    rw [hr, hw]
    exact ⟨_, rfl⟩
  · exact Or.inr rfl

theorem configureRepository_answered {a : ConfigureArgs}
    (h : configureRepository env a s = (s', r)) : Answered s s' r := by
  rcases transaction_cases h with ⟨repository, hbody, hr⟩ | ⟨rfl, -⟩
  · obtain ⟨normalized, hvalid, hbody⟩ := bind_eq_ok.mp hbody
    obtain ⟨-, hbody⟩ := require_bind_eq_ok.mp hbody
    cases hbody
    obtain ⟨lane, hget⟩ := getRepository_upsert (s := s) hvalid
      (newLane repository a.enabled a.maxInFlight (env.clock 0).iso) rfl
      (fun old ↦ { old with enabled := a.enabled, maxInFlight := a.maxInFlight,
                            updatedAt := (env.clock 0).iso }) fun _ ↦ rfl
    left
    rw [hr, hget]
    exact ⟨_, rfl⟩
  · exact Or.inr rfl

/-- **Every write but one** returns or changes nothing. -/
theorem exec_answered {c : Call} (hk : Table.Keyed Task.taskId s.tasks)
    (hop : ∀ a, c.op ≠ .registerWorker a) (h : exec H cfg c s = (s', r)) : Answered s s' r := by
  obtain ⟨op, env⟩ := c
  cases op with
  | registerWorker a => exact absurd rfl (hop a)
  | heartbeatWorker a => exact heartbeatWorker_answered h
  | configureRepository a => exact configureRepository_answered h
  | replaceWorkerAffinities w rs => exact transaction_answered h
  | enqueueTask a => exact transaction_answered h
  | claimTask a =>
    rcases claimTask_outcome hk h with ⟨-, grant, hr⟩ | ⟨rfl, -⟩
    · exact Or.inl ⟨_, hr⟩
    · exact Or.inr rfl
  | renewLease a n => exact (renewLease_outcome (H := H) h).answered hk
  | startTask a => exact (startTask_outcome (H := H) h).answered hk
  | submitForValidation a sha => exact (submitForValidation_outcome h).answered hk
  | completeTask a => exact (completeTask_outcome (H := H) h).answered hk
  | failTask a reason =>
    rcases failTask_outcome h with hout | hout
    · exact hout.answered hk
    · exact hout.answered hk
  | blockTask a reason => exact (blockTask_outcome h).answered hk
  | requeueBlocked tid corr =>
    rcases requeueBlocked_outcome (H := H) hk h with ⟨_, t', -, -, -, hr⟩ | ⟨rfl, -⟩
    · exact Or.inl ⟨_, hr⟩
    · exact Or.inr rfl
  | recoverExpiredLeases => exact transaction_answered h
  | recoverStalledTasks => exact transaction_answered h

/-! ## Registration -/

/-- The checks of `register_worker`, and the row it writes. -/
def RegisterArgs.entry (H : Host) (env : Env) (a : RegisterArgs) : Except PoolError Worker := do
  require (¬(strip a.workerId = "" ∨ strip a.host = "" ∨ strip a.correlationId = ""))
    (.value "worker_id, host e correlation_id são obrigatórios")
  let role ← orThrow (Role.ofText (H.unicode.lower a.role)) (.value "role/profile inválido")
  let profile ← orThrow (Profile.ofText (H.unicode.upper a.profile))
    (.value "role/profile inválido")
  require ((normalizeRulesSha H a.rulesSha).all sha40) (.value "rules_sha inválido")
  bindInteger a.capacityScore
  return { workerId := strip a.workerId, host := strip a.host, role, profile,
           capacityScore := a.capacityScore, controllerVersion := a.controllerVersion,
           rulesSha := normalizeRulesSha H a.rulesSha, gatewayOk := a.gatewayOk,
           stateValidated := a.stateValidated, worktreeRoot := a.worktreeRoot,
           registeredAt := (env.clock 0).iso, lastHeartbeatAt := (env.clock 0).iso,
           correlationId := strip a.correlationId }

/-- The database with a worker registered. -/
def registered (new : Worker) (s : Store) : Store :=
  { s with workers := Table.upsert Worker.workerId new
             (fun old ↦ { new with registeredAt := old.registeredAt }) s.workers }

theorem registerWorker_eq (a : RegisterArgs) : registerWorker H env a s
    = transaction (a.entry H env >>= fun new ↦ .ok (registered new s, ()))
        (fun _ s' ↦ return .worker (← getWorker a.workerId s')) s := by
  simp only [RegisterArgs.entry, bind_assoc, pure_bind]
  rfl

/-- The arguments pass the checks. -/
structure RegisterArgs.Valid (H : Host) (a : RegisterArgs) : Prop where
  texts : ¬(strip a.workerId = "" ∨ strip a.host = "" ∨ strip a.correlationId = "")
  role : (Role.ofText (H.unicode.lower a.role)).isSome
  profile : (Profile.ofText (H.unicode.upper a.profile)).isSome
  rulesSha : (normalizeRulesSha H a.rulesSha).all sha40
  capacityScore : -2 ^ 63 ≤ a.capacityScore ∧ a.capacityScore < 2 ^ 63

/-- A stored worker is as the call would write it. -/
structure RegisterArgs.Matches (H : Host) (env : Env) (a : RegisterArgs) (w : Worker) : Prop where
  workerId : w.workerId = strip a.workerId
  host : w.host = strip a.host
  role : Role.ofText (H.unicode.lower a.role) = some w.role
  profile : Profile.ofText (H.unicode.upper a.profile) = some w.profile
  capacityScore : w.capacityScore = a.capacityScore
  controllerVersion : w.controllerVersion = a.controllerVersion
  rulesSha : w.rulesSha = normalizeRulesSha H a.rulesSha
  gatewayOk : w.gatewayOk = a.gatewayOk
  stateValidated : w.stateValidated = a.stateValidated
  worktreeRoot : w.worktreeRoot = a.worktreeRoot
  lastHeartbeatAt : w.lastHeartbeatAt = (env.clock 0).iso
  correlationId : w.correlationId = strip a.correlationId

theorem RegisterArgs.entry_of_valid {a : RegisterArgs} (h : a.Valid H) :
    ∃ new, a.entry H env = .ok new := by
  obtain ⟨role, hrole⟩ := Option.isSome_iff_exists.mp h.role
  obtain ⟨profile, hprofile⟩ := Option.isSome_iff_exists.mp h.profile
  exact ⟨_, require_bind_eq_ok.mpr ⟨h.texts, orThrow_bind_eq_ok.mpr ⟨role, hrole,
    orThrow_bind_eq_ok.mpr ⟨profile, hprofile, require_bind_eq_ok.mpr ⟨h.rulesSha,
      require_bind_eq_ok.mpr ⟨h.capacityScore, rfl⟩⟩⟩⟩⟩⟩

theorem RegisterArgs.entry_spec {a : RegisterArgs} {new : Worker} (h : a.entry H env = .ok new) :
    a.Valid H ∧ new.workerId = strip a.workerId ∧ ∀ w : Worker,
      w.workerId = new.workerId ∧ { new with registeredAt := w.registeredAt } = w
        ↔ a.Matches H env w := by
  rw [entry, require_bind_eq_ok] at h
  obtain ⟨htexts, h⟩ := h
  obtain ⟨role, hrole, h⟩ := orThrow_bind_eq_ok.mp h
  obtain ⟨profile, hprofile, h⟩ := orThrow_bind_eq_ok.mp h
  obtain ⟨hsha, h⟩ := require_bind_eq_ok.mp h
  obtain ⟨hscore, h⟩ := require_bind_eq_ok.mp h
  cases h
  refine ⟨⟨htexts, Option.isSome_iff_exists.mpr ⟨role, hrole⟩,
    Option.isSome_iff_exists.mpr ⟨profile, hprofile⟩, hsha, hscore⟩, rfl, fun w ↦ ?_⟩
  constructor
  · rintro ⟨-, hw⟩
    rw [← hw]
    exact ⟨rfl, rfl, hrole, hprofile, rfl, rfl, rfl, rfl, rfl, rfl, rfl, rfl⟩
  · intro hw
    refine ⟨hw.workerId, ?_⟩
    have hrole' := Option.some.inj (hrole.symm.trans hw.role)
    have hprofile' := Option.some.inj (hprofile.symm.trans hw.profile)
    cases w
    simp only [Worker.mk.injEq]
    exact ⟨hw.workerId.symm, hw.host.symm, hrole', hprofile', hw.capacityScore.symm,
      hw.controllerVersion.symm, hw.rulesSha.symm, hw.gatewayOk.symm, hw.stateValidated.symm,
      hw.worktreeRoot.symm, trivial, hw.lastHeartbeatAt.symm, hw.correlationId.symm⟩

/-- The names of the workers are stripped. -/
theorem stripped_of_run {tr : List (Call × Except PoolError Reply)}
    (h : (system H cfg).Run tr s) : ∀ w ∈ s.workers, strip w.workerId = w.workerId := by
  refine invariant_of_statements (I := fun u ↦ ∀ w ∈ u.workers, strip w.workerId = w.workerId)
    (List.forall_mem_nil _) (fun op st u v hst hu hrun ↦ ?_) h
  cases st with
  | registerWorker new =>
    cases hrun
    obtain ⟨⟨a, -, hname⟩, -⟩ := hst
    have hnew : strip new.workerId = new.workerId := by rw [hname, strip_strip]
    intro w hw
    rcases Table.mem_upsert hw with hw | rfl | ⟨_, -, rfl⟩
    · exact hu w hw
    · exact hnew
    · exact hnew
  | updateWorker workerId merge =>
    cases hrun
    obtain ⟨-, d, hd⟩ := hst
    intro w hw
    rcases Table.mem_update hw with ⟨hw, -⟩ | ⟨old, hold, -, rfl⟩
    · exact hu w hw
    · rw [(hd old).1]
      exact hu old hold
  | insertTask t =>
    simp only [Statement.run, insertTask, require_bind_eq_ok] at hrun
    obtain ⟨-, -, hrun⟩ := hrun
    cases hrun
    exact hu
  | writeTask t =>
    rw [writeTask_ok hrun]
    exact hu
  | _ =>
    cases hrun
    exact hu

/-- The call registers its worker under another name than it reads back. -/
structure Misread (H : Host) (env : Env) (a : RegisterArgs) (s : Store) : Prop where
  valid : a.Valid H
  blanks : strip a.workerId ≠ a.workerId
  changes : ¬∃ w ∈ s.workers, a.Matches H env w

/-- **Registration.** It raises and changes the database exactly when it reads back another name
than it wrote, unless the worker was there just as it was written. -/
theorem registerWorker_atomic_iff (a : RegisterArgs)
    (hkeyed : Table.Keyed Worker.workerId s.workers)
    (hnames : ∀ w ∈ s.workers, strip w.workerId = w.workerId) :
    (∀ e, (registerWorker H env a s).2 = .error e → e.Declared →
      (registerWorker H env a s).1 = s) ↔ ¬Misread H env a s := by
  cases hentry : a.entry H env with
  | error e =>
    rw [registerWorker_eq, hentry]
    refine iff_of_true (fun _ _ _ ↦ rfl) fun h ↦ ?_
    obtain ⟨new, hnew⟩ := @RegisterArgs.entry_of_valid _ env _ h.valid
    rw [hentry] at hnew
    cases hnew
  | ok new =>
    obtain ⟨hvalid, hname, hmatches⟩ := RegisterArgs.entry_spec hentry
    have hcall : registerWorker H env a s
        = (registered new s, (getWorker a.workerId (registered new s)).map .worker) := by
      rw [registerWorker_eq, hentry]
      rfl
    rw [hcall]
    by_cases hblanks : strip a.workerId = a.workerId
    · -- the name that is read back is the one that was written
      obtain ⟨w, hw⟩ : ∃ w, Table.lookup Worker.workerId new.workerId (registered new s).workers
          = some w :=
        Table.exists_lookup_upsert (f := fun old ↦ { new with registeredAt := old.registeredAt })
          new (fun _ _ ↦ rfl) s.workers
      have hget : getWorker a.workerId (registered new s) = .ok w := by
        rw [← hblanks, ← hname]
        exact orThrow_eq_ok.mpr hw
      rw [hget]
      exact iff_of_true (by rintro e ⟨⟩) fun h ↦ h.blanks hblanks
    · -- no worker has a name with blanks around it
      have hlook : Table.lookup Worker.workerId a.workerId (registered new s).workers = none := by
        by_contra hsome
        obtain ⟨w, hw⟩ := Option.ne_none_iff_exists'.mp hsome
        have hkey := Table.key_of_lookup hw
        refine hblanks ?_
        rcases Table.mem_upsert (Table.mem_of_lookup hw) with hmem | rfl | ⟨_, -, rfl⟩
        · rw [← hkey]
          exact hnames w hmem
        · rw [← hkey, hname, strip_strip]
        · rw [← hkey]
          change strip new.workerId = new.workerId
          rw [hname, strip_strip]
      have hsame : registered new s = s ↔ ∃ w ∈ s.workers, a.Matches H env w := by
        have hupsert : (registered new s).workers = s.workers ↔ ∃ w ∈ s.workers,
            w.workerId = new.workerId ∧ { new with registeredAt := w.registeredAt } = w :=
          hkeyed.upsert_eq_self_iff
        simp only [hmatches] at hupsert
        rw [← hupsert]
        exact ⟨fun h ↦ congrArg Store.workers h, fun h ↦ congrArg (fun ws ↦
          { s with workers := ws }) h⟩
      rw [getWorker, hlook]
      constructor
      · intro h hmis
        exact hmis.changes (hsame.mp (h rowMissing rfl trivial))
      · intro h e _ _
        refine hsame.mpr ?_
        by_contra hnone
        exact h ⟨hvalid, hblanks, hnone⟩

/-! ## The snapshot never raises an error of the service -/

theorem recover_not_declared {now : DateTime} :
    OnlyRaises (fun e ↦ ¬e.Declared) (recover H env now s) := by
  have hwrite : ∀ (t : Task) (u : Store), OnlyRaises (fun e ↦ ¬e.Declared) (writeTask t u) := by
    intro t u e he
    rw [writeTask] at he
    split at he
    · cases he
      exact not_false
    · split at he
      · cases he
        exact not_false
      · cases he
  refine OnlyRaises.bind (OnlyRaises.foldlM (fun u row ↦ ?_) _ _) fun _ _ ↦ OnlyRaises.ok _
  rw [recoverRow, updateTask]
  split
  · exact OnlyRaises.ok _
  · exact hwrite _ _

/-- In a sound database the reads of the snapshot succeed. -/
theorem snapshotView_ok (hbeats : s.HeartbeatsOk)
    (hprogress : ∀ t ∈ s.tasks, ∃ p : DateTime, t.lastMaterialProgressAt = p.iso)
    (now : DateTime) : ∃ view, snapshotView cfg now s = .ok view := by
  have hworkers : ∃ views, (s.workers.mergeSort fun w w' ↦
      lexLe (w.host, w.workerId) (w'.host, w'.workerId)).mapM (workerView cfg now s)
      = .ok views := by
    refine exists_mapM_ok fun w hw ↦ ?_
    obtain ⟨d, hd⟩ := hbeats w (List.mem_mergeSort.mp hw)
    rw [workerView, hd, readStamp_iso]
    exact ⟨_, rfl⟩
  have htasks : ∃ views, (openTasks s).mapM (taskView cfg now) = .ok views := by
    refine exists_mapM_ok fun t ht ↦ ?_
    obtain ⟨p, hp⟩ := hprogress t (List.mem_filter.mp (List.mem_mergeSort.mp ht)).1
    rw [taskView, progressStalled, progressAge, hp, readStamp_iso]
    exact ⟨_, rfl⟩
  obtain ⟨workers, hworkers⟩ := hworkers
  obtain ⟨tasks, htasks⟩ := htasks
  exact ⟨_, bind_eq_ok.mpr ⟨workers, hworkers, bind_eq_ok.mpr ⟨tasks, htasks, rfl⟩⟩⟩

/-- What `snapshot` raises is no error of the service. -/
theorem snapshot_not_declared {tr : List (Call × Except PoolError Reply)}
    (h : (system H cfg).Run tr s) (envs : ℕ → Env) :
    OnlyRaises (fun e ↦ ¬e.Declared) (snapshot H cfg envs s).2 := by
  intro e he
  rw [snapshot] at he
  split at he
  next s₁ e₁ heq =>
    cases he
    rcases transaction_cases heq with ⟨_, -, hr⟩ | ⟨-, e', hbody, hr⟩
    · cases hr
    · cases hr
      exact recover_not_declared e hbody
  next s₁ _ heq =>
    have h₁ : (system H cfg).Run (tr ++ [(⟨.recoverExpiredLeases, envs 0⟩, .ok _)]) s₁ :=
      h.snoc heq
    split at he
    next s₂ e₂ heq' =>
      cases he
      rcases transaction_cases heq' with ⟨_, -, hr⟩ | ⟨-, e', hbody, hr⟩
      · cases hr
      · cases hr
        -- a sound database is scanned to its end, so only the cutoff can be out of the calendar
        cases hrows : stalledRows cfg (envs 1) ((envs 1).clock 0) s₁ with
        | ok rows =>
          obtain ⟨_, hok, -⟩ := recoverStalled_eq (H := H) (sound_of_run h₁) hrows
          rw [hbody] at hok
          cases hok
        | error e₃ =>
          have hbody' : e = e₃ := by
            rw [recoverStalled, hrows] at hbody
            exact (Except.error.inj hbody).symm
          have honly : OnlyRaises (fun e ↦ ¬e.Declared)
              (stalledRows cfg (envs 1) ((envs 1).clock 0) s₁) :=
            OnlyRaises.bind (OnlyRaises.orThrow fun _ ↦ not_false) fun _ _ ↦ OnlyRaises.ok _
          rw [hbody']
          exact honly e₃ hrows
    next s₂ _ heq' =>
      have h₂ : (system H cfg).Run (tr ++ [(⟨.recoverExpiredLeases, envs 0⟩, .ok _)]
          ++ [(⟨.recoverStalledTasks, envs 1⟩, .ok _)]) s₂ := h₁.snoc heq'
      obtain ⟨acts, hacts, -⟩ := run_refines h₂
      obtain ⟨view, hview⟩ := @snapshotView_ok cfg _ (heartbeatsOk_of_run h₂)
        (fun t ht ↦ (stampsOk_of_run hacts ht).progress) ((envs 2).clock 0)
      rw [hview] at he
      cases he

/-! ## Atomicity -/

/-- A call that raises an error of the service leaves the database as it was. -/
def PublicCall.Atomic (H : Host) (cfg : Config) (c : PublicCall) (s : Store) : Prop :=
  ∀ e, (c.run H cfg s).2 = .error e → e.Declared → (c.run H cfg s).1 = s

/-- **Which calls are atomic.** In every reachable database, a public call that raises leaves all
tables as they were, unless it registers a worker under a name with blanks around it. -/
theorem error_atomicity_iff {tr : List (PublicCall × Except PoolError PublicReply)}
    (h : (publicSystem H cfg).Run tr s) (c : PublicCall) :
    c.Atomic H cfg s ↔ ¬∃ a, c.op = .write (.registerWorker a) ∧ Misread H (c.env 0) a s := by
  obtain ⟨tr', hrun⟩ := exists_run_of_public h
  obtain ⟨op, envs⟩ := c
  have hreads : ∀ r : Except PoolError PublicReply,
      PublicCall.run H cfg ⟨op, envs⟩ s = (s, r) → PublicCall.Atomic H cfg ⟨op, envs⟩ s := by
    intro r hcall e _ _
    rw [hcall]
  cases op with
  | write op =>
    have hmap : ∀ e, (PublicCall.run H cfg ⟨.write op, envs⟩ s).2 = .error e
        ↔ (exec H cfg ⟨op, envs 0⟩ s).2 = .error e := by
      intro e
      change (exec H cfg ⟨op, envs 0⟩ s).2.map PublicReply.reply = .error e ↔ _
      cases (exec H cfg ⟨op, envs 0⟩ s).2 with
      | error e' => exact Iff.rfl.trans ⟨fun h ↦ congrArg _ (Except.error.inj h),
          fun h ↦ congrArg _ (Except.error.inj h)⟩
      | ok r => exact ⟨by rintro ⟨⟩, by rintro ⟨⟩⟩
    rw [PublicCall.Atomic]
    simp only [hmap]
    by_cases hop : ∃ a, op = .registerWorker a
    · obtain ⟨a, rfl⟩ := hop
      refine (registerWorker_atomic_iff a (keyed_workers_of_run hrun)
        (stripped_of_run hrun)).trans (not_congr ?_)
      constructor
      · exact fun hmis ↦ ⟨a, rfl, hmis⟩
      · rintro ⟨a', heq, hmis⟩
        cases heq
        exact hmis
    · refine iff_of_true (fun e he _ ↦ ?_) ?_
      · have hanswered : Answered s (exec H cfg ⟨op, envs 0⟩ s).1
            (exec H cfg ⟨op, envs 0⟩ s).2 := exec_answered (leaseInv_of_run hrun).keyed (fun a heq ↦ hop ⟨a, heq⟩) rfl
        rcases hanswered with ⟨reply, hok⟩ | hsame
        · rw [hok] at he
          cases he
        · exact hsame
      · rintro ⟨a, heq, -⟩
        cases heq
        exact hop ⟨a, rfl⟩
  | snapshot =>
    refine iff_of_true (fun e he hdeclared ↦ ?_) (by rintro ⟨a, heq, -⟩; cases heq)
    change (snapshot H cfg envs s).2.map PublicReply.snapshot = .error e at he
    refine absurd hdeclared (snapshot_not_declared hrun envs e ?_)
    cases hsnap : (snapshot H cfg envs s).2 with
    | error e' =>
      rw [hsnap] at he
      cases he
      rfl
    | ok view =>
      rw [hsnap] at he
      cases he
  | _ => exact iff_of_true (hreads _ rfl) (by rintro ⟨a, heq, -⟩; cases heq)

/-! ## A worker named with a blank -/

/-- The surroundings of a public call at noon. -/
def publicCall (op : PublicOp) : PublicCall := ⟨op, fun _ ↦ sampleEnv ""⟩

/-- A builder that is named properly, asked for under another name, and a snapshot. -/
def publicCalls : List PublicCall :=
  [publicCall (.write (.registerWorker (sampleWorker "b" "builder"))),
   publicCall (.getWorker "b "), publicCall .snapshot]

/-- Asking for a repository that is not there changes nothing. -/
theorem error_atomicity_sample : ∃ tr s, (publicSystem sampleHost sampleConfig).Run tr s ∧
    s.workers.length = 1 ∧
    (publicCall (.getRepository "org/repo")).Atomic sampleHost sampleConfig s := by
  refine ⟨_, _, TransitionSystem.run_runCalls Store.empty (PublicCall.run sampleHost sampleConfig)
    publicCalls, by decide +kernel, ?_⟩
  refine (error_atomicity_iff (TransitionSystem.run_runCalls Store.empty
    (PublicCall.run sampleHost sampleConfig) publicCalls) _).mpr ?_
  rintro ⟨a, heq, -⟩
  cases heq

/-- A worker named with a trailing blank is registered, and the call raises. -/
theorem registered_and_raised : ∃ tr s, (publicSystem sampleHost sampleConfig).Run tr s ∧
    ∃ c : PublicCall, ∃ e, (c.run sampleHost sampleConfig s).2 = .error e ∧ e.Declared ∧
      (c.run sampleHost sampleConfig s).1.workers.map Worker.workerId = ["b"] ∧
      s.workers = [] := by
  refine ⟨[], Store.empty, TransitionSystem.Run.start rfl,
    publicCall (.write (.registerWorker (sampleWorker "b " "builder"))), rowMissing, ?_, trivial,
    by decide +kernel, rfl⟩
  rfl

end WorkerPool

end ReqSys
