import Mathlib
import ReqSys.WorkerPool.LeaseInvariant

/-!
# The worker pool: the statements a call executes

Below the acts of the protocol lie the statements that write to the tables. `Statement` lists them,
with the two indexes on `tasks` enforced where a row is written, and `exec_wrote` says of every call
that it executes a sequence of them, each of a kind that the operation may issue. What a statement
keeps, a call keeps; and a table whose statements an operation does not issue, it leaves alone.

Two invariants need this finer view, because an act of the protocol says nothing about workers and
nothing about the index on workspaces. The last heartbeat of a worker is a text that the store wrote
itself, so reading it back never fails. And no two active tasks share a workspace, so releasing the
holder of an active task never runs into the index.
-/

namespace ReqSys

namespace WorkerPool

variable {H : Host} {cfg : Config} {env : Env} {s s' : Store}

/-! ## Statements -/

/-- The statements that write to the database. -/
inductive Statement
  /-- `INSERT INTO workers … ON CONFLICT(worker_id) DO UPDATE`. -/
  | registerWorker (new : Worker)
  /-- `UPDATE workers`. -/
  | updateWorker (workerId : String) (merge : Worker → Worker)
  /-- `INSERT OR IGNORE INTO repository_lanes`. -/
  | ensureLane (repository stamp : String)
  /-- `INSERT INTO repository_lanes … ON CONFLICT(repository) DO UPDATE`. -/
  | configureLane (repository : String) (enabled : Bool) (maxInFlight : ℤ) (stamp : String)
  /-- `UPDATE repository_lanes` by a claim. -/
  | countClaim (role : Role) (stamp repository : String)
  /-- `DELETE` and `INSERT` on `worker_repository_affinity`. -/
  | setAffinities (affinities : List Affinity)
  /-- `INSERT INTO tasks`. -/
  | insertTask (t : Task)
  /-- `UPDATE tasks` of one row. -/
  | writeTask (t : Task)
  /-- `INSERT INTO quarantine`. -/
  | quarantine (row : QuarantineRow)

/-- What a statement does. -/
def Statement.run : Statement → Store → Except PoolError Store
  | .registerWorker new, s =>
    .ok { s with workers := Table.upsert Worker.workerId new
                   (fun old ↦ { new with registeredAt := old.registeredAt }) s.workers }
  | .updateWorker workerId merge, s =>
    .ok { s with workers := Table.update Worker.workerId workerId merge s.workers }
  | .ensureLane repository stamp, s =>
    .ok { s with lanes := Table.insertOrIgnore Lane.repository (newLane repository true 1 stamp)
                   s.lanes }
  | .configureLane repository enabled maxInFlight stamp, s =>
    .ok { s with lanes := Table.upsert Lane.repository
                   (newLane repository enabled maxInFlight stamp)
                   (fun old ↦ { old with enabled, maxInFlight, updatedAt := stamp }) s.lanes }
  | .countClaim role stamp repository, s =>
    .ok { s with lanes := Table.update Lane.repository repository (bumpLane role stamp) s.lanes }
  | .setAffinities affinities, s => .ok { s with affinities }
  | .insertTask t, s => WorkerPool.insertTask t s
  | .writeTask t, s => WorkerPool.writeTask t s
  | .quarantine row, s => .ok { s with quarantine := s.quarantine ++ [row] }

/-- The statements by which a task changes hands. -/
def Statement.OfTask : Statement → Prop
  | .writeTask _ | .quarantine _ => True
  | _ => False

/-- The statements an operation may issue. -/
def Op.Issues (op : Op) : Statement → Prop
  | .registerWorker new => (∃ a, op = .registerWorker a ∧ new.workerId = PyText.strip a.workerId) ∧
      ∃ d : DateTime, new.lastHeartbeatAt = d.iso
  | .updateWorker _ merge => (∃ a, op = .heartbeatWorker a) ∧
      ∃ d : DateTime, ∀ w, (merge w).workerId = w.workerId ∧ (merge w).lastHeartbeatAt = d.iso
  | .ensureLane _ _ | .configureLane _ _ _ _ => True
  | .countClaim _ _ _ => ∃ a, op = .claimTask a
  | .setAffinities _ => ∃ w rs, op = .replaceWorkerAffinities w rs
  | .insertTask t => (∃ a, op = .enqueueTask a) ∧ t.state = .queued
  | .writeTask _ | .quarantine _ => True

/-- Statements of one kind lead from one database to another. -/
def Wrote (P : Statement → Prop) : Store → Store → Prop :=
  Relation.ReflTransGen fun s s' ↦ ∃ st : Statement, P st ∧ st.run s = .ok s'

variable {P P' : Statement → Prop}

theorem Wrote.refl (s : Store) : Wrote P s s := Relation.ReflTransGen.refl

theorem Wrote.single {st : Statement} (hst : P st) (h : st.run s = .ok s') : Wrote P s s' :=
  Relation.ReflTransGen.single ⟨st, hst, h⟩

theorem Wrote.trans {s'' : Store} (h : Wrote P s s') (h' : Wrote P s' s'') : Wrote P s s'' :=
  Relation.ReflTransGen.trans h h'

theorem Wrote.mono (hP : ∀ st, P st → P' st) (h : Wrote P s s') : Wrote P' s s' := by
  refine Relation.ReflTransGen.mono (fun u v hone ↦ ?_) _ _ h
  obtain ⟨st, hst, hrun⟩ := hone
  exact ⟨st, hP st hst, hrun⟩

/-- What every statement of the kind keeps is kept. -/
theorem Wrote.preserves {I : Store → Prop} (h : Wrote P s s')
    (hstep : ∀ st u v, P st → I u → Statement.run st u = .ok v → I v) (hs : I s) : I s' := by
  induction h with
  | refl => exact hs
  | tail _ hlast ih =>
    obtain ⟨st, hst, hrun⟩ := hlast
    exact hstep st _ _ hst ih hrun

/-! ## Computations that write

`Writes` reads off the body of an operation which statements it has executed when it returns. -/

section Writes

variable {α β : Type}

/-- Whenever the computation returns, statements of the kind lead to the database it returns. -/
def Writes (P : Statement → Prop) (s : Store) (store : α → Store) (x : Except PoolError α) : Prop :=
  ∀ a, x = .ok a → Wrote P s (store a)

theorem Writes.pure (store : α → Store) {a : α} (h : Wrote P s (store a)) :
    Writes P s store (.ok a) := by
  rintro _ ⟨⟩
  exact h

/-- A write, and what comes after it. -/
theorem Writes.bind {store : α → Store} {store' : β → Store} {x : Except PoolError α}
    {f : α → Except PoolError β} (hx : Writes P s store x)
    (hf : ∀ a, x = .ok a → Writes P (store a) store' (f a)) : Writes P s store' (x >>= f) := by
  intro b h
  obtain ⟨a, ha, hb⟩ := bind_eq_ok.mp h
  exact (hx a ha).trans (hf a ha b hb)

/-- A read, and what comes after it. -/
theorem Writes.read {store : β → Store} {x : Except PoolError α} {f : α → Except PoolError β}
    (hf : ∀ a, x = .ok a → Writes P s store (f a)) : Writes P s store (x >>= f) := by
  intro b h
  obtain ⟨a, ha, hb⟩ := bind_eq_ok.mp h
  exact hf a ha b hb

theorem Writes.single {st : Statement} (hst : P st) : Writes P s id (st.run s) :=
  fun _ h ↦ Wrote.single hst h

theorem Writes.updateTask (tid : String) (f : Task → Task) (hP : ∀ t, P (.writeTask t)) :
    Writes P s id (updateTask tid f s) := by
  rw [WorkerPool.updateTask]
  split
  · exact Writes.pure id (Wrote.refl s)
  next t _ => exact Writes.single (hP (f t))

theorem Writes.foldlM {f : β → α → Except PoolError β} {store : β → Store}
    (hf : ∀ b a, Writes P (store b) store (f b a)) (l : List α) (b : β) :
    Writes P (store b) store (l.foldlM f b) := by
  induction l generalizing b with
  | nil => exact Writes.pure store (Wrote.refl _)
  | cons a l ih =>
    rw [List.foldlM_cons]
    exact Writes.bind (hf b a) fun b' _ ↦ ih b'

/-- A transaction either leaves what its body has written, or nothing. -/
theorem transaction_wrote {body : Except PoolError (Store × α)}
    {answer : α → Store → Except PoolError Reply} {r : Except PoolError Reply}
    (h : transaction body answer s = (s', r)) (hbody : Writes P s Prod.fst body) :
    Wrote P s s' := by
  obtain ⟨a, ha, -⟩ | ⟨rfl, -⟩ := transaction_cases h
  · exact hbody (s', a) ha
  · exact Wrote.refl s'

end Writes

/-! ## The operations -/

theorem quarantineTask_wrote (row : Task) (reason stamp : String) (s : Store) :
    Wrote Statement.OfTask s (quarantineTask H row reason stamp s) :=
  @Wrote.single _ _ _ (.quarantine _) trivial rfl

theorem recover_wrote {now : DateTime} {n : ℕ} (h : recover H env now s = .ok (s', n)) :
    Wrote Statement.OfTask s s' := by
  refine @Writes.bind _ _ _ _ id Prod.fst _ _ (Writes.foldlM (fun u row ↦ ?_) _ _)
    (fun u _ ↦ Writes.pure Prod.fst (Wrote.refl u)) (s', n) h
  intro v hv
  have hwrite := Writes.updateTask (P := Statement.OfTask) row.taskId _ (fun _ ↦ trivial) v hv
  refine Wrote.trans ?_ hwrite
  split
  · exact quarantineTask_wrote row _ _ u
  · exact Wrote.refl u

theorem recoverStalledRow_wrote (stamp : String) (workers : List Worker) (b : Store × StallCounts)
    (row : Task) :
    Writes Statement.OfTask b.1 Prod.fst (recoverStalledRow H cfg env stamp workers b row) := by
  obtain ⟨s, n⟩ := b
  have hwrite : ∀ (f : Task → Task) (u : Store) (m : StallCounts),
      Writes Statement.OfTask u Prod.fst (do let v ← updateTask row.taskId f u; return (v, m)) :=
    fun f u m ↦ Writes.bind (Writes.updateTask _ f fun _ ↦ trivial) fun v _ ↦
      Writes.pure Prod.fst (Wrote.refl v)
  rw [recoverStalledRow]
  dsimp only
  split
  · intro a ha
    exact (quarantineTask_wrote row _ stamp s).trans (hwrite _ _ _ a ha)
  · refine Writes.read fun alternative _ ↦ ?_
    split
    · exact hwrite _ s _
    · exact hwrite _ s _

theorem recoverStalled_wrote {now : DateTime} {n : StallCounts}
    (h : recoverStalled H cfg env now s = .ok (s', n)) : Wrote Statement.OfTask s s' :=
  @Writes.read _ _ _ _ Prod.fst _ _ (fun _ _ ↦
    @Writes.foldlM _ _ _ _ Prod.fst (recoverStalledRow_wrote _ _) _ _) (s', n) h

theorem issues_of_ofTask (op : Op) (st : Statement) (h : st.OfTask) : op.Issues st := by
  cases st with
  | writeTask t => trivial
  | quarantine row => trivial
  | _ => exact absurd h not_false

theorem grantLease_wrote {a : ClaimArgs} {role : Role} {row : Task} {expires stamp : String} :
    Writes (Op.claimTask a).Issues s id (grantLease env a role row expires stamp s) := by
  refine Writes.read fun t _ ↦ ?_
  refine Writes.bind (@Writes.single _ _ (.writeTask _) trivial) fun u _ ↦ ?_
  exact @Writes.single _ _ (.countClaim role stamp row.repository) ⟨a, rfl⟩

variable {r : Except PoolError Reply}

theorem registerWorker_wrote {a : RegisterArgs} (h : registerWorker H env a s = (s', r)) :
    Wrote (Op.registerWorker a).Issues s s' := by
  refine transaction_wrote h (Writes.read fun _ _ ↦ Writes.read fun role _ ↦
    Writes.read fun profile _ ↦ Writes.read fun _ _ ↦ Writes.read fun _ _ ↦ ?_)
  exact Writes.pure Prod.fst
    (Wrote.single (show (Op.registerWorker a).Issues (.registerWorker _) from
      ⟨⟨a, rfl, rfl⟩, env.clock 0, rfl⟩) rfl)

theorem heartbeatWorker_wrote {a : HeartbeatArgs} (h : heartbeatWorker H env a s = (s', r)) :
    Wrote (Op.heartbeatWorker a).Issues s s' := by
  refine transaction_wrote h (Writes.read fun current _ ↦ @Writes.bind _ _ _ _ id _ _ _ ?_
    fun u _ ↦ Writes.pure Prod.fst (Wrote.refl u))
  refine Writes.read fun profile _ ↦ Writes.pure id ?_
  refine @Wrote.single _ _ _ (.updateWorker a.workerId _) ?_ rfl
  exact ⟨⟨a, rfl⟩, env.clock 0, fun _ ↦ ⟨rfl, rfl⟩⟩

theorem configureRepository_wrote {a : ConfigureArgs}
    (h : configureRepository env a s = (s', r)) : Wrote (Op.configureRepository a).Issues s s' := by
  refine transaction_wrote h (Writes.read fun repository _ ↦ Writes.read fun _ _ ↦ ?_)
  exact Writes.pure Prod.fst (@Wrote.single _ _ _
    (.configureLane repository a.enabled a.maxInFlight (env.clock 0).iso) trivial rfl)

theorem insertAffinities_wrote {workerId : String} {repositories : List String} :
    ∀ (rest : List String) (k : ℕ) (u : Store),
      Wrote (Op.replaceWorkerAffinities workerId repositories).Issues u
        (insertAffinities env workerId k rest u) := by
  intro rest
  induction rest with
  | nil => exact fun k u ↦ Wrote.refl u
  | cons repository rest ih =>
    intro k u
    rw [insertAffinities]
    refine Wrote.trans ?_ (ih (k + 1) _)
    refine Wrote.trans
      (@Wrote.single _ _ _ (.ensureLane repository (env.clock k).iso) trivial rfl) ?_
    exact @Wrote.single _ _ _ (.setAffinities _) ⟨workerId, repositories, rfl⟩ rfl

theorem replaceWorkerAffinities_wrote {workerId : String} {repositories : List String}
    (h : replaceWorkerAffinities env workerId repositories s = (s', r)) :
    Wrote (Op.replaceWorkerAffinities workerId repositories).Issues s s' := by
  refine transaction_wrote h (Writes.read fun _ _ ↦ Writes.read fun checked _ ↦ ?_)
  refine Writes.pure Prod.fst (Wrote.trans ?_ (insertAffinities_wrote _ 0 _))
  exact @Wrote.single _ _ _ (.setAffinities _) ⟨workerId, repositories, rfl⟩ rfl

theorem enqueueTask_wrote {a : EnqueueArgs} (h : enqueueTask H cfg env a s = (s', r)) :
    Wrote (Op.enqueueTask a).Issues s s' := by
  refine transaction_wrote h (Writes.read fun _ _ ↦ Writes.read fun _ _ ↦
    Writes.read fun taskBranch _ ↦ Writes.read fun _ _ ↦ fun x hx ↦ ?_)
  rw [enqueueWrite] at hx
  refine Wrote.trans (@Wrote.single _ _ _
    (.ensureLane (PyText.strip a.repository) (env.clock 1).iso) trivial rfl) ?_
  split at hx
  next row _ => exact Writes.read (fun _ _ ↦ Writes.pure Prod.fst (Wrote.refl _)) x hx
  next =>
    refine Writes.read (fun _ _ ↦ Writes.read fun _ _ ↦ Writes.read fun _ _ ↦ ?_) x hx
    refine @Writes.bind _ _ _ _ id _ _ _ (@Writes.single _ _ (.insertTask _) ⟨⟨a, rfl⟩, rfl⟩) ?_
    exact fun u _ ↦ Writes.pure Prod.fst (Wrote.refl u)

theorem claimTask_wrote {a : ClaimArgs} (h : claimTask H cfg env a s = (s', r)) :
    Wrote (Op.claimTask a).Issues s s' := by
  refine transaction_wrote h (Writes.read fun role _ ↦ Writes.read fun _ _ ↦ ?_)
  refine @Writes.bind _ _ _ _ Prod.fst _ _ _
    (fun x hx ↦ (recover_wrote hx).mono (issues_of_ofTask _)) fun ⟨u, n⟩ _ ↦ ?_
  refine @Writes.bind _ _ _ _ Prod.fst _ _ _
    (fun x hx ↦ (recoverStalled_wrote hx).mono (issues_of_ofTask _)) fun ⟨v, m⟩ _ ↦ ?_
  refine Writes.read fun w _ ↦ ?_
  split
  · exact Writes.pure Prod.fst (Wrote.refl v)
  next row _ =>
    refine Writes.read fun expires _ ↦ @Writes.bind _ _ _ _ id _ _ _ grantLease_wrote fun x _ ↦ ?_
    exact Writes.pure Prod.fst (Wrote.refl x)

/-- The write of a lease holder. -/
theorem leaseWrite_writes {op : Op} {tid : String} {f : Task → Task} :
    Writes op.Issues s Prod.fst (do let u ← updateTask tid f s; return (u, ())) :=
  Writes.bind (Writes.updateTask tid f fun _ ↦ trivial) fun u _ ↦
    Writes.pure Prod.fst (Wrote.refl u)

theorem failTask_wrote {a : LeaseArgs} {reason : String}
    (h : failTask H env a reason s = (s', r)) : Wrote (Op.failTask a reason).Issues s s' := by
  refine transaction_wrote h (Writes.read fun row _ ↦ fun x hx ↦ ?_)
  refine Wrote.trans ?_ (leaseWrite_writes x hx)
  split
  · exact (quarantineTask_wrote row _ _ s).mono (issues_of_ofTask _)
  · exact Wrote.refl s

theorem blockTask_wrote {a : LeaseArgs} {reason : String}
    (h : blockTask H env a reason s = (s', r)) : Wrote (Op.blockTask a reason).Issues s s' := by
  refine transaction_wrote h fun x hx ↦ ?_
  rw [require_bind_eq_ok] at hx
  exact Writes.read (fun row _ ↦ leaseWrite_writes) x hx.2

/-- **Every call is a sequence of statements** that its operation may issue. -/
theorem exec_wrote {c : Call} (h : exec H cfg c s = (s', r)) : Wrote c.op.Issues s s' := by
  obtain ⟨op, env⟩ := c
  cases op with
  | registerWorker a => exact registerWorker_wrote h
  | heartbeatWorker a => exact heartbeatWorker_wrote h
  | configureRepository a => exact configureRepository_wrote h
  | replaceWorkerAffinities w rs => exact replaceWorkerAffinities_wrote h
  | enqueueTask a => exact enqueueTask_wrote h
  | claimTask a => exact claimTask_wrote h
  | renewLease a n =>
    exact transaction_wrote h (Writes.read fun _ _ ↦ Writes.read fun _ _ ↦ leaseWrite_writes)
  | startTask a =>
    exact transaction_wrote h (Writes.read fun _ _ ↦ Writes.read fun _ _ ↦
      Writes.read fun _ _ ↦ leaseWrite_writes)
  | submitForValidation a sha =>
    exact transaction_wrote h (Writes.read fun _ _ ↦ Writes.read fun _ _ ↦
      Writes.read fun _ _ ↦ leaseWrite_writes)
  | completeTask a =>
    exact transaction_wrote h (Writes.read fun _ _ ↦ Writes.read fun _ _ ↦
      Writes.read fun _ _ ↦ Writes.read fun _ _ ↦ leaseWrite_writes)
  | failTask a reason => exact failTask_wrote h
  | blockTask a reason => exact blockTask_wrote h
  | requeueBlocked tid corr =>
    exact transaction_wrote h (Writes.read fun _ _ ↦ Writes.read fun _ _ ↦ leaseWrite_writes)
  | recoverExpiredLeases =>
    exact transaction_wrote h fun x hx ↦ (recover_wrote hx).mono (issues_of_ofTask _)
  | recoverStalledTasks =>
    exact transaction_wrote h fun x hx ↦ (recoverStalled_wrote hx).mono (issues_of_ofTask _)

/-- What every statement keeps holds in every reachable database. -/
theorem invariant_of_statements {I : Store → Prop} (hempty : I Store.empty)
    (hstep : ∀ (op : Op) st u v, op.Issues st → I u → Statement.run st u = .ok v → I v)
    {tr : List (Call × Except PoolError Reply)} (h : (system H cfg).Run tr s) : I s := by
  refine h.invariant (I := I) ?_ ?_
  · rintro u rfl
    exact hempty
  · rintro u ⟨c, r⟩ v hu hexec
    exact (exec_wrote hexec).preserves (hstep c.op) hu

/-! ## What task statements leave alone -/

/-- Statements on tasks and on the quarantine leave the other tables alone. -/
theorem Wrote.frame (h : Wrote Statement.OfTask s s') :
    s'.workers = s.workers ∧ s'.lanes = s.lanes ∧ s'.affinities = s.affinities := by
  refine h.preserves (I := fun u ↦ u.workers = s.workers ∧ u.lanes = s.lanes
    ∧ u.affinities = s.affinities) (fun st u v hst hu hrun ↦ ?_) ⟨rfl, rfl, rfl⟩
  cases st with
  | writeTask t =>
    rw [writeTask_ok hrun]
    exact hu
  | quarantine row =>
    cases hrun
    exact hu
  | _ => exact absurd hst not_false

/-! ## Heartbeats -/

/-- The last heartbeat of every worker was written by `iso`. -/
def Store.HeartbeatsOk (s : Store) : Prop :=
  ∀ w ∈ s.workers, ∃ d : DateTime, w.lastHeartbeatAt = d.iso

theorem heartbeatsOk_of_run {tr : List (Call × Except PoolError Reply)}
    (h : (system H cfg).Run tr s) : s.HeartbeatsOk := by
  refine invariant_of_statements (List.forall_mem_nil _) (fun op st u v hst hu hrun ↦ ?_) h
  cases st with
  | registerWorker new =>
    cases hrun
    obtain ⟨-, d, hd⟩ := hst
    intro w hw
    rcases Table.mem_upsert hw with hw | rfl | ⟨_, -, rfl⟩
    · exact hu w hw
    · exact ⟨d, hd⟩
    · exact ⟨d, hd⟩
  | updateWorker workerId merge =>
    cases hrun
    obtain ⟨-, d, hd⟩ := hst
    intro w hw
    rcases Table.mem_update hw with ⟨hw, -⟩ | ⟨old, -, -, rfl⟩
    · exact hu w hw
    · exact ⟨d, (hd old).2⟩
  | insertTask t =>
    simp only [Statement.run, insertTask, require_bind_eq_ok] at hrun
    obtain ⟨-, -, hrun⟩ := hrun
    cases hrun
    exact hu
  | writeTask t =>
    rw [writeTask_ok hrun]
    exact hu
  | _ =>
    cases hrun
    exact hu

/-- The workers are told apart by their names. -/
theorem keyed_workers_of_run {tr : List (Call × Except PoolError Reply)}
    (h : (system H cfg).Run tr s) : Table.Keyed Worker.workerId s.workers := by
  refine invariant_of_statements (I := fun u ↦ Table.Keyed Worker.workerId u.workers)
    List.nodup_nil (fun op st u v hst hu hrun ↦ ?_) h
  cases st with
  | registerWorker new =>
    cases hrun
    exact hu.upsert fun _ _ ↦ rfl
  | updateWorker workerId merge =>
    cases hrun
    obtain ⟨-, d, hd⟩ := hst
    exact hu.keyed_update fun w ↦ (hd w).1
  | insertTask t =>
    simp only [Statement.run, insertTask, require_bind_eq_ok] at hrun
    obtain ⟨-, -, hrun⟩ := hrun
    cases hrun
    exact hu
  | writeTask t =>
    rw [writeTask_ok hrun]
    exact hu
  | _ =>
    cases hrun
    exact hu

/-! ## Workspaces -/

/-- No two active tasks share a workspace. -/
def Store.WorkspacesApart (s : Store) : Prop :=
  ∀ t ∈ s.tasks, ∀ t' ∈ s.tasks, t.taskId ≠ t'.taskId → workspaceClash t t' = false

theorem workspaceClash_comm (t t' : Task) : workspaceClash t t' = workspaceClash t' t := by
  rw [workspaceClash, workspaceClash, Bool.and_comm t.isActive, Bool.beq_comm (a := t.repository),
    Bool.beq_comm (a := t.workspaceKey)]

theorem workspaceClash_of_inactive {t : Task} (h : t.isActive = false) (t' : Task) :
    workspaceClash t t' = false := by
  simp [workspaceClash, h]

/-- The index on workspaces admitted the row that was written. -/
theorem writeTask_admitted {t' : Task} (h : writeTask t' s = .ok s') :
    ∀ t ∈ s.tasks, t.taskId ≠ t'.taskId → workspaceClash t' t = false := by
  rw [writeTask] at h
  split at h
  · cases h
  · split at h
    · cases h
    next hnone =>
      intro t ht hne
      have hmem : t ∈ s.tasks.filter fun u ↦ u.taskId ≠ t'.taskId :=
        List.mem_filter.mpr ⟨ht, by simpa using hne⟩
      rw [Bool.not_eq_true, List.any_eq_false] at hnone
      simpa using hnone t hmem

theorem workspacesApart_of_run {tr : List (Call × Except PoolError Reply)}
    (h : (system H cfg).Run tr s) : s.WorkspacesApart := by
  refine invariant_of_statements (fun _ ht ↦ absurd ht List.not_mem_nil)
    (fun op st u v hst hu hrun ↦ ?_) h
  cases st with
  | insertTask t =>
    obtain ⟨-, hqueued⟩ := hst
    have hinactive : t.isActive = false := by simp [Task.isActive, TaskState.active, hqueued]
    simp only [Statement.run, insertTask, require_bind_eq_ok] at hrun
    obtain ⟨-, -, hrun⟩ := hrun
    cases hrun
    intro a ha b hb hne
    rcases List.mem_append.mp ha with ha | ha
    · rcases List.mem_append.mp hb with hb | hb
      · exact hu a ha b hb hne
      · rw [List.mem_singleton.mp hb, workspaceClash_comm]
        exact workspaceClash_of_inactive hinactive a
    · rw [List.mem_singleton.mp ha]
      exact workspaceClash_of_inactive hinactive b
  | writeTask t =>
    have hfree := writeTask_admitted hrun
    rw [writeTask_ok hrun]
    intro a ha b hb hne
    rcases Table.mem_update ha with ⟨hau, hane⟩ | ⟨_, -, -, rfl⟩
    · rcases Table.mem_update hb with ⟨hbu, -⟩ | ⟨_, -, -, rfl⟩
      · exact hu a hau b hbu hne
      · rw [workspaceClash_comm]
        exact hfree a hau hane
    · rcases Table.mem_update hb with ⟨hbu, hbne⟩ | ⟨_, -, -, rfl⟩
      · exact hfree b hbu hbne
      · exact absurd rfl hne
  | _ =>
    cases hrun
    exact hu

end WorkerPool

end ReqSys
