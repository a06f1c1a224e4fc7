import ReqSys.WorkerPool.Protocol

/-!
# The worker pool: the operations refine the protocol

Every call of `WorkerPoolStore`, whatever it returns or raises, is a path of protocol acts from the
database before it to the database after it, and the marks those acts leave are the ones read off
the call and its result (`exec_path`). Runs of the store are therefore runs of the protocol
(`run_refines`).

The two recovery loops decide on rows fetched before the loop and write by key. What makes each
turn an act on the *current* row is that the fetched rows have different keys and that a turn leaves
the other rows alone; `foldlM_path` carries this through a loop.
-/

namespace ReqSys

namespace WorkerPool

open PyText

/-! ## The marks of a call -/

/-- The marks a call leaves, given what it returned. -/
def events (l : Call × Except PoolError Reply) : List Event :=
  match l.2 with
  | .error _ => []
  | .ok reply =>
    match l.1.op with
    | .configureRepository a => [.configured (strip a.repository) a.maxInFlight]
    | .claimTask _ =>
      match reply with
      | .claimed (some (_, lease)) => [.issued lease.taskId lease.leaseToken]
      | _ => []
    | .submitForValidation a producedSha => [.submitted a.taskId a.workerId producedSha]
    | .completeTask a => [.completed a.taskId a.workerId]
    | .requeueBlocked tid _ => [.requeued tid]
    | _ => []

/-! ## Spec lemmas of the helpers -/

variable {H : Host} {cfg : Config} {env : Env} {s s' : Store}

theorem transaction_cases {α : Type} {body : Except PoolError (Store × α)}
    {answer : α → Store → Except PoolError Reply} {r : Except PoolError Reply}
    (h : transaction body answer s = (s', r)) :
    (∃ a, body = .ok (s', a) ∧ r = answer a s') ∨ (s' = s ∧ ∃ e, body = .error e ∧ r = .error e) := by
  rcases body with e | ⟨s₁, a⟩
  · cases h
    exact Or.inr ⟨rfl, e, rfl, rfl⟩
  · cases h
    exact Or.inl ⟨a, rfl, rfl⟩

theorem writeTask_ok {t' : Task} (h : writeTask t' s = .ok s') :
    s' = { s with tasks := Table.update Task.taskId t'.taskId (fun _ ↦ t') s.tasks } := by
  rw [writeTask] at h
  split at h
  · cases h
  · split at h
    · cases h
    · exact (Except.ok.inj h).symm

theorem updateTask_ok {tid : String} {f : Task → Task} {t : Task}
    (hrow : Table.lookup Task.taskId tid s.tasks = some t) (hf : (f t).taskId = t.taskId)
    (h : updateTask tid f s = .ok s') :
    s' = { s with tasks := Table.update Task.taskId tid (fun _ ↦ f t) s.tasks } := by
  rw [updateTask, hrow] at h
  rw [writeTask_ok h, hf, Table.key_of_lookup hrow]

theorem leaseRow_ok {now : DateTime} {tid worker token : String} {allowed : List TaskState}
    {row : Task} (h : leaseRow now tid worker token allowed s = .ok row) :
    Table.lookup Task.taskId tid s.tasks = some row ∧ row.state ∈ allowed
      ∧ row.HeldBy worker token ∧ leaseExpired now row = .ok false := by
  rw [leaseRow, orThrow_bind_eq_ok] at h
  obtain ⟨t, hlook, h⟩ := h
  rw [require_bind_eq_ok] at h
  obtain ⟨hstate, h⟩ := h
  rw [require_bind_eq_ok] at h
  obtain ⟨hheld, h⟩ := h
  rw [bind_eq_ok] at h
  obtain ⟨expired, hexp, h⟩ := h
  rw [require_bind_eq_ok] at h
  obtain ⟨hfalse, h⟩ := h
  cases h
  rw [hfalse] at hexp
  exact ⟨hlook, hstate, hheld, hexp⟩

theorem mem_active_iff {t : Task} : t.state ∈ TaskState.active ↔ t.isActive = true := by
  rw [Task.isActive, decide_eq_true_iff]

/-- The row read after it was written. -/
theorem getTask_update {tid : String} {t t' : Task} (hk : Table.Keyed Task.taskId s.tasks)
    (hrow : Table.lookup Task.taskId tid s.tasks = some t)
    (htasks : s'.tasks = Table.update Task.taskId tid (fun _ ↦ t') s.tasks)
    (hid : t'.taskId = t.taskId) : getTask tid s' = .ok t' := by
  have htid : t'.taskId = tid := hid.trans (Table.key_of_lookup hrow)
  have hmem : t' ∈ s'.tasks := by
    rw [htasks]
    exact Table.mem_update_self (Table.mem_of_lookup hrow) (Table.key_of_lookup hrow)
  have hk' : Table.Keyed Task.taskId s'.tasks := by
    rw [htasks]
    exact hk.keyed_update_key htid
  have hlook := hk'.lookup_of_mem hmem
  rw [htid] at hlook
  exact orThrow_eq_ok.mpr hlook

theorem answerTask_update {tid : String} {t t' : Task} (hk : Table.Keyed Task.taskId s.tasks)
    (hrow : Table.lookup Task.taskId tid s.tasks = some t)
    (htasks : s'.tasks = Table.update Task.taskId tid (fun _ ↦ t') s.tasks)
    (hid : t'.taskId = t.taskId) : answerTask tid s' = .ok (.task t') := by
  rw [answerTask, getTask_update hk hrow htasks hid]
  rfl

/-! ## Single acts -/

/-- An act that writes one row and nothing else. -/
theorem step_row {a : Act} {tid : String} {t t' : Task} (htid : a.taskId? = some tid)
    (hrow : Table.lookup Task.taskId tid s.tasks = some t) (hchange : Change H a t t')
    (hguard : ∀ tid worker token role, a = .claim tid worker token role →
      ClaimAdmitted worker role t s)
    (hquarantine : Quarantines a t []) :
    (protocol H).step s a { s with tasks := Table.update Task.taskId tid (fun _ ↦ t') s.tasks } := by
  have h := Effect.row htid hrow hchange hguard rfl hquarantine
  rwa [List.append_nil] at h

/-! ## The recovery loops -/

/-- **A loop over fetched rows is a path.** Each turn is one silent act on the row with the key of
the fetched row, which is still the fetched row. -/
theorem foldlM_path {β : Type} (store : β → Store) {f : β → Task → Except PoolError β}
    (hturn : ∀ b row b', Table.Keyed Task.taskId (store b).tasks → row ∈ (store b).tasks →
      row.isActive = true → f b row = .ok b' →
      ∃ a, a.event = none ∧ a.taskId? = some row.taskId ∧ (protocol H).step (store b) a (store b'))
    {rows : List Task} {b b' : β} (hk : Table.Keyed Task.taskId (store b).tasks)
    (hrows : Table.Keyed Task.taskId rows)
    (hmem : ∀ row ∈ rows, row ∈ (store b).tasks ∧ row.isActive = true)
    (h : rows.foldlM f b = .ok b') :
    ∃ acts, (protocol H).Path (store b) acts (store b') ∧ ∀ a ∈ acts, a.event = none := by
  induction rows generalizing b with
  | nil =>
    cases h
    exact ⟨[], TransitionSystem.Path.nil _, List.forall_mem_nil _⟩
  | cons row rows ih =>
    rw [List.foldlM_cons, bind_eq_ok] at h
    obtain ⟨b₁, hf, h⟩ := h
    obtain ⟨hhead, htail⟩ := List.nodup_cons.mp hrows
    obtain ⟨hrow, hactive⟩ := hmem row List.mem_cons_self
    obtain ⟨a, hsilent, hid, hstep⟩ := hturn b row b₁ hk hrow hactive hf
    have hmem' : ∀ r ∈ rows, r ∈ (store b₁).tasks ∧ r.isActive = true := by
      intro r hr
      obtain ⟨hin, hact⟩ := hmem r (List.mem_cons_of_mem _ hr)
      refine ⟨Effect.mem_of_ne hstep hin fun heq ↦ hhead ?_, hact⟩
      rw [hid] at heq
      exact List.mem_map.mpr ⟨r, hr, (Option.some.inj heq).symm⟩
    obtain ⟨acts, hpath, hsil⟩ := ih (Effect.keyed hstep hk) htail hmem' h
    refine ⟨a :: acts, (TransitionSystem.Path.single hstep).append hpath, ?_⟩
    exact List.forall_mem_cons.mpr ⟨hsilent, hsil⟩

/-- The rows a scan returns are rows of the table, each once. -/
theorem scan_rows {order : List Task → List Task} (horder : ∀ l, (order l).Perm l)
    {p : Task → Bool} (hp : ∀ t, p t = true → t.isActive = true)
    (hk : Table.Keyed Task.taskId s.tasks) :
    Table.Keyed Task.taskId (order (s.tasks.filter p))
      ∧ ∀ row ∈ order (s.tasks.filter p), row ∈ s.tasks ∧ row.isActive = true := by
  have hperm := horder (s.tasks.filter p)
  refine ⟨?_, fun row hrow ↦ ?_⟩
  · refine (hperm.map Task.taskId).nodup_iff.mpr ?_
    exact hk.sublist (List.filter_sublist.map _)
  · obtain ⟨hin, hprop⟩ := List.mem_filter.mp (hperm.mem_iff.mp hrow)
    exact ⟨hin, hp row hprop⟩

theorem recoverRow_step {stamp : String} {row : Task} (hk : Table.Keyed Task.taskId s.tasks)
    (hrow : row ∈ s.tasks) (hactive : row.isActive = true)
    (h : recoverRow H stamp s row = .ok s') :
    ∃ a, a.event = none ∧ a.taskId? = some row.taskId ∧ (protocol H).step s a s' := by
  have hlook := hk.lookup_of_mem hrow
  rw [recoverRow] at h
  by_cases hex : row.exhausted = true
  · simp only [hex, if_true] at h
    have hs' := updateTask_ok (s := quarantineTask H row _ stamp s) hlook rfl h
    subst hs'
    refine ⟨.giveUp row.taskId, rfl, rfl, ?_⟩
    refine Effect.row (a := .giveUp row.taskId) rfl hlook ?_ nofun rfl ⟨_, rfl, rfl, rfl⟩
    exact ⟨hactive, hex, row.blockedReason, some "lease_expired_recovered", row.correlationId,
      stamp, rfl⟩
  · simp only [hex, Bool.false_eq_true, if_false] at h
    have hs' := updateTask_ok hlook rfl h
    subst hs'
    refine ⟨.giveBack row.taskId, rfl, rfl, ?_⟩
    refine step_row (a := .giveBack row.taskId) rfl hlook ?_ nofun rfl
    exact ⟨hactive, by simpa using hex, row.blockedReason, some "lease_expired_recovered",
      row.correlationId, stamp, rfl⟩

theorem recover_path {now : DateTime} {n : ℕ} (hk : Table.Keyed Task.taskId s.tasks)
    (h : recover H env now s = .ok (s', n)) :
    ∃ acts, (protocol H).Path s acts s' ∧ ∀ a ∈ acts, a.event = none := by
  rw [recover, bind_eq_ok] at h
  obtain ⟨s₁, hfold, h⟩ := h
  cases h
  have hactive : ∀ t, expiredAt now.iso t = true → t.isActive = true := fun t ht ↦
    (Bool.and_eq_true_iff.mp ht).1
  obtain ⟨hrows, hmem⟩ := scan_rows env.expiredOrder_perm hactive hk
  exact foldlM_path id (fun _ _ _ ↦ recoverRow_step) hk hrows hmem hfold

theorem recoverStalledRow_step {stamp : String} {workers : List Worker}
    {b b' : Store × StallCounts} {row : Task} (hk : Table.Keyed Task.taskId b.1.tasks)
    (hrow : row ∈ b.1.tasks) (hactive : row.isActive = true)
    (h : recoverStalledRow H cfg env stamp workers b row = .ok b') :
    ∃ a, a.event = none ∧ a.taskId? = some row.taskId ∧ (protocol H).step b.1 a b'.1 := by
  obtain ⟨s, n⟩ := b
  have hlook := hk.lookup_of_mem hrow
  rw [recoverStalledRow] at h
  by_cases hex : row.exhausted = true
  · simp only [hex, if_true, bind_eq_ok] at h
    obtain ⟨s₁, hwrite, h⟩ := h
    cases h
    have hs₁ := updateTask_ok (s := quarantineTask H row _ stamp s) hlook rfl hwrite
    subst hs₁
    refine ⟨.giveUp row.taskId, rfl, rfl, ?_⟩
    refine Effect.row (a := .giveUp row.taskId) rfl hlook ?_ nofun rfl ⟨_, rfl, rfl, rfl⟩
    exact ⟨hactive, hex, none, some "material_progress_timeout_max_attempts", row.correlationId,
      stamp, rfl⟩
  · simp only [hex, Bool.false_eq_true, if_false, bind_eq_ok] at h
    obtain ⟨alternative, -, h⟩ := h
    cases alternative with
    | true =>
      simp only [if_true, bind_eq_ok] at h
      obtain ⟨s₁, hwrite, h⟩ := h
      cases h
      have hs₁ := updateTask_ok hlook rfl hwrite
      subst hs₁
      refine ⟨.giveBack row.taskId, rfl, rfl, ?_⟩
      refine step_row (a := .giveBack row.taskId) rfl hlook ?_ nofun rfl
      exact ⟨hactive, by simpa using hex, none, some "material_progress_timeout_rerouted",
        row.correlationId, stamp, rfl⟩
    | false =>
      simp only [Bool.false_eq_true, if_false, bind_eq_ok] at h
      obtain ⟨s₁, hwrite, h⟩ := h
      cases h
      have hs₁ := updateTask_ok hlook rfl hwrite
      subst hs₁
      refine ⟨.block row.taskId, rfl, rfl, ?_⟩
      refine step_row (a := .block row.taskId) rfl hlook ?_ nofun rfl
      exact ⟨hactive, some "material_progress_timeout_no_alternative",
        some "material_progress_timeout_no_alternative", row.correlationId, stamp,
        row.lastMaterialProgressAt, Or.inl rfl, rfl⟩

theorem recoverStalled_path {now : DateTime} {n : StallCounts}
    (hk : Table.Keyed Task.taskId s.tasks) (h : recoverStalled H cfg env now s = .ok (s', n)) :
    ∃ acts, (protocol H).Path s acts s' ∧ ∀ a ∈ acts, a.event = none := by
  rw [recoverStalled, bind_eq_ok] at h
  obtain ⟨rows, hscan, hfold⟩ := h
  rw [stalledRows, orThrow_bind_eq_ok] at hscan
  obtain ⟨cutoff, -, hscan⟩ := hscan
  cases hscan
  have hactive : ∀ t, stalledAt cutoff.iso t = true → t.isActive = true := fun t ht ↦
    (Bool.and_eq_true_iff.mp ht).1
  obtain ⟨hrows, hmem⟩ := scan_rows env.stalledOrder_perm hactive hk
  exact foldlM_path Prod.fst (fun _ _ _ ↦ recoverStalledRow_step) hk
    hrows hmem hfold

/-! ## Calls as paths -/

/-- A call appears as a path of acts with the marks of the call. An act that counts as a decision is
the only one of its call. -/
def Refines (H : Host) (s : Store) (l : Call × Except PoolError Reply) (s' : Store) : Prop :=
  ∃ acts, (protocol H).Path s acts s' ∧ acts.filterMap Act.event = events l
    ∧ (acts.length = 1 ∨ ∀ a ∈ acts, ¬a.IsDecision)

theorem not_isDecision_of_silent {a : Act} (h : a.event = none) : ¬a.IsDecision := by
  cases a <;> simp_all [Act.event, Act.IsDecision]

theorem filterMap_event_of_silent {acts : List Act} (h : ∀ a ∈ acts, a.event = none) :
    acts.filterMap Act.event = [] := List.filterMap_eq_nil_iff.mpr h

theorem Refines.error (s : Store) (c : Call) (e : PoolError) : Refines H s (c, .error e) s :=
  ⟨[], TransitionSystem.Path.nil s, rfl, Or.inr (List.forall_mem_nil _)⟩

theorem Refines.single {c : Call} {r : Except PoolError Reply} {a : Act}
    (hstep : (protocol H).step s a s') (hevent : a.event.toList = events (c, r)) :
    Refines H s (c, r) s' := by
  refine ⟨[a], TransitionSystem.Path.single hstep, ?_, Or.inl rfl⟩
  rw [← hevent]
  cases ha : a.event <;> simp [ha]

theorem Refines.silent {c : Call} {r : Except PoolError Reply} {acts : List Act}
    (hpath : (protocol H).Path s acts s') (hsilent : ∀ a ∈ acts, a.event = none)
    (hevents : events (c, r) = []) : Refines H s (c, r) s' :=
  ⟨acts, hpath, (filterMap_event_of_silent hsilent).trans hevents.symm,
    Or.inr fun a ha ↦ not_isDecision_of_silent (hsilent a ha)⟩

/-- **A condition on calls becomes a condition on acts.** It is stated on the marks of a call and
the database before it, and asks nothing of the acts that are no decision. -/
theorem Refines.restrict {C : Store → Event → Prop} {l : Call × Except PoolError Reply}
    (hfree : ∀ s (a : Act) e, ¬a.IsDecision → a.event = some e → C s e) (h : Refines H s l s')
    (hl : ∀ e ∈ events l, C s e) :
    ∃ acts, ((protocol H).restrict fun s a ↦ ∀ e, a.event = some e → C s e).Path s acts s' := by
  obtain ⟨acts, hpath, hevents, hone | hnone⟩ := h
  · obtain ⟨a, rfl⟩ := List.length_eq_one_iff.mp hone
    have hstep := hpath.step_of_single
    refine ⟨[a], TransitionSystem.Path.single ⟨fun e he ↦ hl e ?_, hstep⟩⟩
    rw [← hevents]
    simp [he]
  · exact ⟨acts, hpath.restrict_of_forall fun a ha s e he ↦ hfree s a e (hnone a ha) he⟩

/-! ## Administration -/

variable {r : Except PoolError Reply}

theorem registerWorker_refines {a : RegisterArgs} (h : registerWorker H env a s = (s', r)) :
    Refines H s (⟨.registerWorker a, env⟩, r) s' := by
  rcases transaction_cases h with ⟨_, hbody, -⟩ | ⟨rfl, e, -, rfl⟩
  · simp only [require_bind_eq_ok, orThrow_bind_eq_ok, bindInteger] at hbody
    obtain ⟨-, role, -, profile, -, -, -, hbody⟩ := hbody
    cases hbody
    refine Refines.single (a := .setup) Effect.setup ?_
    cases r <;> rfl
  · exact Refines.error _ _ e

theorem heartbeatWorker_refines {a : HeartbeatArgs} (h : heartbeatWorker H env a s = (s', r)) :
    Refines H s (⟨.heartbeatWorker a, env⟩, r) s' := by
  rcases transaction_cases h with ⟨_, hbody, -⟩ | ⟨rfl, e, -, rfl⟩
  · rw [bind_eq_ok] at hbody
    obtain ⟨current, -, hbody⟩ := hbody
    rw [bind_eq_ok] at hbody
    obtain ⟨s₁, hwrite, hbody⟩ := hbody
    cases hbody
    rw [heartbeatWrite, orThrow_bind_eq_ok] at hwrite
    obtain ⟨profile, -, hwrite⟩ := hwrite
    cases hwrite
    refine Refines.single (a := .setup) Effect.setup ?_
    cases r <;> rfl
  · exact Refines.error _ _ e

theorem validateRepository_ok {repository normalized : String}
    (h : validateRepository repository = .ok normalized) :
    normalized = strip repository ∧ validateRepository normalized = .ok normalized := by
  rw [validateRepository, require_bind_eq_ok] at h
  obtain ⟨hform, h⟩ := h
  cases h
  refine ⟨rfl, ?_⟩
  rw [validateRepository, require_bind_eq_ok, strip_strip]
  exact ⟨hform, rfl⟩

/-- A lane is found again after it was written. -/
theorem getRepository_upsert {repository normalized : String}
    (hvalid : validateRepository repository = .ok normalized) (new : Lane)
    (hnew : new.repository = normalized) (merge : Lane → Lane)
    (hmerge : ∀ old, (merge old).repository = old.repository) : ∃ lane, getRepository normalized
      { s with lanes := Table.upsert Lane.repository new merge s.lanes } = .ok lane := by
  obtain ⟨lane, hlane⟩ := Table.exists_lookup_upsert new
    (fun old hold ↦ (hmerge old).trans hold) s.lanes
  refine ⟨lane, ?_⟩
  rw [getRepository, (validateRepository_ok hvalid).2]
  rw [hnew] at hlane
  exact orThrow_eq_ok.mpr hlane

theorem configureRepository_refines {a : ConfigureArgs}
    (h : configureRepository env a s = (s', r)) :
    Refines H s (⟨.configureRepository a, env⟩, r) s' := by
  rcases transaction_cases h with ⟨repository, hbody, hr⟩ | ⟨rfl, e, -, rfl⟩
  · rw [bind_eq_ok] at hbody
    obtain ⟨normalized, hvalid, hbody⟩ := hbody
    rw [require_bind_eq_ok] at hbody
    obtain ⟨hmax, hbody⟩ := hbody
    cases hbody
    have hstrip := (validateRepository_ok hvalid).1
    -- the lane that was just written is found again, so the call returns
    obtain ⟨lane, hget⟩ := getRepository_upsert (s := s) hvalid
      (newLane repository a.enabled a.maxInFlight (env.clock 0).iso) rfl
      (fun old ↦ { old with enabled := a.enabled, maxInFlight := a.maxInFlight,
                            updatedAt := (env.clock 0).iso }) fun _ ↦ rfl
    have hok : r = .ok (.repository lane) := by
      rw [hr, hget]
      rfl
    subst hok
    refine Refines.single (a := .configure repository a.maxInFlight) (Effect.configure ?_) ?_
    · omega
    · rw [hstrip]
      rfl
  · exact Refines.error _ _ e

theorem insertAffinities_path (H : Host) (env : Env) (workerId : String) (k : ℕ)
    (repositories : List String) (s : Store) : ∃ acts, (protocol H).Path s acts (insertAffinities env workerId k repositories s)
      ∧ ∀ a ∈ acts, a.event = none := by
  induction repositories generalizing k s with
  | nil => exact ⟨[], TransitionSystem.Path.nil s, List.forall_mem_nil _⟩
  | cons repository rest ih =>
    rw [insertAffinities]
    set lane := ensureRepositoryLane (env.clock k) repository s with hlane
    obtain ⟨acts, hpath, hsilent⟩ := ih (k + 1)
      { lane with affinities := lane.affinities ++ [⟨workerId, repository⟩] }
    have hadd : (protocol H).step s (.addLane repository) lane := Effect.addLane
    have hsetup : (protocol H).step lane .setup
      { lane with affinities := lane.affinities ++ [⟨workerId, repository⟩] } := Effect.setup
    refine ⟨.addLane repository :: .setup :: acts, ?_, ?_⟩
    · exact (TransitionSystem.Path.single hadd).append
        ((TransitionSystem.Path.single hsetup).append hpath)
    · exact List.forall_mem_cons.mpr ⟨rfl, List.forall_mem_cons.mpr ⟨rfl, hsilent⟩⟩

theorem replaceWorkerAffinities_refines {workerId : String} {repositories : List String}
    (h : replaceWorkerAffinities env workerId repositories s = (s', r)) :
    Refines H s (⟨.replaceWorkerAffinities workerId repositories, env⟩, r) s' := by
  rcases transaction_cases h with ⟨_, hbody, -⟩ | ⟨rfl, e, -, rfl⟩
  · rw [bind_eq_ok] at hbody
    obtain ⟨_, -, hbody⟩ := hbody
    rw [bind_eq_ok] at hbody
    obtain ⟨checked, -, hbody⟩ := hbody
    cases hbody
    obtain ⟨acts, hpath, hsilent⟩ := insertAffinities_path H env workerId 0
      (checked.dedup.insertionSort (· ≤ ·))
      { s with affinities := s.affinities.filter fun a ↦ a.workerId ≠ workerId }
    have hsetup : (protocol H).step s .setup
      { s with affinities := s.affinities.filter fun a ↦ a.workerId ≠ workerId } := Effect.setup
    have hboth := (TransitionSystem.Path.single hsetup).append hpath
    refine Refines.silent hboth (List.forall_mem_cons.mpr ⟨rfl, hsilent⟩) ?_
    cases r <;> rfl
  · exact Refines.error _ _ e

/-! ## Enqueueing -/

theorem fresh_newTask (a : EnqueueArgs) (key taskBranch : String) (stamp : DateTime)
    (baseSha : Option String) {attempts : ℤ} (hattempts : 1 ≤ attempts) :
    (newTask H a key taskBranch stamp.iso baseSha attempts).Fresh :=
  ⟨rfl, rfl, rfl, rfl, rfl, rfl, ⟨stamp, rfl⟩, rfl, hattempts⟩

theorem enqueueTask_refines {a : EnqueueArgs} (h : enqueueTask H cfg env a s = (s', r)) :
    Refines H s (⟨.enqueueTask a, env⟩, r) s' := by
  have hevents : events (⟨.enqueueTask a, env⟩, r) = [] := by cases r <;> rfl
  rcases transaction_cases h with ⟨_, hbody, -⟩ | ⟨rfl, e, -, rfl⟩
  · simp only [require_bind_eq_ok] at hbody
    obtain ⟨-, -, hbody⟩ := hbody
    rw [bind_eq_ok] at hbody
    obtain ⟨taskBranch, -, hbody⟩ := hbody
    rw [require_bind_eq_ok] at hbody
    obtain ⟨hattempts, hbody⟩ := hbody
    have hadd : (protocol H).step s (.addLane (strip a.repository))
      (ensureRepositoryLane (env.clock 1) (strip a.repository) s) := Effect.addLane
    rw [enqueueWrite] at hbody
    split at hbody
    next row hrow =>
      rw [require_bind_eq_ok] at hbody
      obtain ⟨-, hbody⟩ := hbody
      cases hbody
      exact Refines.single hadd hevents.symm
    next hnone =>
      simp only [bindInteger, require_bind_eq_ok] at hbody
      obtain ⟨-, -, -, hbody⟩ := hbody
      rw [bind_eq_ok] at hbody
      obtain ⟨s₁, hinsert, hbody⟩ := hbody
      cases hbody
      simp only [insertTask, require_bind_eq_ok] at hinsert
      obtain ⟨hkey, -, hinsert⟩ := hinsert
      cases hinsert
      have hlane : (Table.lookup Lane.repository (strip a.repository)
          (ensureRepositoryLane (env.clock 1) (strip a.repository) s).lanes).isSome :=
        Option.isSome_iff_exists.mpr (Table.exists_lookup_insertOrIgnore
          (newLane (strip a.repository) true 1 (env.clock 1).iso) s.lanes)
      have hnew := Effect.enqueue (H := H)
        (fresh_newTask a _ taskBranch (env.clock 0) _ (not_lt.mp hattempts)) hkey hlane
      refine Refines.silent
        ((TransitionSystem.Path.single hadd).append (TransitionSystem.Path.single hnew)) ?_ hevents
      simp [Act.event]
  · exact Refines.error _ _ e

/-! ## The operations of a lease holder

All six check the lease of a row and then write that row. `LeaseWrite` is what a successful call
leaves behind; everything else about these operations is derived from it. -/

/-- The holder of a lease performed `act` on its row. -/
def LeaseWrite (H : Host) (act : Act) (a : LeaseArgs) (s s' : Store) : Prop :=
  ∃ row t' quarantined, Table.lookup Task.taskId a.taskId s.tasks = some row
    ∧ row.HeldBy a.workerId a.leaseToken ∧ Change H act row t' ∧ Quarantines act row quarantined
    ∧ s' = { s with tasks := Table.update Task.taskId a.taskId (fun _ ↦ t') s.tasks,
                    quarantine := s.quarantine ++ quarantined }

/-- A call of a lease holder performed `act`, or raised and changed nothing. -/
def LeaseOutcome (H : Host) (act : Act) (a : LeaseArgs) (s s' : Store)
    (r : Except PoolError Reply) : Prop :=
  (LeaseWrite H act a s s' ∧ r = answerTask a.taskId s') ∨ (s' = s ∧ ∃ e, r = .error e)

theorem LeaseWrite.mk {act : Act} {a : LeaseArgs} {row : Task} {f : Task → Task}
    (hrow : Table.lookup Task.taskId a.taskId s.tasks = some row)
    (hheld : row.HeldBy a.workerId a.leaseToken) (hchange : Change H act row (f row))
    (hquarantine : Quarantines act row []) (hwrite : updateTask a.taskId f s = .ok s') :
    LeaseWrite H act a s s' := by
  refine ⟨row, f row, [], hrow, hheld, hchange, hquarantine, ?_⟩
  rw [List.append_nil]
  exact updateTask_ok hrow hchange.identity_eq.1 hwrite

theorem LeaseWrite.refines {act : Act} {a : LeaseArgs} {c : Call}
    (h : LeaseWrite H act a s s') (hk : Table.Keyed Task.taskId s.tasks)
    (hr : r = answerTask a.taskId s') (htid : act.taskId? = some a.taskId)
    (hclaim : ∀ tid worker token role, act ≠ .claim tid worker token role)
    (hevents : ∀ t, act.event.toList = events (c, .ok (.task t))) : Refines H s (c, r) s' := by
  obtain ⟨row, t', quarantined, hrow, -, hchange, hquarantine, rfl⟩ := h
  obtain rfl := hr.trans (answerTask_update hk hrow rfl hchange.identity_eq.1)
  refine Refines.single (Effect.row htid hrow hchange ?_ rfl hquarantine) (hevents t')
  exact fun tid worker token role heq ↦ absurd heq (hclaim tid worker token role)

theorem LeaseOutcome.refines {act : Act} {a : LeaseArgs} {c : Call}
    (h : LeaseOutcome H act a s s' r) (hk : Table.Keyed Task.taskId s.tasks)
    (htid : act.taskId? = some a.taskId)
    (hclaim : ∀ tid worker token role, act ≠ .claim tid worker token role)
    (hevents : ∀ t, act.event.toList = events (c, .ok (.task t))) : Refines H s (c, r) s' := by
  rcases h with ⟨hwrite, hr⟩ | ⟨rfl, e, rfl⟩
  · exact hwrite.refines hk hr htid hclaim hevents
  · exact Refines.error _ _ e

theorem renewLease_outcome {a : LeaseArgs} {n : Option ℤ} (h : renewLease cfg env a n s = (s', r)) :
    LeaseOutcome H (.renew a.taskId a.workerId a.leaseToken) a s s' r := by
  rcases transaction_cases h with ⟨_, hbody, hr⟩ | ⟨rfl, e, -, rfl⟩
  · rw [orThrow_bind_eq_ok] at hbody
    obtain ⟨expires, -, hbody⟩ := hbody
    rw [bind_eq_ok] at hbody
    obtain ⟨row, hlease, hbody⟩ := hbody
    rw [bind_eq_ok] at hbody
    obtain ⟨s₁, hwrite, hbody⟩ := hbody
    cases hbody
    obtain ⟨hrow, hstate, hheld, -⟩ := leaseRow_ok hlease
    refine Or.inl ⟨LeaseWrite.mk hrow hheld ?_ rfl hwrite, hr⟩
    exact ⟨mem_active_iff.mp hstate, hheld, expires, env.clock 2, a.correlationId, rfl⟩
  · exact Or.inr ⟨rfl, e, rfl⟩

theorem startTask_outcome {a : LeaseArgs} (h : startTask env a s = (s', r)) :
    LeaseOutcome H (.start a.taskId a.workerId a.leaseToken) a s s' r := by
  rcases transaction_cases h with ⟨_, hbody, hr⟩ | ⟨rfl, e, -, rfl⟩
  · rw [bind_eq_ok] at hbody
    obtain ⟨row, hlease, hbody⟩ := hbody
    rw [bind_eq_ok] at hbody
    obtain ⟨w, -, hbody⟩ := hbody
    rw [require_bind_eq_ok] at hbody
    obtain ⟨-, hbody⟩ := hbody
    rw [bind_eq_ok] at hbody
    obtain ⟨s₁, hwrite, hbody⟩ := hbody
    cases hbody
    obtain ⟨hrow, hstate, hheld, -⟩ := leaseRow_ok hlease
    refine Or.inl ⟨LeaseWrite.mk hrow hheld ?_ rfl hwrite, hr⟩
    exact ⟨List.mem_singleton.mp hstate, hheld, env.clock 1, a.correlationId, rfl⟩
  · exact Or.inr ⟨rfl, e, rfl⟩

theorem submitForValidation_outcome {a : LeaseArgs} {producedSha : String}
    (h : submitForValidation H env a producedSha s = (s', r)) :
    LeaseOutcome H (.submit a.taskId a.workerId a.leaseToken producedSha) a s s' r := by
  rcases transaction_cases h with ⟨_, hbody, hr⟩ | ⟨rfl, e, -, rfl⟩
  · rw [require_bind_eq_ok] at hbody
    obtain ⟨hsha, hbody⟩ := hbody
    rw [bind_eq_ok] at hbody
    obtain ⟨row, hlease, hbody⟩ := hbody
    rw [require_bind_eq_ok] at hbody
    obtain ⟨hbuilder, hbody⟩ := hbody
    rw [bind_eq_ok] at hbody
    obtain ⟨s₁, hwrite, hbody⟩ := hbody
    cases hbody
    obtain ⟨hrow, hstate, hheld, -⟩ := leaseRow_ok hlease
    refine Or.inl ⟨LeaseWrite.mk hrow hheld ?_ rfl hwrite, hr⟩
    exact ⟨List.mem_singleton.mp hstate, hheld, hbuilder, hsha, env.clock 1, a.correlationId, rfl⟩
  · exact Or.inr ⟨rfl, e, rfl⟩

theorem completeTask_outcome {a : LeaseArgs} (h : completeTask env a s = (s', r)) :
    LeaseOutcome H (.complete a.taskId a.workerId a.leaseToken) a s s' r := by
  rcases transaction_cases h with ⟨_, hbody, hr⟩ | ⟨rfl, e, -, rfl⟩
  · rw [bind_eq_ok] at hbody
    obtain ⟨row, hlease, hbody⟩ := hbody
    rw [bind_eq_ok] at hbody
    obtain ⟨w, -, hbody⟩ := hbody
    rw [require_bind_eq_ok] at hbody
    obtain ⟨hindependent, hbody⟩ := hbody
    rw [require_bind_eq_ok] at hbody
    obtain ⟨hproduced, hbody⟩ := hbody
    rw [bind_eq_ok] at hbody
    obtain ⟨s₁, hwrite, hbody⟩ := hbody
    cases hbody
    obtain ⟨hrow, hstate, hheld, -⟩ := leaseRow_ok hlease
    refine Or.inl ⟨LeaseWrite.mk hrow hheld ?_ rfl hwrite, hr⟩
    exact ⟨List.mem_singleton.mp hstate, hheld, (not_or.mp hindependent).2, hproduced,
      env.clock 1, a.correlationId, rfl⟩
  · exact Or.inr ⟨rfl, e, rfl⟩

theorem failTask_outcome {a : LeaseArgs} {reason : String}
    (h : failTask H env a reason s = (s', r)) :
    LeaseOutcome H (.giveUp a.taskId) a s s' r ∨ LeaseOutcome H (.giveBack a.taskId) a s s' r := by
  rcases transaction_cases h with ⟨_, hbody, hr⟩ | ⟨rfl, e, -, rfl⟩
  · rw [bind_eq_ok] at hbody
    obtain ⟨row, hlease, hbody⟩ := hbody
    rw [bind_eq_ok] at hbody
    obtain ⟨s₁, hwrite, hbody⟩ := hbody
    cases hbody
    obtain ⟨hrow, hstate, hheld, -⟩ := leaseRow_ok hlease
    have hactive := mem_active_iff.mp hstate
    by_cases hex : row.exhausted = true
    · simp only [hex, if_true] at hwrite
      refine Or.inl (Or.inl ⟨⟨row, _, _, hrow, hheld, ?_, ⟨_, rfl, rfl, rfl⟩,
        updateTask_ok (s := quarantineTask H row _ _ s) hrow rfl hwrite⟩, hr⟩)
      exact ⟨hactive, hex, row.blockedReason, _, a.correlationId, (env.clock 0).iso, rfl⟩
    · simp only [hex, Bool.false_eq_true, if_false] at hwrite
      refine Or.inr (Or.inl ⟨LeaseWrite.mk hrow hheld ?_ rfl hwrite, hr⟩)
      exact ⟨hactive, by simpa using hex, row.blockedReason, _, a.correlationId,
        (env.clock 0).iso, rfl⟩
  · exact Or.inl (Or.inr ⟨rfl, e, rfl⟩)

theorem blockTask_outcome {a : LeaseArgs} {reason : String}
    (h : blockTask H env a reason s = (s', r)) : LeaseOutcome H (.block a.taskId) a s s' r := by
  rcases transaction_cases h with ⟨_, hbody, hr⟩ | ⟨rfl, e, -, rfl⟩
  · rw [require_bind_eq_ok] at hbody
    obtain ⟨-, hbody⟩ := hbody
    rw [bind_eq_ok] at hbody
    obtain ⟨row, hlease, hbody⟩ := hbody
    rw [bind_eq_ok] at hbody
    obtain ⟨s₁, hwrite, hbody⟩ := hbody
    cases hbody
    obtain ⟨hrow, hstate, hheld, -⟩ := leaseRow_ok hlease
    refine Or.inl ⟨LeaseWrite.mk hrow hheld ?_ rfl hwrite, hr⟩
    exact ⟨mem_active_iff.mp hstate, _, row.lastError, a.correlationId, (env.clock 1).iso, _,
      Or.inr ⟨env.clock 1, rfl⟩, rfl⟩
  · exact Or.inr ⟨rfl, e, rfl⟩

/-- A call of `requeue_blocked` releases a blocked row, or raises and changes nothing. -/
theorem requeueBlocked_outcome {tid corr : String} (hk : Table.Keyed Task.taskId s.tasks)
    (h : requeueBlocked env tid corr s = (s', r)) :
    (∃ row t', Table.lookup Task.taskId tid s.tasks = some row ∧ Change H (.requeue tid) row t'
        ∧ s' = { s with tasks := Table.update Task.taskId tid (fun _ ↦ t') s.tasks }
        ∧ r = .ok (.task t'))
      ∨ (s' = s ∧ ∃ e, r = .error e) := by
  rcases transaction_cases h with ⟨_, hbody, hr⟩ | ⟨rfl, e, -, rfl⟩
  · rw [orThrow_bind_eq_ok] at hbody
    obtain ⟨row, hrow, hbody⟩ := hbody
    rw [require_bind_eq_ok] at hbody
    obtain ⟨hblocked, hbody⟩ := hbody
    rw [bind_eq_ok] at hbody
    obtain ⟨s₁, hwrite, hbody⟩ := hbody
    cases hbody
    obtain rfl := updateTask_ok hrow rfl hwrite
    exact Or.inl ⟨row, _, hrow, ⟨hblocked, env.clock 0, corr, rfl⟩, rfl,
      hr.trans (answerTask_update hk hrow rfl rfl)⟩
  · exact Or.inr ⟨rfl, e, rfl⟩

theorem requeueBlocked_refines {tid corr : String} (hk : Table.Keyed Task.taskId s.tasks)
    (h : requeueBlocked env tid corr s = (s', r)) :
    Refines H s (⟨.requeueBlocked tid corr, env⟩, r) s' := by
  rcases requeueBlocked_outcome (H := H) hk h with ⟨row, t', hrow, hchange, rfl, rfl⟩ |
    ⟨rfl, e, rfl⟩
  · exact Refines.single (a := .requeue tid) (step_row rfl hrow hchange nofun rfl) rfl
  · exact Refines.error _ _ e

theorem recoverExpiredLeases_refines (hk : Table.Keyed Task.taskId s.tasks)
    (h : recoverExpiredLeases H env s = (s', r)) :
    Refines H s (⟨.recoverExpiredLeases, env⟩, r) s' := by
  rcases transaction_cases h with ⟨n, hbody, rfl⟩ | ⟨rfl, e, -, rfl⟩
  · obtain ⟨acts, hpath, hsilent⟩ := recover_path hk hbody
    exact Refines.silent hpath hsilent rfl
  · exact Refines.error _ _ e

theorem recoverStalledTasks_refines (hk : Table.Keyed Task.taskId s.tasks)
    (h : recoverStalledTasks H cfg env s = (s', r)) :
    Refines H s (⟨.recoverStalledTasks, env⟩, r) s' := by
  rcases transaction_cases h with ⟨n, hbody, rfl⟩ | ⟨rfl, e, -, rfl⟩
  · obtain ⟨acts, hpath, hsilent⟩ := recoverStalled_path hk hbody
    exact Refines.silent hpath hsilent rfl
  · exact Refines.error _ _ e

/-! ## Claiming -/

theorem ready_ok {now : DateTime} {workerId : String} {role : Role} {w : Worker}
    (h : ready cfg now workerId role s = .ok w) : holdsActiveTask workerId s = false := by
  simp only [ready, require_bind_eq_ok, orThrow_bind_eq_ok] at h
  obtain ⟨_, -, -, -, -, -, h⟩ := h
  rw [bind_eq_ok] at h
  obtain ⟨_, -, h⟩ := h
  simp only [require_bind_eq_ok] at h
  simpa using h.2.1

theorem mem_tasksWithLane {c : Task × Lane} (h : c ∈ tasksWithLane s) :
    c.1 ∈ s.tasks ∧ Table.lookup Lane.repository c.1.repository s.lanes = some c.2 := by
  obtain ⟨t, ht, hc⟩ := List.mem_filterMap.mp h
  obtain ⟨r, hr, rfl⟩ := Option.map_eq_some_iff.mp hc
  exact ⟨ht, hr⟩

/-- What the query of `claim_task` promises about the row it returns. -/
theorem selectTask_spec {role : Role} {workerId : String} {row : Task}
    (h : selectTask role workerId s = some row) :
    row ∈ s.tasks ∧ row.state = (claimStates role).1
      ∧ (role = .validator → row.producedSha ≠ none ∧ row.builderWorkerId ≠ some workerId)
      ∧ (role = .builder → ∃ r, Table.lookup Lane.repository row.repository s.lanes = some r
          ∧ (activeCount row.repository s.tasks : ℤ) < r.maxInFlight) := by
  cases role with
  | builder =>
    obtain ⟨c, hc, rfl⟩ := Option.map_eq_some_iff.mp h
    obtain ⟨hjoin, helig⟩ := List.mem_filter.mp (Table.mem_of_least hc)
    obtain ⟨hmem, hlane⟩ := mem_tasksWithLane hjoin
    rw [builderEligible, decide_eq_true_iff] at helig
    exact ⟨hmem, helig.1, nofun, fun _ ↦ ⟨c.2, hlane, helig.2.2.2⟩⟩
  | validator =>
    obtain ⟨c, hc, rfl⟩ := Option.map_eq_some_iff.mp h
    obtain ⟨hjoin, helig⟩ := List.mem_filter.mp (Table.mem_of_least hc)
    obtain ⟨hmem, -⟩ := mem_tasksWithLane hjoin
    rw [validatorEligible, decide_eq_true_iff] at helig
    exact ⟨hmem, helig.1, fun _ ↦ ⟨helig.2.2.1, helig.2.2.2.1⟩, nofun⟩

theorem limit_bumpLane (role : Role) (stamp : String) (r : Lane) :
    (bumpLane role stamp r).limit = r.limit := by
  cases role <;> rfl

/-- The counters of the lanes change, their limits do not. -/
theorem map_limit_bumpLane (role : Role) (stamp repository : String) (lanes : List Lane) :
    (Table.update Lane.repository repository (bumpLane role stamp) lanes).map Lane.limit
      = lanes.map Lane.limit := by
  rw [Table.update, List.map_map]
  refine List.map_congr_left fun r _ ↦ ?_
  by_cases hr : r.repository = repository
  · simp [hr, limit_bumpLane]
  · simp [hr]

theorem grantLease_step {a : ClaimArgs} {role : Role} {row : Task} {expires stamp : DateTime}
    (hk : Table.Keyed Task.taskId s.tasks) (hidle : holdsActiveTask a.workerId s = false)
    (hselect : selectTask role a.workerId s = some row)
    (h : grantLease env a role row expires.iso stamp.iso s = .ok s') :
    (protocol H).step s (.claim row.taskId a.workerId env.token role) s'
      ∧ ∃ t', s'.tasks = Table.update Task.taskId row.taskId (fun _ ↦ t') s.tasks
        ∧ t'.taskId = row.taskId := by
  obtain ⟨hmem, hstate, hvalidator, hbuilder⟩ := selectTask_spec hselect
  rw [grantLease, orThrow_bind_eq_ok] at h
  obtain ⟨t, hfind, h⟩ := h
  rw [bind_eq_ok] at h
  obtain ⟨s₁, hwrite, h⟩ := h
  cases h
  have hsel := List.find?_some hfind
  rw [decide_eq_true_iff] at hsel
  -- the row found by key is the row that was selected
  obtain rfl : t = row := hk.eq_of_key_eq (List.mem_of_find?_eq_some hfind) hmem hsel.1
  obtain rfl := writeTask_ok hwrite
  refine ⟨?_, _, rfl, rfl⟩
  have hguard : ∀ tid worker token r, Act.claim t.taskId a.workerId env.token role
      = .claim tid worker token r → ClaimAdmitted worker r t s := by
    intro tid worker token r heq
    cases heq
    exact ⟨hidle, hbuilder⟩
  have hchange : Change H (.claim t.taskId a.workerId env.token role) t _ :=
    ⟨hstate, hsel.2.2, hvalidator, expires, stamp, a.correlationId, rfl⟩
  have heffect := Effect.row rfl (hk.lookup_of_mem hmem) hchange hguard
    (map_limit_bumpLane role stamp.iso t.repository s.lanes) rfl
  rwa [List.append_nil] at heffect

/-- A claim returns what it granted, or raises and changes nothing. -/
theorem claimTask_outcome {a : ClaimArgs} (hk : Table.Keyed Task.taskId s.tasks)
    (h : claimTask H cfg env a s = (s', r)) :
    (Refines H s (⟨.claimTask a, env⟩, r) s' ∧ ∃ grant, r = .ok (.claimed grant))
      ∨ (s' = s ∧ ∃ e, r = .error e) := by
  have hkeyed : ∀ {s₁ s₂ acts}, (protocol H).Path s₁ acts s₂ →
      Table.Keyed Task.taskId s₁.tasks → Table.Keyed Task.taskId s₂.tasks := fun hpath hk₁ ↦
    hpath.preserves (P := fun s ↦ Table.Keyed Task.taskId s.tasks)
      (fun hk₂ hstep ↦ Effect.keyed hstep hk₂) hk₁
  rcases transaction_cases h with ⟨grant, hbody, hr⟩ | ⟨rfl, e, -, rfl⟩
  · rw [orThrow_bind_eq_ok] at hbody
    obtain ⟨role, -, hbody⟩ := hbody
    rw [require_bind_eq_ok] at hbody
    obtain ⟨-, hbody⟩ := hbody
    rw [bind_eq_ok] at hbody
    obtain ⟨⟨s₁, n⟩, hrecover, hbody⟩ := hbody
    rw [bind_eq_ok] at hbody
    obtain ⟨⟨s₂, m⟩, hstalled, hbody⟩ := hbody
    rw [bind_eq_ok] at hbody
    obtain ⟨w, hready, hbody⟩ := hbody
    obtain ⟨acts₁, hpath₁, hsilent₁⟩ := recover_path hk hrecover
    have hk₁ := hkeyed hpath₁ hk
    obtain ⟨acts₂, hpath₂, hsilent₂⟩ := recoverStalled_path hk₁ hstalled
    have hk₂ := hkeyed hpath₂ hk₁
    have hpath := hpath₁.append hpath₂
    have hsilent : ∀ a ∈ acts₁ ++ acts₂, a.event = none := by
      intro a ha
      exact (List.mem_append.mp ha).elim (hsilent₁ a) (hsilent₂ a)
    cases hselect : selectTask role a.workerId s₂ with
    | none =>
      simp only [hselect] at hbody
      cases hbody
      exact Or.inl ⟨Refines.silent hpath hsilent (by rw [hr]; rfl), _, hr⟩
    | some row =>
      simp only [hselect, orThrow_bind_eq_ok] at hbody
      obtain ⟨expires, -, hbody⟩ := hbody
      rw [bind_eq_ok] at hbody
      obtain ⟨s₃, hgrant, hbody⟩ := hbody
      cases hbody
      obtain ⟨hstep, t', htasks, hid⟩ := grantLease_step (H := H) hk₂ (ready_ok hready) hselect
        hgrant
      obtain ⟨hmem, -⟩ := selectTask_spec hselect
      have hget := getTask_update hk₂ (hk₂.lookup_of_mem hmem) htasks hid
      simp only [hget] at hr
      obtain rfl := hr
      refine Or.inl ⟨⟨acts₁ ++ acts₂ ++ [_], hpath.snoc hstep, ?_, Or.inr fun b hb ↦ ?_⟩, _, rfl⟩
      · rw [List.filterMap_append, filterMap_event_of_silent hsilent]
        rfl
      · rcases List.mem_append.mp hb with hb | hb
        · exact not_isDecision_of_silent (hsilent b hb)
        · rw [List.mem_singleton.mp hb]
          exact not_false
  · exact Or.inr ⟨rfl, e, rfl⟩

theorem claimTask_refines {a : ClaimArgs} (hk : Table.Keyed Task.taskId s.tasks)
    (h : claimTask H cfg env a s = (s', r)) : Refines H s (⟨.claimTask a, env⟩, r) s' := by
  rcases claimTask_outcome hk h with ⟨hrefines, -⟩ | ⟨rfl, e, rfl⟩
  · exact hrefines
  · exact Refines.error _ _ e

/-! ## Refinement -/

/-- **Every call is a path of acts.** -/
theorem exec_refines {c : Call} (hk : Table.Keyed Task.taskId s.tasks)
    (h : exec H cfg c s = (s', r)) : Refines H s (c, r) s' := by
  obtain ⟨op, env⟩ := c
  cases op with
  | registerWorker a => exact registerWorker_refines h
  | heartbeatWorker a => exact heartbeatWorker_refines h
  | configureRepository a => exact configureRepository_refines h
  | replaceWorkerAffinities w rs => exact replaceWorkerAffinities_refines h
  | enqueueTask a => exact enqueueTask_refines h
  | claimTask a => exact claimTask_refines hk h
  | renewLease a n =>
    exact (renewLease_outcome h).refines hk rfl (fun _ _ _ _ ↦ Act.noConfusion) fun _ ↦ rfl
  | startTask a =>
    exact (startTask_outcome h).refines hk rfl (fun _ _ _ _ ↦ Act.noConfusion) fun _ ↦ rfl
  | submitForValidation a sha =>
    exact (submitForValidation_outcome h).refines hk rfl (fun _ _ _ _ ↦ Act.noConfusion)
      fun _ ↦ rfl
  | completeTask a =>
    exact (completeTask_outcome h).refines hk rfl (fun _ _ _ _ ↦ Act.noConfusion) fun _ ↦ rfl
  | failTask a reason =>
    rcases failTask_outcome h with hout | hout
    · exact hout.refines hk rfl (fun _ _ _ _ ↦ Act.noConfusion) fun _ ↦ rfl
    · exact hout.refines hk rfl (fun _ _ _ _ ↦ Act.noConfusion) fun _ ↦ rfl
  | blockTask a reason =>
    exact (blockTask_outcome h).refines hk rfl (fun _ _ _ _ ↦ Act.noConfusion) fun _ ↦ rfl
  | requeueBlocked tid corr => exact requeueBlocked_refines hk h
  | recoverExpiredLeases => exact recoverExpiredLeases_refines hk h
  | recoverStalledTasks => exact recoverStalledTasks_refines hk h

theorem keyed_of_run {acts : List Act} (h : (protocol H).Run acts s) :
    Table.Keyed Task.taskId s.tasks := by
  refine h.invariant (I := fun s ↦ Table.Keyed Task.taskId s.tasks) ?_ ?_
  · rintro s rfl
    exact List.nodup_nil
  · exact fun hk hstep ↦ Effect.keyed hstep hk

/-- A path of calls from a reachable database is a path of acts. -/
theorem path_refines {tr : List (Call × Except PoolError Reply)} {acts₀ : List Act}
    (hrun : (protocol H).Run acts₀ s) (h : (system H cfg).Path s tr s') :
    ∃ acts, (protocol H).Path s acts s' ∧ acts.filterMap Act.event = tr.flatMap events := by
  induction h with
  | nil => exact ⟨[], TransitionSystem.Path.nil _, rfl⟩
  | snoc _ hstep ih =>
    obtain ⟨acts, hpath, hevents⟩ := ih
    obtain ⟨acts', hpath', hevents', -⟩ := exec_refines (keyed_of_run (hrun.extend hpath)) hstep
    refine ⟨acts ++ acts', hpath.append hpath', ?_⟩
    rw [List.filterMap_append, List.flatMap_append, hevents, hevents', List.flatMap_singleton]

/-- **Runs of the store are runs of the protocol**, with the same marks in the same order. -/
theorem run_refines {tr : List (Call × Except PoolError Reply)} (h : (system H cfg).Run tr s) :
    ∃ acts, (protocol H).Run acts s ∧ acts.filterMap Act.event = tr.flatMap events := by
  obtain ⟨s₀, hinit, hpath⟩ := h
  have hstart : (protocol H).Run [] s₀ := TransitionSystem.Run.start hinit
  obtain ⟨acts, hacts, hevents⟩ := path_refines hstart hpath
  exact ⟨acts, hstart.extend hacts, hevents⟩

end WorkerPool

end ReqSys
