import Mathlib
import ReqSys.WorkerPool.Refinement

/-!
# The worker pool: the representation invariant of leases

Three columns represent one lease, the state column says whether there may be one, and the produced
commit says on which side of the hand-off the task is. `Task.LeaseOk` ties these columns together
for one row; `Store.Exclusive` says that a worker holds at most one task.

Both hold in every reachable database. Together they make two defences of the code redundant when
calls run one after the other: the index on the holder of an active task never refuses a write, and
the guarded update of `claim_task` always finds the row it selected.
-/

namespace ReqSys

namespace WorkerPool

open PyText

/-! ## The invariant -/

/-- The columns of one row fit together. -/
structure Task.LeaseOk (t : Task) : Prop where
  /-- The three columns of the lease are all null or all set. -/
  whole : (t.leasedBy = none ∧ t.leaseToken = none ∧ t.leaseExpiresAt = none)
    ∨ (t.leasedBy ≠ none ∧ t.leaseToken ≠ none ∧ t.leaseExpiresAt ≠ none)
  held : t.state = .leased ∨ t.state = .running → t.leasedBy ≠ none
  free : t.state = .queued ∨ t.state = .blocked ∨ t.state = .completed ∨ t.state = .failed →
    t.leasedBy = none
  unproduced : t.state = .queued ∨ t.state = .leased ∨ t.state = .running → t.producedSha = none
  produced : t.state = .validating ∨ t.state = .completed → t.producedSha ≠ none
  /-- A validating task is leased to the worker recorded as its validator. -/
  validator : t.state = .validating → ∀ w, t.leasedBy = some w → t.validatorWorkerId = some w
  hex : ∀ sha, t.producedSha = some sha → sha40 sha = true

/-- No worker holds two tasks. -/
def Store.Exclusive (s : Store) : Prop :=
  ∀ t ∈ s.tasks, ∀ t' ∈ s.tasks, ∀ w, t.leasedBy = some w → t'.leasedBy = some w →
    t.taskId = t'.taskId

/-! ## Reading the invariant -/

variable {H : Host} {cfg : Config} {env : Env} {s s' : Store} {a : Act} {t t' : Task}

theorem Task.isActive_iff : t.isActive = true
    ↔ t.state = .leased ∨ t.state = .running ∨ t.state = .validating := by
  simp [Task.isActive, TaskState.active]

theorem Task.LeaseOk.active_of_leased (h : t.LeaseOk) {w : String} (hw : t.leasedBy = some w) :
    t.isActive = true := by
  have hfree : ¬(t.state = .queued ∨ t.state = .blocked ∨ t.state = .completed
      ∨ t.state = .failed) := by
    intro hstate
    rw [h.free hstate] at hw
    cases hw
  rw [Task.isActive_iff]
  cases hs : t.state <;> simp [hs] at hfree ⊢

theorem sha40_ne_empty {sha : String} (h : sha40 sha = true) : sha ≠ "" := by
  rintro rfl
  exact absurd h (by decide)

/-- A task goes on with validation exactly if it has a produced commit. -/
theorem Task.LeaseOk.resumeState_eq (h : t.LeaseOk) :
    (t.producedSha = none ∧ t.resumeState = .queued)
      ∨ (t.producedSha ≠ none ∧ t.resumeState = .validating) := by
  rw [Task.resumeState]
  cases hsha : t.producedSha with
  | none => exact Or.inl ⟨rfl, rfl⟩
  | some sha =>
    have hne := sha40_ne_empty (h.hex sha hsha)
    exact Or.inr ⟨nofun, by simp [truthy, hne]⟩

/-! ## Rows -/

theorem Task.Fresh.leaseOk (h : t.Fresh) : t.LeaseOk where
  whole := Or.inl ⟨h.leasedBy, h.leaseToken, h.leaseExpiresAt⟩
  held := by simp [h.state]
  free _ := h.leasedBy
  unproduced _ := h.producedSha
  produced := by simp [h.state]
  validator := by simp [h.state]
  hex := by simp [h.producedSha]

/-- A released row in a state that admits no holder. -/
private theorem leaseOk_released {u : Task} (hnone : u.leasedBy = none) (htoken : u.leaseToken = none)
    (hexp : u.leaseExpiresAt = none)
    (hstate : u.state = .queued ∧ u.producedSha = none ∨ u.state = .validating
      ∧ u.producedSha ≠ none ∨ u.state = .blocked ∨ u.state = .completed ∧ u.producedSha ≠ none
      ∨ u.state = .failed)
    (hhex : ∀ sha, u.producedSha = some sha → sha40 sha = true) : u.LeaseOk where
  whole := Or.inl ⟨hnone, htoken, hexp⟩
  held h := by rcases h with h | h <;> simp [h] at hstate
  free _ := hnone
  unproduced h := by rcases h with h | h | h <;> simp_all
  produced h := by rcases h with h | h <;> simp_all
  validator _ w hw := by rw [hnone] at hw; cases hw
  hex := hhex

/-- **Every act keeps the columns of its row together.** -/
theorem Change.leaseOk (h : Change H a t t') (hok : t.LeaseOk) : t'.LeaseOk := by
  cases a <;> simp only [Change] at h
  case claim tid worker token role =>
    obtain ⟨hstate, -, hvalidator, _, _, _, rfl⟩ := h
    cases role with
    | builder =>
      exact ⟨Or.inr ⟨Option.some_ne_none _, Option.some_ne_none _, Option.some_ne_none _⟩,
        fun _ ↦ Option.some_ne_none _, by simp [claimStates],
        fun _ ↦ hok.unproduced (Or.inl hstate), by simp [claimStates], by simp [claimStates],
        hok.hex⟩
    | validator =>
      exact ⟨Or.inr ⟨Option.some_ne_none _, Option.some_ne_none _, Option.some_ne_none _⟩,
        fun _ ↦ Option.some_ne_none _, by simp [claimStates],
        by simp [claimStates], fun _ ↦ (hvalidator rfl).1, fun _ w hw ↦ hw, hok.hex⟩
  case renew tid worker token =>
    obtain ⟨-, ⟨hby, htoken⟩, _, _, _, rfl⟩ := h
    refine ⟨Or.inr ⟨?_, ?_, Option.some_ne_none _⟩, hok.held, hok.free, hok.unproduced, hok.produced,
      hok.validator, hok.hex⟩
    · simp [hby]
    · simp [htoken]
  case start tid worker token =>
    obtain ⟨hstate, ⟨hby, -⟩, _, _, rfl⟩ := h
    exact ⟨hok.whole, fun _ ↦ by simp [hby], by simp,
      fun _ ↦ hok.unproduced (Or.inr (Or.inl hstate)), by simp, by simp, hok.hex⟩
  case submit tid worker token given =>
    obtain ⟨-, -, -, hsha, _, _, rfl⟩ := h
    refine leaseOk_released rfl rfl rfl (Or.inr (Or.inl ⟨rfl, Option.some_ne_none _⟩)) ?_
    rintro sha hsome
    cases hsome
    exact hsha
  case complete tid worker token =>
    obtain ⟨hstate, -, -, -, _, _, rfl⟩ := h
    exact leaseOk_released rfl rfl rfl
      (Or.inr (Or.inr (Or.inr (Or.inl ⟨rfl, hok.produced (Or.inl hstate)⟩)))) hok.hex
  case giveBack tid =>
    obtain ⟨-, -, _, _, _, _, rfl⟩ := h
    refine leaseOk_released rfl rfl rfl ?_ hok.hex
    rcases hok.resumeState_eq with ⟨hsha, hres⟩ | ⟨hsha, hres⟩
    · exact Or.inl ⟨hres, hsha⟩
    · exact Or.inr (Or.inl ⟨hres, hsha⟩)
  case giveUp tid =>
    obtain ⟨-, -, _, _, _, _, rfl⟩ := h
    exact leaseOk_released rfl rfl rfl (Or.inr (Or.inr (Or.inr (Or.inr rfl)))) hok.hex
  case block tid =>
    obtain ⟨-, _, _, _, _, _, -, rfl⟩ := h
    exact leaseOk_released rfl rfl rfl (Or.inr (Or.inr (Or.inl rfl))) hok.hex
  case requeue tid =>
    obtain ⟨hstate, _, _, rfl⟩ := h
    have hnone : t.leasedBy = none := hok.free (Or.inr (Or.inl hstate))
    obtain ⟨-, htoken, hexp⟩ := hok.whole.resolve_right fun hne ↦ hne.1 hnone
    refine leaseOk_released hnone htoken hexp ?_ hok.hex
    rcases hok.resumeState_eq with ⟨hsha, hres⟩ | ⟨hsha, hres⟩
    · exact Or.inl ⟨hres, hsha⟩
    · exact Or.inr (Or.inl ⟨hres, hsha⟩)

/-- Only a claim gives a row a holder it did not have. -/
theorem Change.leasedBy_cases (h : Change H a t t') {w : String} (hw : t'.leasedBy = some w) :
    t.leasedBy = some w ∨ ∃ tid token role, a = .claim tid w token role := by
  cases a <;> simp only [Change] at h
  case claim tid worker token role =>
    obtain ⟨-, -, -, _, _, _, rfl⟩ := h
    cases hw
    exact Or.inr ⟨tid, token, role, rfl⟩
  case renew =>
    obtain ⟨-, -, _, _, _, rfl⟩ := h
    exact Or.inl hw
  case start =>
    obtain ⟨-, -, _, _, rfl⟩ := h
    exact Or.inl hw
  case submit =>
    obtain ⟨-, -, -, -, _, _, rfl⟩ := h
    cases hw
  case complete =>
    obtain ⟨-, -, -, -, _, _, rfl⟩ := h
    cases hw
  case giveBack =>
    obtain ⟨-, -, _, _, _, _, rfl⟩ := h
    cases hw
  case giveUp =>
    obtain ⟨-, -, _, _, _, _, rfl⟩ := h
    cases hw
  case block =>
    obtain ⟨-, _, _, _, _, _, -, rfl⟩ := h
    cases hw
  case requeue =>
    obtain ⟨-, _, _, rfl⟩ := h
    exact Or.inl hw

/-! ## The database -/

/-- The representation invariant of the database. -/
structure Store.LeaseInv (s : Store) : Prop where
  keyed : Table.Keyed Task.taskId s.tasks
  rows : ∀ t ∈ s.tasks, t.LeaseOk
  exclusive : s.Exclusive

/-- Who holds a row after an act held it before, unless the act is a claim by that worker. -/
private theorem Effect.holder_cases (h : Effect H s a s') {r : Task} (hr : r ∈ s'.tasks) {w : String}
    (hw : r.leasedBy = some w) :
    (∃ t ∈ s.tasks, t.taskId = r.taskId ∧ t.leasedBy = some w)
      ∨ ∃ tid token role, a = .claim tid w token role ∧ r.taskId = tid
        ∧ holdsActiveTask w s = false := by
  rcases h.mem_cases hr with ⟨hr, -⟩ | ⟨-, hfresh, -⟩ | ⟨t, ht, hid, hchange⟩
  · exact Or.inl ⟨r, hr, rfl, hw⟩
  · rw [hfresh.leasedBy] at hw
    cases hw
  · rcases hchange.leasedBy_cases hw with hw | ⟨tid, token, role, rfl⟩
    · exact Or.inl ⟨t, ht, hchange.identity_eq.1.symm, hw⟩
    · refine Or.inr ⟨tid, token, role, rfl, ?_, ?_⟩
      · rw [hchange.identity_eq.1, Option.some.inj hid]
      · cases h with
        | row _ _ _ hguard _ _ => exact (hguard tid w token role rfl).1

theorem not_leased_of_idle (hinv : s.LeaseInv) {w : String} (hidle : holdsActiveTask w s = false)
    (ht : t ∈ s.tasks) : t.leasedBy ≠ some w := by
  intro hw
  have hactive := (hinv.rows t ht).active_of_leased hw
  have hany : holdsActiveTask w s = true :=
    List.any_eq_true.mpr ⟨t, ht, by rw [decide_eq_true_iff]; exact ⟨hw, hactive⟩⟩
  rw [hidle] at hany
  cases hany

theorem Effect.leaseInv (h : Effect H s a s') (hinv : s.LeaseInv) : s'.LeaseInv where
  keyed := h.keyed hinv.keyed
  rows r hr := by
    rcases h.mem_cases hr with ⟨hr, -⟩ | ⟨-, hfresh, -⟩ | ⟨t, ht, -, hchange⟩
    · exact hinv.rows r hr
    · exact hfresh.leaseOk
    · exact hchange.leaseOk (hinv.rows t ht)
  exclusive r hr r' hr' w hw hw' := by
    rcases h.holder_cases hr hw with ⟨t, ht, hid, htw⟩ | ⟨tid, token, role, ha, hid, hidle⟩
    · rcases h.holder_cases hr' hw' with ⟨t', ht', hid', htw'⟩ | ⟨_, _, _, -, -, hidle⟩
      · rw [← hid, ← hid']
        exact hinv.exclusive t ht t' ht' w htw htw'
      · exact absurd htw (not_leased_of_idle hinv hidle ht)
    · rcases h.holder_cases hr' hw' with ⟨t', ht', -, htw'⟩ | ⟨tid', token', role', ha', hid', -⟩
      · exact absurd htw' (not_leased_of_idle hinv hidle ht')
      · rw [ha] at ha'
        cases ha'
        rw [hid, hid']

theorem leaseInv_of_path {acts : List Act} (h : (protocol H).Path s acts s') (hinv : s.LeaseInv) :
    s'.LeaseInv :=
  h.preserves (P := Store.LeaseInv) (fun hinv hstep ↦ Effect.leaseInv hstep hinv) hinv

theorem leaseInv_of_protocol_run {acts : List Act} (h : (protocol H).Run acts s) : s.LeaseInv := by
  refine h.invariant (I := Store.LeaseInv) ?_ fun hinv hstep ↦ Effect.leaseInv hstep hinv
  rintro s rfl
  exact ⟨List.nodup_nil, List.forall_mem_nil _, fun t ht ↦ absurd ht List.not_mem_nil⟩

theorem leaseInv_of_run {tr : List (Call × Except PoolError Reply)}
    (h : (system H cfg).Run tr s) : s.LeaseInv := by
  obtain ⟨acts, hrun, -⟩ := run_refines h
  exact leaseInv_of_protocol_run hrun

/-! ## The defences that never fire

Which errors a call can raise is read off the guards in its body, so it is enough to look at the
writes: most of them clear the holder, `renew_lease` and `start_task` keep the holder of a row they
checked, and a claim writes a holder that `_ready` found idle. -/

/-- `ConflictError("task adquirida concorrentemente")`. -/
def concurrentClaim : PoolError := .conflict "task adquirida concorrentemente"

/-- An error other than the two that are claimed never to occur. -/
def PoolError.Ordinary (e : PoolError) : Prop :=
  e ≠ .integrity .workerActive ∧ e ≠ concurrentClaim

theorem ordinary_value (message : String) : (PoolError.value message).Ordinary := ⟨nofun, nofun⟩

theorem ordinary_notFound (message : String) : (PoolError.notFound message).Ordinary :=
  ⟨nofun, nofun⟩

theorem ordinary_overflow : PoolError.overflow.Ordinary := ⟨nofun, nofun⟩

theorem ordinary_conflict {message : String} (h : message ≠ "task adquirida concorrentemente") :
    (PoolError.conflict message).Ordinary :=
  ⟨nofun, fun heq ↦ h (PoolError.conflict.inj heq)⟩

/-- A message that starts with another letter. -/
theorem ordinary_conflict_of_head {message : String} {c : Char}
    (h : message.toList.head? = some c) (hc : c ≠ 't') : (PoolError.conflict message).Ordinary := by
  refine ordinary_conflict fun heq ↦ hc ?_
  rw [heq] at h
  exact (Option.some.inj h).symm

theorem writeTask_ordinary (h : ∀ u ∈ s.tasks, u.taskId ≠ t'.taskId → workerClash t' u = false) :
    OnlyRaises PoolError.Ordinary (writeTask t' s) := by
  intro e he
  simp only [writeTask] at he
  split at he
  next hany =>
    obtain ⟨u, hu, hclash⟩ := List.any_eq_true.mp hany
    obtain ⟨hmem, hne⟩ := List.mem_filter.mp hu
    rw [h u hmem (by simpa using hne)] at hclash
    cases hclash
  next =>
    split at he
    · cases he
      exact ⟨by rintro ⟨⟩, by rintro ⟨⟩⟩
    · cases he

theorem workerClash_of_free (h : t'.leasedBy = none) (u : Task) : workerClash t' u = false := by
  simp [workerClash, h]

/-- A write that leaves the row without a holder. -/
theorem updateTask_ordinary {tid : String} {f : Task → Task} (hf : ∀ u, (f u).leasedBy = none) :
    OnlyRaises PoolError.Ordinary (updateTask tid f s) := by
  rw [updateTask]
  split
  · exact OnlyRaises.ok s
  next u _ => exact writeTask_ordinary fun v _ _ ↦ workerClash_of_free (hf u) v

/-- A write that keeps the holder of the row. -/
theorem updateTask_ordinary_of_keep (hinv : s.LeaseInv) {tid : String} {f : Task → Task}
    (hid : ∀ u, (f u).taskId = u.taskId) (hkeep : ∀ u, (f u).leasedBy = u.leasedBy) :
    OnlyRaises PoolError.Ordinary (updateTask tid f s) := by
  rw [updateTask]
  split
  · exact OnlyRaises.ok s
  next u hu =>
    refine writeTask_ordinary fun v hv hne ↦ ?_
    by_contra hclash
    rw [Bool.not_eq_false, workerClash] at hclash
    simp only [Bool.and_eq_true, beq_iff_eq, hkeep] at hclash
    obtain ⟨⟨-, hsome⟩, heq⟩ := hclash
    obtain ⟨w, hw⟩ := Option.isSome_iff_exists.mp hsome
    refine hne ?_
    rw [hid]
    exact hinv.exclusive v hv u (Table.mem_of_lookup hu) w (heq ▸ hw) hw

theorem readStamp_ordinary (text : String) : OnlyRaises PoolError.Ordinary (readStamp text) :=
  OnlyRaises.orThrow fun _ ↦ ordinary_value _

theorem getWorker_ordinary (workerId : String) :
    OnlyRaises PoolError.Ordinary (getWorker workerId s) :=
  OnlyRaises.orThrow fun _ ↦ ordinary_notFound _

theorem answerTask_ordinary (tid : String) : OnlyRaises PoolError.Ordinary (answerTask tid s) :=
  OnlyRaises.bind (OnlyRaises.orThrow fun _ ↦ ordinary_notFound _) fun _ _ ↦ OnlyRaises.ok _

theorem leaseRow_ordinary (now : DateTime) (tid worker token : String) (allowed : List TaskState) :
    OnlyRaises PoolError.Ordinary (leaseRow now tid worker token allowed s) := by
  refine OnlyRaises.bind (OnlyRaises.orThrow fun _ ↦ ordinary_notFound _) fun row _ ↦ ?_
  refine OnlyRaises.bind (OnlyRaises.require ?_) fun _ _ ↦ ?_
  · exact ordinary_conflict_of_head (c := 'e') (by simp) (by decide)
  refine OnlyRaises.bind (OnlyRaises.require (ordinary_conflict (by decide))) fun _ _ ↦ ?_
  refine OnlyRaises.bind ?_ fun _ _ ↦ ?_
  · rw [leaseExpired]
    split
    · exact OnlyRaises.ok _
    · split
      · exact OnlyRaises.ok _
      · exact OnlyRaises.bind (readStamp_ordinary _) fun _ _ ↦ OnlyRaises.ok _
  exact OnlyRaises.bind (OnlyRaises.require (ordinary_conflict (by decide))) fun _ _ ↦
    OnlyRaises.ok _

theorem recover_ordinary (now : DateTime) : OnlyRaises PoolError.Ordinary (recover H env now s) := by
  refine OnlyRaises.bind (OnlyRaises.foldlM (fun s row ↦ ?_) _ _) fun _ _ ↦ OnlyRaises.ok _
  exact updateTask_ordinary fun _ ↦ rfl

theorem workerIsAlternative_ordinary (row : Task) (w : Worker) :
    OnlyRaises PoolError.Ordinary (workerIsAlternative cfg env row w s) := by
  simp only [workerIsAlternative]
  repeat' split
  all_goals first
    | exact OnlyRaises.ok _
    | exact OnlyRaises.bind (readStamp_ordinary _) fun _ _ ↦ OnlyRaises.ok _

theorem anyAlternative_ordinary (row : Task) (workers : List Worker) :
    OnlyRaises PoolError.Ordinary (anyAlternative cfg env row s workers) := by
  induction workers with
  | nil => exact OnlyRaises.ok _
  | cons w ws ih =>
    refine OnlyRaises.bind (workerIsAlternative_ordinary row w) fun b _ ↦ ?_
    cases b with
    | true => exact OnlyRaises.ok _
    | false => exact ih

theorem recoverStalledRow_ordinary (stamp : String) (workers : List Worker)
    (b : Store × StallCounts) (row : Task) :
    OnlyRaises PoolError.Ordinary (recoverStalledRow H cfg env stamp workers b row) := by
  have hwrite : ∀ {f : Task → Task} {s : Store} {n : StallCounts}, (∀ u, (f u).leasedBy = none) →
      OnlyRaises PoolError.Ordinary (do let s ← updateTask row.taskId f s; return (s, n)) :=
    fun hf ↦ OnlyRaises.bind (updateTask_ordinary hf) fun _ _ ↦ OnlyRaises.ok _
  simp only [recoverStalledRow]
  split
  · exact hwrite fun _ ↦ rfl
  · refine OnlyRaises.bind (anyAlternative_ordinary row workers) fun alternative _ ↦ ?_
    split
    · exact hwrite fun _ ↦ rfl
    · exact hwrite fun _ ↦ rfl

theorem recoverStalled_ordinary (now : DateTime) :
    OnlyRaises PoolError.Ordinary (recoverStalled H cfg env now s) := by
  refine OnlyRaises.bind ?_ fun _ _ ↦
    OnlyRaises.foldlM (fun b row ↦ recoverStalledRow_ordinary _ _ b row) _ _
  exact OnlyRaises.bind (OnlyRaises.orThrow fun _ ↦ ordinary_overflow) fun _ _ ↦ OnlyRaises.ok _

theorem ready_ordinary (now : DateTime) (workerId : String) (role : Role) :
    OnlyRaises PoolError.Ordinary (ready cfg now workerId role s) := by
  refine OnlyRaises.bind (OnlyRaises.orThrow fun _ ↦ ordinary_notFound _) fun w _ ↦ ?_
  refine OnlyRaises.bind (OnlyRaises.require ?_) fun _ _ ↦ ?_
  · exact ordinary_conflict_of_head (c := 'w') (by simp) (by decide)
  refine OnlyRaises.bind (OnlyRaises.require ?_) fun _ _ ↦ ?_
  · exact ordinary_conflict_of_head (c := 'w') (by simp) (by decide)
  refine OnlyRaises.bind (OnlyRaises.require (ordinary_conflict (by decide))) fun _ _ ↦ ?_
  refine OnlyRaises.bind (OnlyRaises.require (ordinary_conflict (by decide))) fun _ _ ↦ ?_
  refine OnlyRaises.bind (readStamp_ordinary _) fun _ _ ↦ ?_
  refine OnlyRaises.bind (OnlyRaises.require (ordinary_conflict (by decide))) fun _ _ ↦ ?_
  refine OnlyRaises.bind (OnlyRaises.require (ordinary_conflict (by decide))) fun _ _ ↦ ?_
  exact OnlyRaises.ok _

/-- The query of a claim returns a task without a holder. -/
theorem selectTask_free (hinv : s.LeaseInv) {role : Role} {workerId : String} {row : Task}
    (h : selectTask role workerId s = some row) : row.leasedBy = none := by
  obtain ⟨hmem, hstate, -, -⟩ := selectTask_spec h
  cases role with
  | builder => exact (hinv.rows row hmem).free (Or.inl hstate)
  | validator =>
    obtain ⟨c, hc, rfl⟩ := Option.map_eq_some_iff.mp h
    obtain ⟨-, helig⟩ := List.mem_filter.mp (Table.mem_of_least hc)
    rw [validatorEligible, decide_eq_true_iff] at helig
    exact helig.2.1

/-- The guarded update of a claim finds the selected row, and no other row has its holder. -/
theorem grantLease_ordinary (hinv : s.LeaseInv) {args : ClaimArgs} {role : Role} {row : Task}
    {expires stamp : String} (hidle : holdsActiveTask args.workerId s = false)
    (hselect : selectTask role args.workerId s = some row) :
    OnlyRaises PoolError.Ordinary (grantLease env args role row expires stamp s) := by
  obtain ⟨hmem, hstate, -, -⟩ := selectTask_spec hselect
  have hfree : row.leasedBy = none := selectTask_free hinv hselect
  refine OnlyRaises.bind (OnlyRaises.orThrow fun hnone ↦ ?_) fun t _ ↦ ?_
  · have hrow := List.find?_eq_none.mp hnone row hmem
    simp [hstate, hfree] at hrow
  refine OnlyRaises.bind (writeTask_ordinary fun u hu _ ↦ ?_) fun _ _ ↦ OnlyRaises.ok _
  by_contra hclash
  rw [Bool.not_eq_false, workerClash] at hclash
  simp only [Bool.and_eq_true, beq_iff_eq] at hclash
  exact not_leased_of_idle hinv hidle hu hclash.2.symm

theorem transaction_ordinary {α : Type} {body : Except PoolError (Store × α)}
    {answer : α → Store → Except PoolError Reply} (hbody : OnlyRaises PoolError.Ordinary body)
    (hanswer : ∀ b s', OnlyRaises PoolError.Ordinary (answer b s')) :
    OnlyRaises PoolError.Ordinary (transaction body answer s).2 := by
  rcases body with e | ⟨s', b⟩
  · intro e' h
    cases h
    exact hbody e rfl
  · exact hanswer b s'

theorem claimTask_ordinary (hinv : s.LeaseInv) (args : ClaimArgs) :
    OnlyRaises PoolError.Ordinary (claimTask H cfg env args s).2 := by
  refine transaction_ordinary ?_ fun b s' ↦ ?_
  · refine OnlyRaises.bind (OnlyRaises.orThrow fun _ ↦ ordinary_value _) fun role _ ↦ ?_
    refine OnlyRaises.bind (OnlyRaises.require (ordinary_value _)) fun _ _ ↦ ?_
    refine OnlyRaises.bind (recover_ordinary _) fun r₁ hrecover ↦ ?_
    refine OnlyRaises.bind (recoverStalled_ordinary _) fun r₂ hstalled ↦ ?_
    refine OnlyRaises.bind (ready_ordinary _ _ _) fun w hready ↦ ?_
    obtain ⟨acts₁, hpath₁, -⟩ := recover_path hinv.keyed hrecover
    have hinv₁ := leaseInv_of_path hpath₁ hinv
    obtain ⟨acts₂, hpath₂, -⟩ := recoverStalled_path hinv₁.keyed hstalled
    have hinv₂ := leaseInv_of_path hpath₂ hinv₁
    split
    · exact OnlyRaises.ok _
    next row hselect =>
      refine OnlyRaises.bind (OnlyRaises.orThrow fun _ ↦ ordinary_overflow) fun _ _ ↦ ?_
      exact OnlyRaises.bind (grantLease_ordinary hinv₂ (ready_ok hready) hselect) fun _ _ ↦
        OnlyRaises.ok _
  · cases b with
    | none => exact OnlyRaises.ok _
    | some b =>
      exact OnlyRaises.bind (OnlyRaises.orThrow fun _ ↦ ordinary_notFound _) fun _ _ ↦
        OnlyRaises.ok _

theorem validateRepository_ordinary (repository : String) :
    OnlyRaises PoolError.Ordinary (validateRepository repository) :=
  OnlyRaises.bind (OnlyRaises.require (ordinary_value _)) fun _ _ ↦ OnlyRaises.ok _

theorem registerWorker_ordinary (args : RegisterArgs) :
    OnlyRaises PoolError.Ordinary (registerWorker H env args s).2 := by
  refine transaction_ordinary ?_ fun _ s' ↦
    OnlyRaises.bind (getWorker_ordinary _) fun _ _ ↦ OnlyRaises.ok _
  refine OnlyRaises.bind (OnlyRaises.require (ordinary_value _)) fun _ _ ↦ ?_
  refine OnlyRaises.bind (OnlyRaises.orThrow fun _ ↦ ordinary_value _) fun _ _ ↦ ?_
  refine OnlyRaises.bind (OnlyRaises.orThrow fun _ ↦ ordinary_value _) fun _ _ ↦ ?_
  refine OnlyRaises.bind (OnlyRaises.require (ordinary_value _)) fun _ _ ↦ ?_
  exact OnlyRaises.bind (OnlyRaises.require ordinary_overflow) fun _ _ ↦ OnlyRaises.ok _

theorem heartbeatWorker_ordinary (args : HeartbeatArgs) :
    OnlyRaises PoolError.Ordinary (heartbeatWorker H env args s).2 := by
  refine transaction_ordinary ?_ fun _ s' ↦
    OnlyRaises.bind (getWorker_ordinary _) fun _ _ ↦ OnlyRaises.ok _
  refine OnlyRaises.bind (getWorker_ordinary _) fun _ _ ↦ ?_
  refine OnlyRaises.bind ?_ fun _ _ ↦ OnlyRaises.ok _
  exact OnlyRaises.bind (OnlyRaises.orThrow fun _ ↦ ordinary_value _) fun _ _ ↦ OnlyRaises.ok _

theorem configureRepository_ordinary (args : ConfigureArgs) :
    OnlyRaises PoolError.Ordinary (configureRepository env args s).2 := by
  refine transaction_ordinary ?_ fun repository s' ↦ ?_
  · refine OnlyRaises.bind (validateRepository_ordinary _) fun _ _ ↦ ?_
    exact OnlyRaises.bind (OnlyRaises.require (ordinary_value _)) fun _ _ ↦ OnlyRaises.ok _
  · refine OnlyRaises.bind ?_ fun _ _ ↦ OnlyRaises.ok _
    exact OnlyRaises.bind (validateRepository_ordinary _) fun _ _ ↦
      OnlyRaises.orThrow fun _ ↦ ordinary_notFound _

theorem replaceWorkerAffinities_ordinary (workerId : String) (repositories : List String) :
    OnlyRaises PoolError.Ordinary (replaceWorkerAffinities env workerId repositories s).2 := by
  refine transaction_ordinary ?_ fun _ _ ↦ OnlyRaises.ok _
  refine OnlyRaises.bind (getWorker_ordinary _) fun _ _ ↦ ?_
  exact OnlyRaises.bind (OnlyRaises.mapM validateRepository_ordinary _) fun _ _ ↦ OnlyRaises.ok _

theorem enqueueTask_ordinary (args : EnqueueArgs) :
    OnlyRaises PoolError.Ordinary (enqueueTask H cfg env args s).2 := by
  refine transaction_ordinary ?_ fun _ _ ↦ OnlyRaises.ok _
  refine OnlyRaises.bind (OnlyRaises.require (ordinary_value _)) fun _ _ ↦ ?_
  refine OnlyRaises.bind (OnlyRaises.require (ordinary_value _)) fun _ _ ↦ ?_
  refine OnlyRaises.bind ?_ fun _ _ ↦ ?_
  · rw [enqueueBranch]
    split
    · refine OnlyRaises.bind (OnlyRaises.require (ordinary_value _)) fun _ _ ↦ ?_
      refine OnlyRaises.bind (OnlyRaises.require (ordinary_value _)) fun _ _ ↦ ?_
      exact OnlyRaises.bind (OnlyRaises.require (ordinary_value _)) fun _ _ ↦ OnlyRaises.ok _
    · exact OnlyRaises.ok _
  refine OnlyRaises.bind (OnlyRaises.require (ordinary_value _)) fun _ _ ↦ ?_
  simp only [enqueueWrite]
  split
  · exact OnlyRaises.bind (OnlyRaises.require (ordinary_conflict (by decide))) fun _ _ ↦
      OnlyRaises.ok _
  · refine OnlyRaises.bind (OnlyRaises.require ordinary_overflow) fun _ _ ↦ ?_
    refine OnlyRaises.bind (OnlyRaises.require ordinary_overflow) fun _ _ ↦ ?_
    refine OnlyRaises.bind (OnlyRaises.require ordinary_overflow) fun _ _ ↦ ?_
    refine OnlyRaises.bind ?_ fun _ _ ↦ OnlyRaises.ok _
    refine OnlyRaises.bind (OnlyRaises.require ⟨by rintro ⟨⟩, by rintro ⟨⟩⟩) fun _ _ ↦ ?_
    exact OnlyRaises.bind (OnlyRaises.require ⟨by rintro ⟨⟩, by rintro ⟨⟩⟩) fun _ _ ↦ OnlyRaises.ok _

theorem renewLease_ordinary (hinv : s.LeaseInv) (args : LeaseArgs) (n : Option ℤ) :
    OnlyRaises PoolError.Ordinary (renewLease cfg env args n s).2 := by
  refine transaction_ordinary ?_ fun _ s' ↦ answerTask_ordinary _
  refine OnlyRaises.bind (OnlyRaises.orThrow fun _ ↦ ordinary_overflow) fun _ _ ↦ ?_
  refine OnlyRaises.bind (leaseRow_ordinary _ _ _ _ _) fun _ _ ↦ ?_
  exact OnlyRaises.bind (updateTask_ordinary_of_keep hinv (fun _ ↦ rfl) fun _ ↦ rfl) fun _ _ ↦
    OnlyRaises.ok _

theorem startTask_ordinary (hinv : s.LeaseInv) (args : LeaseArgs) :
    OnlyRaises PoolError.Ordinary (startTask env args s).2 := by
  refine transaction_ordinary ?_ fun _ s' ↦ answerTask_ordinary _
  refine OnlyRaises.bind (leaseRow_ordinary _ _ _ _ _) fun _ _ ↦ ?_
  refine OnlyRaises.bind (getWorker_ordinary _) fun _ _ ↦ ?_
  refine OnlyRaises.bind (OnlyRaises.require (ordinary_conflict (by decide))) fun _ _ ↦ ?_
  exact OnlyRaises.bind (updateTask_ordinary_of_keep hinv (fun _ ↦ rfl) fun _ ↦ rfl) fun _ _ ↦
    OnlyRaises.ok _

theorem submitForValidation_ordinary (args : LeaseArgs) (sha : String) :
    OnlyRaises PoolError.Ordinary (submitForValidation H env args sha s).2 := by
  refine transaction_ordinary ?_ fun _ s' ↦ answerTask_ordinary _
  refine OnlyRaises.bind (OnlyRaises.require (ordinary_value _)) fun _ _ ↦ ?_
  refine OnlyRaises.bind (leaseRow_ordinary _ _ _ _ _) fun _ _ ↦ ?_
  refine OnlyRaises.bind (OnlyRaises.require (ordinary_conflict (by decide))) fun _ _ ↦ ?_
  exact OnlyRaises.bind (updateTask_ordinary fun _ ↦ rfl) fun _ _ ↦ OnlyRaises.ok _

theorem completeTask_ordinary (args : LeaseArgs) :
    OnlyRaises PoolError.Ordinary (completeTask env args s).2 := by
  refine transaction_ordinary ?_ fun _ s' ↦ answerTask_ordinary _
  refine OnlyRaises.bind (leaseRow_ordinary _ _ _ _ _) fun _ _ ↦ ?_
  refine OnlyRaises.bind (getWorker_ordinary _) fun _ _ ↦ ?_
  refine OnlyRaises.bind (OnlyRaises.require (ordinary_conflict (by decide))) fun _ _ ↦ ?_
  refine OnlyRaises.bind (OnlyRaises.require (ordinary_conflict (by decide))) fun _ _ ↦ ?_
  exact OnlyRaises.bind (updateTask_ordinary fun _ ↦ rfl) fun _ _ ↦ OnlyRaises.ok _

theorem failTask_ordinary (args : LeaseArgs) (reason : String) :
    OnlyRaises PoolError.Ordinary (failTask H env args reason s).2 := by
  refine transaction_ordinary ?_ fun _ s' ↦ answerTask_ordinary _
  refine OnlyRaises.bind (leaseRow_ordinary _ _ _ _ _) fun _ _ ↦ ?_
  exact OnlyRaises.bind (updateTask_ordinary fun _ ↦ rfl) fun _ _ ↦ OnlyRaises.ok _

theorem blockTask_ordinary (args : LeaseArgs) (reason : String) :
    OnlyRaises PoolError.Ordinary (blockTask H env args reason s).2 := by
  refine transaction_ordinary ?_ fun _ s' ↦ answerTask_ordinary _
  refine OnlyRaises.bind (OnlyRaises.require (ordinary_value _)) fun _ _ ↦ ?_
  refine OnlyRaises.bind (leaseRow_ordinary _ _ _ _ _) fun _ _ ↦ ?_
  exact OnlyRaises.bind (updateTask_ordinary fun _ ↦ rfl) fun _ _ ↦ OnlyRaises.ok _

theorem requeueBlocked_ordinary (hinv : s.LeaseInv) (tid corr : String) :
    OnlyRaises PoolError.Ordinary (requeueBlocked env tid corr s).2 := by
  refine transaction_ordinary ?_ fun _ s' ↦ answerTask_ordinary _
  refine OnlyRaises.bind (OnlyRaises.orThrow fun _ ↦ ordinary_notFound _) fun _ _ ↦ ?_
  refine OnlyRaises.bind (OnlyRaises.require (ordinary_conflict (by decide))) fun _ _ ↦ ?_
  exact OnlyRaises.bind (updateTask_ordinary_of_keep hinv (fun _ ↦ rfl) fun _ ↦ rfl) fun _ _ ↦
    OnlyRaises.ok _

theorem recoverExpiredLeases_ordinary :
    OnlyRaises PoolError.Ordinary (recoverExpiredLeases H env s).2 := by
  exact transaction_ordinary (recover_ordinary _) fun _ _ ↦ OnlyRaises.ok _

theorem recoverStalledTasks_ordinary :
    OnlyRaises PoolError.Ordinary (recoverStalledTasks H cfg env s).2 := by
  exact transaction_ordinary (recoverStalled_ordinary _) fun _ _ ↦ OnlyRaises.ok _

/-- **No call raises either of the two errors.** -/
theorem exec_ordinary (hinv : s.LeaseInv) (c : Call) :
    OnlyRaises PoolError.Ordinary (exec H cfg c s).2 := by
  obtain ⟨op, env⟩ := c
  cases op with
  | registerWorker args => exact registerWorker_ordinary args
  | heartbeatWorker args => exact heartbeatWorker_ordinary args
  | configureRepository args => exact configureRepository_ordinary args
  | replaceWorkerAffinities w rs => exact replaceWorkerAffinities_ordinary w rs
  | enqueueTask args => exact enqueueTask_ordinary args
  | claimTask args => exact claimTask_ordinary hinv args
  | renewLease args n => exact renewLease_ordinary hinv args n
  | startTask args => exact startTask_ordinary hinv args
  | submitForValidation args sha => exact submitForValidation_ordinary args sha
  | completeTask args => exact completeTask_ordinary args
  | failTask args reason => exact failTask_ordinary args reason
  | blockTask args reason => exact blockTask_ordinary args reason
  | requeueBlocked tid corr => exact requeueBlocked_ordinary hinv tid corr
  | recoverExpiredLeases => exact recoverExpiredLeases_ordinary
  | recoverStalledTasks => exact recoverStalledTasks_ordinary

/-- **The representation invariant of leases.** In every reachable database the columns of every
task fit together and no worker holds two tasks; hence no call made there runs into the index on
holders, nor finds the task it selected gone. -/
theorem lease_representation {tr : List (Call × Except PoolError Reply)}
    (h : (system H cfg).Run tr s) :
    (∀ t ∈ s.tasks, t.LeaseOk)
      ∧ (∀ t ∈ s.tasks, ∀ t' ∈ s.tasks, ∀ w, t.leasedBy = some w → t'.leasedBy = some w → t = t')
      ∧ ∀ c : Call, (exec H cfg c s).2 ≠ .error (.integrity .workerActive)
        ∧ (exec H cfg c s).2 ≠ .error (.conflict "task adquirida concorrentemente") := by
  have hinv := leaseInv_of_run h
  refine ⟨hinv.rows, fun t ht t' ht' w hw hw' ↦ ?_, fun c ↦ ⟨fun he ↦ ?_, fun he ↦ ?_⟩⟩
  · exact hinv.keyed.eq_of_key_eq ht ht' (hinv.exclusive t ht t' ht' w hw hw')
  · exact (exec_ordinary hinv c _ he).1 rfl
  · exact (exec_ordinary hinv c _ he).2 rfl

/-- A run in which the builder holds a lease, and one task is leased in the end. -/
theorem lease_representation_claimed :
    let calls := setupCalls ++ (buildCalls "").take 1
    (sampleRun calls).2.tasks.map Task.leasedBy = [some "b"]
      ∧ (∀ t ∈ (sampleRun calls).2.tasks, t.LeaseOk)
      ∧ ∀ c : Call, (exec sampleHost sampleConfig c (sampleRun calls).2).2
          ≠ .error (.integrity .workerActive) := by
  intro calls
  have h := lease_representation (run_sampleRun calls)
  exact ⟨by decide +kernel, h.1, fun c ↦ (h.2.2 c).1⟩

end WorkerPool

end ReqSys
