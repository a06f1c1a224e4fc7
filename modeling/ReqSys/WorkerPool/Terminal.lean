import ReqSys.WorkerPool.LeaseInvariant

/-!
# The worker pool: terminal states and the quarantine

`completed` and `failed` are final: no act is enabled on a row in either state. Failure is produced
in three places of the code, and each of them inserts one row into the quarantine in the same
transaction; since a failed row admits no further act, that row stays the only one for its task and
keeps recording the attempts of the task.
-/

namespace ReqSys

namespace WorkerPool

variable {H : Host} {cfg : Config} {s s' : Store} {a : Act} {t t' : Task}

/-! ## Terminal states -/

/-- The states no task leaves. -/
def TaskState.Terminal (x : TaskState) : Prop := x = .completed ∨ x = .failed

theorem Task.not_terminal_of_isActive (h : t.isActive = true) : ¬t.state.Terminal := by
  rw [Task.isActive_iff] at h
  rintro (hs | hs) <;> simp [hs] at h

/-- **No act is enabled on a terminal row.** -/
theorem Change.not_terminal (h : Change H a t t') : ¬t.state.Terminal := by
  cases a <;> simp only [Change] at h
  case claim tid worker token role =>
    rw [h.1]
    cases role <;> simp [claimStates, TaskState.Terminal]
  case renew => exact Task.not_terminal_of_isActive h.1
  case start =>
    rw [h.1]
    simp [TaskState.Terminal]
  case submit =>
    rw [h.1]
    simp [TaskState.Terminal]
  case complete =>
    rw [h.1]
    simp [TaskState.Terminal]
  case giveBack => exact Task.not_terminal_of_isActive h.1
  case giveUp => exact Task.not_terminal_of_isActive h.1
  case block => exact Task.not_terminal_of_isActive h.1
  case requeue =>
    rw [h.1]
    simp [TaskState.Terminal]

/-- A terminal row survives every act unchanged. -/
theorem Effect.mem_of_terminal (h : Effect H s a s') (hk : Table.Keyed Task.taskId s.tasks)
    (ht : t ∈ s.tasks) (hterm : t.state.Terminal) : t ∈ s'.tasks := by
  refine h.mem_of_ne ht fun hid ↦ ?_
  cases h with
  | row htid hrow hchange _ _ _ =>
    rw [htid] at hid
    have hkey := (Table.key_of_lookup hrow).trans (Option.some.inj hid)
    rw [hk.eq_of_key_eq (Table.mem_of_lookup hrow) ht hkey] at hchange
    exact hchange.not_terminal hterm
  | _ => cases hid

theorem mem_of_terminal_of_path {acts : List Act} (h : (protocol H).Path s acts s')
    (hk : Table.Keyed Task.taskId s.tasks) (ht : t ∈ s.tasks) (hterm : t.state.Terminal) :
    t ∈ s'.tasks := by
  have hboth := h.preserves
    (P := fun s ↦ Table.Keyed Task.taskId s.tasks ∧ t ∈ s.tasks)
    (fun hP hstep ↦ ⟨Effect.keyed hstep hP.1, Effect.mem_of_terminal hstep hP.1 hP.2 hterm⟩)
    ⟨hk, ht⟩
  exact hboth.2

/-! ## The quarantine -/

/-- The number of quarantine rows of a task. -/
def quarantineCount (tid : String) (s : Store) : ℕ :=
  s.quarantine.countP fun q ↦ q.taskId = tid

/-- The quarantine mirrors the failed tasks. -/
structure Store.QuarantineInv (s : Store) : Prop where
  count : ∀ t ∈ s.tasks, quarantineCount t.taskId s = if t.state = .failed then 1 else 0
  owner : ∀ q ∈ s.quarantine, ∃ t ∈ s.tasks, t.taskId = q.taskId ∧ t.state = .failed
    ∧ t.attemptCount = q.attemptCount

/-- A row fails only by giving up, and keeps its attempts. -/
theorem Change.failed_cases (h : Change H a t t') :
    (∃ tid, a = .giveUp tid ∧ t'.state = .failed ∧ t'.attemptCount = t.attemptCount)
      ∨ (t'.state ≠ .failed ∧ ∀ rows, Quarantines a t rows → rows = []) := by
  have hresume : ∀ u : Task, u.resumeState ≠ .failed := by
    intro u
    rw [Task.resumeState]
    split <;> decide
  cases a <;> simp only [Change] at h
  case claim tid worker token role =>
    obtain ⟨-, -, -, _, _, _, rfl⟩ := h
    refine Or.inr ⟨?_, fun _ hq ↦ hq⟩
    cases role <;> exact TaskState.noConfusion
  case renew =>
    obtain ⟨hactive, -, _, _, _, rfl⟩ := h
    exact Or.inr ⟨fun hs ↦ Task.not_terminal_of_isActive hactive (Or.inr hs), fun _ hq ↦ hq⟩
  case start =>
    obtain ⟨-, -, _, _, rfl⟩ := h
    exact Or.inr ⟨TaskState.noConfusion, fun _ hq ↦ hq⟩
  case submit =>
    obtain ⟨-, -, -, -, _, _, rfl⟩ := h
    exact Or.inr ⟨TaskState.noConfusion, fun _ hq ↦ hq⟩
  case complete =>
    obtain ⟨-, -, -, -, _, _, rfl⟩ := h
    exact Or.inr ⟨TaskState.noConfusion, fun _ hq ↦ hq⟩
  case giveBack =>
    obtain ⟨-, -, _, _, _, _, rfl⟩ := h
    exact Or.inr ⟨hresume t, fun _ hq ↦ hq⟩
  case giveUp tid =>
    obtain ⟨-, -, _, _, _, _, rfl⟩ := h
    exact Or.inl ⟨tid, rfl, rfl, rfl⟩
  case block =>
    obtain ⟨-, _, _, _, _, _, -, rfl⟩ := h
    exact Or.inr ⟨TaskState.noConfusion, fun _ hq ↦ hq⟩
  case requeue =>
    obtain ⟨-, _, _, rfl⟩ := h
    exact Or.inr ⟨hresume t, fun _ hq ↦ hq⟩

theorem quarantineCount_eq_zero (hinv : s.QuarantineInv) {tid : String}
    (h : ∀ t ∈ s.tasks, t.taskId ≠ tid) : quarantineCount tid s = 0 := by
  refine List.countP_eq_zero.mpr fun q hq hid ↦ ?_
  obtain ⟨t, ht, htid, -⟩ := hinv.owner q hq
  exact h t ht (htid.trans (by simpa using hid))

/-- Giving up: one row is added for a task that had none. -/
private theorem quarantineInv_giveUp {tid : String} {lanes : List Lane} {q : QuarantineRow}
    (hinv : s.QuarantineInv) (hrow : Table.lookup Task.taskId tid s.tasks = some t)
    (hlive : ¬t.state.Terminal) (hid : t'.taskId = t.taskId) (hfailed : t'.state = .failed)
    (hqid : q.taskId = t.taskId) (hattempts : t'.attemptCount = q.attemptCount)
    (howner : ∀ p ∈ s.quarantine, ∃ u ∈ Table.update Task.taskId tid (fun _ ↦ t') s.tasks,
      u.taskId = p.taskId ∧ u.state = .failed ∧ u.attemptCount = p.attemptCount) :
    Store.QuarantineInv { s with tasks := Table.update Task.taskId tid (fun _ ↦ t') s.tasks, lanes,
                                 quarantine := s.quarantine ++ [q] } where
  count u hu := by
    have hkey := Table.key_of_lookup hrow
    have happ : quarantineCount u.taskId
        { s with tasks := Table.update Task.taskId tid (fun _ ↦ t') s.tasks, lanes,
                 quarantine := s.quarantine ++ [q] }
        = quarantineCount u.taskId s + if q.taskId = u.taskId then 1 else 0 := by
      simp only [quarantineCount, List.countP_append, List.countP_singleton, decide_eq_true_eq]
    rw [happ]
    rcases Table.mem_update hu with ⟨hu, hne⟩ | ⟨_, _, _, rfl⟩
    · have hqne : ¬q.taskId = u.taskId := by
        rw [hqid, hkey]
        exact Ne.symm hne
      rw [if_neg hqne, Nat.add_zero]
      exact hinv.count u hu
    · rw [hid, hinv.count t (Table.mem_of_lookup hrow), if_neg fun hf ↦ hlive (Or.inr hf),
        if_pos hqid, if_pos hfailed]
  owner p hp := by
    rcases List.mem_append.mp hp with hp | hp
    · exact howner p hp
    · obtain rfl := List.mem_singleton.mp hp
      refine ⟨t', Table.mem_update_self (Table.mem_of_lookup hrow) (Table.key_of_lookup hrow), ?_,
        hfailed, hattempts⟩
      rw [hid, hqid]

/-- Any other act on a row: the quarantine and the failed rows stay as they are. -/
private theorem quarantineInv_quiet {tid : String} {lanes : List Lane}
    (hinv : s.QuarantineInv) (hrow : Table.lookup Task.taskId tid s.tasks = some t)
    (hlive : ¬t.state.Terminal) (hid : t'.taskId = t.taskId) (hne : t'.state ≠ .failed)
    (howner : ∀ p ∈ s.quarantine, ∃ u ∈ Table.update Task.taskId tid (fun _ ↦ t') s.tasks,
      u.taskId = p.taskId ∧ u.state = .failed ∧ u.attemptCount = p.attemptCount) :
    Store.QuarantineInv { s with tasks := Table.update Task.taskId tid (fun _ ↦ t') s.tasks, lanes,
                                 quarantine := s.quarantine ++ [] } where
  count u hu := by
    have hsame : quarantineCount u.taskId
        { s with tasks := Table.update Task.taskId tid (fun _ ↦ t') s.tasks, lanes,
                 quarantine := s.quarantine ++ [] } = quarantineCount u.taskId s := by
      simp only [quarantineCount, List.append_nil]
    rw [hsame]
    rcases Table.mem_update hu with ⟨hu, -⟩ | ⟨_, _, _, rfl⟩
    · exact hinv.count u hu
    · rw [hid, hinv.count t (Table.mem_of_lookup hrow), if_neg fun hf ↦ hlive (Or.inr hf),
        if_neg hne]
  owner p hp := howner p (by simpa using hp)

theorem Effect.quarantineInv (h : Effect H s a s') (hk : Table.Keyed Task.taskId s.tasks)
    (hinv : s.QuarantineInv) : s'.QuarantineInv := by
  have howner : ∀ q ∈ s.quarantine, ∃ t ∈ s'.tasks, t.taskId = q.taskId ∧ t.state = .failed
      ∧ t.attemptCount = q.attemptCount := by
    intro q hq
    obtain ⟨t, ht, hid, hfailed, hattempts⟩ := hinv.owner q hq
    exact ⟨t, h.mem_of_terminal hk ht (Or.inr hfailed), hid, hfailed, hattempts⟩
  cases h with
  | setup => exact ⟨hinv.count, hinv.owner⟩
  | addLane => exact ⟨hinv.count, hinv.owner⟩
  | configure => exact ⟨hinv.count, hinv.owner⟩
  | enqueue hfresh hkey _ =>
    refine ⟨fun t ht ↦ ?_, howner⟩
    rcases List.mem_append.mp ht with ht | ht
    · exact hinv.count t ht
    · obtain rfl := List.mem_singleton.mp ht
      rw [if_neg (by simp [hfresh.state])]
      exact quarantineCount_eq_zero hinv hkey
  | row htid hrow hchange _ _ hq =>
    rcases hchange.failed_cases with ⟨_, rfl, hfailed, hattempts⟩ | ⟨hne, hnone⟩
    · obtain ⟨q, rfl, hqid, hqattempts⟩ := hq
      exact quarantineInv_giveUp hinv hrow hchange.not_terminal hchange.identity_eq.1 hfailed hqid
        (hattempts.trans hqattempts.symm) howner
    · obtain rfl := hnone _ hq
      exact quarantineInv_quiet hinv hrow hchange.not_terminal hchange.identity_eq.1 hne howner

theorem quarantineInv_of_run {acts : List Act} (h : (protocol H).Run acts s) : s.QuarantineInv := by
  refine h.traceInvariant (I := fun _ s ↦ s.QuarantineInv) ?_ ?_
  · rintro s rfl
    exact ⟨List.forall_mem_nil _, List.forall_mem_nil _⟩
  · exact fun hrun hinv hstep ↦ Effect.quarantineInv hstep (keyed_of_run hrun) hinv

/-- **Terminal states and the quarantine.** A completed or failed task keeps its state in every
continuation of the run; a task is failed exactly if the quarantine has exactly one row for it, and
every row of the quarantine belongs to a failed task and records the attempts of that task. -/
theorem terminal_and_quarantined {tr : List (Call × Except PoolError Reply)}
    (h : (system H cfg).Run tr s) :
    (∀ tr' s', (system H cfg).Path s tr' s' → ∀ t ∈ s.tasks,
        t.state = .completed ∨ t.state = .failed →
        ∃ t', Table.lookup Task.taskId t.taskId s'.tasks = some t' ∧ t'.state = t.state)
      ∧ (∀ t ∈ s.tasks, t.state = .failed ↔ quarantineCount t.taskId s = 1)
      ∧ ∀ q ∈ s.quarantine, ∃ t ∈ s.tasks, t.taskId = q.taskId ∧ t.state = .failed
          ∧ q.attemptCount = t.attemptCount := by
  obtain ⟨acts, hrun, -⟩ := run_refines h
  have hinv := quarantineInv_of_run hrun
  refine ⟨fun tr' s' hpath t ht hterm ↦ ?_, fun t ht ↦ ?_, fun q hq ↦ ?_⟩
  · obtain ⟨acts', hacts, -⟩ := path_refines hrun hpath
    have ht' := mem_of_terminal_of_path hacts (keyed_of_run hrun) ht hterm
    exact ⟨t, (keyed_of_run (hrun.extend hacts)).lookup_of_mem ht', rfl⟩
  · rw [hinv.count t ht]
    by_cases hf : t.state = .failed
    · simp [hf]
    · simp [hf]
  · obtain ⟨t, ht, hid, hfailed, hattempts⟩ := hinv.owner q hq
    exact ⟨t, ht, hid, hfailed, hattempts.symm⟩

/-- A task with one attempt whose builder fails: the quarantine gets its row. -/
theorem terminal_and_quarantined_failed :
    let calls := setupCalls.take 2
      ++ [sampleCall (.enqueueTask { sampleEnqueue 1 "r1" with maxAttempts := some 1 })]
      ++ (buildCalls "").take 2
      ++ [sampleCall (.failTask ⟨firstTask, "b", "token-1", "c"⟩ "compile error")]
    let s := (sampleRun calls).2
    s.tasks.map Task.state = [.failed]
      ∧ (∀ t ∈ s.tasks, t.state = .failed ↔ quarantineCount t.taskId s = 1)
      ∧ ∀ q ∈ s.quarantine, ∃ t ∈ s.tasks, t.taskId = q.taskId ∧ t.state = .failed
          ∧ q.attemptCount = t.attemptCount := by
  intro calls s
  exact ⟨by decide +kernel, (terminal_and_quarantined (run_sampleRun calls)).2⟩

end WorkerPool

end ReqSys
