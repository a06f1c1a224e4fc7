import ReqSys.WorkerPool.LeaseInvariant

/-!
# The worker pool: the bound on attempts

A task carries a number of attempts and a maximum, and both roles count against it: every claim adds
one. The maximum is looked at when a holder fails, loses its lease or stalls; it is not looked at by
`claim_task`, nor where a task returns to a claimable state in the ordinary course of things, by
`submit_for_validation` and by `requeue_blocked`.

`Affordable` asks of these two calls that the task still has an attempt left. Along runs of
affordable calls a task that can be claimed has one, so no task ever has more attempts than its
maximum (`attempts_bounded`); without the condition a task of one attempt is handed out twice
(`attempts_exceeded`).
-/

namespace ReqSys

namespace WorkerPool

variable {H : Host} {cfg : Config} {s s' : Store} {a : Act} {t t' : Task}

/-! ## Affordable calls -/

/-- A task that is submitted or requeued has an attempt left. -/
def Event.Affordable (s : Store) : Event → Prop
  | .submitted tid _ _ | .requeued tid =>
    ∀ t, Table.lookup Task.taskId tid s.tasks = some t → t.exhausted = false
  | _ => True

/-- The condition on a call and the database before it. -/
def Affordable (s : Store) (l : Call × Except PoolError Reply) : Prop :=
  ∀ e ∈ events l, e.Affordable s

instance (s : Store) (e : Event) : Decidable (e.Affordable s) :=
  match e with
  | .submitted tid _ _ | .requeued tid =>
    inferInstanceAs (Decidable (∀ t ∈ Table.lookup Task.taskId tid s.tasks, t.exhausted = false))
  | .configured _ _ | .issued _ _ | .completed _ _ => instDecidableTrue

instance (s : Store) (l : Call × Except PoolError Reply) : Decidable (Affordable s l) :=
  inferInstanceAs (Decidable (∀ e ∈ events l, e.Affordable s))

/-- The condition on an act. -/
def Act.Affordable (s : Store) (a : Act) : Prop := ∀ e, a.event = some e → e.Affordable s

theorem Act.affordable_of_not_isDecision (h : ¬a.IsDecision) (s : Store) : a.Affordable s := by
  intro e he
  cases a <;> simp_all [Act.event, Act.IsDecision]
  all_goals
    subst he
    trivial

/-! ## The invariant -/

/-- A claim may take the row. -/
def Task.Claimable (t : Task) : Prop :=
  t.state = .queued ∨ t.state = .validating ∧ t.leasedBy = none

/-- The attempts are within the maximum, and below it while the row can be claimed. -/
structure Task.AttemptsOk (t : Task) : Prop where
  bounded : (t.attemptCount : ℤ) ≤ t.maxAttempts
  spare : t.Claimable → t.exhausted = false

theorem Task.exhausted_eq_false : t.exhausted = false ↔ (t.attemptCount : ℤ) < t.maxAttempts := by
  rw [Task.exhausted, decide_eq_false_iff_not, not_le]

theorem Task.Fresh.attemptsOk (h : t.Fresh) : t.AttemptsOk := by
  have hpos : (t.attemptCount : ℤ) < t.maxAttempts := by
    rw [h.attemptCount]
    have := h.maxAttempts
    omega
  exact ⟨hpos.le, fun _ ↦ Task.exhausted_eq_false.mpr hpos⟩

/-- A row whose attempts are unchanged and which cannot be claimed. -/
theorem attemptsOk_of_not_claimable (hok : t.AttemptsOk) (hcount : t'.attemptCount = t.attemptCount)
    (hmax : t'.maxAttempts = t.maxAttempts) (h : ¬t'.Claimable) : t'.AttemptsOk := by
  refine ⟨?_, fun hclaim ↦ absurd hclaim h⟩
  rw [hcount, hmax]
  exact hok.bounded

/-- A row whose attempts are unchanged and not used up. -/
theorem attemptsOk_of_spare (hcount : t'.attemptCount = t.attemptCount)
    (hmax : t'.maxAttempts = t.maxAttempts) (h : t.exhausted = false) : t'.AttemptsOk := by
  rw [Task.exhausted_eq_false, ← hcount, ← hmax] at h
  exact ⟨h.le, fun _ ↦ Task.exhausted_eq_false.mpr h⟩

/-- **One act.** A claim takes the last spare attempt at most; the other acts either leave a row
that cannot be claimed or find an attempt left. -/
theorem Change.attemptsOk (h : Change H a t t') (hok : t.AttemptsOk)
    (ha : ∀ tid, a.taskId? = some tid → (∃ worker token given, a = .submit tid worker token given)
      ∨ a = .requeue tid → t.exhausted = false) : t'.AttemptsOk := by
  cases a <;> simp only [Change] at h
  case claim tid worker token role =>
    obtain ⟨hstate, hfree, -, _, _, _, rfl⟩ := h
    have hclaim : t.Claimable := by
      cases role with
      | builder => exact Or.inl hstate
      | validator => exact Or.inr ⟨hstate, hfree⟩
    have hspare := Task.exhausted_eq_false.mp (hok.spare hclaim)
    refine ⟨?_, ?_⟩
    · push_cast
      omega
    · rintro (hq | ⟨-, hnone⟩)
      · cases role <;> cases hq
      · cases hnone
  case renew tid worker token =>
    obtain ⟨hactive, hheld, _, _, _, rfl⟩ := h
    refine attemptsOk_of_not_claimable hok rfl rfl ?_
    rintro (hq | ⟨-, hnone⟩)
    · have hqueued : t.state = .queued := hq
      rw [Task.isActive_iff, hqueued] at hactive
      simp at hactive
    · exact Option.some_ne_none worker (hheld.1.symm.trans hnone)
  case start =>
    obtain ⟨-, -, _, _, rfl⟩ := h
    refine attemptsOk_of_not_claimable hok rfl rfl ?_
    rintro (hq | ⟨hv, -⟩)
    · cases hq
    · cases hv
  case submit tid worker token given =>
    obtain ⟨-, -, -, -, _, _, rfl⟩ := h
    exact attemptsOk_of_spare rfl rfl (ha tid rfl (Or.inl ⟨worker, token, given, rfl⟩))
  case complete =>
    obtain ⟨-, -, -, -, _, _, rfl⟩ := h
    refine attemptsOk_of_not_claimable hok rfl rfl ?_
    rintro (hq | ⟨hv, -⟩)
    · cases hq
    · cases hv
  case giveBack =>
    obtain ⟨-, hspare, _, _, _, _, rfl⟩ := h
    exact attemptsOk_of_spare rfl rfl hspare
  case giveUp =>
    obtain ⟨-, -, _, _, _, _, rfl⟩ := h
    refine attemptsOk_of_not_claimable hok rfl rfl ?_
    rintro (hq | ⟨hv, -⟩)
    · cases hq
    · cases hv
  case block =>
    obtain ⟨-, _, _, _, _, _, -, rfl⟩ := h
    refine attemptsOk_of_not_claimable hok rfl rfl ?_
    rintro (hq | ⟨hv, -⟩)
    · cases hq
    · cases hv
  case requeue tid =>
    obtain ⟨-, _, _, rfl⟩ := h
    exact attemptsOk_of_spare rfl rfl (ha tid rfl (Or.inr rfl))

def Store.AttemptsInv (s : Store) : Prop := ∀ t ∈ s.tasks, t.AttemptsOk

theorem Effect.attemptsInv (h : Effect H s a s') (hk : Table.Keyed Task.taskId s.tasks)
    (ha : a.Affordable s) (hinv : s.AttemptsInv) : s'.AttemptsInv := by
  intro r hr
  obtain ⟨hold, -⟩ | ⟨-, hfresh, -⟩ | ⟨t, ht, htid, hchange⟩ := h.mem_cases hr
  · exact hinv r hold
  · exact hfresh.attemptsOk
  · refine hchange.attemptsOk (hinv t ht) ?_
    rintro tid hid hdecision
    obtain rfl : t.taskId = tid := Option.some.inj (htid.symm.trans hid)
    have hlook := hk.lookup_of_mem ht
    rcases hdecision with ⟨worker, token, given, rfl⟩ | rfl
    · exact ha _ rfl t hlook
    · exact ha _ rfl t hlook

theorem attemptsInv_of_path {acts : List Act}
    (h : ((protocol H).restrict Act.Affordable).Path s acts s')
    (hk : Table.Keyed Task.taskId s.tasks) (hinv : s.AttemptsInv) : s'.AttemptsInv := by
  refine (h.preserves (P := fun s ↦ Table.Keyed Task.taskId s.tasks ∧ s.AttemptsInv) ?_
    ⟨hk, hinv⟩).2
  rintro s a s' ⟨hk, hinv⟩ ⟨ha, hstep⟩
  exact ⟨Effect.keyed hstep hk, Effect.attemptsInv hstep hk ha hinv⟩

theorem attemptsInv_step {c : Call} {r : Except PoolError Reply}
    (hk : Table.Keyed Task.taskId s.tasks) (hinv : s.AttemptsInv)
    (hstep : (system H cfg).step s (c, r) s') (hl : Affordable s (c, r)) : s'.AttemptsInv := by
  obtain ⟨acts, hpath⟩ := (exec_refines hk hstep).restrict (C := fun s e ↦ e.Affordable s)
    (fun s _ e ha he ↦ Act.affordable_of_not_isDecision ha s e he) hl
  exact attemptsInv_of_path hpath hk hinv

theorem attemptsInv_of_run {tr : List (Call × Except PoolError Reply)}
    (h : ((system H cfg).restrict Affordable).Run tr s) : s.AttemptsInv := by
  refine h.traceInvariant (I := fun _ s ↦ s.AttemptsInv) ?_ ?_
  · rintro s rfl
    exact List.forall_mem_nil _
  · rintro tr s ⟨c, r⟩ s' hrun hinv ⟨hl, hstep⟩
    exact attemptsInv_step (leaseInv_of_run hrun.of_restrict).keyed hinv hstep hl

/-! ## The bound -/

/-- The task a claim returns is a row of the database after it. -/
theorem claimed_mem {args : ClaimArgs} {env : Env} {data : Task} {lease : Lease}
    (h : claimTask H cfg env args s = (s', .ok (.claimed (some (data, lease))))) :
    data ∈ s'.tasks := by
  rcases transaction_cases h with ⟨grant, -, hr⟩ | ⟨-, e, -, hr⟩
  · cases grant with
    | none => cases hr
    | some g =>
      obtain ⟨row, hrow, heq⟩ := bind_eq_ok.mp hr.symm
      cases heq
      exact Table.mem_of_lookup (orThrow_eq_ok.mp hrow)
  · cases hr

/-- **The bound on attempts.** Along every run of affordable calls no task has more attempts than
its maximum, and the task a claim hands out has not either, this attempt included. -/
theorem attempts_bounded {tr : List (Call × Except PoolError Reply)}
    (h : ((system H cfg).restrict Affordable).Run tr s) :
    (∀ t ∈ s.tasks, (t.attemptCount : ℤ) ≤ t.maxAttempts)
      ∧ ∀ args env s' data lease, (system H cfg).step s
          (⟨.claimTask args, env⟩, .ok (.claimed (some (data, lease)))) s' →
        (data.attemptCount : ℤ) ≤ data.maxAttempts := by
  have hinv := attemptsInv_of_run h
  refine ⟨fun t ht ↦ (hinv t ht).bounded, ?_⟩
  intro args env s' data lease hstep
  -- a claim is affordable as it is: its only mark is the lease it issues
  have hl : Affordable s (⟨.claimTask args, env⟩, .ok (.claimed (some (data, lease)))) := by
    intro e he
    rw [List.mem_singleton.mp he]
    trivial
  have hinv' := attemptsInv_step (leaseInv_of_run h.of_restrict).keyed hinv hstep hl
  exact (hinv' data (claimed_mem hstep)).bounded

/-- The hand-off of a task with three attempts is affordable. -/
theorem attempts_bounded_handoff :
    let calls := handoffCalls "0123456789abcdef0123456789abcdef01234567"
    let s := (sampleRun calls).2
    s.tasks.map (fun t ↦ (t.state, t.attemptCount, t.maxAttempts)) = [(.completed, 2, 3)]
      ∧ ∀ t ∈ s.tasks, (t.attemptCount : ℤ) ≤ t.maxAttempts := by
  intro calls s
  have hmeet : TransitionSystem.CallsMeet (exec sampleHost sampleConfig) Affordable calls
      Store.empty := by decide +kernel
  exact ⟨by decide +kernel,
    (attempts_bounded (TransitionSystem.run_restrict_runCalls Store.empty hmeet)).1⟩

/-- A task of one attempt: the builder uses it, the validator gets another. -/
theorem attempts_exceeded :
    ¬∀ tr s, (system sampleHost sampleConfig).Run tr s →
      ∀ t ∈ s.tasks, (t.attemptCount : ℤ) ≤ t.maxAttempts := by
  intro hall
  let calls := setupCalls.take 2
    ++ [sampleCall (.enqueueTask { sampleEnqueue 1 "r1" with maxAttempts := some 1 })]
    ++ buildCalls "0123456789abcdef0123456789abcdef01234567" ++ [validatorClaim]
  have hover : ¬∀ t ∈ (sampleRun calls).2.tasks, (t.attemptCount : ℤ) ≤ t.maxAttempts := by
    decide +kernel
  exact hover (hall _ _ (run_sampleRun calls))

end WorkerPool

end ReqSys
