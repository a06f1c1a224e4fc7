import ReqSys.WorkerPool.LeaseInvariant

/-!
# The worker pool: independent validation

A completed task was built by one worker and validated by another. No single operation checks all of
this: `complete_task` compares its caller with the builder column, that column was written by
`start_task`, the commit by `submit_for_validation`, the validator column by the claim; and in
between leases expire, tasks are blocked and requeued, and workers change roles.

The invariant ties each row to the *history* of calls: a row has a produced commit exactly when one
submission of that task succeeded, and then the commit and the builder are those of that submission;
it is completed exactly when one completion succeeded, by the worker in the validator column.
-/

namespace ReqSys

namespace WorkerPool

open PyText

/-! ## The history of a task -/

/-- The successful submissions of a task: who submitted, and which commit was given. -/
def submissions (tid : String) (evs : List Event) : List (String × String) :=
  evs.filterMap fun e ↦ match e with
    | .submitted t worker given => if t = tid then some (worker, given) else none
    | _ => none

/-- The workers that completed a task. -/
def completions (tid : String) (evs : List Event) : List String :=
  evs.filterMap fun e ↦ match e with
    | .completed t worker => if t = tid then some worker else none
    | _ => none

/-- The columns of a row agree with the history of its task. -/
structure HistoryOk (H : Host) (evs : List Event) (t : Task) : Prop where
  produced : (t.producedSha = none ∧ submissions t.taskId evs = [])
    ∨ ∃ b given, submissions t.taskId evs = [(b, given)]
      ∧ t.producedSha = some (H.unicode.lower given) ∧ t.builderWorkerId = some b
  completed : (t.state ≠ .completed ∧ completions t.taskId evs = [])
    ∨ ∃ v, t.state = .completed ∧ completions t.taskId evs = [v]
      ∧ t.validatorWorkerId = some v ∧ t.builderWorkerId ≠ some v

/-- Nothing happened to a task that is not there. -/
def Unmentioned (tid : String) (evs : List Event) : Prop :=
  submissions tid evs = [] ∧ completions tid evs = []

variable {H : Host} {cfg : Config} {s s' : Store} {a : Act} {t t' : Task} {evs : List Event}

theorem submissions_append (tid : String) (evs evs' : List Event) :
    submissions tid (evs ++ evs') = submissions tid evs ++ submissions tid evs' :=
  List.filterMap_append

theorem completions_append (tid : String) (evs evs' : List Event) :
    completions tid (evs ++ evs') = completions tid evs ++ completions tid evs' :=
  List.filterMap_append

theorem submissions_submit (tid worker token given : String) :
    submissions tid (Act.submit tid worker token given).event.toList = [(worker, given)] := by
  simp [submissions, Act.event]

theorem completions_complete (tid worker token : String) :
    completions tid (Act.complete tid worker token).event.toList = [worker] := by
  simp [completions, Act.event]

/-- The mark of an act concerns only the task of the act. -/
theorem unmentioned_event {tid : String} (h : a.taskId? ≠ some tid) :
    Unmentioned tid a.event.toList := by
  cases a <;> simp_all [Act.taskId?, Act.event, Unmentioned, submissions, completions]

theorem Unmentioned.append {tid : String} (h : Unmentioned tid evs) (ha : a.taskId? ≠ some tid) :
    Unmentioned tid (evs ++ a.event.toList) := by
  obtain ⟨hsub, hcomp⟩ := unmentioned_event ha
  refine ⟨?_, ?_⟩
  · rw [submissions_append, h.1, hsub, List.append_nil]
  · rw [completions_append, h.2, hcomp, List.append_nil]

theorem HistoryOk.append_other (h : HistoryOk H evs t) (ha : a.taskId? ≠ some t.taskId) :
    HistoryOk H (evs ++ a.event.toList) t := by
  obtain ⟨hsub, hcomp⟩ := unmentioned_event ha
  constructor
  · rw [submissions_append, hsub, List.append_nil]
    exact h.produced
  · rw [completions_append, hcomp, List.append_nil]
    exact h.completed

/-- An act without a mark that keeps the columns the history speaks about. -/
private theorem HistoryOk.of_silent {evs' : List Event} (h : HistoryOk H evs t)
    (hid : t'.taskId = t.taskId) (hsha : t'.producedSha = t.producedSha)
    (hbuilder : t'.builderWorkerId = t.builderWorkerId ∨ t.producedSha = none)
    (hstate : t.state ≠ .completed) (hstate' : t'.state ≠ .completed)
    (hunm : Unmentioned t.taskId evs') : HistoryOk H (evs ++ evs') t' := by
  constructor
  · rw [hid, submissions_append, hunm.1, List.append_nil, hsha]
    rcases h.produced with hnone | ⟨b, given, hsub, hsome, hb⟩
    · exact Or.inl hnone
    · refine Or.inr ⟨b, given, hsub, hsome, ?_⟩
      rcases hbuilder with hbuilder | hnone
      · rw [hbuilder, hb]
      · rw [hnone] at hsome
        cases hsome
  · rw [hid, completions_append, hunm.2, List.append_nil]
    rcases h.completed with ⟨-, hcomp⟩ | ⟨v, hdone, -⟩
    · exact Or.inl ⟨hstate', hcomp⟩
    · exact absurd hdone hstate

theorem Task.ne_completed_of_isActive (h : t.isActive = true) : t.state ≠ .completed := by
  intro hstate
  rw [Task.isActive_iff, hstate] at h
  simp at h

theorem Task.resumeState_ne_completed (t : Task) : t.resumeState ≠ .completed := by
  rw [Task.resumeState]
  split <;> decide

/-- **Every act keeps its row in agreement with the history.** -/
theorem Change.historyOk (h : Change H a t t') (hok : t.LeaseOk) (hist : HistoryOk H evs t)
    (hid : a.taskId? = some t.taskId) : HistoryOk H (evs ++ a.event.toList) t' := by
  cases a <;> simp only [Change] at h
  case claim tid worker token role =>
    obtain ⟨hstate, -, -, _, _, _, rfl⟩ := h
    refine hist.of_silent rfl rfl (Or.inl rfl) ?_ ?_ ⟨rfl, rfl⟩
    · rw [hstate]
      cases role <;> decide
    · cases role <;> exact TaskState.noConfusion
  case renew tid worker token =>
    obtain ⟨hactive, -, _, _, _, rfl⟩ := h
    have hne := Task.ne_completed_of_isActive hactive
    exact hist.of_silent rfl rfl (Or.inl rfl) hne hne ⟨rfl, rfl⟩
  case start tid worker token =>
    obtain ⟨hstate, -, _, _, rfl⟩ := h
    refine hist.of_silent rfl rfl (Or.inr (hok.unproduced (Or.inr (Or.inl hstate)))) ?_ ?_ ⟨rfl, rfl⟩
    · simp [hstate]
    · exact TaskState.noConfusion
  case submit tid worker token given =>
    obtain ⟨hstate, -, hbuilder, -, _, _, rfl⟩ := h
    obtain rfl : tid = t.taskId := Option.some.inj hid
    have hsha := hok.unproduced (Or.inr (Or.inr hstate))
    have hsub : submissions t.taskId evs = [] := by
      rcases hist.produced with ⟨-, hsub⟩ | ⟨_, _, -, hsome, -⟩
      · exact hsub
      · rw [hsha] at hsome
        cases hsome
    have hcomp : completions t.taskId evs = [] := by
      rcases hist.completed with ⟨-, hcomp⟩ | ⟨_, hdone, -⟩
      · exact hcomp
      · rw [hstate] at hdone
        cases hdone
    refine ⟨Or.inr ⟨worker, given, ?_, rfl, hbuilder⟩, Or.inl ⟨TaskState.noConfusion, ?_⟩⟩
    · change submissions t.taskId _ = _
      rw [submissions_append, hsub, submissions_submit, List.nil_append]
    · change completions t.taskId _ = _
      rw [completions_append, hcomp]
      rfl
  case complete tid worker token =>
    obtain ⟨hstate, ⟨hby, -⟩, hbuilder, -, _, _, rfl⟩ := h
    obtain rfl : tid = t.taskId := Option.some.inj hid
    have hvalidator := hok.validator hstate worker hby
    have hcomp : completions t.taskId evs = [] := by
      rcases hist.completed with ⟨-, hcomp⟩ | ⟨_, hdone, -⟩
      · exact hcomp
      · rw [hstate] at hdone
        cases hdone
    refine ⟨?_, Or.inr ⟨worker, rfl, ?_, hvalidator, hbuilder⟩⟩
    · have hkeep : submissions t.taskId (evs ++ (Act.complete t.taskId worker token).event.toList)
          = submissions t.taskId evs := by
        rw [submissions_append]
        exact List.append_nil _
      rcases hist.produced with ⟨hnone, hsub⟩ | ⟨b, given, hsub, hrest⟩
      · exact Or.inl ⟨hnone, hkeep.trans hsub⟩
      · exact Or.inr ⟨b, given, hkeep.trans hsub, hrest⟩
    · change completions t.taskId _ = _
      rw [completions_append, hcomp, completions_complete, List.nil_append]
  case giveBack tid =>
    obtain ⟨hactive, -, _, _, _, _, rfl⟩ := h
    exact hist.of_silent rfl rfl (Or.inl rfl) (Task.ne_completed_of_isActive hactive)
      t.resumeState_ne_completed ⟨rfl, rfl⟩
  case giveUp tid =>
    obtain ⟨hactive, -, _, _, _, _, rfl⟩ := h
    exact hist.of_silent rfl rfl (Or.inl rfl) (Task.ne_completed_of_isActive hactive)
      TaskState.noConfusion ⟨rfl, rfl⟩
  case block tid =>
    obtain ⟨hactive, _, _, _, _, _, -, rfl⟩ := h
    exact hist.of_silent rfl rfl (Or.inl rfl) (Task.ne_completed_of_isActive hactive)
      TaskState.noConfusion ⟨rfl, rfl⟩
  case requeue tid =>
    obtain ⟨hstate, _, _, rfl⟩ := h
    exact hist.of_silent rfl rfl (Or.inl rfl) (by simp [hstate]) t.resumeState_ne_completed
      ⟨rfl, rfl⟩

/-! ## Runs -/

/-- The database agrees with the history. -/
structure Store.HistoryInv (H : Host) (evs : List Event) (s : Store) : Prop where
  rows : ∀ t ∈ s.tasks, HistoryOk H evs t
  absent : ∀ tid, (∀ t ∈ s.tasks, t.taskId ≠ tid) → Unmentioned tid evs

theorem Effect.historyInv (h : Effect H s a s') (hlease : s.LeaseInv) (hinv : s.HistoryInv H evs) :
    s'.HistoryInv H (evs ++ a.event.toList) where
  rows r hr := by
    rcases h.mem_cases hr with ⟨hr, hne⟩ | ⟨rfl, hfresh, hnew⟩ | ⟨t, ht, hid, hchange⟩
    · exact (hinv.rows r hr).append_other hne
    · obtain ⟨hsub, hcomp⟩ := hinv.absent r.taskId hnew
      constructor
      · refine Or.inl ⟨hfresh.producedSha, ?_⟩
        rw [submissions_append, hsub]
        rfl
      · refine Or.inl ⟨by simp [hfresh.state], ?_⟩
        rw [completions_append, hcomp]
        rfl
    · exact hchange.historyOk (hlease.rows t ht) (hinv.rows t ht) hid
  absent tid habsent := by
    have hbefore : ∀ t ∈ s.tasks, t.taskId ≠ tid := by
      intro t ht heq
      by_cases ha : a.taskId? = some t.taskId
      · obtain ⟨t', ht', hid'⟩ := h.mem_of_taskId ht
        exact habsent t' ht' (hid'.trans heq)
      · exact habsent t (h.mem_of_ne ht ha) heq
    refine (hinv.absent tid hbefore).append fun ha ↦ ?_
    obtain ⟨t, ht, hid⟩ := h.exists_row ha
    exact hbefore t ht hid

theorem historyInv_of_run {acts : List Act} (h : (protocol H).Run acts s) :
    s.HistoryInv H (acts.filterMap Act.event) := by
  refine h.traceInvariant (I := fun acts s ↦ s.HistoryInv H (acts.filterMap Act.event)) ?_ ?_
  · rintro s rfl
    exact ⟨List.forall_mem_nil _, fun _ _ ↦ ⟨rfl, rfl⟩⟩
  · intro acts s a s' hrun hinv hstep
    have hstep' := Effect.historyInv hstep (leaseInv_of_protocol_run hrun) hinv
    rw [List.filterMap_append]
    cases ha : a.event <;> simpa [ha] using hstep'

/-- **Independent validation.** A completed task has exactly one successful submission and one
completion in its history. Its commit is the lowercase form of the one that was submitted, its
builder is the worker that submitted, its validator the worker that completed, and they differ. -/
theorem completed_independently {tr : List (Call × Except PoolError Reply)}
    (h : (system H cfg).Run tr s) (ht : t ∈ s.tasks) (hdone : t.state = .completed) :
    ∃ b v given, submissions t.taskId (tr.flatMap events) = [(b, given)]
      ∧ t.producedSha = some (H.unicode.lower given) ∧ sha40 (H.unicode.lower given) = true
      ∧ completions t.taskId (tr.flatMap events) = [v]
      ∧ t.builderWorkerId = some b ∧ t.validatorWorkerId = some v ∧ b ≠ v := by
  obtain ⟨acts, hrun, hevents⟩ := run_refines h
  have hist := (historyInv_of_run hrun).rows t ht
  have hok := (leaseInv_of_protocol_run hrun).rows t ht
  rw [hevents] at hist
  obtain ⟨v, -, hcomp, hvalidator, hne⟩ := hist.completed.resolve_left fun hnot ↦ hnot.1 hdone
  rcases hist.produced with ⟨hnone, -⟩ | ⟨b, given, hsub, hsha, hbuilder⟩
  · exact absurd hnone (hok.produced (Or.inr hdone))
  · refine ⟨b, v, given, hsub, hsha, hok.hex _ hsha, hcomp, hbuilder, hvalidator, ?_⟩
    rintro rfl
    exact hne hbuilder

/-- The hand-off of one task, up to its completion. -/
theorem completed_independently_handoff :
    ∃ t ∈ (sampleRun (handoffCalls "0123456789abcdef0123456789abcdef01234567")).2.tasks,
      t.state = .completed ∧ ∃ b v given,
        submissions t.taskId ((sampleRun (handoffCalls
          "0123456789abcdef0123456789abcdef01234567")).1.flatMap events) = [(b, given)]
        ∧ t.producedSha = some (sampleHost.unicode.lower given)
        ∧ t.builderWorkerId = some b ∧ t.validatorWorkerId = some v ∧ b ≠ v := by
  have hone : (sampleRun (handoffCalls "0123456789abcdef0123456789abcdef01234567")).2.tasks.map
      Task.state = [.completed] := by decide +kernel
  obtain ⟨t, htasks, hstate⟩ := List.map_eq_singleton_iff.mp hone
  have ht : t ∈ (sampleRun (handoffCalls "0123456789abcdef0123456789abcdef01234567")).2.tasks := by
    rw [htasks]
    exact List.mem_singleton_self t
  obtain ⟨b, v, given, hsub, hsha, -, -, hb, hv, hne⟩ :=
    completed_independently (run_sampleRun _) ht hstate
  exact ⟨t, ht, hstate, b, v, given, hsub, hsha, hb, hv, hne⟩

/-- The commit column is not always the value that was given: a commit written with capital letters
is stored in lowercase. -/
theorem produced_sha_not_verbatim :
    ¬∀ tr s, (system sampleHost sampleConfig).Run tr s → ∀ t ∈ s.tasks, t.state = .completed →
      ∃ b given, submissions t.taskId (tr.flatMap events) = [(b, given)]
        ∧ t.producedSha = some given := by
  intro hall
  have hrun := run_sampleRun (handoffCalls "ABCDEF0123456789ABCDEF0123456789ABCDEF01")
  have hone : (sampleRun (handoffCalls "ABCDEF0123456789ABCDEF0123456789ABCDEF01")).2.tasks.map
      (fun t ↦ (t.taskId, t.state, t.producedSha))
      = [(firstTask, .completed, some "abcdef0123456789abcdef0123456789abcdef01")] := by
    decide +kernel
  have hsub : submissions firstTask ((sampleRun (handoffCalls
      "ABCDEF0123456789ABCDEF0123456789ABCDEF01")).1.flatMap events)
      = [("b", "ABCDEF0123456789ABCDEF0123456789ABCDEF01")] := by
    decide +kernel
  obtain ⟨t, htasks, hcols⟩ := List.map_eq_singleton_iff.mp hone
  simp only [Prod.mk.injEq] at hcols
  obtain ⟨b, given, hgiven, hsha⟩ := hall _ _ hrun t
    (by rw [htasks]; exact List.mem_singleton_self t) hcols.2.1
  rw [hcols.1, hsub] at hgiven
  cases hgiven
  rw [hcols.2.2] at hsha
  exact absurd hsha (by decide)

end WorkerPool

end ReqSys
