import Mathlib
import ReqSys.WorkerPool.Bridge
import ReqSys.WorkerPool.Idempotency
import ReqSys.WorkerPool.LeaseInvariant

/-!
# The worker pool: hand-overs

The request id of an issue is a digest of the repository, the issue and the base branch. The base
SHA is no part of it, but the pool compares it when a task is enqueued again. So once the branch has
moved, an issue that was handed over before is refused with 409, and the bridge raises: the issues
that come after it in the report are not handed over, and repeating the call does not help.

`Consistent` asks of a call that the issues of its report agree with the tasks that are there: where
an identity is the same, so is what is asked. Then every eligible issue of the report has a task when
the call returns, in any run and with any calls of the workers in between, and the same call
succeeds again at any later time.
-/

namespace ReqSys

namespace WorkerPool

namespace Bridge

open PyText Program

variable {H : Host} {cfg : Config} {env : Env} {s s' : Store} {body : TaskCreate}

/-! ## Text -/

/-- The first character of a stripped text is no blank. -/
private theorem strip_head {text : String} (h : strip text ≠ "") :
    ∃ c l, (strip text).toList = c :: l ∧ isSpace c = false := by
  set l₁ := text.toList.dropWhile isSpace with hl₁
  have hstrip : (strip text).toList = l₁.rdropWhile isSpace := toList_strip text
  cases hlist : (strip text).toList with
  | nil => exact absurd (String.toList_eq_nil_iff.mp hlist) h
  | cons c l =>
    refine ⟨c, l, rfl, ?_⟩
    obtain ⟨rest, hrest⟩ := List.rdropWhile_prefix isSpace l₁
    rw [← hstrip, hlist] at hrest
    have hhead := List.head?_dropWhile_not isSpace text.toList
    rw [← hl₁, ← hrest] at hhead
    simpa using hhead

/-! ## What a request asks for -/

/-- Two tasks that share an identity are asked for alike. -/
def Agree (i j : Intent) : Prop :=
  i.taskId = j.taskId ∨ i.idempotencyKey = j.idempotencyKey → i = j

instance (i j : Intent) : Decidable (Agree i j) :=
  inferInstanceAs (Decidable (_ ∨ _ → _))

/-- The identity that the pool computes for a request. -/
def keyFor (H : Host) (body : TaskCreate) : String :=
  identity H (strip body.repository) body.issueNumber (strip body.requestId)

/-- The intent of the task that a request leaves. -/
def intentFor (H : Host) (cfg : Config) (body : TaskCreate) : Intent where
  taskId := taskId (keyFor H body)
  idempotencyKey := keyFor H body
  repository := body.repository
  issueNumber := body.issueNumber
  requestId := body.requestId
  priority := body.priority
  branch := branch H body.issueNumber body.requestId
  baseSha := some body.baseSha
  maxAttempts := orDefault body.maxAttempts cfg.defaultMaxAttempts

/-- A request that the routes accept. -/
structure Sound (body : TaskCreate) : Prop where
  valid : body.valid = true
  repository : strip body.repository = body.repository
  slash : contains "/" body.repository = true
  requestId : strip body.requestId = body.requestId
  correlationId : strip body.correlationId ≠ ""
  baseSha : sha40 body.baseSha = true
  issueNumber_lt : body.issueNumber < 2 ^ 63
  maxAttempts : ∃ n, body.maxAttempts = some n ∧ 1 ≤ n ∧ n ≤ 20

/-- What a request for a task does: the task is there, as asked for. -/
structure Posted (H : Host) (cfg : Config) (body : TaskCreate) (s : Store) (row : Task)
    (created : Bool) (s' : Store) : Prop where
  row_mem : row ∈ s'.tasks
  intent : row.intent = intentFor H cfg body
  distinct : s'.Distinct
  created_iff : created = true ↔ intentFor H cfg body ∉ s.intents
  intents : s'.intents = if created then s.intents ++ [intentFor H cfg body] else s.intents

theorem Sound.orDefault (h : Sound body) : 1 ≤ orDefault body.maxAttempts cfg.defaultMaxAttempts
    ∧ orDefault body.maxAttempts cfg.defaultMaxAttempts ≤ 20 := by
  obtain ⟨n, hn, hpos, hle⟩ := h.maxAttempts
  rw [hn, WorkerPool.orDefault]
  split <;> omega

/-- The pool recognises the task of a request. -/
theorem sameEnqueueIntent_of_intent {row : Task} (hbody : Sound body)
    (h : intentFor H cfg body = row.intent) :
    sameEnqueueIntent H row body.args (some body.baseSha)
      (orDefault body.maxAttempts cfg.defaultMaxAttempts)
      (branch H body.issueNumber body.requestId) = true := by
  have hrepository : row.repository = body.repository := (congrArg Intent.repository h).symm
  have hissue : row.issueNumber = body.issueNumber := (congrArg Intent.issueNumber h).symm
  have hrequest : row.requestId = body.requestId := (congrArg Intent.requestId h).symm
  have hpriority : row.priority = body.priority := (congrArg Intent.priority h).symm
  have hsha : row.baseSha = some body.baseSha := (congrArg Intent.baseSha h).symm
  have hattempts := (congrArg Intent.maxAttempts h).symm
  have hbranch := (congrArg Intent.branch h).symm
  have htruthy : truthy (some body.baseSha) = true := bne_iff_ne.mpr (sha40_ne_empty hbody.baseSha)
  rw [sameEnqueueIntent, decide_eq_true_iff, hrepository, hrequest, hsha, if_pos htruthy]
  refine ⟨?_, hissue, ?_, hpriority, ?_, hattempts, hbranch⟩
  · change _ = H.unicode.casefold (strip (strip body.repository))
    rw [strip_strip]
  · change _ = strip (strip body.requestId)
    rw [strip_strip]
  · exact congrArg some (lower_of_isHex H.unicode hbody.baseSha)

/-- **One request.** When the tasks that are there agree with it, it is answered, and its task is
there afterwards. -/
theorem enqueueTask_posted (hbody : Sound body) (hs : s.Distinct)
    (hagrees : ∀ i ∈ s.intents, Agree (intentFor H cfg body) i) (env : Env) :
    ∃ s' row created, enqueueTask H cfg env body.args s = (s', .ok (.enqueued row created))
      ∧ Posted H cfg body s row created s' := by
  have hvalid := hbody.valid
  simp only [TaskCreate.valid, decide_eq_true_eq] at hvalid
  obtain ⟨-, -, hissue, hrequest, -, -, -, hpriority, hpriority', -, -⟩ := hvalid
  have hattempts := @Sound.orDefault cfg _ hbody
  have hrequest' : body.requestId ≠ "" := by
    intro h
    rw [h] at hrequest
    exact absurd hrequest (by decide)
  have hsha : truthy (some body.baseSha) = true := bne_iff_ne.mpr (sha40_ne_empty hbody.baseSha)
  set attempts := orDefault body.maxAttempts cfg.defaultMaxAttempts with hattemptsDef
  set laned := ensureRepositoryLane (env.clock 1) body.repository s with hlaned
  have htasks : laned.tasks = s.tasks := rfl
  have hbase : body.args.normalizedBaseSha H = some body.baseSha := by
    change (if truthy (some body.baseSha) then _ else _) = _
    rw [if_pos hsha]
    exact congrArg some (lower_of_isHex H.unicode hbody.baseSha)
  have hvalidArgs : body.args.Valid H cfg := by
    refine ⟨?_, ?_, ⟨_, rfl⟩, hattempts.1⟩
    · change contains "/" (strip body.repository) = true ∧ 1 ≤ (body.issueNumber : ℤ)
        ∧ strip body.requestId ≠ "" ∧ strip body.correlationId ≠ ""
      rw [hbody.repository, hbody.requestId]
      exact ⟨hbody.slash, hissue, hrequest', hbody.correlationId⟩
    · rw [hbase]
      exact fun _ ↦ hbody.baseSha
  have hbranch : enqueueBranch H body.args = .ok (branch H body.issueNumber body.requestId) := by
    change Except.ok (branch H body.issueNumber (strip body.requestId)) = _
    rw [hbody.requestId]
  have hrepository : strip body.args.repository = body.repository := hbody.repository
  have hreduce : enqueueTask H cfg env body.args s
      = transaction (enqueueWrite H env body.args (keyFor H body)
          (branch H body.issueNumber body.requestId) (env.clock 0).iso (some body.baseSha)
          attempts s) (fun r _ ↦ .ok (.enqueued r.1 r.2)) s := by
    rw [enqueueTask_of_valid hvalidArgs hbranch, hbase]
    rfl
  rw [hreduce, enqueueWrite, hrepository]
  dsimp only
  cases hlook : Table.lookup Task.idempotencyKey (keyFor H body) laned.tasks with
  | some row =>
    -- The row under the key is the task asked for, so the comparison of the pool succeeds.
    have hmem : row ∈ s.tasks := Table.mem_of_lookup hlook
    have hintent : intentFor H cfg body = row.intent :=
      hagrees row.intent (List.mem_map_of_mem hmem) (Or.inr (Table.key_of_lookup hlook).symm)
    dsimp only
    rw [require_bind_of_true (sameEnqueueIntent_of_intent hbody hintent)]
    refine ⟨laned, row, false, rfl, hmem, hintent.symm, hs.of_intents rfl, ?_, rfl⟩
    rw [hintent]
    exact ⟨fun h ↦ absurd h Bool.false_ne_true, fun h ↦ absurd (List.mem_map_of_mem hmem) h⟩
  | none =>
    have hfree : ∀ t ∈ s.tasks, t.idempotencyKey ≠ keyFor H body := fun t ht ↦
      Table.ne_key_of_lookup_none hlook ht
    have hnew : intentFor H cfg body ∉ s.intents := by
      intro h
      obtain ⟨t, ht, hintent⟩ := List.mem_map.mp h
      exact hfree t ht (congrArg Intent.idempotencyKey hintent)
    -- No other task has the first digits of the digest, or it would be the task asked for.
    have hid : ∀ t ∈ s.tasks, t.taskId ≠ taskId (keyFor H body) := by
      intro t ht heq
      have hmem : t.intent ∈ s.intents := List.mem_map_of_mem ht
      exact hnew (hagrees t.intent hmem (Or.inl heq.symm) ▸ hmem)
    set row := newTask H body.args (keyFor H body) (branch H body.issueNumber body.requestId)
      (env.clock 0).iso (some body.baseSha) attempts with hrow
    have hid' : ∀ t ∈ laned.tasks, t.taskId ≠ row.taskId := hid
    have hfree' : ∀ t ∈ laned.tasks, t.idempotencyKey ≠ row.idempotencyKey := hfree
    have hinsert : insertTask row laned = .ok { laned with tasks := s.tasks ++ [row] } := by
      rw [insertTask, require_bind_of_true hid', require_bind_of_true hfree']
      rfl
    have hintent : row.intent = intentFor H cfg body := by
      have hrequest' : strip body.args.requestId = body.requestId := hbody.requestId
      rw [hrow, Task.intent, newTask, hrepository, hrequest']
      rfl
    dsimp only
    rw [bindInteger, require_bind_of_true, bindInteger, require_bind_of_true, bindInteger,
      require_bind_of_true, hinsert]
    · refine ⟨_, row, true, rfl, List.mem_append_right _ (List.mem_singleton_self row), hintent, ?_,
        ⟨fun _ ↦ hnew, fun _ ↦ rfl⟩, ?_⟩
      · exact hs.concat hid' hfree' rfl
      · rw [if_pos rfl, ← hintent]
        exact List.map_append
    · omega
    · change -2 ^ 63 ≤ body.priority ∧ body.priority < 2 ^ 63
      omega
    · have hlt := hbody.issueNumber_lt
      change -2 ^ 63 ≤ body.issueNumber ∧ body.issueNumber < 2 ^ 63
      omega

/-! ## The requests of one issue -/

/-- The workers keep the tasks apart and change no intent. -/
theorem worked_frame (hs : s.Distinct) (calls : List WorkerCall) :
    (worked H cfg calls s).Distinct ∧ (worked H cfg calls s).intents = s.intents := by
  rw [worked]
  induction calls generalizing s with
  | nil => exact ⟨hs, rfl⟩
  | cons c calls ih =>
    rw [List.map_cons, TransitionSystem.runCalls]
    have hframe := @exec_intents H cfg _ _ (exec H cfg c.1 s).2 _ hs c.2 rfl
    obtain ⟨hdistinct, hintents⟩ := ih (hs.of_intents hframe)
    exact ⟨hdistinct, hintents.trans hframe⟩

/-- The task of a request was handed over, and no other. -/
structure Handed (H : Host) (cfg : Config) (body : TaskCreate) (s s' : Store) : Prop where
  distinct : s'.Distinct
  mem : intentFor H cfg body ∈ s'.intents
  kept : s.intents ⊆ s'.intents
  new : ∀ j ∈ s'.intents, j ∈ s.intents ∨ j = intentFor H cfg body

/-- A request for a task, with what the workers do before. -/
theorem exec_postTask (hbody : Sound body) (hs : s.Distinct)
    (hagrees : ∀ i ∈ s.intents, Agree (intentFor H cfg body) i) (i : ℕ) (m : Moment) :
    ∃ s' row created, (machine H cfg).exec i (.postTask body) m s
        = (s', .ok (if created then 201 else 200, created, publicTask row))
      ∧ Handed H cfg body s s' ∧ row.intent = intentFor H cfg body
      ∧ (created = true ↔ intentFor H cfg body ∉ s.intents) := by
  obtain ⟨hworked, hintents⟩ := @worked_frame H cfg _ hs m.between
  obtain ⟨s', row, created, henqueue, hposted⟩ :=
    @enqueueTask_posted H cfg _ _ hbody hworked (hintents ▸ hagrees) m.env
  have hcreated := hposted.created_iff
  have hall := hposted.intents
  rw [hintents] at hcreated hall
  refine ⟨s', row, created, ?_, ⟨hposted.distinct, ?_, ?_, ?_⟩, hposted.intent, hcreated⟩
  · change route H cfg m.env (worked H cfg m.between s) (.postTask body) = _
    rw [route, if_pos hbody.valid, henqueue]
  · rw [← hposted.intent]
    exact List.mem_map_of_mem hposted.row_mem
  · rw [hall]
    split
    · exact List.subset_append_left _ _
    · exact List.Subset.refl _
  · intro j hj
    rw [hall] at hj
    split at hj
    · exact (List.mem_append.mp hj).imp id List.mem_singleton.mp
    · exact Or.inl hj

/-- The task is read back. -/
theorem exec_getTask (hs : s.Distinct) (hmem : intentFor H cfg body ∈ s.intents) (i : ℕ)
    (m : Moment) :
    ∃ s' row, (machine H cfg).exec i (.getTask (taskId (keyFor H body))) m s
        = (s', .ok (200, publicTask row))
      ∧ s'.Distinct ∧ s'.intents = s.intents ∧ row.intent = intentFor H cfg body := by
  obtain ⟨hworked, hintents⟩ := @worked_frame H cfg _ hs m.between
  rw [← hintents] at hmem
  obtain ⟨row, hrow, hintent⟩ := List.mem_map.mp hmem
  refine ⟨worked H cfg m.between s, row, ?_, hworked, hintents, hintent⟩
  have hid : row.taskId = taskId (keyFor H body) := congrArg Intent.taskId hintent
  have hget : getTask (taskId (keyFor H body)) (worked H cfg m.between s) = .ok row := by
    rw [← hid]
    exact orThrow_eq_ok.mpr (hworked.keyed.lookup_of_mem hrow)
  change route H cfg m.env (worked H cfg m.between s) (.getTask _) = _
  rw [route, hget]

theorem taskId_ne_empty (key : String) : taskId key ≠ "" := by
  intro h
  have hlist := congrArg String.toList h
  rw [taskId, String.toList_append] at hlist
  exact absurd (List.append_eq_nil_iff.mp hlist).1 (by decide)

theorem validateTaskIdentity_of_intent {row : Task} (h : row.intent = intentFor H cfg body) :
    validateTaskIdentity (publicTask row) (taskId (keyFor H body)) body = .ok () := by
  rw [validateTaskIdentity, if_neg]
  rintro (hid | hrepository | hissue | hrequest | hsha)
  · exact hid (congrArg Intent.taskId h)
  · exact hrepository (congrArg Intent.repository h)
  · exact hissue (congrArg Intent.issueNumber h)
  · exact hrequest (congrArg Intent.requestId h)
  · exact hsha (congrArg Intent.baseSha h)

/-- **One issue.** Posted twice and read back, it is handed over. -/
theorem enqueueTaskFallback_alone (hbody : Sound body) (hs : s.Distinct)
    (hagrees : ∀ i ∈ s.intents, Agree (intentFor H cfg body) i) (i : ℕ) :
    Alone (machine H cfg) i s (fun r s' ↦ (∃ d, r = .ok d) ∧ Handed H cfg body s s')
      (enqueueTaskFallback body) := by
  rw [enqueueTaskFallback]
  refine EndsIn.perform_bind ?_
  rintro _ m₁ rfl -
  obtain ⟨s₁, row₁, created₁, hpost₁, hhanded₁, hintent₁, -⟩ := exec_postTask hbody hs hagrees i m₁
  have hid₁ : (publicTask row₁).taskId = taskId (keyFor H body) := congrArg Intent.taskId hintent₁
  have hagrees₁ : ∀ j ∈ s₁.intents, Agree (intentFor H cfg body) j := by
    intro j hj
    obtain hj | rfl := hhanded₁.new j hj
    · exact hagrees j hj
    · exact fun _ ↦ rfl
  rw [hpost₁]
  refine ⟨_, rfl, ?_⟩
  dsimp only
  rw [if_neg (by cases created₁ <;> simp), responseTaskId, if_neg (hid₁ ▸ taskId_ne_empty _)]
  -- The same request again: the task is there, so nothing is created.
  refine EndsIn.perform_bind ?_
  rintro _ m₂ rfl -
  obtain ⟨s₂, row₂, created₂, hpost₂, hhanded₂, hintent₂, hcreated₂⟩ :=
    exec_postTask hbody hhanded₁.distinct hagrees₁ i m₂
  have hid₂ : (publicTask row₂).taskId = taskId (keyFor H body) := congrArg Intent.taskId hintent₂
  obtain rfl : created₂ = false := by
    rw [← Bool.not_eq_true, hcreated₂, not_not]
    exact hhanded₁.mem
  rw [hpost₂]
  refine ⟨_, rfl, ?_⟩
  dsimp only
  rw [if_neg (by simp), responseTaskId, if_neg (hid₂ ▸ taskId_ne_empty _)]
  change EndsIn _ _ _ _ _ (if _ then _ else _) _
  rw [if_neg (not_not.mpr (hid₂.trans hid₁.symm)), hid₁]
  refine EndsIn.perform_bind ?_
  rintro _ m₃ rfl -
  obtain ⟨s₃, row₃, hget, hdistinct₃, hintents₃, hintent₃⟩ :=
    exec_getTask hhanded₂.distinct hhanded₂.mem i m₃
  rw [hget]
  refine ⟨_, rfl, ?_⟩
  dsimp only
  rw [if_neg (by simp), validateTaskIdentity_of_intent hintent₃]
  refine ⟨⟨_, rfl⟩, hdistinct₃, ?_, ?_, ?_⟩
  · rw [hintents₃]
    exact hhanded₂.mem
  · rw [hintents₃]
    exact List.Subset.trans hhanded₁.kept hhanded₂.kept
  · intro j hj
    rw [hintents₃] at hj
    exact (hhanded₂.new j hj).elim (hhanded₁.new j) Or.inr

/-! ## One report -/

/-- The tasks of the requests were handed over, and no other. -/
structure AllHanded (H : Host) (cfg : Config) (bodies : List TaskCreate) (s s' : Store) : Prop where
  distinct : s'.Distinct
  mem : ∀ body ∈ bodies, intentFor H cfg body ∈ s'.intents
  kept : s.intents ⊆ s'.intents

/-- **The loop.** Where the requests agree with the tasks that are there and with one another, all
of them are handed over. -/
theorem enqueueAll_alone {bodies : List TaskCreate} (hbodies : ∀ body ∈ bodies, Sound body)
    (hs : s.Distinct) (hagrees : ∀ body ∈ bodies, ∀ i ∈ s.intents ++ bodies.map (intentFor H cfg),
      Agree (intentFor H cfg body) i) (i : ℕ) :
    Alone (machine H cfg) i s (fun r s' ↦ (∃ items, r = .ok items) ∧ AllHanded H cfg bodies s s')
      (enqueueAll bodies) := by
  induction bodies generalizing s with
  | nil => exact ⟨⟨_, rfl⟩, hs, List.forall_mem_nil _, List.Subset.refl _⟩
  | cons body rest ih =>
    obtain ⟨hbody, hrest⟩ := List.forall_mem_cons.mp hbodies
    have hfirst := @enqueueTaskFallback_alone H cfg _ _ hbody hs
      (fun j hj ↦ hagrees body List.mem_cons_self j (List.mem_append_left _ hj)) i
    refine EndsIn.bind hfirst ?_ ?_
    · rintro d s₁ ⟨-, hhanded⟩
      have hagrees₁ : ∀ body' ∈ rest, ∀ j ∈ s₁.intents ++ rest.map (intentFor H cfg),
          Agree (intentFor H cfg body') j := by
        intro body' hbody' j hj
        refine hagrees body' (List.mem_cons_of_mem _ hbody') j ?_
        rw [List.map_cons, List.mem_append, List.mem_cons]
        obtain hj | hj := List.mem_append.mp hj
        · exact (hhanded.new j hj).imp id Or.inl
        · exact Or.inr (Or.inr hj)
      refine EndsIn.bind (ih hrest hhanded.distinct hagrees₁) ?_ ?_
      · rintro items s₂ ⟨-, hall⟩
        refine ⟨⟨_, rfl⟩, hall.distinct, ?_, List.Subset.trans hhanded.kept hall.kept⟩
        exact List.forall_mem_cons.mpr ⟨hall.kept hhanded.mem, hall.mem⟩
      · rintro x s₂ ⟨⟨items, hitems⟩, -⟩
        cases hitems
    · rintro x s₁ ⟨⟨d, hd⟩, -⟩
      cases hd

/-- What the bridge and the routes ask of a report, besides the issues that are there: a base SHA, a
repository, a branch, a correlation id, and the use of the task routes. -/
structure LocalWork.WellFormed (H : Host) (a : LocalWork) : Prop where
  baseSha : sha40 (H.unicode.lower (strip a.baseSha)) = true
  slash : contains "/" (strip a.report.repository) = true
  repository_length : 3 ≤ (strip a.report.repository).length
    ∧ (strip a.report.repository).length ≤ 256
  baseBranch : strip a.report.baseBranch ≠ ""
  correlationId : strip a.report.correlationId ≠ ""
  fallback : a.allowLegacyFallback = true
  numbers : ∀ item ∈ localCodexDecisions a.report, item.number < 2 ^ 63

/-- The requests for the issues of a report. -/
def LocalWork.bodies (H : Host) (a : LocalWork) : List TaskCreate :=
  (localCodexDecisions a.report).map (bodyFor H (strip a.report.repository)
    (strip a.report.baseBranch) (strip a.report.correlationId) (H.unicode.lower (strip a.baseSha)))

/-- What the issues of a report ask for. -/
def LocalWork.intents (H : Host) (cfg : Config) (a : LocalWork) : List Intent :=
  (a.bodies H).map (intentFor H cfg)

theorem number_pos {report : Report} {item : Decision} (h : item ∈ localCodexDecisions report) :
    1 ≤ item.number := by
  have hitem := (List.mem_filter.mp h).2
  simp only [decide_eq_true_eq] at hitem
  exact not_lt.mp hitem.2.2.2

/-- A request id has 24 hexadecimal digits. -/
private theorem requestId_facts (hhex : ∀ text, isHex 64 (H.sha256Hex text) = true)
    (repository : String) (n : ℤ) (baseBranch : String) :
    (localCodexRequestId H repository n baseBranch).length = 24
      ∧ strip (localCodexRequestId H repository n baseBranch)
        = localCodexRequestId H repository n baseBranch := by
  set digest := H.sha256Hex (repository ++ ":" ++ intRepr n ++ ":" ++ baseBranch) with hdigest
  have hhex' := Bool.and_eq_true_iff.mp (hhex (repository ++ ":" ++ intRepr n ++ ":" ++ baseBranch))
  rw [← hdigest] at hhex'
  have hid : localCodexRequestId H repository n baseBranch = take 24 digest := rfl
  rw [hid]
  constructor
  · rw [← String.length_toList, take, String.toList_ofList, List.length_take,
      beq_iff_eq.mp hhex'.1]
    rfl
  · refine strip_of_forall fun c hc ↦ (isHexDigit_facts ?_).2.2.2
    rw [take, String.toList_ofList] at hc
    exact List.all_eq_true.mp hhex'.2 c (List.mem_of_mem_take hc)

/-- A correlation id that is cut off is still there. -/
private theorem take_correlation {parent : String} (h : strip parent ≠ "") (rest : String) :
    1 ≤ (take 128 (strip parent ++ rest)).length ∧ (take 128 (strip parent ++ rest)).length ≤ 128
      ∧ strip (take 128 (strip parent ++ rest)) ≠ "" := by
  obtain ⟨c, l, hlist, hspace⟩ := strip_head h
  have htake : (take 128 (strip parent ++ rest)).toList = c :: (l ++ rest.toList).take 127 := by
    rw [take, String.toList_ofList, String.toList_append, hlist]
    rfl
  refine ⟨?_, ?_, strip_ne_empty (c := c) (htake ▸ List.mem_cons_self) hspace⟩
  · rw [← String.length_toList, htake, List.length_cons]
    omega
  · rw [← String.length_toList, htake, List.length_cons, List.length_take]
    omega

/-- The requests for a well-formed report are accepted. -/
theorem LocalWork.WellFormed.sound {a : LocalWork} (h : a.WellFormed H)
    (hhex : ∀ text, isHex 64 (H.sha256Hex text) = true) {body : TaskCreate}
    (hbody : body ∈ a.bodies H) : Sound body := by
  obtain ⟨item, hitem, rfl⟩ := List.mem_map.mp hbody
  obtain ⟨hrequest, hstrip⟩ := requestId_facts hhex (strip a.report.repository) item.number
    (strip a.report.baseBranch)
  obtain ⟨hcorrelation, hcorrelation', hne⟩ := take_correlation h.correlationId
    ("-issue-" ++ intRepr item.number)
  rw [← String.append_assoc] at hcorrelation hcorrelation' hne
  have hsha : (H.unicode.lower (strip a.baseSha)).length = 40 := by
    rw [← String.length_toList]
    exact beq_iff_eq.mp (Bool.and_eq_true_iff.mp h.baseSha).1
  refine ⟨?_, strip_strip _, h.slash, hstrip, ?_, h.baseSha, h.numbers item hitem, 3, rfl,
    by decide, by decide⟩
  · rw [TaskCreate.valid, decide_eq_true_iff]
    refine ⟨h.repository_length.1, h.repository_length.2, number_pos hitem, ?_, ?_, hcorrelation,
      hcorrelation', Int.le.intro 10 rfl, Int.le.intro 9990 rfl, hsha, rfl⟩
    · exact hrequest.ge.trans' (by decide)
    · exact hrequest.le.trans (by decide)
  · exact hne

theorem verifyHealth_alone (hhealthy : cfg.expectedRulesSha.isSome = true) (hs : s.Distinct)
    (i : ℕ) :
    Alone (machine H cfg) i s
      (fun r s' ↦ (∃ u, r = .ok u) ∧ s'.Distinct ∧ s'.intents = s.intents) verifyHealth := by
  rw [verifyHealth]
  refine EndsIn.perform_bind ?_
  rintro _ m rfl -
  have hexec : (machine H cfg).exec i .health m s
      = (worked H cfg m.between s, .ok (200, "healthy")) := by
    change route H cfg m.env (worked H cfg m.between s) .health = _
    rw [route, if_pos hhealthy]
  rw [hexec]
  refine ⟨_, rfl, ?_⟩
  dsimp only
  rw [if_neg (by simp)]
  exact ⟨⟨_, rfl⟩, worked_frame hs m.between⟩

/-- There is no contract, so the task routes are used. -/
theorem verifyContract_alone {allowLegacyFallback : Bool} (hs : s.Distinct)
    (hallow : allowLegacyFallback = true) (i : ℕ) :
    Alone (machine H cfg) i s
      (fun r s' ↦ (∃ mode, r = .ok mode) ∧ s'.Distinct ∧ s'.intents = s.intents)
      (verifyContract allowLegacyFallback) := by
  rw [verifyContract, hallow]
  have hrun : Alone (machine H cfg) i s
      (fun r s' ↦ r = .error (.bridgeError "worker_pool_http_404") ∧ s'.Distinct
        ∧ s'.intents = s.intents) (run .contract) := by
    rintro _ m rfl -
    exact ⟨rfl, worked_frame hs m.between⟩
  refine EndsIn.attempt_bind hrun ?_
  rintro _ s' ⟨rfl, hframe⟩
  exact ⟨⟨_, rfl⟩, hframe⟩

/-- **One call.** On a healthy pool whose tasks agree with the report, it returns, and the issues of
the report are handed over. -/
theorem enqueueLocalWork_alone (hhex : ∀ text, isHex 64 (H.sha256Hex text) = true)
    (hhealthy : cfg.expectedRulesSha.isSome = true) {a : LocalWork} (ha : a.WellFormed H)
    (hs : s.Distinct)
    (hagrees : ∀ i ∈ a.intents H cfg, ∀ j ∈ s.intents ++ a.intents H cfg, Agree i j) (i : ℕ) :
    Alone (machine H cfg) i s
      (fun r s' ↦ (∃ o, r = .ok o) ∧ AllHanded H cfg (a.bodies H) s s') (enqueueLocalWork H a) := by
  rw [enqueueLocalWork]
  dsimp only
  split
  next hnone =>
    refine ⟨⟨_, rfl⟩, hs, ?_, List.Subset.refl _⟩
    rw [LocalWork.bodies, hnone]
    exact List.forall_mem_nil _
  · have hsha : validateBaseSha H a.baseSha = .ok (H.unicode.lower (strip a.baseSha)) := by
      rw [validateBaseSha, if_pos ha.baseSha]
    have hidentity : ¬(¬contains "/" (strip a.report.repository) = true
        ∨ strip a.report.baseBranch = "" ∨ strip a.report.correlationId = "") := by
      rintro (hslash | hbranch | hparent)
      · exact hslash ha.slash
      · exact ha.baseBranch hbranch
      · exact ha.correlationId hparent
    rw [hsha, ofExcept_ok_bind, if_neg hidentity]
    refine EndsIn.bind (verifyHealth_alone hhealthy hs i) ?_ ?_
    · rintro _ s₁ ⟨-, hs₁, hintents₁⟩
      refine EndsIn.bind (verifyContract_alone hs₁ ha.fallback i) ?_ ?_
      · rintro mode s₂ ⟨-, hs₂, hintents₂⟩
        have hsame : s₂.intents = s.intents := hintents₂.trans hintents₁
        have hagrees₂ : ∀ body ∈ a.bodies H,
            ∀ j ∈ s₂.intents ++ (a.bodies H).map (intentFor H cfg),
              Agree (intentFor H cfg body) j := by
          intro body hbody j hj
          rw [hsame] at hj
          exact hagrees _ (List.mem_map_of_mem hbody) j hj
        refine EndsIn.bind
          (enqueueAll_alone (fun body hbody ↦ ha.sound hhex hbody) hs₂ hagrees₂ i) ?_ ?_
        · rintro items s₃ ⟨-, hall⟩
          refine ⟨⟨_, rfl⟩, hall.distinct, hall.mem, ?_⟩
          rw [← hsame]
          exact hall.kept
        · rintro x s₃ ⟨⟨items, hitems⟩, -⟩
          cases hitems
      · rintro x s₂ ⟨⟨mode, hmode⟩, -⟩
        cases hmode
    · rintro x s₁ ⟨⟨u, hu⟩, -⟩
      cases hu

/-! ## Runs -/

/-- **The condition.** Where an issue of the report has the identity of a task that is there, or of
another issue of the report, it asks for the same; in particular for the same base SHA. -/
def Consistent (H : Host) (cfg : Config) (s : Store) (l : Request × Except Erro Outcome) : Prop :=
  match l.1 with
  | .enqueueLocalWork a => ∀ i ∈ a.intents H cfg, ∀ j ∈ s.intents ++ a.intents H cfg, Agree i j
  | .worker _ => True

/-- A task for a decision of a report. -/
def LocalWork.Serves (H : Host) (a : LocalWork) (item : Decision) (t : Task) : Prop :=
  t.repository = strip a.report.repository ∧ t.issueNumber = item.number
    ∧ t.requestId = localCodexRequestId H (strip a.report.repository) item.number
        (strip a.report.baseBranch)
    ∧ t.baseSha = some (H.unicode.lower (strip a.baseSha))

/-- An issue that was handed over has its task. -/
theorem exists_serves {a : LocalWork} (h : ∀ i ∈ a.intents H cfg, i ∈ s.intents) {item : Decision}
    (hitem : item ∈ localCodexDecisions a.report) : ∃ t ∈ s.tasks, a.Serves H item t := by
  have hbody : bodyFor H (strip a.report.repository) (strip a.report.baseBranch)
      (strip a.report.correlationId) (H.unicode.lower (strip a.baseSha)) item ∈ a.bodies H :=
    List.mem_map_of_mem hitem
  obtain ⟨t, ht, hintent⟩ := List.mem_map.mp (h _ (List.mem_map_of_mem hbody))
  exact ⟨t, ht, congrArg Intent.repository hintent, congrArg Intent.issueNumber hintent,
    congrArg Intent.requestId hintent, congrArg Intent.baseSha hintent⟩

/-- What is stored agrees with itself. -/
theorem agree_of_distinct (hs : s.Distinct) {i j : Intent} (hi : i ∈ s.intents)
    (hj : j ∈ s.intents) : Agree i j := by
  rintro (hid | hkey)
  · exact List.inj_on_of_nodup_map hs.taskIds hi hj hid
  · exact List.inj_on_of_nodup_map hs.keys hi hj hkey

/-- Whatever a request is, the tasks stay apart and no intent is lost. -/
theorem exec_kept (op : Cmd) (m : Moment) (i : ℕ) (hs : s.Distinct) :
    ((machine H cfg).exec i op m s).1.Distinct
      ∧ s.intents ⊆ ((machine H cfg).exec i op m s).1.intents := by
  obtain ⟨hworked, hintents⟩ := @worked_frame H cfg _ hs m.between
  have hcall : ∀ c : Call, (exec H cfg c (worked H cfg m.between s)).1.Distinct
      ∧ s.intents ⊆ (exec H cfg c (worked H cfg m.between s)).1.intents := by
    intro c
    obtain ⟨hdistinct, hprefix⟩ := exec_distinct (c := c) hworked rfl
    rw [← hintents]
    exact ⟨hdistinct, hprefix.subset⟩
  have hstay : (worked H cfg m.between s).Distinct ∧ s.intents ⊆ (worked H cfg m.between s).intents :=
    ⟨hworked, hintents ▸ List.Subset.refl _⟩
  change (route H cfg m.env (worked H cfg m.between s) op).1.Distinct
    ∧ s.intents ⊆ (route H cfg m.env (worked H cfg m.between s) op).1.intents
  cases op with
  | health =>
    rw [route]
    split <;> exact hstay
  | contract => exact hstay
  | postTask body =>
    have hpost := hcall ⟨.enqueueTask body.args, m.env⟩
    change (enqueueTask H cfg m.env body.args _).1.Distinct
      ∧ s.intents ⊆ (enqueueTask H cfg m.env body.args _).1.intents at hpost
    rw [route]
    split
    · split <;> simp_all
    · exact hstay
  | getTask tid =>
    rw [route]
    split <;> exact hstay
  | op c =>
    have hop := hcall c
    rw [route]
    split <;> simp_all

/-- The tasks stay apart, and no intent is lost, whatever is called. -/
theorem path_kept {tr : List (Request × Except Erro Outcome)}
    (h : (handOvers H cfg).Path s tr s') (hs : s.Distinct) :
    s'.Distinct ∧ s.intents ⊆ s'.intents := by
  refine h.preserves (P := fun u ↦ u.Distinct ∧ s.intents ⊆ u.intents) ?_
    ⟨hs, List.Subset.refl _⟩
  rintro u ⟨c, r⟩ u' hu hstep
  have hcode : ∀ i, Alone (machine H cfg) i u
      (fun _ v ↦ v.Distinct ∧ s.intents ⊆ v.intents) (code H c) := by
    intro i
    refine alone_of_exec ?_ (code H c) hu
    rintro op m v ⟨hv, hsub⟩
    obtain ⟨hdistinct, hkept⟩ := @exec_kept H cfg _ op m i hv
    exact ⟨hdistinct, List.Subset.trans hsub hkept⟩
  obtain ⟨i, v, hv, rfl⟩ := Alone.step hcode hstep
  exact hv

/-- **One step.** A consistent call of the bridge succeeds. -/
theorem step_enqueueLocalWork (hhex : ∀ text, isHex 64 (H.sha256Hex text) = true)
    (hhealthy : cfg.expectedRulesSha.isSome = true) {a : LocalWork} (ha : a.WellFormed H)
    {r : Except Erro Outcome} (hs : s.Distinct)
    (hagrees : ∀ i ∈ a.intents H cfg, ∀ j ∈ s.intents ++ a.intents H cfg, Agree i j)
    (hstep : (handOvers H cfg).step s (.enqueueLocalWork a, r) s') :
    (∃ o, r = .ok o) ∧ ∀ i ∈ a.intents H cfg, i ∈ s'.intents := by
  obtain ⟨i, v, ⟨hr, hall⟩, rfl⟩ :=
    Alone.step (c := Request.enqueueLocalWork a)
      (fun i ↦ enqueueLocalWork_alone hhex hhealthy ha hs hagrees i) hstep
  refine ⟨hr, fun j hj ↦ ?_⟩
  obtain ⟨body, hbody, rfl⟩ := List.mem_map.mp hj
  exact hall.mem body hbody

/-- What the calls of a consistent run have handed over stays. -/
theorem kept_of_run (hhex : ∀ text, isHex 64 (H.sha256Hex text) = true)
    (hhealthy : cfg.expectedRulesSha.isSome = true)
    {tr : List (Request × Except Erro Outcome)}
    (h : ((handOvers H cfg).restrict (Consistent H cfg)).Run tr s) :
    s.Distinct ∧ ∀ a r, (Request.enqueueLocalWork a, r) ∈ tr → a.WellFormed H →
      (∃ o, r = .ok o) ∧ ∀ i ∈ a.intents H cfg, i ∈ s.intents := by
  refine h.traceInvariant (I := fun tr s ↦ s.Distinct ∧
    ∀ a r, (Request.enqueueLocalWork a, r) ∈ tr → a.WellFormed H →
      (∃ o, r = .ok o) ∧ ∀ i ∈ a.intents H cfg, i ∈ s.intents) ?_ ?_
  · rintro s rfl
    exact ⟨.empty, fun a r hmem ↦ absurd hmem List.not_mem_nil⟩
  · rintro tr s ⟨c, r⟩ s' - ⟨hs, hkept⟩ ⟨hconsistent, hstep⟩
    obtain ⟨hdistinct, hsub⟩ := path_kept (TransitionSystem.Path.single hstep) hs
    refine ⟨hdistinct, fun a r' hmem ha ↦ ?_⟩
    obtain hmem | hmem := List.mem_append.mp hmem
    · obtain ⟨hr, hin⟩ := hkept a r' hmem ha
      exact ⟨hr, fun i hi ↦ hsub (hin i hi)⟩
    · obtain ⟨rfl, rfl⟩ := Prod.mk.inj (List.mem_singleton.mp hmem)
      exact step_enqueueLocalWork hhex hhealthy ha hs hconsistent hstep

/-- **No head-of-line blocking.** In a run of consistent calls, every well-formed call of the bridge
returns, every eligible decision of its report has a task from then on, and the same call succeeds
again at any later time. -/
theorem handed_over (hhex : ∀ text, isHex 64 (H.sha256Hex text) = true)
    (hhealthy : cfg.expectedRulesSha.isSome = true)
    {tr : List (Request × Except Erro Outcome)}
    (h : ((handOvers H cfg).restrict (Consistent H cfg)).Run tr s) {a : LocalWork}
    {r : Except Erro Outcome} (hcall : (.enqueueLocalWork a, r) ∈ tr) (ha : a.WellFormed H) :
    (∃ o, r = .ok o) ∧ (∀ item ∈ localCodexDecisions a.report, ∃ t ∈ s.tasks, a.Serves H item t)
      ∧ ∀ r' s', (handOvers H cfg).step s (.enqueueLocalWork a, r') s' → ∃ o, r' = .ok o := by
  obtain ⟨hs, hkept⟩ := kept_of_run hhex hhealthy h
  obtain ⟨hr, hmem⟩ := hkept a r hcall ha
  refine ⟨hr, fun item hitem ↦ exists_serves hmem hitem, fun r' s' hstep ↦ ?_⟩
  have hagrees : ∀ i ∈ a.intents H cfg, ∀ j ∈ s.intents ++ a.intents H cfg, Agree i j := by
    intro i hi j hj
    exact agree_of_distinct hs (hmem i hi) ((List.mem_append.mp hj).elim id (hmem j))
  exact (step_enqueueLocalWork hhex hhealthy ha hs hagrees hstep).1

/-! ## A branch that moves -/

/-- The digests of the texts about two issues of a repository. -/
def digests : List (String × String) :=
  [("org/repo:1:main",
    "204684b8b24fcbcd10ac62226ad1911ce1c3925a1626e5de39d3bcb47c4ccd21"),
  ("org/repo|1|204684b8b24fcbcd10ac6222",
    "455c5698f5018d988c17dbafc626416c00b575bc3310588f52cddfcd880ef5d1"),
  ("204684b8b24fcbcd10ac6222",
    "16fa2340220706de5eed69bf881f6de6f5cd448bf35697b595b1f5d7963d45d8"),
  ("org/repo|cwp-455c5698f5018d988c17dbaf",
    "25ac740e23028055c6316a5c88ff044df26a3ec7336c85af6090b00a00a592b0"),
  ("org/repo:2:main",
    "a7d81cc4cbc442be7e6a5908fdfe4749e749ff1d68a9a5dd50c66a66bcced588"),
  ("org/repo|2|a7d81cc4cbc442be7e6a5908",
    "5b999d74e8c97b58d00da5a3b3c18bc29a654becb6c955620d353f0e9695007b"),
  ("a7d81cc4cbc442be7e6a5908",
    "b6f32c7369125b0ca93c3b3ec57117ce180e79619f68b96a8045b47777e48ce5"),
  ("org/repo|cwp-5b999d74e8c97b58d00da5a3",
    "8cec83167df7311846d8e73ec28ff36f2296bb414bb2e2a4ac7476a5b50c8dce")]

def sampleHost : Host where
  unicode := Unicode.ascii
  sha256Hex text := (digests.lookup text).getD (String.ofList (List.replicate 64 '0'))

theorem sampleHost_hex (text : String) : isHex 64 (sampleHost.sha256Hex text) = true := by
  change isHex 64 ((digests.lookup text).getD _) = true
  have hall : ∀ e ∈ digests, isHex 64 e.2 = true := by decide +kernel
  cases hlook : digests.lookup text with
  | none => decide +kernel
  | some digest =>
    obtain ⟨l₁, l₂, hsplit, -⟩ := List.lookup_eq_some_iff.mp hlook
    exact hall (text, digest) (hsplit ▸ List.mem_append_right l₁ List.mem_cons_self)

/-- The pool with its rules. -/
def healthyConfig : Config where
  heartbeatTtlSeconds := 90
  defaultLeaseSeconds := 120
  defaultMaxAttempts := 3
  progressStallSeconds := 900
  expectedRulesSha := some "0123456789abcdef0123456789abcdef01234567"
  heartbeatTtl_pos := Nat.succ_pos 89
  defaultLease_pos := Nat.succ_pos 119
  defaultMaxAttempts_pos := sampleConfig.defaultMaxAttempts_pos
  progressStall_pos := Nat.succ_pos 899
  expectedRulesSha_hex s h := Option.some.inj h ▸ rfl

def sampleDecision (number : ℤ) (status : String) : Decision where
  kind := "issue"
  number := number
  route := localCodexRoute
  status := status

def sampleWork (decisions : List Decision) (baseSha : String) : LocalWork where
  report := ⟨"org/repo", "main", "c", decisions⟩
  baseSha := baseSha

/-- The first issue, with the branch at one commit. -/
def firstWork : LocalWork :=
  sampleWork [sampleDecision 1 "dispatched"] "aaaaaaaaaaaaaaaaaaaaaaaaaaaaaaaaaaaaaaaa"

/-- Both issues, with the branch at another commit. -/
def movedWork : LocalWork :=
  sampleWork [sampleDecision 1 "already_dispatched", sampleDecision 2 "dispatched"]
    "bbbbbbbbbbbbbbbbbbbbbbbbbbbbbbbbbbbbbbbb"

/-- A call of the bridge, evaluated. -/
def handOver (a : LocalWork) (s : Store) : Option (Store × Except Erro Outcome) :=
  (code sampleHost (.enqueueLocalWork a)).runAlone (machine sampleHost healthyConfig) 0
    (List.replicate 8 { env := sampleEnv "" }) s

/-- The database after a call. -/
def after (a : LocalWork) (s : Store) : Store := (handOver a s).elim s Prod.fst

/-- What a call ends in. -/
def result (a : LocalWork) (s : Store) : Except Erro Outcome :=
  (handOver a s).elim (.error (.bridgeError "")) Prod.snd

theorem step_handOver {a : LocalWork} (h : (handOver a s).isSome = true) :
    (handOvers sampleHost healthyConfig).step s (.enqueueLocalWork a, result a s) (after a s) := by
  obtain ⟨⟨s₁, r⟩, hrun⟩ := Option.isSome_iff_exists.mp h
  refine ⟨0, List.replicate 8 { env := sampleEnv "" }, s₁, ?_, ?_⟩
  · rw [result, hrun]
    exact hrun
  · rw [after, hrun]
    rfl

example : (localCodexDecisions movedWork.report).map Decision.number = [1, 2] := by decide +kernel

theorem wellFormed_sampleWork {decisions : List Decision} {baseSha : String}
    (hsha : sha40 (asciiLower (strip baseSha)) = true)
    (hnumbers : ∀ item ∈ decisions, item.number < 2 ^ 63) :
    (sampleWork decisions baseSha).WellFormed sampleHost where
  baseSha := hsha
  slash := by
    change contains "/" (strip "org/repo") = true
    decide +kernel
  repository_length := by
    change 3 ≤ (strip "org/repo").length ∧ (strip "org/repo").length ≤ 256
    decide +kernel
  baseBranch := by
    change strip "main" ≠ ""
    decide +kernel
  correlationId := by
    change strip "c" ≠ ""
    decide +kernel
  fallback := rfl
  numbers item hitem := hnumbers item (List.mem_of_mem_filter hitem)

private theorem consistent_firstWork : ∀ i ∈ firstWork.intents sampleHost healthyConfig,
    ∀ j ∈ Store.empty.intents ++ firstWork.intents sampleHost healthyConfig, Agree i j := by
  decide +kernel

example : (firstWork.intents sampleHost healthyConfig).length = 1 := by decide +kernel

theorem handed_over_twice :
    (∃ o, result firstWork Store.empty = .ok o) ∧
      (∀ item ∈ localCodexDecisions firstWork.report,
        ∃ t ∈ (after firstWork Store.empty).tasks, firstWork.Serves sampleHost item t) ∧
      ∀ r' s', (handOvers sampleHost healthyConfig).step (after firstWork Store.empty)
        (.enqueueLocalWork firstWork, r') s' → ∃ o, r' = .ok o :=
  @handed_over sampleHost healthyConfig _ sampleHost_hex rfl
    [(.enqueueLocalWork firstWork, result firstWork Store.empty)]
    ⟨Store.empty, rfl, TransitionSystem.Path.single
      ⟨consistent_firstWork, step_handOver (by decide +kernel)⟩⟩
    _ _ List.mem_cons_self (wellFormed_sampleWork (by decide +kernel) (by decide +kernel))

/-- The branch moves between two calls. The first issue is refused, and the second one, of which the
pool has never heard, is not handed over. -/
theorem blocked_by_first :
    ∃ tr s, (handOvers sampleHost healthyConfig).Run tr s
      ∧ healthyConfig.expectedRulesSha.isSome = true ∧ movedWork.WellFormed sampleHost
      ∧ (.enqueueLocalWork movedWork, .error (.bridgeError "worker_pool_http_409")) ∈ tr
      ∧ ∃ item ∈ localCodexDecisions movedWork.report,
        ∀ t ∈ s.tasks, t.issueNumber ≠ item.number := by
  have hfirst := step_handOver (s := Store.empty) (a := firstWork) (by decide +kernel)
  have hmoved := step_handOver (s := after firstWork Store.empty) (a := movedWork)
    (by decide +kernel)
  have hresult : result movedWork (after firstWork Store.empty)
      = .error (.bridgeError "worker_pool_http_409") := by decide +kernel
  rw [hresult] at hmoved
  refine ⟨_, _, ⟨Store.empty, rfl, (TransitionSystem.Path.single hfirst).snoc hmoved⟩, rfl,
    wellFormed_sampleWork (by decide +kernel) (by decide +kernel),
    List.mem_append_right _ (List.mem_singleton_self _), sampleDecision 2 "dispatched", ?_, ?_⟩
  · decide +kernel
  · decide +kernel

end Bridge

end WorkerPool

end ReqSys
