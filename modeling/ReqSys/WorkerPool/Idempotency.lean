import Mathlib
import ReqSys.Foundation.HexText
import ReqSys.WorkerPool.Frame

/-!
# The worker pool: enqueueing twice

A request for a task is identified by a digest of its repository, its issue and its request id. The
arguments are checked before the database is read, so a call that does not pass its checks is
refused whatever is stored. A call that passes them and finds a row under its key compares that row
with what it asks for: it returns the row, or it raises and leaves the database as it was.

The key, the comparison and the columns each normalise the same fields in a way of their own.
`Store.Normal` is why they agree: what is stored was stripped, and a base SHA that is stored is
lowercase already, whatever happened to the task since.
-/

namespace ReqSys

namespace WorkerPool

open PyText

variable {H : Host} {cfg : Config} {env : Env} {s s' : Store} {a : EnqueueArgs} {row : Task}
  {r : Except PoolError Reply}

/-! ## Lowercase digests -/

/-- A lowercase digest is its own lower case. -/
theorem lower_of_isHex (U : Unicode) {n : ℕ} {text : String} (h : isHex n text = true) :
    U.lower text = text := by
  rw [U.lower_ascii text fun c hc ↦ (isHexDigit_facts (forall_of_isHex h c hc)).1,
    asciiLower_of_isHex h]

/-! ## What a call asks for -/

/-- `normalized_base_sha`. -/
def EnqueueArgs.normalizedBaseSha (H : Host) (a : EnqueueArgs) : Option String :=
  if truthy a.baseSha then a.baseSha.map H.unicode.lower else none

/-- `attempts`. -/
def EnqueueArgs.attempts (cfg : Config) (a : EnqueueArgs) : ℤ :=
  orDefault a.maxAttempts cfg.defaultMaxAttempts

/-- The idempotency key of a call. -/
def EnqueueArgs.key (H : Host) (a : EnqueueArgs) : String :=
  identity H (strip a.repository) a.issueNumber (strip a.requestId)

/-- The arguments pass the checks that come before the transaction. -/
structure EnqueueArgs.Valid (H : Host) (cfg : Config) (a : EnqueueArgs) : Prop where
  identity : contains "/" (strip a.repository) ∧ 1 ≤ a.issueNumber ∧ strip a.requestId ≠ ""
    ∧ strip a.correlationId ≠ ""
  baseSha : truthy (a.normalizedBaseSha H) → (a.normalizedBaseSha H).all sha40
  branch : ∃ taskBranch, enqueueBranch H a = .ok taskBranch
  attempts : 1 ≤ a.attempts cfg

/-- The call asks for what is stored: the repository up to its case, the request id stripped, and
the branch that the call names or that follows from the issue. An empty base SHA is none. -/
structure SameIntent (H : Host) (cfg : Config) (a : EnqueueArgs) (row : Task) : Prop where
  repository : H.unicode.casefold row.repository = H.unicode.casefold (strip a.repository)
  issueNumber : row.issueNumber = a.issueNumber
  requestId : row.requestId = strip a.requestId
  priority : row.priority = a.priority
  baseSha : row.baseSha.filter (· ≠ "") = a.normalizedBaseSha H
  maxAttempts : row.maxAttempts = a.attempts cfg
  branch : enqueueBranch H a = .ok row.branch

/-- The checks that come before the transaction, and the branch of the task. -/
def EnqueueArgs.checked (H : Host) (cfg : Config) (a : EnqueueArgs) : Except PoolError String := do
  require (¬(¬contains "/" (strip a.repository) ∨ a.issueNumber < 1 ∨ strip a.requestId = ""
    ∨ strip a.correlationId = "")) (.value "identidade da task inválida")
  require (truthy (a.normalizedBaseSha H) → (a.normalizedBaseSha H).all sha40)
    (.value "base_sha inválido")
  let taskBranch ← enqueueBranch H a
  require (¬a.attempts cfg < 1) (.value "max_attempts inválido")
  return taskBranch

theorem enqueueTask_eq : enqueueTask H cfg env a s = transaction (a.checked H cfg >>= fun b ↦
    enqueueWrite H env a (a.key H) b (env.clock 0).iso (a.normalizedBaseSha H) (a.attempts cfg) s)
    (fun r _ ↦ .ok (.enqueued r.1 r.2)) s := by
  simp only [EnqueueArgs.checked, bind_assoc, pure_bind]
  rfl

theorem EnqueueArgs.checked_eq_ok {taskBranch : String} : a.checked H cfg = .ok taskBranch ↔
    a.Valid H cfg ∧ enqueueBranch H a = .ok taskBranch := by
  rw [checked, require_bind_eq_ok, require_bind_eq_ok, bind_eq_ok]
  constructor
  · rintro ⟨hidentity, hsha, b, hb, hrest⟩
    obtain ⟨hattempts, hrest⟩ := require_bind_eq_ok.mp hrest
    cases hrest
    refine ⟨⟨?_, hsha, ⟨taskBranch, hb⟩, not_lt.mp hattempts⟩, hb⟩
    push Not at hidentity
    exact hidentity
  · rintro ⟨ha, hb⟩
    refine ⟨?_, ha.baseSha, taskBranch, hb, require_bind_eq_ok.mpr ⟨not_lt.mpr ha.attempts, rfl⟩⟩
    push Not
    exact ha.identity

theorem EnqueueArgs.checked_onlyRaises :
    OnlyRaises (fun e ↦ ∃ text, e = .value text) (a.checked H cfg) := by
  have hvalue : ∀ text, ∃ text', PoolError.value text = .value text' := fun text ↦ ⟨text, rfl⟩
  refine OnlyRaises.bind (OnlyRaises.require (hvalue _)) fun _ _ ↦ ?_
  refine OnlyRaises.bind (OnlyRaises.require (hvalue _)) fun _ _ ↦ ?_
  refine OnlyRaises.bind ?_ fun _ _ ↦
    OnlyRaises.bind (OnlyRaises.require (hvalue _)) fun _ _ ↦ OnlyRaises.ok _
  rw [enqueueBranch]
  split
  · refine OnlyRaises.bind (OnlyRaises.require (hvalue _)) fun _ _ ↦ ?_
    refine OnlyRaises.bind (OnlyRaises.require (hvalue _)) fun _ _ ↦ ?_
    exact OnlyRaises.bind (OnlyRaises.require (hvalue _)) fun _ _ ↦ OnlyRaises.ok _
  · exact OnlyRaises.ok _

/-- **The checks.** A call that passes them comes to its transaction. -/
theorem enqueueTask_of_valid (ha : a.Valid H cfg) {taskBranch : String}
    (hbranch : enqueueBranch H a = .ok taskBranch) :
    enqueueTask H cfg env a s = transaction (enqueueWrite H env a (a.key H) taskBranch
      (env.clock 0).iso (a.normalizedBaseSha H) (a.attempts cfg) s)
      (fun r _ ↦ .ok (.enqueued r.1 r.2)) s := by
  rw [enqueueTask_eq, EnqueueArgs.checked_eq_ok.mpr ⟨ha, hbranch⟩, ok_bind]

/-- A call that does not pass them is refused. -/
theorem enqueueTask_of_not_valid (ha : ¬a.Valid H cfg) :
    ∃ text, enqueueTask H cfg env a s = (s, .error (.value text)) := by
  rw [enqueueTask_eq]
  cases hchecked : a.checked H cfg with
  | ok taskBranch => exact absurd (EnqueueArgs.checked_eq_ok.mp hchecked).1 ha
  | error e =>
    obtain ⟨text, rfl⟩ := EnqueueArgs.checked_onlyRaises e hchecked
    exact ⟨text, rfl⟩

/-! ## What is stored -/

theorem Store.Distinct.keyed_idempotencyKey (h : s.Distinct) :
    Table.Keyed Task.idempotencyKey s.tasks := by
  have hmap : s.intents.map Intent.idempotencyKey = s.tasks.map Task.idempotencyKey := List.map_map
  rw [Table.Keyed, ← hmap]
  exact h.keys

/-- What is asked of a task is stored in its normal form. -/
structure Intent.Normal (i : Intent) : Prop where
  repository : strip i.repository = i.repository
  requestId : strip i.requestId = i.requestId
  baseSha : ∀ sha, i.baseSha = some sha → sha ≠ "" → sha40 sha = true

/-- A call that enqueues leaves the intents as they are, or adds its own. -/
theorem enqueueTask_intents (h : enqueueTask H cfg env a s = (s', r)) :
    s'.intents = s.intents ∨ ∃ b stamp, a.Valid H cfg ∧ s'.intents = s.intents
      ++ [(newTask H a (a.key H) b stamp (a.normalizedBaseSha H) (a.attempts cfg)).intent] := by
  rw [enqueueTask_eq] at h
  rcases transaction_cases h with ⟨_, hbody, -⟩ | ⟨rfl, -⟩
  · obtain ⟨b, hchecked, hbody⟩ := bind_eq_ok.mp hbody
    rw [enqueueWrite] at hbody
    split at hbody
    · rw [require_bind_eq_ok] at hbody
      obtain ⟨-, hbody⟩ := hbody
      cases hbody
      exact Or.inl rfl
    · simp only [bindInteger, require_bind_eq_ok] at hbody
      obtain ⟨-, -, -, hbody⟩ := hbody
      rw [bind_eq_ok] at hbody
      obtain ⟨s₁, hinsert, hbody⟩ := hbody
      cases hbody
      simp only [insertTask, require_bind_eq_ok] at hinsert
      obtain ⟨-, -, hinsert⟩ := hinsert
      cases hinsert
      exact Or.inr ⟨b, _, (EnqueueArgs.checked_eq_ok.mp hchecked).1, List.map_append⟩
  · exact Or.inl rfl

/-- The intent of a call that passes its checks is in normal form. -/
theorem normal_newTask (ha : a.Valid H cfg) (key b stamp : String) :
    (newTask H a key b stamp (a.normalizedBaseSha H) (a.attempts cfg)).intent.Normal where
  repository := strip_strip a.repository
  requestId := strip_strip a.requestId
  baseSha sha hsha hne := by
    have hall := ha.baseSha
    rw [show a.normalizedBaseSha H = some sha from hsha] at hall
    exact hall (bne_iff_ne.mpr hne)

/-- In every reachable database the keys are apart and what is stored is in normal form. -/
theorem normal_of_run {tr : List (Call × Except PoolError Reply)} (h : (system H cfg).Run tr s) :
    s.Distinct ∧ ∀ i ∈ s.intents, i.Normal := by
  refine h.invariant (I := fun u ↦ u.Distinct ∧ ∀ i ∈ u.intents, i.Normal) ?_ ?_
  · rintro u rfl
    exact ⟨.empty, List.forall_mem_nil _⟩
  · rintro u ⟨c, r⟩ v ⟨hdistinct, hnormal⟩ hexec
    refine ⟨(exec_distinct hdistinct hexec).1, ?_⟩
    obtain ⟨op, env⟩ := c
    cases hop : op.isEnqueue with
    | false => rwa [exec_intents hdistinct hop hexec]
    | true =>
      cases op with
      | enqueueTask a =>
        rcases enqueueTask_intents hexec with hsame | ⟨b, stamp, ha, hadd⟩
        · rwa [hsame]
        · rw [hadd]
          exact List.forall_mem_append.mpr ⟨hnormal,
            List.forall_mem_singleton.mpr (normal_newTask ha _ _ _)⟩
      | _ => cases hop

/-! ## The comparison -/

/-- On a stored row the comparison of the source is the comparison of intents. -/
theorem sameEnqueueIntent_iff (hrow : row.intent.Normal) {taskBranch : String}
    (hbranch : enqueueBranch H a = .ok taskBranch) :
    sameEnqueueIntent H row a (a.normalizedBaseSha H) (a.attempts cfg) taskBranch = true
      ↔ SameIntent H cfg a row := by
  have hrepository : strip row.repository = row.repository := hrow.repository
  have hrequest : strip row.requestId = row.requestId := hrow.requestId
  have hsha : (if truthy row.baseSha then row.baseSha.map H.unicode.lower else none)
      = row.baseSha.filter (· ≠ "") := by
    cases hstored : row.baseSha with
    | none => rfl
    | some sha =>
      by_cases hne : sha = ""
      · rw [hne]
        rfl
      · rw [if_pos (show truthy (some sha) = true from bne_iff_ne.mpr hne), Option.map_some,
          lower_of_isHex H.unicode (hrow.baseSha sha hstored hne), Option.filter_some,
          if_pos (decide_eq_true hne)]
  rw [sameEnqueueIntent, decide_eq_true_iff, hrepository, hrequest, strip_strip, strip_strip, hsha]
  constructor
  · rintro ⟨h₁, h₂, h₃, h₄, h₅, h₆, rfl⟩
    exact ⟨h₁, h₂, h₃, h₄, h₅, h₆, hbranch⟩
  · intro h
    exact ⟨h.repository, h.issueNumber, h.requestId, h.priority, h.baseSha, h.maxAttempts,
      Except.ok.inj (h.branch.symm.trans hbranch)⟩

/-- A call that finds its key: the row it finds, or a conflict. -/
theorem enqueueTask_of_key (ha : a.Valid H cfg) (hs : s.Distinct) (hrow : row ∈ s.tasks)
    (hkey : row.idempotencyKey = a.key H) (hnormal : row.intent.Normal) :
    (SameIntent H cfg a row ∧ enqueueTask H cfg env a s
        = (ensureRepositoryLane (env.clock 1) (strip a.repository) s, .ok (.enqueued row false))) ∨
      (¬SameIntent H cfg a row ∧ enqueueTask H cfg env a s
        = (s, .error (.conflict "idempotency_key_reused_with_different_task_intent"))) := by
  obtain ⟨b, hb⟩ := ha.branch
  have hlook : Table.lookup Task.idempotencyKey (a.key H)
      (ensureRepositoryLane (env.clock 1) (strip a.repository) s).tasks = some row := by
    rw [← hkey]
    exact hs.keyed_idempotencyKey.lookup_of_mem hrow
  have hsame := @sameEnqueueIntent_iff H cfg _ _ hnormal _ hb
  rw [enqueueTask_of_valid ha hb, enqueueWrite, hlook]
  dsimp only
  by_cases h : SameIntent H cfg a row
  · left
    rw [require_bind_of_true (hsame.mpr h)]
    exact ⟨h, rfl⟩
  · right
    rw [require_bind_of_false fun hcode ↦ h (hsame.mp hcode)]
    exact ⟨h, rfl⟩

/-- **Enqueueing twice.** In every reachable database no two tasks share a key. A call that does
not pass its checks is refused and changes nothing. A call that passes them and finds a task under
its key returns that task, and leaves the tasks as they are, exactly when it asks for the same;
otherwise it raises a conflict and changes nothing. -/
theorem enqueue_idempotent {tr : List (Call × Except PoolError Reply)}
    (h : (system H cfg).Run tr s) :
    (s.tasks.map Task.idempotencyKey).Nodup ∧ ∀ (env : Env) (a : EnqueueArgs),
      (¬a.Valid H cfg → ∃ text, enqueueTask H cfg env a s = (s, .error (.value text))) ∧
      (a.Valid H cfg → ∀ row ∈ s.tasks, row.idempotencyKey = a.key H →
        (SameIntent H cfg a row ∧ ∃ s',
          enqueueTask H cfg env a s = (s', .ok (.enqueued row false)) ∧ s'.tasks = s.tasks) ∨
        (¬SameIntent H cfg a row ∧ enqueueTask H cfg env a s
          = (s, .error (.conflict "idempotency_key_reused_with_different_task_intent")))) := by
  obtain ⟨hdistinct, hnormal⟩ := normal_of_run h
  refine ⟨hdistinct.keyed_idempotencyKey, fun env a ↦ ⟨enqueueTask_of_not_valid, ?_⟩⟩
  intro ha row hrow hkey
  have hintent := hnormal row.intent (List.mem_map_of_mem hrow)
  rcases enqueueTask_of_key ha hdistinct hrow hkey hintent with ⟨hsame, hcall⟩ | hdifferent
  · exact Or.inl ⟨hsame, _, hcall, rfl⟩
  · exact Or.inr hdifferent

/-! ## The first task, asked for again -/

/-- The first task in another spelling. -/
def respelled : EnqueueArgs where
  repository := "Org/Repo "
  issueNumber := 1
  requestId := " r1"
  correlationId := "c2"
  maxAttempts := some 0

/-- Asked for in another spelling while it runs, the task is returned as it stands. -/
theorem enqueue_idempotent_sample :
    let s := (sampleRun (setupCalls ++ buildCalls "")).2
    ∃ row ∈ s.tasks, row.state = .running ∧ ∀ env, ∃ s',
      enqueueTask sampleHost sampleConfig env respelled s = (s', .ok (.enqueued row false))
        ∧ s'.tasks = s.tasks := by
  intro s
  obtain ⟨-, hcall⟩ := enqueue_idempotent (run_sampleRun (setupCalls ++ buildCalls ""))
  have hvalid : respelled.Valid sampleHost sampleConfig :=
    ⟨by decide +kernel, by decide +kernel, ⟨_, rfl⟩, by decide +kernel⟩
  obtain ⟨row, hrow, hkey, hstate, hrepository, hissue, hrequest, hpriority, hsha, hattempts,
      hbranch⟩ : ∃ row ∈ s.tasks, row.idempotencyKey = respelled.key sampleHost
        ∧ row.state = .running
        ∧ sampleHost.unicode.casefold row.repository
          = sampleHost.unicode.casefold (strip respelled.repository)
        ∧ row.issueNumber = 1 ∧ row.requestId = strip respelled.requestId ∧ row.priority = 100
        ∧ row.baseSha = none ∧ row.maxAttempts = 3
        ∧ row.branch = branch sampleHost 1 (strip respelled.requestId) := by
    decide +kernel
  refine ⟨row, hrow, hstate, fun env ↦ ?_⟩
  rcases (hcall env respelled).2 hvalid row hrow hkey with ⟨-, hsame⟩ | ⟨hdifferent, -⟩
  · exact hsame
  · refine absurd ⟨hrepository, hissue, hrequest, hpriority, ?_, hattempts, ?_⟩ hdifferent
    · rw [hsha]
      rfl
    · rw [hbranch]
      rfl

/-- The first task once more, without a correlation. -/
def uncorrelated : EnqueueArgs := { sampleEnqueue 1 "r1" with correlationId := " " }

/-- Such a request is neither answered with the task nor a conflict. -/
theorem enqueue_checks_first : ∃ tr s, (system sampleHost sampleConfig).Run tr s ∧
    ∃ env, ∃ row ∈ s.tasks, row.idempotencyKey = uncorrelated.key sampleHost ∧
      SameIntent sampleHost sampleConfig uncorrelated row ∧
      (enqueueTask sampleHost sampleConfig env uncorrelated s).2
        = .error (.value "identidade da task inválida") := by
  refine ⟨_, _, run_sampleRun setupCalls, sampleEnv "", ?_⟩
  obtain ⟨row, hrow, hkey, hrepository, hissue, hrequest, hpriority, hsha, hattempts, hbranch⟩ :
      ∃ row ∈ (sampleRun setupCalls).2.tasks, row.idempotencyKey = uncorrelated.key sampleHost
        ∧ row.repository = "org/repo" ∧ row.issueNumber = 1 ∧ row.requestId = "r1"
        ∧ row.priority = 100 ∧ row.baseSha = none ∧ row.maxAttempts = 3
        ∧ row.branch = branch sampleHost 1 "r1" := by
    decide +kernel
  refine ⟨row, hrow, hkey, ⟨?_, hissue, hrequest, hpriority, ?_, hattempts, ?_⟩,
    by decide +kernel⟩
  · rw [hrepository]
    decide +kernel
  · rw [hsha]
    rfl
  · rw [hbranch]
    rfl

end WorkerPool

end ReqSys
