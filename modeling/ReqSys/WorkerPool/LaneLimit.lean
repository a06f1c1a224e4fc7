import ReqSys.WorkerPool.LeaseInvariant

/-!
# The worker pool: the limit of a lane

The builder's query admits a task only while its lane has fewer active tasks than its limit. The
number of active tasks of a lane also grows on one other path: `requeue_blocked` returns a task that
already has a produced commit straight to `validating`, which counts as active, and does not look at
the limit.

`Admissible` excludes that step when the lane is full, and, as an assumption of its own, that
`configure_repository` lowers a limit. Along runs of admissible calls no lane is ever above its
limit (`lane_limit_respected`); without the condition a lane of limit one can reach two active tasks
(`lane_limit_exceeded`).
-/

namespace ReqSys

namespace WorkerPool

open PyText

/-! ## Admissible calls -/

/-- A limit is not lowered, and a task that resumes validation finds room in its lane. -/
def Event.Admissible (s : Store) : Event → Prop
  | .configured repository maxInFlight =>
    ∀ r, Table.lookup Lane.repository repository s.lanes = some r → r.maxInFlight ≤ maxInFlight
  | .requeued tid =>
    ∀ t, Table.lookup Task.taskId tid s.tasks = some t → t.producedSha ≠ none →
      ∀ r, Table.lookup Lane.repository t.repository s.lanes = some r →
        (activeCount t.repository s.tasks : ℤ) < r.maxInFlight
  | _ => True

/-- The condition on a call and the database before it. -/
def Admissible (s : Store) (l : Call × Except PoolError Reply) : Prop :=
  ∀ e ∈ events l, e.Admissible s

/-- The condition on an act. -/
def Act.Admissible (s : Store) (a : Act) : Prop := ∀ e, a.event = some e → e.Admissible s

variable {H : Host} {cfg : Config} {s s' : Store} {a : Act} {t t' : Task}

theorem Act.admissible_of_not_isDecision (h : ¬a.IsDecision) (s : Store) : a.Admissible s := by
  intro e he
  cases a <;> simp_all [Act.event, Act.IsDecision]
  all_goals
    subst he
    trivial

/-- An admissible call is a path of admissible acts. -/
theorem Refines.admissible {l : Call × Except PoolError Reply} (h : Refines H s l s')
    (hl : Admissible s l) : ∃ acts, ((protocol H).restrict Act.Admissible).Path s acts s' :=
  h.restrict (fun s _ e ha he ↦ Act.admissible_of_not_isDecision ha s e he) hl

/-! ## The invariant

It only looks at the limits of the lanes, so the counters a claim bumps are out of sight. -/

/-- Every task has a lane, and no lane has more active tasks than its limit. -/
structure LaneInv (limits : List (String × ℤ)) (tasks : List Task) : Prop where
  keyed : (limits.map Prod.fst).Nodup
  served : ∀ t ∈ tasks, ∃ n, (t.repository, n) ∈ limits
  bounded : ∀ r n, (r, n) ∈ limits → (activeCount r tasks : ℤ) ≤ n

def Store.LaneInv (s : Store) : Prop := WorkerPool.LaneInv (s.lanes.map Lane.limit) s.tasks

theorem map_fst_limit (lanes : List Lane) :
    (lanes.map Lane.limit).map Prod.fst = lanes.map Lane.repository := by
  rw [List.map_map]
  rfl

theorem mem_limit_of_lookup {repository : String} {r : Lane}
    (h : Table.lookup Lane.repository repository s.lanes = some r) :
    (repository, r.maxInFlight) ∈ s.lanes.map Lane.limit := by
  have hid := Table.key_of_lookup h
  refine List.mem_map.mpr ⟨r, Table.mem_of_lookup h, ?_⟩
  rw [Lane.limit, hid]

/-- The lane of a repository has one limit. -/
theorem LaneInv.limit_eq {limits : List (String × ℤ)} {tasks : List Task}
    (h : WorkerPool.LaneInv limits tasks) {r : String} {n m : ℤ} (hn : (r, n) ∈ limits)
    (hm : (r, m) ∈ limits) : n = m :=
  congrArg Prod.snd (List.inj_on_of_nodup_map h.keyed hn hm rfl)

/-- A repository without a lane has no active task. -/
theorem LaneInv.activeCount_eq_zero {limits : List (String × ℤ)} {tasks : List Task}
    (h : WorkerPool.LaneInv limits tasks) {r : String} (hr : r ∉ limits.map Prod.fst) :
    activeCount r tasks = 0 := by
  refine List.countP_eq_zero.mpr fun t ht hact ↦ hr ?_
  rw [decide_eq_true_iff] at hact
  obtain ⟨n, hn⟩ := h.served t ht
  rw [hact.1] at hn
  exact List.mem_map.mpr ⟨_, hn, rfl⟩

/-- A new lane for a repository that had none. -/
theorem LaneInv.addLane {limits : List (String × ℤ)} {tasks : List Task}
    (h : WorkerPool.LaneInv limits tasks) {r : String} (hr : r ∉ limits.map Prod.fst) {n : ℤ}
    (hn : 1 ≤ n) : WorkerPool.LaneInv (limits ++ [(r, n)]) tasks where
  keyed := by
    rw [List.map_append]
    refine List.nodup_append.mpr ⟨h.keyed, List.nodup_singleton _, ?_⟩
    rintro x hx y hy rfl
    rw [List.mem_singleton.mp hy] at hx
    exact hr hx
  served t ht := by
    obtain ⟨m, hm⟩ := h.served t ht
    exact ⟨m, List.mem_append_left _ hm⟩
  bounded r' n' hmem := by
    rcases List.mem_append.mp hmem with hmem | hmem
    · exact h.bounded r' n' hmem
    · cases List.mem_singleton.mp hmem
      rw [h.activeCount_eq_zero hr]
      omega

/-- Limits that do not sink. -/
theorem LaneInv.raise {limits limits' : List (String × ℤ)} {tasks : List Task}
    (h : WorkerPool.LaneInv limits tasks) (hfst : limits'.map Prod.fst = limits.map Prod.fst)
    (hle : ∀ r n', (r, n') ∈ limits' → ∃ n ≤ n', (r, n) ∈ limits) :
    WorkerPool.LaneInv limits' tasks where
  keyed := by
    rw [hfst]
    exact h.keyed
  served t ht := by
    obtain ⟨n, hn⟩ := h.served t ht
    have hmem : t.repository ∈ limits'.map Prod.fst := by
      rw [hfst]
      exact List.mem_map.mpr ⟨_, hn, rfl⟩
    obtain ⟨⟨r, n'⟩, hn', rfl⟩ := List.mem_map.mp hmem
    exact ⟨n', hn'⟩
  bounded r n' hn' := by
    obtain ⟨n, hle, hn⟩ := hle r n' hn'
    exact (h.bounded r n hn).trans hle

theorem lookup_lane_none {repository : String}
    (h : ¬(Table.lookup Lane.repository repository s.lanes).isSome) :
    repository ∉ (s.lanes.map Lane.limit).map Prod.fst := by
  rw [map_fst_limit]
  intro hmem
  obtain ⟨r, hr, hid⟩ := List.mem_map.mp hmem
  obtain ⟨r', hr'⟩ := Table.exists_lookup hr hid
  rw [hr'] at h
  exact h rfl

theorem exists_lane (hinv : s.LaneInv) (ht : t ∈ s.tasks) :
    ∃ r, Table.lookup Lane.repository t.repository s.lanes = some r := by
  obtain ⟨n, hn⟩ := hinv.served t ht
  obtain ⟨r, hr, hlimit⟩ := List.mem_map.mp hn
  exact Table.exists_lookup hr (congrArg Prod.fst hlimit)

/-! ## Steps -/

/-- An act makes a row active only by a builder's claim, or by requeueing a task with a commit. -/
theorem Change.active_cases (h : Change H a t t') (hactive : t'.isActive = true) :
    t.isActive = true ∨ (∃ tid worker token, a = .claim tid worker token .builder)
      ∨ ∃ tid, a = .requeue tid ∧ t.producedSha ≠ none := by
  cases a <;> simp only [Change] at h
  case claim tid worker token role =>
    cases role with
    | builder => exact Or.inr (Or.inl ⟨tid, worker, token, rfl⟩)
    | validator => exact Or.inl (Task.isActive_iff.mpr (Or.inr (Or.inr h.1)))
  case renew => exact Or.inl h.1
  case start => exact Or.inl (Task.isActive_iff.mpr (Or.inl h.1))
  case submit => exact Or.inl (Task.isActive_iff.mpr (Or.inr (Or.inl h.1)))
  case complete => exact Or.inl (Task.isActive_iff.mpr (Or.inr (Or.inr h.1)))
  case giveBack => exact Or.inl h.1
  case giveUp => exact Or.inl h.1
  case block => exact Or.inl h.1
  case requeue tid =>
    obtain ⟨-, _, _, rfl⟩ := h
    refine Or.inr (Or.inr ⟨tid, rfl, fun hnone ↦ ?_⟩)
    have hqueued : t.resumeState = .queued := by
      rw [Task.resumeState, hnone]
      rfl
    rw [Task.isActive_iff, hqueued] at hactive
    simp at hactive

/-- How a write to one row moves the count of a lane. -/
theorem activeCount_update (hk : Table.Keyed Task.taskId s.tasks) {tid : String}
    (hrow : Table.lookup Task.taskId tid s.tasks = some t) (hrep : t'.repository = t.repository)
    (r : String) :
    activeCount r (Table.update Task.taskId tid (fun _ ↦ t') s.tasks)
        + (if t.repository = r ∧ t.isActive = true then 1 else 0)
      = activeCount r s.tasks + (if t.repository = r ∧ t'.isActive = true then 1 else 0) := by
  have hcount := Table.countP_update (f := fun _ ↦ t') hk (Table.mem_of_lookup hrow)
    fun t ↦ t.repository = r ∧ t.isActive
  rw [Table.key_of_lookup hrow] at hcount
  simpa [activeCount, hrep] using hcount

theorem Effect.laneInv (h : Effect H s a s') (ha : a.Admissible s)
    (hk : Table.Keyed Task.taskId s.tasks) (hinv : s.LaneInv) : s'.LaneInv := by
  cases h with
  | setup => exact hinv
  | @addLane repository stamp =>
    rw [Store.LaneInv, Table.insertOrIgnore]
    split
    next => exact hinv
    next hnone =>
      rw [List.map_append]
      exact WorkerPool.LaneInv.addLane hinv (lookup_lane_none hnone) le_rfl
  | @configure repository stamp enabled maxInFlight hpos =>
    rw [Store.LaneInv, Table.upsert]
    split
    next hsome =>
      obtain ⟨r, hr⟩ := Option.isSome_iff_exists.mp hsome
      have hle := ha _ rfl r hr
      have hlanes : Table.Keyed Lane.repository s.lanes := by
        rw [Table.Keyed, ← map_fst_limit]
        exact hinv.keyed
      refine WorkerPool.LaneInv.raise hinv ?_ fun name n' hmem ↦ ?_
      · rw [map_fst_limit, map_fst_limit]
        refine Table.map_update ?_ s.lanes
        exact fun _ ↦ rfl
      · obtain ⟨r', hr', hlimit⟩ := List.mem_map.mp hmem
        rcases Table.mem_update hr' with ⟨hmem', -⟩ | ⟨old, hold, hid, rfl⟩
        · exact ⟨n', le_rfl, List.mem_map.mpr ⟨r', hmem', hlimit⟩⟩
        · cases hlimit
          obtain rfl := hlanes.eq_of_key_eq hold (Table.mem_of_lookup hr)
            (hid.trans (Table.key_of_lookup hr).symm)
          exact ⟨old.maxInFlight, hle, List.mem_map.mpr ⟨old, hold, rfl⟩⟩
    next hnone =>
      rw [List.map_append]
      exact WorkerPool.LaneInv.addLane hinv (lookup_lane_none hnone) hpos
  | @enqueue t hfresh hkey hlane =>
    refine ⟨hinv.keyed, fun t ht ↦ ?_, fun r n hmem ↦ ?_⟩
    · rcases List.mem_append.mp ht with ht | ht
      · exact hinv.served t ht
      · obtain rfl := List.mem_singleton.mp ht
        obtain ⟨r, hr⟩ := Option.isSome_iff_exists.mp hlane
        exact ⟨r.maxInFlight, mem_limit_of_lookup hr⟩
    · have hsame : activeCount r (s.tasks ++ [t]) = activeCount r s.tasks := by
        simp [activeCount, List.countP_append, Task.isActive, hfresh.state, TaskState.active]
      rw [hsame]
      exact hinv.bounded r n hmem
  | @row _ tid t t' lanes quarantined htid hrow hchange hguard hlanes hq =>
    have hrep := hchange.identity_eq.2
    have ht := Table.mem_of_lookup hrow
    rw [Store.LaneInv, hlanes]
    refine ⟨hinv.keyed, fun u hu ↦ ?_, fun r n hmem ↦ ?_⟩
    · rcases Table.mem_update hu with ⟨hu, -⟩ | ⟨_, _, _, rfl⟩
      · exact hinv.served u hu
      · rw [hrep]
        exact hinv.served t ht
    · change (activeCount r (Table.update Task.taskId tid (fun _ ↦ t') s.tasks) : ℤ) ≤ n
      have hcount := activeCount_update hk hrow hrep r
      have hbound := hinv.bounded r n hmem
      by_cases hnew : t.repository = r ∧ t'.isActive = true
      · rw [if_pos hnew] at hcount
        rcases hchange.active_cases hnew.2 with hold | ⟨tid', worker, token, rfl⟩ | ⟨tid', rfl, hsha⟩
        · rw [if_pos ⟨hnew.1, hold⟩] at hcount
          omega
        · -- a builder's claim: the query found room
          obtain ⟨lane, hlook, hroom⟩ := (hguard tid' worker token .builder rfl).2 rfl
          rw [hnew.1] at hlook hroom
          obtain rfl := hinv.limit_eq (mem_limit_of_lookup hlook) hmem
          omega
        · -- a requeued task with a commit: the condition says there is room
          obtain ⟨lane, hlook⟩ := exists_lane hinv ht
          cases htid
          have hroom := ha _ rfl t hrow hsha lane hlook
          rw [hnew.1] at hlook hroom
          obtain rfl := hinv.limit_eq (mem_limit_of_lookup hlook) hmem
          omega
      · rw [if_neg hnew] at hcount
        omega

theorem laneInv_of_path {acts : List Act}
    (h : ((protocol H).restrict Act.Admissible).Path s acts s')
    (hk : Table.Keyed Task.taskId s.tasks) (hinv : s.LaneInv) : s'.LaneInv := by
  refine (h.preserves (P := fun s ↦ Table.Keyed Task.taskId s.tasks ∧ s.LaneInv) ?_ ⟨hk, hinv⟩).2
  rintro s a s' ⟨hk, hinv⟩ ⟨ha, hstep⟩
  exact ⟨Effect.keyed hstep hk, Effect.laneInv hstep ha hk hinv⟩

/-- **The limit of a lane.** Along every run of admissible calls, every task has a lane and no lane
has more active tasks than its limit. -/
theorem lane_limit_respected {tr : List (Call × Except PoolError Reply)}
    (h : ((system H cfg).restrict Admissible).Run tr s) :
    (∀ t ∈ s.tasks, ∃ r, Table.lookup Lane.repository t.repository s.lanes = some r)
      ∧ ∀ r ∈ s.lanes, (activeCount r.repository s.tasks : ℤ) ≤ r.maxInFlight := by
  have hinv : s.LaneInv := by
    refine h.traceInvariant (I := fun _ s ↦ s.LaneInv) ?_ ?_
    · rintro s rfl
      exact ⟨List.nodup_nil, List.forall_mem_nil _, fun _ _ hmem ↦ absurd hmem List.not_mem_nil⟩
    · rintro tr s ⟨c, r⟩ s' hrun hinv ⟨hl, hstep⟩
      have hk := (leaseInv_of_run hrun.of_restrict).keyed
      obtain ⟨acts, hpath⟩ := (exec_refines hk hstep).admissible hl
      exact laneInv_of_path hpath hk hinv
  exact ⟨fun t ht ↦ exists_lane hinv ht, fun r hr ↦
    hinv.bounded r.repository r.maxInFlight (List.mem_map.mpr ⟨r, hr, rfl⟩)⟩

/-- The hand-off of one task, in a lane of limit one, is admissible. -/
theorem lane_limit_respected_handoff :
    let calls := (handoffCalls "0123456789abcdef0123456789abcdef01234567").dropLast
    let s := (sampleRun calls).2
    s.tasks.map Task.state = [.validating]
      ∧ ∀ r ∈ s.lanes, (activeCount r.repository s.tasks : ℤ) ≤ r.maxInFlight := by
  intro calls s
  have hquiet : (sampleRun calls).1.all fun l ↦ (events l).all fun e ↦ match e with
      | .configured _ _ | .requeued _ => false
      | _ => true := by decide +kernel
  have hrun : ((system sampleHost sampleConfig).restrict Admissible).Run (sampleRun calls).1 s := by
    obtain ⟨s₀, hinit, hpath⟩ := run_sampleRun calls
    refine ⟨s₀, hinit, hpath.restrict_of_forall fun l hl s e he ↦ ?_⟩
    have hkind := List.all_eq_true.mp (List.all_eq_true.mp hquiet l hl) e he
    cases e <;> trivial
  exact ⟨by decide +kernel, (lane_limit_respected hrun).2⟩

/-- The validator blocks the first task, the builder takes the second, and the first is requeued. -/
def overfullCalls : List Call :=
  setupCalls ++ [sampleCall (.enqueueTask (sampleEnqueue 2 "r2"))]
    ++ buildCalls "0123456789abcdef0123456789abcdef01234567"
    ++ [validatorClaim,
        sampleCall (.blockTask ⟨firstTask, "v", "token-2", "c"⟩ "waiting"),
        sampleCall (.claimTask { workerId := "b", role := "builder", correlationId := "c" }) "token-3",
        sampleCall (.requeueBlocked firstTask "c")]

/-- A lane of limit one can reach two active tasks although no call ever configures a limit. -/
theorem lane_limit_exceeded :
    ¬∀ tr s, ((system sampleHost sampleConfig).Run tr s
      ∧ ∀ l ∈ tr, ∀ e ∈ events l, ∀ r n, e ≠ .configured r n) →
      ∀ r ∈ s.lanes, (activeCount r.repository s.tasks : ℤ) ≤ r.maxInFlight := by
  intro hall
  have hrun := run_sampleRun overfullCalls
  have hlanes : ¬∀ r ∈ (sampleRun overfullCalls).2.lanes,
      (activeCount r.repository (sampleRun overfullCalls).2.tasks : ℤ) ≤ r.maxInFlight := by
    decide +kernel
  have hquiet : (sampleRun overfullCalls).1.all fun l ↦ (events l).all fun e ↦ match e with
      | .configured _ _ => false
      | _ => true := by decide +kernel
  refine hlanes (hall _ _ ⟨hrun, fun l hl e he r n heq ↦ ?_⟩)
  have hkind := List.all_eq_true.mp (List.all_eq_true.mp hquiet l hl) e he
  rw [heq] at hkind
  cases hkind

end WorkerPool

end ReqSys
