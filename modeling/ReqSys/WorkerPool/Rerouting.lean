import Mathlib
import ReqSys.WorkerPool.LaneLimit
import ReqSys.WorkerPool.Waiting

/-!
# The worker pool: where a rerouted task can go

Eligibility is written twice: in `_worker_is_alternative` for the watchdog, and in `_ready` together
with the query of `claim_task` for the claim. The two agree on the worker; they differ on the task.
The claim of a builder also needs an enabled lane with room, and the claim of a validator needs a
worker that did not build the task. A task rerouted where only these fail is back in a queue from
which nobody can take it.
-/

namespace ReqSys

namespace WorkerPool

open PyText Scan

variable {H : Host} {cfg : Config} {env : Env} {s s' : Store}

/-! ## What a claim looks at -/

/-- The tasks the query of `claim_task` includes. -/
def queried (role : Role) (workerId : String) (s : Store) : List Task :=
  match role with
  | .builder => ((tasksWithLane s).filter (builderEligible workerId s)).map Prod.fst
  | .validator => ((tasksWithLane s).filter (validatorEligible workerId s)).map Prod.fst

/-- The query returns one of them. -/
theorem mem_queried_of_selectTask {role : Role} {workerId : String} {row : Task}
    (h : selectTask role workerId s = some row) : row ∈ queried role workerId s := by
  cases role with
  | builder =>
    obtain ⟨c, hc, rfl⟩ := Option.map_eq_some_iff.mp h
    exact List.mem_map_of_mem (Table.mem_of_least hc)
  | validator =>
    obtain ⟨c, hc, rfl⟩ := Option.map_eq_some_iff.mp h
    exact List.mem_map_of_mem (Table.mem_of_least hc)

/-- The worker passes `_ready`, and its query includes the task. -/
def MayClaim (cfg : Config) (now : DateTime) (s : Store) (w : Worker) (tid : String) : Prop :=
  ∃ role, ready cfg now w.workerId role s = .ok w ∧
    ∃ t ∈ queried role w.workerId s, t.taskId = tid

theorem mem_tasksWithLane_iff {t : Task} {lane : Lane} : (t, lane) ∈ tasksWithLane s ↔
    t ∈ s.tasks ∧ Table.lookup Lane.repository t.repository s.lanes = some lane := by
  refine ⟨mem_tasksWithLane, fun h ↦ List.mem_filterMap.mpr ⟨t, h.1, ?_⟩⟩
  rw [h.2]
  rfl

theorem mem_queried_builder {workerId : String} {t : Task} :
    t ∈ queried .builder workerId s ↔ t ∈ s.tasks ∧ t.state = .queued ∧
      affinityAllows workerId t.repository s = true ∧
      ∃ lane, Table.lookup Lane.repository t.repository s.lanes = some lane ∧ lane.enabled = true ∧
        (activeCount t.repository s.tasks : ℤ) < lane.maxInFlight := by
  rw [queried, List.mem_map]
  constructor
  · rintro ⟨⟨t, lane⟩, hmem, rfl⟩
    obtain ⟨hjoin, helig⟩ := List.mem_filter.mp hmem
    obtain ⟨ht, hlane⟩ := mem_tasksWithLane hjoin
    rw [builderEligible, decide_eq_true_iff] at helig
    exact ⟨ht, helig.1, helig.2.2.1, lane, hlane, helig.2.1, helig.2.2.2⟩
  · rintro ⟨ht, hstate, haffinity, lane, hlane, henabled, hroom⟩
    refine ⟨(t, lane), List.mem_filter.mpr ⟨mem_tasksWithLane_iff.mpr ⟨ht, hlane⟩, ?_⟩, rfl⟩
    rw [builderEligible, decide_eq_true_iff]
    exact ⟨hstate, henabled, haffinity, hroom⟩

theorem mem_queried_validator {workerId : String} {t : Task} :
    t ∈ queried .validator workerId s ↔ t ∈ s.tasks ∧ t.state = .validating ∧ t.leasedBy = none ∧
      t.producedSha ≠ none ∧ t.builderWorkerId ≠ some workerId ∧
      affinityAllows workerId t.repository s = true ∧
      ∃ lane, Table.lookup Lane.repository t.repository s.lanes = some lane := by
  rw [queried, List.mem_map]
  constructor
  · rintro ⟨⟨t, lane⟩, hmem, rfl⟩
    obtain ⟨hjoin, helig⟩ := List.mem_filter.mp hmem
    obtain ⟨ht, hlane⟩ := mem_tasksWithLane hjoin
    rw [validatorEligible, decide_eq_true_iff] at helig
    exact ⟨ht, helig.1, helig.2.1, helig.2.2.1, helig.2.2.2.1, helig.2.2.2.2, lane, hlane⟩
  · rintro ⟨ht, hstate, hfree, hsha, hbuilder, haffinity, lane, hlane⟩
    refine ⟨(t, lane), List.mem_filter.mpr ⟨mem_tasksWithLane_iff.mpr ⟨ht, hlane⟩, ?_⟩, rfl⟩
    rw [validatorEligible, decide_eq_true_iff]
    exact ⟨hstate, hfree, hsha, hbuilder, haffinity⟩

/-- `_ready` of a registered worker. -/
theorem ready_eq_ok_iff (hk : Table.Keyed Worker.workerId s.workers) {w : Worker}
    (hw : w ∈ s.workers) {beat : DateTime} (hbeat : w.lastHeartbeatAt = beat.iso) {now : DateTime}
    {role : Role} : ready cfg now w.workerId role s = .ok w ↔
      w.role = role ∧ w.profile = .normal ∧ (w.gatewayOk = true ∧ w.stateValidated = true) ∧
      (cfg.expectedRulesSha = none ∨ w.rulesSha = cfg.expectedRulesSha) ∧
      ¬(cfg.heartbeatTtlSeconds : ℚ) < DateTime.elapsed now beat ∧
      holdsActiveTask w.workerId s = false := by
  rw [ready, hk.lookup_of_mem hw]
  simp only [orThrow_bind_eq_ok, require_bind_eq_ok, Option.some.injEq, exists_eq_left', hbeat,
    readStamp_iso, ok_bind, pure, Except.pure, and_true, Bool.not_eq_true]

/-! ## Every task has a lane -/

theorem exists_lane_of_run {tr : List (Call × Except PoolError Reply)}
    (h : (system H cfg).Run tr s) {t : Task} (ht : t ∈ s.tasks) :
    ∃ lane, Table.lookup Lane.repository t.repository s.lanes = some lane := by
  obtain ⟨acts, hrun, -⟩ := run_refines h
  suffices hall : ∀ t ∈ s.tasks, t.repository ∈ (s.lanes.map Lane.limit).map Prod.fst by
    have hmem := hall t ht
    rw [map_fst_limit] at hmem
    obtain ⟨lane, hlane, hid⟩ := List.mem_map.mp hmem
    exact Table.exists_lookup hlane hid
  clear ht
  refine hrun.invariant
    (I := fun u ↦ ∀ t ∈ u.tasks, t.repository ∈ (u.lanes.map Lane.limit).map Prod.fst) ?_ ?_
  · rintro u rfl
    exact List.forall_mem_nil _
  · intro u a u' hu hstep
    cases hstep with
    | setup => exact hu
    | addLane =>
      intro t ht
      have hold := hu t ht
      rw [map_fst_limit] at hold ⊢
      rw [Table.insertOrIgnore]
      split
      · exact hold
      · rw [List.map_append]
        exact List.mem_append_left _ hold
    | configure =>
      intro t ht
      have hold := hu t ht
      rw [map_fst_limit] at hold ⊢
      rw [Table.upsert]
      split
      · rw [Table.map_update]
        · exact hold
        · exact fun _ ↦ rfl
      · rw [List.map_append]
        exact List.mem_append_left _ hold
    | enqueue hfresh hkey hlane =>
      intro t ht
      rcases List.mem_append.mp ht with ht | ht
      · exact hu t ht
      · obtain rfl := List.mem_singleton.mp ht
        obtain ⟨lane, hlook⟩ := Option.isSome_iff_exists.mp hlane
        rw [map_fst_limit]
        exact List.mem_map.mpr ⟨lane, Table.mem_of_lookup hlook, Table.key_of_lookup hlook⟩
    | row htid hrow hchange hguard hlanes hq =>
      intro r hr
      rw [hlanes]
      rcases Table.mem_update hr with ⟨hr, -⟩ | ⟨_, -, -, rfl⟩
      · exact hu r hr
      · rw [hchange.identity_eq.2]
        exact hu _ (Table.mem_of_lookup hrow)

/-! ## The single stalled task -/

/-- Somebody could claim the rerouted task: for a builder its lane is enabled and has room once the
task has left it, for a validator one of the alternatives did not build the task. -/
def Takeable (cfg : Config) (env : Env) (row : Task) (s : Store) : Prop :=
  match row.nextRole with
  | .builder => ∃ lane, Table.lookup Lane.repository row.repository s.lanes = some lane ∧
      lane.enabled = true ∧ (activeCount row.repository s.tasks : ℤ) ≤ lane.maxInFlight
  | .validator => ∃ w ∈ s.workers, isAlternative cfg env row s w = true ∧
      row.builderWorkerId ≠ some w.workerId

theorem releasing_nil (s : Store) : s.releasing [] = s := by
  have htasks : (s.tasks.map fun t ↦ if t ∈ ([] : List Task) then t.released else t) = s.tasks := by
    conv_rhs => rw [← List.map_id s.tasks]
    exact List.map_congr_left fun t _ ↦ if_neg List.not_mem_nil
  rw [Store.releasing, htasks]

/-- Releasing a task makes nobody free but its holder. -/
theorem holdsActiveTask_releasing_singleton {row : Task} {workerId : String}
    (hother : some workerId ≠ row.leasedBy) :
    holdsActiveTask workerId (s.releasing [row]) = holdsActiveTask workerId s := by
  conv_rhs => rw [← releasing_nil s]
  rw [Bool.eq_iff_iff, holdsActiveTask_releasing, holdsActiveTask_releasing]
  refine exists_congr fun t ↦ and_congr_right fun _ ↦ ?_
  refine ⟨fun h ↦ ⟨List.not_mem_nil, h.2⟩, fun h ↦ ⟨fun hmem ↦ hother ?_, h.2⟩⟩
  rw [← List.mem_singleton.mp hmem]
  exact h.2.1.symm

/-- What the scan of one stalled task leaves, if it reroutes the task. -/
theorem rerouted_single (hs : s.Sound) {now : DateTime} {row : Task}
    (hrows : stalledRows cfg env now s = .ok [row])
    (h : recoverStalled H cfg env now s = .ok (s', ⟨1, 0, 0⟩)) :
    (row.exhausted = false ∧ ∃ w ∈ s.workers, isAlternative cfg env row s w = true) ∧
      s'.tasks = Table.update Task.taskId row.taskId (fun _ ↦ row.settled now.iso true) s.tasks ∧
      (∀ workerId, some workerId ≠ row.leasedBy →
        holdsActiveTask workerId s' = holdsActiveTask workerId s) := by
  obtain ⟨s₁, hs₁, htasks⟩ := recoverStalled_eq (H := H) hs hrows
  rw [h] at hs₁
  obtain ⟨rfl, htally⟩ := Prod.mk.inj (Except.ok.inj hs₁)
  have hrerouted : reroutes cfg env s [] row = true := by
    by_contra hno
    rw [Bool.not_eq_true] at hno
    cases hex : row.exhausted <;> simp [tally, decisions, hno, hex] at htally
  have hserve := reroutes_eq_true.mp hrerouted
  rw [releasing_nil] at hserve
  refine ⟨hserve, ?_, fun workerId hother ↦ ?_⟩
  · obtain ⟨hrow, -⟩ := (stalledRows_spec hs hrows).2 row (List.mem_singleton_self row)
    rw [htasks, Table.update]
    refine List.map_congr_left fun t ht ↦ ?_
    rw [decisions, hrerouted, decisions, ← List.nil_append [(row, true)],
      settling_concat List.not_mem_nil]
    by_cases hid : t.taskId = row.taskId
    · rw [if_pos hid, if_pos (hs.leases.keyed.eq_of_key_eq ht hrow hid)]
    · rw [if_neg hid, if_neg fun heq ↦ hid (congrArg Task.taskId heq)]
      rfl
  · rw [holdsActiveTask_settling htasks, holdsActiveTask_releasing_singleton hother]

/-- A registered worker other than the holder that passes `_ready` for the next role of the task,
at the reading of the clock at which the watchdog looks at it, and whose affinities admit the task,
is an alternative; and it stays ready after the scan. -/
theorem isAlternative_iff_ready (hs : s.Sound) {row w} (hw : w ∈ s.workers)
    (hworkers : s'.workers = s.workers)
    (hidle : some w.workerId ≠ row.leasedBy →
      holdsActiveTask w.workerId s' = holdsActiveTask w.workerId s) :
    isAlternative cfg env row s w = true ↔ some w.workerId ≠ row.leasedBy ∧
      ready cfg (env.alternativeClock row.taskId w.workerId) w.workerId row.nextRole s' = .ok w ∧
      affinityAllows w.workerId row.repository s = true := by
  obtain ⟨beat, hbeat⟩ := hs.heartbeats w hw
  have hk : Table.Keyed Worker.workerId s'.workers := by
    rw [hworkers]
    exact hs.workers
  rw [isAlternative_iff hbeat, ready_eq_ok_iff hk (hworkers ▸ hw) hbeat]
  constructor
  · rintro ⟨h, hfree⟩
    exact ⟨h.other, ⟨h.role, h.profile, h.governed, h.rules, h.online,
      (hidle h.other).trans hfree⟩, h.affinity⟩
  · rintro ⟨hother, ⟨hrole, hprofile, hgoverned, hrules, honline, hfree⟩, haffinity⟩
    exact ⟨⟨hother, hrole, hprofile, hgoverned, hrules, honline, haffinity⟩,
      (hidle hother).symm.trans hfree⟩

/-- The rerouted row. -/
theorem Task.settled_rerouted {t : Task} (h : t.exhausted = false) (stamp : String) :
    (t.settled stamp true).state = t.resumeState ∧ (t.settled stamp true).producedSha = t.producedSha
      ∧ (t.settled stamp true).builderWorkerId = t.builderWorkerId := by
  rw [settled, h]
  exact ⟨rfl, rfl, rfl⟩

/-- Only one role looks for a task in a given state. -/
theorem state_of_mem_queried {role : Role} {workerId : String} {t : Task}
    (h : t ∈ queried role workerId s) : t.state = (claimStates role).1 := by
  cases role with
  | builder => exact (mem_queried_builder.mp h).2.1
  | validator => exact (mem_queried_validator.mp h).2.1

theorem Task.resumeState_eq_nextRole (t : Task) : t.resumeState = (claimStates t.nextRole).1 := by
  rw [resumeState, nextRole]
  split_ifs <;> rfl

/-- The rerouted task leaves its lane, if it goes back to the builders. -/
theorem activeCount_rerouted (hs : s.Sound) {row : Task} (hrow : row ∈ s.tasks)
    (hactive : row.isActive = true) (hleft : row.exhausted = false) {stamp : String}
    (hqueued : row.resumeState = .queued)
    (htasks : s'.tasks = Table.update Task.taskId row.taskId (fun _ ↦ row.settled stamp true)
      s.tasks) :
    activeCount row.repository s'.tasks + 1 = activeCount row.repository s.tasks := by
  have hinactive : (row.settled stamp true).isActive = false := by
    rw [Task.isActive, (Task.settled_rerouted hleft stamp).1, hqueued]
    decide
  have hcount := @activeCount_update _ _ (row.settled stamp true) hs.leases.keyed _
    (hs.leases.keyed.lookup_of_mem hrow) (row.settled_repository stamp true) row.repository
  rw [← htasks] at hcount
  simpa [hactive, hinactive] using hcount

/-- **Rerouting agrees with claiming, exactly when the task is takeable.** Let the scan reroute the
only stalled task of a reachable database. Afterwards some registered worker other than the previous
holder passes `_ready`, at the reading of the clock at which the watchdog considered it, and has the
task in the query of its claim, if and only if the task was takeable. -/
theorem rerouting_agrees_iff {tr : List (Call × Except PoolError Reply)}
    (h : (system H cfg).Run tr s) {env : Env} {now : DateTime} {row : Task}
    (hrows : stalledRows cfg env now s = .ok [row])
    (hscan : recoverStalled H cfg env now s = .ok (s', ⟨1, 0, 0⟩)) :
    (∃ w ∈ s'.workers, some w.workerId ≠ row.leasedBy ∧
        MayClaim cfg (env.alternativeClock row.taskId w.workerId) s' w row.taskId) ↔
      Takeable cfg env row s := by
  have hs := sound_of_run h
  obtain ⟨hrow, hactive⟩ := (stalledRows_spec hs hrows).2 row (List.mem_singleton_self row)
  obtain ⟨⟨hleft, w₀, hw₀, halt₀⟩, htasks, hidle⟩ := rerouted_single hs hrows hscan
  obtain ⟨hworkers, hlanes, haffinities⟩ := (recoverStalled_wrote hscan).frame
  obtain ⟨lane, hlane⟩ := exists_lane_of_run h hrow
  obtain ⟨hstate, hsha, hbuilder⟩ := Task.settled_rerouted hleft now.iso
  have hrepository := row.settled_repository now.iso true
  set row' := row.settled now.iso true with hrow'
  have hin : row' ∈ s'.tasks := by
    rw [htasks]
    exact Table.mem_update_self hrow rfl
  have honly : ∀ t ∈ s'.tasks, t.taskId = row.taskId → t = row' := by
    intro t ht hid
    rw [htasks] at ht
    rcases Table.mem_update ht with ⟨-, hne⟩ | ⟨_, -, -, rfl⟩
    · exact absurd hid hne
    · rfl
  have hmem : ∀ {role workerId}, (∃ t ∈ queried role workerId s', t.taskId = row.taskId) ↔
      role = row.nextRole ∧ row' ∈ queried role workerId s' := by
    intro role workerId
    constructor
    · rintro ⟨t, ht, hid⟩
      have htin : t ∈ s'.tasks := by
        cases role with
        | builder => exact (mem_queried_builder.mp ht).1
        | validator => exact (mem_queried_validator.mp ht).1
      obtain rfl := honly t htin hid
      refine ⟨?_, ht⟩
      have hsame := state_of_mem_queried ht
      rw [hstate, Task.resumeState_eq_nextRole] at hsame
      cases role <;> cases hnext : row.nextRole <;> simp [hnext, claimStates] at hsame ⊢
    · rintro ⟨-, ht⟩
      exact ⟨row', ht, row.settled_taskId now.iso true⟩
  have hallows : ∀ workerId, affinityAllows workerId row.repository s'
      = affinityAllows workerId row.repository s := by
    intro workerId
    rw [affinityAllows_eq, haffinities, ← affinityAllows_eq]
  have halternative := fun w (hw : w ∈ s.workers) ↦
    @isAlternative_iff_ready cfg env _ s' hs row _ hw hworkers
      (hidle w.workerId)
  simp only [MayClaim, hmem]
  rw [hworkers, Takeable]
  cases hnext : row.nextRole with
  | builder =>
    have hqueued : row.resumeState = .queued := by
      rw [Task.resumeState_eq_nextRole, hnext]
      rfl
    have hcount := activeCount_rerouted hs hrow hactive hleft hqueued htasks
    constructor
    · rintro ⟨w, hw, hother, role, hready, rfl, ht⟩
      obtain ⟨-, -, -, lane', hlane', henabled, hroom⟩ := mem_queried_builder.mp ht
      rw [hrepository, hlanes] at hlane'
      rw [hrepository] at hroom
      exact ⟨lane', hlane', henabled, by omega⟩
    · rintro ⟨lane', hlane', henabled, hroom⟩
      obtain ⟨hother, hready, hallow⟩ := (halternative w₀ hw₀).mp halt₀
      rw [hnext] at hready
      refine ⟨w₀, hw₀, hother, .builder, hready, rfl, mem_queried_builder.mpr ?_⟩
      rw [hrepository, hlanes, hallows]
      exact ⟨hin, hstate.trans hqueued, hallow, lane', hlane', henabled, by omega⟩
  | validator =>
    have hvalidating : row.resumeState = .validating := by
      rw [Task.resumeState_eq_nextRole, hnext]
      rfl
    have hproduced : row.producedSha ≠ none := by
      rcases (hs.leases.rows row hrow).resumeState_eq with ⟨-, hq⟩ | ⟨hp, -⟩
      · rw [hvalidating] at hq
        cases hq
      · exact hp
    constructor
    · rintro ⟨w, hw, hother, role, hready, rfl, ht⟩
      obtain ⟨-, -, -, -, hne, hallow, -⟩ := mem_queried_validator.mp ht
      rw [hrepository, hallows] at hallow
      rw [hbuilder] at hne
      refine ⟨w, hw, (halternative w hw).mpr ⟨hother, ?_, hallow⟩, hne⟩
      rw [hnext]
      exact hready
    · rintro ⟨w, hw, halt, hne⟩
      obtain ⟨hother, hready, hallow⟩ := (halternative w hw).mp halt
      rw [hnext] at hready
      refine ⟨w, hw, hother, .validator, hready, rfl, mem_queried_validator.mpr ?_⟩
      rw [hrepository, hlanes, hallows, hsha, hbuilder]
      exact ⟨hin, hstate.trans hvalidating, row.settled_leasedBy now.iso true, hproduced, hne, hallow,
        lane, hlane⟩

/-! ## Another builder, and a builder turned validator -/

instance (cfg : Config) (now : DateTime) (s : Store) (w : Worker) (tid : String) :
    Decidable (MayClaim cfg now s w tid) :=
  let claims (role : Role) := ready cfg now w.workerId role s = .ok w ∧
    ∃ t ∈ queried role w.workerId s, t.taskId = tid
  decidable_of_iff (claims .builder ∨ claims .validator) (by
    constructor
    · rintro (h | h)
      · exact ⟨.builder, h⟩
      · exact ⟨.validator, h⟩
    · rintro ⟨role, h⟩
      cases role with
      | builder => exact Or.inl h
      | validator => exact Or.inr h)

/-- A worker registers twenty minutes past noon. -/
def lateWorker (workerId role : String) : Call :=
  ⟨.registerWorker (sampleWorker workerId role), minuteEnv 20 twenty_lt_sixty⟩

/-- The builder stalls, and a second one registers. -/
def secondBuilderCalls : List Call :=
  setupCalls ++ (buildCalls "").take 2 ++ [lateWorker "b2" "builder"]

example : (sampleRun secondBuilderCalls).2.tasks.length = 1 := by decide +kernel

/-- The first task of a database. -/
def firstRow (s : Store) (h : s.tasks ≠ []) : Task := s.tasks.head h

/-- The second builder may claim what the first one lost. -/
theorem rerouting_agrees_sample :
    let s := (sampleRun secondBuilderCalls).2
    ∃ row s', stalledRows sampleConfig (minuteEnv 20 (by decide)) (afterNoon 20 0) s = .ok [row] ∧
      recoverStalled sampleHost sampleConfig (minuteEnv 20 (by decide)) (afterNoon 20 0) s
        = .ok (s', ⟨1, 0, 0⟩) ∧
      ∃ w ∈ s'.workers, some w.workerId ≠ row.leasedBy ∧
        MayClaim sampleConfig (afterNoon 20 0) s' w row.taskId := by
  intro s
  have hrows : stalledRows sampleConfig (minuteEnv 20 (by decide)) (afterNoon 20 0) s
      = .ok [firstRow s (by decide +kernel)] := by decide +kernel
  have hscan : recoverStalled sampleHost sampleConfig (minuteEnv 20 (by decide)) (afterNoon 20 0) s
      = .ok ((recoverStalledTasks sampleHost sampleConfig (minuteEnv 20 (by decide)) s).1,
          ⟨1, 0, 0⟩) := by decide +kernel
  refine ⟨_, _, hrows, hscan, (rerouting_agrees_iff (run_sampleRun _) hrows hscan).mpr ?_⟩
  have hrole : (firstRow s (by decide +kernel)).nextRole = .builder := by decide +kernel
  rw [Takeable, hrole]
  have hlane : (Table.lookup Lane.repository (firstRow s (by decide +kernel)).repository
      s.lanes).any (fun lane ↦ lane.enabled && decide ((activeCount
        (firstRow s (by decide +kernel)).repository s.tasks : ℤ) ≤ lane.maxInFlight)) = true := by
    decide +kernel
  obtain ⟨lane, hlook, hlane⟩ := (Option.any_eq_true _ _).mp hlane
  rw [Bool.and_eq_true, decide_eq_true_iff] at hlane
  exact ⟨lane, hlook, hlane⟩

/-- The validator stalls, and the builder registers again as a validator. -/
def turnedBuilderCalls : List Call :=
  setupCalls ++ buildCalls "0123456789abcdef0123456789abcdef01234567"
    ++ [validatorClaim, lateWorker "b" "validator"]

/-- The task is rerouted because of its own builder, whom no claim gives it. -/
theorem rerouted_to_builder : ∃ tr s, (system sampleHost sampleConfig).Run tr s ∧
    ∃ env now row s', stalledRows sampleConfig env now s = .ok [row] ∧
      recoverStalled sampleHost sampleConfig env now s = .ok (s', ⟨1, 0, 0⟩) ∧
      (∃ w ∈ s.workers, isAlternative sampleConfig env row s w = true) ∧
      ∀ w ∈ s'.workers, some w.workerId ≠ row.leasedBy →
        ¬MayClaim sampleConfig (env.alternativeClock row.taskId w.workerId) s' w row.taskId :=
  ⟨_, _, run_sampleRun turnedBuilderCalls, minuteEnv 20 (by decide), afterNoon 20 0,
    firstRow (sampleRun turnedBuilderCalls).2 (by decide +kernel),
    (recoverStalledTasks sampleHost sampleConfig (minuteEnv 20 (by decide))
      (sampleRun turnedBuilderCalls).2).1, by decide +kernel⟩

end WorkerPool

end ReqSys
