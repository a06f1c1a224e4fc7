import Mathlib
import ReqSys.Foundation.Scan
import ReqSys.WorkerPool.Expiry
import ReqSys.WorkerPool.Statements

/-!
# The worker pool: the watchdog of stalled tasks

`_recover_stalled` fetches the stalled rows once and then goes through them, releasing each holder
and looking for a worker that may take over. Whether there is one is decided in view of the rows
before: their holders are free by then. `reroutes` is that decision as a function of the database
before the scan and of the rows dealt with, and `recoverStalled_eq` says that the scan writes every
row as decided and nothing else.
-/

namespace ReqSys

namespace WorkerPool

open PyText Scan

variable {H : Host} {cfg : Config} {env : Env} {s s' : Store}

/-! ## Alternatives -/

/-- `_worker_is_alternative` returns `True`. -/
def isAlternative (cfg : Config) (env : Env) (row : Task) (s : Store) (w : Worker) : Bool :=
  workerIsAlternative cfg env row w s = .ok true

/-- The role that takes a task over. -/
def Task.nextRole (t : Task) : Role := if truthy t.producedSha then .validator else .builder

/-- What makes a worker an alternative, apart from what it holds. -/
structure Suitable (cfg : Config) (env : Env) (row : Task) (affinities : List Affinity)
    (w : Worker) (beat : DateTime) : Prop where
  other : some w.workerId ≠ row.leasedBy
  role : w.role = row.nextRole
  profile : w.profile = .normal
  governed : w.gatewayOk = true ∧ w.stateValidated = true
  rules : cfg.expectedRulesSha = none ∨ w.rulesSha = cfg.expectedRulesSha
  online : ¬(cfg.heartbeatTtlSeconds : ℚ)
    < DateTime.elapsed (env.alternativeClock row.taskId w.workerId) beat
  affinity : affinityAllows w.workerId row.repository { Store.empty with affinities } = true

theorem affinityAllows_eq (workerId repository : String) (s : Store) :
    affinityAllows workerId repository s
      = affinityAllows workerId repository { Store.empty with affinities := s.affinities } := rfl

theorem workerIsAlternative_ok {row : Task} {w : Worker} {beat : DateTime}
    (hbeat : w.lastHeartbeatAt = beat.iso) :
    ∃ b, workerIsAlternative cfg env row w s = .ok b
      ∧ (b = true ↔ Suitable cfg env row s.affinities w beat
          ∧ holdsActiveTask w.workerId s = false) := by
  have hnext : (if truthy row.producedSha then Role.validator else Role.builder) = row.nextRole :=
    rfl
  simp only [workerIsAlternative, hnext, hbeat, readStamp_iso, ok_bind, pure, Except.pure]
  split_ifs with hother hrole hgov hrules
  · refine ⟨false, rfl, iff_of_false Bool.false_ne_true fun h ↦ h.1.other hother⟩
  · refine ⟨false, rfl, iff_of_false Bool.false_ne_true fun h ↦ ?_⟩
    exact hrole.elim (fun hne ↦ hne h.1.role) fun hne ↦ hne h.1.profile
  · obtain ⟨hsame, hnormal⟩ := not_or.mp hrole
    refine ⟨_, rfl, ?_⟩
    rw [decide_eq_true_iff, affinityAllows_eq, Bool.not_eq_true]
    constructor
    · rintro ⟨honline, hidle, haffinity⟩
      exact ⟨⟨hother, not_not.mp hsame, not_not.mp hnormal, hgov, hrules, honline, haffinity⟩,
        hidle⟩
    · rintro ⟨h, hidle⟩
      exact ⟨h.online, hidle, h.affinity⟩
  · exact ⟨false, rfl, iff_of_false Bool.false_ne_true fun h ↦ hrules h.1.rules⟩
  · exact ⟨false, rfl, iff_of_false Bool.false_ne_true fun h ↦ hgov h.1.governed⟩

theorem isAlternative_iff {row : Task} {w : Worker} {beat : DateTime}
    (hbeat : w.lastHeartbeatAt = beat.iso) : isAlternative cfg env row s w = true ↔
      Suitable cfg env row s.affinities w beat ∧ holdsActiveTask w.workerId s = false := by
  obtain ⟨b, hb, hiff⟩ := @workerIsAlternative_ok cfg env s row _ _ hbeat
  rw [isAlternative, hb, ← hiff, decide_eq_true_iff, Except.ok.injEq]

/-- `any(…)` over workers whose heartbeats can be read. -/
theorem anyAlternative_eq {row : Task} {workers : List Worker}
    (h : ∀ w ∈ workers, ∃ d : DateTime, w.lastHeartbeatAt = d.iso) :
    anyAlternative cfg env row s workers = .ok (workers.any (isAlternative cfg env row s)) := by
  induction workers with
  | nil => rfl
  | cons w ws ih =>
    obtain ⟨⟨d, hd⟩, htail⟩ := List.forall_mem_cons.mp h
    obtain ⟨b, hb, -⟩ := @workerIsAlternative_ok cfg env s row _ _ hd
    have halt : isAlternative cfg env row s w = b := by
      rw [isAlternative, hb]
      cases b <;> simp
    rw [anyAlternative, hb, ok_bind, List.any_cons, halt]
    cases b with
    | true => rfl
    | false => exact ih htail

/-! ## Decisions -/

/-- The database with the holders of some tasks released. -/
def Store.releasing (rows : List Task) (s : Store) : Store :=
  { s with tasks := s.tasks.map fun t ↦ if t ∈ rows then t.released else t }

/-- Whether a stalled task with attempts left goes on with another worker, the tasks in `seen`
having been dealt with. -/
def reroutes (cfg : Config) (env : Env) (s : Store) (seen : List Task) (row : Task) : Bool :=
  !row.exhausted && s.workers.any (isAlternative cfg env row (s.releasing seen))

/-- A stalled task after the scan. -/
def Task.settled (stamp : String) (rerouted : Bool) (t : Task) : Task :=
  if t.exhausted then
    { t.released with state := .failed, blockedReason := none,
                      lastError := some "material_progress_timeout_max_attempts",
                      updatedAt := stamp }
  else if rerouted then
    { t.released with state := t.resumeState, blockedReason := none,
                      lastError := some "material_progress_timeout_rerouted", updatedAt := stamp }
  else
    { t.released with state := .blocked,
                      blockedReason := some "material_progress_timeout_no_alternative",
                      lastError := some "material_progress_timeout_no_alternative",
                      updatedAt := stamp }

/-- A task after a scan that has made some decisions. -/
def settling (stamp : String) (ds : List (Task × Bool)) (t : Task) : Task :=
  match Table.get? t ds with
  | none => t
  | some rerouted => t.settled stamp rerouted

/-- The counts of a scan. -/
def tally (ds : List (Task × Bool)) : StallCounts where
  rerouted := ds.countP fun x ↦ !x.1.exhausted && x.2
  blocked := ds.countP fun x ↦ !x.1.exhausted && !x.2
  failed := ds.countP fun x ↦ x.1.exhausted

theorem Task.settled_taskId (stamp : String) (b : Bool) (t : Task) :
    (t.settled stamp b).taskId = t.taskId := by
  rw [settled]
  split_ifs <;> rfl

theorem Task.settled_repository (stamp : String) (b : Bool) (t : Task) :
    (t.settled stamp b).repository = t.repository := by
  rw [settled]
  split_ifs <;> rfl

theorem Task.settled_workspaceKey (stamp : String) (b : Bool) (t : Task) :
    (t.settled stamp b).workspaceKey = t.workspaceKey := by
  rw [settled]
  split_ifs <;> rfl

theorem Task.settled_leasedBy (stamp : String) (b : Bool) (t : Task) :
    (t.settled stamp b).leasedBy = none := by
  rw [settled]
  split_ifs <;> rfl

theorem settling_taskId (stamp : String) (ds : List (Task × Bool)) (t : Task) :
    (settling stamp ds t).taskId = t.taskId := by
  rw [settling]
  split
  · rfl
  · exact t.settled_taskId stamp _

/-- A settled task that is still active was active. -/
theorem settling_cases {stamp : String} {ds : List (Task × Bool)} {t : Task} :
    settling stamp ds t = t ∨ ∃ b, (t, b) ∈ ds ∧ settling stamp ds t = t.settled stamp b := by
  rw [settling]
  cases hget : Table.get? t ds with
  | none => exact Or.inl rfl
  | some b => exact Or.inr ⟨b, Table.mem_of_get? hget, rfl⟩

theorem settling_concat {stamp : String} {ds : List (Task × Bool)} {t row : Task} {b : Bool}
    (hrow : row ∉ ds.map Prod.fst) :
    settling stamp (ds ++ [(row, b)]) t
      = if t = row then row.settled stamp b else settling stamp ds t := by
  by_cases heq : t = row
  · subst heq
    have hnone : Table.lookup Prod.fst t ds = none := by
      by_contra hsome
      obtain ⟨x, hx⟩ := Option.ne_none_iff_exists'.mp hsome
      exact hrow (List.mem_map.mpr ⟨x, Table.mem_of_lookup hx, Table.key_of_lookup hx⟩)
    rw [if_pos rfl, settling, Table.get?, Table.lookup_concat, hnone]
    simp
  · rw [if_neg heq, settling, settling, Table.get?, Table.get?, Table.lookup_concat]
    simp [Ne.symm heq]

theorem tally_concat (ds : List (Task × Bool)) (row : Task) (b : Bool) :
    tally (ds ++ [(row, b)]) = if row.exhausted then
        { tally ds with failed := (tally ds).failed + 1 }
      else if b then { tally ds with rerouted := (tally ds).rerouted + 1 }
      else { tally ds with blocked := (tally ds).blocked + 1 } := by
  cases hex : row.exhausted <;> cases b <;> simp [tally, hex]

/-! ## Who is free -/

theorem holdsActiveTask_releasing {seen : List Task} {workerId : String} :
    holdsActiveTask workerId (s.releasing seen) = true ↔
      ∃ t ∈ s.tasks, t ∉ seen ∧ t.leasedBy = some workerId ∧ t.isActive = true := by
  rw [holdsActiveTask, Store.releasing, List.any_map, List.any_eq_true]
  refine exists_congr fun t ↦ and_congr_right fun _ ↦ ?_
  rw [Function.comp_apply, decide_eq_true_iff]
  by_cases hseen : t ∈ seen
  · simp [hseen, Task.released]
  · simp [hseen]

/-- Releasing more holders makes more workers free. -/
theorem idle_of_subset {seen seen' : List Task} (hsub : seen ⊆ seen') {workerId : String}
    (h : holdsActiveTask workerId (s.releasing seen) = false) :
    holdsActiveTask workerId (s.releasing seen') = false := by
  rw [← Bool.not_eq_true, holdsActiveTask_releasing] at h ⊢
  rintro ⟨t, ht, hseen, hheld⟩
  exact h ⟨t, ht, fun hmem ↦ hseen (hsub hmem), hheld⟩

theorem isAlternative_of_subset (hbeats : s.HeartbeatsOk) {seen seen' : List Task}
    (hsub : seen ⊆ seen') {row : Task} {w : Worker} (hw : w ∈ s.workers)
    (h : isAlternative cfg env row (s.releasing seen) w = true) :
    isAlternative cfg env row (s.releasing seen') w = true := by
  obtain ⟨d, hd⟩ := hbeats w hw
  rw [isAlternative_iff hd] at h ⊢
  exact ⟨h.1, idle_of_subset hsub h.2⟩

/-- Tasks dealt with earlier only add alternatives. -/
theorem favours_reroutes (hbeats : s.HeartbeatsOk) : Favours (reroutes cfg env s) := by
  intro seen seen' row hsub h
  rw [reroutes, Bool.and_eq_true, List.any_eq_true] at h ⊢
  obtain ⟨hleft, w, hw, halt⟩ := h
  exact ⟨hleft, w, hw, isAlternative_of_subset hbeats hsub hw halt⟩

/-! ## The scan -/

/-- A write that neither index refuses. -/
theorem writeTask_eq_ok {t' : Task}
    (hworker : ∀ t ∈ s.tasks, t.taskId ≠ t'.taskId → workerClash t' t = false)
    (hworkspace : ∀ t ∈ s.tasks, t.taskId ≠ t'.taskId → workspaceClash t' t = false) :
    writeTask t' s
      = .ok { s with tasks := Table.update Task.taskId t'.taskId (fun _ ↦ t') s.tasks } := by
  have hnone : ∀ {clash : Task → Task → Bool},
      (∀ t ∈ s.tasks, t.taskId ≠ t'.taskId → clash t' t = false) →
      ¬(s.tasks.filter fun t ↦ t.taskId ≠ t'.taskId).any (clash t') = true := by
    intro clash hclash
    rw [Bool.not_eq_true, List.any_eq_false]
    intro t ht
    obtain ⟨hmem, hne⟩ := List.mem_filter.mp ht
    simp [hclash t hmem (by simpa using hne)]
  rw [writeTask, if_neg (hnone hworker), if_neg (hnone hworkspace)]

/-- One row of the scan. -/
theorem recoverStalledRow_eq {stamp : String} {workers : List Worker} {u : Store}
    {n : StallCounts} {row : Task} {b : Bool}
    (hrow : Table.lookup Task.taskId row.taskId u.tasks = some row)
    (hdecide : row.exhausted = false → anyAlternative cfg env row u workers = .ok b)
    (hfree : ∀ t ∈ u.tasks, t.taskId ≠ row.taskId →
      workspaceClash (row.settled stamp b) t = false) :
    ∃ v, recoverStalledRow H cfg env stamp workers (u, n) row = .ok (v,
          if row.exhausted then { n with failed := n.failed + 1 }
          else if b then { n with rerouted := n.rerouted + 1 }
          else { n with blocked := n.blocked + 1 })
      ∧ v.tasks = Table.update Task.taskId row.taskId (fun _ ↦ row.settled stamp b) u.tasks := by
  have hwrite : ∀ u' : Store, u'.tasks = u.tasks → ∃ v,
      updateTask row.taskId (Task.settled stamp b) u' = .ok v ∧
      v.tasks = Table.update Task.taskId row.taskId (fun _ ↦ row.settled stamp b) u.tasks := by
    intro u' htasks
    rw [updateTask, htasks, hrow]
    have hid := row.settled_taskId stamp b
    have hok := @writeTask_eq_ok u' (row.settled stamp b)
      (fun t _ _ ↦ workerClash_of_free (row.settled_leasedBy stamp b) t)
      (fun t ht hne ↦ hfree t (htasks ▸ ht) (hid ▸ hne))
    refine ⟨_, hok, ?_⟩
    rw [hid, htasks]
  have hsettled : ∀ f : Task → Task, f row = row.settled stamp b → ∀ u' : Store,
      u'.tasks = u.tasks →
      updateTask row.taskId f u' = updateTask row.taskId (Task.settled stamp b) u' := by
    intro f hf u' htasks
    simp only [updateTask, htasks, hrow, hf]
  cases hex : row.exhausted with
  | true =>
    obtain ⟨v, hv, htasks⟩ := hwrite
      (quarantineTask H row "material_progress_timeout_max_attempts" stamp u) rfl
    refine ⟨v, ?_, htasks⟩
    rw [recoverStalledRow, hex]
    simp only [if_true]
    rw [hsettled _ (by simp [Task.settled, hex, Task.released]) (quarantineTask H row _ stamp u) rfl,
      hv]
    rfl
  | false =>
    obtain ⟨v, hv, htasks⟩ := hwrite u rfl
    refine ⟨v, ?_, htasks⟩
    rw [recoverStalledRow, hex]
    simp only [Bool.false_eq_true, if_false, hdecide hex, ok_bind]
    cases b with
    | true =>
      simp only [if_true]
      rw [hsettled _ (by simp [Task.settled, hex, Task.released]) u rfl, hv]
      rfl
    | false =>
      simp only [Bool.false_eq_true, if_false]
      rw [hsettled _ (by simp [Task.settled, hex, Task.released]) u rfl, hv]
      rfl

/-- The invariants the scan relies on. -/
structure Store.Sound (s : Store) : Prop where
  leases : s.LeaseInv
  heartbeats : s.HeartbeatsOk
  workspaces : s.WorkspacesApart
  workers : Table.Keyed Worker.workerId s.workers

theorem sound_of_run {tr : List (Call × Except PoolError Reply)} (h : (system H cfg).Run tr s) :
    s.Sound :=
  ⟨leaseInv_of_run h, heartbeatsOk_of_run h, workspacesApart_of_run h, keyed_workers_of_run h⟩

/-- The stalled rows are active tasks of the table, each once. -/
theorem stalledRows_spec {now : DateTime} {rows : List Task} (hs : s.Sound)
    (h : stalledRows cfg env now s = .ok rows) :
    rows.Nodup ∧ ∀ r ∈ rows, r ∈ s.tasks ∧ r.isActive = true := by
  rw [stalledRows, orThrow_bind_eq_ok] at h
  obtain ⟨cutoff, -, h⟩ := h
  cases h
  obtain ⟨hkeyed, hmem⟩ := scan_rows env.stalledOrder_perm
    (fun t ht ↦ (Bool.and_eq_true_iff.mp ht).1) hs.leases.keyed
  exact ⟨List.Nodup.of_map _ hkeyed, hmem⟩

/-- After part of the scan, a worker holds what it held of the other tasks. -/
theorem holdsActiveTask_settling {stamp : String} {d : List Task → Task → Bool} {seen : List Task}
    {u : Store} (hu : u.tasks = s.tasks.map (settling stamp (decisions d [] seen)))
    (workerId : String) :
    holdsActiveTask workerId u = holdsActiveTask workerId (s.releasing seen) := by
  rw [Bool.eq_iff_iff, holdsActiveTask_releasing, holdsActiveTask, hu, List.any_map,
    List.any_eq_true]
  refine exists_congr fun t ↦ and_congr_right fun _ ↦ ?_
  rw [Function.comp_apply, decide_eq_true_iff]
  by_cases hseen : t ∈ seen
  · refine iff_of_false (fun h ↦ ?_) fun h ↦ h.1 hseen
    have hkey : t ∈ (decisions d [] seen).map Prod.fst := by rwa [map_fst_decisions]
    obtain ⟨b, hb⟩ := Option.isSome_iff_exists.mp (Table.isSome_get?.mpr hkey)
    rw [settling, hb] at h
    simp [Task.settled_leasedBy] at h
  · have hnone : Table.get? t (decisions d [] seen) = none := by
      refine Table.get?_eq_none.mpr fun e he heq ↦ hseen ?_
      rw [← map_fst_decisions (d := d) [] seen, ← heq]
      exact List.mem_map_of_mem he
    rw [settling, hnone]
    exact ⟨fun h ↦ ⟨hseen, h⟩, fun h ↦ h.2⟩

/-- A settled row of an active task does not clash with the other rows. -/
theorem settled_apart {stamp : String} {ds : List (Task × Bool)} (hs : s.Sound) {row : Task}
    (hrow : row ∈ s.tasks) (hactive : row.isActive = true)
    (hds : ∀ x ∈ ds, x.1.isActive = true) (b : Bool) :
    ∀ t ∈ s.tasks.map (settling stamp ds), t.taskId ≠ row.taskId →
      workspaceClash (row.settled stamp b) t = false := by
  intro t ht hne
  obtain ⟨t₀, ht₀, rfl⟩ := List.mem_map.mp ht
  rw [settling_taskId] at hne
  have hapart := hs.workspaces row hrow t₀ ht₀ (Ne.symm hne)
  by_contra hclash
  rw [Bool.not_eq_false, workspaceClash] at hclash
  simp only [Bool.and_eq_true, Task.settled_repository, Task.settled_workspaceKey] at hclash
  obtain ⟨⟨⟨-, ht₁⟩, hrepo⟩, hkey⟩ := hclash
  have hboth : (settling stamp ds t₀).repository = t₀.repository
      ∧ (settling stamp ds t₀).workspaceKey = t₀.workspaceKey ∧ t₀.isActive = true := by
    obtain heq | ⟨b', hmem, heq⟩ := @settling_cases stamp ds t₀
    · rw [heq] at ht₁ ⊢
      exact ⟨rfl, rfl, ht₁⟩
    · rw [heq]
      exact ⟨t₀.settled_repository stamp b', t₀.settled_workspaceKey stamp b', hds _ hmem⟩
  rw [hboth.1] at hrepo
  rw [hboth.2.1] at hkey
  simp [workspaceClash, hactive, hboth.2.2] at hapart
  exact hapart (beq_iff_eq.mp hrepo) (beq_iff_eq.mp hkey)

/-- **The scan.** It settles every stalled task as decided, keeps the others, and never fails. -/
theorem recoverStalled_eq (hs : s.Sound) {now : DateTime} {rows : List Task}
    (hrows : stalledRows cfg env now s = .ok rows) :
    ∃ s', recoverStalled H cfg env now s
        = .ok (s', tally (decisions (reroutes cfg env s) [] rows))
      ∧ s'.tasks = s.tasks.map (settling now.iso (decisions (reroutes cfg env s) [] rows)) := by
  set d := reroutes cfg env s with hd
  obtain ⟨hnodup, hmem⟩ := stalledRows_spec hs hrows
  have hloop := exists_foldlM_ok (f := recoverStalledRow H cfg env now.iso s.workers) (l := rows)
    (b := (s, ⟨0, 0, 0⟩))
    (I := fun seen b ↦ b.1.tasks = s.tasks.map (settling now.iso (decisions d [] seen))
      ∧ b.1.affinities = s.affinities ∧ b.2 = tally (decisions d [] seen)) ?_ ?_
  · obtain ⟨⟨s', n⟩, hfold, htasks, -, rfl⟩ := hloop
    refine ⟨s', ?_, htasks⟩
    rw [recoverStalled, hrows]
    exact hfold
  · refine ⟨?_, rfl, rfl⟩
    exact (List.map_id s.tasks).symm
  · rintro seen row post ⟨u, n⟩ hsplit ⟨htasks, haffinities, rfl⟩
    have hin : row ∈ rows := by
      rw [hsplit]
      exact List.mem_append_right _ List.mem_cons_self
    obtain ⟨hrow, hactive⟩ := hmem row hin
    have hnew : row ∉ (decisions d [] seen).map Prod.fst := by
      rw [map_fst_decisions]
      rw [hsplit] at hnodup
      exact fun hseen ↦ (List.nodup_append.mp hnodup).2.2 row hseen row List.mem_cons_self rfl
    -- the row is still as it was fetched
    have hkeyed : Table.Keyed Task.taskId u.tasks := by
      have hmap : u.tasks.map Task.taskId = s.tasks.map Task.taskId := by
        rw [htasks, List.map_map]
        exact List.map_congr_left fun t _ ↦ settling_taskId _ _ t
      rw [Table.Keyed, hmap]
      exact hs.leases.keyed
    have hsame : settling now.iso (decisions d [] seen) row = row := by
      have hnone : Table.get? row (decisions d [] seen) = none := by
        refine Table.get?_eq_none.mpr fun e he heq ↦ hnew ?_
        rw [← heq]
        exact List.mem_map_of_mem he
      rw [settling, hnone]
    have hstill : row ∈ u.tasks := by
      rw [htasks]
      exact List.mem_map.mpr ⟨row, hrow, hsame⟩
    have hdecide : row.exhausted = false →
        anyAlternative cfg env row u s.workers = .ok (d seen row) := by
      intro hleft
      rw [anyAlternative_eq hs.heartbeats, hd, reroutes, hleft, Bool.not_false, Bool.true_and]
      refine congrArg Except.ok ?_
      rw [Bool.eq_iff_iff, List.any_eq_true, List.any_eq_true]
      refine exists_congr fun w ↦ and_congr_right fun hw ↦ ?_
      obtain ⟨beat, hbeat⟩ := hs.heartbeats w hw
      rw [isAlternative_iff hbeat, isAlternative_iff hbeat, haffinities,
        holdsActiveTask_settling htasks]
      exact Iff.rfl
    have hactives : ∀ x ∈ decisions d [] seen, x.1.isActive = true := by
      intro x hx
      have hseen : x.1 ∈ seen := by
        rw [← map_fst_decisions (d := d) [] seen]
        exact List.mem_map_of_mem hx
      refine (hmem x.1 ?_).2
      rw [hsplit]
      exact List.mem_append_left _ hseen
    have hfree := @settled_apart _ now.iso _ hs _ hrow hactive hactives (d seen row)
    rw [← htasks] at hfree
    obtain ⟨v, hv, hvtasks⟩ := recoverStalledRow_eq (H := H)
      (n := tally (decisions d [] seen)) (hkeyed.lookup_of_mem hstill) hdecide hfree
    refine ⟨(v, _), hv, ?_, ?_, ?_⟩
    · rw [hvtasks, htasks, Table.update, List.map_map, decisions_concat, List.nil_append]
      refine List.map_congr_left fun t ht ↦ ?_
      rw [Function.comp_apply, settling_taskId, settling_concat hnew]
      by_cases hid : t.taskId = row.taskId
      · rw [if_pos hid, if_pos (hs.leases.keyed.eq_of_key_eq ht hrow hid)]
      · rw [if_neg hid, if_neg fun heq ↦ hid (congrArg Task.taskId heq)]
    · exact (recoverStalledRow_wrote _ _ _ _ _ hv).frame.2.2.trans haffinities
    · rw [decisions_concat, List.nil_append, tally_concat]

end WorkerPool

end ReqSys
