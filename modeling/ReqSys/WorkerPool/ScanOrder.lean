import Mathlib
import ReqSys.WorkerPool.Rerouting

/-!
# The worker pool: the order of the stalled rows

The query of `_recover_stalled` has no `ORDER BY`, and the loop frees workers as it goes. A worker
whose own task stalled is no alternative for the rows before its own and may be one for the rows
after it, so the same database can be settled in several ways.

`scan_order_iff` says when it cannot: for every stalled task with attempts left some alternative is
free before the scan, or none would be free even with all stalled tasks released.
-/

namespace ReqSys

namespace WorkerPool

open PyText Scan

variable {H : Host} {cfg : Config} {env : Env} {s s' : Store}

/-! ## Orders -/

/-- The same surroundings with another order of the stalled rows. -/
def Env.scanning (env : Env) (order : List Task → List Task) (h : ∀ l, (order l).Perm l) : Env :=
  { env with stalledOrder := order, stalledOrder_perm := h }

/-- The tasks after a scan and its counts. -/
def scanned (H : Host) (cfg : Config) (env : Env) (now : DateTime) (s : Store) :
    Except PoolError (List Task × StallCounts) :=
  (recoverStalled H cfg env now s).map fun x ↦ (x.1.tasks, x.2)

/-- For every stalled task with attempts left, some alternative is free before the scan, or none is
free with all stalled tasks released. -/
def AlternativesFixed (cfg : Config) (env : Env) (now : DateTime) (s : Store) : Prop :=
  ∀ rows, stalledRows cfg env now s = .ok rows → ∀ t ∈ rows, t.exhausted = false →
    (∃ w ∈ s.workers, isAlternative cfg env t s w = true) ∨
      ∀ w ∈ s.workers, isAlternative cfg env t (s.releasing rows) w = false

/-- Whether its own holder is released makes no difference to a stalled task. -/
theorem isAlternative_releasing_erase (hs : s.Sound) {rows : List Task} {t : Task} {w : Worker}
    (hw : w ∈ s.workers) : isAlternative cfg env t (s.releasing (rows.erase t)) w
      = isAlternative cfg env t (s.releasing rows) w := by
  obtain ⟨beat, hbeat⟩ := hs.heartbeats w hw
  rw [Bool.eq_iff_iff]
  refine ⟨isAlternative_of_subset hs.heartbeats List.erase_subset hw, fun h ↦ ?_⟩
  rw [isAlternative_iff hbeat] at h ⊢
  refine ⟨h.1, ?_⟩
  have hidle := h.2
  rw [← Bool.not_eq_true, holdsActiveTask_releasing] at hidle ⊢
  rintro ⟨u, hu, hout, hheld⟩
  refine hidle ⟨u, hu, fun hin ↦ ?_, hheld⟩
  -- the only row left out is the task itself, and its holder is no alternative
  have hself : u = t := by
    by_contra hne
    exact hout ((List.mem_erase_of_ne hne).mpr hin)
  rw [hself] at hheld
  exact h.1.other hheld.1.symm

theorem settled_iff (hs : s.Sound) {now : DateTime} {rows : List Task}
    (hrows : stalledRows cfg env now s = .ok rows) :
    Settled (reroutes cfg env s) rows ↔ AlternativesFixed cfg env now s := by
  have hone : ∀ t ∈ rows, (reroutes cfg env s [] t = true ∨
        reroutes cfg env s (rows.erase t) t = false) ↔
      (t.exhausted = false → (∃ w ∈ s.workers, isAlternative cfg env t s w = true) ∨
        ∀ w ∈ s.workers, isAlternative cfg env t (s.releasing rows) w = false) := by
    intro t _
    cases hex : t.exhausted with
    | true => simp [reroutes, hex]
    | false =>
      have hlast : reroutes cfg env s (rows.erase t) t = false ↔
          ∀ w ∈ s.workers, isAlternative cfg env t (s.releasing rows) w = false := by
        rw [reroutes, hex, Bool.not_false, Bool.true_and, List.any_eq_false]
        refine forall_congr' fun w ↦ forall_congr' fun hw ↦ ?_
        rw [Bool.not_eq_true, isAlternative_releasing_erase hs hw]
      rw [reroutes_eq_true, hlast, releasing_nil, hex]
      simp
  constructor
  · intro h rows' hrows' t ht hleft
    obtain rfl : rows = rows' := Except.ok.inj (hrows.symm.trans hrows')
    exact (hone t ht).mp (h t ht) hleft
  · exact fun h t ht ↦ (hone t ht).mpr (h rows hrows t ht)

/-! ## Outcomes -/

/-- A scan settles the tasks by its decisions, in whatever order they were made. -/
theorem settling_perm {stamp : String} {ds ds' : List (Task × Bool)} (h : ds.Perm ds')
    (hk : Table.Keyed Prod.fst ds) (t : Task) : settling stamp ds t = settling stamp ds' t := by
  have hk' : Table.Keyed Prod.fst ds' := (h.map Prod.fst).nodup_iff.mp hk
  have hget : Table.get? t ds = Table.get? t ds' := by
    refine Option.ext fun b ↦ ⟨fun hb ↦ ?_, fun hb ↦ ?_⟩
    · exact hk'.get?_of_mem (h.mem_iff.mp (Table.mem_of_get? hb))
    · exact hk.get?_of_mem (h.mem_iff.mpr (Table.mem_of_get? hb))
  rw [settling, settling, hget]

theorem tally_perm {ds ds' : List (Task × Bool)} (h : ds.Perm ds') : tally ds = tally ds' := by
  rw [tally, tally, h.countP_eq, h.countP_eq, h.countP_eq]

/-- A task with attempts left shows how it was decided. -/
theorem Task.settled_injective {t : Task} (h : t.exhausted = false) {stamp : String} {b b' : Bool}
    (heq : t.settled stamp b = t.settled stamp b') : b = b' := by
  have hstate := congrArg Task.state heq
  rw [Task.settled_state, Task.settled_state, h] at hstate
  have hne := t.resumeState_ne.1
  cases b <;> cases b'
  · rfl
  · exact absurd hstate.symm hne
  · exact absurd hstate hne
  · rfl

/-- The outcome of a scan, by its decisions. -/
theorem scanned_eq (hs : s.Sound) {now : DateTime} {rows : List Task}
    (hrows : stalledRows cfg env now s = .ok rows) : scanned H cfg env now s
      = .ok (s.tasks.map (settling now.iso (decisions (reroutes cfg env s) [] rows)),
          tally (decisions (reroutes cfg env s) [] rows)) := by
  obtain ⟨s', hscan, htasks⟩ := recoverStalled_eq (H := H) hs hrows
  rw [scanned, hscan, ← htasks]
  rfl

/-- Two orders have the same outcome exactly if they lead to the same decisions. -/
theorem outcome_eq_iff {stamp : String} {rows l l' : List Task}
    (hnodup : rows.Nodup) (hmem : ∀ t ∈ rows, t ∈ s.tasks) (hl : l.Perm rows) (hl' : l'.Perm rows) :
    (s.tasks.map (settling stamp (decisions (reroutes cfg env s) [] l)),
        tally (decisions (reroutes cfg env s) [] l))
      = (s.tasks.map (settling stamp (decisions (reroutes cfg env s) [] l')),
        tally (decisions (reroutes cfg env s) [] l')) ↔
    (decisions (reroutes cfg env s) [] l).Perm (decisions (reroutes cfg env s) [] l') := by
  have hkeyed : ∀ {m : List Task}, m.Perm rows →
      Table.Keyed Prod.fst (decisions (reroutes cfg env s) [] m) := by
    intro m hm
    rw [Table.Keyed, map_fst_decisions]
    exact hm.nodup_iff.mpr hnodup
  have hsub : ∀ {m m' : List Task}, m.Perm rows → m'.Perm rows →
      s.tasks.map (settling stamp (decisions (reroutes cfg env s) [] m))
        = s.tasks.map (settling stamp (decisions (reroutes cfg env s) [] m')) →
      ∀ x ∈ decisions (reroutes cfg env s) [] m, x ∈ decisions (reroutes cfg env s) [] m' := by
    rintro m m' hm hm' heq ⟨t, b⟩ hx
    have htm : t ∈ m := by
      rw [← map_fst_decisions (d := reroutes cfg env s) [] m]
      exact List.mem_map_of_mem hx
    have htm' : t ∈ (decisions (reroutes cfg env s) [] m').map Prod.fst := by
      rw [map_fst_decisions]
      exact hm'.mem_iff.mpr (hm.mem_iff.mp htm)
    obtain ⟨⟨t', b'⟩, hx', rfl⟩ := List.mem_map.mp htm'
    have hsame : t'.settled stamp b = t'.settled stamp b' := by
      have hpoint := List.map_inj_left.mp heq t' (hmem t' (hm.mem_iff.mp htm))
      rwa [settling, settling, (hkeyed hm).get?_of_mem hx, (hkeyed hm').get?_of_mem hx'] at hpoint
    cases hex : t'.exhausted with
    | false =>
      rw [Task.settled_injective hex hsame]
      exact hx'
    | true =>
      -- nothing is rerouted with its attempts used up
      obtain ⟨_, _, -, hb⟩ := mem_decisions.mp hx
      obtain ⟨_, _, -, hb'⟩ := mem_decisions.mp hx'
      rw [reroutes, hex, Bool.not_true, Bool.false_and] at hb hb'
      obtain rfl := hb.trans hb'.symm
      exact hx'
  constructor
  · intro heq
    obtain ⟨htasks, -⟩ := Prod.mk.inj heq
    refine (List.perm_ext_iff_of_nodup (List.Nodup.of_map _ (hkeyed hl))
      (List.Nodup.of_map _ (hkeyed hl'))).mpr fun x ↦ ?_
    exact ⟨hsub hl hl' htasks x, hsub hl' hl htasks.symm x⟩
  · intro hperm
    rw [tally_perm hperm]
    refine congrArg (·, _) ?_
    exact List.map_congr_left fun t _ ↦ settling_perm hperm (hkeyed hl) t

/-- **The order of the rows does not matter, exactly when the alternatives are fixed.** In a
reachable database, every two orders in which the scan may go through the stalled rows leave the
same tasks and the same counts if and only if for every stalled task with attempts left some
alternative is free before the scan or none is free with all stalled tasks released. -/
theorem scan_order_iff {tr : List (Call × Except PoolError Reply)} (h : (system H cfg).Run tr s)
    (env : Env) (now : DateTime) :
    (∀ order order' (ho : ∀ l, (order l).Perm l) (ho' : ∀ l, (order' l).Perm l),
      scanned H cfg (env.scanning order ho) now s = scanned H cfg (env.scanning order' ho') now s) ↔
    AlternativesFixed cfg env now s := by
  have hs := sound_of_run h
  cases hcutoff : now.addSeconds (-cfg.progressStallSeconds) with
  | none =>
    have herror : ∀ e : Env, stalledRows cfg e now s = .error .overflow := by
      intro e
      rw [stalledRows, hcutoff]
      rfl
    refine iff_of_true (fun order order' ho ho' ↦ ?_) fun rows hrows ↦ ?_
    · rw [scanned, scanned, recoverStalled, recoverStalled, herror, herror]
      rfl
    · rw [herror] at hrows
      cases hrows
  | some cutoff =>
    have hrows : ∀ e : Env, stalledRows cfg e now s
        = .ok (e.stalledOrder (s.tasks.filter (stalledAt cutoff.iso))) := by
      intro e
      rw [stalledRows, hcutoff]
      rfl
    obtain ⟨hnodup, hmem⟩ := stalledRows_spec hs (hrows env)
    set rows := env.stalledOrder (s.tasks.filter (stalledAt cutoff.iso)) with hrowsdef
    have hbase : (s.tasks.filter (stalledAt cutoff.iso)).Perm rows :=
      (env.stalledOrder_perm _).symm
    rw [← settled_iff hs (hrows env), ← perm_decisions_iff (favours_reroutes hs.heartbeats) hnodup]
    have houtcome : ∀ order (ho : ∀ l, (order l).Perm l),
        scanned H cfg (env.scanning order ho) now s = .ok
          (s.tasks.map (settling now.iso (decisions (reroutes cfg env s) []
              (order (s.tasks.filter (stalledAt cutoff.iso))))),
            tally (decisions (reroutes cfg env s) []
              (order (s.tasks.filter (stalledAt cutoff.iso))))) :=
      fun order ho ↦ scanned_eq hs (hrows (env.scanning order ho))
    constructor
    · intro hall l l' hl hl'
      -- an order is a function of the rows, so each list of the rows is one
      let order (m : List Task) (x : List Task) : List Task :=
        if x = s.tasks.filter (stalledAt cutoff.iso) then m else x
      have horder : ∀ m : List Task, m.Perm rows → ∀ x, (order m x).Perm x := by
        intro m hm x
        by_cases hx : x = s.tasks.filter (stalledAt cutoff.iso)
        · simp only [order, if_pos hx]
          rw [hx]
          exact hm.trans hbase.symm
        · simp only [order, if_neg hx]
          exact List.Perm.refl x
      have heq := hall (order l) (order l') (horder l hl) (horder l' hl')
      rw [houtcome, houtcome] at heq
      simp only [order, if_true] at heq
      exact (outcome_eq_iff hnodup (fun t ht ↦ (hmem t ht).1) hl hl').mp (Except.ok.inj heq)
    · intro hall order order' ho ho'
      rw [houtcome, houtcome]
      have hl := (ho (s.tasks.filter (stalledAt cutoff.iso))).trans hbase
      have hl' := (ho' (s.tasks.filter (stalledAt cutoff.iso))).trans hbase
      exact congrArg Except.ok
        ((outcome_eq_iff hnodup (fun t ht ↦ (hmem t ht).1) hl hl').mpr (hall _ _ hl hl'))

/-! ## A third builder, and none -/

/-- Two builders hold one task each, twenty minutes without progress. -/
def pairCalls : List Call :=
  [sampleCall (.registerWorker (sampleWorker "b" "builder")),
   sampleCall (.registerWorker (sampleWorker "b2" "builder")),
   sampleCall (.configureRepository { repository := "org/repo", maxInFlight := 2 }),
   sampleCall (.enqueueTask (sampleEnqueue 1 "r1")),
   sampleCall (.enqueueTask (sampleEnqueue 2 "r2")),
   sampleCall (.claimTask { workerId := "b", role := "builder", correlationId := "c" }) "token-1",
   sampleCall (.claimTask { workerId := "b2", role := "builder", correlationId := "c" }) "token-2",
   ⟨.heartbeatWorker { workerId := "b", correlationId := "c" }, minuteEnv 20 twenty_lt_sixty⟩,
   ⟨.heartbeatWorker { workerId := "b2", correlationId := "c" }, minuteEnv 20 twenty_lt_sixty⟩]

example : (sampleRun pairCalls).2.tasks.length = 2 := by decide +kernel

/-- With a third builder both tasks are rerouted, in either order. -/
theorem scan_order_sample :
    let s := (sampleRun (pairCalls ++ [lateWorker "b3" "builder"])).2
    let env := minuteEnv 20 (by decide)
    scanned sampleHost sampleConfig (env.scanning id List.Perm.refl) (afterNoon 20 0) s
        = scanned sampleHost sampleConfig (env.scanning List.reverse List.reverse_perm)
            (afterNoon 20 0) s ∧
      (scanned sampleHost sampleConfig env (afterNoon 20 0) s).map Prod.snd = .ok ⟨2, 0, 0⟩ := by
  intro s env
  refine ⟨(scan_order_iff (run_sampleRun _) env (afterNoon 20 0)).mpr ?_ _ _ _ _,
    by decide +kernel⟩
  have hrows : stalledRows sampleConfig env (afterNoon 20 0) s = .ok s.tasks := by decide +kernel
  intro rows hrows'
  obtain rfl : s.tasks = rows := Except.ok.inj (hrows.symm.trans hrows')
  decide +kernel

/-- Without one, whoever is scanned first is blocked and frees its worker for the other. -/
theorem scan_order_matters : ∃ tr s, (system sampleHost sampleConfig).Run tr s ∧
    ∃ (env : Env) (now : DateTime),
    (scanned sampleHost sampleConfig (env.scanning id List.Perm.refl) now s).map
        (fun x ↦ (x.1.map fun t ↦ (t.taskId, t.state), x.2))
      = .ok ([(firstTask, .blocked), (secondTask, .queued)], ⟨1, 1, 0⟩) ∧
    (scanned sampleHost sampleConfig (env.scanning List.reverse List.reverse_perm) now s).map
        (fun x ↦ (x.1.map fun t ↦ (t.taskId, t.state), x.2))
      = .ok ([(firstTask, .queued), (secondTask, .blocked)], ⟨1, 1, 0⟩) :=
  ⟨_, _, run_sampleRun pairCalls, minuteEnv 20 (by decide), afterNoon 20 0, by decide +kernel⟩

end WorkerPool

end ReqSys
