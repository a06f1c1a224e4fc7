import Mathlib
import ReqSys.WorkerPool.Watchdog

/-!
# The worker pool: stalled tasks that nobody holds

`validating` stands for two situations: a task that a validator is working on, and a task that waits
for one. `_recover` tells them apart by the lease, `_recover_stalled` does not. A task that waits too
long is treated as if its holder had stalled: it is failed if its attempts are used up, and blocked
if no validator happens to be free when its turn comes.

`waiting_kept_iff` is the exact condition under which the scan spares the tasks that wait.
-/

namespace ReqSys

namespace WorkerPool

open PyText Scan

variable {H : Host} {cfg : Config} {env : Env} {s s' : Store}

/-- No task without a holder was moved to `blocked` or `failed`. -/
def WaitingKept (s s' : Store) : Prop :=
  ∀ t ∈ s.tasks, t.leasedBy = none → ∀ t' ∈ s'.tasks, t'.taskId = t.taskId →
    t'.state = .blocked ∨ t'.state = .failed → t'.state = t.state

/-- Every stalled task without a holder has attempts left and, the rows before it being released,
some worker that `_worker_is_alternative` accepts. -/
def WaitingServed (cfg : Config) (env : Env) (now : DateTime) (s : Store) : Prop :=
  ∀ rows, stalledRows cfg env now s = .ok rows →
    ∀ pre t post, rows = pre ++ t :: post → t.leasedBy = none →
      t.exhausted = false ∧ ∃ w ∈ s.workers, isAlternative cfg env t (s.releasing pre) w = true

theorem Task.settled_state (stamp : String) (b : Bool) (t : Task) : (t.settled stamp b).state
    = if t.exhausted then .failed else if b then t.resumeState else .blocked := by
  rw [settled]
  split_ifs <;> rfl

theorem Task.resumeState_ne (t : Task) : t.resumeState ≠ .blocked ∧ t.resumeState ≠ .failed := by
  rw [resumeState]
  split_ifs
  · exact ⟨by rintro ⟨⟩, by rintro ⟨⟩⟩
  · exact ⟨by rintro ⟨⟩, by rintro ⟨⟩⟩

theorem reroutes_eq_true {seen : List Task} {t : Task} : reroutes cfg env s seen t = true ↔
    t.exhausted = false ∧ ∃ w ∈ s.workers, isAlternative cfg env t (s.releasing seen) w = true := by
  rw [reroutes, Bool.and_eq_true, Bool.not_eq_true', List.any_eq_true]

theorem waitingServed_iff {now : DateTime} {rows : List Task}
    (hrows : stalledRows cfg env now s = .ok rows) : WaitingServed cfg env now s ↔
      ∀ x ∈ decisions (reroutes cfg env s) [] rows, x.1.leasedBy = none → x.2 = true := by
  constructor
  · rintro hserved ⟨t, b⟩ hx hfree
    obtain ⟨pre, post, hsplit, rfl⟩ := mem_decisions.mp hx
    exact reroutes_eq_true.mpr (hserved rows hrows pre t post hsplit hfree)
  · intro hall rows' hrows' pre t post hsplit hfree
    obtain rfl : rows = rows' := Except.ok.inj (hrows.symm.trans hrows')
    exact reroutes_eq_true.mp (hall _ (mem_decisions.mpr ⟨pre, post, hsplit, rfl⟩) hfree)

/-- **One scan.** -/
theorem recoverStalled_waiting_iff (hs : s.Sound) {now : DateTime} {n : StallCounts}
    (h : recoverStalled H cfg env now s = .ok (s', n)) :
    WaitingKept s s' ↔ WaitingServed cfg env now s := by
  obtain ⟨rows, hrows, -⟩ := bind_eq_ok.mp h
  obtain ⟨s₁, hs₁, htasks⟩ := recoverStalled_eq (H := H) hs hrows
  obtain rfl : s' = s₁ := by
    rw [h] at hs₁
    exact congrArg Prod.fst (Except.ok.inj hs₁)
  obtain ⟨hnodup, hmem⟩ := stalledRows_spec hs hrows
  set ds := decisions (reroutes cfg env s) [] rows with hds
  rw [waitingServed_iff hrows, ← hds]
  constructor
  · rintro hkept ⟨t, b⟩ hdecided hfree
    obtain ⟨ht, hactive⟩ := hmem t (by
      rw [← map_fst_decisions (d := reroutes cfg env s) [] rows]
      exact List.mem_map_of_mem hdecided)
    have hkeyed : Table.Keyed Prod.fst ds := by
      rw [Table.Keyed, hds, map_fst_decisions]
      exact hnodup
    have hafter : settling now.iso ds t = t.settled now.iso b := by
      rw [settling, hkeyed.get?_of_mem hdecided]
    have hin : settling now.iso ds t ∈ s'.tasks := by
      rw [htasks]
      exact List.mem_map_of_mem ht
    by_contra hno
    rw [Bool.not_eq_true] at hno
    dsimp only at hno
    have hstate : (settling now.iso ds t).state = if t.exhausted then .failed else .blocked := by
      rw [hafter, Task.settled_state, hno]
      simp
    have hpunished : (settling now.iso ds t).state = .blocked
        ∨ (settling now.iso ds t).state = .failed := by
      rw [hstate]
      split_ifs
      · exact Or.inr rfl
      · exact Or.inl rfl
    have hsame := hkept t ht hfree _ hin (settling_taskId _ _ t) hpunished
    rw [hsame] at hpunished
    rw [Task.isActive_iff] at hactive
    rcases hpunished with hp | hp <;> simp [hp] at hactive
  · intro hserved t ht hfree t' ht' hid hpunished
    rw [htasks] at ht'
    obtain ⟨t₀, ht₀, rfl⟩ := List.mem_map.mp ht'
    rw [settling_taskId] at hid
    obtain rfl : t₀ = t := hs.leases.keyed.eq_of_key_eq ht₀ ht hid
    obtain heq | ⟨b, hb, heq⟩ := @settling_cases now.iso ds t₀
    · rw [heq]
    · have htrue : b = true := hserved (t₀, b) hb hfree
      obtain ⟨pre, post, -, hdecided⟩ := mem_decisions.mp hb
      have hleft := (reroutes_eq_true.mp (hdecided.symm.trans htrue)).1
      rw [heq, Task.settled_state, hleft, htrue] at hpunished
      obtain ⟨hblocked, hfailed⟩ := t₀.resumeState_ne
      exact absurd hpunished (not_or.mpr ⟨hblocked, hfailed⟩)

/-- The database a claim hands to the scan is one that `recover_expired_leases` leaves. -/
theorem run_recover {tr : List (Call × Except PoolError Reply)} (h : (system H cfg).Run tr s)
    {now : DateTime} {n : ℕ} (hrecover : recover H env now s = .ok (s', n)) :
    ∃ tr', (system H cfg).Run tr' s' := by
  let c : Call := ⟨.recoverExpiredLeases, { env with clock := fun _ ↦ now }⟩
  have hbody : recover H c.env (c.env.clock 0) s = .ok (s', n) := hrecover
  have hexec : exec H cfg c s = (s', .ok (.recovered n)) := by
    rw [show exec H cfg c s = recoverExpiredLeases H c.env s from rfl, recoverExpiredLeases, hbody]
    rfl
  have hstep : (system H cfg).step s (c, .ok (.recovered n)) s' := hexec
  exact ⟨_, h.snoc hstep⟩

/-- **Only holders are punished, exactly when those who wait are served.** In every reachable
database, at every reading of the clock and in every order of the rows, `recover_stalled_tasks`
moves no task without a holder to `blocked` or `failed` if and only if every such task among the
stalled ones has attempts left and finds a free worker. The same holds of the scan inside
`claim_task`, for the database the recovery of expired leases has left. -/
theorem waiting_kept_iff {tr : List (Call × Except PoolError Reply)}
    (h : (system H cfg).Run tr s) (env : Env) :
    (∀ s' r, recoverStalledTasks H cfg env s = (s', r) →
      (WaitingKept s s' ↔ WaitingServed cfg env (env.clock 0) s)) ∧
    ∀ s₁ n, recover H env (env.clock 2) s = .ok (s₁, n) →
      ∀ s₂ m, recoverStalled H cfg env (env.clock 3) s₁ = .ok (s₂, m) →
        (WaitingKept s₁ s₂ ↔ WaitingServed cfg env (env.clock 3) s₁) := by
  refine ⟨fun s' r hexec ↦ ?_, fun s₁ n hrecover s₂ m hstalled ↦ ?_⟩
  · obtain ⟨n, hbody, -⟩ | ⟨rfl, e, herror, -⟩ := transaction_cases hexec
    · exact recoverStalled_waiting_iff (sound_of_run h) hbody
    · -- a scan without a cutoff changes nothing, and has no stalled rows
      have hsound := sound_of_run h
      refine iff_of_true (fun t ht _ t' ht' hid _ ↦ ?_) fun rows hrows ↦ ?_
      · rw [hsound.leases.keyed.eq_of_key_eq ht' ht hid]
      · obtain ⟨s₁, hok, -⟩ := recoverStalled_eq (H := H) hsound hrows
        rw [herror] at hok
        cases hok
  · obtain ⟨tr', hrun⟩ := run_recover h hrecover
    exact recoverStalled_waiting_iff (sound_of_run hrun) hstalled

/-! ## A validator that comes in time, and none at all -/

/-- Every reading of the clock is some minutes after noon. -/
def minuteEnv (minute : ℕ) (hminute : minute < 60) : Env :=
  { sampleEnv "" with
    clock := fun _ ↦ afterNoon minute 0 hminute (Nat.succ_pos 999999)
    alternativeClock := fun _ _ ↦ afterNoon minute 0 hminute (Nat.succ_pos 999999) }

theorem twenty_lt_sixty : 20 < 60 := by decide

/-- The builder has submitted the task; nobody validates it for twenty minutes. -/
def submittedCalls : List Call :=
  [sampleCall (.registerWorker (sampleWorker "b" "builder")),
   sampleCall (.enqueueTask (sampleEnqueue 1 "r1"))]
    ++ buildCalls "0123456789abcdef0123456789abcdef01234567"

example : (sampleRun submittedCalls).2.tasks.length = 1 := by decide +kernel

/-- A validator registers after twenty minutes. -/
def lateValidator : Call :=
  ⟨.registerWorker (sampleWorker "v" "validator"), minuteEnv 20 (by decide)⟩

/-- With a validator the waiting task stays where it is. -/
theorem waiting_kept_sample :
    let s := (sampleRun (submittedCalls ++ [lateValidator])).2
    s.tasks.map (fun t ↦ (t.state, t.leasedBy)) = [(.validating, none)] ∧
      WaitingKept s (recoverStalledTasks sampleHost sampleConfig (minuteEnv 20 (by decide)) s).1 := by
  intro s
  refine ⟨by decide +kernel, ?_⟩
  refine ((waiting_kept_iff (run_sampleRun _) (minuteEnv 20 (by decide))).1 _ _
    Prod.mk.eta.symm).mpr ?_
  have hrows : stalledRows sampleConfig (minuteEnv 20 (by decide)) (afterNoon 20 0) s
      = .ok s.tasks := by decide +kernel
  exact (waitingServed_iff hrows).mpr (by decide +kernel)

/-- Without one it is blocked, although nobody holds it. -/
theorem waiting_blocked : ∃ tr s, (system sampleHost sampleConfig).Run tr s ∧ ∃ env,
    s.tasks.map (fun t ↦ (t.taskId, t.state, t.leasedBy)) = [(firstTask, .validating, none)] ∧
      (recoverStalledTasks sampleHost sampleConfig env s).2 = .ok (.stalled ⟨0, 1, 0⟩) ∧
      (recoverStalledTasks sampleHost sampleConfig env s).1.tasks.map
        (fun t ↦ (t.taskId, t.state)) = [(firstTask, .blocked)] :=
  ⟨_, _, run_sampleRun submittedCalls, minuteEnv 20 (by decide), by decide +kernel⟩

end WorkerPool

end ReqSys
