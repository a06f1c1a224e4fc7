import Mathlib
import ReqSys.WorkerPool.LeaseInvariant

/-!
# The worker pool: two notions of expiry

The recovery scans compare timestamps as texts, inside SQL; `_lease` and the snapshot parse them and
compare instants. The texts drop the fraction of a second when it is zero, and a dropped fraction
sorts after every written one, so within one second the two comparisons can disagree.

The disagreement is characterised exactly. For a lease it happens when the expiry and the reading of
the clock lie in the same second and exactly one of them is a whole second; for a stalled task the
same holds for its last progress and the cutoff. The snapshot measures an age in floating point,
which can round up to the limit; `RoundsUp` is that case, and it needs a limit of at least `2 ^ 33`
seconds.
-/

namespace ReqSys

namespace WorkerPool

open DateTime

variable {H : Host} {cfg : Config} {env : Env} {s s' : Store} {a : Act} {t t' : Task}

/-! ## The timestamps of a row -/

/-- The timestamps the scans look at were written by `iso`. -/
structure Task.StampsOk (t : Task) : Prop where
  expires : ∀ text, t.leaseExpiresAt = some text → ∃ e : DateTime, text = e.iso
  progress : ∃ p : DateTime, t.lastMaterialProgressAt = p.iso

theorem Change.stampsOk (h : Change H a t t') (hok : t.StampsOk) : t'.StampsOk := by
  cases a <;> simp only [Change] at h
  case claim =>
    obtain ⟨-, -, -, e, p, _, rfl⟩ := h
    exact ⟨fun text htext ↦ ⟨e, (Option.some.inj htext).symm⟩, p, rfl⟩
  case renew =>
    obtain ⟨-, -, e, _, _, rfl⟩ := h
    exact ⟨fun text htext ↦ ⟨e, (Option.some.inj htext).symm⟩, hok.progress⟩
  case start =>
    obtain ⟨-, -, p, _, rfl⟩ := h
    exact ⟨hok.expires, p, rfl⟩
  case submit =>
    obtain ⟨-, -, -, -, p, _, rfl⟩ := h
    exact ⟨by rintro _ ⟨⟩, p, rfl⟩
  case complete =>
    obtain ⟨-, -, -, -, p, _, rfl⟩ := h
    exact ⟨by rintro _ ⟨⟩, p, rfl⟩
  case giveBack =>
    obtain ⟨-, -, _, _, _, _, rfl⟩ := h
    exact ⟨by rintro _ ⟨⟩, hok.progress⟩
  case giveUp =>
    obtain ⟨-, -, _, _, _, _, rfl⟩ := h
    exact ⟨by rintro _ ⟨⟩, hok.progress⟩
  case block =>
    obtain ⟨-, _, _, _, _, progress, hprogress, rfl⟩ := h
    refine ⟨by rintro _ ⟨⟩, ?_⟩
    rcases hprogress with rfl | hprogress
    · exact hok.progress
    · exact hprogress
  case requeue =>
    obtain ⟨-, p, _, rfl⟩ := h
    exact ⟨hok.expires, p, rfl⟩

theorem stampsOk_of_run {acts : List Act} (h : (protocol H).Run acts s) (ht : t ∈ s.tasks) :
    t.StampsOk := by
  refine h.invariant (I := fun s ↦ ∀ t ∈ s.tasks, t.StampsOk) ?_ ?_ t ht
  · rintro s rfl
    exact List.forall_mem_nil _
  · intro s a s' hinv hstep r hr
    rcases Effect.mem_cases hstep hr with ⟨hr, -⟩ | ⟨-, hfresh, -⟩ | ⟨t, ht, -, hchange⟩
    · exact hinv r hr
    · exact ⟨by simp [hfresh.leaseExpiresAt], hfresh.progress⟩
    · exact hchange.stampsOk (hinv t ht)

/-! ## Expired leases -/

theorem readStamp_iso (d : DateTime) : readStamp d.iso = .ok d := by
  rw [readStamp, parseIso_iso]
  rfl

/-- The scan compares texts. -/
theorem mem_expiredRows {e now : DateTime} (ht : t ∈ s.tasks) (hactive : t.isActive = true)
    (he : t.leaseExpiresAt = some e.iso) : t ∈ expiredRows env now s ↔ e.iso ≤ now.iso := by
  rw [expiredRows, (env.expiredOrder_perm _).mem_iff, List.mem_filter, expiredAt, he, hactive]
  simp [ht]

/-- `_lease` compares instants. -/
theorem leaseExpired_iff {e now : DateTime} (he : t.leaseExpiresAt = some e.iso) :
    leaseExpired now t = .ok (decide (e ≤ now)) := by
  rw [leaseExpired, he]
  simp only [if_neg e.iso_ne_empty, readStamp_iso]
  rfl

/-- `_lease` rejects the holder of a lease as expired exactly if its expiry has passed. -/
theorem leaseRow_expired_iff {e now : DateTime} {w token : String}
    (hlook : Table.lookup Task.taskId t.taskId s.tasks = some t) (hactive : t.isActive = true)
    (hheld : t.HeldBy w token) (he : t.leaseExpiresAt = some e.iso) :
    leaseRow now t.taskId w token TaskState.active s = .error (.conflict "lease expirado")
      ↔ e ≤ now := by
  have hstate : t.state ∈ TaskState.active := mem_active_iff.mpr hactive
  have hboth : t.leasedBy = some w ∧ t.leaseToken = some token := hheld
  have hguards : leaseRow now t.taskId w token TaskState.active s
      = (require (decide (e ≤ now) = false) (.conflict "lease expirado") >>= fun _ ↦ .ok t) := by
    rw [leaseRow, hlook, show orThrow (some t) (PoolError.notFound _) = .ok t from rfl, ok_bind,
      require_bind_of_true hstate, require_bind_of_true hboth, leaseExpired_iff he, ok_bind]
    rfl
  rw [hguards]
  by_cases hle : e ≤ now
  · rw [require_bind_of_false (by simp [hle])]
    exact iff_of_true rfl hle
  · rw [require_bind_of_true (by simp [hle])]
    exact iff_of_false (by rintro ⟨⟩) hle

/-! ## Stalled tasks -/

/-- The float age of the last progress reaches the limit although the exact age does not. -/
def RoundsUp (cfg : Config) (now p : DateTime) : Prop :=
  p.toMicros ≤ now.toMicros ∧ now.toMicros < p.toMicros + cfg.progressStallSeconds * 1000000
    ∧ (cfg.progressStallSeconds : ℚ) ≤ floatSeconds (now.toMicros - p.toMicros)

/-- The condition under which the scan and the snapshot agree on a task. -/
def StallAgrees (cfg : Config) (now p : DateTime) : Prop :=
  match now.addSeconds (-cfg.progressStallSeconds) with
  | none => ¬RoundsUp cfg now p
  | some cutoff => Aligned p cutoff ↔ ¬RoundsUp cfg now p

/-- Rounding up needs a limit of at least `2 ^ 33` seconds. -/
theorem not_roundsUp (h : cfg.progressStallSeconds < 2 ^ 33) (now p : DateTime) :
    ¬RoundsUp cfg now p := by
  rintro ⟨hbefore, hlt, hle⟩
  have hfloat := floatSeconds_lt (d := now.toMicros - p.toMicros) h (by omega)
  exact absurd hle (not_le.mpr hfloat)

/-- The snapshot measures an age. -/
theorem progressStalled_iff {now p : DateTime} (hactive : t.isActive = true)
    (hp : t.lastMaterialProgressAt = p.iso) :
    progressStalled cfg now t = .ok true
      ↔ p.toMicros + cfg.progressStallSeconds * 1000000 ≤ now.toMicros ∨ RoundsUp cfg now p := by
  have hlimit := cfg.progressStall_pos
  have hpos : (0 : ℚ) < cfg.progressStallSeconds := by exact_mod_cast hlimit
  have hview : progressStalled cfg now t
      = .ok (decide ((cfg.progressStallSeconds : ℚ) ≤ max 0 (elapsed now p))) := by
    rw [progressStalled, progressAge, hp, readStamp_iso]
    simp [hactive, bind, Except.bind, pure, Except.pure]
  rw [hview, Except.ok.injEq, decide_eq_true_iff, le_max_iff, or_iff_right (not_le.mpr hpos),
    le_elapsed_iff hlimit, RoundsUp]
  constructor
  · rintro ⟨hle, hfloat⟩
    by_cases hage : p.toMicros + cfg.progressStallSeconds * 1000000 ≤ now.toMicros
    · exact Or.inl hage
    · exact Or.inr ⟨hle, by omega, hfloat⟩
  · rintro (hage | ⟨hle, -, hfloat⟩)
    · exact ⟨by omega, le_floatSeconds (by omega)⟩
    · exact ⟨hle, hfloat⟩

/-- The scan compares texts with the cutoff, if there is one. -/
theorem mem_stalledRows {now p : DateTime} (ht : t ∈ s.tasks) (hactive : t.isActive = true)
    (hp : t.lastMaterialProgressAt = p.iso) :
    (∃ rows, stalledRows cfg env now s = .ok rows ∧ t ∈ rows)
      ↔ ∃ cutoff, now.addSeconds (-cfg.progressStallSeconds) = some cutoff
        ∧ p.iso ≤ cutoff.iso := by
  simp only [stalledRows, orThrow_bind_eq_ok]
  constructor
  · rintro ⟨rows, ⟨cutoff, hcutoff, hrows⟩, hmem⟩
    cases hrows
    rw [(env.stalledOrder_perm _).mem_iff, List.mem_filter, stalledAt, hp] at hmem
    exact ⟨cutoff, hcutoff, by simpa [hactive] using hmem.2⟩
  · rintro ⟨cutoff, hcutoff, hle⟩
    refine ⟨_, ⟨cutoff, hcutoff, rfl⟩, ?_⟩
    rw [(env.stalledOrder_perm _).mem_iff, List.mem_filter, stalledAt, hp]
    exact ⟨ht, by simp [hactive, hle]⟩

theorem stall_agrees_iff {now p : DateTime} (ht : t ∈ s.tasks) (hactive : t.isActive = true)
    (hp : t.lastMaterialProgressAt = p.iso) :
    ((∃ rows, stalledRows cfg env now s = .ok rows ∧ t ∈ rows)
        ↔ progressStalled cfg now t = .ok true) ↔ StallAgrees cfg now p := by
  rw [mem_stalledRows ht hactive hp, progressStalled_iff hactive hp, StallAgrees]
  obtain ⟨hback, hnone⟩ := now.addSeconds_neg cfg.progressStallSeconds
  by_cases hcal : cfg.progressStallSeconds * 1000000 ≤ now.toMicros
  · obtain ⟨cutoff, hcutoff, hmicros⟩ := hback hcal
    -- the exact age reaches the limit iff the last progress is not after the cutoff
    have hage : p.toMicros + cfg.progressStallSeconds * 1000000 ≤ now.toMicros ↔ p ≤ cutoff := by
      rw [toMicros_le_iff]
      omega
    have hexcl : RoundsUp cfg now p → ¬p ≤ cutoff := by
      rintro ⟨-, hlt, -⟩
      rw [← hage]
      omega
    simp only [hcutoff, Option.some.injEq, exists_eq_left', hage]
    rw [← iso_le_iff p cutoff]
    by_cases hround : RoundsUp cfg now p
    · have hnot := hexcl hround
      simp only [hround, hnot, not_true_eq_false, or_true, iff_true, iff_false, false_iff, not_not]
    · simp only [hround, or_false, not_false_iff, iff_true]
      exact Iff.comm
  · have hcutoff := hnone (by omega)
    have hyoung : ¬p.toMicros + cfg.progressStallSeconds * 1000000 ≤ now.toMicros := by omega
    simp [hcutoff, hyoung]

/-! ## Both -/

/-- **When the two notions of expiry agree.** In a reachable database, at any reading of the clock:
the scan of expired leases returns a leased task exactly when `_lease` rejects its holder as
expired, if and only if expiry and reading are aligned; the scan of stalled tasks returns an active
task exactly when the snapshot reports it stalled, if and only if `StallAgrees`; and the order of
texts is the order of instants exactly on aligned pairs. -/
theorem expiry_notions_agree_iff {tr : List (Call × Except PoolError Reply)}
    (h : (system H cfg).Run tr s) (env : Env) (now : DateTime) :
    (∀ t ∈ s.tasks, ∀ w token, t.leasedBy = some w → t.leaseToken = some token →
        ∃ e : DateTime, t.leaseExpiresAt = some e.iso
          ∧ ((t ∈ expiredRows env now s
              ↔ leaseRow now t.taskId w token TaskState.active s
                = .error (.conflict "lease expirado")) ↔ Aligned e now))
      ∧ (∀ t ∈ s.tasks, t.isActive = true → ∃ p : DateTime, t.lastMaterialProgressAt = p.iso
          ∧ (((∃ rows, stalledRows cfg env now s = .ok rows ∧ t ∈ rows)
              ↔ progressStalled cfg now t = .ok true) ↔ StallAgrees cfg now p))
      ∧ ∀ a b : DateTime, (a ≤ b ↔ a.iso ≤ b.iso) ↔ Aligned a b := by
  obtain ⟨acts, hrun, -⟩ := run_refines h
  have hinv := leaseInv_of_protocol_run hrun
  refine ⟨fun t ht w token hw htoken ↦ ?_, fun t ht hactive ↦ ?_, iso_le_iff⟩
  · have hactive := (hinv.rows t ht).active_of_leased hw
    have hsome : t.leaseExpiresAt ≠ none := by
      rcases (hinv.rows t ht).whole with ⟨hnone, -⟩ | ⟨-, -, hexp⟩
      · rw [hnone] at hw
        cases hw
      · exact hexp
    obtain ⟨text, htext⟩ := Option.ne_none_iff_exists'.mp hsome
    obtain ⟨e, rfl⟩ := (stampsOk_of_run hrun ht).expires text htext
    refine ⟨e, htext, ?_⟩
    rw [mem_expiredRows ht hactive htext,
      leaseRow_expired_iff (hinv.keyed.lookup_of_mem ht) hactive ⟨hw, htoken⟩ htext,
      ← iso_le_iff e now]
    exact Iff.comm
  · obtain ⟨p, hp⟩ := (stampsOk_of_run hrun ht).progress
    exact ⟨p, hp, stall_agrees_iff ht hactive hp⟩

/-- The calls after which the builder holds a lease that expires two minutes past noon. -/
def leasedCalls : List Call := setupCalls ++ (buildCalls "").take 1

theorem leasedCalls_held : ∀ t ∈ (sampleRun leasedCalls).2.tasks,
    t.leasedBy = some "b" ∧ t.leaseToken = some "token-1" := by
  decide +kernel

/-- Five minutes past noon the lease is expired in both senses, or in neither. -/
theorem expiry_notions_agree_iff_leased :
    (sampleRun leasedCalls).2.tasks.map Task.leaseExpiresAt = [some "2026-01-01T12:02:00Z"]
      ∧ ∀ t ∈ (sampleRun leasedCalls).2.tasks, ∃ e : DateTime, t.leaseExpiresAt = some e.iso
        ∧ ((t ∈ expiredRows (sampleEnv "") (afterNoon 5 0) (sampleRun leasedCalls).2
            ↔ leaseRow (afterNoon 5 0) t.taskId "b" "token-1" TaskState.active
                (sampleRun leasedCalls).2 = .error (.conflict "lease expirado"))
          ↔ Aligned e (afterNoon 5 0)) := by
  refine ⟨by decide +kernel, fun t ht ↦ ?_⟩
  obtain ⟨hw, htoken⟩ := leasedCalls_held t ht
  exact (expiry_notions_agree_iff (run_sampleRun leasedCalls) (sampleEnv "") (afterNoon 5 0)).1
    t ht "b" "token-1" hw htoken

/-- Half a second after a lease expired on a whole second, `_lease` rejects its holder while the
scan does not return the task. -/
theorem expiry_notions_disagree :
    ¬∀ tr s, (system sampleHost sampleConfig).Run tr s → ∀ (env : Env) (now : DateTime),
      ∀ t ∈ s.tasks, ∀ w token, t.leasedBy = some w → t.leaseToken = some token →
        (t ∈ expiredRows env now s
          ↔ leaseRow now t.taskId w token TaskState.active s
            = .error (.conflict "lease expirado")) := by
  intro hall
  have hkeep : expiredRows (sampleEnv "") (afterNoon 2 500000) (sampleRun leasedCalls).2 = [] := by
    decide +kernel
  have hreject : ∃ t ∈ (sampleRun leasedCalls).2.tasks,
      leaseRow (afterNoon 2 500000) t.taskId "b" "token-1" TaskState.active
        (sampleRun leasedCalls).2 = .error (.conflict "lease expirado") := by
    decide +kernel
  obtain ⟨t, ht, herror⟩ := hreject
  obtain ⟨hw, htoken⟩ := leasedCalls_held t ht
  have hmem := (hall _ _ (run_sampleRun leasedCalls) (sampleEnv "") (afterNoon 2 500000) t ht "b"
    "token-1" hw htoken).mpr herror
  rw [hkeep] at hmem
  exact List.not_mem_nil hmem

end WorkerPool

end ReqSys
