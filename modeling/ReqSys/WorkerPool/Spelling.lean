import Mathlib
import ReqSys.WorkerPool.Frame
import ReqSys.WorkerPool.LaneLimit

/-!
# The worker pool: the spellings of a repository

The identity of a task, and the comparison of a repeated `enqueue_task`, fold the case of the
repository. The tables hold the text as it was given, and lanes, affinities and the count of active
tasks compare texts. So two spellings of one repository have two lanes.

As long as every call spells a repository like the calls before it, there is one lane for it:
its limit and its switch are those configured last, and an affinity with the repository is one with
its tasks.
-/

namespace ReqSys

namespace WorkerPool

open PyText

variable {H : Host} {cfg : Config} {env : Env} {s s' : Store} {r : Except PoolError Reply}

/-! ## Spellings -/

/-- The repository as `identity` takes it: without surrounding blanks and in lower case. -/
def folded (H : Host) (repository : String) : String := H.unicode.lower (strip repository)

/-- **The condition.** A call spells a repository like the lane that is there for it, and like
itself. -/
def Spelled (H : Host) (s : Store) (l : Call × Except PoolError Reply) : Prop :=
  (∀ r ∈ l.1.op.repositories, ∀ lane ∈ s.lanes, folded H lane.repository = folded H r →
      lane.repository = strip r) ∧
    ∀ r ∈ l.1.op.repositories, ∀ r' ∈ l.1.op.repositories,
      folded H r = folded H r' → strip r = strip r'

/-- The arguments of a call that has configured a repository. -/
def configuration (l : Call × Except PoolError Reply) : Option ConfigureArgs :=
  match l.1.op, l.2 with
  | .configureRepository a, .ok _ => some a
  | _, _ => none

/-- The last configuration of a repository, under any spelling. -/
def lastConfiguration (H : Host) (repository : String)
    (tr : List (Call × Except PoolError Reply)) : Option ConfigureArgs :=
  ((tr.filterMap configuration).filter fun a ↦ folded H a.repository = folded H repository).getLast?

/-- The `max_in_flight` last configured; a lane has one to begin with. -/
def limitOf (H : Host) (repository : String) (tr : List (Call × Except PoolError Reply)) : ℤ :=
  ((lastConfiguration H repository tr).map ConfigureArgs.maxInFlight).getD 1

/-- Whether the repository was enabled last; a lane is to begin with. -/
def enabledOf (H : Host) (repository : String) (tr : List (Call × Except PoolError Reply)) : Bool :=
  ((lastConfiguration H repository tr).map ConfigureArgs.enabled).getD true

theorem lastConfiguration_concat (repository : String)
    (tr : List (Call × Except PoolError Reply)) (l : Call × Except PoolError Reply) :
    lastConfiguration H repository (tr ++ [l])
      = ((configuration l).filter fun a ↦ folded H a.repository = folded H repository).or
          (lastConfiguration H repository tr) := by
  rw [lastConfiguration, List.filterMap_append, List.filter_append]
  cases hl : configuration l with
  | none => simp [hl, lastConfiguration]
  | some a =>
    by_cases ha : folded H a.repository = folded H repository
    · simp [hl, ha, Option.filter]
    · simp [hl, ha, lastConfiguration, Option.filter]

theorem lastConfiguration_congr {repository repository' : String}
    (h : folded H repository = folded H repository') (tr : List (Call × Except PoolError Reply)) :
    lastConfiguration H repository tr = lastConfiguration H repository' tr := by
  rw [lastConfiguration, lastConfiguration, h]

/-! ## The lanes as settings -/

/-- A lane that is there, or a new one that is enabled and has the limit one. -/
def ensured (repository : String) (lanes : List (String × Bool × ℤ)) :
    List (String × Bool × ℤ) :=
  if repository ∈ lanes.map Prod.fst then lanes else lanes ++ [(repository, true, 1)]

/-- The lane of a repository with these settings. -/
def configured (new : String × Bool × ℤ) (lanes : List (String × Bool × ℤ)) :
    List (String × Bool × ℤ) :=
  if new.1 ∈ lanes.map Prod.fst then lanes.map fun x ↦ if x.1 = new.1 then new else x
  else lanes ++ [new]

theorem map_fst_setting (lanes : List Lane) :
    (lanes.map Lane.setting).map Prod.fst = lanes.map Lane.repository := by
  rw [List.map_map]
  rfl

theorem isSome_lane_iff {repository : String} {lanes : List Lane} :
    (Table.lookup Lane.repository repository lanes).isSome = true
      ↔ repository ∈ (lanes.map Lane.setting).map Prod.fst := by
  rw [map_fst_setting, List.mem_map]
  constructor
  · intro h
    obtain ⟨r, hr⟩ := Option.isSome_iff_exists.mp h
    exact ⟨r, Table.mem_of_lookup hr, Table.key_of_lookup hr⟩
  · rintro ⟨r, hr, hid⟩
    obtain ⟨r', hr'⟩ := Table.exists_lookup hr hid
    exact Option.isSome_iff_exists.mpr ⟨r', hr'⟩

theorem settings_ensureRepositoryLane (now : DateTime) (repository : String) (s : Store) :
    (ensureRepositoryLane now repository s).settings
      = (ensured repository s.settings.1, s.affinities) := by
  rw [ensureRepositoryLane, Store.settings, Table.insertOrIgnore, ensured, Store.settings]
  change (List.map Lane.setting (if (Table.lookup Lane.repository repository s.lanes).isSome = true
    then _ else _), _) = _
  by_cases h : (Table.lookup Lane.repository repository s.lanes).isSome = true
  · rw [if_pos h, if_pos (isSome_lane_iff.mp h)]
  · rw [if_neg h, if_neg (isSome_lane_iff.not.mp h), List.map_append]
    rfl

theorem setting_upsert (repository stamp : String) (enabled : Bool) (maxInFlight : ℤ)
    (lanes : List Lane) :
    (Table.upsert Lane.repository (newLane repository enabled maxInFlight stamp)
        (fun old ↦ { old with enabled, maxInFlight, updatedAt := stamp }) lanes).map Lane.setting
      = configured (repository, enabled, maxInFlight) (lanes.map Lane.setting) := by
  set f : Lane → Lane := fun old ↦ { old with enabled, maxInFlight, updatedAt := stamp }
  have hupsert : Table.upsert Lane.repository (newLane repository enabled maxInFlight stamp) f lanes
      = if (Table.lookup Lane.repository repository lanes).isSome = true then
          Table.update Lane.repository repository f lanes
        else lanes ++ [newLane repository enabled maxInFlight stamp] := rfl
  rw [hupsert, configured]
  by_cases h : (Table.lookup Lane.repository repository lanes).isSome = true
  · rw [if_pos h, if_pos (isSome_lane_iff.mp h), Table.update, List.map_map, List.map_map]
    refine List.map_congr_left fun lane _ ↦ ?_
    by_cases hid : lane.repository = repository
    · simp [hid, Lane.setting, f]
    · simp [hid, Lane.setting]
  · rw [if_neg h, if_neg (isSome_lane_iff.not.mp h), List.map_append]
    rfl

/-! ## The invariant -/

/-- The lanes of the repositories: one for all spellings, with what was configured last. -/
structure OneLane (H : Host) (last : String → Option ConfigureArgs)
    (lanes : List (String × Bool × ℤ)) : Prop where
  stripped : ∀ x ∈ lanes, strip x.1 = x.1
  one : ∀ x ∈ lanes, ∀ y ∈ lanes, folded H x.1 = folded H y.1 → x.1 = y.1
  /-- Every repository that was configured has a lane. -/
  served : ∀ repository a, last repository = some a →
    ∃ x ∈ lanes, folded H x.1 = folded H repository
  setting : ∀ x ∈ lanes, x.2.1 = ((last x.1).map ConfigureArgs.enabled).getD true ∧
    x.2.2 = ((last x.1).map ConfigureArgs.maxInFlight).getD 1

/-- The repository is spelled like its lane. -/
def Alike (H : Host) (lanes : List (String × Bool × ℤ)) (repository : String) : Prop :=
  ∀ x ∈ lanes, folded H x.1 = folded H repository → x.1 = strip repository

section OneLane

variable {last : String → Option ConfigureArgs} {lanes : List (String × Bool × ℤ)}
  {repository : String}

theorem folded_strip (H : Host) (repository : String) :
    folded H (strip repository) = folded H repository := by
  rw [folded, strip_strip, folded]

theorem mem_ensured {x : String × Bool × ℤ} (h : x ∈ ensured repository lanes) :
    x ∈ lanes ∨ repository ∉ lanes.map Prod.fst ∧ x = (repository, true, 1) := by
  rw [ensured] at h
  split at h
  · exact .inl h
  next hnew =>
    exact (List.mem_append.mp h).imp_right fun hx ↦ ⟨hnew, List.mem_singleton.mp hx⟩

theorem subset_ensured (repository : String) (lanes : List (String × Bool × ℤ)) :
    lanes ⊆ ensured repository lanes := by
  rw [ensured]
  split
  · exact List.Subset.refl _
  · exact List.subset_append_left _ _

theorem exists_ensured (repository : String) (lanes : List (String × Bool × ℤ)) :
    ∃ x ∈ ensured repository lanes, x.1 = repository := by
  rw [ensured]
  split
  next h => exact (List.mem_map.mp h)
  next => exact ⟨_, List.mem_append_right _ (List.mem_singleton_self _), rfl⟩

/-- A lane whose repository is spelled like the lanes stays the only one. -/
theorem OneLane.one_of {x y : String × Bool × ℤ} (h : OneLane H last lanes)
    (halike : Alike H lanes repository) (hx : x ∈ lanes ∨ x.1 = strip repository)
    (hy : y ∈ lanes ∨ y.1 = strip repository) (heq : folded H x.1 = folded H y.1) : x.1 = y.1 := by
  obtain hx | hx := hx
  · obtain hy | hy := hy
    · exact h.one x hx y hy heq
    · rw [hy]
      exact halike x hx (heq.trans (hy ▸ folded_strip H repository))
  · obtain hy | hy := hy
    · rw [hx]
      exact (halike y hy (heq.symm.trans (hx ▸ folded_strip H repository))).symm
    · rw [hx, hy]

theorem OneLane.after_ensured (h : OneLane H last lanes) (halike : Alike H lanes repository) :
    OneLane H last (ensured (strip repository) lanes) := by
  have hname : ∀ x ∈ ensured (strip repository) lanes, x ∈ lanes ∨ x.1 = strip repository :=
    fun x hx ↦ (mem_ensured hx).imp_right fun hnew ↦ congrArg Prod.fst hnew.2
  refine ⟨fun x hx ↦ ?_, fun x hx y hy heq ↦ h.one_of halike (hname x hx) (hname y hy) heq,
    fun r a ha ↦ ?_, fun x hx ↦ ?_⟩
  · obtain hold | hnew := hname x hx
    · exact h.stripped x hold
    · rw [hnew, strip_strip]
  · obtain ⟨x, hx, heq⟩ := h.served r a ha
    exact ⟨x, subset_ensured _ _ hx, heq⟩
  · obtain hold | ⟨hnew, rfl⟩ := mem_ensured hx
    · exact h.setting x hold
    · -- a new lane: nothing was configured for the repository
      have hnone : last (strip repository) = none := by
        rw [← Option.not_isSome_iff_eq_none, Option.isSome_iff_exists]
        rintro ⟨a, ha⟩
        obtain ⟨x, hx, heq⟩ := h.served _ a ha
        refine hnew (List.mem_map.mpr ⟨x, hx, halike x hx (heq.trans ?_)⟩)
        exact folded_strip H repository
      rw [hnone]
      exact ⟨rfl, rfl⟩

theorem mem_configured {new x : String × Bool × ℤ} (h : x ∈ configured new lanes) :
    (x ∈ lanes ∧ x.1 ≠ new.1) ∨ x = new := by
  rw [configured] at h
  split at h
  · obtain ⟨y, hy, rfl⟩ := List.mem_map.mp h
    by_cases hid : y.1 = new.1
    · rw [if_pos hid]
      exact .inr rfl
    · rw [if_neg hid]
      exact .inl ⟨hy, hid⟩
  next hnew =>
    obtain hold | hx := List.mem_append.mp h
    · exact .inl ⟨hold, fun hid ↦ hnew (List.mem_map.mpr ⟨x, hold, hid⟩)⟩
    · exact .inr (List.mem_singleton.mp hx)

theorem map_fst_configured (new : String × Bool × ℤ) (lanes : List (String × Bool × ℤ)) :
    lanes.map Prod.fst ⊆ (configured new lanes).map Prod.fst ∧
      new.1 ∈ (configured new lanes).map Prod.fst := by
  rw [configured]
  split
  next h =>
    have heq : (lanes.map fun x ↦ if x.1 = new.1 then new else x).map Prod.fst
        = lanes.map Prod.fst := by
      rw [List.map_map]
      refine List.map_congr_left fun x _ ↦ ?_
      by_cases hid : x.1 = new.1
      · simp [hid]
      · simp [hid]
    rw [heq]
    exact ⟨List.Subset.refl _, h⟩
  next =>
    rw [List.map_append]
    exact ⟨List.subset_append_left _ _, List.mem_append_right _ (List.mem_singleton_self _)⟩

/-- A configuration counts for all spellings. -/
theorem OneLane.after_configured {a : ConfigureArgs} {last' : String → Option ConfigureArgs}
    (h : OneLane H last lanes) (halike : Alike H lanes a.repository)
    (hsame : ∀ r, folded H a.repository = folded H r → last' r = some a)
    (hother : ∀ r, folded H a.repository ≠ folded H r → last' r = last r) :
    OneLane H last' (configured (strip a.repository, a.enabled, a.maxInFlight) lanes) := by
  have hname : ∀ x ∈ configured (strip a.repository, a.enabled, a.maxInFlight) lanes,
      x ∈ lanes ∨ x.1 = strip a.repository :=
    fun x hx ↦ (mem_configured hx).imp And.left fun hnew ↦ congrArg Prod.fst hnew
  obtain ⟨hsub, hmem⟩ := map_fst_configured (strip a.repository, a.enabled, a.maxInFlight) lanes
  refine ⟨fun x hx ↦ ?_, fun x hx y hy heq ↦ h.one_of halike (hname x hx) (hname y hy) heq,
    fun r b hb ↦ ?_, fun x hx ↦ ?_⟩
  · obtain hold | hnew := hname x hx
    · exact h.stripped x hold
    · rw [hnew, strip_strip]
  · by_cases hr : folded H a.repository = folded H r
    · obtain ⟨x, hx, hid⟩ := List.mem_map.mp hmem
      refine ⟨x, hx, ?_⟩
      rw [hid, folded_strip, hr]
    · rw [hother r hr] at hb
      obtain ⟨x, hx, heq⟩ := h.served r b hb
      obtain ⟨y, hy, hid⟩ := List.mem_map.mp (hsub (List.mem_map_of_mem hx))
      exact ⟨y, hy, hid ▸ heq⟩
  · obtain ⟨hold, hne⟩ | rfl := mem_configured hx
    · have hother' : last' x.1 = last x.1 := hother _ fun heq ↦ hne (halike x hold heq.symm)
      rw [hother']
      exact h.setting x hold
    · rw [hsame _ (folded_strip H a.repository).symm]
      exact ⟨rfl, rfl⟩

end OneLane

/-! ## Calls -/

/-- What holds after a run. -/
structure Uniform (H : Host) (tr : List (Call × Except PoolError Reply)) (s : Store) : Prop where
  lanes : OneLane H (lastConfiguration H · tr) s.settings.1
  affinities : ∀ f ∈ s.affinities, f.repository ∈ s.settings.1.map Prod.fst

variable {tr : List (Call × Except PoolError Reply)} {c : Call}

/-- A call that configures nothing counts for no repository. -/
theorem lastConfiguration_of_none {l : Call × Except PoolError Reply} (h : configuration l = none)
    (repository : String) :
    lastConfiguration H repository (tr ++ [l]) = lastConfiguration H repository tr := by
  rw [lastConfiguration_concat, h]
  rfl

theorem Uniform.of_settings {l : Call × Except PoolError Reply} (h : Uniform H tr s)
    (hsettings : s'.settings = s.settings) (hl : configuration l = none) :
    Uniform H (tr ++ [l]) s' := by
  have hlast : (lastConfiguration H · (tr ++ [l])) = (lastConfiguration H · tr) :=
    funext (lastConfiguration_of_none hl)
  refine ⟨?_, ?_⟩
  · rw [hlast, hsettings]
    exact h.lanes
  · have haffinities : s'.affinities = s.affinities := congrArg Prod.snd hsettings
    rw [haffinities, hsettings]
    exact h.affinities

theorem alike_of_lanes {repository : String}
    (h : ∀ lane ∈ s.lanes, folded H lane.repository = folded H repository →
      lane.repository = strip repository) : Alike H s.settings.1 repository := by
  intro x hx heq
  obtain ⟨lane, hlane, rfl⟩ := List.mem_map.mp hx
  exact h lane hlane heq

/-- The loop over the repositories of a worker. -/
theorem insertAffinities_uniform {last : String → Option ConfigureArgs} {workerId : String}
    {repositories : List String} {k : ℕ} (h : OneLane H last s.settings.1)
    (haffinities : ∀ f ∈ s.affinities, f.repository ∈ s.settings.1.map Prod.fst)
    (hstrip : ∀ r ∈ repositories, strip r = r)
    (halike : ∀ r ∈ repositories, Alike H s.settings.1 r)
    (hone : ∀ r ∈ repositories, ∀ r' ∈ repositories, folded H r = folded H r' → r = r') :
    OneLane H last (insertAffinities env workerId k repositories s).settings.1 ∧
      ∀ f ∈ (insertAffinities env workerId k repositories s).affinities,
        f.repository ∈
          (insertAffinities env workerId k repositories s).settings.1.map Prod.fst := by
  induction repositories generalizing k s with
  | nil => exact ⟨h, haffinities⟩
  | cons r rest ih =>
    obtain ⟨hr, hrest⟩ := List.forall_mem_cons.mp hstrip
    have hsettings := settings_ensureRepositoryLane (env.clock k) r s
    have hlanes : (ensureRepositoryLane (env.clock k) r s).settings.1
        = ensured r s.settings.1 := congrArg Prod.fst hsettings
    rw [insertAffinities]
    refine ih ?_ (fun f hf ↦ ?_) hrest (fun r' hr' x hx heq ↦ ?_) fun r' hr' r'' hr'' ↦
      hone r' (List.mem_cons_of_mem _ hr') r'' (List.mem_cons_of_mem _ hr'')
    · change OneLane H last (ensureRepositoryLane (env.clock k) r s).settings.1
      rw [hlanes]
      have hens := h.after_ensured (halike r List.mem_cons_self)
      rwa [hr] at hens
    · change f.repository ∈ (ensureRepositoryLane (env.clock k) r s).settings.1.map Prod.fst
      rw [hlanes]
      obtain hold | hnew := List.mem_append.mp hf
      · exact List.map_subset _ (subset_ensured _ _) (haffinities f hold)
      · obtain ⟨x, hx, hid⟩ := exists_ensured r s.settings.1
        rw [List.mem_singleton.mp hnew]
        exact List.mem_map.mpr ⟨x, hx, hid⟩
    · change x ∈ (ensureRepositoryLane (env.clock k) r s).settings.1 at hx
      rw [hlanes] at hx
      obtain hold | ⟨-, rfl⟩ := mem_ensured hx
      · exact halike r' (List.mem_cons_of_mem _ hr') x hold heq
      · rw [hrest r' hr']
        exact hone r List.mem_cons_self r' (List.mem_cons_of_mem _ hr') heq

theorem configureRepository_settings {a : ConfigureArgs}
    (h : configureRepository env a s = (s', r)) :
    (∃ lane, r = .ok (.repository lane) ∧
        s'.settings = (configured (strip a.repository, a.enabled, a.maxInFlight) s.settings.1,
          s.affinities)) ∨
      s' = s ∧ ∃ e, r = .error e := by
  rcases transaction_cases h with ⟨repository, hbody, hr⟩ | ⟨rfl, e, -, rfl⟩
  · left
    rw [bind_eq_ok] at hbody
    obtain ⟨normalized, hvalid, hbody⟩ := hbody
    rw [require_bind_eq_ok] at hbody
    obtain ⟨-, hbody⟩ := hbody
    cases hbody
    have hstrip := (validateRepository_ok hvalid).1
    have hsettings := setting_upsert repository (env.clock 0).iso a.enabled a.maxInFlight s.lanes
    -- the lane that was just written is found again
    obtain ⟨lane, hget⟩ := getRepository_upsert (s := s) hvalid
      (newLane repository a.enabled a.maxInFlight (env.clock 0).iso) rfl
      (fun old ↦ { old with enabled := a.enabled, maxInFlight := a.maxInFlight,
                            updatedAt := (env.clock 0).iso }) fun _ ↦ rfl
    refine ⟨lane, ?_, ?_⟩
    · rw [hr, hget]
      rfl
    · rw [← hstrip]
      exact congrArg (·, s.affinities) hsettings
  · exact .inr ⟨rfl, e, rfl⟩

theorem enqueueTask_settings {a : EnqueueArgs} (h : enqueueTask H cfg env a s = (s', r)) :
    s'.settings = s.settings ∨
      s'.settings = (ensured (strip a.repository) s.settings.1, s.affinities) := by
  rcases transaction_cases h with ⟨_, hbody, -⟩ | ⟨rfl, -⟩
  · right
    simp only [require_bind_eq_ok] at hbody
    obtain ⟨-, -, hbody⟩ := hbody
    rw [bind_eq_ok] at hbody
    obtain ⟨taskBranch, -, hbody⟩ := hbody
    rw [require_bind_eq_ok] at hbody
    obtain ⟨-, hbody⟩ := hbody
    rw [← settings_ensureRepositoryLane (env.clock 1), ]
    rw [enqueueWrite] at hbody
    split at hbody
    · rw [require_bind_eq_ok] at hbody
      obtain ⟨-, hbody⟩ := hbody
      cases hbody
      rfl
    · simp only [bindInteger, require_bind_eq_ok] at hbody
      obtain ⟨-, -, -, hbody⟩ := hbody
      rw [bind_eq_ok] at hbody
      obtain ⟨s₁, hinsert, hbody⟩ := hbody
      cases hbody
      simp only [insertTask, require_bind_eq_ok] at hinsert
      obtain ⟨-, -, hinsert⟩ := hinsert
      cases hinsert
      rfl
  · exact .inl rfl

/-- **A call** that spells its repositories alike keeps one lane for each. -/
theorem exec_uniform (h : Uniform H tr s) (hstep : exec H cfg c s = (s', r))
    (hspelled : Spelled H s (c, r)) : Uniform H (tr ++ [(c, r)]) s' := by
  obtain ⟨halike, hself⟩ := hspelled
  obtain ⟨op, env⟩ := c
  cases op with
  | configureRepository a =>
    obtain ⟨lane, rfl, hsettings⟩ | ⟨rfl, e, rfl⟩ := configureRepository_settings hstep
    · have halike' := alike_of_lanes (halike a.repository (List.mem_singleton_self _))
      obtain ⟨hsub, -⟩ := map_fst_configured (strip a.repository, a.enabled, a.maxInFlight)
        s.settings.1
      have haffinities : s'.affinities = s.affinities := congrArg Prod.snd hsettings
      refine ⟨?_, ?_⟩
      · rw [hsettings]
        refine h.lanes.after_configured halike' (fun r hr ↦ ?_) fun r hr ↦ ?_
        · rw [lastConfiguration_concat]
          simp [configuration, Option.filter, hr]
        · rw [lastConfiguration_concat]
          simp [configuration, Option.filter, hr]
      · rw [haffinities, hsettings]
        exact fun f hf ↦ hsub (h.affinities f hf)
    · exact h.of_settings rfl rfl
  | enqueueTask a =>
    obtain hsettings | hsettings := enqueueTask_settings hstep
    · exact h.of_settings hsettings rfl
    · have halike' := alike_of_lanes (halike a.repository (List.mem_singleton_self _))
      have hlast : (lastConfiguration H · (tr ++ [(⟨.enqueueTask a, env⟩, r)]))
          = (lastConfiguration H · tr) := funext (lastConfiguration_of_none rfl)
      have haffinities : s'.affinities = s.affinities := congrArg Prod.snd hsettings
      refine ⟨?_, ?_⟩
      · rw [hsettings, hlast]
        exact h.lanes.after_ensured halike'
      · rw [haffinities, hsettings]
        exact fun f hf ↦ List.map_subset _ (subset_ensured _ _) (h.affinities f hf)
  | replaceWorkerAffinities w rs =>
    rcases transaction_cases hstep with ⟨_, hbody, -⟩ | ⟨rfl, -⟩
    · rw [bind_eq_ok] at hbody
      obtain ⟨_, -, hbody⟩ := hbody
      rw [bind_eq_ok] at hbody
      obtain ⟨checked, hchecked, hbody⟩ := hbody
      cases hbody
      have hmem : ∀ x ∈ checked.dedup.insertionSort (· ≤ ·), ∃ r ∈ rs, x = strip r := by
        intro x hx
        rw [List.mem_insertionSort, List.mem_dedup] at hx
        obtain ⟨r', hr', hvalid⟩ := exists_of_mapM hchecked x hx
        exact ⟨r', hr', (validateRepository_ok hvalid).1⟩
      have hlast : (lastConfiguration H · (tr ++ [(⟨.replaceWorkerAffinities w rs, env⟩, r)]))
          = (lastConfiguration H · tr) := funext (lastConfiguration_of_none rfl)
      set cleared : Store :=
        { s with affinities := s.affinities.filter fun a ↦ a.workerId ≠ w } with hcleared
      have hstrip : ∀ x ∈ checked.dedup.insertionSort (· ≤ ·), strip x = x := by
        intro x hx
        obtain ⟨r', -, rfl⟩ := hmem x hx
        exact strip_strip r'
      have halike' : ∀ x ∈ checked.dedup.insertionSort (· ≤ ·), Alike H s.settings.1 x := by
        intro x hx y hy heq
        obtain ⟨r', hr', rfl⟩ := hmem x hx
        rw [strip_strip]
        exact alike_of_lanes (halike r' hr') y hy (heq.trans (folded_strip H r'))
      have hone : ∀ x ∈ checked.dedup.insertionSort (· ≤ ·),
          ∀ y ∈ checked.dedup.insertionSort (· ≤ ·), folded H x = folded H y → x = y := by
        intro x hx y hy heq
        obtain ⟨r', hr', rfl⟩ := hmem x hx
        obtain ⟨r'', hr'', rfl⟩ := hmem y hy
        rw [folded_strip, folded_strip] at heq
        exact hself r' hr' r'' hr'' heq
      obtain ⟨hlanes, haffinities⟩ := @insertAffinities_uniform _ env
        cleared _ w _ 0 h.lanes (fun f hf ↦ h.affinities f (List.mem_of_mem_filter hf)) hstrip
        halike' hone
      exact ⟨hlast ▸ hlanes, haffinities⟩
    · exact h.of_settings rfl rfl
  | _ => exact h.of_settings ((exec_framed hstep (fun _ _ ↦ Op.noConfusion) rfl).settings) rfl

/-! ## The result -/

/-- The active tasks of a repository, under all its spellings. -/
def activeOf (H : Host) (repository : String) (tasks : List Task) : ℕ :=
  tasks.countP fun t ↦ folded H t.repository = folded H repository ∧ t.isActive

/-- The condition on a call: its repositories are spelled as before, it does not lower a limit, and
a task that resumes validation finds room. -/
def Orderly (H : Host) (s : Store) (l : Call × Except PoolError Reply) : Prop :=
  Spelled H s l ∧ Admissible s l

theorem uniform_of_run (h : ((system H cfg).restrict (Orderly H)).Run tr s) : Uniform H tr s := by
  refine h.traceInvariant (I := fun tr s ↦ Uniform H tr s) (fun hinit ↦ ?_) fun _ hI hstep ↦ ?_
  · rw [hinit]
    exact ⟨⟨List.forall_mem_nil _, List.forall_mem_nil _, fun _ _ ha ↦ (by cases ha),
      List.forall_mem_nil _⟩, List.forall_mem_nil _⟩
  · exact exec_uniform hI hstep.2 hstep.1.1

/-- The tasks of a repository are those of one lane. -/
theorem Uniform.activeOf_le (h : Uniform H tr s)
    (hserved : ∀ t ∈ s.tasks, ∃ r, Table.lookup Lane.repository t.repository s.lanes = some r)
    (hbounded : ∀ r ∈ s.lanes, (activeCount r.repository s.tasks : ℤ) ≤ r.maxInFlight)
    (repository : String) : (activeOf H repository s.tasks : ℤ) ≤ limitOf H repository tr := by
  by_cases hlane : ∃ lane ∈ s.lanes, folded H lane.repository = folded H repository
  · obtain ⟨lane, hmem, hfold⟩ := hlane
    have hx : lane.setting ∈ s.settings.1 := List.mem_map_of_mem hmem
    have hlimit : lane.maxInFlight = limitOf H repository tr := by
      rw [limitOf, ← lastConfiguration_congr hfold]
      exact (h.lanes.setting _ hx).2
    have hcount : activeOf H repository s.tasks = activeCount lane.repository s.tasks := by
      refine List.countP_congr fun t ht ↦ ?_
      obtain ⟨r, hr⟩ := hserved t ht
      have hrepository : folded H t.repository = folded H repository ↔
          t.repository = lane.repository := by
        constructor
        · intro heq
          rw [← Table.key_of_lookup hr] at heq ⊢
          exact h.lanes.one r.setting (List.mem_map_of_mem (Table.mem_of_lookup hr)) lane.setting hx
            (heq.trans hfold.symm)
        · intro heq
          rw [heq, hfold]
      rw [decide_eq_true_iff, decide_eq_true_iff, hrepository]
    rw [hcount, ← hlimit]
    exact hbounded lane hmem
  · -- without a lane there is no task, and nothing was configured
    have hnone : lastConfiguration H repository tr = none := by
      rw [← Option.not_isSome_iff_eq_none, Option.isSome_iff_exists]
      rintro ⟨a, ha⟩
      obtain ⟨x, hx, heq⟩ := h.lanes.served repository a ha
      obtain ⟨lane, hmem, rfl⟩ := List.mem_map.mp hx
      exact hlane ⟨lane, hmem, heq⟩
    have hzero : activeOf H repository s.tasks = 0 := by
      refine List.countP_eq_zero.mpr fun t ht hactive ↦ hlane ?_
      rw [decide_eq_true_iff] at hactive
      obtain ⟨r, hr⟩ := hserved t ht
      refine ⟨r, Table.mem_of_lookup hr, ?_⟩
      rw [Table.key_of_lookup hr, hactive.1]
    rw [hzero, limitOf, hnone]
    exact zero_le_one

/-- An affinity with a repository is one with all its tasks. -/
theorem Uniform.affinityAllows (h : Uniform H tr s)
    (hserved : ∀ t ∈ s.tasks, ∃ r, Table.lookup Lane.repository t.repository s.lanes = some r)
    {f : Affinity} (hf : f ∈ s.affinities) {t : Task} (ht : t ∈ s.tasks)
    (heq : folded H f.repository = folded H t.repository) :
    affinityAllows f.workerId t.repository s = true := by
  obtain ⟨r, hr⟩ := hserved t ht
  obtain ⟨x, hx, hid⟩ := List.mem_map.mp (h.affinities f hf)
  have hsame : f.repository = t.repository := by
    rw [← hid, ← Table.key_of_lookup hr]
    refine h.lanes.one x hx r.setting (List.mem_map_of_mem (Table.mem_of_lookup hr)) ?_
    rw [hid, heq]
    exact congrArg (folded H) (Table.key_of_lookup hr).symm
  rw [WorkerPool.affinityAllows, ← hsame]
  refine Bool.or_eq_true _ _ ▸ .inr (decide_eq_true ?_)
  exact List.mem_map.mpr ⟨f, List.mem_filter.mpr ⟨hf, decide_eq_true rfl⟩, rfl⟩

/-- The query of a builder returns a task of a lane that is enabled. -/
theorem selectTask_enabled {workerId : String} {row : Task}
    (h : selectTask .builder workerId s = some row) :
    ∃ lane ∈ s.lanes, lane.repository = row.repository ∧ lane.enabled = true := by
  obtain ⟨c, hc, rfl⟩ := Option.map_eq_some_iff.mp h
  obtain ⟨hjoin, helig⟩ := List.mem_filter.mp (Table.mem_of_least hc)
  obtain ⟨-, hlane⟩ := mem_tasksWithLane hjoin
  rw [builderEligible, decide_eq_true_iff] at helig
  exact ⟨c.2, Table.mem_of_lookup hlane, Table.key_of_lookup hlane, helig.2.1⟩

/-- The row that a claim returns is the one that it has selected. -/
theorem grantLease_repository {a : ClaimArgs} {role : Role} {row t : Task}
    {expires stamp : DateTime} (hk : Table.Keyed Task.taskId s.tasks)
    (hidle : holdsActiveTask a.workerId s = false)
    (hselect : selectTask role a.workerId s = some row)
    (h : grantLease env a role row expires.iso stamp.iso s = .ok s')
    (ht : getTask row.taskId s' = .ok t) : t.repository = row.repository := by
  obtain ⟨hstep, -⟩ := grantLease_step (H := ⟨Unicode.ascii, id⟩) hk hidle hselect h
  have hlook : Table.lookup Task.taskId row.taskId s'.tasks = some t := orThrow_eq_ok.mp ht
  have hid : t.taskId = row.taskId := Table.key_of_lookup hlook
  obtain ⟨-, hne⟩ | ⟨henqueue, -⟩ | ⟨t₀, ht₀, hid₀, hchange⟩ :=
    Effect.mem_cases hstep (Table.mem_of_lookup hlook)
  · exact absurd (congrArg some hid.symm) hne
  · cases henqueue
  · obtain rfl := hk.eq_of_key_eq ht₀ (selectTask_spec hselect).1 (Option.some.inj hid₀).symm
    exact hchange.identity_eq.2

/-- What a builder is given comes from a lane that is enabled. -/
theorem claimTask_enabled {a : ClaimArgs} {t : Task} {lease : Lease}
    (hk : Table.Keyed Task.taskId s.tasks)
    (h : claimTask H cfg env a s = (s', .ok (.claimed (some (t, lease)))))
    (hrole : Role.ofText (H.unicode.lower a.role) = some .builder) :
    ∃ x ∈ s.settings.1, x.1 = t.repository ∧ x.2.1 = true := by
  have hkeyed : ∀ {s₁ s₂ acts}, (protocol H).Path s₁ acts s₂ →
      Table.Keyed Task.taskId s₁.tasks → Table.Keyed Task.taskId s₂.tasks := fun hpath hk₁ ↦
    hpath.preserves (P := fun s ↦ Table.Keyed Task.taskId s.tasks)
      (fun hk₂ hstep ↦ Effect.keyed hstep hk₂) hk₁
  rcases transaction_cases h with ⟨grant, hbody, hr⟩ | ⟨-, e, -, he⟩
  · rw [hrole] at hbody
    obtain ⟨-, hbody⟩ := require_bind_eq_ok.mp hbody
    rw [bind_eq_ok] at hbody
    obtain ⟨⟨s₁, n⟩, hrecover, hbody⟩ := hbody
    rw [bind_eq_ok] at hbody
    obtain ⟨⟨s₂, m⟩, hstalled, hbody⟩ := hbody
    rw [bind_eq_ok] at hbody
    obtain ⟨w, hready, hbody⟩ := hbody
    obtain ⟨_, hpath₁, -⟩ := recover_path hk hrecover
    obtain ⟨_, hpath₂, -⟩ := recoverStalled_path (hkeyed hpath₁ hk) hstalled
    have hk₂ := hkeyed hpath₂ (hkeyed hpath₁ hk)
    rw [← (recover_framed hrecover).settings, ← (recoverStalled_framed hstalled).settings]
    cases hselect : selectTask .builder a.workerId s₂ with
    | none =>
      simp only [hselect] at hbody
      cases hbody
      cases hr
    | some row =>
      simp only [hselect, orThrow_bind_eq_ok] at hbody
      obtain ⟨expires, -, hbody⟩ := hbody
      rw [bind_eq_ok] at hbody
      obtain ⟨s₃, hgrant, hbody⟩ := hbody
      cases hbody
      obtain ⟨t', ht', hr⟩ := bind_eq_ok.mp hr.symm
      cases hr
      obtain ⟨lane, hlane, hrepository, henabled⟩ := selectTask_enabled hselect
      refine ⟨lane.setting, List.mem_map_of_mem hlane, ?_, henabled⟩
      rw [grantLease_repository hk₂ (ready_ok hready) hselect hgrant ht']
      exact hrepository
  · cases he

/-- **One lane per repository.** While every call spells a repository as before, the active tasks of
a repository under all spellings are at most as many as was last configured, an affinity with it is
one with its tasks under all spellings, and no builder is given a task of it while it is not
enabled. -/
theorem one_lane_per_repository (h : ((system H cfg).restrict (Orderly H)).Run tr s) :
    (∀ repository, (activeOf H repository s.tasks : ℤ) ≤ limitOf H repository tr) ∧
    (∀ f ∈ s.affinities, ∀ t ∈ s.tasks, folded H f.repository = folded H t.repository →
      affinityAllows f.workerId t.repository s = true) ∧
    ∀ a env s' t lease, Role.ofText (H.unicode.lower a.role) = some .builder →
      (system H cfg).step s (⟨.claimTask a, env⟩, .ok (.claimed (some (t, lease)))) s' →
      enabledOf H t.repository tr = true := by
  have huniform := uniform_of_run h
  have hadmissible : ((system H cfg).restrict Admissible).Run tr s :=
    h.restrict_mono fun _ _ hC ↦ hC.2
  obtain ⟨hserved, hbounded⟩ := lane_limit_respected hadmissible
  refine ⟨huniform.activeOf_le hserved hbounded,
    fun f hf t ht heq ↦ huniform.affinityAllows hserved hf ht heq,
    fun a env s' t lease hrole hstep ↦ ?_⟩
  have hk := (leaseInv_of_run h.of_restrict).keyed
  obtain ⟨x, hx, hid, henabled⟩ := @claimTask_enabled _ _ env _ _ _ _ _ hk hstep hrole
  rw [enabledOf, ← hid, ← (huniform.lanes.setting x hx).1]
  exact henabled

/-! ## Two small runs -/

instance (s : Store) : ∀ e : Event, Decidable (e.Admissible s)
  | .configured repository maxInFlight => inferInstanceAs (Decidable
      (∀ r ∈ Table.lookup Lane.repository repository s.lanes, r.maxInFlight ≤ maxInFlight))
  | .requeued tid => inferInstanceAs (Decidable
      (∀ t ∈ Table.lookup Task.taskId tid s.tasks, t.producedSha ≠ none →
        ∀ r ∈ Table.lookup Lane.repository t.repository s.lanes,
          (activeCount t.repository s.tasks : ℤ) < r.maxInFlight))
  | .issued _ _ | .submitted _ _ _ | .completed _ _ => .isTrue trivial

instance (s : Store) (l : Call × Except PoolError Reply) : Decidable (Admissible s l) :=
  inferInstanceAs (Decidable (∀ e ∈ events l, e.Admissible s))

instance (H : Host) (s : Store) (l : Call × Except PoolError Reply) : Decidable (Orderly H s l) :=
  inferInstanceAs (Decidable (((∀ r ∈ l.1.op.repositories, ∀ lane ∈ s.lanes,
      folded H lane.repository = folded H r → lane.repository = strip r) ∧
    ∀ r ∈ l.1.op.repositories, ∀ r' ∈ l.1.op.repositories,
      folded H r = folded H r' → strip r = strip r') ∧ Admissible s l))

/-- The digests of a pool in which the second task is enqueued under another spelling. -/
def spelledHost : Host where
  unicode := Unicode.ascii
  sha256Hex text :=
    if text = "Org/Repo|cwp-fa93e54ca0ff007aba818e68" then
      "b8cbf8dcaee6adc14f355930d7503f3d71e4867fc5311439c16bae586d2ca588"
    else sampleHost.sha256Hex text

/-- A lane of limit one, two builders, and two tasks, the second under the given spelling. -/
def twoTaskCalls (repository : String) : List Call :=
  [sampleCall (.configureRepository { repository := "org/repo" }),
   sampleCall (.registerWorker (sampleWorker "b" "builder")),
   sampleCall (.registerWorker (sampleWorker "d" "builder")),
   sampleCall (.replaceWorkerAffinities "b" ["org/repo"]),
   sampleCall (.enqueueTask (sampleEnqueue 1 "r1")),
   sampleCall (.enqueueTask { sampleEnqueue 2 "r2" with repository }),
   sampleCall (.claimTask { workerId := "b", role := "builder", correlationId := "c" }) "token-1",
   sampleCall (.claimTask { workerId := "d", role := "builder", correlationId := "c" }) "token-2"]

/-- The trace and the final database of a list of calls. -/
def spelledRun (calls : List Call) : List (Call × Except PoolError Reply) × Store :=
  TransitionSystem.runCalls (exec spelledHost sampleConfig) calls Store.empty

/-- With one spelling, one of the two tasks is active. -/
theorem one_lane_sample :
    activeOf spelledHost "org/repo" (spelledRun (twoTaskCalls "org/repo")).2.tasks = 1 ∧
      (activeOf spelledHost "org/repo" (spelledRun (twoTaskCalls "org/repo")).2.tasks : ℤ)
        ≤ limitOf spelledHost "org/repo" (spelledRun (twoTaskCalls "org/repo")).1 := by
  have hrun : ((system spelledHost sampleConfig).restrict (Orderly spelledHost)).Run
      (spelledRun (twoTaskCalls "org/repo")).1 (spelledRun (twoTaskCalls "org/repo")).2 :=
    TransitionSystem.run_restrict_runCalls _ (by decide +kernel)
  exact ⟨by decide +kernel, (one_lane_per_repository hrun).1 "org/repo"⟩

/-- With two spellings, a lane of limit one has two active tasks. -/
theorem two_lanes : ∃ tr s, ((system spelledHost sampleConfig).restrict Admissible).Run tr s ∧
    limitOf spelledHost "org/repo" tr < activeOf spelledHost "org/repo" s.tasks :=
  ⟨_, (spelledRun (twoTaskCalls "Org/Repo")).2,
    TransitionSystem.run_restrict_runCalls _ (by decide +kernel), by decide +kernel⟩

end WorkerPool

end ReqSys
