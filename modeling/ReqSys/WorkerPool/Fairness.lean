import Mathlib
import ReqSys.WorkerPool.Rerouting

/-!
# The worker pool: fairness of the builder's claim

The query of a builder's claim orders the eligible tasks by the number of claims their lane has had
before anything else, so the lane that is served never has more claims than another lane with an
eligible task. Only a builder's claim moves these counters. Along any run in which two lanes both
have a task for the claimant whenever a claim of a builder succeeds, their counters therefore stay
within one of each other, or within the distance they had at the start.
-/

namespace ReqSys

namespace WorkerPool

variable {H : Host} {cfg : Config} {env : Env} {s s' : Store} {r : Except PoolError Reply}

/-! ## Definitions -/

/-- `builder_claim_count` of a lane; a lane not yet created has had no claim. -/
def builderClaims (repository : String) (s : Store) : ℕ :=
  (Table.lookup Lane.repository repository s.lanes).elim 0 Lane.builderClaimCount

/-- The database on which `claim_task` runs its query. -/
def queriedStore (H : Host) (cfg : Config) (env : Env) (s : Store) : Except PoolError Store := do
  let (s, _) ← recover H env (env.clock 2) s
  let (s, _) ← recoverStalled H cfg env (env.clock 3) s
  return s

/-- The lane has a task eligible for the builder. -/
def HasEligible (repository workerId : String) (s : Store) : Prop :=
  ∃ t ∈ queried .builder workerId s, t.repository = repository

/-- The arguments of a successful claim by a builder. -/
def builderClaim (H : Host) (l : Call × Except PoolError Reply) : Option ClaimArgs :=
  match l.1.op, l.2 with
  | .claimTask a, .ok (.claimed (some _)) =>
    if Role.ofText (H.unicode.lower a.role) = some .builder then some a else none
  | _, _ => none

/-- If the call is a successful claim by a builder, both lanes have an eligible task for it. -/
def BothEligible (H : Host) (cfg : Config) (repository repository' : String) (s : Store)
    (l : Call × Except PoolError Reply) : Prop :=
  ∀ a ∈ builderClaim H l, ∀ u ∈ (queriedStore H cfg l.1.env s).toOption,
    HasEligible repository a.workerId u ∧ HasEligible repository' a.workerId u

instance (repository workerId : String) (s : Store) :
    Decidable (HasEligible repository workerId s) :=
  inferInstanceAs (Decidable (∃ t ∈ queried .builder workerId s, t.repository = repository))

instance (H : Host) (cfg : Config) (repository repository' : String) (s : Store)
    (l : Call × Except PoolError Reply) :
    Decidable (BothEligible H cfg repository repository' s l) :=
  inferInstanceAs (Decidable (∀ a ∈ builderClaim H l,
    ∀ u ∈ (queriedStore H cfg l.1.env s).toOption,
      HasEligible repository a.workerId u ∧ HasEligible repository' a.workerId u))

/-! ## The order of the query -/

/-- `ORDER BY` of the builder's query, as a comparison. -/
def builderCompare : Task × Lane → Task × Lane → Ordering :=
  compareLex
    (compareLex (compareOn fun c ↦ c.2.builderClaimCount)
      (compareLex (compareOn fun c ↦ c.2.lastBuilderClaimedAt.isSome.toNat)
        (compareOn fun c ↦ c.2.lastBuilderClaimedAt.getD "")))
    (compareLex (compareOn fun c ↦ c.1.priority)
      (compareLex (compareOn fun c ↦ c.1.createdAt) (compareOn fun c ↦ c.1.taskId)))

instance : Std.TransCmp builderCompare := by
  unfold builderCompare
  infer_instance

theorem builderOrder_eq : builderOrder = fun a b ↦ (builderCompare a b).isLE := rfl

/-- What comes first has had no more claims. -/
theorem count_le_of_builderOrder {a b : Task × Lane} (h : builderOrder a b = true) :
    a.2.builderClaimCount ≤ b.2.builderClaimCount := by
  rw [← Nat.isLE_compare]
  rw [builderOrder, laneOrder] at h
  cases hfirst : compare a.2.builderClaimCount b.2.builderClaimCount with
  | lt => rfl
  | eq => rfl
  | gt =>
    rw [hfirst] at h
    cases h

/-- **The lane that is served** has had no more claims than any lane with an eligible task. -/
theorem builderClaims_selected_le {workerId repository : String} {row : Task}
    (hselect : selectTask .builder workerId s = some row)
    (helig : HasEligible repository workerId s) :
    builderClaims row.repository s ≤ builderClaims repository s := by
  obtain ⟨c, hc, rfl⟩ := Option.map_eq_some_iff.mp hselect
  obtain ⟨t, ht, rfl⟩ := helig
  obtain ⟨c', hc', rfl⟩ := List.mem_map.mp ht
  have hleast : ∀ b ∈ (tasksWithLane s).filter (builderEligible workerId s),
      builderOrder c b = true := by
    refine Table.least_le (fun a b ↦ ?_) (fun a b d hab hbd ↦ ?_) hc
    · rw [builderOrder_eq]
      dsimp only
      rw [show builderCompare a b = (builderCompare b a).swap from Std.OrientedCmp.eq_swap]
      cases builderCompare b a with
      | lt => exact Or.inr rfl
      | eq => exact Or.inr rfl
      | gt => exact Or.inl rfl
    · rw [builderOrder_eq] at hab hbd ⊢
      exact Std.TransCmp.isLE_trans hab hbd
  have hle := count_le_of_builderOrder (hleast c' hc')
  obtain ⟨-, hlane⟩ := mem_tasksWithLane (List.mem_filter.mp (Table.mem_of_least hc)).1
  obtain ⟨-, hlane'⟩ := mem_tasksWithLane (List.mem_filter.mp hc').1
  rw [builderClaims, builderClaims, hlane, hlane']
  exact hle

/-! ## What moves the counters -/

theorem builderClaims_update {repository name : String} {f : Lane → Lane}
    (hname : ∀ r, (f r).repository = r.repository)
    (hcount : ∀ r, (f r).builderClaimCount = r.builderClaimCount)
    (hlanes : s'.lanes = Table.update Lane.repository name f s.lanes) :
    builderClaims repository s' = builderClaims repository s := by
  rw [builderClaims, hlanes, Table.lookup_update fun r hr ↦ (hname r).trans hr, builderClaims]
  by_cases hr : repository = name
  · rw [if_pos hr, hr]
    cases Table.lookup Lane.repository name s.lanes with
    | none => rfl
    | some lane => exact hcount lane
  · rw [if_neg hr]

/-- A new lane has had no claims, like a lane that does not exist. -/
theorem builderClaims_concat {repository name stamp : String} {enabled : Bool} {maxInFlight : ℤ}
    (hlanes : s'.lanes = s.lanes ++ [newLane name enabled maxInFlight stamp]) :
    builderClaims repository s' = builderClaims repository s := by
  rw [builderClaims, hlanes, Table.lookup_concat, builderClaims]
  cases Table.lookup Lane.repository repository s.lanes with
  | some lane => rfl
  | none =>
    rw [Option.none_or]
    split <;> rfl

/-- Calls other than claims leave the counters alone. -/
theorem builderClaims_exec {c : Call} (h : exec H cfg c s = (s', r))
    (hop : ∀ a, c.op ≠ .claimTask a) (repository : String) :
    builderClaims repository s' = builderClaims repository s := by
  refine (exec_wrote h).preserves
    (I := fun u ↦ builderClaims repository u = builderClaims repository s)
    (fun st u v hst hu hrun ↦ ?_) rfl
  rw [← hu]
  cases st with
  | ensureLane name stamp =>
    cases hrun
    by_cases hsome : (Table.lookup Lane.repository name u.lanes).isSome = true
    · exact congrArg (fun lanes ↦ builderClaims repository { u with lanes }) (if_pos hsome)
    · exact builderClaims_concat (if_neg hsome)
  | configureLane name enabled maxInFlight stamp =>
    cases hrun
    by_cases hsome : (Table.lookup Lane.repository name u.lanes).isSome = true
    · refine builderClaims_update (f := fun old ↦
        { old with enabled, maxInFlight, updatedAt := stamp }) ?_ ?_ (if_pos hsome)
      · exact fun _ ↦ rfl
      · exact fun _ ↦ rfl
    · exact builderClaims_concat (if_neg hsome)
  | countClaim role stamp name =>
    obtain ⟨a, ha⟩ := hst
    exact absurd ha (hop a)
  | insertTask t =>
    simp only [Statement.run, insertTask, require_bind_eq_ok] at hrun
    obtain ⟨-, -, hrun⟩ := hrun
    cases hrun
    rfl
  | writeTask t =>
    rw [writeTask_ok hrun]
    rfl
  | _ =>
    cases hrun
    rfl

/-- What a claim does: nothing to the lanes, or it counts for the lane of the task it grants. -/
theorem claimTask_lanes {a : ClaimArgs} (hk : Table.Keyed Task.taskId s.tasks)
    (h : claimTask H cfg env a s = (s', r)) :
    s'.lanes = s.lanes ∨ ∃ role u row grant,
      Role.ofText (H.unicode.lower a.role) = some role ∧ queriedStore H cfg env s = .ok u ∧
      u.lanes = s.lanes ∧ selectTask role a.workerId u = some row ∧
      r = .ok (.claimed (some grant)) ∧
      s'.lanes = Table.update Lane.repository row.repository (bumpLane role (env.clock 1).iso)
        s.lanes := by
  rcases transaction_cases h with ⟨grant, hbody, hr⟩ | ⟨rfl, -⟩
  · rw [orThrow_bind_eq_ok] at hbody
    obtain ⟨role, hrole, hbody⟩ := hbody
    rw [require_bind_eq_ok] at hbody
    obtain ⟨-, hbody⟩ := hbody
    rw [bind_eq_ok] at hbody
    obtain ⟨⟨s₁, n⟩, hrecover, hbody⟩ := hbody
    rw [bind_eq_ok] at hbody
    obtain ⟨⟨s₂, m⟩, hstalled, hbody⟩ := hbody
    rw [bind_eq_ok] at hbody
    obtain ⟨w, hready, hbody⟩ := hbody
    have hlanes : s₂.lanes = s.lanes :=
      (recoverStalled_wrote hstalled).frame.2.1.trans (recover_wrote hrecover).frame.2.1
    have hqueried : queriedStore H cfg env s = .ok s₂ := by
      rw [queriedStore, hrecover, ok_bind]
      dsimp only
      rw [hstalled, ok_bind]
      rfl
    cases hselect : selectTask role a.workerId s₂ with
    | none =>
      simp only [hselect] at hbody
      cases hbody
      exact Or.inl hlanes
    | some row =>
      simp only [hselect, orThrow_bind_eq_ok] at hbody
      obtain ⟨expires, -, hbody⟩ := hbody
      rw [bind_eq_ok] at hbody
      obtain ⟨s₃, hgrant, hbody⟩ := hbody
      cases hbody
      obtain ⟨acts₁, hpath₁, -⟩ := recover_path (H := H) hk hrecover
      have hk₁ : Table.Keyed Task.taskId s₁.tasks :=
        hpath₁.preserves (P := fun s ↦ Table.Keyed Task.taskId s.tasks)
          (fun hu hstep ↦ Effect.keyed hstep hu) hk
      obtain ⟨acts₂, hpath₂, -⟩ := recoverStalled_path (H := H) hk₁ hstalled
      have hk₂ : Table.Keyed Task.taskId s₂.tasks :=
        hpath₂.preserves (P := fun s ↦ Table.Keyed Task.taskId s.tasks)
          (fun hu hstep ↦ Effect.keyed hstep hu) hk₁
      obtain ⟨-, t', htasks, hid⟩ := grantLease_step (H := H) hk₂ (ready_ok hready) hselect hgrant
      obtain ⟨hmem, -⟩ := selectTask_spec hselect
      have hget := getTask_update hk₂ (hk₂.lookup_of_mem hmem) htasks hid
      simp only [hget] at hr
      rw [grantLease, orThrow_bind_eq_ok] at hgrant
      obtain ⟨t, -, hgrant⟩ := hgrant
      rw [bind_eq_ok] at hgrant
      obtain ⟨s₄, hwrite, hgrant⟩ := hgrant
      cases hgrant
      refine Or.inr ⟨role, s₂, row, _, hrole, hqueried, hlanes, hselect, hr, ?_⟩
      rw [writeTask_ok hwrite, ← hlanes]
  · exact Or.inl rfl

/-! ## Fairness -/

/-- The lower of two counters moves up by one. -/
theorem abs_succ_sub_le {x y : ℤ} (h : x ≤ y) : |x + 1 - y| ≤ max 1 |x - y| := by
  refine abs_le.mpr ⟨?_, ?_⟩
  · have hle := neg_abs_le (x - y)
    have hmax := le_max_right 1 |x - y|
    omega
  · have hmax := le_max_left 1 |x - y|
    omega

/-- The distance of two counters, one of which may have moved. -/
theorem distance_step {x y x' y' : ℤ} (h : x' = x ∧ y' = y ∨ x' = x + 1 ∧ y' = y ∧ x ≤ y
      ∨ x' = x ∧ y' = y + 1 ∧ y ≤ x) : |x' - y'| ≤ max 1 |x - y| := by
  rcases h with ⟨rfl, rfl⟩ | ⟨rfl, rfl, hle⟩ | ⟨rfl, rfl, hle⟩
  · exact le_max_right _ _
  · exact abs_succ_sub_le hle
  · rw [abs_sub_comm, abs_sub_comm x' y]
    exact abs_succ_sub_le hle

/-- **One call.** -/
theorem builderClaims_step {c : Call} {repository repository' : String}
    (hk : Table.Keyed Task.taskId s.tasks) (h : exec H cfg c s = (s', r))
    (hboth : BothEligible H cfg repository repository' s (c, r)) :
    |(builderClaims repository s' : ℤ) - builderClaims repository' s'|
      ≤ max 1 |(builderClaims repository s : ℤ) - builderClaims repository' s| := by
  by_cases heq : repository = repository'
  · subst heq
    simp
  refine distance_step ?_
  by_cases hop : ∃ a, c.op = .claimTask a
  · obtain ⟨a, ha⟩ := hop
    obtain ⟨op, env⟩ := c
    obtain rfl : op = .claimTask a := ha
    obtain hlanes | ⟨role, u, row, grant, hrole, hqueried, hu, hselect, rfl, hlanes⟩ :=
      claimTask_lanes hk h
    · refine Or.inl ?_
      simp only [builderClaims, hlanes, and_self]
    · cases role with
      | validator =>
        have hsame := fun name ↦ @builderClaims_update _ _ name _
          (bumpLane .validator (env.clock 1).iso) (fun _ ↦ rfl) (fun _ ↦ rfl) hlanes
        refine Or.inl ?_
        rw [hsame, hsame]
        exact ⟨rfl, rfl⟩
      | builder =>
        have hclaim : builderClaim H (⟨.claimTask a, env⟩, .ok (.claimed (some grant))) = some a :=
          if_pos hrole
        have hu' : u ∈ (queriedStore H cfg env s).toOption := by
          rw [hqueried]
          rfl
        obtain ⟨helig, helig'⟩ := hboth a hclaim u hu'
        have hle := builderClaims_selected_le hselect helig
        have hle' := builderClaims_selected_le hselect helig'
        have hcount : ∀ name, builderClaims name u = builderClaims name s := by
          intro name
          rw [builderClaims, hu]
          rfl
        rw [hcount, hcount] at hle hle'
        obtain ⟨-, -, -, hlane⟩ := selectTask_spec hselect
        obtain ⟨lane, hlook, -⟩ := hlane rfl
        rw [hu] at hlook
        have hmoved : ∀ name, builderClaims name s'
            = builderClaims name s + if name = row.repository then 1 else 0 := by
          intro name
          have hkeep : ∀ old : Lane, old.repository = row.repository →
              (bumpLane .builder (env.clock 1).iso old).repository = row.repository := fun _ ho ↦ ho
          rw [builderClaims, hlanes, Table.lookup_update hkeep, builderClaims]
          by_cases hname : name = row.repository
          · rw [if_pos hname, if_pos hname, hname, hlook]
            rfl
          · rw [if_neg hname, if_neg hname]
            rfl
        rw [hmoved, hmoved]
        by_cases hA : repository = row.repository
        · have hB : repository' ≠ row.repository := fun hB ↦ heq (hA.trans hB.symm)
          rw [← hA] at hle'
          simp only [hA, hB, if_true, if_false]
          rw [← hA]
          omega
        · by_cases hB : repository' = row.repository
          · rw [← hB] at hle
            simp only [hA, hB, if_true, if_false]
            rw [← hB]
            omega
          · simp [hA, hB]
  · have hsame := builderClaims_exec h fun a ha ↦ hop ⟨a, ha⟩
    rw [hsame, hsame]
    exact Or.inl ⟨rfl, rfl⟩

/-- **Fairness of the builder's claim.** From any reachable database, along any sequence of calls in
which both lanes have an eligible task for the claimant at every successful claim of a builder, the
distance of their counters never exceeds the larger of one and the initial distance. -/
theorem builder_fairness {tr₀ tr : List (Call × Except PoolError Reply)}
    (hrun : (system H cfg).Run tr₀ s) {repository repository' : String}
    (h : ((system H cfg).restrict (BothEligible H cfg repository repository')).Path s tr s') :
    |(builderClaims repository s' : ℤ) - builderClaims repository' s'|
      ≤ max 1 |(builderClaims repository s : ℤ) - builderClaims repository' s| := by
  induction h with
  | nil => exact le_max_right _ _
  | snoc hpath hstep ih =>
    have hbefore := hrun.extend (TransitionSystem.Path.of_restrict hpath)
    have hone := builderClaims_step (leaseInv_of_run hbefore).keyed hstep.2 hstep.1
    exact hone.trans (max_le (le_max_left _ _) ih)

/-! ## Two lanes and two builders -/

/-- The digests of one task in each of two repositories, and of a second one in the first. -/
def laneHost : Host where
  unicode := Unicode.ascii
  sha256Hex text :=
    ([("org/a|1|r1", "609df4346cc898755e70e5a58f45d863dc14fd39db2454eb0be2860b7c862203"),
      ("org/a|cwp-609df4346cc898755e70e5a5",
        "b5a89eda685e4874dda99ec5a23f384a22b6d65e3f4c887f847f99f051fbbb93"),
      ("org/a|2|r2", "fa9244410520b05edab5ae377ca5df1387da1683254e93b2273207930ba85b87"),
      ("org/a|cwp-fa9244410520b05edab5ae37",
        "6bbfd09b80df7cd38f148cd14c6bd79e9970f086b5d3dd4d1721bffc7e6af391"),
      ("org/b|1|r1", "6f827a063c9518c84901df19fadc5db1ed65de9f0293e7b6e7c065419c486e2f"),
      ("org/b|cwp-6f827a063c9518c84901df19",
        "81ee907b16862faa12a9456ea0fccfe860b20de865cd713f19d484041ec3128a"),
      ("r1", "82f3e9c695dc6b8d1b11818d5701919e286de8d47f7c3eb3100c485f79e57828"),
      ("r2", "db77fd01af957221a4989b64b3770a83a3c56068405b9f0e9408feae57fd17e4")].lookup text).getD ""

/-- Two lanes, the first of limit two with two tasks, and two builders. -/
def laneCalls : List Call :=
  [sampleCall (.registerWorker (sampleWorker "b" "builder")),
   sampleCall (.registerWorker (sampleWorker "b2" "builder")),
   sampleCall (.configureRepository { repository := "org/a", maxInFlight := 2 }),
   sampleCall (.enqueueTask { sampleEnqueue 1 "r1" with repository := "org/a" }),
   sampleCall (.enqueueTask { sampleEnqueue 2 "r2" with repository := "org/a" }),
   sampleCall (.enqueueTask { sampleEnqueue 1 "r1" with repository := "org/b", priority := 500 })]

/-- Both builders claim. -/
def laneClaims : List Call :=
  [sampleCall (.claimTask { workerId := "b", role := "builder", correlationId := "c" }) "token-1",
   sampleCall (.claimTask { workerId := "b2", role := "builder", correlationId := "c" }) "token-2"]

/-- The trace and the final database of a list of calls. -/
def laneRun (calls : List Call) (s : Store) : List (Call × Except PoolError Reply) × Store :=
  TransitionSystem.runCalls (exec laneHost sampleConfig) calls s

example : (laneRun laneCalls Store.empty).2.tasks.length = 3 := by decide +kernel

/-- The second claim goes to the lane that has had none, although its task comes last by
priority. -/
theorem builder_fairness_sample :
    let s := (laneRun laneCalls Store.empty).2
    let s' := (laneRun laneClaims s).2
    (builderClaims "org/a" s, builderClaims "org/b" s, builderClaims "org/a" s',
        builderClaims "org/b" s') = (0, 0, 1, 1) ∧
      |(builderClaims "org/a" s' : ℤ) - builderClaims "org/b" s'|
        ≤ max 1 |(builderClaims "org/a" s : ℤ) - builderClaims "org/b" s| := by
  intro s s'
  refine ⟨by decide +kernel, ?_⟩
  have hrun : (system laneHost sampleConfig).Run (laneRun laneCalls Store.empty).1 s :=
    TransitionSystem.run_runCalls _ _ _
  exact builder_fairness hrun (TransitionSystem.path_restrict_runCalls _ (by decide +kernel))

end WorkerPool

end ReqSys
