import ReqSys.WorkerPool.LeaseInvariant

/-!
# The worker pool: fencing

A lease token works until the lease is lost and never again. Every token in the database was issued
by a claim for that very task, so under fresh tokens no second task carries it; and the only act
that writes a token is a claim, which writes a fresh one. Once no row carries a token, none ever
will (`path_lost`), and a call that presents it fails in `_lease` and changes nothing.

The clock plays no part in this: the result holds for arbitrary readings.
-/

namespace ReqSys

namespace WorkerPool

/-! ## Tokens -/

/-- The leases issued, as pairs of task and token. -/
def issued (evs : List Event) : List (String × String) :=
  evs.filterMap fun e ↦ match e with
    | .issued tid token => some (tid, token)
    | _ => none

/-- The tokens issued, in order. -/
def issuedTokens (evs : List Event) : List String := (issued evs).map Prod.snd

/-- The arguments of the calls that present a lease. -/
def Op.leaseArgs? : Op → Option LeaseArgs
  | .renewLease a _ | .startTask a | .submitForValidation a _ | .completeTask a | .failTask a _
  | .blockTask a _ => some a
  | _ => none

/-- The token a call used up: a successful submission, completion, failure or block. -/
def consumedToken (l : Call × Except PoolError Reply) : Option String :=
  match l.2 with
  | .error _ => none
  | .ok _ =>
    match l.1.op with
    | .submitForValidation a _ | .completeTask a | .failTask a _ | .blockTask a _ =>
      some a.leaseToken
    | _ => none

/-- No row carries the token. -/
def Store.Lost (s : Store) (token : String) : Prop := ∀ t ∈ s.tasks, t.leaseToken ≠ some token

variable {H : Host} {cfg : Config} {s s' : Store} {a : Act} {t t' : Task} {token : String}

theorem issued_append (evs evs' : List Event) : issued (evs ++ evs') = issued evs ++ issued evs' :=
  List.filterMap_append

theorem issuedTokens_append (evs evs' : List Event) :
    issuedTokens (evs ++ evs') = issuedTokens evs ++ issuedTokens evs' := by
  rw [issuedTokens, issued_append, List.map_append]
  rfl

/-! ## What an act does to a token -/

/-- A row carries a token it carried before, or one its claim issued. -/
theorem Change.leaseToken_cases (h : Change H a t t') (htoken : t'.leaseToken = some token) :
    t.leaseToken = some token ∨ ∃ tid worker role, a = .claim tid worker token role := by
  cases a <;> simp only [Change] at h
  case claim tid worker token' role =>
    obtain ⟨-, -, -, _, _, _, rfl⟩ := h
    cases htoken
    exact Or.inr ⟨tid, worker, role, rfl⟩
  case renew =>
    obtain ⟨-, -, _, _, _, rfl⟩ := h
    exact Or.inl htoken
  case start =>
    obtain ⟨-, -, _, _, rfl⟩ := h
    exact Or.inl htoken
  case submit =>
    obtain ⟨-, -, -, -, _, _, rfl⟩ := h
    cases htoken
  case complete =>
    obtain ⟨-, -, -, -, _, _, rfl⟩ := h
    cases htoken
  case giveBack =>
    obtain ⟨-, -, _, _, _, _, rfl⟩ := h
    cases htoken
  case giveUp =>
    obtain ⟨-, -, _, _, _, _, rfl⟩ := h
    cases htoken
  case block =>
    obtain ⟨-, _, _, _, _, _, -, rfl⟩ := h
    cases htoken
  case requeue =>
    obtain ⟨-, _, _, rfl⟩ := h
    exact Or.inl htoken

theorem Effect.leaseToken_cases (h : Effect H s a s') {r : Task} (hr : r ∈ s'.tasks)
    (htoken : r.leaseToken = some token) :
    (∃ t ∈ s.tasks, t.taskId = r.taskId ∧ t.leaseToken = some token)
      ∨ a.event = some (.issued r.taskId token) := by
  rcases h.mem_cases hr with ⟨hr, -⟩ | ⟨-, hfresh, -⟩ | ⟨t, ht, hid, hchange⟩
  · exact Or.inl ⟨r, hr, rfl, htoken⟩
  · rw [hfresh.leaseToken] at htoken
    cases htoken
  · rcases hchange.leaseToken_cases htoken with htoken | ⟨tid, worker, role, rfl⟩
    · exact Or.inl ⟨t, ht, hchange.identity_eq.1.symm, htoken⟩
    · refine Or.inr ?_
      rw [hchange.identity_eq.1, ← Option.some.inj hid]
      rfl

theorem mem_issued_of_mem {evs : List Event} {tid : String} (h : .issued tid token ∈ evs) :
    (tid, token) ∈ issued evs := List.mem_filterMap.mpr ⟨_, h, rfl⟩

/-- **Every token in the database was issued for its task.** -/
theorem issued_of_run {acts : List Act} (h : (protocol H).Run acts s) (ht : t ∈ s.tasks)
    (htoken : t.leaseToken = some token) : (t.taskId, token) ∈ issued (acts.filterMap Act.event) := by
  have hinv := h.traceInvariant (I := fun acts s ↦ ∀ t ∈ s.tasks, ∀ token,
    t.leaseToken = some token → (t.taskId, token) ∈ issued (acts.filterMap Act.event)) ?_ ?_
  · exact hinv t ht token htoken
  · rintro s rfl
    exact List.forall_mem_nil _
  · intro acts s a s' _ hinv hstep r hr token htoken
    rw [List.filterMap_append, issued_append]
    rcases Effect.leaseToken_cases hstep hr htoken with ⟨t, ht, hid, htok⟩ | hevent
    · rw [← hid]
      exact List.mem_append_left _ (hinv t ht token htok)
    · refine List.mem_append_right _ (mem_issued_of_mem ?_)
      simp [hevent]

/-- **A lost token stays lost** along every path that does not issue it again. -/
theorem path_lost {acts : List Act} (h : (protocol H).Path s acts s') (hlost : s.Lost token)
    (hfresh : token ∉ issuedTokens (acts.filterMap Act.event)) : s'.Lost token := by
  induction h with
  | nil => exact hlost
  | snoc _ hstep ih =>
    rw [List.filterMap_append, issuedTokens_append, List.mem_append, not_or] at hfresh
    have hmid := ih hfresh.1
    intro r hr htoken
    rcases Effect.leaseToken_cases hstep hr htoken with ⟨t, ht, -, htok⟩ | hevent
    · exact hmid t ht htok
    · refine hfresh.2 (List.mem_map.mpr ⟨(r.taskId, token), mem_issued_of_mem ?_, rfl⟩)
      simp [hevent]

/-- Under fresh tokens, a token belongs to the one task it was issued for. -/
theorem lost_of_released {acts : List Act} (h : (protocol H).Run acts s) {tid : String}
    (hissued : (tid, token) ∈ issued (acts.filterMap Act.event))
    (hnodup : (issuedTokens (acts.filterMap Act.event)).Nodup)
    (hreleased : ∀ t ∈ s.tasks, t.taskId = tid → t.leaseToken ≠ some token) : s.Lost token := by
  intro t ht htoken
  have hother := issued_of_run h ht htoken
  have heq := List.inj_on_of_nodup_map hnodup hissued hother rfl
  exact hreleased t ht (congrArg Prod.fst heq).symm htoken

/-! ## Calls that present a token -/

/-- The act behind a call of a lease holder keeps the token only for `renew` and `start`. -/
theorem LeaseWrite.released {act : Act} {a : LeaseArgs} (h : LeaseWrite H act a s s')
    (hact : ∀ t t', Change H act t t' → t'.leaseToken = none) {r : Task} (hr : r ∈ s'.tasks)
    (hid : r.taskId = a.taskId) : r.leaseToken = none := by
  obtain ⟨row, t', _, hrow, -, hchange, -, rfl⟩ := h
  rcases Table.mem_update hr with ⟨-, hne⟩ | ⟨_, _, _, rfl⟩
  · exact absurd hid hne
  · exact hact _ _ hchange

/-- A call that presents a token either finds it on the row of its task, or raises and changes
nothing. -/
theorem exec_presents {c : Call} {r : Except PoolError Reply} {args : LeaseArgs}
    (h : exec H cfg c s = (s', r)) (hc : c.op.leaseArgs? = some args) :
    (∃ t ∈ s.tasks, t.taskId = args.taskId ∧ t.leaseToken = some args.leaseToken)
      ∨ (s' = s ∧ ∃ e, r = .error e) := by
  have hout : ∃ act, LeaseOutcome H act args s s' r := by
    obtain ⟨op, env⟩ := c
    cases op <;> cases hc
    case renewLease => exact ⟨_, renewLease_outcome h⟩
    case startTask => exact ⟨_, startTask_outcome h⟩
    case submitForValidation => exact ⟨_, submitForValidation_outcome h⟩
    case completeTask => exact ⟨_, completeTask_outcome h⟩
    case failTask =>
      rcases failTask_outcome h with hout | hout
      · exact ⟨_, hout⟩
      · exact ⟨_, hout⟩
    case blockTask => exact ⟨_, blockTask_outcome h⟩
  obtain ⟨act, ⟨⟨row, _, _, hrow, hheld, -⟩, -⟩ | hraise⟩ := hout
  · exact Or.inl ⟨row, Table.mem_of_lookup hrow, Table.key_of_lookup hrow, hheld.2⟩
  · exact Or.inr hraise

/-- A call that used up a token took it off its task. -/
theorem exec_consumes {c : Call} {r : Except PoolError Reply} (h : exec H cfg c s = (s', r))
    (hc : consumedToken (c, r) = some token) :
    ∃ t ∈ s.tasks, t.leaseToken = some token
      ∧ ∀ t' ∈ s'.tasks, t'.taskId = t.taskId → t'.leaseToken ≠ some token := by
  have hout : ∃ act args, LeaseOutcome H act args s s' r ∧ args.leaseToken = token
      ∧ ∀ t t', Change H act t t' → t'.leaseToken = none := by
    obtain ⟨op, env⟩ := c
    rcases r with e | reply
    · cases hc
    · cases op <;> cases hc
      case ok.submitForValidation.refl a sha =>
        refine ⟨_, a, submitForValidation_outcome h, rfl, fun t t' hchange ↦ ?_⟩
        obtain ⟨-, -, -, -, _, _, rfl⟩ := hchange
        rfl
      case ok.completeTask.refl a =>
        refine ⟨_, a, completeTask_outcome h, rfl, fun t t' hchange ↦ ?_⟩
        obtain ⟨-, -, -, -, _, _, rfl⟩ := hchange
        rfl
      case ok.failTask.refl a reason =>
        rcases failTask_outcome h with hout | hout
        · refine ⟨_, a, hout, rfl, fun t t' hchange ↦ ?_⟩
          obtain ⟨-, -, _, _, _, _, rfl⟩ := hchange
          rfl
        · refine ⟨_, a, hout, rfl, fun t t' hchange ↦ ?_⟩
          obtain ⟨-, -, _, _, _, _, rfl⟩ := hchange
          rfl
      case ok.blockTask.refl a reason =>
        refine ⟨_, a, blockTask_outcome h, rfl, fun t t' hchange ↦ ?_⟩
        obtain ⟨-, _, _, _, _, _, -, rfl⟩ := hchange
        rfl
  obtain ⟨act, args, hout, htoken, hnone⟩ := hout
  rcases hout with ⟨hwrite, -⟩ | ⟨-, e, rfl⟩
  · obtain ⟨row, _, _, hrow, hheld, -⟩ := id hwrite
    refine ⟨row, Table.mem_of_lookup hrow, by rw [hheld.2, htoken], fun t' ht' hid ↦ ?_⟩
    rw [hwrite.released hnone ht' (hid.trans (Table.key_of_lookup hrow))]
    exact nofun
  · cases hc

/-! ## Fencing -/

/-- Along a run with fresh tokens, a token that was used up is carried by no row. -/
private theorem consumed_lost {tr : List (Call × Except PoolError Reply)}
    (h : (system H cfg).Run tr s) (hnodup : (issuedTokens (tr.flatMap events)).Nodup) :
    (tr.filterMap consumedToken).Nodup ∧ ∀ token ∈ tr.filterMap consumedToken,
      s.Lost token ∧ token ∈ issuedTokens (tr.flatMap events) := by
  revert hnodup
  refine h.traceInvariant (I := fun tr s ↦ (issuedTokens (tr.flatMap events)).Nodup →
    (tr.filterMap consumedToken).Nodup ∧ ∀ token ∈ tr.filterMap consumedToken,
      s.Lost token ∧ token ∈ issuedTokens (tr.flatMap events)) ?_ ?_
  · rintro s rfl -
    exact ⟨List.nodup_nil, List.forall_mem_nil _⟩
  · rintro tr s ⟨c, r⟩ s' hrun hinv hstep hnodup
    rw [List.flatMap_append, List.flatMap_singleton, issuedTokens_append] at hnodup
    obtain ⟨hnodup₁, -, hdisj⟩ := List.nodup_append.mp hnodup
    obtain ⟨hcons, hlost⟩ := hinv hnodup₁
    obtain ⟨acts, hprun, hevents⟩ := run_refines hrun
    obtain ⟨acts', hpath, hevents', -⟩ := exec_refines (keyed_of_run hprun) hstep
    -- a token used up before stays lost, since this call cannot issue it again
    have hold : ∀ token ∈ tr.filterMap consumedToken, s'.Lost token := by
      intro token htok
      obtain ⟨hl, hiss⟩ := hlost token htok
      refine path_lost hpath hl fun hagain ↦ ?_
      rw [hevents'] at hagain
      exact hdisj token hiss token hagain rfl
    rw [List.filterMap_append, List.flatMap_append, List.flatMap_singleton, issuedTokens_append]
    cases hc : consumedToken (c, r) with
    | none =>
      simp only [List.filterMap_cons, hc, List.filterMap_nil, List.append_nil]
      exact ⟨hcons, fun token htok ↦
        ⟨hold token htok, List.mem_append_left _ (hlost token htok).2⟩⟩
    | some token =>
      simp only [List.filterMap_cons, hc, List.filterMap_nil]
      obtain ⟨t, ht, htoken, hreleased⟩ := exec_consumes hstep hc
      have hissued := issued_of_run hprun ht htoken
      have hnow : s'.Lost token := by
        have hissued' : (t.taskId, token) ∈ issued ((acts ++ acts').filterMap Act.event) := by
          rw [List.filterMap_append, issued_append]
          exact List.mem_append_left _ hissued
        refine lost_of_released (hprun.extend hpath) hissued' ?_ hreleased
        rw [List.filterMap_append, hevents, hevents', issuedTokens_append]
        exact hnodup
      have htokens : token ∈ issuedTokens (tr.flatMap events) := by
        rw [← hevents]
        exact List.mem_map.mpr ⟨_, hissued, rfl⟩
      refine ⟨List.nodup_append.mpr ⟨hcons, List.nodup_singleton _, ?_⟩, ?_⟩
      · rintro x hx y hy rfl
        rw [List.mem_singleton.mp hy] at hx
        exact (hlost token hx).1 t ht htoken
      · intro x hx
        rcases List.mem_append.mp hx with hx | hx
        · exact ⟨hold x hx, List.mem_append_left _ (hlost x hx).2⟩
        · rw [List.mem_singleton.mp hx]
          exact ⟨hnow, List.mem_append_left _ htokens⟩

/-- **Fencing.** Let tokens be fresh along a run. Once a task has lost the lease with some token, a
call that presents that token, for whatever task and worker, raises and changes nothing; and no
token is used up twice. -/
theorem lost_lease_fenced {tr₁ tr₂ tr₃ : List (Call × Except PoolError Reply)} {s₁ s₂ s₃ : Store}
    (h₁ : (system H cfg).Run tr₁ s₁) (ht : t ∈ s₁.tasks) (htoken : t.leaseToken = some token)
    (h₂ : (system H cfg).Path s₁ tr₂ s₂)
    (hlost : ∀ t' ∈ s₂.tasks, t'.taskId = t.taskId → t'.leaseToken ≠ some token)
    (h₃ : (system H cfg).Path s₂ tr₃ s₃)
    (hfresh : (issuedTokens ((tr₁ ++ tr₂ ++ tr₃).flatMap events)).Nodup) :
    (∀ (c : Call) (args : LeaseArgs), c.op.leaseArgs? = some args → args.leaseToken = token →
        ∃ e, exec H cfg c s₃ = (s₃, .error e))
      ∧ ((tr₁ ++ tr₂ ++ tr₃).filterMap consumedToken).Nodup := by
  have hrun := (h₁.extend h₂).extend h₃
  refine ⟨fun c args hc hargs ↦ ?_, (consumed_lost hrun hfresh).1⟩
  obtain ⟨acts₁, hp₁, he₁⟩ := run_refines h₁
  obtain ⟨acts₂, hp₂, he₂⟩ := path_refines hp₁ h₂
  obtain ⟨acts₃, hp₃, he₃⟩ := path_refines (hp₁.extend hp₂) h₃
  have hissued := issued_of_run hp₁ ht htoken
  rw [List.flatMap_append, List.flatMap_append, issuedTokens_append] at hfresh
  obtain ⟨hfresh₁₂, -, hdisj⟩ := List.nodup_append.mp hfresh
  have hissued₂ : (t.taskId, token) ∈ issued ((acts₁ ++ acts₂).filterMap Act.event) := by
    rw [List.filterMap_append, issued_append]
    exact List.mem_append_left _ hissued
  have hlost₂ : s₂.Lost token := by
    refine lost_of_released (hp₁.extend hp₂) hissued₂ ?_ hlost
    rw [List.filterMap_append, he₁, he₂]
    exact hfresh₁₂
  have hlost₃ : s₃.Lost token := by
    refine path_lost hp₃ hlost₂ fun hagain ↦ ?_
    rw [he₃] at hagain
    refine hdisj token ?_ token hagain rfl
    rw [← he₁, ← he₂, ← List.filterMap_append]
    exact List.mem_map.mpr ⟨_, hissued₂, rfl⟩
  have hexec : exec H cfg c s₃ = ((exec H cfg c s₃).1, (exec H cfg c s₃).2) := rfl
  rcases exec_presents hexec hc with ⟨t', ht', -, htok'⟩ | ⟨hsame, e, he⟩
  · exact absurd (htok'.trans (by rw [hargs])) (hlost₃ t' ht')
  · exact ⟨e, Prod.ext hsame he⟩

/-- A builder that submitted its task and then tries to fail it with the token it had, while the
validator holds the task. -/
theorem lost_lease_fenced_after_submit :
    let build := buildCalls "0123456789abcdef0123456789abcdef01234567"
    let s₁ := (sampleRun (setupCalls ++ build.take 1)).2
    let s₂ := (TransitionSystem.runCalls (exec sampleHost sampleConfig) (build.drop 1) s₁).2
    let s₃ := (TransitionSystem.runCalls (exec sampleHost sampleConfig) [validatorClaim] s₂).2
    s₃.tasks.map Task.leaseToken = [some "token-2"]
      ∧ ∃ e, exec sampleHost sampleConfig
          (sampleCall (.failTask ⟨firstTask, "b", "token-1", "c"⟩ "late")) s₃ = (s₃, .error e) := by
  intro build s₁ s₂ s₃
  have hone : s₁.tasks.map (fun t ↦ (t.taskId, t.leaseToken)) = [(firstTask, some "token-1")] := by
    decide +kernel
  obtain ⟨t, htasks, hcols⟩ := List.map_eq_singleton_iff.mp hone
  simp only [Prod.mk.injEq] at hcols
  have ht : t ∈ s₁.tasks := by
    rw [htasks]
    exact List.mem_singleton_self t
  have hlost : ∀ t' ∈ s₂.tasks, t'.taskId = firstTask → t'.leaseToken ≠ some "token-1" := by
    decide +kernel
  have hpath := TransitionSystem.path_runCalls Store.empty (exec sampleHost sampleConfig)
  have hfenced := lost_lease_fenced (run_sampleRun (setupCalls ++ build.take 1)) ht hcols.2
    (hpath (build.drop 1) s₁) (by rw [hcols.1]; exact hlost) (hpath [validatorClaim] s₂)
    (by decide +kernel)
  exact ⟨by decide +kernel, hfenced.1 _ _ rfl rfl⟩

end WorkerPool

end ReqSys
