import ReqSys.Foundation.RelyGuarantee
import ReqSys.ServiceCases.Sessions

/-!
# Service management: the operations under interference

What `create_service_case` and `transition_service_case` ask of a discipline of the sessions,
whatever it is about. Both only read until they stage a write, and whatever they stage they commit
or roll back at once. So it is enough to look at the write: at the staged row that is committed
together with the event that creates the case (`safe_insertCase`), and at the row that a transition
has updated from the version it expects (`safe_writeTransition`).
-/

namespace ReqSys

namespace ServiceCases

variable {D : Discipline machine} {i : ℕ} {db : Db}

/-! ## Steps -/

/-- A query, and the rest on its answer. -/
theorem safe_query {op : Stmt} {α : Type} {f : op.Ans → Operation α}
    (hread : ∀ db' e, (exec i op e db').1 = db')
    (hf : ∀ db' e a, D.I db' → D.R i db db' → (exec i op e db').2 = .ok a →
      D.Safe i (fun _ _ ↦ True) db' (f a)) :
    D.Safe i (fun _ _ ↦ True) db (run op >>= f) :=
  .read_bind hread hf fun _ _ _ _ _ _ ↦ trivial

/-- A check, and the rest if it passes. -/
theorem safe_check {α β : Type} {x : Except RsmError α} {f : α → Operation β}
    (hf : ∀ a, x = .ok a → D.Safe i (fun _ _ ↦ True) db (f a)) :
    D.Safe i (fun _ _ ↦ True) db (.ofExcept x >>= f) := by
  cases x with
  | ok a => exact hf a rfl
  | error e => exact .raise trivial

/-- A rollback, and the rest. -/
theorem safe_rollback {α : Type} {f : Unit → Operation α}
    (hrollback : ∀ db, D.I db → D.Keeps i db (db.rollback i))
    (hf : ∀ db', D.Safe i (fun _ _ ↦ True) db' (f ())) :
    D.Safe i (fun _ _ ↦ True) db (run .rollback >>= f) :=
  .perform_bind (fun _ _ hI _ ↦ hrollback _ hI) (fun _ _ _ _ _ _ ↦ hf _)
    fun _ _ _ _ _ _ ↦ trivial

theorem safe_attempt {α : Type} {p : Operation α} (h : D.Safe i (fun _ _ ↦ True) db p) :
    D.Safe i (fun _ _ ↦ True) db p.attempt := h.attempt fun _ ↦ trivial

theorem flushCase_eq_ok {r : CaseRecord} {u : Unit} (h : (db.flushCase i r).2 = .ok u) :
    (db.flushCase i r).1 = db.stage i (.insertCase r) := by
  rw [Db.flushCase] at h ⊢
  split_ifs at h ⊢
  rfl

/-- The compare-and-swap that changes a row found the expected version and has locked the row. -/
theorem updateCase_eq_one {c : String} {v : ℕ} {st : CaseState} {now : DateTime}
    (h : (db.updateCase i c v st now).2 = .ok 1) :
    ∃ r, db.getCase c = some r ∧ r.version = v ∧
      (db.updateCase i c v st now).1 = db.stage i (.updateCase c st (v + 1) now) := by
  rw [Db.updateCase] at h ⊢
  split_ifs at h ⊢
  rcases hrow : db.getCase c with _ | r
  · rw [hrow] at h
    cases h
  · rw [hrow] at h
    dsimp only at h ⊢
    split_ifs at h ⊢ with hversion
    · exact ⟨r, rfl, hversion, rfl⟩
    · cases h

/-! ## The creation -/

theorem safe_replayOf (existing : CaseRecord) (payload : CreateRequest) :
    D.Safe i (fun _ _ ↦ True) db (replayOf existing payload) := safe_check fun _ _ ↦ .ret trivial

theorem safe_activeService (serviceId : String) :
    D.Safe i (fun _ _ ↦ True) db (activeService serviceId) := by
  refine safe_query (fun _ _ ↦ rfl) fun db' e a _ _ _ ↦ ?_
  cases a with
  | none => exact .raise trivial
  | some ativo => exact .ofExcept trivial

/-- The insertion of a new case: its row is staged, and then committed with its event. -/
theorem safe_insertCase {domain : ServiceCase} {payload : CreateRequest} {correlationId : String}
    (hflush : ∀ db now, D.I db → D.Keeps i db (db.flushCase i (newRecord domain payload now)).1)
    (hcommit : ∀ (db db' : Db) now now', D.I db' →
      D.R i (db.stage i (.insertCase (newRecord domain payload now))) db' →
      D.Keeps i db' (db'.commit i (createdEvent domain payload correlationId now')).1) :
    D.Safe i (fun _ _ ↦ True) db (insertCase domain payload correlationId) := by
  refine .perform_bind (fun db' e hI _ ↦ hflush db' e.now hI) ?_ fun _ _ _ _ _ _ ↦ trivial
  intro db' e u hI hR hans
  have hstaged : (exec i (.flushCase (newRecord domain payload)) e db').1
      = db'.stage i (.insertCase (newRecord domain payload e.now)) := flushCase_eq_ok hans
  change D.Safe i _ (exec i (.flushCase (newRecord domain payload)) e db').1 _
  rw [hstaged]
  exact .call (fun db'' e' hI' hR' ↦ hcommit db' db'' e.now e'.now hI' hR')
    fun _ _ _ _ ↦ .ofExcept trivial

/-- **A creation** is safe when its insertion is. -/
theorem safe_createServiceCase (hrollback : ∀ db, D.I db → D.Keeps i db (db.rollback i))
    (cfg : Config) {payload : CreateRequest} {correlationId : String}
    (hinsert : ∀ {domain : ServiceCase} {db}, domain.state = .new →
      D.Safe i (fun _ _ ↦ True) db (insertCase domain payload correlationId)) :
    D.Safe i (fun _ _ ↦ True) db (createServiceCase cfg payload correlationId) := by
  refine (safe_activeService payload.serviceId).bind (fun _ ↦ ?_) fun _ ↦ trivial
  refine safe_query (fun _ _ ↦ rfl) fun _ _ existing _ _ _ ↦ ?_
  cases existing with
  | some existing => exact safe_replayOf existing payload
  | none =>
    refine safe_query (fun _ _ ↦ rfl) fun _ _ caseId _ _ _ ↦ ?_
    refine safe_check fun domain hdomain ↦ ?_
    have hnew : domain.state = .new := ServiceCase.state_of_build hdomain
    refine (safe_attempt (hinsert hnew)).bind (fun {outcome _} _ ↦ ?_) fun _ ↦ trivial
    rcases outcome with x | _
    · by_cases hx : x = .integrity
      · subst hx
        refine safe_rollback hrollback fun _ ↦
          safe_query (fun _ _ ↦ rfl) fun _ _ existing _ _ _ ↦ ?_
        cases existing with
        | some existing => exact safe_replayOf existing payload
        | none => exact .raise trivial
      · cases x <;> first | exact .raise trivial | exact absurd rfl hx
    · refine safe_query (fun _ _ ↦ rfl) fun _ _ record _ _ _ ↦ ?_
      cases record with
      | none => exact .raise trivial
      | some record => exact .ret trivial

/-! ## The transition -/

/-- The guards only read. -/
theorem check_reads (record : CaseRecord) (target : CaseState) (g : TransitionGuard) :
    (g.check record target).AllCalls fun op ↦ ∀ e db, (exec i op e db).1 = db := by
  cases g with
  | approval =>
    rw [TransitionGuard.check]
    split
    · exact (Program.AllCalls.perform fun _ _ ↦ rfl).bind fun _ ↦ .ofExcept _
    · exact .ret _
  | changeClose =>
    rw [TransitionGuard.check]
    split
    · exact (Program.AllCalls.perform fun _ _ ↦ rfl).bind fun _ ↦ .ofExcept _
    · exact .ret _

/-- The compare-and-swap, and the commit of what it has staged with the event. -/
theorem safe_writeTransition (hrollback : ∀ db, D.I db → D.Keeps i db (db.rollback i))
    {c : String} {payload : TransitionRequest} {st : CaseState} {updated : ServiceCase}
    {correlationId : String}
    (hupdate : ∀ db now, D.I db →
      D.Keeps i db (db.updateCase i c payload.expectedVersion updated.state now).1)
    (hcommit : ∀ {db' db'' r} (now now' : DateTime), D.I db' → D.R i db db' →
      db'.getCase c = some r → r.version = payload.expectedVersion → D.I db'' →
      D.R i (db'.stage i (.updateCase c updated.state (payload.expectedVersion + 1) now)) db'' →
      D.Keeps i db''
        (db''.commit i (transitionEvent c payload st updated.state correlationId now')).1) :
    D.Safe i (fun _ _ ↦ True) db (writeTransition c payload st updated correlationId) := by
  refine .perform_bind (fun db' e hI _ ↦ hupdate db' e.now hI) ?_ fun _ _ _ _ _ _ ↦ trivial
  intro db' e rowcount hI hR hans
  split_ifs with hrow
  · exact safe_rollback hrollback fun _ ↦ .raise trivial
  · have hone : rowcount = 1 := not_not.mp hrow
    subst hone
    obtain ⟨r, hr, hversion, hstaged⟩ := updateCase_eq_one hans
    change D.Safe i _ (db'.updateCase i c payload.expectedVersion updated.state e.now).1 _
    rw [hstaged]
    have hsafe : D.Safe i (fun _ _ ↦ True)
        (db'.stage i (.updateCase c updated.state (payload.expectedVersion + 1) e.now))
        (run (.commit (transitionEvent c payload st updated.state correlationId))) :=
      .call (fun db'' e' hI' hR' ↦ hcommit e.now e'.now hI hR hr hversion hI' hR')
        fun _ _ _ _ ↦ .ofExcept trivial
    refine (safe_attempt hsafe).bind (fun {outcome _} _ ↦ ?_) fun _ ↦ trivial
    rcases outcome with x | _
    · by_cases hx : x = .integrity
      · subst hx
        exact safe_rollback hrollback fun _ ↦ .raise trivial
      · cases x <;> first | exact .raise trivial | exact absurd rfl hx
    · refine safe_query (fun _ _ ↦ rfl) fun _ _ record _ _ _ ↦ ?_
      cases record with
      | none => exact .raise trivial
      | some record => exact .ret trivial

/-- **A transition** is safe when its write is, from the row that it has read. -/
theorem safe_transitionServiceCase (cfg : Config) {c : String} {payload : TransitionRequest}
    {correlationId : String}
    (hwrite : ∀ {db' db'' record} {updated : ServiceCase}, D.I db' →
      db'.getCase c = some record → record.version = payload.expectedVersion →
      updated.state ∈ record.state.allowedTransitions → D.R i db' db'' →
      D.Safe i (fun _ _ ↦ True) db''
        (writeTransition c payload record.state updated correlationId)) :
    D.Safe i (fun _ _ ↦ True) db (transitionServiceCase cfg c payload correlationId) := by
  refine safe_query (fun _ _ ↦ rfl) fun _ _ event _ _ _ ↦ ?_
  cases event with
  | some event =>
    refine safe_check fun _ _ ↦ safe_query (fun _ _ ↦ rfl) fun _ _ record _ _ _ ↦ ?_
    cases record with
    | none => exact .raise trivial
    | some record => exact .ret trivial
  | none =>
    refine safe_query (fun _ _ ↦ rfl) fun db' _ record hI _ hans ↦ ?_
    cases record with
    | none => exact .raise trivial
    | some record =>
      have hread : db'.getCase c = some record := Except.ok.inj hans
      refine safe_check fun _ hversion ↦ safe_check fun domain hdomain ↦ safe_check fun _ _ ↦ ?_
      have hguards : D.Safe i (fun _ db'' ↦ D.R i db' db'') db'
          (cfg.guards.forM (TransitionGuard.check record payload.targetState)) :=
        .of_reads (fun _ hR hK ↦ D.trans hK hR)
          (.forM fun g _ ↦ check_reads record payload.targetState g) (D.refl i db')
      refine hguards.bind (fun hR ↦ ?_) fun _ ↦ trivial
      refine safe_check fun updated hupdated ↦ hwrite hI hread (require_eq_ok.mp hversion) ?_ hR
      obtain ⟨hallowed, hstate⟩ := ServiceCase.transitionTo_eq_ok hupdated
      rw [hstate, ← show domain.state = record.state from ServiceCase.state_of_build hdomain]
      exact hallowed

end ServiceCases

end ReqSys
