import Mathlib
import ReqSys.Foundation.Gate
import ReqSys.ServiceCases.Provenance

/-!
# Service management: a change closes over its evidence

The closing guard of a change reads the latest evidence, and the transition then compares and swaps
the version of the case. Evidence that is recorded in between does not advance that version. So the
guard is a look before an act in the sense of `Gate`: a session that has passed it closes the case
over whatever the latest evidence is by then.

`change_closes_permitted` is what remains. As long as no evidence that takes the permission away is
committed while some session has passed the guard for the current version and not yet committed, a
change only becomes `CLOSED` over a latest evidence that permits it.

Two facts about the cases carry the proof: the version of a case only grows, so a session that
expects an older version will not close it any more, and a pending update holds its row.
-/

namespace ReqSys

namespace ServiceCases

/-- `allows_close`. -/
def ChangeExecutionEvidence.allowsClose (e : ChangeExecutionEvidence) : Bool :=
  e.status = .passed || e.status = .rolledBack

/-- The latest evidence of a case exists and allows it to be closed. -/
def Tables.PermitsClose (db : Tables) (caseId : String) : Prop :=
  ((db.latestEvidence caseId).any fun r ↦ r.execution.allowsClose) = true

instance (db : Tables) (caseId : String) : Decidable (db.PermitsClose caseId) :=
  inferInstanceAs (Decidable (_ = true))

/-- A change that becomes `CLOSED` does so over evidence that permits it. -/
def ClosesPermitted (db db' : Tables) : Prop :=
  ∀ c r r', db.getCase c = some r → r.caseType = .change → r.state ≠ .closed →
    db'.getCase c = some r' → r'.state = .closed → db'.PermitsClose c

/-! ## The gate -/

/-- The closing guard of case `c` for version `v`, in the statements of a transition. -/
def caseGate (c : String) (v : ℕ) : Gate Stmt.Ans RsmError where
  acts op := op = .updateCase c v .closed
  looks op := op = .latestChangeEvidence c
  permits
    | .latestChangeEvidence _, .ok latest => latest = some .passed ∨ latest = some .rolledBack
    | _, _ => False
  possible
    | .getCase c', .ok (some r) => r.caseId = c' ∧ (c' = c → r.caseType = .change)
    | _, _ => True

/-- The closing guard of case `c` for version `v`. -/
def closingGate (c : String) (v : ℕ) : Gate OpStmt.Ans RsmError where
  acts
    | .base op => (caseGate c v).acts op
    | _ => False
  looks
    | .base op => (caseGate c v).looks op
    | _ => False
  permits
    | .base op, r => (caseGate c v).permits op r
    | _, _ => False
  possible
    | .base op, r => (caseGate c v).possible op r
    | _, _ => True

section Ready

variable (c : String) (v : ℕ)

/-- The calls of the write of a transition: the update, and statements that neither update a case
nor look at evidence. -/
theorem writeTransition_calls {P : Stmt → Prop} {caseId : String} {payload : TransitionRequest}
    {fromState : CaseState} {updated : ServiceCase} {correlationId : String}
    (hupdate : P (.updateCase caseId payload.expectedVersion updated.state))
    (hrollback : P .rollback) (hcommit : ∀ ev, P (.commit ev)) (hget : P (.getCase caseId)) :
    (writeTransition caseId payload fromState updated correlationId).AllCalls P := by
  refine (Program.AllCalls.perform hupdate).bind fun rowcount ↦ ?_
  split
  · exact (Program.AllCalls.perform hrollback).bind fun _ ↦ .raise _
  · refine (Program.AllCalls.perform (hcommit _)).attempt.bind fun r ↦ ?_
    split
    · refine (Program.AllCalls.perform hget).bind fun o ↦ ?_
      split
      · exact .raise _
      · exact .ret _
    · exact (Program.AllCalls.perform hrollback).bind fun _ ↦ .raise _
    · exact .raise _

/-- The guards that the modules register on import, one after the other. -/
theorem forM_guards_bind {α : Type} (cfg : OpConfig) (record : CaseRecord) (target : CaseState)
    (rest : Unit → Operation α) :
    (cfg.toConfig.guards.forM (TransitionGuard.check record target) >>= rest)
      = TransitionGuard.approval.check record target >>= fun _ ↦
        TransitionGuard.changeClose.check record target >>= rest := by
  change ((TransitionGuard.approval.check record target >>= fun _ ↦
    TransitionGuard.changeClose.check record target >>= fun _ ↦ .ret ()) >>= rest) = _
  rw [Program.bind_assoc]
  refine congrArg (_ >>= ·) (funext fun _ ↦ ?_)
  rw [Program.bind_assoc]
  rfl

/-- **The closing guard** comes before the write of a transition that closes a change. -/
theorem ready_guarded {cfg : OpConfig} {caseId : String} {payload : TransitionRequest}
    {record : CaseRecord} {domain : ServiceCase} {correlationId : String}
    (hid : record.caseId = caseId) (htype : caseId = c → record.caseType = .change) :
    (caseGate c v).Ready (TransitionGuard.changeClose.check record payload.targetState >>= fun _ ↦
      Program.ofExcept (domain.transitionTo cfg.toConfig.parseUuid payload.targetState)
        >>= fun updated ↦ writeTransition caseId payload record.state updated correlationId) := by
  by_cases hcloses : caseId = c ∧ payload.targetState = .closed
  · obtain ⟨rfl, htarget⟩ := hcloses
    rw [TransitionGuard.check, if_pos ⟨htype rfl, htarget⟩, Program.bind_assoc, hid]
    refine .look_bind (by rintro ⟨⟩) rfl (fun latest ↦ ?_) fun latest hpermits ↦ ?_
    · refine .of_not_looks ?_
      refine (Program.AllCalls.ofExcept _).bind fun _ ↦ (Program.AllCalls.ofExcept _).bind fun _ ↦ ?_
      exact writeTransition_calls (by rintro ⟨⟩) (by rintro ⟨⟩) (by rintro _ ⟨⟩)
        (by rintro ⟨⟩)
    · rw [show assertChangeCanClose latest = .error _ from if_neg hpermits]
      exact trivial
  · have hcheck : (TransitionGuard.changeClose.check record payload.targetState).AllCalls
        fun op ↦ ¬(caseGate c v).acts op := by
      rw [TransitionGuard.check]
      split_ifs
      · exact (Program.AllCalls.perform (by rintro ⟨⟩)).bind fun _ ↦ .ofExcept _
      · exact .ret _
    refine .of_not_acts (hcheck.bind fun _ ↦ Program.AllCalls.ofExcept_bind fun updated hupdated ↦ ?_)
    refine writeTransition_calls (fun hacts ↦ hcloses ?_) (by rintro ⟨⟩)
      (by rintro _ ⟨⟩) (by rintro ⟨⟩)
    have hstate := (ServiceCase.transitionTo_eq_ok hupdated).2
    injection hacts with hcase _ hclosed
    exact ⟨hcase, hstate.symm.trans hclosed⟩

theorem ready_transition (cfg : OpConfig) (caseId : String) (payload : TransitionRequest)
    (correlationId : String) :
    (caseGate c v).Ready
      (transitionServiceCase cfg.toConfig caseId payload correlationId) := by
  refine .perform_bind (by rintro ⟨⟩) fun o _ ↦ ?_
  split
  next event =>
    refine .of_not_acts ((Program.AllCalls.ofExcept _).bind fun _ ↦ ?_)
    refine (Program.AllCalls.perform (by rintro ⟨⟩)).bind fun o ↦ ?_
    split
    · exact .raise _
    · exact .ret _
  next =>
    refine .perform_bind (by rintro ⟨⟩) fun o ho ↦ ?_
    split
    · exact .raise _
    next record =>
      obtain ⟨hid, htype⟩ := ho
      refine .ofExcept_bind fun _ _ ↦ .ofExcept_bind fun domain _ ↦ .ofExcept_bind fun _ _ ↦ ?_
      rw [forM_guards_bind]
      refine .bind (.of_not_acts ?_) fun _ ↦ ready_guarded c v hid htype
      rw [TransitionGuard.check]
      split_ifs
      · exact (Program.AllCalls.perform (by rintro ⟨⟩)).bind fun _ ↦ .ofExcept _
      · exact .ret _

/-- **No operation closes a change before it has looked at the evidence.** -/
theorem ready_opCode (cfg : OpConfig) (r : OpRequest) :
    (closingGate c v).Ready (opCode cfg r) := by
  have hside : r.eventType ≠ .stateTransitioned → (closingGate c v).Ready (opCode cfg r) := by
    intro ht
    refine .of_not_acts ((opCode_calls cfg r).imp fun op hop hacts ↦ ?_)
    cases op with
    | base op =>
      cases (hacts : op = _)
      exact ht hop
    | _ => exact hacts
  cases r with
  | transition caseId payload correlationId =>
    refine .bind ?_ fun _ ↦ .ret _
    have htransition := ready_transition c v cfg caseId payload correlationId
    exact Gate.Ready.embed (f := OpStmt.base) (g := fun _ r ↦ r) (fun _ h ↦ h) (fun _ ↦ Iff.rfl)
      (fun _ _ h ↦ h) (fun _ _ h ↦ h) htransition
  | _ => exact hside (fun h ↦ nomatch h)

end Ready

/-! ## What the statements do to the cases -/

/-- **What a statement does to the cases.** -/
theorem exec_case_cases (i : ℕ) (op : Stmt) (e : Env) (db : Db) :
    (exec i op e db).1 = db ∨ (exec i op e db).1 = db.rollback i ∨
    (∃ r, (exec i op e db).1 = db.stage i (.insertCase r)) ∨
    (∃ c v st r, op = .updateCase c v st ∧ db.rowLocked i c = false ∧ db.getCase c = some r ∧
      r.version = v ∧ (exec i op e db).1 = db.stage i (.updateCase c st (v + 1) e.now)) ∨
    ∃ ev, (exec i op e db).1 = { (match db.pendingOf i with
      | none => db
      | some w => db.apply w).rollback i with events := db.events ++ [ev] } := by
  cases op with
  | flushCase record =>
    change (Db.flushCase _ _ _).1 = _ ∨ (Db.flushCase _ _ _).1 = _ ∨
      (∃ r, (Db.flushCase _ _ _).1 = _) ∨ _
    rw [Db.flushCase]
    split_ifs
    · exact .inl rfl
    · exact .inl rfl
    · exact .inr (.inr (.inl ⟨_, rfl⟩))
  | updateCase c v st =>
    change (Db.updateCase _ _ _ _ _ _).1 = _ ∨ (Db.updateCase _ _ _ _ _ _).1 = _ ∨
      (∃ r, (Db.updateCase _ _ _ _ _ _).1 = _) ∨
      (∃ c v st r, _ ∧ _ ∧ _ ∧ _ ∧ (Db.updateCase _ _ _ _ _ _).1 = _) ∨ _
    rw [Db.updateCase]
    split
    · exact .inl rfl
    next hlocked =>
      split
      · exact .inl rfl
      next r hr =>
        split
        next hv =>
          exact .inr (.inr (.inr (.inl
            ⟨c, v, st, r, rfl, Bool.eq_false_iff.mpr hlocked, hr, hv, rfl⟩)))
        · exact .inl rfl
  | commit ev =>
    change (Db.commit _ _ _).1 = _ ∨ (Db.commit _ _ _).1 = _ ∨ (∃ r, (Db.commit _ _ _).1 = _) ∨ _ ∨
      ∃ ev', (Db.commit _ _ _).1 = _
    rw [Db.commit]
    split_ifs
    · exact .inl rfl
    · exact .inr (.inr (.inr (.inr ⟨ev e.now, rfl⟩)))
  | rollback => exact .inr (.inl rfl)
  | _ => exact .inl rfl

/-- A pending update is of a row that is there, with a larger version, and of one session only. -/
structure Locked (db : Db) : Prop where
  row : ∀ {i c st v t}, db.pendingOf i = some (.updateCase c st v t) →
    ∃ r, db.getCase c = some r ∧ r.version < v
  exclusive : ∀ {i j c st v t st' v' t'}, db.pendingOf i = some (.updateCase c st v t) →
    db.pendingOf j = some (.updateCase c st' v' t') → i = j

/-- The row of a case after the commit of a pending write. -/
theorem getCase_apply (db : Db) (w : Pending) (c : String) :
    (db.apply w).getCase c = match w with
      | .insertCase r => (db.getCase c).or (if r.caseId = c then some r else none)
      | .updateCase c' state version updatedAt =>
        if c = c' then (db.getCase c').map fun r ↦ { r with state, version, updatedAt }
        else db.getCase c := by
  cases w with
  | insertCase r => exact Table.lookup_concat r db.cases
  | updateCase c' state version updatedAt =>
    let set (r : CaseRecord) : CaseRecord := { r with state, version, updatedAt }
    have hset : ∀ r, r.caseId = c' → (set r).caseId = c' := fun _ hr ↦ hr
    exact Table.lookup_update hset db.cases

/-- Rows keep their type, and their versions do not decrease. -/
def RowsGrow (db db' : Db) : Prop :=
  ∀ c r, db.getCase c = some r →
    ∃ r', db'.getCase c = some r' ∧ r'.caseType = r.caseType ∧ r.version ≤ r'.version

theorem RowsGrow.refl (db : Db) : RowsGrow db db := fun _ r hr ↦ ⟨r, hr, rfl, le_rfl⟩

theorem rowsGrow_apply {db : Db} (h : Locked db) {i : ℕ} {w : Pending}
    (hw : db.pendingOf i = some w) : RowsGrow db (db.apply w) := by
  intro c r hr
  rw [getCase_apply]
  cases w with
  | insertCase r' => exact ⟨r, by rw [hr]; rfl, rfl, le_rfl⟩
  | updateCase c' st v t =>
    by_cases hc : c = c'
    · subst hc
      obtain ⟨r', hr', hlt⟩ := h.row hw
      cases hr.symm.trans hr'
      refine ⟨{ r with state := st, version := v, updatedAt := t }, ?_, rfl, hlt.le⟩
      simp only [if_pos, hr, Option.map_some]
    · exact ⟨r, by simp only [if_neg hc, hr], rfl, le_rfl⟩

/-- Fewer pending writes over the same rows. -/
theorem Locked.of_pending {db db' : Db} (h : Locked db) (hrows : db'.cases = db.cases)
    (hpending : ∀ {j c st v t}, db'.pendingOf j = some (.updateCase c st v t) →
      db.pendingOf j = some (.updateCase c st v t)) : Locked db' := by
  refine ⟨fun hw ↦ ?_, fun hw hw' ↦ h.exclusive (hpending hw) (hpending hw')⟩
  rw [Db.getCase, hrows]
  exact h.row (hpending hw)

theorem pendingOf_of_rollback {db : Db} {i j : ℕ} {w : Pending}
    (h : (db.rollback i).pendingOf j = some w) : j ≠ i ∧ db.pendingOf j = some w := by
  rw [pendingOf_rollback] at h
  split_ifs at h with hj
  exact ⟨hj, h⟩

theorem Locked.rollback {db : Db} (h : Locked db) (i : ℕ) : Locked (db.rollback i) :=
  h.of_pending rfl fun hw ↦ (pendingOf_of_rollback hw).2

/-- The commit of a pending write. -/
theorem Locked.commit {db : Db} (h : Locked db) {i : ℕ} {w : Pending}
    (hw : db.pendingOf i = some w) : Locked ((db.apply w).rollback i) := by
  have hpending : ∀ {j x}, ((db.apply w).rollback i).pendingOf j = some x →
      j ≠ i ∧ db.pendingOf j = some x := by
    intro j x hx
    obtain ⟨hj, hx⟩ := pendingOf_of_rollback hx
    cases w <;> exact ⟨hj, hx⟩
  refine ⟨fun {j c st v t} hx ↦ ?_, fun hx hx' ↦ h.exclusive (hpending hx).2 (hpending hx').2⟩
  obtain ⟨hj, hold⟩ := hpending hx
  obtain ⟨r, hr, hlt⟩ := h.row hold
  change ∃ r, (db.apply w).getCase c = some r ∧ r.version < v
  rw [getCase_apply]
  refine ⟨r, ?_, hlt⟩
  cases w with
  | insertCase r' => rw [hr]; rfl
  | updateCase c' st' v' t' =>
    -- the two pending updates are of different cases
    have hc : c ≠ c' := by
      rintro rfl
      exact hj (h.exclusive hold hw)
    simp only [if_neg hc, hr]

/-- **A statement keeps the locks, and rows only grow.** -/
theorem Locked.exec {db : Db} (h : Locked db) (i : ℕ) (op : Stmt) (e : Env) :
    Locked (exec i op e db).1 ∧ RowsGrow db (exec i op e db).1 := by
  obtain hexec | hexec | ⟨r, hexec⟩ | ⟨c, v, st, r, -, hlocked, hr, hv, hexec⟩ | ⟨ev, hexec⟩ :=
    exec_case_cases i op e db
  all_goals rw [hexec]
  · exact ⟨h, RowsGrow.refl db⟩
  · exact ⟨h.rollback i, RowsGrow.refl db⟩
  · refine ⟨h.of_pending rfl fun {j c st v t} hw ↦ ?_, RowsGrow.refl db⟩
    rw [pendingOf_stage] at hw
    split_ifs at hw
    · cases hw
    · exact hw
  · refine ⟨⟨fun {j c' st' v' t'} hw ↦ ?_, fun {j j' c' st₁ v₁ t₁ st₂ v₂ t₂} hw hw' ↦ ?_⟩,
      RowsGrow.refl db⟩
    · rw [pendingOf_stage] at hw
      split_ifs at hw
      · cases hw
        exact ⟨r, hr, by omega⟩
      · exact h.row hw
    · rw [pendingOf_stage] at hw hw'
      split_ifs at hw hw' with hj hj' hj'
      · exact hj.trans hj'.symm
      · cases hw
        exact absurd hw' (rowLocked_eq_false hlocked hj')
      · cases hw'
        exact absurd hw (rowLocked_eq_false hlocked hj)
      · exact h.exclusive hw hw'
  · rcases hw : db.pendingOf i with _ | w
    · exact ⟨(h.rollback i).of_pending rfl fun hw ↦ hw, RowsGrow.refl db⟩
    · exact ⟨(h.commit hw).of_pending rfl fun hw ↦ hw, rowsGrow_apply h hw⟩

/-! ## Sessions past the guard -/

/-- If there is the case, it is a change. -/
def IsChange (c : String) (db : Tables) : Prop :=
  ∀ r, db.getCase c = some r → r.caseType = .change

/-- A session that expects version `v` of the case may close it, or will not do so any more. -/
def MayClose (c : String) (v : ℕ) (db : Tables) : Prop :=
  db.PermitsClose c ∨ ∃ r, db.getCase c = some r ∧ v < r.version

/-- A session has passed the closing guard of a case for its version and has not yet committed. -/
def PastGuard (p : OpSessions) (c : String) : Prop :=
  (∃ i v t, p.store.pendingOf i = some (.updateCase c .closed v t)) ∨
    ∃ i q v, p.task i = some q ∧ ¬(closingGate c v).Shut q ∧
      ∀ r, p.store.getCase c = some r → r.version ≤ v

/-- No evidence that takes the permission to close away is committed while a session is past the
closing guard of its case. -/
def Undisturbed (p : OpSessions) (x : ℕ × OpStmt × OpEnv) : Prop :=
  ∀ r ev, p.store.committed x = some (.evidence r, ev) → p.store.PermitsClose r.caseId →
    (p.store.written (.evidence r)).PermitsClose r.caseId ∨ ¬PastGuard p r.caseId

section Step

variable {db : Tables} {c : String} {v : ℕ}

theorem locked_exec (h : Locked db.toDb) (i : ℕ) (op : OpStmt) (e : OpEnv) :
    Locked (opMachine.exec i op e db).1.toDb ∧
      RowsGrow db.toDb (opMachine.exec i op e db).1.toDb := by
  cases op with
  | base op => exact h.exec i op _
  | commit write event =>
    change Locked (db.commit _ _).1.toDb ∧ RowsGrow db.toDb (db.commit _ _).1.toDb
    obtain hfst | hfst := commit_fst db (write e.now) (event e.now)
    · rw [hfst]
      exact ⟨h, RowsGrow.refl _⟩
    · rw [hfst]
      cases write e.now <;> exact ⟨h.of_pending rfl fun hw ↦ hw, RowsGrow.refl _⟩
  | _ => exact ⟨h, RowsGrow.refl _⟩

theorem IsChange.of_rowsGrow {db' : Tables} (h : IsChange c db')
    (hgrow : RowsGrow db.toDb db'.toDb) : IsChange c db := by
  intro r hr
  obtain ⟨r', hr', htype, -⟩ := hgrow c r hr
  rw [← htype]
  exact h r' hr'

/-- Evidence of another case. -/
theorem latestEvidence_written_of_ne {r : ChangeEvidence} (h : r.caseId ≠ c) :
    (db.written (.evidence r)).latestEvidence c = db.latestEvidence c := by
  have hfilter : (db.evidences ++ [r]).filter (fun x ↦ decide (x.caseId = c))
      = db.evidences.filter fun x ↦ decide (x.caseId = c) := by
    rw [List.filter_append, List.filter_singleton, decide_eq_false h]
    exact List.append_nil _
  exact congrArg (Table.least ChangeEvidence.newestFirst) hfilter

/-- The permission to close a case is lost only to evidence of that case. -/
theorem permitsClose_exec {t : EventType} {op : OpStmt} (hop : op.Logs t) (i : ℕ) (e : OpEnv)
    (h : db.PermitsClose c) : (opMachine.exec i op e db).1.PermitsClose c ∨
      ∃ r ev, db.committed (i, op, e) = some (.evidence r, ev) ∧ r.caseId = c ∧
        ¬(db.written (.evidence r)).PermitsClose c := by
  obtain ⟨-, d, hexec, -⟩ | ⟨w, ev, hsome, hexec, -⟩ := exec_cases hop i e db
  · rw [hexec]
    exact .inl h
  · rw [hexec]
    cases w with
    | evidence r =>
      by_cases hcase : r.caseId = c
      · by_cases hafter : (db.written (.evidence r)).PermitsClose c
        · exact .inl hafter
        · exact .inr ⟨r, ev, hsome, hcase, hafter⟩
      · left
        change (Option.any _ ((db.written (.evidence r)).latestEvidence c)) = true
        rw [latestEvidence_written_of_ne hcase]
        exact h
    | _ => exact .inl h

/-- A look that permits finds the permission. -/
theorem permitsClose_of_look {i : ℕ} {op : OpStmt} {e : OpEnv} (hlook : (closingGate c v).looks op)
    (hpermits : (closingGate c v).permits op (opMachine.exec i op e db).2) :
    (opMachine.exec i op e db).1.PermitsClose c := by
  cases op with
  | base op =>
    cases (hlook : op = _)
    change (db.latestEvidence c).map (fun r ↦ r.execution.status) = some .passed ∨
      (db.latestEvidence c).map (fun r ↦ r.execution.status) = some .rolledBack at hpermits
    change (db.latestEvidence c).any (fun r ↦ r.execution.allowsClose) = true
    cases hlatest : db.latestEvidence c with
    | none =>
      rw [hlatest] at hpermits
      rcases hpermits with h | h <;> cases h
    | some r =>
      rw [hlatest, Option.map_some, Option.some_inj, Option.some_inj] at hpermits
      simpa [ChangeExecutionEvidence.allowsClose] using hpermits
  | _ => exact hlook.elim

/-- On a database with the change, a query of its row answers the row of a change. -/
theorem possible_exec (h : IsChange c db) (i : ℕ) (op : OpStmt) (e : OpEnv) :
    (closingGate c v).possible op (opMachine.exec i op e db).2 := by
  cases op with
  | base op =>
    cases op with
    | getCase c' =>
      change (caseGate c v).possible (.getCase c') (.ok (db.getCase c'))
      cases hr : db.getCase c' with
      | none => exact trivial
      | some r =>
        refine ⟨Table.key_of_lookup hr, ?_⟩
        rintro rfl
        exact h r hr
    | _ => exact trivial
  | _ => exact trivial

end Step

/-! ## Whole runs -/

/-- The operations in which no evidence disturbs a session past the closing guard. -/
def undisturbed (cfg : OpConfig) : TransitionSystem OpSessions OpMove :=
  (operations cfg).restrict fun p m ↦ ∀ x ∈ p.nextCall m.1, Undisturbed p x

/-- What holds of the sessions: a pending update that closes a change is permitted, and so is every
session past the closing guard. -/
structure Guarded (p : OpSessions) : Prop where
  locked : Locked p.store.toDb
  watched : ∀ c v, Pool.Watched (closingGate c v) (IsChange c) (MayClose c v) p
  pending : ∀ {c}, IsChange c p.store → ∀ {i v t},
    p.store.pendingOf i = some (.updateCase c .closed v t) → p.store.PermitsClose c

theorem guarded_init : Guarded ⟨{}, fun _ ↦ none⟩ where
  locked := ⟨fun hw ↦ (nomatch hw), fun hw ↦ (nomatch hw)⟩
  watched _ _ _ _ _ hq := nomatch hq
  pending _ _ _ _ hw := nomatch hw

section Run

variable {cfg : OpConfig} {p : OpSessions}

/-- A call of a session leaves a session past the guard what it needs. -/
theorem quiet_of_undisturbed (h : Guarded p) {t : EventType} {i : ℕ} {op : OpStmt} {e : OpEnv}
    (hop : op.Logs t) (hundisturbed : Undisturbed p (i, op, e)) (c : String) (v : ℕ) :
    Pool.Quiet opMachine (closingGate c v) (MayClose c v) p (i, op, e) := by
  have hgrow := (locked_exec h.locked i op e).2
  -- a session that expects an older version stays out of date
  have hold : (∃ r, p.store.getCase c = some r ∧ v < r.version) →
      MayClose c v (opMachine.exec i op e p.store).1 := by
    rintro ⟨r, hr, hlt⟩
    obtain ⟨r', hr', -, hle⟩ := hgrow c r hr
    exact .inr ⟨r', hr', hlt.trans_le hle⟩
  rintro (hpermits | houtdated)
  · obtain hafter | ⟨r, ev, hsome, hcase, hlost⟩ := permitsClose_exec hop i e hpermits
    · exact .inl (.inl hafter)
    · subst hcase
      by_cases houtdated : ∃ r', p.store.getCase r.caseId = some r' ∧ v < r'.version
      · exact .inl (hold houtdated)
      · right
        intro j q hq
        left
        by_contra hopen
        have hnot := (hundisturbed r ev hsome hpermits).resolve_left hlost
        refine hnot (.inr ⟨j, q, v, hq, hopen, fun r' hr' ↦ ?_⟩)
        by_contra hlt
        exact houtdated ⟨r', hr', by omega⟩
  · exact .inl (hold houtdated)

/-- The pending updates after a call of session `i`. -/
theorem pending_exec (h : Guarded p) {t : EventType} {i : ℕ} {op : OpStmt} {e : OpEnv}
    {k : Except RsmError op.Ans → OpProgram (Row × Bool)} (htask : p.task i = some (.call op k))
    (hop : op.Logs t) (hundisturbed : Undisturbed p (i, op, e)) {c : String}
    (hchange : IsChange c p.store) {j v : ℕ} {now : DateTime}
    (hw : (opMachine.exec i op e p.store).1.pendingOf j = some (.updateCase c .closed v now)) :
    (opMachine.exec i op e p.store).1.PermitsClose c := by
  cases op with
  | base op =>
    -- evidence stays as it is; either the update was pending before, or it is of this call
    have hkeep : ∀ {d : Db}, p.store.PermitsClose c → Tables.PermitsClose { p.store with toDb := d } c :=
      fun hpermits ↦ hpermits
    change Db.pendingOf (exec i op (p.store.envOf e op) p.store.toDb).1 j = _ at hw
    obtain hexec | hexec | ⟨r, hexec⟩ | ⟨c', v', st, r, rfl, -, hr, hv, hexec⟩ | ⟨ev, hexec⟩ :=
      exec_case_cases i op (p.store.envOf e op) p.store.toDb
    all_goals rw [hexec] at hw
    · exact hkeep (h.pending hchange hw)
    · exact hkeep (h.pending hchange (pendingOf_of_rollback hw).2)
    · rw [pendingOf_stage] at hw
      split_ifs at hw
      · cases hw
      · exact hkeep (h.pending hchange hw)
    · rw [pendingOf_stage] at hw
      split_ifs at hw
      · cases hw
        obtain hpermits | ⟨r', hr', hlt⟩ := (h.watched c v').ok_of_acts hchange htask rfl
        · exact hkeep hpermits
        · cases hr.symm.trans hr'
          omega
      · exact hkeep (h.pending hchange hw)
    · obtain ⟨-, hw⟩ := pendingOf_of_rollback (show Db.pendingOf (Db.rollback _ i) j = _ from hw)
      cases hpending : p.store.pendingOf i with
      | none =>
        rw [hpending] at hw
        exact hkeep (h.pending hchange hw)
      | some w =>
        rw [hpending] at hw
        cases w <;> exact hkeep (h.pending hchange hw)
  | commit write event =>
    have hold : p.store.pendingOf j = some (.updateCase c .closed v now) := by
      change Db.pendingOf (p.store.commit _ _).1.toDb j = _ at hw
      obtain hfst | hfst := commit_fst p.store (write e.now) (event e.now)
      · rw [hfst] at hw
        exact hw
      · rw [hfst] at hw
        cases hwrite : write e.now <;> rw [hwrite] at hw <;> exact hw
    have hpermits := h.pending hchange hold
    obtain hafter | ⟨r, ev, hsome, rfl, hlost⟩ := permitsClose_exec hop i e hpermits
    · exact hafter
    · exact absurd (.inl ⟨j, v, now, hold⟩)
        ((hundisturbed r ev hsome hpermits).resolve_left hlost)
  | _ => exact h.pending hchange hw

/-- **One move.** -/
theorem Guarded.step {p' : OpSessions} {m : OpMove} (h : Guarded p)
    (hcalls : ∀ i q, p.task i = some q → q.AllCalls fun op ↦ ∃ t, op.Logs t)
    (hstep : (operations cfg).step p m p')
    (hundisturbed : ∀ x ∈ p.nextCall m.1, Undisturbed p x) : Guarded p' := by
  have hrows : Locked p'.store.toDb ∧ RowsGrow p.store.toDb p'.store.toDb := by
    rw [Pool.step_eq hstep]
    obtain ⟨-, hm⟩ | ⟨i, r, -, hm⟩ | ⟨i, op, e, k, -, -, hm⟩ | ⟨i, -, hm⟩ :=
      Pool.move_cases (opCode cfg) opMachine m.1 p
    all_goals rw [hm]
    · exact ⟨h.locked, RowsGrow.refl _⟩
    · exact ⟨h.locked, RowsGrow.refl _⟩
    · exact locked_exec h.locked i op e
    · exact ⟨h.locked.rollback i, RowsGrow.refl _⟩
  refine ⟨hrows.1, fun c v ↦ ?_, fun {c} hchange {j v now} hw ↦ ?_⟩
  · refine (h.watched c v).step (ready_opCode c v cfg) (fun hok ↦ hok)
      (fun hdom ↦ possible_exec hdom _ _ _)
      (fun _ hlook hpermits ↦ .inl (permitsClose_of_look hlook hpermits)) hstep
      (fun hdom ↦ hdom.of_rowsGrow hrows.2) fun x hx ↦ ?_
    obtain ⟨i, op, e⟩ := x
    obtain ⟨k, htask⟩ := Pool.task_of_nextCall hx
    obtain ⟨t, hop⟩ := (hcalls i _ htask).op
    exact quiet_of_undisturbed h hop (hundisturbed _ hx) c v
  · have hold := hchange.of_rowsGrow hrows.2
    rw [Pool.step_eq hstep] at hw ⊢
    obtain ⟨-, hm⟩ | ⟨i, r, -, hm⟩ | ⟨i, op, e, k, hcall, htask, hm⟩ | ⟨i, -, hm⟩ :=
      Pool.move_cases (opCode cfg) opMachine m.1 p
    all_goals rw [hm] at hw ⊢
    · exact h.pending hold hw
    · exact h.pending hold hw
    · obtain ⟨t, hop⟩ := (hcalls i _ htask).op
      exact pending_exec h htask hop (hundisturbed _ hcall) hold hw
    · exact h.pending hold (pendingOf_of_rollback hw).2

theorem guarded_of_run {tr : List OpMove} (h : (undisturbed cfg).Run tr p) : Guarded p := by
  refine TransitionSystem.Run.traceInvariant (I := fun _ p ↦ Guarded p) (fun hinit ↦ ?_)
    (fun {tr p m p'} hrun hp hstep ↦ ?_) h
  · rw [show _ = _ from hinit]
    exact guarded_init
  · exact hp.step (Pool.allCalls_of_run (opCode_logs cfg) hrun.of_restrict) hstep.2 hstep.1

/-- A case that becomes `CLOSED` had a pending update to that state. -/
theorem exists_pending_of_closed {p' : OpSessions} {m : OpMove}
    (hstep : (operations cfg).step p m p') {c : String} {r r' : CaseRecord}
    (hr : p.store.getCase c = some r) (hopen : r.state ≠ .closed)
    (hr' : p'.store.getCase c = some r') (hclosed : r'.state = .closed) :
    (∃ i v t, p.store.pendingOf i = some (.updateCase c .closed v t)) ∧
      p'.store.evidences = p.store.evidences := by
  -- whatever leaves the rows alone does not close the case
  have hsame : p'.store.cases = p.store.cases →
      (∃ i v t, p.store.pendingOf i = some (.updateCase c .closed v t)) ∧
        p'.store.evidences = p.store.evidences := by
    intro hcases
    rw [Db.getCase, hcases] at hr'
    cases hr.symm.trans hr'
    exact absurd hclosed hopen
  rw [Pool.step_eq hstep] at hr' hsame ⊢
  obtain ⟨-, hm⟩ | ⟨i, q, -, hm⟩ | ⟨i, op, e, k, -, -, hm⟩ | ⟨i, -, hm⟩ :=
    Pool.move_cases (opCode cfg) opMachine m.1 p
  all_goals rw [hm] at hr' hsame ⊢
  · exact hsame rfl
  · exact hsame rfl
  · cases op with
    | base op =>
      obtain hexec | hexec | ⟨_, hexec⟩ | ⟨_, _, _, _, -, -, -, -, hexec⟩ | ⟨ev, hexec⟩ :=
        exec_case_cases i op (p.store.envOf e op) p.store.toDb
      · exact hsame ((congrArg Db.cases hexec).trans rfl)
      · exact hsame ((congrArg Db.cases hexec).trans rfl)
      · exact hsame ((congrArg Db.cases hexec).trans rfl)
      · exact hsame ((congrArg Db.cases hexec).trans rfl)
      · refine ⟨?_, rfl⟩
        cases hpending : p.store.pendingOf i with
        | none =>
          rw [hpending] at hexec
          exact (hsame ((congrArg Db.cases hexec).trans rfl)).1
        | some w =>
          rw [hpending] at hexec
          have hrow : (p.store.toDb.apply w).getCase c = some r' := by
            rw [← hr']
            exact (congrArg (fun d : Db ↦ d.getCase c) hexec).symm
          rw [getCase_apply] at hrow
          cases w with
          | insertCase new =>
            rw [hr] at hrow
            cases hrow
            exact absurd hclosed hopen
          | updateCase c' st v t =>
            by_cases hc : c = c'
            · subst hc
              simp only [if_pos, hr, Option.map_some, Option.some_inj] at hrow
              subst hrow
              exact ⟨i, v, t, by rw [hpending, show st = .closed from hclosed]⟩
            · simp only [if_neg hc, hr, Option.some_inj] at hrow
              subst hrow
              exact absurd hclosed hopen
    | commit write event =>
      refine hsame ?_
      change (p.store.commit _ _).1.cases = _
      obtain hfst | hfst := commit_fst p.store (write e.now) (event e.now)
      · rw [hfst]
      · rw [hfst]
        cases write e.now <;> rfl
    | _ => exact hsame rfl
  · exact hsame rfl

/-- **A change closes over evidence that permits it**, in every run in which no evidence that takes
the permission away is committed while a session is past the closing guard of its case. -/
theorem change_closes_permitted (cfg : OpConfig) {tr : List OpMove} {p : OpSessions}
    (h : (undisturbed cfg).Run tr p) :
    ∀ m p', (operations cfg).step p m p' → ClosesPermitted p.store p'.store := by
  intro m p' hstep c r r' hr htype hopen hr' hclosed
  obtain ⟨⟨i, v, t, hpending⟩, hevidences⟩ := exists_pending_of_closed hstep hr hopen hr' hclosed
  have hchange : IsChange c p.store := by
    intro x hx
    cases hr.symm.trans hx
    exact htype
  rw [Tables.PermitsClose, Tables.latestEvidence, hevidences]
  exact (guarded_of_run h).pending hchange hpending

end Run

/-! ## A change of the small help desk -/

/-- The evidence of a deployment, observed at noon in the given offset from UTC. -/
def sampleEvidence (status : ChangeValidationStatus) (eventId : String) (offset : ℤ) :
    EvidenceRequest where
  eventId := eventId
  requirementRef := "REQ-1"
  sddRef := "SDD-1"
  pullRequestRef := "PR-1"
  headSha := "aaaaaaaaaaaaaaaaaaaaaaaaaaaaaaaaaaaaaaaa"
  ciRunId := "run-1"
  deploymentRef := "deploy-1"
  environment := "prod"
  runtimeSha := "aaaaaaaaaaaaaaaaaaaaaaaaaaaaaaaaaaaaaaaa"
  postDeployEvidenceUri := "uri-1"
  postDeployEvidenceSha256 := sampleCreate.idempotencyKey
  status := status
  observedAt := ⟨sampleEnv.now, some offset⟩
  text_length := by decide +kernel
  sha_pattern := by decide +kernel
  sha256_pattern := by decide +kernel

/-- The transition that resolves the case, with its evidence. -/
def sampleResolution : TransitionRequest where
  targetState := .resolved
  expectedVersion := 3
  eventId := "t-3"
  evidenceUri := some "uri-0"
  evidenceSha256 := some sampleCreate.idempotencyKey
  expectedVersion_pos := Nat.le_add_left 1 2
  evidenceUri_length := by simp +decide
  evidenceSha256_hex := by
    rintro _ ⟨⟩
    exact sampleCreate.idempotencyKey_hex

/-- A change is resolved and its deployment passes. Session 1 then loads it to close it, up to and
including the closing guard. -/
def sampleClosing : List (Move OpRequest OpEnv) :=
  sampleAlone 0 (.create { sampleCreate with caseType := .change } "c-1")
    ++ sampleAlone 0 (.transition sampleCaseId (sampleTransition .triage 1 "t-1" Nat.one_pos) "c-2")
    ++ sampleAlone 0 (.transition sampleCaseId (sampleTransition .inProgress 2 "t-2") "c-3")
    ++ sampleAlone 0 (.transition sampleCaseId sampleResolution "c-4")
    ++ sampleAlone 0 (.evidence sampleCaseId (sampleEvidence .passed "v-1" 0) "c-5")
    ++ .start 1 (.transition sampleCaseId (sampleTransition .closed 4 "t-4") "c-6")
      :: List.replicate 3 (.advance 1 sampleOpEnv)

/-- The next call of session 1 after moves that may overlap. -/
def sampleNext (moves : List (Move OpRequest OpEnv)) : OpSessions :=
  (Pool.move (opCode sampleOpConfig) opMachine (.advance 1 sampleOpEnv)
    (sampleSessions moves).2).1

theorem step_sampleNext (moves : List (Move OpRequest OpEnv)) :
    ∃ m, (operations sampleOpConfig).step (sampleSessions moves).2 m (sampleNext moves) :=
  ⟨(.advance 1 sampleOpEnv, (Pool.move (opCode sampleOpConfig) opMachine (.advance 1 sampleOpEnv)
    (sampleSessions moves).2).2), rfl⟩

/-- Evidence that permits the closing of its case. -/
def Write.Permits (db : Tables) : Write → Prop
  | evidence r => (db.written (.evidence r)).PermitsClose r.caseId
  | _ => True

instance (db : Tables) : DecidablePred (Write.Permits db)
  | .evidence r => inferInstanceAs (Decidable ((db.written (.evidence r)).PermitsClose r.caseId))
  | .link _ | .rootCause _ | .sla _ | .assignment _ | .approval _ | .decision _ _ =>
    instDecidableTrue

/-- Evidence that permits disturbs no one. -/
theorem undisturbed_of_permits {cfg : OpConfig} {tr : List OpMove} {p : OpSessions}
    (h : ((operations cfg).restrict fun p m ↦ ∀ x ∈ p.nextCall m.1,
      ∀ c ∈ p.store.committed x, c.1.Permits p.store).Run tr p) : (undisturbed cfg).Run tr p :=
  h.restrict_mono fun _ _ hall x hx _ _ hsome _ ↦ .inl (hall x hx _ hsome)

theorem change_closes_permitted_passed :
    (sampleNext (sampleClosing ++ [.advance 1 sampleOpEnv])).store.cases.map CaseRecord.state
        = [.closed] ∧
      ClosesPermitted (sampleSessions (sampleClosing ++ [.advance 1 sampleOpEnv])).2.store
        (sampleNext (sampleClosing ++ [.advance 1 sampleOpEnv])).store := by
  -- the last move closes the case, and no commit on the way takes a permission away
  have hfacts : (sampleNext (sampleClosing ++ [.advance 1 sampleOpEnv])).store.cases.map
        CaseRecord.state = [.closed] ∧
      TransitionSystem.CallsMeet (Pool.move (opCode sampleOpConfig) opMachine)
        (fun p m ↦ ∀ x ∈ p.nextCall m.1, ∀ c ∈ p.store.committed x, c.1.Permits p.store)
        (sampleClosing ++ [.advance 1 sampleOpEnv]) ⟨{}, fun _ ↦ none⟩ := by decide +kernel
  refine ⟨hfacts.1, ?_⟩
  have hrun : (undisturbed sampleOpConfig).Run _
      (sampleSessions (sampleClosing ++ [.advance 1 sampleOpEnv])).2 :=
    undisturbed_of_permits (TransitionSystem.run_restrict_runCalls _ hfacts.2)
  obtain ⟨m, hstep⟩ := step_sampleNext (sampleClosing ++ [.advance 1 sampleOpEnv])
  exact change_closes_permitted sampleOpConfig hrun m _ hstep

/-- Session 2 records that the deployment failed while session 1 is past the guard. -/
def sampleFailing : List (Move OpRequest OpEnv) :=
  sampleClosing
    ++ sampleAlone 2 (.evidence sampleCaseId (sampleEvidence .failed "v-2" (-60)) "c-7")
    ++ [.advance 1 sampleOpEnv]

/-- Session 1 closes the change over the evidence of the failure. -/
theorem change_closes_over_failure :
    ∃ tr p m p', (operations sampleOpConfig).Run tr p ∧ (operations sampleOpConfig).step p m p' ∧
      ¬ClosesPermitted p.store p'.store := by
  obtain ⟨m, hstep⟩ := step_sampleNext sampleFailing
  refine ⟨_, _, m, _, run_sampleSessions sampleFailing, hstep, fun hpermitted ↦ ?_⟩
  have hfacts : ((sampleSessions sampleFailing).2.store.getCase sampleCaseId).map
        (fun r ↦ (r.caseType, r.state)) = some (.change, .resolved) ∧
      ((sampleNext sampleFailing).store.getCase sampleCaseId).map CaseRecord.state
        = some .closed ∧ ¬(sampleNext sampleFailing).store.PermitsClose sampleCaseId := by
    decide +kernel
  obtain ⟨hbefore, hafter, hfailed⟩ := hfacts
  obtain ⟨r, hr, htype⟩ := Option.map_eq_some_iff.mp hbefore
  obtain ⟨r', hr', hclosed⟩ := Option.map_eq_some_iff.mp hafter
  obtain ⟨htype, hstate⟩ := Prod.mk.inj htype
  have hopen : r.state ≠ .closed := by
    rw [hstate]
    decide
  exact hfailed (hpermitted _ r r' hr htype hopen hr' hclosed)

end ServiceCases

end ReqSys
