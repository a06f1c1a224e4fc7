import Mathlib
import ReqSys.ServiceCases.Provenance

/-!
# Service management: an approval is decided once

`decide_approval` loads the approval, checks that it is pending, and writes the decision with the
event that records it. The check is on the row that was loaded, and the update that the mapper sends
is addressed by the key alone. A session that loaded the approval before another one decided it
passes the check and overwrites the decision, its event beside the first one.

`approvals_decided_once` is the exact condition: as long as every decision that is committed still
finds its approval pending, a decided approval never changes again and the decision events of a case
are as many as its decided approvals; a commit that does not find it so breaks the count. That the
event is logged on the case of the approval holds in every interleaving, by `Provenance`.
-/

namespace ReqSys

namespace ServiceCases

/-- The decision events of a case are as many as its decided approvals. -/
def Tables.DecisionsCounted (db : Tables) : Prop :=
  ∀ c, db.decidedEvents c = db.decidedApprovals c

/-- The approvals that were decided are as they were. -/
def DecisionsKept (db db' : Tables) : Prop :=
  ∀ id a, db.getApproval id = some a → a.status ≠ .pending → db'.getApproval id = some a

theorem DecisionsKept.trans {db db' db'' : Tables} (h : DecisionsKept db db')
    (h' : DecisionsKept db' db'') : DecisionsKept db db'' :=
  fun id a ha hstatus ↦ h' id a (h id a ha hstatus) hstatus

/-- A decision finds its approval pending. -/
def Write.FindsPending (db : Tables) : Write → Prop
  | decision id _ => ∀ a ∈ db.getApproval id, a.status = .pending
  | _ => True

instance (db : Tables) : DecidablePred (Write.FindsPending db)
  | .decision id _ =>
    inferInstanceAs (Decidable (∀ a ∈ db.getApproval id, a.status = .pending))
  | .link _ | .rootCause _ | .sla _ | .assignment _ | .approval _ | .evidence _ =>
    instDecidableTrue

/-- What a call commits finds its approval pending. -/
def DecidesPending (db : Tables) (x : ℕ × OpStmt × OpEnv) : Prop :=
  ∀ c ∈ db.committed x, c.1.FindsPending db

instance (db : Tables) (x : ℕ × OpStmt × OpEnv) : Decidable (DecidesPending db x) :=
  inferInstanceAs (Decidable (∀ c ∈ db.committed x, c.1.FindsPending db))

/-! ## One statement -/

section Step

variable {db : Tables}

/-- A row other than a decision changes neither count. -/
theorem decisionsCounted_insert {w : Write} {ev : CaseEvent} (h : db.DecisionsCounted)
    (hw : ∀ id d, w ≠ .decision id d) (hproper : w.Proper) (htype : ev.eventType = w.eventType) :
    ((db.written w).logged ev).DecisionsCounted := by
  intro c
  have hevents : ((db.written w).logged ev).decidedEvents c = db.decidedEvents c := by
    rw [Tables.decidedEvents_concat db ((db.written w).logged ev) c (by cases w <;> rfl), htype]
    cases w with
    | decision id d => exact absurd rfl (hw id d)
    | _ => rfl
  have happrovals : ((db.written w).logged ev).decidedApprovals c = db.decidedApprovals c := by
    cases w with
    | approval r =>
      change (db.approvals ++ [r]).countP _ = _
      rw [List.countP_append, List.countP_singleton, Tables.decidedApprovals]
      have hpending : r.status = .pending := hproper
      simp [hpending]
    | decision id d => exact absurd rfl (hw id d)
    | _ => rfl
  rw [hevents, happrovals]
  exact h c

/-- A decision keeps the counts equal exactly when it finds its approval pending. -/
theorem decisionsCounted_decision {i : ℕ} (hI : Provenance db) (h : db.DecisionsCounted)
    {id : String} {a : CaseApproval} (ha : db.getApproval id = some a) {d : Decision}
    {ev : CaseEvent} (hd : d.status ≠ .pending) (htype : ev.eventType = .approvalDecided)
    (hkeeps : provenance.Keeps i db ((db.written (.decision id d)).logged ev)) :
    ((db.written (.decision id d)).logged ev).DecisionsCounted ↔ a.status = .pending := by
  have hcount := fun c ↦ decidedApprovals_decision hI.keyed ha hd ev c
  have hevents := fun c ↦
    Tables.decidedEvents_concat db ((db.written (.decision id d)).logged ev) c rfl
  have hgrown := (hkeeps.others (i + 1) (Nat.succ_ne_self i)).balance
  constructor
  · -- otherwise the event is one more than the approvals
    intro hafter
    by_contra hstatus
    have := hafter ev.caseId
    have := hcount ev.caseId
    have := hevents ev.caseId
    have := h ev.caseId
    rw [if_pos ⟨htype, rfl⟩] at *
    simp only [ne_eq, hstatus, not_false_eq_true, true_and] at *
    omega
  · intro hstatus
    -- the log did not fall behind, so the event is on the case of the approval
    have hcase : ev.caseId = a.caseId := by
      by_contra hne
      have := hgrown a.caseId
      have := hcount a.caseId
      have := hevents a.caseId
      simp only [hne, and_false, if_false] at *
      simp only [hstatus, ne_eq, not_true_eq_false, false_and, if_false, if_true] at *
      omega
    intro c
    have hc := hcount c
    have he := hevents c
    have := h c
    simp only [hstatus, ne_eq, not_true_eq_false, false_and, if_false] at hc
    simp only [htype, hcase, true_and] at he
    omega

theorem decisionsKept_written {w : Write} (ev : CaseEvent) (hw : w.FindsPending db) :
    DecisionsKept db ((db.written w).logged ev) := by
  intro id a ha hstatus
  cases w with
  | approval r =>
    change Table.lookup _ _ (db.approvals ++ [r]) = _
    rw [Table.lookup_concat, show Table.lookup _ _ db.approvals = some a from ha]
    rfl
  | decision id' d =>
    have hkey : ∀ r : CaseApproval, r.approvalId = id' → (r.decide d).approvalId = id' :=
      fun _ hr ↦ hr
    change Table.lookup _ _ (Table.update _ _ _ _) = _
    rw [Table.lookup_update hkey]
    by_cases hid : id = id'
    · exact absurd (hw a (hid ▸ ha)) hstatus
    · rw [if_neg hid]
      exact ha
  | _ => exact ha

variable {t : EventType} {op : OpStmt} {i : ℕ} {e : OpEnv}

theorem decisionsCounted_exec (hI : Provenance db) (h : db.DecisionsCounted) (hop : op.Logs t)
    (hkeeps : provenance.Keeps i db (opMachine.exec i op e db).1) :
    (opMachine.exec i op e db).1.DecisionsCounted ↔ DecidesPending db (i, op, e) := by
  obtain ⟨hnone, d, hexec, hevents⟩ | ⟨w, ev, hsome, hexec, htype, hwtype, hproper⟩ :=
    exec_cases hop i e db
  · refine iff_of_true (fun c ↦ ?_) (forall_committed_of_none hnone)
    rw [hexec]
    refine Eq.trans ?_ (h c)
    rcases hevents with hevents | ⟨hcase, ev, htype, hevents⟩
    · rw [Tables.decidedEvents, hevents, Tables.decidedEvents]
    · rw [Tables.decidedEvents_concat db { db with toDb := d } c hevents, htype]
      rcases hcase with rfl | rfl <;> rfl
  · rw [DecidesPending, forall_committed_iff hsome, hexec]
    rw [hexec] at hkeeps
    cases w with
    | decision id d =>
      have hfound : ∃ a, db.getApproval id = some a := by
        have hmissing := Tables.missing_of_committed hsome
        exact Option.isSome_iff_exists.mp (by simpa [Tables.missing] using hmissing)
      obtain ⟨a, ha⟩ := hfound
      rw [decisionsCounted_decision hI h ha hproper (htype.trans hwtype.symm) hkeeps]
      constructor
      · intro hstatus b hb
        cases ha.symm.trans hb
        exact hstatus
      · exact fun hall ↦ hall a ha
    | _ =>
      refine iff_of_true ?_ trivial
      exact decisionsCounted_insert h (by rintro _ _ ⟨⟩) hproper (htype.trans hwtype.symm)

theorem decisionsKept_exec (hop : op.Logs t) (hC : DecidesPending db (i, op, e)) :
    DecisionsKept db (opMachine.exec i op e db).1 := by
  obtain ⟨-, d, hexec, -⟩ | ⟨w, ev, hsome, hexec, -⟩ := exec_cases hop i e db
  · rw [hexec]
    exact fun id a ha _ ↦ ha
  · rw [hexec]
    exact decisionsKept_written ev ((forall_committed_iff hsome).mp hC)

end Step

/-! ## Whole runs -/

/-- The operations in which every decision that is committed finds its approval pending. -/
def pendingDecisions (cfg : OpConfig) : TransitionSystem OpSessions OpMove :=
  (operations cfg).restrict fun p m ↦ ∀ x ∈ p.nextCall m.1, DecidesPending p.store x

theorem decisionsKept_of_path (cfg : OpConfig) {tr tr' : List OpMove} {p p' : OpSessions}
    (h : (pendingDecisions cfg).Run tr p) (hpath : (pendingDecisions cfg).Path p tr' p') :
    DecisionsKept p.store p'.store := by
  refine Pool.rel_of_restrict (fun _ _ _ ha _ ↦ ha) (fun h h' ↦ h.trans h') (opCode_logs cfg)
    (fun hop hC ↦ ?_) (fun _ _ _ _ ha _ ↦ ha) h.of_restrict hpath
  obtain ⟨t, ht⟩ := hop
  exact decisionsKept_exec ht hC

/-- **An approval is decided once**, exactly as long as every decision that is committed finds its
approval pending. Then the decision events of every case are as many as its decided approvals, and a
decided approval never changes again; the first commit of a decision over another one breaks this.
-/
theorem approvals_decided_once (cfg : OpConfig) {tr : List OpMove} {p : OpSessions}
    (h : (pendingDecisions cfg).Run tr p) :
    p.store.DecisionsCounted ∧
      (∀ tr' p', (pendingDecisions cfg).Path p tr' p' → DecisionsKept p.store p'.store) ∧
      ∀ m p', (operations cfg).step p m p' →
        (p'.store.DecisionsCounted ∧ DecisionsKept p.store p'.store ↔
          ∀ x ∈ p.nextCall m.1, DecidesPending p.store x) := by
  obtain ⟨hcounted, hstep⟩ := Pool.invariant_iff_of_safe (D := provenance)
    (I := Tables.DecisionsCounted) (P := fun op ↦ ∃ t, op.Logs t) provenance_init
    (safe_opCode cfg) keeps_close (fun _ ↦ rfl) (opCode_logs cfg)
    (fun hI h hop hkeeps ↦ decisionsCounted_exec hI h hop.choose_spec hkeeps) (fun h ↦ h) h
  refine ⟨hcounted, fun tr' p' hpath ↦ decisionsKept_of_path cfg h hpath, fun m p' hmove ↦ ?_⟩
  rw [← hstep m p' hmove]
  refine and_iff_left_of_imp fun hcounted' ↦ ?_
  have hC := (hstep m p' hmove).mp hcounted'
  exact decisionsKept_of_path cfg h (.single ⟨hC, hmove⟩)

/-- The approval of a case is requested; session 2 loads it, session 1 approves it. -/
def sampleDecided : List (Move OpRequest OpEnv) :=
  sampleAlone 0 (.create sampleCreate "c-1")
    ++ sampleAlone 0 (.requestApproval sampleCaseId (sampleApproval "e-1") "c-2")
    ++ .start 2 (.decide sampleCaseId sampleCaseId (sampleDecision .rejected "e-3") "c-4")
      :: List.replicate 3 (.advance 2 sampleOpEnv)
    ++ sampleAlone 1 (.decide sampleCaseId sampleCaseId (sampleDecision .approved "e-2") "c-3")

theorem approvals_decided_once_approved :
    (sampleSessions sampleDecided).2.store.approvals.map CaseApproval.status = [.approved] ∧
      (sampleSessions sampleDecided).2.store.DecisionsCounted := by
  refine ⟨by decide +kernel, ?_⟩
  have hrun : (pendingDecisions sampleOpConfig).Run (sampleSessions sampleDecided).1
      (sampleSessions sampleDecided).2 :=
    TransitionSystem.run_restrict_runCalls _ (by decide +kernel)
  exact (approvals_decided_once sampleOpConfig hrun).1

/-- What is left after session 2 has committed its decision. -/
def sampleOverwritten : OpSessions :=
  (TransitionSystem.runCalls (Pool.move (opCode sampleOpConfig) opMachine)
    [.advance 2 sampleOpEnv] (sampleSessions sampleDecided).2).2

/-- Session 2 rejects the approved approval, and the log holds two decisions of one approval. -/
theorem approvals_decided_twice :
    ∃ tr p tr' p', (operations sampleOpConfig).Run tr p ∧
      (operations sampleOpConfig).Path p tr' p' ∧ ¬DecisionsKept p.store p'.store ∧
      ¬p'.store.DecisionsCounted := by
  refine ⟨_, (sampleSessions sampleDecided).2, _, sampleOverwritten, run_sampleSessions _,
    TransitionSystem.path_runCalls _ _ _ _, fun hkept ↦ ?_, fun hcounted ↦ ?_⟩
  · have hbefore : ((sampleSessions sampleDecided).2.store.getApproval sampleCaseId).map
        CaseApproval.status = some .approved := by decide +kernel
    have hafter : (sampleOverwritten.store.getApproval sampleCaseId).map
        CaseApproval.status = some .rejected := by decide +kernel
    obtain ⟨a, ha, hstatus⟩ := Option.map_eq_some_iff.mp hbefore
    rw [hkept sampleCaseId a ha (by rw [hstatus]; decide), Option.map_some, hstatus] at hafter
    cases hafter
  · have hevents : sampleOverwritten.store.decidedEvents sampleCaseId = 2 := by decide +kernel
    have hone : sampleOverwritten.store.decidedApprovals sampleCaseId = 1 := by decide +kernel
    have := hcounted sampleCaseId
    omega

end ServiceCases

end ReqSys
