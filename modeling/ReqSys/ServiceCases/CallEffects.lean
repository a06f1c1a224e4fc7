import ReqSys.Foundation.Serial
import ReqSys.ServiceCases.History
import ReqSys.ServiceCases.Statements

/-!
# Service management: what one call does

Every operation, run alone, has the same outcome (`alone_opCode`): it leaves the tables as they are
and is rejected or answered as a duplicate, or it writes one row and the one event that records it.
`Effect` says which row and which event a request writes; `result_of_step` is the outcome as a step
of the operations that run one after the other.

The proofs follow the programs. A program reads up to its commit, so what is left to see is that no
path answers with a fresh row without having committed it, and that the refresh after a commit finds
the row. The operations on the cases stage a row before they commit; from tables without pending
writes a rollback restores exactly what was there.
-/

namespace ReqSys

namespace ServiceCases

open Program

/-! ## The steps that the operations share -/

section Steps

variable {i : ℕ} {db : Tables}

theorem reads_caseOr (caseId message : String) :
    Reads opMachine i db (fun r ↦ db.getCase caseId = some r) (caseOr caseId message) := by
  refine (Reads.query (db.getCase caseId) fun _ ↦ rfl).seq ?_
  rintro _ rfl
  split
  next h => exact Reads.raise _
  next r h => exact Reads.ret h

theorem reads_eventExists (eventId : String) (expectedType : EventType) (caseId : String) :
    Reads opMachine i db (fun b ↦ b = false → db.getEvent eventId = none)
      (eventExists eventId expectedType caseId) := by
  refine (Reads.query (db.getEvent eventId) fun _ ↦ rfl).seq ?_
  rintro _ rfl
  split
  next h => exact Reads.ret fun _ ↦ h
  next existing h =>
    exact (Reads.ofExcept _).seq fun _ _ ↦ Reads.ret fun hb ↦ (nomatch hb)

theorem reads_eventUnused (eventId : String) :
    Reads opMachine i db (fun _ ↦ db.getEvent eventId = none) (eventUnused eventId) := by
  refine (Reads.query (db.getEvent eventId) fun _ ↦ rfl).seq ?_
  rintro _ rfl
  split
  next h => exact Reads.ret h
  next h => exact Reads.raise _

end Steps

/-! ## What a call leaves behind -/

/-- A commit that succeeds found no key taken. -/
theorem Tables.commit_eq_ok {db db' : Tables} {w : Write} {ev : CaseEvent}
    (h : db.commit w ev = (db', .ok ())) : db.missing w = false ∧ db.getEvent ev.eventId = none ∧
      db.taken w = false ∧ db' = (db.written w).logged ev := by
  rw [Tables.commit] at h
  split_ifs at h with hmissing htaken
  · cases h
  · cases h
  · cases h
    rw [Bool.or_eq_true, not_or, Bool.not_eq_true, Bool.not_eq_true] at htaken
    exact ⟨Bool.eq_false_iff.mpr hmissing, Option.isSome_eq_false_iff.mp htaken.1 |>
      Option.isNone_iff_eq_none.mp, htaken.2, rfl⟩

theorem Tables.commit_cases (db : Tables) (w : Write) (ev : CaseEvent) :
    (∃ x, db.commit w ev = (db, .error x)) ∨
      db.commit w ev = ((db.written w).logged ev, .ok ()) := by
  rw [Tables.commit]
  split_ifs
  · exact .inl ⟨_, rfl⟩
  · exact .inl ⟨_, rfl⟩
  · exact .inr rfl

theorem Tables.rollback_eq {db : Tables} (h : db.pending = []) (i : ℕ) :
    { db with toDb := db.toDb.rollback i } = db := by
  have hdb : db.toDb.rollback i = db.toDb := by
    rw [Db.rollback, h, List.filter_nil, ← h]
  rw [hdb]

/-- A call that is rejected or answered as a duplicate leaves the tables as they were; any other
leaves `E`. -/
def Result {α σ : Type} (db : σ) (E : α → σ → Prop) : Except RsmError (α × Bool) → σ → Prop
  | .ok (a, false), db' => E a db'
  | .ok (_, true), db' => db' = db
  | .error _, db' => db' = db

section Results

/-- A program that leaves the store alone and answers only duplicates. -/
theorem result_of_reads {Op α σ η : Type} {Ans : Op → Type} {M : Machine Ans RsmError σ η} {i : ℕ}
    {db : σ} {E : α → σ → Prop} {p : Program Ans RsmError (α × Bool)}
    (h : Reads M i db (fun a ↦ a.2 = true) p) : Alone M i db (Result db E) p := by
  refine Program.EndsIn.imp h ?_
  rintro (x | ⟨a, duplicate⟩) _ ⟨rfl, hr⟩
  · rfl
  · have hdup : duplicate = true := hr _ rfl
    subst hdup
    rfl

variable {α : Type} {i : ℕ} {db : Tables} {E : α → Tables → Prop}

theorem reads_replayed (o : Option α) (message : String) :
    Reads opMachine i db (fun a ↦ a.2 = true) (replayed o message) := by
  cases o with
  | none => exact Reads.raise _
  | some a => exact Reads.ret rfl

/-- The refresh finds the row that was committed. -/
theorem alone_refreshed {q : OpProgram (Option α)} {o : Option α}
    (hq : Alone opMachine i db (fun r db' ↦ db' = db ∧ r = .ok o) q) (ho : ∃ a, o = some a) :
    Alone opMachine i db (fun out db' ↦ db' = db ∧ ∃ a, out = .ok (a, false))
      (do refreshed (← q)) := by
  obtain ⟨a, rfl⟩ := ho
  refine Program.EndsIn.bind hq ?_ ?_
  · rintro o _ ⟨rfl, ho⟩
    cases ho
    exact ⟨rfl, a, rfl⟩
  · rintro x _ ⟨-, hx⟩
    cases hx

/-- **Row and event in one commit.** -/
theorem alone_commitOr {write : DateTime → Write} {event : DateTime → CaseEvent}
    {done collision : OpProgram (α × Bool)} (hpending : db.pending = [])
    (hdone : ∀ {now db'}, db.commit (write now) (event now) = (db', .ok ()) →
      Alone opMachine i db' (fun out s ↦ s = db' ∧ ∃ a, out = .ok (a, false)) done)
    (hE : ∀ {now db'} a, db.commit (write now) (event now) = (db', .ok ()) → E a db')
    (hcollision : Reads opMachine i db (fun a ↦ a.2 = true) collision) :
    Alone opMachine i db (Result db E) (commitOr write event done collision) := by
  have hcommit : Alone opMachine i db (fun r db' ↦ (∃ x, r = .error x ∧ db' = db) ∨
      ∃ now, r = .ok () ∧ db.commit (write now) (event now) = (db', .ok ()))
      (ask (.commit write event)) := by
    rintro _ e rfl -
    obtain ⟨x, h⟩ | h := db.commit_cases (write e.now) (event e.now)
    · change Program.EndsIn _ _ _ _ _ (Program.ofExcept (db.commit _ _).2) (db.commit _ _).1
      rw [h]
      exact .inl ⟨x, rfl, rfl⟩
    · change Program.EndsIn _ _ _ _ _ (Program.ofExcept (db.commit _ _).2) (db.commit _ _).1
      rw [h]
      exact .inr ⟨e.now, rfl, h⟩
  refine Program.EndsIn.attempt_bind hcommit ?_
  rintro r db' (⟨x, rfl, rfl⟩ | ⟨now, rfl, h⟩)
  · cases x with
    | integrity =>
      refine (Reads.query () fun e ↦ ?_).bind (fun _ ↦ rfl) fun _ _ ↦
        result_of_reads hcollision
      exact Prod.ext (Tables.rollback_eq hpending i) rfl
    | _ => rfl
  · refine (hdone h).imp ?_
    rintro _ s ⟨rfl, a, rfl⟩
    exact hE a h

end Results

/-! ## Requests and what they write -/

namespace OpRequest

def eventId : OpRequest → String
  | create p _ => p.eventId
  | transition _ p _ => p.eventId
  | link _ p _ => p.eventId
  | rootCause _ p _ => p.eventId
  | sla _ p _ => p.eventId
  | assign _ p _ => p.eventId
  | requestApproval _ p _ => p.eventId
  | decide _ _ p _ => p.eventId
  | evidence _ p _ => p.eventId

/-- What a request on the side tables writes, and on which case it logs it. -/
def Writes (cfg : OpConfig) (w : Write) (ev : CaseEvent) : OpRequest → Prop
  | create _ _ => False
  | transition _ _ _ => False
  | link _ _ _ => ∃ r, w = .link r
  | rootCause _ _ _ => ∃ r, w = .rootCause r
  | sla c _ _ => ev.caseId = c ∧ ∃ r, w = .sla r
  | assign c _ _ => ev.caseId = c ∧ ∃ r, w = .assignment r
  | requestApproval c _ _ => ev.caseId = c ∧ ∃ r, w = .approval r
  | decide c id _ _ => ev.caseId = c ∧ ∃ d, w = .decision id d
  | evidence c p _ =>
    ev.caseId = c ∧ ∃ r, w = .evidence r ∧ r.payloadSha256 = fingerprint cfg p

/-- What a request on the cases logs. -/
def Logs (row : Row) (ev : CaseEvent) : OpRequest → Prop
  | create _ _ => ev.toState = some .new ∧ ∃ r, row = .case r ∧ r.caseId = ev.caseId
  | transition c p _ => ev.caseId = c ∧ ev.toState = some p.targetState
  | _ => False

end OpRequest

/-- A write and the event that records it. A decision is one of an approval that is pending. -/
def Write.RecordedBy (db : Tables) (ev : CaseEvent) : Write → Prop
  | link r => ev.eventType = .incidentLinkedToProblem ∧ ev.eventId = r.eventId
      ∧ ev.caseId = r.incidentCaseId
  | rootCause r => ev.eventType = .problemRootCauseRecorded ∧ ev.eventId = r.eventId
      ∧ ev.caseId = r.problemCaseId
  | sla r => ev.eventType = .slaApplied ∧ ev.caseId = r.caseId
  | assignment r => ev.eventType = .assignmentChanged ∧ ev.eventId = r.eventId
      ∧ ev.caseId = r.caseId
  | approval r => ev.eventType = .approvalRequested ∧ ev.eventId = r.requestedEventId
      ∧ ev.caseId = r.caseId ∧ r.status = .pending ∧ r.decisionEventId = none
  | decision id d => ev.eventType = .approvalDecided ∧ ev.eventId = d.eventId
      ∧ d.status ≠ .pending
      ∧ ∃ a, db.getApproval id = some a ∧ ev.caseId = a.caseId ∧ a.status = .pending
  | evidence r => ev.eventType = .changeRuntimeEvidenceRecorded ∧ ev.eventId = r.eventId
      ∧ ev.caseId = r.caseId

/-- What a call that is neither rejected nor a duplicate does to the tables. -/
inductive Effect (cfg : OpConfig) (db : Tables) (r : OpRequest) (row : Row) : Tables → Prop
  | side {w : Write} {ev : CaseEvent} {db' : Tables} : ev.eventId = r.eventId →
      ev.eventType = r.eventType → ev.toState = none → r.Writes cfg w ev → w.RecordedBy db ev →
      db.commit w ev = (db', .ok ()) → Effect cfg db r row db'
  | case {ev : CaseEvent} (cases : List CaseRecord) : ev.eventId = r.eventId →
      ev.eventType = r.eventType → r.Logs row ev → db.getEvent ev.eventId = none →
      Effect cfg db r row { db with cases, events := db.events ++ [ev] }

theorem caseId_of_planAssignment {caseId assignmentGroup : String}
    {assignee currentGroup currentAssignee : Option String} {correlationId : String}
    {c : AssignmentChange}
    (h : planAssignment caseId assignmentGroup assignee currentGroup currentAssignee correlationId
      = .ok c) : c.caseId = caseId := by
  obtain ⟨_, -, h⟩ := bind_eq_ok.mp h
  obtain ⟨_, -, h⟩ := bind_eq_ok.mp h
  obtain ⟨_, -, h⟩ := bind_eq_ok.mp h
  obtain ⟨_, -, h⟩ := bind_eq_ok.mp h
  obtain ⟨_, -, h⟩ := bind_eq_ok.mp h
  cases h
  rfl

section Calls

variable {cfg : OpConfig} {i : ℕ} {db : Tables}

/-- The outcome of an operation carries over to the type that all operations share. -/
theorem alone_answer {α : Type} {f : α → Row} {p : OpProgram (α × Bool)} {r : OpRequest}
    (h : Alone opMachine i db (Result db fun a ↦ Effect cfg db r (f a)) p) :
    Alone opMachine i db (Result db (Effect cfg db r)) (answer f p) := by
  refine Program.EndsIn.bind h ?_ ?_
  · rintro ⟨a, duplicate⟩ s hs
    cases duplicate with
    | false => exact hs
    | true => exact hs
  · intro x s hs
    exact hs

theorem reads_linkCollision (eventId : String) (relation : IncidentProblemRelation) :
    Reads opMachine i db (fun a ↦ a.2 = true) (linkCollision eventId relation) := by
  refine (Reads.query _ fun _ ↦ rfl).seq ?_
  rintro _ rfl
  split
  next replay h =>
    split
    · exact Reads.ret rfl
    · exact Reads.raise _
  next h =>
    refine (Reads.query _ fun _ ↦ rfl).seq ?_
    rintro _ rfl
    split
    · exact Reads.raise _
    · refine (Reads.query _ fun _ ↦ rfl).seq ?_
      rintro _ rfl
      split
      · exact Reads.ret rfl
      · exact Reads.raise _

theorem alone_linkIncidentToProblem (hpending : db.pending = []) (incidentCaseId : String)
    (payload : LinkRequest) (correlationId : String) :
    Alone opMachine i db (Result db fun a ↦ Effect cfg db (.link incidentCaseId payload correlationId)
      (.link a)) (linkIncidentToProblem cfg incidentCaseId payload correlationId) := by
  refine (Reads.query _ fun _ ↦ rfl).bind (fun _ ↦ rfl) ?_
  rintro _ rfl
  split
  next replay h =>
    exact (Reads.ofExcept _).bind (fun _ ↦ rfl) fun _ _ ↦ rfl
  next h =>
    refine (reads_eventUnused _).bind (fun _ ↦ rfl) fun _ _ ↦ ?_
    refine (reads_caseOr _ _).bind (fun _ ↦ rfl) fun incident _ ↦ ?_
    refine (reads_caseOr _ _).bind (fun _ ↦ rfl) fun problem _ ↦ ?_
    refine (Reads.ofExcept _).bind (fun _ ↦ rfl) fun relation _ ↦ ?_
    refine (Reads.query _ fun _ ↦ rfl).bind (fun _ ↦ rfl) ?_
    rintro _ rfl
    split
    next logical hlogical => exact rfl
    next hlogical =>
      refine alone_commitOr hpending ?_ ?_ (reads_linkCollision _ _)
      · intro now db' hcommit
        obtain ⟨-, -, -, rfl⟩ := Tables.commit_eq_ok hcommit
        exact alone_refreshed (alone_perform (OpStmt.getLink _) _ fun _ ↦ rfl)
          (Table.exists_lookup List.mem_concat_self rfl)
      · intro now db' a hcommit
        exact .side rfl rfl rfl ⟨_, rfl⟩ ⟨rfl, rfl, rfl⟩ hcommit

theorem alone_recordProblemRootCause (hpending : db.pending = []) (problemCaseId : String)
    (payload : RootCauseRequest) (correlationId : String) :
    Alone opMachine i db (Result db fun a ↦ Effect cfg db (.rootCause problemCaseId payload correlationId)
      (.rootCause a)) (recordProblemRootCause cfg problemCaseId payload correlationId) := by
  refine (Reads.query _ fun _ ↦ rfl).bind (fun _ ↦ rfl) ?_
  rintro _ rfl
  split
  next replay h => exact (Reads.ofExcept _).bind (fun _ ↦ rfl) fun _ _ ↦ rfl
  next h =>
    refine (reads_eventUnused _).bind (fun _ ↦ rfl) fun _ _ ↦ ?_
    refine (reads_caseOr _ _).bind (fun _ ↦ rfl) fun problem _ ↦ ?_
    refine (Reads.ofExcept _).bind (fun _ ↦ rfl) fun cause _ ↦ ?_
    refine alone_commitOr hpending ?_ ?_ ?_
    · intro now db' hcommit
      obtain ⟨-, -, -, rfl⟩ := Tables.commit_eq_ok hcommit
      exact alone_refreshed (alone_perform (OpStmt.getRootCause _) _ fun _ ↦ rfl)
        (Table.exists_lookup List.mem_concat_self rfl)
    · intro now db' a hcommit
      exact .side rfl rfl rfl ⟨_, rfl⟩ ⟨rfl, rfl, rfl⟩ hcommit
    · refine (Reads.query _ fun _ ↦ rfl).seq ?_
      rintro _ rfl
      split
      · split
        · exact Reads.ret rfl
        · exact Reads.raise _
      · exact Reads.raise _

theorem alone_applyCaseSla (hpending : db.pending = []) (caseId : String) (payload : SlaRequest)
    (correlationId : String) :
    Alone opMachine i db (Result db fun a ↦ Effect cfg db (.sla caseId payload correlationId) (.sla a))
      (applyCaseSla cfg caseId payload correlationId) := by
  refine (reads_caseOr _ _).bind (fun _ ↦ rfl) fun case _ ↦ ?_
  refine (reads_eventExists _ _ _).bind (fun _ ↦ rfl) fun known hknown ↦ ?_
  cases known with
  | true =>
    exact result_of_reads ((Reads.query _ fun _ ↦ rfl).seq fun _ _ ↦ reads_replayed _ _)
  | false =>
    refine (Reads.input fun e ↦ ⟨e.policy, rfl⟩).bind (fun _ ↦ rfl) fun policy _ ↦ ?_
    split
    · exact rfl
    · refine (Reads.query _ fun _ ↦ rfl).bind (fun _ ↦ rfl) ?_
      rintro _ rfl
      split
      next existing h => exact (Reads.ofExcept _).bind (fun _ ↦ rfl) fun _ _ ↦ rfl
      next h =>
        refine (Reads.ofExcept _).bind (fun _ ↦ rfl) fun targets _ ↦ ?_
        refine alone_commitOr hpending ?_ ?_ ?_
        · intro now db' hcommit
          obtain ⟨-, -, -, rfl⟩ := Tables.commit_eq_ok hcommit
          exact alone_refreshed (alone_perform (OpStmt.getSla _) _ fun _ ↦ rfl)
            (Table.exists_lookup List.mem_concat_self rfl)
        · intro now db' a hcommit
          exact .side rfl rfl rfl ⟨rfl, _, rfl⟩ ⟨rfl, rfl⟩ hcommit
        · exact (Reads.query _ fun _ ↦ rfl).seq fun _ _ ↦ reads_replayed _ _

theorem alone_insertAssignment (hpending : db.pending = []) (current : Option CaseAssignment)
    (change : AssignmentChange) (payload : AssignmentRequest) (correlationId : String) :
    Alone opMachine i db (Result db fun a ↦
      Effect cfg db (.assign change.caseId payload correlationId) (.assignment a))
      (insertAssignment current change change.caseId payload.eventId correlationId) := by
  refine (Reads.input fun e ↦ ⟨e.uuid4, rfl⟩).bind (fun _ ↦ rfl) fun assignmentId _ ↦ ?_
  refine alone_commitOr hpending ?_ ?_ (Reads.raise _)
  · intro now db' hcommit
    obtain ⟨-, -, -, rfl⟩ := Tables.commit_eq_ok hcommit
    exact alone_refreshed (alone_perform (OpStmt.getAssignment _) _ fun _ ↦ rfl)
      (Table.exists_lookup List.mem_concat_self rfl)
  · intro now db' a hcommit
    exact .side rfl rfl rfl ⟨rfl, _, rfl⟩ ⟨rfl, rfl, rfl⟩ hcommit

theorem alone_changeAssignment (hpending : db.pending = []) (caseId : String)
    (payload : AssignmentRequest) (correlationId : String) :
    Alone opMachine i db (Result db fun a ↦ Effect cfg db (.assign caseId payload correlationId)
      (.assignment a)) (changeAssignment caseId payload correlationId) := by
  refine (reads_caseOr _ _).bind (fun _ ↦ rfl) fun case _ ↦ ?_
  refine (reads_eventExists _ _ _).bind (fun _ ↦ rfl) fun known hknown ↦ ?_
  cases known with
  | true => exact result_of_reads ((Reads.query _ fun _ ↦ rfl).seq fun _ _ ↦ reads_replayed _ _)
  | false =>
    refine (Reads.query _ fun _ ↦ rfl).bind (fun _ ↦ rfl) fun current _ ↦ ?_
    refine (Reads.ofExcept _).bind (fun _ ↦ rfl) fun change hchange ↦ ?_
    have hcase : change.caseId = caseId := caseId_of_planAssignment hchange
    subst hcase
    split
    · split
      · exact rfl
      · exact alone_insertAssignment hpending _ change payload correlationId
    · exact alone_insertAssignment hpending _ change payload correlationId

theorem alone_requestApproval (hpending : db.pending = []) (caseId : String)
    (payload : ApprovalRequest) (correlationId : String) :
    Alone opMachine i db (Result db fun a ↦ Effect cfg db (.requestApproval caseId payload correlationId)
      (.approval a)) (requestApproval caseId payload correlationId) := by
  refine (reads_caseOr _ _).bind (fun _ ↦ rfl) fun case _ ↦ ?_
  refine (reads_eventExists _ _ _).bind (fun _ ↦ rfl) fun known hknown ↦ ?_
  cases known with
  | true => exact result_of_reads ((Reads.query _ fun _ ↦ rfl).seq fun _ _ ↦ reads_replayed _ _)
  | false =>
    refine (Reads.query _ fun _ ↦ rfl).bind (fun _ ↦ rfl) fun last _ ↦ ?_
    refine (Reads.input fun e ↦ ⟨e.uuid4, rfl⟩).bind (fun _ ↦ rfl) fun approvalId _ ↦ ?_
    refine alone_commitOr hpending ?_ ?_ (Reads.raise _)
    · intro now db' hcommit
      obtain ⟨-, -, -, rfl⟩ := Tables.commit_eq_ok hcommit
      exact alone_refreshed (alone_perform (OpStmt.getApproval _) _ fun _ ↦ rfl)
        (Table.exists_lookup List.mem_concat_self rfl)
    · intro now db' a hcommit
      exact .side rfl rfl rfl ⟨rfl, _, rfl⟩ ⟨rfl, rfl, rfl, rfl, rfl⟩ hcommit

theorem alone_decideLoaded (hpending : db.pending = []) {record : CaseApproval}
    (hrecord : db.getApproval record.approvalId = some record) (payload : DecisionRequest)
    (correlationId : String) :
    Alone opMachine i db (Result db fun a ↦
      Effect cfg db (.decide record.caseId record.approvalId payload correlationId) (.approval a))
      (decideLoaded record.caseId record payload correlationId) := by
  refine (reads_eventExists _ _ _).bind (fun _ ↦ rfl) fun known hknown ↦ ?_
  cases known with
  | true => exact (Reads.ofExcept _).bind (fun _ ↦ rfl) fun _ _ ↦ rfl
  | false =>
    refine (Reads.ofExcept _).bind (fun _ ↦ rfl) fun _ hvalid ↦ ?_
    obtain ⟨hdecision, hstatus⟩ := validateApprovalDecision_eq_ok hvalid
    refine alone_commitOr hpending ?_ ?_ (Reads.raise _)
    · intro now db' hcommit
      obtain ⟨-, -, -, rfl⟩ := Tables.commit_eq_ok hcommit
      refine alone_refreshed (alone_perform (OpStmt.getApproval _) _ fun _ ↦ rfl) ?_
      exact Table.exists_lookup (Table.mem_update_self (Table.mem_of_lookup hrecord) rfl) rfl
    · intro now db' a hcommit
      exact .side rfl rfl rfl ⟨rfl, _, rfl⟩ ⟨rfl, rfl, hdecision, record, hrecord, rfl, hstatus⟩
        hcommit

theorem alone_decideApproval (hpending : db.pending = []) (caseId approvalId : String)
    (payload : DecisionRequest) (correlationId : String) :
    Alone opMachine i db (Result db fun a ↦ Effect cfg db (.decide caseId approvalId payload correlationId)
      (.approval a)) (decideApproval caseId approvalId payload correlationId) := by
  refine (reads_caseOr _ _).bind (fun _ ↦ rfl) fun case _ ↦ ?_
  refine (Reads.query _ fun _ ↦ rfl).bind (fun _ ↦ rfl) ?_
  rintro _ rfl
  split
  next h => exact rfl
  next record h =>
    have hid : record.approvalId = approvalId := Table.key_of_lookup h
    subst hid
    split
    next hcase =>
      subst hcase
      exact alone_decideLoaded hpending h payload correlationId
    next => exact rfl

theorem alone_recordChangeEvidence (hpending : db.pending = []) (caseId : String)
    (payload : EvidenceRequest) (correlationId : String) :
    Alone opMachine i db (Result db fun a ↦ Effect cfg db (.evidence caseId payload correlationId)
      (.evidence a)) (recordChangeEvidence cfg caseId payload correlationId) := by
  refine (reads_caseOr _ _).bind (fun _ ↦ rfl) fun case _ ↦ ?_
  refine (Reads.ofExcept _).bind (fun _ ↦ rfl) fun _ _ ↦ ?_
  refine (Reads.query _ fun _ ↦ rfl).bind (fun _ ↦ rfl) ?_
  rintro _ rfl
  split
  next existing h => exact (Reads.ofExcept _).bind (fun _ ↦ rfl) fun _ _ ↦ rfl
  next h =>
    refine (reads_eventUnused _).bind (fun _ ↦ rfl) fun _ _ ↦ ?_
    refine (Reads.ofExcept _).bind (fun _ ↦ rfl) fun _ _ ↦ ?_
    refine (Reads.ofExcept _).bind (fun _ ↦ rfl) fun checked _ ↦ ?_
    refine alone_commitOr hpending ?_ ?_ ?_
    · intro now db' hcommit
      obtain ⟨-, -, -, rfl⟩ := Tables.commit_eq_ok hcommit
      exact alone_refreshed (alone_perform (OpStmt.getEvidence _) _ fun _ ↦ rfl)
        (Table.exists_lookup List.mem_concat_self rfl)
    · intro now db' a hcommit
      exact .side rfl rfl rfl ⟨rfl, _, rfl, rfl⟩ ⟨rfl, rfl, rfl⟩ hcommit
    · refine (Reads.query _ fun _ ↦ rfl).seq ?_
      rintro _ rfl
      split
      · split
        · exact Reads.ret rfl
        · exact Reads.raise _
      · exact Reads.raise _

end Calls

/-! ## The operations on the cases -/

/-- What a call on the cases adds to them: one event, and a row that is new or changed. -/
def Adds (db : Db) (E : CaseRecord → CaseEvent → Prop) (a : CaseRecord) (db' : Db) : Prop :=
  ∃ cases ev, db' = { db with cases, events := db.events ++ [ev] } ∧
    db.getEvent ev.eventId = none ∧ E a ev

section Cases

variable {i : ℕ} {db : Db}

/-- An operation on the cases does to the tables what it does to the cases. -/
theorem alone_onCases {α : Type} {p : Operation α} {db : Tables}
    {Q : Except RsmError α → Db → Prop} (h : Alone machine i db.toDb Q p) :
    Alone opMachine i db (fun r db' ↦ ∃ d, db' = { db with toDb := d } ∧ Q r d) (onCases p) := by
  induction p generalizing db with
  | ret a => exact ⟨db.toDb, rfl, h⟩
  | raise x => exact ⟨db.toDb, rfl, h⟩
  | call op k ih =>
    rintro _ e rfl -
    let next : Tables := { db with toDb := (machine.exec i op (db.envOf e op) db.toDb).1 }
    have hnext : Alone machine i next.toDb Q _ := h _ (db.envOf e op) rfl trivial
    exact ih _ hnext

theorem rollback_of_pending (h : db.pending = []) (i : ℕ) : db.rollback i = db := by
  rw [Db.rollback, h, List.filter_nil, ← h]

theorem rollback_stage (h : db.pending = []) (i : ℕ) (w : Pending) :
    (db.stage i w).rollback i = db := by
  have hpending : (db.stage i w).pending = [(i, w)] := by
    rw [Db.stage, rollback_of_pending h, h]
  have hfilter : [(i, w)].filter (fun x ↦ x.1 ≠ i) = db.pending := by
    rw [h]
    simp
  rw [Db.rollback, hpending, hfilter]
  rfl

/-- The commit of a staged write. -/
theorem commit_stage (h : db.pending = []) (i : ℕ) (w : Pending) (ev : CaseEvent) :
    (db.stage i w).commit i ev = (db.stage i w, .error .integrity) ∨
      db.getEvent ev.eventId = none ∧ (db.stage i w).commit i ev
        = ({ db with cases := (db.apply w).cases, events := db.events ++ [ev] }, .ok ()) := by
  have hstaged : (db.stage i w).pendingOf i = some w := by
    rw [pendingOf_stage, if_pos rfl]
  rw [Db.commit]
  split_ifs with hevent
  · exact .inl rfl
  · refine .inr ⟨Option.not_isSome_iff_eq_none.mp hevent, ?_⟩
    have hrest : ∀ cases, Db.rollback { db.stage i w with cases } i = { db with cases } :=
      fun cases ↦ @rollback_stage { db with cases } h i w
    rw [hstaged]
    cases w with
    | insertCase record =>
      simp only [Db.apply]
      rw [hrest]
      rfl
    | updateCase c st v t =>
      simp only [Db.apply]
      rw [hrest]
      rfl

theorem reads_replayOf (existing : CaseRecord) (payload : CreateRequest) :
    Reads machine i db (fun a ↦ a.2 = true) (replayOf existing payload) :=
  (Reads.ofExcept _).seq fun _ _ ↦ Reads.ret rfl

theorem reads_activeService (serviceId : String) :
    Reads machine i db (fun _ ↦ True) (activeService serviceId) := by
  refine (Reads.input fun e ↦ ⟨e.service, rfl⟩).seq fun service _ ↦ ?_
  split
  · exact Reads.raise _
  · exact (Reads.ofExcept _).mono fun _ _ ↦ trivial

/-- The insertion of a case: it is committed, or nothing is left of it after a rollback. -/
theorem alone_insertCase (h : db.pending = []) (domain : ServiceCase) (payload : CreateRequest)
    (correlationId : String) :
    Alone machine i db (fun r db' ↦
      (r = .ok () ∧ ∃ now now', db.getEvent payload.eventId = none ∧
        db' = { db with
          cases := db.cases ++ [newRecord domain payload now]
          events := db.events ++ [createdEvent domain payload correlationId now'] })
      ∨ (r = .error .integrity ∧ db'.rollback i = db) ∨ (r = .error .operational ∧ db' = db))
      (insertCase domain payload correlationId) := by
  refine alone_perform_bind (fun e db' _ hflush ↦ ?_) fun e db' x hflush ↦ ?_
  · -- the row is staged, and the commit settles it
    obtain rfl : db' = db.stage i (.insertCase (newRecord domain payload e.now)) := by
      change db.flushCase i _ = _ at hflush
      rw [Db.flushCase] at hflush
      split_ifs at hflush
      · cases hflush
      · cases hflush
      · cases hflush
        rfl
    rintro _ e' rfl -
    obtain hcommit | ⟨hevent, hcommit⟩ := commit_stage h i
      (.insertCase (newRecord domain payload e.now))
      (createdEvent domain payload correlationId e'.now)
    · change EndsIn _ _ _ _ _ (Program.ofExcept (Db.commit _ _ _).2) (Db.commit _ _ _).1
      rw [hcommit]
      exact .inr (.inl ⟨rfl, rollback_stage h i _⟩)
    · change EndsIn _ _ _ _ _ (Program.ofExcept (Db.commit _ _ _).2) (Db.commit _ _ _).1
      rw [hcommit]
      exact .inl ⟨rfl, e.now, e'.now, hevent, rfl⟩
  · change db.flushCase i _ = _ at hflush
    rw [Db.flushCase] at hflush
    split_ifs at hflush
    · cases hflush
      exact .inr (.inl ⟨rfl, rollback_of_pending h i⟩)
    · cases hflush
      exact .inr (.inr ⟨rfl, rfl⟩)
    · cases hflush

theorem alone_createServiceCase (h : db.pending = []) (cfg : Config) (payload : CreateRequest)
    (correlationId : String) :
    Alone machine i db (Result db (Adds db fun a ev ↦ ev.eventId = payload.eventId ∧
        ev.eventType = .caseCreated ∧ ev.toState = some .new ∧ a.caseId = ev.caseId))
      (createServiceCase cfg payload correlationId) := by
  refine (reads_activeService _).bind (fun _ ↦ rfl) fun _ _ ↦ ?_
  refine (Reads.query _ fun _ ↦ rfl).bind (fun _ ↦ rfl) ?_
  rintro _ rfl
  split
  next existing hexisting => exact result_of_reads (reads_replayOf existing payload)
  next hnone =>
    refine (Reads.input fun e ↦ ⟨e.uuid4, rfl⟩).bind (fun _ ↦ rfl) fun caseId _ ↦ ?_
    refine (Reads.ofExcept _).bind (fun _ ↦ rfl) fun domain hdomain ↦ ?_
    refine EndsIn.attempt_bind (alone_insertCase h domain payload correlationId) ?_
    rintro r db' (⟨rfl, now, now', hevent, rfl⟩ | ⟨rfl, hrollback⟩ | ⟨rfl, rfl⟩)
    · obtain ⟨a, ha⟩ := Table.exists_lookup (@List.mem_concat_self _ db.cases
        (newRecord domain payload now)) (rfl : CaseRecord.caseId _ = domain.caseId)
      refine EndsIn.bind (alone_perform (Stmt.getCase _) (some a) fun e ↦ ?_) ?_ ?_
      · exact Prod.ext rfl (congrArg Except.ok ha)
      · rintro o _ ⟨rfl, ho⟩
        cases ho
        have hstate : domain.state = .new := ServiceCase.state_of_build hdomain
        exact ⟨_, _, rfl, hevent, rfl, rfl, congrArg some hstate, Table.key_of_lookup ha⟩
      · rintro x _ ⟨-, hx⟩
        cases hx
    · refine alone_perform_bind (fun e s _ hexec ↦ ?_) fun e s x hexec ↦ ?_
      · cases hexec
        rw [hrollback]
        refine (Reads.query _ fun _ ↦ rfl).bind (fun _ ↦ rfl) ?_
        rintro _ rfl
        split
        next existing hexisting => exact result_of_reads (reads_replayOf existing payload)
        next => exact rfl
      · cases hexec
    · exact rfl

theorem reads_check (record : CaseRecord) (target : CaseState) (g : TransitionGuard) :
    Reads machine i db (fun _ ↦ True) (g.check record target) := by
  cases g with
  | approval =>
    rw [TransitionGuard.check]
    split
    · exact (Reads.input fun e ↦ ⟨e.approvals, rfl⟩).seq fun _ _ ↦
        (Reads.ofExcept _).mono fun _ _ ↦ trivial
    · exact Reads.ret trivial
  | changeClose =>
    rw [TransitionGuard.check]
    split
    · exact (Reads.input fun e ↦ ⟨e.latestChange, rfl⟩).seq fun _ _ ↦
        (Reads.ofExcept _).mono fun _ _ ↦ trivial
    · exact Reads.ret trivial

/-- A compare-and-swap finds a lock, finds another version, or stages the row. -/
theorem updateCase_cases (db : Db) (i : ℕ) (caseId : String) (v : ℕ) (st : CaseState)
    (now : DateTime) : db.updateCase i caseId v st now = (db, .error .operational) ∨
      db.updateCase i caseId v st now = (db, .ok 0) ∨
      (db.getCase caseId).isSome = true ∧ db.updateCase i caseId v st now
        = (db.stage i (.updateCase caseId st (v + 1) now), .ok 1) := by
  rw [Db.updateCase]
  split
  · exact .inl rfl
  · split
    · exact .inr (.inl rfl)
    next r hr =>
      split
      · exact .inr (.inr ⟨by rw [hr]; rfl, rfl⟩)
      · exact .inr (.inl rfl)

/-- A row that is updated is still there. -/
theorem isSome_lookup_apply {caseId : String} (h : (db.getCase caseId).isSome = true)
    (st : CaseState) (v : ℕ) (now : DateTime) : (Table.lookup CaseRecord.caseId caseId
      (db.apply (.updateCase caseId st v now)).cases).isSome = true := by
  let set (r : CaseRecord) : CaseRecord := { r with state := st, version := v, updatedAt := now }
  have hset : ∀ r, r.caseId = caseId → (set r).caseId = caseId := fun _ hkey ↦ hkey
  change (Table.lookup _ _ (Table.update CaseRecord.caseId caseId set db.cases)).isSome = true
  rw [Table.lookup_update hset, if_pos rfl, Option.isSome_map]
  exact h

theorem alone_writeTransition (h : db.pending = []) (caseId : String)
    (payload : TransitionRequest) (fromState : CaseState) (updated : ServiceCase)
    (correlationId : String) :
    Alone machine i db (Result db (Adds db fun _ ev ↦ ev.eventId = payload.eventId ∧
        ev.eventType = .stateTransitioned ∧ ev.caseId = caseId ∧
        ev.toState = some updated.state))
      (writeTransition caseId payload fromState updated correlationId) := by
  rintro _ e rfl -
  change EndsIn _ _ _ _ _ (Program.bind (.ofExcept (db.updateCase i _ _ _ _).2) _)
    (db.updateCase i _ _ _ _).1
  obtain hupdate | hupdate | ⟨hsome, hupdate⟩ :=
    updateCase_cases db i caseId payload.expectedVersion updated.state e.now
  all_goals rw [hupdate]
  · exact rfl
  · -- another version: the session rolls back what it has not written
    rintro _ e' rfl -
    exact rollback_of_pending h i
  · rintro _ e' rfl -
    obtain hcommit | ⟨hevent, hcommit⟩ := commit_stage h i
      (.updateCase caseId updated.state (payload.expectedVersion + 1) e.now)
      (transitionEvent caseId payload fromState updated.state correlationId e'.now)
    all_goals
      change EndsIn _ _ _ _ _
        (Program.bind (Program.attempt (.ofExcept (Db.commit _ _ _).2)) _) (Db.commit _ _ _).1
      rw [hcommit]
    · rintro _ e'' rfl -
      exact rollback_stage h i _
    · rintro _ e'' rfl -
      obtain ⟨a, ha⟩ := Option.isSome_iff_exists.mp (isSome_lookup_apply hsome updated.state
        (payload.expectedVersion + 1) e.now)
      change EndsIn _ _ _ _ _ (Program.bind (.ofExcept (.ok (Table.lookup _ _ _))) _) _
      rw [ha]
      exact ⟨_, _, rfl, hevent, rfl, rfl, rfl, rfl⟩

theorem alone_transitionServiceCase (h : db.pending = []) (cfg : Config) (caseId : String)
    (payload : TransitionRequest) (correlationId : String) :
    Alone machine i db (Result db (Adds db fun _ ev ↦ ev.eventId = payload.eventId ∧
        ev.eventType = .stateTransitioned ∧ ev.caseId = caseId ∧
        ev.toState = some payload.targetState))
      (transitionServiceCase cfg caseId payload correlationId) := by
  refine (Reads.query _ fun _ ↦ rfl).bind (fun _ ↦ rfl) ?_
  rintro _ rfl
  split
  next event hevent =>
    refine result_of_reads ((Reads.ofExcept _).seq fun _ _ ↦ ?_)
    refine (Reads.query _ fun _ ↦ rfl).seq fun o _ ↦ ?_
    split
    · exact Reads.raise _
    · exact Reads.ret rfl
  next hevent =>
    refine (Reads.query _ fun _ ↦ rfl).bind (fun _ ↦ rfl) ?_
    rintro _ rfl
    split
    · exact rfl
    next record hrecord =>
      refine (Reads.ofExcept _).bind (fun _ ↦ rfl) fun _ _ ↦ ?_
      refine (Reads.ofExcept _).bind (fun _ ↦ rfl) fun domain _ ↦ ?_
      refine (Reads.ofExcept _).bind (fun _ ↦ rfl) fun _ _ ↦ ?_
      refine (Reads.forM (reads_check record payload.targetState)).bind (fun _ ↦ rfl) fun _ _ ↦ ?_
      refine (Reads.ofExcept _).bind (fun _ ↦ rfl) fun updated hupdated ↦ ?_
      have hstate := (ServiceCase.transitionTo_eq_ok hupdated).2
      rw [← hstate]
      exact alone_writeTransition h caseId payload record.state updated correlationId

end Cases

/-! ## One spec for every operation -/

/-- A result on the cases is a result on the tables. -/
theorem result_of_cases {cfg : OpConfig} {db : Tables} {r : OpRequest}
    {E : CaseRecord → CaseEvent → Prop}
    (hE : ∀ a ev, E a ev → ev.eventId = r.eventId ∧ ev.eventType = r.eventType ∧
      r.Logs (.case a) ev) {out : Except RsmError (CaseRecord × Bool)} {d : Db}
    (h : Result db.toDb (Adds db.toDb E) out d) :
    Result db (fun a ↦ Effect cfg db r (.case a)) out { db with toDb := d } := by
  rcases out with x | ⟨a, _ | _⟩
  · exact congrArg (fun d ↦ ({ db with toDb := d } : Tables)) h
  · obtain ⟨cases, ev, rfl, hfresh, hev⟩ := h
    obtain ⟨hid, htype, hlogs⟩ := hE a ev hev
    exact .case cases hid htype hlogs hfresh
  · exact congrArg (fun d ↦ ({ db with toDb := d } : Tables)) h

/-- **What a call does.** It leaves the tables as they are and is rejected or answered as a
duplicate, or it writes one row and one event. -/
theorem alone_opCode (cfg : OpConfig) {db : Tables} (h : db.pending = []) (r : OpRequest) (i : ℕ) :
    Alone opMachine i db (Result db (Effect cfg db r)) (opCode cfg r) := by
  cases r with
  | create payload correlationId =>
    refine alone_answer ((alone_onCases (alone_createServiceCase h _ payload correlationId)).imp ?_)
    rintro out _ ⟨d, rfl, hd⟩
    refine result_of_cases (fun a ev hev ↦ ?_) hd
    obtain ⟨hid, htype, hto, hcase⟩ := hev
    exact ⟨hid, htype, hto, a, rfl, hcase⟩
  | transition caseId payload correlationId =>
    refine alone_answer
      ((alone_onCases (alone_transitionServiceCase h _ caseId payload correlationId)).imp ?_)
    rintro out _ ⟨d, rfl, hd⟩
    refine result_of_cases (fun a ev hev ↦ ?_) hd
    obtain ⟨hid, htype, hcase, hto⟩ := hev
    exact ⟨hid, htype, hcase, hto⟩
  | link caseId payload correlationId =>
    exact alone_answer (alone_linkIncidentToProblem h caseId payload correlationId)
  | rootCause caseId payload correlationId =>
    exact alone_answer (alone_recordProblemRootCause h caseId payload correlationId)
  | sla caseId payload correlationId =>
    exact alone_answer (alone_applyCaseSla h caseId payload correlationId)
  | assign caseId payload correlationId =>
    exact alone_answer (alone_changeAssignment h caseId payload correlationId)
  | requestApproval caseId payload correlationId =>
    exact alone_answer (alone_requestApproval h caseId payload correlationId)
  | decide caseId approvalId payload correlationId =>
    exact alone_answer (alone_decideApproval h caseId approvalId payload correlationId)
  | evidence caseId payload correlationId =>
    exact alone_answer (alone_recordChangeEvidence h caseId payload correlationId)

/-! ## Steps -/

theorem Effect.pending {cfg : OpConfig} {db db' : Tables} {r : OpRequest} {row : Row}
    (h : Effect cfg db r row db') : db'.pending = db.pending := by
  cases h with
  | case => rfl
  | @side w _ _ _ _ _ _ _ hcommit =>
    obtain ⟨-, -, -, rfl⟩ := Tables.commit_eq_ok hcommit
    cases w <;> rfl

/-- A step of the operations one after the other, from tables without pending writes. -/
theorem result_of_step {cfg : OpConfig} {db db' : Tables} (hpending : db.pending = [])
    {r : OpRequest} {out : Except RsmError (Row × Bool)}
    (h : (serialOperations cfg).step db (r, out) db') : Result db (Effect cfg db r) out db' := by
  obtain ⟨i, db₁, hresult, rfl⟩ := Alone.step (fun i ↦ alone_opCode cfg hpending r i) h
  have hclose : db₁.pending = [] → opMachine.close i db₁ = db₁ := fun hp ↦
    Tables.rollback_eq hp i
  rcases out with x | ⟨row, _ | _⟩
  · rw [hclose (by rw [show db₁ = db from hresult, hpending])]
    exact hresult
  · rw [hclose (by rw [Effect.pending hresult, hpending])]
    exact hresult
  · rw [hclose (by rw [show db₁ = db from hresult, hpending])]
    exact hresult

end ServiceCases

end ReqSys
