import ReqSys.ServiceCases.Operations

/-!
# Service management: what the operations call

Every operation reads, and commits rows of one kind with events of one type. `OpStmt.Logs t` is what
its statements have in common, `opCode_calls` says so for all of them. What is known of a commit
without looking at the tables is all here; what a session must have read before it commits is the
subject of the next module.
-/

namespace ReqSys

namespace ServiceCases

/-! ## Kinds of statements -/

/-- The statement only looks. -/
def Stmt.IsRead : Stmt → Prop
  | flushCase _ | updateCase _ _ _ | commit _ | rollback => False
  | _ => True

/-- The statement only looks. -/
def OpStmt.IsRead : OpStmt → Prop
  | base op => op.IsRead
  | commit _ _ => False
  | _ => True

theorem exec_of_isRead {op : OpStmt} (h : op.IsRead) (i : ℕ) (e : OpEnv) (db : Tables) :
    (opMachine.exec i op e db).1 = db := by
  cases op with
  | base op =>
    cases op with
    | flushCase _ | updateCase _ _ _ | commit _ | rollback => exact h.elim
    | _ => rfl
  | commit _ _ => exact h.elim
  | _ => rfl

/-- The type of the event that records a write. -/
def Write.eventType : Write → EventType
  | link _ => .incidentLinkedToProblem
  | rootCause _ => .problemRootCauseRecorded
  | sla _ => .slaApplied
  | assignment _ => .assignmentChanged
  | approval _ => .approvalRequested
  | decision _ _ => .approvalDecided
  | evidence _ => .changeRuntimeEvidenceRecorded

/-- An approval is requested pending, and decided one way or the other. -/
def Write.Proper : Write → Prop
  | approval r => r.status = .pending
  | decision _ d => d.status ≠ .pending
  | _ => True

/-- The types of the events of the cases themselves. -/
def EventType.OfCase (t : EventType) : Prop := t = .caseCreated ∨ t = .stateTransitioned

/-- The statement writes only rows whose events are of type `t`, with such an event. Only a
transition updates a case. -/
def OpStmt.Logs (t : EventType) : OpStmt → Prop
  | commit w ev => ∀ now, (ev now).eventType = t ∧ (w now).eventType = t ∧ (w now).Proper
  | base (.commit ev) => t.OfCase ∧ ∀ now, (ev now).eventType = t
  | base (.updateCase _ _ _) => t = .stateTransitioned
  | _ => True

theorem OpStmt.IsRead.logs {op : OpStmt} (h : op.IsRead) (t : EventType) : op.Logs t := by
  cases op with
  | base op =>
    cases op with
    | commit _ | updateCase _ _ _ => exact h.elim
    | _ => trivial
  | commit _ _ => exact h.elim
  | _ => trivial

/-- The events of a commit of a side table carry no state of the case. -/
def OpStmt.Stateless : OpStmt → Prop
  | commit _ ev => ∀ now, (ev now).toState = none
  | _ => True

/-- A statement of an operation that writes a side table. -/
def OpStmt.Sides (t : EventType) (op : OpStmt) : Prop := op.Logs t ∧ op.Stateless

theorem OpStmt.IsRead.sides {op : OpStmt} (h : op.IsRead) (t : EventType) : op.Sides t := by
  refine ⟨h.logs t, ?_⟩
  cases op with
  | commit _ _ => exact h.elim
  | _ => trivial

/-! ## The shared steps -/

section Shared

variable {α : Type}

theorem ask_reads {op : OpStmt} (h : op.IsRead) : (ask op).AllCalls OpStmt.IsRead := .perform h

theorem ask_bind {op : OpStmt} {f : op.Ans → OpProgram α} (h : op.IsRead)
    (hf : ∀ a, (f a).AllCalls OpStmt.IsRead) : (ask op >>= f).AllCalls OpStmt.IsRead :=
  (ask_reads h).bind hf

theorem caseOr_reads (caseId message : String) :
    (caseOr caseId message).AllCalls OpStmt.IsRead := by
  refine ask_bind trivial fun o ↦ ?_
  cases o with
  | none => exact .raise _
  | some r => exact .ret r

theorem eventExists_reads (eventId : String) (t : EventType) (caseId : String) :
    (eventExists eventId t caseId).AllCalls OpStmt.IsRead := by
  refine ask_bind trivial fun o ↦ ?_
  cases o with
  | none => exact .ret _
  | some existing => exact (Program.AllCalls.ofExcept _).bind fun _ ↦ .ret _

theorem eventUnused_reads (eventId : String) :
    (eventUnused eventId).AllCalls OpStmt.IsRead := by
  refine ask_bind trivial fun o ↦ ?_
  cases o with
  | none => exact .ret _
  | some existing => exact .raise _

theorem refreshed_reads (o : Option α) : (refreshed o).AllCalls OpStmt.IsRead := by
  cases o with
  | none => exact .raise _
  | some a => exact .ret _

theorem replayed_reads (o : Option α) (message : String) :
    (replayed o message).AllCalls OpStmt.IsRead := by
  cases o with
  | none => exact .raise _
  | some a => exact .ret _

theorem linkCollision_reads (eventId : String) (relation : IncidentProblemRelation) :
    (linkCollision eventId relation).AllCalls OpStmt.IsRead := by
  refine ask_bind trivial fun o ↦ ?_
  split
  · split
    · exact .ret _
    · exact .raise _
  · refine ask_bind trivial fun o ↦ ?_
    split
    · exact .raise _
    · refine ask_bind trivial fun o ↦ ?_
      split
      · exact .ret _
      · exact .raise _

/-- Reading and then the rest. -/
theorem reads_bind {β : Type} {t : EventType} {p : OpProgram α} {f : α → OpProgram β}
    (hp : p.AllCalls OpStmt.IsRead) (hf : ∀ a, (f a).AllCalls (OpStmt.Sides t)) :
    (p >>= f).AllCalls (OpStmt.Sides t) :=
  (hp.imp fun _ h ↦ h.sides t).bind hf

/-- The calls of a commit are the commit, the rollback, and what follows. -/
theorem commitOr_calls {P : OpStmt → Prop} {write : DateTime → Write}
    {event : DateTime → CaseEvent} {done collision : OpProgram α} (hcommit : P (.commit write event))
    (hrollback : P (.base .rollback)) (hdone : done.AllCalls P) (hcollision : collision.AllCalls P) :
    (commitOr write event done collision).AllCalls P := by
  refine (Program.AllCalls.perform hcommit).attempt.bind fun r ↦ ?_
  split
  · exact hdone
  · exact (Program.AllCalls.perform hrollback).bind fun _ ↦ hcollision
  · exact .raise _

/-- A commit followed by reading only. -/
theorem commitOr_sides {t : EventType} {write : DateTime → Write} {event : DateTime → CaseEvent}
    {done collision : OpProgram α} (hcommit : (OpStmt.commit write event).Sides t)
    (hdone : done.AllCalls OpStmt.IsRead) (hcollision : collision.AllCalls OpStmt.IsRead) :
    (commitOr write event done collision).AllCalls (OpStmt.Sides t) :=
  commitOr_calls hcommit ⟨trivial, trivial⟩ (hdone.imp fun _ h ↦ h.sides t) (hcollision.imp fun _ h ↦ h.sides t)

end Shared

/-! ## The operations -/

section Operations

variable (cfg : OpConfig)

theorem linkIncidentToProblem_calls (incidentCaseId : String) (payload : LinkRequest)
    (correlationId : String) :
    (linkIncidentToProblem cfg incidentCaseId payload correlationId).AllCalls
      (OpStmt.Sides .incidentLinkedToProblem) := by
  refine reads_bind (ask_reads trivial) fun o ↦ ?_
  split
  · exact (Program.AllCalls.ofExcept _).bind fun _ ↦ .ret _
  · refine reads_bind (eventUnused_reads _) fun _ ↦ ?_
    refine reads_bind (caseOr_reads _ _) fun incident ↦ ?_
    refine reads_bind (caseOr_reads _ _) fun problem ↦ ?_
    refine (Program.AllCalls.ofExcept _).bind fun relation ↦ ?_
    refine reads_bind (ask_reads trivial) fun o ↦ ?_
    split
    · exact .ret _
    · exact commitOr_sides ⟨fun _ ↦ ⟨rfl, rfl, trivial⟩, fun _ ↦ rfl⟩
        (ask_bind trivial fun _ ↦ refreshed_reads _) (linkCollision_reads _ _)

theorem recordProblemRootCause_calls (problemCaseId : String) (payload : RootCauseRequest)
    (correlationId : String) :
    (recordProblemRootCause cfg problemCaseId payload correlationId).AllCalls
      (OpStmt.Sides .problemRootCauseRecorded) := by
  refine reads_bind (ask_reads trivial) fun o ↦ ?_
  split
  · exact (Program.AllCalls.ofExcept _).bind fun _ ↦ .ret _
  · refine reads_bind (eventUnused_reads _) fun _ ↦ ?_
    refine reads_bind (caseOr_reads _ _) fun problem ↦ ?_
    refine (Program.AllCalls.ofExcept _).bind fun cause ↦ ?_
    refine commitOr_sides ⟨fun _ ↦ ⟨rfl, rfl, trivial⟩, fun _ ↦ rfl⟩
      (ask_bind trivial fun _ ↦ refreshed_reads _) ?_
    refine ask_bind trivial fun o ↦ ?_
    split
    · split
      · exact .ret _
      · exact .raise _
    · exact .raise _

theorem applyCaseSla_calls (caseId : String) (payload : SlaRequest) (correlationId : String) :
    (applyCaseSla cfg caseId payload correlationId).AllCalls (OpStmt.Sides .slaApplied) := by
  refine reads_bind (caseOr_reads _ _) fun case ↦ ?_
  refine reads_bind (eventExists_reads _ _ _) fun known ↦ ?_
  split
  · exact reads_bind (ask_reads trivial) fun _ ↦
      (replayed_reads _ _).imp fun _ h ↦ h.sides .slaApplied
  · refine reads_bind (ask_reads trivial) fun policy ↦ ?_
    split
    · exact .raise _
    · refine reads_bind (ask_reads trivial) fun existing ↦ ?_
      split
      · exact (Program.AllCalls.ofExcept _).bind fun _ ↦ .ret _
      · refine (Program.AllCalls.ofExcept _).bind fun targets ↦ ?_
        exact commitOr_sides ⟨fun _ ↦ ⟨rfl, rfl, trivial⟩, fun _ ↦ rfl⟩
          (ask_bind trivial fun _ ↦ refreshed_reads _)
          (ask_bind trivial fun _ ↦ replayed_reads _ _)

theorem insertAssignment_calls (current : Option CaseAssignment) (change : AssignmentChange)
    (caseId eventId correlationId : String) :
    (insertAssignment current change caseId eventId correlationId).AllCalls
      (OpStmt.Sides .assignmentChanged) := by
  refine reads_bind (ask_reads trivial) fun assignmentId ↦ ?_
  exact commitOr_sides ⟨fun _ ↦ ⟨rfl, rfl, trivial⟩, fun _ ↦ rfl⟩
    (ask_bind trivial fun _ ↦ refreshed_reads _) (.raise _)

theorem changeAssignment_calls (caseId : String) (payload : AssignmentRequest)
    (correlationId : String) :
    (changeAssignment caseId payload correlationId).AllCalls (OpStmt.Sides .assignmentChanged) := by
  refine reads_bind (caseOr_reads _ _) fun case ↦ ?_
  refine reads_bind (eventExists_reads _ _ _) fun known ↦ ?_
  split
  · exact reads_bind (ask_reads trivial) fun _ ↦
      (replayed_reads _ _).imp fun _ h ↦ h.sides .assignmentChanged
  · refine reads_bind (ask_reads trivial) fun current ↦ ?_
    refine (Program.AllCalls.ofExcept _).bind fun change ↦ ?_
    split
    · split
      · exact .ret _
      · exact insertAssignment_calls _ _ _ _ _
    · exact insertAssignment_calls _ _ _ _ _

theorem requestApproval_calls (caseId : String) (payload : ApprovalRequest)
    (correlationId : String) :
    (requestApproval caseId payload correlationId).AllCalls (OpStmt.Sides .approvalRequested) := by
  refine reads_bind (caseOr_reads _ _) fun case ↦ ?_
  refine reads_bind (eventExists_reads _ _ _) fun known ↦ ?_
  split
  · exact reads_bind (ask_reads trivial) fun _ ↦
      (replayed_reads _ _).imp fun _ h ↦ h.sides .approvalRequested
  · refine reads_bind (ask_reads trivial) fun last ↦ ?_
    refine reads_bind (ask_reads trivial) fun approvalId ↦ ?_
    exact commitOr_sides ⟨fun _ ↦ ⟨rfl, rfl, rfl⟩, fun _ ↦ rfl⟩
      (ask_bind trivial fun _ ↦ refreshed_reads _) (.raise _)

theorem decideLoaded_calls (caseId : String) (record : CaseApproval) (payload : DecisionRequest)
    (correlationId : String) :
    (decideLoaded caseId record payload correlationId).AllCalls
      (OpStmt.Sides .approvalDecided) := by
  refine reads_bind (eventExists_reads _ _ _) fun known ↦ ?_
  split
  · exact (Program.AllCalls.ofExcept _).bind fun _ ↦ .ret _
  · refine Program.AllCalls.ofExcept_bind fun _ hvalid ↦ ?_
    exact commitOr_sides
      ⟨fun _ ↦ ⟨rfl, rfl, (validateApprovalDecision_eq_ok hvalid).1⟩, fun _ ↦ rfl⟩
      (ask_bind trivial fun _ ↦ refreshed_reads _) (.raise _)

theorem decideApproval_calls (caseId approvalId : String) (payload : DecisionRequest)
    (correlationId : String) :
    (decideApproval caseId approvalId payload correlationId).AllCalls
      (OpStmt.Sides .approvalDecided) := by
  refine reads_bind (caseOr_reads _ _) fun case ↦ ?_
  refine reads_bind (ask_reads trivial) fun o ↦ ?_
  split
  · exact .raise _
  · split
    · exact decideLoaded_calls _ _ _ _
    · exact .raise _

theorem recordChangeEvidence_calls (caseId : String) (payload : EvidenceRequest)
    (correlationId : String) :
    (recordChangeEvidence cfg caseId payload correlationId).AllCalls
      (OpStmt.Sides .changeRuntimeEvidenceRecorded) := by
  refine reads_bind (caseOr_reads _ _) fun case ↦ ?_
  refine (Program.AllCalls.ofExcept _).bind fun _ ↦ ?_
  refine reads_bind (ask_reads trivial) fun o ↦ ?_
  split
  · exact (Program.AllCalls.ofExcept _).bind fun _ ↦ .ret _
  · refine reads_bind (eventUnused_reads _) fun _ ↦ ?_
    refine (Program.AllCalls.ofExcept _).bind fun _ ↦ ?_
    refine (Program.AllCalls.ofExcept _).bind fun checked ↦ ?_
    refine commitOr_sides ⟨fun _ ↦ ⟨rfl, rfl, trivial⟩, fun _ ↦ rfl⟩
      (ask_bind trivial fun _ ↦ refreshed_reads _) ?_
    refine ask_bind trivial fun o ↦ ?_
    split
    · split
      · exact .ret _
      · exact .raise _
    · exact .raise _

end Operations

/-! ## The operations on the cases -/

/-- The statement commits only events of type `t`, and only a transition updates a case. -/
def Stmt.Logs (t : EventType) : Stmt → Prop
  | commit ev => ∀ now, (ev now).eventType = t
  | updateCase _ _ _ => t = .stateTransitioned
  | _ => True

theorem run_bind {α : Type} {t : EventType} {op : Stmt} {f : op.Ans → Operation α}
    (h : op.Logs t) (hf : ∀ a, (f a).AllCalls (Stmt.Logs t)) :
    (run op >>= f).AllCalls (Stmt.Logs t) := (Program.AllCalls.perform h).bind hf

theorem createServiceCase_calls (cfg : Config) (payload : CreateRequest) (correlationId : String) :
    (createServiceCase cfg payload correlationId).AllCalls (Stmt.Logs .caseCreated) := by
  have hreplay : ∀ existing, (replayOf existing payload).AllCalls (Stmt.Logs .caseCreated) :=
    fun _ ↦ (Program.AllCalls.ofExcept _).bind fun _ ↦ .ret _
  have hactive : (activeService payload.serviceId).AllCalls (Stmt.Logs .caseCreated) := by
    refine run_bind trivial fun o ↦ ?_
    split
    · exact .raise _
    · exact .ofExcept _
  refine hactive.bind fun _ ↦ run_bind trivial fun o ↦ ?_
  split
  · exact hreplay _
  · refine run_bind trivial fun caseId ↦ ?_
    refine (Program.AllCalls.ofExcept _).bind fun domain ↦ ?_
    have hinsert : (insertCase domain payload correlationId).AllCalls (Stmt.Logs .caseCreated) :=
      run_bind trivial fun _ ↦ .perform fun _ ↦ rfl
    refine hinsert.attempt.bind fun r ↦ ?_
    split
    · refine run_bind trivial fun o ↦ ?_
      split
      · exact .raise _
      · exact .ret _
    · refine run_bind trivial fun _ ↦ ?_
      refine run_bind trivial fun o ↦ ?_
      split
      · exact hreplay _
      · exact .raise _
    · exact .raise _

theorem check_calls (t : EventType) (record : CaseRecord) (target : CaseState)
    (g : TransitionGuard) : (g.check record target).AllCalls (Stmt.Logs t) := by
  cases g with
  | approval =>
    rw [TransitionGuard.check]
    split
    · exact run_bind trivial fun _ ↦ .ofExcept _
    · exact .ret _
  | changeClose =>
    rw [TransitionGuard.check]
    split
    · exact run_bind trivial fun _ ↦ .ofExcept _
    · exact .ret _

theorem transitionServiceCase_calls (cfg : Config) (caseId : String) (payload : TransitionRequest)
    (correlationId : String) :
    (transitionServiceCase cfg caseId payload correlationId).AllCalls
      (Stmt.Logs .stateTransitioned) := by
  refine run_bind trivial fun o ↦ ?_
  split
  · refine (Program.AllCalls.ofExcept _).bind fun _ ↦ ?_
    refine run_bind trivial fun o ↦ ?_
    split
    · exact .raise _
    · exact .ret _
  · refine run_bind trivial fun o ↦ ?_
    split
    · exact .raise _
    · refine (Program.AllCalls.ofExcept _).bind fun _ ↦ ?_
      refine (Program.AllCalls.ofExcept _).bind fun domain ↦ ?_
      refine (Program.AllCalls.ofExcept _).bind fun _ ↦ ?_
      refine (Program.AllCalls.forM fun g _ ↦ check_calls _ _ _ g).bind fun _ ↦ ?_
      refine (Program.AllCalls.ofExcept _).bind fun updated ↦ ?_
      refine run_bind rfl fun rowcount ↦ ?_
      split
      · exact run_bind trivial fun _ ↦ .raise _
      · refine (Program.AllCalls.perform fun _ ↦ rfl).attempt.bind fun r ↦ ?_
        split
        · refine run_bind trivial fun o ↦ ?_
          split
          · exact .raise _
          · exact .ret _
        · exact run_bind trivial fun _ ↦ .raise _
        · exact .raise _

theorem onCases_calls {α : Type} {t : EventType} {p : Operation α} (ht : t.OfCase)
    (h : p.AllCalls (Stmt.Logs t)) : (onCases p).AllCalls (OpStmt.Logs t) := by
  refine h.embed fun op hop ↦ ?_
  cases op with
  | commit ev => exact ⟨ht, hop⟩
  | updateCase caseId v st => exact hop
  | _ => trivial

/-! ## All operations -/

namespace OpRequest

/-- The type of the event that a request logs. -/
def eventType : OpRequest → EventType
  | create _ _ => .caseCreated
  | transition _ _ _ => .stateTransitioned
  | link _ _ _ => .incidentLinkedToProblem
  | rootCause _ _ _ => .problemRootCauseRecorded
  | sla _ _ _ => .slaApplied
  | assign _ _ _ => .assignmentChanged
  | requestApproval _ _ _ => .approvalRequested
  | decide _ _ _ _ => .approvalDecided
  | evidence _ _ _ => .changeRuntimeEvidenceRecorded

end OpRequest

/-- **An operation that writes a side table** logs events of its own type only, and none of them
carries a state. -/
theorem opCode_sides (cfg : OpConfig) {r : OpRequest} (hside : ¬r.eventType.OfCase) :
    (opCode cfg r).AllCalls (OpStmt.Sides r.eventType) := by
  have hanswer : ∀ {α : Type} {f : α → Row} {p : OpProgram (α × Bool)},
      p.AllCalls (OpStmt.Sides r.eventType) → (answer f p).AllCalls (OpStmt.Sides r.eventType) :=
    fun hp ↦ hp.bind fun _ ↦ .ret _
  cases r with
  | create payload correlationId => exact absurd (.inl rfl) hside
  | transition caseId payload correlationId => exact absurd (.inr rfl) hside
  | link caseId payload correlationId => exact hanswer (linkIncidentToProblem_calls _ _ _ _)
  | rootCause caseId payload correlationId => exact hanswer (recordProblemRootCause_calls _ _ _ _)
  | sla caseId payload correlationId => exact hanswer (applyCaseSla_calls _ _ _ _)
  | assign caseId payload correlationId => exact hanswer (changeAssignment_calls _ _ _)
  | requestApproval caseId payload correlationId => exact hanswer (requestApproval_calls _ _ _)
  | decide caseId approvalId payload correlationId => exact hanswer (decideApproval_calls _ _ _ _)
  | evidence caseId payload correlationId => exact hanswer (recordChangeEvidence_calls _ _ _ _)

/-- **An operation logs events of its own type only.** -/
theorem opCode_calls (cfg : OpConfig) (r : OpRequest) :
    (opCode cfg r).AllCalls (OpStmt.Logs r.eventType) := by
  have hanswer : ∀ {f : CaseRecord → Row} {p : OpProgram (CaseRecord × Bool)},
      p.AllCalls (OpStmt.Logs r.eventType) → (answer f p).AllCalls (OpStmt.Logs r.eventType) :=
    fun hp ↦ hp.bind fun _ ↦ .ret _
  have hsides : ¬r.eventType.OfCase → (opCode cfg r).AllCalls (OpStmt.Logs r.eventType) :=
    fun hside ↦ (opCode_sides cfg hside).imp fun _ h ↦ h.1
  cases r with
  | create payload correlationId =>
    exact hanswer (onCases_calls (.inl rfl) (createServiceCase_calls _ _ _))
  | transition caseId payload correlationId =>
    exact hanswer (onCases_calls (.inr rfl) (transitionServiceCase_calls _ _ _ _))
  | _ => exact hsides (by rintro (h | h) <;> cases h)

/-- Every statement logs events of one type. -/
theorem opCode_logs (cfg : OpConfig) (r : OpRequest) :
    (opCode cfg r).AllCalls fun op ↦ ∃ t, op.Logs t :=
  (opCode_calls cfg r).imp fun _ h ↦ ⟨r.eventType, h⟩

end ServiceCases

end ReqSys
