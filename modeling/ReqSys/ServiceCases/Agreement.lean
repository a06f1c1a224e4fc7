import ReqSys.ServiceCases.CallEffects

/-!
# Service management: the event log and the side tables agree

Every row of a side table names the event under which it was written, and every event of one of
their types is named by a row. Each operation writes both by hand; `LogAgrees` is what must hold of
the tables for the log to be an audit trail of them.

The agreement is kept because a commit writes a row together with its event or neither of them
(`LogAgrees.commit`), and because a decision finds its approval pending: it then gives the row its
one decision event. That is where the operations must not overlap.
-/

namespace ReqSys

namespace ServiceCases

/-! ## Rows and events -/

/-- The ids and cases of the events of a type. -/
def Tables.eventMarks (db : Tables) (t : EventType) : List (String × String) :=
  (db.events.filter fun e ↦ e.eventType = t).map fun e ↦ (e.eventId, e.caseId)

/-- The events that the rows of a side table name, with the case of each row. -/
def Tables.rowMarks (db : Tables) : EventType → List (String × String)
  | .incidentLinkedToProblem => db.links.map fun r ↦ (r.eventId, r.incidentCaseId)
  | .problemRootCauseRecorded => db.rootCauses.map fun r ↦ (r.eventId, r.problemCaseId)
  | .assignmentChanged => db.assignments.map fun r ↦ (r.eventId, r.caseId)
  | .approvalRequested => db.approvals.map fun r ↦ (r.requestedEventId, r.caseId)
  | .approvalDecided => db.approvals.filterMap fun r ↦ r.decisionEventId.map (·, r.caseId)
  | .changeRuntimeEvidenceRecorded => db.evidences.map fun r ↦ (r.eventId, r.caseId)
  | .slaApplied | .caseCreated | .stateTransitioned => []

/-- The types of events whose rows name them. -/
def EventType.Named : EventType → Prop
  | .slaApplied | .caseCreated | .stateTransitioned => False
  | _ => True

/-- The event log and the side tables agree. Event ids are unique, so for every type the permutation
is a bijection between its events and the rows that name them, on the same case. A row of `slas`
names no event: there the cases of the events are those of the rows, each once. -/
structure LogAgrees (db : Tables) : Prop where
  keyed : Table.Keyed CaseEvent.eventId db.events
  rows : ∀ t : EventType, t.Named → (db.eventMarks t).Perm (db.rowMarks t)
  slas : ((db.eventMarks .slaApplied).map Prod.snd).Perm (db.slas.map CaseSla.caseId)
  slas_keyed : Table.Keyed CaseSla.caseId db.slas
  approvals_keyed : Table.Keyed CaseApproval.approvalId db.approvals
  decided : ∀ a ∈ db.approvals, a.status ≠ .pending ↔ a.decisionEventId.isSome = true

theorem Tables.eventMarks_logged (db : Tables) (ev : CaseEvent) (t : EventType) :
    (db.logged ev).eventMarks t
      = db.eventMarks t ++ if ev.eventType = t then [(ev.eventId, ev.caseId)] else [] := by
  rw [eventMarks, logged, List.filter_append, List.map_append]
  by_cases h : ev.eventType = t
  · simp [eventMarks, h]
  · simp [eventMarks, h]

theorem Tables.events_written (db : Tables) (w : Write) : (db.written w).events = db.events := by
  cases w <;> rfl

theorem Tables.eventMarks_written (db : Tables) (w : Write) (t : EventType) :
    (db.written w).eventMarks t = db.eventMarks t := by
  rw [eventMarks, events_written, eventMarks]

/-- A new row adds the mark of its event to the rows of that type, and nothing to the others. -/
theorem Tables.rowMarks_insert {db : Tables} {w : Write} {ev : CaseEvent}
    (hw : w.RecordedBy db ev) (hinsert : ∀ id d, w ≠ .decision id d) {t : EventType}
    (ht : t.Named) : (db.written w).rowMarks t
      = db.rowMarks t ++ if ev.eventType = t then [(ev.eventId, ev.caseId)] else [] := by
  cases w with
  | link r =>
    obtain ⟨htype, hid, hcase⟩ := hw
    cases t <;> simp [written, rowMarks, htype, hid, hcase]
  | rootCause r =>
    obtain ⟨htype, hid, hcase⟩ := hw
    cases t <;> simp [written, rowMarks, htype, hid, hcase]
  | sla r =>
    obtain ⟨htype, hcase⟩ := hw
    cases t with
    | slaApplied => exact ht.elim
    | _ => simp [written, rowMarks, htype]
  | assignment r =>
    obtain ⟨htype, hid, hcase⟩ := hw
    cases t <;> simp [written, rowMarks, htype, hid, hcase]
  | approval r =>
    obtain ⟨htype, hid, hcase, -, hnone⟩ := hw
    cases t <;> simp [written, rowMarks, htype, hid, hcase, hnone]
  | decision id d => exact absurd rfl (hinsert id d)
  | evidence r =>
    obtain ⟨htype, hid, hcase⟩ := hw
    cases t <;> simp [written, rowMarks, htype, hid, hcase]

/-- A decision adds the mark of its event to the decided approvals, and nothing to the others. -/
theorem Tables.rowMarks_decision {db : Tables} (h : LogAgrees db) {id : String} {d : Decision}
    {ev : CaseEvent} (hw : (Write.decision id d).RecordedBy db ev) (t : EventType) :
    ((db.written (.decision id d)).rowMarks t).Perm
      (db.rowMarks t ++ if ev.eventType = t then [(ev.eventId, ev.caseId)] else []) := by
  obtain ⟨htype, hid, -, a, ha, hcase, hstatus⟩ := hw
  have hnone : a.decisionEventId = none := by
    have := (h.decided a (Table.mem_of_lookup ha)).not
    rw [hstatus] at this
    exact Option.not_isSome_iff_eq_none.mp (this.mp fun hne ↦ hne rfl)
  rw [htype]
  cases t with
  | approvalDecided =>
    rw [if_pos rfl, hid, hcase]
    have hbefore : a.decisionEventId.map (·, a.caseId) = none := by
      rw [hnone]
      rfl
    have hafter : (a.decide d).decisionEventId.map (·, (a.decide d).caseId)
        = some (d.eventId, a.caseId) := rfl
    exact (Table.filterMap_update_perm h.approvals_keyed ha hbefore hafter).trans
      (List.perm_append_singleton _ _).symm
  | approvalRequested =>
    rw [if_neg (by decide), List.append_nil]
    refine List.Perm.of_eq ?_
    simp only [written, rowMarks, Table.update, List.map_map]
    refine List.map_congr_left fun r _ ↦ ?_
    simp only [Function.comp]
    split <;> rfl
  | _ =>
    rw [if_neg (by decide), List.append_nil]
    exact List.Perm.refl _

theorem Tables.rowMarks_written {db : Tables} (h : LogAgrees db) {w : Write} {ev : CaseEvent}
    (hw : w.RecordedBy db ev) {t : EventType} (ht : t.Named) :
    ((db.written w).rowMarks t).Perm
      (db.rowMarks t ++ if ev.eventType = t then [(ev.eventId, ev.caseId)] else []) := by
  by_cases hdecision : ∃ id d, w = .decision id d
  · obtain ⟨id, d, rfl⟩ := hdecision
    exact rowMarks_decision h hw t
  · refine List.Perm.of_eq (rowMarks_insert hw (fun id d hwd ↦ hdecision ⟨id, d, hwd⟩) ht)

/-- **A commit keeps the agreement.** -/
theorem LogAgrees.commit {db db' : Tables} (h : LogAgrees db) {w : Write} {ev : CaseEvent}
    (hw : w.RecordedBy db ev) (hcommit : db.commit w ev = (db', .ok ())) : LogAgrees db' := by
  obtain ⟨-, hfresh, htaken, rfl⟩ := Tables.commit_eq_ok hcommit
  constructor
  · refine Table.Keyed.concat ?_ ?_
    · rw [Tables.events_written]
      exact h.keyed
    · rw [Tables.events_written]
      exact fun e he ↦ Table.ne_key_of_lookup_none hfresh he
  · intro t ht
    rw [Tables.eventMarks_logged]
    refine List.Perm.trans ?_ (Tables.rowMarks_written h hw ht).symm
    rw [Tables.eventMarks_written]
    exact (h.rows t ht).append_right _
  · rw [Tables.eventMarks_logged, Tables.eventMarks_written, List.map_append]
    refine (h.slas.append_right _).trans (List.Perm.of_eq ?_)
    cases w with
    | sla r =>
      obtain ⟨htype, hcase⟩ := hw
      simp [Tables.written, Tables.logged, htype, hcase]
    | _ =>
      obtain ⟨htype, -⟩ := hw
      simp [Tables.written, Tables.logged, htype]
  · cases w with
    | sla r =>
      refine h.slas_keyed.concat fun x hx ↦ ?_
      have := List.any_eq_false.mp htaken x hx
      simpa using this
    | _ => exact h.slas_keyed
  · cases w with
    | approval r =>
      refine h.approvals_keyed.concat fun x hx ↦ ?_
      have := List.any_eq_false.mp htaken x hx
      simp only [Bool.or_eq_true, decide_eq_true_eq, not_or] at this
      exact this.1
    | decision id d =>
      exact Table.Keyed.keyed_update (f := CaseApproval.decide d) (fun _ ↦ rfl) h.approvals_keyed
    | _ => exact h.approvals_keyed
  · cases w with
    | approval r =>
      obtain ⟨-, -, -, hstatus, hnone⟩ := hw
      intro a ha
      rcases List.mem_append.mp ha with ha | ha
      · exact h.decided a ha
      · rw [List.mem_singleton.mp ha, hstatus, hnone]
        simp
    | decision id d =>
      obtain ⟨-, -, hd, -⟩ := hw
      intro a ha
      obtain ⟨ha, -⟩ | ⟨b, -, -, rfl⟩ := Table.mem_update ha
      · exact h.decided a ha
      · exact iff_of_true hd rfl
    | _ => exact h.decided

/-- An event of the cases keeps the agreement. -/
theorem LogAgrees.caseEvent {db : Tables} (h : LogAgrees db) {ev : CaseEvent}
    (cases : List CaseRecord) (hfresh : db.getEvent ev.eventId = none)
    (htype : ¬ev.eventType.Named) (hsla : ev.eventType ≠ .slaApplied) :
    LogAgrees { db with cases, events := db.events ++ [ev] } where
  keyed := h.keyed.concat fun e he ↦ Table.ne_key_of_lookup_none hfresh he
  rows t ht := by
    have hmarks := Tables.eventMarks_logged db ev t
    have hne : ev.eventType ≠ t := by
      rintro rfl
      exact htype ht
    rw [if_neg hne, List.append_nil] at hmarks
    exact (List.Perm.of_eq hmarks).trans (h.rows t ht)
  slas := by
    have hmarks := Tables.eventMarks_logged db ev .slaApplied
    rw [if_neg hsla, List.append_nil] at hmarks
    exact (List.Perm.of_eq (congrArg (List.map Prod.snd) hmarks)).trans h.slas
  slas_keyed := h.slas_keyed
  approvals_keyed := h.approvals_keyed
  decided := h.decided

/-! ## Whole runs -/

theorem LogAgrees.effect {cfg : OpConfig} {db db' : Tables} {r : OpRequest} {row : Row}
    (h : LogAgrees db) (heffect : Effect cfg db r row db') : LogAgrees db' := by
  cases heffect with
  | side _ _ _ _ hw hcommit => exact h.commit hw hcommit
  | case cases _ htype hlogs hfresh =>
    cases r with
    | create payload correlationId =>
      exact h.caseEvent cases hfresh (by rw [htype]; exact id) (by rw [htype]; nofun)
    | transition caseId payload correlationId =>
      exact h.caseEvent cases hfresh (by rw [htype]; exact id) (by rw [htype]; nofun)
    | _ => exact hlogs.elim

theorem serial_invariant {cfg : OpConfig}
    {tr : List (OpRequest × Except RsmError (Row × Bool))} {db : Tables}
    (h : (serialOperations cfg).Run tr db) : LogAgrees db ∧ db.pending = [] := by
  refine TransitionSystem.Run.invariant (I := fun db : Tables ↦ LogAgrees db ∧ db.pending = [])
    (fun hinit ↦ ?_) (fun {db l db'} hdb hstep ↦ ?_) h
  · rw [hinit]
    refine ⟨⟨List.nodup_nil, fun t _ ↦ ?_, List.Perm.nil, List.nodup_nil, List.nodup_nil, ?_⟩, rfl⟩
    · cases t <;> exact List.Perm.nil
    · exact fun a ha ↦ absurd ha List.not_mem_nil
  · obtain ⟨hagrees, hpending⟩ := hdb
    obtain ⟨r, out⟩ := l
    have hresult := result_of_step hpending hstep
    rcases out with x | ⟨row, _ | _⟩
    · rw [show db' = db from hresult]
      exact ⟨hagrees, hpending⟩
    · exact ⟨hagrees.effect hresult, (Effect.pending hresult).trans hpending⟩
    · rw [show db' = db from hresult]
      exact ⟨hagrees, hpending⟩

/-- **The event log and the side tables agree.** After any operations that do not overlap, whatever
event ids they reuse and whatever of them is rejected; and a call that is rejected or answered as a
duplicate changes nothing. -/
theorem log_agrees (cfg : OpConfig) {tr : List (OpRequest × Except RsmError (Row × Bool))}
    {db : Tables} (h : (serialOperations cfg).Run tr db) :
    LogAgrees db ∧ ∀ r out db', (serialOperations cfg).step db (r, out) db' →
      (∀ row, out ≠ .ok (row, false)) → db' = db := by
  obtain ⟨hagrees, hpending⟩ := serial_invariant h
  refine ⟨hagrees, fun r out db' hstep hout ↦ ?_⟩
  have hresult := result_of_step hpending hstep
  rcases out with x | ⟨row, _ | _⟩
  · exact hresult
  · exact absurd rfl (hout row)
  · exact hresult

/-- A case is created, assigned, and its approval requested and decided; the decision is then sent
again under the event id of the assignment. -/
def sampleRequests : List OpRequest :=
  [.create sampleCreate "c-1",
    .assign sampleCaseId sampleRedes "c-2",
    .requestApproval sampleCaseId (sampleApproval "e-2") "c-3",
    .decide sampleCaseId sampleCaseId (sampleDecision .approved "e-3") "c-4",
    .decide sampleCaseId sampleCaseId (sampleDecision .approved "e-1") "c-5"]

theorem log_agrees_decided :
    LogAgrees (sampleSerial sampleRequests).2 ∧
      (sampleSerial sampleRequests).2.rowMarks .approvalDecided = [("e-3", sampleCaseId)] ∧
      (sampleSerial sampleRequests).2.events.length = 4 :=
  ⟨(log_agrees sampleOpConfig (run_sampleSerial sampleRequests)).1, by decide +kernel,
    by decide +kernel⟩

end ServiceCases

end ReqSys
