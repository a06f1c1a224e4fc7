import ReqSys.Foundation.RelyGuarantee
import ReqSys.ServiceCases.CallEffects

/-!
# Service management: what a session has read

A session that assigns a case, requests an approval or decides one commits values it computed from
rows it has read before. Other sessions may have committed in between. What they cannot do is take a
row away: assignments are never changed, and an approval keeps its case and its sequence. So a new
assignment always follows *some* assignment with the previous number, and a decision is always
logged on the case of its approval.

`Provenance` collects what holds of the tables in every interleaving because of that, and `Grown`
what a session tolerates from the others. That the numbers are unique, or that an approval is
decided once, is not among it: these need that no other session commits in between.
-/

namespace ReqSys

namespace ServiceCases

/-! ## The invariant of all interleavings -/

/-- The number of `APPROVAL_DECIDED` events of a case. -/
def Tables.decidedEvents (db : Tables) (caseId : String) : ℕ :=
  db.events.countP fun e ↦ e.eventType = .approvalDecided ∧ e.caseId = caseId

/-- The number of decided approvals of a case. -/
def Tables.decidedApprovals (db : Tables) (caseId : String) : ℕ :=
  db.approvals.countP fun a ↦ a.status ≠ .pending ∧ a.caseId = caseId

/-- The first assignment of a case, or one that records the assignment with the previous number. -/
def CaseAssignment.Follows (rows : List CaseAssignment) (a : CaseAssignment) : Prop :=
  (a.sequence = 1 ∧ a.previousGroup = none ∧ a.previousAssignee = none) ∨
    ∃ b ∈ rows, b.caseId = a.caseId ∧ a.sequence = b.sequence + 1 ∧
      a.previousGroup = some b.assignmentGroup ∧ a.previousAssignee = b.assignee

/-- The first approval of a case, or one with a predecessor. -/
def CaseApproval.Follows (rows : List CaseApproval) (a : CaseApproval) : Prop :=
  a.sequence = 1 ∨ ∃ b ∈ rows, b.caseId = a.caseId ∧ a.sequence = b.sequence + 1

/-- What holds of the tables in every interleaving. -/
structure Provenance (db : Tables) : Prop where
  keyed : Table.Keyed CaseApproval.approvalId db.approvals
  normalized : ∀ a ∈ db.assignments,
    Normalized a.assignmentGroup ∧ ∀ s ∈ a.assignee, Normalized s
  assignments : ∀ a ∈ db.assignments, a.Follows db.assignments
  approvals : ∀ a ∈ db.approvals, a.Follows db.approvals

/-- What a session tolerates from the others. No case gains more decided approvals than decision
events. -/
structure Grown (db db' : Tables) : Prop where
  assignments : db.assignments ⊆ db'.assignments
  approvals : ∀ a ∈ db.approvals, ∃ a' ∈ db'.approvals, a'.approvalId = a.approvalId ∧
    a'.caseId = a.caseId ∧ a'.sequence = a.sequence
  balance : ∀ c, db.decidedEvents c + db'.decidedApprovals c
    ≤ db'.decidedEvents c + db.decidedApprovals c

theorem Grown.refl (db : Tables) : Grown db db :=
  ⟨List.Subset.refl _, fun a ha ↦ ⟨a, ha, rfl, rfl, rfl⟩, fun _ ↦ le_rfl⟩

theorem Grown.trans {db db' db'' : Tables} (h : Grown db db') (h' : Grown db' db'') :
    Grown db db'' := by
  refine ⟨fun a ha ↦ h'.assignments (h.assignments ha), fun a ha ↦ ?_, fun c ↦ ?_⟩
  · obtain ⟨b, hb, hid, hcase, hseq⟩ := h.approvals a ha
    obtain ⟨b', hb', hid', hcase', hseq'⟩ := h'.approvals b hb
    exact ⟨b', hb', hid'.trans hid, hcase'.trans hcase, hseq'.trans hseq⟩
  · have := h.balance c
    have := h'.balance c
    omega

/-- The discipline of the sessions. -/
def provenance : Discipline opMachine where
  I := Provenance
  R _ := Grown
  refl _ := Grown.refl
  trans := Grown.trans

/-! ## What the statements do -/

section Keeps

variable {i : ℕ} {db db' : Tables}

theorem Tables.decidedEvents_concat (db db' : Tables) {ev : CaseEvent} (c : String)
    (h : db'.events = db.events ++ [ev]) : db'.decidedEvents c = db.decidedEvents c
      + if ev.eventType = .approvalDecided ∧ ev.caseId = c then 1 else 0 := by
  rw [Tables.decidedEvents, h, List.countP_append, List.countP_singleton]
  simp only [decide_eq_true_eq]
  rfl

/-- Assignments and approvals stay as they are, and no decision event is lost. -/
theorem keeps_of_same (h : Provenance db) (hassign : db'.assignments = db.assignments)
    (happrove : db'.approvals = db.approvals)
    (hevents : ∀ c, db.decidedEvents c ≤ db'.decidedEvents c) :
    provenance.Keeps i db db' := by
  refine ⟨⟨?_, ?_, ?_, ?_⟩, fun j _ ↦ ⟨?_, ?_, fun c ↦ ?_⟩⟩
  · rw [happrove]
    exact h.keyed
  · rw [hassign]
    exact h.normalized
  · rw [hassign]
    exact h.assignments
  · rw [happrove]
    exact h.approvals
  · rw [hassign]
    exact List.Subset.refl _
  · rw [happrove]
    exact (Grown.refl db).approvals
  · have hsame : db'.decidedApprovals c = db.decidedApprovals c := by
      rw [Tables.decidedApprovals, happrove, Tables.decidedApprovals]
    rw [hsame]
    exact Nat.add_le_add_right (hevents c) _

theorem le_decidedEvents_logged (db : Tables) (w : Write) (ev : CaseEvent) (c : String) :
    db.decidedEvents c ≤ ((db.written w).logged ev).decidedEvents c := by
  have hevents : ((db.written w).logged ev).events = db.events ++ [ev] := by
    cases w <;> rfl
  rw [Tables.decidedEvents_concat db _ c hevents]
  exact Nat.le_add_right _ _

/-- A commit leaves the tables as they are, or holds the row and the event. -/
theorem commit_fst (db : Tables) (w : Write) (ev : CaseEvent) :
    (db.commit w ev).1 = db ∨ (db.commit w ev).1 = (db.written w).logged ev := by
  obtain ⟨x, h⟩ | h := db.commit_cases w ev
  · exact .inl (by rw [h])
  · exact .inr (by rw [h])

/-- The write and the event that a call commits: it is a commit, and no key is taken. -/
def Tables.committed (db : Tables) : ℕ × OpStmt × OpEnv → Option (Write × CaseEvent)
  | (_, .commit write event, e) =>
    if db.missing (write e.now) || (db.getEvent (event e.now).eventId).isSome
      || db.taken (write e.now) then none
    else some (write e.now, event e.now)
  | _ => none

theorem forall_committed_of_none {x : ℕ × OpStmt × OpEnv} {P : Write × CaseEvent → Prop}
    (h : db.committed x = none) : ∀ c ∈ db.committed x, P c := by
  intro c hc
  rw [h] at hc
  cases hc

theorem forall_committed_iff {x : ℕ × OpStmt × OpEnv} {P : Write × CaseEvent → Prop}
    {c : Write × CaseEvent} (h : db.committed x = some c) : (∀ c ∈ db.committed x, P c) ↔ P c := by
  refine ⟨fun hall ↦ hall c h, fun hc c' hc' ↦ ?_⟩
  cases h.symm.trans hc'
  exact hc

theorem Tables.missing_of_committed {db : Tables} {x : ℕ × OpStmt × OpEnv} {w : Write}
    {ev : CaseEvent} (h : db.committed x = some (w, ev)) : db.missing w = false := by
  unfold Tables.committed at h
  split at h
  · split_ifs at h with hfree
    cases h
    rw [Bool.or_eq_true, Bool.or_eq_true, not_or, not_or] at hfree
    exact Bool.eq_false_iff.mpr hfree.1.1
  · cases h

/-- **What a statement does to the tables.** It leaves the side tables alone and adds at most an
event of the cases, or it commits a row and the event that records it. -/
theorem exec_cases {t : EventType} {op : OpStmt} (hop : op.Logs t) (i : ℕ) (e : OpEnv)
    (db : Tables) :
    (db.committed (i, op, e) = none ∧ ∃ d, (opMachine.exec i op e db).1 = { db with toDb := d } ∧
      (d.events = db.events ∨
        t.OfCase ∧ ∃ ev, ev.eventType = t ∧ d.events = db.events ++ [ev])) ∨
    ∃ w ev, db.committed (i, op, e) = some (w, ev) ∧
      (opMachine.exec i op e db).1 = (db.written w).logged ev ∧
      ev.eventType = t ∧ w.eventType = t ∧ w.Proper := by
  cases op with
  | base op =>
    refine .inl ⟨rfl, _, rfl, ?_⟩
    cases op with
    | flushCase record =>
      left
      change (Db.flushCase _ _ _).1.events = _
      rw [Db.flushCase]
      split_ifs <;> rfl
    | updateCase caseId v st =>
      left
      change (db.toDb.updateCase i caseId v st e.now).1.events = _
      obtain h | h | ⟨-, h⟩ := updateCase_cases db.toDb i caseId v st e.now
      · rw [h]
      · rw [h]
      · rw [h]
        rfl
    | commit ev =>
      change (db.toDb.commit i (ev e.now)).1.events = _ ∨
        t.OfCase ∧ ∃ ev', _ ∧ (db.toDb.commit i (ev e.now)).1.events = _
      rw [Db.commit]
      split_ifs
      · exact .inl rfl
      · exact .inr ⟨hop.1, ev e.now, hop.2 _, rfl⟩
    | _ => exact .inl rfl
  | commit write event =>
    obtain ⟨htype, hwtype, hproper⟩ := hop e.now
    change (_ ∧ ∃ d, (db.commit (write e.now) (event e.now)).1 = _ ∧ _) ∨
      ∃ w ev, _ ∧ (db.commit (write e.now) (event e.now)).1 = _ ∧ _
    rw [Tables.committed, Tables.commit]
    cases db.missing (write e.now) with
    | true => exact .inl ⟨rfl, db.toDb, rfl, .inl rfl⟩
    | false =>
      rw [Bool.false_or, if_neg Bool.false_ne_true]
      split_ifs
      · exact .inl ⟨rfl, db.toDb, rfl, .inl rfl⟩
      · exact .inr ⟨_, _, rfl, rfl, htype, hwtype, hproper⟩
  | _ => exact .inl ⟨rfl, db.toDb, rfl, .inl rfl⟩

/-- Statements of the operations that write neither assignments nor approvals. -/
theorem keeps_logs (h : Provenance db) {t : EventType} {op : OpStmt} (hop : op.Logs t)
    (hassign : t ≠ .assignmentChanged) (hrequest : t ≠ .approvalRequested)
    (hdecide : t ≠ .approvalDecided) (e : OpEnv) :
    provenance.Keeps i db (opMachine.exec i op e db).1 := by
  obtain ⟨-, d, hexec, hevents⟩ | ⟨w, ev, -, hexec, -, htype, -⟩ := exec_cases hop i e db
  · rw [hexec]
    refine keeps_of_same h rfl rfl fun c ↦ ?_
    rcases hevents with hevents | ⟨-, ev, -, hevents⟩
    · rw [Tables.decidedEvents, ← hevents]
      rfl
    · rw [Tables.decidedEvents_concat db { db with toDb := d } c hevents]
      exact Nat.le_add_right _ _
  · rw [hexec]
    refine keeps_of_same h ?_ ?_ fun c ↦ le_decidedEvents_logged db _ _ c
    · cases w with
      | assignment r => exact absurd htype.symm hassign
      | _ => rfl
    · cases w with
      | approval r => exact absurd htype.symm hrequest
      | decision id d => exact absurd htype.symm hdecide
      | _ => rfl

/-- The commit of an assignment that follows one in the table. -/
theorem keeps_assignment (h : Provenance db) {r : CaseAssignment} {ev : CaseEvent}
    (hnormal : Normalized r.assignmentGroup ∧ ∀ s ∈ r.assignee, Normalized s)
    (hfollows : r.Follows db.assignments) :
    provenance.Keeps i db (db.commit (.assignment r) ev).1 := by
  obtain heq | heq := commit_fst db (.assignment r) ev
  · rw [heq]
    exact .same h
  · rw [heq]
    have hmem : ∀ {a}, a ∈ db.assignments → a ∈ db.assignments ++ [r] := fun ha ↦
      List.mem_append_left _ ha
    have hmono : ∀ {a : CaseAssignment}, a.Follows db.assignments →
        a.Follows (db.assignments ++ [r]) := by
      rintro a (hfirst | ⟨b, hb, hrest⟩)
      · exact .inl hfirst
      · exact .inr ⟨b, hmem hb, hrest⟩
    refine ⟨⟨h.keyed, fun a ha ↦ ?_, fun a ha ↦ ?_, h.approvals⟩,
      fun j _ ↦ ⟨fun a ha ↦ hmem ha, (Grown.refl db).approvals, fun c ↦ ?_⟩⟩
    · rcases List.mem_append.mp ha with ha | ha
      · exact h.normalized a ha
      · exact List.mem_singleton.mp ha ▸ hnormal
    · rcases List.mem_append.mp ha with ha | ha
      · exact hmono (h.assignments a ha)
      · exact hmono (List.mem_singleton.mp ha ▸ hfollows)
    · exact Nat.add_le_add_right (le_decidedEvents_logged db (.assignment r) ev c) _

/-- The commit of a pending approval that follows one in the table. -/
theorem keeps_approval (h : Provenance db) {r : CaseApproval} {ev : CaseEvent}
    (hpending : r.status = .pending) (hfollows : r.Follows db.approvals) :
    provenance.Keeps i db (db.commit (.approval r) ev).1 := by
  obtain ⟨x, heq⟩ | heq := db.commit_cases (.approval r) ev
  · rw [heq]
    exact .same h
  · obtain ⟨-, -, htaken, -⟩ := Tables.commit_eq_ok heq
    rw [heq]
    have hmem : ∀ {a}, a ∈ db.approvals → a ∈ db.approvals ++ [r] := fun ha ↦
      List.mem_append_left _ ha
    have hmono : ∀ {a : CaseApproval}, a.Follows db.approvals →
        a.Follows (db.approvals ++ [r]) := by
      rintro a (hfirst | ⟨b, hb, hrest⟩)
      · exact .inl hfirst
      · exact .inr ⟨b, hmem hb, hrest⟩
    refine ⟨⟨h.keyed.concat fun x hx ↦ ?_, h.normalized, h.assignments, fun a ha ↦ ?_⟩,
      fun j _ ↦ ⟨List.Subset.refl _, fun a ha ↦ ⟨a, hmem ha, rfl, rfl, rfl⟩, fun c ↦ ?_⟩⟩
    · have := List.any_eq_false.mp htaken x hx
      simp only [Bool.or_eq_true, decide_eq_true_eq, not_or] at this
      exact this.1
    · rcases List.mem_append.mp ha with ha | ha
      · exact hmono (h.approvals a ha)
      · exact hmono (List.mem_singleton.mp ha ▸ hfollows)
    · have hcount : ((db.written (.approval r)).logged ev).decidedApprovals c
          = db.decidedApprovals c := by
        change (db.approvals ++ [r]).countP _ = _
        rw [List.countP_append, List.countP_singleton]
        simp [hpending, Tables.decidedApprovals]
      rw [hcount]
      exact Nat.add_le_add_right (le_decidedEvents_logged db (.approval r) ev c) _

/-- A decision changes the count of decided approvals at most on the case of the approval. -/
theorem decidedApprovals_decision (hkeyed : Table.Keyed CaseApproval.approvalId db.approvals)
    {id : String} {a : CaseApproval} (ha : db.getApproval id = some a) {d : Decision}
    (hd : d.status ≠ .pending) (ev : CaseEvent) (c : String) :
    ((db.written (.decision id d)).logged ev).decidedApprovals c
      + (if a.status ≠ .pending ∧ a.caseId = c then 1 else 0)
      = db.decidedApprovals c + if a.caseId = c then 1 else 0 := by
  have hid : a.approvalId = id := Table.key_of_lookup ha
  subst hid
  have hcount := Table.countP_update (f := CaseApproval.decide d) hkeyed (Table.mem_of_lookup ha)
    fun a ↦ a.status ≠ .pending ∧ a.caseId = c
  simp only [decide_eq_true_eq] at hcount
  have hafter : ((a.decide d).status ≠ .pending ∧ (a.decide d).caseId = c) ↔ a.caseId = c :=
    and_iff_right hd
  rw [if_congr hafter rfl rfl] at hcount
  exact hcount

/-- The commit of a decision that is logged on the case of the approval. -/
theorem keeps_decision (h : Provenance db) {id : String} {a : CaseApproval}
    (ha : db.getApproval id = some a) {d : Decision} {ev : CaseEvent} (hd : d.status ≠ .pending)
    (htype : ev.eventType = .approvalDecided) (hcase : a.caseId = ev.caseId) :
    provenance.Keeps i db (db.commit (.decision id d) ev).1 := by
  obtain heq | heq := commit_fst db (.decision id d) ev
  · rw [heq]
    exact .same h
  · rw [heq]
    -- a decision keeps the key, the case and the sequence of every row
    have hrows : ∀ b ∈ db.approvals, ∃ b' ∈ Table.update CaseApproval.approvalId id
        (CaseApproval.decide d) db.approvals, b'.approvalId = b.approvalId ∧
        b'.caseId = b.caseId ∧ b'.sequence = b.sequence := by
      intro b hb
      by_cases hk : b.approvalId = id
      · exact ⟨b.decide d, Table.mem_update_self hb hk, rfl, rfl, rfl⟩
      · exact ⟨b, Table.mem_update_of_ne hb hk, rfl, rfl, rfl⟩
    refine ⟨⟨Table.Keyed.keyed_update (f := CaseApproval.decide d) (fun _ ↦ rfl) h.keyed,
      h.normalized, h.assignments, fun b hb ↦ ?_⟩,
      fun j _ ↦ ⟨List.Subset.refl _, hrows, fun c ↦ ?_⟩⟩
    · have hold : ∃ b₀ ∈ db.approvals, b.caseId = b₀.caseId ∧ b.sequence = b₀.sequence := by
        obtain ⟨hb, -⟩ | ⟨b₀, hb₀, -, rfl⟩ := Table.mem_update hb
        · exact ⟨b, hb, rfl, rfl⟩
        · exact ⟨b₀, hb₀, rfl, rfl⟩
      obtain ⟨b₀, hb₀, hcase₀, hseq₀⟩ := hold
      rcases h.approvals b₀ hb₀ with hfirst | ⟨x, hx, hcasex, hseqx⟩
      · exact .inl (hseq₀.trans hfirst)
      · obtain ⟨x', hx', -, hcasex', hseqx'⟩ := hrows x hx
        refine .inr ⟨x', hx', ?_, ?_⟩
        · rw [hcasex', hcasex, hcase₀]
        · rw [hseqx', hseq₀, hseqx]
    · have hcount := decidedApprovals_decision h.keyed ha hd ev c
      have hevents := Tables.decidedEvents_concat db ((db.written (.decision id d)).logged ev)
        c rfl
      have hmark : (ev.eventType = .approvalDecided ∧ ev.caseId = c) ↔ a.caseId = c := by
        rw [hcase]
        exact and_iff_right htype
      rw [if_congr hmark rfl rfl] at hevents
      omega

end Keeps

/-! ## The sessions keep it -/

section Safe

variable {α : Type} {i : ℕ} {db : Tables}

/-- Statements that log events of another type than assignments and approvals. -/
theorem safe_of_logs {t : EventType} {p : OpProgram α} (hp : p.AllCalls (OpStmt.Logs t))
    (hassign : t ≠ .assignmentChanged) (hrequest : t ≠ .approvalRequested)
    (hdecide : t ≠ .approvalDecided) : provenance.Safe i (fun _ _ ↦ True) db p :=
  .of_allCalls (fun {_ _ e} hop h ↦ keeps_logs h hop hassign hrequest hdecide e) hp

theorem safe_of_reads {p : OpProgram α} (hp : p.AllCalls OpStmt.IsRead) :
    provenance.Safe i (fun _ _ ↦ True) db p :=
  safe_of_logs (hp.imp fun _ h ↦ h.logs .slaApplied) nofun nofun nofun

/-- A program that only reads, with what others cannot disturb. -/
theorem safe_of_reads_stable {K : Tables → Prop}
    (hK : ∀ {s s'}, Provenance s' → Grown s s' → K s → K s') {p : OpProgram α} (hp : p.AllCalls OpStmt.IsRead) (hs : K db) :
    provenance.Safe i (fun _ s ↦ K s) db p :=
  .of_reads hK (hp.imp fun _ h e s ↦ exec_of_isRead h i e s) hs

theorem uuid4_reads : (ask .uuid4).AllCalls OpStmt.IsRead := ask_reads trivial

/-- A commit that keeps the discipline because of what the session has read. -/
theorem safe_commitOr {K : Tables → Prop} (hK : ∀ {s s'}, Provenance s' → Grown s s' → K s → K s')
    (hs : K db) {write : DateTime → Write} {event : DateTime → CaseEvent}
    (hkeeps : ∀ {s} now, Provenance s → K s →
      provenance.Keeps i s (s.commit (write now) (event now)).1)
    {done collision : OpProgram α} (hdone : done.AllCalls OpStmt.IsRead)
    (hcollision : collision.AllCalls OpStmt.IsRead) :
    provenance.Safe i (fun _ _ ↦ True) db (commitOr write event done collision) := by
  refine .call (fun s e hI hR ↦ hkeeps e.now hI (hK hI hR hs)) fun s e hI hR ↦ ?_
  refine safe_of_logs (t := .slaApplied) ?_ nofun nofun nofun
  refine (Program.AllCalls.ofExcept _).attempt.bind fun r ↦ ?_
  split
  · exact hdone.imp fun _ h ↦ h.logs _
  · exact (Program.AllCalls.perform trivial).bind fun _ ↦ hcollision.imp fun _ h ↦ h.logs _
  · exact .raise _

/-- What a session knows of the current assignment: it is in the table. -/
def Knows (current : Option CaseAssignment) (caseId : String) (db : Tables) : Prop :=
  ∀ b ∈ current, b ∈ db.assignments ∧ b.caseId = caseId

theorem knows_currentAssignment (db : Tables) (caseId : String) :
    Knows (db.currentAssignment caseId) caseId db := by
  intro b hb
  have hmem := List.mem_filter.mp (Table.mem_of_least hb)
  exact ⟨hmem.1, of_decide_eq_true hmem.2⟩

theorem safe_insertAssignment {current : Option CaseAssignment} {change : AssignmentChange}
    {caseId : String} (hknows : Knows current caseId db) (hcase : change.caseId = caseId)
    (hnormal : Normalized change.assignmentGroup ∧ ∀ s ∈ change.assignee, Normalized s)
    (hgroup : change.previousGroup = current.map CaseAssignment.assignmentGroup)
    (hassignee : change.previousAssignee = current.bind CaseAssignment.assignee)
    (eventId correlationId : String) :
    provenance.Safe i (fun _ _ ↦ True) db
      (insertAssignment current change caseId eventId correlationId) := by
  have hK : ∀ {s s'}, Provenance s' → Grown s s' → Knows current caseId s →
      Knows current caseId s' :=
    fun _ hgrown hs b hb ↦ ⟨hgrown.assignments (hs b hb).1, (hs b hb).2⟩
  refine (safe_of_reads_stable hK uuid4_reads hknows).bind (fun hs ↦ ?_) fun _ ↦ trivial
  refine safe_commitOr hK hs (fun now hI hs ↦ ?_)
    (ask_bind trivial fun _ ↦ refreshed_reads _) (.raise _)
  refine keeps_assignment hI hnormal ?_
  -- the first assignment of the case, or one over the current assignment
  cases current with
  | none => exact .inl ⟨rfl, hgroup, hassignee⟩
  | some b =>
    obtain ⟨hb, hbcase⟩ := hs b rfl
    exact .inr ⟨b, hb, hbcase.trans hcase.symm, rfl, hgroup, hassignee⟩

theorem safe_changeAssignment (caseId : String) (payload : AssignmentRequest)
    (correlationId : String) :
    provenance.Safe i (fun _ _ ↦ True) db (changeAssignment caseId payload correlationId) := by
  refine (safe_of_reads (caseOr_reads _ _)).bind (fun _ ↦ ?_) fun _ ↦ trivial
  refine (safe_of_reads (eventExists_reads _ _ _)).bind (fun _ ↦ ?_) fun _ ↦ trivial
  split
  · exact safe_of_reads (ask_bind trivial fun _ ↦ replayed_reads _ _)
  · refine .read_bind (fun _ _ ↦ rfl) (fun s e current hI _ hans ↦ ?_) fun _ _ _ _ _ hans ↦ ?_
    · cases hans
      have hknows := knows_currentAssignment s caseId
      refine (Discipline.Safe.ofExcept (Q := fun r s' ↦ s' = s ∧ r = _) ⟨rfl, rfl⟩).bind
        (fun {change s'} hs ↦ ?_) fun _ ↦ trivial
      obtain ⟨rfl, hchange⟩ := hs
      have hcase := caseId_of_planAssignment hchange.symm
      have hgroup : ∀ x ∈ (s'.currentAssignment caseId).map CaseAssignment.assignmentGroup,
          Normalized x := by
        intro x hx
        obtain ⟨b, hb, rfl⟩ := Option.map_eq_some_iff.mp hx
        exact (hI.normalized b (hknows b hb).1).1
      have hassignee : ∀ x ∈ (s'.currentAssignment caseId).bind CaseAssignment.assignee,
          Normalized x := by
        intro x hx
        obtain ⟨b, hb, hbx⟩ := Option.bind_eq_some_iff.mp hx
        exact (hI.normalized b (hknows b hb).1).2 x hbx
      obtain ⟨hnewGroup, hnewAssignee, hprevious, hpreviousAssignee⟩ :=
        planAssignment_eq_ok hchange.symm hgroup hassignee
      have hinsert : provenance.Safe i (fun _ _ ↦ True) s' (insertAssignment
          (s'.currentAssignment caseId) change caseId payload.eventId correlationId) :=
        safe_insertAssignment hknows hcase ⟨hnewGroup, hnewAssignee⟩ hprevious
          hpreviousAssignee _ _
      split
      · split
        · exact .ret trivial
        · exact hinsert
      next hcurrent =>
        rw [hcurrent] at hinsert
        exact hinsert
    · cases hans

theorem safe_requestApproval (caseId : String) (payload : ApprovalRequest)
    (correlationId : String) :
    provenance.Safe i (fun _ _ ↦ True) db (requestApproval caseId payload correlationId) := by
  refine (safe_of_reads (caseOr_reads _ _)).bind (fun _ ↦ ?_) fun _ ↦ trivial
  refine (safe_of_reads (eventExists_reads _ _ _)).bind (fun _ ↦ ?_) fun _ ↦ trivial
  split
  · exact safe_of_reads (ask_bind trivial fun _ ↦ replayed_reads _ _)
  · refine .read_bind (fun _ _ ↦ rfl) (fun s e last hI _ hans ↦ ?_) fun _ _ _ _ _ hans ↦ ?_
    · cases hans
      let K (db : Tables) : Prop := ∀ b ∈ s.lastApproval caseId, ∃ b' ∈ db.approvals,
        b'.caseId = caseId ∧ b'.sequence = b.sequence
      have hK : ∀ {s s'}, Provenance s' → Grown s s' → K s → K s' := by
        intro s s' _ hgrown hs b hb
        obtain ⟨b', hb', hcase, hseq⟩ := hs b hb
        obtain ⟨x, hx, -, hcase', hseq'⟩ := hgrown.approvals b' hb'
        exact ⟨x, hx, hcase'.trans hcase, hseq'.trans hseq⟩
      have hs : K s := by
        intro b hb
        have hmem := List.mem_filter.mp (Table.mem_of_least hb)
        exact ⟨b, hmem.1, of_decide_eq_true hmem.2, rfl⟩
      refine (safe_of_reads_stable hK uuid4_reads hs).bind (fun hs ↦ ?_) fun _ ↦ trivial
      refine safe_commitOr hK hs (fun now hI hs ↦ ?_)
        (ask_bind trivial fun _ ↦ refreshed_reads _) (.raise _)
      refine keeps_approval hI rfl ?_
      cases hlast : s.lastApproval caseId with
      | none => exact .inl rfl
      | some b =>
        obtain ⟨b', hb', hcase, hseq⟩ := hs b hlast
        exact .inr ⟨b', hb', hcase, congrArg (· + 1) hseq.symm⟩
    · cases hans

theorem safe_decideApproval (caseId approvalId : String) (payload : DecisionRequest)
    (correlationId : String) :
    provenance.Safe i (fun _ _ ↦ True) db
      (decideApproval caseId approvalId payload correlationId) := by
  let K (db : Tables) : Prop := ∃ a, db.getApproval approvalId = some a ∧ a.caseId = caseId
  have hK : ∀ {s s'}, Provenance s' → Grown s s' → K s → K s' := by
    rintro s s' hI hgrown ⟨a, ha, hcase⟩
    obtain ⟨a', ha', hid, hcase', -⟩ := hgrown.approvals a (Table.mem_of_lookup ha)
    have hkey : a'.approvalId = approvalId := hid.trans (Table.key_of_lookup ha)
    exact ⟨a', hkey ▸ hI.keyed.lookup_of_mem ha', hcase'.trans hcase⟩
  refine (safe_of_reads (caseOr_reads _ _)).bind (fun _ ↦ ?_) fun _ ↦ trivial
  refine .read_bind (fun _ _ ↦ rfl) (fun s e o hI _ hans ↦ ?_) fun _ _ _ _ _ hans ↦ ?_
  · cases hans
    split
    · exact .raise trivial
    next record hrecord =>
      split
      next hcase =>
        have hid : record.approvalId = approvalId := Table.key_of_lookup hrecord
        refine (safe_of_reads_stable hK (eventExists_reads _ _ _) ⟨record, hrecord, hcase⟩).bind
          (fun hs ↦ ?_) fun _ ↦ trivial
        split
        · exact safe_of_reads ((Program.AllCalls.ofExcept _).bind fun _ ↦ .ret _)
        · refine (Discipline.Safe.ofExcept (Q := fun r s' ↦ K s' ∧ r = _) ⟨hs, rfl⟩).bind
            (fun {_ s'} hvalid ↦ ?_) fun _ ↦ trivial
          obtain ⟨hs, hvalid⟩ := hvalid
          obtain ⟨hd, -⟩ := validateApprovalDecision_eq_ok hvalid.symm
          refine safe_commitOr hK hs (fun now hI hs ↦ ?_)
            (ask_bind trivial fun _ ↦ refreshed_reads _) (.raise _)
          obtain ⟨a, ha, hacase⟩ := hs
          rw [← hid] at ha
          exact keeps_decision hI ha hd rfl hacase
      next => exact .raise trivial
  · cases hans

/-- **Every operation keeps the discipline.** -/
theorem safe_opCode (cfg : OpConfig) (i : ℕ) (r : OpRequest) (db : Tables) (_ : Provenance db) :
    provenance.Safe i (fun _ _ ↦ True) db (opCode cfg r) := by
  have hcalls := opCode_calls cfg r
  cases r with
  | assign caseId payload correlationId =>
    exact (safe_changeAssignment _ _ _).bind (fun _ ↦ .ret trivial) fun _ ↦ trivial
  | requestApproval caseId payload correlationId =>
    exact (safe_requestApproval _ _ _).bind (fun _ ↦ .ret trivial) fun _ ↦ trivial
  | decide caseId approvalId payload correlationId =>
    exact (safe_decideApproval _ _ _ _).bind (fun _ ↦ .ret trivial) fun _ ↦ trivial
  | _ => exact safe_of_logs hcalls nofun nofun nofun

theorem keeps_close (i : ℕ) (db : Tables) (h : Provenance db) :
    provenance.Keeps i db (opMachine.close i db) :=
  keeps_of_same h rfl rfl fun _ ↦ le_rfl

theorem provenance_init : Provenance {} :=
  ⟨List.nodup_nil, fun _ ha ↦ absurd ha List.not_mem_nil, fun _ ha ↦ absurd ha List.not_mem_nil,
    fun _ ha ↦ absurd ha List.not_mem_nil⟩

end Safe

end ServiceCases

end ReqSys
