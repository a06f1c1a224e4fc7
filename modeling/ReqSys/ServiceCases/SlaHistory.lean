import ReqSys.ServiceCases.ClosingGate
import ReqSys.ServiceCases.SlaEvaluation

/-!
# Service management: what the log says about an SLA

The marks of an SLA are read off the log. What makes them fit the row of the case is a fact about
the graph of transitions: the states after `IN_PROGRESS` are entered from there only, so a case that
is in one of them was in progress before, and its log has an event that says so (`Marked`). No
version needs to be compared for that. A session may work on a state that is long gone; that the
case has been in progress never changes again.

The deadlines in turn are computed from the creation of the case, which is never updated.
-/

namespace ReqSys

namespace ServiceCases

/-! ## Cases that have been in progress -/

/-- The states that only a case in progress gets to. -/
def CaseState.Worked : CaseState → Prop
  | inProgress | pendingExternal | resolved | closed => True
  | _ => False

theorem CaseState.worked_of_allowed {st target : CaseState} (h : target ∈ st.allowedTransitions)
    (htarget : target.Worked) : target = .inProgress ∨ st.Worked := by
  cases st with
  | inProgress | pendingExternal | resolved | closed => exact .inr trivial
  | new | triage | pendingApproval =>
    left
    cases target with
    | inProgress => rfl
    | _ => first | exact htarget.elim | exact absurd h (by decide)
  | canceled => exact absurd h List.not_mem_nil

/-- The log says that the case has been in progress. -/
def Answered (db : Db) (caseId : String) : Prop := ∃ e, Reaches db caseId .inProgress e

/-- The events that `_sla_marks` reads. -/
def CaseEvent.IsMark (e : CaseEvent) : Prop :=
  e.toState = some .inProgress ∨ e.toState = some .resolved

/-- What the rows and the log say about the cases that have been in progress. -/
structure Marked (db : Db) : Prop where
  worked : ∀ c r, db.getCase c = some r → r.state.Worked → Answered db c
  resolved : ∀ c e, Reaches db c .resolved e → Answered db c
  owned : ∀ e ∈ db.events, e.IsMark → (db.getCase e.caseId).isSome = true

/-- Rows keep the time of their creation, and events stay. -/
structure Dated (db db' : Db) : Prop where
  rows : ∀ c r, db.getCase c = some r → ∃ r', db'.getCase c = some r' ∧ r'.createdAt = r.createdAt
  events : db.events ⊆ db'.events

/-- What a session tolerates from the others. -/
structure Undated (i : ℕ) (db db' : Db) : Prop where
  dated : Dated db db'
  own : db'.pendingOf i = db.pendingOf i

theorem Dated.refl (db : Db) : Dated db db := ⟨fun _ r hr ↦ ⟨r, hr, rfl⟩, List.Subset.refl _⟩

theorem Dated.trans {db db' db'' : Db} (h : Dated db db') (h' : Dated db' db'') :
    Dated db db'' := by
  refine ⟨fun c r hr ↦ ?_, List.Subset.trans h.events h'.events⟩
  obtain ⟨r', hr', hcreated⟩ := h.rows c r hr
  obtain ⟨r'', hr'', hcreated'⟩ := h'.rows c r' hr'
  exact ⟨r'', hr'', hcreated'.trans hcreated⟩

theorem Answered.mono {db db' : Db} {c : String} (h : Answered db c)
    (hevents : db.events ⊆ db'.events) : Answered db' c := by
  obtain ⟨e, he⟩ := h
  exact ⟨e, hevents he.mem, he.caseId, he.toState⟩

/-- The discipline of the operations on the cases. -/
def marking : Discipline machine where
  I := Marked
  R := Undated
  refl _ db := ⟨Dated.refl db, rfl⟩
  trans h h' := ⟨h.dated.trans h'.dated, h'.own.trans h.own⟩

/-! ## What the statements do -/

section Keeps

variable {i : ℕ} {db : Db}

/-- Changing one's own pending write disturbs no one. -/
theorem marking_of_pending {l : List (ℕ × Pending)} (h : Marked db)
    (hother : ∀ j, j ≠ i → Db.pendingOf { db with pending := l } j = db.pendingOf j) :
    marking.Keeps i db { db with pending := l } := by
  refine ⟨⟨fun c r hr hw ↦ ?_, fun c e he ↦ ?_, h.owned⟩, fun j hj ↦ ⟨⟨?_, ?_⟩, hother j hj⟩⟩
  · exact (h.worked c r hr hw).mono (List.Subset.refl _)
  · exact (h.resolved c e ⟨he.mem, he.caseId, he.toState⟩).mono (List.Subset.refl _)
  · exact (Dated.refl db).rows
  · exact List.Subset.refl _

theorem marking_rollback (i : ℕ) (db : Db) (h : Marked db) :
    marking.Keeps i db (db.rollback i) := by
  refine marking_of_pending h fun j hj ↦ ?_
  change (db.rollback i).pendingOf j = _
  rw [pendingOf_rollback, if_neg hj]

theorem marking_stage (h : Marked db) (w : Pending) : marking.Keeps i db (db.stage i w) := by
  refine marking_of_pending h fun j hj ↦ ?_
  change (db.stage i w).pendingOf j = _
  rw [pendingOf_stage, if_neg hj]

/-- The commit of a pending write with its event: the row exists afterwards, and if it is in one of
the states after `IN_PROGRESS`, the log says so. -/
theorem marking_commit (h : Marked db) {w : Pending} {ev : CaseEvent} (hw : db.pendingOf i = some w)
    (hcase : ev.caseId = w.caseId)
    (hsome : ((db.apply w).getCase w.caseId).isSome = true)
    (hrow : ∀ r, (db.apply w).getCase w.caseId = some r → r.state.Worked →
      ev.toState = some .inProgress ∨ Answered db w.caseId)
    (hresolved : ev.toState = some .resolved → Answered db w.caseId) :
    marking.Keeps i db (db.commit i ev).1 := by
  obtain heq | heq := commit_eq ev hw
  · rw [heq]
    exact .same h
  rw [heq]
  have hget : ∀ c, Db.getCase { (db.apply w).rollback i with events := db.events ++ [ev] } c
      = (db.apply w).getCase c := fun _ ↦ rfl
  have hevents : db.events ⊆ db.events ++ [ev] := List.subset_append_left ..
  have hother : ∀ c, c ≠ w.caseId → (db.apply w).getCase c = db.getCase c := by
    intro c hc
    rw [getCase_apply]
    cases w with
    | insertCase r =>
      have hne : r.caseId ≠ c := Ne.symm hc
      simp only [if_neg hne, Option.or_none]
    | updateCase c' st v t => exact if_neg hc
  have hdated : ∀ c r, db.getCase c = some r →
      ∃ r', (db.apply w).getCase c = some r' ∧ r'.createdAt = r.createdAt := by
    intro c r hr
    rw [getCase_apply]
    cases w with
    | insertCase r' => exact ⟨r, by rw [hr]; rfl, rfl⟩
    | updateCase c' st v t =>
      by_cases hc : c = c'
      · subst hc
        exact ⟨{ r with state := st, version := v, updatedAt := t },
          by simp only [if_pos, hr, Option.map_some], rfl⟩
      · exact ⟨r, by simp only [if_neg hc, hr], rfl⟩
  refine ⟨⟨fun c r hr hworked ↦ ?_, fun c e he ↦ ?_, fun e he hmark ↦ ?_⟩,
    fun j hj ↦ ⟨⟨hdated, hevents⟩, ?_⟩⟩
  · rw [hget] at hr
    by_cases hc : c = w.caseId
    · subst hc
      rcases hrow r hr hworked with hev | hanswered
      · exact ⟨ev, List.mem_append_right _ (List.mem_singleton_self _), hcase, hev⟩
      · exact hanswered.mono hevents
    · rw [hother c hc] at hr
      exact (h.worked c r hr hworked).mono hevents
  · rcases List.mem_append.mp he.mem with hmem | hmem
    · exact (h.resolved c e ⟨hmem, he.caseId, he.toState⟩).mono hevents
    · obtain rfl := List.mem_singleton.mp hmem
      rw [← he.caseId, hcase]
      exact (hresolved he.toState).mono hevents
  · rw [hget]
    rcases List.mem_append.mp he with hmem | hmem
    · obtain ⟨r, hr⟩ := Option.isSome_iff_exists.mp (h.owned e hmem hmark)
      obtain ⟨r', hr', -⟩ := hdated _ r hr
      rw [hr']
      rfl
    · obtain rfl := List.mem_singleton.mp hmem
      rw [hcase]
      exact hsome
  · refine (pendingOf_rollback _ i j).trans ?_
    rw [if_neg hj]
    cases w <;> rfl

/-! ## The operations on the cases -/

theorem marking_insertCase {domain : ServiceCase} {payload : CreateRequest} {correlationId : String}
    (hnew : domain.state = .new) :
    marking.Safe i (fun _ _ ↦ True) db (insertCase domain payload correlationId) := by
  refine safe_insertCase (fun db' now hI ↦ ?_) fun db' db'' now now' hI hR ↦ ?_
  · rw [Db.flushCase]
    split_ifs
    · exact .same hI
    · exact .same hI
    · exact marking_stage hI _
  · have hpending : db''.pendingOf i = some (.insertCase (newRecord domain payload now)) := by
      rw [hR.own, pendingOf_stage, if_pos rfl]
    have hget := getCase_apply db'' (.insertCase (newRecord domain payload now))
    have hto : (createdEvent domain payload correlationId now').toState = some .new :=
      congrArg some hnew
    refine marking_commit hI hpending rfl ?_ (fun r hr hworked ↦ ?_) ?_
    · rw [hget]
      change ((db''.getCase domain.caseId).or
        (if domain.caseId = domain.caseId then _ else _)).isSome = true
      rw [if_pos rfl]
      cases db''.getCase domain.caseId <;> rfl
    · right
      rw [hget] at hr
      change (db''.getCase domain.caseId).or (if domain.caseId = domain.caseId then _ else _)
        = some r at hr
      rw [if_pos rfl] at hr
      rcases hold : db''.getCase domain.caseId with _ | r'
      · rw [hold] at hr
        cases hr
        rw [show (newRecord domain payload now).state = .new from hnew] at hworked
        exact hworked.elim
      · rw [hold] at hr
        cases hr
        exact hI.worked domain.caseId r hold hworked
    · rw [hto]
      rintro ⟨⟩

theorem marking_writeTransition {c : String} {payload : TransitionRequest} {st : CaseState}
    {updated : ServiceCase} {correlationId : String}
    (hallowed : updated.state ∈ st.allowedTransitions) (hworked : st.Worked → Answered db c) :
    marking.Safe i (fun _ _ ↦ True) db (writeTransition c payload st updated correlationId) := by
  refine safe_writeTransition (marking_rollback i) (fun db' now hI ↦ ?_) ?_
  · obtain hexec | hexec | ⟨-, hexec⟩ :=
      updateCase_cases db' i c payload.expectedVersion updated.state now
    · rw [hexec]
      exact .same hI
    · rw [hexec]
      exact .same hI
    · rw [hexec]
      exact marking_stage hI _
  · intro db' db'' r now now' hI hR hr hversion hI' hR'
    let w : Pending := .updateCase c updated.state (payload.expectedVersion + 1) now
    have hpending : db''.pendingOf i = some w := by
      rw [hR'.own, pendingOf_stage, if_pos rfl]
    -- the case has not gone away, and that it was in progress neither
    obtain ⟨r', hr', -⟩ := hR'.dated.rows c r hr
    have hanswered : updated.state.Worked → updated.state = .inProgress ∨ Answered db'' c := by
      intro htarget
      refine (CaseState.worked_of_allowed hallowed htarget).imp_right fun hst ↦ ?_
      exact (hworked hst).mono (List.Subset.trans hR.dated.events hR'.dated.events)
    have hget := getCase_apply db'' w c
    simp only [w, if_pos, hr', Option.map_some] at hget
    refine marking_commit hI' hpending rfl ?_ (fun r'' hr'' hw ↦ ?_) fun hto ↦ ?_
    · exact Option.isSome_iff_exists.mpr ⟨_, hget⟩
    · cases hget.symm.trans hr''
      exact (hanswered hw).imp_left (congrArg some)
    · have htarget : updated.state = .resolved := Option.some.inj hto
      rcases hanswered (by rw [htarget]; trivial) with hprogress | hanswered
      · rw [htarget] at hprogress
        cases hprogress
      · exact hanswered

end Keeps

/-! ## The deadlines -/

/-- The deadlines of a row are in their order. -/
def CaseSla.Ordered (row : CaseSla) : Prop :=
  ¬row.responseDueAt ≤ row.startedAt ∧ row.responseDueAt ≤ row.resolutionDueAt

/-- The SLAs start with the creation of their cases. -/
structure SlaMarked (db : Tables) : Prop where
  marked : Marked db.toDb
  slas : ∀ row ∈ db.slas, row.Ordered ∧
    ∃ r, db.getCase row.caseId = some r ∧ r.createdAt = row.startedAt

/-- The discipline of the operations. -/
def slaMarking : Discipline opMachine where
  I := SlaMarked
  R i db db' := Undated i db.toDb db'.toDb
  refl i db := marking.refl i db.toDb
  trans h h' := marking.trans h h'

theorem calculateSlaTargets_eq_ok {policy : SlaPolicy} {priority : CasePriority}
    {startedAt : DateTime} {targets : SlaTargets}
    (h : calculateSlaTargets policy priority startedAt = .ok targets) :
    targets.startedAt = startedAt ∧ ¬targets.responseDueAt ≤ targets.startedAt ∧
      targets.responseDueAt ≤ targets.resolutionDueAt := by
  obtain ⟨-, h⟩ := require_bind_eq_ok.mp h
  obtain ⟨_, -, h⟩ := bind_eq_ok.mp h
  obtain ⟨_, -, h⟩ := bind_eq_ok.mp h
  obtain ⟨hresponse, h⟩ := require_bind_eq_ok.mp h
  obtain ⟨hresolution, h⟩ := require_bind_eq_ok.mp h
  cases h
  exact ⟨rfl, hresponse, hresolution⟩

section Tables

variable {i : ℕ} {db db' : Tables} {α : Type}

/-- What keeps the cases in order keeps the SLAs that are there. -/
theorem slaMarking_of_marking (h : SlaMarked db) (hslas : db'.slas = db.slas)
    (hkeeps : marking.Keeps i db.toDb db'.toDb) : slaMarking.Keeps i db db' := by
  refine ⟨⟨hkeeps.inv, fun row hrow ↦ ?_⟩, hkeeps.others⟩
  rw [hslas] at hrow
  obtain ⟨hordered, r, hr, hcreated⟩ := h.slas row hrow
  obtain ⟨r', hr', hcreated'⟩ :=
    (hkeeps.others (i + 1) (Nat.succ_ne_self i)).dated.rows _ r hr
  exact ⟨hordered, r', hr', hcreated'.trans hcreated⟩

/-- An event without a state is no mark. -/
theorem marking_logged {db : Db} (h : Marked db) {ev : CaseEvent} (hev : ev.toState = none) :
    marking.Keeps i db { db with events := db.events ++ [ev] } := by
  have hevents : db.events ⊆ db.events ++ [ev] := List.subset_append_left ..
  have hold : ∀ {c st e}, Reaches { db with events := db.events ++ [ev] } c st e →
      Reaches db c st e := by
    intro c st e he
    rcases List.mem_append.mp he.mem with hmem | hmem
    · exact ⟨hmem, he.caseId, he.toState⟩
    · have hto := he.toState
      rw [List.mem_singleton.mp hmem, hev] at hto
      cases hto
  refine ⟨⟨fun c r hr hw ↦ (h.worked c r hr hw).mono hevents,
    fun c e he ↦ (h.resolved c e (hold he)).mono hevents, fun e he hmark ↦ ?_⟩,
    fun j _ ↦ ⟨⟨(Dated.refl db).rows, hevents⟩, rfl⟩⟩
  rcases hmark with hto | hto
  · exact h.owned e (hold ⟨he, rfl, hto⟩).mem (.inl hto)
  · exact h.owned e (hold ⟨he, rfl, hto⟩).mem (.inr hto)

/-- The statements of the operations on the side tables, but for the insertion of an SLA. -/
theorem slaMarking_sides (h : SlaMarked db) {t : EventType} {op : OpStmt} (hop : op.Sides t)
    (hside : ¬t.OfCase) (hsla : t ≠ .slaApplied) (e : OpEnv) :
    slaMarking.Keeps i db (opMachine.exec i op e db).1 := by
  obtain ⟨hlogs, hstateless⟩ := hop
  cases op with
  | base op =>
    refine slaMarking_of_marking h rfl ?_
    cases op with
    | flushCase record =>
      change marking.Keeps i db.toDb (Db.flushCase _ _ _).1
      rw [Db.flushCase]
      split_ifs
      · exact .same h.marked
      · exact .same h.marked
      · exact marking_stage h.marked _
    | updateCase c v st => exact absurd (.inr hlogs) hside
    | commit ev => exact absurd hlogs.1 hside
    | rollback => exact marking_rollback i _ h.marked
    | _ => exact .same h.marked
  | commit write event =>
    change slaMarking.Keeps i db (db.commit (write e.now) (event e.now)).1
    obtain hfst | hfst := commit_fst db (write e.now) (event e.now)
    · rw [hfst]
      exact .same h
    · rw [hfst]
      have htype := (hlogs e.now).2.1
      have hkeeps := marking_logged (i := i) h.marked (hstateless e.now)
      cases hw : write e.now with
      | sla row =>
        rw [hw] at htype
        exact absurd htype.symm hsla
      | _ => exact slaMarking_of_marking h rfl hkeeps
  | _ => exact .same h

theorem slaMarking_of_sides {t : EventType} {p : OpProgram α} (hp : p.AllCalls (OpStmt.Sides t))
    (hside : ¬t.OfCase) (hsla : t ≠ .slaApplied) :
    slaMarking.Safe i (fun _ _ ↦ True) db p :=
  .of_allCalls (fun {_ _ e} hop h ↦ slaMarking_sides h hop hside hsla e) hp

theorem slaMarking_of_reads {p : OpProgram α} (hp : p.AllCalls OpStmt.IsRead) :
    slaMarking.Safe i (fun _ _ ↦ True) db p :=
  slaMarking_of_sides (hp.imp fun _ h ↦ h.sides .assignmentChanged)
    (by rintro (h | h) <;> cases h) (by rintro ⟨⟩)

/-- The case was created at this time. -/
def CreatedAt (caseId : String) (createdAt : DateTime) (db : Tables) : Prop :=
  ∃ r, db.getCase caseId = some r ∧ r.createdAt = createdAt

theorem CreatedAt.stable {caseId : String} {createdAt : DateTime}
    (h : CreatedAt caseId createdAt db) (hR : Undated i db.toDb db'.toDb) : CreatedAt caseId createdAt db' := by
  obtain ⟨r, hr, hcreated⟩ := h
  obtain ⟨r', hr', hcreated'⟩ := hR.dated.rows _ r hr
  exact ⟨r', hr', hcreated'.trans hcreated⟩

/-- The commit of the deadlines of a case. -/
theorem slaMarking_commit (h : SlaMarked db) {caseId correlationId : String} {targets : SlaTargets}
    {eventId : String} {now : DateTime} (hcreated : CreatedAt caseId targets.startedAt db)
    (hresponse : ¬targets.responseDueAt ≤ targets.startedAt)
    (hresolution : targets.responseDueAt ≤ targets.resolutionDueAt) :
    slaMarking.Keeps i db (db.commit (newSla caseId targets correlationId now)
      (sideEvent eventId caseId .slaApplied correlationId none now)).1 := by
  obtain hfst | hfst := commit_fst db (newSla caseId targets correlationId now)
    (sideEvent eventId caseId .slaApplied correlationId none now)
  · rw [hfst]
    exact .same h
  · rw [hfst]
    have hstateless :
        (sideEvent eventId caseId .slaApplied correlationId none now).toState = none := rfl
    have hkeeps := marking_logged (i := i) h.marked hstateless
    refine ⟨⟨hkeeps.inv, fun row hrow ↦ ?_⟩, hkeeps.others⟩
    rcases List.mem_append.mp hrow with hmem | hmem
    · exact h.slas row hmem
    · obtain rfl := List.mem_singleton.mp hmem
      exact ⟨⟨hresponse, hresolution⟩, hcreated⟩

/-- **The application of an SLA**, from the creation of the case that it has read. -/
theorem slaMarking_applyCaseSla (cfg : OpConfig) (caseId : String) (payload : SlaRequest)
    (correlationId : String) :
    slaMarking.Safe i (fun _ _ ↦ True) db (applyCaseSla cfg caseId payload correlationId) := by
  have hreads : ∀ {β : Type} {p : OpProgram β} {createdAt : DateTime} {s : Tables},
      p.AllCalls OpStmt.IsRead → CreatedAt caseId createdAt s →
      slaMarking.Safe i (fun _ s' ↦ CreatedAt caseId createdAt s') s p :=
    fun hp hs ↦ .of_reads (fun _ hR hK ↦ CreatedAt.stable hK hR)
      (hp.imp fun _ h e s ↦ exec_of_isRead h i e s) hs
  have hcase : slaMarking.Safe i
      (fun r s ↦ ∀ case, r = .ok case → CreatedAt caseId case.createdAt s) db
      (caseOr caseId "ServiceCase não encontrado") := by
    refine .read_bind (fun _ _ ↦ rfl) (fun s e o _ _ hans ↦ ?_) fun s e x _ _ hans ↦ ?_
    · cases hans
      rcases hget : s.getCase caseId with _ | record
      · exact .raise (by rintro _ ⟨⟩)
      · refine .ret ?_
        rintro _ ⟨⟩
        exact ⟨record, hget, rfl⟩
    · cases hans
  have hdone : (ask (.getSla caseId) >>= refreshed).AllCalls OpStmt.IsRead :=
    ask_bind trivial fun _ ↦ refreshed_reads _
  have hcollision : (ask (.getSla caseId) >>= fun o ↦
      replayed o "SLA já aplicado para este caso").AllCalls OpStmt.IsRead :=
    ask_bind trivial fun _ ↦ replayed_reads _ _
  refine hcase.bind (fun {case s} hs ↦ ?_) fun _ ↦ trivial
  replace hs := hs case rfl
  refine (hreads (eventExists_reads _ _ _) hs).bind (fun {known s} hs ↦ ?_) fun _ ↦ trivial
  split
  · exact slaMarking_of_reads (ask_bind trivial fun _ ↦ replayed_reads _ _)
  · refine (hreads (@ask_reads (.getPolicy payload.policyId) trivial) hs).bind
      (fun {policy s} hs ↦ ?_) fun _ ↦ trivial
    split
    · exact .raise trivial
    · refine (hreads (@ask_reads (.getSla caseId) trivial) hs).bind
        (fun {existing s} hs ↦ ?_) fun _ ↦ trivial
      split
      · exact slaMarking_of_reads ((Program.AllCalls.ofExcept _).bind fun _ ↦ .ret _)
      · refine (Discipline.Safe.ofExcept (Q := fun r s' ↦ CreatedAt caseId case.createdAt s' ∧
          r = slaTargets cfg _ case) ⟨hs, rfl⟩).bind (fun {targets s} hs ↦ ?_) fun _ ↦ trivial
        obtain ⟨hs, htargets⟩ := hs
        obtain ⟨_, -, htargets⟩ := bind_eq_ok.mp htargets.symm
        obtain ⟨hstarted, hresponse, hresolution⟩ := calculateSlaTargets_eq_ok htargets
        refine .call (fun s' e hI hR ↦ ?_) fun s' e hI hR ↦ ?_
        · refine slaMarking_commit hI ?_ hresponse hresolution
          rw [hstarted]
          exact hs.stable hR
        · refine slaMarking_of_sides (t := .assignmentChanged) ?_
            (by rintro (h | h) <;> cases h) (by rintro ⟨⟩)
          refine (Program.AllCalls.ofExcept _).attempt.bind fun r ↦ ?_
          split
          · exact hdone.imp fun _ h ↦ h.sides _
          · exact (Program.AllCalls.perform ⟨trivial, trivial⟩).bind fun _ ↦
              hcollision.imp fun _ h ↦ h.sides _
          · exact .raise _

/-- An operation on the cases keeps the SLAs in order when it keeps the cases in order. -/
theorem slaMarking_onCases {p : Operation α} (h : marking.Safe i (fun _ _ ↦ True) db.toDb p) :
    slaMarking.Safe i (fun _ _ ↦ True) db (onCases p) :=
  h.embed (f := OpStmt.base) Tables.toDb (fun {s} (hI : SlaMarked s) ↦ hI.marked) (fun hR ↦ hR)
    (fun op e s ↦ ⟨s.envOf e op, rfl, rfl⟩) fun _ _ s (hI : SlaMarked s) hkeeps ↦
      slaMarking_of_marking hI rfl hkeeps

/-- **Every operation keeps the discipline.** -/
theorem slaMarking_opCode (cfg : OpConfig) (i : ℕ) (r : OpRequest) (db : Tables)
    (_ : SlaMarked db) : slaMarking.Safe i (fun _ _ ↦ True) db (opCode cfg r) := by
  have hanswer : ∀ {β : Type} {f : β → Row} {p : OpProgram (β × Bool)},
      slaMarking.Safe i (fun _ _ ↦ True) db p →
      slaMarking.Safe i (fun _ _ ↦ True) db (answer f p) :=
    fun hp ↦ hp.bind (fun _ ↦ .ret trivial) fun _ ↦ trivial
  have hsides : ¬r.eventType.OfCase → r.eventType ≠ .slaApplied →
      slaMarking.Safe i (fun _ _ ↦ True) db (opCode cfg r) :=
    fun hside hsla ↦ slaMarking_of_sides (opCode_sides cfg hside) hside hsla
  cases r with
  | create payload correlationId =>
    exact hanswer (slaMarking_onCases (safe_createServiceCase (marking_rollback i) cfg.toConfig
      fun hnew ↦ marking_insertCase hnew))
  | transition caseId payload correlationId =>
    refine hanswer (slaMarking_onCases (safe_transitionServiceCase cfg.toConfig ?_))
    intro db' db'' record updated hI hread _ hallowed hR
    exact marking_writeTransition hallowed fun hworked ↦
      (hI.worked caseId record hread hworked).mono hR.dated.events
  | sla caseId payload correlationId => exact hanswer (slaMarking_applyCaseSla cfg _ _ _)
  | _ => exact hsides (by rintro (h | h) <;> cases h) (by rintro ⟨⟩)

theorem slaMarking_close (i : ℕ) (db : Tables) (h : SlaMarked db) :
    slaMarking.Keeps i db (opMachine.close i db) :=
  slaMarking_of_marking h rfl (marking_rollback i db.toDb h.marked)

theorem slaMarked_init : SlaMarked {} := by
  refine ⟨⟨fun c r hr ↦ ?_, fun c e he ↦ ?_, fun e he ↦ ?_⟩, fun row hrow ↦ ?_⟩
  · cases hr
  · exact absurd he.mem List.not_mem_nil
  · exact absurd he List.not_mem_nil
  · exact absurd hrow List.not_mem_nil

/-- **In every interleaving of the operations** the cases that have been in progress say so in
their logs, and the SLAs start with the creation of their cases. -/
theorem slaMarked_of_run {cfg : OpConfig} {tr : List OpMove} {p : OpSessions}
    (h : (operations cfg).Run tr p) : SlaMarked p.store :=
  have hdisc : Pool.Disciplined slaMarking p :=
    Pool.safe_of_run slaMarked_init (slaMarking_opCode cfg) slaMarking_close h
  hdisc.inv

end Tables

end ServiceCases

end ReqSys
