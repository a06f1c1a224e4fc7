import Mathlib
import ReqSys.ServiceCases.SlaHistory

/-!
# Service management: what is reported of an SLA

`read_case_operations` evaluates the stored deadlines against the marks of the log. The evaluation
has an answer exactly when the marks fit the row (`evaluable_iff`), and then it is what the marks
say.

## Late and not reported

The resolution is the *first* one. A case that was resolved in time and reopened keeps that mark, so
once its deadline has passed it is reported as if it were still resolved. `overdue_reported_iff` is
the exact condition under which an open case that is overdue is reported so.

## No error, and no way back

As long as no event of a case is stamped before what the history of the case already has, the marks
fit (`inTime_of_run`): every evaluation that is not before the creation has an answer, and with the
same history a later one is not better (`sla_evaluated`).
-/

namespace ReqSys

namespace ServiceCases

/-! ## Marks that fit -/

/-- The marks of a case are not before its SLA starts, and no resolution is before all responses. -/
structure MarksFit (db : Db) (row : CaseSla) : Prop where
  responded : ∀ e, Reaches db row.caseId .inProgress e → aware row.startedAt ≤ aware e.createdAt
  resolved : ∀ e, Reaches db row.caseId .resolved e → aware row.startedAt ≤ aware e.createdAt
  ordered : ∀ e, Reaches db row.caseId .resolved e →
    ∃ f, Reaches db row.caseId .inProgress f ∧ aware f.createdAt ≤ aware e.createdAt

/-- The stored deadlines. -/
def CaseSla.targets (row : CaseSla) : SlaTargets where
  policyId := row.policyId
  priority := row.priority
  startedAt := row.startedAt
  responseDueAt := row.responseDueAt
  resolutionDueAt := row.resolutionDueAt

theorem evaluable_iff {db : Db} (h : Marked db) (row : CaseSla) {evaluatedAt : ℤ}
    (hstarted : aware row.startedAt ≤ evaluatedAt) :
    Evaluable row.targets evaluatedAt (slaMarks db row.caseId).1 (slaMarks db row.caseId).2 ↔
      MarksFit db row := by
  obtain ⟨hfirst, hresolution⟩ := firstMark_slaMarks db row.caseId
  have hfrom : ∀ {s t : ℤ}, s ≤ t → aware row.startedAt ≤ s → aware row.startedAt ≤ t :=
    fun hst hs ↦ hs.trans hst
  constructor
  · intro hok
    refine ⟨(hfirst.forall_iff hfrom).mp hok.responded,
      (hresolution.forall_iff hfrom).mp hok.resolved, fun e he ↦ ?_⟩
    -- a case that was resolved has been in progress
    obtain ⟨t, ht, hte⟩ := hresolution.least e he
    obtain ⟨g, hg⟩ := h.resolved _ e he
    obtain ⟨s, hs, -⟩ := hfirst.least g hg
    obtain ⟨f, hf, rfl⟩ := hfirst.reached s hs
    exact ⟨f, hf, (hok.ordered t ht _ hs).trans hte⟩
  · intro hfit
    refine ⟨hstarted, (hfirst.forall_iff hfrom).mpr hfit.responded,
      (hresolution.forall_iff hfrom).mpr hfit.resolved, fun t ht s hs ↦ ?_⟩
    obtain ⟨e, he, rfl⟩ := hresolution.reached t ht
    obtain ⟨f, hf, hfe⟩ := hfit.ordered e he
    obtain ⟨s', hs', hle⟩ := hfirst.least f hf
    cases hs.symm.trans hs'
    exact hle.trans hfe

section Reports

variable {db : Tables} {caseId : String} {row : CaseSla} {evaluatedAt : Option ObservedAt}
  {now : DateTime}

/-- A report is the evaluation of the stored deadlines. -/
theorem reports_iff (h : SlaMarked db)
    (hrow : Table.lookup CaseSla.caseId caseId db.slas = some row) {state : SlaState} : Reports db caseId evaluatedAt now state ↔
      Evaluable row.targets (evaluationMoment evaluatedAt now) (slaMarks db.toDb caseId).1
          (slaMarks db.toDb caseId).2 ∧
        slaState row.targets (evaluationMoment evaluatedAt now) (slaMarks db.toDb caseId).1
          (slaMarks db.toDb caseId).2 = state := by
  obtain ⟨⟨hresponse, hresolution⟩, case, hcase, -⟩ := h.slas row (Table.mem_of_lookup hrow)
  rw [show row.caseId = caseId from Table.key_of_lookup hrow] at hcase
  have htargets : storedTargets row = .ok row.targets := by
    rw [storedTargets, require_bind_of_true hresponse, require_bind_of_true hresolution]
    rfl
  have hread : readCaseSla db caseId evaluatedAt now
      = evaluateSla row.targets (evaluationMoment evaluatedAt now) (slaMarks db.toDb caseId).1
          (slaMarks db.toDb caseId).2 >>= fun state ↦ .ok (some
            { sla := row, evaluatedAt := evaluationMoment evaluatedAt now
              firstResponseAt := (slaMarks db.toDb caseId).1
              resolvedAt := (slaMarks db.toDb caseId).2, state }) := by
    rw [readCaseSla, show db.getCase caseId = some case from hcase, hrow]
    change (storedTargets row >>= _) = _
    rw [htargets]
    rfl
  rw [← evaluateSla_eq_ok, Reports, hread]
  constructor
  · rintro ⟨reading, hok, rfl⟩
    obtain ⟨state, hstate, hok⟩ := bind_eq_ok.mp hok
    cases hok
    exact hstate
  · intro hok
    exact ⟨_, bind_eq_ok.mpr ⟨state, hok, rfl⟩, rfl⟩

theorem started_le_of_overdue (h : row.Ordered) {evaluatedAt : ℤ}
    (hlate : aware row.resolutionDueAt < evaluatedAt) : aware row.startedAt ≤ evaluatedAt := by
  obtain ⟨hresponse, hresolution⟩ := h
  rw [aware_le_iff, not_le] at hresponse
  rw [aware_le_iff] at hresolution
  omega

end Reports

/-! ## Open and overdue -/

/-- The case is not finished. -/
def CaseState.IsOpen (st : CaseState) : Prop := st ∉ [.resolved, .closed, .canceled]

instance : DecidablePred CaseState.IsOpen := fun st ↦
  inferInstanceAs (Decidable (st ∉ [.resolved, .closed, .canceled]))

/-- **An open case whose deadline has passed** is reported as `RESOLUTION_BREACHED` exactly when the
marks of its log fit the SLA and every event that ever resolved it is after the deadline: one
resolution in time hides the delay for good, also from the report of a case that was reopened. -/
theorem overdue_reported_iff (cfg : OpConfig) {tr : List OpMove} {p : OpSessions}
    (h : (operations cfg).Run tr p) :
    ∀ case row, p.store.getCase row.caseId = some case →
      Table.lookup CaseSla.caseId row.caseId p.store.slas = some row → case.state.IsOpen →
      ∀ evaluatedAt now, aware row.resolutionDueAt < evaluationMoment evaluatedAt now →
        (Reports p.store row.caseId evaluatedAt now .resolutionBreached ↔
          MarksFit p.store.toDb row ∧ ∀ e, Reaches p.store.toDb row.caseId .resolved e →
            aware row.resolutionDueAt < aware e.createdAt) := by
  intro case row _ hrow _ evaluatedAt now hlate
  have hmarked := slaMarked_of_run h
  have hordered := (hmarked.slas row (Table.mem_of_lookup hrow)).1
  obtain ⟨-, hresolution⟩ := firstMark_slaMarks p.store.toDb row.caseId
  rw [reports_iff hmarked hrow,
    evaluable_iff hmarked.marked row (started_le_of_overdue hordered hlate)]
  refine and_congr_right fun _ ↦ ?_
  have hdue : aware row.targets.resolutionDueAt < evaluationMoment evaluatedAt now := hlate
  rw [slaState_eq_resolutionBreached_iff hdue]
  exact hresolution.forall_iff (p := fun t ↦ aware row.resolutionDueAt < t)
    fun hst hs ↦ hs.trans_le hst

/-- Two hours to respond and four to resolve, for a case of priority `P2`. -/
def samplePolicy : SlaPolicy where
  policyId := sampleServiceId
  name := "padrão"
  responseMinutes := 60
  resolutionMinutes := 120

def sampleSla : SlaRequest where
  policyId := sampleServiceId
  eventId := "s-1"

/-- A case is created at noon, gets its SLA, and is put in progress. -/
def sampleProgress : List (Move OpRequest OpEnv) :=
  sampleAlone 0 (.create sampleCreate "c-1")
    ++ .start 0 (.sla sampleCaseId sampleSla "c-2")
      :: List.replicate 8 (.advance 0 { sampleOpEnv with policy := some samplePolicy })
    ++ sampleAlone 0 (.transition sampleCaseId (sampleTransition .triage 1 "t-1" Nat.one_pos) "c-3")
    ++ sampleAlone 0 (.transition sampleCaseId (sampleTransition .inProgress 2 "t-2" Nat.two_pos)
      "c-4")

/-- It is then resolved, and reopened. -/
def sampleReopened : List (Move OpRequest OpEnv) :=
  sampleProgress
    ++ sampleAlone 0 (.transition sampleCaseId sampleResolution "c-5")
    ++ sampleAlone 0 (.transition sampleCaseId (sampleTransition .inProgress 4 "t-4"
      (Nat.succ_pos 3)) "c-6")

/-- Ten in the evening. -/
def sampleEvening : ObservedAt where
  wall := .newYearNoon
  offset := some (-36000)

instance (db : Tables) (caseId : String) (evaluatedAt : Option ObservedAt) (now : DateTime)
    (state : SlaState) : Decidable (Reports db caseId evaluatedAt now state) :=
  match h : readCaseSla db caseId evaluatedAt now with
  | .ok (some reading) =>
    decidable_of_iff (reading.state = state) (by simp [Reports, h])
  | .ok none => .isFalse (by simp [Reports, h])
  | .error _ => .isFalse (by simp [Reports, h])

/-- The state of the case, and whether its deadline has passed at ten in the evening. -/
def sampleStanding (moves : List (Move OpRequest OpEnv)) : Option CaseState × Option Bool :=
  (((sampleSessions moves).2.store.getCase sampleCaseId).map CaseRecord.state,
    (Table.lookup CaseSla.caseId sampleCaseId (sampleSessions moves).2.store.slas).map fun row ↦
      decide (aware row.resolutionDueAt < evaluationMoment (some sampleEvening) .newYearNoon))

theorem exists_of_sampleStanding {moves : List (Move OpRequest OpEnv)}
    (h : sampleStanding moves = (some .inProgress, some true)) :
    ∃ case row, row.caseId = sampleCaseId ∧
      (sampleSessions moves).2.store.getCase row.caseId = some case ∧
      Table.lookup CaseSla.caseId row.caseId (sampleSessions moves).2.store.slas = some row ∧
      case.state.IsOpen ∧
      aware row.resolutionDueAt < evaluationMoment (some sampleEvening) .newYearNoon := by
  obtain ⟨hstate, hlate⟩ := Prod.mk.inj h
  obtain ⟨case, hcase, hstate⟩ := Option.map_eq_some_iff.mp hstate
  obtain ⟨row, hrow, hlate⟩ := Option.map_eq_some_iff.mp hlate
  have hkey : row.caseId = sampleCaseId := Table.key_of_lookup hrow
  refine ⟨case, row, hkey, by rw [hkey, hcase], by rw [hkey, hrow], ?_, of_decide_eq_true hlate⟩
  rw [hstate]
  decide

/-- The case that was not resolved is reported. -/
theorem overdue_reported_progress : ∃ row : CaseSla, row.caseId = sampleCaseId ∧
    Reports (sampleSessions sampleProgress).2.store row.caseId (some sampleEvening) .newYearNoon
      .resolutionBreached ∧ MarksFit (sampleSessions sampleProgress).2.store.toDb row := by
  obtain ⟨case, row, hkey, hcase, hrow, hopen, hlate⟩ :=
    @exists_of_sampleStanding sampleProgress (by decide +kernel)
  have hreports : Reports (sampleSessions sampleProgress).2.store row.caseId (some sampleEvening)
      .newYearNoon .resolutionBreached := by
    rw [hkey]
    decide +kernel
  exact ⟨row, hkey, hreports, ((overdue_reported_iff sampleOpConfig (run_sampleSessions _) case row
    hcase hrow hopen _ _ hlate).mp hreports).1⟩

/-- The case that was resolved in time and reopened is reported as `ON_TIME`. -/
theorem overdue_not_reported : ∃ tr p case row, (operations sampleOpConfig).Run tr p ∧
    p.store.getCase row.caseId = some case ∧
    Table.lookup CaseSla.caseId row.caseId p.store.slas = some row ∧ case.state.IsOpen ∧
    aware row.resolutionDueAt < evaluationMoment (some sampleEvening) .newYearNoon ∧
    ¬Reports p.store row.caseId (some sampleEvening) .newYearNoon .resolutionBreached ∧
    Reports p.store row.caseId (some sampleEvening) .newYearNoon .onTime := by
  obtain ⟨case, row, hkey, hcase, hrow, hopen, hlate⟩ :=
    @exists_of_sampleStanding sampleReopened (by decide +kernel)
  refine ⟨_, _, case, row, run_sampleSessions sampleReopened, hcase, hrow, hopen, hlate, ?_⟩
  rw [hkey]
  decide +kernel

/-! ## Histories in their order -/

/-- The event that a call commits. -/
def OpStmt.event (op : OpStmt) (e : OpEnv) : Option CaseEvent :=
  match op with
  | .base (.commit ev) => some (ev e.now)
  | .commit _ ev => some (ev e.now)
  | _ => none

/-- The row that a session has inserted and not yet committed. -/
def Db.insertionOf (db : Db) (i : ℕ) : Option CaseRecord :=
  match db.pendingOf i with
  | some (.insertCase r) => some r
  | _ => none

/-- An event of session `i` is not stamped before what its case already has: the row, the events,
and the row that is inserted together with it. -/
structure NotBefore (db : Db) (i : ℕ) (ev : CaseEvent) : Prop where
  row : ∀ r, db.getCase ev.caseId = some r → aware r.createdAt ≤ aware ev.createdAt
  events : ∀ e ∈ db.events, e.caseId = ev.caseId → aware e.createdAt ≤ aware ev.createdAt
  inserted : ∀ r, db.insertionOf i = some r → aware r.createdAt ≤ aware ev.createdAt

/-- The event that a call commits is stamped in its order. -/
def StampsInOrder (db : Tables) (x : ℕ × OpStmt × OpEnv) : Prop :=
  ∀ ev ∈ x.2.1.event x.2.2, NotBefore db.toDb x.1 ev

/-- The operations under timestamps that do not go back within a case. -/
def inOrder (cfg : OpConfig) : TransitionSystem OpSessions OpMove :=
  (operations cfg).restrict fun p m ↦ ∀ x ∈ p.nextCall m.1, StampsInOrder p.store x

/-- The marks are not before the creation, and the first response not after a resolution. -/
structure InTime (db : Db) : Prop where
  created : ∀ e ∈ db.events, e.IsMark → ∀ r, db.getCase e.caseId = some r →
    aware r.createdAt ≤ aware e.createdAt
  answered : ∀ c e, Reaches db c .resolved e →
    ∃ f, Reaches db c .inProgress f ∧ aware f.createdAt ≤ aware e.createdAt

section Step

variable {db db' : Db} {i : ℕ}

/-- One more event, over rows that keep the time of their creation. -/
theorem InTime.logged (h : InTime db) (hmarked : Marked db) (hmarked' : Marked db')
    {ev : CaseEvent} (hevents : db'.events = db.events ++ [ev])
    (hrows : ∀ c r', db'.getCase c = some r' →
      (∃ r, db.getCase c = some r ∧ r'.createdAt = r.createdAt) ∨
        db.getCase c = none ∧ db.pendingOf i = some (.insertCase r'))
    (hev : NotBefore db i ev) : InTime db' := by
  have hmem : ∀ {e}, e ∈ db'.events → e ∈ db.events ∨ e = ev := by
    intro e he
    rw [hevents] at he
    exact (List.mem_append.mp he).imp_right List.mem_singleton.mp
  have hmono : ∀ {c st e}, Reaches db c st e → Reaches db' c st e := by
    rintro c st e ⟨hin, hcase, hto⟩
    refine ⟨?_, hcase, hto⟩
    rw [hevents]
    exact List.mem_append_left _ hin
  constructor
  · intro e he hmark r' hr'
    rcases hmem he with hold | rfl
    · -- the row of an old mark is an old row
      obtain ⟨r, hr⟩ := Option.isSome_iff_exists.mp (hmarked.owned e hold hmark)
      rcases hrows _ r' hr' with ⟨r₀, hr₀, hcreated⟩ | ⟨hnone, -⟩
      · rw [hcreated]
        exact h.created e hold hmark r₀ hr₀
      · rw [hnone] at hr
        cases hr
    · rcases hrows _ r' hr' with ⟨r₀, hr₀, hcreated⟩ | ⟨-, hpending⟩
      · rw [hcreated]
        exact hev.row r₀ hr₀
      · refine hev.inserted r' ?_
        rw [Db.insertionOf, hpending]
  · intro c e he
    rcases hmem he.mem with hold | rfl
    · obtain ⟨f, hf, hle⟩ := h.answered c e ⟨hold, he.caseId, he.toState⟩
      exact ⟨f, hmono hf, hle⟩
    · obtain ⟨f, hf⟩ := hmarked'.resolved c e he
      refine ⟨f, hf, ?_⟩
      rcases hmem hf.mem with hold | rfl
      · exact hev.events f hold (hf.caseId.trans he.caseId.symm)
      · cases he.toState.symm.trans hf.toState

/-- The rows after a commit. -/
theorem rows_apply (db : Db) (w : Pending) {c : String} {r' : CaseRecord}
    (hr' : (db.apply w).getCase c = some r') :
    (∃ r, db.getCase c = some r ∧ r'.createdAt = r.createdAt) ∨
      db.getCase c = none ∧ w = .insertCase r' := by
  rw [getCase_apply] at hr'
  rcases hold : db.getCase c with _ | r
  · right
    refine ⟨rfl, ?_⟩
    cases w with
    | insertCase r =>
      rw [hold] at hr'
      simp only [Option.none_or] at hr'
      split_ifs at hr'
      cases hr'
      rfl
    | updateCase c' st v t =>
      by_cases hc : c = c'
      · subst hc
        simp only [if_pos, hold, Option.map_none] at hr'
        cases hr'
      · simp only [if_neg hc, hold] at hr'
        cases hr'
  · left
    refine ⟨r, rfl, ?_⟩
    cases w with
    | insertCase r₀ =>
      rw [hold] at hr'
      cases hr'
      rfl
    | updateCase c' st v t =>
      by_cases hc : c = c'
      · subst hc
        simp only [if_pos, hold, Option.map_some] at hr'
        cases hr'
        rfl
      · simp only [if_neg hc, hold] at hr'
        cases hr'
        rfl

theorem InTime.of_same (h : InTime db) (hcases : db'.cases = db.cases)
    (hevents : db'.events = db.events) : InTime db' := by
  have hreaches : ∀ c st e, Reaches db' c st e ↔ Reaches db c st e := by
    intro c st e
    constructor
    · rintro ⟨hin, hcase, hto⟩
      exact ⟨hevents ▸ hin, hcase, hto⟩
    · rintro ⟨hin, hcase, hto⟩
      exact ⟨hevents ▸ hin, hcase, hto⟩
  refine ⟨fun e he hmark r hr ↦ ?_, fun c e he ↦ ?_⟩
  · rw [hevents] at he
    rw [Db.getCase, hcases] at hr
    exact h.created e he hmark r hr
  · obtain ⟨f, hf, hle⟩ := h.answered c e ((hreaches c _ e).mp he)
    exact ⟨f, (hreaches c _ f).mpr hf, hle⟩

/-- **A statement keeps the marks in time** when the event it commits is stamped in its order. -/
theorem inTime_exec {db : Tables} (hmarked : SlaMarked db) (h : InTime db.toDb) {op : OpStmt}
    {e : OpEnv} (hkeeps : slaMarking.Keeps i db (opMachine.exec i op e db).1)
    (hstamp : StampsInOrder db (i, op, e)) : InTime (opMachine.exec i op e db).1.toDb := by
  have hmarked' := hkeeps.inv.marked
  cases op with
  | base op =>
    cases op with
    | commit event =>
      change Marked (db.toDb.commit i (event e.now)).1 at hmarked'
      change InTime (db.toDb.commit i (event e.now)).1
      rw [Db.commit] at hmarked' ⊢
      split_ifs at hmarked' ⊢
      · exact h
      · refine h.logged hmarked.marked hmarked' rfl (fun c r' hr' ↦ ?_) (hstamp _ rfl)
        rcases hw : db.pendingOf i with _ | w
        · rw [hw] at hr'
          exact .inl ⟨r', hr', rfl⟩
        · rw [hw] at hr'
          exact (rows_apply db.toDb w hr').imp_right fun hnew ↦ ⟨hnew.1, congrArg some hnew.2⟩
    | flushCase record =>
      change InTime (db.toDb.flushCase i (record e.now)).1
      rw [Db.flushCase]
      split_ifs
      · exact h
      · exact h
      · exact h.of_same rfl rfl
    | updateCase c v st =>
      change InTime (db.toDb.updateCase i c v st e.now).1
      obtain hexec | hexec | ⟨-, hexec⟩ := updateCase_cases db.toDb i c v st e.now
      · rw [hexec]
        exact h
      · rw [hexec]
        exact h
      · rw [hexec]
        exact h.of_same rfl rfl
    | rollback => exact h.of_same rfl rfl
    | _ => exact h
  | commit write event =>
    change Marked (db.commit (write e.now) (event e.now)).1.toDb at hmarked'
    change InTime (db.commit (write e.now) (event e.now)).1.toDb
    obtain hfst | hfst := commit_fst db (write e.now) (event e.now)
    · rw [hfst]
      exact h
    · rw [hfst] at hmarked' ⊢
      refine h.logged (i := i) hmarked.marked hmarked' ?_ (fun c r' hr' ↦ ?_)
        (hstamp (event e.now) rfl)
      · cases write e.now <;> rfl
      · refine .inl ⟨r', ?_, rfl⟩
        revert hr'
        cases write e.now <;> exact id
  | _ => exact h

end Step

theorem inTime_init : InTime {} :=
  ⟨fun _ he ↦ absurd he List.not_mem_nil, fun _ _ he ↦ absurd he.mem List.not_mem_nil⟩

theorem inTime_of_run {cfg : OpConfig} {tr : List OpMove} {p : OpSessions}
    (h : (inOrder cfg).Run tr p) : InTime p.store.toDb :=
  Pool.invariant_of_safe (D := slaMarking) (I := fun db ↦ InTime db.toDb) (C := StampsInOrder)
    slaMarked_init (slaMarking_opCode cfg) slaMarking_close inTime_init
    (fun hI h hkeeps hC ↦ inTime_exec hI h hkeeps hC) (fun h ↦ h.of_same rfl rfl) h

/-- In time, the marks fit every SLA. -/
theorem marksFit_of_inTime {db : Tables} (hmarked : SlaMarked db) (h : InTime db.toDb)
    {row : CaseSla} (hrow : row ∈ db.slas) : MarksFit db.toDb row := by
  obtain ⟨-, r, hr, hcreated⟩ := hmarked.slas row hrow
  have hstarted : ∀ {st e}, Reaches db.toDb row.caseId st e → e.IsMark →
      aware row.startedAt ≤ aware e.createdAt := by
    intro st e he hmark
    rw [← hcreated]
    refine h.created e he.mem hmark r ?_
    rw [he.caseId]
    exact hr
  exact ⟨fun e he ↦ hstarted he (.inl he.toState), fun e he ↦ hstarted he (.inr he.toState),
    fun e he ↦ h.answered _ e he⟩

/-! ## Policies -/

/-- `SlaPolicyCreateRequest`, but for the code by which a policy is found again. -/
structure SlaPolicyRequest where
  name : String
  responseMinutes : ℕ
  resolutionMinutes : ℕ
  active : Bool := true
  name_length : 1 ≤ name.length ∧ name.length ≤ 200
  responseMinutes_range : 1 ≤ responseMinutes ∧ responseMinutes ≤ 100000
  resolutionMinutes_range : 1 ≤ resolutionMinutes ∧ resolutionMinutes ≤ 1000000

/-- The row that `register_sla_policy` inserts. -/
def registeredPolicy (policyId : String) (payload : SlaPolicyRequest) :
    Except RsmError SlaPolicy := do
  require (payload.responseMinutes ≤ payload.resolutionMinutes)
    (.validation "resolution_minutes não pode ser menor que response_minutes")
  return {
    policyId, name := PyText.strip payload.name, responseMinutes := payload.responseMinutes,
    resolutionMinutes := payload.resolutionMinutes, active := payload.active }

/-- A deadline is so many minutes later, if the calendar has it. -/
theorem dueAt_cases (startedAt : DateTime) (minutes : ℕ) :
    (∃ due, dueAt startedAt minutes = .ok due ∧
        aware due = aware startedAt + minutes * 60000000) ∨
      dueAt startedAt minutes = .error .overflow := by
  rw [dueAt]
  rcases hadd : startedAt.addSeconds (minutes * 60) with _ | due
  · exact .inr rfl
  · refine .inl ⟨due, rfl, ?_⟩
    rw [aware, DateTime.toMicros_addSeconds hadd, aware]
    ring

/-- **The targets of a policy** with positive times in their order are computed without an error,
unless the calendar ends before them. -/
theorem calculateSlaTargets_total {policy : SlaPolicy} (hactive : policy.active = true)
    (hpositive : 0 < policy.responseMinutes)
    (hordered : policy.responseMinutes ≤ policy.resolutionMinutes) (priority : CasePriority)
    (startedAt : DateTime) :
    (∃ targets, calculateSlaTargets policy priority startedAt = .ok targets)
      ∨ calculateSlaTargets policy priority startedAt = .error .overflow := by
  have hfactor : 0 < priority.slaFactor := by cases priority <;> decide
  have hresponse : 0 < policy.responseMinutes * priority.slaFactor :=
    Nat.mul_pos hpositive hfactor
  have hresolution : policy.responseMinutes * priority.slaFactor
      ≤ policy.resolutionMinutes * priority.slaFactor := Nat.mul_le_mul_right _ hordered
  rw [calculateSlaTargets, require_bind_of_true hactive]
  obtain ⟨response, hok, hdue⟩ | herror := dueAt_cases startedAt
    (policy.responseMinutes * priority.slaFactor)
  · obtain ⟨resolution, hok', hdue'⟩ | herror := dueAt_cases startedAt
      (policy.resolutionMinutes * priority.slaFactor)
    · left
      have hlater : ¬response ≤ startedAt := by
        rw [aware_le_iff]
        omega
      have hbefore : response ≤ resolution := by
        rw [aware_le_iff]
        omega
      rw [hok, hok', ok_bind, ok_bind, require_bind_of_true hlater, require_bind_of_true hbefore]
      exact ⟨_, rfl⟩
    · right
      rw [hok, herror]
      rfl
  · right
    rw [herror]
    rfl

/-! ## The evaluation -/

/-- **The evaluation of an SLA does not fail and does not get better.** A policy that was registered
and is active gives targets to a case of any priority. In every run of the operations in which no
event of a case is stamped before what its history already has, the report of a case with an SLA has
an answer at every moment from its creation on, and of two reports over one history the later one is
not of a better state. -/
theorem sla_evaluated (cfg : OpConfig) {tr : List OpMove} {p : OpSessions}
    (h : (inOrder cfg).Run tr p) :
    (∀ policyId payload record policy, registeredPolicy policyId payload = .ok record →
      record.active = true → SlaPolicy.build cfg.parseUuid record = .ok policy →
      ∀ priority startedAt, (∃ t, calculateSlaTargets policy priority startedAt = .ok t) ∨
        calculateSlaTargets policy priority startedAt = .error .overflow) ∧
    (∀ case row, p.store.getCase row.caseId = some case →
      Table.lookup CaseSla.caseId row.caseId p.store.slas = some row →
      ∀ evaluatedAt now, aware case.createdAt ≤ evaluationMoment evaluatedAt now →
        ∃ state, Reports p.store row.caseId evaluatedAt now state) ∧
    ∀ caseId evaluatedAt now evaluatedAt' now' state state',
      evaluationMoment evaluatedAt now ≤ evaluationMoment evaluatedAt' now' →
      Reports p.store caseId evaluatedAt now state →
      Reports p.store caseId evaluatedAt' now' state' → state.rank ≤ state'.rank := by
  have hmarked := slaMarked_of_run h.of_restrict
  have htime := inTime_of_run h
  refine ⟨?_, ?_, ?_⟩
  · intro policyId payload record policy hrecord hactive hpolicy priority startedAt
    obtain ⟨-, hrecord⟩ := require_bind_eq_ok.mp hrecord
    obtain ⟨_, -, hpolicy⟩ := bind_eq_ok.mp hpolicy
    obtain ⟨_, -, hpolicy⟩ := bind_eq_ok.mp hpolicy
    obtain ⟨hpositive, hpolicy⟩ := require_bind_eq_ok.mp hpolicy
    obtain ⟨hordered, hpolicy⟩ := require_bind_eq_ok.mp hpolicy
    cases hpolicy
    refine calculateSlaTargets_total ?_ ?_ ?_ priority startedAt
    · exact hactive
    · exact hpositive
    · exact hordered
  · intro case row hcase hrow evaluatedAt now hmoment
    have hmem := Table.mem_of_lookup hrow
    obtain ⟨-, r, hr, hcreated⟩ := hmarked.slas row hmem
    cases hcase.symm.trans hr
    rw [hcreated] at hmoment
    have hfit := marksFit_of_inTime hmarked htime hmem
    have hevaluable := (evaluable_iff hmarked.marked row hmoment).mpr hfit
    exact ⟨_, (reports_iff hmarked hrow).mpr ⟨hevaluable, rfl⟩⟩
  · intro caseId evaluatedAt now evaluatedAt' now' state state' hle hreport hreport'
    rcases hrow : Table.lookup CaseSla.caseId caseId p.store.slas with _ | row
    · -- a case without an SLA has no report
      obtain ⟨reading, hread, -⟩ := hreport
      obtain ⟨_, -, hread⟩ := bind_eq_ok.mp hread
      rw [hrow] at hread
      cases hread
    · obtain ⟨-, rfl⟩ := (reports_iff hmarked hrow).mp hreport
      obtain ⟨-, rfl⟩ := (reports_iff hmarked hrow).mp hreport'
      exact rank_slaState_mono row.targets hle _ _

instance (db : Db) (i : ℕ) (ev : CaseEvent) : Decidable (NotBefore db i ev) :=
  decidable_of_iff
    ((∀ r ∈ db.getCase ev.caseId, aware r.createdAt ≤ aware ev.createdAt) ∧
      (∀ e ∈ db.events, e.caseId = ev.caseId → aware e.createdAt ≤ aware ev.createdAt) ∧
      ∀ r ∈ db.insertionOf i, aware r.createdAt ≤ aware ev.createdAt)
    ⟨fun h ↦ ⟨h.1, h.2.1, h.2.2⟩, fun h ↦ ⟨h.row, h.events, h.inserted⟩⟩

instance (db : Tables) (x : ℕ × OpStmt × OpEnv) : Decidable (StampsInOrder db x) :=
  inferInstanceAs (Decidable (∀ ev ∈ x.2.1.event x.2.2, NotBefore db.toDb x.1 ev))

/-- The case of the small help desk that was resolved and reopened, at noon. -/
theorem sla_evaluated_reopened : ∃ state,
    Reports (sampleSessions sampleReopened).2.store sampleCaseId none .newYearNoon state := by
  have hfacts : TransitionSystem.CallsMeet (Pool.move (opCode sampleOpConfig) opMachine)
      (fun p m ↦ ∀ x ∈ p.nextCall m.1, StampsInOrder p.store x) sampleReopened
      ⟨{}, fun _ ↦ none⟩ := by decide +kernel
  obtain ⟨case, row, hkey, hcase, hrow, -, -⟩ :=
    @exists_of_sampleStanding sampleReopened (by decide +kernel)
  have hcreated : ∀ r ∈ (sampleSessions sampleReopened).2.store.cases,
      aware r.createdAt ≤ evaluationMoment none .newYearNoon := by decide +kernel
  have hrun : (inOrder sampleOpConfig).Run (sampleSessions sampleReopened).1
      (sampleSessions sampleReopened).2 := TransitionSystem.run_restrict_runCalls _ hfacts
  have hreports := (sla_evaluated sampleOpConfig hrun).2.1 case row hcase hrow none .newYearNoon
    (hcreated case (Table.mem_of_lookup hcase))
  rw [hkey] at hreports
  exact hreports

end ServiceCases

end ReqSys
