import ReqSys.Foundation.Sorting
import ReqSys.ServiceCases.Operations

/-!
# Service management: the evaluation of an SLA

A case that a policy was applied to has two deadlines in its row of `rsm_case_sla`. Whether they are
met is never stored: `read_case_operations` reads the first response and the resolution off the log
of the case (`slaMarks`) and compares them with the deadlines (`evaluateSla`).

## The marks

The loop of `_sla_marks` walks the events in the order of their timestamps and keeps the first of
each kind. `firstMark_slaMarks` says what that comes to: a mark is the least timestamp of the events
that lead to its state, however often the case is resolved and reopened.

All instants are in microseconds; a timestamp that is stored or sent without a zone is in UTC.
-/

namespace ReqSys

namespace ServiceCases

/-! ## The state of an SLA -/

/-- `_aware` of a stored timestamp, as an instant. -/
def aware (t : DateTime) : ℤ := t.toMicros

theorem aware_le_iff {a b : DateTime} : a ≤ b ↔ aware a ≤ aware b := by
  rw [DateTime.toMicros_le_iff, aware, aware, Int.ofNat_le]

inductive SlaState
  | onTime | responseBreached | resolutionBreached
  deriving DecidableEq

/-- The order from `ON_TIME` to `RESOLUTION_BREACHED`. -/
def SlaState.rank : SlaState → ℕ
  | onTime => 0 | responseBreached => 1 | resolutionBreached => 2

/-- A mark that is missing counts as not yet reached. -/
def slaState (targets : SlaTargets) (evaluatedAt : ℤ) (firstResponseAt resolvedAt : Option ℤ) :
    SlaState :=
  if aware targets.resolutionDueAt < resolvedAt.getD evaluatedAt then .resolutionBreached
  else if aware targets.responseDueAt < firstResponseAt.getD evaluatedAt then .responseBreached
  else .onTime

/-- `evaluate_sla`. -/
def evaluateSla (targets : SlaTargets) (evaluatedAt : ℤ) (firstResponseAt resolvedAt : Option ℤ) :
    Except RsmError SlaState := do
  require (aware targets.startedAt ≤ evaluatedAt)
    (.validation "evaluated_at não pode preceder started_at")
  require (∀ t ∈ firstResponseAt, aware targets.startedAt ≤ t)
    (.validation "first_response_at não pode preceder started_at")
  require (∀ t ∈ resolvedAt, aware targets.startedAt ≤ t)
    (.validation "resolved_at não pode preceder started_at")
  require (∀ t ∈ resolvedAt, ∀ s ∈ firstResponseAt, s ≤ t)
    (.validation "resolved_at não pode preceder first_response_at")
  return slaState targets evaluatedAt firstResponseAt resolvedAt

/-- What `evaluate_sla` checks. -/
structure Evaluable (targets : SlaTargets) (evaluatedAt : ℤ)
    (firstResponseAt resolvedAt : Option ℤ) : Prop where
  evaluated : aware targets.startedAt ≤ evaluatedAt
  responded : ∀ t ∈ firstResponseAt, aware targets.startedAt ≤ t
  resolved : ∀ t ∈ resolvedAt, aware targets.startedAt ≤ t
  ordered : ∀ t ∈ resolvedAt, ∀ s ∈ firstResponseAt, s ≤ t

theorem evaluateSla_eq_ok {targets : SlaTargets} {evaluatedAt : ℤ}
    {firstResponseAt resolvedAt : Option ℤ} {state : SlaState} :
    evaluateSla targets evaluatedAt firstResponseAt resolvedAt = .ok state ↔
      Evaluable targets evaluatedAt firstResponseAt resolvedAt ∧
        slaState targets evaluatedAt firstResponseAt resolvedAt = state := by
  rw [evaluateSla, require_bind_eq_ok, require_bind_eq_ok, require_bind_eq_ok, require_bind_eq_ok]
  constructor
  · rintro ⟨hevaluated, hresponded, hresolved, hordered, hstate⟩
    exact ⟨⟨hevaluated, hresponded, hresolved, hordered⟩, Except.ok.inj hstate⟩
  · rintro ⟨⟨hevaluated, hresponded, hresolved, hordered⟩, rfl⟩
    exact ⟨hevaluated, hresponded, hresolved, hordered, rfl⟩

/-- **Time only makes it worse.** With the same marks a later evaluation is not better. -/
theorem rank_slaState_mono (targets : SlaTargets) {evaluatedAt evaluatedAt' : ℤ}
    (h : evaluatedAt ≤ evaluatedAt') (firstResponseAt resolvedAt : Option ℤ) :
    (slaState targets evaluatedAt firstResponseAt resolvedAt).rank
      ≤ (slaState targets evaluatedAt' firstResponseAt resolvedAt).rank := by
  have hgetD : ∀ o : Option ℤ, o.getD evaluatedAt ≤ o.getD evaluatedAt' := by
    intro o
    cases o with
    | none => exact h
    | some t => exact le_rfl
  have hresolution := hgetD resolvedAt
  have hresponse := hgetD firstResponseAt
  rw [slaState, slaState]
  by_cases hbreached : aware targets.resolutionDueAt < resolvedAt.getD evaluatedAt
  · rw [if_pos hbreached, if_pos (hbreached.trans_le hresolution)]
  · rw [if_neg hbreached]
    by_cases hlate : aware targets.responseDueAt < firstResponseAt.getD evaluatedAt
    · rw [if_pos hlate, if_pos (hlate.trans_le hresponse)]
      split <;> decide
    · rw [if_neg hlate]
      exact Nat.zero_le _

/-- After the deadline only a mark at or before it keeps the resolution from being breached. -/
theorem slaState_eq_resolutionBreached_iff {targets : SlaTargets} {evaluatedAt : ℤ}
    {firstResponseAt resolvedAt : Option ℤ} (hlate : aware targets.resolutionDueAt < evaluatedAt) :
    slaState targets evaluatedAt firstResponseAt resolvedAt = .resolutionBreached ↔
      ∀ t ∈ resolvedAt, aware targets.resolutionDueAt < t := by
  have hiff : slaState targets evaluatedAt firstResponseAt resolvedAt = .resolutionBreached ↔
      aware targets.resolutionDueAt < resolvedAt.getD evaluatedAt := by
    rw [slaState]
    split_ifs with hbreached hresponse
    · exact iff_of_true rfl hbreached
    · exact iff_of_false (by rintro ⟨⟩) hbreached
    · exact iff_of_false (by rintro ⟨⟩) hbreached
  rw [hiff]
  cases resolvedAt with
  | none => exact iff_of_true hlate (by rintro _ ⟨⟩)
  | some t =>
    constructor
    · rintro hbreached _ ⟨⟩
      exact hbreached
    · intro hall
      exact hall t rfl

/-! ## The marks -/

/-- A row of the loop of `_sla_marks`. -/
def slaMark (marks : Option ℤ × Option ℤ) (e : CaseEvent) : Option ℤ × Option ℤ :=
  let moment := aware e.createdAt
  (if e.toState = some .inProgress ∧ marks.1 = none then some moment else marks.1,
    if e.toState = some .resolved ∧ marks.2 = none then some moment else marks.2)

/-- `_sla_marks`: the first response and the resolution. -/
def slaMarks (db : Db) (caseId : String) : Option ℤ × Option ℤ :=
  let rows := db.events.filter fun e ↦
    e.caseId = caseId ∧ (e.toState = some .inProgress ∨ e.toState = some .resolved)
  (rows.insertionSort fun a b ↦ a.createdAt ≤ b.createdAt).foldl slaMark (none, none)

/-- The event leads the case to the state. -/
structure Reaches (db : Db) (caseId : String) (state : CaseState) (e : CaseEvent) : Prop where
  mem : e ∈ db.events
  caseId : e.caseId = caseId
  toState : e.toState = some state

/-- The least timestamp of the events that lead to the state. -/
structure FirstMark (db : Db) (caseId : String) (state : CaseState) (mark : Option ℤ) : Prop where
  reached : ∀ t ∈ mark, ∃ e, Reaches db caseId state e ∧ aware e.createdAt = t
  least : ∀ e, Reaches db caseId state e → ∃ t ∈ mark, t ≤ aware e.createdAt

theorem foldl_slaMark (l : List CaseEvent) (marks : Option ℤ × Option ℤ) :
    l.foldl slaMark marks =
      (marks.1.or ((l.find? fun e ↦ e.toState = some .inProgress).map fun e ↦ aware e.createdAt),
        marks.2.or
          ((l.find? fun e ↦ e.toState = some .resolved).map fun e ↦ aware e.createdAt)) := by
  have hstep : ∀ (o : Option ℤ) (p : CaseEvent → Bool) (e : CaseEvent) (l : List CaseEvent),
      (if p e = true ∧ o = none then some (aware e.createdAt) else o).or
          ((l.find? p).map fun e ↦ aware e.createdAt)
        = o.or (((e :: l).find? p).map fun e ↦ aware e.createdAt) := by
    intro o p e l
    cases o <;> cases hp : p e <;> simp [hp]
  induction l generalizing marks with
  | nil => exact Prod.ext (Option.or_none ..).symm (Option.or_none ..).symm
  | cons e l ih =>
    rw [List.foldl_cons, ih, slaMark]
    have hfirst := hstep marks.1 (fun e ↦ e.toState = some .inProgress) e l
    have hsecond := hstep marks.2 (fun e ↦ e.toState = some .resolved) e l
    simp only [decide_eq_true_eq] at hfirst hsecond
    exact Prod.ext hfirst hsecond

/-- **The marks are the first events of their kind.** -/
theorem firstMark_slaMarks (db : Db) (caseId : String) :
    FirstMark db caseId .inProgress (slaMarks db caseId).1 ∧
      FirstMark db caseId .resolved (slaMarks db caseId).2 := by
  have hsort : ∀ a b : CaseEvent, a.createdAt ≤ b.createdAt ↔
      aware a.createdAt ≤ aware b.createdAt := fun a b ↦ aware_le_iff
  rw [slaMarks, foldl_slaMark, Option.none_or, Option.none_or]
  have hfirst : ∀ st : CaseState, (st = .inProgress ∨ st = .resolved) → FirstMark db caseId st
      ((((db.events.filter fun e ↦ e.caseId = caseId ∧
          (e.toState = some .inProgress ∨ e.toState = some .resolved)).insertionSort
        fun a b ↦ a.createdAt ≤ b.createdAt).find? fun e ↦ e.toState = some st).map
          fun e ↦ aware e.createdAt) := by
    intro st hst
    have hmem : ∀ e, e ∈ db.events.filter (fun e ↦ e.caseId = caseId ∧
        (e.toState = some .inProgress ∨ e.toState = some .resolved)) ∧ e.toState = some st ↔
        Reaches db caseId st e := by
      intro e
      rw [List.mem_filter, decide_eq_true_eq]
      constructor
      · rintro ⟨⟨he, hcase, -⟩, hto⟩
        exact ⟨he, hcase, hto⟩
      · rintro ⟨he, hcase, hto⟩
        refine ⟨⟨he, hcase, ?_⟩, hto⟩
        rw [hto]
        exact hst.imp (congrArg some) (congrArg some)
    constructor
    · intro t ht
      obtain ⟨e, he, rfl⟩ := Option.map_eq_some_iff.mp ht
      obtain ⟨hin, hto, -⟩ := Sorting.find?_insertionSort_spec hsort he
      exact ⟨e, (hmem e).mp ⟨hin, of_decide_eq_true hto⟩, rfl⟩
    · intro e he
      obtain ⟨hin, hto⟩ := (hmem e).mpr he
      have hsorted := (List.mem_insertionSort fun a b ↦ a.createdAt ≤ b.createdAt).mpr hin
      have hsome := (@List.find?_isSome _ _ fun e : CaseEvent ↦ e.toState = some st).mpr
        ⟨e, hsorted, decide_eq_true hto⟩
      obtain ⟨first, hfind⟩ := Option.isSome_iff_exists.mp hsome
      obtain ⟨-, -, hleast⟩ := Sorting.find?_insertionSort_spec hsort hfind
      exact ⟨_, Option.map_eq_some_iff.mpr ⟨first, hfind, rfl⟩, hleast e hin (decide_eq_true hto)⟩
  exact ⟨hfirst _ (.inl rfl), hfirst _ (.inr rfl)⟩

namespace FirstMark

variable {db : Db} {caseId : String} {state : CaseState} {mark : Option ℤ}

/-- What bounds every event of the kind bounds the mark. -/
theorem forall_iff (h : FirstMark db caseId state mark) {p : ℤ → Prop}
    (hp : ∀ {s t}, s ≤ t → p s → p t) :
    (∀ t ∈ mark, p t) ↔ ∀ e, Reaches db caseId state e → p (aware e.createdAt) := by
  constructor
  · intro hmark e he
    obtain ⟨t, ht, hle⟩ := h.least e he
    exact hp hle (hmark t ht)
  · intro hall t ht
    obtain ⟨e, he, rfl⟩ := h.reached t ht
    exact hall e he

end FirstMark

/-! ## Reading the SLA of a case -/

/-- `SlaTargets` of the stored deadlines. -/
def storedTargets (row : CaseSla) : Except RsmError SlaTargets := do
  require (¬row.responseDueAt ≤ row.startedAt)
    (.validation "response_due_at deve ser posterior a started_at")
  require (row.responseDueAt ≤ row.resolutionDueAt)
    (.validation "resolution_due_at não pode preceder response_due_at")
  return {
    policyId := row.policyId, priority := row.priority, startedAt := row.startedAt,
    responseDueAt := row.responseDueAt, resolutionDueAt := row.resolutionDueAt }

/-- What `read_case_operations` says about the SLA of a case. -/
structure SlaReading where
  sla : CaseSla
  evaluatedAt : ℤ
  firstResponseAt : Option ℤ
  resolvedAt : Option ℤ
  state : SlaState
  deriving DecidableEq

/-- The moment of the evaluation, with the clock where none is sent. -/
def evaluationMoment (evaluatedAt : Option ObservedAt) (now : DateTime) : ℤ :=
  (evaluatedAt.map ObservedAt.instant).getD (aware now)

/-- The SLA that `read_case_operations` reports. -/
def readCaseSla (db : Tables) (caseId : String) (evaluatedAt : Option ObservedAt)
    (now : DateTime) : Except RsmError (Option SlaReading) := do
  let _ ← orThrow (db.getCase caseId) (.notFound "ServiceCase não encontrado")
  match Table.lookup CaseSla.caseId caseId db.slas with
  | none => return none
  | some row =>
    let (firstResponseAt, resolvedAt) := slaMarks db.toDb caseId
    let moment := evaluationMoment evaluatedAt now
    let targets ← storedTargets row
    let state ← evaluateSla targets moment firstResponseAt resolvedAt
    return some { sla := row, evaluatedAt := moment, firstResponseAt, resolvedAt, state }

/-- The report of the case is of this state. -/
def Reports (db : Tables) (caseId : String) (evaluatedAt : Option ObservedAt) (now : DateTime)
    (state : SlaState) : Prop :=
  ∃ reading, readCaseSla db caseId evaluatedAt now = .ok (some reading) ∧ reading.state = state

end ServiceCases

end ReqSys
