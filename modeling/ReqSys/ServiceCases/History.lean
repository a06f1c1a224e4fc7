import ReqSys.ServiceCases.Interference

/-!
# Service management: a case is its history

The row of a case carries a state and a version, the log carries the events. For any interleaving of
sessions they tell the same story: the version counts the transitions, the transitions form a chain
from `NEW` along the table of allowed transitions, and the chain ends in the stored state.

## Why no stale state is recorded

A transition reads the row, checks the table against the state it read, and only then compares and
swaps. The event carries the state that was *read*. Between the read and the write the row may
change, but never without a larger version: so either the version still is the expected one and then
the row is the one that was read, or the compare-and-swap finds no row. From the swap to the commit
the row is locked.

These are the two facts a session relies on. `Tolerates` says what it lets the others do: they may
move rows to larger versions, but not the row of its own pending write.
-/

namespace ReqSys

namespace ServiceCases

/-! ## The history of a case -/

/-- The transitions of a case, in commit order. -/
def transitions (db : Db) (caseId : String) : List CaseEvent :=
  db.events.filter fun e ↦ e.caseId = caseId ∧ e.eventType = .stateTransitioned

/-- The creations of a case. -/
def creations (db : Db) (caseId : String) : List CaseEvent :=
  db.events.filter fun e ↦ e.caseId = caseId ∧ e.eventType = .caseCreated

/-- Each event starts where the previous one ended, and moves along the table. -/
def Chain : CaseState → List CaseEvent → CaseState → Prop
  | a, [], b => a = b
  | a, e :: es, b => ∃ t, e.fromState = some a ∧ e.toState = some t ∧ t ∈ a.allowedTransitions ∧
    Chain t es b

/-- The row of a case and its log agree. -/
structure History (db : Db) (r : CaseRecord) : Prop where
  version : r.version = 1 + (transitions db r.caseId).length
  created : (creations db r.caseId).length = 1
  chain : Chain .new (transitions db r.caseId) r.state

theorem Chain.snoc {a b t : CaseState} {es : List CaseEvent} {e : CaseEvent} (h : Chain a es b)
    (hfrom : e.fromState = some b) (hto : e.toState = some t) (ht : t ∈ b.allowedTransitions) :
    Chain a (es ++ [e]) t := by
  induction es generalizing a with
  | nil =>
    cases h
    exact ⟨t, hfrom, hto, ht, rfl⟩
  | cons e' es ih =>
    obtain ⟨t', hfrom', hto', ht', hrest⟩ := h
    exact ⟨t', hfrom', hto', ht', ih hrest⟩

/-- A chain to a state without successors cannot be longer. -/
theorem Chain.eq_nil_of_terminal {a b c : CaseState} {es es' : List CaseEvent} (h : Chain a es b)
    (h' : Chain a (es ++ es') c) (hb : b.allowedTransitions = []) : es' = [] ∧ c = b := by
  induction es generalizing a with
  | nil =>
    cases h
    cases es' with
    | nil => exact ⟨rfl, h'.symm⟩
    | cons e es' =>
      obtain ⟨t, -, -, ht, -⟩ := h'
      rw [hb] at ht
      cases ht
  | cons e es ih =>
    obtain ⟨t, -, hto, -, hrest⟩ := h
    obtain ⟨t', -, hto', -, hrest'⟩ := h'
    rw [hto] at hto'
    cases hto'
    exact ih hrest hrest'

/-! ## Pending writes -/

/-- The case a pending write is about. -/
def Pending.caseId : Pending → String
  | insertCase r => r.caseId
  | updateCase c _ _ _ => c

/-- A pending insertion is of a new case, a pending update of an existing one. -/
def Pending.Placed (db : Db) : Pending → Prop
  | insertCase r => db.getCase r.caseId = none
  | updateCase c _ _ _ => (db.getCase c).isSome = true

theorem mem_of_pendingOf {db : Db} {i : ℕ} {w : Pending} (h : db.pendingOf i = some w) :
    (i, w) ∈ db.pending := by
  rw [Db.pendingOf] at h
  obtain ⟨x, hx, rfl⟩ := Option.map_eq_some_iff.mp h
  have hkey : x.1 = i := Table.key_of_lookup hx
  rw [← hkey]
  exact Table.mem_of_lookup hx

theorem pendingOf_rollback (db : Db) (i j : ℕ) :
    (db.rollback i).pendingOf j = if j = i then none else db.pendingOf j := by
  rw [Db.pendingOf, Db.rollback, Db.pendingOf, Table.lookup, Table.lookup]
  by_cases hj : j = i
  · rw [if_pos hj, Option.map_eq_none_iff, List.find?_eq_none]
    intro x hx
    have hne := (List.mem_filter.mp hx).2
    simp only [decide_eq_true_eq] at hne ⊢
    rw [hj]
    exact hne
  · rw [if_neg hj, List.find?_filter]
    refine congrArg (fun f ↦ (db.pending.find? f).map Prod.snd) (funext fun x ↦ ?_)
    by_cases hx : x.1 = j
    · simp [hx, hj]
    · simp [hx]

theorem pendingOf_stage (db : Db) (i j : ℕ) (w : Pending) :
    (db.stage i w).pendingOf j = if j = i then some w else db.pendingOf j := by
  have hcons : (db.stage i w).pendingOf j
      = if i = j then some w else (db.rollback i).pendingOf j := by
    rw [Db.pendingOf, Db.stage, Table.lookup, List.find?_cons]
    by_cases hj : i = j
    · simp [hj]
    · simp [hj, Db.pendingOf, Table.lookup]
  rw [hcons, pendingOf_rollback]
  by_cases hj : j = i
  · rw [if_pos hj.symm, if_pos hj]
  · rw [if_neg (Ne.symm hj), if_neg hj, if_neg hj]

theorem rowLocked_eq_false {db : Db} {i : ℕ} {c : String} (h : db.rowLocked i c = false) {j : ℕ}
    (hj : j ≠ i) {st : CaseState} {v : ℕ} {t : DateTime} :
    db.pendingOf j ≠ some (.updateCase c st v t) := by
  intro hw
  have := List.any_eq_false.mp h _ (mem_of_pendingOf hw)
  simp [hj] at this

theorem keyLocked_eq_false {db : Db} {i : ℕ} {r : CaseRecord} (h : db.keyLocked i r = false)
    {j : ℕ} (hj : j ≠ i) {r' : CaseRecord} (hw : db.pendingOf j = some (.insertCase r')) :
    r'.caseId ≠ r.caseId := by
  have := List.any_eq_false.mp h _ (mem_of_pendingOf hw)
  simp [hj] at this
  exact this.1

/-! ## The discipline of a session -/

/-- The invariant of the database. -/
structure Inv (db : Db) : Prop where
  keyed : Table.Keyed CaseRecord.caseId db.cases
  history : ∀ r ∈ db.cases, History db r
  /-- Every event is of a case that exists. -/
  owned : ∀ e ∈ db.events, (db.getCase e.caseId).isSome = true
  placed : ∀ i w, db.pendingOf i = some w → w.Placed db
  /-- Two sessions do not write the same case. -/
  exclusive : ∀ {i j w w'}, db.pendingOf i = some w → db.pendingOf j = some w' →
    w.caseId = w'.caseId → i = j

/-- Rows are only added or moved to a larger version, events are only added. -/
structure Grows (db db' : Db) : Prop where
  rows : ∀ c r, db.getCase c = some r →
    ∃ r', db'.getCase c = some r' ∧ (r' = r ∨ r.version < r'.version)
  events : db.events <+: db'.events

/-- What a session tolerates from the others. -/
structure Tolerates (i : ℕ) (db db' : Db) : Prop where
  grows : Grows db db'
  own : db'.pendingOf i = db.pendingOf i
  row : ∀ w, db.pendingOf i = some w → db'.getCase w.caseId = db.getCase w.caseId

theorem Grows.refl (db : Db) : Grows db db :=
  ⟨fun _ r h ↦ ⟨r, h, .inl rfl⟩, List.prefix_rfl⟩

theorem Grows.trans {db db' db'' : Db} (h : Grows db db') (h' : Grows db' db'') :
    Grows db db'' := by
  refine ⟨fun c r hr ↦ ?_, h.events.trans h'.events⟩
  obtain ⟨r', hr', hle⟩ := h.rows c r hr
  obtain ⟨r'', hr'', hle'⟩ := h'.rows c r' hr'
  refine ⟨r'', hr'', ?_⟩
  rcases hle with rfl | hlt
  · exact hle'
  · rcases hle' with rfl | hlt'
    · exact .inr hlt
    · exact .inr (hlt.trans hlt')

/-- The discipline of the sessions. -/
def discipline : Discipline machine where
  I := Inv
  R := Tolerates
  refl _ db := ⟨Grows.refl db, rfl, fun _ _ ↦ rfl⟩
  trans h h' :=
    ⟨h.grows.trans h'.grows, h'.own.trans h.own,
      fun w hw ↦ (h'.row w (h.own.trans hw)).trans (h.row w hw)⟩

/-! ## What the statements do -/

/-- Rows and events are the same, only pending writes differ. -/
theorem inv_of_pending {db : Db} {l : List (ℕ × Pending)} (h : Inv db)
    (hplaced : ∀ i w, Db.pendingOf { db with pending := l } i = some w → w.Placed db)
    (hexcl : ∀ {i j w w'}, Db.pendingOf { db with pending := l } i = some w →
      Db.pendingOf { db with pending := l } j = some w' → w.caseId = w'.caseId → i = j) :
    Inv { db with pending := l } where
  keyed := h.keyed
  history r hr := ⟨(h.history r hr).version, (h.history r hr).created, (h.history r hr).chain⟩
  owned := h.owned
  placed i w hw := by
    have := hplaced i w hw
    cases w <;> exact this
  exclusive := hexcl

/-- Changing one's own pending write disturbs no one. -/
theorem tolerates_of_pending {db : Db} {l : List (ℕ × Pending)} {j : ℕ}
    (h : Db.pendingOf { db with pending := l } j = db.pendingOf j) :
    Tolerates j db { db with pending := l } where
  grows := ⟨(Grows.refl db).rows, List.prefix_rfl⟩
  own := h
  row _ _ := rfl

theorem keeps_rollback {db : Db} (h : Inv db) (i : ℕ) :
    discipline.Keeps i db (db.rollback i) := by
  have hpending : ∀ {j w}, (db.rollback i).pendingOf j = some w → db.pendingOf j = some w := by
    intro j w hw
    rw [pendingOf_rollback] at hw
    split_ifs at hw
    exact hw
  constructor
  · refine inv_of_pending h (fun j w hw ↦ h.placed j w (hpending hw)) ?_
    intro j j' w w' hw hw' hcase
    exact h.exclusive (hpending hw) (hpending hw') hcase
  · intro j hj
    refine tolerates_of_pending ?_
    change (db.rollback i).pendingOf j = _
    rw [pendingOf_rollback, if_neg hj]

/-- A pending write may be staged if it is in its place and no one else writes that case. -/
theorem keeps_stage {db : Db} (h : Inv db) {i : ℕ} {w : Pending} (hplaced : w.Placed db)
    (hfree : ∀ {j w'}, j ≠ i → db.pendingOf j = some w' → w'.caseId ≠ w.caseId) :
    discipline.Keeps i db (db.stage i w) := by
  have hpending : ∀ {j w'}, (db.stage i w).pendingOf j = some w' →
      (j = i ∧ w' = w) ∨ j ≠ i ∧ db.pendingOf j = some w' := by
    intro j w' hw'
    rw [pendingOf_stage] at hw'
    split_ifs at hw' with hj
    · cases hw'
      exact .inl ⟨hj, rfl⟩
    · exact .inr ⟨hj, hw'⟩
  constructor
  · refine inv_of_pending h (fun j w' hw' ↦ ?_) ?_
    · obtain ⟨-, rfl⟩ | ⟨-, hold⟩ := hpending hw'
      · exact hplaced
      · exact h.placed j w' hold
    · intro j j' w₁ w₂ h₁ h₂ hcase
      obtain ⟨rfl, rfl⟩ | ⟨hj, hold⟩ := hpending h₁
      · obtain ⟨hj', -⟩ | ⟨hj', hold'⟩ := hpending h₂
        · exact hj'.symm
        · exact absurd hcase.symm (hfree hj' hold')
      · obtain ⟨rfl, rfl⟩ | ⟨-, hold'⟩ := hpending h₂
        · exact absurd hcase (hfree hj hold)
        · exact h.exclusive hold hold' hcase
  · intro j hj
    refine tolerates_of_pending ?_
    change (db.stage i w).pendingOf j = _
    rw [pendingOf_stage, if_neg hj]

/-! ## What a commit does -/

theorem transitions_concat {db db' : Db} {event : CaseEvent} (c : String)
    (h : db'.events = db.events ++ [event]) : transitions db' c = transitions db c
      ++ if event.caseId = c ∧ event.eventType = .stateTransitioned then [event] else [] := by
  rw [transitions, h, List.filter_append, List.filter_singleton, Bool.cond_decide]
  rfl

theorem creations_concat {db db' : Db} {event : CaseEvent} (c : String)
    (h : db'.events = db.events ++ [event]) : creations db' c = creations db c
      ++ if event.caseId = c ∧ event.eventType = .caseCreated then [event] else [] := by
  rw [creations, h, List.filter_append, List.filter_singleton, Bool.cond_decide]
  rfl

/-- The history of a case is not touched by the events of another one. -/
theorem History.of_other {db db' : Db} {event : CaseEvent} {r : CaseRecord} (h : History db r)
    (hevents : db'.events = db.events ++ [event]) (hne : event.caseId ≠ r.caseId) :
    History db' r := by
  have htrans : transitions db' r.caseId = transitions db r.caseId := by
    rw [transitions_concat _ hevents, if_neg fun h ↦ hne h.1, List.append_nil]
  have hcreated : creations db' r.caseId = creations db r.caseId := by
    rw [creations_concat _ hevents, if_neg fun h ↦ hne h.1, List.append_nil]
  constructor
  · rw [htrans]
    exact h.version
  · rw [hcreated]
    exact h.created
  · rw [htrans]
    exact h.chain

/-- **A commit that writes one case.** It is enough that the row it leaves agrees with its log and,
if there was one before, is of a larger version. -/
theorem keeps_of_row {db db' : Db} (r' : CaseRecord) (h : Inv db) {i : ℕ} {w : Pending}
    {event : CaseEvent} (hw : db.pendingOf i = some w) (hevent : event.caseId = w.caseId)
    (hkeyed : Table.Keyed CaseRecord.caseId db'.cases)
    (hrow : ∀ c, db'.getCase c = if c = w.caseId then some r' else db.getCase c)
    (hevents : db'.events = db.events ++ [event])
    (hpending : ∀ j, db'.pendingOf j = if j = i then none else db.pendingOf j)
    (hhistory : History db' r')
    (hgrows : ∀ r, db.getCase w.caseId = some r → r.version < r'.version) :
    discipline.Keeps i db db' := by
  have hother : ∀ {j w'}, j ≠ i → db.pendingOf j = some w' → w'.caseId ≠ w.caseId :=
    fun hj hw' hcase ↦ hj (h.exclusive hw' hw hcase)
  have hsome : ∀ c, (db.getCase c).isSome = true → (db'.getCase c).isSome = true := by
    intro c hc
    rw [hrow]
    split_ifs
    · rfl
    · exact hc
  have hold : ∀ {j w'}, db'.pendingOf j = some w' → j ≠ i ∧ db.pendingOf j = some w' := by
    intro j w' hw'
    rw [hpending] at hw'
    split_ifs at hw' with hj
    exact ⟨hj, hw'⟩
  refine ⟨⟨hkeyed, ?_, ?_, ?_, ?_⟩, fun j hj ↦ ⟨⟨?_, ?_⟩, ?_, ?_⟩⟩
  · intro r hr
    have hlook : db'.getCase r.caseId = some r := hkeyed.lookup_of_mem hr
    rw [hrow] at hlook
    split_ifs at hlook with hcase
    · cases hlook
      exact hhistory
    · refine (h.history r (Table.mem_of_lookup hlook)).of_other hevents ?_
      rw [hevent]
      exact Ne.symm hcase
  · intro e he
    rw [hevents] at he
    rcases List.mem_append.mp he with he | he
    · exact hsome _ (h.owned e he)
    · rw [List.mem_singleton.mp he, hevent, hrow, if_pos rfl]
      rfl
  · intro j w' hw'
    obtain ⟨hj, hw'⟩ := hold hw'
    cases w' with
    | insertCase r =>
      have hne : r.caseId ≠ w.caseId := hother hj hw'
      change db'.getCase r.caseId = none
      rw [hrow, if_neg hne]
      exact h.placed j _ hw'
    | updateCase c st v t => exact hsome c (h.placed j _ hw')
  · intro j j' w₁ w₂ h₁ h₂ hcase
    exact h.exclusive (hold h₁).2 (hold h₂).2 hcase
  · intro c r hr
    rw [hrow]
    split_ifs with hc
    · exact ⟨r', rfl, .inr (hgrows r (hc ▸ hr))⟩
    · exact ⟨r, hr, .inl rfl⟩
  · rw [hevents]
    exact List.prefix_append _ _
  · rw [hpending, if_neg hj]
  · intro w' hw'
    rw [hrow, if_neg (hother hj hw')]

theorem commit_eq {db : Db} {i : ℕ} {w : Pending} (event : CaseEvent)
    (hw : db.pendingOf i = some w) : (db.commit i event).1 = db ∨
      (db.commit i event).1 = { (db.apply w).rollback i with events := db.events ++ [event] } := by
  rw [Db.commit]
  split_ifs
  · exact .inl rfl
  · rw [hw]
    exact .inr rfl

/-- The commit of a transition whose event starts in the stored state. -/
theorem keeps_commit_update {db : Db} (h : Inv db) {i : ℕ} {r : CaseRecord} {st : CaseState}
    {t : DateTime} {event : CaseEvent}
    (hw : db.pendingOf i = some (.updateCase r.caseId st (r.version + 1) t))
    (hr : db.getCase r.caseId = some r) (hcase : event.caseId = r.caseId)
    (htype : event.eventType = .stateTransitioned) (hfrom : event.fromState = some r.state)
    (hto : event.toState = some st) (hallowed : st ∈ r.state.allowedTransitions) :
    discipline.Keeps i db (db.commit i event).1 := by
  obtain heq | heq := commit_eq event hw
  · rw [heq]
    exact .same h
  · rw [heq]
    have hhist := h.history r (Table.mem_of_lookup hr)
    have hnotCreated : ¬(event.caseId = r.caseId ∧ event.eventType = .caseCreated) := by
      rw [htype]
      rintro ⟨-, h⟩
      cases h
    let set (x : CaseRecord) : CaseRecord :=
      { x with state := st, version := r.version + 1, updatedAt := t }
    have hkeyed : Table.Keyed CaseRecord.caseId
        (Table.update CaseRecord.caseId r.caseId set db.cases) :=
      h.keyed.keyed_update (f := set) fun _ ↦ rfl
    refine keeps_of_row (set r) h hw hcase hkeyed (fun c ↦ ?_) rfl
      (fun j ↦ pendingOf_rollback _ i j) ⟨?_, ?_, ?_⟩ ?_
    · have hset : ∀ x, x.caseId = r.caseId → (set x).caseId = r.caseId := fun _ hk ↦ hk
      have hlook : Table.lookup CaseRecord.caseId c
          (Table.update CaseRecord.caseId r.caseId set db.cases) = _ :=
        Table.lookup_update hset db.cases
      rw [show Table.lookup CaseRecord.caseId r.caseId db.cases = some r from hr] at hlook
      exact hlook
    · rw [transitions_concat _ rfl, if_pos ⟨hcase, htype⟩, List.length_append]
      change r.version + 1 = _
      rw [hhist.version]
      rfl
    · rw [creations_concat _ rfl, if_neg hnotCreated, List.append_nil]
      exact hhist.created
    · rw [transitions_concat _ rfl, if_pos ⟨hcase, htype⟩]
      exact hhist.chain.snoc hfrom hto hallowed
    · intro r₀ hr₀
      rw [show db.getCase r.caseId = some r₀ from hr₀] at hr
      cases hr
      exact Nat.lt_succ_self _

/-- The commit of a new case. -/
theorem keeps_commit_insert {db : Db} (h : Inv db) {i : ℕ} {r : CaseRecord} {event : CaseEvent}
    (hw : db.pendingOf i = some (.insertCase r)) (hstate : r.state = .new)
    (hversion : r.version = 1) (hcase : event.caseId = r.caseId)
    (htype : event.eventType = .caseCreated) :
    discipline.Keeps i db (db.commit i event).1 := by
  have hnew : db.getCase r.caseId = none := h.placed i _ hw
  -- a case that does not exist has no events
  have hnone : ∀ e ∈ db.events, e.caseId ≠ r.caseId := by
    intro e he hcase
    have := h.owned e he
    rw [hcase, hnew] at this
    cases this
  have htrans : transitions db r.caseId = [] :=
    List.filter_eq_nil_iff.mpr fun e he ↦ by simp [hnone e he]
  have hcreated : creations db r.caseId = [] :=
    List.filter_eq_nil_iff.mpr fun e he ↦ by simp [hnone e he]
  have hnotTrans : ¬(event.caseId = r.caseId ∧ event.eventType = .stateTransitioned) := by
    rw [htype]
    rintro ⟨-, h⟩
    cases h
  obtain heq | heq := commit_eq event hw
  · rw [heq]
    exact .same h
  · rw [heq]
    have hkeyed : Table.Keyed CaseRecord.caseId (db.cases ++ [r]) :=
      h.keyed.concat fun r' hr' ↦ Table.ne_key_of_lookup_none hnew hr'
    refine keeps_of_row r h hw hcase hkeyed (fun c ↦ ?_) rfl
      (fun j ↦ pendingOf_rollback _ i j) ⟨?_, ?_, ?_⟩ ?_
    · refine (Table.lookup_concat r db.cases).trans ?_
      change (db.getCase c).or _ = if c = r.caseId then some r else db.getCase c
      by_cases hc : c = r.caseId
      · rw [if_pos hc.symm, if_pos hc, hc, hnew]
        rfl
      · rw [if_neg (Ne.symm hc), if_neg hc, Option.or_none]
    · rw [transitions_concat _ rfl, htrans, hversion, if_neg hnotTrans]
      rfl
    · rw [creations_concat _ rfl, hcreated, if_pos ⟨hcase, htype⟩]
      rfl
    · rw [transitions_concat _ rfl, htrans, hstate, if_neg hnotTrans]
      rfl
    · intro r₀ hr₀
      rw [show db.getCase r.caseId = some r₀ from hr₀] at hnew
      cases hnew

/-! ## What the statements that stage a write do -/

theorem keeps_updateCase {db : Db} (h : Inv db) (i : ℕ) (c : String) (v : ℕ) (st : CaseState)
    (now : DateTime) : discipline.Keeps i db (db.updateCase i c v st now).1 := by
  rw [Db.updateCase]
  split_ifs with hlocked
  · exact .same h
  · rcases hrow : db.getCase c with _ | r
    · exact .same h
    · dsimp only
      split_ifs
      · have hplaced : (db.getCase c).isSome = true := by
          rw [hrow]
          rfl
        refine keeps_stage h hplaced fun {j w'} hj hw' hcase ↦ ?_
        cases w' with
        | insertCase r' =>
          have hnone : db.getCase r'.caseId = none := h.placed j _ hw'
          rw [show r'.caseId = c from hcase, hrow] at hnone
          cases hnone
        | updateCase c' st' v' t' =>
          cases show c' = c from hcase
          exact rowLocked_eq_false (Bool.not_eq_true _ ▸ hlocked) hj hw'
      · exact .same h

theorem keeps_flushCase {db : Db} (h : Inv db) (i : ℕ) (r : CaseRecord) :
    discipline.Keeps i db (db.flushCase i r).1 := by
  rw [Db.flushCase]
  split_ifs with hkey hlocked
  · exact .same h
  · exact .same h
  · have hnew : db.getCase r.caseId = none := by
      rw [Bool.or_eq_true, not_or] at hkey
      exact Option.not_isSome_iff_eq_none.mp hkey.1
    refine keeps_stage h hnew fun {j w'} hj hw' hcase ↦ ?_
    cases w' with
    | insertCase r' => exact keyLocked_eq_false (Bool.not_eq_true _ ▸ hlocked) hj hw' hcase
    | updateCase c st v t =>
      have hsome : (db.getCase c).isSome = true := h.placed j _ hw'
      rw [show c = r.caseId from hcase, hnew] at hsome
      cases hsome

/-! ## The operations keep the discipline -/

section Safe

variable {i : ℕ} {db : Db}

/-- The operation, run by session `i`, keeps the discipline. -/
def Kept (i : ℕ) (db : Db) {α : Type} (p : Operation α) : Prop :=
  discipline.Safe i (fun _ _ ↦ True) db p

/-- The insertion of a new case. -/
theorem kept_insertCase {domain : ServiceCase} {payload : CreateRequest} {correlationId : String}
    (hnew : domain.state = .new) : Kept i db (insertCase domain payload correlationId) := by
  refine safe_insertCase (fun db' now hI ↦ keeps_flushCase hI i _) fun db' db'' now now' hI hR ↦ ?_
  have hpending : db''.pendingOf i = some (.insertCase (newRecord domain payload now)) := by
    rw [hR.own, pendingOf_stage, if_pos rfl]
  exact keeps_commit_insert hI hpending hnew rfl rfl rfl

/-- The state a case had at a version: as long as the version stands, so does the state. -/
def Known (db : Db) (c : String) (v : ℕ) (st : CaseState) : Prop :=
  ∃ r, db.getCase c = some r ∧ v ≤ r.version ∧ (r.version = v → r.state = st)

theorem Known.stable {db' : Db} {c : String} {v : ℕ} {st : CaseState} (h : Known db c v st)
    (hR : Tolerates i db db') : Known db' c v st := by
  obtain ⟨r, hr, hle, hstate⟩ := h
  obtain ⟨r', hr', hrr'⟩ := hR.grows.rows c r hr
  rcases hrr' with rfl | hlt
  · exact ⟨r', hr', hle, hstate⟩
  · exact ⟨r', hr', hle.trans hlt.le, fun hv ↦ absurd hv (by omega)⟩

/-- The compare-and-swap, the event and the commit, from a state that was read. -/
theorem kept_writeTransition {c : String} {payload : TransitionRequest} {st : CaseState}
    {updated : ServiceCase} {correlationId : String} (hknown : Known db c payload.expectedVersion st)
    (hallowed : updated.state ∈ st.allowedTransitions) :
    Kept i db (writeTransition c payload st updated correlationId) := by
  refine safe_writeTransition (fun _ hI ↦ keeps_rollback hI i)
    (fun db' now hI ↦ keeps_updateCase hI i _ _ _ _) ?_
  intro db' db'' r now now' hI hR hr hversion hI' hR'
  -- the version still is the one that was read, so the state is
  obtain ⟨r', hr', -, hstate⟩ := hknown.stable hR
  rw [hr] at hr'
  cases hr'
  have hcase : r.caseId = c := Table.key_of_lookup hr
  have hpending : db''.pendingOf i
      = some (.updateCase r.caseId updated.state (r.version + 1) now) := by
    rw [hR'.own, pendingOf_stage, if_pos rfl, hcase, hversion]
  have hlocked : db''.getCase c = db'.getCase c :=
    hR'.row (.updateCase c updated.state (payload.expectedVersion + 1) now)
      (by rw [pendingOf_stage, if_pos rfl])
  have hrow' : db''.getCase r.caseId = some r := by
    rw [hcase, hlocked, hr]
  refine keeps_commit_update hI' hpending hrow' hcase.symm rfl ?_ rfl ?_
  · rw [hstate hversion]
    rfl
  · rw [hstate hversion]
    exact hallowed

theorem kept_code (cfg : Config) (c : Request) : Kept i db (code cfg c) := by
  cases c with
  | create payload correlationId =>
    exact safe_createServiceCase (fun _ hI ↦ keeps_rollback hI i) cfg fun hnew ↦
      kept_insertCase hnew
  | transition caseId payload correlationId =>
    refine safe_transitionServiceCase cfg fun {db' _ record _} _ hread hversion hallowed hR ↦ ?_
    have hknown : Known db' caseId payload.expectedVersion record.state :=
      ⟨record, hread, hversion.ge, fun _ ↦ rfl⟩
    exact kept_writeTransition (hknown.stable hR) hallowed

end Safe

/-! ## Every run -/

theorem inv_empty : Inv {} where
  keyed := List.nodup_nil
  history := List.forall_mem_nil _
  owned := List.forall_mem_nil _
  placed _ _ h := nomatch h
  exclusive h := nomatch h

theorem disciplined_of_run {cfg : Config} {tr : List SessionMove} {p : Sessions}
    (h : (sessions cfg).Run tr p) : Pool.Disciplined discipline p :=
  Pool.safe_of_run inv_empty (fun _ c _ _ ↦ kept_code cfg c) (fun i _ hI ↦ keeps_rollback hI i) h

/-- Along a path rows and events only grow. -/
theorem grows_of_path {cfg : Config} {tr : List SessionMove} {p p' : Sessions}
    (hp : Pool.Disciplined discipline p) (h : (sessions cfg).Path p tr p') :
    Pool.Disciplined discipline p' ∧ Grows p.store p'.store :=
  Pool.rel_of_path (D := discipline) Grows.refl Grows.trans
    (fun {i _ _} _ hkeeps ↦ (hkeeps.others (i + 1) (Nat.succ_ne_self i)).grows)
    (fun _ c _ _ ↦ kept_code cfg c) (fun i _ hI ↦ keeps_rollback hI i) hp h

/-- The log of a case grows with the database. -/
theorem Grows.transitions_prefix {db db' : Db} (h : Grows db db') (c : String) :
    transitions db c <+: transitions db' c := h.events.filter _

/-- A case whose state has no successor does not change any more. -/
theorem terminal_unchanged {db db' : Db} (h : Inv db) (h' : Inv db') (hgrows : Grows db db')
    {r : CaseRecord} (hr : r ∈ db.cases) (hterminal : r.state.allowedTransitions = []) :
    db'.getCase r.caseId = some r ∧ transitions db' r.caseId = transitions db r.caseId := by
  have hrow : db.getCase r.caseId = some r := h.keyed.lookup_of_mem hr
  obtain ⟨r', hr', hrr'⟩ := hgrows.rows r.caseId r hrow
  have hcase : r'.caseId = r.caseId := Table.key_of_lookup hr'
  have hhist := h.history r hr
  have hhist' := h'.history r' (Table.mem_of_lookup hr')
  have hchain' := hhist'.chain
  have hversion' := hhist'.version
  obtain ⟨more, hmore⟩ := hgrows.transitions_prefix r.caseId
  rw [hcase, ← hmore] at hchain' hversion'
  -- the chain cannot go on from a terminal state
  obtain ⟨rfl, -⟩ := hhist.chain.eq_nil_of_terminal hchain' hterminal
  rw [List.append_nil] at hmore hversion'
  rcases hrr' with rfl | hlt
  · exact ⟨hr', hmore.symm⟩
  · rw [hversion', hhist.version] at hlt
    exact absurd hlt (lt_irrefl _)

/-- **The history of every case.** In every state reached by any interleaving of sessions, for every
case: the version is one more than the number of its transitions, it was created exactly once, and
its transitions in commit order are a chain of allowed transitions from `NEW` to the stored state.
Hence a closed or canceled case is never changed again. -/
theorem case_history (cfg : Config) {tr : List SessionMove} {p : Sessions}
    (h : (sessions cfg).Run tr p) :
    (∀ r ∈ p.store.cases, History p.store r) ∧
      ∀ r ∈ p.store.cases, r.state = .closed ∨ r.state = .canceled →
        ∀ tr' p', (sessions cfg).Path p tr' p' → p'.store.getCase r.caseId = some r ∧
          transitions p'.store r.caseId = transitions p.store r.caseId := by
  have hdisc := disciplined_of_run h
  refine ⟨hdisc.inv.history, fun r hr hstate tr' p' hpath ↦ ?_⟩
  obtain ⟨hdisc', hgrows⟩ := grows_of_path hdisc hpath
  have hterminal : r.state.allowedTransitions = [] := by
    rcases hstate with hstate | hstate <;> rw [hstate] <;> rfl
  exact terminal_unchanged hdisc.inv hdisc'.inv hgrows hr hterminal

/-- Two sessions race on version 1: one cancels the case, the other one is refused. -/
theorem case_history_race :
    (sampleRun sampleMoves).2.store.cases.map (fun r ↦ (r.state, r.version)) = [(.canceled, 2)] ∧
      ∀ r ∈ (sampleRun sampleMoves).2.store.cases, History (sampleRun sampleMoves).2.store r :=
  ⟨by decide +kernel, (case_history sampleConfig (run_sampleRun sampleMoves)).1⟩

end ServiceCases

end ReqSys
