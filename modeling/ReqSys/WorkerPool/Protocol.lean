import ReqSys.WorkerPool.Operations

/-!
# The worker pool: the protocol of a task

What the operations do to the database, one row at a time. An *act* names what happened to which
task and by whom; `Change` says when it may happen to a row and what the row becomes; `Effect` lifts
this to the database, together with the acts that do not touch a task.

The operations of the store are paths of acts: the recovery loops contribute one act for each row
they visit, every other write is a single act. That refinement is proved once, in
`WorkerPool.Refinement`; the invariants are then proved for the protocol, where each of them is a
case analysis over a dozen acts with their guards in plain sight.

## Visible acts

Some acts leave a mark in the trace of calls: a lease was issued, a task was submitted, completed or
requeued, a lane was configured. `Act.event` keeps those, and the refinement preserves them in
order.
-/

namespace ReqSys

namespace WorkerPool

open PyText

/-! ## Acts -/

/-- What can happen in the pool. -/
inductive Act
  /-- Workers or affinities changed. -/
  | setup
  /-- A lane was created with the default limit. -/
  | addLane (repository : String)
  | configure (repository : String) (maxInFlight : ℤ)
  | enqueue (t : Task)
  | claim (tid worker token : String) (role : Role)
  | renew (tid worker token : String)
  | start (tid worker token : String)
  | submit (tid worker token given : String)
  | complete (tid worker token : String)
  /-- The holder failed, lost its lease or stalled, and the task may be tried again. -/
  | giveBack (tid : String)
  /-- The holder failed, lost its lease or stalled, and the attempts are used up. -/
  | giveUp (tid : String)
  | block (tid : String)
  | requeue (tid : String)

/-- The marks acts leave in the trace of calls. -/
inductive Event
  | configured (repository : String) (maxInFlight : ℤ)
  | issued (tid token : String)
  | submitted (tid worker given : String)
  | completed (tid worker : String)
  | requeued (tid : String)
  deriving DecidableEq

namespace Act

def event : Act → Option Event
  | configure r n => some (.configured r n)
  | claim tid _ token _ => some (.issued tid token)
  | submit tid worker _ given => some (.submitted tid worker given)
  | complete tid worker _ => some (.completed tid worker)
  | requeue tid => some (.requeued tid)
  | _ => none

/-- The task an act is about. -/
def taskId? : Act → Option String
  | claim tid _ _ _ | renew tid _ _ | start tid _ _ | submit tid _ _ _ | complete tid _ _
  | giveBack tid | giveUp tid | block tid | requeue tid => some tid
  | setup | addLane _ | configure _ _ | enqueue _ => none

/-- The acts that only the operation of the same name performs, on its own. -/
def IsDecision : Act → Prop
  | configure _ _ | submit _ _ _ _ | requeue _ => True
  | _ => False

end Act

/-! ## What an act does to its row -/

/-- The row is leased to this worker with this token. -/
def Task.HeldBy (t : Task) (worker token : String) : Prop :=
  t.leasedBy = some worker ∧ t.leaseToken = some token

/-- The row without its lease. -/
def Task.released (t : Task) : Task :=
  { t with leasedBy := none, leaseToken := none, leaseExpiresAt := none }

/-- When an act may happen to a row, and what the row becomes. -/
def Change (H : Host) (a : Act) (t t' : Task) : Prop :=
  match a with
  | .claim _ worker token role =>
    t.state = (claimStates role).1 ∧ t.leasedBy = none
      ∧ (role = .validator → t.producedSha ≠ none ∧ t.builderWorkerId ≠ some worker)
      ∧ ∃ (expires stamp : DateTime) (corr : String), t' =
        { t with state := (claimStates role).2, leasedBy := some worker, leaseToken := some token,
                 leaseExpiresAt := some expires.iso, attemptCount := t.attemptCount + 1,
                 validatorWorkerId :=
                   if role = .validator then some worker else t.validatorWorkerId,
                 correlationId := corr, updatedAt := stamp.iso,
                 lastMaterialProgressAt := stamp.iso }
  | .renew _ worker token =>
    t.isActive = true ∧ t.HeldBy worker token
      ∧ ∃ (expires stamp : DateTime) (corr : String), t' =
        { t with leaseExpiresAt := some expires.iso, correlationId := corr,
                 updatedAt := stamp.iso }
  | .start _ worker token =>
    t.state = .leased ∧ t.HeldBy worker token
      ∧ ∃ (stamp : DateTime) (corr : String), t' =
        { t with state := .running, builderWorkerId := some worker, correlationId := corr,
                 updatedAt := stamp.iso, lastMaterialProgressAt := stamp.iso }
  | .submit _ worker token given =>
    t.state = .running ∧ t.HeldBy worker token ∧ t.builderWorkerId = some worker
      ∧ sha40 (H.unicode.lower given) = true
      ∧ ∃ (stamp : DateTime) (corr : String), t' =
        { t.released with state := .validating, producedSha := some (H.unicode.lower given),
                          correlationId := corr, updatedAt := stamp.iso,
                          lastMaterialProgressAt := stamp.iso }
  | .complete _ worker token =>
    t.state = .validating ∧ t.HeldBy worker token ∧ t.builderWorkerId ≠ some worker
      ∧ truthy t.producedSha = true
      ∧ ∃ (stamp : DateTime) (corr : String), t' =
        { t.released with state := .completed, correlationId := corr, updatedAt := stamp.iso,
                          completedAt := some stamp.iso, lastMaterialProgressAt := stamp.iso }
  | .giveBack _ =>
    t.isActive = true ∧ t.exhausted = false
      ∧ ∃ (blockedReason lastError : Option String) (corr stamp : String), t' =
        { t.released with state := t.resumeState, blockedReason, lastError, correlationId := corr,
                          updatedAt := stamp }
  | .giveUp _ =>
    t.isActive = true ∧ t.exhausted = true
      ∧ ∃ (blockedReason lastError : Option String) (corr stamp : String), t' =
        { t.released with state := .failed, blockedReason, lastError, correlationId := corr,
                          updatedAt := stamp }
  | .block _ =>
    t.isActive = true
      ∧ ∃ (blockedReason lastError : Option String) (corr stamp progress : String),
        (progress = t.lastMaterialProgressAt ∨ ∃ at' : DateTime, progress = at'.iso) ∧ t' =
        { t.released with state := .blocked, blockedReason, lastError, correlationId := corr,
                          updatedAt := stamp, lastMaterialProgressAt := progress }
  | .requeue _ =>
    t.state = .blocked
      ∧ ∃ (stamp : DateTime) (corr : String), t' =
        { t with state := t.resumeState, blockedReason := none, correlationId := corr,
                 updatedAt := stamp.iso, lastMaterialProgressAt := stamp.iso }
  | .setup | .addLane _ | .configure _ _ | .enqueue _ => False

/-! ## What an act does to the database -/

/-- The part of a lane that limits claims. -/
def Lane.limit (r : Lane) : String × ℤ := (r.repository, r.maxInFlight)

/-- A task as it is inserted. -/
structure Task.Fresh (t : Task) : Prop where
  state : t.state = .queued
  producedSha : t.producedSha = none
  builderWorkerId : t.builderWorkerId = none
  leasedBy : t.leasedBy = none
  leaseToken : t.leaseToken = none
  leaseExpiresAt : t.leaseExpiresAt = none
  progress : ∃ at' : DateTime, t.lastMaterialProgressAt = at'.iso
  attemptCount : t.attemptCount = 0
  maxAttempts : 1 ≤ t.maxAttempts

/-- What a claim needs of the rest of the database: the worker holds nothing, and for a builder the
lane of the task has room. -/
def ClaimAdmitted (worker : String) (role : Role) (t : Task) (s : Store) : Prop :=
  holdsActiveTask worker s = false
    ∧ (role = .builder → ∃ r, Table.lookup Lane.repository t.repository s.lanes = some r
        ∧ (activeCount t.repository s.tasks : ℤ) < r.maxInFlight)

/-- The rows an act adds to the quarantine. -/
def Quarantines (a : Act) (t : Task) (rows : List QuarantineRow) : Prop :=
  match a with
  | .giveUp _ => ∃ q : QuarantineRow, rows = [q] ∧ q.taskId = t.taskId
      ∧ q.attemptCount = t.attemptCount
  | _ => rows = []

/-- What an act does to the database. -/
inductive Effect (H : Host) (s : Store) : Act → Store → Prop
  | setup {workers : List Worker} {affinities : List Affinity} :
      Effect H s .setup { s with workers, affinities }
  | addLane {repository stamp : String} : Effect H s (.addLane repository)
      { s with lanes := Table.insertOrIgnore Lane.repository (newLane repository true 1 stamp)
                          s.lanes }
  | configure {repository stamp : String} {enabled : Bool} {maxInFlight : ℤ}
      (hpos : 1 ≤ maxInFlight) : Effect H s (.configure repository maxInFlight)
      { s with lanes := Table.upsert Lane.repository (newLane repository enabled maxInFlight stamp)
                          (fun old ↦ { old with enabled, maxInFlight, updatedAt := stamp })
                          s.lanes }
  | enqueue {t : Task} (hfresh : t.Fresh) (hkey : ∀ t' ∈ s.tasks, t'.taskId ≠ t.taskId)
      (hlane : (Table.lookup Lane.repository t.repository s.lanes).isSome) :
      Effect H s (.enqueue t) { s with tasks := s.tasks ++ [t] }
  | row {a : Act} {tid : String} {t t' : Task} {lanes : List Lane}
      {quarantined : List QuarantineRow} (htid : a.taskId? = some tid)
      (hrow : Table.lookup Task.taskId tid s.tasks = some t) (hchange : Change H a t t')
      (hguard : ∀ tid worker token role, a = .claim tid worker token role →
        ClaimAdmitted worker role t s)
      (hlanes : lanes.map Lane.limit = s.lanes.map Lane.limit)
      (hquarantine : Quarantines a t quarantined) :
      Effect H s a { s with tasks := Table.update Task.taskId tid (fun _ ↦ t') s.tasks, lanes,
                            quarantine := s.quarantine ++ quarantined }

/-- The protocol as a transition system. -/
def protocol (H : Host) : TransitionSystem Store Act where
  init s := s = Store.empty
  step s a s' := Effect H s a s'

/-! ## Facts about one change -/

variable {H : Host} {a : Act} {t t' : Task}

/-- No act moves a row to another key or another repository. -/
theorem Change.identity_eq (h : Change H a t t') :
    t'.taskId = t.taskId ∧ t'.repository = t.repository := by
  cases a <;> simp only [Change] at h
  case claim =>
    obtain ⟨-, -, -, _, _, _, rfl⟩ := h
    exact ⟨rfl, rfl⟩
  case renew =>
    obtain ⟨-, -, _, _, _, rfl⟩ := h
    exact ⟨rfl, rfl⟩
  case start =>
    obtain ⟨-, -, _, _, rfl⟩ := h
    exact ⟨rfl, rfl⟩
  case submit =>
    obtain ⟨-, -, -, -, _, _, rfl⟩ := h
    exact ⟨rfl, rfl⟩
  case complete =>
    obtain ⟨-, -, -, -, _, _, rfl⟩ := h
    exact ⟨rfl, rfl⟩
  case giveBack =>
    obtain ⟨-, -, _, _, _, _, rfl⟩ := h
    exact ⟨rfl, rfl⟩
  case giveUp =>
    obtain ⟨-, -, _, _, _, _, rfl⟩ := h
    exact ⟨rfl, rfl⟩
  case block =>
    obtain ⟨-, _, _, _, _, _, -, rfl⟩ := h
    exact ⟨rfl, rfl⟩
  case requeue =>
    obtain ⟨-, _, _, rfl⟩ := h
    exact ⟨rfl, rfl⟩

/-! ## Facts about one effect -/

variable {s s' : Store}

/-- Task keys stay unique. -/
theorem Effect.keyed (h : Effect H s a s') (hk : Table.Keyed Task.taskId s.tasks) :
    Table.Keyed Task.taskId s'.tasks := by
  cases h with
  | setup => exact hk
  | addLane => exact hk
  | configure => exact hk
  | enqueue _ hkey _ => exact hk.concat hkey
  | row _ hrow hchange _ _ _ =>
    have hid : _ = _ := hchange.identity_eq.1.trans (Table.key_of_lookup hrow)
    exact hk.keyed_update_key hid

/-- An act leaves the rows of other tasks alone. -/
theorem Effect.mem_of_ne (h : Effect H s a s') {r : Task} (hr : r ∈ s.tasks)
    (hne : a.taskId? ≠ some r.taskId) : r ∈ s'.tasks := by
  cases h with
  | setup => exact hr
  | addLane => exact hr
  | configure => exact hr
  | enqueue => exact List.mem_append_left _ hr
  | row htid _ _ _ _ _ =>
    refine Table.mem_update_of_ne hr fun heq ↦ hne ?_
    rw [htid, heq]

/-- **Inversion.** Every row after an act was there before, was inserted by it, or is the row the
act changed. -/
theorem Effect.mem_cases (h : Effect H s a s') {r : Task} (hr : r ∈ s'.tasks) :
    r ∈ s.tasks ∧ a.taskId? ≠ some r.taskId
      ∨ (a = .enqueue r ∧ r.Fresh ∧ ∀ t ∈ s.tasks, t.taskId ≠ r.taskId)
      ∨ ∃ t ∈ s.tasks, a.taskId? = some t.taskId ∧ Change H a t r := by
  cases h with
  | setup => exact Or.inl ⟨hr, nofun⟩
  | addLane => exact Or.inl ⟨hr, nofun⟩
  | configure => exact Or.inl ⟨hr, nofun⟩
  | enqueue hfresh hkey _ =>
    rcases List.mem_append.mp hr with hr | hr
    · exact Or.inl ⟨hr, nofun⟩
    · obtain rfl := List.mem_singleton.mp hr
      exact Or.inr (Or.inl ⟨rfl, hfresh, hkey⟩)
  | row htid hrow hchange _ _ _ =>
    rcases Table.mem_update hr with ⟨hr, hne⟩ | ⟨_, _, _, rfl⟩
    · refine Or.inl ⟨hr, fun heq ↦ hne ?_⟩
      rw [htid] at heq
      exact (Option.some.inj heq).symm
    · refine Or.inr (Or.inr ⟨_, Table.mem_of_lookup hrow, ?_, hchange⟩)
      rw [htid, Table.key_of_lookup hrow]

/-- No act removes a task. -/
theorem Effect.mem_of_taskId (h : Effect H s a s') {r : Task} (hr : r ∈ s.tasks) :
    ∃ r' ∈ s'.tasks, r'.taskId = r.taskId := by
  by_cases hne : a.taskId? = some r.taskId
  · cases h with
    | row htid hrow hchange _ _ _ =>
      rw [htid] at hne
      refine ⟨_, Table.mem_update_self (Table.mem_of_lookup hrow) (Table.key_of_lookup hrow), ?_⟩
      rw [hchange.identity_eq.1, Table.key_of_lookup hrow, Option.some.inj hne]
    | _ => cases hne
  · exact ⟨r, h.mem_of_ne hr hne, rfl⟩

/-- The task of an act is there. -/
theorem Effect.exists_row (h : Effect H s a s') {tid : String} (ha : a.taskId? = some tid) :
    ∃ t ∈ s.tasks, t.taskId = tid := by
  cases h with
  | row htid hrow _ _ _ _ =>
    rw [htid] at ha
    exact ⟨_, Table.mem_of_lookup hrow, (Table.key_of_lookup hrow).trans (Option.some.inj ha)⟩
  | _ => cases ha

end WorkerPool

end ReqSys
