import Mathlib
import ReqSys.Foundation.RelyGuarantee
import ReqSys.WorkerPool.Operations

/-!
# The worker pool: what the workers report

`register_worker` stores the profile and the two readiness flags of a worker. `heartbeat_worker`
reads the row first, outside the transaction, and then writes all three, those that its caller has
not given with the values that it has read. Here the two are programs whose steps interleave: the
read is a step of its own.

The row keeps what was reported last exactly as long as each heartbeat writes back values that are
still stored. A heartbeat that overlaps with another call may bring back what has been withdrawn.
-/

namespace ReqSys

namespace WorkerPool

namespace Reports

open PyText Discipline

variable (H : Host)

/-! ## The programs -/

/-- What the callers have given last. -/
structure Reported where
  profile : Option Profile := none
  gatewayOk : Option Bool := none
  stateValidated : Option Bool := none
  deriving DecidableEq

/-- What a row has. -/
def stored (w : Worker) : Reported where
  profile := some w.profile
  gatewayOk := some w.gatewayOk
  stateValidated := some w.stateValidated

/-- The database, and what was reported for each worker. -/
structure Database where
  store : Store
  reported : String → Reported := fun _ ↦ {}

/-- The part of `register_worker` inside the transaction. -/
def registerWrite (env : Env) (a : RegisterArgs) (s : Store) :
    Except PoolError (Store × Unit) := do
  require (¬(strip a.workerId = "" ∨ strip a.host = ""
      ∨ strip a.correlationId = ""))
    (.value "worker_id, host e correlation_id são obrigatórios")
  let role ← orThrow (Role.ofText (H.unicode.lower a.role)) (.value "role/profile inválido")
  let profile ← orThrow (Profile.ofText (H.unicode.upper a.profile))
    (.value "role/profile inválido")
  let rulesSha := normalizeRulesSha H a.rulesSha
  require (rulesSha.all sha40) (.value "rules_sha inválido")
  bindInteger a.capacityScore
  let stamp := (env.clock 0).iso
  let new : Worker :=
    { workerId := strip a.workerId, host := strip a.host, role, profile,
      capacityScore := a.capacityScore, controllerVersion := a.controllerVersion, rulesSha,
      gatewayOk := a.gatewayOk, stateValidated := a.stateValidated,
      worktreeRoot := a.worktreeRoot, registeredAt := stamp, lastHeartbeatAt := stamp,
      correlationId := strip a.correlationId }
  let merge (old : Worker) : Worker := { new with registeredAt := old.registeredAt }
  return ({ s with workers := Table.upsert Worker.workerId new merge s.workers }, ())

/-- What a registration reports. -/
def registration (a : RegisterArgs) : Reported where
  profile := Profile.ofText (H.unicode.upper a.profile)
  gatewayOk := some a.gatewayOk
  stateValidated := some a.stateValidated

/-- What a heartbeat reports; the rest was reported before. -/
def beat (a : HeartbeatArgs) (old : Reported) : Reported where
  profile := if truthy a.profile then Profile.ofText (H.unicode.upper (a.profile.getD ""))
    else old.profile
  gatewayOk := a.gatewayOk.or old.gatewayOk
  stateValidated := a.stateValidated.or old.stateValidated

inductive Cmd
  | getWorker (workerId : String)
  | register (a : RegisterArgs)
  | heartbeat (a : HeartbeatArgs) (current : Worker)

abbrev Cmd.Ans : Cmd → Type
  | getWorker _ => Worker
  | register _ | heartbeat _ _ => Unit

def exec (_ : ℕ) : (op : Cmd) → Env → Database → Database × Except PoolError op.Ans
  | .getWorker workerId, _, d => (d, WorkerPool.getWorker workerId d.store)
  | .register a, e, d =>
    match registerWrite H e a d.store with
    | .ok (s, _) =>
      (⟨s, Function.update d.reported (strip a.workerId) (registration H a)⟩, .ok ())
    | .error x => (d, .error x)
  | .heartbeat a current, e, d =>
    match heartbeatWrite H e a current d.store with
    | .ok s =>
      (⟨s, Function.update d.reported a.workerId (beat H a (d.reported a.workerId))⟩, .ok ())
    | .error x => (d, .error x)

def machine : Machine Cmd.Ans PoolError Database Env where
  exec := exec H
  close _ d := d

abbrev Process := Program Cmd.Ans PoolError

/-- One command. -/
def run (op : Cmd) : Process op.Ans := .perform op

/-- `register_worker`. -/
def registerWorker (a : RegisterArgs) : Process Worker := do
  run (.register a)
  run (.getWorker a.workerId)

/-- `heartbeat_worker`. -/
def heartbeatWorker (a : HeartbeatArgs) : Process Worker := do
  let current ← run (.getWorker a.workerId)
  run (.heartbeat a current)
  run (.getWorker a.workerId)

inductive Request
  | register (a : RegisterArgs)
  | heartbeat (a : HeartbeatArgs)

def code : Request → Process Worker
  | .register a => registerWorker a
  | .heartbeat a => heartbeatWorker a

/-- The database and the calls running on it. -/
abbrev Processes := Pool Database (Process Worker)

/-- A move, with the outcome it delivers. -/
abbrev Step := Move Request Env × Option (Except PoolError Worker)

/-- Overlapping calls of several callers, starting on an empty database. -/
def sessions : TransitionSystem Processes Step :=
  Pool.interleaving ⟨Store.empty, fun _ ↦ {}⟩ code (machine H)

variable {H} {env : Env} {s s' : Store} {a : HeartbeatArgs}

/-! ### Without interference

The programs are the operations of the store, cut at their transactions. -/

section Alone

/-- What a program does alone, every command with the same surroundings. -/
def alone (H : Host) (env : Env) (p : Process Worker) (d : Database) :
    Option (Store × Except PoolError Reply) :=
  (p.runAlone (machine H) 0 [env, env, env] d).map fun x ↦ (x.1.store, x.2.map Reply.worker)

/-- The last command of both programs. -/
theorem alone_getWorker {es : List Env} (workerId : String) (d : Database) (env : Env) :
    ((run (.getWorker workerId)).runAlone (machine H) 0 (env :: es) d).map
        (fun x ↦ (x.1.store, x.2.map Reply.worker))
      = some (d.store, do return .worker (← WorkerPool.getWorker workerId d.store)) := by
  simp only [run, Program.perform, Program.runAlone, machine, exec]
  cases WorkerPool.getWorker workerId d.store <;> rfl

theorem registerWorker_alone (a : RegisterArgs) (d : Database) :
    alone H env (registerWorker a) d = some (WorkerPool.registerWorker H env a d.store) := by
  have heq : WorkerPool.registerWorker H env a d.store
      = transaction (registerWrite H env a d.store)
          (fun _ s' ↦ return .worker (← WorkerPool.getWorker a.workerId s')) d.store := rfl
  rw [heq]
  cases hwrite : registerWrite H env a d.store with
  | error x =>
    have hexec : exec H 0 (.register a) env d = (d, .error x) := by simp only [exec, hwrite]
    change Option.map _ ((Program.ofExcept (exec H 0 (.register a) env d).2 >>= _).runAlone _ _ _
      (exec H 0 (.register a) env d).1) = _
    rw [hexec]
    rfl
  | ok x =>
    obtain ⟨s₁, u⟩ := x
    have hexec : exec H 0 (.register a) env d
        = (⟨s₁, Function.update d.reported (strip a.workerId) (registration H a)⟩, .ok ()) := by
      simp only [exec, hwrite]
    change Option.map _ ((Program.ofExcept (exec H 0 (.register a) env d).2 >>=
      fun _ ↦ run (.getWorker a.workerId)).runAlone _ _ _ (exec H 0 (.register a) env d).1) = _
    rw [hexec]
    exact alone_getWorker _ _ env

theorem heartbeatWorker_alone (a : HeartbeatArgs) (d : Database) :
    alone H env (heartbeatWorker a) d = some (WorkerPool.heartbeatWorker H env a d.store) := by
  have heq : alone H env (heartbeatWorker a) d
      = ((Program.ofExcept (WorkerPool.getWorker a.workerId d.store) >>= fun current ↦
          run (.heartbeat a current) >>= fun _ ↦ run (.getWorker a.workerId)).runAlone (machine H) 0
            [env, env] d).map fun x ↦ (x.1.store, x.2.map Reply.worker) := rfl
  rw [heq, WorkerPool.heartbeatWorker]
  cases WorkerPool.getWorker a.workerId d.store with
  | error x => rfl
  | ok current =>
    change Option.map _ ((Program.ofExcept (exec H 0 (.heartbeat a current) env d).2 >>=
      fun _ ↦ run (.getWorker a.workerId)).runAlone _ _ _
        (exec H 0 (.heartbeat a current) env d).1) = _
    rw [ok_bind]
    cases hwrite : heartbeatWrite H env a current d.store with
    | error x =>
      have hexec : exec H 0 (.heartbeat a current) env d = (d, .error x) := by
        simp only [exec, hwrite]
      rw [hexec]
      rfl
    | ok s₁ =>
      have hexec : exec H 0 (.heartbeat a current) env d
          = (⟨s₁, Function.update d.reported a.workerId (beat H a (d.reported a.workerId))⟩,
            .ok ()) := by
        simp only [exec, hwrite]
      rw [hexec]
      exact alone_getWorker _ _ env

end Alone

/-! ## What is stored -/

/-- Each row has what was reported last for its worker. -/
def Faithful (d : Database) : Prop :=
  ∀ w ∈ d.store.workers, d.reported w.workerId = stored w

/-- The heartbeat is not refused for its profile. -/
def accepted (H : Host) (a : HeartbeatArgs) : Bool :=
  !truthy a.profile || (Profile.ofText (H.unicode.upper (a.profile.getD ""))).isSome

/-- What a heartbeat does not give, it has read as it is in the row. -/
structure Current (a : HeartbeatArgs) (read w : Worker) : Prop where
  profile : truthy a.profile = false → read.profile = w.profile
  gatewayOk : a.gatewayOk = none → read.gatewayOk = w.gatewayOk
  stateValidated : a.stateValidated = none → read.stateValidated = w.stateValidated

/-- **The condition.** A heartbeat writes while what it has read and writes back is still stored. -/
def UpToDate (H : Host) (d : Database) : ℕ × Cmd × Env → Prop
  | (_, .heartbeat a read, _) => accepted H a = true →
      ∀ w ∈ d.store.workers, w.workerId = a.workerId → Current a read w
  | _ => True

/-- The row after a heartbeat. -/
def written (a : HeartbeatArgs) (read : Worker) (profile : Profile) (env : Env) (old : Worker) :
    Worker :=
  { old with
    profile
    lastHeartbeatAt := (env.clock 0).iso
    gatewayOk := a.gatewayOk.getD read.gatewayOk
    stateValidated := a.stateValidated.getD read.stateValidated
    correlationId := a.correlationId }

theorem ofText_upper_text (H : Host) (profile : Profile) :
    Profile.ofText (H.unicode.upper profile.text) = some profile := by
  cases profile with
  | normal =>
    rw [H.unicode.upper_ascii _ (by decide)]
    decide
  | estudo =>
    rw [H.unicode.upper_ascii _ (by decide)]
    decide

/-- **The write of a heartbeat** that is not refused. -/
theorem heartbeatWrite_ok {read : Worker} (h : accepted H a = true) :
    ∃ profile, heartbeatWrite H env a read s
        = .ok { s with workers :=
            Table.update Worker.workerId a.workerId (written a read profile env) s.workers } ∧
      (truthy a.profile = true →
        Profile.ofText (H.unicode.upper (a.profile.getD "")) = some profile) ∧
      (truthy a.profile = false → profile = read.profile) := by
  cases htruthy : truthy a.profile with
  | false =>
    refine ⟨read.profile, ?_, fun h ↦ (by cases h), fun _ ↦ rfl⟩
    rw [heartbeatWrite, htruthy]
    simp only [Bool.false_eq_true, if_false]
    rw [ofText_upper_text]
    rfl
  | true =>
    rw [accepted, htruthy, Bool.not_true, Bool.false_or] at h
    obtain ⟨profile, hprofile⟩ := Option.isSome_iff_exists.mp h
    refine ⟨profile, ?_, fun _ ↦ hprofile, fun h ↦ (by cases h)⟩
    rw [heartbeatWrite, htruthy]
    simp only [if_true]
    rw [hprofile]
    rfl

theorem heartbeatWrite_error {read : Worker} (h : accepted H a = false) :
    heartbeatWrite H env a read s = .error (.value "profile inválido") := by
  rw [accepted, Bool.or_eq_false_iff, Bool.not_eq_false', Option.isSome_eq_false_iff,
    Option.isNone_iff_eq_none] at h
  rw [heartbeatWrite, h.1]
  simp only [if_true]
  rw [h.2]
  rfl

/-- The database after a heartbeat. -/
def beaten (H : Host) (env : Env) (a : HeartbeatArgs) (read : Worker) (profile : Profile)
    (d : Database) : Database where
  store :=
    { d.store with workers :=
        Table.update Worker.workerId a.workerId (written a read profile env) d.store.workers }
  reported := Function.update d.reported a.workerId (beat H a (d.reported a.workerId))

/-- **The exact effect of a heartbeat** on the invariant. -/
theorem faithful_beaten_iff {d : Database} {read : Worker} {profile : Profile} (h : Faithful d)
    (hgiven : truthy a.profile = true →
      Profile.ofText (H.unicode.upper (a.profile.getD "")) = some profile)
    (hread : truthy a.profile = false → profile = read.profile) :
    Faithful (beaten H env a read profile d) ↔
    ∀ w ∈ d.store.workers, w.workerId = a.workerId → Current a read w := by
  -- the row of the heartbeat, before and after
  have hrow : ∀ w ∈ d.store.workers, w.workerId = a.workerId →
      (beat H a (d.reported a.workerId) = stored (written a read profile env w) ↔
        Current a read w) := by
    intro w hw hid
    rw [← hid, h w hw]
    have hprofile : (if truthy a.profile then
        Profile.ofText (H.unicode.upper (a.profile.getD "")) else some w.profile) = some profile ↔
          (truthy a.profile = false → read.profile = w.profile) := by
      cases htruthy : truthy a.profile with
      | false => simp [hread htruthy, eq_comm]
      | true => simp [hgiven htruthy]
    have hflag : ∀ (given : Option Bool) (old new : Bool),
        given.or (some old) = some (given.getD new) ↔ (given = none → new = old) := by
      intro given old new
      cases given <;> simp [eq_comm]
    simp only [beat, stored, written, Reported.mk.injEq, hprofile, hflag]
    exact ⟨fun ⟨h₁, h₂, h₃⟩ ↦ ⟨h₁, h₂, h₃⟩, fun ⟨h₁, h₂, h₃⟩ ↦ ⟨h₁, h₂, h₃⟩⟩
  have hself : (beaten H env a read profile d).reported a.workerId
      = beat H a (d.reported a.workerId) := Function.update_self ..
  constructor
  · intro hfaithful w hw hid
    have hnew : (beaten H env a read profile d).reported w.workerId
        = stored (written a read profile env w) := hfaithful _ (Table.mem_update_self hw hid)
    rw [hid, hself] at hnew
    exact (hrow w hw hid).mp hnew
  · intro hcurrent w' hw'
    obtain ⟨hw, hne⟩ | ⟨w, hw, hid, rfl⟩ := Table.mem_update hw'
    · exact (Function.update_of_ne hne _ _).trans (h w' hw)
    · change (beaten H env a read profile d).reported w.workerId = _
      rw [hid, hself]
      exact (hrow w hw hid).mpr (hcurrent w hw hid)

/-- A registration writes a row with what it gives. -/
theorem registerWrite_ok {a : RegisterArgs} (h : registerWrite H env a s = .ok (s', ())) :
    ∃ new : Worker, stored new = registration H a ∧ new.workerId = strip a.workerId ∧
      s'.workers = Table.upsert Worker.workerId new
        (fun old ↦ { new with registeredAt := old.registeredAt }) s.workers := by
  simp only [registerWrite, require_bind_eq_ok, orThrow_bind_eq_ok, bindInteger] at h
  obtain ⟨-, role, -, profile, hprofile, -, -, h⟩ := h
  cases h
  exact ⟨_, by rw [stored, registration, hprofile], rfl, rfl⟩

theorem faithful_registered {d : Database} {a : RegisterArgs} (h : Faithful d)
    (hwrite : registerWrite H env a d.store = .ok (s', ())) :
    Faithful ⟨s', Function.update d.reported (strip a.workerId) (registration H a)⟩ := by
  obtain ⟨new, hnew, hid, hworkers⟩ := registerWrite_ok hwrite
  intro w hw
  have hw : w ∈ s'.workers := hw
  dsimp only
  have hold : w ∈ d.store.workers → w.workerId ≠ new.workerId →
      Function.update d.reported (strip a.workerId) (registration H a) w.workerId = stored w := by
    intro hw hne
    rw [Function.update_of_ne (hid ▸ hne)]
    exact h w hw
  have hself : ∀ w, w.workerId = new.workerId → stored w = stored new →
      Function.update d.reported (strip a.workerId) (registration H a) w.workerId = stored w := by
    intro w hw heq
    rw [hw, hid, Function.update_self, ← hnew, heq]
  rw [hworkers, Table.upsert] at hw
  split at hw
  · obtain ⟨hw, hne⟩ | ⟨old, -, -, rfl⟩ := Table.mem_update hw
    · exact hold hw hne
    · exact hself _ rfl rfl
  next hnone =>
    obtain hw | hw := List.mem_append.mp hw
    · exact hold hw (Table.ne_key_of_lookup_none (Option.not_isSome_iff_eq_none.mp hnone) hw)
    · exact List.mem_singleton.mp hw ▸ hself _ rfl rfl

/-- **A command** keeps the rows faithful exactly when it meets the condition. -/
theorem faithful_exec_iff {d : Database} (h : Faithful d) (i : ℕ) (op : Cmd) (e : Env) :
    Faithful (exec H i op e d).1 ↔ UpToDate H d (i, op, e) := by
  cases op with
  | getWorker workerId => exact iff_of_true h trivial
  | register a =>
    refine iff_of_true ?_ trivial
    rw [exec]
    split
    next s u hwrite => exact faithful_registered h hwrite
    next => exact h
  | heartbeat a read =>
    cases haccepted : accepted H a with
    | false =>
      rw [exec, heartbeatWrite_error haccepted]
      refine iff_of_true h fun htrue ↦ ?_
      rw [haccepted] at htrue
      cases htrue
    | true =>
      obtain ⟨profile, hwrite, hgiven, hread⟩ := @heartbeatWrite_ok _ e d.store _ read
        haccepted
      rw [exec, hwrite]
      refine (faithful_beaten_iff h hgiven hread).trans ?_
      rw [UpToDate, haccepted]
      exact ⟨fun hall _ ↦ hall, fun hall ↦ hall rfl⟩

/-! ## Readiness -/

/-- A worker that was reported as not validated does not pass `_ready`. -/
theorem not_ready {d : Database} (h : Faithful d) {workerId : String}
    (hreported : (d.reported workerId).stateValidated = some false) (cfg : Config)
    (now : DateTime) (role : Role) (w : Worker) :
    ready cfg now workerId role d.store ≠ .ok w := by
  intro hready
  rw [ready, orThrow_bind_eq_ok] at hready
  obtain ⟨row, hrow, hready⟩ := hready
  simp only [require_bind_eq_ok] at hready
  obtain ⟨-, -, ⟨-, hvalidated⟩, -⟩ := hready
  have hstored := h row (Table.mem_of_lookup hrow)
  rw [Table.key_of_lookup hrow] at hstored
  rw [hstored, stored, hvalidated] at hreported
  cases hreported

/-- **Readiness is not resurrected.** While every heartbeat writes back what is still stored, each
row has what was reported last for its worker, and a worker that was reported as not validated does
not pass `_ready`; and the first heartbeat that writes back something else breaks this. -/
theorem reports_kept (H : Host) {tr : List Step} {p : Processes}
    (h : ((sessions H).restrict fun p m ↦ ∀ x ∈ p.nextCall m.1, UpToDate H p.store x).Run tr p) :
    (Faithful p.store ∧ ∀ workerId, (p.store.reported workerId).stateValidated = some false →
      ∀ cfg now role w, ready cfg now workerId role p.store.store ≠ .ok w) ∧
    ∀ m p', (sessions H).step p m p' →
      (Faithful p'.store ↔ ∀ x ∈ p.nextCall m.1, UpToDate H p.store x) := by
  obtain ⟨hnow, hnext⟩ := Pool.invariant_iff (I := Faithful) (P := fun _ ↦ True)
    (fun _ hw ↦ by cases hw) (fun c ↦ Program.AllCalls.of_forall (fun _ ↦ trivial) _)
    (fun {s i op e} hI _ ↦ faithful_exec_iff hI i op e) (fun hI ↦ hI) h
  exact ⟨⟨hnow, fun workerId hreported cfg now role w ↦ not_ready hnow hreported cfg now role w⟩,
    hnext⟩

/-! ## Two small runs -/

/-- A heartbeat that withdraws the validation of the worker. -/
def sampleWithdrawal : HeartbeatArgs where
  workerId := "b"
  correlationId := "c"
  stateValidated := some false

/-- A heartbeat that gives nothing. -/
def sampleBeat : HeartbeatArgs where
  workerId := "b"
  correlationId := "c"

def sampleAdvance (i : ℕ) : Move Request Env := .advance i (sampleEnv "")

/-- The builder registers as validated. -/
def sampleStart : List (Move Request Env) :=
  [.start 0 (.register (sampleWorker "b" "builder")), sampleAdvance 0, sampleAdvance 0,
    .start 1 (.heartbeat sampleBeat), .start 2 (.heartbeat sampleWithdrawal)]

/-- The withdrawal, after the heartbeat that gives nothing. -/
def sampleSerial : List (Move Request Env) :=
  sampleStart ++ [1, 1, 1, 2, 2].map sampleAdvance

/-- The heartbeat that gives nothing reads before the withdrawal and writes after it. -/
def sampleOverlap : List (Move Request Env) :=
  sampleStart ++ [1, 2, 2, 1].map sampleAdvance

/-- The pool after some moves. -/
def sampleMoves (moves : List (Move Request Env)) : List Step × Processes :=
  TransitionSystem.runCalls (Pool.move code (machine sampleHost)) moves
    ⟨⟨Store.empty, fun _ ↦ {}⟩, fun _ ↦ none⟩

instance (H : Host) (d : Database) : ∀ x : ℕ × Cmd × Env, Decidable (UpToDate H d x)
  | (_, .heartbeat a read, _) => decidable_of_iff
      (accepted H a = true → ∀ w ∈ d.store.workers, w.workerId = a.workerId →
        (truthy a.profile = false → read.profile = w.profile) ∧
        (a.gatewayOk = none → read.gatewayOk = w.gatewayOk) ∧
        (a.stateValidated = none → read.stateValidated = w.stateValidated))
      ⟨fun h ha w hw hid ↦ ⟨(h ha w hw hid).1, (h ha w hw hid).2.1, (h ha w hw hid).2.2⟩,
        fun h ha w hw hid ↦ ⟨(h ha w hw hid).1, (h ha w hw hid).2, (h ha w hw hid).3⟩⟩
  | (_, .getWorker _, _) | (_, .register _, _) => .isTrue trivial

/-- The withdrawal stays. -/
theorem reports_kept_sample : (sampleMoves sampleSerial).2.store.reported "b"
      = ⟨some .normal, some true, some false⟩ ∧
    Faithful (sampleMoves sampleSerial).2.store := by
  have hrun : ((sessions sampleHost).restrict
      fun p m ↦ ∀ x ∈ p.nextCall m.1, UpToDate sampleHost p.store x).Run
      (sampleMoves sampleSerial).1 (sampleMoves sampleSerial).2 :=
    TransitionSystem.run_restrict_runCalls _ (by decide +kernel)
  exact ⟨by decide +kernel, (reports_kept sampleHost hrun).1.1⟩

/-- The validation that was withdrawn comes back. -/
theorem report_lost : ∃ tr p, (sessions sampleHost).Run tr p ∧
    (p.store.reported "b").stateValidated = some false ∧
    (ready sampleConfig .newYearNoon "b" .builder p.store.store).isOk = true :=
  ⟨_, (sampleMoves sampleOverlap).2, TransitionSystem.run_runCalls _ _ _, by decide +kernel,
    by decide +kernel⟩

end Reports

end WorkerPool

end ReqSys
