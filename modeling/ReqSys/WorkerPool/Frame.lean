import Mathlib
import ReqSys.WorkerPool.Refinement

/-!
# The worker pool: what the operations leave alone

Two frames. Apart from the calls that name a repository, no call changes the settings of a lane or
an affinity. And apart from `enqueue_task`, no call changes what was asked of a task, or adds one:
its intent is what `_assert_same_enqueue_intent` compares, together with the two keys.

The second follows from the first and the refinement. An act of the protocol keeps the intents, or
appends one; the number of tasks tells which.
-/

namespace ReqSys

namespace WorkerPool

variable {H : Host} {cfg : Config} {env : Env} {s s' : Store} {r : Except PoolError Reply}

/-! ## Settings -/

/-- What a lane is about. -/
def Lane.setting (r : Lane) : String × Bool × ℤ := (r.repository, r.enabled, r.maxInFlight)

/-- The settings of the lanes, and the affinities. -/
def Store.settings (s : Store) : List (String × Bool × ℤ) × List Affinity :=
  (s.lanes.map Lane.setting, s.affinities)

/-- Neither the settings nor the number of tasks changes. -/
structure Framed (s s' : Store) : Prop where
  settings : s'.settings = s.settings
  count : s'.tasks.length = s.tasks.length

theorem Framed.refl (s : Store) : Framed s s := ⟨rfl, rfl⟩

theorem Framed.trans {s₁ s₂ s₃ : Store} (h : Framed s₁ s₂) (h' : Framed s₂ s₃) : Framed s₁ s₃ :=
  ⟨h'.settings.trans h.settings, h'.count.trans h.count⟩

theorem writeTask_framed {t : Task} (h : writeTask t s = .ok s') : Framed s s' := by
  rw [writeTask_ok h]
  exact ⟨rfl, List.length_map _⟩

theorem updateTask_framed {tid : String} {f : Task → Task} (h : updateTask tid f s = .ok s') :
    Framed s s' := by
  rw [updateTask] at h
  split at h
  · cases h
    exact .refl s
  · exact writeTask_framed h

theorem quarantineTask_framed (row : Task) (reason stamp : String) (s : Store) :
    Framed s (quarantineTask H row reason stamp s) := ⟨rfl, rfl⟩

/-- A loop with framed turns. -/
theorem foldlM_framed {β : Type} (store : β → Store) {f : β → Task → Except PoolError β}
    (hturn : ∀ b row b', f b row = .ok b' → Framed (store b) (store b'))
    {rows : List Task} {b b' : β} (h : rows.foldlM f b = .ok b') : Framed (store b) (store b') := by
  induction rows generalizing b with
  | nil =>
    cases h
    exact .refl _
  | cons row rows ih =>
    rw [List.foldlM_cons, bind_eq_ok] at h
    obtain ⟨b₁, hf, h⟩ := h
    exact (hturn b row b₁ hf).trans (ih h)

theorem recover_framed {now : DateTime} {n : ℕ} (h : recover H env now s = .ok (s', n)) :
    Framed s s' := by
  rw [recover, bind_eq_ok] at h
  obtain ⟨s₁, hfold, h⟩ := h
  cases h
  refine foldlM_framed id (fun b row b' hturn ↦ ?_) hfold
  rw [recoverRow] at hturn
  refine Framed.trans ?_ (updateTask_framed hturn)
  split
  · exact quarantineTask_framed row _ _ b
  · exact .refl b

theorem recoverStalledRow_framed {stamp : String} {workers : List Worker}
    {b b' : Store × StallCounts} {row : Task}
    (h : recoverStalledRow H cfg env stamp workers b row = .ok b') : Framed b.1 b'.1 := by
  obtain ⟨s, n⟩ := b
  rw [recoverStalledRow] at h
  dsimp only at h
  split at h
  · rw [bind_eq_ok] at h
    obtain ⟨s₁, hwrite, h⟩ := h
    cases h
    exact (quarantineTask_framed row _ _ s).trans (updateTask_framed hwrite)
  · rw [bind_eq_ok] at h
    obtain ⟨alternative, -, h⟩ := h
    split at h
    all_goals
      rw [bind_eq_ok] at h
      obtain ⟨s₁, hwrite, h⟩ := h
      cases h
      exact updateTask_framed hwrite

theorem recoverStalled_framed {now : DateTime} {n : StallCounts}
    (h : recoverStalled H cfg env now s = .ok (s', n)) : Framed s s' := by
  rw [recoverStalled, bind_eq_ok] at h
  obtain ⟨rows, -, hfold⟩ := h
  exact foldlM_framed Prod.fst (fun _ _ _ ↦ recoverStalledRow_framed) hfold

theorem setting_bumpLane (role : Role) (stamp : String) (r : Lane) :
    (bumpLane role stamp r).setting = r.setting := by
  cases role <;> rfl

theorem grantLease_framed {a : ClaimArgs} {role : Role} {row : Task} {expires stamp : String}
    (h : grantLease env a role row expires stamp s = .ok s') : Framed s s' := by
  rw [grantLease, orThrow_bind_eq_ok] at h
  obtain ⟨t, -, h⟩ := h
  rw [bind_eq_ok] at h
  obtain ⟨s₁, hwrite, h⟩ := h
  cases h
  refine (writeTask_framed hwrite).trans ⟨?_, rfl⟩
  exact congrArg (·, s₁.affinities)
    (Table.map_update (setting_bumpLane role stamp) s₁.lanes)

theorem LeaseOutcome.framed {act : Act} {a : LeaseArgs} (h : LeaseOutcome H act a s s' r) :
    Framed s s' := by
  obtain ⟨⟨_, _, _, -, -, -, -, rfl⟩, -⟩ | ⟨rfl, -⟩ := h
  · exact ⟨rfl, List.length_map _⟩
  · exact .refl s'

/-- What a claim does before and after it has selected a task. -/
theorem claimTask_framed {a : ClaimArgs} (h : claimTask H cfg env a s = (s', r)) :
    Framed s s' := by
  rcases transaction_cases h with ⟨grant, hbody, -⟩ | ⟨rfl, -⟩
  · rw [orThrow_bind_eq_ok] at hbody
    obtain ⟨role, -, hbody⟩ := hbody
    rw [require_bind_eq_ok] at hbody
    obtain ⟨-, hbody⟩ := hbody
    rw [bind_eq_ok] at hbody
    obtain ⟨⟨s₁, n⟩, hrecover, hbody⟩ := hbody
    rw [bind_eq_ok] at hbody
    obtain ⟨⟨s₂, m⟩, hstalled, hbody⟩ := hbody
    rw [bind_eq_ok] at hbody
    obtain ⟨w, -, hbody⟩ := hbody
    refine ((recover_framed hrecover).trans (recoverStalled_framed hstalled)).trans ?_
    split at hbody
    · cases hbody
      exact .refl _
    · rw [orThrow_bind_eq_ok] at hbody
      obtain ⟨expires, -, hbody⟩ := hbody
      rw [bind_eq_ok] at hbody
      obtain ⟨s₃, hgrant, hbody⟩ := hbody
      cases hbody
      exact grantLease_framed hgrant
  · exact .refl s'

theorem transaction_framed {α : Type} {body : Except PoolError (Store × α)}
    {answer : α → Store → Except PoolError Reply} (h : transaction body answer s = (s', r))
    (hbody : ∀ a, body = .ok (s', a) → Framed s s') : Framed s s' := by
  obtain ⟨a, ha, -⟩ | ⟨rfl, -⟩ := transaction_cases h
  · exact hbody a ha
  · exact .refl s'

/-- The repositories that a call names. -/
def Op.repositories : Op → List String
  | .configureRepository a => [a.repository]
  | .enqueueTask a => [a.repository]
  | .replaceWorkerAffinities _ repositories => repositories
  | _ => []

/-- **The frame.** A call that names no repository keeps the settings and the number of tasks. -/
theorem exec_framed {c : Call} (h : exec H cfg c s = (s', r)) (hop : ∀ w rs,
      c.op ≠ .replaceWorkerAffinities w rs) (hnone : c.op.repositories = []) : Framed s s' := by
  obtain ⟨op, env⟩ := c
  cases op with
  | registerWorker a =>
    refine transaction_framed h fun u hbody ↦ ?_
    simp only [require_bind_eq_ok, orThrow_bind_eq_ok, bindInteger] at hbody
    obtain ⟨-, role, -, profile, -, -, -, hbody⟩ := hbody
    cases hbody
    exact ⟨rfl, rfl⟩
  | heartbeatWorker a =>
    refine transaction_framed h fun u hbody ↦ ?_
    rw [bind_eq_ok] at hbody
    obtain ⟨current, -, hbody⟩ := hbody
    rw [bind_eq_ok] at hbody
    obtain ⟨s₁, hwrite, hbody⟩ := hbody
    cases hbody
    rw [heartbeatWrite, orThrow_bind_eq_ok] at hwrite
    obtain ⟨profile, -, hwrite⟩ := hwrite
    cases hwrite
    exact ⟨rfl, rfl⟩
  | configureRepository a => cases hnone
  | replaceWorkerAffinities w rs => exact absurd rfl (hop w rs)
  | enqueueTask a => cases hnone
  | claimTask a => exact claimTask_framed h
  | renewLease a n => exact (renewLease_outcome (H := H) h).framed
  | startTask a => exact (startTask_outcome (H := H) h).framed
  | submitForValidation a sha => exact (submitForValidation_outcome h).framed
  | completeTask a => exact (completeTask_outcome (H := H) h).framed
  | failTask a reason => exact (failTask_outcome h).elim LeaseOutcome.framed LeaseOutcome.framed
  | blockTask a reason => exact (blockTask_outcome h).framed
  | requeueBlocked tid corr =>
    refine transaction_framed h fun u hbody ↦ ?_
    rw [orThrow_bind_eq_ok] at hbody
    obtain ⟨row, -, hbody⟩ := hbody
    rw [require_bind_eq_ok] at hbody
    obtain ⟨-, hbody⟩ := hbody
    rw [bind_eq_ok] at hbody
    obtain ⟨s₁, hwrite, hbody⟩ := hbody
    cases hbody
    exact updateTask_framed hwrite
  | recoverExpiredLeases => exact transaction_framed h fun n hbody ↦ recover_framed hbody
  | recoverStalledTasks => exact transaction_framed h fun n hbody ↦ recoverStalled_framed hbody

/-! ## Intents -/

/-- What was asked of a task, and its keys. -/
structure Intent where
  taskId : String
  idempotencyKey : String
  repository : String
  issueNumber : ℤ
  requestId : String
  priority : ℤ
  branch : String
  baseSha : Option String
  maxAttempts : ℤ
  deriving DecidableEq

def Task.intent (t : Task) : Intent where
  taskId := t.taskId
  idempotencyKey := t.idempotencyKey
  repository := t.repository
  issueNumber := t.issueNumber
  requestId := t.requestId
  priority := t.priority
  branch := t.branch
  baseSha := t.baseSha
  maxAttempts := t.maxAttempts

/-- The intents of the stored tasks. -/
def Store.intents (s : Store) : List Intent := s.tasks.map Task.intent

/-- The two unique keys of the tasks. -/
structure Store.Distinct (s : Store) : Prop where
  taskIds : (s.intents.map Intent.taskId).Nodup
  keys : (s.intents.map Intent.idempotencyKey).Nodup

theorem Store.Distinct.empty : Store.empty.Distinct := ⟨List.nodup_nil, List.nodup_nil⟩

theorem Store.Distinct.keyed (h : s.Distinct) : Table.Keyed Task.taskId s.tasks := by
  have hmap : s.intents.map Intent.taskId = s.tasks.map Task.taskId := List.map_map
  rw [Table.Keyed, ← hmap]
  exact h.taskIds

theorem Store.Distinct.of_intents (h : s.Distinct) (hs : s'.intents = s.intents) : s'.Distinct := by
  constructor
  · rw [hs]
    exact h.taskIds
  · rw [hs]
    exact h.keys

theorem nodup_map_concat {κ : Type} {key : Intent → κ} {row : Task}
    (h : (s.intents.map key).Nodup) (hfree : ∀ t ∈ s.tasks, key t.intent ≠ key row.intent)
    (htasks : s'.tasks = s.tasks ++ [row]) : (s'.intents.map key).Nodup := by
  rw [Store.intents, htasks, List.map_append, List.map_append]
  refine List.Nodup.append h (List.nodup_singleton _) fun k hk hk' ↦ ?_
  obtain ⟨i, hi, rfl⟩ := List.mem_map.mp hk
  obtain ⟨t, ht, rfl⟩ := List.mem_map.mp hi
  exact hfree t ht (List.mem_singleton.mp hk')

theorem Store.Distinct.concat {row : Task} (h : s.Distinct)
    (hid : ∀ t ∈ s.tasks, t.taskId ≠ row.taskId)
    (hkey : ∀ t ∈ s.tasks, t.idempotencyKey ≠ row.idempotencyKey)
    (htasks : s'.tasks = s.tasks ++ [row]) : s'.Distinct where
  taskIds := nodup_map_concat h.taskIds hid htasks
  keys := nodup_map_concat h.keys hkey htasks

/-- No act changes what was asked of a task. -/
theorem Change.intent_eq {act : Act} {t t' : Task} (h : Change H act t t') :
    t'.intent = t.intent := by
  cases act <;> simp only [Change] at h
  case claim =>
    obtain ⟨-, -, -, _, _, _, rfl⟩ := h
    rfl
  case renew =>
    obtain ⟨-, -, _, _, _, rfl⟩ := h
    rfl
  case start =>
    obtain ⟨-, -, _, _, rfl⟩ := h
    rfl
  case submit =>
    obtain ⟨-, -, -, -, _, _, rfl⟩ := h
    rfl
  case complete =>
    obtain ⟨-, -, -, -, _, _, rfl⟩ := h
    rfl
  case giveBack =>
    obtain ⟨-, -, _, _, _, _, rfl⟩ := h
    rfl
  case giveUp =>
    obtain ⟨-, -, _, _, _, _, rfl⟩ := h
    rfl
  case block =>
    obtain ⟨-, _, _, _, _, _, -, rfl⟩ := h
    rfl
  case requeue =>
    obtain ⟨-, _, _, rfl⟩ := h
    rfl

/-- **One act.** It keeps the intents, or appends one. -/
theorem Effect.intents_prefix {act : Act} (h : Effect H s act s')
    (hk : Table.Keyed Task.taskId s.tasks) : s.intents <+: s'.intents := by
  cases h with
  | setup => exact List.prefix_rfl
  | addLane => exact List.prefix_rfl
  | configure => exact List.prefix_rfl
  | enqueue _ _ _ =>
    rw [Store.intents, Store.intents, List.map_append]
    exact List.prefix_append _ _
  | @row _ tid t t' _ _ _ hrow hchange _ _ _ =>
    suffices hsame : (Table.update Task.taskId tid (fun _ ↦ t') s.tasks).map Task.intent
        = s.tasks.map Task.intent by
      rw [Store.intents, Store.intents, hsame]
    rw [Table.update, List.map_map]
    refine List.map_congr_left fun u hu ↦ ?_
    by_cases hid : u.taskId = tid
    · have hut : u = t := hk.eq_of_key_eq hu (Table.mem_of_lookup hrow)
        (hid.trans (Table.key_of_lookup hrow).symm)
      rw [Function.comp_apply, if_pos hid, hchange.intent_eq, hut]
    · rw [Function.comp_apply, if_neg hid]

theorem intents_prefix_of_path {acts : List Act} (h : (protocol H).Path s acts s')
    (hk : Table.Keyed Task.taskId s.tasks) : s.intents <+: s'.intents := by
  have hboth : Table.Keyed Task.taskId s'.tasks ∧ s.intents <+: s'.intents :=
    h.preserves (P := fun u ↦ Table.Keyed Task.taskId u.tasks ∧ s.intents <+: u.intents)
      (fun hu hstep ↦ ⟨Effect.keyed hstep hu.1, hu.2.trans (Effect.intents_prefix hstep hu.1)⟩)
      ⟨hk, List.prefix_rfl⟩
  exact hboth.2

/-- A call that is not `enqueue_task`. -/
def Op.isEnqueue : Op → Bool
  | .enqueueTask _ => true
  | _ => false

/-- Every call but one keeps the number of tasks. -/
theorem exec_count {c : Call} (hop : c.op.isEnqueue = false) (h : exec H cfg c s = (s', r)) :
    s'.tasks.length = s.tasks.length := by
  obtain ⟨op, env⟩ := c
  cases op with
  | configureRepository a =>
    rcases transaction_cases h with ⟨_, hbody, -⟩ | ⟨rfl, -⟩
    · rw [bind_eq_ok] at hbody
      obtain ⟨repository, -, hbody⟩ := hbody
      rw [require_bind_eq_ok] at hbody
      obtain ⟨-, hbody⟩ := hbody
      cases hbody
      rfl
    · rfl
  | replaceWorkerAffinities w rs =>
    have hinsert : ∀ (repositories : List String) k (u : Store),
        (insertAffinities env w k repositories u).tasks = u.tasks := by
      intro repositories
      induction repositories with
      | nil => exact fun _ _ ↦ rfl
      | cons repository rest ih => exact fun k u ↦ ih (k + 1) _
    rcases transaction_cases h with ⟨_, hbody, -⟩ | ⟨rfl, -⟩
    · rw [bind_eq_ok] at hbody
      obtain ⟨_, -, hbody⟩ := hbody
      rw [bind_eq_ok] at hbody
      obtain ⟨checked, -, hbody⟩ := hbody
      cases hbody
      rw [hinsert]
    · rfl
  | enqueueTask a => cases hop
  | _ => exact (exec_framed h (fun _ _ ↦ Op.noConfusion) rfl).count

/-- **The frame.** A call other than `enqueue_task` keeps the intents. -/
theorem exec_intents {c : Call} (hs : s.Distinct) (hop : c.op.isEnqueue = false)
    (h : exec H cfg c s = (s', r)) : s'.intents = s.intents := by
  obtain ⟨acts, hpath, -, -⟩ := exec_refines hs.keyed h
  have hlength : s'.intents.length = s.intents.length := by
    rw [Store.intents, Store.intents, List.length_map, List.length_map, exec_count hop h]
  exact ((intents_prefix_of_path hpath hs.keyed).eq_of_length hlength.symm).symm

/-- A call keeps the tasks apart, and forgets no intent. -/
theorem exec_distinct {c : Call} (hs : s.Distinct) (h : exec H cfg c s = (s', r)) :
    s'.Distinct ∧ s.intents <+: s'.intents := by
  obtain ⟨acts, hpath, -, -⟩ := exec_refines hs.keyed h
  refine ⟨?_, intents_prefix_of_path hpath hs.keyed⟩
  by_cases hop : c.op.isEnqueue = false
  · exact hs.of_intents (exec_intents hs hop h)
  · obtain ⟨op, env⟩ := c
    cases op with
    | enqueueTask a =>
      rcases transaction_cases h with ⟨_, hbody, -⟩ | ⟨rfl, -⟩
      · simp only [require_bind_eq_ok] at hbody
        obtain ⟨-, -, hbody⟩ := hbody
        rw [bind_eq_ok] at hbody
        obtain ⟨taskBranch, -, hbody⟩ := hbody
        rw [require_bind_eq_ok] at hbody
        obtain ⟨-, hbody⟩ := hbody
        rw [enqueueWrite] at hbody
        split at hbody
        · rw [require_bind_eq_ok] at hbody
          obtain ⟨-, hbody⟩ := hbody
          cases hbody
          exact hs.of_intents rfl
        · simp only [bindInteger, require_bind_eq_ok] at hbody
          obtain ⟨-, -, -, hbody⟩ := hbody
          rw [bind_eq_ok] at hbody
          obtain ⟨s₁, hinsert, hbody⟩ := hbody
          cases hbody
          simp only [insertTask, require_bind_eq_ok] at hinsert
          obtain ⟨hid, hkey, hinsert⟩ := hinsert
          cases hinsert
          exact hs.concat hid hkey rfl
      · exact hs
    | _ => exact absurd rfl hop

end WorkerPool

end ReqSys
