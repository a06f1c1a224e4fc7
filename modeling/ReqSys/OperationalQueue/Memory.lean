import Mathlib
import ReqSys.OperationalQueue.Tasks

/-!
# Operational queue: what the queue in memory conserves

The queue holds exactly the pending tasks, each once. A turn of `dequeue` that skips a task puts it
back at the end, so a `dequeue` that skips them all has turned the queue once around
(`turnos_cases`).

A task is pending when it is new, and again when an attempt failed with attempts left. That bounds
how often it is taken.
-/

namespace ReqSys

namespace OperationalQueue

namespace Memoria

/-! ## What the methods do to the tasks -/

variable {s : Memoria}

theorem taskId_of_get {taskId : String} {task : OperationalTask} (h : s.get taskId = some task) :
    task.taskId = taskId := Table.key_of_lookup h

theorem get_change {taskId : String} {f : OperationalTask → OperationalTask}
    (hf : ∀ t, (f t).taskId = t.taskId) (taskId' : String) :
    (s.change taskId f).get taskId'
      = if taskId' = taskId then (s.get taskId).map f else s.get taskId' :=
  Table.lookup_update (fun t ht ↦ (hf t).trans ht) s.tasks

theorem get_insere (task : OperationalTask) (taskId : String) :
    (s.insere task).get taskId = if taskId = task.taskId then some task else s.get taskId :=
  Table.lookup_upsert_const task s.tasks

theorem taskId_falha (base : ℕ) (error : String) (now : ℕ) (t : OperationalTask) :
    (falha base error now t).taskId = t.taskId := by
  rw [falha]
  split <;> rfl

theorem idempotencyKey_falha (base : ℕ) (error : String) (now : ℕ) (t : OperationalTask) :
    (falha base error now t).idempotencyKey = t.idempotencyKey := by
  rw [falha]
  split <;> rfl

/-- A pending task of this id is stored. -/
def Pendente (s : Memoria) (taskId : String) : Prop :=
  ∃ task, s.get taskId = some task ∧ task.status = .pending

/-! ## The loop of `dequeue` -/

/-- **What the loop can do**, on a queue of pending tasks: it turns the queue and returns nothing,
or it takes one task out of it. -/
theorem turnos_cases (now : ℕ) {n : ℕ} (hn : n ≤ s.queue.length) (hs : ∀ id ∈ s.queue, s.Pendente id) :
    s.turnos now n = ({ s with queue := s.queue.drop n ++ s.queue.take n }, none) ∨
      ∃ task queue, s.get task.taskId = some task ∧ task.status = .pending ∧
        (task.taskId :: queue).Perm s.queue ∧
        s.turnos now n
          = ({ s with queue }.change task.taskId fun t ↦ t.reservada now,
              some (task.reservada now)) := by
  induction n generalizing s with
  | zero =>
    left
    rw [turnos, List.drop_zero, List.take_zero, List.append_nil]
  | succ n ih =>
    obtain ⟨queue, tasks, index⟩ := s
    cases queue with
    | nil => cases hn
    | cons taskId rest =>
      obtain ⟨task, hget, hpending⟩ := hs taskId List.mem_cons_self
      have hid := taskId_of_get hget
      rw [turnos]
      simp only [hget, if_pos hpending]
      split
      · -- not due: the id goes to the end, and the loop goes on over the turned queue
        have hrest : n ≤ rest.length := by simpa using hn
        have hturned : ∀ id ∈ rest ++ [taskId],
            Pendente ⟨rest ++ [taskId], tasks, index⟩ id := by
          intro id hmem
          refine hs id ?_
          simpa [or_comm] using hmem
        obtain hnone | ⟨task', queue, hget', hpending', hperm, hsome⟩ :=
          ih (s := ⟨rest ++ [taskId], tasks, index⟩) (by simp; omega) hturned
        · left
          rw [hnone]
          simp only [List.drop_succ_cons, List.take_succ_cons, List.drop_append_of_le_length hrest,
            List.take_append_of_le_length hrest, List.append_assoc, List.singleton_append]
        · exact .inr ⟨task', queue, hget', hpending',
            hperm.trans (List.perm_append_singleton taskId rest), hsome⟩
      · subst hid
        exact .inr ⟨task, rest, hget, hpending, List.Perm.refl _, rfl⟩

theorem dequeue_cases (now : ℕ) (hs : ∀ id ∈ s.queue, s.Pendente id) :
    s.dequeue now = (s, none) ∨
      ∃ task queue, s.get task.taskId = some task ∧ task.status = .pending ∧
        (task.taskId :: queue).Perm s.queue ∧
        s.dequeue now
          = ({ s with queue }.change task.taskId fun t ↦ t.reservada now,
              some (task.reservada now)) := by
  have h := turnos_cases now (Nat.le_refl _) hs
  rwa [List.drop_length, List.take_length, List.nil_append] at h

end Memoria

/-! ## Conservation -/

/-- The invariant of the queue in memory. -/
structure Conservada (s : Memoria) : Prop where
  queue_nodup : s.queue.Nodup
  mem_queue : ∀ id, id ∈ s.queue ↔ s.Pendente id
  index : ∀ e ∈ s.idempotencyIndex, ∃ task, s.get e.2 = some task ∧ task.idempotencyKey = some e.1
  attempts : ∀ id task, s.get id = some task → (task.attempts : ℤ) ≤ max task.maxAttempts 1
  left : ∀ id task, s.get id = some task → task.status = .pending →
    task.attempts = 0 ∨ (task.attempts : ℤ) < task.maxAttempts

/-- The claim on a state: the queue is the pending tasks, the index is of stored tasks, and no task
was taken too often. -/
structure Conserva (s : Memoria) : Prop where
  once : ∀ id, s.Pendente id → s.queue.count id = 1
  only : ∀ id ∈ s.queue, s.Pendente id
  index : ∀ e ∈ s.idempotencyIndex, ∃ task, s.get e.2 = some task ∧ task.idempotencyKey = some e.1
  attempts : ∀ id task, s.get id = some task → (task.attempts : ℤ) ≤ max task.maxAttempts 1

theorem Conservada.conserva {s : Memoria} (h : Conservada s) : Conserva s where
  once id hid := List.count_eq_one_of_mem h.queue_nodup ((h.mem_queue id).mpr hid)
  only id hid := (h.mem_queue id).mp hid
  index := h.index
  attempts := h.attempts

namespace Conservada

variable {s : Memoria} {base now : ℕ}

theorem vazia : Conservada {} where
  queue_nodup := List.nodup_nil
  mem_queue _ := iff_of_false List.not_mem_nil fun ⟨_, h, _⟩ ↦ nomatch h
  index _ h := nomatch h
  attempts _ _ h := nomatch h
  left _ _ h := nomatch h

/-- One task changes, and the queue with it: what has to be shown of the new task and queue. -/
theorem change (h : Conservada s) {id : String} {task : OperationalTask} {queue : List String}
    {f : OperationalTask → OperationalTask} (hget : s.get id = some task)
    (hid : ∀ t, (f t).taskId = t.taskId) (hkey : ∀ t, (f t).idempotencyKey = t.idempotencyKey)
    (hnodup : queue.Nodup) (hothers : ∀ id', id' ≠ id → (id' ∈ queue ↔ id' ∈ s.queue))
    (hown : id ∈ queue ↔ (f task).status = .pending)
    (hattempts : ((f task).attempts : ℤ) ≤ max (f task).maxAttempts 1)
    (hleft : (f task).status = .pending →
      (f task).attempts = 0 ∨ ((f task).attempts : ℤ) < (f task).maxAttempts) :
    Conservada ({ s with queue }.change id f) := by
  have hnew : ∀ id', ({ s with queue }.change id f).get id'
      = if id' = id then some (f task) else s.get id' := by
    intro id'
    rw [Memoria.get_change hid]
    split
    · change (s.get id).map f = _
      rw [hget, Option.map_some]
    · rfl
  refine ⟨hnodup, fun id' ↦ ?_, fun e he ↦ ?_, fun id' t ht ↦ ?_, fun id' t ht ↦ ?_⟩
  · change id' ∈ queue ↔ ∃ t, _ = some t ∧ _
    rw [hnew]
    by_cases hid' : id' = id
    · subst hid'
      simp [hown]
    · rw [hothers id' hid', if_neg hid']
      exact h.mem_queue id'
  · obtain ⟨t, ht, htkey⟩ := h.index e he
    rw [hnew]
    split
    next heq =>
      rw [heq, hget] at ht
      cases ht
      exact ⟨f task, rfl, (hkey task).trans htkey⟩
    · exact ⟨t, ht, htkey⟩
  · rw [hnew] at ht
    split at ht
    · cases ht
      exact hattempts
    · exact h.attempts id' t ht
  · rw [hnew] at ht
    split at ht
    · cases ht
      exact hleft
    · exact h.left id' t ht

theorem dequeue (h : Conservada s) (now : ℕ) : Conservada (s.dequeue now).1 := by
  obtain hnone | ⟨task, queue, hget, hpending, hperm, hsome⟩ :=
    Memoria.dequeue_cases now fun id ↦ (h.mem_queue id).mp
  · rw [hnone]
    exact h
  · rw [hsome]
    have hnodup : (task.taskId :: queue).Nodup := hperm.nodup_iff.mpr h.queue_nodup
    obtain ⟨hnot, hnodup⟩ := List.nodup_cons.mp hnodup
    refine h.change hget (fun _ ↦ rfl) (fun _ ↦ rfl) hnodup (fun id' hid' ↦ ?_) ?_ ?_ ?_
    · rw [← hperm.mem_iff, List.mem_cons]
      exact (or_iff_right hid').symm
    · exact iff_of_false hnot fun h ↦ nomatch h
    · have hleft := h.left _ _ hget hpending
      change ((task.attempts + 1 : ℕ) : ℤ) ≤ max task.maxAttempts 1
      omega
    · exact fun h ↦ nomatch h

theorem enqueue (h : Conservada s) (nova : NovaTarefa) (hfresh : s.get nova.task.taskId = none) :
    Conservada (s.enqueue nova.task).1 := by
  rw [Memoria.enqueue]
  split
  next hnew =>
    have hget := fun id ↦ Memoria.get_insere (s := s) nova.task id
    have hnot : nova.task.taskId ∉ s.queue := by
      rw [h.mem_queue]
      rintro ⟨task, htask, -⟩
      rw [hfresh] at htask
      cases htask
    refine ⟨?_, fun id ↦ ?_, fun e he ↦ ?_, fun id t ht ↦ ?_, fun id t ht hpending ↦ ?_⟩
    · change (s.queue ++ [nova.task.taskId]).Nodup
      refine List.nodup_append.mpr ⟨h.queue_nodup, List.nodup_singleton _, fun a ha b hb hab ↦ ?_⟩
      exact hnot (List.mem_singleton.mp hb ▸ hab ▸ ha)
    · change id ∈ s.queue ++ [nova.task.taskId] ↔ ∃ t, _ = some t ∧ _
      rw [List.mem_append, List.mem_singleton, hget]
      by_cases hid : id = nova.task.taskId
      · simp [hid, nova.pending]
      · rw [if_neg hid, or_iff_left hid]
        exact h.mem_queue id
    · -- an entry of the index is an old one, of a task that is still there, or the new one
      have hold : e ∈ s.idempotencyIndex → ∃ t, (s.insere nova.task).get e.2 = some t ∧
          t.idempotencyKey = some e.1 := by
        intro he
        obtain ⟨t, ht, hkey⟩ := h.index e he
        have hne : e.2 ≠ nova.task.taskId := by
          intro heq
          rw [heq, hfresh] at ht
          cases ht
        rw [hget, if_neg hne]
        exact ⟨t, ht, hkey⟩
      rw [Memoria.insere] at he
      dsimp only at he
      split at he
      · exact hold he
      next key hkey =>
        rcases Table.mem_put he with he | rfl
        · exact hold he
        · refine ⟨nova.task, ?_, ?_⟩
          · rw [hget, if_pos rfl]
          · exact (Option.filter_eq_some_iff.mp hkey).1
    · rw [hget] at ht
      split at ht
      · cases ht
        rw [nova.attempts]
        omega
      · exact h.attempts id t ht
    · rw [hget] at ht
      split at ht
      · cases ht
        exact .inl nova.attempts
      · exact h.left id t ht hpending
  · split
    · exact h
    · split <;> exact h

/-- A running task is not in the queue. -/
theorem running (h : Conservada s) {taskId : String}
    (hrunning : (s.get taskId).any fun t ↦ t.status = .running) :
    ∃ task, s.get taskId = some task ∧ task.status = .running ∧ taskId ∉ s.queue := by
  cases hget : s.get taskId with
  | none =>
    rw [hget] at hrunning
    cases hrunning
  | some task =>
    rw [hget] at hrunning
    have hstatus : task.status = .running := of_decide_eq_true hrunning
    refine ⟨task, rfl, hstatus, fun hmem ↦ ?_⟩
    obtain ⟨task', hget', hpending⟩ := (h.mem_queue taskId).mp hmem
    rw [hget] at hget'
    cases hget'
    rw [hstatus] at hpending
    cases hpending

theorem complete (h : Conservada s) {taskId : String}
    (hrunning : (s.get taskId).any fun t ↦ t.status = .running) (result : Json) (now : ℕ) :
    Conservada (s.complete taskId result now).1 := by
  obtain ⟨task, hget, -, hnot⟩ := h.running hrunning
  simp only [Memoria.complete, hget]
  refine h.change hget (fun _ ↦ rfl) (fun _ ↦ rfl) h.queue_nodup (fun _ _ ↦ Iff.rfl) ?_ ?_ ?_
  · exact iff_of_false hnot fun h ↦ nomatch h
  · exact h.attempts taskId task hget
  · exact fun h ↦ nomatch h

theorem fail (h : Conservada s) {taskId : String}
    (hrunning : (s.get taskId).any fun t ↦ t.status = .running) (base : ℕ) (error : String)
    (now : ℕ) : Conservada (s.fail base taskId error now).1 := by
  obtain ⟨task, hget, -, hnot⟩ := h.running hrunning
  have hattempts := h.attempts taskId task hget
  simp only [Memoria.fail, hget]
  split
  next hlimit =>
    have hfalha : Memoria.falha base error now task = { task with
        lastError := some error, updatedAt := now, status := .deadLetter } := if_pos hlimit
    refine h.change hget (Memoria.taskId_falha base error now)
      (Memoria.idempotencyKey_falha base error now) h.queue_nodup (fun _ _ ↦ Iff.rfl) ?_ ?_ ?_
    all_goals rw [hfalha]
    · exact iff_of_false hnot fun h ↦ nomatch h
    · exact hattempts
    · exact fun h ↦ nomatch h
  next hlimit =>
    have hfalha : Memoria.falha base error now task = { task with
        lastError := some error
        updatedAt := now
        status := .pending
        nextAttemptAt := some (now + retryDelay base task.attempts) } := if_neg hlimit
    refine h.change hget (Memoria.taskId_falha base error now)
      (Memoria.idempotencyKey_falha base error now) ?_ (fun id' hid' ↦ ?_) ?_ ?_ ?_
    · refine List.nodup_append.mpr ⟨h.queue_nodup, List.nodup_singleton _, fun a ha b hb hab ↦ ?_⟩
      exact hnot (List.mem_singleton.mp hb ▸ hab ▸ ha)
    · rw [List.mem_append, List.mem_singleton, or_iff_left hid']
    all_goals rw [hfalha]
    · exact iff_of_true (List.mem_append_right _ List.mem_cons_self) rfl
    · exact hattempts
    · exact fun _ ↦ .inr (not_le.mp hlimit)

/-- **One call.** -/
theorem exec (h : Conservada s) (base : ℕ) {c : Chamada} (hc : c.Permitida s) :
    Conservada (s.exec base c).1 := by
  cases c with
  | enqueue nova => exact h.enqueue nova hc
  | dequeue now => exact h.dequeue now
  | complete taskId result now => exact h.complete hc result now
  | fail taskId error now => exact h.fail hc base error now

end Conservada

theorem conservada_of_run {base : ℕ}
    {tr : List (Chamada × Except Erro (Option OperationalTask))} {s : Memoria}
    (h : (emMemoria base).Run tr s) : Conservada s := by
  refine TransitionSystem.Run.invariant (T := emMemoria base) (fun hinit ↦ ?_)
    (fun {s a s'} hs hstep ↦ ?_) h
  · rw [show _ = _ from hinit]
    exact .vazia
  · obtain ⟨hc, hexec⟩ := hstep
    have hstate : s' = (s.exec base a.1).1 := (congrArg Prod.fst hexec).symm
    rw [hstate]
    exact hs.exec base hc

def sampleTask (taskId key : String) : NovaTarefa where
  task :=
    { taskType := .generic
      payload := []
      correlationId := "corr-1"
      idempotencyKey := some key
      maxAttempts := 1
      taskId := taskId }
  pending := rfl
  attempts := rfl
  nextAttemptAt := rfl

/-- Two tasks are added, one of them twice; the first is taken and fails for good. -/
def sampleMemoria : Memoria :=
  (TransitionSystem.runCalls (Memoria.exec 0)
    [.enqueue (sampleTask "t-1" "k-1"), .enqueue (sampleTask "t-2" "k-2"),
      .enqueue (sampleTask "t-3" "k-1"), .dequeue 5, .fail "t-1" "erro" 6] {}).2

end OperationalQueue

end ReqSys
