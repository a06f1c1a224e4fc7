import Mathlib
import ReqSys.Foundation.Obligations
import ReqSys.Orchestrator.Actions

/-!
# Orchestrator: success has evidence

An execution stores `succeeded` first and the evidence afterwards, and looks at the status only when
it starts. A crash in between leaves a success without evidence, which no later execution mends
since it returns early; and an execution that overlaps with another one, or whose evidence cannot be
stored, takes the status back.

`succeeded_final` says when a success has its evidence and lasts. To store `succeeded` triggers an
obligation in the sense of `Program.Obliges`, and the evidence meets it.
-/

namespace ReqSys

namespace Orchestrator

open Program

/-- Evidence that the action was ready. -/
def EvidenceRecord.Comprova (x : EvidenceRecord) (actionId : String) : Prop :=
  x.actionId = actionId ∧ x.kind = "readiness" ∧ x.status = "ready"

instance (x : EvidenceRecord) (actionId : String) : Decidable (x.Comprova actionId) :=
  inferInstanceAs (Decidable (_ ∧ _))

/-- There is evidence for the action. -/
def Banco.Comprovada (s : Banco) (actionId : String) : Prop :=
  ∃ x ∈ s.evidence, x.Comprova actionId

/-! ## The obligation -/

/-- A call that writes no status. -/
def Cmd.SemStatus : Cmd → Prop
  | updateStatus _ _ _ _ => False
  | _ => True

/-- The action has become `succeeded`. -/
def Encerra (actionId : String) : (op : Cmd) → Except Erro op.Ans → Prop
  | .updateStatus id status _ _, .ok a => id = actionId ∧ status = .succeeded ∧ a.actionId = actionId
  | _, _ => False

/-- The answer is evidence for the action. -/
def Comprova (actionId : String) : (op : Cmd) → Except Erro op.Ans → Prop
  | .selectEvidenceByKey _, .ok (some x) => x.Comprova actionId
  | .insertEvidence record, .ok _ => record.Comprova actionId
  | _, _ => False

/-- The answers that an execution gets from then on. -/
def Possivel (actionId : String) : (op : Cmd) → Except Erro op.Ans → Prop
  | .utcNow, r => ∃ now, r = .ok now
  | .selectEvidenceByKey _, r => ∃ o, r = .ok o ∧ ∀ x ∈ o, x.Comprova actionId
  | .insertEvidence record, r => r = .ok record
  | _, _ => True

/-- The manifest that is read has safe references. -/
def Cabe (cfg : Config) : (op : Cmd) → Except Erro op.Ans → Prop
  | .lerManifesto _, .ok leitura => ∀ manifest, leitura = .lido (.obj manifest) →
      Manifesto.ReferenciasSeguras cfg manifest
  | _, _ => True

section Programs

variable {cfg : Config} {α : Type}

/-- A call that does not make an action `succeeded`, whatever the answer is. -/
def Cmd.NaoEncerra (op : Cmd) : Prop := ∀ id r, ¬Encerra id op r

/-- The programs take on their obligations. -/
abbrev Cumpre (cfg : Config) (Q : α → Prop) (p : Processo α) : Prop :=
  p.Obliges (Cabe cfg) Encerra Possivel Comprova (fun _ ↦ Cmd.SemStatus) Q

theorem appendEvidence_obliged {action : OperationalAction} {actionId source : String}
    {payload : Json} (hid : action.actionId = actionId) (hsafe : Safe cfg payload) :
    (appendEvidence cfg action "readiness" "ready" source payload).Obliged (Possivel actionId)
      (Comprova actionId) Cmd.SemStatus fun _ ↦ True := by
  rw [appendEvidence, hsafe]
  refine Obliged.perform_bind trivial fun r hr ↦ ?_
  obtain ⟨now, rfl⟩ := hr
  refine ⟨now, rfl, .inr ?_⟩
  refine Obliged.perform_bind trivial fun r hr ↦ ?_
  obtain ⟨o, rfl, ho⟩ := hr
  refine ⟨o, rfl, ?_⟩
  cases o with
  | some x => exact .inl ⟨ho x rfl, _, rfl, trivial⟩
  | none =>
    refine .inr (Obliged.perform_bind trivial fun r hr ↦ ?_)
    obtain rfl : r = _ := hr
    exact ⟨_, rfl, .inl ⟨⟨hid, rfl, rfl⟩, _, rfl, trivial⟩⟩

theorem setActionStatus_calls {actionId : String} {status : Status} (increment : Bool)
    (h : status ≠ .succeeded) : (setActionStatus actionId status increment).AllCalls Cmd.NaoEncerra := by
  refine AllCalls.bind (.perform fun _ _ h ↦ h) fun now ↦ ?_
  refine AllCalls.bind (.perform fun _ _ h ↦ h) fun o ↦ ?_
  cases o with
  | none => exact .raise _
  | some row =>
    refine .perform fun id r hr ↦ ?_
    cases r with
    | ok a => exact h hr.2.1
    | error x => exact hr

theorem appendEvidence_calls (cfg : Config) (action : OperationalAction)
    (kind status source : String) (payload : Json) :
    (appendEvidence cfg action kind status source payload).AllCalls Cmd.NaoEncerra := by
  refine AllCalls.bind (.ofExcept _) fun _ ↦ AllCalls.bind (.perform fun _ _ h ↦ h) fun now ↦ ?_
  refine AllCalls.bind (.perform fun _ _ h ↦ h) fun o ↦ ?_
  cases o with
  | some x => exact .ret _
  | none => exact AllCalls.bind (.perform fun _ _ h ↦ h) fun _ ↦ .ret _

theorem enqueue_calls (cfg : Config) (x : Intent) (material : Json) :
    (enqueue cfg x material).AllCalls Cmd.NaoEncerra := by
  refine AllCalls.bind (.ofExcept _) fun _ ↦ AllCalls.bind (.ofExcept _) fun _ ↦ ?_
  refine AllCalls.bind (.perform fun _ _ h ↦ h) fun now ↦ ?_
  refine AllCalls.bind (.perform fun _ _ h ↦ h) fun o ↦ ?_
  cases o with
  | some existing =>
    dsimp only
    split
    · exact .ret _
    · exact .raise _
  | none =>
    refine AllCalls.bind (.ofExcept _) fun action ↦ ?_
    exact AllCalls.bind (.perform fun _ _ h ↦ h) fun _ ↦ .ret _

/-- What is read of the manifest is assessed. -/
theorem readiness_meets (cfg : Config) (o : Orquestrador) :
    (o.readiness cfg).Meets (Cabe cfg) Cmd.NaoEncerra fun a ↦ Safe cfg a.toJson := by
  refine Meets.bind (Q := fun leitura ↦ ∀ manifest, leitura = .lido (.obj manifest) →
    Manifesto.ReferenciasSeguras cfg manifest) (.perform (fun _ _ h ↦ h) fun leitura h ↦ ?_) fun leitura hleitura ↦ ?_
  · exact h
  · cases hx : Orchestrator.readiness cfg o.manifestPath leitura o.environ with
    | ok a => exact safe_of_readiness hx hleitura
    | error x => exact trivial

/-- **The body of an execution.** After the terminal status it appends the evidence. -/
theorem avaliar_cumpre (cfg : Config) (o : Orquestrador) (actionId : String)
    (action : OperationalAction) : Cumpre cfg (fun _ ↦ True) (avaliar cfg o actionId action) := by
  rw [avaliar]
  split
  · refine Obliges.meets_bind (readiness_meets cfg o) fun a ha ↦ ?_
    cases hstatus : a.status with
    | blocked =>
      exact Obliges.of_allCalls ((setActionStatus_calls false (by decide)).bind fun _ ↦
        (appendEvidence_calls ..).bind fun _ ↦ .ret _)
    | ready =>
      rw [setActionStatus, Program.bind_assoc]
      refine Obliges.perform_bind (fun _ _ h ↦ h) fun now _ ↦ ⟨fun _ h ↦ False.elim h, ?_⟩
      rw [Program.bind_assoc]
      refine Obliges.perform_bind (fun _ _ h ↦ h) fun row _ ↦ ⟨fun _ h ↦ False.elim h, ?_⟩
      cases row with
      | none => exact trivial
      | some row =>
        refine Obliges.perform_bind (fun _ _ h ↦ h) fun row _ ↦ ⟨fun id hid ↦ ?_, ?_⟩
        · exact (appendEvidence_obliged hid.2.2 ha).bind fun _ _ ↦ ⟨_, rfl, trivial⟩
        · exact Obliges.of_allCalls ((appendEvidence_calls ..).bind fun _ ↦ .ret _)
  · trivial

/-- **An execution.** -/
theorem execute_cumpre (cfg : Config) (o : Orquestrador) (actionId : String) (confirm : Bool) :
    Cumpre cfg (fun _ ↦ True) (execute cfg o actionId confirm) := by
  refine Obliges.perform_bind (fun _ _ h ↦ h) fun action _ ↦ ⟨fun _ h ↦ False.elim h, ?_⟩
  cases action with
  | none => exact trivial
  | some action =>
    dsimp only
    split
    · exact Obliges.of_allCalls (AllCalls.bind (.perform fun _ _ h ↦ h) fun _ ↦ .ret _)
    · split
      · trivial
      · split
        · trivial
        · split
          · trivial
          · refine Obliges.meets_bind (.of_allCalls (setActionStatus_calls true (by decide)))
              fun action _ ↦ ?_
            refine (avaliar_cumpre cfg o actionId action).attempt.bind (fun r ↦ ?_) ?_
            · cases r with
              | ok resposta => exact trivial
              | error x =>
                exact Obliges.of_allCalls
                  ((setActionStatus_calls false (by decide)).bind fun _ ↦ .raise x)
            · rintro _ ⟨resposta, rfl, -⟩
              exact ⟨resposta, rfl, trivial⟩

theorem code_cumpre (cfg : Config) (pedido : Pedido) :
    Cumpre cfg (fun _ ↦ True) (code cfg pedido) := by
  cases pedido with
  | execute o actionId confirm => exact execute_cumpre cfg o actionId confirm
  | enqueueReadinessCheck o sha branch project repository =>
    refine Obliges.of_allCalls (AllCalls.bind (.perform fun _ _ h ↦ h) fun leitura ↦ ?_)
    exact AllCalls.bind (.ofExcept _) fun manifest ↦ (enqueue_calls ..).bind fun _ ↦ .ret _
  | ingestWorkflowRun workflowRun project environment =>
    change Cumpre cfg _ (ingestWorkflowRun ..)
    rw [ingestWorkflowRun]
    split
    · trivial
    · split
      · trivial
      · exact Obliges.of_allCalls ((enqueue_calls ..).bind fun _ ↦ .ret _)

/-- A new action is not `succeeded`. -/
def Cmd.NovaAberta : Cmd → Prop
  | insertAction action => action.status ≠ .succeeded
  | _ => True

theorem newAction_status {x : Intent} {key now : String} {action : OperationalAction}
    (h : newAction cfg x key now = .ok action) : action.status ≠ .succeeded := by
  obtain ⟨branch, -, h⟩ := bind_eq_ok.mp h
  obtain ⟨sha, -, h⟩ := bind_eq_ok.mp h
  cases h
  change x.risk.initialStatus ≠ .succeeded
  cases x.risk <;> decide

theorem enqueue_novas (cfg : Config) (x : Intent) (material : Json) :
    (enqueue cfg x material).AllCalls Cmd.NovaAberta := by
  refine AllCalls.bind (.ofExcept _) fun _ ↦ AllCalls.bind (.ofExcept _) fun _ ↦ ?_
  refine AllCalls.bind (.perform trivial) fun now ↦ AllCalls.bind (.perform trivial) fun o ↦ ?_
  cases o with
  | some existing =>
    dsimp only
    split
    · exact .ret _
    · exact .raise _
  | none =>
    refine AllCalls.ofExcept_bind fun action haction ↦ ?_
    exact AllCalls.bind (.perform (newAction_status haction)) fun _ ↦ .ret _

theorem setActionStatus_novas (actionId : String) (status : Status) (increment : Bool) :
    (setActionStatus actionId status increment).AllCalls Cmd.NovaAberta := by
  refine AllCalls.bind (.perform trivial) fun now ↦ AllCalls.bind (.perform trivial) fun o ↦ ?_
  cases o with
  | none => exact .raise _
  | some row => exact .perform trivial

theorem appendEvidence_novas (cfg : Config) (action : OperationalAction)
    (kind status source : String) (payload : Json) :
    (appendEvidence cfg action kind status source payload).AllCalls Cmd.NovaAberta := by
  refine AllCalls.bind (.ofExcept _) fun _ ↦ AllCalls.bind (.perform trivial) fun now ↦ ?_
  refine AllCalls.bind (.perform trivial) fun o ↦ ?_
  cases o with
  | some x => exact .ret _
  | none => exact AllCalls.bind (.perform trivial) fun _ ↦ .ret _

theorem code_novas (cfg : Config) (pedido : Pedido) :
    (code cfg pedido).AllCalls Cmd.NovaAberta := by
  cases pedido with
  | enqueueReadinessCheck o sha branch project repository =>
    refine AllCalls.bind (.perform trivial) fun leitura ↦ AllCalls.bind (.ofExcept _) fun _ ↦ ?_
    exact (enqueue_novas ..).bind fun _ ↦ .ret _
  | ingestWorkflowRun workflowRun project environment =>
    change (ingestWorkflowRun ..).AllCalls _
    rw [ingestWorkflowRun]
    split
    · exact .ret _
    · split
      · exact .ret _
      · exact (enqueue_novas ..).bind fun _ ↦ .ret _
  | execute o actionId confirm =>
    refine AllCalls.bind (.perform trivial) fun action ↦ ?_
    cases action with
    | none => exact .raise _
    | some action =>
      dsimp only
      split
      · exact AllCalls.bind (.perform trivial) fun _ ↦ .ret _
      · split
        · exact .ret _
        · split
          · exact .ret _
          · split
            · exact .ret _
            · refine (setActionStatus_novas ..).bind fun action ↦ AllCalls.bind ?_ fun r ↦ ?_
              · refine AllCalls.attempt ?_
                rw [avaliar]
                split
                · refine AllCalls.bind (AllCalls.bind (.perform trivial) fun _ ↦ .ofExcept _)
                    fun a ↦ (setActionStatus_novas ..).bind fun row ↦ ?_
                  exact (appendEvidence_novas ..).bind fun _ ↦ .ret _
                · exact .raise _
              · cases r with
                | ok resposta => exact .ret _
                | error x => exact (setActionStatus_novas ..).bind fun _ ↦ .raise x

end Programs

/-! ## One call -/

section Calls

variable {i : ℕ} {op : Cmd} {e : Env} {s : Banco} {actionId : String}

theorem gravado_actionId (a : OperationalAction) (status : Status) (attempts : ℕ) (now : String) :
    (a.gravado status attempts now).actionId = a.actionId := rfl

/-- A call gets through, or changes nothing. -/
theorem exec_forms (i : ℕ) (op : Cmd) (e : Env) (s : Banco) :
    exec i op e s = efeito i op e s ∨
      ∃ mensagem, e.falha = some mensagem ∧ exec i op e s = (s, .error (.externo mensagem)) := by
  rw [exec]
  split
  next mensagem hfalha _ => exact .inr ⟨mensagem, hfalha, rfl⟩
  next => exact .inl rfl

/-- **What a call does to the status of an action.** -/
theorem status_exec (i : ℕ) (op : Cmd) (e : Env) (s : Banco) (actionId : String) :
    (exec i op e s).1.status actionId = s.status actionId ∨
    (∃ status attempts now, op = .updateStatus actionId status attempts now ∧
      (exec i op e s).1.status actionId = some status ∧
      (status = .succeeded → (i, actionId) ∈ (exec i op e s).1.abertas)) ∨
    ∃ action, op = .insertAction action ∧ s.status actionId = none ∧
      (exec i op e s).1.status actionId = some action.status := by
  obtain hexec | ⟨mensagem, -, hexec⟩ := exec_forms i op e s
  all_goals rw [hexec]
  swap
  · exact .inl rfl
  cases op with
  | updateStatus id status attempts now =>
    rw [efeito]
    split
    · exact .inl rfl
    next a ha =>
      have hlookup : Table.lookup OperationalAction.actionId actionId
          (Table.update OperationalAction.actionId id (·.gravado status attempts now) s.actions)
          = if actionId = id then (s.action id).map (·.gravado status attempts now)
            else s.action actionId :=
        Table.lookup_update (fun x hx ↦ (gravado_actionId x ..).trans hx) s.actions
      by_cases hid : actionId = id
      · subst hid
        rw [if_pos rfl, ha] at hlookup
        refine .inr (.inl ⟨status, attempts, now, rfl, ?_, fun hsucceeded ↦ ?_⟩)
        · exact congrArg (Option.map OperationalAction.status) hlookup
        · dsimp only
          rw [if_pos hsucceeded]
          exact List.mem_cons_self
      · rw [if_neg hid] at hlookup
        exact .inl (congrArg (Option.map OperationalAction.status) hlookup)
  | insertAction action =>
    rw [efeito]
    split
    · exact .inl rfl
    · have hlookup : Table.lookup OperationalAction.actionId actionId (s.actions ++ [action])
          = (s.action actionId).or (if action.actionId = actionId then some action else none) :=
        Table.lookup_concat action s.actions
      cases hold : s.action actionId with
      | some a =>
        rw [hold, Option.some_or] at hlookup
        left
        rw [Banco.status, Banco.action, hlookup, Banco.status, hold]
      | none =>
        rw [hold, Option.none_or] at hlookup
        by_cases hid : action.actionId = actionId
        · rw [if_pos hid] at hlookup
          exact .inr (.inr ⟨action, rfl, congrArg (Option.map OperationalAction.status) hold,
            congrArg (Option.map OperationalAction.status) hlookup⟩)
        · rw [if_neg hid] at hlookup
          left
          rw [Banco.status, Banco.action, hlookup, Banco.status, hold]
  | insertEvidence record =>
    rw [efeito]
    split <;> exact .inl rfl
  | _ => exact .inl rfl

/-- Evidence is only added, by its own call. -/
theorem evidence_exec (i : ℕ) (op : Cmd) (e : Env) (s : Banco) :
    (exec i op e s).1.evidence = s.evidence ∨ ∃ record, op = .insertEvidence record ∧
      (exec i op e s).1.evidence = s.evidence ++ [record] := by
  obtain hexec | ⟨mensagem, -, hexec⟩ := exec_forms i op e s
  all_goals rw [hexec]
  swap
  · exact .inl rfl
  cases op with
  | insertEvidence record =>
    rw [efeito]
    split
    · exact .inl rfl
    · exact .inr ⟨record, rfl, rfl⟩
  | updateStatus | insertAction =>
    rw [efeito]
    split <;> exact .inl rfl
  | _ => exact .inl rfl

theorem comprovada_exec (h : s.Comprovada actionId) : (exec i op e s).1.Comprovada actionId := by
  obtain ⟨x, hx, hcomprova⟩ := h
  refine ⟨x, ?_, hcomprova⟩
  obtain heq | ⟨record, -, heq⟩ := evidence_exec i op e s
  · rw [heq]
    exact hx
  · rw [heq]
    exact List.mem_append_left _ hx

/-- Evidence that is answered is stored. -/
theorem comprovada_of_answer (h : Comprova actionId op (exec i op e s).2) :
    (exec i op e s).1.Comprovada actionId := by
  obtain hexec | ⟨mensagem, -, hexec⟩ := exec_forms i op e s
  all_goals rw [hexec] at h ⊢
  swap
  · cases op <;> exact h.elim
  cases op with
  | selectEvidenceByKey key =>
    rw [efeito] at h ⊢
    cases hlookup : Table.lookup EvidenceRecord.idempotencyKey key s.evidence with
    | none =>
      rw [hlookup] at h
      exact h.elim
    | some x =>
      rw [hlookup] at h
      exact ⟨x, Table.mem_of_lookup hlookup, h⟩
  | insertEvidence record =>
    rw [efeito] at h ⊢
    split at h
    · exact h.elim
    next hnew =>
      rw [if_neg hnew]
      exact ⟨record, List.mem_append_right _ List.mem_cons_self, h⟩
  | _ => exact h.elim

/-- Executions are opened by the call that stores `succeeded`. -/
theorem abertas_exec {j : ℕ} (h : (j, actionId) ∈ (exec i op e s).1.abertas) :
    (j, actionId) ∈ s.abertas ∨ (j = i ∧ Encerra actionId op (exec i op e s).2) := by
  obtain hexec | ⟨mensagem, -, hexec⟩ := exec_forms i op e s
  all_goals rw [hexec] at h ⊢
  swap
  · exact .inl h
  cases op with
  | updateStatus id status attempts now =>
    rw [efeito] at h ⊢
    split at h
    · exact .inl h
    next a ha =>
      dsimp only at h
      split at h
      next hsucceeded =>
        obtain heq | hold := List.mem_cons.mp h
        · cases heq
          have hid : a.actionId = actionId := Table.key_of_lookup ha
          exact .inr ⟨rfl, rfl, hsucceeded, hid⟩
        · exact .inl hold
      next => exact .inl h
  | insertAction | insertEvidence =>
    rw [efeito] at h
    split at h <;> exact .inl h
  | _ => exact .inl h

/-- An open execution stays open as long as its process runs. -/
theorem abertas_subset {x : ℕ × String} (h : x ∈ s.abertas) : x ∈ (exec i op e s).1.abertas := by
  obtain hexec | ⟨mensagem, -, hexec⟩ := exec_forms i op e s
  all_goals rw [hexec]
  swap
  · exact h
  cases op with
  | updateStatus id status attempts now =>
    rw [efeito]
    split
    · exact h
    · dsimp only
      split
      · exact List.mem_cons_of_mem _ h
      · exact h
  | insertAction | insertEvidence =>
    rw [efeito]
    split <;> exact h
  | _ => exact h

end Calls

/-! ## Whole runs -/

/-- The condition on a call. A status other than `succeeded` is not stored over the success of
another execution. The manifests that are read have safe references. From the success on, the calls
of an execution do not fail, and what they find in the ledger is evidence of this action. -/
def Regular (cfg : Config) (s : Banco) : ℕ × Cmd × Env → Prop
  | (i, op, e) =>
    (∀ actionId status attempts now, op = .updateStatus actionId status attempts now →
      status ≠ .succeeded → s.status actionId = some .succeeded → (i, actionId) ∈ s.abertas) ∧
    (∀ manifest, e.manifesto = .lido (.obj manifest) →
      Manifesto.ReferenciasSeguras cfg manifest) ∧
    ∀ actionId, (i, actionId) ∈ s.abertas → e.falha = none ∧ match op with
      | .selectEvidenceByKey key => ∀ x ∈
          Table.lookup EvidenceRecord.idempotencyKey key s.evidence, x.Comprova actionId
      | .insertEvidence record => s.evidence.any record.colide = false
      | _ => True

/-- The condition on a move. No process crashes between the success that it stores and the evidence,
unless another execution of the action is to append it. -/
def Segura (cfg : Config) (p : Processos) (m : Move Pedido Env) : Prop :=
  (∀ x ∈ p.nextCall m, Regular cfg p.store x) ∧
    ∀ i, m = .crash i → ∀ actionId, (i, actionId) ∈ p.store.abertas →
      p.store.Comprovada actionId ∨ ∃ j, j ≠ i ∧ (j, actionId) ∈ p.store.abertas

/-- The processes under this condition. -/
def segura (cfg : Config) : TransitionSystem Processos Passo :=
  (orquestracao cfg).restrict fun p m ↦ Segura cfg p m.1

/-- The open executions as obligations. -/
abbrev Encarregada (cfg : Config) (p : Processos) : Prop :=
  Pool.Charged (fun s i actionId ↦ (i, actionId) ∈ s.abertas)
    (fun actionId s ↦ s.Comprovada actionId) (Cabe cfg) Encerra Possivel Comprova
    (fun _ ↦ Cmd.SemStatus) (fun _ ↦ True) p

section Run

variable {cfg : Config} {p p' : Processos} {m : Passo}

/-- A regular call fits, and gives an open execution a possible answer. -/
theorem answer_of_regular {i : ℕ} {op : Cmd} {e : Env} {s : Banco}
    (h : Regular cfg s (i, op, e)) : Cabe cfg op (exec i op e s).2 ∧
      ∀ actionId, (i, actionId) ∈ s.abertas → Possivel actionId op (exec i op e s).2 := by
  obtain ⟨-, hmanifesto, hopen⟩ := h
  refine ⟨?_, fun actionId hi ↦ ?_⟩
  · cases op with
    | lerManifesto path =>
      obtain hexec | ⟨mensagem, -, hexec⟩ := exec_forms i (.lerManifesto path) e s
      all_goals rw [hexec]
      · exact hmanifesto
      · trivial
    | _ => trivial
  · obtain ⟨hfalha, hop⟩ := hopen actionId hi
    obtain hexec | ⟨mensagem, hfalha', -⟩ := exec_forms i op e s
    · rw [hexec]
      cases op with
      | utcNow => exact ⟨_, rfl⟩
      | selectEvidenceByKey key => exact ⟨_, rfl, hop⟩
      | insertEvidence record =>
        rw [efeito, if_neg (by rw [hop]; exact Bool.false_ne_true)]
        rfl
      | _ => trivial
    · rw [hfalha] at hfalha'
      cases hfalha'

theorem encarregada_step (h : Encarregada cfg p) (hstep : (segura cfg).step p m p') :
    Encarregada cfg p' := by
  obtain ⟨⟨hcalls, -⟩, hstep⟩ := hstep
  refine Pool.Charged.step (code_cumpre cfg) ?_ ?_ abertas_exec comprovada_exec
    comprovada_of_answer h hstep fun hnext ↦ answer_of_regular (hcalls _ hnext)
  · intro s i j actionId hj
    obtain ⟨hj, hne⟩ := List.mem_filter.mp hj
    exact ⟨of_decide_eq_true hne, hj⟩
  · exact fun h ↦ h

/-- The invariant: a success has its evidence, or the execution that stored it is still open. -/
structure Encerrada (cfg : Config) (p : Processos) : Prop where
  encarregada : Encarregada cfg p
  succeeded : ∀ actionId, p.store.status actionId = some .succeeded →
    p.store.Comprovada actionId ∨ ∃ i, (i, actionId) ∈ p.store.abertas

/-- A regular call keeps a success, and leaves the execution open that makes one. -/
theorem succeeded_call (h : Encerrada cfg p) {tr : List Passo} (hrun : (segura cfg).Run tr p)
    {i : ℕ} {op : Cmd} {e : Env} {actionId : String} (hnext : p.nextCall m.1 = some (i, op, e))
    (hregular : Regular cfg p.store (i, op, e)) :
    (p.store.status actionId = some .succeeded →
      (exec i op e p.store).1.status actionId = some .succeeded) ∧
    ((exec i op e p.store).1.status actionId = some .succeeded →
      p.store.status actionId = some .succeeded ∨
        (i, actionId) ∈ (exec i op e p.store).1.abertas) := by
  obtain heq | ⟨status, attempts, now, rfl, heq, hopen⟩ | ⟨action, rfl, hnone, heq⟩ :=
    status_exec i op e p.store actionId
  · rw [heq]
    exact ⟨id, .inl⟩
  · rw [heq]
    refine ⟨fun hsucceeded ↦ ?_, fun hstatus ↦ .inr (hopen (Option.some.inj hstatus))⟩
    -- another status is not stored over the success of another execution, nor over one's own
    by_contra hne
    have hown := hregular.1 actionId status attempts now rfl
      (fun hstatus ↦ hne (congrArg some hstatus)) hsucceeded
    exact h.encarregada.nextCall hnext hown
  · obtain ⟨k, hk⟩ := Pool.task_of_nextCall hnext
    have hnova : action.status ≠ .succeeded :=
      (Pool.allCalls_of_run (code_novas cfg) hrun.of_restrict i _ hk).op
    rw [heq, hnone]
    exact ⟨nofun, fun hstatus ↦ absurd (Option.some.inj hstatus) hnova⟩

/-- **Success is final.** -/
theorem succeeded_step (h : Encerrada cfg p) {tr : List Passo} (hrun : (segura cfg).Run tr p)
    (hstep : (segura cfg).step p m p') {actionId : String}
    (hsucceeded : p.store.status actionId = some .succeeded) :
    p'.store.status actionId = some .succeeded := by
  obtain ⟨⟨hcalls, -⟩, hstep⟩ := hstep
  rw [Pool.step_eq hstep]
  obtain ⟨-, hm⟩ | ⟨i, c, -, -, hm⟩ | ⟨i, op, e, k, hnext, -, hm⟩ | ⟨-, hm⟩ :=
    Pool.move_forms (code cfg) machine m.1 p
  all_goals rw [hm]
  · exact hsucceeded
  · exact hsucceeded
  · exact (succeeded_call h hrun hnext (hcalls _ hnext)).1 hsucceeded
  · exact hsucceeded

theorem encerrada_step (h : Encerrada cfg p) {tr : List Passo} (hrun : (segura cfg).Run tr p)
    (hstep : (segura cfg).step p m p') : Encerrada cfg p' := by
  refine ⟨encarregada_step h.encarregada hstep, fun actionId ↦ ?_⟩
  obtain ⟨⟨hcalls, hcrash⟩, hstep⟩ := hstep
  rw [Pool.step_eq hstep]
  obtain ⟨-, hm⟩ | ⟨i, c, -, -, hm⟩ | ⟨i, op, e, k, hnext, -, hm⟩ | ⟨hnone, hm⟩ :=
    Pool.move_forms (code cfg) machine m.1 p
  all_goals rw [hm]
  · exact h.succeeded actionId
  · exact h.succeeded actionId
  · intro hsucceeded
    obtain hold | hopen := (succeeded_call h hrun hnext (hcalls _ hnext)).2 hsucceeded
    · obtain hcomprovada | ⟨j, hj⟩ := h.succeeded actionId hold
      · exact .inl (comprovada_exec hcomprovada)
      · exact .inr ⟨j, abertas_subset hj⟩
    · exact .inr ⟨i, hopen⟩
  · intro hsucceeded
    have hfilter : ∀ {j}, (j, actionId) ∈ p.store.abertas → j ≠ m.1.slot →
        (j, actionId) ∈ (machine.close m.1.slot p.store).abertas :=
      fun hj hne ↦ List.mem_filter.mpr ⟨hj, decide_eq_true hne⟩
    obtain hcomprovada | ⟨j, hj⟩ := h.succeeded actionId hsucceeded
    · exact .inl hcomprovada
    · by_cases hslot : j = m.1.slot
      · -- a process with an open execution ends after the evidence, or by a crash
        subst hslot
        obtain ⟨q, hq, hobliged | ⟨-, hcomprovada⟩⟩ := h.encarregada.works _ actionId hj
        · cases q with
          | call op k =>
            have hend : (Pool.move (code cfg) machine m.1 p).1.task m.1.slot = none := by
              rw [hm]
              exact Function.update_self ..
            obtain hcomprovada | ⟨j, hne, hj⟩ := hcrash _ (Pool.eq_crash hq hend) actionId hj
            · exact .inl hcomprovada
            · exact .inr ⟨j, hfilter hj hne⟩
          | _ => exact hobliged.elim
        · exact .inl hcomprovada
      · exact .inr ⟨j, hfilter hj hslot⟩

theorem encerrada_of_run {tr : List Passo} (h : (segura cfg).Run tr p) : Encerrada cfg p := by
  refine TransitionSystem.Run.traceInvariant (I := fun _ ↦ Encerrada cfg) (fun hinit ↦ ?_)
    (fun hrun hI hstep ↦ encerrada_step hI hrun hstep) h
  rw [hinit]
  exact ⟨⟨fun i q hq ↦ (nomatch hq), fun i actionId hi ↦ (nomatch hi)⟩,
    fun actionId hs ↦ (nomatch hs)⟩

end Run

/-! ## The results -/

/-- **When success is evidenced and final.** If no other status is stored over the success of
another execution, the references of the manifests are safe, and no execution crashes or fails
between its success and the evidence, then every success has its evidence as soon as the execution
that stored it has ended, and no step takes it back. -/
theorem succeeded_final (cfg : Config) {tr : List Passo} {p : Processos}
    (h : (segura cfg).Run tr p) (actionId : String)
    (hsucceeded : p.store.status actionId = some .succeeded) :
    ((∀ i, (i, actionId) ∉ p.store.abertas) → p.store.Comprovada actionId) ∧
      ∀ m p', (segura cfg).step p m p' → p'.store.status actionId = some .succeeded :=
  ⟨fun hclosed ↦ ((encerrada_of_run h).succeeded actionId hsucceeded).resolve_right
    fun ⟨i, hi⟩ ↦ hclosed i hi, fun _ _ hstep ↦
    succeeded_step (encerrada_of_run h) h hstep hsucceeded⟩

/-- The manifest has no references. -/
def semReferencias : Leitura → Bool
  | .lido (.obj manifest) => (Manifesto.capabilities manifest).all fun x ↦
      match listaReferencias x.2.items with
      | .ok references => references.isEmpty
      | .error _ => true
  | _ => true

theorem referenciasSeguras_of_semReferencias {cfg : Config} {manifest : Manifesto}
    (h : semReferencias (.lido (.obj manifest)) = true) :
    Manifesto.ReferenciasSeguras cfg manifest := by
  intro x hx references hreferences ref href
  have hempty := List.all_eq_true.mp h x hx
  rw [hreferences] at hempty
  rw [List.isEmpty_iff.mp hempty] at href
  cases href

/-- The condition on a call, for a small run in which nothing fails and nothing is found. -/
def sampleRegular (s : Banco) (x : ℕ × Cmd × Env) : Bool :=
  semReferencias x.2.2.manifesto && x.2.2.falha.isNone && match x.2.1 with
    | .updateStatus actionId status _ _ =>
      decide (status = .succeeded ∨ s.status actionId ≠ some .succeeded)
    | .selectEvidenceByKey key =>
      (Table.lookup EvidenceRecord.idempotencyKey key s.evidence).isNone
    | .insertEvidence record => !s.evidence.any record.colide
    | _ => true

theorem regular_of_sample {cfg : Config} {s : Banco} {x : ℕ × Cmd × Env}
    (h : sampleRegular s x = true) : Regular cfg s x := by
  obtain ⟨i, op, e⟩ := x
  rw [sampleRegular, Bool.and_eq_true, Bool.and_eq_true] at h
  obtain ⟨⟨hmanifesto, hfalha⟩, hop⟩ := h
  refine ⟨?_, fun manifest hm ↦ ?_, fun actionId hi ↦ ⟨Option.isNone_iff_eq_none.mp hfalha, ?_⟩⟩
  · rintro actionId status attempts now rfl hne hsucceeded
    exact ((of_decide_eq_true hop).elim hne fun h ↦ h hsucceeded).elim
  · refine referenciasSeguras_of_semReferencias ?_
    rw [← hm]
    exact hmanifesto
  · cases op with
    | selectEvidenceByKey key =>
      dsimp only at hop ⊢
      rw [Option.isNone_iff_eq_none.mp hop]
      exact fun x hx ↦ nomatch hx
    | insertEvidence record =>
      rw [Bool.not_eq_true'] at hop
      exact hop
    | _ => trivial

def semCrash : Move Pedido Env → Bool
  | .crash _ => false
  | _ => true

/-- An enqueued readiness check is executed, and the execution ends. -/
def sampleSucceeded : List (Move Pedido Env) :=
  sampleStart 0 sampleEnqueue 5 ++ sampleStart 1 sampleExecute 12

theorem run_sampleSucceeded :
    (segura sampleConfig).Run (sampleRun sampleSucceeded).1 (sampleRun sampleSucceeded).2 := by
  have hrun : ((orquestracao sampleConfig).restrict fun p m ↦
      (∀ x ∈ p.nextCall m.1, sampleRegular p.store x = true) ∧ semCrash m.1 = true).Run
      (sampleRun sampleSucceeded).1 (sampleRun sampleSucceeded).2 :=
    TransitionSystem.run_restrict_runCalls _ (by decide +kernel)
  refine hrun.restrict_mono fun p m hm ↦ ⟨fun x hx ↦ regular_of_sample (hm.1 x hx), ?_⟩
  intro i hcrash
  rw [hcrash] at hm
  exact absurd hm.2 Bool.false_ne_true

/-- Its success has evidence. -/
theorem succeeded_final_sample :
    (sampleRun sampleSucceeded).2.store.Comprovada sampleActionId :=
  (succeeded_final sampleConfig run_sampleSucceeded sampleActionId (by decide +kernel)).1
    (by
      have hclosed : (sampleRun sampleSucceeded).2.store.abertas = [] := by decide +kernel
      rw [hclosed]
      exact fun i hi ↦ nomatch hi)

/-- **Success without evidence, and success taken back.** A process crashes after it stored the
status, and a later execution returns at once; and an execution that read the action earlier sets it
to `running` again. -/
theorem succeeded_not_final :
    (∃ tr p, (orquestracao sampleConfig).Run tr p ∧ p.store.abertas = [] ∧
      p.store.status sampleActionId = some .succeeded ∧ ¬p.store.Comprovada sampleActionId) ∧
    ∃ tr p m p', (orquestracao sampleConfig).Run tr p ∧ (orquestracao sampleConfig).step p m p' ∧
      p.store.abertas = [] ∧ p.store.status sampleActionId = some .succeeded ∧
      p'.store.status sampleActionId = some .running := by
  refine ⟨⟨_, _, run_sampleRun (sampleStart 0 sampleEnqueue 5 ++ sampleStart 1 sampleExecute 8 ++
    [.crash 1] ++ sampleStart 2 sampleExecute 3), by decide +kernel, by decide +kernel, ?_⟩,
    ⟨_, _, (.advance 2 sampleEnv, _), _, run_sampleRun (sampleStart 0 sampleEnqueue 5 ++
    sampleStart 2 sampleExecute 3 ++ sampleStart 1 sampleExecute 12), rfl, by decide +kernel,
    by decide +kernel, by decide +kernel⟩⟩
  rintro ⟨x, hx, -⟩
  have hnone : (sampleRun (sampleStart 0 sampleEnqueue 5 ++ sampleStart 1 sampleExecute 8 ++
      [.crash 1] ++ sampleStart 2 sampleExecute 3)).2.store.evidence.length = 0 := by
    decide +kernel
  rw [List.length_eq_zero_iff.mp hnone] at hx
  cases hx

end Orchestrator

end ReqSys
