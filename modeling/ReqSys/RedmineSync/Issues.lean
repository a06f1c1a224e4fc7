import ReqSys.Foundation.Gate
import ReqSys.RedmineSync.Queue

/-!
# Redmine sync: one issue for each row

The reservation is no look at the row: it is an update that succeeds whatever the status is. So
nothing keeps two workers that listed the same row apart, and a row whose issue exists may be given
back: its status is written after the issue, by another request.

`issues_once` says when the reservations do what they are for. To reserve a row is a look in the
sense of `Gate`, and to create its issue the act. If only pending rows are reserved, and a row
becomes pending again only while it has no issue and no other process is about to create one, every
row gets at most one.
-/

namespace ReqSys

namespace RedmineSync

open Program Gate

/-! ## The gate of a row -/

/-- The row and the status that an update writes. -/
def Cmd.grava : Cmd → Option (String × StatusFila)
  | liberar rowId => some (rowId, .pending)
  | reservar rowId _ => some (rowId, .processing)
  | enviar rowId => some (rowId, .sent)
  | registrarFalha rowId status _ _ | gravarStatus rowId status => some (rowId, status)
  | _ => none

/-- The row whose status is written, or whose issue is created. -/
def Cmd.alvo : Cmd → Option String
  | criarIssue rowId _ _ => some rowId
  | op => op.grava.map Prod.fst

/-- The issue of a row: the row is reserved first. Any other write of its status, and the issue
itself, ends the right to create it. -/
def issueGate (rowId : String) : Gate Cmd.Ans Erro where
  acts
    | .criarIssue id _ _ => id = rowId
    | _ => False
  looks op := op.alvo = some rowId
  permits
    | .reservar _ _, .ok _ => True
    | _, _ => False
  possible _ _ := True

/-- The condition on a call. Only pending rows are reserved; and a row becomes pending again only if
it has no issue and no other process is about to create one. -/
def Reserva (p : Processos) (x : ℕ × Cmd × Env) : Prop :=
  (∀ rowId agora, x.2.1 = .reservar rowId agora → p.store.status rowId = some .pending) ∧
    ∀ rowId, x.2.1.grava = some (rowId, .pending) → rowId ∉ p.store.issues ∧
      ∀ j q, j ≠ x.1 → p.task j = some q → (issueGate rowId).Shut q

/-! ## The programs are gated -/

/-- A call that creates no issue. -/
def Cmd.SemIssue : Cmd → Prop
  | criarIssue _ _ _ => False
  | _ => True

section Ready

variable {α : Type} {p : Processo α} {rowId : String} {cfg : Config} {par : Parametros}

theorem issue_ready (hp : p.AllCalls Cmd.SemIssue) : (issueGate rowId).Ready p :=
  .of_not_acts (hp.imp fun op hop hacts ↦ by
    cases op with
    | criarIssue => exact hop
    | _ => exact hacts)

theorem run_calls {op : Cmd} (h : op.SemIssue) : (run op).AllCalls Cmd.SemIssue := .perform h

theorem tolerar_calls {p : Processo Unit} (hp : p.AllCalls Cmd.SemIssue) :
    (tolerar p).AllCalls Cmd.SemIssue := by
  refine hp.attempt.bind fun r ↦ ?_
  split
  · exact .ret _
  · exact .ret _
  · exact .raise _

theorem registrarLocal_calls (db : Bool) (corr : String) (evento : Evento) (rowId : String) :
    (registrarLocal db corr evento rowId).AllCalls Cmd.SemIssue := by
  rw [registrarLocal]
  split
  · exact .perform trivial
  · exact .ret _

theorem auditlog_calls (corr : String) (evento : Evento) (sucesso : Bool) :
    (registrarAuditlogDataverse corr evento sucesso).AllCalls Cmd.SemIssue := by
  refine tolerar_calls (AllCalls.bind (.perform trivial) fun _ ↦ ?_)
  exact AllCalls.bind (.perform trivial) fun agora ↦ .perform trivial

theorem agilesync_calls (corr : String) (status : AgileStatus) :
    (atualizarAgilesync corr status).AllCalls Cmd.SemIssue := by
  rw [atualizarAgilesync]
  split
  · exact .ret _
  · refine tolerar_calls (AllCalls.bind (.perform trivial) fun _ ↦ ?_)
    refine AllCalls.bind (.perform trivial) fun o ↦ ?_
    cases o with
    | none => exact .ret _
    | some rowId => exact .perform trivial

theorem limpar_calls (timeoutMinutos : ℤ) (db : Bool) :
    (limparReservasTravadas timeoutMinutos db).AllCalls Cmd.SemIssue := by
  refine AllCalls.bind (.perform trivial) fun _ ↦ AllCalls.bind (.perform trivial) fun agora ↦ ?_
  refine AllCalls.bind (.perform trivial) fun itens ↦ ?_
  refine AllCalls.bind (.forM fun x _ ↦ ?_) fun _ ↦ .ret _
  refine (run_calls (show (Cmd.liberar x.1).SemIssue from trivial)).attempt.bind fun r ↦ ?_
  split
  · exact .ret _
  · exact .raise _
  · exact registrarLocal_calls db x.2 _ x.1

theorem registrarErro_calls (cfg : Config) (par : Parametros) (item : ItemFila)
    (mensagem : String) : (registrarErro cfg par item mensagem).AllCalls Cmd.SemIssue := by
  refine AllCalls.bind ?_ fun _ ↦ (agilesync_calls _ _).bind fun _ ↦
    (auditlog_calls _ _ _).bind fun _ ↦ (registrarLocal_calls _ _ _ _).bind fun _ ↦ .ret _
  refine AllCalls.bind (AllCalls.attempt (.perform trivial)) fun r ↦ ?_
  split
  · exact .ret _
  · exact .perform trivial
  · exact .raise _

/-- After the issue nothing else is done to create one. -/
theorem criarEnviar_gated (par : Parametros) (item : ItemFila) :
    (issueGate rowId).Gated (criarEnviar par item) := by
  refine Gated.perform_bind fun resultado ↦ issue_ready ?_
  refine (run_calls (show (Cmd.enviar item.rowId).SemIssue from trivial)).bind fun _ ↦ ?_
  refine (tolerar_calls (run_calls
    (show (Cmd.gravarIssueId item.rowId resultado.issueId).SemIssue from trivial))).bind fun _ ↦ ?_
  exact (agilesync_calls _ _).bind fun _ ↦ (auditlog_calls _ _ _).bind fun _ ↦
    (registrarLocal_calls _ _ _ _).bind fun _ ↦ .ret _

/-- The issue of another row. -/
theorem criarEnviar_ready (par : Parametros) {item : ItemFila} (hid : item.rowId ≠ rowId) :
    (issueGate rowId).Ready (criarEnviar par item) := by
  refine Ready.perform_bind hid fun resultado _ ↦ issue_ready ?_
  refine (run_calls (show (Cmd.enviar item.rowId).SemIssue from trivial)).bind fun _ ↦ ?_
  refine (tolerar_calls (run_calls
    (show (Cmd.gravarIssueId item.rowId resultado.issueId).SemIssue from trivial))).bind fun _ ↦ ?_
  exact (agilesync_calls _ _).bind fun _ ↦ (auditlog_calls _ _ _).bind fun _ ↦
    (registrarLocal_calls _ _ _ _).bind fun _ ↦ .ret _

/-- What follows an attempt to create an issue. -/
theorem depois_ready (cfg : Config) (par : Parametros) (item : ItemFila)
    (r : Except Erro ItemProcessado) : (issueGate rowId).Ready (match r with
      | .ok x => Program.ret x
      | .error (.integracaoError m) => registrarErro cfg par item m
      | .error x => .raise x) := by
  split
  · exact .ret _
  · exact issue_ready (registrarErro_calls cfg par item _)
  · exact .raise _

/-- **A turn** reserves the row before it creates the issue. -/
theorem processarItem_ready (cfg : Config) (par : Parametros) (item : ItemFila) :
    (issueGate rowId).Ready (processarItem cfg par item) := by
  by_cases hid : item.rowId = rowId
  · have hreserva : (issueGate rowId).ReadyTo (fun _ ↦ False)
        (do let agora ← run .agora; run (.reservar item.rowId agora)) := by
      refine ReadyTo.bind_ready (Q := fun _ ↦ True) ?_ fun agora ↦ ?_
      · exact .of_meets (.perform (fun h ↦ h) fun _ _ ↦ trivial)
      · exact .look (Cmd.reservar item.rowId agora) (fun h ↦ h) (congrArg some hid)
          fun _ _ hpermit ↦ hpermit trivial
    refine (hreserva.attempt.bind (R := fun _ ↦ True) (fun r ↦ ?_) fun r hr ↦ ?_).ready
    · refine .of_gated ?_
      split
      · exact trivial
      · exact trivial
      · exact (criarEnviar_gated par item).attempt.bind fun r ↦ depois_ready cfg par item r
    · cases r with
      | ok a => exact (hr a rfl).elim
      | error x => cases x <;> exact trivial
  · refine Ready.bind (issue_ready (AllCalls.attempt ?_)) fun r ↦ ?_
    · exact AllCalls.bind (.perform trivial) fun agora ↦ .perform trivial
    · split
      · exact .ret _
      · exact .raise _
      · exact (criarEnviar_ready par hid).attempt.bind fun r ↦ depois_ready cfg par item r

theorem processarItens_ready (cfg : Config) (par : Parametros) (itens : List ItemFila) :
    (issueGate rowId).Ready (processarItens cfg par itens) := by
  induction itens with
  | nil => exact .ret _
  | cons item itens ih =>
    exact (processarItem_ready cfg par item).bind fun x ↦ ih.bind fun xs ↦ .ret _

/-- **Every process reserves a row before it creates its issue.** -/
theorem code_ready (rowId : String) (cfg : Config) (pedido : Pedido) :
    (issueGate rowId).Ready (code cfg pedido) := by
  cases pedido with
  | fluxo item => exact issue_ready (AllCalls.bind (.perform trivial) fun _ ↦ .ret _)
  | limpar timeoutMinutos =>
    exact issue_ready ((limpar_calls timeoutMinutos false).bind fun _ ↦ .ret _)
  | processar par =>
    refine Ready.bind ?_ fun r ↦ .ret _
    refine Ready.bind (issue_ready (limpar_calls _ _)) fun reservasLiberadas ↦ ?_
    refine Ready.bind (issue_ready (.perform trivial)) fun _ ↦ ?_
    refine Ready.bind (issue_ready (.perform trivial)) fun pendentes ↦ ?_
    split
    · exact .ret _
    · exact (processarItens_ready cfg par pendentes).bind fun itens ↦ .ret _

end Ready

/-! ## One call -/

section Calls

variable {s : Dataverse} {op : Cmd} {e : Env} {rowId : String}

/-- What a call does to the queue is its effect, if it gets through. -/
theorem exec_forms (op : Cmd) (e : Env) (s : Dataverse) :
    exec op e s = efeito op e s ∨ (∃ erro x, op.erro = some erro ∧ (exec op e s).2 = .error x ∧
      ((exec op e s).1 = s ∨ (exec op e s).1 = (efeito op e s).1)) := by
  rw [exec]
  split
  next f erro _ herro =>
    refine .inr ⟨erro, erro f.mensagem, herro, rfl, ?_⟩
    cases f.aplicada
    · exact .inl rfl
    · exact .inr rfl
  next => exact .inl rfl

theorem status_updateRow (s : Dataverse) (id : String) {campos : ItemFila → ItemFila}
    (hid : ∀ x, (campos x).rowId = x.rowId) (rowId : String) :
    (s.updateRow id campos).status rowId
      = if rowId = id then (s.item id).map fun x ↦ (campos x).status else s.status rowId := by
  rw [Dataverse.status, Dataverse.item, Dataverse.updateRow,
    Table.lookup_update (fun x hx ↦ (hid x).trans hx)]
  split
  · exact Option.map_map ..
  · rfl

/-- **What a call does to the status of a row.** It leaves it alone, writes it, or adds the row. -/
theorem status_efeito (op : Cmd) (e : Env) (s : Dataverse) (rowId : String) :
    (efeito op e s).1.status rowId = s.status rowId ∨
    (∃ status, op.grava = some (rowId, status) ∧
      (efeito op e s).1.status rowId = (s.status rowId).map fun _ ↦ status) ∨
    (s.status rowId = none ∧ op.alvo = none ∧
      (efeito op e s).1.status rowId = some .pending) := by
  have hwrite : ∀ {id : String} {status : StatusFila} {campos : ItemFila → ItemFila},
      op.grava = some (id, status) → (∀ x, (campos x).rowId = x.rowId) →
      (∀ x, (campos x).status = status) →
      (s.updateRow id campos).status rowId = s.status rowId ∨
      ∃ status, op.grava = some (rowId, status) ∧
        (s.updateRow id campos).status rowId = (s.status rowId).map fun _ ↦ status := by
    intro id status campos hgrava hid hstatus
    rw [status_updateRow s id hid]
    split
    next heq =>
      refine .inr ⟨status, heq ▸ hgrava, ?_⟩
      rw [Dataverse.status, heq, Option.map_map]
      exact congrArg (Option.map · (s.item id)) (funext fun x ↦ hstatus x)
    next => exact .inl rfl
  have himp : ∀ {P Q R : Prop}, P ∨ Q → P ∨ Q ∨ R := fun h ↦ h.imp_right .inl
  cases op with
  | incluir item =>
    have hfila : (efeito (.incluir item) e s).1.fila = if (s.item item.rowId).isSome then s.fila
        else s.fila ++ [{ item with status := .pending }] := rfl
    by_cases hknown : (s.item item.rowId).isSome = true
    · rw [if_pos hknown] at hfila
      left
      rw [Dataverse.status, Dataverse.item, hfila]
      rfl
    · rw [if_neg hknown] at hfila
      have hlookup : Dataverse.item (efeito (.incluir item) e s).1 rowId
          = (s.item rowId).or (if item.rowId = rowId then some { item with status := .pending }
            else none) := by
        rw [Dataverse.item, hfila]
        exact Table.lookup_concat _ s.fila
      by_cases hid : item.rowId = rowId
      · have hnone : s.item rowId = none := hid ▸ Option.not_isSome_iff_eq_none.mp hknown
        rw [if_pos hid, hnone, Option.none_or] at hlookup
        refine .inr (.inr ⟨congrArg (Option.map _) hnone, rfl, ?_⟩)
        exact congrArg (Option.map _) hlookup
      · left
        rw [if_neg hid, Option.or_none] at hlookup
        exact congrArg (Option.map _) hlookup
  | liberar | reservar | enviar | registrarFalha | gravarStatus =>
    exact himp (hwrite rfl (fun _ ↦ rfl) fun _ ↦ rfl)
  | gravarIssueId id issueId =>
    have hid : ∀ x : ItemFila, ({ x with redmineIssueId := issueId } : ItemFila).rowId = x.rowId :=
      fun _ ↦ rfl
    refine .inl ((status_updateRow s id hid rowId).trans ?_)
    split
    next heq => rw [heq, Dataverse.status]
    next => rfl
  | criarIssue =>
    left
    rw [efeito]
    split <;> rfl
  | _ => exact .inl rfl

/-- The same, of a call that may fail. -/
theorem status_exec (op : Cmd) (e : Env) (s : Dataverse) (rowId : String) :
    (exec op e s).1.status rowId = s.status rowId ∨
    (∃ status, op.grava = some (rowId, status) ∧
      (exec op e s).1.status rowId = (s.status rowId).map fun _ ↦ status) ∨
    (s.status rowId = none ∧ op.alvo = none ∧ (exec op e s).1.status rowId = some .pending) := by
  obtain hexec | ⟨erro, x, -, -, hexec | hexec⟩ := exec_forms op e s
  all_goals rw [hexec]
  · exact status_efeito op e s rowId
  · exact .inl rfl
  · exact status_efeito op e s rowId

/-- **Issues** are created by their own call. -/
theorem issues_exec (op : Cmd) (e : Env) (s : Dataverse) :
    (exec op e s).1.issues = s.issues ∨ ∃ rowId subject trackerId,
      op = .criarIssue rowId subject trackerId ∧ (exec op e s).1.issues = s.issues ++ [rowId] := by
  have hefeito : (efeito op e s).1.issues = s.issues ∨ ∃ rowId subject trackerId,
      op = .criarIssue rowId subject trackerId ∧
        (efeito op e s).1.issues = s.issues ++ [rowId] := by
    cases op with
    | criarIssue rowId subject trackerId =>
      rw [efeito]
      split
      · exact .inr ⟨rowId, subject, trackerId, rfl, rfl⟩
      · exact .inl rfl
    | _ => exact .inl rfl
  obtain hexec | ⟨erro, x, -, -, hexec | hexec⟩ := exec_forms op e s
  all_goals rw [hexec]
  · exact hefeito
  · exact .inl rfl
  · exact hefeito

end Calls

/-! ## Whole runs -/

/-- The invariant: one process at a time may create the issue of a row, and nobody as long as the
row is pending. -/
structure Reservada (p : Processos) : Prop where
  watched : ∀ rowId, Pool.Watched (issueGate rowId) (fun _ ↦ True) (fun s ↦ rowId ∉ s.issues) p
  exclusive : ∀ rowId, Pool.Exclusive (issueGate rowId) p
  livre : ∀ rowId, (∀ status, p.store.status rowId = some status → status = .pending) →
    rowId ∉ p.store.issues ∧ ∀ j q, p.task j = some q → (issueGate rowId).Shut q
  nodup : p.store.issues.Nodup

/-- The workers, as long as every reservation is what it is meant to be. -/
def reservadas (cfg : Config) : TransitionSystem Processos Passo :=
  (sincronizacao cfg).restrict fun p m ↦ ∀ x ∈ p.nextCall m.1, Reserva p x

section Run

variable {cfg : Config} {p : Processos}

theorem reservada_init : Reservada ⟨{}, fun _ ↦ none⟩ where
  watched _ _ _ _ h := nomatch h
  exclusive _ _ _ _ _ h := nomatch h
  livre _ _ := ⟨List.not_mem_nil, fun _ _ h ↦ nomatch h⟩
  nodup := List.nodup_nil

namespace Reservada

/-- A look that permits is a reservation of a pending row. -/
theorem pending_of_look (h : Reservada p) {i : ℕ} {op : Cmd} {e : Env} {rowId : String}
    (hreserva : Reserva p (i, op, e)) (hlook : (issueGate rowId).looks op)
    (hpermits : (issueGate rowId).permits op (exec op e p.store).2) :
    (∃ agora, op = .reservar rowId agora) ∧ rowId ∉ p.store.issues ∧
      ∀ j q, p.task j = some q → (issueGate rowId).Shut q := by
  cases op with
  | reservar id agora =>
    cases (hlook : some id = some rowId)
    refine ⟨⟨agora, rfl⟩, h.livre id fun status hstatus ↦ ?_⟩
    rw [hreserva.1 id agora rfl] at hstatus
    exact (Option.some.inj hstatus).symm
  | _ => exact hpermits.elim

/-- A row without an issue stays so until its issue is created. -/
theorem quiet (h : Reservada p) {i : ℕ} {op : Cmd} {e : Env}
    {k : Except Erro op.Ans → Processo (Option Resultado)} (htask : p.task i = some (.call op k))
    (rowId : String) :
    Pool.Quiet machine (issueGate rowId) (fun s ↦ rowId ∉ s.issues) p (i, op, e) := by
  intro hnot
  obtain hkept | ⟨id, subject, trackerId, rfl, hissue⟩ := issues_exec op e p.store
  · left
    change rowId ∉ (exec op e p.store).1.issues
    rwa [hkept]
  · by_cases hid : id = rowId
    · -- the issue itself: whoever is about to create it is the only one who may
      refine .inr fun j q hq ↦ ?_
      by_cases hj : j = i
      · exact .inr ⟨hj, congrArg some hid⟩
      · left
        by_contra hopen
        exact hj (h.exclusive rowId hq htask hopen fun hshut ↦ hshut.1 hid)
    · left
      change rowId ∉ (exec (.criarIssue id subject trackerId) e p.store).1.issues
      rw [hissue, List.mem_append, List.mem_singleton]
      rintro (hold | hnew)
      · exact hnot hold
      · exact hid hnew.symm

/-- After one call: a row that is pending, or is not there, has no issue, and all are shut. -/
theorem livre_exec (h : Reservada p) {i : ℕ} {op : Cmd} {e : Env}
    {k : Except Erro op.Ans → Processo (Option Resultado)} (htask : p.task i = some (.call op k))
    (hreserva : Reserva p (i, op, e)) {rowId : String}
    (hlivre : ∀ status, (exec op e p.store).1.status rowId = some status → status = .pending) :
    (rowId ∉ p.store.issues ∧ ∀ j q, j ≠ i → p.task j = some q → (issueGate rowId).Shut q) ∧
      ¬(issueGate rowId).acts op ∧ (issueGate rowId).Shut (k (exec op e p.store).2) := by
  have hgated := ((h.watched rowId trivial i _ htask).1 (exec op e p.store).2 trivial).2
  by_cases hbefore : ∀ status, p.store.status rowId = some status → status = .pending
  · obtain ⟨hissues, hshut⟩ := h.livre rowId hbefore
    have hcaller := hshut i _ htask
    refine ⟨⟨hissues, fun j q _ hq ↦ hshut j q hq⟩, hcaller.1, ?_⟩
    by_cases hlook : (issueGate rowId).looks op
    · refine hgated hlook fun hpermits ↦ ?_
      -- a reservation that succeeds leaves the row in `PROCESSING`
      obtain ⟨⟨agora, rfl⟩, -⟩ := h.pending_of_look hreserva hlook hpermits
      have hpending := hreserva.1 rowId agora rfl
      obtain hexec | ⟨erro, x, -, herror, -⟩ := exec_forms (.reservar rowId agora) e p.store
      · rw [hexec] at hlivre
        have hafter := status_updateRow p.store rowId
          (show ∀ x : ItemFila, ({ x with status := .processing, reservedAt := some agora }
            : ItemFila).rowId = x.rowId from fun _ ↦ rfl) rowId
        obtain ⟨item, hitem, -⟩ := Option.map_eq_some_iff.mp hpending
        rw [if_pos rfl, hitem] at hafter
        exact absurd (hlivre _ hafter) (by nofun)
      · rw [herror] at hpermits
        exact hpermits.elim
    · exact hcaller.2.resolve_left hlook _ trivial
  · obtain hsame | ⟨status, hgrava, hwritten⟩ | ⟨hnone, -⟩ := status_exec op e p.store rowId
    · exact absurd (hsame ▸ hlivre) hbefore
    · -- the row becomes pending: by the condition nobody else is about to create its issue
      cases hold : p.store.status rowId with
      | none =>
        refine absurd (fun status hstatus ↦ ?_) hbefore
        rw [hold] at hstatus
        cases hstatus
      | some old =>
        rw [hold] at hwritten
        obtain rfl := hlivre status hwritten
        have hlook : (issueGate rowId).looks op := by
          cases op with
          | criarIssue => cases hgrava
          | _ => exact congrArg (Option.map Prod.fst) hgrava
        have hnopermit : ¬(issueGate rowId).permits op (exec op e p.store).2 := by
          cases op with
          | reservar => cases hgrava
          | _ => exact fun h ↦ h
        refine ⟨hreserva.2 rowId hgrava, ?_, hgated hlook hnopermit⟩
        cases op with
        | criarIssue => cases hgrava
        | _ => exact fun h ↦ h
    · refine absurd (fun status hstatus ↦ ?_) hbefore
      rw [hnone] at hstatus
      cases hstatus

/-- **One move.** -/
theorem step {p' : Processos} {m : Passo} (h : Reservada p)
    (hstep : (sincronizacao cfg).step p m p') (hreserva : ∀ x ∈ p.nextCall m.1, Reserva p x) :
    Reservada p' := by
  have hwatched : ∀ rowId, Pool.Watched (issueGate rowId) (fun _ ↦ True)
      (fun s ↦ rowId ∉ s.issues) p' := by
    intro rowId
    refine (h.watched rowId).step (M := machine) (code_ready rowId cfg) (fun h ↦ h)
      (fun _ ↦ trivial) (fun {i op e} hcall hlook hpermits ↦ ?_) hstep (fun _ ↦ trivial)
      fun x hx ↦ ?_
    · obtain ⟨⟨agora, rfl⟩, hnot, -⟩ := h.pending_of_look (hreserva _ hcall) hlook hpermits
      obtain hkept | ⟨id, subject, trackerId, hop, -⟩ :=
        issues_exec (.reservar rowId agora) e p.store
      · change rowId ∉ (exec (.reservar rowId agora) e p.store).1.issues
        rwa [hkept]
      · cases hop
    · obtain ⟨i, op, e⟩ := x
      obtain ⟨k, htask⟩ := Pool.task_of_nextCall hx
      exact h.quiet htask rowId
  have hexclusive : ∀ rowId, Pool.Exclusive (issueGate rowId) p' := by
    intro rowId
    refine (h.exclusive rowId).step (M := machine) (code_ready rowId cfg) trivial
      (fun i q hq ↦ (h.watched rowId trivial i q hq).1) hstep
      fun {i op e} hcall hlook hpermits j q _ hq ↦ ?_
    exact (h.pending_of_look (hreserva _ hcall) hlook hpermits).2.2 j q hq
  rw [Pool.step_eq hstep] at hwatched hexclusive ⊢
  obtain ⟨-, hm⟩ | ⟨i, c, -, -, hm⟩ | ⟨i, op, e, k, hcall, htask, hm⟩ | ⟨-, hm⟩ :=
    Pool.move_forms (code cfg) machine m.1 p
  all_goals rw [hm] at hwatched hexclusive ⊢
  · exact ⟨hwatched, hexclusive, h.livre, h.nodup⟩
  · refine ⟨hwatched, hexclusive, fun rowId hlivre ↦ ?_, h.nodup⟩
    obtain ⟨hissues, hshut⟩ := h.livre rowId hlivre
    refine ⟨hissues, fun j q hq ↦ ?_⟩
    obtain ⟨-, hold⟩ | ⟨-, hnew⟩ := Pool.setTask_eq_some hq
    · exact hshut j q hold
    · cases hnew
      exact (code_ready rowId cfg c).1
  · have hcond := hreserva _ hcall
    refine ⟨hwatched, hexclusive, fun rowId hlivre ↦ ?_, ?_⟩
    · obtain ⟨⟨hissues, hothers⟩, hacts, hcaller⟩ := h.livre_exec htask hcond hlivre
      refine ⟨?_, fun j q hq ↦ ?_⟩
      · obtain hkept | ⟨id, subject, trackerId, rfl, hissue⟩ := issues_exec op e p.store
        · change rowId ∉ (exec op e p.store).1.issues
          rwa [hkept]
        · change rowId ∉ (exec (.criarIssue id subject trackerId) e p.store).1.issues
          rw [hissue, List.mem_append, List.mem_singleton]
          rintro (hold | hnew)
          · exact hissues hold
          · exact hacts hnew.symm
      · obtain ⟨hj, hold⟩ | ⟨-, hnew⟩ := Pool.setTask_eq_some hq
        · exact hothers j q hj hold
        · cases hnew
          exact hcaller
    · obtain hkept | ⟨id, subject, trackerId, rfl, hissue⟩ := issues_exec op e p.store
      · change (exec op e p.store).1.issues.Nodup
        rw [hkept]
        exact h.nodup
      · -- an issue: the row had none
        have hnot := (h.watched id).ok_of_acts trivial htask rfl
        change (exec (.criarIssue id subject trackerId) e p.store).1.issues.Nodup
        rw [hissue]
        refine List.nodup_append.mpr ⟨h.nodup, List.nodup_singleton _, fun a ha b hb hab ↦ hnot ?_⟩
        rw [List.mem_singleton.mp hb] at hab
        exact hab ▸ ha
  · refine ⟨hwatched, hexclusive, fun rowId hlivre ↦ ?_, h.nodup⟩
    obtain ⟨hissues, hshut⟩ := h.livre rowId hlivre
    refine ⟨hissues, fun j q hq ↦ ?_⟩
    obtain ⟨-, hold⟩ | ⟨-, hnew⟩ := Pool.setTask_eq_some hq
    · exact hshut j q hold
    · cases hnew

end Reservada

theorem reservada_of_run {tr : List Passo} (h : (reservadas cfg).Run tr p) : Reservada p := by
  refine TransitionSystem.Run.invariant (T := reservadas cfg) (fun hinit ↦ ?_)
    (fun {p m p'} hp hstep ↦ hp.step hstep.2 hstep.1) h
  rw [show _ = _ from hinit]
  exact reservada_init

/-- **At most one issue is created for each row of the queue**, in every run whose reservations are
what they are meant to be. -/
theorem issues_once (cfg : Config) {tr : List Passo} {p : Processos}
    (h : (reservadas cfg).Run tr p) (rowId : String) : p.store.issues.count rowId ≤ 1 :=
  List.nodup_iff_count_le_one.mp (reservada_of_run h).nodup rowId

end Run

/-! ## The small queue -/

/-- A call that reserves only what is pending, and gives nothing back. -/
def Cmd.regular (s : Dataverse) : Cmd → Bool
  | reservar rowId _ => s.status rowId = some .pending
  | op => op.grava.all fun x ↦ x.2 ≠ .pending

theorem reserva_of_regular {p : Processos} {x : ℕ × Cmd × Env}
    (h : x.2.1.regular p.store = true) : Reserva p x := by
  obtain ⟨i, op, e⟩ := x
  have hgrava : ∀ rowId, op.grava ≠ some (rowId, .pending) := by
    intro rowId hgrava
    have hall : op.grava.all (fun x ↦ x.2 ≠ .pending) = true := by
      cases op with
      | reservar => rfl
      | _ => exact h
    rw [hgrava, Option.all_some] at hall
    exact of_decide_eq_true hall rfl
  refine ⟨fun rowId agora hop ↦ ?_, fun rowId hop ↦ absurd hop (hgrava rowId)⟩
  cases (hop : op = .reservar rowId agora)
  exact of_decide_eq_true h

/-- The flow adds a row. -/
def sampleIncluido : List (Move Pedido Env) := sampleStart 0 (.fluxo sampleItem) 2 {}

/-- A worker processes the row. -/
def sampleEnviado : List (Move Pedido Env) :=
  sampleIncluido ++ sampleStart 1 (.processar {}) 18 sampleEnv

theorem issues_once_sent :
    (sampleRun sampleEnviado).2.store.status "row-1" = some .sent ∧
      (sampleRun sampleEnviado).2.store.issues.count "row-1" = 1 ∧
      ∀ rowId, (sampleRun sampleEnviado).2.store.issues.count rowId ≤ 1 := by
  refine ⟨by decide +kernel, by decide +kernel, ?_⟩
  have hrun : ((sincronizacao sampleConfig).restrict fun p m ↦
      ∀ x ∈ p.nextCall m.1, x.2.1.regular p.store = true).Run _ (sampleRun sampleEnviado).2 :=
    TransitionSystem.run_restrict_runCalls _ (by decide +kernel)
  exact issues_once sampleConfig
    (hrun.restrict_mono fun _ _ h x hx ↦ reserva_of_regular (h x hx))

/-- Two workers list the row before either of them reserves it. -/
def sampleOverlap : List (Move Pedido Env) :=
  sampleIncluido ++ sampleStart 1 (.processar {}) 5 sampleEnv
    ++ sampleStart 2 (.processar {}) 8 sampleEnv ++ sampleSteps 1 3 sampleEnv

/-- A worker creates the issue, and the request that stores `SENT` fails. Sixteen minutes later
another worker gives the reservation back. -/
def sampleLost : List (Move Pedido Env) :=
  sampleIncluido ++ sampleStart 1 (.processar {}) 8 sampleEnv
    ++ sampleSteps 1 1 { falha := some ⟨false, "HTTP 503"⟩ }
    ++ sampleStart 2 (.processar {}) 9 { sampleEnv with now := 961000000 }

/-- Both ways the row gets two issues. -/
theorem issues_twice :
    (∃ tr p rowId, (sincronizacao sampleConfig).Run tr p ∧ ¬p.store.issues.count rowId ≤ 1) ∧
      (sampleRun sampleLost).2.store.issues.count "row-1" = 2 :=
  ⟨⟨_, _, "row-1", run_sampleRun sampleOverlap, by decide +kernel⟩, by decide +kernel⟩

end RedmineSync

end ReqSys
