import ReqSys.CopilotMemory.Service
import ReqSys.Foundation.TransitionSystem

/-!
# Copilot memory: what Planner holds

Planner holds the four fields of every task. Its users change them, and so does a flow, which lists
the commands, executes them and confirms each. What Planner holds is reported to the memory as an
item of origin `planner`.

A record that is `sincronizado` should say by its `plannerAppliedHash` which fields were last
executed or reported for it. A confirmation does not carry the fields that were executed: it takes
the hash of the record, which may have changed since the command was listed.

`aplicado_of_run` says when the hash is right: no command is confirmed for a record that has
changed, no item takes a record back to what was applied before a command was executed, and no
command is executed for a record that is `sincronizado` with other fields.
-/

namespace ReqSys

namespace CopilotMemory

/-! ## Planner and the memory -/

structure Fluxo where
  db : Banco := {}
  /-- What Planner held for its tasks, from the first change to the last. -/
  planner : List (String × CamposPlanner) := []
  /-- The commands that were listed. -/
  listados : List Comando := []
  /-- The commands that were sent to Planner, and whether Planner took them. -/
  executados : List (Comando × Bool) := []
  /-- The fields of the last command executed, or state reported, for a memory. -/
  ultimo : String → Option CamposPlanner := fun _ ↦ none

/-- The fields that are the last for a memory from now on. -/
def Fluxo.registrar (e : Fluxo) (memoryId : String) (campos : CamposPlanner) : Fluxo :=
  { e with ultimo := Function.update e.ultimo memoryId (some campos) }

/-- The item reports that Planner held the fields for the task. -/
def Payload.Relata (cfg : Config) (payload : Payload) (tarefa : String) (campos : CamposPlanner) :
    Prop :=
  payload.dePlanner cfg = true ∧ payload.plannerTaskId = some tarefa ∧
    payload.plannerTitulo = some campos.plannerTitulo ∧
    payload.plannerStatus = some campos.plannerStatus ∧
    payload.plannerPercentual = some campos.plannerPercentual ∧
    payload.plannerPrazo = some campos.plannerPrazo

instance (cfg : Config) (payload : Payload) (tarefa : String) (campos : CamposPlanner) :
    Decidable (payload.Relata cfg tarefa campos) :=
  inferInstanceAs (Decidable (_ ∧ _ ∧ _ ∧ _ ∧ _ ∧ _))

inductive Evento
  /-- An item of another origin than Planner. -/
  | editar (payload : Payload) (correlationId : String)
  | listar (limit : ℕ)
  /-- A listed command is sent to Planner, which may refuse it. -/
  | executar (k : ℕ) (sucesso : Bool)
  | confirmar (k : ℕ) (correlationId : String) (plannerTaskId erro : Option String)
  /-- A user changes a task. -/
  | mudar (tarefa : String) (campos : CamposPlanner)
  /-- What Planner held at some time is reported. -/
  | relatar (k : ℕ) (payload : Payload) (correlationId : String)

/-- What an event does. A call that raises leaves everything as it is. -/
def ocorrer (cfg : Config) : Evento → Fluxo → Fluxo
  | .editar payload correlationId, e =>
    if payload.dePlanner cfg then e
    else match sincronizarItem cfg payload correlationId e.db with
      | .ok (db, _, _) => { e with db := db }
      | .error _ => e
  | .listar limit, e => { e with listados := e.listados ++ listarComandosPlanner cfg limit e.db }
  | .executar k sucesso, e =>
    match e.listados[k]? with
    | none => e
    | some c =>
      let enviado : Fluxo := { e with executados := e.executados ++ [(c, sucesso)] }
      if sucesso then
        let executado : Fluxo := { enviado with
          planner := e.planner ++ c.plannerTaskId.toList.map (fun t ↦ (t, c.campos)) }
        executado.registrar c.memoryId c.campos
      else enviado
  | .confirmar k correlationId plannerTaskId erro, e =>
    match e.executados[k]? with
    | none => e
    | some (c, sucesso) =>
      match confirmarComandoPlanner cfg ⟨c.memoryId, sucesso, correlationId, plannerTaskId, erro⟩
          e.db with
      | .ok (db, _) => { e with db := db }
      | .error _ => e
  | .mudar tarefa campos, e => { e with planner := e.planner ++ [(tarefa, campos)] }
  | .relatar k payload correlationId, e =>
    match e.planner[k]?, plannerSnapshotRecebido payload with
    | some (tarefa, campos), some recebido =>
      if payload.Relata cfg tarefa campos then
        match sincronizarItem cfg payload correlationId e.db with
        | .ok (db, r, _) => ({ e with db := db } : Fluxo).registrar r.memoryId recebido
        | .error _ => e
      else e
    | _, _ => e

example (cfg : Config) (e : Fluxo) (tarefa : String) (campos : CamposPlanner) :
    (ocorrer cfg (.mudar tarefa campos) e).db = e.db := by rw [ocorrer]

/-- Any order of events. -/
def fluxo (cfg : Config) : TransitionSystem Fluxo (Evento × Unit) :=
  TransitionSystem.ofExec {} fun a e ↦ (ocorrer cfg a e, ())

/-! ## The condition -/

/-- The condition on an event. -/
def Confiavel (cfg : Config) (e : Fluxo) : Evento → Prop
  /- An item that asks for an update takes a record that is not `sincronizado` to the fields that
  were applied only if these are the last. -/
  | .editar payload _ =>
    ∀ r ∈ e.db.localizarRecord (textoOuNone payload.memoryId) (textoOuNone payload.plannerTaskId),
      payload.atualizarPlanner = true → r.plannerSyncStatus ≠ .sincronizado →
      ∀ s ∈ (montarSnapshot payload (some r.toSnapshot)).toOption,
        plannerHash cfg s.toCamposPlanner = r.plannerAppliedHash →
        e.ultimo r.memoryId = some s.toCamposPlanner
  /- A command is executed for a record that is `sincronizado` only if its fields are the last. -/
  | .executar k true =>
    ∀ c ∈ e.listados[k]?, ∀ r ∈ e.db.record c.memoryId, r.plannerSyncStatus = .sincronizado →
      e.ultimo c.memoryId = some c.campos
  /- A command is confirmed only while the fields of its record are the last. -/
  | .confirmar k _ _ _ =>
    ∀ x ∈ e.executados[k]?, x.2 = true → ∀ r ∈ e.db.record x.1.memoryId,
      e.ultimo x.1.memoryId = some r.toCamposPlanner
  | _ => True

instance (cfg : Config) (e : Fluxo) (a : Evento) : Decidable (Confiavel cfg e a) :=
  match a with
  | .editar _ _ => inferInstanceAs (Decidable (∀ r ∈ _, _ → _ → ∀ s ∈ _, _ → _))
  | .executar _ true => inferInstanceAs (Decidable (∀ c ∈ _, ∀ r ∈ _, _ → _))
  | .executar _ false => instDecidableTrue
  | .confirmar _ _ _ _ => inferInstanceAs (Decidable (∀ x ∈ _, _ → ∀ r ∈ _, _))
  | .listar _ => instDecidableTrue
  | .mudar _ _ => instDecidableTrue
  | .relatar _ _ _ => instDecidableTrue

/-- The events that meet the condition. -/
def fluxoConfiavel (cfg : Config) : TransitionSystem Fluxo (Evento × Unit) :=
  (fluxo cfg).restrict fun e m ↦ Confiavel cfg e m.1

/-- What a record says is applied is the last for its memory. -/
def Aplicado (cfg : Config) (ultimo : String → Option CamposPlanner) (r : CopilotMemoryRecord) :
    Prop :=
  ∃ c, ultimo r.memoryId = some c ∧ r.plannerAppliedHash = plannerHash cfg c

/-- The invariant. -/
structure Fiel (cfg : Config) (db : Banco) (ultimo : String → Option CamposPlanner) : Prop where
  keyed : Table.Keyed CopilotMemoryRecord.memoryId db.records
  aplicado : ∀ r ∈ db.records, r.plannerSyncStatus = .sincronizado → Aplicado cfg ultimo r

/-! ## What a call leaves -/

section Calls

variable {cfg : Config} {db db' : Banco} {ultimo : String → Option CamposPlanner}
  {payload : Payload} {correlationId : String} {r : CopilotMemoryRecord} {changed : Bool}

/-- An item of Planner leaves the hash of what Planner holds. -/
theorem decidir_planner {tarefa : Option String} {s : Snapshot} {atual novo : EstadoPlanner}
    (hplanner : payload.dePlanner cfg = true)
    (h : decidir cfg payload tarefa s atual = .ok novo) :
    novo.plannerAppliedHash = plannerHash cfg s.toCamposPlanner := by
  rw [decidir, if_pos (.inl hplanner), aplicarDecisaoPlanner, if_pos hplanner] at h
  cases h
  rfl

/-- Any other item leaves the hash, and makes a record `sincronizado` only if it asks for the fields
with that hash. -/
theorem decidir_local {tarefa : Option String} {s : Snapshot} {atual novo : EstadoPlanner}
    (hplanner : ¬payload.dePlanner cfg = true)
    (h : decidir cfg payload tarefa s atual = .ok novo) :
    novo.plannerAppliedHash = atual.plannerAppliedHash ∧
      (novo.plannerSyncStatus = .sincronizado → atual.plannerSyncStatus = .sincronizado ∨
        payload.atualizarPlanner = true ∧
          plannerHash cfg s.toCamposPlanner = atual.plannerAppliedHash) := by
  rw [decidir] at h
  split at h
  next hpede =>
    have hpede := hpede.resolve_left hplanner
    rw [aplicarDecisaoPlanner, if_neg hplanner, if_pos hpede] at h
    obtain ⟨-, h⟩ := require_bind_eq_ok.mp h
    split at h
    next =>
      cases h
      exact ⟨rfl, fun hs ↦ nomatch hs⟩
    next heq =>
      cases h
      exact ⟨rfl, fun _ ↦ .inr ⟨hpede, not_not.mp heq⟩⟩
  next =>
    cases h
    exact ⟨rfl, .inl⟩

/-- What an item leaves: in place of a record, or as a new one. -/
theorem sincronizarItem_records
    (h : sincronizarItem cfg payload correlationId db = .ok (db', r, changed)) :
    (∃ record, db.localizarRecord (textoOuNone payload.memoryId) (textoOuNone payload.plannerTaskId)
        = some record ∧ r.memoryId = record.memoryId ∧
      db'.records = Table.update CopilotMemoryRecord.memoryId r.memoryId (fun _ ↦ r) db.records) ∨
    db.record r.memoryId = none ∧ db'.records = db.records ++ [r] := by
  obtain ⟨record, hrecord, ⟨-, -, hvisto, hdb⟩ | ⟨snapshot, -, -, ⟨-, higual, hdb⟩ |
    ⟨-, hnovo, hdb⟩⟩⟩ | ⟨memoryId, snapshot, -, -, hnovo, hdb⟩ := sincronizarItem_cases h
  · refine .inl ⟨record, hrecord, ?_, (of_atualizar hdb).1⟩
    obtain ⟨avaliacao, -, hvisto⟩ := bind_eq_ok.mp hvisto
    cases avaliacao with
    | eco =>
      cases hvisto
      rfl
    | conflito =>
      cases hvisto
      rfl
  · obtain ⟨estado, -, higual⟩ := bind_eq_ok.mp higual
    cases higual
    exact .inl ⟨record, hrecord, rfl, (of_atualizar hdb).1⟩
  · obtain ⟨estado, -, hnovo⟩ := bind_eq_ok.mp hnovo
    cases hnovo
    exact .inl ⟨record, hrecord, rfl, (of_atualizar hdb).1⟩
  · obtain ⟨hnone, hrecords, -⟩ := of_inserir hdb
    exact .inr ⟨hnone, hrecords⟩

/-- **A report.** A record that is `sincronizado` after Planner reported its state has the hash of
that state. -/
theorem aplicado_relato (hplanner : payload.dePlanner cfg = true) {recebido : CamposPlanner}
    (hrecebido : plannerSnapshotRecebido payload = some recebido)
    (h : sincronizarItem cfg payload correlationId db = .ok (db', r, changed))
    (hr : r.plannerSyncStatus = .sincronizado) :
    r.plannerAppliedHash = plannerHash cfg recebido := by
  obtain ⟨record, -, ⟨-, hpendente, hvisto, -⟩ | ⟨snapshot, hsnapshot, -, ⟨-, higual, -⟩ |
    ⟨-, hnovo, -⟩⟩⟩ | ⟨memoryId, snapshot, -, hsnapshot, hnovo, -⟩ := sincronizarItem_cases h
  · -- an item that finds a pending update leaves it pending, or in conflict
    obtain ⟨avaliacao, -, hvisto⟩ := bind_eq_ok.mp hvisto
    cases avaliacao with
    | eco =>
      cases hvisto
      exact nomatch hpendente.symm.trans hr
    | conflito =>
      cases hvisto
      exact nomatch hr
  · obtain ⟨estado, hestado, higual⟩ := bind_eq_ok.mp higual
    cases higual
    rw [← campos_montarSnapshot hsnapshot hrecebido]
    exact decidir_planner hplanner hestado
  · obtain ⟨estado, hestado, hnovo⟩ := bind_eq_ok.mp hnovo
    cases hnovo
    rw [← campos_montarSnapshot hsnapshot hrecebido]
    exact decidir_planner hplanner hestado
  · obtain ⟨estado, hestado, hnovo⟩ := bind_eq_ok.mp hnovo
    cases hnovo
    rw [← campos_montarSnapshot hsnapshot hrecebido]
    exact decidir_planner hplanner hestado

/-- **A local item.** A record that is `sincronizado` after it was so before, with the same hash, or
the item asked for the fields with that hash. -/
theorem aplicado_edicao (hplanner : ¬payload.dePlanner cfg = true)
    (h : sincronizarItem cfg payload correlationId db = .ok (db', r, changed))
    (hr : r.plannerSyncStatus = .sincronizado) :
    ∃ record, db.localizarRecord (textoOuNone payload.memoryId) (textoOuNone payload.plannerTaskId)
        = some record ∧ r.memoryId = record.memoryId ∧
      r.plannerAppliedHash = record.plannerAppliedHash ∧
      (record.plannerSyncStatus = .sincronizado ∨ payload.atualizarPlanner = true ∧
        ∃ s, montarSnapshot payload (some record.toSnapshot) = .ok s ∧
          plannerHash cfg s.toCamposPlanner = record.plannerAppliedHash) := by
  obtain ⟨record, hrecord, ⟨hdePlanner, -⟩ | ⟨snapshot, hsnapshot, -, ⟨-, higual, -⟩ |
    ⟨-, hnovo, -⟩⟩⟩ | ⟨memoryId, snapshot, -, -, hnovo, -⟩ := sincronizarItem_cases h
  · exact absurd hdePlanner hplanner
  · obtain ⟨estado, hestado, higual⟩ := bind_eq_ok.mp higual
    cases higual
    obtain ⟨hhash, hestado⟩ := decidir_local hplanner hestado
    exact ⟨record, hrecord, rfl, hhash,
      (hestado hr).imp_right fun h ↦ ⟨h.1, snapshot, hsnapshot, h.2⟩⟩
  · obtain ⟨estado, hestado, hnovo⟩ := bind_eq_ok.mp hnovo
    cases hnovo
    obtain ⟨hhash, hestado⟩ := decidir_local hplanner hestado
    exact ⟨record, hrecord, rfl, hhash,
      (hestado hr).imp_right fun h ↦ ⟨h.1, snapshot, hsnapshot, h.2⟩⟩
  · -- nothing was applied for a new record, and no hash is empty
    obtain ⟨estado, hestado, hnovo⟩ := bind_eq_ok.mp hnovo
    cases hnovo
    obtain h | ⟨-, h⟩ := (decidir_local hplanner hestado).2 hr
    · exact nomatch h
    · exact absurd h (cfg.hashJson_ne _)

/-- The records after one of them was written, if what it says is applied is the last. -/
theorem Fiel.update (h : Fiel cfg db ultimo)
    (hrecords : db'.records
      = Table.update CopilotMemoryRecord.memoryId r.memoryId (fun _ ↦ r) db.records)
    {ultimo' : String → Option CamposPlanner}
    (hultimo : ∀ m, m ≠ r.memoryId → ultimo' m = ultimo m)
    (hr : r.plannerSyncStatus = .sincronizado → Aplicado cfg ultimo' r) : Fiel cfg db' ultimo' := by
  refine ⟨?_, fun x hx hs ↦ ?_⟩
  · rw [hrecords]
    exact h.keyed.keyed_update_key rfl
  · rw [hrecords] at hx
    obtain ⟨hx, hne⟩ | ⟨_, -, -, rfl⟩ := Table.mem_update hx
    · obtain ⟨c, hc, hhash⟩ := h.aplicado x hx hs
      exact ⟨c, (hultimo _ hne).trans hc, hhash⟩
    · exact hr hs

/-- The records after a new one was written. -/
theorem Fiel.concat (h : Fiel cfg db ultimo) (hnone : db.record r.memoryId = none)
    (hrecords : db'.records = db.records ++ [r]) {ultimo' : String → Option CamposPlanner}
    (hultimo : ∀ m, m ≠ r.memoryId → ultimo' m = ultimo m)
    (hr : r.plannerSyncStatus = .sincronizado → Aplicado cfg ultimo' r) : Fiel cfg db' ultimo' := by
  have hfresh : ∀ x ∈ db.records, x.memoryId ≠ r.memoryId :=
    fun x hx ↦ Table.ne_key_of_lookup_none hnone hx
  refine ⟨?_, fun x hx hs ↦ ?_⟩
  · rw [hrecords]
    exact h.keyed.concat hfresh
  · rw [hrecords] at hx
    obtain hx | hx := List.mem_append.mp hx
    · obtain ⟨c, hc, hhash⟩ := h.aplicado x hx hs
      exact ⟨c, (hultimo _ (hfresh x hx)).trans hc, hhash⟩
    · rw [List.mem_singleton.mp hx] at hs ⊢
      exact hr hs

/-- The records after an item, if what the record it returns says is applied is the last. -/
theorem Fiel.sincronizar (h : Fiel cfg db ultimo)
    (hcall : sincronizarItem cfg payload correlationId db = .ok (db', r, changed))
    {ultimo' : String → Option CamposPlanner}
    (hultimo : ∀ m, m ≠ r.memoryId → ultimo' m = ultimo m)
    (hr : r.plannerSyncStatus = .sincronizado → Aplicado cfg ultimo' r) : Fiel cfg db' ultimo' := by
  obtain ⟨-, -, -, hrecords⟩ | ⟨hnone, hrecords⟩ := sincronizarItem_records hcall
  · exact h.update hrecords hultimo hr
  · exact h.concat hnone hrecords hultimo hr

end Calls

/-! ## One event -/

section Steps

variable {cfg : Config} {e : Fluxo}

theorem fiel_editar {payload : Payload} {correlationId : String} (h : Fiel cfg e.db e.ultimo)
    (hcond : Confiavel cfg e (.editar payload correlationId)) :
    Fiel cfg (ocorrer cfg (.editar payload correlationId) e).db
      (ocorrer cfg (.editar payload correlationId) e).ultimo := by
  rw [ocorrer]
  split
  next => exact h
  next hplanner =>
    split
    next db' r changed hcall =>
      refine h.sincronizar hcall (fun _ _ ↦ rfl) fun hr ↦ ?_
      obtain ⟨record, hrecord, hid, hhash, hantes⟩ := aplicado_edicao hplanner hcall hr
      rw [Aplicado, hid, hhash]
      by_cases hs : record.plannerSyncStatus = .sincronizado
      · exact h.aplicado record (localizarRecord_mem hrecord) hs
      · obtain ⟨hpede, s, hsnapshot, heq⟩ := hantes.resolve_left hs
        exact ⟨s.toCamposPlanner,
          hcond record hrecord hpede hs s (by rw [hsnapshot]; rfl) heq, heq.symm⟩
    next => exact h

theorem fiel_executar {k : ℕ} {sucesso : Bool} (h : Fiel cfg e.db e.ultimo)
    (hcond : Confiavel cfg e (.executar k sucesso)) :
    Fiel cfg (ocorrer cfg (.executar k sucesso) e).db
      (ocorrer cfg (.executar k sucesso) e).ultimo := by
  rw [ocorrer]
  split
  next => exact h
  next c hc =>
    cases sucesso with
    | false => exact h
    | true =>
      refine ⟨h.keyed, fun r hr hs ↦ ?_⟩
      obtain ⟨campos, hcampos, hhash⟩ := h.aplicado r hr hs
      by_cases hid : r.memoryId = c.memoryId
      · -- the command repeats what was executed or reported last
        have hrecord : e.db.record c.memoryId = some r := hid ▸ Table.Keyed.lookup_of_mem h.keyed hr
        have hlast := hcond c hc r hrecord hs
        rw [hid, hlast] at hcampos
        refine ⟨campos, ?_, hhash⟩
        rw [← hcampos, hid]
        exact Function.update_self ..
      · exact ⟨campos, (Function.update_of_ne hid _ _).trans hcampos, hhash⟩

theorem fiel_confirmar {k : ℕ} {correlationId : String} {plannerTaskId erro : Option String}
    (h : Fiel cfg e.db e.ultimo)
    (hcond : Confiavel cfg e (.confirmar k correlationId plannerTaskId erro)) :
    Fiel cfg (ocorrer cfg (.confirmar k correlationId plannerTaskId erro) e).db
      (ocorrer cfg (.confirmar k correlationId plannerTaskId erro) e).ultimo := by
  rw [ocorrer]
  split
  next => exact h
  next c sucesso hc =>
    split
    next db' r hcall =>
      obtain ⟨record, hrecord, hcall⟩ := orThrow_bind_eq_ok.mp hcall
      obtain ⟨db'', hdb, hcall⟩ := bind_eq_ok.mp hcall
      cases hcall
      refine h.update (of_atualizar hdb).1 (fun _ _ ↦ rfl) fun hs ↦ ?_
      cases sucesso with
      | false => exact nomatch hs
      | true =>
        have hid : record.memoryId = c.memoryId := Table.key_of_lookup hrecord
        exact ⟨record.toCamposPlanner,
          (congrArg e.ultimo hid).trans (hcond (c, true) hc rfl record hrecord), rfl⟩
    next => exact h

theorem fiel_relatar {k : ℕ} {payload : Payload} {correlationId : String}
    (h : Fiel cfg e.db e.ultimo) :
    Fiel cfg (ocorrer cfg (.relatar k payload correlationId) e).db
      (ocorrer cfg (.relatar k payload correlationId) e).ultimo := by
  rw [ocorrer]
  split
  next tarefa campos recebido hplanner hrecebido =>
    split
    next hrelata =>
      split
      next db' r changed hcall =>
        exact h.sincronizar hcall (fun m hm ↦ Function.update_of_ne hm _ _) fun hs ↦
          ⟨recebido, Function.update_self .., aplicado_relato hrelata.1 hrecebido hcall hs⟩
      next => exact h
    next => exact h
  next => exact h

end Steps

/-! ## Runs -/

/-- **When `sincronizado` means what Planner holds.** In every order of events that meet the
condition, a record that is `sincronizado` has the hash of the fields of the last command executed,
or state reported, for it. -/
theorem aplicado_of_run {cfg : Config} {tr : List (Evento × Unit)} {e : Fluxo}
    (h : (fluxoConfiavel cfg).Run tr e) :
    ∀ r ∈ e.db.records, r.plannerSyncStatus = .sincronizado → Aplicado cfg e.ultimo r := by
  refine (TransitionSystem.Run.invariant (I := fun e ↦ Fiel cfg e.db e.ultimo) (fun hinit ↦ ?_)
    (fun {e m e'} hI hstep ↦ ?_) h).aplicado
  · rw [hinit]
    exact ⟨List.nodup_nil, fun r hr ↦ (nomatch hr)⟩
  · obtain ⟨hcond, hstep⟩ := hstep
    obtain rfl : ocorrer cfg m.1 e = e' := congrArg Prod.fst hstep
    obtain ⟨a, _⟩ := m
    cases a with
    | editar payload correlationId => exact fiel_editar hI hcond
    | listar limit => exact hI
    | executar k sucesso => exact fiel_executar hI hcond
    | confirmar k correlationId plannerTaskId erro => exact fiel_confirmar hI hcond
    | mudar tarefa campos => exact hI
    | relatar k payload correlationId => exact fiel_relatar hI

/-! ## A task and its update -/

/-- A task is reported and an update of it listed; `outro` is what else happens before the update is
executed and confirmed. -/
def sampleEventos (outro : List Evento) : List Evento :=
  [.mudar "task-1" ⟨"Revisar contrato", "aberto", 0, ""⟩,
    .relatar 0 (sampleItem "planner" 0) "corr-1", .editar (sampleItem "reqsys" 50) "corr-2",
    .listar 100] ++ outro ++ [.executar 0 true, .confirmar 0 "corr-4" none none]

/-- The trace and what is left after the events. -/
def sampleFluxo (outro : List Evento) : List (Evento × Unit) × Fluxo :=
  TransitionSystem.runCalls (fun a e ↦ (ocorrer sampleConfig a e, ())) (sampleEventos outro) {}

theorem run_sampleFluxo (outro : List Evento) :
    (fluxo sampleConfig).Run (sampleFluxo outro).1 (sampleFluxo outro).2 :=
  TransitionSystem.run_runCalls _ _ _

/-- The update is executed and confirmed as it was listed. -/
theorem aplicado_sample :
    (sampleFluxo []).2.db.records.map (fun r ↦ (r.plannerSyncStatus, r.plannerPercentual))
      = [(.sincronizado, 50)] ∧
    ∀ r ∈ (sampleFluxo []).2.db.records, r.plannerSyncStatus = .sincronizado →
      Aplicado sampleConfig (sampleFluxo []).2.ultimo r :=
  ⟨by decide +kernel,
    have hrun : (fluxoConfiavel sampleConfig).Run (sampleFluxo []).1 (sampleFluxo []).2 :=
      TransitionSystem.run_restrict_runCalls _ (by decide +kernel)
    aplicado_of_run hrun⟩

/-- The record changes before the update is confirmed: the confirmation takes what Planner was never
sent for applied. -/
theorem sincronizado_not_aplicado :
    ∃ tr e, (fluxo sampleConfig).Run tr e ∧
      ∃ r ∈ e.db.records, r.plannerSyncStatus = .sincronizado ∧
        ¬Aplicado sampleConfig e.ultimo r := by
  refine ⟨_, _, run_sampleFluxo [.editar (sampleItem "reqsys" 100) "corr-3"], ?_⟩
  generalize he : (sampleFluxo [.editar (sampleItem "reqsys" 100) "corr-3"]).2 = e
  have hrecord : ∃ r ∈ e.db.records, r.plannerSyncStatus = .sincronizado ∧
      ∃ c ∈ e.ultimo r.memoryId, r.plannerAppliedHash ≠ plannerHash sampleConfig c := by
    rw [← he]
    decide +kernel
  obtain ⟨r, hr, hs, c, hc, hhash⟩ := hrecord
  refine ⟨r, hr, hs, fun ⟨c', hc', hhash'⟩ ↦ hhash ?_⟩
  rw [hhash', Option.some.inj (hc.symm.trans hc')]

end CopilotMemory

end ReqSys
