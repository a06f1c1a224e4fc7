import Mathlib
import ReqSys.CopilotMemory.History

/-!
# Copilot memory: the same item twice

An item that arrives twice should leave what it leaves when it arrives once. The second time, its
record is found again, its snapshot is the one that is stored, and the decision about Planner is the
one that was made.

One item is different. Planner reports a task that has a pending update, and reports another state
than the one that was applied: the record goes into conflict, with the local content kept for
review. The same report once more finds no pending update any more, replaces the local content and
marks the record as synchronised. `replay_iff` says that this is the only exception.
-/

namespace ReqSys

namespace CopilotMemory

variable {cfg : Config} {db db' : Banco} {payload : Payload} {record r : CopilotMemoryRecord}

/-! ## Snapshots -/

theorem campo_campo (valor : Option String) (atual : String) :
    campo valor (campo valor atual) = campo valor atual := by
  cases valor <;> rfl

theorem campoPercentual_again {valor : Option ℤ} {atual q : ℤ}
    (h : campoPercentual valor atual = .ok q) : campoPercentual valor q = .ok q := by
  cases valor with
  | none => rfl
  | some n =>
    rw [campoPercentual] at h ⊢
    split at h
    · cases h
    next hn =>
      rw [if_neg hn]
      exact h

/-- The snapshot before it takes the title of the task. -/
private def mesclar (payload : Payload) (base : Snapshot) (percentual : ℤ) : Snapshot where
  plannerTaskId :=
    if payload.plannerTaskId.isSome then textoOuNone payload.plannerTaskId else base.plannerTaskId
  assunto := campo payload.assunto base.assunto
  contexto := campo payload.contexto base.contexto
  estadoAtual := campo payload.estadoAtual base.estadoAtual
  decisao := campo payload.decisao base.decisao
  pendencia := campo payload.pendencia base.pendencia
  proximoPasso := campo payload.proximoPasso base.proximoPasso
  fonteUrl := campo payload.fonteUrl base.fonteUrl
  dataFonte := campo payload.dataFonte base.dataFonte
  validade := campo payload.validade base.validade
  plannerTitulo := campo payload.plannerTitulo base.plannerTitulo
  plannerStatus := campo payload.plannerStatus base.plannerStatus
  plannerPercentual := percentual
  plannerPrazo := campo payload.plannerPrazo base.plannerPrazo

private theorem montarSnapshot_eq (atual : Option Snapshot) : montarSnapshot payload atual
    = campoPercentual payload.plannerPercentual (atual.getD {}).plannerPercentual >>= fun q ↦
      .ok (mesclar payload (atual.getD {}) q).comAssunto := rfl

private theorem mesclar_mesclar (base : Snapshot) (q : ℤ) :
    mesclar payload (mesclar payload base q) q = mesclar payload base q := by
  simp only [mesclar, campo_campo]
  split <;> rfl

/-- Only the subject of the base is looked at a second time. -/
private theorem mesclar_assunto (base : Snapshot) (q : ℤ) (assunto : String) :
    mesclar payload { mesclar payload base q with assunto } q
      = { mesclar payload base q with assunto := campo payload.assunto assunto } := by
  simp only [mesclar, campo_campo]
  split <;> rfl

private theorem comAssunto_mesclar (base : Snapshot) (q : ℤ) :
    (mesclar payload (mesclar payload base q).comAssunto q).comAssunto
      = (mesclar payload base q).comAssunto := by
  set s := mesclar payload base q with hs
  by_cases hvazio : s.assunto = "" ∧ s.plannerTitulo ≠ ""
  · have hcom : s.comAssunto = { s with assunto := s.plannerTitulo } := if_pos hvazio
    rw [hcom, hs, mesclar_assunto, ← hs]
    cases hassunto : payload.assunto with
    | none =>
      -- The subject stays the title of the task.
      rw [campo, Snapshot.comAssunto, if_neg fun h ↦ hvazio.2 h.1]
    | some novo =>
      have hnovo : PyText.strip novo = "" := by
        have hcampo := hvazio.1
        rw [hs, mesclar, hassunto] at hcampo
        exact hcampo
      rw [campo, hnovo, Snapshot.comAssunto, if_pos ⟨rfl, hvazio.2⟩]
  · have hcom : s.comAssunto = s := if_neg hvazio
    rw [hcom, hs, mesclar_mesclar, ← hs, hcom]

/-- A snapshot merged with the same payload is the same. -/
theorem montarSnapshot_again {atual : Option Snapshot} {s : Snapshot}
    (h : montarSnapshot payload atual = .ok s) : montarSnapshot payload (some s) = .ok s := by
  rw [montarSnapshot_eq] at h
  obtain ⟨q, hq, h⟩ := bind_eq_ok.mp h
  cases h
  have hpercentual : (mesclar payload (atual.getD {}) q).comAssunto.plannerPercentual = q :=
    congrArg CamposPlanner.plannerPercentual (comAssunto_campos _)
  rw [montarSnapshot_eq, Option.getD_some, hpercentual, campoPercentual_again hq, ok_bind,
    comAssunto_mesclar]

/-! ## Decisions -/

/-- A decision made again is the same. -/
theorem decidir_again {plannerTaskId : Option String} {s : Snapshot} {e e' : EstadoPlanner}
    (h : decidir cfg payload plannerTaskId s e = .ok e') :
    decidir cfg payload plannerTaskId s e' = .ok e' := by
  rw [decidir] at h ⊢
  split at h
  next hplanner =>
    rw [if_pos hplanner]
    rw [aplicarDecisaoPlanner] at h ⊢
    split at h
    next hp =>
      cases h
      rw [if_pos hp]
    next hp =>
      rw [if_neg hp]
      split at h
      next hs =>
        rw [if_pos hs]
        obtain ⟨htask, h⟩ := require_bind_eq_ok.mp h
        rw [require_bind_of_true htask]
        split at h
        next hhash =>
          cases h
          rw [if_pos hhash]
          rfl
        next hhash =>
          cases h
          rw [if_neg hhash]
          rfl
      next hs =>
        cases h
        rw [if_neg hs]
  next hplanner =>
    rw [if_neg hplanner]

/-- After a decision about an item of Planner, no update is pending. -/
theorem decidir_dePlanner {plannerTaskId : Option String} {s : Snapshot} {e e' : EstadoPlanner}
    (hp : payload.dePlanner cfg = true) (h : decidir cfg payload plannerTaskId s e = .ok e') :
    e'.plannerSyncStatus = .sincronizado := by
  rw [decidir, if_pos (.inl hp), aplicarDecisaoPlanner, if_pos hp] at h
  cases h
  rfl

/-! ## The record is found again -/

theorem keyed_of_run {tr : List Passo} (h : (memoria cfg).Run tr db) :
    Table.Keyed CopilotMemoryRecord.memoryId db.records := by
  refine h.invariant (I := fun db ↦ Table.Keyed CopilotMemoryRecord.memoryId db.records)
    (fun hinit ↦ ?_) fun {db m db'} hk hstep ↦ ?_
  · rw [hinit]
    exact List.nodup_nil
  · obtain rfl : (executar cfg m.1 db).1 = db' := congrArg Prod.fst hstep
    have hatualizar : ∀ {db' r novas}, db.atualizar r novas = .ok db' →
        Table.Keyed CopilotMemoryRecord.memoryId db'.records := by
      intro db' r novas hdb
      rw [(of_atualizar hdb).1]
      exact hk.keyed_update_key rfl
    obtain ⟨m, _⟩ := m
    cases m with
    | sincronizar payload correlationId =>
      rw [executar]
      split
      next hcall =>
        obtain ⟨record, -, ⟨-, -, -, hdb⟩ | ⟨snapshot, -, -, ⟨-, -, hdb⟩ | ⟨-, -, hdb⟩⟩⟩ |
          ⟨memoryId, snapshot, -, -, -, hdb⟩ := sincronizarItem_cases hcall
        · exact hatualizar hdb
        · exact hatualizar hdb
        · exact hatualizar hdb
        · obtain ⟨hnone, hrecords, -⟩ := of_inserir hdb
          rw [hrecords]
          exact hk.concat fun x hx ↦ Table.ne_key_of_lookup_none hnone hx
      next => exact hk
    | confirmar c =>
      rw [executar]
      split
      next hcall =>
        obtain ⟨record, -, hcall⟩ := orThrow_bind_eq_ok.mp hcall
        obtain ⟨db'', hdb, hcall⟩ := bind_eq_ok.mp hcall
        cases hcall
        exact hatualizar hdb
      next => exact hk

/-- A record that was written is found where it was found before, if it has the task that was asked
for. -/
theorem localizar_atualizar {memoryId plannerTaskId : Option String}
    {novas : List CopilotMemoryHistory} (hk : Table.Keyed CopilotMemoryRecord.memoryId db.records)
    (hrecord : db.localizarRecord memoryId plannerTaskId = some record)
    (hid : r.memoryId = record.memoryId)
    (htask : ∀ t, plannerTaskId = some t → record.plannerTaskId = some t →
      r.plannerTaskId = some t) (hdb : db.atualizar r novas = .ok db') :
    db'.localizarRecord memoryId plannerTaskId = some r := by
  have hrecords := (of_atualizar hdb).1
  have hlookup : ∀ m, db'.record m
      = if m = r.memoryId then (db.record r.memoryId).map (fun _ ↦ r) else db.record m := by
    intro m
    rw [Banco.record, hrecords, Table.lookup_update fun _ _ ↦ rfl]
    rfl
  rw [Banco.localizarRecord, Option.or_eq_some_iff] at hrecord ⊢
  obtain hm | ⟨hnone, ht⟩ := hrecord
  · obtain ⟨m, rfl, hlook⟩ := Option.bind_eq_some_iff.mp hm
    obtain rfl : record.memoryId = m := Table.key_of_lookup hlook
    left
    rw [Option.bind_some, hlookup, if_pos hid.symm, hid, hlook]
    rfl
  · right
    obtain ⟨t, rfl, ht⟩ := Option.bind_eq_some_iff.mp ht
    refine ⟨?_, ?_⟩
    · cases memoryId with
      | none => rfl
      | some m =>
        rw [Option.bind_some] at hnone ⊢
        rw [hlookup, hnone]
        split
        next hm =>
          rw [← hm, hnone]
          rfl
        next => rfl
    · -- The records before it do not have the task, and are not written.
      obtain ⟨hp, as, bs, hsplit, hbefore⟩ := List.find?_eq_some_iff_append.mp ht
      have hrtask : r.plannerTaskId = some t := htask t rfl (of_decide_eq_true hp)
      rw [Option.bind_some, hrecords]
      refine List.find?_eq_some_iff_append.mpr ⟨decide_eq_true hrtask, as,
        Table.update CopilotMemoryRecord.memoryId r.memoryId (fun _ ↦ r) bs, ?_, hbefore⟩
      have has : Table.update CopilotMemoryRecord.memoryId r.memoryId (fun _ ↦ r) as = as := by
        refine Table.update_of_forall_ne fun x hx heq ↦ ?_
        have hnd := hk
        rw [Table.Keyed, hsplit, List.map_append, List.map_cons] at hnd
        exact (List.nodup_append.mp hnd).2.2 _ (List.mem_map_of_mem hx) _ List.mem_cons_self
          (heq.trans hid)
      have hrec : (if record.memoryId = r.memoryId then r else record) = r := if_pos hid.symm
      calc Table.update CopilotMemoryRecord.memoryId r.memoryId (fun _ ↦ r) db.records
          = Table.update CopilotMemoryRecord.memoryId r.memoryId (fun _ ↦ r) as
              ++ (if record.memoryId = r.memoryId then r else record)
                :: Table.update CopilotMemoryRecord.memoryId r.memoryId (fun _ ↦ r) bs := by
            rw [hsplit, Table.update, List.map_append, List.map_cons]
            rfl
        _ = as ++ r :: Table.update CopilotMemoryRecord.memoryId r.memoryId (fun _ ↦ r) bs := by
            rw [has, hrec]

/-- A new record is found. -/
theorem localizar_inserir {memoryId plannerTaskId : Option String} {nova : CopilotMemoryHistory}
    (hnone : db.localizarRecord memoryId plannerTaskId = none)
    (hid : ∀ m, memoryId = some m → r.memoryId = m)
    (htask : memoryId = none → ∃ t, plannerTaskId = some t ∧ r.plannerTaskId = some t)
    (hdb : db.inserir r nova = .ok db') : db'.localizarRecord memoryId plannerTaskId = some r := by
  obtain ⟨hfree, hrecords, -⟩ := of_inserir hdb
  rw [Banco.localizarRecord, Option.or_eq_none_iff] at hnone
  rw [Banco.localizarRecord, Option.or_eq_some_iff]
  cases memoryId with
  | some m =>
    left
    obtain rfl := hid m rfl
    rw [Option.bind_some, Banco.record, hrecords, Table.lookup_concat]
    rw [Banco.record] at hfree
    rw [hfree]
    simp
  | none =>
    right
    obtain ⟨t, rfl, hrtask⟩ := htask rfl
    refine ⟨rfl, ?_⟩
    rw [Option.bind_some, hrecords, List.find?_append]
    rw [Option.bind_some] at hnone
    rw [hnone.2]
    simp [hrtask]

/-! ## What is compared -/

/-- The content, the hash, the version, and what is known about Planner. -/
def observar (r : CopilotMemoryRecord) : String × Snapshot × String × ℕ × SyncStatus × String :=
  (r.memoryId, r.toSnapshot, r.contentHash, r.versao, r.plannerSyncStatus, r.plannerAppliedHash)

/-- The tables say the same about every memory. -/
structure Mesmo (db db' : Banco) : Prop where
  history : db'.history = db.history
  records : db'.records.map observar = db.records.map observar

/-- A record that is written as it was. -/
theorem mesmo_atualizar (hk : Table.Keyed CopilotMemoryRecord.memoryId db.records)
    (hr : record ∈ db.records) (hobservar : observar r = observar record)
    (hdb : db.atualizar r [] = .ok db') : Mesmo db db' := by
  obtain ⟨hrecords, hhistory⟩ := of_atualizar hdb
  refine ⟨by rw [hhistory, List.append_nil], ?_⟩
  rw [hrecords, Table.update, List.map_map]
  refine List.map_congr_left fun x hx ↦ ?_
  by_cases hid : x.memoryId = r.memoryId
  · have hsame : x = record :=
      hk.eq_of_key_eq hx hr (hid.trans (congrArg Prod.fst hobservar))
    rw [Function.comp_apply, if_pos hid, hobservar, hsame]
  · rw [Function.comp_apply, if_neg hid]

/-! ## After the first call -/

/-- The record is what the payload makes of it. -/
structure Assentado (cfg : Config) (payload : Payload) (r : CopilotMemoryRecord) : Prop where
  livre : ¬(payload.dePlanner cfg = true ∧ r.plannerSyncStatus = .pendente)
  igual : ∃ snapshot, montarSnapshot payload (some r.toSnapshot) = .ok snapshot ∧
    r.contentHash = contentHash cfg snapshot ∧
    decidir cfg payload r.plannerTaskId snapshot r.toEstadoPlanner = .ok r.toEstadoPlanner

/-- A report that is not what was applied, of a record with a pending update. -/
def Conflita (cfg : Config) (payload : Payload) (record : CopilotMemoryRecord) : Prop :=
  payload.dePlanner cfg = true ∧ record.plannerSyncStatus = .pendente ∧
    avaliarPlannerDurantePendencia cfg payload record.plannerAppliedHash = .ok .conflito

/-- The record has a pending update, and Planner reports what was applied. -/
def Ecoa (cfg : Config) (payload : Payload) (record : CopilotMemoryRecord) : Prop :=
  payload.dePlanner cfg = true ∧ record.plannerSyncStatus = .pendente ∧
    avaliarPlannerDurantePendencia cfg payload record.plannerAppliedHash = .ok .eco

/-- A decision leaves no update pending that Planner has reported. -/
private theorem livre_of_decidir {plannerTaskId : Option String} {s : Snapshot}
    {e e' : EstadoPlanner} (h : decidir cfg payload plannerTaskId s e = .ok e') :
    ¬(payload.dePlanner cfg = true ∧ e'.plannerSyncStatus = .pendente) := by
  rintro ⟨hp, hpendente⟩
  rw [decidir_dePlanner hp h] at hpendente
  cases hpendente

/-- The task that the payload asks for is that of the merged snapshot. -/
private theorem tarefa_montarSnapshot {atual : Option Snapshot} {s : Snapshot}
    (h : montarSnapshot payload atual = .ok s) {t : String}
    (ht : textoOuNone payload.plannerTaskId = some t) : s.plannerTaskId = some t := by
  rw [montarSnapshot_eq] at h
  obtain ⟨q, -, h⟩ := bind_eq_ok.mp h
  cases h
  have hcom : ∀ x : Snapshot, x.comAssunto.plannerTaskId = x.plannerTaskId := by
    intro x
    rw [Snapshot.comAssunto]
    split <;> rfl
  have hsome : payload.plannerTaskId.isSome = true := by
    cases htask : payload.plannerTaskId with
    | none =>
      have hvazio : textoOuNone none = none := by decide
      rw [htask, hvazio] at ht
      cases ht
    | some _ => rfl
  rw [hcom, mesclar, if_pos hsome, ht]

/-- **The first call.** The record is found again, and either the payload has nothing more to say
about it, or a report was compared with a pending update. -/
theorem deixado {correlationId : String} {changed : Bool}
    (hk : Table.Keyed CopilotMemoryRecord.memoryId db.records)
    (h : sincronizarItem cfg payload correlationId db = .ok (db', r, changed)) :
    db'.localizarRecord (textoOuNone payload.memoryId) (textoOuNone payload.plannerTaskId)
        = some r ∧
      (Assentado cfg payload r ∨ Ecoa cfg payload r ∨
        ∃ record, db.localizarRecord (textoOuNone payload.memoryId)
            (textoOuNone payload.plannerTaskId) = some record ∧ Conflita cfg payload record ∧
          r.plannerSyncStatus = .conflito ∧ r.toSnapshot = record.toSnapshot ∧
          r.contentHash = record.contentHash ∧ r.memoryId = record.memoryId ∧
          db.atualizar r [] = .ok db') := by
  obtain ⟨record, hrecord, ⟨hplanner, hpendente, hvisto, hdb⟩ | ⟨snapshot, hsnapshot, hlivre,
    ⟨hhash, higual, hdb⟩ | ⟨hhash, hnovo, hdb⟩⟩⟩ |
    ⟨memoryId, snapshot, ⟨hnone, hid, hne⟩, hsnapshot, hnovo, hdb⟩ := sincronizarItem_cases h
  · obtain ⟨avaliacao, havaliacao, hvisto⟩ := bind_eq_ok.mp hvisto
    cases avaliacao with
    | eco =>
      cases hvisto
      refine ⟨localizar_atualizar hk hrecord rfl (fun t _ ht ↦ ht) hdb, .inr (.inl ?_)⟩
      exact ⟨hplanner, hpendente, havaliacao⟩
    | conflito =>
      cases hvisto
      refine ⟨localizar_atualizar hk hrecord rfl (fun t _ ht ↦ ht) hdb, .inr (.inr ?_)⟩
      exact ⟨record, hrecord, ⟨hplanner, hpendente, havaliacao⟩, rfl, rfl, rfl, rfl, hdb⟩
  · obtain ⟨estado, hestado, higual⟩ := bind_eq_ok.mp higual
    cases higual
    refine ⟨localizar_atualizar hk hrecord rfl (fun t _ ht ↦ ht) hdb, .inl ⟨?_, snapshot, ?_⟩⟩
    · exact livre_of_decidir hestado
    · exact ⟨hsnapshot, hhash, decidir_again hestado⟩
  · obtain ⟨estado, hestado, hnovo⟩ := bind_eq_ok.mp hnovo
    cases hnovo
    refine ⟨localizar_atualizar hk hrecord rfl ?_ hdb, .inl ⟨?_, snapshot, ?_⟩⟩
    · exact fun t ht _ ↦ tarefa_montarSnapshot hsnapshot ht
    · exact livre_of_decidir hestado
    · exact ⟨montarSnapshot_again hsnapshot, rfl, decidir_again hestado⟩
  · obtain ⟨estado, hestado, hnovo⟩ := bind_eq_ok.mp hnovo
    cases hnovo
    refine ⟨localizar_inserir hnone ?_ ?_ hdb, .inl ⟨?_, snapshot, ?_⟩⟩
    · intro m hm
      rw [hid, hm]
      rfl
    · intro hm
      -- The identifier was generated, so there is a task.
      rw [hm, Option.getD_none, gerarMemoryId] at hid
      have htexto : ¬texto payload.plannerTaskId = "" := by
        intro hvazio
        rw [if_pos hvazio] at hid
        exact hne hid
      have htarefa : textoOuNone payload.plannerTaskId = some (texto payload.plannerTaskId) :=
        if_neg htexto
      exact ⟨_, htarefa, tarefa_montarSnapshot hsnapshot htarefa⟩
    · exact livre_of_decidir hestado
    · exact ⟨montarSnapshot_again hsnapshot, rfl, decidir_again hestado⟩

/-! ## The second call -/

/-- A call that finds a record with nothing more to say says the same. -/
theorem Assentado.mesmo {correlationId : String} {changed : Bool} {r' : CopilotMemoryRecord}
    (hk : Table.Keyed CopilotMemoryRecord.memoryId db.records)
    (hr : db.localizarRecord (textoOuNone payload.memoryId) (textoOuNone payload.plannerTaskId)
      = some r) (ha : Assentado cfg payload r)
    (h : sincronizarItem cfg payload correlationId db = .ok (db', r', changed)) : Mesmo db db' := by
  obtain ⟨snapshot, hsnapshot, hhash, hdecidir⟩ := ha.igual
  obtain ⟨record, hrecord, ⟨hplanner, hpendente, -, -⟩ | ⟨snapshot', hsnapshot', -,
    ⟨-, higual, hdb⟩ | ⟨hmuda, -, -⟩⟩⟩ | ⟨memoryId, snapshot', ⟨hnone, -⟩, -⟩ :=
    sincronizarItem_cases h
  · obtain rfl := Option.some.inj (hr.symm.trans hrecord)
    exact absurd ⟨hplanner, hpendente⟩ ha.livre
  · obtain rfl := Option.some.inj (hr.symm.trans hrecord)
    obtain rfl := Except.ok.inj (hsnapshot.symm.trans hsnapshot')
    rw [semMudanca, hdecidir, ok_bind] at higual
    obtain rfl := Except.ok.inj higual
    exact mesmo_atualizar hk (localizarRecord_mem hr) (by rfl) hdb
  · obtain rfl := Option.some.inj (hr.symm.trans hrecord)
    obtain rfl := Except.ok.inj (hsnapshot.symm.trans hsnapshot')
    exact absurd hhash hmuda
  · rw [hr] at hnone
    cases hnone

/-- A report of what was applied, once more. -/
theorem Ecoa.mesmo {correlationId : String} {changed : Bool} {r' : CopilotMemoryRecord}
    (hk : Table.Keyed CopilotMemoryRecord.memoryId db.records)
    (hr : db.localizarRecord (textoOuNone payload.memoryId) (textoOuNone payload.plannerTaskId)
      = some r) (ha : Ecoa cfg payload r)
    (h : sincronizarItem cfg payload correlationId db = .ok (db', r', changed)) : Mesmo db db' := by
  obtain ⟨hplanner, hpendente, heco⟩ := ha
  obtain ⟨record, hrecord, ⟨-, -, hvisto, hdb⟩ | ⟨-, -, hlivre, -⟩⟩ |
    ⟨memoryId, snapshot', ⟨hnone, -⟩, -⟩ := sincronizarItem_cases h
  · obtain rfl := Option.some.inj (hr.symm.trans hrecord)
    rw [durantePendencia, heco, ok_bind] at hvisto
    obtain rfl := Except.ok.inj hvisto
    exact mesmo_atualizar hk (localizarRecord_mem hr) (by rfl) hdb
  · obtain rfl := Option.some.inj (hr.symm.trans hrecord)
    exact absurd ⟨hplanner, hpendente⟩ hlivre
  · rw [hr] at hnone
    cases hnone

/-- The task of the record is looked for in the other records only. -/
theorem tarefaOcupada_atualizar {novas : List CopilotMemoryHistory} {r' : CopilotMemoryRecord}
    (hid : r'.memoryId = r.memoryId) (hdb : db.atualizar r novas = .ok db') :
    db'.tarefaOcupada r' = db.tarefaOcupada r' := by
  rw [Banco.tarefaOcupada, Banco.tarefaOcupada, (of_atualizar hdb).1, Table.update, List.any_map]
  have hsame : ((fun x : CopilotMemoryRecord ↦ decide (x.memoryId ≠ r'.memoryId)
      && decide (x.plannerTaskId = r'.plannerTaskId))
        ∘ fun x ↦ if x.memoryId = r.memoryId then r else x)
      = fun x ↦ decide (x.memoryId ≠ r'.memoryId)
        && decide (x.plannerTaskId = r'.plannerTaskId) := by
    funext x
    by_cases hx : x.memoryId = r.memoryId
    · rw [Function.comp_apply, if_pos hx, decide_eq_false (not_not.mpr hid.symm),
        decide_eq_false (not_not.mpr (hx.trans hid.symm)), Bool.false_and, Bool.false_and]
    · rw [Function.comp_apply, if_neg hx]
  rw [hsame]

/-- The report is accepted as an item of Planner: its percentage is one, and the task that it names
is not that of another record. -/
def Aceita (cfg : Config) (payload : Payload) (db : Banco) (record : CopilotMemoryRecord) : Prop :=
  ∃ snapshot, montarSnapshot payload (some record.toSnapshot) = .ok snapshot ∧
    (record.contentHash = contentHash cfg snapshot ∨
      db.tarefaOcupada { record with toSnapshot := snapshot } = false)

private theorem grava {r' : CopilotMemoryRecord} (novas : List CopilotMemoryHistory)
    (changed : Bool) (hocupada : db.tarefaOcupada r' = false) (hid : r'.memoryId = r.memoryId)
    (hstatus : r'.plannerSyncStatus = .sincronizado) :
    ∃ db' r'' changed', (do
        let db ← db.atualizar r' novas
        return (db, r', changed) : Except Erro (Banco × CopilotMemoryRecord × Bool))
          = .ok (db', r'', changed') ∧
      r''.memoryId = r.memoryId ∧ r''.plannerSyncStatus = .sincronizado ∧
      ∃ novas, db.atualizar r'' novas = .ok db' := by
  have hdb : db.atualizar r' novas = .ok {
      records := Table.update CopilotMemoryRecord.memoryId r'.memoryId (fun _ ↦ r') db.records
      history := db.history ++ novas } := by
    rw [Banco.atualizar, require_bind_of_true (by rw [hocupada]; exact Bool.false_ne_true)]
    rfl
  exact ⟨_, r', changed, by rw [hdb]; rfl, hid, hstatus, novas, hdb⟩

/-- An item that is accepted is written. -/
theorem aceita_sincroniza (hplanner : payload.dePlanner cfg = true)
    (hr : db.localizarRecord (textoOuNone payload.memoryId) (textoOuNone payload.plannerTaskId)
      = some r) (hlivre : r.plannerSyncStatus ≠ .pendente) (ha : Aceita cfg payload db r)
    (hocupada : db.tarefaOcupada r = false) (correlationId : String) :
    ∃ db' r' changed, sincronizarItem cfg payload correlationId db = .ok (db', r', changed) ∧
      r'.memoryId = r.memoryId ∧ r'.plannerSyncStatus = .sincronizado ∧
      ∃ novas, db.atualizar r' novas = .ok db' := by
  obtain ⟨snapshot, hsnapshot, haceita⟩ := ha
  have hdecidir : ∀ t s e, decidir cfg payload t s e = .ok {
      plannerAppliedHash := plannerHash cfg s.toCamposPlanner
      plannerSyncStatus := .sincronizado } := by
    intro t s e
    rw [decidir, if_pos (.inl hplanner), aplicarDecisaoPlanner, if_pos hplanner]
  rw [sincronizarItem, hr]
  dsimp only
  rw [if_neg fun h ↦ hlivre h.2, hsnapshot, ok_bind]
  by_cases hhash : r.contentHash = contentHash cfg snapshot
  · rw [if_pos hhash, semMudanca, hdecidir, ok_bind]
    exact grava [] false hocupada (by rfl) (by rfl)
  · rw [if_neg hhash, comMudanca, hdecidir, ok_bind]
    exact grava _ true (haceita.resolve_left hhash) (by rfl) (by rfl)

/-! ## Both calls -/

/-- **The exception.** Planner reports another state than the one that was applied, for a record
with a pending update, in a report that would be accepted if nothing were pending. -/
def EmRevisao (cfg : Config) (payload : Payload) (db : Banco) : Prop :=
  ∃ record, db.localizarRecord (textoOuNone payload.memoryId) (textoOuNone payload.plannerTaskId)
      = some record ∧ Conflita cfg payload record ∧ Aceita cfg payload db record

/-- What the exception looks at is not changed by the conflict. -/
private theorem aceita_iff_of_conflito {novas : List CopilotMemoryHistory}
    (hsnapshot : r.toSnapshot = record.toSnapshot) (hhash : r.contentHash = record.contentHash)
    (hid : r.memoryId = record.memoryId) (hdb : db.atualizar r novas = .ok db') :
    Aceita cfg payload db' r ↔ Aceita cfg payload db record := by
  have hocupada : ∀ snapshot, db'.tarefaOcupada { r with toSnapshot := snapshot }
      = db.tarefaOcupada { record with toSnapshot := snapshot } := by
    intro snapshot
    rw [tarefaOcupada_atualizar (by rfl) hdb, Banco.tarefaOcupada, Banco.tarefaOcupada, hid]
  refine exists_congr fun snapshot ↦ and_congr ?_ (or_congr ?_ ?_)
  · rw [hsnapshot]
  · rw [hhash]
  · rw [hocupada]

/-- What the exception leaves the first time. -/
theorem deixado_conflito {correlationId : String} {changed : Bool}
    (h : sincronizarItem cfg payload correlationId db = .ok (db', r, changed))
    (hrecord : db.localizarRecord (textoOuNone payload.memoryId)
      (textoOuNone payload.plannerTaskId) = some record) (hconflita : Conflita cfg payload record) :
    r.plannerSyncStatus = .conflito ∧ r.toSnapshot = record.toSnapshot ∧
      r.contentHash = record.contentHash ∧ r.memoryId = record.memoryId ∧
      db.atualizar r [] = .ok db' := by
  obtain ⟨hplanner, hpendente, havaliacao⟩ := hconflita
  rw [sincronizarItem, hrecord] at h
  dsimp only at h
  rw [if_pos ⟨hplanner, hpendente⟩] at h
  obtain ⟨visto, hvisto, h⟩ := bind_eq_ok.mp h
  obtain ⟨db₁, hdb, h⟩ := bind_eq_ok.mp h
  cases h
  rw [durantePendencia, havaliacao, ok_bind] at hvisto
  obtain rfl := Except.ok.inj hvisto
  exact ⟨rfl, rfl, rfl, rfl, hdb⟩

theorem livre_of_atualizar {novas : List CopilotMemoryHistory}
    (hdb : db.atualizar r novas = .ok db') : db.tarefaOcupada r = false := by
  obtain ⟨hlivre, -⟩ := require_bind_eq_ok.mp hdb
  exact Bool.not_eq_true _ ▸ hlivre

/-- What was written was accepted. -/
theorem aceita_of_sincroniza {correlationId : String} {changed : Bool} {r' : CopilotMemoryRecord}
    (hr : db.localizarRecord (textoOuNone payload.memoryId) (textoOuNone payload.plannerTaskId)
      = some r) (hlivre : r.plannerSyncStatus ≠ .pendente)
    (h : sincronizarItem cfg payload correlationId db = .ok (db', r', changed)) :
    Aceita cfg payload db r := by
  obtain ⟨record, hrecord, ⟨-, hpendente, -, -⟩ | ⟨snapshot, hsnapshot, -,
    ⟨hhash, -, -⟩ | ⟨-, hnovo, hdb⟩⟩⟩ | ⟨memoryId, snapshot, ⟨hnone, -⟩, -⟩ :=
    sincronizarItem_cases h
  · obtain rfl := Option.some.inj (hr.symm.trans hrecord)
    exact absurd hpendente hlivre
  · obtain rfl := Option.some.inj (hr.symm.trans hrecord)
    exact ⟨snapshot, hsnapshot, .inl hhash⟩
  · obtain rfl := Option.some.inj (hr.symm.trans hrecord)
    obtain ⟨estado, -, hnovo⟩ := bind_eq_ok.mp hnovo
    cases hnovo
    have hocupada := livre_of_atualizar hdb
    exact ⟨snapshot, hsnapshot, .inr hocupada⟩
  · rw [hr] at hnone
    cases hnone

/-- **Replays are idempotent**, with one exception: in every memory that can be reached, an item
that is accepted once leaves, when it is applied again, what it has left the first time, if and only
if it is not a report that was put into conflict and would be accepted now. -/
theorem replay_iff {tr : List Passo} (hrun : (memoria cfg).Run tr db) {correlationId : String}
    {changed : Bool} (h : sincronizarItem cfg payload correlationId db = .ok (db', r, changed)) :
    (∀ correlationId' db'' r' changed',
        sincronizarItem cfg payload correlationId' db' = .ok (db'', r', changed') →
          Mesmo db' db'') ↔
      ¬EmRevisao cfg payload db := by
  have hk := keyed_of_run hrun
  have hk' : Table.Keyed CopilotMemoryRecord.memoryId db'.records := by
    refine @keyed_of_run _ _ (tr ++ [(.sincronizar payload correlationId, .ok r)])
      (hrun.snoc ?_)
    change executar cfg (.sincronizar payload correlationId) db = (db', .ok r)
    rw [executar, h]
  obtain ⟨hr, hdeixado⟩ := deixado hk h
  constructor
  · rintro hmesmo ⟨record, hrecord, hconflita, haceita⟩
    -- The first call put the record into conflict.
    obtain ⟨hconflito, hsnapshot, hhash, hid, hdb⟩ := deixado_conflito h hrecord hconflita
    have haceita' := (aceita_iff_of_conflito hsnapshot hhash hid hdb).mpr haceita
    have hlivre : r.plannerSyncStatus ≠ .pendente := by
      rw [hconflito]
      decide
    have hocupada : db'.tarefaOcupada r = false :=
      (tarefaOcupada_atualizar rfl hdb).trans (livre_of_atualizar hdb)
    obtain ⟨db'', r', changed', h', hid', hstatus, novas, hdb'⟩ :=
      aceita_sincroniza hconflita.1 hr hlivre haceita' hocupada correlationId
    -- The second one writes another status.
    have hr' : r' ∈ db''.records := by
      rw [(of_atualizar hdb').1]
      exact Table.mem_update_self (localizarRecord_mem hr) hid'.symm
    have hmap := List.mem_map_of_mem (f := observar) hr'
    rw [(hmesmo _ _ _ _ h').records] at hmap
    obtain ⟨x, hx, hobservar⟩ := List.mem_map.mp hmap
    have hxid : x.memoryId = r.memoryId := (congrArg Prod.fst hobservar).trans hid'
    obtain rfl := hk'.eq_of_key_eq hx (localizarRecord_mem hr) hxid
    have hxstatus : x.plannerSyncStatus = r'.plannerSyncStatus :=
      congrArg (fun o ↦ o.2.2.2.2.1) hobservar
    rw [hconflito, hstatus] at hxstatus
    cases hxstatus
  · intro hrevisao correlationId' db'' r' changed' h'
    obtain ha | ha | ⟨record, hrecord, hconflita, hconflito, hsnapshot, hhash, hid, hdb⟩ := hdeixado
    · exact ha.mesmo hk' hr h'
    · exact ha.mesmo hk' hr h'
    · -- The second call would have accepted the report.
      refine absurd ⟨record, hrecord, hconflita, ?_⟩ hrevisao
      refine (aceita_iff_of_conflito hsnapshot hhash hid hdb).mp ?_
      exact aceita_of_sincroniza hr (by rw [hconflito]; decide) h'

/-! ## A report that arrives twice -/

/-- Planner reports a task, and an item changes it. -/
def sampleMudada : Banco :=
  (TransitionSystem.runCalls (executar sampleConfig)
    [.sincronizar (sampleItem "planner" 0) "corr-1", .sincronizar (sampleItem "reqsys" 50) "corr-2"]
    {}).2

/-- What a call writes. -/
def aplicar (payload : Payload) (db : Banco) : Option (Banco × CopilotMemoryRecord × Bool) :=
  (sincronizarItem sampleConfig payload "corr-3" db).toOption

private theorem of_aplicar {x : Banco × CopilotMemoryRecord × Bool}
    (h : aplicar payload db = some x) :
    sincronizarItem sampleConfig payload "corr-3" db = .ok x := by
  rw [aplicar] at h
  cases hcall : sincronizarItem sampleConfig payload "corr-3" db with
  | ok y =>
    rw [hcall] at h
    exact congrArg Except.ok (Option.some.inj h)
  | error e =>
    rw [hcall] at h
    cases h

/-- The item that changed the task, once more, and again. -/
theorem replay_sample :
    ∃ db' r changed, sincronizarItem sampleConfig (sampleItem "reqsys" 50) "corr-3" sampleMudada
        = .ok (db', r, changed) ∧
      ((∀ correlationId' db'' r' changed', sincronizarItem sampleConfig (sampleItem "reqsys" 50)
          correlationId' db' = .ok (db'', r', changed') → Mesmo db' db'') ↔
        ¬EmRevisao sampleConfig (sampleItem "reqsys" 50) sampleMudada) := by
  have hsome : (aplicar (sampleItem "reqsys" 50) sampleMudada).isSome = true := by decide +kernel
  obtain ⟨⟨db', r, changed⟩, haplicar⟩ := Option.isSome_iff_exists.mp hsome
  have hcall := of_aplicar haplicar
  exact ⟨db', r, changed, hcall,
    replay_iff (TransitionSystem.run_runCalls ({} : Banco) (executar sampleConfig) _) hcall⟩

/-- Planner reports another percentage than the one that is to be sent. The first time, the record
is put into conflict; the second time, the local change is gone. -/
theorem review_lost :
    ∃ tr db db' db'' r r', (memoria sampleConfig).Run tr db ∧
      sincronizarItem sampleConfig (sampleItem "planner" 100) "corr-3" db = .ok (db', r, false) ∧
      sincronizarItem sampleConfig (sampleItem "planner" 100) "corr-3" db' = .ok (db'', r', true) ∧
      r.plannerSyncStatus = .conflito ∧ r.plannerPercentual = 50 ∧ r.versao = 2 ∧
      r'.memoryId = r.memoryId ∧ r'.plannerSyncStatus = .sincronizado ∧
      r'.plannerPercentual = 100 ∧ r'.versao = 3 := by
  have hboth : ((aplicar (sampleItem "planner" 100) sampleMudada).bind fun x ↦
      (aplicar (sampleItem "planner" 100) x.1).map fun y ↦ decide (
        x.2.2 = false ∧ y.2.2 = true ∧ x.2.1.plannerSyncStatus = .conflito ∧
        x.2.1.plannerPercentual = 50 ∧ x.2.1.versao = 2 ∧ y.2.1.memoryId = x.2.1.memoryId ∧
        y.2.1.plannerSyncStatus = .sincronizado ∧ y.2.1.plannerPercentual = 100 ∧
        y.2.1.versao = 3)) = some true := by decide +kernel
  obtain ⟨⟨db', r, changed⟩, hfirst, hboth⟩ := Option.bind_eq_some_iff.mp hboth
  obtain ⟨⟨db'', r', changed'⟩, hsecond, hfacts⟩ := Option.map_eq_some_iff.mp hboth
  obtain ⟨rfl, rfl, hfacts⟩ := of_decide_eq_true hfacts
  exact ⟨_, sampleMudada, db', db'', r, r',
    TransitionSystem.run_runCalls ({} : Banco) (executar sampleConfig) _, of_aplicar hfirst,
    of_aplicar hsecond, hfacts⟩

end CopilotMemory

end ReqSys
