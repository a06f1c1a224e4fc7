import ReqSys.CopilotMemory.Service
import ReqSys.Foundation.TransitionSystem
import Mathlib.Data.List.Chain

/-!
# Copilot memory: hash and history

Every version of a memory has a row of history with its snapshot, and the hash of the last row is
the hash of the content. The task of Planner belongs to the content. `confirmar_comando_planner` may
change it without a new hash, version or row, and the next item without any change then looks like
one.

`versionado_of_run` says that this is the only way: if no confirmation brings another task than the
record has, hash, version and history agree after every sequence of calls.
-/

namespace ReqSys

namespace CopilotMemory

/-! ## Sequences of calls -/

inductive Chamada
  | sincronizar (payload : Payload) (correlationId : String)
  | confirmar (c : Confirmacao)

/-- A call, with the record it returns. A call that raises leaves the tables as they are. -/
def executar (cfg : Config) : Chamada → Banco → Banco × Except Erro CopilotMemoryRecord
  | .sincronizar payload correlationId, db =>
    match sincronizarItem cfg payload correlationId db with
    | .ok (db', r, _) => (db', .ok r)
    | .error x => (db, .error x)
  | .confirmar c, db =>
    match confirmarComandoPlanner cfg c db with
    | .ok (db', r) => (db', .ok r)
    | .error x => (db, .error x)

/-- A call with its outcome. -/
abbrev Passo := Chamada × Except Erro CopilotMemoryRecord

/-- Sequences of calls on empty tables. -/
def memoria (cfg : Config) : TransitionSystem Banco Passo :=
  TransitionSystem.ofExec {} (executar cfg)

/-! ## The history of a record -/

/-- The rows of a memory, in the order they were written. -/
def Banco.historico (db : Banco) (memoryId : String) : List CopilotMemoryHistory :=
  db.history.filter fun x ↦ x.memoryId = memoryId

/-- Hash, version and history of a record agree. -/
structure Versionado (cfg : Config) (db : Banco) (r : CopilotMemoryRecord) : Prop where
  /-- The hash is that of the content. -/
  hash : r.contentHash = contentHash cfg r.toSnapshot
  /-- The rows have the versions `1, …, versao`. -/
  versoes : (db.historico r.memoryId).map CopilotMemoryHistory.versao = List.range' 1 r.versao
  /-- Every row holds the snapshot that its hash is of. -/
  linhas : ∀ x ∈ db.historico r.memoryId, x.contentHash = contentHash cfg x.snapshot
  /-- The last row is of the current content. -/
  ultima : (db.historico r.memoryId).getLast?.map CopilotMemoryHistory.contentHash
    = some r.contentHash
  /-- Every version changed the content. -/
  mudancas : (db.historico r.memoryId).IsChain fun x y ↦ x.contentHash ≠ y.contentHash

/-- The invariant: there is one record for every memory id in the tables, and its history agrees
with it. -/
structure Integro (cfg : Config) (db : Banco) : Prop where
  keyed : Table.Keyed CopilotMemoryRecord.memoryId db.records
  linhas : ∀ x ∈ db.history, ∃ r ∈ db.records, r.memoryId = x.memoryId
  versionado : ∀ r ∈ db.records, Versionado cfg db r

section Writes

variable {cfg : Config} {db db' : Banco} {r r' : CopilotMemoryRecord}

theorem historico_concat {x : CopilotMemoryHistory} (h : db'.history = db.history ++ [x])
    (memoryId : String) : db'.historico memoryId
      = if x.memoryId = memoryId then db.historico memoryId ++ [x] else db.historico memoryId := by
  rw [Banco.historico, h, List.filter_append, List.filter_singleton]
  by_cases hid : x.memoryId = memoryId
  · rw [if_pos hid, decide_eq_true hid]
    rfl
  · rw [if_neg hid, decide_eq_false hid]
    exact List.append_nil _

/-- A record whose rows are the same. -/
theorem Versionado.of_eq (h : Versionado cfg db r) (hid : r'.memoryId = r.memoryId)
    (hhistorico : db'.historico r.memoryId = db.historico r.memoryId)
    (hversao : r'.versao = r.versao) (hcontent : r'.contentHash = r.contentHash)
    (hhash : r'.contentHash = contentHash cfg r'.toSnapshot) : Versionado cfg db' r' := by
  refine ⟨hhash, ?_, ?_, ?_, ?_⟩
  all_goals rw [hid, hhistorico]
  · rw [hversao]
    exact h.versoes
  · exact h.linhas
  · rw [hcontent]
    exact h.ultima
  · exact h.mudancas

/-- An update that writes no version. -/
theorem integro_atualizar (h : Integro cfg db) (hr : r ∈ db.records)
    (hid : r'.memoryId = r.memoryId) (hversao : r'.versao = r.versao)
    (hcontent : r'.contentHash = r.contentHash)
    (hhash : r'.contentHash = contentHash cfg r'.toSnapshot)
    (hdb : db.atualizar r' [] = .ok db') : Integro cfg db' := by
  obtain ⟨hrecords, hhistory⟩ := of_atualizar hdb
  rw [List.append_nil] at hhistory
  have hhistorico : ∀ m, db'.historico m = db.historico m := fun m ↦ by
    rw [Banco.historico, hhistory, ← Banco.historico]
  refine ⟨?_, fun x hx ↦ ?_, fun x hx ↦ ?_⟩
  · rw [hrecords]
    exact h.keyed.keyed_update_key rfl
  · rw [hhistory] at hx
    obtain ⟨r'', hr'', hxid⟩ := h.linhas x hx
    rw [hrecords]
    by_cases hkey : r''.memoryId = r'.memoryId
    · exact ⟨r', Table.mem_update_self hr'' hkey, hkey.symm.trans hxid⟩
    · exact ⟨r'', Table.mem_update_of_ne hr'' hkey, hxid⟩
  · rw [hrecords] at hx
    obtain ⟨hx, -⟩ | ⟨_, -, -, rfl⟩ := Table.mem_update hx
    · exact (h.versionado x hx).of_eq rfl (hhistorico _) rfl rfl (h.versionado x hx).hash
    · exact (h.versionado r hr).of_eq hid (hhistorico _) hversao hcontent hhash

/-- The rows after the first or next version was written. -/
theorem versionado_concat (anteriores : List CopilotMemoryHistory) (origem correlationId : String)
    (hversoes : anteriores.map CopilotMemoryHistory.versao ++ [r'.versao]
      = List.range' 1 r'.versao)
    (hlinhas : ∀ x ∈ anteriores, x.contentHash = contentHash cfg x.snapshot)
    (hmudancas : anteriores.IsChain fun x y ↦ x.contentHash ≠ y.contentHash)
    (hultima : ∀ x ∈ anteriores.getLast?, x.contentHash ≠ r'.contentHash)
    (hhash : r'.contentHash = contentHash cfg r'.toSnapshot)
    (hhistorico : db'.historico r'.memoryId = anteriores ++ [r'.historico origem correlationId]) :
    Versionado cfg db' r' := by
  refine ⟨hhash, ?_, ?_, ?_, ?_⟩
  all_goals rw [hhistorico]
  · rw [List.map_append]
    exact hversoes
  · intro x hx
    obtain hx | hx := List.mem_append.mp hx
    · exact hlinhas x hx
    · rw [List.mem_singleton.mp hx]
      exact hhash
  · rw [List.getLast?_concat]
    rfl
  · refine hmudancas.append (List.isChain_singleton _) fun x hx y hy ↦ ?_
    obtain rfl : r'.historico origem correlationId = y := Option.some.inj hy
    exact hultima x hx

/-- An update that writes the next version. -/
theorem integro_versao (h : Integro cfg db) (hr : r ∈ db.records) (hid : r'.memoryId = r.memoryId)
    (hversao : r'.versao = r.versao + 1) (hcontent : r.contentHash ≠ r'.contentHash)
    (hhash : r'.contentHash = contentHash cfg r'.toSnapshot) {origem correlationId : String}
    (hdb : db.atualizar r' [r'.historico origem correlationId] = .ok db') : Integro cfg db' := by
  obtain ⟨hrecords, hhistory⟩ := of_atualizar hdb
  have hnovo : r' ∈ db'.records := by
    rw [hrecords]
    exact Table.mem_update_self hr hid.symm
  refine ⟨?_, fun x hx ↦ ?_, fun x hx ↦ ?_⟩
  · rw [hrecords]
    exact h.keyed.keyed_update_key rfl
  · rw [hhistory] at hx
    obtain hx | hx := List.mem_append.mp hx
    · obtain ⟨r'', hr'', hxid⟩ := h.linhas x hx
      by_cases hkey : r''.memoryId = r'.memoryId
      · exact ⟨r', hnovo, hkey.symm.trans hxid⟩
      · rw [hrecords]
        exact ⟨r'', Table.mem_update_of_ne hr'' hkey, hxid⟩
    · rw [List.mem_singleton.mp hx]
      exact ⟨r', hnovo, rfl⟩
  · rw [hrecords] at hx
    obtain ⟨hx, hne⟩ | ⟨_, -, -, rfl⟩ := Table.mem_update hx
    · refine (h.versionado x hx).of_eq rfl ?_ rfl rfl (h.versionado x hx).hash
      exact (historico_concat hhistory _).trans (if_neg (Ne.symm hne))
    · have hv := h.versionado r hr
      refine versionado_concat (db.historico r.memoryId) origem correlationId ?_ hv.linhas hv.mudancas ?_
        hhash ?_
      · rw [hv.versoes, hversao, List.range'_1_concat, Nat.add_comm]
      · intro x hx
        have hultima := hv.ultima
        rw [hx] at hultima
        rw [Option.some.inj hultima]
        exact hcontent
      · rw [← hid]
        exact (historico_concat hhistory _).trans (if_pos rfl)

/-- A new record. -/
theorem integro_inserir (h : Integro cfg db) (hversao : r.versao = 1)
    (hhash : r.contentHash = contentHash cfg r.toSnapshot) {origem correlationId : String}
    (hdb : db.inserir r (r.historico origem correlationId) = .ok db') : Integro cfg db' := by
  obtain ⟨hnone, hrecords, hhistory⟩ := of_inserir hdb
  have hfresh : ∀ x ∈ db.records, x.memoryId ≠ r.memoryId :=
    fun x hx ↦ Table.ne_key_of_lookup_none hnone hx
  refine ⟨?_, fun x hx ↦ ?_, fun x hx ↦ ?_⟩
  · rw [hrecords]
    exact h.keyed.concat hfresh
  · rw [hhistory] at hx
    rw [hrecords]
    obtain hx | hx := List.mem_append.mp hx
    · obtain ⟨r', hr', hxid⟩ := h.linhas x hx
      exact ⟨r', List.mem_append_left _ hr', hxid⟩
    · rw [List.mem_singleton.mp hx]
      exact ⟨r, List.mem_append_right _ List.mem_cons_self, rfl⟩
  · rw [hrecords] at hx
    obtain hx | hx := List.mem_append.mp hx
    · refine (h.versionado x hx).of_eq rfl ?_ rfl rfl (h.versionado x hx).hash
      exact (historico_concat hhistory _).trans (if_neg (Ne.symm (hfresh x hx)))
    · rw [List.mem_singleton.mp hx]
      have hempty : db.historico r.memoryId = [] := by
        refine List.filter_eq_nil_iff.mpr fun y hy heq ↦ ?_
        obtain ⟨r', hr', hyid⟩ := h.linhas y hy
        exact hfresh r' hr' (hyid.trans (of_decide_eq_true heq))
      refine versionado_concat [] origem correlationId ?_ (fun x hx ↦ nomatch hx) .nil
        (fun x hx ↦ nomatch hx) hhash ?_
      · rw [hversao]
        rfl
      · calc db'.historico r.memoryId
            = db.historico r.memoryId ++ [r.historico origem correlationId] :=
              (historico_concat hhistory _).trans (if_pos rfl)
          _ = [] ++ [r.historico origem correlationId] := by rw [hempty]

end Writes

/-! ## Runs -/

/-- The condition on a call: a confirmation brings no other task than the record has. -/
def Confere (db : Banco) : Chamada → Prop
  | .sincronizar _ _ => True
  | .confirmar c => ∀ r, db.record c.memoryId = some r → c.tarefa r.plannerTaskId = r.plannerTaskId

instance (db : Banco) (c : Chamada) : Decidable (Confere db c) :=
  match c with
  | .sincronizar _ _ => instDecidableTrue
  | .confirmar c => inferInstanceAs
      (Decidable (∀ r ∈ db.record c.memoryId, c.tarefa r.plannerTaskId = r.plannerTaskId))

/-- Sequences of calls that meet the condition. -/
def conferidas (cfg : Config) : TransitionSystem Banco Passo :=
  (memoria cfg).restrict fun db m ↦ Confere db m.1

section Runs

variable {cfg : Config} {db db' : Banco}

theorem integro_sincronizar (h : Integro cfg db) {payload : Payload} {correlationId : String}
    {r : CopilotMemoryRecord} {changed : Bool}
    (hcall : sincronizarItem cfg payload correlationId db = .ok (db', r, changed)) :
    Integro cfg db' := by
  obtain ⟨record, hrecord, ⟨-, -, hvisto, hdb⟩ | ⟨snapshot, -, -, ⟨-, higual, hdb⟩ |
    ⟨hhash, hnovo, hdb⟩⟩⟩ | ⟨memoryId, snapshot, -, -, hnovo, hdb⟩ := sincronizarItem_cases hcall
  · have hr := localizarRecord_mem hrecord
    obtain ⟨avaliacao, -, hvisto⟩ := bind_eq_ok.mp hvisto
    have hhash := (h.versionado record hr).hash
    cases avaliacao with
    | eco =>
      cases hvisto
      exact integro_atualizar h hr (by rfl) (by rfl) (by rfl) (by exact hhash) hdb
    | conflito =>
      cases hvisto
      exact integro_atualizar h hr (by rfl) (by rfl) (by rfl) (by exact hhash) hdb
  · have hr := localizarRecord_mem hrecord
    obtain ⟨estado, -, higual⟩ := bind_eq_ok.mp higual
    cases higual
    exact integro_atualizar h hr (by rfl) (by rfl) (by rfl)
      (by exact (h.versionado record hr).hash) hdb
  · obtain ⟨estado, -, hnovo⟩ := bind_eq_ok.mp hnovo
    cases hnovo
    exact integro_versao h (localizarRecord_mem hrecord) (by rfl) (by rfl) hhash (by rfl) hdb
  · obtain ⟨estado, -, hnovo⟩ := bind_eq_ok.mp hnovo
    cases hnovo
    exact integro_inserir h rfl rfl hdb

theorem integro_confirmar (h : Integro cfg db) {c : Confirmacao} {r : CopilotMemoryRecord}
    (hconfere : Confere db (.confirmar c)) (hcall : confirmarComandoPlanner cfg c db = .ok (db', r)) :
    Integro cfg db' := by
  obtain ⟨record, hrecord, hcall⟩ := orThrow_bind_eq_ok.mp hcall
  obtain ⟨db'', hdb, hcall⟩ := bind_eq_ok.mp hcall
  cases hcall
  have hr := Table.mem_of_lookup hrecord
  refine integro_atualizar h hr (by rfl) (by rfl) (by rfl) ?_ hdb
  have hsnapshot : (record.confirmado cfg c).toSnapshot = record.toSnapshot := by
    rw [CopilotMemoryRecord.confirmado, hconfere record hrecord]
  rw [hsnapshot]
  exact (h.versionado record hr).hash

/-- **When hash, version and history agree.** In every sequence of calls in which no confirmation
brings another task than the record has, they agree for every record. -/
theorem versionado_of_run {tr : List Passo} (h : (conferidas cfg).Run tr db) :
    ∀ r ∈ db.records, Versionado cfg db r := by
  refine (TransitionSystem.Run.invariant (I := Integro cfg) (fun hinit ↦ ?_)
    (fun {db m db'} hI hstep ↦ ?_) h).versionado
  · rw [hinit]
    exact ⟨List.nodup_nil, fun x hx ↦ (nomatch hx), fun r hr ↦ (nomatch hr)⟩
  · obtain ⟨hconfere, hstep⟩ := hstep
    obtain rfl : (executar cfg m.1 db).1 = db' := congrArg Prod.fst hstep
    obtain ⟨m, _⟩ := m
    cases m with
    | sincronizar payload correlationId =>
      rw [executar]
      split
      next hcall => exact integro_sincronizar hI hcall
      next => exact hI
    | confirmar c =>
      rw [executar]
      split
      next hcall => exact integro_confirmar hI hconfere hcall
      next => exact hI

end Runs

/-! ## A confirmed task -/

/-- Planner reports a task, an item changes it, and the update is confirmed for `tarefa`. -/
def sampleChamadas (tarefa : Option String) : List Chamada :=
  [.sincronizar (sampleItem "planner" 0) "corr-1", .sincronizar (sampleItem "reqsys" 50) "corr-2",
    .confirmar { memoryId := sampleMemoryId, sucesso := true, correlationId := "corr-3",
                 plannerTaskId := tarefa }]

/-- The trace and the tables after the calls. -/
def sampleMemoria (tarefa : Option String) : List Passo × Banco :=
  TransitionSystem.runCalls (executar sampleConfig) (sampleChamadas tarefa) {}

theorem run_sampleMemoria (tarefa : Option String) :
    (memoria sampleConfig).Run (sampleMemoria tarefa).1 (sampleMemoria tarefa).2 :=
  TransitionSystem.run_runCalls _ _ _

/-- Confirmed for its own task, the memory has two versions. -/
theorem versionado_sample :
    ((sampleMemoria (some "task-1")).2.records.map CopilotMemoryRecord.versao = [2]) ∧
    ∀ r ∈ (sampleMemoria (some "task-1")).2.records,
      Versionado sampleConfig (sampleMemoria (some "task-1")).2 r :=
  ⟨by decide +kernel,
    have hrun : (conferidas sampleConfig).Run (sampleMemoria (some "task-1")).1
        (sampleMemoria (some "task-1")).2 :=
      TransitionSystem.run_restrict_runCalls _ (by decide +kernel)
    versionado_of_run hrun⟩

/-- Confirmed for another task, the content has no longer the hash of the record, nor that of the
last row of history. -/
theorem hash_not_of_content :
    ∃ tr db, (memoria sampleConfig).Run tr db ∧
      ∃ r ∈ db.records, ¬Versionado sampleConfig db r := by
  refine ⟨_, _, run_sampleMemoria (some "task-2"), ?_⟩
  have hhash : ∃ r ∈ (sampleMemoria (some "task-2")).2.records,
      r.contentHash ≠ contentHash sampleConfig r.toSnapshot := by
    decide +kernel
  obtain ⟨r, hr, hhash⟩ := hhash
  exact ⟨r, hr, fun h ↦ hhash h.hash⟩

end CopilotMemory

end ReqSys
