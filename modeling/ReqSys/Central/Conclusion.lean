import ReqSys.Central.Calls
import ReqSys.Foundation.Checked

/-!
# The Central: no conclusion without proof

An `EVIDENCED` request should be backed by the current evidence: a record of the request's own SHA
with status `EVIDENCED`. The service guards the conclusion with a gate that reads the request and
then the ledger, before the compare-and-swap that concludes.

Three kinds of call can leave a request concluded without that proof.

* The concluding compare-and-swap, when what the gate read no longer holds, or when the request has
  no SHA and the gate therefore compared none.
* The ledger write of `registrar_evidencia`, which does not look at the status of the request.
* Its second write, which aligns the SHA of the request whatever its status.

`Mantem` says for each call exactly when it keeps the proof: in a run whose calls all meet it every
conclusion is proved, and the first call that does not meet it leaves one that is not. Without
interference and with a known SHA the gate does what it is there for: `transicionar_alone`.
-/

namespace ReqSys

namespace Central

/-! ## The property -/

/-- The current evidence proves the request: same SHA, all verifications passed. -/
def Comprovada (s : Store) (r : WorkRequest) : Prop :=
  ∃ ev ∈ s.obterEvidencia r.requestId, r.sha = some ev.sha ∧ ev.status = .evidenced

instance (s : Store) (r : WorkRequest) : Decidable (Comprovada s r) :=
  inferInstanceAs (Decidable (∃ ev ∈ s.obterEvidencia r.requestId, _))

/-- Every concluded request is proved. -/
def ConclusionProved (s : Store) : Prop :=
  ∀ r ∈ s.requests, r.status = .evidenced → Comprovada s r

instance (s : Store) : Decidable (ConclusionProved s) :=
  inferInstanceAs (Decidable (∀ r ∈ s.requests, _))

/-! ## The condition -/

/-- The request an `atualizar` reads, if it is not given up and the mutator accepts it. -/
def Store.aceita (s : Store) (b : Backend) (requestId : String) (m : Mutator) (e : Env) :
    Option WorkRequest :=
  if b = .redis ∧ e.conflito = true then none
  else (s.find requestId).filter fun raw ↦ (ler b raw >>= m.apply e.agora).toBool

/-- What the mutators need of the request they are applied to. -/
def Mutator.Mantem (s : Store) (raw : WorkRequest) : Mutator → Prop
  | promover _ => True
  | transicionar novoStatus _ _ => novoStatus = .evidenced →
    raw.sha.isSome = true ∧ s.statusEvidencia raw.requestId raw.sha = .evidenced
  | alinhar sha _ => raw.status = .evidenced → raw.sha = some sha

instance (s : Store) (raw : WorkRequest) : (m : Mutator) → Decidable (m.Mantem s raw)
  | .promover _ => instDecidableTrue
  | .transicionar _ _ _ => inferInstanceAs (Decidable (_ → _ ∧ _))
  | .alinhar _ _ => inferInstanceAs (Decidable (_ → _))

/-- **The condition on a call.** A conclusion is written only onto a request with a known SHA that
the ledger still proves; evidence recorded for a concluded request is of its SHA and leaves all
verifications passed; a concluded request is aligned only to its own SHA. -/
def Mantem (b : Backend) (s : Store) : StoreOp × Env → Prop
  | (.atualizar q m, e) => ∀ raw ∈ s.aceita b q m e, m.Mantem s raw
  | (.registrarEvidencia entrada, e) => ¬(b = .redis ∧ e.conflito = true) →
    ∀ r ∈ s.find entrada.requestId, r.status = .evidenced → r.sha = some entrada.sha ∧
      derivarStatus (mergedChecks (s.obterEvidencia entrada.requestId) entrada) = .evidenced
  | _ => True

instance (b : Backend) (s : Store) : (x : StoreOp × Env) → Decidable (Mantem b s x)
  | (.atualizar q m, e) => inferInstanceAs (Decidable (∀ raw ∈ s.aceita b q m e, _))
  | (.registrarEvidencia entrada, _) =>
    inferInstanceAs (Decidable (_ → ∀ r ∈ s.find entrada.requestId, _))
  | (.criarSeAusente _, _) | (.obter _, _) | (.listar, _) | (.obterEvidencia _, _)
  | (.historicoEvidencia _, _) | (.statusEvidencia _ _, _) | (.executar _, _) => instDecidableTrue

/-- The call that a move performs meets the condition. -/
def ChamadaMantem (cfg : Config) (p : Replicas) (a : Passo) : Prop :=
  ∀ x ∈ p.nextCall a.1, Mantem cfg.backend p.store x.2

instance (cfg : Config) (p : Replicas) (a : Passo) : Decidable (ChamadaMantem cfg p a) :=
  inferInstanceAs (Decidable (∀ x ∈ p.nextCall a.1, _))

/-! ## What the calls do to the proof -/

/-- The invariant: ids are unique and every conclusion is proved. -/
structure Provada (s : Store) : Prop where
  keyed : Table.Keyed WorkRequest.requestId s.requests
  proved : ConclusionProved s

/-- The request of a creation is not concluded. -/
def NaoConcluida : StoreOp → Prop
  | .criarSeAusente r => r.status ≠ .evidenced
  | _ => True

theorem provada_empty : Provada {} := ⟨List.nodup_nil, List.forall_mem_nil _⟩

theorem find_eq_some {s : Store} {q : String} {r : WorkRequest} (h : s.find q = some r) :
    r ∈ s.requests ∧ r.requestId = q := ⟨Table.mem_of_lookup h, Table.key_of_lookup h⟩

/-- For a known SHA the ledger proves a request exactly when it says `EVIDENCED`. -/
theorem comprovada_iff_status {s : Store} {r : WorkRequest} :
    Comprovada s r ↔
      r.sha.isSome = true ∧ s.statusEvidencia r.requestId r.sha = .evidenced := by
  rcases hsha : r.sha with _ | sha
  · constructor
    · rintro ⟨ev, -, h, -⟩
      rw [hsha] at h
      cases h
    · rintro ⟨h, -⟩
      cases h
  · rw [Store.statusEvidencia, statusValidoParaSha_some, Comprovada, hsha]
    constructor
    · rintro ⟨ev, hev, h, hstatus⟩
      exact ⟨rfl, ev, hev, (Option.some.inj h).symm, hstatus⟩
    · rintro ⟨-, ev, hev, rfl, hstatus⟩
      exact ⟨ev, hev, rfl, hstatus⟩

/-- A creation under an unused id. -/
theorem provada_criar {s : Store} {b : Backend} {r : WorkRequest} (h : Provada s)
    (hr : r.status ≠ .evidenced) : Provada (s.criarSeAusente b r).1 := by
  rw [Store.criarSeAusente]
  split
  next => exact h
  next hnone =>
    refine ⟨h.keyed.concat fun r' hr' ↦ Table.ne_key_of_lookup_none hnone hr', ?_⟩
    intro r' hr' hstatus
    rcases List.mem_append.mp hr' with hold | hnew
    · exact h.proved r' hold hstatus
    · rw [List.mem_singleton.mp hnew] at hstatus
      exact absurd hstatus hr

/-- Writing a request keeps the invariant exactly if the written request is proved when concluded.
The ledger is not touched. -/
theorem provada_escrever {s : Store} {q : String} {raw novo : WorkRequest} (h : Provada s)
    (hfind : s.find q = some raw) (hid : novo.requestId = raw.requestId) :
    Provada (s.escrever q novo) ↔ (novo.status = .evidenced → Comprovada s novo) := by
  obtain ⟨hmem, hkey⟩ := find_eq_some hfind
  have hnovo : novo.requestId = q := hid.trans hkey
  constructor
  · intro h' hstatus
    exact h'.proved novo (Table.mem_update_self hmem hkey) hstatus
  · intro hproved
    refine ⟨h.keyed.keyed_update_key hnovo, fun r hr hstatus ↦ ?_⟩
    obtain ⟨hold, -⟩ | ⟨-, -, -, rfl⟩ := Table.mem_update hr
    · exact h.proved r hold hstatus
    · exact hproved hstatus

/-- An `atualizar` either writes what the mutator makes of the accepted request, or nothing. -/
theorem atualizar_store (s : Store) (b : Backend) (q : String) (m : Mutator) (e : Env) :
    ((s.atualizar b q m e).1 = s ∧ s.aceita b q m e = none) ∨
      ∃ raw novo, s.find q = some raw ∧ s.aceita b q m e = some raw ∧
        m.apply e.agora raw = .ok novo ∧ (s.atualizar b q m e).1 = s.escrever q novo := by
  rw [Store.atualizar, Store.aceita]
  split_ifs with hconf
  · exact .inl ⟨rfl, rfl⟩
  · rcases hfind : s.find q with _ | raw
    · exact .inl ⟨rfl, rfl⟩
    · rcases happly : Store.ler b raw >>= m.apply e.agora with x | novo
      · refine .inl ⟨by simp only [happly], ?_⟩
        simp [happly, Except.toBool]
      · obtain ⟨lido, hler, hnovo⟩ := bind_eq_ok.mp happly
        rw [Store.ler_eq_ok hler] at hnovo
        refine .inr ⟨raw, novo, rfl, ?_, hnovo, by simp only [happly]⟩
        simp [happly, Except.toBool]

/-- An `atualizar` that answers a request has written it. -/
theorem atualizar_eq_some {s : Store} {b : Backend} {q : String} {m : Mutator} {e : Env}
    {novo : WorkRequest} (h : (s.atualizar b q m e).2 = .ok (some novo)) :
    ∃ raw, s.find q = some raw ∧ m.apply e.agora raw = .ok novo ∧
      (s.atualizar b q m e).1 = s.escrever q novo := by
  rw [Store.atualizar] at h ⊢
  split_ifs at h ⊢
  rcases hfind : s.find q with _ | raw
  · rw [hfind] at h
    cases h
  · rw [hfind] at h
    rcases happly : Store.ler b raw >>= m.apply e.agora with x | novo'
    · simp only [happly] at h
      cases h
    · simp only [happly] at h ⊢
      cases h
      obtain ⟨lido, hler, hnovo⟩ := bind_eq_ok.mp happly
      rw [Store.ler_eq_ok hler] at hnovo
      exact ⟨raw, rfl, hnovo, rfl⟩

theorem obter_eq_some {s : Store} {b : Backend} {q : String} {r : WorkRequest}
    (h : s.obter b q = .ok (some r)) : s.find q = some r := by
  rw [Store.obter] at h
  rcases hfind : s.find q with _ | raw
  · rw [hfind] at h
    cases h
  · rw [hfind] at h
    rcases hler : Store.ler b raw with x | lido
    · simp only [hler] at h
      cases h
    · simp only [hler] at h
      cases h
      rw [Store.ler_eq_ok hler]

/-- The request a mutator leaves, when concluded, is proved exactly if the mutator was applied as
it has to be. -/
theorem comprovada_apply {s : Store} {m : Mutator} {agora : DateTime} {raw novo : WorkRequest}
    (hraw : raw.status = .evidenced → Comprovada s raw) (h : m.apply agora raw = .ok novo) :
    (novo.status = .evidenced → Comprovada s novo) ↔ m.Mantem s raw := by
  cases m with
  | promover destino =>
    refine iff_of_true (fun hstatus ↦ ?_) trivial
    cases h
    -- a promotion leaves `RECEIVED` or `QUEUED`, or changes nothing
    unfold promover at hstatus ⊢
    split_ifs at hstatus ⊢ with hadm hque
    · exact absurd (hadm.1.symm.trans hstatus) (by decide)
    · exact absurd (hque.1.symm.trans hstatus) (by decide)
    · exact hraw hstatus
  | transicionar novoStatus blocker nextAction =>
    obtain ⟨-, b, rfl⟩ := mudarStatus_eq_ok h
    exact imp_congr_right fun _ ↦ comprovada_iff_status
  | alinhar sha st =>
    cases h
    by_cases hconcl : raw.status = .evidenced
    · have hinactive : raw.status ∉ WorkRequestStatus.active := by
        rw [hconcl]
        decide
      have hnovo : alinhar raw sha st agora = { raw with sha := some sha, updatedAt := agora } := by
        rw [alinhar, if_neg fun hact ↦ hinactive hact.1]
      rw [hnovo]
      obtain ⟨ev, hev, hsha, hstatus⟩ := hraw hconcl
      constructor
      · intro hproved _
        obtain ⟨ev', hev', hsha', -⟩ := hproved hconcl
        rw [Option.mem_unique hev' hev] at hsha'
        exact hsha.trans hsha'.symm
      · intro hmantem _
        exact ⟨ev, hev, (hmantem hconcl).symm.trans hsha, hstatus⟩
    · refine iff_of_true (fun hstatus ↦ absurd hstatus ?_) fun h ↦ absurd h hconcl
      unfold alinhar
      split_ifs
      · exact fun h ↦ nomatch h
      · exact hconcl

theorem provada_atualizar {s : Store} {b : Backend} {q : String} {m : Mutator} {e : Env}
    (h : Provada s) : Provada (s.atualizar b q m e).1 ↔ Mantem b s (.atualizar q m, e) := by
  obtain ⟨hsame, hnone⟩ | ⟨raw, novo, hfind, hacc, happly, hwrite⟩ := atualizar_store s b q m e
  · rw [hsame]
    refine iff_of_true h fun raw hraw ↦ ?_
    rw [hnone] at hraw
    cases hraw
  · rw [hwrite, provada_escrever h hfind (Mutator.apply_requestId happly),
      comprovada_apply (h.proved raw (find_eq_some hfind).1) happly]
    constructor
    · intro hm raw' hraw'
      rw [hacc] at hraw'
      cases hraw'
      exact hm
    · intro hm
      exact hm raw hacc

/-- The record that becomes current. -/
theorem obterEvidencia_gravar (s : Store) (b : Backend) (a : EvidenceApplication) (q : String) :
    (s.gravar b a).obterEvidencia q
      = if q = a.registro.requestId then some a.registro else s.obterEvidencia q :=
  Table.lookup_upsert_const a.registro s.evidencia

theorem provada_registrarEvidencia {s : Store} {b : Backend} {entrada : EvidenceRecordInput}
    {e : Env} (h : Provada s) :
    Provada (s.registrarEvidencia b entrada e).1 ↔ Mantem b s (.registrarEvidencia entrada, e) := by
  rw [Store.registrarEvidencia]
  split_ifs with hconf
  · exact iff_of_true h fun hno ↦ absurd hconf hno
  · set a := aplicarEvidencia (s.obterEvidencia entrada.requestId) entrada e.agora
    have hid : a.registro.requestId = entrada.requestId := rfl
    have hown : ∀ {r : WorkRequest}, r.requestId = entrada.requestId →
        (Comprovada (s.gravar b a) r ↔ r.sha = some entrada.sha ∧ derivarStatus
          (mergedChecks (s.obterEvidencia entrada.requestId) entrada) = .evidenced) := by
      intro r hr
      rw [Comprovada, obterEvidencia_gravar, hid, if_pos hr]
      exact ⟨fun ⟨ev, hev, hproved⟩ ↦ by cases hev; exact hproved,
        fun hproved ↦ ⟨a.registro, rfl, hproved⟩⟩
    constructor
    · intro h' _ r hr hstatus
      obtain ⟨hmem, hkey⟩ := find_eq_some hr
      exact (hown hkey).mp (h'.proved r hmem hstatus)
    · intro hm
      refine ⟨h.keyed, fun r hr hstatus ↦ ?_⟩
      by_cases hkey : r.requestId = entrada.requestId
      · rw [hown hkey]
        exact hm hconf r (hkey ▸ h.keyed.lookup_of_mem hr) hstatus
      · rw [Comprovada, obterEvidencia_gravar, hid, if_neg hkey]
        exact h.proved r hr hstatus

/-- **One call.** A call keeps the invariant exactly when it meets the condition. -/
theorem provada_exec {b : Backend} {s : Store} {op : StoreOp} {e : Env} (h : Provada s)
    (hop : NaoConcluida op) : Provada (exec b op e s).1 ↔ Mantem b s (op, e) := by
  cases op with
  | criarSeAusente r => exact iff_of_true (provada_criar h hop) trivial
  | atualizar q m => exact provada_atualizar h
  | registrarEvidencia entrada => exact provada_registrarEvidencia h
  | obter | listar | obterEvidencia | historicoEvidencia | statusEvidencia | executar =>
    exact iff_of_true h trivial

/-- `registrar` creates requests as `RECEIVED` or `BLOCKED`. -/
theorem DoServico.naoConcluida {cfg : Config} {op : StoreOp} (h : DoServico cfg op) :
    NaoConcluida op := by
  cases op with
  | criarSeAusente r =>
    obtain ⟨entrada, momento, rfl, -⟩ := h
    simp only [NaoConcluida, Service.novaSolicitacao]
    split_ifs <;> decide
  | obter | listar | atualizar | registrarEvidencia | obterEvidencia | historicoEvidencia
  | statusEvidencia | executar => trivial

/-! ## Every run -/

theorem keyed_exec {b : Backend} {s : Store} {op : StoreOp} {e : Env}
    (h : Table.Keyed WorkRequest.requestId s.requests) :
    Table.Keyed WorkRequest.requestId (exec b op e s).1.requests := by
  cases op with
  | criarSeAusente r =>
    change Table.Keyed _ (s.criarSeAusente b r).1.requests
    rw [Store.criarSeAusente]
    split
    · exact h
    next hnone => exact h.concat fun r' hr' ↦ Table.ne_key_of_lookup_none hnone hr'
  | atualizar q m =>
    change Table.Keyed _ (s.atualizar b q m e).1.requests
    obtain ⟨hsame, -⟩ | ⟨raw, novo, hfind, -, happly, hwrite⟩ := atualizar_store s b q m e
    · rwa [hsame]
    · rw [hwrite]
      exact h.keyed_update_key ((Mutator.apply_requestId happly).trans (find_eq_some hfind).2)
  | registrarEvidencia entrada =>
    change Table.Keyed _ (s.registrarEvidencia b entrada e).1.requests
    rw [Store.registrarEvidencia]
    split_ifs <;> exact h
  | obter | listar | obterEvidencia | historicoEvidencia | statusEvidencia | executar => exact h

/-- **No conclusion without proof, exactly.** In every run of any number of replicas whose calls all
meet the condition, every concluded request is proved by the current evidence; and a further call
leaves it so if and only if it meets the condition too. -/
theorem conclusion_proved_iff (cfg : Config) {tr : List Passo} {p : Replicas}
    (h : ((replicas cfg).restrict (ChamadaMantem cfg)).Run tr p) :
    ConclusionProved p.store ∧ ∀ a p', (replicas cfg).step p a p' →
      (ConclusionProved p'.store ↔ ChamadaMantem cfg p a) := by
  obtain ⟨hnow, hnext⟩ := Pool.invariant_iff (M := machine cfg.backend) (C := fun s x ↦ Mantem cfg.backend s x.2)
    provada_empty (fun c ↦ (code_calls cfg c).imp fun _ ↦ DoServico.naoConcluida) provada_exec id h
  refine ⟨hnow.proved, fun a p' hstep ↦ ?_⟩
  have hkeyed : Table.Keyed WorkRequest.requestId p'.store.requests :=
    Pool.step_preserves (J := fun s ↦ Table.Keyed WorkRequest.requestId s.requests) keyed_exec
      id hstep hnow.keyed
  constructor
  · intro hproved
    exact (hnext a p' hstep).mp ⟨hkeyed, hproved⟩
  · intro hmantem
    exact ((hnext a p' hstep).mpr hmantem).proved

/-- One request carried from its registration to its conclusion. -/
theorem conclusion_proved_iff_concluded :
    ((sampleRun concludeMoves).2.store.requests.map WorkRequest.status = [.evidenced]) ∧
      ConclusionProved (sampleRun concludeMoves).2.store :=
  ⟨by decide +kernel,
    (conclusion_proved_iff sampleConfig (run_restrict_sampleRun (by decide +kernel))).1⟩

/-- After the conclusion a failed verification of the same SHA is recorded: the request stays
`EVIDENCED` and the ledger says `BLOCKED`. -/
theorem conclusion_not_proved : ¬∀ (cfg : Config) (tr : List Passo) (p : Replicas),
    (replicas cfg).Run tr p → ConclusionProved p.store := by
  intro h
  have hrun := run_sampleRun (concludeMoves ++ serial (.registrarEvidencia sampleFailure) 4)
  exact absurd (h sampleConfig _ _ hrun) (by decide +kernel)

/-! ## The gate without interference -/

/-- A conclusion that runs from its first read to its write with nothing in between, on a request
with a known SHA, is proved. -/
theorem transicionar_alone {b : Backend} {s s' : Store} {es : List Env} {q : String}
    {blocker nextAction : Option String} {r : WorkRequest}
    (h : (Service.transicionar q .evidenced blocker nextAction).runAlone (machine b) 0 es s
      = some (s', .ok r)) (hsha : r.sha.isSome = true) :
    r.status = .evidenced ∧ Comprovada s' r := by
  rw [Service.transicionar, if_pos rfl, Service.exigirEvidencia, Service.obter] at h
  simp only [Program.bind_assoc] at h
  obtain ⟨e₁, es₁, lido, hlido, h₁⟩ := Program.runAlone_perform_bind h
  cases lido with
  | none => cases h₁
  | some raw =>
    obtain ⟨e₂, es₂, status, hstatus, h₂⟩ := Program.runAlone_perform_bind h₁
    split_ifs at h₂ with hrefused
    · cases h₂
    · obtain ⟨e₃, es₃, escrito, hescrito, h₃⟩ := Program.runAlone_perform_bind h₂
      cases escrito with
      | none => cases h₃
      | some novo =>
        have hfind : s.find q = some raw := obter_eq_some hlido
        have hproof : s.statusEvidencia q raw.sha = .evidenced :=
          (Except.ok.inj hstatus).trans (not_not.mp hrefused)
        change (s.atualizar b q _ e₃).2 = _ at hescrito
        obtain ⟨raw', hfind', happly, hstore⟩ := atualizar_eq_some hescrito
        rw [hfind] at hfind'
        cases hfind'
        obtain ⟨-, blk, rfl⟩ := mudarStatus_eq_ok happly
        cases h₃
        refine ⟨rfl, ?_⟩
        change Comprovada (s.atualizar b q _ e₃).1 _
        rw [hstore]
        -- the write leaves the ledger alone, so the status read by the gate still stands
        refine comprovada_iff_status.mpr ⟨hsha, ?_⟩
        rw [← (find_eq_some hfind).2] at hproof
        exact hproof

end Central

end ReqSys
