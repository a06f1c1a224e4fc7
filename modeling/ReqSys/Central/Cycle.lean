import Mathlib
import ReqSys.Central.Conclusion

/-!
# The Central: what a cycle leaves behind

A cycle of the worker moves a request to `EXECUTING`, calls the executor and then blocks the request
or records the evidence and tries to conclude. The worker promises that no failure turns into
silence: the request should not stay in `EXECUTING`.

Blocking keeps the promise whatever the executor returned. The other path does not in three cases:
the constructor of the evidence raises (no SHA, or a URL that is too long), an exception that no
handler catches ends the cycle, or the evidence merged with the ledger holds a failed verification,
for then `registrar_evidencia` leaves the status alone and the worker takes the record for one that
is merely incomplete. `cycle_settles_iff` says that these are the only ones.

## The other replicas

They may do anything between two calls of the cycle, except to the request itself: `Alheio` compares
what the store says about one request. Since the cycle only makes calls about its request, each of
its calls acts on `Sees`, the request and its current evidence, as if it were alone.
-/

namespace ReqSys

namespace Central

open Service

/-! ## Reachable stores -/

/-- The id of the request is within bounds, and its SHA was validated. -/
structure WorkRequest.Integra (r : WorkRequest) : Prop where
  id : lengthBetween 1 200 r.requestId = true
  sha : ∀ sha, r.sha = some sha → isSha sha = true

/-- What holds of every reachable store. -/
structure Store.Valida (s : Store) : Prop where
  keyed : Table.Keyed WorkRequest.requestId s.requests
  integra : ∀ r ∈ s.requests, r.Integra

theorem EvidenceRecordInput.isSha_sha (entrada : EvidenceRecordInput) :
    isSha entrada.sha = true := by
  have h := entrada.valid
  simp only [EvidenceFields.accepted, Bool.and_eq_true] at h
  exact h.1.1.2

/-- A mutator keeps the SHA of a request or sets the one it is given. -/
theorem Mutator.apply_sha {m : Mutator} {agora : DateTime} {atual novo : WorkRequest}
    (h : m.apply agora atual = .ok novo) :
    novo.sha = atual.sha ∨ ∃ sha st, m = .alinhar sha st ∧ novo.sha = some sha := by
  cases m with
  | promover destino =>
    cases h
    refine Or.inl ?_
    simp only [Central.promover]
    split_ifs <;> rfl
  | alinhar sha st =>
    cases h
    refine Or.inr ⟨sha, st, rfl, ?_⟩
    simp only [Central.alinhar]
    split_ifs <;> rfl
  | transicionar status blocker nextAction =>
    obtain ⟨-, b, rfl⟩ := mudarStatus_eq_ok h
    exact Or.inl rfl

theorem novaSolicitacao_integra {cfg : Config} {entrada : WorkRequestInput} {momento : DateTime}
    (h : (novaSolicitacao cfg entrada momento).accepted = true) :
    (novaSolicitacao cfg entrada momento).Integra := by
  constructor
  · simp only [WorkRequest.accepted, Bool.and_eq_true] at h
    exact h.1.1.1
  · intro sha hsha
    have hvalid := entrada.valid
    simp only [WorkRequestFields.accepted, Bool.and_eq_true] at hvalid
    have hall : entrada.sha.all isSha = true := hvalid.1.1.2
    rw [show entrada.sha = some sha from hsha] at hall
    exact hall

theorem Mutator.apply_integra {cfg : Config} {m : Mutator} {q : String} {agora : DateTime}
    {atual novo : WorkRequest} (hop : DoServico cfg (.atualizar q m)) (hatual : atual.Integra)
    (h : m.apply agora atual = .ok novo) : novo.Integra := by
  constructor
  · rw [Mutator.apply_requestId h]
    exact hatual.id
  · intro sha hsha
    rcases Mutator.apply_sha h with hsame | ⟨sha', st, rfl, hset⟩
    · exact hatual.sha sha (hsame ▸ hsha)
    · obtain ⟨entrada, -, rfl⟩ := hop
      rw [hset] at hsha
      rw [← Option.some.inj hsha]
      exact entrada.isSha_sha

theorem valida_exec {cfg : Config} {b : Backend} {s : Store} {op : StoreOp} {e : Env}
    (h : s.Valida) (hop : DoServico cfg op) : (exec b op e s).1.Valida := by
  refine ⟨keyed_exec h.keyed, ?_⟩
  cases op with
  | criarSeAusente r =>
    change ∀ r' ∈ (s.criarSeAusente b r).1.requests, _
    obtain ⟨entrada, momento, rfl, haccepted⟩ := hop
    rw [Store.criarSeAusente]
    split
    · exact h.integra
    · intro r' hr'
      rcases List.mem_append.mp hr' with hr' | hr'
      · exact h.integra r' hr'
      · rw [List.mem_singleton.mp hr']
        exact novaSolicitacao_integra haccepted
  | atualizar q m =>
    change ∀ r' ∈ (s.atualizar b q m e).1.requests, _
    obtain ⟨hsame, -⟩ | ⟨raw, novo, hfind, -, happly, hwrite⟩ := atualizar_store s b q m e
    · rw [hsame]
      exact h.integra
    · rw [hwrite]
      intro r' hr'
      rcases Table.mem_update hr' with ⟨hr', -⟩ | ⟨-, -, -, rfl⟩
      · exact h.integra r' hr'
      · exact Mutator.apply_integra hop (h.integra raw (find_eq_some hfind).1) happly
  | registrarEvidencia entrada =>
    change ∀ r' ∈ (s.registrarEvidencia b entrada e).1.requests, _
    rw [Store.registrarEvidencia]
    split_ifs <;> exact h.integra
  | obter | listar | obterEvidencia | historicoEvidencia | statusEvidencia | executar =>
    exact h.integra

theorem valida_of_run {cfg : Config} {tr : List Passo} {p : Replicas}
    (h : (replicas cfg).Run tr p) : p.store.Valida := by
  refine Pool.invariant_of_calls (M := machine cfg.backend) (I := Store.Valida) ?_ (code_calls cfg)
    valida_exec id h
  exact ⟨List.nodup_nil, List.forall_mem_nil _⟩

/-! ## The promise and its condition -/

/-- A verification failed. -/
def reprovada (checks : Checks) : Bool := EvidenceCheck.required.any fun c ↦ checks c == some .fail

/-- The executor did not succeed. -/
def falhou : Except Excecao ExecutionResult → Bool
  | .ok resultado => resultado.outcome ≠ .success
  | .error _ => true

/-- **The promise.** The request has left `EXECUTING`; and if the executor failed, there was no
usable SHA or the ledger holds a failed verification, it is blocked with a cause and a next action.
-/
def Resolvida (s : Store) (q : String) (sha : Option String)
    (x : Except Excecao ExecutionResult) : Prop :=
  ∃ r ∈ s.find q, r.status ∈ [.evidenced, .awaitingEvidence, .blocked] ∧
    (falhou x = true ∨ sha.any isSha = false ∨
        (∃ ev ∈ s.obterEvidencia q, reprovada ev.checks = true) →
      r.status = .blocked ∧ PyText.truthy r.blocker = true ∧ PyText.truthy r.nextAction = true)

instance (s : Store) (q : String) (sha : Option String) (x : Except Excecao ExecutionResult) :
    Decidable (Resolvida s q sha x) :=
  inferInstanceAs (Decidable (∃ r ∈ s.find q, _))

/-- The verifications of the ledger once those of a result are recorded for a SHA. -/
def checksDoLedger (anterior : Option EvidenceRecord) (sha : String) (checks : Checks) : Checks :=
  match anterior with
  | some a => if a.sha = sha then a.checks.merge checks else checks
  | none => checks

/-- **The condition.** The executor raises no exception beyond `Exception`; and if it succeeds, the
request has a SHA, the URL of the run fits, and no verification of that SHA has failed. -/
def Conclui (sha : Option String) (ev : Option EvidenceRecord) :
    Except Excecao ExecutionResult → Prop
  | .error x => x.comum = true
  | .ok resultado => resultado.outcome = .success → ∃ t ∈ sha,
    lengthAtMost 2000 resultado.evidenceRunUrl = true ∧
      reprovada (checksDoLedger ev t resultado.checks) = false

theorem mergedChecks_eq (ev : Option EvidenceRecord) (entrada : EvidenceRecordInput) :
    mergedChecks ev entrada = checksDoLedger ev entrada.sha entrada.checks := by
  cases ev <;> rfl

theorem derivarStatus_eq_blocked {checks : Checks} :
    derivarStatus checks = .blocked ↔ reprovada checks = true := by
  unfold derivarStatus
  dsimp only
  split
  next hfail => exact iff_of_true rfl hfail
  next hfail =>
    refine iff_of_false ?_ hfail
    split
    · decide
    · split <;> decide

/-! ## One request -/

/-- What the store says about the request `q`: its row and its current evidence. -/
structure Sees (q : String) (s : Store) (r : WorkRequest) (ev : Option EvidenceRecord) : Prop where
  find : s.find q = some r
  evidence : s.obterEvidencia q = ev

/-- Nobody touched the request. -/
def Alheio (q : String) (s s' : Store) : Prop :=
  s'.find q = s.find q ∧ s'.obterEvidencia q = s.obterEvidencia q

/-- The inputs of a cycle: no conflict over its request, and what its executor returns or raises. -/
def SemConflito (x : Except Excecao ExecutionResult) (e : Env) : Prop :=
  e.conflito = false ∧ e.execucao = x

/-- A request in progress that can be read: within bounds, and with nothing to say about a block. -/
structure Limpa (r : WorkRequest) : Prop where
  id : lengthBetween 1 200 r.requestId = true
  blocker : r.blocker = none
  nextAction : r.nextAction = none
  status : r.status ≠ .blocked

theorem ler_of_accepted {r : WorkRequest} (h : r.accepted = true) (b : Backend) :
    Store.ler b r = .ok r := by
  rw [Store.ler, if_neg]
  rintro ⟨-, hrefused⟩
  rw [h] at hrefused
  cases hrefused

theorem Limpa.ler {r : WorkRequest} (h : Limpa r) (b : Backend) : Store.ler b r = .ok r := by
  refine ler_of_accepted ?_ b
  have hstatus : (r.status != .blocked) = true := by simpa using h.status
  rw [WorkRequest.accepted, h.id, h.blocker, h.nextAction, hstatus]
  rfl

theorem Limpa.alinhar {r : WorkRequest} (h : Limpa r) (sha : String) (st : EvidenceStatus)
    (agora : DateTime) : Limpa (alinhar r sha st agora) := by
  unfold Central.alinhar
  split_ifs
  · exact ⟨h.id, h.blocker, h.nextAction, by simp⟩
  · exact ⟨h.id, h.blocker, h.nextAction, h.status⟩

section Calls

variable {b : Backend} {i : ℕ} {q : String} {x : Except Excecao ExecutionResult} {α : Type}
  {Q : Except CentralError α → Store → Prop} {s : Store} {r : WorkRequest}
  {ev : Option EvidenceRecord}

/-- The method ends in `Q`, the other replicas leaving the request `q` alone. -/
abbrev Ends (b : Backend) (i : ℕ) (q : String) (x : Except Excecao ExecutionResult)
    (Q : Except CentralError α → Store → Prop) (p : Method α) (s : Store) : Prop :=
  p.EndsIn (machine b) i (SemConflito x) (Alheio q) Q s

theorem Sees.alheio {s' : Store} (h : Sees q s r ev) (hR : Alheio q s s') : Sees q s' r ev :=
  ⟨hR.1.trans h.find, hR.2.trans h.evidence⟩

theorem ends_obter {f : Option WorkRequest → Method α} (h : Sees q s r ev)
    (hr : Store.ler b r = .ok r) (hf : ∀ s', Sees q s' r ev → Ends b i q x Q (f (some r)) s') :
    Ends b i q x Q (chamar (.obter q) >>= f) s := by
  refine Program.EndsIn.perform_bind fun s' e hR _ ↦ ⟨some r, ?_, hf s' (h.alheio hR)⟩
  change s'.obter b q = _
  rw [Store.obter, (h.alheio hR).find]
  simp only [hr]
  rfl

theorem ends_atualizar {m : Mutator} {novo : DateTime → WorkRequest}
    {f : Option WorkRequest → Method α} (h : Sees q s r ev) (hr : Store.ler b r = .ok r)
    (hm : ∀ agora, m.apply agora r = .ok (novo agora))
    (hf : ∀ agora s', Sees q s' (novo agora) ev → Ends b i q x Q (f (some (novo agora))) s') :
    Ends b i q x Q (chamar (.atualizar q m) >>= f) s := by
  refine Program.EndsIn.perform_bind fun s' e hR hA ↦ ?_
  have hs' := h.alheio hR
  have hwrite : s'.atualizar b q m e = (s'.escrever q (novo e.agora), .ok (some (novo e.agora))) := by
    rw [Store.atualizar, if_neg (by simp [hA.1]), hs'.find]
    simp only [hr, ok_bind, hm]
  have hkey : (novo e.agora).requestId = q :=
    (Mutator.apply_requestId (hm e.agora)).trans (find_eq_some hs'.find).2
  refine ⟨some (novo e.agora), congrArg Prod.snd hwrite, ?_⟩
  change Ends b i q x Q _ (s'.atualizar b q m e).1
  rw [hwrite]
  refine hf e.agora _ ⟨?_, hs'.evidence⟩
  have hfind := hs'.find
  rw [Store.find] at hfind
  rw [Store.find, Store.escrever, Table.lookup_update fun _ _ ↦ hkey, if_pos rfl, hfind]
  rfl

theorem ends_registrar {entrada : EvidenceRecordInput} {f : EvidenceRecord → Method α}
    (h : Sees q s r ev) (hq : entrada.requestId = q)
    (hf : ∀ agora s', Sees q s' r (some (aplicarEvidencia ev entrada agora).registro) →
      Ends b i q x Q (f (aplicarEvidencia ev entrada agora).registro) s') :
    Ends b i q x Q (chamar (.registrarEvidencia entrada) >>= f) s := by
  refine Program.EndsIn.perform_bind fun s' e hR hA ↦ ?_
  have hs' := h.alheio hR
  have hwrite : s'.registrarEvidencia b entrada e
      = (s'.gravar b (aplicarEvidencia ev entrada e.agora),
        .ok (aplicarEvidencia ev entrada e.agora).registro) := by
    rw [Store.registrarEvidencia, if_neg (by simp [hA.1]), hq, hs'.evidence]
  refine ⟨(aplicarEvidencia ev entrada e.agora).registro, congrArg Prod.snd hwrite, ?_⟩
  change Ends b i q x Q _ (s'.registrarEvidencia b entrada e).1
  rw [hwrite]
  refine hf e.agora _ ⟨hs'.find, ?_⟩
  have hkey : q = (aplicarEvidencia ev entrada e.agora).registro.requestId := hq.symm
  rw [obterEvidencia_gravar, if_pos hkey]

theorem ends_status {sha : Option String} {f : EvidenceStatus → Method α} (h : Sees q s r ev)
    (hf : ∀ s', Sees q s' r ev → Ends b i q x Q (f (statusValidoParaSha ev sha)) s') :
    Ends b i q x Q (chamar (.statusEvidencia q sha) >>= f) s := by
  refine Program.EndsIn.perform_bind fun s' e hR _ ↦ ⟨_, ?_, hf s' (h.alheio hR)⟩
  change Except.ok (s'.statusEvidencia q sha) = _
  rw [Store.statusEvidencia, (h.alheio hR).evidence]

theorem ends_executar {f : Except Excecao ExecutionResult → Method α} (h : Sees q s r ev)
    (hf : ∀ s', Sees q s' r ev → Ends b i q x Q (f x) s') :
    Ends b i q x Q (chamar (.executar r) >>= f) s := by
  refine Program.EndsIn.perform_bind fun s' e hR hA ↦ ⟨x, ?_, hf s' (h.alheio hR)⟩
  exact congrArg Except.ok hA.2

/-! ## The methods of a cycle -/

/-- `registrar_evidencia` of the request: the ledger holds the merged record, and the request is
aligned to it. -/
theorem registrarEvidencia_spec {entrada : EvidenceRecordInput} (h : Sees q s r ev)
    (hr : Limpa r) (hq : entrada.requestId = q) :
    Ends b i q x (fun out s' ↦ ∃ agora agora',
      out = .ok (aplicarEvidencia ev entrada agora).registro ∧
      Sees q s' (alinhar r entrada.sha (aplicarEvidencia ev entrada agora).registro.status agora')
        (some (aplicarEvidencia ev entrada agora).registro)) (registrarEvidencia entrada) s := by
  subst hq
  refine ends_obter h (hr.ler b) fun s₁ h₁ ↦ ?_
  refine ends_registrar h₁ rfl fun agora s₂ h₂ ↦ ?_
  refine ends_atualizar h₂ (hr.ler b) (fun _ ↦ rfl) fun agora' s₃ h₃ ↦ ?_
  exact ⟨agora, agora', rfl, h₃⟩

theorem build_eq_ok {f : EvidenceFields} (h : f.accepted = true) :
    EvidenceRecordInput.build f = .ok ⟨f, h⟩ := dif_pos h

theorem build_eq_error {f : EvidenceFields} (h : ¬f.accepted = true) :
    EvidenceRecordInput.build f = .error (.validation "EvidenceRecordInput") := dif_neg h

theorem EvidenceFields.accepted_iff {f : EvidenceFields} :
    f.accepted = true ↔ lengthBetween 1 200 f.requestId = true ∧ isSha f.sha = true ∧
      lengthAtMost 2000 f.evidenceRunUrl = true ∧ f.checks.any = true := by
  simp only [EvidenceFields.accepted, Bool.and_eq_true, and_assoc]

/-- Without a SHA there is nothing the evidence could be bound to. -/
theorem isSha_shaText {sha : Option String} (h : ∀ t, sha = some t → isSha t = true) :
    isSha (shaText sha) = true ↔ sha.isSome = true := by
  cases sha with
  | none => decide +kernel
  | some t => exact iff_of_true (h t rfl) rfl

/-- The request once `transicionar` has moved it. -/
def movida (r : WorkRequest) (status : WorkRequestStatus) (blocker nextAction : Option String)
    (agora : DateTime) : WorkRequest :=
  { r with status, updatedAt := agora, nextAction
           blocker := if status = .blocked then blocker else none }

theorem mudarStatus_of_mem {status : WorkRequestStatus} {blocker nextAction : Option String}
    (hmem : status ∈ r.status.transicoes) (hreason : status = .blocked →
      PyText.truthy blocker = true ∧ PyText.truthy nextAction = true) (agora : DateTime) :
    mudarStatus r status blocker nextAction agora = .ok (movida r status blocker nextAction agora) := by
  rw [mudarStatus, if_neg (not_not.mpr hmem)]
  by_cases hblocked : status = .blocked
  · obtain ⟨hb, hn⟩ := hreason hblocked
    rw [if_pos hblocked, hb, hn, movida, if_pos hblocked]
    rfl
  · rw [if_neg hblocked, movida, if_neg hblocked]

/-- Aligning a request in execution leaves it there or lets it wait for evidence. -/
theorem alinhar_status (r : WorkRequest) (hstatus : r.status = .executing) (sha : String)
    (st : EvidenceStatus) (agora : DateTime) : (alinhar r sha st agora).status = .executing ∨
      (alinhar r sha st agora).status = .awaitingEvidence := by
  unfold alinhar
  split_ifs
  · exact Or.inr rfl
  · exact Or.inl hstatus

/-- `transicionar`, for a transition of the table that needs no evidence. -/
theorem transicionar_spec {status : WorkRequestStatus} {blocker nextAction : Option String}
    (h : Sees q s r ev) (hr : Store.ler b r = .ok r) (hne : status ≠ .evidenced)
    (hmem : status ∈ r.status.transicoes) (hreason : status = .blocked →
      PyText.truthy blocker = true ∧ PyText.truthy nextAction = true) :
    Ends b i q x (fun out s' ↦ ∃ agora, out = .ok (movida r status blocker nextAction agora) ∧
      Sees q s' (movida r status blocker nextAction agora) ev)
      (transicionar q status blocker nextAction) s := by
  rw [transicionar, if_neg hne]
  refine ends_atualizar h hr (mudarStatus_of_mem hmem hreason) fun agora s' h' ↦ ?_
  exact ⟨agora, rfl, h'⟩

/-- `transicionar` to `EVIDENCED`, once the ledger proves the SHA of the request. -/
theorem transicionar_evidenced_spec {nextAction : Option String} (h : Sees q s r ev)
    (hr : Store.ler b r = .ok r) (hstatus : r.status = .awaitingEvidence)
    (hproved : statusValidoParaSha ev r.sha = .evidenced) :
    Ends b i q x (fun out s' ↦ ∃ agora, out = .ok (movida r .evidenced none nextAction agora) ∧
      Sees q s' (movida r .evidenced none nextAction agora) ev)
      (transicionar q .evidenced none nextAction) s := by
  rw [transicionar, if_pos rfl, exigirEvidencia, obter]
  simp only [Program.bind_assoc]
  refine ends_obter h hr fun s₁ h₁ ↦ ?_
  refine ends_status h₁ fun s₂ h₂ ↦ ?_
  rw [hproved]
  refine ends_atualizar h₂ hr (mudarStatus_of_mem ?_ (by rintro ⟨⟩)) fun agora s₃ h₃ ↦ ?_
  · rw [hstatus]
    decide
  · exact ⟨agora, rfl, h₃⟩

/-- `_bloquear` of a request in execution ends with the request blocked for the given reason. -/
theorem bloquear_spec {blocker nextAction : String} {checks : Checks} (h : Sees q s r ev)
    (hr : Limpa r) (hid : r.Integra) (hq : r.requestId = q) (hstatus : r.status = .executing)
    (hblocker : PyText.truthy (some blocker) = true)
    (hnext : PyText.truthy (some nextAction) = true) :
    Ends b i q x (fun _ s' ↦ ∃ r' ev', Sees q s' r' ev' ∧ r'.status = .blocked ∧
      r'.blocker = some blocker ∧ r'.nextAction = some nextAction)
      (bloquear r blocker nextAction checks) s := by
  have hblock : ∀ {s : Store} {r' : WorkRequest} {ev' : Option EvidenceRecord}, Sees q s r' ev' →
      Limpa r' → .blocked ∈ r'.status.transicoes →
      Ends b i q x (fun _ s' ↦ ∃ r' ev', Sees q s' r' ev' ∧ r'.status = .blocked ∧
        r'.blocker = some blocker ∧ r'.nextAction = some nextAction) (do
        let bloqueada ← transicionar r.requestId .blocked (some blocker) (some nextAction)
        return {
          resultado := .bloqueado
          requestId := some bloqueada.requestId
          executor := some bloqueada.executor
          blocker := some blocker } : Method CicloRelatorio) s := by
    intro s r' ev' h' hr' hmem
    rw [hq]
    refine (transicionar_spec h' (hr'.ler b) (by decide) hmem fun _ ↦ ⟨hblocker, hnext⟩).bind
      (fun hend ↦ ?_) fun hend ↦ ?_
    · obtain ⟨agora, -, hsees⟩ := hend
      exact ⟨_, _, hsees, rfl, rfl, rfl⟩
    · obtain ⟨agora, habsurd, -⟩ := hend
      cases habsurd
  rw [bloquear]
  split_ifs with hchecks
  · -- the failed verifications are recorded first
    obtain ⟨hany, htruthy⟩ := Bool.and_eq_true_iff.mp hchecks
    have hsome : r.sha.isSome = true := by
      cases hsha : r.sha with
      | none =>
        rw [hsha] at htruthy
        cases htruthy
      | some sha => rfl
    have haccepted : EvidenceFields.accepted
        { requestId := r.requestId, sha := shaText r.sha, environment := r.environment, checks }
        = true := by
      refine EvidenceFields.accepted_iff.mpr ⟨hid.id, (isSha_shaText hid.sha).mpr hsome, ?_, hany⟩
      rfl
    rw [build_eq_ok haccepted, Program.ofExcept_ok_bind]
    refine (registrarEvidencia_spec h hr hq).bind (fun hend ↦ ?_) fun hend ↦ ?_
    · obtain ⟨agora, agora', -, hsees⟩ := hend
      refine hblock hsees (hr.alinhar _ _ _) ?_
      rcases alinhar_status r hstatus _ _ agora' with hst | hst
      all_goals
        rw [hst]
        decide
    · obtain ⟨agora, agora', habsurd, -⟩ := hend
      cases habsurd
  · refine hblock h hr ?_
    rw [hstatus]
    decide

/-- A request still in execution has not been settled. -/
theorem not_resolvida {sha : Option String} (h : Sees q s r ev) (hstatus : r.status = .executing) :
    ¬Resolvida s q sha x := by
  rintro ⟨r', hr', hmem, -⟩
  obtain rfl : r = r' := Option.some.inj (h.find.symm.trans hr')
  rw [hstatus] at hmem
  exact absurd hmem (by decide)

/-- A blocked request with its reasons keeps the promise in any case. -/
theorem resolvida_of_blocked {sha : Option String} {blocker nextAction : String}
    (h : Sees q s r ev) (hstatus : r.status = .blocked) (hb : r.blocker = some blocker)
    (hn : r.nextAction = some nextAction) (hblocker : PyText.truthy (some blocker) = true)
    (hnext : PyText.truthy (some nextAction) = true) : Resolvida s q sha x := by
  refine ⟨r, h.find, ?_, fun _ ↦ ⟨hstatus, ?_, ?_⟩⟩
  · rw [hstatus]
    decide
  · rw [hb]
    exact hblocker
  · rw [hn]
    exact hnext

/-- A success without failed verifications keeps the promise by waiting or concluding. -/
theorem resolvida_of_success {resultado : ExecutionResult} {sha : String} {registro : EvidenceRecord}
    (h : Sees q s r (some registro)) (hstatus : r.status = .evidenced ∨ r.status = .awaitingEvidence)
    (hsuccess : resultado.outcome = .success) (hsha : isSha sha = true)
    (hpass : reprovada registro.checks = false) : Resolvida s q (some sha) (.ok resultado) := by
  refine ⟨r, h.find, ?_, ?_⟩
  · rcases hstatus with hst | hst
    all_goals
      rw [hst]
      decide
  · rintro (hfail | hnone | ⟨ev, hev, hfail⟩)
    · rw [falhou, hsuccess] at hfail
      cases hfail
    · rw [Option.any_some, hsha] at hnone
      cases hnone
    · obtain rfl : registro = ev := Option.some.inj (h.evidence.symm.trans hev)
      rw [hpass] at hfail
      cases hfail

/-- The request after its evidence is aligned, when no verification failed. -/
theorem alinhar_of_pass (hstatus : r.status = .executing) {sha : String} {st : EvidenceStatus}
    (hst : st ≠ .blocked) (agora : DateTime) : alinhar r sha st agora =
      { r with sha := some sha, updatedAt := agora, status := .awaitingEvidence } := by
  rw [alinhar, if_pos]
  refine ⟨?_, hst⟩
  rw [hstatus]
  decide

/-- The request after its evidence is aligned, when a verification failed. -/
theorem alinhar_of_fail {sha : String} (agora : DateTime) : alinhar r sha .blocked agora =
    { r with sha := some sha, updatedAt := agora } := by
  rw [alinhar, if_neg]
  rintro ⟨-, hst⟩
  exact hst rfl

/-- `_concluir` once the evidence is recorded. -/
def posRegistro (solicitacao : WorkRequest) (registro : EvidenceRecord) :
    Method CicloRelatorio := do
  if registro.status ≠ .evidenced then
    return {
      resultado := .aguardandoEvidencia
      requestId := some solicitacao.requestId
      executor := some solicitacao.executor
      evidenceStatus := some registro.status
      verificacoesPendentes := registro.missingChecks }
  else
    match ← (transicionar solicitacao.requestId .evidenced none none).attempt with
    | .ok final =>
      return {
        resultado := .evidenciado
        requestId := some final.requestId
        executor := some final.executor
        evidenceStatus := some registro.status }
    | .error (.invalidTransition _) =>
      return {
        resultado := .cedido
        requestId := some solicitacao.requestId
        executor := some solicitacao.executor
        evidenceStatus := some registro.status }
    | .error x => .raise x

theorem concluir_eq (r : WorkRequest) (resultado : ExecutionResult) :
    concluir r resultado = Program.ofExcept (EvidenceRecordInput.build
      { requestId := r.requestId
        sha := shaText r.sha
        environment := r.environment
        checks := resultado.checks
        productionTouched := r.environment = .prod
        evidenceRunUrl := resultado.evidenceRunUrl }) >>= fun entrada ↦
      registrarEvidencia entrada >>= posRegistro r := rfl

/-- What the worker makes of the record it has just written. -/
theorem posRegistro_spec {resultado : ExecutionResult} {registro : EvidenceRecord} {sha : String}
    {agora : DateTime} (h : Sees q s (alinhar r sha registro.status agora) (some registro))
    (hr : Limpa r) (hq : r.requestId = q) (hstatus : r.status = .executing)
    (hsuccess : resultado.outcome = .success) (hsha : isSha sha = true) (hrecord : registro.sha = sha)
    (hderived : registro.status = derivarStatus registro.checks) :
    Ends b i q x (fun _ s' ↦ Resolvida s' q (some sha) (.ok resultado)
      ↔ reprovada registro.checks = false) (posRegistro r registro) s := by
  have hfail : registro.status = .blocked ↔ reprovada registro.checks = true := by
    rw [hderived, derivarStatus_eq_blocked]
  rw [posRegistro]
  by_cases hblocked : registro.status = .blocked
  · -- a failed verification: the status of the request is left alone, and nobody blocks it
    rw [if_pos (by rw [hblocked]; decide)]
    rw [hblocked, alinhar_of_fail] at h
    refine iff_of_false (not_resolvida h hstatus) ?_
    rw [hfail.mp hblocked]
    decide
  · have hpass : reprovada registro.checks = false := by
      rwa [hfail, Bool.not_eq_true] at hblocked
    have hlimpa := hr.alinhar sha registro.status agora
    rw [alinhar_of_pass hstatus hblocked] at h hlimpa
    by_cases hevidenced : registro.status = .evidenced
    · rw [if_neg (not_not.mpr hevidenced), hq]
      have hproved : statusValidoParaSha (some registro) (some sha) = .evidenced :=
        statusValidoParaSha_some.mpr ⟨registro, rfl, hrecord, hevidenced⟩
      refine (transicionar_evidenced_spec h (hlimpa.ler b) rfl hproved).attempt_bind fun hend ↦ ?_
      obtain ⟨agora', rfl, hsees⟩ := hend
      exact iff_of_true (resolvida_of_success hsees (Or.inl rfl) hsuccess hsha hpass) hpass
    · rw [if_pos hevidenced]
      exact iff_of_true (resolvida_of_success h (Or.inr rfl) hsuccess hsha hpass) hpass

/-- The evidence of a success, from the ledger to the end of the cycle. -/
theorem registrar_posRegistro_spec {resultado : ExecutionResult} {entrada : EvidenceRecordInput}
    (h : Sees q s r ev) (hr : Limpa r) (hq : r.requestId = q) (hstatus : r.status = .executing)
    (hsuccess : resultado.outcome = .success) (hid : entrada.requestId = q) {sha : Option String}
    (hsha : sha = some entrada.sha) :
    Ends b i q x (fun _ s' ↦ Resolvida s' q sha (.ok resultado)
      ↔ reprovada (checksDoLedger ev entrada.sha entrada.checks) = false)
      (registrarEvidencia entrada >>= posRegistro r) s := by
  rw [hsha, ← mergedChecks_eq]
  refine (registrarEvidencia_spec h hr hid).bind (fun hend ↦ ?_) fun hend ↦ ?_
  · obtain ⟨agora, agora', hregistro, hsees⟩ := hend
    obtain rfl := Except.ok.inj hregistro
    exact posRegistro_spec hsees hr hq hstatus hsuccess entrada.isSha_sha rfl rfl
  · obtain ⟨agora, agora', habsurd, -⟩ := hend
    cases habsurd

/-- `_concluir` of a request in execution. -/
theorem concluir_spec {resultado : ExecutionResult} (h : Sees q s r ev) (hr : Limpa r)
    (hid : r.Integra) (hq : r.requestId = q) (hstatus : r.status = .executing)
    (hsuccess : resultado.outcome = .success) :
    Ends b i q x (fun _ s' ↦ Resolvida s' q r.sha (.ok resultado) ↔ Conclui r.sha ev (.ok resultado))
      (concluir r resultado) s := by
  rw [concluir_eq]
  by_cases haccepted : EvidenceFields.accepted
      { requestId := r.requestId, sha := shaText r.sha, environment := r.environment
        checks := resultado.checks, productionTouched := r.environment = .prod
        evidenceRunUrl := resultado.evidenceRunUrl } = true
  · obtain ⟨-, hsha, hurl, -⟩ := EvidenceFields.accepted_iff.mp haccepted
    obtain ⟨t, ht⟩ := Option.isSome_iff_exists.mp ((isSha_shaText hid.sha).mp hsha)
    have htext : shaText r.sha = t := by rw [ht]; rfl
    have hcond : Conclui r.sha ev (.ok resultado) ↔
        reprovada (checksDoLedger ev (shaText r.sha) resultado.checks) = false := by
      rw [htext, ht]
      constructor
      · intro hcond
        obtain ⟨t', ht', -, hpass⟩ := hcond hsuccess
        rwa [← Option.some.inj (Option.mem_def.mp ht')] at hpass
      · intro hpass _
        exact ⟨t, rfl, hurl, hpass⟩
    have hsame : r.sha = some (shaText r.sha) := by rw [htext, ht]
    rw [hcond, build_eq_ok haccepted, Program.ofExcept_ok_bind]
    have hid : (⟨_, haccepted⟩ : EvidenceRecordInput).requestId = q := hq
    exact registrar_posRegistro_spec h hr hq hstatus hsuccess hid hsame
  · -- the constructor of the evidence raises
    rw [build_eq_error haccepted, Program.ofExcept_error_bind]
    refine iff_of_false (not_resolvida h hstatus) fun hcond ↦ haccepted ?_
    obtain ⟨t, ht, hurl, -⟩ := hcond hsuccess
    have hsome : r.sha.isSome = true := by
      rw [Option.mem_def.mp ht]
      rfl
    exact EvidenceFields.accepted_iff.mpr ⟨hid.id, (isSha_shaText hid.sha).mpr hsome, hurl,
      resultado.checks_of_success hsuccess⟩

end Calls

/-! ## The cycle -/

/-- The request a worker has just moved to `EXECUTING`. -/
theorem limpa_movida {r : WorkRequest} (hid : r.Integra) (agora : DateTime) :
    Limpa (movida r .executing none none agora) :=
  ⟨hid.id, rfl, rfl, nofun⟩

theorem truthy_orElse {o : Option String} {d : String} (h : PyText.truthy o = true) :
    PyText.truthy (some (orElse o d)) = true := by
  rw [orElse, if_pos h]
  cases o with
  | none => cases h
  | some t => exact h

/-- A result that is not a success blocks the request. -/
theorem bloquear_resultado_spec {b : Backend} {i : ℕ} {q : String} {s : Store} {r : WorkRequest}
    {ev : Option EvidenceRecord} {x : Except Excecao ExecutionResult} {resultado : ExecutionResult}
    (h : Sees q s r ev) (hr : Limpa r) (hid : r.Integra) (hq : r.requestId = q)
    (hstatus : r.status = .executing) (hfail : resultado.outcome ≠ .success) {sha : Option String}
    {C : Prop} (hC : C) :
    Ends b i q x (fun _ s' ↦ Resolvida s' q sha x ↔ C)
      (bloquear r (orElse resultado.blocker "executor_falhou")
        (orElse resultado.nextAction "Investigar a falha do executor.") resultado.checks) s := by
  obtain ⟨hb, hn⟩ := resultado.reason_of_failure hfail
  refine (bloquear_spec h hr hid hq hstatus (truthy_orElse hb) (truthy_orElse hn)).imp ?_
  rintro out s' ⟨r', ev', hsees, hblocked, hb', hn'⟩
  exact iff_of_true
    (resolvida_of_blocked hsees hblocked hb' hn' (truthy_orElse hb) (truthy_orElse hn)) hC

/-- **What a cycle leaves behind.** In every reachable store, for every selected request the worker
can move to `EXECUTING` and everything its executor may return or raise, the cycle ends; and unless
another replica touched the request, it has kept its promise exactly when the executor raised no
exception beyond `Exception` and, if it succeeded, there was a SHA, the URL of the run fits and no
verification of that SHA has failed. -/
theorem cycle_settles_iff {cfg : Config} {tr : List Passo} {p : Replicas}
    (hrun : (replicas cfg).Run tr p) (i : ℕ) (selected raw : WorkRequest)
    (x : Except Excecao ExecutionResult) (hraw : p.store.find selected.requestId = some raw)
    (hread : Store.ler cfg.backend raw = .ok raw) (hmove : .executing ∈ raw.status.transicoes) :
    (executarItem selected).EndsIn (machine cfg.backend) i (SemConflito x)
      (Alheio selected.requestId)
      (fun _ s' ↦ Resolvida s' selected.requestId raw.sha x
        ↔ Conclui raw.sha (p.store.obterEvidencia selected.requestId) x) p.store := by
  obtain ⟨hmem, hkey⟩ := find_eq_some hraw
  have hid : raw.Integra := (valida_of_run hrun).integra raw hmem
  have hsees : Sees selected.requestId p.store raw
      (p.store.obterEvidencia selected.requestId) := ⟨hraw, rfl⟩
  rw [executarItem]
  refine (transicionar_spec hsees hread (by decide) hmove nofun).attempt_bind fun hend ↦ ?_
  obtain ⟨agora, rfl, h₁⟩ := hend
  refine ends_executar h₁ fun s₂ h₂ ↦ ?_
  have hlimpa := limpa_movida hid agora
  have hid' : (movida raw .executing none none agora).Integra := ⟨hid.id, hid.sha⟩
  rcases x with x | resultado
  · -- an exception: turned into a failed result, unless it is not an `Exception`
    rw [resultadoDe]
    split_ifs with hcomum
    · have hfail : (resultadoDeExcecao x.classe).outcome ≠ .success := nofun
      rw [Program.ofExcept_ok_bind, if_pos hfail]
      exact bloquear_resultado_spec h₂ hlimpa hid' hkey rfl hfail hcomum
    · rw [Program.ofExcept_error_bind]
      exact iff_of_false (not_resolvida h₂ rfl) hcomum
  · rw [resultadoDe, Program.ofExcept_ok_bind]
    split_ifs with hsuccess
    · exact bloquear_resultado_spec h₂ hlimpa hid' hkey rfl hsuccess fun h ↦ absurd h hsuccess
    · exact concluir_spec (r := movida raw .executing none none agora) h₂ hlimpa hid' hkey rfl
        (not_not.mp hsuccess)

/-! ### A cycle after a failed verification -/

/-- The executor ran and passed its negative control. -/
def sampleResult : ExecutionResult where
  outcome := .success
  checks c := if c = .negativeControl then some .pass else none
  reason_of_failure h := absurd rfl h
  checks_of_success _ := by decide

/-- The request is registered and admitted. -/
def admitMoves : List (Move Chamada Env) :=
  serial (.registrar sampleInput sampleInstant) 2 ++ serial .aplicarAdmissao 4

/-- A failed verification is recorded, then the request is admitted. -/
def failedThenAdmitMoves : List (Move Chamada Env) :=
  serial (.registrar sampleInput sampleInstant) 2 ++ serial (.registrarEvidencia sampleFailure) 4
    ++ serial .aplicarAdmissao 4

/-- The sample request as a list of moves leaves it. -/
def sampleRequest (moves : List (Move Chamada Env)) : WorkRequest :=
  ((sampleRun moves).2.store.find sampleId).getD
    (novaSolicitacao sampleConfig sampleInput sampleInstant)

/-- A cycle over the admitted request keeps its promise. -/
theorem cycle_settles_admitted :
    (executarItem (sampleRequest admitMoves)).EndsIn (machine .redis) 0 (SemConflito (.ok sampleResult))
      (Alheio sampleId) (fun _ s' ↦ Resolvida s' sampleId (some "aaaaaaa") (.ok sampleResult))
      (sampleRun admitMoves).2.store := by
  refine (cycle_settles_iff (run_sampleRun admitMoves) 0 (sampleRequest admitMoves)
    (sampleRequest admitMoves) (.ok sampleResult) (by decide +kernel)
    (ler_of_accepted (by decide +kernel) _) (by decide +kernel)).imp fun _ s' h ↦ h.mpr ?_
  exact fun _ ↦ ⟨"aaaaaaa", by decide +kernel, by decide +kernel, by decide +kernel⟩

/-- What the worker leaves when it runs alone after the failed verification. -/
def afterFailure : Option (Store × Except CentralError CicloRelatorio) :=
  (executarItem (sampleRequest failedThenAdmitMoves)).runAlone (machine sampleConfig.backend) 0
    (List.replicate 5 { agora := sampleInstant, execucao := .ok sampleResult })
    (sampleRun failedThenAdmitMoves).2.store

/-- The executor succeeds while the ledger holds a failed verification of the SHA: the request stays
in `EXECUTING`. -/
theorem cycle_not_settled : ¬∀ (cfg : Config) (tr : List Passo) (p : Replicas),
    (replicas cfg).Run tr p → ∀ (i : ℕ) (selected raw : WorkRequest)
    (x : Except Excecao ExecutionResult), p.store.find selected.requestId = some raw →
    Store.ler cfg.backend raw = .ok raw → .executing ∈ raw.status.transicoes →
    (executarItem selected).EndsIn (machine cfg.backend) i (SemConflito x)
      (Alheio selected.requestId) (fun _ s' ↦ Resolvida s' selected.requestId raw.sha x)
      p.store := by
  intro h
  have hends := h sampleConfig _ _ (run_sampleRun failedThenAdmitMoves) 0
    (sampleRequest failedThenAdmitMoves) (sampleRequest failedThenAdmitMoves) (.ok sampleResult)
    (by decide +kernel) (ler_of_accepted (by decide +kernel) _) (by decide +kernel)
  obtain ⟨⟨s', out⟩, hrun⟩ := Option.isSome_iff_exists.mp
    (show afterFailure.isSome = true by decide +kernel)
  have hes : ∀ e ∈ List.replicate 5 ({ agora := sampleInstant, execucao := .ok sampleResult } : Env),
      SemConflito (.ok sampleResult) e := by
    intro e he
    rw [List.eq_of_mem_replicate he]
    exact ⟨rfl, rfl⟩
  have hkept := hends.runAlone (fun _ ↦ ⟨rfl, rfl⟩) hes hrun
  have hbroken : ∀ o ∈ afterFailure, ¬Resolvida o.1 (sampleRequest failedThenAdmitMoves).requestId
      (sampleRequest failedThenAdmitMoves).sha (.ok sampleResult) := by decide +kernel
  exact hbroken _ hrun hkept

end Central

end ReqSys
