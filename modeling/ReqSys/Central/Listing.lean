import Mathlib
import ReqSys.Central.Commands
import ReqSys.Central.Service
import ReqSys.Foundation.Answers
import ReqSys.Foundation.RelyGuarantee

/-!
# The Central: what was created is listed

`criar_se_ausente` returns when the request is there already, without a look at the index. If the
process that created it crashed before `SADD`, or has not come to it yet, the request is returned
and not listed, and no later call mends this.

`listed_of_returned` says that nothing else goes wrong. Requests and index only grow, and every id of
the index has its request, so `listar` never removes an id; this is a discipline in the sense of
`Discipline`, kept in every run. If every request that is found has its id in the index, then every
request that was returned is listed from then on.
-/

namespace ReqSys

namespace Central

namespace Commands

open Program Discipline

/-! ## The discipline of the two keys -/

/-- There is a request with this id. -/
def Guardada (r : RedisCentralStore) (requestId : String) : Prop :=
  (Table.get? requestId r.requests).isSome = true

/-- Every id of the index has its request, and every request is valid and under its own id. -/
structure Coerente (r : RedisCentralStore) : Prop where
  index : ∀ q ∈ r.index, Guardada r q
  requests : ∀ q w, Table.get? q r.requests = some w → w.requestId = q ∧ w.accepted = true

/-- Nothing disappears. -/
structure Cresce (r r' : RedisCentralStore) : Prop where
  guardada : ∀ q, Guardada r q → Guardada r' q
  index : ∀ q ∈ r.index, q ∈ r'.index

theorem Cresce.refl (r : RedisCentralStore) : Cresce r r := ⟨fun _ h ↦ h, fun _ h ↦ h⟩

theorem Cresce.trans {r r' r'' : RedisCentralStore} (h : Cresce r r') (h' : Cresce r' r'') :
    Cresce r r'' :=
  ⟨fun q hq ↦ h'.guardada q (h.guardada q hq), fun q hq ↦ h'.index q (h.index q hq)⟩

/-- The store stays coherent and only grows. -/
def disciplina : Discipline machine where
  I := Coerente
  R _ := Cresce
  refl _ := Cresce.refl
  trans := Cresce.trans

theorem keeps {i : ℕ} {r r' : RedisCentralStore} (h : Coerente r') (h' : Cresce r r') :
    disciplina.Keeps i r r' := ⟨h, fun _ _ ↦ h'⟩

/-! ## One command -/

section Commands

variable {op : Cmd} {e : Env} {r : RedisCentralStore} {i : ℕ}

/-- A command does all of its effect or nothing. -/
theorem exec_store (op : Cmd) (e : Env) (r : RedisCentralStore) :
    (exec op e r).1 = r ∨ (exec op e r).1 = (efeito op r).1 := by
  rw [exec]
  split
  next f _ =>
    dsimp only
    split
    · exact .inr rfl
    · exact .inl rfl
  next => exact .inr rfl

theorem exec_ok {a : op.Ans} (h : (exec op e r).2 = .ok a) :
    (exec op e r).1 = (efeito op r).1 ∧ a = (efeito op r).2 := by
  rw [exec] at h ⊢
  split at h
  · cases h
  · exact ⟨rfl, (Except.ok.inj h).symm⟩

theorem keeps_exec (h : Coerente r) (hefeito : Coerente (efeito op r).1 ∧ Cresce r (efeito op r).1) :
    disciplina.Keeps i r (exec op e r).1 := by
  obtain heq | heq := exec_store op e r
  all_goals rw [heq]
  · exact keeps h (Cresce.refl r)
  · exact keeps hefeito.1 hefeito.2

/-- A request is written under its id. -/
theorem put_keeps {w : WorkRequest} (h : Coerente r) (hw : w.accepted = true) :
    Coerente { r with requests := Table.put r.requests (w.requestId, w) } ∧
      Cresce r { r with requests := Table.put r.requests (w.requestId, w) } := by
  have hguardada : ∀ q, Guardada r q →
      Guardada { r with requests := Table.put r.requests (w.requestId, w) } q := by
    intro q hq
    rw [Guardada, Table.get?_put]
    split
    · rfl
    · exact hq
  refine ⟨⟨fun q hq ↦ hguardada q (h.index q hq), fun q x hx ↦ ?_⟩, hguardada, fun q hq ↦ hq⟩
  rw [Table.get?_put] at hx
  split at hx
  next heq =>
    cases hx
    exact ⟨heq.symm, hw⟩
  next => exact h.requests q x hx

/-- An id is added to the index once its request is there. -/
theorem sadd_keeps {requestId : String} (h : Coerente r) (hid : Guardada r requestId) :
    Coerente { r with index := RedisCentralStore.sadd requestId r.index } ∧
      Cresce r { r with index := RedisCentralStore.sadd requestId r.index } := by
  refine ⟨⟨fun q hq ↦ ?_, h.requests⟩, fun q hq ↦ hq, fun q hq ↦ mem_sadd.mpr (.inl hq)⟩
  obtain hq | rfl := mem_sadd.mp hq
  · exact h.index q hq
  · exact hid

end Commands

/-! ## The methods keep the discipline -/

section Methods

variable {i : ℕ} {r : RedisCentralStore}

theorem indexar_safe {solicitacao : WorkRequest} (hid : Guardada r solicitacao.requestId) :
    disciplina.Safe i (fun _ _ ↦ True) r (indexar solicitacao) := by
  refine Safe.perform_bind (fun r' e hI hR ↦ ?_) (fun _ _ _ _ _ _ ↦ .ret trivial)
    fun _ _ _ _ _ _ ↦ trivial
  exact keeps_exec hI (sadd_keeps hI (hR.guardada _ hid))

theorem criarSeAusente_safe {solicitacao : WorkRequest} (hvalida : solicitacao.accepted = true) :
    disciplina.Safe i (fun _ _ ↦ True) r (criarSeAusente solicitacao) := by
  refine Safe.perform_bind (fun r' e hI _ ↦ keeps_exec hI ?_) (fun r' e criado hI _ hans ↦ ?_)
    fun _ _ _ _ _ _ ↦ trivial
  · rw [efeito]
    split
    · exact ⟨hI, Cresce.refl r'⟩
    · exact put_keeps hI hvalida
  · obtain ⟨hstore, hcriado⟩ := exec_ok hans
    cases criado with
    | true =>
      refine indexar_safe ?_
      change Guardada (exec _ e r').1 _
      rw [hstore]
      rw [efeito] at hcriado ⊢
      split at hcriado
      · cases hcriado
      next hnew =>
        rw [if_neg hnew, Guardada, Table.get?_put, if_pos rfl]
        rfl
    | false =>
      refine Safe.bind (Q := fun _ _ ↦ True) ?_ (fun {existente r''} _ ↦ ?_) fun _ ↦ trivial
      · refine Safe.read_bind (fun r' e ↦ ?_) (fun r' e raw _ _ _ ↦ ?_) fun _ _ _ _ _ _ ↦ trivial
        · obtain heq | heq := exec_store (.get solicitacao.requestId) e r' <;> exact heq
        · cases raw with
          | none => exact .ret trivial
          | some raw =>
            refine Safe.bind (Q := fun _ _ ↦ True) (.ofExcept trivial) (fun _ ↦ .ret trivial) ?_
            exact fun _ ↦ trivial
      · cases existente with
        | some existente => exact .ret trivial
        | none =>
          refine Safe.perform_bind (fun r' e hI _ ↦ keeps_exec hI (put_keeps hI hvalida))
            (fun r' e a hI _ hans ↦ ?_) fun _ _ _ _ _ _ ↦ trivial
          refine indexar_safe ?_
          change Guardada (exec _ e r').1 _
          rw [(exec_ok hans).1, efeito, Guardada, Table.get?_put, if_pos rfl]
          rfl

theorem mapM_validar_eq {ws : List WorkRequest} (h : ∀ w ∈ ws, w.accepted = true) :
    ws.mapM validar = .ok ws := by
  induction ws with
  | nil => rfl
  | cons w ws ih =>
    obtain ⟨hw, hws⟩ := List.forall_mem_cons.mp h
    rw [List.mapM_cons, ih hws, validar, validar_eq_ok hw]
    rfl

/-- The requests that are read for ids that have one. -/
theorem lista_of_guardadas {ids : List String} (h : Coerente r) (hids : ∀ q ∈ ids, Guardada r q) :
    ∃ ws, ((ids.map fun q ↦ Table.get? q r.requests).filterMap id).mapM validar = .ok ws ∧
      ∀ q ∈ ids, ∃ w ∈ ws, w.requestId = q := by
  refine ⟨_, mapM_validar_eq fun w hw ↦ ?_, fun q hq ↦ ?_⟩
  · obtain ⟨o, ho, hw⟩ := List.mem_filterMap.mp hw
    obtain ⟨q, -, hq⟩ := List.mem_map.mp ho
    exact (h.requests q w (hq.trans hw)).2
  · obtain ⟨w, hw⟩ := Option.isSome_iff_exists.mp (hids q hq)
    refine ⟨w, List.mem_filterMap.mpr ⟨some w, ?_, rfl⟩, (h.requests q w hw).1⟩
    exact List.mem_map.mpr ⟨q, hq, hw⟩

theorem orfaos_eq_nil {ids : List String} (hids : ∀ q ∈ ids, Guardada r q) :
    orfaos ids (ids.map fun q ↦ Table.get? q r.requests) = [] := by
  rw [orfaos, List.map_eq_nil_iff, List.filter_eq_nil_iff]
  rintro ⟨q, o⟩ hx
  rw [List.zip_map_right, List.mem_map] at hx
  obtain ⟨⟨q', q''⟩, hq, heq⟩ := hx
  cases heq
  have hguardada := hids q'' (List.of_mem_zip hq).2
  change ¬(Table.get? q'' r.requests).isNone = true
  rw [Option.isNone_iff_eq_none]
  intro hnone
  rw [Guardada, hnone] at hguardada
  cases hguardada

/-- **A listing has every id that was in the index when it started**, and removes none. -/
theorem listar_safe (r : RedisCentralStore) : disciplina.Safe i
    (fun x _ ↦ ∀ ws, x = .ok ws → ∀ q ∈ r.index, ∃ w ∈ ws, w.requestId = q) r listar := by
  have hread : ∀ (op : Cmd) (e : Env) (r : RedisCentralStore), (efeito op r).1 = r →
      (exec op e r).1 = r := by
    intro op e r hr
    obtain heq | heq := exec_store op e r
    · exact heq
    · exact heq.trans hr
  refine Safe.read_bind (fun r' e ↦ hread _ e r' rfl) (fun r' e ids hI hR hans ↦ ?_)
    fun _ _ _ _ _ _ _ hws ↦ (nomatch hws)
  obtain rfl : ids = r'.index := (exec_ok hans).2
  split
  next hempty =>
    refine .ret fun ws _ q hq ↦ ?_
    have hmem := hR.index q hq
    rw [List.isEmpty_iff.mp hempty] at hmem
    cases hmem
  next =>
    refine Safe.read_bind (fun r'' e ↦ hread _ e r'' rfl) (fun r'' e valores hI'' hR' hans ↦ ?_)
      fun _ _ _ _ _ _ _ hws ↦ (nomatch hws)
    obtain rfl := (exec_ok hans).2
    have hids : ∀ q ∈ r'.index.insertionSort (· ≤ ·), Guardada r'' q := fun q hq ↦
      hR'.guardada q (hI.index q ((List.perm_insertionSort _ _).mem_iff.mp hq))
    obtain ⟨ws, hws, hlisted⟩ := lista_of_guardadas hI'' hids
    simp only [efeito]
    rw [hws, ofExcept_ok_bind, orfaos_eq_nil hids]
    refine .ret fun ws' hws' q hq ↦ ?_
    cases hws'
    exact hlisted q ((List.perm_insertionSort _ _).mem_iff.mpr (hR.index q hq))

theorem code_safe (i : ℕ) (c : Chamada) (r : RedisCentralStore) :
    disciplina.Safe i (fun _ _ ↦ True) r (code c) := by
  cases c with
  | criarSeAusente solicitacao valida =>
    exact (criarSeAusente_safe valida).bind (fun _ ↦ .ret trivial) fun _ ↦ trivial
  | listar => exact (listar_safe r).bind (fun _ ↦ .ret trivial) fun _ ↦ trivial

end Methods

theorem disciplined_of_run {tr : List Passo} {p : Processos} (h : replicas.Run tr p) :
    Pool.Disciplined disciplina p := by
  refine Pool.safe_of_run ?_ (fun i c r _ ↦ code_safe i c r) (fun i r hI ↦ keeps hI (.refl r)) h
  exact ⟨fun q hq ↦ (nomatch hq), fun q w hw ↦ (nomatch hw)⟩

/-! ## What is returned is indexed -/

/-- The condition on a command: a request that is found is in the index. -/
def Indexada (r : RedisCentralStore) : ℕ × Cmd × Env → Prop
  | (_, .get requestId, _) => Guardada r requestId → requestId ∈ r.index
  | _ => True

/-- The processes under this condition. -/
def indexadas : TransitionSystem Processos Passo :=
  replicas.restrict fun p m ↦ ∀ x ∈ p.nextCall m.1, Indexada p.store x

/-- `criar_se_ausente` for this id has returned. -/
def Devolvida (tr : List Passo) (requestId : String) : Prop :=
  ∃ m vigente foiCriada, (m, some (.ok (.criada requestId vigente foiCriada))) ∈ tr

/-- The answers that are possible while the index has only these ids. -/
def Possivel (ids : List String) : (op : Cmd) → Except Erro op.Ans → Prop
  | .get requestId, .ok (some _) => requestId ∈ ids
  | .sadd requestId, .ok _ => requestId ∈ ids
  | _, _ => True

/-- What is returned for an id of the index. -/
def Resposta.Em (ids : List String) : Resposta → Prop
  | criada requestId _ _ => requestId ∈ ids
  | lista _ => True

section Returned

variable {ids : List String}

theorem indexar_meets (w : WorkRequest) :
    (indexar w).Meets (Possivel ids) (fun _ ↦ True) fun _ ↦ w.requestId ∈ ids :=
  (Meets.perform trivial fun _ h ↦ h).bind fun _ h ↦ h

theorem criarSeAusente_meets (w : WorkRequest) :
    (criarSeAusente w).Meets (Possivel ids) (fun _ ↦ True) fun _ ↦ w.requestId ∈ ids := by
  refine Meets.bind (Q := fun _ ↦ True) (.perform trivial fun _ _ ↦ trivial) fun criado _ ↦ ?_
  cases criado with
  | true => exact indexar_meets w
  | false =>
    refine Meets.bind (Q := fun o ↦ o.isSome = true → w.requestId ∈ ids) ?_ fun o ho ↦ ?_
    · refine Meets.bind (Q := fun o ↦ o.isSome = true → w.requestId ∈ ids)
        (.perform trivial fun o ho ↦ ?_) fun o ho ↦ ?_
      · cases o with
        | none => exact fun h ↦ nomatch h
        | some raw => exact fun _ ↦ ho
      · cases o with
        | none => exact ho
        | some raw =>
          dsimp only
          cases validar raw with
          | ok x => exact (show (some x).isSome = true → w.requestId ∈ ids from fun _ ↦ ho rfl)
          | error x => exact trivial
    · cases o with
      | some existente => exact ho rfl
      | none =>
        exact (Meets.of_allCalls (.of_forall (fun _ ↦ trivial) (run (.set w)))).bind fun _ _ ↦
          indexar_meets w

theorem code_meets (c : Chamada) :
    (code c).Meets (Possivel ids) (fun _ ↦ True) (Resposta.Em ids) := by
  cases c with
  | criarSeAusente w _ => exact (criarSeAusente_meets w).bind fun _ h ↦ h
  | listar =>
    exact (Meets.of_allCalls (.of_forall (fun _ ↦ trivial) listar)).bind fun _ _ ↦ trivial

end Returned

/-- A running program that gets possible answers returns only ids of the index. -/
abbrev Registra (p : Processos) : Prop :=
  ∀ ids, Pool.MeetingTo (Possivel ids) (fun _ ↦ True) (Resposta.Em ids)
    (fun r ↦ ∀ q ∈ r.index, q ∈ ids) p

theorem possivel_exec {op : Cmd} {e : Env} {r : RedisCentralStore} {i : ℕ} {ids : List String}
    (h : Indexada r (i, op, e)) (hids : ∀ q ∈ (exec op e r).1.index, q ∈ ids) :
    Possivel ids op (exec op e r).2 := by
  rcases hans : (exec op e r).2 with x | a
  · cases op <;> trivial
  · obtain ⟨hstore, rfl⟩ := exec_ok hans
    rw [hstore] at hids
    cases op with
    | get requestId =>
      rcases hget : (efeito (.get requestId) r).2 with _ | w
      · trivial
      · exact hids _ (h (Option.isSome_of_eq_some hget))
    | sadd requestId => exact hids _ (mem_sadd.mpr (.inr rfl))
    | _ => trivial

section Run

variable {p p' : Processos} {m : Passo} {tr : List Passo}

theorem cresce_of_step (h : Pool.Disciplined disciplina p) (hstep : replicas.step p m p') :
    Pool.Disciplined disciplina p' ∧ Cresce p.store p'.store := by
  obtain ⟨hp', i, hkeeps⟩ := h.step (fun i c r _ ↦ code_safe i c r)
    (fun i r hI ↦ keeps hI (.refl r)) hstep
  exact ⟨hp', hkeeps.others (i + 1) (Nat.succ_ne_self i)⟩

/-- The invariant with history: what was returned is in the index. -/
structure Registrada (tr : List Passo) (p : Processos) : Prop where
  registra : Registra p
  devolvida : ∀ requestId, Devolvida tr requestId → requestId ∈ p.store.index

theorem registrada_of_run (h : indexadas.Run tr p) : Registrada tr p := by
  refine TransitionSystem.Run.traceInvariant (fun hinit ↦ ?_) (fun hrun hI hstep ↦ ?_) h
  · rw [hinit]
    refine ⟨fun ids _ i q hq ↦ (nomatch hq), ?_⟩
    rintro requestId ⟨m, vigente, foiCriada, hm⟩
    cases hm
  · obtain ⟨hcalls, hstep⟩ := hstep
    have hcresce := (cresce_of_step (disciplined_of_run hrun.of_restrict) hstep).2
    refine ⟨fun ids ↦ ?_, ?_⟩
    · exact (hI.registra ids).step code_meets hstep (fun hids q hq ↦ hids q (hcresce.index q hq))
        fun hnext hids ↦ possivel_exec (hcalls _ hnext) hids
    · rintro requestId ⟨m, vigente, foiCriada, hm⟩
      refine hcresce.index requestId ?_
      obtain hold | hnew := List.mem_append.mp hm
      · exact hI.devolvida requestId ⟨m, vigente, foiCriada, hold⟩
      · obtain rfl := List.mem_singleton.mp hnew
        exact (hI.registra _).outcome hstep fun q hq ↦ hq

/-! ## The result -/

def semCrash : Move Chamada Env → Bool
  | .crash _ => false
  | _ => true

/-- A move that does not end what slot `i` does. -/
def Durante (i : ℕ) (m : Passo) : Prop :=
  m.1.slot = i → m.2.isNone = true ∧ semCrash m.1 = true

instance (i : ℕ) (m : Passo) : Decidable (Durante i m) := inferInstanceAs (Decidable (_ → _))

/-- A `listar` call that starts now may return this. -/
def Listou (p : Processos) (solicitacoes : List WorkRequest) : Prop :=
  ∃ i e p₁ tr p₂ p₃, p.task i = none ∧ replicas.step p (.start i .listar, none) p₁ ∧
    (replicas.restrict fun _ ↦ Durante i).Path p₁ tr p₂ ∧
    replicas.step p₂ (.advance i e, some (.ok (.lista solicitacoes))) p₃

/-- A listing has every id of the index. -/
theorem listed_of_index (h : Pool.Disciplined disciplina p) {solicitacoes : List WorkRequest}
    (hlistou : Listou p solicitacoes) :
    ∀ q ∈ p.store.index, ∃ w ∈ solicitacoes, w.requestId = q := by
  obtain ⟨i, e, p₁, tr, p₂, p₃, hidle, hstart, hpath, hfim⟩ := hlistou
  let Q : Except Erro Resposta → Prop := fun x ↦ ∀ ws, x = .ok (.lista ws) →
    ∀ q ∈ p.store.index, ∃ w ∈ ws, w.requestId = q
  have hstarted : Pool.Towards disciplina i Q p₁ := by
    rw [Pool.step_eq hstart, Pool.move, hidle]
    refine ⟨_, Function.update_self .., (listar_safe p.store).bind (fun hws ↦ .ret ?_) ?_⟩
    · intro ws heq
      cases heq
      exact hws _ rfl
    · exact fun _ _ heq ↦ by cases heq
  have hend : Pool.Disciplined disciplina p₂ ∧ Pool.Towards disciplina i Q p₂ := by
    refine hpath.preserves (P := fun p ↦ Pool.Disciplined disciplina p ∧
      Pool.Towards disciplina i Q p) (fun hJ hstep ↦ ?_) ⟨(cresce_of_step h hstart).1, hstarted⟩
    obtain ⟨hdurante, hstep⟩ := hstep
    refine ⟨(cresce_of_step hJ.1 hstep).1,
      hJ.2.step hJ.1 (fun i r hI ↦ keeps hI (.refl r)) hstep fun hslot ↦ ?_⟩
    obtain ⟨hnone, hcrash⟩ := hdurante hslot
    refine ⟨Option.isNone_iff_eq_none.mp hnone, fun heq ↦ ?_⟩
    rw [heq] at hcrash
    cases hcrash
  exact hend.2.outcome hfim rfl solicitacoes rfl

/-- **When what was created is listed.** If every request that is found is in the index, every id
for which `criar_se_ausente` returned is in every later listing. -/
theorem listed_of_returned (h : indexadas.Run tr p) {requestId : String}
    (hdevolvida : Devolvida tr requestId) {solicitacoes : List WorkRequest}
    (hlistou : Listou p solicitacoes) : ∃ w ∈ solicitacoes, w.requestId = requestId :=
  listed_of_index (disciplined_of_run h.of_restrict) hlistou requestId
    ((registrada_of_run h).devolvida requestId hdevolvida)

end Run

/-! ### A small store -/

instance (r : RedisCentralStore) (x : ℕ × Cmd × Env) : Decidable (Indexada r x) :=
  match x with
  | (_, .get _, _) => inferInstanceAs (Decidable (_ = true → _ ∈ _))
  | (_, .setNx _, _) | (_, .set _, _) | (_, .sadd _, _) | (_, .smembers, _) | (_, .mget _, _)
  | (_, .srem _, _) => instDecidableTrue

def sampleSolicitacao : WorkRequest :=
  Service.novaSolicitacao sampleConfig sampleInput sampleInstant

def sampleCriar : Chamada := .criarSeAusente sampleSolicitacao (by decide +kernel)

/-- Process `i` starts and takes `n` steps. -/
def sampleStart (i : ℕ) (c : Chamada) (n : ℕ) : List (Move Chamada Env) :=
  .start i c :: List.replicate n (.advance i {})

/-- The trace and the processes after moves that may overlap. -/
def sampleRun (moves : List (Move Chamada Env)) : List Passo × Processos :=
  TransitionSystem.runCalls (Pool.move code machine) moves ⟨{}, fun _ ↦ none⟩

theorem run_sampleRun (moves : List (Move Chamada Env)) :
    replicas.Run (sampleRun moves).1 (sampleRun moves).2 :=
  TransitionSystem.run_runCalls _ _ moves

/-- Process 9 lists the requests and takes `n` steps for it. -/
def sampleLista (p : Processos) (n : ℕ) : List Passo × Processos :=
  TransitionSystem.runCalls (Pool.move code machine) (List.replicate n (.advance 9 {}))
    (Pool.move code machine (.start 9 .listar) p).1

theorem listou_sampleLista {p : Processos} {n : ℕ} {ws : List WorkRequest}
    (hidle : p.task 9 = none) (hdurante : ∀ m ∈ (sampleLista p n).1, Durante 9 m)
    (hfim : (sampleLista p n).2.task 9 = some (.ret (.lista ws))) : Listou p ws := by
  refine ⟨9, {}, (Pool.move code machine (.start 9 .listar) p).1, (sampleLista p n).1,
    (sampleLista p n).2, (Pool.move code machine (.advance 9 {}) (sampleLista p n).2).1, hidle,
    Prod.ext rfl ?_,
    (TransitionSystem.path_runCalls _ _ _ _).restrict_of_forall fun m hm _ ↦ hdurante m hm,
    Prod.ext rfl ?_⟩
  · simp only [Pool.move, hidle]
  · simp only [Pool.move, hfim]

/-- A request is created. -/
def sampleCriada : List (Move Chamada Env) := sampleStart 0 sampleCriar 3

theorem devolvida_sampleCriada : Devolvida (sampleRun sampleCriada).1 sampleId :=
  ⟨.advance 0 {}, sampleSolicitacao, true, by
    have htrace : (sampleRun sampleCriada).1[3]?
        = some (.advance 0 {}, some (.ok (.criada sampleId sampleSolicitacao true))) := by rfl
    exact List.mem_of_getElem? htrace⟩

theorem listed_of_returned_sample :
    ∃ w ∈ [sampleSolicitacao], w.requestId = sampleId :=
  listed_of_returned (p := (sampleRun sampleCriada).2)
    (TransitionSystem.run_restrict_runCalls _ (by decide +kernel)) devolvida_sampleCriada
    (listou_sampleLista (n := 2) (by decide +kernel) (by decide +kernel) rfl)

/-- **Returned and not listed.** A process crashes between `SET NX` and `SADD`. The same request is
sent again and returned as existing, and the listing is empty. -/
theorem returned_not_listed : ∃ tr p requestId solicitacoes, replicas.Run tr p ∧
    Devolvida tr requestId ∧ Listou p solicitacoes ∧
      ∀ w ∈ solicitacoes, w.requestId ≠ requestId := by
  have hrun := run_sampleRun (sampleStart 0 sampleCriar 1 ++ [.crash 0] ++
    sampleStart 1 sampleCriar 3)
  refine ⟨_, _, sampleId, [], hrun, ⟨.advance 1 {}, sampleSolicitacao, false, ?_⟩,
    listou_sampleLista (n := 1) (by decide +kernel) (by decide +kernel) rfl, fun w hw ↦ nomatch hw⟩
  have htrace : (sampleRun (sampleStart 0 sampleCriar 1 ++ [.crash 0] ++
      sampleStart 1 sampleCriar 3)).1[6]?
      = some (.advance 1 {}, some (.ok (.criada sampleId sampleSolicitacao false))) := by rfl
  exact List.mem_of_getElem? htrace

end Commands

end Central

end ReqSys
