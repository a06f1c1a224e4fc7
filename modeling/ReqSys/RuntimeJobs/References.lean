import ReqSys.RuntimeJobs.Calls

/-!
# Runtime jobs: what keeps a job alive

A job that is neither finished nor `QUEUED` is only found again through its id in the queue, the
delayed set or the processing list. The id moves between these structures by several commands, and
the status of the job lives in another key.

`jobs_referenced` says which commands may be sent when: a command that takes an id out of the
processing list must leave another reference, or a job that needs none, and a job may only be saved
as unfinished while its id stands somewhere. The worker confirms after every exception, also after
those that `processar_job` does not turn into a retry: such a job stays `PROCESSING` with no
reference.
-/

namespace ReqSys

namespace RuntimeJobs

/-- The id of the job stands in the queue, the delayed set or the processing list. -/
def Redis.Referenciado (s : Redis) (jobId : String) : Prop :=
  jobId ∈ s.queue ∨ jobId ∈ s.delayed.map Prod.fst ∨ jobId ∈ s.processing

instance (s : Redis) (jobId : String) : Decidable (s.Referenciado jobId) :=
  inferInstanceAs (Decidable (_ ∨ _))

/-- A job that needs no reference: it is finished, or `recuperar_jobs_pendentes` finds it. -/
def JobStatus.Dispensa (st : JobStatus) : Prop := st = .queued ∨ st.Final

instance : DecidablePred JobStatus.Dispensa := fun st ↦
  inferInstanceAs (Decidable (st = .queued ∨ st.Final))

/-- Every stored job that needs a reference has one. -/
def NadaPerdido (s : Redis) : Prop :=
  ∀ jobId job, s.obter jobId = some job → job.status.Dispensa ∨ s.Referenciado jobId

/-- The condition on a command: an unfinished job is saved only while its id stands somewhere, and
an id leaves the processing list only if its job needs no reference or has another one. -/
def Cmd.Conserva (s : Redis) : Cmd → Prop
  | salvar job => job.status.Dispensa ∨ s.Referenciado job.jobId
  | lrem jobId | quarentenar jobId =>
    (s.obter jobId).all (fun job ↦ job.status.Dispensa) = true ∨ (s.lrem jobId).Referenciado jobId
  | _ => True

instance (s : Redis) : DecidablePred (Cmd.Conserva s)
  | .salvar job => inferInstanceAs (Decidable (job.status.Dispensa ∨ s.Referenciado job.jobId))
  | .lrem jobId | .quarentenar jobId => inferInstanceAs (Decidable (_ = true ∨
      (s.lrem jobId).Referenciado jobId))
  | .criarSeAusente _ | .remover _ | .obter _ | .membros | .publicar _ _ | .publicarAtrasado _ _ _
  | .promover _ | .brpoplpush | .uuid4 | .agora | .adquirir _ _ | .lpush _ | .liberar _ _ | .lrange
  | .existeLease _ | .postJson _ | .responder _ | .expirar _ | .expirarJob _ => instDecidableTrue

/-! ## References -/

namespace Redis

variable {s s' : Redis} {jobId : String}

/-- A reference survives what only adds to the three structures. -/
theorem Referenciado.mono (h : s.Referenciado jobId) (hqueue : s.queue ⊆ s'.queue)
    (hdelayed : s.delayed.map Prod.fst ⊆ s'.delayed.map Prod.fst)
    (hprocessing : s.processing ⊆ s'.processing) : s'.Referenciado jobId :=
  h.imp (@hqueue jobId) (Or.imp (@hdelayed jobId) (@hprocessing jobId))

theorem referenciado_zadd (h : s.Referenciado jobId) (jobId' : String) (score : ℕ) :
    (s.zadd jobId' score).Referenciado jobId := by
  refine h.imp_right (Or.imp_left fun hdelayed ↦ ?_)
  rw [zadd, List.map_cons, List.mem_cons]
  by_cases hid : jobId = jobId'
  · exact .inl hid
  · obtain ⟨x, hx, rfl⟩ := List.mem_map.mp hdelayed
    exact .inr (List.mem_map_of_mem (List.mem_filter.mpr ⟨hx, by simpa using hid⟩))

theorem referenciado_promoverUm (h : s.Referenciado jobId) (jobId' : String) :
    (s.promoverUm jobId').Referenciado jobId := by
  rw [promoverUm]
  split
  · by_cases hid : jobId = jobId'
    · exact .inl (hid ▸ List.mem_cons_self)
    · refine h.imp (List.mem_cons_of_mem jobId') (Or.imp_left fun hdelayed ↦ ?_)
      obtain ⟨x, hx, rfl⟩ := List.mem_map.mp hdelayed
      exact List.mem_map_of_mem (List.mem_filter.mpr ⟨hx, by simpa using hid⟩)
  · exact h

theorem referenciado_promover (h : s.Referenciado jobId) (agora limite : ℕ) :
    (s.promover agora limite).Referenciado jobId := by
  rw [promover]
  generalize s.devidos agora limite = jobIds
  induction jobIds generalizing s with
  | nil => exact h
  | cons jobId' jobIds ih => exact ih (referenciado_promoverUm h jobId')

theorem referenciado_brpoplpush (h : s.Referenciado jobId) :
    s.brpoplpush.1.Referenciado jobId := by
  rw [brpoplpush]
  split
  · exact h
  next jobId' hlast =>
    rcases h with hqueue | hdelayed | hprocessing
    · rw [← List.dropLast_append_getLast? jobId' hlast, List.mem_append] at hqueue
      rcases hqueue with hqueue | hqueue
      · exact .inl hqueue
      · exact .inr (.inr (List.mem_singleton.mp hqueue ▸ List.mem_cons_self))
    · exact .inr (.inl hdelayed)
    · exact .inr (.inr (List.mem_cons_of_mem jobId' hprocessing))

theorem referenciado_lrem_of_ne (h : s.Referenciado jobId) {jobId' : String}
    (hid : jobId ≠ jobId') : (s.lrem jobId').Referenciado jobId := by
  refine h.imp_right (Or.imp_right fun hprocessing ↦ ?_)
  exact (List.mem_erase_of_ne hid).mpr hprocessing

end Redis

/-! ## One command -/

/-- A command other than the three of the condition keeps the references. -/
theorem referenciado_exec {op : Cmd} {s : Redis} {jobId : String} (h : s.Referenciado jobId)
    (hlrem : op ≠ .lrem jobId) (hquarentenar : op ≠ .quarentenar jobId) (e : Env) :
    (exec op e s).1.Referenciado jobId := by
  cases op with
  | lrem jobId' => exact Redis.referenciado_lrem_of_ne h fun hid ↦ hlrem (hid ▸ rfl)
  | quarentenar jobId' => exact Redis.referenciado_lrem_of_ne h fun hid ↦ hquarentenar (hid ▸ rfl)
  | promover limite => exact Redis.referenciado_promover h e.agora limite
  | brpoplpush => exact Redis.referenciado_brpoplpush h
  | lpush jobId' => exact h.imp_left (List.mem_cons_of_mem jobId')
  | publicar jobId' n =>
    rw [exec]
    split
    · exact h.imp_left (List.mem_cons_of_mem jobId')
    · exact h
  | publicarAtrasado jobId' delay n =>
    rw [exec]
    split
    · exact Redis.referenciado_zadd h jobId' _
    · exact h
  | criarSeAusente | adquirir | liberar =>
    rw [exec]
    split <;> exact h
  | _ => exact h

/-- A command that neither saves a job nor takes an id out of the processing list. -/
theorem nadaPerdido_of_free {s : Redis} (h : NadaPerdido s) {op : Cmd} (hop : op.Criado)
    (hsalvar : ∀ job, op ≠ .salvar job) (hlrem : ∀ jobId, op ≠ .lrem jobId)
    (hquarentenar : ∀ jobId, op ≠ .quarentenar jobId) (e : Env) :
    NadaPerdido (exec op e s).1 := by
  intro jobId job hjob
  obtain hkept | ⟨new, -, hnew, hstored⟩ | ⟨-, hgone⟩ := obter_exec_cases op e s jobId
  · rw [hkept] at hjob
    exact (h jobId job hjob).imp_right fun href ↦
      referenciado_exec href (hlrem jobId) (hquarentenar jobId) e
  · rw [hstored] at hjob
    cases hjob
    obtain rfl | ⟨rfl, -⟩ := hnew
    · exact absurd rfl (hsalvar job)
    · exact .inl (.inl hop.1)
  · rw [hgone] at hjob
    cases hjob

/-- **One command** keeps the invariant exactly when it meets the condition. -/
theorem nadaPerdido_exec {s : Redis} (h : NadaPerdido s) {op : Cmd} (hop : op.Criado) (e : Env) :
    NadaPerdido (exec op e s).1 ↔ op.Conserva s := by
  have hlist : ∀ {jobId s'}, s'.jobs = s.jobs → (∀ {x}, x ≠ jobId → s.Referenciado x →
      s'.Referenciado x) → (NadaPerdido s' ↔
        (s.obter jobId).all (fun job ↦ job.status.Dispensa) = true ∨ s'.Referenciado jobId) := by
    intro jobId s' hjobs hother
    have hobter : ∀ x, s'.obter x = s.obter x := fun x ↦
      congrArg (Table.lookup JobAssincrono.jobId x) hjobs
    constructor
    · intro h'
      by_cases href : s'.Referenciado jobId
      · exact .inr href
      · refine .inl (Option.all_eq_true_iff_get _ _ |>.mpr fun hsome ↦ decide_eq_true ?_)
        refine (h' jobId _ ?_).resolve_right href
        rw [hobter, Option.some_get]
    · intro hC x job hx
      rw [hobter] at hx
      by_cases hid : x = jobId
      · subst hid
        rw [hx] at hC
        exact hC.imp_left of_decide_eq_true
      · exact (h x job hx).imp_right (hother hid)
  cases op with
  | lrem jobId => exact hlist rfl fun hid href ↦ Redis.referenciado_lrem_of_ne href hid
  | quarentenar jobId => exact hlist rfl fun hid href ↦ Redis.referenciado_lrem_of_ne href hid
  | salvar job =>
    constructor
    · intro h'
      refine h' job.jobId job ?_
      exact (s.obter_salvar job job.jobId).trans (if_pos rfl)
    · intro hC x j hx
      have hx' : (s.salvar job).obter x = some j := hx
      rw [Redis.obter_salvar] at hx'
      split at hx'
      next hid =>
        cases hx'
        exact hid ▸ hC
      · exact h x j hx'
  | _ =>
    exact iff_of_true (nadaPerdido_of_free h hop (fun _ h ↦ nomatch h) (fun _ h ↦ nomatch h)
      (fun _ h ↦ nomatch h) e) trivial

/-! ## Whole runs -/

/-- The processes, as long as every command meets the condition. -/
def conservado (cfg : Config) : TransitionSystem Processos Passo :=
  (runtime cfg).restrict fun p m ↦ ∀ x ∈ p.nextCall m.1, x.2.1.Conserva p.store

example : ((sampleRun []).2.store.obter sampleJobId).isNone = true := by decide +kernel

end RuntimeJobs

end ReqSys
