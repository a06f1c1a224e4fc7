import ReqSys.Central.Models

/-!
# The Central: the evidence as a fold

What the current record of a request says depends on the inputs since the SHA last changed: each of
them is merged into the record, and an input with another SHA starts with an empty one. So the
checks are the merge of the longest suffix of the inputs that all carry the last SHA, whatever was
recorded for that SHA before.
-/

namespace ReqSys

namespace Central

/-- Evidence, and when it is applied. -/
abbrev Entrada := EvidenceRecordInput × DateTime

/-- The current record after the inputs. -/
def registroCorrente (entradas : List Entrada) : Option EvidenceRecord :=
  entradas.foldl (fun anterior x ↦ some (aplicarEvidencia anterior x.1 x.2).registro) none

/-- The checks of the inputs, later ones before earlier ones. -/
def mesclar (entradas : List Entrada) : Checks :=
  entradas.foldl (fun checks x ↦ checks.merge x.1.checks) Checks.empty

/-- The longest suffix of inputs that all carry the SHA. -/
structure MaiorSufixo (sha : String) (entradas s : List Entrada) : Prop where
  suffix : s <:+ entradas
  mesmoSha : ∀ x ∈ s, x.1.sha = sha
  maior : ∀ t, t <:+ entradas → (∀ x ∈ t, x.1.sha = sha) → t <:+ s

variable {sha : String} {entradas s : List Entrada} {ultima : Entrada}

/-! ## The longest suffix -/

theorem maiorSufixo_nil (sha : String) : MaiorSufixo sha [] [] where
  suffix := List.suffix_refl _
  mesmoSha := List.forall_mem_nil _
  maior _ ht _ := ht

/-- An input with the SHA makes it longer. -/
theorem MaiorSufixo.concat (h : MaiorSufixo sha entradas s) (hsha : ultima.1.sha = sha) :
    MaiorSufixo sha (entradas ++ [ultima]) (s ++ [ultima]) := by
  refine ⟨List.suffix_append_self_iff.mpr h.suffix, fun x hx ↦ ?_, fun t ht hall ↦ ?_⟩
  · obtain hx | hx := List.mem_append.mp hx
    · exact h.mesmoSha x hx
    · rwa [List.mem_singleton.mp hx]
  · obtain rfl | ⟨t, rfl, ht'⟩ := List.suffix_concat_iff.mp ht
    · exact List.nil_suffix
    · refine List.suffix_append_self_iff.mpr (h.maior t ht' fun x hx ↦ ?_)
      exact hall x (List.mem_append_left _ hx)

/-- After an input with another SHA it is empty. -/
theorem maiorSufixo_of_ne (hsha : ultima.1.sha ≠ sha) :
    MaiorSufixo sha (entradas ++ [ultima]) [] := by
  refine ⟨List.nil_suffix, List.forall_mem_nil _, fun t ht hall ↦ ?_⟩
  obtain rfl | ⟨t, rfl, -⟩ := List.suffix_concat_iff.mp ht
  · exact List.suffix_refl _
  · exact absurd (hall ultima List.mem_concat_self) hsha

/-! ## The fold -/

theorem registroCorrente_concat (entradas : List Entrada) (ultima : Entrada) :
    registroCorrente (entradas ++ [ultima])
      = some (aplicarEvidencia (registroCorrente entradas) ultima.1 ultima.2).registro := by
  rw [registroCorrente, List.foldl_append, List.foldl_cons, List.foldl_nil, registroCorrente]

theorem mesclar_concat (s : List Entrada) (ultima : Entrada) :
    mesclar (s ++ [ultima]) = (mesclar s).merge ultima.1.checks := by
  rw [mesclar, List.foldl_append, List.foldl_cons, List.foldl_nil, mesclar]

theorem Checks.empty_merge (checks : Checks) : Checks.empty.merge checks = checks := by
  funext c
  rw [Checks.merge, Checks.empty, Option.orElse_eq_orElse, Option.orElse_eq_or, Option.or_none]

/-- **The checks are those of the last run of one SHA.** -/
theorem registroCorrente_spec (entradas : List Entrada) (ultima : Entrada) :
    ∃ s r, MaiorSufixo ultima.1.sha (entradas ++ [ultima]) s ∧
      registroCorrente (entradas ++ [ultima]) = some r ∧ r.sha = ultima.1.sha ∧
      r.checks = mesclar s ∧ r.status = derivarStatus r.checks := by
  induction entradas using List.reverseRecOn generalizing ultima with
  | nil =>
    refine ⟨[ultima], _, (maiorSufixo_nil _).concat rfl, registroCorrente_concat [] ultima, rfl, ?_,
      rfl⟩
    exact (Checks.empty_merge ultima.1.checks).symm
  | append_singleton entradas penultima ih =>
    obtain ⟨s, r, hs, hr, hsha, hchecks, -⟩ := ih penultima
    have hregistro := registroCorrente_concat (entradas ++ [penultima]) ultima
    rw [hr] at hregistro
    by_cases hmesmo : penultima.1.sha = ultima.1.sha
    · -- the run goes on
      refine ⟨s ++ [ultima], _, hmesmo ▸ hs.concat hmesmo.symm, hregistro, rfl, ?_, rfl⟩
      change mergedChecks (some r) ultima.1 = _
      rw [mergedChecks, if_pos (hsha.trans hmesmo), mesclar_concat, hchecks]
    · -- a run begins
      refine ⟨[ultima], _, (maiorSufixo_of_ne hmesmo).concat rfl, hregistro, rfl, ?_, rfl⟩
      change mergedChecks (some r) ultima.1 = _
      rw [mergedChecks, if_neg (hsha ▸ hmesmo)]
      exact (Checks.empty_merge ultima.1.checks).symm

/-- `EVIDENCED` are the checks that all pass. -/
theorem derivarStatus_eq_evidenced {checks : Checks} :
    derivarStatus checks = .evidenced ↔ ∀ c ∈ EvidenceCheck.required, checks c = some .pass := by
  have hall : (EvidenceCheck.required.all fun c ↦
      (EvidenceCheck.required.filter fun c ↦ checks c == some .pass).contains c) = true ↔
      ∀ c ∈ EvidenceCheck.required, checks c = some .pass := by
    simp [List.all_eq_true, EvidenceCheck.mem_required]
  rw [derivarStatus]
  split
  next hfail =>
    obtain ⟨c, hc, hfail⟩ := List.any_eq_true.mp hfail
    refine ⟨fun h ↦ (by cases h), fun h ↦ ?_⟩
    rw [h c hc] at hfail
    cases hfail
  · split
    next hpass => exact ⟨fun _ ↦ hall.mp hpass, fun _ ↦ rfl⟩
    next hpass =>
      refine ⟨fun h ↦ ?_, fun h ↦ absurd (hall.mpr h) hpass⟩
      split at h <;> cases h

theorem statusValidoParaSha_of_ne {r : EvidenceRecord} (h : sha ≠ r.sha) :
    statusValidoParaSha (some r) (some sha) = .notValidated := by
  simp [statusValidoParaSha, h]

/-- **The evidence is a fold.** -/
theorem evidence_is_a_fold (entradas : List Entrada) (ultima : Entrada) :
    ∃ s r, MaiorSufixo ultima.1.sha (entradas ++ [ultima]) s ∧
      registroCorrente (entradas ++ [ultima]) = some r ∧ r.sha = ultima.1.sha ∧
      r.checks = mesclar s ∧
      (statusValidoParaSha (some r) (some ultima.1.sha) = .evidenced ↔
        ∀ c ∈ EvidenceCheck.required, mesclar s c = some .pass) ∧
      ∀ sha, sha ≠ ultima.1.sha → statusValidoParaSha (some r) (some sha) = .notValidated := by
  obtain ⟨s, r, hs, hr, hsha, hchecks, hstatus⟩ := registroCorrente_spec entradas ultima
  refine ⟨s, r, hs, hr, hsha, hchecks, ?_, fun sha hne ↦ statusValidoParaSha_of_ne (hsha ▸ hne)⟩
  rw [statusValidoParaSha_some, ← hchecks, ← derivarStatus_eq_evidenced]
  constructor
  · rintro ⟨r', hr', -, hevidenced⟩
    cases hr'
    rw [← hstatus, hevidenced]
  · exact fun hevidenced ↦ ⟨r, rfl, hsha, hstatus.trans hevidenced⟩

end Central

end ReqSys
