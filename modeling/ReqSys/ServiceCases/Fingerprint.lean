import Mathlib
import ReqSys.Foundation.HexText
import ReqSys.Foundation.Separated
import ReqSys.ServiceCases.ClosingGate

/-!
# Service management: the fingerprint of a change evidence

A repeated `event_id` is a replay if the fingerprint of its payload is the stored one, and a
conflict otherwise. The fingerprint hashes eighteen texts joined by U+001F; the row is filled from
the payload by normalisations of its own. The two part in both directions.

* U+001F may stand inside the free texts, so two rows can have one fingerprint: a *false replay*.
  This is ruled out when the joined texts hold the separator equally often, field by field.
* The row keeps `observed_at` as an instant and the two free texts of a rollback stripped, while the
  fingerprint takes the first as it is written, with its offset, and the others as they are sent:
  a *false conflict*. This is ruled out when equal rows come from equal raw values.

`fingerprint_exact_iff` says that nothing else can go wrong.
-/

namespace ReqSys

namespace ServiceCases

/-! ## The content of a row -/

/-- The columns of an evidence row that come from the payload, with the instant of `observed_at`. -/
structure EvidenceContent where
  eventId : String
  requirementRef : String
  sddRef : String
  pullRequestRef : String
  headSha : String
  ciRunId : String
  ciConclusion : String
  deploymentRef : String
  environment : String
  runtimeSha : String
  postDeployEvidenceUri : String
  postDeployEvidenceSha256 : String
  status : ChangeValidationStatus
  observedAt : ℤ
  rollback : Rollback
  deriving DecidableEq

/-- The content of a stored row. -/
def ChangeEvidence.content (r : ChangeEvidence) : EvidenceContent where
  eventId := r.eventId
  requirementRef := r.requirementRef
  sddRef := r.sddRef
  pullRequestRef := r.pullRequestRef
  headSha := r.execution.headSha
  ciRunId := r.ciRunId
  ciConclusion := r.ciConclusion
  deploymentRef := r.execution.deploymentRef
  environment := r.execution.environment
  runtimeSha := r.execution.runtimeSha
  postDeployEvidenceUri := r.execution.postDeployEvidenceUri
  postDeployEvidenceSha256 := r.execution.postDeployEvidenceSha256
  status := r.execution.status
  observedAt := r.execution.observedAt.instant
  rollback := r.execution.rollback

/-- The content that a request would store: the references stripped, as `ExternalReference` and
`ChangeCiEvidence` keep them, and the columns that `ChangeExecutionEvidence` has normalised. -/
def storedContent (p : EvidenceRequest) : Except RsmError EvidenceContent := do
  let e ← executionEvidence p
  return {
    eventId := p.eventId
    requirementRef := PyText.strip p.requirementRef
    sddRef := PyText.strip p.sddRef
    pullRequestRef := PyText.strip p.pullRequestRef
    headSha := e.headSha
    ciRunId := PyText.strip p.ciRunId
    ciConclusion := "success"
    deploymentRef := e.deploymentRef
    environment := e.environment
    runtimeSha := e.runtimeSha
    postDeployEvidenceUri := e.postDeployEvidenceUri
    postDeployEvidenceSha256 := e.postDeployEvidenceSha256
    status := e.status
    observedAt := e.observedAt.instant
    rollback := e.rollback }

/-! ## What the checks leave of a payload -/

theorem text_eq_ok {value fieldName s : String} {maxLength : ℕ}
    (h : text value fieldName maxLength = .ok s) : s = PyText.strip value := by
  obtain ⟨-, h⟩ := require_bind_eq_ok.mp h
  obtain ⟨-, h⟩ := require_bind_eq_ok.mp h
  exact (Except.ok.inj h).symm

theorem gitSha_eq_ok {value fieldName complaint s : String}
    (h : gitSha value fieldName complaint = .ok s) :
    s = PyText.asciiLower (PyText.strip value) ∧ isGitSha s = true := by
  obtain ⟨t, ht, h⟩ := bind_eq_ok.mp h
  obtain ⟨hsha, h⟩ := require_bind_eq_ok.mp h
  obtain rfl := text_eq_ok ht
  obtain rfl := Except.ok.inj h
  exact ⟨rfl, hsha⟩

theorem digest_eq_ok {value fieldName s : String} (h : digest value fieldName = .ok s) :
    s = PyText.asciiLower (PyText.strip value) ∧ PyText.isHex 64 s = true := by
  obtain ⟨t, ht, h⟩ := bind_eq_ok.mp h
  obtain ⟨hhex, h⟩ := require_bind_eq_ok.mp h
  obtain rfl := text_eq_ok ht
  obtain rfl := Except.ok.inj h
  exact ⟨rfl, hhex⟩

theorem strip_of_isGitSha {s : String} (h : isGitSha (PyText.asciiLower s) = true) :
    PyText.strip s = s := by
  obtain h | h := Bool.or_eq_true_iff.mp h
  · exact PyText.strip_of_isHex h
  · exact PyText.strip_of_isHex h

/-- A digest that the schema lets through is stored as it is. -/
theorem normalized_of_isHex {s : String} (h : PyText.isHex 64 s = true) :
    PyText.asciiLower (PyText.strip s) = s := by
  have hlower := PyText.asciiLower_of_isHex h
  rw [PyText.strip_of_isHex (n := 64) (by rwa [hlower]), hlower]

/-- The rollback fields as the row keeps them. -/
def Rollback.normalized (r : Rollback) : Rollback where
  ref := r.ref.map PyText.strip
  runtimeSha := r.runtimeSha.map PyText.asciiLower
  evidenceUri := r.evidenceUri.map PyText.strip
  evidenceSha256 := r.evidenceSha256

/-- The rollback fields are there exactly if the change was rolled back, and then all of them. -/
def Rollback.Settled (status : ChangeValidationStatus) (r : Rollback) : Prop :=
  (status = .rolledBack ∧ ∃ ref runtimeSha evidenceUri evidenceSha256,
    r = ⟨some ref, some runtimeSha, some evidenceUri, some evidenceSha256⟩) ∨
  (status ≠ .rolledBack ∧ r = {})

theorem Rollback.of_build {headSha : String} {r r' : Rollback}
    (hsha : ∀ s ∈ r.runtimeSha, isGitSha (PyText.asciiLower s) = true)
    (hdigest : ∀ s ∈ r.evidenceSha256, PyText.isHex 64 s = true)
    (h : Rollback.build headSha r = .ok r') :
    r' = r.normalized ∧ Rollback.Settled .rolledBack r := by
  obtain ⟨hall, h⟩ := require_bind_eq_ok.mp h
  simp only [Rollback.all, Bool.and_eq_true, Option.isSome_iff_exists] at hall
  obtain ⟨⟨⟨⟨ref, href⟩, ⟨sha, hsha'⟩⟩, ⟨uri, huri⟩⟩, ⟨dig, hdig⟩⟩ := hall
  obtain ⟨_, hgit, h⟩ := bind_eq_ok.mp h
  obtain ⟨-, h⟩ := require_bind_eq_ok.mp h
  obtain ⟨_, hreftext, h⟩ := bind_eq_ok.mp h
  obtain ⟨_, huritext, h⟩ := bind_eq_ok.mp h
  obtain ⟨_, hdigtext, h⟩ := bind_eq_ok.mp h
  rw [hsha'] at hgit hsha
  rw [href] at hreftext
  rw [huri] at huritext
  rw [hdig] at hdigtext hdigest
  obtain rfl := (gitSha_eq_ok hgit).1
  obtain rfl := text_eq_ok hreftext
  obtain rfl := text_eq_ok huritext
  obtain rfl := (digest_eq_ok hdigtext).1
  obtain rfl := Except.ok.inj h
  refine ⟨?_, Or.inl ⟨rfl, ref, sha, uri, dig, ?_⟩⟩
  · rw [Rollback.normalized, href, hsha', huri, hdig]
    simp only [Option.getD_some, Option.map_some]
    rw [strip_of_isGitSha (hsha sha rfl), normalized_of_isHex (hdigest dig rfl)]
  · rw [← href, ← hsha', ← huri, ← hdig]

/-- The branch of `ChangeExecutionEvidence.build` on the status, before what follows it. -/
theorem Rollback.of_checked {α : Type} {status : ChangeValidationStatus} {headSha : String}
    {r : Rollback} {x : RsmError} {f : Rollback → Except RsmError α} {a : α}
    (hsha : ∀ s ∈ r.runtimeSha, isGitSha (PyText.asciiLower s) = true)
    (hdigest : ∀ s ∈ r.evidenceSha256, PyText.isHex 64 s = true)
    (h : (if status = .rolledBack then Rollback.build headSha r >>= f
      else if r.any = true then Except.error x >>= f else Except.ok r >>= f) = .ok a) :
    f r.normalized = .ok a ∧ r.Settled status := by
  by_cases hstatus : status = .rolledBack
  · rw [if_pos hstatus] at h
    obtain ⟨_, hbuild, h⟩ := bind_eq_ok.mp h
    obtain ⟨rfl, hsettled⟩ := Rollback.of_build hsha hdigest hbuild
    exact ⟨h, hstatus ▸ hsettled⟩
  · rw [if_neg hstatus] at h
    obtain ⟨ref, runtimeSha, evidenceUri, evidenceSha256⟩ := r
    by_cases hany : (Rollback.mk ref runtimeSha evidenceUri evidenceSha256).any = true
    · rw [if_pos hany] at h
      cases h
    · rw [if_neg hany] at h
      simp only [Rollback.any, Bool.or_eq_true, not_or, Option.not_isSome_iff_eq_none] at hany
      obtain ⟨⟨⟨rfl, rfl⟩, rfl⟩, rfl⟩ := hany
      exact ⟨h, Or.inr ⟨hstatus, rfl⟩⟩

/-- The evidence of a request whose checks pass. -/
def EvidenceRequest.executed (p : EvidenceRequest) : ChangeExecutionEvidence where
  headSha := PyText.asciiLower p.headSha
  deploymentRef := PyText.strip p.deploymentRef
  environment := PyText.strip p.environment
  runtimeSha := PyText.asciiLower p.runtimeSha
  postDeployEvidenceUri := PyText.strip p.postDeployEvidenceUri
  postDeployEvidenceSha256 := p.postDeployEvidenceSha256
  status := p.status
  observedAt := p.observedAt
  rollback := p.rollback.normalized

/-- **What the checks leave of a payload.** -/
theorem executionEvidence_eq_ok {p : EvidenceRequest} {e : ChangeExecutionEvidence}
    (h : executionEvidence p = .ok e) :
    e = p.executed ∧ p.observedAt.offset.isSome = true ∧ p.rollback.Settled p.status := by
  obtain ⟨_, hhead, h⟩ := bind_eq_ok.mp h
  obtain ⟨_, hruntime, h⟩ := bind_eq_ok.mp h
  obtain ⟨_, hdeployment, h⟩ := bind_eq_ok.mp h
  obtain ⟨_, henvironment, h⟩ := bind_eq_ok.mp h
  obtain ⟨_, huri, h⟩ := bind_eq_ok.mp h
  obtain ⟨_, hdigest, h⟩ := bind_eq_ok.mp h
  obtain ⟨hoffset, h⟩ := require_bind_eq_ok.mp h
  obtain ⟨-, h⟩ := require_bind_eq_ok.mp h
  have hsha : ∀ s ∈ [p.headSha, p.runtimeSha] ++ p.rollback.runtimeSha.toList,
      PyText.strip s = s := fun s hs ↦ strip_of_isGitSha (p.sha_pattern s hs)
  obtain ⟨h, hsettled⟩ := Rollback.of_checked
    (fun s hs ↦ p.sha_pattern s (List.mem_append_right _ (Option.mem_toList.mpr hs)))
    (fun s hs ↦ p.sha256_pattern s (List.mem_cons_of_mem _ (Option.mem_toList.mpr hs))) h
  obtain rfl := Except.ok.inj h
  obtain rfl := (gitSha_eq_ok hhead).1
  obtain rfl := (gitSha_eq_ok hruntime).1
  obtain rfl := text_eq_ok hdeployment
  obtain rfl := text_eq_ok henvironment
  obtain rfl := text_eq_ok huri
  obtain rfl := (digest_eq_ok hdigest).1
  refine ⟨?_, hoffset, hsettled⟩
  simp only [EvidenceRequest.executed, hsha p.headSha List.mem_cons_self,
    hsha p.runtimeSha (List.mem_cons_of_mem _ List.mem_cons_self),
    normalized_of_isHex (p.sha256_pattern _ List.mem_cons_self)]

/-- The content of a request whose checks pass. -/
def EvidenceRequest.normalized (p : EvidenceRequest) : EvidenceContent where
  eventId := p.eventId
  requirementRef := PyText.strip p.requirementRef
  sddRef := PyText.strip p.sddRef
  pullRequestRef := PyText.strip p.pullRequestRef
  headSha := PyText.asciiLower p.headSha
  ciRunId := PyText.strip p.ciRunId
  ciConclusion := "success"
  deploymentRef := PyText.strip p.deploymentRef
  environment := PyText.strip p.environment
  runtimeSha := PyText.asciiLower p.runtimeSha
  postDeployEvidenceUri := PyText.strip p.postDeployEvidenceUri
  postDeployEvidenceSha256 := p.postDeployEvidenceSha256
  status := p.status
  observedAt := p.observedAt.instant
  rollback := p.rollback.normalized

theorem storedContent_eq_ok {p : EvidenceRequest} {c : EvidenceContent}
    (h : storedContent p = .ok c) :
    c = p.normalized ∧ p.observedAt.offset.isSome = true ∧ p.rollback.Settled p.status := by
  obtain ⟨e, he, h⟩ := bind_eq_ok.mp h
  obtain rfl := Except.ok.inj h
  obtain ⟨rfl, hfacts⟩ := executionEvidence_eq_ok he
  exact ⟨rfl, hfacts⟩

/-- The row that `record_change_evidence` inserts has the stored content of its request. -/
theorem content_newEvidence {cfg : OpConfig} {case : CaseRecord} {p : EvidenceRequest}
    {checked : CheckedEvidence} (h : checkedEvidence cfg case p = .ok checked)
    (caseId correlationId payloadSha256 : String) (now : DateTime) :
    ∃ r, newEvidence caseId p.eventId checked correlationId payloadSha256 now = .evidence r ∧
      storedContent p = .ok r.content := by
  refine ⟨_, rfl, ?_⟩
  obtain ⟨trace, htrace, h⟩ := bind_eq_ok.mp h
  obtain ⟨ci, hci, h⟩ := bind_eq_ok.mp h
  obtain ⟨_, -, h⟩ := bind_eq_ok.mp h
  obtain ⟨_, -, h⟩ := bind_eq_ok.mp h
  obtain ⟨e, he, h⟩ := bind_eq_ok.mp h
  obtain rfl := Except.ok.inj h
  obtain ⟨_, hrequirement, htrace⟩ := bind_eq_ok.mp htrace
  obtain ⟨_, hsdd, htrace⟩ := bind_eq_ok.mp htrace
  obtain ⟨_, hpullRequest, htrace⟩ := bind_eq_ok.mp htrace
  obtain ⟨_, hhead, htrace⟩ := bind_eq_ok.mp htrace
  obtain rfl := Except.ok.inj htrace
  obtain ⟨_, -, hci⟩ := bind_eq_ok.mp hci
  obtain ⟨_, hrun, hci⟩ := bind_eq_ok.mp hci
  obtain ⟨_, hconclusion, hci⟩ := bind_eq_ok.mp hci
  obtain rfl := Except.ok.inj hci
  obtain rfl := text_eq_ok hrequirement
  obtain rfl := text_eq_ok hsdd
  obtain rfl := text_eq_ok hpullRequest
  obtain rfl := (gitSha_eq_ok hhead).1
  obtain rfl := text_eq_ok hrun
  obtain rfl := text_eq_ok hconclusion
  have hsha := strip_of_isGitSha
    (p.sha_pattern p.headSha (List.mem_append_left _ List.mem_cons_self))
  have hsuccess : PyText.asciiLower (PyText.strip "success") = "success" := by decide
  refine bind_eq_ok.mpr ⟨e, he, congrArg Except.ok ?_⟩
  obtain rfl := (executionEvidence_eq_ok he).1
  simp only [ChangeEvidence.content, EvidenceRequest.executed, hsha, hsuccess]

/-! ## The texts of the fingerprint -/

/-- The text that is hashed. -/
def fingerprintText (p : EvidenceRequest) : String :=
  String.intercalate "\x1f" (fingerprintFields p)

/-- The same numbers of separators in corresponding texts. -/
def SeparatedAlike (p q : EvidenceRequest) : Prop :=
  (fingerprintFields p).map (fun s ↦ s.toList.count '\x1f') =
    (fingerprintFields q).map fun s ↦ s.toList.count '\x1f'

instance (p q : EvidenceRequest) : Decidable (SeparatedAlike p q) :=
  inferInstanceAs (Decidable (_ = _))

theorem toList_fingerprintText (p : EvidenceRequest) : (fingerprintText p).toList =
    Separated.joined '\x1f' ((fingerprintFields p).map String.toList) :=
  Separated.toList_intercalate '\x1f' (fingerprintFields p)

theorem fields_eq_of_text {p q : EvidenceRequest} (h : fingerprintText p = fingerprintText q)
    (halike : SeparatedAlike p q) : fingerprintFields p = fingerprintFields q := by
  have hjoined : Separated.joined '\x1f' ((fingerprintFields p).map String.toList) =
      Separated.joined '\x1f' ((fingerprintFields q).map String.toList) := by
    rw [← toList_fingerprintText, ← toList_fingerprintText, h]
  have hmap := Separated.eq_of_joined hjoined (by
    rw [List.map_map, List.map_map]
    exact halike)
  exact List.map_injective_iff.mpr (fun _ _ ↦ String.toList_injective) hmap

/-! ## The text of an instant -/

namespace ObservedAt

/-- An offset from UTC is shorter than a day. -/
def Proper (t : ObservedAt) : Prop := ∀ z ∈ t.offset, -86400 < z ∧ z < 86400

theorem isoOffset_inj {z z' : ℤ} (hz : -86400 < z ∧ z < 86400) (hz' : -86400 < z' ∧ z' < 86400)
    (h : isoOffset (some z) = isoOffset (some z')) : z = z' := by
  simp only [isoOffset, List.cons_append, List.append_assoc] at h
  obtain ⟨hsign, hrest⟩ := List.cons.inj h
  obtain ⟨hhours, hrest⟩ := List.append_inj hrest (by rw [length_digits, length_digits])
  obtain ⟨-, hrest⟩ := List.cons.inj hrest
  obtain ⟨hminutes, hrest⟩ := List.append_inj hrest (by rw [length_digits, length_digits])
  have hhours := (digits_inj (by omega) (by omega)).mp hhours
  have hminutes := (digits_inj (by omega) (by omega)).mp hminutes
  have hseconds : z.natAbs % 60 = z'.natAbs % 60 := by
    split_ifs at hrest with h₁ h₂ h₂
    · rw [h₁, h₂]
    · exact (digits_inj (by omega) (by omega)).mp (List.cons.inj hrest).2
  have hsigns : (0 ≤ z ↔ 0 ≤ z') := by
    split_ifs at hsign with h₁ h₂ h₂
    · exact iff_of_true h₁ h₂
    · exact absurd hsign (by decide)
    · exact absurd hsign (by decide)
    · exact iff_of_false h₁ h₂
  omega

/-- The text of an aware time tells the time and its offset. -/
theorem eq_of_isoformat {t t' : ObservedAt} (ht : t.Proper) (ht' : t'.Proper)
    (haware : t.offset.isSome = true) (haware' : t'.offset.isSome = true)
    (h : t.isoformat = t'.isoformat) : t = t' := by
  obtain ⟨wall, offset⟩ := t
  obtain ⟨wall', offset'⟩ := t'
  obtain ⟨z, rfl⟩ := Option.isSome_iff_exists.mp haware
  obtain ⟨z', rfl⟩ := Option.isSome_iff_exists.mp haware'
  have h := String.ofList_injective h
  rw [List.append_assoc, List.append_assoc] at h
  obtain ⟨hseconds, hrest⟩ := List.append_inj h (DateTime.length_isoSeconds _ _)
  have hseconds := (DateTime.isoSeconds_eq_iff _ _).mp hseconds
  have hfirst : ∀ z : ℤ, ∃ sign l, isoOffset (some z) = sign :: l ∧ sign ≠ '.' := by
    intro z
    refine ⟨_, _, rfl, ?_⟩
    split_ifs <;> decide
  have hfraction : wall.microsecond = wall'.microsecond ∧
      isoOffset (some z) = isoOffset (some z') := by
    obtain ⟨sign, l, hl, hsign⟩ := hfirst z
    obtain ⟨sign', l', hl', hsign'⟩ := hfirst z'
    simp only at hrest
    split_ifs at hrest with h₁ h₂ h₂
    · exact ⟨h₁.trans h₂.symm, hrest⟩
    · rw [hl] at hrest
      exact absurd (List.cons.inj hrest).1 hsign
    · rw [hl'] at hrest
      exact absurd (List.cons.inj hrest).1.symm hsign'
    · obtain ⟨hdigits, hrest⟩ := List.append_inj (List.cons.inj hrest).2
        (by rw [length_digits, length_digits])
      exact ⟨(digits_inj wall.microsecond_lt wall'.microsecond_lt).mp hdigits, hrest⟩
  obtain rfl := isoOffset_inj (ht z rfl) (ht' z' rfl) hfraction.2
  simp only [DateTime.seconds, List.cons.injEq, and_true] at hseconds
  obtain ⟨hy, hmo, hd, hh, hmi, hs⟩ := hseconds
  exact congrArg (fun w ↦ ObservedAt.mk w (some z)) (DateTime.ext hy hmo hd hh hmi hs hfraction.1)

theorem not_mem_digits (w n : ℕ) : '\x1f' ∉ digits w n := by
  induction w generalizing n with
  | zero => exact List.not_mem_nil
  | succ w ih =>
    rw [digits, List.mem_append, not_or]
    refine ⟨ih _, ?_⟩
    have hlt : n % 10 < 10 := Nat.mod_lt _ (by decide)
    generalize n % 10 = d at hlt
    interval_cases d <;> decide

/-- No separator stands in the text of a time. -/
theorem count_isoformat (t : ObservedAt) : t.isoformat.toList.count '\x1f' = 0 := by
  refine List.count_eq_zero.mpr ?_
  obtain ⟨wall, offset⟩ := t
  have hoffset : '\x1f' ∉ isoOffset offset := by
    cases offset with
    | none => exact List.not_mem_nil
    | some z =>
      simp only [isoOffset]
      split_ifs <;> simp [not_mem_digits]
  have hfraction : '\x1f' ∉
      (if wall.microsecond = 0 then [] else '.' :: digits 6 wall.microsecond) := by
    split_ifs <;> simp [not_mem_digits]
  rw [isoformat, String.toList_ofList]
  simp only [List.mem_append, not_or]
  refine ⟨⟨?_, hfraction⟩, hoffset⟩
  simp [DateTime.isoSeconds, not_mem_digits]

end ObservedAt

/-! ## The fingerprint against the row -/

/-- Requests of one content that are also written alike, where the row keeps less than was sent. -/
def WrittenAlike (p q : EvidenceRequest) : Prop :=
  p.observedAt = q.observedAt ∧ p.rollback.ref = q.rollback.ref ∧
    p.rollback.evidenceUri = q.rollback.evidenceUri

variable {p q : EvidenceRequest}

/-- The thirteen texts that come first depend on the content alone. -/
theorem take_fields_of_normalized (h : p.normalized = q.normalized) :
    (fingerprintFields p).take 13 = (fingerprintFields q).take 13 := by
  have htake : ∀ p : EvidenceRequest, (fingerprintFields p).take 13 =
      [p.normalized.eventId, p.normalized.requirementRef, p.normalized.sddRef,
        p.normalized.pullRequestRef, p.normalized.headSha, p.normalized.ciRunId,
        p.normalized.ciConclusion, p.normalized.deploymentRef, p.normalized.environment,
        p.normalized.runtimeSha, p.normalized.postDeployEvidenceUri,
        p.normalized.postDeployEvidenceSha256, p.normalized.status.value] := fun p ↦ rfl
  rw [htake, htake, h]

theorem ChangeValidationStatus.value_injective :
    Function.Injective ChangeValidationStatus.value := by
  intro s t h
  cases s <;> cases t <;> first | rfl | exact absurd h (by decide)

/-- A digest starts with a digit, which is no blank. -/
theorem exists_cons_of_isHex {n : ℕ} {s : String} (h : PyText.isHex (n + 1) s = true) :
    ∃ a l, s.toList = a :: l ∧ (!PyText.isSpace a) = true := by
  have hlength := PyText.length_of_isHex h
  have hdigit := PyText.forall_of_isHex h
  cases hs : s.toList with
  | nil =>
    rw [hs] at hlength
    exact absurd hlength (Nat.succ_ne_zero n).symm
  | cons a l =>
    refine ⟨a, l, rfl, ?_⟩
    rw [(PyText.isHexDigit_facts (hdigit a (hs ▸ List.mem_cons_self))).2.2.2]
    rfl

theorem exists_cons_of_isGitSha {s : String} (h : isGitSha s = true) :
    ∃ a l, s.toList = a :: l ∧ (!PyText.isSpace a) = true := by
  obtain h | h := Bool.or_eq_true_iff.mp h
  · exact exists_cons_of_isHex (n := 39) h
  · exact exists_cons_of_isHex (n := 63) h

/-- Two texts that strip to the same, each followed by a separator and then by no blank. -/
theorem append_inj_of_strip {s s' : String} {l l' : List Char}
    (hl : ∃ a r, l = a :: r ∧ (!PyText.isSpace a) = true)
    (hl' : ∃ a r, l' = a :: r ∧ (!PyText.isSpace a) = true)
    (hstrip : PyText.strip s = PyText.strip s')
    (h : s.toList ++ '\x1f' :: l = s'.toList ++ '\x1f' :: l') : s = s' ∧ l = l' := by
  obtain ⟨a, r, rfl, ha⟩ := hl
  obtain ⟨a', r', rfl, ha'⟩ := hl'
  obtain ⟨hs, hrest⟩ := Separated.append_cons_inj_of_countP (p := fun c ↦ !PyText.isSpace c)
    (by decide) ha ha' h (by rw [← PyText.countP_strip, hstrip, PyText.countP_strip])
  exact ⟨String.toList_injective hs, hrest⟩

/-- **One text and one content**: then the texts agree field by field. -/
theorem fields_eq_of_normalized (hp : p.rollback.Settled p.status)
    (hq : q.rollback.Settled q.status) (htext : fingerprintText p = fingerprintText q)
    (h : p.normalized = q.normalized) : fingerprintFields p = fingerprintFields q := by
  have hsplit : ∀ p : EvidenceRequest, fingerprintFields p = (fingerprintFields p).take 13 ++
      [p.observedAt.isoformat, p.rollback.ref.getD "",
        PyText.asciiLower (p.rollback.runtimeSha.getD ""), p.rollback.evidenceUri.getD "",
        p.rollback.evidenceSha256.getD ""] := fun p ↦ rfl
  have htake := take_fields_of_normalized h
  have hjoined := congrArg String.toList htext
  rw [toList_fingerprintText, toList_fingerprintText, hsplit p, hsplit q, htake,
    List.map_append, List.map_append] at hjoined
  have hjoined := Separated.joined_append_inj (List.cons_ne_nil _ _) (List.cons_ne_nil _ _) hjoined
  simp only [List.map_cons, List.map_nil, Separated.joined] at hjoined
  obtain ⟨hiso, hjoined⟩ := Separated.append_cons_inj hjoined
    (by rw [ObservedAt.count_isoformat, ObservedAt.count_isoformat])
  have hiso := String.toList_injective hiso
  have hstatus : p.status = q.status := congrArg EvidenceContent.status h
  have hrollback : p.rollback.normalized = q.rollback.normalized :=
    congrArg EvidenceContent.rollback h
  rw [hsplit p, hsplit q, htake, hiso]
  obtain ⟨hback, ref, sha, uri, digest, hr⟩ | ⟨hback, hr⟩ := hp
  · obtain ⟨-, ref', sha', uri', digest', hr'⟩ | ⟨hback', -⟩ := hq
    · have hsha : ∃ a l, (PyText.asciiLower sha).toList = a :: l ∧ (!PyText.isSpace a) = true :=
        exists_cons_of_isGitSha (p.sha_pattern sha
          (List.mem_append_right _ (Option.mem_toList.mpr (by rw [hr]))))
      have hdigest : ∃ a l, digest.toList = a :: l ∧ (!PyText.isSpace a) = true :=
        exists_cons_of_isHex (n := 63) (p.sha256_pattern digest
          (List.mem_cons_of_mem _ (Option.mem_toList.mpr (by rw [hr]))))
      rw [hr, hr'] at hrollback hjoined ⊢
      simp only [Rollback.normalized, Option.map_some, Rollback.mk.injEq, Option.some.injEq]
        at hrollback
      obtain ⟨href, hlower, huri, rfl⟩ := hrollback
      simp only [Option.getD_some] at hjoined ⊢
      rw [← hlower] at hjoined ⊢
      obtain ⟨a, l, hl, ha⟩ := hsha
      have hfirst : ∀ r, ∃ b t, (PyText.asciiLower sha).toList ++ r = b :: t ∧
          (!PyText.isSpace b) = true := fun r ↦ ⟨a, l ++ r, by rw [hl, List.cons_append], ha⟩
      obtain ⟨rfl, hrest⟩ := append_inj_of_strip (hfirst _) (hfirst _) href hjoined
      have hrest := (List.cons.inj (List.append_cancel_left hrest)).2
      obtain ⟨rfl, -⟩ := append_inj_of_strip hdigest hdigest huri hrest
      rfl
    · exact absurd (hstatus ▸ hback) hback'
  · obtain ⟨hback', -⟩ | ⟨-, hr'⟩ := hq
    · exact absurd (hstatus.trans hback') hback
    · rw [hr, hr']

/-- Texts that agree field by field are written alike. -/
theorem writtenAlike_of_fields (hp : p.rollback.Settled p.status)
    (hq : q.rollback.Settled q.status) (hproper : p.observedAt.Proper ∧ q.observedAt.Proper)
    (haware : p.observedAt.offset.isSome = true ∧ q.observedAt.offset.isSome = true)
    (h : fingerprintFields p = fingerprintFields q) : WrittenAlike p q := by
  simp only [fingerprintFields, List.cons.injEq, and_true] at h
  obtain ⟨-, -, -, -, -, -, -, -, -, -, -, -, hstatus, hiso, href, -, huri, -⟩ := h
  have hstatus := ChangeValidationStatus.value_injective hstatus
  refine ⟨ObservedAt.eq_of_isoformat hproper.1 hproper.2 haware.1 haware.2 hiso, ?_⟩
  obtain ⟨hback, ref, sha, uri, digest, hr⟩ | ⟨hback, hr⟩ := hp
  · obtain ⟨-, ref', sha', uri', digest', hr'⟩ | ⟨hback', -⟩ := hq
    · rw [hr, hr'] at href huri ⊢
      exact ⟨congrArg some href, congrArg some huri⟩
    · exact absurd (hstatus ▸ hback) hback'
  · obtain ⟨hback', -⟩ | ⟨-, hr'⟩ := hq
    · exact absurd (hstatus.trans hback') hback
    · rw [hr, hr']
      exact ⟨rfl, rfl⟩

/-- Texts that agree field by field give one content. -/
theorem normalized_eq_of_fields (hp : p.rollback.Settled p.status)
    (hq : q.rollback.Settled q.status) (halike : WrittenAlike p q)
    (h : fingerprintFields p = fingerprintFields q) : p.normalized = q.normalized := by
  simp only [fingerprintFields, List.cons.injEq, and_true, true_and] at h
  obtain ⟨hevent, hrequirement, hsdd, hpull, hhead, hrun, hdeployment, henvironment, hruntime,
    hpost, hpostSha, hstatus, -, -, hsha, -, hdigest⟩ := h
  have hstatus := ChangeValidationStatus.value_injective hstatus
  have hrollback : p.rollback.normalized = q.rollback.normalized := by
    obtain ⟨-, href, huri⟩ := halike
    obtain ⟨hback, ref, sha, uri, digest, hr⟩ | ⟨hback, hr⟩ := hp
    · obtain ⟨-, ref', sha', uri', digest', hr'⟩ | ⟨hback', -⟩ := hq
      · rw [hr, hr'] at href huri hsha hdigest ⊢
        simp only [Option.getD_some, Option.some.injEq] at href huri hsha hdigest
        simp only [Rollback.normalized, Option.map_some, href, huri, hsha, hdigest]
      · exact absurd (hstatus ▸ hback) hback'
    · obtain ⟨hback', -⟩ | ⟨-, hr'⟩ := hq
      · exact absurd (hstatus.trans hback') hback
      · rw [hr, hr']
  simp only [EvidenceRequest.normalized, hevent, hrequirement, hsdd, hpull, hhead, hrun,
    hdeployment, henvironment, hruntime, hpost, hpostSha, hstatus, hrollback, halike.1]

/-- One content, written alike, gives the same texts. -/
theorem fields_eq_of_writtenAlike (halike : WrittenAlike p q) (h : p.normalized = q.normalized) :
    fingerprintFields p = fingerprintFields q := by
  have hsplit : ∀ p : EvidenceRequest, fingerprintFields p = (fingerprintFields p).take 13 ++
      [p.observedAt.isoformat, p.rollback.ref.getD "",
        (p.normalized.rollback.runtimeSha).getD "", p.rollback.evidenceUri.getD "",
        p.normalized.rollback.evidenceSha256.getD ""] := by
    intro p
    have hlower : PyText.asciiLower (p.rollback.runtimeSha.getD "") =
        p.normalized.rollback.runtimeSha.getD "" := by
      change _ = (p.rollback.runtimeSha.map PyText.asciiLower).getD ""
      cases p.rollback.runtimeSha <;> rfl
    rw [← hlower]
    rfl
  obtain ⟨hobserved, href, huri⟩ := halike
  rw [hsplit p, hsplit q, take_fields_of_normalized h, hobserved, href, huri, h]

/-- **The fingerprint is exact** on two accepted requests precisely if no separator inside the
texts can hide where they end, and requests of one content are written alike. -/
theorem fingerprint_exact_iff {cfg : OpConfig} (hsha256 : Function.Injective cfg.sha256)
    {c d : EvidenceContent} (hp : storedContent p = .ok c) (hq : storedContent q = .ok d)
    (hproper : p.observedAt.Proper ∧ q.observedAt.Proper) :
    (fingerprint cfg p = fingerprint cfg q ↔ c = d) ↔
      (fingerprintText p = fingerprintText q → SeparatedAlike p q) ∧
        (c = d → WrittenAlike p q) := by
  obtain ⟨rfl, hpaware, hpsettled⟩ := storedContent_eq_ok hp
  obtain ⟨rfl, hqaware, hqsettled⟩ := storedContent_eq_ok hq
  have htext : fingerprint cfg p = fingerprint cfg q ↔ fingerprintText p = fingerprintText q :=
    hsha256.eq_iff
  rw [htext]
  constructor
  · intro hexact
    have hfields : p.normalized = q.normalized → fingerprintFields p = fingerprintFields q :=
      fun h ↦ fields_eq_of_normalized hpsettled hqsettled (hexact.mpr h) h
    refine ⟨fun h ↦ ?_, fun h ↦ ?_⟩
    · rw [SeparatedAlike, hfields (hexact.mp h)]
    · exact writtenAlike_of_fields hpsettled hqsettled hproper ⟨hpaware, hqaware⟩ (hfields h)
  · rintro ⟨hseparated, hwritten⟩
    refine ⟨fun h ↦ ?_, fun h ↦ ?_⟩
    · have hfields := fields_eq_of_text h (hseparated h)
      have halike := writtenAlike_of_fields hpsettled hqsettled hproper ⟨hpaware, hqaware⟩ hfields
      exact normalized_eq_of_fields hpsettled hqsettled halike hfields
    · rw [fingerprintText, fingerprintText, fields_eq_of_writtenAlike (hwritten h) h]

/-! ## Requests that are told apart, and others -/

instance (t : ObservedAt) : Decidable t.Proper :=
  decidable_of_iff (∀ z ∈ t.offset.toList, -86400 < z ∧ z < 86400)
    ⟨fun h z hz ↦ h z (Option.mem_toList.mpr hz), fun h z hz ↦ h z (Option.mem_toList.mp hz)⟩

/-- The passed deployment, under other references. -/
def sampleReferences (sddRef pullRequestRef : String)
    (h : (1 ≤ sddRef.length ∧ sddRef.length ≤ 300) ∧
      1 ≤ pullRequestRef.length ∧ pullRequestRef.length ≤ 200) : EvidenceRequest :=
  { sampleEvidence .passed "v-1" 0 with
    sddRef
    pullRequestRef
    text_length := by
      simp only [sampleEvidence, Option.map_none, Option.toList_none, List.append_nil,
        List.forall_mem_cons, List.not_mem_nil, false_imp_iff, implies_true, and_true]
      exact ⟨by decide, h.1, h.2, by decide, by decide, by decide, by decide⟩ }

/-- The passed deployment, with blanks around its references. -/
def sampleSpaced : EvidenceRequest := sampleReferences " SDD-1 " "PR-1\n" (by decide)

instance (p q : EvidenceRequest) : Decidable (WrittenAlike p q) :=
  inferInstanceAs (Decidable (_ ∧ _))

/-- Blanks around a reference change neither the fingerprint nor the row. -/
theorem fingerprint_exact_spaced :
    (fingerprint sampleOpConfig sampleSpaced =
        fingerprint sampleOpConfig (sampleEvidence .passed "v-1" 0) ↔
      sampleSpaced.normalized = (sampleEvidence .passed "v-1" 0).normalized) ∧
    sampleSpaced.normalized = (sampleEvidence .passed "v-1" 0).normalized := by
  have hinjective : Function.Injective sampleOpConfig.sha256 := fun _ _ h ↦ h
  have hp : storedContent sampleSpaced = .ok sampleSpaced.normalized := by decide +kernel
  have hq : storedContent (sampleEvidence .passed "v-1" 0) =
      .ok (sampleEvidence .passed "v-1" 0).normalized := by decide +kernel
  exact ⟨(fingerprint_exact_iff hinjective hp hq (by decide +kernel)).mpr (by decide +kernel),
    by decide +kernel⟩

private theorem one_o_clock : 13 < 24 := by decide

/-- One instant, an hour ahead of UTC. -/
def sampleAhead : EvidenceRequest :=
  { sampleEvidence .passed "v-1" 3600 with
    observedAt := ⟨{ sampleEnv.now with hour := 13, hour_lt := one_o_clock }, some 3600⟩ }

/-- References whose border is hidden by a separator. -/
def sampleHidden : EvidenceRequest := sampleReferences "a\x1fb" "c" (by decide)

def sampleShown : EvidenceRequest := sampleReferences "a" "b\x1fc" (by decide)

/-- A separator inside a reference hides another row behind the same fingerprint, and another offset
gives the same row another fingerprint. -/
theorem fingerprint_not_exact : Function.Injective sampleOpConfig.sha256 ∧
    (∃ p q c d, storedContent p = .ok c ∧ storedContent q = .ok d ∧
      fingerprint sampleOpConfig p = fingerprint sampleOpConfig q ∧ c ≠ d) ∧
    ∃ p q c, storedContent p = .ok c ∧ storedContent q = .ok c ∧
      fingerprint sampleOpConfig p ≠ fingerprint sampleOpConfig q := by
  refine ⟨fun _ _ h ↦ h, ⟨sampleHidden, sampleShown, sampleHidden.normalized,
    sampleShown.normalized, ?_⟩, ⟨sampleAhead, sampleEvidence .passed "v-1" 0,
    sampleAhead.normalized, ?_⟩⟩
  · exact ⟨by decide +kernel, by decide +kernel, by decide +kernel, by decide +kernel⟩
  · exact ⟨by decide +kernel, by decide +kernel, by decide +kernel⟩

end ServiceCases

end ReqSys
