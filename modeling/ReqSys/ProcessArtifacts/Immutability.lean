import Mathlib
import ReqSys.ProcessArtifacts.Governance

/-!
# Process artifacts: stored revisions do not change

A call writes the files of one revision, in the directory that it names. So a stored revision stays
as it is while no call names its directory, or the call writes there what is there already.
-/

namespace ReqSys

namespace ProcessArtifacts

open Program

variable {cfg : Config} {i : ℕ} {d d' d'' : Disk}

/-! ## What is returned -/

/-- `get_version` returns `x`. -/
def Disk.Returns (cfg : Config) (d : Disk) (processId revision : String) (x : Version) : Prop :=
  Alone machine 0 d (fun out _ ↦ out = .ok x) (getVersion cfg processId revision)

/-- Every stored revision is as it was. -/
def Disk.Keeps (d d' : Disk) : Prop :=
  ∀ dir revision, (d.revisions dir revision).metadata ≠ none →
    d'.revisions dir revision = d.revisions dir revision

theorem Disk.Keeps.refl (d : Disk) : d.Keeps d := fun _ _ _ ↦ rfl

theorem Disk.Keeps.trans (h : d.Keeps d') (h' : d'.Keeps d'') : d.Keeps d'' := by
  intro dir revision hstored
  have heq := h dir revision hstored
  rw [h' dir revision (heq ▸ hstored), heq]

theorem Disk.Keeps.of_eq (h : d'.revisions = d.revisions) : d.Keeps d' :=
  fun dir revision _ ↦ by rw [h]

/-- The command answers `a` and leaves the disk `d'`. -/
theorem alone_run_bind {α : Type} {op : Cmd} {a : op.Ans} {Q : Except Erro α → Disk → Prop}
    {f : op.Ans → Processo α} (h : ∀ e, exec i op e d = (d', .ok a))
    (hf : Alone machine i d' Q (f a)) : Alone machine i d Q (run op >>= f) := by
  refine alone_perform_bind (fun e s b hexec ↦ ?_) fun e s x hexec ↦ ?_
  · cases (h e).symm.trans hexec
    exact hf
  · cases (h e).symm.trans hexec

/-- The clock answers something. -/
theorem alone_now_bind {α : Type} {Q : Except Erro α → Disk → Prop} {f : String → Processo α}
    (hf : ∀ t, Alone machine i d Q (f t)) : Alone machine i d Q (run .now >>= f) := by
  refine alone_perform_bind (fun e s b hexec ↦ ?_) fun e s x hexec ↦ by cases hexec
  cases hexec
  exact hf _

/-- A command that leaves the disk alone. -/
theorem reads_run (op : Cmd) {P : op.Ans → Prop} (h : ∀ e, ∃ a, exec i op e d = (d, .ok a))
    (hP : ∀ e a, exec i op e d = (d, .ok a) → P a) : Reads machine i d P (run op) :=
  Reads.perform fun e ↦ (h e).imp fun a ha ↦ ⟨ha, hP e a ha⟩

theorem alone_safeSegment_bind {α : Type} {value : String} {Q : Except Erro α → Disk → Prop}
    {f : String → Processo α}
    (hf : ∀ segment, safeSegment? value = some segment → Alone machine i d Q (f segment))
    (herror : ∀ x, Q (.error x) d) : Alone machine i d Q (safeSegment value >>= f) := by
  rw [safeSegment]
  split
  next segment h => exact hf segment h
  next => exact herror _

/-- What `get_version` finds. -/
structure Finds (cfg : Config) (d : Disk) (processId revision : String) (x : Version) : Prop where
  found : ∃ dir segment, safeSegment? processId = some dir ∧ safeSegment? revision = some segment ∧
    (d.revisions dir segment).metadata = some x.metadata ∧
    x.mermaid = (d.revisions dir segment).mermaid.getD "" ∧
    x.bpmn = (d.revisions dir segment).bpmn.getD "" ∧ x.directory = cfg.path dir segment ∧
    x.metadataFile = cfg.path dir segment ++ "/metadata.json"

theorem getVersion_reads (processId revision : String) :
    Reads machine i d (Finds cfg d processId revision) (getVersion cfg processId revision) := by
  have herror : ∀ x : Erro, d = d ∧ ∀ a, (Except.error x : Except Erro Version) = .ok a →
      Finds cfg d processId revision a := fun x ↦ ⟨rfl, fun _ h ↦ by cases h⟩
  refine alone_safeSegment_bind (fun dir hdir ↦ ?_) herror
  refine alone_safeSegment_bind (fun segment hsegment ↦ ?_) herror
  refine alone_run_bind (fun _ ↦ rfl) ?_
  cases hmetadata : (d.revisions dir segment).metadata with
  | none => exact herror _
  | some metadata =>
    refine alone_run_bind (fun _ ↦ rfl) (alone_run_bind (fun _ ↦ rfl) ?_)
    refine Reads.ret (M := machine) (i := i) ⟨?_⟩
    exact ⟨dir, segment, hdir, hsegment, hmetadata, rfl, rfl, rfl, rfl⟩

theorem getVersion_returns {processId revision : String} {x : Version}
    (h : Finds cfg d processId revision x) : d.Returns cfg processId revision x := by
  obtain ⟨dir, segment, hdir, hsegment, hmetadata, hmermaid, hbpmn, hdirectory, hfile⟩ := h.found
  rw [Disk.Returns, getVersion, safeSegment, hdir, safeSegment, hsegment]
  refine alone_run_bind (fun _ ↦ rfl) ?_
  rw [hmetadata]
  refine alone_run_bind (fun _ ↦ rfl) (alone_run_bind (fun _ ↦ rfl) ?_)
  rw [← hmermaid, ← hbpmn, ← hfile, ← hdirectory]
  exact rfl

/-- What is returned is what is found. -/
theorem Disk.Returns.finds {processId revision : String} {x : Version}
    (h : d.Returns cfg processId revision x) : Finds cfg d processId revision x := by
  obtain ⟨out, s, hout, hreads⟩ := EndsIn.exists_and (fun _ ↦ rfl) ⟨{ agora := "" }, trivial⟩ h
    (getVersion_reads processId revision)
  exact hreads.2 x hout

/-- **A kept revision is returned as before.** -/
theorem Disk.Returns.keeps {processId revision : String} {x : Version}
    (h : d.Returns cfg processId revision x) (hkeeps : d.Keeps d') :
    d'.Returns cfg processId revision x := by
  obtain ⟨dir, segment, hdir, hsegment, hmetadata, hrest⟩ := h.finds.found
  have heq := hkeeps dir segment (by rw [hmetadata]; exact Option.some_ne_none _)
  refine getVersion_returns ⟨dir, segment, hdir, hsegment, ?_⟩
  rw [heq]
  exact ⟨hmetadata, hrest⟩

/-! ## What a call writes -/

/-- The artifact is for a revision that is not stored, or it is what is stored there. -/
def Disk.Fits (d : Disk) (a : Artifact) : Prop :=
  ∀ dir version, safeSegment? a.processId = some dir →
    safeSegment? a.processVersion = some version →
    (d.revisions dir (revisionName version a.contentHash)).metadata = none ∨
      ∃ t, a.generatedAt = some t ∧ t ≠ "" ∧
        d.revisions dir (revisionName version a.contentHash) =
          { mermaid := some a.mermaid, bpmn := some a.bpmn
            metadata := some (a.metadata (revisionName version a.contentHash) t) }

/-- The files of an artifact. -/
def Artifact.files (a : Artifact) (revision generatedAt : String) : RevisionDir where
  mermaid := some a.mermaid
  bpmn := some a.bpmn
  metadata := some (a.metadata revision generatedAt)

theorem setRevision_idem (d : Disk) (dir revision : String) (f g : RevisionDir → RevisionDir) :
    (d.setRevision dir revision f).setRevision dir revision g
      = d.setRevision dir revision fun r ↦ g (f r) := by
  simp only [Disk.setRevision, Function.update_self, Function.update_idem]

/-- Writing what is there, or where nothing is stored. -/
theorem keeps_setRevision {dir revision : String} {r : RevisionDir}
    (h : (d.revisions dir revision).metadata = none ∨ d.revisions dir revision = r) :
    d.Keeps (d.setRevision dir revision fun _ ↦ r) := by
  intro dir' revision' hstored
  rw [Disk.setRevision]
  dsimp only
  by_cases hdir : dir' = dir
  · subst hdir
    rw [Function.update_self]
    by_cases hrevision : revision' = revision
    · subst hrevision
      rw [Function.update_self]
      obtain hnone | heq := h
      · exact absurd hnone hstored
      · exact heq.symm
    · rw [Function.update_of_ne hrevision]
  · rw [Function.update_of_ne hdir]

theorem generatedAt_reads (a : Artifact) :
    Reads machine i d (fun t ↦ ∀ u, a.generatedAt = some u → u ≠ "" → t = u) (generatedAt a) := by
  have hnow : (∀ u, a.generatedAt = some u → u = "") → Reads machine i d
      (fun t ↦ ∀ u, a.generatedAt = some u → u ≠ "" → t = u) (run .now) := by
    intro hempty
    exact reads_run .now (fun e ↦ ⟨e.agora, rfl⟩) fun _ _ _ u hu hne ↦ absurd (hempty u hu) hne
  rw [generatedAt]
  split
  next u hu =>
    split
    next hempty =>
      refine hnow fun v hv ↦ ?_
      rw [hu] at hv
      cases hv
      exact hempty
    next =>
      refine .ret fun v hv _ ↦ ?_
      rw [hu] at hv
      exact Option.some.inj hv
  next hnone =>
    refine hnow fun v hv ↦ ?_
    rw [hnone] at hv
    cases hv

theorem updateManifest_alone (dir revision metadataFile : String) :
    Alone machine i d (fun _ d' ↦ d'.revisions = d.revisions)
      (updateManifest dir revision metadataFile) := by
  refine alone_run_bind (fun _ ↦ rfl) (alone_run_bind (fun _ ↦ rfl) ?_)
  split
  · exact rfl
  · refine alone_now_bind fun t ↦ ?_
    rintro _ e rfl -
    exact rfl

/-- **Saving** keeps what is stored. -/
theorem save_alone {a : Artifact} (h : d.Fits a) :
    Alone machine i d (fun _ d' ↦ d.Keeps d') (save cfg a) := by
  refine alone_safeSegment_bind (fun dir hdir ↦ ?_) fun _ ↦ .refl d
  refine alone_safeSegment_bind (fun version hversion ↦ ?_) fun _ ↦ .refl d
  refine (generatedAt_reads a).bind (fun _ ↦ .refl d) fun t ht ↦ ?_
  refine alone_run_bind (fun _ ↦ rfl) (alone_run_bind (fun _ ↦ rfl) ?_)
  refine alone_run_bind (fun _ ↦ rfl) ?_
  rw [setRevision_idem, setRevision_idem]
  have hkeeps : d.Keeps (d.setRevision dir (revisionName version a.contentHash) fun _ ↦
      a.files (revisionName version a.contentHash) t) := by
    refine keeps_setRevision ?_
    obtain hnone | ⟨u, hu, hne, hstored⟩ := h dir version hdir hversion
    · exact .inl hnone
    · right
      rw [hstored, ht u hu hne]
      rfl
  refine EndsIn.bind (updateManifest_alone _ _ _) (fun {_ s} hs ↦ ?_) fun {_ s} hs ↦ ?_
  · exact hkeeps.trans (.of_eq hs)
  · exact hkeeps.trans (.of_eq hs)

/-- The promotion goes through for the metadata `m` of its source. -/
structure Disk.Promotes (d : Disk) (ped : Promotion) (dir : String) (m : Metadata) : Prop where
  directory : safeSegment? ped.processId = some dir
  source : ∃ segment, safeSegment? ped.sourceRevision = some segment ∧
    (d.revisions dir segment).metadata = some m
  snapshot : ∃ entries, m.definition = .obj entries
  expected : ped.expectedCurrentRevision = none ∨
    ped.expectedCurrentRevision = (d.governance dir).active.map ActivePointer.activeRevision

/-- **The condition.** A call stores a revision that is not stored, or what is stored already. -/
def Livre (d : Disk) : Chamada → Prop
  | .save a => d.Fits a
  | .promote ped => ∀ ped', ped.normalized = .ok ped' → ∀ dir m, d.Promotes ped' dir m →
      ∀ version, safeSegment? ped'.targetVersion = some version →
        (d.revisions dir (revisionName version m.contentHash)).metadata = none

theorem getActive_reads (processId : String) :
    Reads machine i d (fun pointer ↦ ∃ dir, safeSegment? processId = some dir ∧
      pointer = (d.governance dir).active) (getActive processId) := by
  rw [getActive, governanceSegment]
  split
  next dir hdir =>
    refine reads_run (.readActive dir) (fun _ ↦ ⟨(d.governance dir).active, rfl⟩) ?_
    intro _ pointer hpointer
    cases hpointer
    exact ⟨dir, hdir, rfl⟩
  next => exact Reads.raise _

theorem persistEvent_alone (event : ProcessPromotionEvent) :
    Alone machine i d (fun _ d' ↦ d'.revisions = d.revisions) (persistEvent event) := by
  rw [persistEvent, governanceSegment]
  split
  · rintro _ e rfl -
    exact rfl
  · exact rfl

theorem writeActivePointer_alone (event : ProcessPromotionEvent) :
    Alone machine i d (fun _ d' ↦ d'.revisions = d.revisions) (writeActivePointer event) := by
  rw [writeActivePointer, governanceSegment]
  split
  · rintro _ e rfl -
    exact rfl
  · exact rfl

theorem concluir_alone {ped : Promotion} {source : Version} {entries : List (String × Json)}
    {previous : Option String} (h : ∀ t, d.Fits (ped.artifact source entries t)) :
    Alone machine i d (fun _ d' ↦ d.Keeps d') (concluir cfg ped source entries previous) := by
  refine alone_now_bind fun t ↦ ?_
  refine EndsIn.bind (save_alone (h t)) (fun {persisted s} hs ↦ ?_) fun hs ↦ hs
  refine alone_now_bind fun promotedAt ↦ ?_
  refine EndsIn.bind (persistEvent_alone _) (fun {_ s'} hs' ↦ ?_) fun {_ s'} hs' ↦ ?_
  · refine EndsIn.bind (writeActivePointer_alone _) (fun {_ s''} hs'' ↦ ?_) fun {_ s''} hs'' ↦ ?_
    · exact hs.trans (.of_eq (hs''.trans hs'))
    · exact hs.trans (.of_eq (hs''.trans hs'))
  · exact hs.trans (.of_eq hs')

/-- **Promoting** keeps what is stored. -/
theorem promover_alone {ped : Promotion} (h : ∀ dir m, d.Promotes ped dir m →
    ∀ version, safeSegment? ped.targetVersion = some version →
      (d.revisions dir (revisionName version m.contentHash)).metadata = none) :
    Alone machine i d (fun _ d' ↦ d.Keeps d') (promover cfg ped) := by
  refine (getVersion_reads ped.processId ped.sourceRevision).bind (fun _ ↦ .refl d)
    fun source hsource ↦ ?_
  obtain ⟨dir, segment, hdir, hsegment, hmetadata, -⟩ := hsource.found
  split
  next entries hentries =>
    refine (getActive_reads ped.processId).bind (fun _ ↦ .refl d) fun pointer hpointer ↦ ?_
    obtain ⟨dir', hdir', rfl⟩ := hpointer
    cases hdir.symm.trans hdir'
    dsimp only
    split
    · exact .refl d
    next hexpected =>
      refine concluir_alone fun t dir'' version hdir'' hversion ↦ .inl ?_
      cases hdir.symm.trans hdir''
      refine h dir source.metadata ⟨hdir, ⟨segment, hsegment, hmetadata⟩, ⟨entries, hentries⟩, ?_⟩
        version hversion
      rwa [← or_iff_not_and_not] at hexpected
  next => exact .refl d

/-- **A call** keeps what is stored. -/
theorem code_alone {c : Chamada} (h : Livre d c) :
    Alone machine i d (fun _ d' ↦ d.Keeps d') (code cfg c) := by
  cases c with
  | save a => exact EndsIn.bind (save_alone h) (fun hs ↦ hs) fun hs ↦ hs
  | promote ped =>
    have hpromote : Alone machine i d (fun _ d' ↦ d.Keeps d') (promote cfg ped) := by
      rw [promote]
      cases hnormalized : ped.normalized with
      | error x => exact .refl d
      | ok ped' => exact promover_alone (h ped' hnormalized)
    exact EndsIn.bind hpromote (fun hs ↦ hs) fun hs ↦ hs

/-! ## Sequences of calls -/

/-- **Stored revisions do not change**: what `get_version` has returned, it returns after any
further calls that store revisions that are not stored, or what is stored already. -/
theorem imutavel_of_path (cfg : Config) {tr : List (Chamada × Except Erro Resposta)} {d d' : Disk}
    (hpath : ((sequencia cfg).restrict fun d l ↦ Livre d l.1).Path d tr d')
    {processId revision : String} {x : Version} (hx : d.Returns cfg processId revision x) :
    d'.Returns cfg processId revision x := by
  refine hx.keeps ?_
  induction hpath with
  | nil => exact .refl _
  | snoc _ hstep ih =>
    obtain ⟨hlivre, hstep⟩ := hstep
    obtain ⟨i, s, hkeeps, rfl⟩ := Alone.step (fun i ↦ code_alone (i := i) hlivre) hstep
    exact ih.trans (hkeeps.trans (.of_eq rfl))

/-! ## A small instance -/

def sampleConfig : Config where
  rootDir := "artefatos"
  sha256 text := String.ofList text.toList.reverse

/-- A version of a process without nodes. -/
def sampleArtifact (version : String) : Artifact where
  processId := "fluxo"
  processVersion := version
  contentHash := ⟨String.ofList (List.replicate 64 'a'), by decide +kernel⟩
  generatedAt := some "2026-01-01T12:00:00+00:00"
  definition := .obj [("name", .str "Fluxo")]

/-- The promotion of the first version to version 1.1. -/
def samplePromotion (correlationId : String) : Promotion where
  processId := "fluxo"
  sourceRevision := "1.0-aaaaaaaaaaaa"
  targetVersion := "1.1"
  actor := "ana"
  reason := "homologada"
  correlationId := correlationId

/-- Calls one after the other, all at the same time. -/
def sampleRun (agora : String) (calls : List Chamada) (d : Disk) :
    List (Chamada × Except Erro Resposta) × Disk :=
  runSerial machine (code sampleConfig) (List.replicate 16 { agora }) calls d

/-- Some version is returned where the metadata are there. -/
theorem exists_returns {processId revision dir segment : String}
    (hdir : safeSegment? processId = some dir) (hsegment : safeSegment? revision = some segment)
    (h : (d.revisions dir segment).metadata.isSome = true) :
    ∃ x, d.Returns cfg processId revision x := by
  obtain ⟨m, hm⟩ := Option.isSome_iff_exists.mp h
  exact ⟨{ metadata := m
           mermaid := (d.revisions dir segment).mermaid.getD ""
           bpmn := (d.revisions dir segment).bpmn.getD ""
           directory := cfg.path dir segment
           metadataFile := cfg.path dir segment ++ "/metadata.json" },
    getVersion_returns ⟨dir, segment, hdir, hsegment, hm, rfl, rfl, rfl, rfl⟩⟩

theorem path_sampleRun {agora : String} {c : Chamada} (h : Livre d c) :
    ((sequencia sampleConfig).restrict fun d l ↦ Livre d l.1).Path d (sampleRun agora [c] d).1
      (sampleRun agora [c] d).2 := by
  rw [sampleRun, runSerial]
  split
  · exact .nil d
  next s r hrun => exact TransitionSystem.Path.single ⟨h, 0, _, s, hrun, rfl⟩

/-- The disk after the first version is saved. -/
def sampleFirst : Disk :=
  (sampleRun "2026-01-01T12:00:00+00:00" [.save (sampleArtifact "1.0")] {}).2

/-- The disk after the first version is promoted too. -/
def samplePromoted : Disk :=
  (sampleRun "2026-01-01T12:01:00+00:00" [.promote (samplePromotion "c1")] sampleFirst).2

theorem sampleFluxo : safeSegment? "fluxo" = some "fluxo" := by decide +kernel

/-- The first version is returned as before when the second one is saved. -/
theorem imutavel_sample : ∃ x, sampleFirst.Returns sampleConfig "fluxo" "1.0-aaaaaaaaaaaa" x ∧
    (sampleRun "2026-01-01T12:02:00+00:00" [.save (sampleArtifact "2.0")] sampleFirst).2.Returns
      sampleConfig "fluxo" "1.0-aaaaaaaaaaaa" x := by
  have hsegment : safeSegment? "1.0-aaaaaaaaaaaa" = some "1.0-aaaaaaaaaaaa" := by decide +kernel
  obtain ⟨x, hx⟩ : ∃ x, sampleFirst.Returns sampleConfig "fluxo" "1.0-aaaaaaaaaaaa" x :=
    exists_returns sampleFluxo hsegment (by decide +kernel)
  have hlivre : Livre sampleFirst (.save (sampleArtifact "2.0")) := by
    intro dir version hdir hversion
    cases sampleFluxo.symm.trans hdir
    have hsecond : safeSegment? "2.0" = some "2.0" := by decide +kernel
    cases hsecond.symm.trans hversion
    exact .inl (Option.isNone_iff_eq_none.mp (by decide +kernel))
  exact ⟨x, hx, imutavel_of_path sampleConfig (path_sampleRun hlivre) hx⟩

/-- The same version promoted twice: the second promotion overwrites what the first one stored. -/
theorem mutavel : ∃ tr d tr' d' x, (sequencia sampleConfig).Run tr d ∧
    (sequencia sampleConfig).Path d tr' d' ∧
    d.Returns sampleConfig "fluxo" "1.1-aaaaaaaaaaaa" x ∧
    ¬d'.Returns sampleConfig "fluxo" "1.1-aaaaaaaaaaaa" x := by
  have hsegment : safeSegment? "1.1-aaaaaaaaaaaa" = some "1.1-aaaaaaaaaaaa" := by decide +kernel
  obtain ⟨x, hx⟩ : ∃ x, samplePromoted.Returns sampleConfig "fluxo" "1.1-aaaaaaaaaaaa" x :=
    exists_returns sampleFluxo hsegment (by decide +kernel)
  have hat : ∀ {d : Disk}, d.Returns sampleConfig "fluxo" "1.1-aaaaaaaaaaaa" x →
      (d.revisions "fluxo" "1.1-aaaaaaaaaaaa").metadata.map Metadata.generatedAt
        = some x.metadata.generatedAt := by
    intro d hd
    obtain ⟨dir, segment, hdir, hseg, hmetadata, -⟩ := hd.finds.found
    cases sampleFluxo.symm.trans hdir
    cases hsegment.symm.trans hseg
    rw [hmetadata]
    rfl
  have hrun : (sequencia sampleConfig).Run _ samplePromoted :=
    ⟨{}, rfl, (path_runSerial _ _ _ _ _ _).append (path_runSerial _ _ _ _ _ _)⟩
  refine ⟨_, samplePromoted, _, _, x, hrun,
    path_runSerial _ _ _ (List.replicate 16 { agora := "2026-01-01T12:03:00+00:00" })
      [.promote (samplePromotion "c2")] _, hx, fun hx' ↦ ?_⟩
  have heq := (hat hx).trans (hat hx').symm
  revert heq
  decide +kernel

end ProcessArtifacts

end ReqSys
