import Mathlib.Data.List.Sort
import Mathlib.Logic.Function.Basic
import ReqSys.Foundation.Program
import ReqSys.Foundation.PyJson
import ReqSys.Foundation.PyText
import ReqSys.Foundation.Table

/-!
# Process artifacts: the repository

`VersionedProcessArtifactRepository` keeps every revision of a process in a directory of its own,
under the directory of the process: two texts and the metadata. The name of a revision is made of
the version text, with every character that is not allowed in a file name replaced, and the first
digits of the content hash. The files are written one after the other, each of them atomically, and
then the manifest of the process is rewritten.

A file is modelled by what its text says. The directory `governance` of a process cannot be the one
of a revision, whose name has a hyphen.
-/

namespace ReqSys

namespace ProcessArtifacts

/-! ## Records -/

/-- The hexadecimal digest that the callers compute. -/
structure ContentHash where
  text : String
  hex : PyText.isHex 64 text = true

/-- What `save` is given. -/
structure Artifact where
  processId : String
  processName : Json := .null
  processVersion : String
  contentHash : ContentHash
  generatedAt : Option String := none
  correlationId : Json := .null
  metrics : Json := .obj []
  definition : Json := .null
  mermaid : String := ""
  bpmn : String := ""

/-- The file `metadata.json`. -/
structure Metadata where
  schemaVersion : String := "1.1.0"
  revision : String
  processId : String
  processName : Json
  processVersion : String
  contentHash : ContentHash
  generatedAt : String
  correlationId : Json
  metrics : Json
  definition : Json

structure ManifestVersion where
  revision : String
  processId : String
  processName : Json
  processVersion : String
  contentHash : ContentHash
  generatedAt : String
  correlationId : Json
  metrics : Json
  metadataFile : String

/-- The file `manifest.json`. -/
structure Manifest where
  schemaVersion : String := "1.1.0"
  processId : String
  latestRevision : String
  updatedAt : String
  versions : List ManifestVersion

structure PersistedProcessArtifact where
  processId : String
  version : String
  revision : String
  contentHash : ContentHash
  generatedAt : String
  directory : String
  mermaidFile : String
  bpmnFile : String
  metadataFile : String

/-- What `get_version` returns. -/
structure Version where
  metadata : Metadata
  mermaid : String
  bpmn : String
  directory : String
  metadataFile : String

structure ProcessPromotionEvent where
  eventId : String
  processId : String
  sourceRevision : String
  promotedRevision : String
  targetVersion : String
  previousActiveRevision : Option String
  actor : String
  reason : String
  correlationId : String
  promotedAt : String

/-- The file `active.json`. -/
structure ActivePointer where
  schemaVersion : String := "1.0.0"
  processId : String
  activeRevision : String
  sourceRevision : String
  targetVersion : String
  activatedAt : String
  activatedBy : String
  reason : String
  correlationId : String
  eventId : String

/-! ## The disk -/

/-- The directory of a revision. -/
structure RevisionDir where
  mermaid : Option String := none
  bpmn : Option String := none
  metadata : Option Metadata := none

/-- The directory `governance` of a process. -/
structure GovernanceDir where
  active : Option ActivePointer := none
  events : List (String × ProcessPromotionEvent) := []

/-- The files below the root, by the directory of the process, and what the calls have done. -/
structure Disk where
  revisions : String → String → RevisionDir := fun _ _ ↦ {}
  manifests : String → Option Manifest := fun _ ↦ none
  governance : String → GovernanceDir := fun _ ↦ {}
  /-- The calls that have written an event and not yet the pointer, with the directory. -/
  opened : List (ℕ × String) := []
  /-- The calls that have written an event. -/
  wrote : ℕ → Bool := fun _ ↦ false

inductive Erro
  | processArtifactNotFoundError (mensagem : String)
  | processArtifactComparisonError (mensagem : String)
  | processPromotionConflictError (mensagem : String)
  | processPromotionValidationError (mensagem : String)
  | valueError (mensagem : String)
  | fileNotFoundError
  deriving DecidableEq

/-- What a command gets from outside: `datetime.now(UTC).isoformat()`. -/
structure Env where
  agora : String

inductive Cmd
  | now
  | readMetadata (dir revision : String)
  | readMermaid (dir revision : String)
  | readBpmn (dir revision : String)
  | writeMermaid (dir revision text : String)
  | writeBpmn (dir revision text : String)
  | writeMetadata (dir revision : String) (metadata : Metadata)
  | readManifest (dir : String)
  | writeManifest (dir : String) (manifest : Manifest)
  | readActive (dir : String)
  | writeEvent (dir name : String) (event : ProcessPromotionEvent)
  | writeActive (dir : String) (pointer : ActivePointer)

abbrev Cmd.Ans : Cmd → Type
  | now => String
  | readMetadata _ _ => Option Metadata
  | readMermaid _ _ | readBpmn _ _ => Option String
  | readManifest _ => Option Manifest
  | readActive _ => Option ActivePointer
  | writeMermaid _ _ _ | writeBpmn _ _ _ | writeMetadata _ _ _ | writeManifest _ _
  | writeEvent _ _ _ | writeActive _ _ => Unit

namespace Disk

/-- A file of a revision is replaced. -/
def setRevision (d : Disk) (dir revision : String) (f : RevisionDir → RevisionDir) : Disk :=
  { d with
    revisions := Function.update d.revisions dir
      (Function.update (d.revisions dir) revision (f (d.revisions dir revision))) }

/-- A file of the directory `governance` is replaced. -/
def setGovernance (d : Disk) (dir : String) (f : GovernanceDir → GovernanceDir) : Disk :=
  { d with governance := Function.update d.governance dir (f (d.governance dir)) }

end Disk

/-- What call `i` does with a command. -/
def exec (i : ℕ) : (op : Cmd) → Env → Disk → Disk × Except Erro op.Ans
  | .now, e, d => (d, .ok e.agora)
  | .readMetadata dir revision, _, d => (d, .ok (d.revisions dir revision).metadata)
  | .readMermaid dir revision, _, d => (d, .ok (d.revisions dir revision).mermaid)
  | .readBpmn dir revision, _, d => (d, .ok (d.revisions dir revision).bpmn)
  | .writeMermaid dir revision text, _, d =>
    (d.setRevision dir revision fun r ↦ { r with mermaid := some text }, .ok ())
  | .writeBpmn dir revision text, _, d =>
    (d.setRevision dir revision fun r ↦ { r with bpmn := some text }, .ok ())
  | .writeMetadata dir revision metadata, _, d =>
    (d.setRevision dir revision fun r ↦ { r with metadata := some metadata }, .ok ())
  | .readManifest dir, _, d => (d, .ok (d.manifests dir))
  | .writeManifest dir manifest, _, d =>
    ({ d with manifests := Function.update d.manifests dir (some manifest) }, .ok ())
  | .readActive dir, _, d => (d, .ok (d.governance dir).active)
  | .writeEvent dir name event, _, d =>
    ({ (d.setGovernance dir fun g ↦ { g with events := Table.put g.events (name, event) }) with
        opened := (i, dir) :: d.opened
        wrote := Function.update d.wrote i true }, .ok ())
  | .writeActive dir pointer, _, d =>
    ({ (d.setGovernance dir fun g ↦ { g with active := some pointer }) with
        opened := d.opened.filter (· ≠ (i, dir)) }, .ok ())

/-- A call that ends leaves its files. -/
def machine : Machine Cmd.Ans Erro Disk Env where
  exec := exec
  close i d := { d with wrote := Function.update d.wrote i false }

abbrev Processo := Program Cmd.Ans Erro

/-- One command. -/
def run (op : Cmd) : Processo op.Ans := .perform op

/-! ## Names -/

/-- A character that a file name may have. -/
def isSafe (c : Char) : Bool :=
  ('A' ≤ c && c ≤ 'Z') || ('a' ≤ c && c ≤ 'z') || ('0' ≤ c && c ≤ '9') || c = '_' || c = '.'
    || c = '-'

/-- The text of `_safe_segment`, if it is a name. -/
@[irreducible] def safeSegment? (value : String) : Option String :=
  let sanitized := String.ofList ((PyText.strip value).toList.map fun c ↦
    if isSafe c then c else '_')
  if sanitized = "" ∨ sanitized = "." ∨ sanitized = ".." then none
  else some (PyText.take 160 sanitized)

/-- `VersionedProcessArtifactRepository._safe_segment`. -/
def safeSegment (value : String) : Processo String :=
  match safeSegment? value with
  | some segment => return segment
  | none => .raise (.valueError "identificador de artefato invalido")

/-- The name of a revision, from the segment of its version. -/
def revisionName (version : String) (contentHash : ContentHash) : String :=
  version ++ "-" ++ PyText.take 12 contentHash.text

/-- The root directory, and `hashlib.sha256(...).hexdigest()`. -/
structure Config where
  rootDir : String
  sha256 : String → String

/-- The directory of a revision, as text. -/
def Config.path (cfg : Config) (dir revision : String) : String :=
  cfg.rootDir ++ "/" ++ dir ++ "/" ++ revision

/-! ## The methods -/

/-- The metadata of an artifact. -/
def Artifact.metadata (a : Artifact) (revision generatedAt : String) : Metadata where
  revision := revision
  processId := a.processId
  processName := a.processName
  processVersion := a.processVersion
  contentHash := a.contentHash
  generatedAt := generatedAt
  correlationId := a.correlationId
  metrics := a.metrics
  definition := a.definition

def Metadata.manifestVersion (m : Metadata) (revision metadataFile : String) :
    ManifestVersion where
  revision := revision
  processId := m.processId
  processName := m.processName
  processVersion := m.processVersion
  contentHash := m.contentHash
  generatedAt := m.generatedAt
  correlationId := m.correlationId
  metrics := m.metrics
  metadataFile := metadataFile

/-- `_update_manifest`. -/
def updateManifest (dir revision metadataFile : String) : Processo Unit := do
  let manifest ← run (.readManifest dir)
  let versions := ((manifest.map Manifest.versions).getD []).filter fun item ↦
    decide (item.revision ≠ revision)
  match ← run (.readMetadata dir revision) with
  | none => .raise .fileNotFoundError
  | some metadata => do
    let updatedAt ← run .now
    run (.writeManifest dir {
      processId := dir
      latestRevision := revision
      updatedAt
      versions := (versions ++ [metadata.manifestVersion revision metadataFile]).insertionSort
        fun a b ↦ b.generatedAt ≤ a.generatedAt })

/-- The time of generation, or now. -/
def generatedAt (a : Artifact) : Processo String :=
  match a.generatedAt with
  | some text => if text = "" then run .now else return text
  | none => run .now

/-- `VersionedProcessArtifactRepository.save`. -/
def save (cfg : Config) (a : Artifact) : Processo PersistedProcessArtifact := do
  let dir ← safeSegment a.processId
  let version ← safeSegment a.processVersion
  let generatedAt ← generatedAt a
  let revision := revisionName version a.contentHash
  let directory := cfg.path dir revision
  run (.writeMermaid dir revision a.mermaid)
  run (.writeBpmn dir revision a.bpmn)
  run (.writeMetadata dir revision (a.metadata revision generatedAt))
  updateManifest dir revision (directory ++ "/metadata.json")
  return {
    processId := a.processId
    version := a.processVersion
    revision
    contentHash := a.contentHash
    generatedAt
    directory
    mermaidFile := directory ++ "/diagram.mmd"
    bpmnFile := directory ++ "/process.bpmn"
    metadataFile := directory ++ "/metadata.json" }

/-- `VersionedProcessArtifactRepository.get_version`. -/
def getVersion (cfg : Config) (processId revision : String) : Processo Version := do
  let dir ← safeSegment processId
  let segment ← safeSegment revision
  match ← run (.readMetadata dir segment) with
  | none => .raise (.processArtifactNotFoundError s!"revisao nao encontrada: {revision}")
  | some metadata => do
    let mermaid ← run (.readMermaid dir segment)
    let bpmn ← run (.readBpmn dir segment)
    return {
      metadata
      mermaid := mermaid.getD ""
      bpmn := bpmn.getD ""
      directory := cfg.path dir segment
      metadataFile := cfg.path dir segment ++ "/metadata.json" }

/-- A revision is not called `governance`. -/
theorem revisionName_ne_governance (version : String) (contentHash : ContentHash) :
    revisionName version contentHash ≠ "governance" := by
  intro h
  have hmem : '-' ∈ (revisionName version contentHash).toList := by
    rw [revisionName, String.toList_append, String.toList_append]
    exact List.mem_append_left _ (List.mem_append_right _ (List.mem_singleton_self _))
  rw [h] at hmem
  revert hmem
  decide

end ProcessArtifacts

end ReqSys
