import Mathlib
import ReqSys.Foundation.Serial
import ReqSys.ProcessArtifacts.Repository

/-!
# Process artifacts: promotions

`promote` stores a copy of a revision under a new version, an event, and the pointer to the active
revision, which it has read before. A caller may say which revision it takes to be the active one;
if that is another one, the promotion is refused. The pointer is read once, and the event and the
pointer are written at the end, in two files.
-/

namespace ReqSys

namespace ProcessArtifacts

/-- The arguments of `promote`. -/
structure Promotion where
  processId : String
  sourceRevision : String
  targetVersion : String
  actor : String
  reason : String
  correlationId : String
  expectedCurrentRevision : Option String := none

/-- `_required`. -/
def required (value field : String) (maxLength : ℕ) : Except Erro String :=
  let normalized := PyText.strip value
  if normalized = "" then
    .error (.processPromotionValidationError s!"{field} e obrigatorio")
  else if maxLength < normalized.length then
    .error (.processPromotionValidationError s!"{field} excede {maxLength} caracteres")
  else .ok normalized

/-- The arguments without surrounding blanks, all of them there and none too long. -/
def Promotion.normalized (ped : Promotion) : Except Erro Promotion := do
  let processId ← required ped.processId "process_id" 120
  let sourceRevision ← required ped.sourceRevision "source_revision" 200
  let targetVersion ← required ped.targetVersion "target_version" 40
  let actor ← required ped.actor "actor" 160
  let reason ← required ped.reason "reason" 500
  let correlationId ← required ped.correlationId "correlation_id" 160
  return { ped with processId, sourceRevision, targetVersion, actor, reason, correlationId }

/-- `ProcessVersionGovernanceService._safe_segment`. -/
def governanceSegment (value : String) : Processo String :=
  match safeSegment? value with
  | some segment => return segment
  | none => .raise (.processPromotionValidationError "identificador de processo invalido")

/-- `get_active(process_id, required=False)`. -/
def getActive (processId : String) : Processo (Option ActivePointer) := do
  let dir ← governanceSegment processId
  run (.readActive dir)

/-- The file name of an event. -/
def eventName (promotedAt eventId : String) : String :=
  String.ofList ((promotedAt.toList.filter (· ≠ ':')).map fun c ↦ if c = '+' then '_' else c)
    ++ "_" ++ eventId ++ ".json"

/-- `_persist_event`. -/
def persistEvent (event : ProcessPromotionEvent) : Processo Unit := do
  let dir ← governanceSegment event.processId
  run (.writeEvent dir (eventName event.promotedAt event.eventId) event)

/-- The pointer to what an event has promoted. -/
def ProcessPromotionEvent.pointer (event : ProcessPromotionEvent) : ActivePointer where
  processId := event.processId
  activeRevision := event.promotedRevision
  sourceRevision := event.sourceRevision
  targetVersion := event.targetVersion
  activatedAt := event.promotedAt
  activatedBy := event.actor
  reason := event.reason
  correlationId := event.correlationId
  eventId := event.eventId

/-- `_write_active_pointer`. -/
def writeActivePointer (event : ProcessPromotionEvent) : Processo Unit := do
  let dir ← governanceSegment event.processId
  run (.writeActive dir event.pointer)

/-- The artifact of a promotion. -/
def Promotion.artifact (ped : Promotion) (source : Version) (entries : List (String × Json))
    (generatedAt : String) : Artifact :=
  let definition := Table.put entries ("version", .str ped.targetVersion)
  { processId := ped.processId
    processName := source.metadata.processName.orElse (Json.get "name" definition)
    processVersion := ped.targetVersion
    contentHash := source.metadata.contentHash
    generatedAt := some generatedAt
    correlationId := .str ped.correlationId
    metrics := source.metadata.metrics
    definition := .obj definition
    mermaid := source.mermaid
    bpmn := source.bpmn }

/-- The event of a promotion. -/
def Promotion.event (cfg : Config) (ped : Promotion) (promotedRevision : String)
    (previous : Option String) (promotedAt : String) : ProcessPromotionEvent where
  eventId := PyText.take 24 (cfg.sha256 (String.intercalate "|"
    [ped.processId, ped.sourceRevision, promotedRevision, ped.actor, ped.correlationId,
      promotedAt]))
  processId := ped.processId
  sourceRevision := ped.sourceRevision
  promotedRevision := promotedRevision
  targetVersion := ped.targetVersion
  previousActiveRevision := previous
  actor := ped.actor
  reason := ped.reason
  correlationId := ped.correlationId
  promotedAt := promotedAt

/-- What `promote` answers. -/
structure PromotionResult where
  event : ProcessPromotionEvent
  artifact : PersistedProcessArtifact

/-- What happens once the promotion is not refused. -/
def concluir (cfg : Config) (ped : Promotion) (source : Version) (entries : List (String × Json))
    (previous : Option String) : Processo PromotionResult := do
  let generatedAt ← run .now
  let persisted ← save cfg (ped.artifact source entries generatedAt)
  let promotedAt ← run .now
  let event := ped.event cfg persisted.revision previous promotedAt
  persistEvent event
  writeActivePointer event
  return { event, artifact := persisted }

/-- `promote`, with the arguments that it works with. -/
def promover (cfg : Config) (ped : Promotion) : Processo PromotionResult := do
  let source ← getVersion cfg ped.processId ped.sourceRevision
  match source.metadata.definition with
  | .obj entries => do
    let current ← getActive ped.processId
    let currentRevision := current.map ActivePointer.activeRevision
    if ped.expectedCurrentRevision ≠ none ∧ ped.expectedCurrentRevision ≠ currentRevision then
      .raise (.processPromotionConflictError
        ("revisao ativa divergente: esperada=" ++ ped.expectedCurrentRevision.getD "None" ++
          ", atual=" ++ currentRevision.getD "None"))
    else concluir cfg ped source entries currentRevision
  | _ => .raise (.processArtifactComparisonError
      "revisao sem snapshot estrutural; gere novamente antes de promover")

/-- `ProcessVersionGovernanceService.promote`. -/
def promote (cfg : Config) (ped : Promotion) : Processo PromotionResult := do
  let ped ← .ofExcept ped.normalized
  promover cfg ped

/-! ## Calls -/

inductive Chamada
  | save (a : Artifact)
  | promote (ped : Promotion)

inductive Resposta
  | persisted (a : PersistedProcessArtifact)
  | promoted (r : PromotionResult)

def code (cfg : Config) : Chamada → Processo Resposta
  | .save a => do return .persisted (← save cfg a)
  | .promote ped => do return .promoted (← promote cfg ped)

/-- The disk and the calls running on it. -/
abbrev Processos := Pool Disk (Processo Resposta)

/-- A move, with the outcome it delivers. -/
abbrev Passo := Move Chamada Env × Option (Except Erro Resposta)

/-- Calls that overlap, starting on an empty disk. -/
def chamadas (cfg : Config) : TransitionSystem Processos Passo :=
  Pool.interleaving {} (code cfg) machine

/-- Calls one after the other, starting on an empty disk. -/
def sequencia (cfg : Config) : TransitionSystem Disk (Chamada × Except Erro Resposta) :=
  Program.serial {} (code cfg) machine

end ProcessArtifacts

end ReqSys
