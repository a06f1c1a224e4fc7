import Mathlib
import ReqSys.Foundation.PyJson
import ReqSys.Lifecycle.Evidence

/-!
# Lifecycle: the traceability graph

`build_for_requirement` projects the work items, the links and the change evidence of a requirement
into a graph. Nodes and edges are dictionaries, so what several rows say of one node or one edge is
merged. An edge that a row with a rejection reason supports is rejected, and a rejected edge stays
rejected, whatever the other rows say.

The edges that lead to the specification, to the pull request and to the commit are references: they
carry no evidence status of their own. Only the edges of the run, the deployment and the observation
do, and for them the status is what the rows say together (`Grafo.fechado`).
-/

namespace ReqSys

namespace Lifecycle

open Table

/-! ## Records -/

/-- A row of `agile_work_items`. -/
structure AgileWorkItem where
  id : ℕ
  codigo : String
  tipo : String
  status : String
  requisitoId : Option ℕ
  repositorio : Option String := none
  branch : Option String := none
  changeProvider : Option String := none
  changeId : Option String := none
  changeUrl : Option String := none
  ciProvider : Option String := none
  ciRunId : Option String := none
  ciStatus : String := "unknown"
  ambienteDeploy : String := "none"
  deployStatus : String := "not_started"

/-- A row of `rsm_change_execution_evidence`. The time is the text that the database orders by. -/
structure ChangeEvidenceRecord where
  eventId : String
  requirementRef : String
  sddRef : String
  pullRequestRef : String
  headSha : String
  ciRunId : String
  ciConclusion : String
  deploymentRef : String
  environment : String
  runtimeSha : String
  postDeployEvidenceUri : String
  postDeployEvidenceSha256 : String
  status : String
  observedAt : String
  correlationId : String

structure Db where
  requisitos : List Requisito := []
  workItems : List AgileWorkItem := []
  vinculos : List VinculoGit := []
  evidencias : List ChangeEvidenceRecord := []

inductive EvidenceStatus
  | reference
  | verified
  | rejected
  deriving DecidableEq

/-- A node of the graph. -/
structure Node where
  id : String
  type : String
  label : String
  sourceUri : Option String
  metadata : List (String × Json)

/-- An edge of the graph. -/
structure Edge where
  source : String
  target : String
  relation : String
  evidenceStatus : EvidenceStatus
  reasons : List String := []
  deriving DecidableEq

/-- What an edge is stored under. -/
def Edge.key (e : Edge) : String × String × String := (e.source, e.relation, e.target)

structure RejectedEvidence where
  eventId : String
  headSha : String
  runtimeSha : String
  reasons : List String
  deriving DecidableEq

/-! ## Dictionaries of nodes and edges -/

/-- `existing == candidate`. -/
def Node.same (m n : Node) : Bool :=
  m.id = n.id && m.type = n.type && m.label = n.label && m.sourceUri = n.sourceUri &&
    (Json.obj m.metadata).pyEq (.obj n.metadata)

/-- `_add_node`. -/
def addNode (nodes : List (String × Node)) (candidate : Node) : List (String × Node) :=
  match get? candidate.id nodes with
  | none => put nodes (candidate.id, candidate)
  | some existing =>
    if existing.same candidate then nodes
    else
      put nodes (candidate.id,
        { existing with
          metadata := merge existing.metadata candidate.metadata
          sourceUri := if PyText.truthy existing.sourceUri then existing.sourceUri
            else ou candidate.sourceUri existing.sourceUri })

abbrev Edges := List ((String × String × String) × Edge)

/-- `_add_edge`. -/
def addEdge (edges : Edges) (candidate : Edge) : Edges :=
  match get? candidate.key edges with
  | none => put edges (candidate.key, candidate)
  | some existing =>
    if existing.evidenceStatus = .rejected then edges
    else if candidate.evidenceStatus = .rejected then put edges (candidate.key, candidate)
    else edges

/-! ## The rows -/

def gitLinkKindRelation : List (String × String × String) :=
  [("pr", "PULL_REQUEST", "implemented_by"), ("merge_request", "PULL_REQUEST", "implemented_by"),
    ("commit", "COMMIT", "implemented_at"), ("branch", "BRANCH", "developed_on"),
    ("issue", "ISSUE", "tracked_by"), ("tag", "RELEASE", "released_as"),
    ("deploy", "DEPLOYMENT", "deployed_as")]

def satisfactoryEvidenceStatuses : List String := ["PASSED", "ROLLED_BACK"]

def Requisito.nodeId (requisito : Requisito) : String := "requirement:" ++ requisito.codigo

def Requisito.node (requisito : Requisito) : Node where
  id := requisito.nodeId
  type := "REQUIREMENT"
  label := requisito.codigo
  sourceUri := some s!"/v1/requisitos/{requisito.id}"
  metadata := [("requisito_id", .num requisito.id), ("titulo", .str requisito.titulo),
    ("status", .str requisito.status)]

def AgileWorkItem.nodeId (item : AgileWorkItem) : String := s!"work_item:{item.id}"

def AgileWorkItem.node (item : AgileWorkItem) : Node where
  id := item.nodeId
  type := "WORK_ITEM"
  label := item.codigo
  sourceUri := item.changeUrl
  metadata := [("tipo", .str item.tipo), ("status", .str item.status),
    ("repositorio", Json.ofOption item.repositorio), ("branch", Json.ofOption item.branch),
    ("change_provider", Json.ofOption item.changeProvider),
    ("change_id", Json.ofOption item.changeId), ("ci_provider", Json.ofOption item.ciProvider),
    ("ci_run_id", Json.ofOption item.ciRunId), ("ci_status", .str item.ciStatus),
    ("deploy_status", .str item.deployStatus), ("ambiente_deploy", .str item.ambienteDeploy)]

def AgileWorkItem.edge (requisito : Requisito) (item : AgileWorkItem) : Edge where
  source := requisito.nodeId
  target := item.nodeId
  relation := "planned_as"
  evidenceStatus := .reference

/-- The kind of the node and the relation of the edge. -/
def VinculoGit.kindRelation (link : VinculoGit) : String × String :=
  (get? link.tipo gitLinkKindRelation).getD ("EXTERNAL_REFERENCE", "related_to")

def VinculoGit.nodeId (link : VinculoGit) : String :=
  "git:" ++ link.provedor ++ ":" ++ link.repo ++ ":" ++ link.tipo ++ ":" ++ link.referencia

def VinculoGit.node (link : VinculoGit) : Node where
  id := link.nodeId
  type := link.kindRelation.1
  label := link.referencia
  sourceUri := link.url
  metadata := [("provider", .str link.provedor), ("repository", .str link.repo),
    ("type", .str link.tipo), ("environment", Json.ofOption link.ambiente),
    ("title", Json.ofOption link.titulo)]

def VinculoGit.edge (requisito : Requisito) (link : VinculoGit) : Edge where
  source := requisito.nodeId
  target := link.nodeId
  relation := link.kindRelation.2
  evidenceStatus := .reference

namespace ChangeEvidenceRecord

variable (U : Unicode) (requisito : Requisito) (record : ChangeEvidenceRecord)

/-- `_evidence_rejection_reasons`. -/
def rejectionReasons : List String :=
  (if U.lower record.ciConclusion ≠ "success" then ["ci_not_success"] else []) ++
  (if U.lower record.runtimeSha ≠ U.lower record.headSha then ["runtime_sha_mismatch"] else []) ++
  if U.upper record.status ∉ satisfactoryEvidenceStatuses then ["runtime_status_not_satisfactory"]
    else []

def evidenceStatus : EvidenceStatus :=
  if record.rejectionReasons U = [] then .verified else .rejected

def sddNode : String := "sdd:" ++ record.sddRef

def prNode : String := "pull_request:" ++ record.pullRequestRef

def commitNode : String := "commit:" ++ U.lower record.headSha

def ciNode : String := "ci_run:" ++ record.ciRunId

def deploymentNode : String := "deployment:" ++ record.deploymentRef

def runtimeNode : String := "runtime_evidence:" ++ record.eventId

/-- The nodes of a row. -/
def nodes : List Node :=
  [{ id := record.sddNode
     type := "SDD"
     label := record.sddRef
     sourceUri := some record.sddRef
     metadata := [] },
   { id := record.prNode
     type := "PULL_REQUEST"
     label := record.pullRequestRef
     sourceUri := some record.pullRequestRef
     metadata := [] },
   { id := record.commitNode U
     type := "COMMIT"
     label := U.lower record.headSha
     sourceUri := none
     metadata := [("head_sha", .str (U.lower record.headSha))] },
   { id := record.ciNode
     type := "CI_RUN"
     label := record.ciRunId
     sourceUri := none
     metadata := [("conclusion", .str record.ciConclusion),
       ("head_sha", .str (U.lower record.headSha))] },
   { id := record.deploymentNode
     type := "DEPLOYMENT"
     label := record.deploymentRef
     sourceUri := none
     metadata := [("environment", .str record.environment)] },
   { id := record.runtimeNode
     type := "RUNTIME_EVIDENCE"
     label := record.eventId
     sourceUri := some record.postDeployEvidenceUri
     metadata := [("status", .str record.status), ("head_sha", .str (U.lower record.headSha)),
       ("runtime_sha", .str (U.lower record.runtimeSha)),
       ("environment", .str record.environment),
       ("sha256", .str record.postDeployEvidenceSha256),
       ("observed_at", .str record.observedAt), ("correlation_id", .str record.correlationId),
       ("rejection_reasons", .arr ((record.rejectionReasons U).map .str))] }]

/-- The edges that say where the evidence comes from. -/
def referenceEdges : List Edge :=
  [{ source := requisito.nodeId
     target := record.sddNode
     relation := "specified_by"
     evidenceStatus := .reference },
   { source := requisito.nodeId
     target := record.prNode
     relation := "implemented_by"
     evidenceStatus := .reference },
   { source := record.prNode
     target := record.commitNode U
     relation := "resolved_to"
     evidenceStatus := .reference }]

/-- The edges that the evidence is about. -/
def evidenceEdges : List Edge :=
  [{ source := record.commitNode U
     target := record.ciNode
     relation := "verified_by"
     evidenceStatus := record.evidenceStatus U
     reasons := record.rejectionReasons U },
   { source := record.commitNode U
     target := record.deploymentNode
     relation := "deployed_as"
     evidenceStatus := record.evidenceStatus U
     reasons := record.rejectionReasons U },
   { source := record.deploymentNode
     target := record.runtimeNode
     relation := "observed_as"
     evidenceStatus := record.evidenceStatus U
     reasons := record.rejectionReasons U }]

def edges : List Edge := record.referenceEdges U requisito ++ record.evidenceEdges U

def rejectedEvidence : RejectedEvidence where
  eventId := record.eventId
  headSha := record.headSha
  runtimeSha := record.runtimeSha
  reasons := record.rejectionReasons U

end ChangeEvidenceRecord

/-! ## The projection -/

/-- What the loops fill. -/
structure Projecao where
  nodes : List (String × Node) := []
  edges : Edges := []
  rejectedEvidence : List RejectedEvidence := []
  validEvidenceCount : ℕ := 0

namespace Projecao

/-- The nodes and the edges of a row are added. -/
def add (p : Projecao) (nodes : List Node) (edges : List Edge) : Projecao :=
  { p with nodes := nodes.foldl addNode p.nodes, edges := edges.foldl addEdge p.edges }

/-- A row of the change evidence. -/
def addEvidence (U : Unicode) (requisito : Requisito) (p : Projecao)
    (record : ChangeEvidenceRecord) : Projecao :=
  let p := if record.rejectionReasons U = [] then
      { p with validEvidenceCount := p.validEvidenceCount + 1 }
    else { p with rejectedEvidence := p.rejectedEvidence ++ [record.rejectedEvidence U] }
  p.add (record.nodes U) (record.edges U requisito)

end Projecao

/-- What `build_for_requirement` returns. -/
structure Grafo where
  graphType : String := "functional_traceability_graph"
  schemaVersion : String := "1.1.0"
  requisito : Requisito
  nodes : List Node
  edges : List Edge
  rejectedEvidence : List RejectedEvidence
  nodeCount : ℕ
  edgeCount : ℕ
  validEvidenceCount : ℕ
  rejectedEvidenceCount : ℕ

/-- The loops over the rows. -/
def projeta (U : Unicode) (requisito : Requisito) (workItems : List AgileWorkItem)
    (links : List VinculoGit) (rows : List ChangeEvidenceRecord) : Projecao :=
  let p := Projecao.add {} [requisito.node] []
  let p := workItems.foldl (fun p item ↦ p.add [item.node] [item.edge requisito]) p
  let p := links.foldl (fun p link ↦ p.add [link.node] [link.edge requisito]) p
  rows.foldl (Projecao.addEvidence U requisito) p

/-- The graph of what the loops have filled. -/
def Projecao.grafo (p : Projecao) (requisito : Requisito) : Grafo :=
  let nodes := (p.nodes.map Prod.snd).insertionSort fun m n ↦ m.id ≤ n.id
  let edges := (p.edges.map Prod.snd).insertionSort fun e f ↦
    [e.source, e.relation, e.target] ≤ [f.source, f.relation, f.target]
  { requisito
    nodes
    edges
    rejectedEvidence := p.rejectedEvidence.insertionSort fun r s ↦ r.eventId ≤ s.eventId
    nodeCount := nodes.length
    edgeCount := edges.length
    validEvidenceCount := p.validEvidenceCount
    rejectedEvidenceCount := p.rejectedEvidence.length }

namespace Db

variable (db : Db)

/-- The work items of a requirement. -/
def workItemsDe (requisitoId : ℕ) : List AgileWorkItem :=
  (db.workItems.filter fun item ↦ item.requisitoId = some requisitoId).insertionSort fun a b ↦
    a.codigo < b.codigo ∨ a.codigo = b.codigo ∧ a.id ≤ b.id

/-- The columns that the links are ordered by. -/
def ordem (link : VinculoGit) : List String :=
  [link.provedor, link.repo, link.tipo, link.referencia]

/-- The links of a requirement. -/
def vinculosDe (requisitoId : ℕ) : List VinculoGit :=
  (db.vinculos.filter fun link ↦ link.requisitoId = some requisitoId).insertionSort fun a b ↦
    ordem a < ordem b ∨ ordem a = ordem b ∧ a.id ≤ b.id

/-- The change evidence of a requirement. -/
def evidenciasDe (codigo : String) : List ChangeEvidenceRecord :=
  (db.evidencias.filter fun record ↦ record.requirementRef = codigo).insertionSort fun a b ↦
    a.observedAt < b.observedAt ∨ a.observedAt = b.observedAt ∧ a.eventId ≤ b.eventId

end Db

/-- `TraceabilityGraphService.build_for_requirement`. -/
def buildForRequirement (U : Unicode) (db : Db) (requisitoId : ℕ) : Option Grafo :=
  (db.requisitos.find? fun r ↦ r.id = requisitoId).map fun requisito ↦
    (projeta U requisito (db.workItemsDe requisito.id) (db.vinculosDe requisito.id)
      (db.evidenciasDe requisito.codigo)).grafo requisito

/-! ## Merged edges -/

/-- An edge is stored under the key, and it is rejected. -/
def Rejeitada (edges : Edges) (k : String × String × String) : Prop :=
  ∃ e, get? k edges = some e ∧ e.evidenceStatus = .rejected

section Merging

variable {edges : Edges} {c e : Edge} {k : String × String × String}

/-- **What an edge does**: it is stored where there is none, and where it rejects one that is not
rejected. -/
theorem get?_addEdge (edges : Edges) (c : Edge) (k : String × String × String) :
    get? k (addEdge edges c) = get? k edges ∨
      k = c.key ∧ get? k (addEdge edges c) = some c ∧
        (get? k edges = none ∨ c.evidenceStatus = .rejected) := by
  rw [addEdge]
  by_cases hk : k = c.key
  · subst hk
    cases hget : get? c.key edges with
    | none => exact .inr ⟨rfl, by rw [get?_put, if_pos rfl], .inl rfl⟩
    | some existing =>
      dsimp only
      by_cases hexisting : existing.evidenceStatus = .rejected
      · rw [if_pos hexisting]
        exact .inl hget
      · rw [if_neg hexisting]
        by_cases hc : c.evidenceStatus = .rejected
        · rw [if_pos hc]
          exact .inr ⟨rfl, by rw [get?_put, if_pos rfl], .inr hc⟩
        · rw [if_neg hc]
          exact .inl hget
  · left
    split
    · rw [get?_put, if_neg hk]
    · split
      · rfl
      · split
        · rw [get?_put, if_neg hk]
        · rfl

theorem rejeitada_addEdge :
    Rejeitada (addEdge edges c) k ↔
      Rejeitada edges k ∨ c.key = k ∧ c.evidenceStatus = .rejected := by
  constructor
  · rintro ⟨e, he, hrejected⟩
    obtain hsame | ⟨rfl, hc, -⟩ := get?_addEdge edges c k
    · exact .inl ⟨e, hsame ▸ he, hrejected⟩
    · cases he.symm.trans hc
      exact .inr ⟨rfl, hrejected⟩
  · rintro (⟨e, he, hrejected⟩ | ⟨rfl, hrejected⟩)
    · obtain hsame | ⟨rfl, hc, hnone | hcrejected⟩ := get?_addEdge edges c k
      · exact ⟨e, hsame.trans he, hrejected⟩
      · cases hnone.symm.trans he
      · exact ⟨c, hc, hcrejected⟩
    · rw [Rejeitada, addEdge]
      cases hget : get? c.key edges with
      | none => exact ⟨c, by rw [get?_put, if_pos rfl], hrejected⟩
      | some existing =>
        dsimp only
        by_cases hexisting : existing.evidenceStatus = .rejected
        · rw [if_pos hexisting]
          exact ⟨existing, hget, hexisting⟩
        · rw [if_neg hexisting, if_pos hrejected]
          exact ⟨c, by rw [get?_put, if_pos rfl], hrejected⟩

/-- **Any edges in any order**: an edge is rejected if and only if one of them rejects it. -/
theorem rejeitada_foldl (cs : List Edge) (edges : Edges) :
    Rejeitada (cs.foldl addEdge edges) k ↔
      Rejeitada edges k ∨ ∃ c ∈ cs, c.key = k ∧ c.evidenceStatus = .rejected := by
  induction cs generalizing edges with
  | nil => simp
  | cons c cs ih =>
    rw [List.foldl_cons, ih, rejeitada_addEdge, or_assoc]
    simp only [List.mem_cons, or_and_right, exists_or, exists_eq_left]

/-- What is stored is one of the edges. -/
theorem of_get?_foldl {cs : List Edge} {edges : Edges}
    (h : get? k (cs.foldl addEdge edges) = some e) :
    get? k edges = some e ∨ e ∈ cs ∧ e.key = k := by
  induction cs generalizing edges with
  | nil => exact .inl h
  | cons c cs ih =>
    obtain h | ⟨hmem, hkey⟩ := ih h
    · obtain hsame | ⟨rfl, hc, -⟩ := get?_addEdge edges c k
      · exact .inl (hsame ▸ h)
      · cases h.symm.trans hc
        exact .inr ⟨List.mem_cons_self, rfl⟩
    · exact .inr ⟨List.mem_cons_of_mem c hmem, hkey⟩

theorem keyed_addEdge (h : Keyed Prod.fst edges) (c : Edge) : Keyed Prod.fst (addEdge edges c) := by
  rw [addEdge]
  split
  · exact h.put _
  · split
    · exact h
    · split
      · exact h.put _
      · exact h

theorem keyed_foldl_addEdge (cs : List Edge) (h : Keyed Prod.fst edges) :
    Keyed Prod.fst (cs.foldl addEdge edges) := by
  induction cs generalizing edges with
  | nil => exact h
  | cons c cs ih => exact ih (keyed_addEdge h c)

end Merging

/-! ## Merged nodes -/

section Nodes

variable {nodes : List (String × Node)} {k : String}

/-- The nodes are stored under their identifiers. -/
def PorId (nodes : List (String × Node)) : Prop := ∀ e ∈ nodes, e.2.id = e.1

theorem porId_addNode (h : PorId nodes) (c : Node) : PorId (addNode nodes c) := by
  intro e he
  rw [addNode] at he
  split at he
  · obtain he | rfl := mem_put he
    · exact h e he
    · rfl
  next existing hget =>
    split at he
    · exact h e he
    · obtain he | rfl := mem_put he
      · exact h e he
      · exact (h _ (mem_of_get? hget) : existing.id = c.id)

theorem isSome_get?_addNode (nodes : List (String × Node)) (c : Node) (k : String) :
    (get? k (addNode nodes c)).isSome ↔ (get? k nodes).isSome ∨ c.id = k := by
  have hput : ∀ n : Node, (get? k (put nodes (c.id, n))).isSome ↔
      (get? k nodes).isSome ∨ c.id = k := by
    intro n
    rw [get?_put]
    by_cases hk : k = c.id
    · rw [if_pos hk]
      exact iff_of_true rfl (.inr hk.symm)
    · rw [if_neg hk, or_iff_left (Ne.symm hk)]
  rw [addNode]
  split
  · exact hput c
  next existing hget =>
    split
    · refine ⟨.inl, ?_⟩
      rintro (h | rfl)
      · exact h
      · rw [hget]
        rfl
    · exact hput _

/-- Any nodes in any order. -/
theorem foldl_addNode (cs : List Node) (h : PorId nodes) :
    PorId (cs.foldl addNode nodes) ∧ ∀ k, (get? k (cs.foldl addNode nodes)).isSome ↔
      (get? k nodes).isSome ∨ ∃ c ∈ cs, c.id = k := by
  induction cs generalizing nodes with
  | nil => exact ⟨h, fun k ↦ by simp⟩
  | cons c cs ih =>
    obtain ⟨hporId, hkeys⟩ := ih (porId_addNode h c)
    refine ⟨hporId, fun k ↦ ?_⟩
    rw [List.foldl_cons, hkeys, isSome_get?_addNode, or_assoc]
    simp only [List.mem_cons, or_and_right, exists_or, exists_eq_left]

end Nodes

/-! ## The rows of a graph -/

section Rows

variable {U : Unicode} {requisito : Requisito} {workItems : List AgileWorkItem}
  {links : List VinculoGit} {rows : List ChangeEvidenceRecord}

/-- The nodes that are added, in order. -/
def nos (U : Unicode) (requisito : Requisito) (workItems : List AgileWorkItem)
    (links : List VinculoGit) (rows : List ChangeEvidenceRecord) : List Node :=
  requisito.node :: (workItems.map AgileWorkItem.node ++ links.map VinculoGit.node ++
    rows.flatMap (ChangeEvidenceRecord.nodes U))

/-- The edges that are added, in order. -/
def arestas (U : Unicode) (requisito : Requisito) (workItems : List AgileWorkItem)
    (links : List VinculoGit) (rows : List ChangeEvidenceRecord) : List Edge :=
  workItems.map (AgileWorkItem.edge requisito) ++ links.map (VinculoGit.edge requisito) ++
    rows.flatMap (ChangeEvidenceRecord.edges U requisito)

/-- A loop adds the nodes and the edges of its rows. -/
theorem foldl_projecao {ρ : Type} (step : Projecao → ρ → Projecao) (f : ρ → List Node)
    (g : ρ → List Edge) (hstep : ∀ p r, (step p r).nodes = (f r).foldl addNode p.nodes ∧
      (step p r).edges = (g r).foldl addEdge p.edges) (l : List ρ) (p : Projecao) :
    (l.foldl step p).nodes = (l.flatMap f).foldl addNode p.nodes ∧
      (l.foldl step p).edges = (l.flatMap g).foldl addEdge p.edges := by
  induction l generalizing p with
  | nil => exact ⟨rfl, rfl⟩
  | cons r l ih =>
    obtain ⟨hnodes, hedges⟩ := ih (step p r)
    rw [List.foldl_cons, hnodes, hedges, (hstep p r).1, (hstep p r).2, List.flatMap_cons,
      List.flatMap_cons, List.foldl_append, List.foldl_append]
    exact ⟨rfl, rfl⟩

theorem addEvidence_eq (p : Projecao) (r : ChangeEvidenceRecord) :
    (p.addEvidence U requisito r).nodes = (r.nodes U).foldl addNode p.nodes ∧
      (p.addEvidence U requisito r).edges = (r.edges U requisito).foldl addEdge p.edges := by
  rw [Projecao.addEvidence]
  split <;> exact ⟨rfl, rfl⟩

theorem projeta_eq : (projeta U requisito workItems links rows).nodes
      = (nos U requisito workItems links rows).foldl addNode [] ∧
    (projeta U requisito workItems links rows).edges
      = (arestas U requisito workItems links rows).foldl addEdge [] := by
  rw [projeta]
  generalize hp : Projecao.add {} [requisito.node] [] = p
  obtain ⟨hn, he⟩ := foldl_projecao (fun p (item : AgileWorkItem) ↦
    p.add [item.node] [item.edge requisito]) _ _ (fun _ _ ↦ ⟨rfl, rfl⟩) workItems p
  generalize workItems.foldl (fun p item ↦ p.add [item.node] [item.edge requisito]) p = p'
    at hn he ⊢
  obtain ⟨hn', he'⟩ := foldl_projecao (fun p (link : VinculoGit) ↦
    p.add [link.node] [link.edge requisito]) _ _ (fun _ _ ↦ ⟨rfl, rfl⟩) links p'
  generalize links.foldl (fun p link ↦ p.add [link.node] [link.edge requisito]) p' = p''
    at hn' he' ⊢
  obtain ⟨hn'', he''⟩ := foldl_projecao _ _ _ (@addEvidence_eq U requisito)
    rows p''
  rw [hn'', he'', hn', he', hn, he, ← hp, nos, arestas, List.foldl_cons, List.foldl_append,
    List.foldl_append, List.foldl_append, List.foldl_append, List.map_eq_flatMap,
    List.map_eq_flatMap, List.map_eq_flatMap, List.map_eq_flatMap]
  exact ⟨rfl, rfl⟩

/-! ## The graph -/

/-- The graph of the rows. -/
def grafoDe (U : Unicode) (requisito : Requisito) (workItems : List AgileWorkItem)
    (links : List VinculoGit) (rows : List ChangeEvidenceRecord) : Grafo :=
  (projeta U requisito workItems links rows).grafo requisito

/-- An edge of the graph is the one that is stored under its key, and one of those added. -/
theorem mem_edges {e : Edge} (h : e ∈ (grafoDe U requisito workItems links rows).edges) :
    get? e.key (projeta U requisito workItems links rows).edges = some e ∧
      e ∈ arestas U requisito workItems links rows := by
  rw [grafoDe, Projecao.grafo] at h
  obtain ⟨⟨k, e'⟩, hmem, rfl⟩ := List.mem_map.mp ((List.mem_insertionSort _).mp h)
  rw [projeta_eq.2] at hmem ⊢
  have hnil : Keyed Prod.fst ([] : Edges) := List.nodup_nil
  have hget := (keyed_foldl_addEdge (arestas U requisito workItems links rows)
    hnil).get?_of_mem hmem
  obtain hempty | ⟨hadded, rfl⟩ := of_get?_foldl hget
  · cases hempty
  · exact ⟨hget, hadded⟩

theorem mem_nodes_iff {k : String} :
    k ∈ (grafoDe U requisito workItems links rows).nodes.map Node.id ↔
      k ∈ (nos U requisito workItems links rows).map Node.id := by
  have hnil : PorId [] := fun _ h ↦ absurd h List.not_mem_nil
  obtain ⟨hporId, hkeys⟩ := foldl_addNode (nos U requisito workItems links rows) hnil
  rw [← projeta_eq.1] at hporId hkeys
  constructor
  · intro h
    obtain ⟨n, hn, rfl⟩ := List.mem_map.mp h
    obtain ⟨e, he, rfl⟩ := List.mem_map.mp ((List.mem_insertionSort _).mp hn)
    obtain hnil | ⟨c, hc, hid⟩ := (hkeys e.1).mp (isSome_get?.mpr (List.mem_map_of_mem he))
    · cases hnil
    · rw [hporId e he]
      exact List.mem_map.mpr ⟨c, hc, hid⟩
  · intro h
    obtain ⟨c, hc, rfl⟩ := List.mem_map.mp h
    obtain ⟨e, he, hkey⟩ := List.mem_map.mp (isSome_get?.mp ((hkeys c.id).mpr (.inr ⟨c, hc, rfl⟩)))
    rw [← hkey, ← hporId e he]
    exact List.mem_map_of_mem ((List.mem_insertionSort _).mpr (List.mem_map_of_mem he))

/-- The edges are references, or a row has them as evidence. -/
theorem arestas_cases {e : Edge} (h : e ∈ arestas U requisito workItems links rows) :
    e.evidenceStatus = .reference ∧
        (e.source = requisito.nodeId ∨ ∃ r ∈ rows, e.source = r.prNode) ∨
      ∃ r ∈ rows, e ∈ r.evidenceEdges U := by
  rw [arestas, List.mem_append, List.mem_append, List.mem_map, List.mem_map,
    List.mem_flatMap] at h
  obtain (⟨item, -, rfl⟩ | ⟨link, -, rfl⟩) | ⟨r, hr, he⟩ := h
  · exact .inl ⟨rfl, .inl rfl⟩
  · exact .inl ⟨rfl, .inl rfl⟩
  · obtain he | he := List.mem_append.mp he
    · simp only [ChangeEvidenceRecord.referenceEdges, List.mem_cons, List.not_mem_nil,
        or_false] at he
      obtain rfl | rfl | rfl := he
      · exact .inl ⟨rfl, .inl rfl⟩
      · exact .inl ⟨rfl, .inl rfl⟩
      · exact .inl ⟨rfl, .inr ⟨r, hr, rfl⟩⟩
    · exact .inr ⟨r, hr, he⟩

/-- What a row has as evidence is rejected if it has a reason. -/
theorem rejected_iff_of_mem {r : ChangeEvidenceRecord} {e : Edge} (h : e ∈ r.evidenceEdges U) :
    e.evidenceStatus = .rejected ↔ r.rejectionReasons U ≠ [] := by
  have hstatus : e.evidenceStatus = r.evidenceStatus U := by
    simp only [ChangeEvidenceRecord.evidenceEdges, List.mem_cons, List.not_mem_nil,
      or_false] at h
    obtain rfl | rfl | rfl := h <;> rfl
  rw [hstatus, ChangeEvidenceRecord.evidenceStatus]
  split
  next hnil => exact iff_of_false (fun h ↦ by cases h) fun hne ↦ hne hnil
  next hne => exact iff_of_true rfl hne

/-- The evidence of a row is added. -/
theorem mem_arestas_of_evidence {r : ChangeEvidenceRecord} (hr : r ∈ rows) {c : Edge}
    (hc : c ∈ r.evidenceEdges U) : c ∈ arestas U requisito workItems links rows :=
  List.mem_append_right _ (List.mem_flatMap.mpr ⟨r, hr, List.mem_append_right _ hc⟩)

/-- **Rejection**: an edge is rejected if and only if a row with a rejection reason has it as
evidence. -/
theorem rejeitada_iff {k : String × String × String} :
    Rejeitada (projeta U requisito workItems links rows).edges k ↔
      ∃ r ∈ rows, r.rejectionReasons U ≠ [] ∧ k ∈ (r.evidenceEdges U).map Edge.key := by
  rw [projeta_eq.2, rejeitada_foldl]
  constructor
  · rintro (⟨e, he, -⟩ | ⟨c, hc, rfl, hrejected⟩)
    · cases he
    · obtain ⟨hreference, -⟩ | ⟨r, hr, hmem⟩ := arestas_cases hc
      · cases hreference.symm.trans hrejected
      · exact ⟨r, hr, (rejected_iff_of_mem hmem).mp hrejected, List.mem_map_of_mem hmem⟩
  · rintro ⟨r, hr, hreasons, hk⟩
    obtain ⟨c, hc, rfl⟩ := List.mem_map.mp hk
    exact .inr ⟨c, mem_arestas_of_evidence hr hc, rfl, (rejected_iff_of_mem hc).mpr hreasons⟩

theorem rejected_iff {e : Edge} (h : e ∈ (grafoDe U requisito workItems links rows).edges) :
    e.evidenceStatus = .rejected ↔
      ∃ r ∈ rows, r.rejectionReasons U ≠ [] ∧ e.key ∈ (r.evidenceEdges U).map Edge.key := by
  rw [← @rejeitada_iff _ requisito workItems links _ _]
  obtain ⟨hget, -⟩ := mem_edges h
  constructor
  · exact fun hrejected ↦ ⟨e, hget, hrejected⟩
  · rintro ⟨e', hget', hrejected⟩
    cases hget.symm.trans hget'
    exact hrejected

/-- What no row has as evidence is a reference. -/
theorem reference_of_not_evidence {e : Edge}
    (h : e ∈ (grafoDe U requisito workItems links rows).edges)
    (hnot : ∀ r ∈ rows, e.key ∉ (r.evidenceEdges U).map Edge.key) :
    e.evidenceStatus = .reference := by
  obtain ⟨hreference, -⟩ | ⟨r, hr, hmem⟩ := arestas_cases (mem_edges h).2
  · exact hreference
  · exact absurd (List.mem_map_of_mem hmem) (hnot r hr)

/-- The ends of an edge are added before it. -/
theorem ends_of_mem_arestas {e : Edge} (h : e ∈ arestas U requisito workItems links rows) :
    e.source ∈ (nos U requisito workItems links rows).map Node.id ∧
      e.target ∈ (nos U requisito workItems links rows).map Node.id := by
  have hrequisito : requisito.nodeId ∈ (nos U requisito workItems links rows).map Node.id :=
    List.mem_cons_self
  have hrow : ∀ r ∈ rows, ∀ n ∈ r.nodes U,
      n.id ∈ (nos U requisito workItems links rows).map Node.id := by
    intro r hr n hn
    refine List.mem_map_of_mem (List.mem_cons_of_mem _ (List.mem_append_right _ ?_))
    exact List.mem_flatMap.mpr ⟨r, hr, hn⟩
  rw [arestas, List.mem_append, List.mem_append, List.mem_map, List.mem_map,
    List.mem_flatMap] at h
  obtain (⟨item, hitem, rfl⟩ | ⟨link, hlink, rfl⟩) | ⟨r, hr, he⟩ := h
  · refine ⟨hrequisito, List.mem_map.mpr ⟨item.node, List.mem_cons_of_mem _ ?_, rfl⟩⟩
    exact List.mem_append_left _ (List.mem_append_left _ (List.mem_map_of_mem hitem))
  · refine ⟨hrequisito, List.mem_map.mpr ⟨link.node, List.mem_cons_of_mem _ ?_, rfl⟩⟩
    exact List.mem_append_left _ (List.mem_append_right _ (List.mem_map_of_mem hlink))
  · have hids : ∀ k ∈ [r.sddNode, r.prNode, r.commitNode U, r.ciNode, r.deploymentNode,
        r.runtimeNode], k ∈ (nos U requisito workItems links rows).map Node.id := by
      intro k hk
      have hmap : [r.sddNode, r.prNode, r.commitNode U, r.ciNode, r.deploymentNode,
        r.runtimeNode] = (r.nodes U).map Node.id := rfl
      rw [hmap] at hk
      obtain ⟨n, hn, rfl⟩ := List.mem_map.mp hk
      exact hrow r hr n hn
    simp only [ChangeEvidenceRecord.edges, ChangeEvidenceRecord.referenceEdges,
      ChangeEvidenceRecord.evidenceEdges, List.cons_append, List.nil_append, List.mem_cons,
      List.not_mem_nil, or_false] at he
    obtain rfl | rfl | rfl | rfl | rfl | rfl := he
    · exact ⟨hrequisito, hids _ (by simp)⟩
    · exact ⟨hrequisito, hids _ (by simp)⟩
    · exact ⟨hids _ (by simp), hids _ (by simp)⟩
    · exact ⟨hids _ (by simp), hids _ (by simp)⟩
    · exact ⟨hids _ (by simp), hids _ (by simp)⟩
    · exact ⟨hids _ (by simp), hids _ (by simp)⟩

/-- **Closure**: the ends of the edges are nodes. -/
theorem endpoints {e : Edge} (h : e ∈ (grafoDe U requisito workItems links rows).edges) :
    e.source ∈ (grafoDe U requisito workItems links rows).nodes.map Node.id ∧
      e.target ∈ (grafoDe U requisito workItems links rows).nodes.map Node.id := by
  rw [mem_nodes_iff, mem_nodes_iff]
  exact ends_of_mem_arestas (mem_edges h).2

/-! ### Edges between the same nodes -/

/-- The first character. -/
def inicial (s : String) : Option Char := s.toList.head?

theorem inicial_append {s : String} {c : Char} (h : inicial s = some c) (t : String) :
    inicial (s ++ t) = some c := by
  rw [inicial] at h
  rw [inicial, String.toList_append, List.head?_append, h, Option.some_or]

/-- Evidence that joins the same two nodes is evidence of the same kind. -/
theorem key_eq_of_mem_evidenceEdges {r r' : ChangeEvidenceRecord} {c c' : Edge}
    (hc : c ∈ r.evidenceEdges U) (hc' : c' ∈ r'.evidenceEdges U) (hsource : c.source = c'.source)
    (htarget : c.target = c'.target) : c.key = c'.key := by
  have hcommit : ∀ r : ChangeEvidenceRecord, inicial (r.commitNode U) = some 'c' :=
    fun r ↦ inicial_append (s := "commit:") rfl _
  have hci : ∀ r : ChangeEvidenceRecord, inicial r.ciNode = some 'c' :=
    fun r ↦ inicial_append (s := "ci_run:") rfl _
  have hdeployment : ∀ r : ChangeEvidenceRecord, inicial r.deploymentNode = some 'd' :=
    fun r ↦ inicial_append (s := "deployment:") rfl _
  suffices hrelation : c.relation = c'.relation by
    rw [Edge.key, Edge.key, hsource, htarget, hrelation]
  simp only [ChangeEvidenceRecord.evidenceEdges, List.mem_cons, List.not_mem_nil,
    or_false] at hc hc'
  have hs := congrArg inicial hsource
  have ht := congrArg inicial htarget
  obtain rfl | rfl | rfl := hc <;> obtain rfl | rfl | rfl := hc' <;>
    simp [hcommit, hci, hdeployment] at hs ht ⊢

/-- Evidence leads from a commit or a deployment, and no reference does. -/
theorem mem_evidenceEdges_of_source {r : ChangeEvidenceRecord} {c e : Edge}
    (hc : c ∈ r.evidenceEdges U) (he : e ∈ arestas U requisito workItems links rows)
    (hsource : e.source = c.source) : ∃ r' ∈ rows, e ∈ r'.evidenceEdges U := by
  obtain ⟨-, hreference⟩ | hevidence := arestas_cases he
  · have hc' : inicial c.source = some 'c' ∨ inicial c.source = some 'd' := by
      simp only [ChangeEvidenceRecord.evidenceEdges, List.mem_cons, List.not_mem_nil,
        or_false] at hc
      obtain rfl | rfl | rfl := hc
      · exact .inl (inicial_append (s := "commit:") rfl _)
      · exact .inl (inicial_append (s := "commit:") rfl _)
      · exact .inr (inicial_append (s := "deployment:") rfl _)
    have he' : inicial c.source = some 'r' ∨ inicial c.source = some 'p' := by
      rw [← hsource]
      obtain h | ⟨r', -, h⟩ := hreference
      · exact .inl (h ▸ inicial_append (s := "requirement:") rfl _)
      · exact .inr (h ▸ inicial_append (s := "pull_request:") rfl _)
    revert hc' he'
    generalize inicial c.source = o
    rintro (rfl | rfl) (h | h) <;> exact absurd h (by decide)
  · exact hevidence

end Rows

end Lifecycle

end ReqSys
