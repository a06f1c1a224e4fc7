import Mathlib
import ReqSys.Foundation.Checked
import ReqSys.Lifecycle.Traceability

/-!
# Lifecycle: the impact of a change

`artifacts_from_traceability_graph` turns the nodes of a graph into artifacts, linked by the edges
whose status is accepted. It strips the identifiers, and refuses a graph in which two nodes are the
same after that. By default it accepts references and verified evidence, so no link is a rejected
edge of the graph.
-/

namespace ReqSys

namespace Lifecycle

open Table PyText

/-! ## Artifacts -/

structure ImpactArtifact where
  artifactId : String
  kind : String
  text : String
  sourceUri : String
  links : List String := []

inductive ErroImpacto
  | changeImpactValidationError (mensagem : String)
  deriving DecidableEq

/-- `ImpactArtifact.__post_init__`. -/
def ImpactArtifact.validado (a : ImpactArtifact) : Except ErroImpacto ImpactArtifact :=
  let fields := [("artifact_id", a.artifactId), ("kind", a.kind), ("text", a.text),
    ("source_uri", a.sourceUri)]
  let links := ((a.links.map strip).filter (· ≠ "")).eraseDups
  match fields.find? fun f ↦ strip f.2 = "" with
  | some f => .error (.changeImpactValidationError (f.1 ++ " deve ser informado"))
  | none =>
    if a.artifactId ∈ links then
      .error (.changeImpactValidationError "artefato não pode apontar para si mesmo")
    else .ok { a with links }

/-- A node is registered under its stripped identifier. -/
def registraNode (m : List (String × Node)) (node : Node) :
    Except ErroImpacto (List (String × Node)) :=
  let nodeId := strip node.id
  if nodeId = "" then .error (.changeImpactValidationError "node sem id")
  else if (get? nodeId m).isSome then
    .error (.changeImpactValidationError s!"node id duplicado: {nodeId}")
  else .ok (m ++ [(nodeId, node)])

/-- The nodes under their stripped identifiers. -/
def nodeMap (nodes : List Node) : Except ErroImpacto (List (String × Node)) :=
  nodes.foldlM registraNode []

/-- An edge is followed if its status is accepted. -/
def segue (nodes : List (String × Node)) (accepted : List EvidenceStatus)
    (links : List (String × String)) (edge : Edge) : Except ErroImpacto (List (String × String)) :=
  let source := strip edge.source
  let target := strip edge.target
  if source = "" ∨ target = "" ∨ strip edge.relation = "" then
    .error (.changeImpactValidationError "edge sem source, target ou relation")
  else if (get? source nodes).isNone ∨ (get? target nodes).isNone then
    .error (.changeImpactValidationError s!"edge referencia node inexistente: {source}->{target}")
  else if edge.evidenceStatus ∈ accepted then .ok (links ++ [(source, target)])
  else .ok links

/-- The ends of the edges that are followed. -/
def seguidas (nodes : List (String × Node)) (accepted : List EvidenceStatus) (edges : List Edge) :
    Except ErroImpacto (List (String × String)) := edges.foldlM (segue nodes accepted) []

/-- The artifact of a node; `dumps` is `json.dumps` with sorted keys. -/
def artefato (dumps : Json → String) (graphUri : String) (links : List (String × String))
    (nodeId : String) (node : Node) : Except ErroImpacto ImpactArtifact :=
  let kind := strip node.type
  let label := strip node.label
  let sourceUri := strip (node.sourceUri.getD "")
  if kind = "" ∨ label = "" then
    .error (.changeImpactValidationError s!"node incompleto: {nodeId}")
  else
    ImpactArtifact.validado
      { artifactId := nodeId
        kind
        text := dumps (.obj [("id", .str nodeId), ("type", .str kind), ("label", .str label),
          ("metadata", .obj node.metadata)])
        sourceUri := if sourceUri = "" then graphUri else sourceUri
        links := ((links.filter fun l ↦ l.1 = nodeId).map Prod.snd).dedup.insertionSort (· ≤ ·) }

/-- `artifacts_from_traceability_graph`. -/
def artifactsFromTraceabilityGraph (dumps : Json → String) (graph : Grafo)
    (includeRejectedEvidence : Bool := false) : Except ErroImpacto (List ImpactArtifact) :=
  if graph.graphType ≠ "functional_traceability_graph" then
    .error (.changeImpactValidationError "graph_type incompatível")
  else do
    let nodes ← nodeMap graph.nodes
    let accepted := [EvidenceStatus.reference, .verified] ++
      if includeRejectedEvidence then [.rejected] else []
    let links ← seguidas nodes accepted graph.edges
    let graphUri := s!"/v1/rastreabilidade/requisitos/{graph.requisito.id}/grafo"
    let code := strip graph.requisito.codigo
    let requirementNodeId := if code = "" then "" else "requirement:" ++ code
    let included := links.flatMap (fun l ↦ [l.1, l.2]) ++
      if (get? requirementNodeId nodes).isSome then [requirementNodeId] else []
    let chosen := (included.dedup.insertionSort (· ≤ ·)).filterMap fun nodeId ↦
      (get? nodeId nodes).map fun node ↦ (nodeId, node)
    let artifacts ← chosen.mapM fun n ↦ artefato dumps graphUri links n.1 n.2
    if artifacts = [] then
      .error (.changeImpactValidationError "grafo não possui rastreabilidade elegível")
    else return artifacts

/-! ## What is followed -/

/-- No two nodes have the same identifier after stripping. -/
theorem nodeMap_nodup {nodes : List Node} {m : List (String × Node)} (h : nodeMap nodes = .ok m) :
    (nodes.map fun n ↦ strip n.id).Nodup := by
  have hinv : m.map Prod.fst = (nodes.map fun n ↦ strip n.id) ∧ (m.map Prod.fst).Nodup := by
    refine foldlM_ok (b := []) (I := fun (pre : List Node) (m : List (String × Node)) ↦
      m.map Prod.fst = (pre.map fun n ↦ strip n.id) ∧ (m.map Prod.fst).Nodup)
      ⟨rfl, List.nodup_nil⟩ ?_ h
    rintro pre m node m' ⟨heq, hnodup⟩ hstep
    rw [registraNode] at hstep
    split_ifs at hstep with hempty hdup
    cases hstep
    rw [isSome_get?] at hdup
    rw [List.map_append, List.map_append, heq]
    refine ⟨rfl, ?_⟩
    rw [← heq, List.map_singleton, ← List.concat_eq_append]
    exact hnodup.concat hdup
  rw [← hinv.1]
  exact hinv.2

/-- What is followed are accepted edges. -/
theorem of_mem_seguidas {nodes : List (String × Node)} {accepted : List EvidenceStatus}
    {edges : List Edge} {links : List (String × String)}
    (h : seguidas nodes accepted edges = .ok links) :
    ∀ l ∈ links, ∃ e ∈ edges, e.evidenceStatus ∈ accepted ∧
      l = (strip e.source, strip e.target) := by
  refine foldlM_ok (I := fun (pre : List Edge) (links : List (String × String)) ↦
    ∀ l ∈ links, ∃ e ∈ pre, e.evidenceStatus ∈ accepted ∧ l = (strip e.source, strip e.target))
    (fun l hl ↦ absurd hl List.not_mem_nil) ?_ h
  intro pre links edge links' hlinks hstep l hl
  have hold : l ∈ links → ∃ e ∈ pre ++ [edge], e.evidenceStatus ∈ accepted ∧
      l = (strip e.source, strip e.target) := by
    intro hl
    obtain ⟨e, he, hrest⟩ := hlinks l hl
    exact ⟨e, List.mem_append_left _ he, hrest⟩
  rw [segue] at hstep
  split_ifs at hstep with hempty hmissing haccepted
  · cases hstep
    obtain hl | hl := List.mem_append.mp hl
    · exact hold hl
    · exact ⟨edge, List.mem_append_right _ List.mem_cons_self, haccepted, List.mem_singleton.mp hl⟩
  · cases hstep
    exact hold hl

/-- The links of an artifact are followed edges of its node. -/
theorem of_mem_links {dumps : Json → String} {graphUri nodeId : String} {node : Node}
    {links : List (String × String)} {a : ImpactArtifact}
    (h : artefato dumps graphUri links nodeId node = .ok a) {l : String} (hl : l ∈ a.links) :
    ∃ l', (a.artifactId, l') ∈ links ∧ l = strip l' := by
  rw [artefato] at h
  split at h
  · cases h
  · rw [ImpactArtifact.validado] at h
    dsimp only at h
    split at h
    · cases h
    · split at h
      · cases h
      · cases h
        dsimp only at hl ⊢
        rw [List.mem_eraseDups, List.mem_filter] at hl
        obtain ⟨l', hl', rfl⟩ := List.mem_map.mp hl.1
        refine ⟨l', ?_, rfl⟩
        rw [List.mem_insertionSort, List.mem_dedup] at hl'
        obtain ⟨⟨source, target⟩, hmem, rfl⟩ := List.mem_map.mp hl'
        have hsource := (List.mem_filter.mp hmem).2
        obtain rfl : source = nodeId := of_decide_eq_true hsource
        exact List.mem_of_mem_filter hmem

/-- **Links are accepted edges** of the graph. -/
theorem links_of_artifacts {dumps : Json → String} {graph : Grafo}
    {artifacts : List ImpactArtifact}
    (h : artifactsFromTraceabilityGraph dumps graph = .ok artifacts) :
    (graph.nodes.map fun n ↦ strip n.id).Nodup ∧
      ∀ a ∈ artifacts, ∀ l ∈ a.links, ∃ e ∈ graph.edges, e.evidenceStatus ≠ .rejected ∧
        strip e.source = a.artifactId ∧ strip e.target = l := by
  rw [artifactsFromTraceabilityGraph] at h
  split at h
  · cases h
  · obtain ⟨nodes, hnodes, h⟩ := bind_eq_ok.mp h
    obtain ⟨links, hlinks, h⟩ := bind_eq_ok.mp h
    obtain ⟨artifacts', hartifacts, h⟩ := bind_eq_ok.mp h
    refine ⟨nodeMap_nodup hnodes, fun a ha l hl ↦ ?_⟩
    split at h
    · cases h
    · obtain rfl : artifacts' = artifacts := Except.ok.inj h
      obtain ⟨n, -, ha⟩ := exists_of_mapM hartifacts a ha
      obtain ⟨l', hl', rfl⟩ := of_mem_links ha hl
      obtain ⟨e, he, haccepted, heq⟩ := of_mem_seguidas hlinks _ hl'
      obtain ⟨hsource, rfl⟩ := Prod.mk.inj heq
      refine ⟨e, he, fun hrejected ↦ ?_, hsource.symm, (strip_strip _).symm⟩
      rw [hrejected] at haccepted
      exact absurd haccepted (by decide)

/-! ## Fail-closed graphs -/

/-- **The property** of the graph of `rows`. -/
structure Grafo.Fechado (U : Unicode) (rows : List ChangeEvidenceRecord) (g : Grafo) : Prop where
  /-- Rejected evidence. -/
  rejected : ∀ e ∈ g.edges, e.evidenceStatus = .rejected ↔
    ∃ r ∈ rows, r.rejectionReasons U ≠ [] ∧ e.key ∈ (r.evidenceEdges U).map Edge.key
  /-- The other edges are references. -/
  reference : ∀ e ∈ g.edges, (∀ r ∈ rows, e.key ∉ (r.evidenceEdges U).map Edge.key) →
    e.evidenceStatus = .reference
  endpoints : ∀ e ∈ g.edges, e.source ∈ g.nodes.map Node.id ∧ e.target ∈ g.nodes.map Node.id
  /-- No link is an edge that a rejected row has as evidence. -/
  followed : ∀ dumps artifacts, artifactsFromTraceabilityGraph dumps g = .ok artifacts →
    ∀ a ∈ artifacts, ∀ l ∈ a.links, ∀ r ∈ rows, r.rejectionReasons U ≠ [] →
      ∀ c ∈ r.evidenceEdges U, ¬(strip c.source = a.artifactId ∧ strip c.target = l)

section Fechado

variable {U : Unicode} {requisito : Requisito} {workItems : List AgileWorkItem}
  {links : List VinculoGit} {rows : List ChangeEvidenceRecord}

/-- **Any rows in any order.** -/
theorem grafoDe_fechado : (grafoDe U requisito workItems links rows).Fechado U rows := by
  refine ⟨fun e he ↦ rejected_iff he, fun e he ↦ reference_of_not_evidence he,
    fun e he ↦ endpoints he, ?_⟩
  rintro dumps artifacts h a ha l hl r hr hreasons c hc ⟨hsource, htarget⟩
  obtain ⟨hnodup, hlinks⟩ := links_of_artifacts h
  obtain ⟨e, he, haccepted, hsource', htarget'⟩ := hlinks a ha l hl
  have hstrip : ∀ k ∈ (grafoDe U requisito workItems links rows).nodes.map Node.id,
      ∀ k' ∈ (grafoDe U requisito workItems links rows).nodes.map Node.id,
      strip k = strip k' → k = k' := by
    intro k hk k' hk' heq
    rw [show (fun n : Node ↦ strip n.id) = strip ∘ Node.id from rfl, ← List.map_map] at hnodup
    exact List.inj_on_of_nodup_map hnodup hk hk' heq
  -- the followed edge joins the same nodes as the rejected one, so it is the same
  obtain ⟨hs, ht⟩ := endpoints he
  have hadded : c ∈ arestas U requisito workItems links rows := mem_arestas_of_evidence hr hc
  obtain ⟨hcs, hct⟩ := ends_of_mem_arestas hadded
  rw [← mem_nodes_iff] at hcs hct
  have hsame : e.source = c.source := hstrip _ hs _ hcs (hsource'.trans hsource.symm)
  have hsame' : e.target = c.target := hstrip _ ht _ hct (htarget'.trans htarget.symm)
  obtain ⟨r', -, he'⟩ := mem_evidenceEdges_of_source hc (mem_edges he).2 hsame
  refine haccepted ((rejected_iff he).mpr ⟨r, hr, hreasons, ?_⟩)
  rw [key_eq_of_mem_evidenceEdges he' hc hsame hsame']
  exact List.mem_map_of_mem hc

/-- The rows only count as a set. -/
theorem Grafo.Fechado.congr {g : Grafo} {rows' : List ChangeEvidenceRecord}
    (h : g.Fechado U rows) (hrows : ∀ r, r ∈ rows' ↔ r ∈ rows) : g.Fechado U rows' := by
  refine ⟨fun e he ↦ ?_, fun e he hnot ↦ ?_, h.endpoints, ?_⟩
  · rw [h.rejected e he]
    simp only [hrows]
  · exact h.reference e he fun r hr ↦ hnot r ((hrows r).mpr hr)
  · exact fun dumps artifacts hok a ha l hl r hr ↦
      h.followed dumps artifacts hok a ha l hl r ((hrows r).mp hr)

/-- **Traceability graphs are fail-closed**, whatever the rows and their order. -/
theorem buildForRequirement_fechado (U : Unicode) (db : Db) (requisitoId : ℕ) {g : Grafo}
    (h : buildForRequirement U db requisitoId = some g) :
    g.Fechado U (db.evidencias.filter fun r ↦ r.requirementRef = g.requisito.codigo) := by
  obtain ⟨requisito, -, rfl⟩ := Option.map_eq_some_iff.mp h
  refine (@grafoDe_fechado U requisito (db.workItemsDe requisito.id)
    (db.vinculosDe requisito.id) (db.evidenciasDe requisito.codigo)).congr fun r ↦ ?_
  rw [Db.evidenciasDe, List.mem_insertionSort]
  rfl

end Fechado

/-! ## A small instance -/

/-- Evidence of a commit, with the commit that was running. -/
def sampleRecord (runtimeSha : String) : ChangeEvidenceRecord where
  eventId := "evt-1"
  requirementRef := "REQ-TRACE-0001"
  sddRef := "sdd-1"
  pullRequestRef := "2161"
  headSha := "aaaa"
  ciRunId := "36520000001"
  ciConclusion := "success"
  deploymentRef := "traceability-dev"
  environment := "dev"
  runtimeSha := runtimeSha
  postDeployEvidenceUri := "evidence://1"
  postDeployEvidenceSha256 := "cccc"
  status := "PASSED"
  observedAt := "2026-07-16 12:00:00"
  correlationId := "corr-1"

def sampleDb (runtimeSha : String) : Db where
  requisitos := [{ id := 1, codigo := "REQ-TRACE-0001", status := "em_execucao" }]
  evidencias := [sampleRecord runtimeSha]

theorem buildForRequirement_fechado_sample :
    ∃ g, buildForRequirement Unicode.ascii (sampleDb "dddd") 1 = some g ∧
      g.Fechado Unicode.ascii ((sampleDb "dddd").evidencias.filter fun r ↦
        r.requirementRef = g.requisito.codigo) := by
  obtain ⟨g, hg⟩ : ∃ g, buildForRequirement Unicode.ascii (sampleDb "dddd") 1 = some g :=
    Option.isSome_iff_exists.mp (by decide +kernel)
  exact ⟨g, hg, buildForRequirement_fechado Unicode.ascii (sampleDb "dddd") 1 hg⟩

/-- A rejected row adds references, and they are not rejected. -/
theorem reference_of_rejected :
    ∃ g e r, buildForRequirement Unicode.ascii (sampleDb "dddd") 1 = some g ∧ e ∈ g.edges ∧
      r ∈ (sampleDb "dddd").evidencias ∧ r.rejectionReasons Unicode.ascii ≠ [] ∧
      e ∈ r.edges Unicode.ascii g.requisito ∧ e.evidenceStatus = .reference := by
  obtain ⟨g, hg, hedge⟩ : ∃ g, buildForRequirement Unicode.ascii (sampleDb "dddd") 1 = some g ∧
      g.edges.any (fun e ↦ decide (e ∈ (sampleRecord "dddd").edges Unicode.ascii g.requisito ∧
        e.evidenceStatus = .reference)) = true :=
    (Option.any_eq_true _ _).mp (by decide +kernel)
  obtain ⟨e, he, hmem⟩ := List.any_eq_true.mp hedge
  obtain ⟨hmem, hreference⟩ := of_decide_eq_true hmem
  exact ⟨g, e, sampleRecord "dddd", hg, he, List.mem_cons_self, by decide +kernel, hmem, hreference⟩

end Lifecycle

end ReqSys
