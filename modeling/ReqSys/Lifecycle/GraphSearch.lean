import Mathlib
import ReqSys.Foundation.Bfs
import ReqSys.Foundation.PyJson
import ReqSys.Foundation.Sorting
import ReqSys.Lifecycle.Impact

/-!
# Lifecycle: the search for impacted artifacts

`graph_candidates` searches the artifacts of a graph from the seeds of a change, breadth first. Its
argument is what `artifacts_from_traceability_graph` makes of a graph that comes as a dictionary:
the fields are read with `str` and stripped, and the statuses are put in lower case. Of such a graph
the accepted edges are kept, with their ends, and the node of the requirement. So the links of an
artifact are artifacts again, and a search that starts at artifacts never misses a key
(`artifacts_spec`).

The search is the one of `Bfs`: the candidates are the artifacts away from the seeds within the
depth, labelled with their distance over edges that are not rejected (`graphCandidates_spec`).
-/

namespace ReqSys

namespace Lifecycle

open Table PyText

namespace Bruto

/-! ## Graphs as dictionaries -/

/-- What is raised: a validation error, or a lookup of a key that is not there. -/
inductive Falha
  | changeImpactValidationError (mensagem : String)
  | keyError (key : String)
  deriving DecidableEq

def Falha.ofErroImpacto : ErroImpacto → Falha
  | .changeImpactValidationError mensagem => .changeImpactValidationError mensagem

/-- What the interpreter and its libraries do: `str` of a value, the letter-case tables, and
`json.dumps` with sorted keys. -/
structure Leitura where
  str : Json → String
  unicode : Unicode
  dumps : Json → String

abbrev Dict := List (String × Json)

variable (P : Leitura)

/-- `str(entries.get(key) or "").strip()`. -/
def campo (entries : Dict) (key : String) : String :=
  strip (P.str ((Json.get key entries).orElse (.str "")))

/-- A node is registered under its identifier. -/
def registraNode (m : List (String × Dict)) (node : Json) : Except Falha (List (String × Dict)) :=
  match node with
  | .obj entries =>
    let nodeId := campo P entries "id"
    if nodeId = "" then .error (.changeImpactValidationError "node sem id")
    else if (get? nodeId m).isSome then
      .error (.changeImpactValidationError s!"node id duplicado: {nodeId}")
    else .ok (m ++ [(nodeId, entries)])
  | _ => .error (.changeImpactValidationError "node inválido no grafo")

/-- The status of an edge. -/
def evidenceStatus (entries : Dict) : String := P.unicode.lower (campo P entries "evidence_status")

/-- An edge is followed if its status is accepted. -/
def segue (nodes : List (String × Dict)) (accepted : List String) (links : List (String × String))
    (edge : Json) : Except Falha (List (String × String)) :=
  match edge with
  | .obj entries =>
    let source := campo P entries "source"
    let target := campo P entries "target"
    let status := evidenceStatus P entries
    if source = "" ∨ target = "" ∨ campo P entries "relation" = "" then
      .error (.changeImpactValidationError "edge sem source, target ou relation")
    else if (get? source nodes).isNone ∨ (get? target nodes).isNone then
      .error (.changeImpactValidationError s!"edge referencia node inexistente: {source}->{target}")
    else if status ∉ ["reference", "verified", "rejected"] then
      .error (.changeImpactValidationError
        ("evidence_status inválido: " ++ if status = "" then "missing" else status))
    else if status ∈ accepted then .ok (links ++ [(source, target)])
    else .ok links
  | _ => .error (.changeImpactValidationError "edge inválida no grafo")

/-- `_traceability_graph_uri`. -/
def traceabilityGraphUri (graph : Dict) : Except Falha (Dict × String) :=
  match Json.get "requirement" graph with
  | .obj requirement =>
    match Json.get "id" requirement with
    | .null => .error (.changeImpactValidationError "grafo sem requirement.id")
    | requirementId =>
      .ok (requirement, "/v1/rastreabilidade/requisitos/" ++ P.str requirementId ++ "/grafo")
  | _ => .error (.changeImpactValidationError "grafo sem requirement válido")

/-- The metadata of a node. -/
def metadataDe (nodeId : String) (node : Dict) : Except Falha Json :=
  match Json.get "metadata" node with
  | .null => .ok (.obj [])
  | .obj metadata => .ok (.obj metadata)
  | _ => .error (.changeImpactValidationError s!"metadata inválido em {nodeId}")

/-- The artifact of a node. -/
def artefato (graphUri : String) (links : List (String × String)) (nodes : List (String × Dict))
    (nodeId : String) : Except Falha ImpactArtifact := do
  let node ← orThrow (get? nodeId nodes) (.keyError nodeId)
  let metadata ← metadataDe nodeId node
  let kind := campo P node "type"
  let label := campo P node "label"
  require (kind ≠ "" ∧ label ≠ "") (.changeImpactValidationError s!"node incompleto: {nodeId}")
  let sourceUri := campo P node "source_uri"
  (ImpactArtifact.validado
    { artifactId := nodeId
      kind
      text := P.dumps (.obj [("id", .str nodeId), ("type", .str kind), ("label", .str label),
        ("metadata", metadata)])
      sourceUri := if sourceUri = "" then graphUri else sourceUri
      links := ((links.filter fun l ↦ l.1 = nodeId).map Prod.snd).dedup.insertionSort
        (· ≤ ·) }).mapError Falha.ofErroImpacto

/-- The ends of the edges that are followed, and the node of the requirement. -/
def includedIds (links : List (String × String)) (nodes : List (String × Dict))
    (requirementNodeId : String) : List String :=
  links.flatMap (fun l ↦ [l.1, l.2]) ++
    if (get? requirementNodeId nodes).isSome then [requirementNodeId] else []

/-- `artifacts_from_traceability_graph`. -/
def artifactsFromTraceabilityGraph (graph : Dict) (includeRejectedEvidence : Bool := false) :
    Except Falha (List ImpactArtifact) := do
  require ((Json.get "graph_type" graph).pyEq (.str "functional_traceability_graph"))
    (.changeImpactValidationError "graph_type incompatível")
  match Json.get "nodes" graph, Json.get "edges" graph with
  | .arr nodes, .arr edges =>
    let nodes ← nodes.foldlM (registraNode P) []
    let accepted := ["reference", "verified"] ++
      if includeRejectedEvidence then ["rejected"] else []
    let links ← edges.foldlM (segue P nodes accepted) []
    let (requirement, graphUri) ← traceabilityGraphUri P graph
    let code := campo P requirement "code"
    let requirementNodeId := if code = "" then "" else "requirement:" ++ code
    let artifacts ← ((includedIds links nodes requirementNodeId).dedup.insertionSort (· ≤ ·)).mapM
      (artefato P graphUri links nodes)
    require (artifacts ≠ [])
      (.changeImpactValidationError "grafo não possui rastreabilidade elegível")
    return artifacts
  | _, _ => .error (.changeImpactValidationError "grafo exige nodes[] e edges[]")

/-- An edge of the graph that is not rejected, from one identifier to another. -/
def Aresta (graph : Dict) (source target : String) : Prop :=
  ∃ edges, Json.get "edges" graph = .arr edges ∧ ∃ entries, Json.obj entries ∈ edges ∧
    campo P entries "source" = source ∧ campo P entries "target" = target ∧
    evidenceStatus P entries ≠ "rejected"

/-! ## The search -/

structure ImpactCandidate where
  artifactId : String
  relation : String
  confidence : ℚ
  evidence : List String
  reason : String
  strategy : String

structure StrategyResult where
  strategy : String
  candidates : List ImpactCandidate

/-- An artifact is registered under its identifier. -/
def registraArtifact (mapped : List (String × ImpactArtifact)) (artifact : ImpactArtifact) :
    Except Falha (List (String × ImpactArtifact)) :=
  if (get? artifact.artifactId mapped).isSome then
    .error (.changeImpactValidationError s!"artifact_id duplicado: {artifact.artifactId}")
  else .ok (mapped ++ [(artifact.artifactId, artifact)])

/-- `_artifact_map`. -/
def artifactMap (artifacts : List ImpactArtifact) :
    Except Falha (List (String × ImpactArtifact)) := artifacts.foldlM registraArtifact []

/-- `mapped[current].links`. -/
def linksDe (mapped : List (String × ImpactArtifact)) (current : String) :
    Except Falha (List String) := do
  let artifact ← orThrow (get? current mapped) (.keyError current)
  .ok artifact.links

/-- All links. -/
def todosLinks (mapped : List (String × ImpactArtifact)) : Finset String :=
  (mapped.flatMap fun m ↦ m.2.links).toFinset

theorem mem_todosLinks {mapped : List (String × ImpactArtifact)} (v : String)
    (linked : List String) (h : linksDe mapped v = .ok linked) :
    ∀ w ∈ linked, w ∈ todosLinks mapped := by
  obtain ⟨artifact, hartifact, h⟩ := orThrow_bind_eq_ok.mp h
  obtain rfl := Except.ok.inj h
  obtain ⟨m, hm, rfl⟩ := Option.map_eq_some_iff.mp hartifact
  intro w hw
  rw [todosLinks, List.mem_toFinset, List.mem_flatMap]
  exact ⟨m, mem_of_lookup hm, hw⟩

/-- `(distance, artifact_id)`. -/
def chave (p : String × ℕ) : ℕ ×ₗ String := toLex (p.2, p.1)

/-- The candidate of an artifact at a distance. The confidence is the exact value. -/
def candidato (artifact : ImpactArtifact) (distance : ℕ) : ImpactCandidate where
  artifactId := artifact.artifactId
  relation := s!"GRAPH_DEPTH_{distance}"
  confidence := max (1 / 5) (1 - (distance - 1) * (1 / 4))
  evidence := [artifact.sourceUri, s!"graph_distance={distance}"]
  reason := s!"Artefato alcançado por rastreabilidade explícita em {distance} salto(s)."
  strategy := "graph"

/-- The candidate of a recorded distance. -/
def candidatoDe (mapped : List (String × ImpactArtifact)) (p : String × ℕ) :
    Except Falha ImpactCandidate := do
  let artifact ← orThrow (get? p.1 mapped) (.keyError p.1)
  .ok (candidato artifact p.2)

/-- `graph_candidates`. -/
def graphCandidates (seedArtifactIds : List String) (artifacts : List ImpactArtifact)
    (maxDepth : ℤ) : Except Falha StrategyResult := do
  require (1 ≤ maxDepth) (.changeImpactValidationError "max_depth deve ser >= 1")
  let mapped ← artifactMap artifacts
  let distances ← Bfs.search (linksDe mapped) (todosLinks mapped) mem_todosLinks maxDepth.toNat
    seedArtifactIds
  let candidates ← (distances.insertionSort fun p q ↦ chave p ≤ chave q).mapM (candidatoDe mapped)
  .ok { strategy := "graph", candidates }

/-! ## The artifacts of a graph -/

section Artifacts

variable {P}

/-- A loop whose results tell their items. -/
theorem map_of_mapM {ε α β : Type} {f : α → Except ε β} {g : β → α}
    (hg : ∀ a b, f a = .ok b → g b = a) {l : List α} {rs : List β} (h : l.mapM f = .ok rs) :
    rs.map g = l := by
  induction l generalizing rs with
  | nil =>
    obtain rfl := Except.ok.inj (show Except.ok [] = Except.ok rs from h)
    rfl
  | cons a l ih =>
    rw [List.mapM_cons, bind_eq_ok] at h
    obtain ⟨r, hr, h⟩ := h
    obtain ⟨rs', hrs', h⟩ := bind_eq_ok.mp h
    obtain rfl : r :: rs' = rs := Except.ok.inj h
    rw [List.map_cons, hg a r hr, ih hrs']

/-- What one edge does. -/
theorem segue_eq_ok {nodes : List (String × Dict)} {edge : Json}
    {links links' : List (String × String)}
    (h : segue P nodes ["reference", "verified"] links edge = .ok links') :
    ∃ entries, edge = .obj entries ∧ campo P entries "target" ≠ "" ∧
      (evidenceStatus P entries ≠ "rejected" ∧
          links' = links ++ [(campo P entries "source", campo P entries "target")] ∨
        evidenceStatus P entries = "rejected" ∧ links' = links) := by
  rw [segue.eq_def] at h
  split at h
  next entries =>
    dsimp only at h
    split_ifs at h with hempty hmissing hstatus haccepted
    · refine ⟨entries, rfl, fun h ↦ hempty (.inr (.inl h)), .inl ⟨fun heq ↦ ?_, ?_⟩⟩
      · rw [heq] at haccepted
        exact absurd haccepted (by decide)
      · exact (Except.ok.inj h).symm
    · refine ⟨entries, rfl, fun h ↦ hempty (.inr (.inl h)), .inr ⟨?_, (Except.ok.inj h).symm⟩⟩
      simp only [List.mem_cons, List.not_mem_nil, or_false, not_or] at hstatus haccepted
      exact (hstatus.resolve_left haccepted.1).resolve_left haccepted.2
  next => cases h

/-- What is followed are the edges that are not rejected. -/
theorem mem_links_iff {nodes : List (String × Dict)} {edges : List Json}
    {links : List (String × String)}
    (h : edges.foldlM (segue P nodes ["reference", "verified"]) [] = .ok links)
    (l : String × String) : l ∈ links ↔ ∃ entries, Json.obj entries ∈ edges ∧
      campo P entries "source" = l.1 ∧ campo P entries "target" = l.2 ∧
      evidenceStatus P entries ≠ "rejected" := by
  refine foldlM_ok (I := fun pre links ↦ l ∈ links ↔ ∃ entries, Json.obj entries ∈ pre ∧
    campo P entries "source" = l.1 ∧ campo P entries "target" = l.2 ∧
    evidenceStatus P entries ≠ "rejected") (by simp) ?_ h
  intro pre links edge links' ih hstep
  obtain ⟨entries, rfl, -, hcase⟩ := segue_eq_ok hstep
  have hsplit : ∀ entries', Json.obj entries' ∈ pre ++ [Json.obj entries] ↔
      Json.obj entries' ∈ pre ∨ entries' = entries := fun entries' ↦ by
    rw [List.mem_append, List.mem_singleton, Json.obj.injEq]
  simp only [hsplit, or_and_right, exists_or, exists_eq_left, ← ih]
  obtain ⟨hne, rfl⟩ | ⟨heq, rfl⟩ := hcase
  · rw [List.mem_append, List.mem_singleton, Prod.ext_iff]
    refine or_congr Iff.rfl ⟨?_, ?_⟩
    · rintro ⟨hsource, htarget⟩
      exact ⟨hsource.symm, htarget.symm, hne⟩
    · rintro ⟨hsource, htarget, -⟩
      exact ⟨hsource.symm, htarget.symm⟩
  · exact (or_iff_left fun h ↦ h.2.2 heq).symm

theorem strip_campo (entries : Dict) (key : String) :
    strip (campo P entries key) = campo P entries key := by
  rw [campo, strip_strip]

/-- What is followed is stripped and not empty. -/
theorem strip_of_mem_links {nodes : List (String × Dict)} {edges : List Json}
    {links : List (String × String)}
    (h : edges.foldlM (segue P nodes ["reference", "verified"]) [] = .ok links) :
    ∀ l ∈ links, strip l.2 = l.2 ∧ l.2 ≠ "" := by
  refine foldlM_ok (I := fun (_ : List Json) (links : List (String × String)) ↦
    ∀ l ∈ links, strip l.2 = l.2 ∧ l.2 ≠ "") ?_ ?_ h
  · intro l hl
    exact absurd hl List.not_mem_nil
  · intro pre links edge links' ih hstep l hl
    obtain ⟨entries, -, hne, hcase⟩ := segue_eq_ok hstep
    rcases hcase with hcase | hcase
    · rw [hcase.2] at hl
      obtain hl | hl := List.mem_append.mp hl
      · exact ih l hl
      · rw [List.mem_singleton.mp hl]
        exact ⟨strip_campo entries "target", hne⟩
    · rw [hcase.2] at hl
      exact ih l hl

theorem mapError_eq_ok {ε ε' α : Type} {f : ε → ε'} {x : Except ε α} {a : α}
    (h : x.mapError f = .ok a) : x = .ok a := by
  cases x with
  | error e => cases h
  | ok b => rw [Except.ok.inj (show Except.ok b = Except.ok a from h)]

/-- The artifact of a node: its links are what is followed from it, stripped. -/
theorem artefato_eq_ok {graphUri nodeId : String} {links : List (String × String)}
    {nodes : List (String × Dict)} {a : ImpactArtifact}
    (h : artefato P graphUri links nodes nodeId = .ok a) :
    a.artifactId = nodeId ∧
      ∀ t, t ∈ a.links ↔ t ≠ "" ∧ ∃ t', (nodeId, t') ∈ links ∧ strip t' = t := by
  obtain ⟨node, -, h⟩ := orThrow_bind_eq_ok.mp h
  obtain ⟨metadata, -, h⟩ := bind_eq_ok.mp h
  obtain ⟨-, h⟩ := require_bind_eq_ok.mp h
  have h := mapError_eq_ok h
  rw [ImpactArtifact.validado] at h
  dsimp only at h
  split at h
  · cases h
  · split at h
    · cases h
    · obtain rfl := Except.ok.inj h
      refine ⟨rfl, fun t ↦ ?_⟩
      dsimp only
      simp only [List.mem_eraseDups, List.mem_filter, List.mem_map, List.mem_insertionSort,
        List.mem_dedup, decide_eq_true_eq, Prod.exists, exists_eq_right]
      constructor
      · rintro ⟨⟨t', hmem, ht⟩, hne⟩
        exact ⟨hne, t', hmem, ht⟩
      · rintro ⟨hne, t', hmem, ht⟩
        exact ⟨⟨t', hmem, ht⟩, hne⟩

/-- **The artifacts of a graph.** Their identifiers are different; they contain the ends of the
edges that are not rejected; and their links are these edges. -/
theorem artifacts_spec {graph : Dict} {artifacts : List ImpactArtifact}
    (h : artifactsFromTraceabilityGraph P graph = .ok artifacts) :
    (artifacts.map ImpactArtifact.artifactId).Nodup ∧
      (∀ s t, Aresta P graph s t → s ∈ artifacts.map ImpactArtifact.artifactId ∧
        t ∈ artifacts.map ImpactArtifact.artifactId) ∧
      ∀ a ∈ artifacts, ∀ t, t ∈ a.links ↔ Aresta P graph a.artifactId t := by
  rw [artifactsFromTraceabilityGraph, require_bind_eq_ok] at h
  obtain ⟨-, h⟩ := h
  split at h
  next nodes edges hnodes hedges =>
    obtain ⟨nodes', -, h⟩ := bind_eq_ok.mp h
    obtain ⟨links, hlinks, h⟩ := bind_eq_ok.mp h
    obtain ⟨⟨requirement, graphUri⟩, -, h⟩ := bind_eq_ok.mp h
    obtain ⟨artifacts', hartifacts, h⟩ := bind_eq_ok.mp h
    obtain ⟨-, h⟩ := require_bind_eq_ok.mp h
    obtain rfl : artifacts' = artifacts := Except.ok.inj h
    have hids := map_of_mapM (fun nodeId a ha ↦ (artefato_eq_ok ha).1) hartifacts
    have haresta : ∀ s t, (s, t) ∈ links ↔ Aresta P graph s t := by
      intro s t
      rw [mem_links_iff hlinks]
      constructor
      · exact fun hex ↦ ⟨edges, hedges, hex⟩
      · rintro ⟨edges', hedges', hex⟩
        obtain rfl : edges = edges' := Json.arr.inj (hedges.symm.trans hedges')
        exact hex
    have hends : ∀ s t, (s, t) ∈ links → ∀ v ∈ [s, t],
        v ∈ artifacts'.map ImpactArtifact.artifactId := by
      intro s t hst v hv
      rw [hids, List.mem_insertionSort, List.mem_dedup]
      exact List.mem_append_left _ (List.mem_flatMap.mpr ⟨(s, t), hst, hv⟩)
    refine ⟨?_, fun s t hst ↦ ?_, fun a ha t ↦ ?_⟩
    · rw [hids]
      exact (List.perm_insertionSort _ _).nodup_iff.mpr (List.nodup_dedup _)
    · have hst := (haresta s t).mpr hst
      exact ⟨hends s t hst s (by simp), hends s t hst t (by simp)⟩
    · obtain ⟨nodeId, -, ha'⟩ := exists_of_mapM hartifacts a ha
      obtain ⟨rfl, hmem⟩ := artefato_eq_ok ha'
      rw [hmem, ← haresta]
      constructor
      · rintro ⟨-, t', ht', rfl⟩
        rwa [(strip_of_mem_links hlinks _ ht').1]
      · intro ht
        obtain ⟨hstrip, hne⟩ := strip_of_mem_links hlinks _ ht
        exact ⟨hne, t, ht, hstrip⟩
  next => cases h

end Artifacts

/-! ## The candidates -/

section Candidates

variable {artifacts : List ImpactArtifact}

/-- The artifacts under their identifiers. -/
def indexados (artifacts : List ImpactArtifact) : List (String × ImpactArtifact) :=
  artifacts.map fun a ↦ (a.artifactId, a)

theorem artifactMap_of_nodup (h : (artifacts.map ImpactArtifact.artifactId).Nodup) :
    artifactMap artifacts = .ok (indexados artifacts) := by
  obtain ⟨mapped, hmapped, rfl⟩ := exists_foldlM_ok (f := registraArtifact) (b := [])
    (l := artifacts) (I := fun pre mapped ↦ mapped = indexados pre) rfl (by
      intro pre a post mapped hsplit hmapped
      have hnot : ¬(get? a.artifactId mapped).isSome := by
        rw [hmapped, isSome_get?, indexados, List.map_map]
        intro hmem
        rw [hsplit, List.map_append, List.map_cons, List.nodup_append] at h
        exact h.2.2 _ hmem _ List.mem_cons_self rfl
      refine ⟨_, if_neg hnot, ?_⟩
      rw [hmapped, indexados, indexados, List.map_append]
      rfl)
  exact hmapped

theorem get?_indexados (h : (artifacts.map ImpactArtifact.artifactId).Nodup) {a : ImpactArtifact}
    (ha : a ∈ artifacts) : get? a.artifactId (indexados artifacts) = some a := by
  have hkeyed : Keyed Prod.fst (indexados artifacts) := by
    rw [Keyed, indexados, List.map_map]
    exact h
  have hmem : (a.artifactId, a) ∈ indexados artifacts := List.mem_map.mpr ⟨a, ha, rfl⟩
  rw [get?, hkeyed.lookup_of_mem hmem]
  rfl

theorem linksDe_indexados (h : (artifacts.map ImpactArtifact.artifactId).Nodup)
    {a : ImpactArtifact} (ha : a ∈ artifacts) :
    linksDe (indexados artifacts) a.artifactId = .ok a.links := by
  rw [linksDe, get?_indexados h ha]
  rfl

variable {P : Leitura} {graph : Dict}

/-- The search follows the edges of the graph. -/
theorem edge_linksDe_iff (h : artifactsFromTraceabilityGraph P graph = .ok artifacts)
    (s t : String) : Bfs.Edge (linksDe (indexados artifacts)) s t ↔ Aresta P graph s t := by
  obtain ⟨hnodup, hends, hlinks⟩ := artifacts_spec h
  constructor
  · rintro ⟨linked, hlinked, ht⟩
    obtain ⟨a, hget, hok⟩ := orThrow_bind_eq_ok.mp hlinked
    obtain rfl := Except.ok.inj hok
    obtain ⟨m, hm, rfl⟩ := Option.map_eq_some_iff.mp hget
    have hs := key_of_lookup hm
    obtain ⟨a, ha, rfl⟩ := List.mem_map.mp (mem_of_lookup hm)
    dsimp only at hs
    subst hs
    exact (hlinks a ha t).mp ht
  · intro hst
    obtain ⟨a, ha, rfl⟩ := List.mem_map.mp (hends s t hst).1
    exact ⟨a.links, linksDe_indexados hnodup ha, (hlinks a ha t).mpr hst⟩

/-- The candidates of a list of distances. -/
theorem mapM_candidato (h : (artifacts.map ImpactArtifact.artifactId).Nodup)
    {distances : List (String × ℕ)}
    (hmem : ∀ p ∈ distances, p.1 ∈ artifacts.map ImpactArtifact.artifactId) :
    ∃ pares : List (ImpactArtifact × ℕ),
      distances.mapM (candidatoDe (indexados artifacts))
        = .ok (pares.map fun p ↦ candidato p.1 p.2) ∧
      pares.map (fun p ↦ (p.1.artifactId, p.2)) = distances ∧ ∀ p ∈ pares, p.1 ∈ artifacts := by
  induction distances with
  | nil => exact ⟨[], rfl, rfl, fun p hp ↦ absurd hp List.not_mem_nil⟩
  | cons p distances ih =>
    obtain ⟨hp, hrest⟩ := List.forall_mem_cons.mp hmem
    obtain ⟨pares, hmap, hpares, hin⟩ := ih hrest
    obtain ⟨a, ha, hid⟩ := List.mem_map.mp hp
    have hhead : candidatoDe (indexados artifacts) p = .ok (candidato a p.2) := by
      rw [candidatoDe, ← hid, get?_indexados h ha]
      rfl
    refine ⟨(a, p.2) :: pares, ?_, ?_, List.forall_mem_cons.mpr ⟨ha, hin⟩⟩
    · rw [List.mapM_cons, hhead, ok_bind, hmap]
      rfl
    · rw [List.map_cons, hpares, hid]

/-- **The search.** From seeds among the artifacts of a graph no key is missed, and the candidates
are the artifacts away from the seeds whose shortest path from a seed, over edges that are not
rejected, has a length between one and the depth; they are labelled with that length and ascend by
length and identifier. -/
theorem graphCandidates_spec (P : Leitura) (graph : Dict) (artifacts : List ImpactArtifact)
    (h : artifactsFromTraceabilityGraph P graph = .ok artifacts) (seedArtifactIds : List String)
    (hseeds : ∀ s ∈ seedArtifactIds, s ∈ artifacts.map ImpactArtifact.artifactId) (maxDepth : ℤ)
    (hdepth : 1 ≤ maxDepth) :
    ∃ pares : List (ImpactArtifact × ℕ),
      graphCandidates seedArtifactIds artifacts maxDepth
        = .ok { strategy := "graph", candidates := pares.map fun p ↦ candidato p.1 p.2 } ∧
      (∀ a d, (a, d) ∈ pares ↔ a ∈ artifacts ∧ a.artifactId ∉ seedArtifactIds ∧
        Bfs.Distance (Aresta P graph) seedArtifactIds a.artifactId d ∧ 1 ≤ d ∧ (d : ℤ) ≤ maxDepth) ∧
      (pares.map fun p ↦ p.1.artifactId).Nodup ∧
      pares.Pairwise fun p q ↦ toLex (p.2, p.1.artifactId) < toLex (q.2, q.1.artifactId) := by
  obtain ⟨hnodup, hends, hlinks⟩ := artifacts_spec h
  have hedge : Bfs.Edge (linksDe (indexados artifacts)) = Aresta P graph :=
    funext₂ fun s t ↦ propext (edge_linksDe_iff h s t)
  -- the artifacts are closed under the links
  have hclosed : ∀ v, v ∈ artifacts.map ImpactArtifact.artifactId →
      ∃ linked, linksDe (indexados artifacts) v = .ok linked ∧
        ∀ w ∈ linked, w ∈ artifacts.map ImpactArtifact.artifactId := by
    intro v hv
    obtain ⟨a, ha, rfl⟩ := List.mem_map.mp hv
    exact ⟨a.links, linksDe_indexados hnodup ha,
      fun t ht ↦ (hends _ t ((hlinks a ha t).mp ht)).2⟩
  obtain ⟨distances, hsearch, hkeys, hspec⟩ :=
    @Bfs.search_spec _ _ _ _ _ mem_todosLinks maxDepth.toNat seedArtifactIds _ hclosed hseeds
  rw [hedge] at hspec
  set sorted := distances.insertionSort fun p q ↦ chave p ≤ chave q with hsorted
  have hperm : sorted.Perm distances := List.perm_insertionSort _ _
  have hin : ∀ p ∈ sorted, p.1 ∈ artifacts.map ImpactArtifact.artifactId := by
    rintro ⟨v, n⟩ hp
    obtain ⟨hdist, hpos, -⟩ := (hspec v n).mp (hperm.mem_iff.mp hp)
    obtain ⟨m, rfl⟩ := Nat.exists_eq_succ_of_ne_zero (Nat.one_le_iff_ne_zero.mp hpos)
    obtain ⟨u, -, huv⟩ := hdist.pred
    exact (hends u v huv).2
  obtain ⟨pares, hmapM, hpares, hmem⟩ := mapM_candidato hnodup hin
  have hids : pares.map (fun p ↦ p.1.artifactId) = sorted.map Prod.fst := by
    rw [← hpares, List.map_map]
    rfl
  have hidsNodup : (pares.map fun p ↦ p.1.artifactId).Nodup := by
    rw [hids, (hperm.map Prod.fst).nodup_iff]
    exact hkeys
  refine ⟨pares, ?_, fun a d ↦ ⟨fun had ↦ ?_, ?_⟩, hidsNodup, ?_⟩
  · rw [graphCandidates, require_bind_of_true hdepth, artifactMap_of_nodup hnodup, ok_bind, hsearch,
      ok_bind, ← hsorted, hmapM]
    rfl
  · have hsort : (a.artifactId, d) ∈ sorted := by
      rw [← hpares]
      exact List.mem_map.mpr ⟨(a, d), had, rfl⟩
    obtain ⟨hdist, hpos, hmax⟩ := (hspec _ d).mp (hperm.mem_iff.mp hsort)
    refine ⟨hmem _ had, fun hseed ↦ ?_, hdist, hpos, by omega⟩
    rw [hdist.eq (Bfs.distance_seed hseed)] at hpos
    exact absurd hpos (by decide)
  · rintro ⟨ha, -, hdist, hpos, hmax⟩
    have hsort : (a.artifactId, d) ∈ sorted :=
      hperm.mem_iff.mpr ((hspec _ d).mpr ⟨hdist, hpos, by omega⟩)
    rw [← hpares] at hsort
    obtain ⟨⟨a', d'⟩, hp, heq⟩ := List.mem_map.mp hsort
    obtain ⟨hid, rfl⟩ := Prod.mk.inj heq
    rwa [← List.inj_on_of_nodup_map hnodup (hmem _ hp) ha hid]
  · have hle : pares.Pairwise fun p q ↦
        toLex (p.2, p.1.artifactId) ≤ toLex (q.2, q.1.artifactId) := by
      have hpair : sorted.Pairwise fun p q ↦ chave p ≤ chave q :=
        Sorting.pairwise_insertionSort (fun _ _ ↦ Iff.rfl) distances
      rw [← hpares, List.pairwise_map] at hpair
      exact hpair
    have hne : pares.Pairwise fun p q ↦ p.1.artifactId ≠ q.1.artifactId :=
      List.pairwise_map.mp hidsNodup
    refine (hle.and hne).imp fun {p q} hpq ↦ lt_of_le_of_ne hpq.1 fun heq ↦ hpq.2 ?_
    exact (Prod.mk.inj (toLex.injective heq)).2

end Candidates

/-! ## A small graph -/

/-- `str` of a text or a number, and `json.dumps` of a node without metadata. -/
def leituraAmostra : Leitura where
  str
    | .str s => s
    | .num q => toString q.num
    | _ => "None"
  unicode := .ascii
  dumps
    | .obj [(_, .str nodeId), (_, .str kind), (_, .str label), (_, .obj [])] =>
      "\x7b\"id\": \"" ++ nodeId ++ "\", \"label\": \"" ++ label ++
        "\", \"metadata\": \x7b\x7d, \"type\": \"" ++ kind ++ "\"\x7d"
    | _ => "\x7b\x7d"

def nodeAmostra (id kind : String) : Json :=
  .obj [("id", .str id), ("type", .str kind), ("label", .str id)]

def edgeAmostra (source target status : String) : Json :=
  .obj [("source", .str source), ("target", .str target), ("relation", .str "relates_to"),
    ("evidence_status", .str status)]

/-- A cycle of three nodes, with a rejected chord and a branch. -/
def grafoAmostra : Dict :=
  [("graph_type", .str "functional_traceability_graph"),
   ("requirement", .obj [("id", .num 1), ("code", .str "R1")]),
   ("nodes", .arr [nodeAmostra "requirement:R1" "requirement", nodeAmostra "pr:1" "pull_request",
     nodeAmostra "ci:1" "ci_run", nodeAmostra "sdd:1" "sdd"]),
   ("edges", .arr [edgeAmostra "requirement:R1" "pr:1" "verified",
     edgeAmostra "pr:1" "ci:1" "reference", edgeAmostra "ci:1" "requirement:R1" "Reference",
     edgeAmostra "requirement:R1" "ci:1" "rejected", edgeAmostra "ci:1" "sdd:1" "reference"])]

theorem graphCandidates_amostra :
    ∃ (artifacts : List ImpactArtifact) (pares : List (ImpactArtifact × ℕ)),
      artifactsFromTraceabilityGraph leituraAmostra grafoAmostra = .ok artifacts ∧
      graphCandidates ["requirement:R1"] artifacts 2
        = .ok { strategy := "graph", candidates := pares.map fun p ↦ candidato p.1 p.2 } := by
  have hids : (artifactsFromTraceabilityGraph leituraAmostra grafoAmostra).toOption.map
      (fun artifacts ↦ artifacts.map ImpactArtifact.artifactId)
      = some ["ci:1", "pr:1", "requirement:R1", "sdd:1"] := by decide +kernel
  obtain ⟨artifacts, hartifacts, hids⟩ := Option.map_eq_some_iff.mp hids
  have hok : artifactsFromTraceabilityGraph leituraAmostra grafoAmostra = .ok artifacts := by
    cases h : artifactsFromTraceabilityGraph leituraAmostra grafoAmostra with
    | error e =>
      rw [h] at hartifacts
      cases hartifacts
    | ok artifacts' =>
      rw [h] at hartifacts
      rw [Option.some.inj (show some artifacts' = some artifacts from hartifacts)]
  obtain ⟨pares, hpares, -⟩ := graphCandidates_spec leituraAmostra grafoAmostra artifacts hok
    ["requirement:R1"] (by rw [hids]; decide +kernel) 2 (by decide)
  exact ⟨artifacts, pares, hok, hpares⟩

end Bruto

end Lifecycle

end ReqSys
