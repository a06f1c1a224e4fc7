import Mathlib
import ReqSys.Foundation.Shadow
import ReqSys.ProcessArtifacts.Immutability

/-!
# Process artifacts: the comparison

`compare_versions` indexes the nodes of both definitions by their ids and the edges by a text made
of their ends, and compares what is indexed. An id belongs to one node. But several edges may have
the same text, because they join the same two nodes or because the arrow in the text also occurs in
an id. Then the last of them hides the others, and only the last ones are compared.

So the comparison is exact if and only if both definitions hide the same edges, and the edges that
are compared with each other join the same nodes.
-/

namespace ReqSys

namespace ProcessArtifacts

open Program Table

/-! ## The comparison -/

/-- What Python raises on a snapshot of another form. -/
inductive FormError
  | keyError
  | typeError
  | attributeError
  deriving DecidableEq

/-- `str(x)`, where `repr` is for the values that are not texts. -/
def str (repr : Json → String) : Json → String
  | .str s => s
  | x => repr x

/-- `d.get(key, default)`. -/
def getD (key : String) (fields : List (String × Json)) (default : Json) : Json :=
  (get? key fields).getD default

/-- `str(item["id"])`. -/
def nodeKey (repr : Json → String) : Json → Except FormError String
  | .obj fields =>
    match get? "id" fields with
    | some x => .ok (str repr x)
    | none => .error .keyError
  | _ => .error .typeError

/-- `_edge_key`. -/
def edgeKey (repr : Json → String) : Json → Except FormError String
  | .obj fields =>
    .ok (str repr (getD "source" fields (.str "")) ++ "->" ++
      str repr (getD "target" fields (.str "")))
  | _ => .error .attributeError

/-- `{key(item): item for item in items}`. -/
def indexed (key : Json → Except FormError String) (items : Json) :
    Except FormError (List (String × Json)) := do
  let items ← items.toList.mapError fun _ ↦ FormError.typeError
  let pairs ← items.mapM fun item ↦ do return (← key item, item)
  return merge [] pairs

structure ProcessChange where
  nameChanged : Bool
  beforeName : Json
  afterName : Json
  beforeVersion : Json
  afterVersion : Json

/-- What `compare_versions` returns. -/
structure Comparison where
  schemaVersion : String := "1.0.0"
  processId : String
  baseRevision : String
  targetRevision : String
  hasChanges : Bool
  totalChanges : ℕ
  nodes : Diff Json
  edges : Diff Json
  process : ProcessChange

/-- What has become of the name. -/
def processChange (base target : List (String × Json)) : ProcessChange where
  nameChanged := !(Json.get "name" base).pyEq (Json.get "name" target)
  beforeName := Json.get "name" base
  afterName := Json.get "name" target
  beforeVersion := Json.get "version" base
  afterVersion := Json.get "version" target

/-- The comparison of two snapshots. -/
def compareDefinitions (repr : Json → String) (processId baseRevision targetRevision : String)
    (base target : List (String × Json)) : Except FormError Comparison := do
  let baseNodes ← indexed (nodeKey repr) (getD "nodes" base (.arr []))
  let targetNodes ← indexed (nodeKey repr) (getD "nodes" target (.arr []))
  let baseEdges ← indexed (edgeKey repr) (getD "edges" base (.arr []))
  let targetEdges ← indexed (edgeKey repr) (getD "edges" target (.arr []))
  let nodes := diff Json.pyEq baseNodes targetNodes
  let edges := diff Json.pyEq baseEdges targetEdges
  let process := processChange base target
  let totalChanges := nodes.size + edges.size + if process.nameChanged then 1 else 0
  return {
    processId
    baseRevision
    targetRevision
    hasChanges := decide (0 < totalChanges)
    totalChanges
    nodes
    edges
    process }

/-- `VersionedProcessArtifactRepository.compare_versions`. -/
def compareVersions (cfg : Config) (repr : Json → String)
    (processId baseRevision targetRevision : String) :
    Processo (Except FormError Comparison) := do
  let base ← getVersion cfg processId baseRevision
  let target ← getVersion cfg processId targetRevision
  match base.metadata.definition, target.metadata.definition with
  | .obj b, .obj t =>
    return compareDefinitions repr processId baseRevision targetRevision b t
  | _, _ => .raise (.processArtifactComparisonError
      "revisao sem snapshot estrutural; gere novamente para comparar")

/-! ## Definitions -/

inductive NodeType
  | start
  | task
  | decision
  | end_
  deriving DecidableEq

def NodeType.value : NodeType → String
  | start => "start"
  | task => "task"
  | decision => "decision"
  | end_ => "end"

structure ProcessNodeRequest where
  id : String
  name : String
  type : NodeType
  metadata : List (String × Json) := []

structure ProcessEdgeRequest where
  source : String
  target : String
  label : Option String := none
  deriving DecidableEq

/-- What a definition is generated from. -/
structure AutomaticProcessRequest where
  processId : String
  name : String
  version : String := "1.0.0"
  nodes : List ProcessNodeRequest
  edges : List ProcessEdgeRequest := []

def ProcessNodeRequest.snapshot (node : ProcessNodeRequest) : Json :=
  .obj [("id", .str node.id), ("name", .str node.name), ("type", .str node.type.value),
    ("metadata", .obj node.metadata)]

def ProcessEdgeRequest.snapshot (edge : ProcessEdgeRequest) : Json :=
  .obj [("source", .str edge.source), ("target", .str edge.target),
    ("label", Json.ofOption edge.label)]

/-- The entries of `AutomaticProcessRequest.snapshot`. -/
def AutomaticProcessRequest.snapshot (r : AutomaticProcessRequest) : List (String × Json) :=
  [("process_id", .str r.processId), ("name", .str r.name), ("version", .str r.version),
    ("nodes", .arr (r.nodes.map ProcessNodeRequest.snapshot)),
    ("edges", .arr (r.edges.map ProcessEdgeRequest.snapshot))]

/-- The text that an edge is indexed by. -/
def ProcessEdgeRequest.key (edge : ProcessEdgeRequest) : String :=
  edge.source ++ "->" ++ edge.target

/-- Python finds both nodes equal. -/
def ProcessNodeRequest.same (m n : ProcessNodeRequest) : Bool := m.snapshot.pyEq n.snapshot

theorem ProcessEdgeRequest.pyEq_snapshot {x y : ProcessEdgeRequest} :
    x.snapshot.pyEq y.snapshot = true ↔ x = y := by
  obtain ⟨s, t, label⟩ := x
  obtain ⟨s', t', label'⟩ := y
  cases label <;> cases label' <;>
    simp [snapshot, Json.pyEq, Json.entriesIn, Json.entryIn, Json.ofOption]

/-! ## Snapshots -/

theorem nodeKey_snapshot (repr : Json → String) (node : ProcessNodeRequest) :
    nodeKey repr node.snapshot = .ok node.id := rfl

theorem edgeKey_snapshot (repr : Json → String) (edge : ProcessEdgeRequest) :
    edgeKey repr edge.snapshot = .ok edge.key := rfl

/-- A dictionary of what `f` writes. -/
theorem indexed_map {α : Type} {key : Json → Except FormError String} {f : α → Json}
    {k : α → String} (h : ∀ x, key (f x) = .ok (k x)) (items : List α) :
    indexed key (.arr (items.map f)) = .ok ((index k items).map (Prod.map id f)) := by
  have hpairs : (items.map f).mapM (fun item ↦ do return (← key item, item))
      = Except.ok (items.map fun x ↦ (k x, f x)) := by
    induction items with
    | nil => rfl
    | cons x xs ih =>
      rw [List.map_cons, List.mapM_cons, ih, h]
      rfl
  have hindex : (index k items).map (Prod.map id f) = merge [] (items.map fun x ↦ (k x, f x)) := by
    rw [index, map_merge, List.map_map]
    rfl
  rw [hindex]
  change ((items.map f).mapM (fun item ↦ do return (← key item, item))).bind _ = _
  rw [hpairs]
  rfl

/-- The differences of the nodes. -/
def nodesDiff (base target : AutomaticProcessRequest) : Diff ProcessNodeRequest :=
  diff ProcessNodeRequest.same (index ProcessNodeRequest.id base.nodes)
    (index ProcessNodeRequest.id target.nodes)

/-- The differences of the edges. -/
def edgesDiff (base target : AutomaticProcessRequest) : Diff ProcessEdgeRequest :=
  diff (fun x y ↦ x.snapshot.pyEq y.snapshot) (index ProcessEdgeRequest.key base.edges)
    (index ProcessEdgeRequest.key target.edges)

/-- The comparison of two definitions. -/
def comparison (processId baseRevision targetRevision : String)
    (base target : AutomaticProcessRequest) : Comparison :=
  let process := processChange base.snapshot target.snapshot
  let totalChanges := (nodesDiff base target).size + (edgesDiff base target).size +
    if process.nameChanged then 1 else 0
  { processId
    baseRevision
    targetRevision
    hasChanges := decide (0 < totalChanges)
    totalChanges
    nodes := (nodesDiff base target).map ProcessNodeRequest.snapshot
    edges := (edgesDiff base target).map ProcessEdgeRequest.snapshot
    process }

theorem compareDefinitions_snapshot (repr : Json → String)
    (processId baseRevision targetRevision : String) (base target : AutomaticProcessRequest) :
    compareDefinitions repr processId baseRevision targetRevision base.snapshot target.snapshot
      = .ok (comparison processId baseRevision targetRevision base target) := by
  have hnodes : ∀ r : AutomaticProcessRequest,
      indexed (nodeKey repr) (getD "nodes" r.snapshot (.arr []))
        = .ok ((index ProcessNodeRequest.id r.nodes).map
            (Prod.map id ProcessNodeRequest.snapshot)) :=
    fun r ↦ indexed_map (nodeKey_snapshot repr) r.nodes
  have hedges : ∀ r : AutomaticProcessRequest,
      indexed (edgeKey repr) (getD "edges" r.snapshot (.arr []))
        = .ok ((index ProcessEdgeRequest.key r.edges).map
            (Prod.map id ProcessEdgeRequest.snapshot)) :=
    fun r ↦ indexed_map (edgeKey_snapshot repr) r.edges
  rw [compareDefinitions, hnodes base, hnodes target, hedges base, hedges target]
  change Except.ok _ = _
  simp only [diff_map, Diff.size_map]
  rfl

/-! ## What is stored -/

variable {cfg : Config} {d : Disk}

/-- The revision is stored, with the snapshot of the definition. -/
def Disk.Stores (d : Disk) (processId revision : String) (r : AutomaticProcessRequest) : Prop :=
  ∃ dir segment m, safeSegment? processId = some dir ∧ safeSegment? revision = some segment ∧
    (d.revisions dir segment).metadata = some m ∧ m.definition = .obj r.snapshot

/-- `compare_versions` returns `c`. -/
def Disk.Compares (cfg : Config) (repr : Json → String) (d : Disk)
    (processId baseRevision targetRevision : String) (c : Comparison) : Prop :=
  Alone machine 0 d (fun out _ ↦ out = .ok (.ok c))
    (compareVersions cfg repr processId baseRevision targetRevision)

/-- `get_version` finds what is stored. -/
theorem getVersion_stored {i : ℕ} {processId revision : String} {r : AutomaticProcessRequest}
    (h : d.Stores processId revision r) :
    Alone machine i d (fun out s ↦ s = d ∧ ∃ x : Version, out = .ok x ∧
      x.metadata.definition = .obj r.snapshot) (getVersion cfg processId revision) := by
  obtain ⟨dir, segment, m, hdir, hsegment, hmetadata, hdefinition⟩ := h
  rw [getVersion, safeSegment, hdir, safeSegment, hsegment]
  refine alone_run_bind (fun _ ↦ rfl) ?_
  rw [hmetadata]
  refine alone_run_bind (fun _ ↦ rfl) (alone_run_bind (fun _ ↦ rfl) ?_)
  exact ⟨rfl, _, rfl, hdefinition⟩

/-- **Stored definitions are compared.** -/
theorem compares {repr : Json → String} {processId baseRevision targetRevision : String}
    {base target : AutomaticProcessRequest} (hbase : d.Stores processId baseRevision base)
    (htarget : d.Stores processId targetRevision target) :
    d.Compares cfg repr processId baseRevision targetRevision
      (comparison processId baseRevision targetRevision base target) := by
  refine EndsIn.bind (getVersion_stored hbase) (fun {x s} hx ↦ ?_) fun {x s} hx ↦ ?_
  · obtain ⟨rfl, _, hx, hb⟩ := hx
    cases hx
    refine EndsIn.bind (getVersion_stored htarget) (fun {y s} hy ↦ ?_) fun {y s} hy ↦ ?_
    · obtain ⟨rfl, _, hy, ht⟩ := hy
      cases hy
      rw [hb, ht]
      exact congrArg Except.ok (compareDefinitions_snapshot repr _ _ _ base target)
    · obtain ⟨-, _, hy, -⟩ := hy
      cases hy
  · obtain ⟨-, _, hx, -⟩ := hx
    cases hx

/-! ## Exactness -/

/-- Both definitions have the same nodes, as maps from the ids. -/
def SameNodes (base target : List ProcessNodeRequest) : Prop :=
  ∀ id, Option.Rel (fun m n ↦ m.same n = true) (lookup ProcessNodeRequest.id id base)
    (lookup ProcessNodeRequest.id id target)

/-- What differs in the nodes. -/
structure ExactNodes (base target : List ProcessNodeRequest) (d : Diff ProcessNodeRequest) :
    Prop where
  added : ∀ n, n ∈ d.added ↔ n ∈ target ∧ ∀ m ∈ base, m.id ≠ n.id
  removed : ∀ m, m ∈ d.removed ↔ m ∈ base ∧ ∀ n ∈ target, n.id ≠ m.id
  changed : ∀ k m n, (k, m, n) ∈ d.changed ↔
    m ∈ base ∧ n ∈ target ∧ m.id = k ∧ n.id = k ∧ m.same n = false
  nodup : d.before.Nodup ∧ d.after.Nodup

/-- What differs in the edges, which are multisets: an edge is listed as often as it is missing in
the other definition, together with one that joins the same nodes if there is one. -/
structure ExactEdges (base target : List ProcessEdgeRequest) (d : Diff ProcessEdgeRequest) :
    Prop where
  before : (d.before : Multiset ProcessEdgeRequest)
    = (base : Multiset ProcessEdgeRequest) - (target : Multiset ProcessEdgeRequest)
  after : (d.after : Multiset ProcessEdgeRequest)
    = (target : Multiset ProcessEdgeRequest) - (base : Multiset ProcessEdgeRequest)
  changed : ∀ k x y, (k, x, y) ∈ d.changed → x.source = y.source ∧ x.target = y.target
  paired : ∀ x ∈ d.removed, ∀ y ∈ d.added, ¬(x.source = y.source ∧ x.target = y.target)

/-- **The property.** No changes are reported if and only if there are none, and the changes that
are reported are the differences. -/
structure Comparison.Exact (base target : AutomaticProcessRequest) (c : Comparison) : Prop where
  hasChanges : c.hasChanges = false ↔
    base.name = target.name ∧ SameNodes base.nodes target.nodes ∧ base.edges.Perm target.edges
  differences : c.hasChanges = true → ∃ nodes edges,
    c.nodes = nodes.map ProcessNodeRequest.snapshot ∧ ExactNodes base.nodes target.nodes nodes ∧
    c.edges = edges.map ProcessEdgeRequest.snapshot ∧ ExactEdges base.edges target.edges edges ∧
    (c.process.nameChanged = true ↔ base.name ≠ target.name)

/-- **The condition.** Both definitions hide the same edges, and edges with the same text join the
same nodes. -/
structure EdgesTold (base target : List ProcessEdgeRequest) : Prop where
  hidden : (hidden ProcessEdgeRequest.key base).Perm (hidden ProcessEdgeRequest.key target)
  ends : ∀ x ∈ visible ProcessEdgeRequest.key base, ∀ y ∈ visible ProcessEdgeRequest.key target,
    x.key = y.key → x.source = y.source ∧ x.target = y.target

section Exactness

variable {processId baseRevision targetRevision : String} {base target : AutomaticProcessRequest}

theorem exactNodes (hb : (base.nodes.map ProcessNodeRequest.id).Nodup)
    (ht : (target.nodes.map ProcessNodeRequest.id).Nodup) :
    ExactNodes base.nodes target.nodes (nodesDiff base target) where
  added n := by rw [nodesDiff, mem_added, visible_of_keyed ht]
  removed m := by rw [nodesDiff, mem_removed, visible_of_keyed hb]
  changed k m n := by rw [nodesDiff, mem_changed, visible_of_keyed hb, visible_of_keyed ht]
  nodup := ⟨nodup_before, nodup_after⟩

theorem nodesDiff_size (hb : (base.nodes.map ProcessNodeRequest.id).Nodup)
    (ht : (target.nodes.map ProcessNodeRequest.id).Nodup) :
    (nodesDiff base target).size = 0 ↔ SameNodes base.nodes target.nodes := by
  rw [nodesDiff, size_eq_zero_iff_rel, visible_of_keyed hb, visible_of_keyed ht, SameNodes]

theorem nameChanged_iff :
    (processChange base.snapshot target.snapshot).nameChanged = true ↔ base.name ≠ target.name := by
  change (!(Json.str base.name).pyEq (.str target.name)) = true ↔ _
  simp [Json.pyEq]

/-- Nothing is reported where nothing is listed. -/
theorem hasChanges_iff :
    (comparison processId baseRevision targetRevision base target).hasChanges = false ↔
      base.name = target.name ∧ (nodesDiff base target).size = 0 ∧
        (edgesDiff base target).size = 0 := by
  rw [comparison]
  dsimp only
  rw [decide_eq_false_iff_not, not_lt, Nat.le_zero, Nat.add_eq_zero_iff, Nat.add_eq_zero_iff]
  have hname : (if (processChange base.snapshot target.snapshot).nameChanged then 1 else 0) = 0 ↔
      base.name = target.name := by
    rw [ite_eq_right_iff, ← not_iff_not, ← ne_eq base.name, ← nameChanged_iff]
    simp
  rw [hname]
  tauto

/-- Edges that are listed alone join no nodes that the other definition lists an edge of. -/
theorem edgesDiff_paired : ∀ x ∈ (edgesDiff base target).removed,
    ∀ y ∈ (edgesDiff base target).added, ¬(x.source = y.source ∧ x.target = y.target) := by
  rintro x hx y hy ⟨hsource, htarget⟩
  refine (mem_removed.mp hx).2 y (mem_of_mem_visible (mem_added.mp hy).1) ?_
  rw [ProcessEdgeRequest.key, ProcessEdgeRequest.key, hsource, htarget]

theorem edgesDiff_sub_iff :
    ((edgesDiff base target).before : Multiset ProcessEdgeRequest)
        = (base.edges : Multiset ProcessEdgeRequest) - (target.edges : Multiset _) ∧
      ((edgesDiff base target).after : Multiset ProcessEdgeRequest)
        = (target.edges : Multiset ProcessEdgeRequest) - (base.edges : Multiset _) ↔
      (hidden ProcessEdgeRequest.key base.edges).Perm
        (hidden ProcessEdgeRequest.key target.edges) :=
  before_eq_sub_and_after_eq_sub_iff fun _ _ ↦ ProcessEdgeRequest.pyEq_snapshot

/-- Multisets are equal where neither has more than the other. -/
theorem perm_of_sub {α : Type} [DecidableEq α] {l l' : List α}
    (h : (l : Multiset α) - (l' : Multiset α) = 0) (h' : (l' : Multiset α) - (l : Multiset α) = 0) :
    l.Perm l' :=
  Multiset.coe_eq_coe.mp (le_antisymm (tsub_eq_zero_iff_le.mp h) (tsub_eq_zero_iff_le.mp h'))

theorem edgesDiff_size
    (h : (hidden ProcessEdgeRequest.key base.edges).Perm
      (hidden ProcessEdgeRequest.key target.edges)) :
    (edgesDiff base target).size = 0 ↔ base.edges.Perm target.edges := by
  obtain ⟨hbefore, hafter⟩ := edgesDiff_sub_iff.mpr h
  rw [Diff.size_eq_zero, ← Multiset.coe_eq_zero, ← Multiset.coe_eq_zero, hbefore, hafter]
  constructor
  · rintro ⟨h, h'⟩
    exact perm_of_sub h h'
  · intro hperm
    rw [Multiset.coe_eq_coe.mpr hperm, tsub_self]
    exact ⟨rfl, rfl⟩

/-- Changed edges join the same nodes if the edges with the same text do. -/
theorem edgesDiff_changed_iff :
    (∀ k x y, (k, x, y) ∈ (edgesDiff base target).changed →
      x.source = y.source ∧ x.target = y.target) ↔
    ∀ x ∈ visible ProcessEdgeRequest.key base.edges,
      ∀ y ∈ visible ProcessEdgeRequest.key target.edges,
        x.key = y.key → x.source = y.source ∧ x.target = y.target := by
  constructor
  · intro h x hx y hy hkey
    by_cases heq : x = y
    · rw [heq]
      exact ⟨rfl, rfl⟩
    · refine h x.key x y (mem_changed.mpr ⟨hx, hy, rfl, hkey.symm, Bool.eq_false_iff.mpr ?_⟩)
      rwa [Ne, ProcessEdgeRequest.pyEq_snapshot]
  · intro h k x y hc
    obtain ⟨hx, hy, hkx, hky, -⟩ := mem_changed.mp hc
    exact h x hx y hy (hkx.trans hky.symm)

theorem exactEdges_iff :
    ExactEdges base.edges target.edges (edgesDiff base target) ↔
      EdgesTold base.edges target.edges := by
  constructor
  · intro h
    exact ⟨edgesDiff_sub_iff.mp ⟨h.before, h.after⟩, edgesDiff_changed_iff.mp h.changed⟩
  · intro h
    obtain ⟨hbefore, hafter⟩ := edgesDiff_sub_iff.mpr h.hidden
    exact ⟨hbefore, hafter, edgesDiff_changed_iff.mpr h.ends, edgesDiff_paired⟩

/-- **Exactness** of the comparison of two definitions. -/
theorem comparison_exact_iff (hb : (base.nodes.map ProcessNodeRequest.id).Nodup)
    (ht : (target.nodes.map ProcessNodeRequest.id).Nodup) :
    (comparison processId baseRevision targetRevision base target).Exact base target ↔
      EdgesTold base.edges target.edges := by
  constructor
  · intro h
    cases hchanges : (comparison processId baseRevision targetRevision base target).hasChanges with
    | true =>
      obtain ⟨nodes, edges, -, -, hedges, hexact, -⟩ := h.differences hchanges
      have hinj : Function.Injective ProcessEdgeRequest.snapshot := by
        intro x y hxy
        rw [← ProcessEdgeRequest.pyEq_snapshot, hxy]
        exact Json.pyEq_refl _
      obtain rfl : edgesDiff base target = edges := Diff.map_injective hinj hedges
      exact exactEdges_iff.mp hexact
    | false =>
      -- nothing is listed, and there is nothing to list
      obtain ⟨-, -, hperm⟩ := h.hasChanges.mp hchanges
      obtain ⟨-, -, hsize⟩ := hasChanges_iff.mp hchanges
      obtain ⟨hbefore, hafter⟩ := Diff.size_eq_zero.mp hsize
      refine ⟨edgesDiff_sub_iff.mp ?_, edgesDiff_changed_iff.mp fun k x y hc ↦ ?_⟩
      · rw [hbefore, hafter, Multiset.coe_eq_coe.mpr hperm, tsub_self]
        exact ⟨rfl, rfl⟩
      · have hx : x ∈ (edgesDiff base target).before :=
          List.mem_append_right _ (List.mem_map.mpr ⟨_, hc, rfl⟩)
        rw [hbefore] at hx
        exact absurd hx List.not_mem_nil
  · intro h
    refine ⟨?_, fun _ ↦ ⟨nodesDiff base target, edgesDiff base target, rfl, exactNodes hb ht, rfl,
      exactEdges_iff.mpr h, nameChanged_iff⟩⟩
    rw [hasChanges_iff, nodesDiff_size hb ht, edgesDiff_size h.hidden]

end Exactness

/-- Only one comparison is returned. -/
theorem Disk.Compares.unique {repr : Json → String}
    {processId baseRevision targetRevision : String} {c c' : Comparison}
    (h : d.Compares cfg repr processId baseRevision targetRevision c)
    (h' : d.Compares cfg repr processId baseRevision targetRevision c') : c = c' := by
  obtain ⟨out, s, hout, hout'⟩ := EndsIn.exists_and (fun _ ↦ rfl) ⟨{ agora := "" }, trivial⟩ h h'
  cases hout.symm.trans hout'
  rfl

/-- **Comparisons are exact** if and only if both definitions hide the same edges, and edges with
the same text join the same nodes. -/
theorem compareVersions_exact_iff (cfg : Config) (repr : Json → String) {d : Disk}
    {processId baseRevision targetRevision : String} {base target : AutomaticProcessRequest}
    (hbase : d.Stores processId baseRevision base)
    (htarget : d.Stores processId targetRevision target)
    (hb : (base.nodes.map ProcessNodeRequest.id).Nodup)
    (ht : (target.nodes.map ProcessNodeRequest.id).Nodup) :
    (∃ c, d.Compares cfg repr processId baseRevision targetRevision c ∧ c.Exact base target) ↔
      EdgesTold base.edges target.edges := by
  have hcompares : d.Compares cfg repr processId baseRevision targetRevision _ :=
    compares hbase htarget
  constructor
  · rintro ⟨c, hc, hexact⟩
    cases hc.unique hcompares
    exact (comparison_exact_iff hb ht).mp hexact
  · exact fun h ↦ ⟨_, hcompares, (comparison_exact_iff hb ht).mpr h⟩

/-! ## A small instance -/

/-- A process with a decision. -/
def sampleDefinition (version : String) (edges : List ProcessEdgeRequest) :
    AutomaticProcessRequest where
  processId := "fluxo"
  name := "Fluxo"
  version := version
  nodes := [{ id := "inicio", name := "Inicio", type := .start },
    { id := "decisao", name := "Aprovado?", type := .decision },
    { id := "fim", name := "Fim", type := .end_ }]
  edges := { source := "inicio", target := "decisao" } :: edges

/-- What is saved for a definition. -/
def sampleVersion (r : AutomaticProcessRequest) : Artifact where
  processId := "fluxo"
  processVersion := r.version
  contentHash := (sampleArtifact r.version).contentHash
  definition := .obj r.snapshot

/-- The disk with two versions. -/
def sampleVersions (base target : List ProcessEdgeRequest) : Disk :=
  ((({} : Disk).setRevision "fluxo" "1.0-aaaaaaaaaaaa" fun _ ↦
    (sampleVersion (sampleDefinition "1.0" base)).files "1.0-aaaaaaaaaaaa"
      "2026-01-01T12:00:00+00:00").setRevision "fluxo" "1.1-aaaaaaaaaaaa" fun _ ↦
    (sampleVersion (sampleDefinition "1.1" target)).files "1.1-aaaaaaaaaaaa"
      "2026-01-01T12:01:00+00:00")

example : (sampleDefinition "1.0" []).edges.length = 1 := by decide +kernel

theorem stores_base (base target : List ProcessEdgeRequest) :
    (sampleVersions base target).Stores "fluxo" "1.0-aaaaaaaaaaaa"
      (sampleDefinition "1.0" base) := by
  refine ⟨"fluxo", "1.0-aaaaaaaaaaaa",
    (sampleVersion (sampleDefinition "1.0" base)).metadata "1.0-aaaaaaaaaaaa"
      "2026-01-01T12:00:00+00:00", sampleFluxo, by decide +kernel, ?_, rfl⟩
  simp only [sampleVersions, Disk.setRevision, Function.update_self]
  rw [Function.update_of_ne (by decide), Function.update_self]
  rfl

theorem stores_target (base target : List ProcessEdgeRequest) :
    (sampleVersions base target).Stores "fluxo" "1.1-aaaaaaaaaaaa"
      (sampleDefinition "1.1" target) := by
  refine ⟨"fluxo", "1.1-aaaaaaaaaaaa",
    (sampleVersion (sampleDefinition "1.1" target)).metadata "1.1-aaaaaaaaaaaa"
      "2026-01-01T12:01:00+00:00", sampleFluxo, by decide +kernel, ?_, rfl⟩
  simp only [sampleVersions, Disk.setRevision, Function.update_self]
  rfl

theorem sampleNodup (version : String) (edges : List ProcessEdgeRequest) :
    ((sampleDefinition version edges).nodes.map ProcessNodeRequest.id).Nodup := by
  change ["inicio", "decisao", "fim"].Nodup
  decide

/-- The edges of the decision. -/
def sampleEdge (label : String) : ProcessEdgeRequest where
  source := "decisao"
  target := "fim"
  label := some label

/-- Without two edges between the same nodes the comparison is exact. -/
theorem compareVersions_exact_sample :
    ∃ c, (sampleVersions [sampleEdge "sim"] [sampleEdge "nao"]).Compares sampleConfig (fun _ ↦ "")
      "fluxo" "1.0-aaaaaaaaaaaa" "1.1-aaaaaaaaaaaa" c ∧
      c.Exact (sampleDefinition "1.0" [sampleEdge "sim"])
        (sampleDefinition "1.1" [sampleEdge "nao"]) :=
  (compareVersions_exact_iff sampleConfig _ (stores_base _ _) (stores_target _ _)
    (sampleNodup _ _) (sampleNodup _ _)).mpr ⟨by decide +kernel, by decide +kernel⟩

/-- One of two edges between the same nodes is gone, and no changes are reported. -/
theorem compareVersions_inexact :
    ∃ (d : Disk) (base target : AutomaticProcessRequest) (c : Comparison),
      d.Stores "fluxo" "1.0-aaaaaaaaaaaa" base ∧ d.Stores "fluxo" "1.1-aaaaaaaaaaaa" target ∧
      (base.nodes.map ProcessNodeRequest.id).Nodup ∧
      (target.nodes.map ProcessNodeRequest.id).Nodup ∧
      d.Compares sampleConfig (fun _ ↦ "") "fluxo" "1.0-aaaaaaaaaaaa" "1.1-aaaaaaaaaaaa" c ∧
      c.hasChanges = false ∧ ¬base.edges.Perm target.edges ∧ ¬c.Exact base target := by
  have hperm : ¬(sampleDefinition "1.0" [sampleEdge "sim", sampleEdge "nao"]).edges.Perm
      (sampleDefinition "1.1" [sampleEdge "nao"]).edges := by
    intro hperm
    exact absurd hperm.length_eq (by decide)
  have hchanges : (comparison "fluxo" "1.0-aaaaaaaaaaaa" "1.1-aaaaaaaaaaaa"
      (sampleDefinition "1.0" [sampleEdge "sim", sampleEdge "nao"])
      (sampleDefinition "1.1" [sampleEdge "nao"])).hasChanges = false := by decide +kernel
  exact ⟨sampleVersions [sampleEdge "sim", sampleEdge "nao"] [sampleEdge "nao"], _, _, _,
    stores_base _ _, stores_target _ _, sampleNodup _ _, sampleNodup _ _,
    compares (stores_base _ _) (stores_target _ _), hchanges, hperm,
    fun hexact ↦ hperm (hexact.hasChanges.mp hchanges).2.2⟩

end ProcessArtifacts

end ReqSys
