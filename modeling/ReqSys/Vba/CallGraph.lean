import Mathlib
import ReqSys.Foundation.ElementaryCycles
import ReqSys.Foundation.PyText
import ReqSys.Foundation.Table

/-!
# VBA call graphs: cycles

The project graph has a node for every procedure of every module and an edge for every call whose
name belongs to exactly one node. `_cycles` walks this graph from every node and writes the cycles
that it comes across from their least rotation.

The walk is the one of `Cycles`. For every graph whose edges end in nodes it returns the elementary
cycles, each of them once (`cycles_spec`), and the edges of a project graph do end in nodes
(`nodes_of_projectGraph`).
-/

namespace ReqSys

namespace Vba

/-- An argument of a call, with the parameter that it is bound to. -/
structure Binding where
  position : ℕ
  parameter : Option String
  argument : String
  sourceReferences : List String
  deriving DecidableEq

/-- A call that a graph records. -/
structure Edge where
  caller : String
  callee : String
  line : Option ℕ := none
  callType : String
  confidence : ℚ
  parameterBindings : List Binding := []
  deriving DecidableEq

/-! ## Cycles -/

/-- `sorted(adjacency.get(node, ()))`. -/
def targets (edges : List Edge) (node : String) : List String :=
  ((edges.filter fun e ↦ e.caller = node).map Edge.callee).dedup.insertionSort (· ≤ ·)

theorem mem_targets {edges : List Edge} {v w : String} :
    w ∈ targets edges v ↔ ∃ e ∈ edges, e.caller = v ∧ e.callee = w := by
  rw [targets, List.mem_insertionSort, List.mem_dedup, List.mem_map]
  constructor
  · rintro ⟨e, he, hw⟩
    obtain ⟨he, hv⟩ := List.mem_filter.mp he
    exact ⟨e, he, of_decide_eq_true hv, hw⟩
  · rintro ⟨e, he, hv, hw⟩
    exact ⟨e, List.mem_filter.mpr ⟨he, decide_eq_true hv⟩, hw⟩

/-- The nodes, and the ends of the edges. -/
def vertices (nodes : List String) (edges : List Edge) : Finset String :=
  (nodes ++ edges.map Edge.callee).toFinset

theorem mem_vertices_of_targets (nodes : List String) (edges : List Edge) (v : String) :
    ∀ w ∈ targets edges v, w ∈ vertices nodes edges := by
  intro w hw
  obtain ⟨e, he, -, rfl⟩ := mem_targets.mp hw
  rw [vertices, List.mem_toFinset]
  exact List.mem_append_right _ (List.mem_map_of_mem he)

theorem mem_vertices {nodes : List String} (edges : List Edge) {v : String}
    (hv : v ∈ nodes.insertionSort (· ≤ ·)) : v ∈ vertices nodes edges := by
  rw [vertices, List.mem_toFinset]
  exact List.mem_append_left _ ((List.mem_insertionSort _).mp hv)

/-- The set `cycles` after the walks from the sorted nodes, sorted. -/
def bodies (nodes : List String) (edges : List Edge) : List (List String) :=
  ((nodes.insertionSort (· ≤ ·)).attach.flatMap fun node ↦
    Cycles.visit (targets edges) (vertices nodes edges) (mem_vertices_of_targets nodes edges) []
      node.1 (mem_vertices edges node.2)).dedup.insertionSort (· ≤ ·)

/-- `_cycles`: the first node is repeated at the end. -/
def cycles (nodes : List String) (edges : List Edge) : List (List String) :=
  (bodies nodes edges).map fun cycle ↦ cycle ++ cycle.take 1

/-- There is a call from one node to another. -/
def Calls (edges : List Edge) (v w : String) : Prop := ∃ e ∈ edges, e.caller = v ∧ e.callee = w

theorem step_targets (edges : List Edge) : Cycles.Step (targets edges) = Calls edges :=
  funext₂ fun _ _ ↦ propext mem_targets

structure Procedure where
  name : String
  calls : List String := []
  deriving DecidableEq

structure Module where
  name : String
  procedures : List Procedure := []
  deriving DecidableEq

/-- `_node_id`. -/
def nodeId (module procedure : String) : String := module ++ "." ++ procedure

structure Node where
  id : String
  module : String
  procedure : String
  deriving DecidableEq

/-- Why a call has no edge. -/
inductive UnresolvedStatus
  | ambiguousTarget
  | externalOrUnresolved
  deriving DecidableEq

structure Unresolved where
  caller : String
  target : String
  status : UnresolvedStatus
  candidateNodes : List String
  deriving DecidableEq

/-- The nodes of the modules. -/
def projectNodes (modules : List Module) : List Node :=
  modules.flatMap fun m ↦ m.procedures.map fun p ↦
    { id := nodeId m.name p.name, module := m.name, procedure := p.name }

/-- `by_name`, at a name. -/
def candidates (U : Unicode) (nodes : List Node) (called : String) : List Node :=
  nodes.filter fun n ↦ U.lower n.procedure = U.lower called

/-- A call by name: an edge if one node has the name. -/
def resolve (U : Unicode) (nodes : List Node) (caller called : String) : Edge ⊕ Unresolved :=
  match candidates U nodes called with
  | [candidate] =>
    .inl { caller, callee := candidate.id, callType := "project_resolved", confidence := 86 / 100 }
  | [] =>
    .inr { caller, target := called, status := .externalOrUnresolved, candidateNodes := [] }
  | candidates =>
    .inr { caller, target := called, status := .ambiguousTarget,
           candidateNodes := candidates.map Node.id }

structure Graph where
  nodes : List Node
  edges : List Edge
  dynamicOrUnresolvedCalls : List Unresolved
  cycles : List (List String)

/-- `_project_graph`. -/
def projectGraph (U : Unicode) (modules : List Module) : Graph :=
  let nodes := projectNodes modules
  let calls := modules.flatMap fun m ↦ m.procedures.flatMap fun p ↦ p.calls.map fun called ↦
    resolve U nodes (nodeId m.name p.name) called
  let edges := calls.filterMap Sum.getLeft?
  { nodes
    edges
    dynamicOrUnresolvedCalls := calls.filterMap Sum.getRight?
    cycles := cycles (nodes.map Node.id) edges }

/-- **Project graphs** have no edge without its nodes. -/
theorem nodes_of_projectGraph (U : Unicode) (modules : List Module) :
    ∀ e ∈ (projectGraph U modules).edges,
      e.caller ∈ (projectGraph U modules).nodes.map Node.id ∧
      e.callee ∈ (projectGraph U modules).nodes.map Node.id := by
  intro e he
  obtain ⟨call, hcall, hleft⟩ := List.mem_filterMap.mp he
  obtain ⟨m, hm, hcall⟩ := List.mem_flatMap.mp hcall
  obtain ⟨p, hp, hcall⟩ := List.mem_flatMap.mp hcall
  obtain ⟨called, -, rfl⟩ := List.mem_map.mp hcall
  rw [resolve] at hleft
  split at hleft
  next candidate hcandidates =>
    obtain rfl := Option.some.inj hleft
    refine ⟨List.mem_map.mpr ⟨_, List.mem_flatMap.mpr ⟨m, hm, List.mem_map_of_mem hp⟩, rfl⟩, ?_⟩
    have hmem : candidate ∈ candidates U (projectNodes modules) called := by
      rw [hcandidates]
      exact List.mem_cons_self
    exact List.mem_map_of_mem (List.mem_of_mem_filter hmem)
  next => cases hleft
  next => cases hleft

/-- Two procedures that call each other, and one that calls itself. -/
def sampleEdges : List Edge :=
  [("M.B", "M.A"), ("M.A", "M.B"), ("M.C", "M.C"), ("M.A", "M.B"), ("M.A", "M.C")].map fun p ↦
    { caller := p.1, callee := p.2, callType := "project_resolved", confidence := 86 / 100 }

end Vba

end ReqSys
