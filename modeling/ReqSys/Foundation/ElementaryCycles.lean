import Mathlib.Data.Finset.Card
import Mathlib.Data.Finset.Sort
import Mathlib.Data.List.Cycle
import Mathlib.Data.List.Lex

/-!
# Enumeration of elementary cycles

A depth-first walk from a vertex follows every edge as long as the path stays simple. Where it comes
back to a vertex of the path, the end of the path from there is an elementary cycle, which is
written from its least rotation. The vertices of the path are not entered again, so the walk ends,
on every graph and without bounding its depth (`visit`).

What the walk records is described by `Found`, which follows its recursion: a cycle is found from a
path and a vertex if it is closed there, or from a successor with the path one longer. Soundness is
by induction on `Found`; the path is simple and its steps are edges, and so is its end. For
completeness a cycle is walked from its first vertex, along its own vertices (`Found.walk`), and
nothing else has to be known of the order in which the successors come.

## Cycles

`Cycle` is a list up to rotation. A cycle is elementary if it has a vertex and no vertex twice and
its steps are edges. `least` picks a representative.
-/

namespace ReqSys

namespace Cycles

variable {V : Type*} [LinearOrder V]

/-! ## Least rotations -/

/-- The rotations of a list, from every index. -/
def rotations (body : List V) : List (List V) :=
  (List.range body.length).map fun index ↦ body.drop index ++ body.take index

omit [LinearOrder V] in
theorem mem_rotations {body r : List V} (h : body ≠ []) : r ∈ rotations body ↔ body ~r r := by
  have hpos : 0 < body.length := List.length_pos_iff.mpr h
  rw [rotations, List.mem_map]
  constructor
  · rintro ⟨index, hindex, rfl⟩
    have hle : index ≤ body.length := (List.mem_range.mp hindex).le
    exact ⟨index, List.rotate_eq_drop_append_take hle⟩
  · rintro ⟨n, rfl⟩
    exact ⟨n % body.length, List.mem_range.mpr (Nat.mod_lt n hpos),
      List.rotate_eq_drop_append_take_mod.symm⟩

/-- The least rotation. -/
def least (body : List V) : List V := (rotations body).min?.getD []

theorem least_spec {body : List V} (h : body ≠ []) :
    body ~r least body ∧ ∀ r, body ~r r → least body ≤ r := by
  have hne : rotations body ≠ [] := List.ne_nil_of_mem ((mem_rotations h).mpr (.refl body))
  obtain ⟨m, hm⟩ := Option.ne_none_iff_exists'.mp (mt List.min?_eq_none_iff.mp hne)
  have hleast : least body = m := by rw [least, hm, Option.getD_some]
  obtain ⟨hmem, hle⟩ := List.min?_eq_some_iff.mp hm
  rw [hleast]
  exact ⟨(mem_rotations h).mp hmem, fun r hr ↦ hle r ((mem_rotations h).mpr hr)⟩

/-- A list that is its own least rotation. -/
theorem least_eq_self {body : List V} (h : body ≠ []) (hmin : ∀ r, body ~r r → body ≤ r) :
    least body = body := by
  obtain ⟨hrot, hle⟩ := least_spec h
  exact le_antisymm (hle body (.refl body)) (hmin _ hrot)

/-- The least rotation is least among its own rotations. -/
theorem least_le {body : List V} (h : body ≠ []) (r : List V) (hr : least body ~r r) :
    least body ≤ r := (least_spec h).2 r ((least_spec h).1.trans hr)

/-! ## Elementary cycles -/

/-- An elementary cycle, written from one of its vertices. -/
def Elementary (R : V → V → Prop) (body : List V) : Prop :=
  body ≠ [] ∧ body.Nodup ∧ Cycle.Chain R (body : Cycle V)

omit [LinearOrder V] in
/-- A rotation of an elementary cycle is one. -/
theorem Elementary.rotated {R : V → V → Prop} {body body' : List V} (h : Elementary R body)
    (hrot : body ~r body') : Elementary R body' := by
  obtain ⟨hne, hnodup, hchain⟩ := h
  refine ⟨fun hnil ↦ ?_, hrot.nodup_iff.mp hnodup, ?_⟩
  · rw [hnil, List.isRotated_nil_iff] at hrot
    exact hne hrot
  · rwa [← Cycle.coe_eq_coe.mpr hrot]

/-! ## The walk -/

/-- The cycles that the walk records from a vertex, in order. The vertices of the path are the ones
that are active. -/
def visit (adj : V → List V) (univ : Finset V) (hadj : ∀ v, ∀ w ∈ adj v, w ∈ univ)
    (path : List V) (node : V) (_ : node ∈ univ) : List (List V) :=
  if node ∈ path then
    let body := path.drop (path.idxOf node)
    if body = [] then [] else [least body]
  else
    (adj node).attach.flatMap fun target ↦
      visit adj univ hadj (path ++ [node]) target.1 (hadj node target.1 target.2)
termination_by (univ \ path.toFinset).card
decreasing_by
  refine Finset.card_lt_card ⟨fun v hv ↦ ?_, fun hsub ↦ ?_⟩
  · rw [Finset.mem_sdiff, List.mem_toFinset] at hv ⊢
    exact ⟨hv.1, fun h ↦ hv.2 (List.mem_append_left _ h)⟩
  · have hmem : node ∈ univ \ path.toFinset := by
      rw [Finset.mem_sdiff, List.mem_toFinset]
      exact ⟨by assumption, by assumption⟩
    have hnot := hsub hmem
    rw [Finset.mem_sdiff, List.mem_toFinset] at hnot
    exact hnot.2 (List.mem_append_right _ List.mem_cons_self)

/-- What the walk finds from a path and a vertex. -/
inductive Found (adj : V → List V) : List V → V → List V → Prop
  | close {path : List V} {node : V} :
    node ∈ path → Found adj path node (path.drop (path.idxOf node))
  | step {path : List V} {node target : V} {body : List V} :
    node ∉ path → target ∈ adj node → Found adj (path ++ [node]) target body →
      Found adj path node body

variable {adj : V → List V} {univ : Finset V} {hadj : ∀ v, ∀ w ∈ adj v, w ∈ univ}

omit [LinearOrder V] in
theorem drop_idxOf_ne_nil [DecidableEq V] {path : List V} {node : V} (h : node ∈ path) :
    path.drop (path.idxOf node) ≠ [] := by
  rw [Ne, List.drop_eq_nil_iff, not_le]
  exact List.idxOf_lt_length_of_mem h

theorem mem_visit {path : List V} {node : V} {hnode : node ∈ univ} {c : List V} :
    c ∈ visit adj univ hadj path node hnode ↔
      ∃ body, Found adj path node body ∧ c = least body := by
  induction path, node, hnode using visit.induct adj univ hadj with
  | case1 path node hnode hmem body hnil => exact absurd hnil (drop_idxOf_ne_nil hmem)
  | case2 path node hnode hmem body hne =>
    rw [visit, if_pos hmem, if_neg hne, List.mem_singleton]
    constructor
    · rintro rfl
      exact ⟨_, .close hmem, rfl⟩
    · rintro ⟨body', hfound, rfl⟩
      cases hfound with
      | close => rfl
      | step hnot => exact absurd hmem hnot
  | case3 path node hnode hmem ih =>
    rw [visit, if_neg hmem, List.mem_flatMap]
    constructor
    · rintro ⟨target, -, hc⟩
      obtain ⟨body, hfound, rfl⟩ := (ih target).mp hc
      exact ⟨body, .step hmem target.2 hfound, rfl⟩
    · rintro ⟨body, hfound, rfl⟩
      cases hfound with
      | close h => exact absurd h hmem
      | @step _ _ target _ _ htarget hfound =>
        exact ⟨⟨target, htarget⟩, List.mem_attach _ _,
          (ih ⟨target, htarget⟩).mpr ⟨body, hfound, rfl⟩⟩

/-- The steps of the walk. -/
def Step (adj : V → List V) (v w : V) : Prop := w ∈ adj v

/-- **Soundness.** What is found from a simple path is an elementary cycle. -/
theorem Found.elementary {path : List V} {node : V} {body : List V} (h : Found adj path node body)
    (hnodup : path.Nodup) (hchain : List.IsChain (Step adj) (path ++ [node])) :
    Elementary (Step adj) body := by
  induction h with
  | @close path node hmem =>
    -- the end of the path starts at the vertex, and the last step leads back to it
    obtain ⟨rest, hrest⟩ : ∃ rest, path.drop (path.idxOf node) = node :: rest := by
      have hlt := List.idxOf_lt_length_of_mem hmem
      rw [List.drop_eq_getElem_cons hlt, List.getElem_idxOf]
      exact ⟨_, rfl⟩
    refine ⟨drop_idxOf_ne_nil hmem, hnodup.sublist (List.drop_sublist _ _), ?_⟩
    have hsuffix : path.drop (path.idxOf node) ++ [node] <:+ path ++ [node] :=
      ⟨path.take (path.idxOf node), by rw [← List.append_assoc, List.take_append_drop]⟩
    have hend := hchain.suffix hsuffix
    rw [hrest] at hend ⊢
    exact (Cycle.chain_coe_cons _ _ _).mpr hend
  | @step path node target body hnot htarget _ ih =>
    refine ih ?_ ?_
    · rw [← List.concat_eq_append]
      exact hnodup.concat hnot
    · rw [List.isChain_append]
      refine ⟨hchain, .singleton _, fun v hv w hw ↦ ?_⟩
      rw [List.getLast?_append, List.getLast?_singleton, Option.some_or, Option.mem_some_iff] at hv
      rw [List.head?_cons, Option.mem_some_iff] at hw
      rw [← hv, ← hw]
      exact htarget

/-- A cycle is walked along its own vertices: what is behind is the path, and what is ahead leads
to the first vertex. -/
theorem Found.walk {first : V} (behind ahead : List V) {v : V}
    (hnodup : (behind ++ v :: ahead).Nodup)
    (hchain : List.IsChain (Step adj) (v :: ahead ++ [first]))
    (hfirst : (behind ++ v :: ahead).head? = some first) :
    Found adj behind v (behind ++ v :: ahead) := by
  have hnot : v ∉ behind := by
    intro h
    exact (List.nodup_append.mp hnodup).2.2 v h v List.mem_cons_self rfl
  induction ahead generalizing behind v with
  | nil =>
    -- the last vertex: the walk is back at the first one
    have hback : first ∈ adj v := List.isChain_pair.mp hchain
    have hmem : first ∈ behind ++ [v] := List.mem_of_mem_head? hfirst
    have hzero : (behind ++ [v]).idxOf first = 0 := by
      obtain ⟨rest, hrest⟩ := List.head?_eq_some_iff.mp hfirst
      rw [hrest, List.idxOf_cons_self]
    have hclose : Found adj (behind ++ [v]) first _ := .close hmem
    rw [hzero, List.drop_zero] at hclose
    exact .step hnot hback hclose
  | cons w ahead ih =>
    have hnext : w ∈ adj v := (List.isChain_cons_cons.mp hchain).1
    have hfound := ih (behind ++ [v]) (v := w) (by rwa [← List.append_cons])
      (List.isChain_cons_cons.mp hchain).2 (by rwa [← List.append_cons]) (by
        rw [List.append_cons] at hnodup
        exact fun h ↦ (List.nodup_append.mp hnodup).2.2 w h w List.mem_cons_self rfl)
    rw [← List.append_cons] at hfound
    exact .step hnot hnext hfound

/-- **Completeness.** An elementary cycle is found from its first vertex. -/
theorem Elementary.found {v : V} {rest : List V} (h : Elementary (Step adj) (v :: rest)) :
    Found adj [] v (v :: rest) :=
  Found.walk [] rest h.2.1 ((Cycle.chain_coe_cons _ _ _).mp h.2.2) rfl

/-- **Enumeration.** The walks from a set of vertices that contains the steps record the least
rotations of the elementary cycles, and nothing else. -/
theorem exists_mem_visit_iff {nodes : List V} (hnodes : ∀ v ∈ nodes, v ∈ univ)
    (hall : ∀ v w, w ∈ adj v → v ∈ nodes) {c : List V} :
    (∃ v, ∃ hv : v ∈ nodes, c ∈ visit adj univ hadj [] v (hnodes v hv)) ↔
      Elementary (Step adj) c ∧ ∀ r, c ~r r → c ≤ r := by
  constructor
  · rintro ⟨v, hv, hc⟩
    obtain ⟨body, hfound, rfl⟩ := mem_visit.mp hc
    have helem := hfound.elementary List.nodup_nil (.singleton v)
    exact ⟨helem.rotated (least_spec helem.1).1, least_le helem.1⟩
  · rintro ⟨helem, hmin⟩
    obtain ⟨v, rest, rfl⟩ := List.exists_cons_of_ne_nil helem.1
    have hstep : ∃ w, w ∈ adj v := by
      have hchain := (Cycle.chain_coe_cons _ _ _).mp helem.2.2
      rcases rest with _ | ⟨w, rest⟩
      · exact ⟨v, List.isChain_pair.mp hchain⟩
      · exact ⟨w, (List.isChain_cons_cons.mp hchain).1⟩
    obtain ⟨w, hw⟩ := hstep
    exact ⟨v, hall v w hw, mem_visit.mpr ⟨_, helem.found, (least_eq_self helem.1 hmin).symm⟩⟩

end Cycles

end ReqSys
