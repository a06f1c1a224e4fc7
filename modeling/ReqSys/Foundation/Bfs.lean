import Mathlib.Data.Finset.Card
import Mathlib.Data.List.Nodup
import Mathlib.Order.Bounds.Basic
import Mathlib.Tactic.NormNum

/-!
# Breadth-first search

A search with a queue goes from a list of seeds along the successors of a vertex, up to a depth, and
records the depth at which it first meets a vertex. Reading the successors may fail. The vertices
that successors are taken from are finite in number, so the search ends: an expansion either marks a
vertex or shortens the queue.

Away from the seeds the recorded depth is the length of a shortest path (`search_spec`). The
invariant (`State.Good`) is the usual one. The depths in the queue ascend and span two levels at
most; everything in the queue and everything recorded carries its distance; and a vertex that has
left the queue has all its successors marked. From the last two a vertex that is nearer than the
head of the queue is marked (`State.Good.mem_visited`), and that is why a vertex that is not marked
is one step farther than the head.

## Paths

`Path R n s v` is a path of `n` edges. `Distance R seeds v n` says that `n` is the length of a
shortest path from a seed.
-/

namespace ReqSys

namespace Bfs

variable {V : Type*}

/-! ## Distances -/

/-- A path of a given length. -/
inductive Path (R : V → V → Prop) (s : V) : ℕ → V → Prop
  | nil : Path R s 0 s
  | snoc {n : ℕ} {u v : V} : Path R s n u → R u v → Path R s (n + 1) v

/-- The length of a shortest path from a seed. -/
def Distance (R : V → V → Prop) (seeds : List V) (v : V) (n : ℕ) : Prop :=
  IsLeast {n | ∃ s ∈ seeds, Path R s n v} n

section Distance

variable {R : V → V → Prop} {seeds : List V} {v : V} {n m : ℕ}

theorem Distance.eq (h : Distance R seeds v n) (h' : Distance R seeds v m) : n = m :=
  IsLeast.unique h h'

theorem distance_seed (hv : v ∈ seeds) : Distance R seeds v 0 :=
  ⟨⟨v, hv, .nil⟩, fun _ _ ↦ Nat.zero_le _⟩

theorem mem_seeds_of_distance (h : Distance R seeds v 0) : v ∈ seeds := by
  obtain ⟨s, hs, hpath⟩ := h.1
  cases hpath
  exact hs

/-- The last but one vertex of a shortest path is one step nearer. -/
theorem Distance.pred (h : Distance R seeds v (n + 1)) : ∃ u, Distance R seeds u n ∧ R u v := by
  obtain ⟨s, hs, hpath⟩ := h.1
  cases hpath with
  | @snoc n u v hu huv =>
    refine ⟨u, ⟨⟨s, hs, hu⟩, ?_⟩, huv⟩
    rintro k ⟨s', hs', hk⟩
    exact Nat.le_of_succ_le_succ (h.2 ⟨s', hs', hk.snoc huv⟩)

/-- A vertex that has a path from a seed has a distance. -/
theorem exists_distance_le {s : V} (hs : s ∈ seeds) (h : Path R s n v) :
    ∃ m ≤ n, Distance R seeds v m := by
  classical
  have hex : ∃ n, ∃ s ∈ seeds, Path R s n v := ⟨n, s, hs, h⟩
  exact ⟨Nat.find hex, Nat.find_min' hex ⟨s, hs, h⟩, Nat.find_spec hex,
    fun _ hk ↦ Nat.find_min' hex hk⟩

end Distance

/-! ## The search -/

variable [DecidableEq V] {ε : Type*}

/-- The variables of the loop. -/
structure State (V : Type*) where
  queue : List (V × ℕ)
  visited : List V
  distances : List (V × ℕ)

/-- A successor is marked, recorded and queued, unless it is marked. -/
def State.visit (depth : ℕ) (s : State V) (linked : V) : State V :=
  if linked ∈ s.visited then s
  else
    { queue := s.queue ++ [(linked, depth)]
      visited := linked :: s.visited
      distances := s.distances ++ [(linked, depth)] }

/-- The successors of one vertex: those that are not marked are added, once each. -/
theorem foldl_visit (depth : ℕ) (linked : List V) (s : State V) :
    ∃ new : List V, new.Nodup ∧ (∀ v, v ∈ new ↔ v ∈ linked ∧ v ∉ s.visited) ∧
      (linked.foldl (State.visit depth) s).queue = s.queue ++ new.map (·, depth) ∧
      (∀ v, v ∈ (linked.foldl (State.visit depth) s).visited ↔ v ∈ s.visited ∨ v ∈ new) ∧
      (linked.foldl (State.visit depth) s).distances = s.distances ++ new.map (·, depth) := by
  induction linked generalizing s with
  | nil => exact ⟨[], List.nodup_nil, by simp, by simp, by simp, by simp⟩
  | cons v linked ih =>
    rw [List.foldl_cons]
    obtain ⟨new, hnodup, hnew, hqueue, hvisited, hdistances⟩ := ih (s.visit depth v)
    by_cases hv : v ∈ s.visited
    · have hsame : s.visit depth v = s := if_pos hv
      rw [hsame] at hnew hqueue hvisited hdistances
      refine ⟨new, hnodup, fun w ↦ ?_, ?_, ?_, ?_⟩
      · rw [hnew, List.mem_cons]
        constructor
        · rintro ⟨h, h'⟩
          exact ⟨.inr h, h'⟩
        · rintro ⟨rfl | h, h'⟩
          · exact absurd hv h'
          · exact ⟨h, h'⟩
      · rw [hsame, hqueue]
      · rw [hsame]
        exact hvisited
      · rw [hsame, hdistances]
    · have hadd : s.visit depth v = ⟨s.queue ++ [(v, depth)], v :: s.visited,
          s.distances ++ [(v, depth)]⟩ := if_neg hv
      rw [hadd] at hnew hqueue hvisited hdistances ⊢
      refine ⟨v :: new, List.nodup_cons.mpr ⟨fun h ↦ ((hnew v).mp h).2 List.mem_cons_self, hnodup⟩,
        fun w ↦ ?_, ?_, fun w ↦ ?_, ?_⟩
      · rw [List.mem_cons, List.mem_cons, hnew, List.mem_cons]
        constructor
        · rintro (rfl | ⟨h, h'⟩)
          · exact ⟨.inl rfl, hv⟩
          · exact ⟨.inr h, fun hw ↦ h' (.inr hw)⟩
        · rintro ⟨rfl | h, h'⟩
          · exact .inl rfl
          · by_cases hwv : w = v
            · exact .inl hwv
            · exact .inr ⟨h, fun hw ↦ hw.elim hwv h'⟩
      · rw [hqueue, List.append_assoc]
        rfl
      · rw [hvisited, List.mem_cons, List.mem_cons, or_assoc, or_left_comm]
      · rw [hdistances, List.append_assoc]
        rfl

/-- The loop: the head of the queue is expanded if it is not too deep. -/
def loop (next : V → Except ε (List V)) (univ : Finset V)
    (huniv : ∀ v linked, next v = .ok linked → ∀ w ∈ linked, w ∈ univ) (maxDepth : ℕ) :
    State V → Except ε (List (V × ℕ))
  | ⟨[], _, distances⟩ => .ok distances
  | ⟨(current, depth) :: queue, visited, distances⟩ =>
    if maxDepth ≤ depth then loop next univ huniv maxDepth ⟨queue, visited, distances⟩
    else match hnext : next current with
      | .error e => .error e
      | .ok linked =>
        loop next univ huniv maxDepth
          (linked.foldl (State.visit (depth + 1)) ⟨queue, visited, distances⟩)
termination_by s => ((univ \ s.visited.toFinset).card, s.queue.length)
decreasing_by
  · exact Prod.Lex.right _ (Nat.lt_succ_self _)
  · obtain ⟨new, -, hnew, hqueue, hvisited, -⟩ :=
      foldl_visit (depth + 1) linked ⟨queue, visited, distances⟩
    rw [Prod.lex_def]
    rcases new with _ | ⟨v, new⟩
    · -- nothing is new: the queue is shorter
      refine .inr ⟨congrArg Finset.card (congrArg (univ \ ·) ?_), ?_⟩
      · ext w
        simp [hvisited]
      · rw [hqueue]
        simp
    · -- a vertex of the universe is marked
      have hv := (hnew v).mp List.mem_cons_self
      refine .inl (Finset.card_lt_card ⟨fun w hw ↦ ?_, fun hsub ↦ ?_⟩)
      · rw [Finset.mem_sdiff, List.mem_toFinset] at hw ⊢
        exact ⟨hw.1, fun h ↦ hw.2 ((hvisited w).mpr (.inl h))⟩
      · have hmem : v ∈ univ \ visited.toFinset := by
          rw [Finset.mem_sdiff, List.mem_toFinset]
          exact ⟨huniv _ _ hnext v hv.1, hv.2⟩
        have hnot := hsub hmem
        rw [Finset.mem_sdiff, List.mem_toFinset] at hnot
        exact hnot.2 ((hvisited v).mpr (.inr List.mem_cons_self))

/-- The search. -/
def search (next : V → Except ε (List V)) (univ : Finset V)
    (huniv : ∀ v linked, next v = .ok linked → ∀ w ∈ linked, w ∈ univ) (maxDepth : ℕ)
    (seeds : List V) : Except ε (List (V × ℕ)) :=
  loop next univ huniv maxDepth
    { queue := seeds.map (·, 0), visited := seeds.dedup, distances := [] }

/-! ## The invariant -/

variable {next : V → Except ε (List V)} {univ : Finset V}
  {huniv : ∀ v linked, next v = .ok linked → ∀ w ∈ linked, w ∈ univ} {maxDepth : ℕ}
  {seeds : List V}

/-- The edges that the search follows. -/
def Edge (next : V → Except ε (List V)) (v w : V) : Prop :=
  ∃ linked, next v = .ok linked ∧ w ∈ linked

/-- The invariant of the loop. -/
structure State.Good (next : V → Except ε (List V)) (maxDepth : ℕ) (seeds : List V)
    (s : State V) : Prop where
  seeds_sub : ∀ v ∈ seeds, v ∈ s.visited
  visited : ∀ v ∈ s.visited, v ∈ seeds ∨ v ∈ s.distances.map Prod.fst
  distances : ∀ p ∈ s.distances, Distance (Edge next) seeds p.1 p.2 ∧ 1 ≤ p.2 ∧ p.2 ≤ maxDepth ∧
    p.1 ∈ s.visited
  nodup : (s.distances.map Prod.fst).Nodup
  queue : ∀ p ∈ s.queue, Distance (Edge next) seeds p.1 p.2
  ascending : (s.queue.map Prod.snd).Pairwise (· ≤ ·)
  /-- Two levels at most. -/
  levels : ∀ p ∈ s.queue, ∀ q ∈ s.queue, q.2 ≤ p.2 + 1
  /-- What has left the queue is expanded. -/
  expanded : ∀ u ∈ s.visited, u ∉ s.queue.map Prod.fst → ∀ n, Distance (Edge next) seeds u n →
    n < maxDepth → ∀ w, Edge next u w → w ∈ s.visited

namespace State.Good

variable {s : State V}

theorem init : State.Good next maxDepth seeds ⟨seeds.map (·, 0), seeds.dedup, []⟩ where
  seeds_sub v hv := List.mem_dedup.mpr hv
  visited v hv := .inl (List.mem_dedup.mp hv)
  distances p hp := absurd hp List.not_mem_nil
  nodup := List.nodup_nil
  queue p hp := by
    obtain ⟨v, hv, rfl⟩ := List.mem_map.mp hp
    exact distance_seed hv
  ascending := by
    rw [List.map_map]
    exact List.pairwise_map.mpr (List.pairwise_of_forall fun _ _ ↦ le_rfl)
  levels p hp q hq := by
    obtain ⟨v, -, rfl⟩ := List.mem_map.mp hq
    exact Nat.zero_le _
  expanded u hu hnot := by
    refine absurd ?_ hnot
    rw [List.map_map]
    exact List.mem_map.mpr ⟨u, List.mem_dedup.mp hu, rfl⟩

omit [DecidableEq V] in
/-- **What is nearer than the queue is marked.** -/
theorem mem_visited (h : s.Good next maxDepth seeds) {d : ℕ} (hd : ∀ p ∈ s.queue, d ≤ p.2)
    (hmax : d ≤ maxDepth) {v : V} {n : ℕ} (hv : Distance (Edge next) seeds v n) (hn : n ≤ d) :
    v ∈ s.visited := by
  induction n generalizing v with
  | zero => exact h.seeds_sub v (mem_seeds_of_distance hv)
  | succ n ih =>
    obtain ⟨u, hu, huv⟩ := hv.pred
    refine h.expanded u (ih hu (Nat.le_of_succ_le hn)) (fun hqueue ↦ ?_) n hu (by omega) v huv
    obtain ⟨p, hp, rfl⟩ := List.mem_map.mp hqueue
    have hle := hd p hp
    rw [(h.queue p hp).eq hu] at hle
    omega

omit [DecidableEq V] in
/-- The head is too deep to be expanded. -/
theorem drop {current : V} {depth : ℕ} {queue : List (V × ℕ)} {visited : List V}
    {distances : List (V × ℕ)}
    (h : State.Good next maxDepth seeds ⟨(current, depth) :: queue, visited, distances⟩)
    (hdepth : maxDepth ≤ depth) : State.Good next maxDepth seeds ⟨queue, visited, distances⟩ where
  seeds_sub := h.seeds_sub
  visited := h.visited
  distances := h.distances
  nodup := h.nodup
  queue p hp := h.queue p (List.mem_cons_of_mem _ hp)
  ascending := h.ascending.of_cons
  levels p hp q hq := h.levels p (List.mem_cons_of_mem _ hp) q (List.mem_cons_of_mem _ hq)
  expanded u hu hnot n hn hlt := by
    refine h.expanded u hu (fun hmem ↦ ?_) n hn hlt
    rw [List.map_cons, List.mem_cons] at hmem
    obtain rfl | hmem := hmem
    · have heq := (h.queue _ List.mem_cons_self).eq hn
      dsimp only at heq
      omega
    · exact hnot hmem

/-- The head is expanded. -/
theorem expand {current : V} {depth : ℕ} {queue : List (V × ℕ)} {visited : List V}
    {distances : List (V × ℕ)} {linked : List V}
    (h : State.Good next maxDepth seeds ⟨(current, depth) :: queue, visited, distances⟩)
    (hdepth : depth < maxDepth) (hnext : next current = .ok linked) :
    State.Good next maxDepth seeds
      (linked.foldl (State.visit (depth + 1)) ⟨queue, visited, distances⟩) := by
  obtain ⟨new, hnodup, hnew, hqueue, hvisited, hdistances⟩ :=
    foldl_visit (depth + 1) linked ⟨queue, visited, distances⟩
  have hcurrent : Distance (Edge next) seeds current depth := h.queue _ List.mem_cons_self
  have hhead : ∀ p ∈ (current, depth) :: queue, depth ≤ p.2 := by
    intro p hp
    obtain rfl | hp := List.mem_cons.mp hp
    · exact le_rfl
    · exact (List.pairwise_cons.mp h.ascending).1 p.2 (List.mem_map_of_mem hp)
  -- a vertex that is not marked is one step farther than the head
  have hdist : ∀ v ∈ new, Distance (Edge next) seeds v (depth + 1) := by
    intro v hv
    obtain ⟨hlinked, hnot⟩ := (hnew v).mp hv
    obtain ⟨s, hs, hpath⟩ := hcurrent.1
    obtain ⟨m, hm, hmdist⟩ := exists_distance_le hs (hpath.snoc ⟨linked, hnext, hlinked⟩)
    obtain hlt | rfl := Nat.lt_or_eq_of_le hm
    · exact absurd (h.mem_visited hhead hdepth.le hmdist (Nat.le_of_lt_succ hlt)) hnot
    · exact hmdist
  have hin : ∀ p ∈ new.map (·, depth + 1), p.1 ∈ new ∧ p.2 = depth + 1 := by
    intro p hp
    obtain ⟨v, hv, rfl⟩ := List.mem_map.mp hp
    exact ⟨hv, rfl⟩
  constructor
  · exact fun v hv ↦ (hvisited v).mpr (.inl (h.seeds_sub v hv))
  · intro v hv
    rw [hdistances, List.map_append, List.mem_append, List.map_map]
    obtain hv | hv := (hvisited v).mp hv
    · exact (h.visited v hv).imp_right .inl
    · exact .inr (.inr (List.mem_map.mpr ⟨v, hv, rfl⟩))
  · intro p hp
    rw [hdistances] at hp
    obtain hp | hp := List.mem_append.mp hp
    · obtain ⟨h₁, h₂, h₃, h₄⟩ := h.distances p hp
      exact ⟨h₁, h₂, h₃, (hvisited p.1).mpr (.inl h₄)⟩
    · obtain ⟨hv, heq⟩ := hin p hp
      rw [heq]
      exact ⟨hdist _ hv, Nat.le_add_left 1 depth, hdepth, (hvisited p.1).mpr (.inr hv)⟩
  · rw [hdistances, List.map_append, List.map_map]
    have hmap : new.map (Prod.fst ∘ fun v ↦ (v, depth + 1)) = new := List.map_id _
    rw [hmap, List.nodup_append]
    refine ⟨h.nodup, hnodup, ?_⟩
    rintro v hv w hw rfl
    obtain ⟨p, hp, rfl⟩ := List.mem_map.mp hv
    exact ((hnew p.1).mp hw).2 (h.distances p hp).2.2.2
  · intro p hp
    rw [hqueue] at hp
    obtain hp | hp := List.mem_append.mp hp
    · exact h.queue p (List.mem_cons_of_mem _ hp)
    · obtain ⟨hv, heq⟩ := hin p hp
      rw [heq]
      exact hdist _ hv
  · rw [hqueue, List.map_append, List.pairwise_append]
    refine ⟨h.ascending.of_cons, ?_, ?_⟩
    · rw [List.map_map]
      exact List.pairwise_map.mpr (List.pairwise_of_forall fun _ _ ↦ le_rfl)
    · intro n hn m hm
      obtain ⟨p, hp, rfl⟩ := List.mem_map.mp hn
      obtain ⟨q, hq, rfl⟩ := List.mem_map.mp hm
      rw [(hin q hq).2]
      exact h.levels _ List.mem_cons_self p (List.mem_cons_of_mem _ hp)
  · have hlow : ∀ p ∈ queue ++ new.map (·, depth + 1), depth ≤ p.2 := by
      intro p hp
      obtain hp | hp := List.mem_append.mp hp
      · exact hhead p (List.mem_cons_of_mem _ hp)
      · rw [(hin p hp).2]
        exact Nat.le_succ depth
    have hhigh : ∀ q ∈ queue ++ new.map (·, depth + 1), q.2 ≤ depth + 1 := by
      intro q hq
      obtain hq | hq := List.mem_append.mp hq
      · exact h.levels _ List.mem_cons_self q (List.mem_cons_of_mem _ hq)
      · exact (hin q hq).2.le
    rw [hqueue]
    exact fun p hp q hq ↦ (hhigh q hq).trans (Nat.succ_le_succ (hlow p hp))
  · intro u hu hnot n hn hlt w huw
    rw [hqueue, List.map_append, List.mem_append, not_or, List.map_map] at hnot
    have hold : u ∈ visited := by
      obtain hu | hu := (hvisited u).mp hu
      · exact hu
      · exact absurd (List.mem_map.mpr ⟨u, hu, rfl⟩) hnot.2
    by_cases hcur : u = current
    · -- the successors of the head are marked now
      subst hcur
      obtain ⟨linked', hnext', hw⟩ := huw
      obtain rfl : linked = linked' := Except.ok.inj (hnext.symm.trans hnext')
      rw [hvisited, hnew]
      by_cases hmem : w ∈ visited
      · exact .inl hmem
      · exact .inr ⟨hw, hmem⟩
    · refine (hvisited w).mpr (.inl (h.expanded u hold (fun hmem ↦ ?_) n hn hlt w huw))
      rw [List.map_cons, List.mem_cons] at hmem
      exact hmem.elim hcur hnot.1

end State.Good

/-- **The loop** returns if the vertices that it expands can be read, and what it returns is the
record of a state with an empty queue. -/
theorem loop_spec {A : V → Prop} (hA : ∀ v, A v → ∃ linked, next v = .ok linked ∧ ∀ w ∈ linked, A w)
    (s : State V) (hs : s.Good next maxDepth seeds) (hqueue : ∀ p ∈ s.queue, A p.1) :
    ∃ distances, loop next univ huniv maxDepth s = .ok distances ∧
      ∃ visited, State.Good next maxDepth seeds ⟨[], visited, distances⟩ := by
  induction s using loop.induct next univ huniv maxDepth with
  | case1 visited distances =>
    exact ⟨distances, by rw [loop], visited, hs⟩
  | case2 current depth queue visited distances hdepth ih =>
    rw [loop, if_pos hdepth]
    exact ih (hs.drop hdepth) fun p hp ↦ hqueue p (List.mem_cons_of_mem _ hp)
  | case3 current depth queue visited distances hdepth e hnext =>
    obtain ⟨linked, hlinked, -⟩ := hA current (hqueue _ List.mem_cons_self)
    rw [hlinked] at hnext
    cases hnext
  | case4 current depth queue visited distances hdepth linked hnext ih =>
    obtain ⟨linked', hlinked, hA'⟩ := hA current (hqueue _ List.mem_cons_self)
    obtain rfl : linked' = linked := Except.ok.inj (hlinked.symm.trans hnext)
    have hstep : loop next univ huniv maxDepth ⟨(current, depth) :: queue, visited, distances⟩
        = loop next univ huniv maxDepth
          (linked'.foldl (State.visit (depth + 1)) ⟨queue, visited, distances⟩) := by
      rw [loop, if_neg hdepth]
      split
      next e he => cases hnext.symm.trans he
      next linked h =>
        obtain rfl : linked' = linked := Except.ok.inj (hnext.symm.trans h)
        rfl
    rw [hstep]
    refine ih (hs.expand (Nat.lt_of_not_le hdepth) hnext) fun p hp ↦ ?_
    obtain ⟨new, -, hnew, hnewqueue, -, -⟩ :=
      foldl_visit (depth + 1) linked' ⟨queue, visited, distances⟩
    rw [hnewqueue] at hp
    obtain hp | hp := List.mem_append.mp hp
    · exact hqueue p (List.mem_cons_of_mem _ hp)
    · obtain ⟨v, hv, rfl⟩ := List.mem_map.mp hp
      exact hA' v ((hnew v).mp hv).1

/-- **Breadth-first search.** If the vertices that are reached can be read, the search returns the
vertices away from the seeds whose distance is at most the depth, once each and with that distance. -/
theorem search_spec {A : V → Prop}
    (hA : ∀ v, A v → ∃ linked, next v = .ok linked ∧ ∀ w ∈ linked, A w)
    (hseeds : ∀ v ∈ seeds, A v) :
    ∃ distances, search next univ huniv maxDepth seeds = .ok distances ∧
      (distances.map Prod.fst).Nodup ∧
      ∀ v n, (v, n) ∈ distances ↔ Distance (Edge next) seeds v n ∧ 1 ≤ n ∧ n ≤ maxDepth := by
  obtain ⟨distances, hloop, visited, hgood⟩ : ∃ distances,
      search next univ huniv maxDepth seeds = .ok distances ∧
        ∃ visited, State.Good next maxDepth seeds ⟨[], visited, distances⟩ := by
    refine loop_spec hA _ State.Good.init fun p hp ↦ ?_
    obtain ⟨v, hv, rfl⟩ := List.mem_map.mp hp
    exact hseeds v hv
  refine ⟨distances, hloop, hgood.nodup, fun v n ↦ ⟨fun h ↦ ?_, ?_⟩⟩
  · obtain ⟨h₁, h₂, h₃, -⟩ := hgood.distances _ h
    exact ⟨h₁, h₂, h₃⟩
  · rintro ⟨hdist, hpos, hmax⟩
    -- the queue is empty, so everything within the depth is marked
    have hmem : v ∈ visited :=
      hgood.mem_visited (fun p hp ↦ absurd hp List.not_mem_nil) le_rfl hdist hmax
    obtain hseed | hv := hgood.visited v hmem
    · rw [hdist.eq (distance_seed hseed)] at hpos
      exact absurd hpos (by decide)
    · obtain ⟨⟨v', m⟩, hp, rfl⟩ := List.mem_map.mp hv
      rwa [hdist.eq (hgood.distances _ hp).1]

end Bfs

end ReqSys
