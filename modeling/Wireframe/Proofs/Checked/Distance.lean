import Mathlib.Data.Finset.Card
import Wireframe.Proofs.Checked.Order

/-!
# Distances in a graph

The distance of a node from another one is the length of the shortest path to it, counted in edges
(`Distance`). A function that measures distances is taken to list the nodes that a path leads to,
each with its distance (`Measures`). One that does looks, for each node, for the first number of
edges after which a path is there (`measures_byReach`): a shortest path visits no node twice, so
that fewer edges than there are nodes are enough (`Distance.lt_length`).
-/

namespace Wireframe.Graph

/-- As many edges, one behind the other, lead from a node to another one. -/
inductive Path (edges : Edges) (source : Nat) : Nat → Nat → Prop where
  /-- Without an edge, a path stays where it is. -/
  | refl : Path edges source source 0
  /-- One more edge leads on to the next node. -/
  | step {n m k : Nat} (h : Path edges source n k) (hedge : (n, m) ∈ edges) :
    Path edges source m (k + 1)

/-- The number of edges on the shortest paths from one node to another. -/
structure Distance (edges : Edges) (source n k : Nat) : Prop where
  /-- There is a path with as many edges. -/
  path : Path edges source n k
  /-- No path has fewer. -/
  shortest : ∀ j, Path edges source n j → k ≤ j

/-- A function that lists the distances of nodes from one of the nodes of a graph. -/
abbrev Meter := List Nat → Edges → Nat → Option (List (Nat × Nat))

/-- A function measures the distances from a node: it lists the nodes to which a path leads, each
with its distance. -/
structure Measures (distances : Meter) : Prop where
  /-- The distances from every node of a graph are measured. -/
  total : ∀ nodes edges source, Within nodes edges → source ∈ nodes →
    (distances nodes edges source).isSome = true
  /-- What is returned are the distances. -/
  mem_iff : ∀ nodes edges source found, Within nodes edges →
    distances nodes edges source = some found →
      ∀ n k, (n, k) ∈ found ↔ Distance edges source n k

variable {nodes : List Nat} {edges : Edges} {source n k : Nat}

/-- A path from a node ends in a node. -/
theorem Path.mem (h : Path edges source n k) (hwithin : Within nodes edges)
    (hsource : source ∈ nodes) : n ∈ nodes := by
  cases h with
  | refl => exact hsource
  | step _ hedge => exact (hwithin.mem _ hedge).2

/-- In front of a node there is one that is an edge nearer. -/
theorem Distance.exists_nearer (h : Distance edges source n (k + 1)) :
    ∃ m, Distance edges source m k := by
  cases h.path with
  | step hpath hedge =>
    refine ⟨_, hpath, fun j hj => ?_⟩
    -- A shorter path to it would go on to the node.
    exact Nat.le_of_succ_le_succ (h.shortest (j + 1) (hj.step hedge))

/-- There is a node at every smaller distance. -/
theorem Distance.exists_of_le (h : Distance edges source n k) {j : Nat} (hj : j ≤ k) :
    ∃ m, Distance edges source m j := by
  induction k generalizing n with
  | zero =>
    obtain rfl : j = 0 := Nat.le_zero.1 hj
    exact ⟨n, h⟩
  | succ k ih =>
    rcases Nat.eq_or_lt_of_le hj with rfl | hlt
    · exact ⟨n, h⟩
    · obtain ⟨m, hm⟩ := h.exists_nearer
      exact ih hm (Nat.le_of_lt_succ hlt)

/-- A node has one distance. -/
theorem Distance.unique {j : Nat} (h : Distance edges source n j) (h' : Distance edges source n k) :
    j = k :=
  Nat.le_antisymm (h.shortest k h'.path) (h'.shortest j h.path)

/-- Distances are less than the number of nodes. -/
theorem Distance.lt_length (h : Distance edges source n k) (hwithin : Within nodes edges)
    (hsource : source ∈ nodes) : k < nodes.length := by
  -- Nodes at different distances are different, and there is one at each distance up to this one.
  choose! node hnode using fun j (hj : j ≤ k) => h.exists_of_le hj
  have hmem : ∀ j ∈ Finset.range (k + 1), node j ∈ nodes.toFinset := by
    intro j hj
    rw [List.mem_toFinset]
    exact (hnode j (Nat.le_of_lt_succ (Finset.mem_range.1 hj))).path.mem hwithin hsource
  have hinj : Set.InjOn node (Finset.range (k + 1)) := by
    intro i hi j hj heq
    have hi' := hnode i (Nat.le_of_lt_succ (Finset.mem_range.1 hi))
    have hj' := hnode j (Nat.le_of_lt_succ (Finset.mem_range.1 hj))
    rw [heq] at hi'
    exact hi'.unique hj'
  calc k < (Finset.range (k + 1)).card := by rw [Finset.card_range]; exact Nat.lt_succ_self k
    _ ≤ nodes.toFinset.card := Finset.card_le_card_of_injOn node hmem hinj
    _ ≤ nodes.length := nodes.toFinset_card_le

/-! ## A function that measures distances -/

/-- The nodes to which paths with a number of edges lead. -/
def reached (edges : Edges) (source : Nat) : Nat → List Nat
  | 0 => [source]
  | k + 1 => (edges.filter fun edge => decide (edge.1 ∈ reached edges source k)).map Prod.snd

/-- The nodes to which a path leads, each with the smallest number of edges on one. -/
def byReach (nodes : List Nat) (edges : Edges) (source : Nat) : Option (List (Nat × Nat)) :=
  if source ∈ nodes then
    some (nodes.filterMap fun n =>
      ((List.range nodes.length).find? fun k => decide (n ∈ reached edges source k)).map
        fun k => (n, k))
  else none

/-- The nodes that are reached are those to which a path leads. -/
theorem mem_reached_iff : n ∈ reached edges source k ↔ Path edges source n k := by
  induction k generalizing n with
  | zero =>
    rw [reached, List.mem_singleton]
    constructor
    · rintro rfl
      exact .refl
    · intro h
      cases h with
      | refl => rfl
  | succ k ih =>
    simp only [reached, List.mem_map, List.mem_filter, decide_eq_true_eq, ih]
    constructor
    · rintro ⟨edge, ⟨hedge, hpath⟩, rfl⟩
      exact hpath.step hedge
    · intro h
      cases h with
      | step hpath hedge => exact ⟨_, ⟨hedge, hpath⟩, rfl⟩

/-- Looking for paths with more and more edges measures distances. -/
theorem measures_byReach : Measures byReach where
  total nodes edges source _ hsource := by
    unfold byReach
    rw [if_pos hsource]
    rfl
  mem_iff nodes edges source found hwithin hfound n k := by
    unfold byReach at hfound
    split at hfound
    · next hsource =>
      obtain rfl := Option.some.inj hfound
      simp only [List.mem_filterMap, Option.map_eq_some_iff, List.find?_range_eq_some,
        decide_eq_true_eq, mem_reached_iff, Prod.mk.injEq]
      constructor
      · rintro ⟨n, -, k, ⟨hpath, -, hnone⟩, rfl, rfl⟩
        refine ⟨hpath, fun j hj => Nat.le_of_not_lt fun hlt => ?_⟩
        simpa [mem_reached_iff, hj] using hnone j hlt
      · intro h
        refine ⟨n, h.path.mem hwithin hsource, k, ⟨h.path, ?_, fun j hlt => ?_⟩, rfl, rfl⟩
        · exact List.mem_range.2 (h.lt_length hwithin hsource)
        · have hnot : ¬ Path edges source n j := fun hj => Nat.not_le_of_lt hlt (h.shortest j hj)
          simpa [mem_reached_iff] using hnot
    · exact absurd hfound (by simp)

end Wireframe.Graph
