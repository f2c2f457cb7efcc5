import Mathlib.Data.Finset.Basic
import Mathlib.Data.Fintype.Basic
import Mathlib.Data.Fintype.EquivFin
import Mathlib.Logic.Relation
import Mathlib.Order.WellFounded

/-!
# Graphs in order

A graph, given by its nodes and edges, can be put in an order in which every edge leads forward
exactly if it has no cycle. A function that puts graphs in order is taken to do so for all graphs
without a cycle (`Sorts`). One that does takes all nodes without an edge to them first and goes on
with the others (`sorts_byGeneration`).
-/

namespace Wireframe.Graph

/-- The edges of a graph, each with its start and its end. -/
abbrev Edges := List (Nat × Nat)

/-- A function that puts the nodes of a graph, given by its nodes and edges, in order. -/
abbrev Sorter := List Nat → Edges → Option (List Nat)

/-- The nodes of a graph are all different, and its edges lead from nodes to nodes. -/
structure Within (nodes : List Nat) (edges : Edges) : Prop where
  /-- No node is listed twice. -/
  nodup : nodes.Nodup
  /-- The edges lead from nodes to nodes. -/
  mem : ∀ e ∈ edges, e.1 ∈ nodes ∧ e.2 ∈ nodes

/-- No edges lead from a node back to it. -/
def Acyclic (edges : Edges) : Prop := ∀ n, ¬ Relation.TransGen (fun a b => (a, b) ∈ edges) n n

/-- All nodes stand in an order in which no edge leads backward. -/
structure InOrder (nodes : List Nat) (edges : Edges) (order : List Nat) : Prop where
  /-- The nodes are those of the graph. -/
  perm : order.Perm nodes
  /-- No edge leads from a node to one in front of it. -/
  forward : order.Pairwise fun a b => (b, a) ∉ edges

/-- A function puts graphs in order: every graph without a cycle, and only in this way. -/
structure Sorts (sort : Sorter) : Prop where
  /-- A graph without a cycle is put in order. -/
  total : ∀ nodes edges, Within nodes edges → Acyclic edges → (sort nodes edges).isSome = true
  /-- What is returned is an order of the graph. -/
  inOrder : ∀ nodes edges order, sort nodes edges = some order → InOrder nodes edges order

variable {nodes : List Nat} {edges : Edges}

/-- Some node of a graph without a cycle has no edge to it. -/
theorem Acyclic.exists_source (h : Acyclic edges) (hne : nodes ≠ []) :
    ∃ n ∈ nodes, ∀ m ∈ nodes, (m, n) ∉ edges := by
  let leads : nodes.toFinset → nodes.toFinset → Prop := fun a b =>
    Relation.TransGen (fun a b => (a, b) ∈ edges) a.1 b.1
  have htrans : IsTrans nodes.toFinset leads := ⟨fun _ _ _ hab hbc => hab.trans hbc⟩
  have hirrefl : Std.Irrefl leads := ⟨fun a => h a.1⟩
  have hwf : WellFounded leads := Finite.wellFounded_of_trans_of_irrefl leads
  obtain ⟨first, rest, rfl⟩ := List.exists_cons_of_ne_nil hne
  obtain ⟨⟨n, hn⟩, -, hmin⟩ := hwf.has_min Set.univ ⟨⟨first, by simp⟩, trivial⟩
  refine ⟨n, List.mem_toFinset.1 hn, fun m hm hedge => ?_⟩
  exact hmin ⟨m, List.mem_toFinset.2 hm⟩ trivial (.single hedge)

/-- The nodes of a graph without an edge to them. -/
def sources (nodes : List Nat) (edges : Edges) : List Nat :=
  nodes.filter fun n => nodes.all fun m => decide ((m, n) ∉ edges)

/-- The nodes of a graph, those without an edge to them first, if a number of rounds takes all. -/
def takeSources (edges : Edges) : Nat → List Nat → Option (List Nat)
  | _, [] => some []
  | 0, _ :: _ => none
  | rounds + 1, n :: rest =>
    let free := sources (n :: rest) edges
    if free = [] then none
    else (takeSources edges rounds ((n :: rest).filter fun m => decide (m ∉ free))).map (free ++ ·)

/-- The nodes of a graph in order, if it has no cycle. -/
def byGeneration (nodes : List Nat) (edges : Edges) : Option (List Nat) :=
  takeSources edges nodes.length nodes

/-- No edge leads from a node to a source. -/
theorem not_mem_of_mem_sources {a b : Nat} (ha : a ∈ sources nodes edges) (hb : b ∈ nodes) :
    (b, a) ∉ edges :=
  of_decide_eq_true (List.all_eq_true.1 (List.mem_filter.1 ha).2 b hb)

/-- Sources are told from the other nodes by being among the sources. -/
theorem filter_mem_sources (nodes : List Nat) (edges : Edges) :
    (nodes.filter fun m => decide (m ∈ sources nodes edges)) = sources nodes edges := by
  refine List.filter_congr fun m hm => ?_
  rw [Bool.eq_iff_iff, decide_eq_true_iff]
  exact ⟨fun hmem => (List.mem_filter.1 hmem).2, fun hall => List.mem_filter.2 ⟨hm, hall⟩⟩

/-- The sources of a graph and an order of its other nodes make an order of the graph. -/
theorem InOrder.sources_append {later : List Nat}
    (h : InOrder (nodes.filter fun m => decide (m ∉ sources nodes edges)) edges later) :
    InOrder nodes edges (sources nodes edges ++ later) where
  perm := by
    have hparts := List.filter_append_perm (fun m => decide (m ∈ sources nodes edges)) nodes
    rw [filter_mem_sources] at hparts
    refine (h.perm.append_left _).trans ?_
    simpa only [decide_not] using hparts
  forward := by
    have hnodes : ∀ {b}, b ∈ sources nodes edges ++ later → b ∈ nodes := by
      intro b hb
      rcases List.mem_append.1 hb with hb | hb
      · exact (List.mem_filter.1 hb).1
      · exact (List.mem_filter.1 (h.perm.mem_iff.1 hb)).1
    refine List.pairwise_append.2 ⟨?_, h.forward, fun a ha b hb => ?_⟩
    · refine List.pairwise_of_forall_mem_list fun a ha b hb => ?_
      exact not_mem_of_mem_sources ha (hnodes (List.mem_append_left _ hb))
    · exact not_mem_of_mem_sources ha (hnodes (List.mem_append_right _ hb))

/-- What is taken in this way is in order. -/
theorem inOrder_of_takeSources {rounds : Nat} {order : List Nat}
    (h : takeSources edges rounds nodes = some order) : InOrder nodes edges order := by
  induction rounds generalizing nodes order with
  | zero =>
    cases nodes with
    | nil =>
      rw [takeSources, Option.some.injEq] at h
      subst h
      exact ⟨.nil, .nil⟩
    | cons n rest => simp [takeSources] at h
  | succ rounds ih =>
    cases nodes with
    | nil =>
      rw [takeSources, Option.some.injEq] at h
      subst h
      exact ⟨.nil, .nil⟩
    | cons n rest =>
      rw [takeSources] at h
      split at h
      · simp at h
      · obtain ⟨later, hlater, rfl⟩ := Option.map_eq_some_iff.1 h
        exact (ih hlater).sources_append

/-- All nodes of a graph without a cycle are taken if there is a round for each of them. -/
theorem isSome_takeSources (h : Acyclic edges) {rounds : Nat} (hrounds : nodes.length ≤ rounds) :
    (takeSources edges rounds nodes).isSome = true := by
  induction rounds generalizing nodes with
  | zero =>
    obtain rfl : nodes = [] := List.eq_nil_of_length_eq_zero (by omega)
    rfl
  | succ rounds ih =>
    cases nodes with
    | nil => rfl
    | cons n rest =>
      obtain ⟨source, hmem, hsource⟩ := h.exists_source (List.cons_ne_nil n rest)
      have hfree : source ∈ sources (n :: rest) edges :=
        List.mem_filter.2 ⟨hmem, List.all_eq_true.2 fun m hm => decide_eq_true (hsource m hm)⟩
      have hshorter : ((n :: rest).filter fun m =>
          decide (m ∉ sources (n :: rest) edges)).length < (n :: rest).length :=
        List.length_filter_lt_length_iff_exists.2 ⟨source, hmem, by simp [hfree]⟩
      rw [takeSources, if_neg (List.ne_nil_of_mem hfree), Option.isSome_map]
      exact ih (by omega)

/-- Taking sources first puts every graph without a cycle in order. -/
theorem sorts_byGeneration : Sorts byGeneration where
  total := fun _ _ _ hacyclic => isSome_takeSources hacyclic le_rfl
  inOrder := fun _ _ _ h => inOrder_of_takeSources h

end Wireframe.Graph
