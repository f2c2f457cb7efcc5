import Wireframe.Proofs.Checked.Distance
import Wireframe.Proofs.Checked.Grid
import Wireframe.Proofs.Nesting.Ancestry
import Wireframe.Proofs.Nesting.Levels
import Wireframe.Proofs.Problems

/-!
# Boxes are nested without a failure

Nesting boxes, step by step, with each step failing outside of its domain. The parents and children
make up a graph that is put in order, and the trees are made from the end of that order, those of
the children of a box before its own. It never fails (`nesting_eq`): a parent is larger than its
children, so the graph has no cycle (`acyclic_edges`), and all trees are there when they are asked
for (`materialize_eq`). The way in which the graph is put in order does not matter.

The warnings of trees that are too deep are made from the distances in the graph. The distance of a
box from a root is its level (`distance_edges_iff`), so the way in which distances are measured does
not matter either.
-/

namespace Wireframe

/-! ## The graph of parents and children -/

namespace Nesting

variable {boxes : List Box} {xs nested : List Nested} {n : Nested} {t : BoxTree}

/-- An edge leads from the parent of a box to the box. -/
theorem mem_edges_iff {p i : Nat} :
    (p, i) ∈ edges nested ↔ ∃ n ∈ nested, n.parent = some p ∧ n.index = i := by
  simp only [edges, List.mem_filterMap, mem_sortBy, Option.map_eq_some_iff, Prod.mk.injEq]
  constructor
  · rintro ⟨n, hn, q, hparent, rfl, hindex⟩
    exact ⟨n, hn, hparent, hindex⟩
  · rintro ⟨n, hn, hparent, hindex⟩
    exact ⟨n, hn, p, hparent, rfl, hindex⟩

/-- The area of the box at a place of a list. -/
def areaAt (boxes : List Box) (i : Nat) : Int := (boxes[i]?.map (·.bounds.area)).getD 0

/-- An edge leads to a smaller box. -/
theorem areaAt_lt_of_mem_edges (hvalid : ∀ box ∈ boxes, box.bounds.Valid) {p i : Nat}
    (h : (p, i) ∈ edges (ofBoxes boxes)) : areaAt boxes i < areaAt boxes p := by
  obtain ⟨n, hn, hparent, rfl⟩ := mem_edges_iff.1 h
  obtain ⟨m, hm, rfl⟩ := exists_parent hn hparent
  have hbox := (mem_ofBoxes_iff.1 hn).1
  have hbox' := (mem_ofBoxes_iff.1 hm).1
  rw [areaAt, areaAt, hbox, hbox']
  exact Bounds.area_lt_of_strictlyContains (hvalid n.box (List.mem_of_getElem? hbox))
    (strictlyContains_of_parent hn hm hparent)

/-- The graph of parents and children has no cycle, since every edge leads to a smaller box. -/
theorem acyclic_edges (hvalid : ∀ box ∈ boxes, box.bounds.Valid) :
    Graph.Acyclic (edges (ofBoxes boxes)) := by
  have hsmaller : ∀ {p i : Nat}, Relation.TransGen (fun a b => (a, b) ∈ edges (ofBoxes boxes)) p i →
      areaAt boxes i < areaAt boxes p := by
    intro p i h
    induction h with
    | single hedge => exact areaAt_lt_of_mem_edges hvalid hedge
    | tail _ hedge ih => exact (areaAt_lt_of_mem_edges hvalid hedge).trans ih
  exact fun i hcycle => lt_irrefl _ (hsmaller hcycle)

/-- The edges of the graph lead from places of the list to places of it. -/
theorem lt_length_of_mem_edges {p i : Nat} (h : (p, i) ∈ edges (ofBoxes boxes)) :
    p < boxes.length ∧ i < boxes.length := by
  have hlt : ∀ m ∈ ofBoxes boxes, m.index < boxes.length := fun m hm =>
    (List.getElem?_eq_some_iff.1 (mem_ofBoxes_iff.1 hm).1).1
  obtain ⟨n, hn, hparent, rfl⟩ := mem_edges_iff.1 h
  obtain ⟨m, hm, rfl⟩ := exists_parent hn hparent
  exact ⟨hlt m hm, hlt n hn⟩

/-- The graph has the places of the list for its nodes. -/
theorem within_edges (boxes : List Box) :
    Graph.Within (List.range boxes.length) (edges (ofBoxes boxes)) where
  nodup := List.nodup_range
  mem e he := by
    rw [List.mem_range, List.mem_range]
    exact lt_length_of_mem_edges he

/-! ## Levels as distances -/

/-- A path from a root leads to a box that is as many steps from it. -/
theorem exists_leveled_of_path {root : Nested} (hroot : root ∈ nested)
    (hparent : root.parent = none) {i k : Nat} (h : Graph.Path (edges nested) root.index i k) :
    ∃ l, Leveled nested l ∧ l.root = root.index ∧ l.nested.index = i ∧ l.depth = k := by
  induction h with
  | refl => exact ⟨_, .root hroot hparent, rfl, rfl, rfl⟩
  | step _ hedge ih =>
    obtain ⟨above, habove, htop, rfl, rfl⟩ := ih
    obtain ⟨n, hn, hbelow, rfl⟩ := mem_edges_iff.1 hedge
    exact ⟨_, .step hn habove hbelow, htop, rfl, rfl⟩

/-- A path leads from the root of a box to it, with an edge for each step. -/
theorem Leveled.path {l : Level} (h : Leveled nested l) :
    Graph.Path (edges nested) l.root l.nested.index l.depth := by
  induction h with
  | root hn hparent => exact .refl
  | step hn habove hparent ih => exact ih.step (mem_edges_iff.2 ⟨_, hn, hparent, rfl⟩)

/-- The nodes at a distance from a root are the boxes below it that have the distance for their
level. -/
theorem distance_edges_iff (hvalid : ∀ box ∈ boxes, box.bounds.Valid) {root : Nested}
    (hroot : root ∈ roots (ofBoxes boxes)) {i k : Nat} :
    Graph.Distance (edges (ofBoxes boxes)) root.index i k ↔
      ∃ l ∈ levels (ofBoxes boxes), l.root = root.index ∧ l.nested.index = i ∧ l.depth = k := by
  obtain ⟨hmem, hnone⟩ := List.mem_filter.1 (mem_sortBy.1 hroot)
  have hparent : root.parent = none := Option.isNone_iff_eq_none.1 hnone
  constructor
  · intro h
    obtain ⟨l, hl, hfields⟩ := exists_leveled_of_path hmem hparent h.path
    exact ⟨l, (mem_levels_iff hvalid).2 hl, hfields⟩
  · rintro ⟨l, hl, htop, rfl, rfl⟩
    have hleveled := (mem_levels_iff hvalid).1 hl
    refine ⟨htop ▸ hleveled.path, fun j hpath => ?_⟩
    -- A box has one level, so all paths to it have one length.
    obtain ⟨m, hm, -, hindex, rfl⟩ := exists_leveled_of_path hmem hparent hpath
    rw [hm.unique (nodup_index_ofBoxes boxes) hleveled hindex]

/-! ## Overlaps -/

/-- The problem with two rectangles that overlap without one containing the other. -/
def overlap? (a b : Bounds) : Option Diagnostic :=
  if conflict a b then some (.overlappingBoxes a b) else none

/-- A rectangle has one problem for each other one that is in conflict with it. -/
theorem filterMap_overlap? (a : Bounds) (bs : List Bounds) :
    bs.filterMap (overlap? a) = (bs.filter (conflict a)).map (.overlappingBoxes a) := by
  induction bs with
  | nil => rfl
  | cons b bs ih =>
    rw [List.filterMap_cons, overlap?, ih]
    by_cases hconflict : conflict a b = true
    · rw [if_pos hconflict, List.filter_cons_of_pos hconflict, List.map_cons]
    · rw [if_neg hconflict, List.filter_cons_of_neg hconflict]

end Nesting

/-! ## The steps of nesting -/

namespace Checked

variable {boxes arena : List Box}

/-- The better of two places for the parent of a box: the one of the smaller box that strictly
contains it. -/
def takeSmaller (arena : List Box) (idx : Nat) (inner : Box) (best : Option Nat)
    (candidate : Box × Nat) : Except Failure (Option Nat) := do
  if candidate.2 = idx ∨ candidate.1.bounds.strictlyContains inner.bounds = false then return best
  else match best with
    | none => return some candidate.2
    | some old =>
      let oldBox ← entry arena old
      return some (if candidate.1.bounds.area < oldBox.bounds.area then candidate.2 else old)

/-- The place of the smallest box of a list that strictly contains the one at a place. -/
def smallestContainer (arena : List Box) (idx : Nat) : Except Failure (Option Nat) := do
  let inner ← entry arena idx
  arena.zipIdx.foldlM (takeSmaller arena idx inner) none

/-- A box with its parent. -/
def nestedAt (arena : List Box) (idx : Nat) : Except Failure Nested := do
  let box ← entry arena idx
  let parent ← smallestContainer arena idx
  return ⟨idx, box, parent⟩

/-- The problem with the boxes at two places of a list, if there is one. -/
def overlapAt (arena : List Box) (i j : Nat) : Except Failure (Option Diagnostic) := do
  let a ← entry arena i
  let b ← entry arena j
  return Nesting.overlap? a.bounds b.bounds

/-- One problem for each pair of boxes that overlap. -/
def overlaps (arena : List Box) : Except Failure (List Diagnostic) := do
  let found ← (List.range arena.length).mapM fun i =>
    (List.range' (i + 1) (arena.length - (i + 1))).mapM (overlapAt arena i)
  return found.flatten.filterMap id

/-- The further away of two nodes, each with its distance, and the first one of the graph if both
are equally far away. -/
def further : Option (Nat × Nat) → Nat × Nat → Option (Nat × Nat)
  | none, candidate => some candidate
  | some best, candidate =>
    if best.2 < candidate.2 ∨ (best.2 = candidate.2 ∧ candidate.1 < best.1) then some candidate
    else some best

/-- The node that is furthest away, with its distance. -/
def furthest (distances : List (Nat × Nat)) : Except Failure (Nat × Nat) :=
  match distances.foldl further none with
  | none => .error .largest
  | some best => return best

/-- The warning of a root if there are more than `maxDepth` levels below it, at its deepest box,
with the distances from the root measured by a given function. -/
def depthWarning (distances : Graph.Meter) (arena : List Box) (edges : Graph.Edges)
    (maxDepth : Nat) (root : Nested) : Except Failure (Option Diagnostic) :=
  match distances (List.range arena.length) edges root.index with
  | none => .error .node
  | some found => do
    let (place, depth) ← furthest found
    if maxDepth < depth then
      let box ← entry arena place
      return some (.deepNesting box.bounds.topLeft depth maxDepth)
    else return none

/-- One warning for each root with too many levels below it. -/
def depthWarnings (distances : Graph.Meter) (arena : List Box) (edges : Graph.Edges)
    (maxDepth : Nat) (nested : List Nested) : Except Failure (List Diagnostic) := do
  let found ← (Nesting.roots nested).mapM (depthWarning distances arena edges maxDepth)
  return found.filterMap id

/-- The places of the children of the box at a place. -/
def successors (edges : Graph.Edges) (idx : Nat) : List Nat :=
  (edges.filter fun e => decide (e.1 = idx)).map Prod.snd

/-- The trees of the boxes at the given places, made from the last one on. -/
def materialize (arena : List Box) (edges : Graph.Edges) :
    List Nat → Except Failure (List (Nat × BoxTree))
  | [] => return []
  | idx :: later => do
    let built ← materialize arena edges later
    let children ← (successors edges idx).mapM (value built)
    let box ← entry arena idx
    return (idx, ⟨box, sortBy BoxTree.before children⟩) :: built

/-- The nesting of a list of boxes, with the graph of parents and children put in order by a given
function, and distances in it measured by another one. -/
def nesting (sort : Graph.Sorter) (distances : Graph.Meter) (maxDepth : Nat) (arena : List Box) :
    Except Failure Hierarchy := do
  let places := List.range arena.length
  let nested ← places.mapM (nestedAt arena)
  let edges := Nesting.edges nested
  let errors ← overlaps arena
  let warnings ← depthWarnings distances arena edges maxDepth nested
  if errors = [] then
    match sort places edges with
    | none => .error .unordered
    | some order =>
      let built ← materialize arena edges order
      let trees ← (Nesting.roots nested).mapM fun root => value built root.index
      return ⟨nested, trees, errors, warnings⟩
  else return ⟨nested, [], errors, warnings⟩

/-! ## Parents -/

/-- The smallest of several boxes is found by their places. -/
theorem foldlM_takeSmaller {idx : Nat} {inner : Box} (hinner : arena[idx]? = some inner)
    {xs : List (Box × Nat)} {best : Option (Box × Nat)} (hxs : ∀ c ∈ xs, arena[c.2]? = some c.1)
    (hbest : ∀ c ∈ best, arena[c.2]? = some c.1) :
    xs.foldlM (takeSmaller arena idx inner) (best.map Prod.snd) =
      .ok (((xs.filter fun c => c.1.bounds.strictlyContains inner.bounds).foldl Nesting.smaller
        best).map Prod.snd) := by
  induction xs generalizing best with
  | nil => rfl
  | cons c xs ih =>
    have hrest : ∀ d ∈ xs, arena[d.2]? = some d.1 := fun d hd =>
      hxs d (List.mem_cons_of_mem c hd)
    have hc := hxs c List.mem_cons_self
    rw [List.foldlM_cons, List.filter_cons]
    by_cases hcontains : c.1.bounds.strictlyContains inner.bounds = true
    · -- No box strictly contains itself.
      have hne : c.2 ≠ idx := by
        intro heq
        rw [heq, hinner, Option.some.injEq] at hc
        rw [← hc] at hcontains
        simp [Bounds.strictlyContains] at hcontains
      rw [if_pos hcontains, List.foldl_cons]
      have hstep : takeSmaller arena idx inner (best.map Prod.snd) c =
          .ok ((Nesting.smaller best c).map Prod.snd) := by
        unfold takeSmaller
        rw [if_neg (by simp [hne, hcontains])]
        cases best with
        | none => rfl
        | some old =>
          have hold := entry_eq (hbest old rfl)
          rw [Option.map_some]
          dsimp only
          rw [hold, ok_bind, pure_eq, Nesting.smaller]
          split <;> rfl
      rw [hstep, ok_bind]
      refine ih hrest fun d hd => ?_
      cases best with
      | none =>
        rw [← Option.some.inj hd]
        exact hc
      | some old =>
        rcases Nesting.chooses_smaller.next old c with ⟨heq, -⟩ | ⟨heq, -⟩
        · exact hbest d (heq.symm.trans hd)
        · rw [← Option.some.inj (heq.symm.trans hd)]
          exact hc
    · rw [if_neg hcontains]
      have hstep : takeSmaller arena idx inner (best.map Prod.snd) c = .ok (best.map Prod.snd) := by
        unfold takeSmaller
        rw [if_pos (.inr (by simpa using hcontains)), pure_eq]
      rw [hstep, ok_bind]
      exact ih hrest hbest

/-- The parent of a box is found by its place. -/
theorem smallestContainer_eq {idx : Nat} {box : Box} (h : arena[idx]? = some box) :
    smallestContainer arena idx = .ok (Nesting.parentOf arena box.bounds) := by
  rw [smallestContainer, entry_eq h, ok_bind]
  have hnone : ∀ c ∈ (none : Option (Box × Nat)), arena[c.2]? = some c.1 := by simp
  exact foldlM_takeSmaller h (fun c hc => List.mk_mem_zipIdx_iff_getElem?.1 hc) hnone

/-- All boxes of a list get their parents. -/
theorem nested_eq (boxes : List Box) :
    (List.range boxes.length).mapM (nestedAt boxes) = .ok (Nesting.ofBoxes boxes) := by
  have hrange : List.range boxes.length = boxes.zipIdx.map Prod.snd := by
    rw [List.zipIdx_map_snd, List.range_eq_range']
  rw [hrange, Nesting.ofBoxes]
  refine mapM_map_eq_ok fun c hc => ?_
  have hbox := List.mk_mem_zipIdx_iff_getElem?.1 hc
  rw [nestedAt, entry_eq hbox, ok_bind, smallestContainer_eq hbox, ok_bind, pure_eq]

/-! ## Overlaps -/

/-- The boxes behind a place are compared with the one at it. -/
theorem mapM_overlapAt {i : Nat} {a : Box} {rest : List Box} (h : arena.drop i = a :: rest) :
    (List.range' (i + 1) (arena.length - (i + 1))).mapM (overlapAt arena i) =
      .ok (rest.map fun b => Nesting.overlap? a.bounds b.bounds) := by
  have hfirst : arena[i]? = some a := by
    rw [← List.head?_drop, h, List.head?_cons]
  have hrest : arena.drop (i + 1) = rest := by
    rw [← List.tail_drop, h, List.tail_cons]
  have hplaces : List.range' (i + 1) (arena.length - (i + 1)) =
      (rest.zipIdx (i + 1)).map Prod.snd := by
    rw [List.zipIdx_map_snd, ← hrest, List.length_drop]
  conv_rhs => rw [← List.zipIdx_map_fst (i + 1) rest, List.map_map]
  rw [hplaces]
  refine mapM_map_eq_ok fun c hc => ?_
  obtain ⟨hle, hbox⟩ := List.mem_zipIdx_iff_le_and_getElem?_sub.1 hc
  rw [← hrest, List.getElem?_drop, Nat.add_sub_cancel' hle] at hbox
  rw [overlapAt, entry_eq hfirst, ok_bind, entry_eq hbox, ok_bind]
  rfl

/-- The boxes from a place on are compared with those behind them. -/
theorem exists_overlaps_from {k : Nat} {rest : List Box} (h : arena.drop k = rest) :
    ∃ found, (List.range' k rest.length).mapM (fun i =>
        (List.range' (i + 1) (arena.length - (i + 1))).mapM (overlapAt arena i)) = .ok found ∧
      found.flatten.filterMap id = Nesting.overlaps (rest.map (·.bounds)) := by
  induction rest generalizing k with
  | nil => exact ⟨[], rfl, rfl⟩
  | cons a rest ih =>
    have hrest : arena.drop (k + 1) = rest := by
      rw [← List.tail_drop, h, List.tail_cons]
    obtain ⟨found, hfound, hflat⟩ := ih hrest
    refine ⟨(rest.map fun b => Nesting.overlap? a.bounds b.bounds) :: found, ?_, ?_⟩
    · rw [List.length_cons, List.range'_succ, List.mapM_cons, mapM_overlapAt h, ok_bind, hfound,
        ok_bind, pure_eq]
    · rw [List.flatten_cons, List.filterMap_append, hflat, List.map_cons, Nesting.overlaps,
        ← Nesting.filterMap_overlap?, List.filterMap_map, List.filterMap_map]
      rfl

/-- Pairs of boxes are compared without a failure. -/
theorem overlaps_eq (arena : List Box) :
    overlaps arena = .ok (Nesting.overlaps (arena.map (·.bounds))) := by
  obtain ⟨found, hfound, hflat⟩ := exists_overlaps_from (List.drop_zero (l := arena))
  rw [overlaps, List.range_eq_range', hfound, ok_bind, pure_eq, hflat]

/-! ## Levels -/

/-- The node is further away than another, or as far away and not behind it. -/
def FurtherOrFirst (a b : Nat × Nat) : Prop := b.2 < a.2 ∨ (b.2 = a.2 ∧ a.1 ≤ b.1)

/-- Of two nodes the one further away is chosen, and the first one if they are equally far away. -/
theorem chooses_further : Chooses further FurtherOrFirst where
  refl := fun _ => .inr ⟨rfl, Nat.le_refl _⟩
  trans := fun hab hbc => by
    unfold FurtherOrFirst at *
    omega
  first := fun _ => rfl
  next := fun old candidate => by
    unfold FurtherOrFirst
    rw [further]
    split
    · exact .inr ⟨rfl, by omega⟩
    · exact .inl ⟨rfl, by omega⟩

/-- The node that is furthest from a root is the deepest box below it. -/
theorem furthest_eq (hvalid : ∀ box ∈ boxes, box.bounds.Valid) {root : Nested} {l : Nesting.Level}
    (hroot : root ∈ Nesting.roots (Nesting.ofBoxes boxes))
    (hl : Nesting.deepest (Nesting.levels (Nesting.ofBoxes boxes)) root = some l)
    {found : List (Nat × Nat)} (hfound : ∀ i k, (i, k) ∈ found ↔
      Graph.Distance (Nesting.edges (Nesting.ofBoxes boxes)) root.index i k) :
    furthest found = .ok (l.nested.index, l.depth) := by
  obtain ⟨⟨hmem, htop⟩, hdeepest⟩ := Nesting.deepest_spec hl
  have hlisted : (l.nested.index, l.depth) ∈ found :=
    (hfound _ _).2 ((Nesting.distance_edges_iff hvalid hroot).2 ⟨l, hmem, htop, rfl, rfl⟩)
  unfold furthest
  cases hbest : found.foldl further none with
  | none =>
    rw [chooses_further.foldl_eq_none_iff.1 hbest] at hlisted
    exact absurd hlisted List.not_mem_nil
  | some best =>
    obtain ⟨hin, hall⟩ := chooses_further.of_foldl_eq_some hbest
    -- The best node is a box below the root as well, so neither of the two comes before the other.
    obtain ⟨m, hm, hmtop, hindex, hdepth⟩ :=
      (Nesting.distance_edges_iff hvalid hroot).1 ((hfound best.1 best.2).1 hin)
    have hfurther := hall _ hlisted
    have hdeeper := hdeepest m hm hmtop
    unfold FurtherOrFirst at hfurther
    unfold Nesting.DeeperOrFirst at hdeeper
    have heq : best = (l.nested.index, l.depth) := by
      apply Prod.ext
      · show best.1 = l.nested.index
        omega
      · show best.2 = l.depth
        omega
    rw [heq]
    rfl

variable {distances : Graph.Meter}

/-- Trees that are too deep are warned of at boxes of the list, whatever function measures
distances. -/
theorem depthWarnings_eq (hdistances : Graph.Measures distances)
    (hvalid : ∀ box ∈ boxes, box.bounds.Valid) (maxDepth : Nat) :
    depthWarnings distances boxes (Nesting.edges (Nesting.ofBoxes boxes)) maxDepth
        (Nesting.ofBoxes boxes) =
      .ok (Nesting.depthWarnings maxDepth (Nesting.ofBoxes boxes)) := by
  unfold depthWarnings
  rw [mapM_eq_ok (g := fun root => (Nesting.deepest (Nesting.levels (Nesting.ofBoxes boxes))
    root).bind fun l => if maxDepth < l.depth then
      some (.deepNesting l.nested.box.bounds.topLeft l.depth maxDepth) else none) ?_, ok_bind,
    pure_eq, List.filterMap_map]
  · rfl
  · intro root hroot
    -- Every root has a deepest box below it, and that is one of the list.
    obtain ⟨l, hl⟩ := Option.isSome_iff_exists.1 (Nesting.isSome_deepest hroot)
    have hbox := (Nesting.mem_ofBoxes_iff.1 (Nesting.mem_of_deepest hl)).1
    have hplace : root.index ∈ List.range boxes.length := by
      have hin := (List.mem_filter.1 (mem_sortBy.1 hroot)).1
      exact List.mem_range.2 (List.getElem?_eq_some_iff.1 (Nesting.mem_ofBoxes_iff.1 hin).1).1
    obtain ⟨found, hfound⟩ := Option.isSome_iff_exists.1
      (hdistances.total _ _ root.index (Nesting.within_edges boxes) hplace)
    have hfurthest : furthest found = .ok (l.nested.index, l.depth) :=
      furthest_eq hvalid hroot hl
        (hdistances.mem_iff _ _ _ _ (Nesting.within_edges boxes) hfound)
    unfold depthWarning
    rw [hfound, hl, Option.bind_some]
    dsimp only
    rw [hfurthest, ok_bind]
    dsimp only
    split
    · rw [entry_eq hbox, ok_bind, pure_eq]
    · rfl

/-! ## Trees -/

/-- The ends of the edges from a place are the places of the entries that have it for a parent. -/
theorem map_snd_filter_edges (xs : List Nested) (idx : Nat) :
    ((xs.filterMap fun n => n.parent.map fun p => (p, n.index)).filter fun e =>
        decide (e.1 = idx)).map Prod.snd =
      (xs.filter fun n => decide (n.parent = some idx)).map (·.index) := by
  induction xs with
  | nil => rfl
  | cons n xs ih =>
    cases hparent : n.parent with
    | none => simpa [hparent] using ih
    | some p => by_cases hp : p = idx <;> simpa [hparent, hp] using ih

/-- The successors of a place are the places of the trees grown for its children. -/
theorem successors_edges (nested : List Nested) (idx : Nat) :
    successors (Nesting.edges nested) idx =
      ((Nesting.grow (sortBy Nested.largerFirst nested)).filter fun u =>
        decide (u.1.parent = some idx)).map fun u => u.1.index := by
  rw [successors, Nesting.edges, map_snd_filter_edges]
  conv_lhs => rw [← Nesting.map_fst_grow (sortBy Nested.largerFirst nested), List.filter_map,
    List.map_map]
  rfl

/-- The tree of every box in an order is made, and it is the one grown for the box, if the order has
the children of all its boxes and no edge leads backward. -/
theorem materialize_eq (hvalid : ∀ box ∈ boxes, box.bounds.Valid) {order : List Nat}
    (hplaces : ∀ idx ∈ order, idx < boxes.length)
    (hforward : order.Pairwise fun a b => (b, a) ∉ Nesting.edges (Nesting.ofBoxes boxes))
    (hclosed : ∀ e ∈ Nesting.edges (Nesting.ofBoxes boxes), e.1 ∈ order → e.2 ∈ order) :
    ∃ built, materialize boxes (Nesting.edges (Nesting.ofBoxes boxes)) order = .ok built ∧
      ∀ t ∈ Nesting.grow (sortBy Nested.largerFirst (Nesting.ofBoxes boxes)), t.1.index ∈ order →
        built.lookup t.1.index = some t.2 := by
  have hranked := Nesting.ranked_sortBy hvalid
  induction order with
  | nil => exact ⟨[], rfl, by simp⟩
  | cons idx later ih =>
    obtain ⟨hback, hforward⟩ := List.pairwise_cons.1 hforward
    -- The children of later boxes are later themselves, as no edge leads back to this box.
    have hlater : ∀ e ∈ Nesting.edges (Nesting.ofBoxes boxes), e.1 ∈ later → e.2 ∈ later := by
      intro e he hmem
      refine (List.mem_cons.1 (hclosed e he (List.mem_cons_of_mem idx hmem))).resolve_left ?_
      intro heq
      exact hback e.1 hmem (heq ▸ he)
    obtain ⟨built, hbuilt, hfound⟩ := ih
      (fun i hi => hplaces i (List.mem_cons_of_mem idx hi)) hforward hlater
    -- A tree is grown for the entry at the place.
    obtain ⟨box, hbox⟩ : ∃ box, boxes[idx]? = some box :=
      ⟨_, List.getElem?_eq_getElem (hplaces idx List.mem_cons_self)⟩
    have hentry : (⟨idx, box, Nesting.parentOf boxes box.bounds⟩ : Nested) ∈
        sortBy Nested.largerFirst (Nesting.ofBoxes boxes) :=
      mem_sortBy.2 (Nesting.mem_ofBoxes_iff.2 ⟨hbox, rfl⟩)
    obtain ⟨t, ht⟩ := Nesting.exists_mem_grow hentry
    have htree := Nesting.tree_of_mem_grow hranked ht
    -- The trees of its children are there.
    have hchildren : (successors (Nesting.edges (Nesting.ofBoxes boxes)) idx).mapM (value built) =
        .ok (((Nesting.grow (sortBy Nested.largerFirst (Nesting.ofBoxes boxes))).filter fun u =>
          decide (u.1.parent = some idx)).map Prod.snd) := by
      rw [successors_edges]
      refine mapM_map_eq_ok fun u hu => ?_
      obtain ⟨hu, hparent⟩ := List.mem_filter.1 hu
      have hentry := mem_sortBy.1 (Nesting.grown_of_mem_grow hu).mem
      have hedge : (idx, u.1.index) ∈ Nesting.edges (Nesting.ofBoxes boxes) :=
        Nesting.mem_edges_iff.2 ⟨u.1, hentry, of_decide_eq_true hparent, rfl⟩
      have hne : u.1.index ≠ idx := fun heq => by
        have hlt := Nesting.areaAt_lt_of_mem_edges hvalid hedge
        rw [heq] at hlt
        exact lt_irrefl _ hlt
      have hmem := (List.mem_cons.1 (hclosed _ hedge List.mem_cons_self)).resolve_left hne
      exact value_eq (hfound u hu hmem)
    refine ⟨(idx, t) :: built, ?_, fun u hu hmem => ?_⟩
    · rw [materialize, hbuilt, ok_bind, hchildren, ok_bind, entry_eq hbox, ok_bind, pure_eq, htree]
    · by_cases heq : u.1.index = idx
      · obtain rfl := Nesting.eq_of_index_eq hranked.nodup hu ht heq
        exact List.lookup_cons_self
      · have hlater' := (List.mem_cons.1 hmem).resolve_left heq
        rw [List.lookup_cons, beq_eq_false_iff_ne.2 heq]
        exact hfound u hu hlater'

/-- Boxes are nested without a failure, whatever function puts the graph of parents and children in
order and whatever function measures distances in it. -/
theorem nesting_eq {sort : Graph.Sorter} (hsort : Graph.Sorts sort)
    (hdistances : Graph.Measures distances) (maxDepth : Nat)
    (hvalid : ∀ box ∈ boxes, box.bounds.Valid) :
    nesting sort distances maxDepth boxes = .ok (Hierarchy.ofBoxes maxDepth boxes) := by
  unfold nesting Hierarchy.ofBoxes
  dsimp only
  rw [nested_eq, ok_bind, overlaps_eq, ok_bind, depthWarnings_eq hdistances hvalid, ok_bind]
  split
  · obtain ⟨order, horder⟩ := Option.isSome_iff_exists.1
      (hsort.total _ _ (Nesting.within_edges boxes) (Nesting.acyclic_edges hvalid))
    obtain ⟨hperm, hforward⟩ := hsort.inOrder _ _ _ horder
    have hmem : ∀ {i : Nat}, i ∈ order ↔ i < boxes.length := fun {i} => by
      rw [hperm.mem_iff, List.mem_range]
    obtain ⟨built, hbuilt, hfound⟩ := materialize_eq hvalid (fun i hi => hmem.1 hi) hforward
      fun e he _ => hmem.2 (Nesting.lt_length_of_mem_edges he).2
    have htrees : ((Nesting.roots (Nesting.ofBoxes boxes)).mapM fun root =>
        value built root.index) = .ok (Nesting.trees (Nesting.ofBoxes boxes)) := by
      refine mapM_eq_ok_filterMap fun root hroot => ?_
      have hroot := (List.mem_filter.1 (mem_sortBy.1 hroot)).1
      obtain ⟨t, ht⟩ := Nesting.exists_mem_grow
        (mem_sortBy.2 hroot : root ∈ sortBy Nested.largerFirst (Nesting.ofBoxes boxes))
      have hlt : root.index < boxes.length :=
        (List.getElem?_eq_some_iff.1 (Nesting.mem_ofBoxes_iff.1 hroot).1).1
      refine ⟨t, ?_, ?_⟩
      · exact value_eq (hfound _ ht (hmem.2 hlt))
      · rw [Nesting.find?_grow (Nesting.ranked_sortBy hvalid).nodup ht]
        rfl
    rw [horder]
    dsimp only
    rw [hbuilt, ok_bind, htrees, ok_bind, pure_eq]
  · rfl

end Checked

end Wireframe
