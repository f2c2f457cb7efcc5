import Wireframe.Box
import Wireframe.Diagnostic
import Wireframe.Sorting

/-!
# Nesting

Which box lies in which. The parent of a box is the smallest box that strictly contains it. The
boxes together with their parents make up a forest, which is also given as trees. Boxes that
overlap without one containing the other are errors, and then there are no trees; trees with too
many levels are warnings.

`Hierarchy.ofBoxes` is `HierarchyBuilder.build` of `hierarchy`. Of its steps, `parentOf` is
`_smallest_container`, `overlaps` is `_find_overlaps` and `trees` is `_materialize`; the levels of
the boxes are the distances from the roots in its graph.
-/

namespace Wireframe

/-- A box of a list with its parent. -/
structure Nested where
  /-- The place of the box in the list. -/
  index : Nat
  /-- The box. -/
  box : Box
  /-- The place of its parent, unless no box contains it. -/
  parent : Option Nat
  deriving DecidableEq

namespace Nested

/-- Larger boxes first. -/
def largerFirst (a b : Nested) : Bool := decide (b.box.bounds.area ≤ a.box.bounds.area)

/-- Reading order of the top left corners. -/
def before (a b : Nested) : Bool := a.box.bounds.before b.box.bounds

end Nested

namespace BoxTree

/-- Reading order of the top left corners. -/
def before (a b : BoxTree) : Bool := a.box.bounds.before b.box.bounds

end BoxTree

namespace Nesting

/-- The smaller of two boxes, the first one if they are equally large. -/
def smaller : Option (Box × Nat) → Box × Nat → Option (Box × Nat)
  | none, candidate => some candidate
  | some best, candidate =>
    if candidate.1.bounds.area < best.1.bounds.area then some candidate else some best

/-- The place of the smallest box of a list that strictly contains a rectangle. -/
def parentOf (boxes : List Box) (b : Bounds) : Option Nat :=
  let containers := boxes.zipIdx.filter fun candidate => candidate.1.bounds.strictlyContains b
  (containers.foldl smaller none).map Prod.snd

/-- The boxes of a list with their parents. -/
def ofBoxes (boxes : List Box) : List Nested :=
  boxes.zipIdx.map fun (box, index) => ⟨index, box, parentOf boxes box.bounds⟩

/-- The parents and children, larger children first. -/
def edges (nested : List Nested) : List (Nat × Nat) :=
  (sortBy Nested.largerFirst nested).filterMap fun n => n.parent.map fun p => (p, n.index)

/-- The boxes without a parent, in reading order. -/
def roots (nested : List Nested) : List Nested :=
  sortBy Nested.before (nested.filter fun n => n.parent.isNone)

/-! ## Trees -/

/-- The trees of boxes that are listed with larger ones first, so that the trees of the children of
a box are there before its own. -/
def grow : List Nested → List (Nested × BoxTree)
  | [] => []
  | n :: smaller =>
    let grown := grow smaller
    -- A child is smaller than its parent, so its tree is among those grown already.
    let children := grown.filter fun t => decide (t.1.parent = some n.index)
    (n, ⟨n.box, sortBy BoxTree.before (children.map Prod.snd)⟩) :: grown

/-- The trees of the boxes without a parent. -/
def trees (nested : List Nested) : List BoxTree :=
  let grown := grow (sortBy Nested.largerFirst nested)
  (roots nested).filterMap fun root =>
    (grown.find? fun t => decide (t.1.index = root.index)).map Prod.snd

/-! ## Overlaps -/

/-- Whether two rectangles overlap without one strictly containing the other. -/
def conflict (a b : Bounds) : Bool :=
  !a.strictlyContains b && !b.strictlyContains a && a.overlaps b

/-- One problem for each conflict among rectangles. -/
def overlaps : List Bounds → List Diagnostic
  | [] => []
  | a :: rest => ((rest.filter (conflict a)).map (.overlappingBoxes a)) ++ overlaps rest

/-! ## Levels -/

/-- A box with its level. -/
structure Level where
  /-- The box. -/
  nested : Nested
  /-- The place of the box at the root of its tree. -/
  root : Nat
  /-- The number of steps from the root. -/
  depth : Nat

/-- One more box below those whose level is known. -/
def addLevel (levels : List Level) (n : Nested) : List Level :=
  match n.parent.bind fun p => levels.find? fun l => decide (l.nested.index = p) with
  | some above => levels ++ [⟨n, above.root, above.depth + 1⟩]
  | none => levels ++ [⟨n, n.index, 0⟩]

/-- The levels of all boxes. Parents come before their children, since they are larger. -/
def levels (nested : List Nested) : List Level :=
  (sortBy Nested.largerFirst nested).foldl addLevel []

/-- The deeper of two boxes, the one that comes first in the list if they are equally deep. -/
def deeper : Option Level → Level → Option Level
  | none, candidate => some candidate
  | some best, candidate =>
    if best.depth < candidate.depth ∨
        (best.depth = candidate.depth ∧ candidate.nested.index < best.nested.index) then
      some candidate
    else some best

/-- The deepest box below a root. -/
def deepest (levels : List Level) (root : Nested) : Option Level :=
  (levels.filter fun l => decide (l.root = root.index)).foldl deeper none

/-- One warning for each root with more than `maxDepth` levels below it, at its deepest box. -/
def depthWarnings (maxDepth : Nat) (nested : List Nested) : List Diagnostic :=
  (roots nested).filterMap fun root =>
    (deepest (levels nested) root).bind fun l =>
      if maxDepth < l.depth then
        some (.deepNesting l.nested.box.bounds.topLeft l.depth maxDepth)
      else none

end Nesting

/-- The nesting of a list of boxes. -/
structure Hierarchy where
  /-- The boxes with their parents. -/
  nested : List Nested
  /-- The trees; none when there are errors. -/
  trees : List BoxTree
  /-- The overlaps. -/
  errors : List Diagnostic
  /-- The trees that are too deep. -/
  warnings : List Diagnostic

namespace Hierarchy

/-- The nesting of a list of boxes, with a warning for trees of more than `maxDepth` levels. -/
def ofBoxes (maxDepth : Nat) (boxes : List Box) : Hierarchy :=
  let nested := Nesting.ofBoxes boxes
  let errors := Nesting.overlaps (boxes.map (·.bounds))
  { nested
    trees := if errors = [] then Nesting.trees nested else []
    errors
    warnings := Nesting.depthWarnings maxDepth nested }

end Hierarchy

end Wireframe
