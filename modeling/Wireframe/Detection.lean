import Wireframe.Outline

/-!
# Detection

Finding all boxes of a drawing. Every corner with a horizontal edge to its right is tried as the top
left corner of a box. When that fails, it is mostly because the corner belongs to the bottom edge of
a box above; such a failure is not reported.

`Grid.detect` is `ShapeDetector.detect` of `shapes` and `Detection` the `DetectionResult` that it
gives; `candidates` has the same name there. `dividerRows` is `find_dividers` of `dividers`.
-/

namespace Wireframe

/-- What was found in a drawing. -/
structure Detection where
  /-- The boxes, in reading order of their top left corners. -/
  boxes : List Box
  /-- What is wrong with the others, each problem once. -/
  problems : List Diagnostic
  /-- The outlines that were followed. -/
  outlines : List Outline
  /-- The corners whose failure is not reported. -/
  suppressed : List Position
  /-- The corners that reported outlines have reached. -/
  claimed : List Position

namespace Detection

/-- Nothing found yet. -/
def empty : Detection := ⟨[], [], [], [], []⟩

/-- A problem added to others, unless it is among them. -/
def addProblem (problems : List Diagnostic) (d : Diagnostic) : List Diagnostic :=
  if d ∈ problems then problems else problems ++ [d]

/-- One more outline taken into account. A failure is suppressed when the outline starts at a corner
that an earlier outline reached and did not get below its own first row. -/
def add (found : Detection) (o : Outline) : Detection :=
  let found := { found with outlines := found.outlines ++ [o] }
  match o.outcome with
  | .ok box => { found with boxes := found.boxes ++ [box], claimed := found.claimed ++ o.corners }
  | .error problems =>
    -- Such a corner is one of the bottom edge of a box above.
    if o.start ∈ found.claimed ∧ o.edgeRows = 0 then
      { found with suppressed := found.suppressed ++ [o.start] }
    else
      { found with
        problems := problems.foldl addProblem found.problems
        claimed := found.claimed ++ o.corners }

/-- What several outlines amount to, in their order. -/
def ofOutlines (outlines : List Outline) : Detection := outlines.foldl add empty

end Detection

namespace Grid

/-- The corners that may be the top left corner of a box. -/
def candidates (g : Grid) : List Position :=
  (g.positions .corner).filter fun p => g.lists .horizontal (p.right 1)

/-- The boxes of a drawing and what is wrong with the others. -/
def detect (g : Grid) (radius : Int) : Detection :=
  .ofOutlines (g.candidates.map (g.outline radius))

/-- The rows inside a rectangle, its edges left out. -/
def innerRows (b : Bounds) : List Int :=
  (List.range (b.bottom - b.top - 1).toNat).map fun i : Nat => b.top + 1 + (i : Int)

/-- Whether a row is a divider of a rectangle: there is a column inside, and a divider piece stands
in every one. -/
def isDividerRow (g : Grid) (b : Bounds) (row : Int) : Bool :=
  let inside := b.right - b.left - 1
  let run := g.scan .right ⟨row, b.left + 1⟩ fun cell => decide (cell.kind = .divider)
  decide (0 < inside) && decide (inside ≤ run.length)

/-- The rows inside a rectangle that are dividers. Without a column inside there are none, however
many rows there are. -/
def dividerRows (g : Grid) (b : Bounds) : List Int :=
  if b.right - b.left ≤ 1 then [] else (innerRows b).filter (g.isDividerRow b)

end Grid

end Wireframe
