import Wireframe.Box
import Wireframe.Diagnostic
import Wireframe.Grid

/-!
# Outlines

Following the outline of one box from its top left corner: along the top edge, down the right edge,
back along the bottom edge and up the left edge. A missing corner ends the walk. A piece of a
vertical edge that stands beside its column is noted and the walk goes on, as it does when the
bottom edge does not lie under the top edge, so that one walk names all that is wrong with a box.

`Grid.outline` is `BoxTracer.trace_box` of `shapes` and an `Outline` its `TraceResult`. The right
edge is followed by `descend`, which is `_walk_right_edge`, and the left edge by `climb`, which is
`_walk_left_edge`; where a piece is missing, both look for another one by `nearestPipe`, which is
`_find_pipe`.
-/

namespace Wireframe

namespace Cell

/-- The cells between the corners of a top edge, where the name of the box may stand. -/
def isTopEdge : Cell → Bool
  | .horizontal => true
  | .ordinary _ => true
  | .space => true
  | _ => false

/-- The cells between the corners of a bottom edge. -/
def isBottomEdge : Cell → Bool
  | .horizontal => true
  | .divider => true
  | _ => false

end Cell

/-! ## Misplaced pieces of a vertical edge -/

/-- The columns in which a piece of a vertical edge is looked for: all, or those on one side of the
opposite edge. -/
inductive ColumnLimit where
  /-- All columns. -/
  | anywhere
  /-- The columns to the right of a column. -/
  | rightOf (col : Int)
  /-- The columns to the left of a column. -/
  | leftOf (col : Int)
  deriving DecidableEq

namespace ColumnLimit

/-- Whether a column may be chosen. -/
def admits : ColumnLimit → Int → Bool
  | .anywhere, _ => true
  | .rightOf limit, col => decide (limit < col)
  | .leftOf limit, col => decide (col < limit)

/-- Whether a column lies on the side of the expected one that points away from the box. A search
to the left of the opposite edge is one for a left edge. -/
def isOutward : ColumnLimit → Int → Int → Bool
  | .leftOf _, expected, col => decide (col < expected)
  | _, expected, col => decide (expected < col)

end ColumnLimit

/-- The better of two columns for a piece of a vertical edge: the nearer one, and at the same
distance the one that points away from the box. -/
def nearerPipe (limit : ColumnLimit) (expected : Int) : Option Int → Int → Option Int
  | none, col => some col
  | some best, col =>
    let distance := (col - expected).natAbs
    let bestDistance := (best - expected).natAbs
    if distance < bestDistance ∨
        (distance = bestDistance ∧ limit.isOutward expected col = true) then some col
    else some best

namespace Grid

/-- The columns of the pieces of vertical edges on a row within `radius` of the expected column,
without that column itself. -/
def pipesNear (g : Grid) (radius row expected : Int) (limit : ColumnLimit) : List Int :=
  ((g.positionsIn .vertical
      ⟨row, max 0 (expected - radius), row, expected + radius⟩).map (·.col)).filter
    fun col => decide (col ≠ expected) && limit.admits col

/-- The column of the piece of a vertical edge on a row that is nearest to the expected column, if
there is one within `radius`. -/
def nearestPipe (g : Grid) (radius row expected : Int) (limit : ColumnLimit) : Option Int :=
  if radius ≤ 0 then none
  else (g.pipesNear radius row expected limit).foldl (nearerPipe limit expected) none

end Grid

/-! ## The right edge -/

/-- How a walk down a right edge ended. -/
inductive RightEnd where
  /-- At the bottom right corner, in the column of the edge. -/
  | corner (bottomRight : Position)
  /-- At a bottom edge that was found from its left corner, with both its corners. -/
  | fromLeft (bottomLeft bottomRight : Position)
  /-- Without a bottom right corner, with the corners found on the way. -/
  | unclosed (problem : Diagnostic) (corners : List Position)

/-- A walk down a right edge. -/
structure RightEdge where
  /-- The misplaced pieces, from top to bottom. -/
  misplaced : List Diagnostic
  /-- The number of rows below the top edge that were walked. -/
  rows : Nat
  /-- How it ended. -/
  ending : RightEnd

namespace Grid

/-- The end of a right edge on a row that holds neither a piece of it nor its corner. If the left
corner of the bottom edge stands on that row, the bottom edge is followed from there. -/
def rightEndFromLeft (g : Grid) (start p : Position) : RightEnd :=
  let bottomLeft : Position := ⟨p.row, start.col⟩
  if g.cellIs bottomLeft .corner then
    let edge := g.scan .right (bottomLeft.right 1) Cell.isBottomEdge
    let bottomRight := bottomLeft.right (edge.length + 1)
    if g.cellIs bottomRight .corner then .fromLeft bottomLeft bottomRight
    else .unclosed (.unclosedBox .bottom (bottomRight.left 1) start) [bottomLeft]
  else .unclosed (.unclosedBox .right p start) []

/-- The walk down the right edge under `topRight`, with `walked` rows behind it and at most `rows`
rows ahead. A box needs at least one row inside. -/
def descend (g : Grid) (radius : Int) (start topRight : Position) : Nat → Nat → RightEdge
  | 0, walked => ⟨[], walked, .unclosed (.unclosedBox .right (topRight.down walked) start) []⟩
  | rows + 1, walked =>
    let p := topRight.down (walked + 1)
    match g.get? p with
    | none => ⟨[], walked, .unclosed (.unclosedBox .right (topRight.down walked) start) []⟩
    | some .vertical => descend g radius start topRight rows (walked + 1)
    -- A corner right below the first one would close a box with nothing inside.
    | some .corner =>
      if walked = 0 then ⟨[], walked, .unclosed (.unclosedBox .right topRight start) []⟩
      else ⟨[], walked, .corner p⟩
    | some _ =>
      match g.nearestPipe radius p.row topRight.col (.rightOf start.col) with
      | some actual =>
        let below := descend g radius start topRight rows (walked + 1)
        { below with
          misplaced := .misalignedPipe ⟨p.row, actual⟩ topRight.col actual :: below.misplaced }
      | none => ⟨[], walked, g.rightEndFromLeft start p⟩

/-! ## The left edge -/

/-- What is wrong with the left edge under `start`, from `rows` rows below it upwards. -/
def climb (g : Grid) (radius : Int) (start topRight : Position) : Nat → List Diagnostic
  | 0 => []
  | rows + 1 =>
    let p := start.down (rows + 1)
    if g.cellIs p .vertical then climb g radius start topRight rows
    else match g.nearestPipe radius p.row start.col (.leftOf topRight.col) with
      | some actual =>
        .misalignedPipe ⟨p.row, actual⟩ start.col actual :: climb g radius start topRight rows
      | none => [.unclosedBox .left p start]

end Grid

/-! ## The whole outline -/

/-- What following an outline found. -/
structure Outline where
  /-- The top left corner. -/
  start : Position
  /-- The box, or what is wrong with it. -/
  outcome : Except (List Diagnostic) Box
  /-- The corners that were reached, without the first. -/
  corners : List Position
  /-- The number of rows of the right edge below the top edge that were walked. -/
  edgeRows : Nat

namespace Outline

/-- The box, if the outline is that of one. -/
def box? (o : Outline) : Option Box :=
  match o.outcome with
  | .ok box => some box
  | .error _ => none

/-- What is wrong with the outline. -/
def problems (o : Outline) : List Diagnostic :=
  match o.outcome with
  | .ok _ => []
  | .error problems => problems

/-- The name in a top edge: its text without dashes at the ends and blanks inside them. -/
def nameOf (edge : Line) : Option String :=
  match Text.trim (Text.trimChar '-' edge) with
  | [] => none
  | name => some (String.ofList name)

end Outline

namespace Grid

/-- What is wrong with the place of a bottom edge, given its corners. -/
def widthProblem (start topRight bottomLeft bottomRight : Position) : List Diagnostic :=
  let topWidth := topRight.col - start.col
  let bottomWidth := bottomRight.col - bottomLeft.col
  if topWidth ≠ bottomWidth ∨ bottomLeft.col ≠ start.col then
    [.mismatchedWidth start topWidth bottomWidth topRight.col bottomRight.row bottomLeft.col
      bottomRight.col]
  else []

/-- The outline once all four corners are known: the bottom edge has to lie under the top edge and
the left edge has to be drawn. -/
def closeOutline (g : Grid) (radius : Int) (start topRight bottomLeft bottomRight : Position)
    (name : Option String) (right : RightEdge) : Outline :=
  let left := g.climb radius start topRight (bottomRight.row - start.row - 1).toNat
  let problems := right.misplaced ++ widthProblem start topRight bottomLeft bottomRight ++ left
  -- Without a problem the bottom right corner also stands in the column of the right edge.
  { start
    outcome := if problems = [] then
        .ok ⟨⟨start.row, start.col, bottomRight.row, bottomRight.col⟩, name⟩
      else .error problems
    corners := [topRight, bottomRight, bottomLeft]
    edgeRows := right.rows }

/-- The outline of the box whose top left corner is `start`. A misplaced piece of a vertical edge is
looked for within `radius` columns. -/
def outline (g : Grid) (radius : Int) (start : Position) : Outline :=
  let top := g.scan .right (start.right 1) Cell.isTopEdge
  let topRight := start.right (top.length + 1)
  if g.cellIs topRight .corner then
    let name := Outline.nameOf (top.map fun placed => placed.2.toChar)
    let right := g.descend radius start topRight g.height 0
    -- The bottom edge is looked for from the right unless the walk has found it from the left.
    match right.ending with
    | .unclosed problem corners =>
      { start
        outcome := .error (right.misplaced ++ [problem])
        corners := topRight :: corners
        edgeRows := right.rows }
    | .fromLeft bottomLeft bottomRight =>
      g.closeOutline radius start topRight bottomLeft bottomRight name right
    | .corner bottomRight =>
      let bottom := g.scan .left (bottomRight.left 1) Cell.isBottomEdge
      let bottomLeft := bottomRight.left (bottom.length + 1)
      if g.cellIs bottomLeft .corner then
        g.closeOutline radius start topRight bottomLeft bottomRight name right
      else
        { start
          outcome := .error (right.misplaced ++ [.unclosedBox .bottom bottomRight start])
          corners := [topRight]
          edgeRows := right.rows }
  else
    { start
      outcome := .error [.unclosedBox .top start start]
      corners := []
      edgeRows := 0 }

end Grid

end Wireframe
