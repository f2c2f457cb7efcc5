import Wireframe.Diagnostic.Message
import Wireframe.Text.Offset

/-!
# Repair strategies

Each strategy changes a text so that a problem of one kind disappears. It declines when the text
does not look as the problem says, or when more than blanks would have to give way.

The strategies are `TabFix`, `MismatchedWidthFix`, `MisalignedPipeFix` and `UnclosedBracketFix` of
`fixer`; `Strategy.apply` is their `apply` and a `Change` is a `FixedIssue`.
-/

namespace Wireframe.Repair

/-- A change that repairs a problem. -/
structure Change where
  /-- The problem. -/
  problem : Diagnostic
  /-- What was changed. -/
  description : String
  deriving DecidableEq

namespace Change

/-- The line of the change, counted from one. -/
def line (c : Change) : Int := c.problem.line

/-- The column of the change, counted from one. -/
def column (c : Change) : Int := c.problem.column

end Change

/-- A text after a repair. -/
structure Edit where
  /-- The lines of the text. -/
  lines : List Line
  /-- What was changed. -/
  description : String

/-- The ways to repair a text. -/
inductive Strategy where
  /-- Tabs become spaces, `columns` of them each. -/
  | tab (columns : Int)
  /-- The shorter of the top and bottom edges of a box is made longer. -/
  | width
  /-- A misplaced piece of a vertical edge is moved to its column. -/
  | pipe
  /-- A bracket is closed. -/
  | bracket
  deriving DecidableEq

namespace Strategy

/-- The kind of problem that a strategy repairs. -/
def kind : Strategy → Diagnostic.Kind
  | .tab _ => .unusualSpacing
  | .width => .mismatchedWidth
  | .pipe => .misalignedPipe
  | .bracket => .unclosedBracket

/-- Whether a strategy repairs problems of a kind. -/
def repairs (s : Strategy) (kind : Diagnostic.Kind) : Bool := decide (s.kind = kind)

/-- The line of a row, if there is such a row. -/
def line? (lines : List Line) (row : Int) : Option Line :=
  if 0 ≤ row then lines[row.toNat]? else none

/-- The lines with the line of a row replaced. -/
def setLine (lines : List Line) (row : Int) (line : Line) : List Line := lines.set row.toNat line

/-- `n` spaces; none if the number is negative. -/
def spaces (n : Int) : Line := List.replicate n.toNat ' '

/-! ## Tabs -/

/-- A line with every tab replaced by spaces. -/
def expandTabs (width : Int) (line : Line) : Line :=
  line.flatMap fun c => if c = '\t' then spaces width else [c]

/-- The tabs of a line are replaced by spaces. -/
def fixTab (width : Int) (lines : List Line) (d : Diagnostic) : Option Edit := do
  let row := d.position.row
  let line ← line? lines row
  if '\t' ∈ line then
    some ⟨setLine lines row (expandTabs width line),
      "Replaced " ++ Text.decimal (line.count '\t') ++ " tab(s) with spaces on line " ++
        Text.decimal (row + 1)⟩
  else none

/-! ## Misplaced pieces of vertical edges -/

/-- A line with the piece of an edge at `actual` moved to `expected`. Spaces are put in front of a
piece that stands too far left and taken away in front of one too far right, where nothing but
spaces may give way. -/
def movePipe (line : Line) (expected actual : Int) : Option Line :=
  if (line.length : Int) ≤ actual ∨ Text.entry? line actual ≠ some '|' then none
  else if actual < expected then
    some (Text.slice line 0 (some actual) ++ spaces (expected - actual) ++
      Text.slice line actual none)
  else if expected < actual then
    if (Text.slice line expected (some actual)).all (· == ' ') then
      some (Text.slice line 0 (some expected) ++ Text.slice line actual none)
    else none
  else none

/-- A misplaced piece of a vertical edge is moved to its column. -/
def fixPipe (lines : List Line) (d : Diagnostic) : Except MissingDetail (Option Edit) := do
  let row := d.position.row
  let expected ← d.details.get "expected_col"
  let actual ← d.details.get "actual_col"
  return do
    let line ← line? lines row
    let expected ← expected.number?
    let actual ← actual.number?
    let moved ← movePipe line expected actual
    some ⟨setLine lines row moved,
      "Moved '|' on line " ++ Text.decimal (row + 1) ++ " from column " ++
        Text.decimal (actual + 1) ++ " to column " ++ Text.decimal (expected + 1)⟩

/-! ## Brackets -/

/-- A line with the bracket closed behind the content at `col`. Of the spaces behind it up to two
give way, so that what follows stays in its column when there is room. -/
def closeBracket (line : Line) (col : Int) (content : Line) : Option Line :=
  let stop := col + content.length
  if Text.slice line col (some stop) = content then
    let rest := Text.slice line stop none
    let padding := (rest.takeWhile (· == ' ')).length
    -- The two characters put in take the place of up to two spaces.
    some (Text.slice line 0 (some stop) ++ [' ', ']'] ++ rest.drop (min padding 2))
  else none

/-- A bracket is closed. -/
def fixBracket (lines : List Line) (d : Diagnostic) : Except MissingDetail (Option Edit) := do
  let row := d.position.row
  let content ← d.details.get "content"
  return do
    let line ← line? lines row
    let content ← content.text?
    let closed ← closeBracket line d.position.col content.toList
    some ⟨setLine lines row closed, "Added missing ']' on line " ++ Text.decimal (row + 1)⟩

/-! ## Widths -/

/-- The columns between a corner and its new place, the new place included and the old one not. -/
def gapColumns (old new : Int) : List Int :=
  if old < new then (List.range (new - old).toNat).map fun i : Nat => old + 1 + (i : Int)
  else (List.range (old - new).toNat).map fun i : Nat => new + (i : Int)

/-- A line with a corner moved outwards and the way there filled with dashes. Nothing but spaces may
give way. -/
def extendEdge (line : Line) (old new : Int) : Option Line :=
  let padded := Text.padRight (max old new + 1).toNat line
  let gap := gapColumns old new
  if Text.entry? padded old ≠ some '+' then none
  else if gap.any fun i => decide (Text.entry? padded i ≠ some ' ') then none
  else
    -- The old corner becomes a dash of the longer edge.
    let dashed := gap.foldl (fun l i => Text.setEntry l i '-') padded
    some (Text.setEntry (Text.setEntry dashed old '-') new '+')

/-- The lines with a corner on a row moved outwards. -/
def extendRow (lines : List Line) (row old new : Int) : Option (List Line) := do
  let line ← line? lines row
  let extended ← extendEdge line old new
  some (setLine lines row extended)

/-- The corners of a box as a diagnostic of mismatched edges tells them: the rows of both edges, and
for each side the columns of the top and the bottom corner, unless these agree. -/
structure Corners where
  /-- The row of the top edge. -/
  topRow : Int
  /-- The row of the bottom edge. -/
  bottomRow : Int
  /-- The columns of the left corners, if they differ. -/
  left : Option (Int × Int)
  /-- The columns of the right corners, if they differ. -/
  right : Option (Int × Int)

namespace Corners

/-- The columns of two corners, if they differ. Columns that differ have to be numbers. -/
def columns? (top bottom : Detail) : Option (Option (Int × Int)) :=
  if top.same bottom then some none
  else do
    let top ← top.number?
    let bottom ← bottom.number?
    some (some (top, bottom))

/-- The corners of a diagnostic, if they are told in numbers. -/
def ofDiagnostic (d : Diagnostic) : Except MissingDetail (Option Corners) := do
  let topRight ← d.details.get "top_right_col"
  let bottomRow ← d.details.get "bottom_row"
  let bottomLeft ← d.details.get "bottom_left_col"
  let bottomRight ← d.details.get "bottom_right_col"
  return do
    let bottomRow ← bottomRow.number?
    let left ← columns? (.number d.position.col) bottomLeft
    let right ← columns? topRight bottomRight
    some ⟨d.position.row, bottomRow, left, right⟩

/-- The lines with the inner one of the left corners moved under or over the outer one. -/
def alignLeft (c : Corners) (lines : List Line) : Option (List Line) :=
  match c.left with
  | none => some lines
  | some (top, bottom) =>
    if top < bottom then extendRow lines c.bottomRow bottom top
    else extendRow lines c.topRow top bottom

/-- The lines with the inner one of the right corners moved under or over the outer one. -/
def alignRight (c : Corners) (lines : List Line) : Option (List Line) :=
  match c.right with
  | none => some lines
  | some (top, bottom) =>
    if bottom < top then extendRow lines c.bottomRow bottom top
    else extendRow lines c.topRow top bottom

/-- The lines with both edges between the same columns. -/
def align (c : Corners) (lines : List Line) : Option (List Line) :=
  if (line? lines c.topRow).isNone ∨ (line? lines c.bottomRow).isNone then none
  else if c.left = none ∧ c.right = none then none
  else (c.alignLeft lines).bind c.alignRight

end Corners

/-- What is said of an edge that was made longer, if the widths can be compared. -/
def widthDescription (topRow : Int) (topWidth bottomWidth : Detail) : Option String := do
  let bottomShorter ← bottomWidth.less? topWidth
  let topShorter ← topWidth.less? bottomWidth
  some ("Extended " ++ (if bottomShorter then "bottom" else "top") ++
    " border of box at line " ++ Text.decimal (topRow + 1) ++ " to " ++
    (if topShorter then bottomWidth else topWidth).shown ++ " columns")

/-- The shorter of the top and bottom edges of a box is made longer. The widths are needed only for
the description, so they are looked up when there is something to describe. -/
def fixWidth (lines : List Line) (d : Diagnostic) : Except MissingDetail (Option Edit) := do
  match (← Corners.ofDiagnostic d).bind (·.align lines) with
  | none => return none
  | some aligned =>
    let bottomWidth ← d.details.get "bottom_width"
    let topWidth ← d.details.get "top_width"
    return (widthDescription d.position.row topWidth bottomWidth).map fun said => ⟨aligned, said⟩

/-- The edit of a strategy that repairs a problem, unless it declines. -/
def edit (s : Strategy) (lines : List Line) (d : Diagnostic) :
    Except MissingDetail (Option Edit) :=
  match s with
  | .tab columns => .ok (fixTab columns lines d)
  | .width => fixWidth lines d
  | .pipe => fixPipe lines d
  | .bracket => fixBracket lines d

/-- A text after a strategy has repaired a problem, unless it declines. -/
def apply (s : Strategy) (text : String) (d : Diagnostic) :
    Except MissingDetail (Option (String × Change)) := do
  let edited ← s.edit (Text.lines text.toList) d
  return edited.map fun e => (Text.block e.lines, ⟨d, e.description⟩)

end Strategy

end Wireframe.Repair
