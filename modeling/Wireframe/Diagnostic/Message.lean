import Wireframe.Diagnostic

/-!
# Messages

What a diagnostic says. Details are looked up in the order in which they are named here, and the
first one that is missing is reported.

`message` is `Diagnostic.message` of `errors` and `report` is `Diagnostic.format`; `rejection` is
the text of a `ParseError`.
-/

namespace Wireframe

/-- What is said of a missing detail: its name, quoted. -/
def MissingDetail.message (e : MissingDetail) : String := Text.quoted e.key

namespace Diagnostic

/-- What a diagnostic says. -/
def message (d : Diagnostic) : Except MissingDetail String :=
  match d.kind with
  | .unclosedBox => do
    let edge ← d.details.getEdge "direction"
    return "Box is not closed on its " ++ edge.name ++ " edge"
  | .mismatchedWidth => do
    let top ← d.details.get "top_width"
    let bottom ← d.details.get "bottom_width"
    return "Box top edge is " ++ top.shown ++ " wide but bottom edge is " ++ bottom.shown ++ " wide"
  | .misalignedPipe => do
    let expected ← d.details.getNumber "expected_col"
    let actual ← d.details.getNumber "actual_col"
    return "Vertical border '|' expected at column " ++ Text.decimal (expected + 1) ++
      " but found at column " ++ Text.decimal (actual + 1)
  | .overlappingBoxes => do
    let box1 ← d.details.get "box1"
    let box2 ← d.details.get "box2"
    return "Boxes " ++ box1.shown ++ " and " ++ box2.shown ++ " overlap"
  | .invalidElement => do
    let content ← d.details.get "content"
    return "Invalid element: " ++ content.described
  | .unclosedBracket => do
    let content ← d.details.get "content"
    return "Missing closing ']' in " ++ content.described
  | .emptyButton => return "Button has no label"
  | .invalidInteraction => do
    let text ← d.details.get "message"
    return "Invalid interaction syntax: " ++ text.shown
  | .unknownElementId => do
    let elementId ← d.details.get "element_id"
    return "Interaction references unknown element id " ++ elementId.described
  | .duplicateSceneId => do
    let first ← d.details.getPosition "first_position"
    let sceneId ← d.details.get "scene_id"
    return "Scene id " ++ sceneId.described ++ " already defined on line " ++
      Text.decimal (first.row + 1)
  | .unusualSpacing => return "Tab character found; use spaces for alignment"
  | .deepNesting => do
    let depth ← d.details.get "depth"
    let maxDepth ← d.details.get "max_depth"
    return "Boxes are nested " ++ depth.shown ++ " levels deep (more than " ++ maxDepth.shown ++ ")"

/-- The first line of a report: severity, kind, place and message. -/
def header (d : Diagnostic) : Except MissingDetail String := do
  let message ← d.message
  return d.severity.name ++ ": " ++ d.kind.name ++ " at line " ++ Text.decimal d.line ++
    ", column " ++ Text.decimal d.column ++ ": " ++ message

/-! ## Reports with an excerpt -/

/-- The lines of a text within `context` lines of a row. -/
def window (count : Nat) (row context : Int) : List Nat :=
  (List.range count).filter fun i => decide (row - context ≤ i) && decide (i ≤ row + context)

/-- The width of the line numbers in an excerpt: that of the number of its last line. -/
def numberWidth (count : Nat) (row context : Int) : Nat :=
  (Text.digits (min count (row + context + 1))).length

/-- What stands in front of a line in an excerpt: a mark at the diagnostic's own line, and the
line number. -/
def gutter (width : Nat) (row : Int) (i : Nat) : Line :=
  (if (i : Int) = row then '>' else ' ') :: ' ' :: Text.padLeft width (Text.digits (i + 1)) ++
    [' ', '|', ' ']

/-- The lines of an excerpt that belong to one line of the text. The diagnostic's own line is
followed by a caret under its column. -/
def excerptLines (width : Nat) (position : Position) (i : Nat) (line : Line) : List Line :=
  let shown := gutter width position.row i ++ line
  if (i : Int) = position.row then
    [shown, List.replicate (width + 5 + position.col).toNat ' ' ++ ['^']]
  else [shown]

/-- The part of a text around a position, with line numbers and a caret. -/
def excerpt (source : List Line) (position : Position) (context : Int) : List Line :=
  let width := numberWidth source.length position.row context
  (window source.length position.row context).flatMap fun i =>
    match source[i]? with
    | some line => excerptLines width position i line
    | none => []

/-- The report of a diagnostic. With the text it was found in, the lines around it are added;
without, the excerpt that was taken when it was found. -/
def report (d : Diagnostic) (source : Option String) (context : Int) :
    Except MissingDetail String := do
  let header ← d.header
  match source with
  | none => match d.snippet with
    | none => return header
    | some snippet => return header ++ "\n    " ++ snippet
  | some source =>
    let lines := Text.lines (Text.unifyNewlines source.toList)
    if 0 ≤ d.position.row ∧ d.position.row < lines.length then
      return Text.block (header.toList :: excerpt lines d.position context)
    else return header

/-- The report of a diagnostic alone. -/
def text (d : Diagnostic) : Except MissingDetail String := d.report none 1

end Diagnostic

/-- What is said of a drawing that was rejected: the reports of its errors. -/
def rejection (errors : List Diagnostic) (source : Option String) :
    Except MissingDetail String := do
  let reports ← errors.mapM (·.report source 1)
  let body := Text.block (reports.map String.toList)
  return if body = "" then "Parse failed" else "Parse failed:\n" ++ body

end Wireframe
