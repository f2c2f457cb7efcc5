import Wireframe.Bounds
import Wireframe.Scalar

/-!
# Diagnostics

A problem found in a drawing: its kind, where it is, and details that depend on the kind. Details
are kept under names, so that a diagnostic made elsewhere may lack some of them; the makers in this
module give every detail that the kind's message and repair need.

`Diagnostic` is the class of that name in `errors` and `Diagnostic.Kind` is `DiagnosticKind`; the
makers are the functions from `unclosed_box` to `invalid_interaction`, and `bySeverity` is
`split_by_severity`.
-/

namespace Wireframe

/-- How grave a problem is. -/
inductive Severity where
  /-- The drawing is rejected. -/
  | error
  /-- The drawing is accepted. -/
  | warning
  deriving DecidableEq

/-- The kinds of problems. -/
inductive Diagnostic.Kind where
  /-- An edge of a box does not reach its corner. -/
  | unclosedBox
  /-- The top and bottom edges of a box do not match. -/
  | mismatchedWidth
  /-- A piece of a vertical edge stands in the wrong column. -/
  | misalignedPipe
  /-- Two boxes overlap without one holding the other. -/
  | overlappingBoxes
  /-- A content line is no element. -/
  | invalidElement
  /-- A bracket is opened and not closed. -/
  | unclosedBracket
  /-- A button has no label. -/
  | emptyButton
  /-- A text that describes interactions cannot be read. -/
  | invalidInteraction
  /-- An interaction names an element that does not exist. -/
  | unknownElementId
  /-- Two scenes have the same identifier. -/
  | duplicateSceneId
  /-- A line holds a tab. -/
  | unusualSpacing
  /-- Boxes are nested deeper than recommended. -/
  | deepNesting
  deriving DecidableEq

/-- An edge of a box. -/
inductive Edge where
  /-- The top edge. -/
  | top
  /-- The right edge. -/
  | right
  /-- The bottom edge. -/
  | bottom
  /-- The left edge. -/
  | left
  deriving DecidableEq

/-- What is stored under one name of a diagnostic. -/
inductive Detail where
  /-- A position in the drawing. -/
  | position (p : Position)
  /-- A rectangle in the drawing. -/
  | bounds (b : Bounds)
  /-- An edge of a box. -/
  | edge (e : Edge)
  /-- A simple value. -/
  | scalar (s : Scalar)
  deriving DecidableEq

/-- Details under their names, each name once. -/
abbrev Details := List (String × Detail)

/-- A problem found in a drawing. -/
structure Diagnostic where
  /-- What is wrong. -/
  kind : Diagnostic.Kind
  /-- Where it is wrong. The row is a line of the text. -/
  position : Position
  /-- What the kind needs to say more. -/
  details : Details
  /-- An excerpt of the text, taken when the problem was found. -/
  snippet : Option String
  deriving DecidableEq

/-- A detail that is needed and not there. -/
structure MissingDetail where
  /-- The name it is looked up by. -/
  key : String
  deriving DecidableEq

namespace Edge

/-- The name of an edge. -/
def name : Edge → String
  | .top => "top"
  | .right => "right"
  | .bottom => "bottom"
  | .left => "left"

/-- An edge in writing, as one of the four directions. -/
def text : Edge → String
  | .top => "Direction.TOP"
  | .right => "Direction.RIGHT"
  | .bottom => "Direction.BOTTOM"
  | .left => "Direction.LEFT"

/-- An edge in writing, together with its name. -/
def described (e : Edge) : String := "<" ++ e.text ++ ": " ++ Text.quoted e.name ++ ">"

end Edge

namespace Severity

/-- The name of a severity. -/
def name : Severity → String
  | .error => "error"
  | .warning => "warning"

end Severity

namespace Diagnostic.Kind

/-- Style problems are warnings and all others are errors. -/
def severity : Diagnostic.Kind → Severity
  | .unusualSpacing => .warning
  | .deepNesting => .warning
  | _ => .error

/-- The name of a kind. -/
def name : Diagnostic.Kind → String
  | .unclosedBox => "UnclosedBox"
  | .mismatchedWidth => "MismatchedWidth"
  | .misalignedPipe => "MisalignedPipe"
  | .overlappingBoxes => "OverlappingBoxes"
  | .invalidElement => "InvalidElement"
  | .unclosedBracket => "UnclosedBracket"
  | .emptyButton => "EmptyButton"
  | .invalidInteraction => "InvalidInteractionDSL"
  | .unknownElementId => "UnknownElementId"
  | .duplicateSceneId => "DuplicateSceneId"
  | .unusualSpacing => "UnusualSpacing"
  | .deepNesting => "DeepNesting"

/-- The names of the details of a kind, in the order in which they are kept. -/
def detailNames : Diagnostic.Kind → List String
  | .unclosedBox => ["direction", "start"]
  | .mismatchedWidth =>
    ["top_width", "bottom_width", "top_right_col", "bottom_row", "bottom_left_col",
      "bottom_right_col"]
  | .misalignedPipe => ["expected_col", "actual_col"]
  | .overlappingBoxes => ["box1", "box2"]
  | .invalidElement => ["content"]
  | .unclosedBracket => ["content"]
  | .emptyButton => ["content"]
  | .invalidInteraction => ["message"]
  | .unknownElementId => ["element_id"]
  | .duplicateSceneId => ["scene_id", "first_position"]
  | .unusualSpacing => []
  | .deepNesting => ["depth", "max_depth"]

end Diagnostic.Kind

namespace Detail

/-- A detail that is a number. -/
def number (n : Int) : Detail := .scalar (.number n)

/-- A detail that is a text. -/
def text (s : String) : Detail := .scalar (.text s)

/-- A detail in writing, a text as it is. -/
def shown : Detail → String
  | .position p => p.text
  | .bounds b => b.text
  | .edge e => e.text
  | .scalar s => s.shown

/-- A detail in writing, a text between quotation marks and the parts of anything else named. -/
def described : Detail → String
  | .position p => p.described
  | .bounds b => b.described
  | .edge e => e.described
  | .scalar s => s.quoted

/-- The integer a detail counts as. -/
def number? : Detail → Option Int
  | .scalar s => s.numeric?
  | _ => none

/-- The text a detail is. -/
def text? : Detail → Option String
  | .scalar (.text s) => some s
  | _ => none

/-- Whether one detail is less than another: numbers by their value, texts by the order of their
characters. No other details can be compared. -/
def less? (a b : Detail) : Option Bool :=
  match a.text?, b.text? with
  | some s, some t => some (decide (s < t))
  | _, _ => match a.number?, b.number? with
    | some m, some n => some (decide (m < n))
    | _, _ => none

/-- Equality of details, where a truth value equals the integer it counts as. -/
def same : Detail → Detail → Bool
  | .scalar a, .scalar b => a.same b
  | a, b => decide (a = b)

/-- The names of details that hold a row end in this. -/
def rowSuffix : List Char := ['_', 'r', 'o', 'w']

/-- The detail in a text that has `rows` more lines in front. Positions, rectangles and the numbers
under the name of a row move along. -/
def shifted (key : String) (rows : Int) : Detail → Detail
  | .position p => .position (p.shifted rows)
  | .bounds b => .bounds (b.shifted rows)
  | .edge e => .edge e
  | .scalar s =>
    if rowSuffix.isSuffixOf key.toList then
      match s.numeric? with
      | some n => .number (n + rows)
      | none => .scalar s
    else .scalar s

end Detail

namespace Details

/-- The detail under a name. -/
def get (details : Details) (key : String) : Except MissingDetail Detail :=
  match details.lookup key with
  | some detail => .ok detail
  | none => .error ⟨key⟩

/-- The integer under a name. -/
def getNumber (details : Details) (key : String) : Except MissingDetail Int :=
  match (details.lookup key).bind Detail.number? with
  | some n => .ok n
  | none => .error ⟨key⟩

/-- The position under a name. -/
def getPosition (details : Details) (key : String) : Except MissingDetail Position :=
  match details.lookup key with
  | some (.position p) => .ok p
  | _ => .error ⟨key⟩

/-- The edge under a name. -/
def getEdge (details : Details) (key : String) : Except MissingDetail Edge :=
  match details.lookup key with
  | some (.edge e) => .ok e
  | _ => .error ⟨key⟩

/-- Whether two lists hold the same details under the same names, in any order. -/
def same (a b : Details) : Bool :=
  decide (a.length = b.length) && a.all fun (key, detail) =>
    (b.lookup key).any fun other => detail.same other

end Details

namespace Diagnostic

/-- How grave the problem is. -/
def severity (d : Diagnostic) : Severity := d.kind.severity

/-- Whether the problem makes the drawing be rejected. -/
def isError (d : Diagnostic) : Bool := decide (d.severity = .error)

/-- The line of the problem, counted from one. -/
def line (d : Diagnostic) : Int := d.position.row + 1

/-- The column of the problem, counted from one. -/
def column (d : Diagnostic) : Int := d.position.col + 1

/-- The problem in a text that has `rows` more lines in front. -/
def shifted (d : Diagnostic) (rows : Int) : Diagnostic :=
  if rows = 0 then d
  else
    { d with
      position := d.position.shifted rows
      details := d.details.map fun (key, detail) => (key, detail.shifted key rows) }

/-- Whether two diagnostics say the same. -/
def same (a b : Diagnostic) : Bool :=
  decide (a.kind = b.kind) && decide (a.position = b.position) &&
    Details.same a.details b.details && decide (a.snippet = b.snippet)

/-! ## Makers -/

/-- A problem with details under the names that its kind gives them. -/
def ofDetails (kind : Diagnostic.Kind) (position : Position) (values : List Detail) :
    Diagnostic where
  kind := kind
  position := position
  details := kind.detailNames.zip values
  snippet := none

/-- An edge of the box at `start` that ends before its corner, at `position`. -/
def unclosedBox (edge : Edge) (position start : Position) : Diagnostic :=
  ofDetails .unclosedBox position [.edge edge, .position start]

/-- A bottom edge that does not lie under the top edge of the box at `start`. -/
def mismatchedWidth (start : Position)
    (topWidth bottomWidth topRightCol bottomRow bottomLeftCol bottomRightCol : Int) : Diagnostic :=
  ofDetails .mismatchedWidth start
    [.number topWidth, .number bottomWidth, .number topRightCol, .number bottomRow,
      .number bottomLeftCol, .number bottomRightCol]

/-- A piece of a vertical edge at `position` that belongs into another column. -/
def misalignedPipe (position : Position) (expectedCol actualCol : Int) : Diagnostic :=
  ofDetails .misalignedPipe position [.number expectedCol, .number actualCol]

/-- Two boxes that overlap. -/
def overlappingBoxes (box1 box2 : Bounds) : Diagnostic :=
  ofDetails .overlappingBoxes box2.topLeft [.bounds box1, .bounds box2]

/-- A box at `position` that lies too deep. -/
def deepNesting (position : Position) (depth maxDepth : Int) : Diagnostic :=
  ofDetails .deepNesting position [.number depth, .number maxDepth]

/-- Content at `position` that cannot be read. The kind is one of content. -/
def syntaxError (kind : Diagnostic.Kind) (position : Position) (content : String) : Diagnostic where
  kind := kind
  position := position
  details := [("content", .text content)]
  snippet := some content

/-- A line with a tab, the first one at `position`. -/
def unusualSpacing (position : Position) (line : String) : Diagnostic :=
  { ofDetails .unusualSpacing position [] with snippet := some line }

/-- A scene at `position` whose identifier was taken by the scene at `first`. -/
def duplicateSceneId (sceneId : String) (position first : Position) : Diagnostic :=
  ofDetails .duplicateSceneId position [.text sceneId, .position first]

/-- An interaction for an element that does not exist. -/
def unknownElementId (elementId : String) (position : Position) : Diagnostic :=
  ofDetails .unknownElementId position [.text elementId]

/-- A text of interactions that cannot be read. -/
def invalidInteraction (message : String) (position : Position) : Diagnostic :=
  ofDetails .invalidInteraction position [.text message]

/-- No lines in front move nothing. -/
@[simp] theorem shifted_zero (d : Diagnostic) : d.shifted 0 = d := by simp [shifted]

/-- Moving keeps the kind. -/
@[simp] theorem kind_shifted (d : Diagnostic) (rows : Int) : (d.shifted rows).kind = d.kind := by
  unfold shifted
  split <;> rfl

/-- Moving keeps the severity. -/
@[simp] theorem isError_shifted (d : Diagnostic) (rows : Int) :
    (d.shifted rows).isError = d.isError := by
  unfold shifted
  split <;> rfl

end Diagnostic

/-- The errors and the warnings among diagnostics, each in their order. -/
def bySeverity (ds : List Diagnostic) : List Diagnostic × List Diagnostic :=
  (ds.filter (·.isError), ds.filter fun d => !d.isError)

end Wireframe
