import Wireframe.Content.Recognizer
import Wireframe.Content.Segment
import Wireframe.Detection
import Wireframe.Document
import Wireframe.Scene.Block

/-!
# Content

Reading the inside of boxes as elements. The rows inside a box are read from top to bottom. Rows
that a box inside covers belong to that box; a divider row, a blank row and any other row give one
element each. Boxes that stand side by side are then put together into rows.

`Reader.scene` is `SemanticParser.parse_scene` of `semantic` and `Reader.box` is its `box_element`,
with `interiorRow` for what that does on one row inside the box. What is left of a row is read by
`Reader.row`, which is `_parse_row`; `syntaxProblem` is `_check_syntax`, and boxes side by side are
put together by `Element.gatherRows`, which is `group_rows`.
-/

namespace Wireframe

/-- What reading gave: elements, and the problems on the way. -/
structure Reading where
  /-- The elements from top to bottom. -/
  elements : List Element
  /-- The problems in the order in which they were met. -/
  problems : List Diagnostic

namespace Reading

/-- Nothing read. -/
def empty : Reading := ⟨[], []⟩

/-- One reading after another. -/
def append (a b : Reading) : Reading := ⟨a.elements ++ b.elements, a.problems ++ b.problems⟩

/-- Several readings after one another. -/
def concat (rs : List Reading) : Reading := rs.foldr append empty

/-- The elements of several readings are those of each in turn. -/
theorem elements_concat (rs : List Reading) : (concat rs).elements = rs.flatMap (·.elements) := by
  induction rs with
  | nil => rfl
  | cons r rs ih => simpa [concat, append] using ih

/-- The problems of several readings are those of each in turn. -/
theorem problems_concat (rs : List Reading) : (concat rs).problems = rs.flatMap (·.problems) := by
  induction rs with
  | nil => rfl
  | cons r rs ih => simpa [concat, append] using ih

end Reading

/-! ## Rows of boxes -/

namespace Element

/-- Whether the second of two elements continues a row of boxes: both are boxes with the same top
and bottom, and the second begins where the first has ended or further right. -/
def continuesRow (left right : Element) : Bool :=
  match left.boxBounds?, right.boxBounds? with
  | some a, some b =>
    decide (a.top = b.top) && decide (a.bottom = b.bottom) && decide (a.right ≤ b.left)
  | _, _ => false

/-- The alignment of boxes side by side in their container. -/
def rowAlignment (container : Bounds) (run : List Element) : Alignment :=
  match run.head?.bind boxBounds?, run.getLast?.bind boxBounds? with
  | some first, some last => .ofSpan first.left last.right container
  | _, _ => .left

/-- A run of elements: a row if there are several. -/
def ofRun (container : Bounds) (run : List Element) : List Element :=
  match run with
  | _ :: _ :: _ => [.row run (rowAlignment container run)]
  | _ => run

/-- Elements with every run of boxes side by side put together into a row. -/
def gatherRows (container : Bounds) (elements : List Element) : List Element :=
  (elements.splitBy continuesRow).flatMap (ofRun container)

end Element

/-! ## Single rows -/

/-- What reading needs to know: the drawing, how many lines of the text are in front of it, and the
recognizers. -/
structure Reader where
  /-- The drawing. -/
  grid : Grid
  /-- The number of lines in front of it. -/
  offset : Int
  /-- The recognizers. -/
  recognizers : List Recognizer

namespace Reader

/-- A position in the text. -/
def place (r : Reader) (row col : Int) : Position := ⟨row + r.offset, col⟩

/-- The problem with content that cannot be what it begins as. -/
def syntaxProblem (content : Line) (p : Position) : List Diagnostic :=
  let text := String.ofList content
  if content.head? = some '[' ∧ ']' ∉ content then [.syntaxError .unclosedBracket p text]
  else if (Form.bracketed? content).any Text.allBlank then [.syntaxError .emptyButton p text]
  else if content.head? = some '#' ∧ Form.field? content = none then
    [.syntaxError .invalidElement p text]
  else []

/-- The element that content at a place of the drawing is read as. -/
def element (r : Reader) (content : Line) (row col : Int) (container : Bounds) : Element :=
  (Recognizer.readWith r.recognizers content ⟨row, col⟩ container).shifted r.offset

/-- A row with content. Several bracketed or quoted texts that are all buttons and links make up a
row of controls; any other content is one element. -/
def contentRow (r : Reader) (row : Int) (b : Bounds) (text : Line) : Reading :=
  let trimmed := Text.trim text
  let col := b.left + 1 + (text.length - (Text.trimLeft text).length : Nat)
  let whole := r.element trimmed row col b
  let segments := Segment.ofLine text
  let columnOf (s : Segment) : Int := b.left + 1 + s.start
  if 2 ≤ segments.length ∧ segments.all Segment.opensControl = true then
    let problems := segments.flatMap fun s => syntaxProblem s.text (r.place row (columnOf s))
    let parts := segments.map fun s => r.element s.text row (columnOf s) b
    -- The row spans the columns from its first segment to the end of its last one.
    if parts.all Element.isControl then
      let last := (segments.getLast?.map fun s => columnOf s + s.text.length - 1).getD col
      ⟨[.row parts (.ofSpan col last b)], problems⟩
    else ⟨[whole], problems⟩
  else ⟨[whole], syntaxProblem trimmed (r.place row col)⟩

/-- A row inside a box that no box inside it covers. -/
def row (r : Reader) (row : Int) (b : Bounds) : Reading :=
  let text := r.grid.rowChars row (b.left + 1) (some b.right)
  if Text.allBlank text then ⟨[.spacer (r.place row (b.left + 1))], []⟩
  else r.contentRow row b text

/-! ## Boxes -/

/-- A box inside a box, with what it was read as. -/
structure Inner where
  /-- Its rectangle in the drawing. -/
  bounds : Bounds
  /-- What it was read as. -/
  reading : Reading

/-- What a row inside a box gives: the boxes that begin on it from left to right, and the row
itself unless a box inside covers it. -/
def interiorRow (r : Reader) (b : Bounds) (inner : List Inner) (row : Int) : Reading :=
  let starting := sortBy (fun x y => decide (x.bounds.left ≤ y.bounds.left))
    (inner.filter fun i => decide (i.bounds.top = row))
  let begun := Reading.concat (starting.map (·.reading))
  -- A box that begins on this row also covers it, so nothing of it is read twice.
  if inner.any fun i => decide (i.bounds.top ≤ row) && decide (row ≤ i.bounds.bottom) then begun
  else if r.grid.isDividerRow b row then
    begun.append ⟨[.divider (r.place row (b.left + 1))], []⟩
  else begun.append (r.row row b)

/-- A box, given what the boxes inside it were read as. A box with nothing but blank rows inside is
empty. -/
def assemble (r : Reader) (box : Box) (inner : List Inner) : Reading :=
  let b := box.bounds
  let inside := Reading.concat ((Grid.innerRows b).map (r.interiorRow b inner))
  let elements := if inside.elements.all Element.isSpacer then [] else inside.elements
  ⟨[.box (b.shifted r.offset) box.name (Element.gatherRows b elements)], inside.problems⟩

mutual

/-- A box with the boxes inside it. -/
def box (r : Reader) : BoxTree → Reading
  | ⟨b, children⟩ => r.assemble b (boxes r children)

/-- The boxes inside a box. -/
def boxes (r : Reader) : List BoxTree → List Inner
  | [] => []
  | t :: rest => ⟨t.box.bounds, r.box t⟩ :: boxes r rest

end

/-- The rectangle of a whole drawing, as a container with its border outside the left edge. -/
def canvas (g : Grid) : Bounds :=
  ⟨0, -1, max ((g.height : Int) - 1) 0, g.width⟩

/-- The scene of a block, given its boxes in reading order, and the problems in their content. -/
def scene (r : Reader) (block : Scene.Block) (roots : List BoxTree) : Scene × List Diagnostic :=
  let reading := Reading.concat (roots.map r.box)
  ({ id := block.sceneId
     title := block.title
     transition := block.transition
     device := block.device
     elements := Element.gatherRows (canvas r.grid) reading.elements
     line := block.sceneLine }, reading.problems)

end Reader

end Wireframe
