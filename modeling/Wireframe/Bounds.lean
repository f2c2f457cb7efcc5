import Wireframe.Position

/-!
# Bounds

Rectangles in a drawing, given by the rows and columns of their edges. The edges belong to the
rectangle, so bounds of height zero describe one line.

`Bounds` is the class of that name in `models`, which refuses the edges that `ofEdges` refuses.
-/

namespace Wireframe

/-- A rectangle, its edges included. -/
@[ext] structure Bounds where
  /-- The row of the top edge. -/
  top : Int
  /-- The column of the left edge. -/
  left : Int
  /-- The row of the bottom edge. -/
  bottom : Int
  /-- The column of the right edge. -/
  right : Int
  deriving DecidableEq

/-- Four edges that describe no rectangle, since two of them stand the wrong way round. -/
structure InvalidBounds where
  /-- The edges that were given. -/
  edges : Bounds
  deriving DecidableEq

namespace Bounds

/-- The edges stand the right way round. -/
def Valid (b : Bounds) : Prop := b.top ≤ b.bottom ∧ b.left ≤ b.right

/-- Validity is decided by comparing the edges. -/
instance (b : Bounds) : Decidable b.Valid := by unfold Valid; infer_instance

/-- The rectangle with the given edges. -/
def ofEdges (top left bottom right : Int) : Except InvalidBounds Bounds :=
  let b : Bounds := ⟨top, left, bottom, right⟩
  if b.Valid then .ok b else .error ⟨b⟩

/-- The rectangle between two corners. -/
def ofCorners (topLeft bottomRight : Position) : Except InvalidBounds Bounds :=
  ofEdges topLeft.row topLeft.col bottomRight.row bottomRight.col

/-- The number of columns from the left edge to the right one. -/
def width (b : Bounds) : Int := b.right - b.left

/-- The number of rows from the top edge to the bottom one. -/
def height (b : Bounds) : Int := b.bottom - b.top

/-- Width times height. -/
def area (b : Bounds) : Int := b.width * b.height

/-- The top left corner. -/
def topLeft (b : Bounds) : Position := ⟨b.top, b.left⟩

/-- Whether a position lies in the rectangle or on its edges. -/
def contains (b : Bounds) (p : Position) : Bool :=
  decide (b.top ≤ p.row) && decide (p.row ≤ b.bottom) &&
    (decide (b.left ≤ p.col) && decide (p.col ≤ b.right))

/-- Whether every edge of the second rectangle lies strictly inside the first. -/
def strictlyContains (a b : Bounds) : Bool :=
  decide (a.top < b.top) && decide (a.left < b.left) &&
    decide (b.bottom < a.bottom) && decide (b.right < a.right)

/-- Whether two rectangles share some of their inside. Touching along an edge is no overlap. -/
def overlaps (a b : Bounds) : Bool :=
  decide (a.left < b.right) && decide (b.left < a.right) &&
    decide (a.top < b.bottom) && decide (b.top < a.bottom)

/-- The rectangle in a text that has `rows` more lines in front. -/
def shifted (b : Bounds) (rows : Int) : Bounds := ⟨b.top + rows, b.left, b.bottom + rows, b.right⟩

/-- Reading order of the top left corners: by row, then by column. -/
def before (a b : Bounds) : Bool := a.topLeft.before b.topLeft

/-- A rectangle in writing. -/
def text (b : Bounds) : String :=
  "[" ++ Text.decimal b.top ++ "," ++ Text.decimal b.left ++ " .. " ++
    Text.decimal b.bottom ++ "," ++ Text.decimal b.right ++ "]"

/-- A rectangle in writing, its edges named. -/
def described (b : Bounds) : String :=
  "Bounds(top=" ++ Text.decimal b.top ++ ", left=" ++ Text.decimal b.left ++
    ", bottom=" ++ Text.decimal b.bottom ++ ", right=" ++ Text.decimal b.right ++ ")"

/-- A position is contained when its row and its column lie between the edges. -/
theorem contains_iff (b : Bounds) (p : Position) :
    b.contains p = true ↔
      b.top ≤ p.row ∧ p.row ≤ b.bottom ∧ b.left ≤ p.col ∧ p.col ≤ b.right := by
  simp [contains, and_assoc]

/-- Strict containment keeps all four edges apart. -/
theorem strictlyContains_iff (a b : Bounds) :
    a.strictlyContains b = true ↔
      a.top < b.top ∧ a.left < b.left ∧ b.bottom < a.bottom ∧ b.right < a.right := by
  simp [strictlyContains, and_assoc]

/-- Rectangles overlap when their columns and their rows do. -/
theorem overlaps_iff (a b : Bounds) :
    a.overlaps b = true ↔
      a.left < b.right ∧ b.left < a.right ∧ a.top < b.bottom ∧ b.top < a.bottom := by
  simp [overlaps, and_assoc]

/-- Overlapping is mutual. -/
theorem overlaps_comm (a b : Bounds) : a.overlaps b = b.overlaps a := by
  rw [Bool.eq_iff_iff, overlaps_iff, overlaps_iff]
  omega

/-- No lines in front move nothing. -/
@[simp] theorem shifted_zero (b : Bounds) : b.shifted 0 = b := by simp [shifted]

/-- Moving keeps the edges in order. -/
theorem valid_shifted (b : Bounds) (rows : Int) : (b.shifted rows).Valid ↔ b.Valid := by
  simp only [Valid, shifted]
  omega

end Bounds

/-- What is said of edges that describe no rectangle. -/
def InvalidBounds.message (e : InvalidBounds) : String :=
  "Invalid bounds: top=" ++ Text.decimal e.edges.top ++ " left=" ++ Text.decimal e.edges.left ++
    " bottom=" ++ Text.decimal e.edges.bottom ++ " right=" ++ Text.decimal e.edges.right

end Wireframe
