import Wireframe.Text.Decimal

/-!
# Positions

Places in a drawing, and the four straight ways through it.

`Position` is the class of that name in `models`, and a `Heading` one of the four directions in
which `Grid` of `grid` scans.
-/

namespace Wireframe

/-- A place in a drawing. Rows count downwards and columns to the right, both from zero. Places
outside the drawing, also with negative numbers, are positions too. -/
@[ext] structure Position where
  /-- The row. -/
  row : Int
  /-- The column. -/
  col : Int
  deriving DecidableEq

/-- A straight way through a drawing. -/
inductive Heading where
  /-- Along the row, to growing columns. -/
  | right
  /-- Along the row, to falling columns. -/
  | left
  /-- Along the column, to falling rows. -/
  | up
  /-- Along the column, to growing rows. -/
  | down
  deriving DecidableEq

namespace Position

/-- The position `n` columns to the right. -/
def right (p : Position) (n : Int) : Position := ⟨p.row, p.col + n⟩

/-- The position `n` columns to the left. -/
def left (p : Position) (n : Int) : Position := ⟨p.row, p.col - n⟩

/-- The position `n` rows further down. -/
def down (p : Position) (n : Int) : Position := ⟨p.row + n, p.col⟩

/-- The position `n` rows further up. -/
def up (p : Position) (n : Int) : Position := ⟨p.row - n, p.col⟩

/-- The position after `n` steps in a heading. -/
def step (p : Position) : Heading → Int → Position
  | .right, n => p.right n
  | .left, n => p.left n
  | .up, n => p.up n
  | .down, n => p.down n

/-- The position in a text that has `rows` more lines in front. -/
def shifted (p : Position) (rows : Int) : Position := ⟨p.row + rows, p.col⟩

/-- Reading order: by row, then by column. -/
def before (p q : Position) : Bool :=
  decide (p.row < q.row) || (decide (p.row = q.row) && decide (p.col ≤ q.col))

/-- A position in writing. -/
def text (p : Position) : String :=
  "(" ++ Text.decimal p.row ++ "," ++ Text.decimal p.col ++ ")"

/-- A position in writing, its parts named. -/
def described (p : Position) : String :=
  "Position(row=" ++ Text.decimal p.row ++ ", col=" ++ Text.decimal p.col ++ ")"

/-- No steps lead nowhere. -/
@[simp] theorem step_zero (p : Position) (h : Heading) : p.step h 0 = p := by
  cases h <;> simp [step, right, left, up, down]

/-- Steps in one heading add up. -/
theorem step_add (p : Position) (h : Heading) (m n : Int) :
    p.step h (m + n) = (p.step h m).step h n := by
  cases h <;> simp [step, right, left, up, down] <;> omega

/-- No lines in front move nothing. -/
@[simp] theorem shifted_zero (p : Position) : p.shifted 0 = p := by simp [shifted]

/-- Lines in front add up. -/
theorem shifted_add (p : Position) (m n : Int) :
    p.shifted (m + n) = (p.shifted m).shifted n := by
  simp [shifted, Int.add_assoc]

end Position

end Wireframe
