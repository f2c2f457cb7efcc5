import Wireframe.Element
import Wireframe.Ratio

/-!
# Alignment

Where content stands in its container, judged by the share of free space on either side. Content
close to one side with room on the other belongs to that side; content with about as much room on
both sides stands in the middle; anything else counts as left.

`ofContent` is `calculate_alignment` of `alignment` and `ofSpan` is `span_alignment`; `hugging`,
`far` and `tolerance` are `LEFT_THRESHOLD`, `FAR_THRESHOLD` and `CENTER_TOLERANCE`.
-/

namespace Wireframe.Alignment

/-- Content with less room than this hugs a side. -/
def hugging : Rat := Ratio.quotient 1 5

/-- A side with more room than this is far. -/
def far : Rat := Ratio.quotient 3 10

/-- Shares that differ by less than this are about the same. -/
def tolerance : Rat := Ratio.quotient 3 20

/-- The alignment by the free columns on either side and the columns there are. -/
def ofSpace (left right width : Int) : Alignment :=
  let l := Ratio.quotient left width
  let r := Ratio.quotient right width
  if l < hugging ∧ far < r then .left
  else if r < hugging ∧ far < l then .right
  else if Ratio.distance l r < tolerance then .center
  else .left

/-- The free columns to the left of content at column `col`. -/
def leftSpace (col : Int) (container : Bounds) : Int := col - (container.left + 1)

/-- The free columns to the right of content of a given length at column `col`. -/
def rightSpace (col : Int) (length : Nat) (container : Bounds) : Int :=
  container.right - 1 - (col + length) + 1

/-- The alignment of content of a given length at column `col`. The container's border belongs to
its bounds. A container that is too narrow aligns all content to the left. -/
def ofContent (length : Nat) (col : Int) (container : Bounds) : Alignment :=
  let width := container.right - container.left - 2
  if width ≤ 0 then .left
  else ofSpace (leftSpace col container) (rightSpace col length container) width

/-- The alignment of the columns from `left` to `right`, both included. -/
def ofSpan (left right : Int) (container : Bounds) : Alignment :=
  ofContent (right - left + 1).toNat left container

end Wireframe.Alignment

namespace Wireframe

/-- How an element is aligned. -/
inductive AlignmentRule where
  /-- By the free space around it. -/
  | byPosition
  /-- To the left wherever it stands. -/
  | alwaysLeft
  deriving DecidableEq

/-- The alignment of content under a rule. -/
def AlignmentRule.align (rule : AlignmentRule) (content : Line) (p : Position)
    (container : Bounds) : Alignment :=
  match rule with
  | .byPosition => .ofContent content.length p.col container
  | .alwaysLeft => .left

end Wireframe
