import Wireframe.Bounds

/-!
# Boxes

A box as it is found in a drawing, and boxes with the boxes they hold.

Both are the `Box` of `models`, which holds its children itself; `BoxTree.depth` is its `depth`.
-/

namespace Wireframe

/-- A box in a drawing. -/
structure Box where
  /-- Its rectangle, the border included. -/
  bounds : Bounds
  /-- The name written into its top edge. -/
  name : Option String
  deriving DecidableEq

/-- A box with the boxes directly inside it. -/
structure BoxTree where
  /-- The box. -/
  box : Box
  /-- The boxes directly inside it. -/
  children : List BoxTree

namespace BoxTree

/-- A box without boxes inside. -/
def leaf (box : Box) : BoxTree := ⟨box, []⟩

/-- Whether there are no boxes inside. -/
def isLeaf (t : BoxTree) : Bool := t.children.isEmpty

mutual

/-- The number of levels below a box, none for a box without boxes inside. -/
def depth : BoxTree → Nat
  | ⟨_, children⟩ => levels children

/-- The number of levels that several boxes side by side make up. -/
def levels : List BoxTree → Nat
  | [] => 0
  | t :: rest => max (depth t + 1) (levels rest)

end

mutual

/-- The boxes of a tree, each before the boxes inside it. -/
def boxes : BoxTree → List Box
  | ⟨box, children⟩ => box :: boxesOfAll children

/-- The boxes of several trees. -/
def boxesOfAll : List BoxTree → List Box
  | [] => []
  | t :: rest => boxes t ++ boxesOfAll rest

end

end BoxTree

end Wireframe
