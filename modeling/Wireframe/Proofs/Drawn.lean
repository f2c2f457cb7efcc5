import Mathlib.Data.Int.Range
import Mathlib.Tactic.MkIffOfInductiveProp
import Wireframe.Proofs.Grid.Index

/-!
# Rectangles drawn in a grid

`Grid.Closes` says of a rectangle that its edges and three of its corners are drawn, and
`Grid.Draws` that it is a complete box, so that its top left corner is drawn too and a piece of a
horizontal edge follows it. Nothing here mentions how boxes are looked for.

A place determines the rectangle that closes there (`Closes.unique`). The main result is
`Draws.laminar`: of two boxes drawn in one grid, one lies strictly inside the other, or they do not
overlap, or they are the same. The reason is which characters may stand where two outlines meet. The
side of a box holds corners and pieces of vertical edges only, and none of these may stand between
the corners of a top or bottom edge (`Draws.not_cross`); nor may a corner stand between the ends of
a side (`Draws.no_corner_within_side`).
-/

namespace Wireframe

namespace Bounds

/-- The position is one of the four corners of the rectangle. -/
def HasCorner (b : Bounds) (p : Position) : Prop :=
  (p.row = b.top ∨ p.row = b.bottom) ∧ (p.col = b.left ∨ p.col = b.right)

/-- Whether a position is a corner is decided by comparing its row and its column. -/
instance (b : Bounds) (p : Position) : Decidable (b.HasCorner p) := by
  unfold HasCorner; infer_instance

/-- The position lies on the left or the right edge of the rectangle. -/
def OnSide (b : Bounds) (p : Position) : Prop :=
  (p.col = b.left ∨ p.col = b.right) ∧ b.top ≤ p.row ∧ p.row ≤ b.bottom

/-- Whether a position lies on a side is decided by comparing its row and its column. -/
instance (b : Bounds) (p : Position) : Decidable (b.OnSide p) := by
  unfold OnSide; infer_instance

/-- One rectangle lies strictly inside the other, or they do not overlap. -/
def Laminar (a b : Bounds) : Prop :=
  a.strictlyContains b = true ∨ b.strictlyContains a = true ∨ a.overlaps b = false

end Bounds

namespace Grid

variable {g : Grid}

/-! ## Pieces of edges -/

/-- What may stand between the corners of a top edge: a piece of a horizontal edge, an empty place,
or an ordinary character. -/
def TopPiece (g : Grid) (p : Position) : Prop :=
  g.cellIs p .horizontal = true ∨ g.cellIs p .space = true ∨ g.cellIs p .ordinary = true

/-- Whether a piece of a top edge stands at a position is read off the cell. -/
instance (g : Grid) (p : Position) : Decidable (g.TopPiece p) := by
  unfold TopPiece; infer_instance

/-- What may stand between the corners of a bottom edge: a piece of a horizontal edge or of a
divider. -/
def BottomPiece (g : Grid) (p : Position) : Prop :=
  g.cellIs p .horizontal = true ∨ g.cellIs p .divider = true

/-- Whether a piece of a bottom edge stands at a position is read off the cell. -/
instance (g : Grid) (p : Position) : Decidable (g.BottomPiece p) := by
  unfold BottomPiece; infer_instance

/-- A piece of a top edge is no corner and no piece of a vertical edge. -/
theorem TopPiece.not_upright {p : Position} (h : g.TopPiece p) :
    ¬ (g.cellIs p .corner = true ∨ g.cellIs p .vertical = true) := by
  rintro (hc | hv)
  · rcases h with h | h | h <;> exact absurd (kind_unique h hc) (by decide)
  · rcases h with h | h | h <;> exact absurd (kind_unique h hv) (by decide)

/-- A piece of a bottom edge is no corner and no piece of a vertical edge. -/
theorem BottomPiece.not_upright {p : Position} (h : g.BottomPiece p) :
    ¬ (g.cellIs p .corner = true ∨ g.cellIs p .vertical = true) := by
  rintro (hc | hv)
  · rcases h with h | h <;> exact absurd (kind_unique h hc) (by decide)
  · rcases h with h | h <;> exact absurd (kind_unique h hv) (by decide)

/-- A corner is no piece of a vertical edge. -/
theorem not_corner_and_vertical {p : Position} (hc : g.cellIs p .corner = true)
    (hv : g.cellIs p .vertical = true) : False :=
  absurd (kind_unique hc hv) (by decide)

/-- A top edge leads from `p` to `q`: the next corner on the row, over pieces of a top edge. -/
def TopEdgeTo (g : Grid) (p q : Position) : Prop :=
  q.row = p.row ∧ p.col < q.col ∧
    (∀ col, p.col < col → col < q.col → g.TopPiece ⟨p.row, col⟩) ∧ g.cellIs q .corner = true

/-! ## Closed rectangles and boxes -/

/-- The rectangle is outlined: it has a row inside, its edges are drawn, and so are its corners but
for the top left one, which is not looked at. -/
@[mk_iff] structure Closes (g : Grid) (b : Bounds) : Prop where
  /-- There is a row inside. -/
  top_lt_bottom : b.top + 2 ≤ b.bottom
  /-- The right edge is to the right of the left edge. -/
  left_lt_right : b.left < b.right
  /-- The top edge. -/
  topEdge : ∀ col, b.left < col → col < b.right → g.TopPiece ⟨b.top, col⟩
  /-- The top right corner. -/
  topRight : g.cellIs ⟨b.top, b.right⟩ .corner = true
  /-- The right edge. -/
  rightEdge : ∀ row, b.top < row → row < b.bottom → g.cellIs ⟨row, b.right⟩ .vertical = true
  /-- The bottom right corner. -/
  bottomRight : g.cellIs ⟨b.bottom, b.right⟩ .corner = true
  /-- The bottom edge. -/
  bottomEdge : ∀ col, b.left < col → col < b.right → g.BottomPiece ⟨b.bottom, col⟩
  /-- The bottom left corner. -/
  bottomLeft : g.cellIs ⟨b.bottom, b.left⟩ .corner = true
  /-- The left edge. -/
  leftEdge : ∀ row, b.top < row → row < b.bottom → g.cellIs ⟨row, b.left⟩ .vertical = true

/-- The rectangle is a complete box: it is closed, its top left corner is drawn, and a piece of a
horizontal edge stands to the right of that corner. -/
@[mk_iff] structure Draws (g : Grid) (b : Bounds) : Prop extends g.Closes b where
  /-- The top left corner. -/
  topLeft : g.cellIs ⟨b.top, b.left⟩ .corner = true
  /-- The beginning of the top edge. -/
  opening : g.cellIs ⟨b.top, b.left + 1⟩ .horizontal = true

/-- Whether a rectangle is closed is read off the cells of its edges. -/
instance (g : Grid) (b : Bounds) : Decidable (g.Closes b) :=
  decidable_of_iff' _ (closes_iff g b)

/-- Whether a rectangle is a complete box is read off the cells of its edges. -/
instance (g : Grid) (b : Bounds) : Decidable (g.Draws b) :=
  decidable_of_iff' _ (draws_iff g b)

/-- The top edge of a closed rectangle ends at the first corner. -/
theorem Closes.right_le {b : Bounds} (h : g.Closes b) {col : Int} (hcol : b.left < col)
    (hcorner : g.cellIs ⟨b.top, col⟩ .corner = true) : b.right ≤ col := by
  rcases Int.lt_or_le col b.right with hlt | hle
  · exact absurd (.inl hcorner) (h.topEdge col hcol hlt).not_upright
  · exact hle

/-- The right edge of a closed rectangle ends at the first corner. -/
theorem Closes.bottom_le {b : Bounds} (h : g.Closes b) (row : Int) (hrow : b.top < row)
    (hcorner : g.cellIs ⟨row, b.right⟩ .corner = true) : b.bottom ≤ row := by
  rcases Int.lt_or_le row b.bottom with hlt | hle
  · exact (not_corner_and_vertical hcorner (h.rightEdge row hrow hlt)).elim
  · exact hle

/-- At most one closed rectangle begins at a place. -/
theorem Closes.unique {a b : Bounds} (ha : g.Closes a) (hb : g.Closes b) (htop : a.top = b.top)
    (hleft : a.left = b.left) : a = b := by
  have hright : a.right = b.right := by
    have h1 := ha.right_le (by rw [hleft]; exact hb.left_lt_right) (by rw [htop]; exact hb.topRight)
    have h2 := hb.right_le (by rw [← hleft]; exact ha.left_lt_right)
      (by rw [← htop]; exact ha.topRight)
    omega
  have hbottom : a.bottom = b.bottom := by
    have ha2 := ha.top_lt_bottom
    have hb2 := hb.top_lt_bottom
    have h1 := ha.bottom_le b.bottom (by omega) (by rw [hright]; exact hb.bottomRight)
    have h2 := hb.bottom_le a.bottom (by omega) (by rw [← hright]; exact ha.bottomRight)
    omega
  exact Bounds.ext htop hleft hbottom hright

/-! ## Where the outlines of two boxes meet -/

namespace Draws

variable {a b : Bounds}

/-- The edges of a box stand the right way round. -/
theorem valid (h : g.Draws b) : b.Valid := by
  have hrows := h.top_lt_bottom
  have hcols := h.left_lt_right
  unfold Bounds.Valid
  omega

/-- Some column lies between the sides of a box. -/
theorem left_add_one_lt_right (h : g.Draws b) : b.left + 1 < b.right := by
  have hcols := h.left_lt_right
  have hne : b.left + 1 ≠ b.right := by
    intro heq
    -- A piece of a horizontal edge follows the first corner.
    have hopening := h.opening
    rw [heq] at hopening
    exact absurd (kind_unique hopening h.topRight) (by decide)
  omega

/-- The corners of a box are drawn. -/
theorem corner (h : g.Draws b) {p : Position} (hp : b.HasCorner p) : g.cellIs p .corner = true := by
  obtain ⟨row, col⟩ := p
  obtain ⟨hrow, hcol⟩ := hp
  simp only at hrow hcol
  rcases hrow with rfl | rfl
  · rcases hcol with rfl | rfl
    · exact h.topLeft
    · exact h.topRight
  · rcases hcol with rfl | rfl
    · exact h.bottomLeft
    · exact h.bottomRight

/-- Between the ends of a side there are pieces of vertical edges. -/
theorem vertical (h : g.Draws b) {row col : Int} (hcol : col = b.left ∨ col = b.right)
    (htop : b.top < row) (hbottom : row < b.bottom) : g.cellIs ⟨row, col⟩ .vertical = true := by
  rcases hcol with rfl | rfl
  · exact h.leftEdge row htop hbottom
  · exact h.rightEdge row htop hbottom

/-- On a side there are corners and pieces of vertical edges only. -/
theorem upright (h : g.Draws b) {p : Position} (hp : b.OnSide p) :
    g.cellIs p .corner = true ∨ g.cellIs p .vertical = true := by
  obtain ⟨hcol, htop, hbottom⟩ := hp
  rcases Int.lt_or_eq_of_le htop with hlt | heq
  · rcases Int.lt_or_eq_of_le hbottom with hlt' | heq'
    · exact .inr (h.vertical hcol hlt hlt')
    · exact .inl (h.corner ⟨.inr heq', hcol⟩)
  · exact .inl (h.corner ⟨.inl heq.symm, hcol⟩)

/-- Between the corners of a top or bottom edge there is no corner and no piece of a vertical
edge. -/
theorem not_upright (h : g.Draws b) {row col : Int} (hrow : row = b.top ∨ row = b.bottom)
    (hleft : b.left < col) (hright : col < b.right) :
    ¬ (g.cellIs ⟨row, col⟩ .corner = true ∨ g.cellIs ⟨row, col⟩ .vertical = true) := by
  rcases hrow with rfl | rfl
  · exact (h.topEdge col hleft hright).not_upright
  · exact (h.bottomEdge col hleft hright).not_upright

/-- No side of a box meets a top or bottom edge of another between its corners. -/
theorem not_cross (ha : g.Draws a) (hb : g.Draws b) (row : Int) {col : Int}
    (hcol : col = a.left ∨ col = a.right) (hrow : row = b.top ∨ row = b.bottom)
    (hleft : b.left < col) (hright : col < b.right) : row < a.top ∨ a.bottom < row := by
  rcases Int.lt_or_le row a.top with hlt | htop
  · exact .inl hlt
  · rcases Int.lt_or_le a.bottom row with hgt | hbottom
    · exact .inr hgt
    · have hside : a.OnSide ⟨row, col⟩ := ⟨hcol, htop, hbottom⟩
      exact absurd (ha.upright hside) (hb.not_upright hrow hleft hright)

/-- No corner of a box stands on a side of another between its ends. -/
theorem no_corner_within_side (ha : g.Draws a) (hb : g.Draws b) (row : Int) {col : Int}
    (hcol : col = a.left ∨ col = a.right) (hcol' : col = b.left ∨ col = b.right)
    (hrow : row = b.top ∨ row = b.bottom) : row ≤ a.top ∨ a.bottom ≤ row := by
  rcases Int.lt_or_le a.top row with htop | hle
  · rcases Int.lt_or_le row a.bottom with hbottom | hge
    · have hvertical := ha.vertical hcol htop hbottom
      have hcorner := hb.corner (p := ⟨row, col⟩) ⟨hrow, hcol'⟩
      exact (not_corner_and_vertical hcorner hvertical).elim
    · exact .inr hge
  · exact .inl hle

/-- A box that overlaps another one to its left lies strictly inside it. -/
theorem strictlyContains_of_left_lt (ha : g.Draws a) (hb : g.Draws b)
    (hover : a.overlaps b = true) (hleft : b.left < a.left) : b.strictlyContains a = true := by
  rw [Bounds.overlaps_iff] at hover
  obtain ⟨hab, hba, htop, hbottom⟩ := hover
  -- The left side of `a` runs between the sides of `b`, so it meets neither edge of `b`.
  have hmeetTop := not_cross ha hb b.top (.inl rfl) (.inl rfl) hleft hab
  have hmeetBottom := not_cross ha hb b.bottom (.inl rfl) (.inr rfl) hleft hab
  have hrows : b.top < a.top ∧ a.bottom < b.bottom := by omega
  -- The right side of `b` would meet the top edge of `a`, or coincide with the right side of `a`.
  have hright : a.right < b.right := by
    rcases Int.lt_trichotomy a.right b.right with hlt | heq | hgt
    · exact hlt
    · have hcorner := no_corner_within_side hb ha a.top (.inr heq) (.inr rfl) (.inl rfl)
      omega
    · have hcross := not_cross hb ha a.top (.inr rfl) (.inl rfl) hab hgt
      omega
  exact (Bounds.strictlyContains_iff b a).2 ⟨hrows.1, hleft, hrows.2, hright⟩

/-- Overlapping boxes with a common left column have the same top and right column. -/
theorem top_eq_of_left_eq (ha : g.Draws a) (hb : g.Draws b) (hover : a.overlaps b = true)
    (hleft : a.left = b.left) : a.top = b.top := by
  rw [Bounds.overlaps_iff] at hover
  -- Neither top left corner stands within the left side of the other box.
  have h1 := no_corner_within_side ha hb b.top (.inl rfl) (.inl hleft) (.inl rfl)
  have h2 := no_corner_within_side hb ha a.top (.inl rfl) (.inl hleft.symm) (.inl rfl)
  omega

/-- Two boxes drawn in one grid are the same or laminar. -/
theorem laminar (ha : g.Draws a) (hb : g.Draws b) : a = b ∨ a.Laminar b := by
  rcases Bool.eq_false_or_eq_true (a.overlaps b) with hover | hapart
  · rcases Int.lt_trichotomy a.left b.left with hlt | heq | hgt
    · have hover' : b.overlaps a = true := by rw [Bounds.overlaps_comm]; exact hover
      exact .inr (.inl (strictlyContains_of_left_lt hb ha hover' hlt))
    · have htop := top_eq_of_left_eq ha hb hover heq
      exact .inl (ha.toCloses.unique hb.toCloses htop heq)
    · exact .inr (.inr (.inl (strictlyContains_of_left_lt ha hb hover hgt)))
  · exact .inr (.inr (.inr hapart))

end Draws

end Grid

end Wireframe
