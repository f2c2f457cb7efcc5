import Wireframe.Bounds
import Wireframe.Cell
import Wireframe.Text.Blank
import Wireframe.Text.Offset

/-!
# Grids

A drawing as a rectangle of cells. Short lines are filled up with empty places. The positions of
the four kinds of cells that draw boxes are collected once, when the grid is made, so that corners
and edges can be listed and looked up without walking through all cells again.

`Grid` is the class of that name in `grid`: `ofLines` is `from_lines`, `scan` is `_scan`,
`positions` and `positionsIn` are `find_all` and `find_in_range`, and `rowChars` is `row_text`.
-/

namespace Wireframe

/-- The positions of the cells that draw boxes, kind by kind, each list in reading order. -/
structure GlyphIndex where
  /-- The positions of the corners. -/
  corners : List Position
  /-- The positions of the pieces of horizontal edges. -/
  horizontals : List Position
  /-- The positions of the pieces of vertical edges. -/
  verticals : List Position
  /-- The positions of the pieces of dividers. -/
  dividers : List Position

namespace GlyphIndex

/-- The cells of several rows with their positions, in reading order. -/
def placed (rows : List (List Cell)) : List (Position × Cell) :=
  rows.zipIdx.flatMap fun (row, r) => row.zipIdx.map fun (cell, c) => (⟨r, c⟩, cell)

/-- The positions of one kind among placed cells. -/
def positionsOf (kind : Cell.Kind) (cells : List (Position × Cell)) : List Position :=
  (cells.filter fun placed => decide (placed.2.kind = kind)).map Prod.fst

/-- The index of the given rows. -/
def ofRows (rows : List (List Cell)) : GlyphIndex :=
  let cells := placed rows
  { corners := positionsOf .corner cells
    horizontals := positionsOf .horizontal cells
    verticals := positionsOf .vertical cells
    dividers := positionsOf .divider cells }

/-- The positions of one kind. Empty places and ordinary characters are not collected. -/
def positions (index : GlyphIndex) : Cell.Kind → List Position
  | .corner => index.corners
  | .horizontal => index.horizontals
  | .vertical => index.verticals
  | .divider => index.dividers
  | .space => []
  | .ordinary => []

end GlyphIndex

/-- A rectangle of cells. -/
structure Grid where
  /-- The rows from top to bottom. -/
  rows : List (List Cell)
  /-- The number of columns. -/
  width : Nat
  /-- The positions of the cells that draw boxes. -/
  index : GlyphIndex
  /-- All rows are equally long. -/
  rectangular : ∀ row ∈ rows, row.length = width
  /-- The index lists the positions of these rows. -/
  indexed : index = GlyphIndex.ofRows rows

namespace Grid

/-- The length of the longest line. -/
def widest (lines : List Line) : Nat := lines.foldr (fun line n => max line.length n) 0

/-- The cells of a line, filled up with empty places. -/
def padRow (width : Nat) (line : Line) : List Cell :=
  line.map Cell.ofChar ++ List.replicate (width - line.length) .space

/-- No line is longer than the longest. -/
theorem length_le_widest {lines : List Line} {line : Line} (h : line ∈ lines) :
    line.length ≤ widest lines := by
  induction lines with
  | nil => simp at h
  | cons l ls ih =>
    -- The width covers the first line and, through the rest, all others.
    rcases List.mem_cons.1 h with rfl | h
    · simp only [widest, List.foldr_cons]
      omega
    · have := ih h
      simp only [widest, List.foldr_cons] at *
      omega

/-- A row has the width it was filled up to. -/
theorem length_padRow {width : Nat} {line : Line} (h : line.length ≤ width) :
    (padRow width line).length = width := by
  simp [padRow]
  omega

/-- The grid of the given lines. -/
def ofLines (lines : List Line) : Grid where
  rows := lines.map (padRow (widest lines))
  width := widest lines
  index := GlyphIndex.ofRows (lines.map (padRow (widest lines)))
  rectangular := by
    intro row h
    obtain ⟨line, hline, rfl⟩ := List.mem_map.1 h
    exact length_padRow (length_le_widest hline)
  indexed := rfl

/-- The grid of a text. The empty text has no lines. -/
def ofText (text : String) : Grid :=
  if text = "" then ofLines [] else ofLines (Text.lines (Text.unifyNewlines text.toList))

/-- The number of rows. -/
def height (g : Grid) : Nat := g.rows.length

/-- The cell at a position, if the position lies in the grid. -/
def get? (g : Grid) (p : Position) : Option Cell :=
  if 0 ≤ p.row ∧ 0 ≤ p.col then (g.rows[p.row.toNat]?).bind fun row => row[p.col.toNat]? else none

/-- Whether a cell of the given kind stands at a position, read off the cells. -/
def cellIs (g : Grid) (p : Position) (kind : Cell.Kind) : Bool :=
  (g.get? p).any fun cell => decide (cell.kind = kind)

/-- Whether a cell of the given kind stands at a position, read off the index. -/
def lists (g : Grid) (kind : Cell.Kind) (p : Position) : Bool :=
  (g.index.positions kind).contains p

/-- The positions of a kind that draws boxes, in reading order. -/
def positions (g : Grid) (kind : Cell.Kind) : List Position := g.index.positions kind

/-- The positions of a kind that draws boxes inside a rectangle, in reading order. -/
def positionsIn (g : Grid) (kind : Cell.Kind) (b : Bounds) : List Position :=
  (g.index.positions kind).filter b.contains

/-- The characters of a part of a row; offsets below zero count from the row's end. There are
none in a row outside the grid. -/
def rowChars (g : Grid) (row start : Int) (stop : Option Int) : Line :=
  if 0 ≤ row then
    match g.rows[row.toNat]? with
    | some cells => (Text.slice cells start stop).map Cell.toChar
    | none => []
  else []

/-- The lines of the grid without trailing blanks. -/
def trimmedLines (g : Grid) : List Line :=
  g.rows.map fun row => Text.trimRight (row.map Cell.toChar)

/-- The grid as text, without trailing blanks on its lines. -/
def render (g : Grid) : String := Text.block g.trimmedLines

/-! ## Straight walks -/

/-- At most `steps` cells along a heading from `p` on, as long as they are accepted and in the
grid, with their positions. -/
def walk (g : Grid) (heading : Heading) (accept : Cell → Bool) :
    Nat → Position → List (Position × Cell)
  | 0, _ => []
  | steps + 1, p =>
    match g.get? p with
    | some cell => if accept cell then (p, cell) :: walk g heading accept steps (p.step heading 1)
        else []
    | none => []

/-- The accepted cells along a heading from `p` on, with their positions. No straight line holds
more cells than the grid has rows and columns. -/
def scan (g : Grid) (heading : Heading) (p : Position) (accept : Cell → Bool) :
    List (Position × Cell) :=
  walk g heading accept (max g.height g.width) p

/-- There are cells only inside the grid. -/
theorem get?_eq_some_bounds {g : Grid} {p : Position} {cell : Cell} (h : g.get? p = some cell) :
    0 ≤ p.row ∧ p.row < g.height ∧ 0 ≤ p.col ∧ p.col < g.width := by
  unfold get? at h
  split at h
  · next hp =>
    obtain ⟨row, hrow, hcell⟩ := Option.bind_eq_some_iff.1 h
    obtain ⟨hr, rfl⟩ := List.getElem?_eq_some_iff.1 hrow
    obtain ⟨hc, -⟩ := List.getElem?_eq_some_iff.1 hcell
    have hw := g.rectangular _ (List.getElem_mem hr)
    have hh : g.height = g.rows.length := rfl
    omega
  · simp at h

/-- The positions of a walk follow one another along the heading. -/
theorem walk_eq_map (g : Grid) (heading : Heading) (accept : Cell → Bool) (steps : Nat)
    (p : Position) {i : Nat} {q : Position × Cell}
    (h : (walk g heading accept steps p)[i]? = some q) :
    q.1 = p.step heading i ∧ g.get? q.1 = some q.2 ∧ accept q.2 = true := by
  induction steps generalizing p i with
  | zero => simp [walk] at h
  | succ steps ih =>
    simp only [walk] at h
    split at h
    · next cell hcell =>
      split at h
      · next hacc =>
        cases i with
        | zero =>
          simp only [List.getElem?_cons_zero, Option.some.injEq] at h
          subst h
          exact ⟨by simp, hcell, hacc⟩
        | succ i =>
          -- What follows the first cell is a walk of its own from the next position.
          simp only [List.getElem?_cons_succ] at h
          obtain ⟨h1, h2, h3⟩ := ih _ h
          refine ⟨?_, h2, h3⟩
          rw [h1, ← Position.step_add]
          congr 1
          omega
      · simp at h
    · simp at h

end Grid

end Wireframe
