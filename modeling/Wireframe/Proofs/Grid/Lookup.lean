import Wireframe.Proofs.Checked.Grid
import Wireframe.Proofs.Places

/-!
# Looking up the glyphs of a grid

Corners and pieces of edges can be looked up in two ways: by the cell that stands at a position, and
by the index that was made with the grid. `IndexAgrees` says that both tell the same, for a position
anywhere in the grid or outside, and that the lists of the index are in strict reading order, so that
each position is listed once. The main statement `ofLines_indexAgrees` says so of the grid of any
lines, where the cells are the characters of the lines and all rows are as long as the longest line
(`IsLongest`).
-/

namespace Wireframe.Grid

variable {g : Grid} {lines : List Line} {kind : Cell.Kind} {c : Char}

/-! ## The width -/

/-- The number is the length of the longest of some lines, and zero if there are none. -/
structure IsLongest (lines : List Line) (n : Nat) : Prop where
  /-- No line is longer. -/
  le : ∀ line ∈ lines, line.length ≤ n
  /-- Some line is as long. -/
  attained : lines ≠ [] → ∃ line ∈ lines, line.length = n
  /-- Without lines it is zero. -/
  empty : lines = [] → n = 0

/-- Some line is as long as the widest one. -/
theorem exists_length_eq_widest (h : lines ≠ []) : ∃ line ∈ lines, line.length = widest lines := by
  induction lines with
  | nil => exact absurd rfl h
  | cons line rest ih =>
    have hwidest : widest (line :: rest) = max line.length (widest rest) := rfl
    rw [hwidest]
    rcases Nat.le_total (widest rest) line.length with hle | hle
    · exact ⟨line, List.mem_cons_self, (Nat.max_eq_left hle).symm⟩
    · -- The widest line is among the others, unless there are none and the first is empty.
      by_cases hrest : rest = []
      · subst hrest
        exact ⟨line, List.mem_cons_self, (Nat.max_eq_left (Nat.zero_le _)).symm⟩
      · obtain ⟨longest, hmem, hlength⟩ := ih hrest
        exact ⟨longest, List.mem_cons_of_mem line hmem, hlength.trans (Nat.max_eq_right hle).symm⟩

/-- The width of a grid is the length of its longest line. -/
theorem isLongest_width (lines : List Line) : IsLongest lines (ofLines lines).width where
  le _ hline := length_le_widest hline
  attained := exists_length_eq_widest
  empty := by
    rintro rfl
    rfl

/-! ## The index -/

/-- The index and the cells tell the same about the cells of one kind. -/
structure IndexAgrees (g : Grid) (kind : Cell.Kind) : Prop where
  /-- A position is looked up in the index as it is read off the cells. -/
  lists_iff : ∀ p, g.lists kind p = true ↔ g.cellIs p kind = true
  /-- Reading it off the cells does not fail, also outside of the grid. -/
  checked : ∀ p, Checked.cellIs g p kind = .ok (g.lists kind p)
  /-- The positions with such a cell are listed, and no others. -/
  mem_iff : ∀ p, p ∈ g.positions kind ↔ g.cellIs p kind = true
  /-- They are listed in strict reading order. -/
  ordered : (g.positions kind).Pairwise Position.Precedes
  /-- Those inside a rectangle are a part of the list, in its order. -/
  sublist : ∀ b, (g.positionsIn kind b).Sublist (g.positions kind)
  /-- They are the ones between the edges of the rectangle. -/
  mem_in_iff : ∀ b p, p ∈ g.positionsIn kind b ↔ p ∈ g.positions kind ∧
    b.top ≤ p.row ∧ p.row ≤ b.bottom ∧ b.left ≤ p.col ∧ p.col ≤ b.right

/-- The index agrees with the cells on each kind that it lists. -/
theorem indexAgrees (g : Grid) (hkind : kind.draws = true) : g.IndexAgrees kind where
  lists_iff p := by rw [lists_eq_cellIs g hkind]
  checked p := by rw [Checked.cellIs_eq, lists_eq_cellIs g hkind]
  mem_iff p := mem_positions_iff hkind
  ordered := pairwise_positions g kind
  sublist b := List.filter_sublist
  mem_in_iff b p := by
    rw [mem_positionsIn_iff hkind, mem_positions_iff hkind, Bounds.contains_iff]

/-- A kind of cells that has a character of its own draws boxes. -/
theorem draws_of_char? (h : kind.char? = some c) : kind.draws = true := by
  cases kind with
  | corner | horizontal | vertical | divider => rfl
  | space | ordinary => exact absurd h (by simp [Cell.Kind.char?])

/-- In the grid of some lines, the index agrees with the cells on each of the four kinds that draw
boxes, and a cell of the kind stands where the lines have its character. All rows have the width of
the longest line. -/
theorem ofLines_indexAgrees (lines : List Line) :
    (∀ kind c, kind.char? = some c → (ofLines lines).IndexAgrees kind ∧
      ∀ p, (ofLines lines).cellIs p kind = true ↔ Text.charAt? lines p = some c) ∧
    (∀ row ∈ (ofLines lines).rows, row.length = (ofLines lines).width) ∧
    IsLongest lines (ofLines lines).width := by
  refine ⟨fun kind c hkind => ⟨indexAgrees _ (draws_of_char? hkind), fun p => ?_⟩,
    (ofLines lines).rectangular, isLongest_width lines⟩
  rw [cellIs_ofLines_iff hkind, Text.charAt?_eq_some_iff]

/-- Two lines of different lengths: the end of the first one is a column of both rows, and left of
the first column there is nothing. -/
theorem ofLines_indexAgrees_ragged :
    Cell.Kind.corner.char? = some '+' ∧
    (ofLines ["+-+".toList, "+".toList]).lists .corner ⟨0, 2⟩ = true ∧
    (ofLines ["+-+".toList, "+".toList]).lists .corner ⟨0, -1⟩ = false ∧
    (⟨1, 0⟩ : Position) ∈ (ofLines ["+-+".toList, "+".toList]).positionsIn .corner ⟨1, 0, 1, 2⟩ ∧
    ∀ row ∈ (ofLines ["+-+".toList, "+".toList]).rows, row.length = 3 := by
  obtain ⟨hindex, hrows, hlongest⟩ := ofLines_indexAgrees ["+-+".toList, "+".toList]
  obtain ⟨hagrees, hchar⟩ := hindex .corner '+' rfl
  have hat : ∀ p, (ofLines ["+-+".toList, "+".toList]).lists .corner p = true ↔
      Text.charAt? ["+-+".toList, "+".toList] p = some '+' :=
    fun p => (hagrees.lists_iff p).trans (hchar p)
  refine ⟨rfl, (hat _).2 (by decide), ?_, ?_, fun row hrow => ?_⟩
  · exact Bool.eq_false_iff.2 fun hlisted => absurd ((hat _).1 hlisted) (by decide)
  · refine (hagrees.mem_in_iff _ _).2 ⟨(hagrees.mem_iff _).2 ((hchar _).2 (by decide)), ?_⟩
    decide
  · exact hrows row hrow

end Wireframe.Grid
