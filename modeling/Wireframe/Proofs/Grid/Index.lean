import Wireframe.Grid

/-!
# The index of a grid lists its cells

`mem_positions_iff` says that the index lists a position under a kind that draws boxes exactly when
a cell of that kind stands there, and `pairwise_positions` that each list is in strict reading
order, so that no position is listed twice.
-/

namespace Wireframe

/-- Strict reading order: on an earlier row, or further left on the same row. -/
def Position.Precedes (p q : Position) : Prop :=
  p.row < q.row ∨ (p.row = q.row ∧ p.col < q.col)

/-- No position precedes itself. -/
theorem Position.Precedes.ne {p q : Position} (h : p.Precedes q) : p ≠ q := by
  rintro rfl
  unfold Position.Precedes at h
  omega

/-- Of two positions that precede one another in both orders there are none. -/
theorem Position.Precedes.asymm {p q : Position} (h : p.Precedes q) : ¬ q.Precedes p := by
  unfold Position.Precedes at *
  omega

/-- Whether a kind of cell draws boxes, and so is listed by the index. -/
def Cell.Kind.draws : Cell.Kind → Bool
  | .corner => true
  | .horizontal => true
  | .vertical => true
  | .divider => true
  | .space => false
  | .ordinary => false

namespace GlyphIndex

/-- The cell in a column of a row of a list of rows. -/
def cellAt? (rows : List (List Cell)) (row col : Nat) : Option Cell :=
  (rows[row]?).bind fun cells => cells[col]?

/-- The placed cells are the cells of the rows, each at its row and column. -/
theorem mem_placed_iff {rows : List (List Cell)} {p : Position} {cell : Cell} :
    (p, cell) ∈ placed rows ↔
      ∃ row col : Nat, p = ⟨row, col⟩ ∧ cellAt? rows row col = some cell := by
  simp only [placed, List.mem_flatMap, List.mem_map, Prod.exists, Prod.mk.injEq,
    List.mk_mem_zipIdx_iff_getElem?]
  constructor
  · rintro ⟨cells, row, hrow, cell', col, hcol, hp, rfl⟩
    have hcell : cellAt? rows row col = some cell' := by rw [cellAt?, hrow]; exact hcol
    exact ⟨row, col, hp.symm, hcell⟩
  · rintro ⟨row, col, hp, hcell⟩
    obtain ⟨cells, hrow, hcol⟩ := Option.bind_eq_some_iff.1 hcell
    exact ⟨cells, row, hrow, cell, col, hcol, hp.symm, rfl⟩

/-- The numbers that a list is counted with increase. -/
theorem pairwise_zipIdx {α : Type} (xs : List α) :
    xs.zipIdx.Pairwise fun x y => x.2 < y.2 := by
  have h : (xs.zipIdx.map Prod.snd).Pairwise (· < ·) := by
    rw [List.zipIdx_map_snd]
    exact List.pairwise_lt_range'
  exact List.pairwise_map.1 h

/-- The placed cells come in reading order. -/
theorem pairwise_placed (rows : List (List Cell)) :
    (placed rows).Pairwise fun x y => x.1.Precedes y.1 := by
  refine List.pairwise_flatMap.2 ⟨?_, ?_⟩
  · -- On one row the columns increase.
    rintro ⟨cells, row⟩ -
    refine List.pairwise_map.2 ((pairwise_zipIdx cells).imp ?_)
    intro x y hxy
    exact .inr ⟨rfl, by simpa using hxy⟩
  · -- Cells of different rows are in the order of their rows.
    refine (pairwise_zipIdx rows).imp ?_
    rintro ⟨cells, row⟩ ⟨cells', row'⟩ hrows x hx y hy
    obtain ⟨x', -, rfl⟩ := List.mem_map.1 hx
    obtain ⟨y', -, rfl⟩ := List.mem_map.1 hy
    exact .inl (by simpa using hrows)

/-- The index lists the kinds that draw boxes, and no others. -/
theorem positions_ofRows (rows : List (List Cell)) (kind : Cell.Kind) :
    (ofRows rows).positions kind =
      if kind.draws then positionsOf kind (placed rows) else [] := by
  cases kind <;> rfl

/-- The positions listed for one kind come in reading order. -/
theorem pairwise_positions (rows : List (List Cell)) (kind : Cell.Kind) :
    ((ofRows rows).positions kind).Pairwise Position.Precedes := by
  rw [positions_ofRows]
  split
  · exact List.pairwise_map.2 ((pairwise_placed rows).filter _)
  · exact .nil

end GlyphIndex

namespace Grid

variable {g : Grid} {kind : Cell.Kind}

/-- The cell at a row and a column that are not negative. -/
theorem get?_natCast (g : Grid) (row col : Nat) :
    g.get? ⟨row, col⟩ = GlyphIndex.cellAt? g.rows row col := by
  simp [get?, GlyphIndex.cellAt?]

/-- There is a cell at every place inside the grid. -/
theorem get?_isSome {p : Position} (hrow : 0 ≤ p.row) (hrow' : p.row < g.height)
    (hcol : 0 ≤ p.col) (hcol' : p.col < g.width) : (g.get? p).isSome = true := by
  have hheight : g.height = g.rows.length := rfl
  have hr : p.row.toNat < g.rows.length := by omega
  have hwidth := g.rectangular _ (List.getElem_mem hr)
  have hc : p.col.toNat < (g.rows[p.row.toNat]).length := by omega
  rw [get?, if_pos ⟨hrow, hcol⟩, List.getElem?_eq_getElem hr, Option.bind_some,
    List.getElem?_eq_getElem hc]
  rfl

/-- A cell of a kind stands where there is a cell, and that cell is of the kind. -/
theorem cellIs_iff {p : Position} :
    g.cellIs p kind = true ↔ ∃ cell, g.get? p = some cell ∧ cell.kind = kind := by
  simp [cellIs, Option.any_eq_true]

/-- There are cells of a kind only inside the grid. -/
theorem bounds_of_cellIs {p : Position} (h : g.cellIs p kind = true) :
    0 ≤ p.row ∧ p.row < g.height ∧ 0 ≤ p.col ∧ p.col < g.width := by
  obtain ⟨cell, hcell, -⟩ := cellIs_iff.1 h
  exact get?_eq_some_bounds hcell

/-- A cell is of one kind only. -/
theorem kind_unique {p : Position} {kind' : Cell.Kind} (h : g.cellIs p kind = true)
    (h' : g.cellIs p kind' = true) : kind = kind' := by
  obtain ⟨cell, hcell, rfl⟩ := cellIs_iff.1 h
  obtain ⟨cell', hcell', rfl⟩ := cellIs_iff.1 h'
  rw [hcell, Option.some.injEq] at hcell'
  rw [hcell']

/-- The index lists a position under a kind that draws boxes exactly when a cell of that kind stands
there. -/
theorem mem_positions_iff (hkind : kind.draws = true) {p : Position} :
    p ∈ g.positions kind ↔ g.cellIs p kind = true := by
  rw [positions, g.indexed, GlyphIndex.positions_ofRows, if_pos hkind, cellIs_iff]
  simp only [GlyphIndex.positionsOf, List.mem_map, List.mem_filter, decide_eq_true_eq,
    Prod.exists, exists_and_right, exists_eq_right]
  constructor
  · rintro ⟨cell, hmem, hcell⟩
    obtain ⟨row, col, rfl, hat⟩ := GlyphIndex.mem_placed_iff.1 hmem
    exact ⟨cell, by rw [get?_natCast, hat], hcell⟩
  · rintro ⟨cell, hat, hcell⟩
    obtain ⟨hrow, -, hcol, -⟩ := get?_eq_some_bounds hat
    obtain ⟨row, col⟩ := p
    obtain ⟨row, rfl⟩ := Int.eq_ofNat_of_zero_le hrow
    obtain ⟨col, rfl⟩ := Int.eq_ofNat_of_zero_le hcol
    rw [get?_natCast] at hat
    exact ⟨cell, GlyphIndex.mem_placed_iff.2 ⟨row, col, rfl, hat⟩, hcell⟩

/-- The index looks a position up as the cells do. -/
theorem lists_eq_cellIs (g : Grid) (hkind : kind.draws = true) (p : Position) :
    g.lists kind p = g.cellIs p kind := by
  rw [Bool.eq_iff_iff, ← mem_positions_iff hkind, lists, List.contains_iff_mem]
  rfl

/-- The positions of a kind come in reading order. -/
theorem pairwise_positions (g : Grid) (kind : Cell.Kind) :
    (g.positions kind).Pairwise Position.Precedes := by
  rw [positions, g.indexed]
  exact GlyphIndex.pairwise_positions g.rows kind

/-- The positions of a kind inside a rectangle are those where such a cell stands. -/
theorem mem_positionsIn_iff (hkind : kind.draws = true) {b : Bounds} {p : Position} :
    p ∈ g.positionsIn kind b ↔ g.cellIs p kind = true ∧ b.contains p = true := by
  rw [positionsIn, List.mem_filter, ← mem_positions_iff hkind]
  rfl

/-- A character of a line stands in the grid at its row and column. -/
theorem get?_ofLines {lines : List Line} {cs : Line} {c : Char} {row col : Nat}
    (hline : lines[row]? = some cs) (hchar : cs[col]? = some c) :
    (ofLines lines).get? ⟨row, col⟩ = some (Cell.ofChar c) := by
  have hrow : (ofLines lines).rows[row]? = some (padRow (widest lines) cs) := by
    show (lines.map (padRow (widest lines)))[row]? = _
    rw [List.getElem?_map, hline]
    rfl
  have hcol : col < (cs.map Cell.ofChar).length := by
    rw [List.length_map]
    exact (List.getElem?_eq_some_iff.1 hchar).1
  rw [get?_natCast, GlyphIndex.cellAt?, hrow, Option.bind_some, padRow,
    List.getElem?_append_left hcol, List.getElem?_map, hchar]
  rfl

/-- The kind of a cell is that of the character that stands there in the line. -/
theorem cellIs_ofLines {lines : List Line} {cs : Line} {c : Char} {row col : Nat}
    (hline : lines[row]? = some cs) (hchar : cs[col]? = some c) :
    (ofLines lines).cellIs ⟨row, col⟩ kind = decide ((Cell.ofChar c).kind = kind) := by
  rw [cellIs, get?_ofLines hline hchar]
  rfl

end Grid

end Wireframe
