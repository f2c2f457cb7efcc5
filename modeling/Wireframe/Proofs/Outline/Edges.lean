import Wireframe.Outline
import Wireframe.Proofs.Drawn
import Wireframe.Proofs.Grid.Run
import Wireframe.Sorting

/-!
# The edges of an outline

What each part of following an outline finds, in terms of the cells of the grid: the corner that a
top or bottom edge leads to (`reaches_iff`), the misplaced pieces of vertical edges that count
(`nearestPipe_eq_none_iff`), the walk down the right edge (`descend_corner`, `descend_straight`,
`descend_fromLeft`, `rows_descend_eq_zero_iff`), and the walk up the left edge (`climb_eq_nil_iff`).
-/

namespace Wireframe

namespace Grid

variable {g : Grid} {radius : Int} {start topRight p q : Position}

/-! ## Top and bottom edges -/

/-- What a walk along a top edge accepts is a piece of a top edge. -/
theorem any_isTopEdge_iff : (g.get? p).any Cell.isTopEdge = true ↔ g.TopPiece p := by
  have hcell : ∀ cell : Cell, cell.isTopEdge = true ↔
      cell.kind = .horizontal ∨ cell.kind = .space ∨ cell.kind = .ordinary := by
    intro cell
    cases cell with
    | ordinary c => exact ⟨fun _ => .inr (.inr rfl), fun _ => rfl⟩
    | _ => decide
  unfold TopPiece cellIs
  cases g.get? p with
  | none => simp
  | some cell => simp [hcell]

/-- What a walk along a bottom edge accepts is a piece of a bottom edge. -/
theorem any_isBottomEdge_iff : (g.get? p).any Cell.isBottomEdge = true ↔ g.BottomPiece p := by
  have hcell : ∀ cell : Cell, cell.isBottomEdge = true ↔
      cell.kind = .horizontal ∨ cell.kind = .divider := by
    intro cell
    cases cell with
    | ordinary c => exact ⟨nofun, nofun⟩
    | _ => decide
  unfold BottomPiece cellIs
  cases g.get? p with
  | none => simp
  | some cell => simp [hcell]

/-- A horizontal edge of accepted cells leads from `p` along a heading to the corner `q`. -/
def Reaches (g : Grid) (heading : Heading) (accept : Cell → Bool) (p q : Position) : Prop :=
  ∃ n : Nat, q = p.step heading (n + 1) ∧
    (∀ i < n, (g.get? (p.step heading (i + 1))).any accept = true) ∧ g.cellIs q .corner = true

/-- A scan that accepts no corners finds the corner that an edge leads to, if there is one. -/
theorem reaches_iff {heading : Heading} {accept : Cell → Bool} (haccept : accept .corner = false) :
    g.Reaches heading accept p q ↔
      q = p.step heading ((g.scan heading (p.step heading 1) accept).length + 1) ∧
        g.cellIs q .corner = true := by
  have hstep : ∀ n : Nat, p.step heading (n + 1) = (p.step heading 1).step heading n := by
    intro n
    rw [← Position.step_add, Int.add_comm]
  constructor
  · rintro ⟨n, rfl, hrun, hcorner⟩
    have hstop : (g.get? (p.step heading (n + 1))).any accept = false := by
      obtain ⟨cell, hcell, hkind⟩ := cellIs_iff.1 hcorner
      rw [hcell]
      cases cell <;> simp_all [Cell.kind]
    have hlength : (g.scan heading (p.step heading 1) accept).length = n := by
      refine length_scan_eq_iff.2 ⟨fun i hi => ?_, ?_⟩
      · rw [← hstep]
        exact hrun i hi
      · rw [← hstep]
        exact hstop
    rw [hlength]
    exact ⟨rfl, hcorner⟩
  · rintro ⟨rfl, hcorner⟩
    obtain ⟨hrun, -⟩ := length_scan_eq_iff.1
      (rfl : (g.scan heading (p.step heading 1) accept).length = _)
    refine ⟨_, rfl, fun i hi => ?_, hcorner⟩
    rw [hstep]
    exact hrun i hi

/-- The corner that a scan of a top edge finds is the one that the edge leads to. -/
theorem reaches_right_iff : g.Reaches .right Cell.isTopEdge p q ↔ g.TopEdgeTo p q := by
  simp only [TopEdgeTo, Reaches, Position.step, Position.right, any_isTopEdge_iff]
  constructor
  · rintro ⟨n, rfl, hrun, hcorner⟩
    refine ⟨rfl, by simp only; omega, fun col hlt hgt => ?_, hcorner⟩
    have hpiece := hrun (col - p.col - 1).toNat (by simp only at hgt; omega)
    rw [show p.col + (((col - p.col - 1).toNat : Int) + 1) = col by omega] at hpiece
    exact hpiece
  · rintro ⟨hrow, hcol, hrun, hcorner⟩
    refine ⟨(q.col - p.col - 1).toNat, ?_, fun i hi => hrun _ (by omega) (by omega), hcorner⟩
    exact Position.ext hrow (by simp only; omega)

/-- A bottom edge leads to the corner before it on its row, over pieces of a bottom edge. -/
theorem reaches_left_iff :
    g.Reaches .left Cell.isBottomEdge p q ↔
      q.row = p.row ∧ q.col < p.col ∧
        (∀ col, q.col < col → col < p.col → g.BottomPiece ⟨p.row, col⟩) ∧
        g.cellIs q .corner = true := by
  simp only [Reaches, Position.step, Position.left, any_isBottomEdge_iff]
  constructor
  · rintro ⟨n, rfl, hrun, hcorner⟩
    refine ⟨rfl, by simp only; omega, fun col hlt hgt => ?_, hcorner⟩
    have hpiece := hrun (p.col - col - 1).toNat (by simp only at hlt; omega)
    rw [show p.col - (((p.col - col - 1).toNat : Int) + 1) = col by omega] at hpiece
    exact hpiece
  · rintro ⟨hrow, hcol, hrun, hcorner⟩
    refine ⟨(p.col - q.col - 1).toNat, ?_, fun i hi => hrun _ (by omega) (by omega), hcorner⟩
    exact Position.ext hrow (by simp only; omega)

/-! ## Misplaced pieces of vertical edges -/

/-- The columns that are looked at hold a piece of a vertical edge, lie within the radius and on the
right side of the limit, and are not the expected one. -/
theorem mem_pipesNear_iff {row expected col : Int} {limit : ColumnLimit} :
    col ∈ g.pipesNear radius row expected limit ↔
      g.cellIs ⟨row, col⟩ .vertical = true ∧ expected - radius ≤ col ∧ col ≤ expected + radius ∧
        col ≠ expected ∧ limit.admits col = true := by
  have hdraws : Cell.Kind.vertical.draws = true := rfl
  simp only [pipesNear, List.mem_filter, List.mem_map, mem_positionsIn_iff hdraws,
    Bounds.contains_iff, Bool.and_eq_true, decide_eq_true_eq]
  constructor
  · rintro ⟨⟨⟨row', col'⟩, ⟨hcell, hrow, hrow', hleft, hright⟩, rfl⟩, hne, hadmits⟩
    simp only at hrow hrow' hleft hright hne hadmits
    have heq : row' = row := by omega
    subst heq
    exact ⟨hcell, by simp only; omega, hright, hne, hadmits⟩
  · rintro ⟨hcell, hleft, hright, hne, hadmits⟩
    obtain ⟨-, -, hcol, -⟩ := bounds_of_cellIs hcell
    simp only at hcol
    refine ⟨⟨⟨row, col⟩, ⟨hcell, ?_, ?_, ?_, ?_⟩, rfl⟩, hne, hadmits⟩ <;> simp only <;> omega

/-- The column is nearer to the expected one than another, or as near and points away from the box
if the other does. -/
def NearerOrOutward (limit : ColumnLimit) (expected col other : Int) : Prop :=
  (col - expected).natAbs < (other - expected).natAbs ∨
    ((col - expected).natAbs = (other - expected).natAbs ∧
      (limit.isOutward expected other = true → limit.isOutward expected col = true))

/-- Of two columns the nearer one is chosen, and the one that points away from the box if they are
equally near. -/
theorem chooses_nearerPipe (limit : ColumnLimit) (expected : Int) :
    Chooses (nearerPipe limit expected) (NearerOrOutward limit expected) where
  refl := fun _ => .inr ⟨rfl, id⟩
  trans := fun hab hbc => by
    unfold NearerOrOutward at *
    rcases hab with hab | ⟨hab, houtward⟩
    · omega
    · rcases hbc with hbc | ⟨hbc, houtward'⟩
      · omega
      · exact .inr ⟨hab.trans hbc, fun h => houtward (houtward' h)⟩
  first := fun _ => rfl
  next := fun old col => by
    unfold NearerOrOutward
    rw [nearerPipe]
    split
    · next h => exact .inr ⟨rfl, h.imp_right fun ⟨heq, houtward⟩ => ⟨heq, fun _ => houtward⟩⟩
    · next h =>
      rw [not_or, not_and] at h
      obtain ⟨hfar, hinward⟩ := h
      refine .inl ⟨rfl, ?_⟩
      rcases Nat.lt_or_eq_of_le (Nat.not_lt.1 hfar) with hlt | heq
      · exact .inl hlt
      · exact .inr ⟨heq, fun houtward => absurd houtward (hinward heq.symm)⟩

/-- The misplaced piece that is found is one of those that are looked at, and as good as all of
them. -/
theorem of_nearestPipe_eq_some {row expected col : Int} {limit : ColumnLimit}
    (h : g.nearestPipe radius row expected limit = some col) :
    col ∈ g.pipesNear radius row expected limit ∧
      ∀ other ∈ g.pipesNear radius row expected limit,
        NearerOrOutward limit expected col other := by
  unfold nearestPipe at h
  split at h
  · simp at h
  · exact (chooses_nearerPipe limit expected).of_foldl_eq_some h

/-- No misplaced piece is found exactly when none stands beside the expected column within the
radius, where the limit admits it. -/
theorem nearestPipe_eq_none_iff {row expected : Int} {limit : ColumnLimit} :
    g.nearestPipe radius row expected limit = none ↔
      ∀ col, g.cellIs ⟨row, col⟩ .vertical = true → expected - radius ≤ col →
        col ≤ expected + radius → limit.admits col = true → col = expected := by
  have hnone : g.nearestPipe radius row expected limit = none ↔
      g.pipesNear radius row expected limit = [] := by
    rw [nearestPipe]
    split
    · next hradius =>
      -- Within a radius of zero there is the expected column only.
      refine ⟨fun _ => List.eq_nil_iff_forall_not_mem.2 fun col hcol => ?_, fun _ => rfl⟩
      obtain ⟨-, hleft, hright, hne, -⟩ := mem_pipesNear_iff.1 hcol
      omega
    · exact (chooses_nearerPipe limit expected).foldl_eq_none_iff
  rw [hnone, List.eq_nil_iff_forall_not_mem]
  constructor
  · intro h col hcell hleft hright hadmits
    by_cases hne : col = expected
    · exact hne
    · exact absurd (mem_pipesNear_iff.2 ⟨hcell, hleft, hright, hne, hadmits⟩) (h col)
  · intro h col hcol
    obtain ⟨hcell, hleft, hright, hne, hadmits⟩ := mem_pipesNear_iff.1 hcol
    exact hne (h col hcell hleft hright hadmits)

/-! ## The right edge -/

/-- A walk down a right edge counts the rows behind it. -/
theorem le_rows_descend (g : Grid) (radius : Int) (start topRight : Position) (rows walked : Nat) :
    walked ≤ (g.descend radius start topRight rows walked).rows := by
  induction rows generalizing walked with
  | zero => simp [descend]
  | succ rows ih =>
    have hnext := ih (walked + 1)
    rw [descend]
    dsimp only
    split
    · simp
    · omega
    · split <;> simp
    · split
      · dsimp only
        omega
      · simp

/-- A right edge without misplaced pieces that ends at a corner in its column consists of pieces of
a vertical edge down to that corner, at least one of them. -/
theorem descend_corner {rows walked : Nat}
    (hclean : (g.descend radius start topRight rows walked).misplaced = [])
    (hend : (g.descend radius start topRight rows walked).ending = .corner q) :
    ∃ n : Nat, walked ≤ n ∧ 0 < n ∧ q = topRight.down (n + 1) ∧ g.cellIs q .corner = true ∧
      ∀ i, walked ≤ i → i < n → g.cellIs (topRight.down (i + 1)) .vertical = true := by
  induction rows generalizing walked with
  | zero => simp [descend] at hend
  | succ rows ih =>
    rw [descend] at hclean hend
    dsimp only at hclean hend
    split at hend
    · simp at hend
    · next hcell =>
      rw [hcell] at hclean
      obtain ⟨n, hle, hpos, hq, hcorner, hrun⟩ := ih hclean hend
      refine ⟨n, by omega, hpos, hq, hcorner, fun i hi hlt => ?_⟩
      -- The first piece is the cell just read, the others belong to the rest of the walk.
      rcases Nat.eq_or_lt_of_le hi with rfl | hi
      · exact cellIs_iff.2 ⟨_, hcell, rfl⟩
      · exact hrun i hi hlt
    · next hcell =>
      split at hend
      · simp at hend
      · next hwalked =>
        simp only [RightEnd.corner.injEq] at hend
        refine ⟨walked, Nat.le_refl _, by omega, hend.symm, ?_, fun i hi hlt => by omega⟩
        rw [← hend]
        exact cellIs_iff.2 ⟨_, hcell, rfl⟩
    · next cell hvertical hcorner hcell =>
      rw [hcell] at hclean
      split at hend
      · next actual hactual =>
        simp [hactual] at hclean
      · -- A bottom edge that is found from the left does not end at this corner.
        rw [rightEndFromLeft] at hend
        dsimp only at hend
        split at hend
        · split at hend <;> simp at hend
        · simp at hend

/-- A right edge of pieces of a vertical edge, at least one, leads to the corner below them. -/
theorem descend_straight {rows walked n : Nat} (hwalked : walked ≤ n) (hpos : 0 < n)
    (hrows : n < walked + rows)
    (hrun : ∀ i, walked ≤ i → i < n → g.cellIs (topRight.down (i + 1)) .vertical = true)
    (hcorner : g.cellIs (topRight.down (n + 1)) .corner = true) :
    g.descend radius start topRight rows walked = ⟨[], n, .corner (topRight.down (n + 1))⟩ := by
  induction rows generalizing walked with
  | zero => omega
  | succ rows ih =>
    rw [descend]
    rcases Nat.eq_or_lt_of_le hwalked with rfl | hlt
    · obtain ⟨cell, hcell, hkind⟩ := cellIs_iff.1 hcorner
      cases cell <;> simp [Cell.kind] at hkind
      simp only [hcell]
      rw [if_neg (by omega)]
    · obtain ⟨cell, hcell, hkind⟩ := cellIs_iff.1 (hrun walked (Nat.le_refl _) hlt)
      cases cell <;> simp [Cell.kind] at hkind
      simp only [hcell]
      exact ih hlt (by omega) fun i hi => hrun i (by omega)

/-- A bottom edge that was found from its left corner ends at a corner, and none stands on its row
in the column of the right edge. -/
theorem descend_fromLeft {rows walked : Nat} {bottomLeft bottomRight : Position}
    (hend : (g.descend radius start topRight rows walked).ending =
      .fromLeft bottomLeft bottomRight) :
    bottomLeft.row = bottomRight.row ∧ bottomLeft.col = start.col ∧
      g.cellIs bottomRight .corner = true ∧
      g.cellIs ⟨bottomRight.row, topRight.col⟩ .corner = false := by
  induction rows generalizing walked with
  | zero => simp [descend] at hend
  | succ rows ih =>
    rw [descend] at hend
    dsimp only at hend
    split at hend
    · simp at hend
    · exact ih hend
    · split at hend <;> simp at hend
    · next cell hvertical hcorner hcell =>
      split at hend
      · exact ih hend
      · rw [rightEndFromLeft] at hend
        dsimp only at hend
        split at hend
        · split at hend
          · next hbottomRight =>
            simp only [RightEnd.fromLeft.injEq] at hend
            obtain ⟨rfl, rfl⟩ := hend
            refine ⟨rfl, rfl, hbottomRight, ?_⟩
            -- The walk stopped on this row, at a cell that is no corner.
            have hcell' : g.get? ⟨topRight.row + (walked + 1), topRight.col⟩ = some cell := hcell
            simp only [Position.down, Position.right, cellIs, hcell', Option.any_some,
              decide_eq_false_iff_not]
            cases cell <;> simp_all [Cell.kind]
          · simp at hend
        · simp at hend

/-- Below the top edge from `p` to `q` the walk down a right edge gets somewhere: no corner stands
right below `q`, and a piece of a vertical edge stands on that row to the right of `p`, within the
radius of the column of `q`. -/
def GoesBelow (g : Grid) (radius : Int) (p q : Position) : Prop :=
  g.cellIs (q.down 1) .corner = false ∧
    ∃ col, g.cellIs ⟨q.row + 1, col⟩ .vertical = true ∧ p.col < col ∧
      q.col - radius ≤ col ∧ col ≤ q.col + radius

/-- The rows that a walk down a right edge gets over are none exactly when it gets nowhere below the
top edge. -/
theorem rows_descend_eq_zero_iff (hradius : 0 ≤ radius) (hcol : start.col < topRight.col)
    {rows : Nat} (htop : g.cellIs topRight .corner = true) :
    (g.descend radius start topRight (rows + 1) 0).rows = 0 ↔
      ¬ g.GoesBelow radius start topRight := by
  have hdown : topRight.down ((0 : Nat) + 1) = topRight.down 1 := rfl
  have hwalked : 0 < (g.descend radius start topRight rows (0 + 1)).rows :=
    le_rows_descend g radius start topRight rows (0 + 1)
  obtain ⟨-, -, hcol0, hcolw⟩ := bounds_of_cellIs htop
  rw [descend, hdown]
  dsimp only
  split
  · next hnone =>
    -- Below the grid there are no pieces at all.
    refine ⟨fun _ => ?_, fun _ => rfl⟩
    rintro ⟨-, col, hcell, -⟩
    obtain ⟨hrow, hrow', -, -⟩ := bounds_of_cellIs hcell
    have hsome := get?_isSome (g := g) (p := topRight.down 1) hrow hrow' hcol0 hcolw
    simp [hnone] at hsome
  · next hcell =>
    -- The piece in the column of the edge is one of those that count.
    have hbelow : g.GoesBelow radius start topRight := by
      refine ⟨by simp [cellIs, hcell, Cell.kind], topRight.col, ?_, hcol, by omega, by omega⟩
      exact cellIs_iff.2 ⟨_, hcell, rfl⟩
    exact ⟨fun hrows => by omega, fun hnot => absurd hbelow hnot⟩
  · next hcell =>
    refine ⟨fun _ => ?_, fun _ => rfl⟩
    rintro ⟨hfree, -⟩
    have hcorner : g.cellIs (topRight.down 1) .corner = true := cellIs_iff.2 ⟨_, hcell, rfl⟩
    rw [hcorner] at hfree
    simp at hfree
  · next cell hvertical hcorner hcell =>
    have hkind : cell.kind ≠ .corner ∧ cell.kind ≠ .vertical := by
      cases cell <;> simp_all [Cell.kind]
    have hnot : ∀ kind, cell.kind ≠ kind → g.cellIs (topRight.down 1) kind = false := by
      intro kind hne
      simp [cellIs, hcell, hne]
    split
    · next actual hactual =>
      refine ⟨fun hrows => by dsimp only at hrows; omega, fun hfree => ?_⟩
      have hnone : g.nearestPipe radius (topRight.down 1).row topRight.col
          (.rightOf start.col) = none := by
        refine nearestPipe_eq_none_iff.2 fun col hpipe hleft hright hadmits => ?_
        exact absurd ⟨hnot _ hkind.1, col, hpipe, by simpa [ColumnLimit.admits] using hadmits,
          hleft, hright⟩ hfree
      rw [hnone] at hactual
      simp at hactual
    · next hnone =>
      refine ⟨fun _ => ?_, fun _ => rfl⟩
      rintro ⟨-, col, hpipe, hlt, hleft, hright⟩
      have hsame := nearestPipe_eq_none_iff.1 hnone col hpipe hleft hright
        (by simpa [ColumnLimit.admits] using hlt)
      subst hsame
      have hfalse := hnot _ hkind.2
      rw [show g.cellIs (topRight.down 1) .vertical = true from hpipe] at hfalse
      simp at hfalse

/-! ## The left edge -/

/-- The pieces of a vertical edge below a position, counted from it or by their rows. -/
theorem verticals_below_iff {n : Nat} :
    (∀ i < n, g.cellIs (p.down (i + 1)) .vertical = true) ↔
      ∀ row, p.row < row → row < p.row + n + 1 → g.cellIs ⟨row, p.col⟩ .vertical = true := by
  constructor
  · intro hrun row hlt hgt
    have hpiece := hrun (row - p.row - 1).toNat (by omega)
    rw [Position.down, show p.row + (((row - p.row - 1).toNat : Int) + 1) = row by omega] at hpiece
    exact hpiece
  · exact fun hrun i hi => hrun _ (by omega) (by omega)

/-- A left edge is in order exactly when it consists of pieces of a vertical edge. -/
theorem climb_eq_nil_iff {rows : Nat} :
    g.climb radius start topRight rows = [] ↔
      ∀ i < rows, g.cellIs (start.down (i + 1)) .vertical = true := by
  induction rows with
  | zero => simp [climb]
  | succ rows ih =>
    rw [climb]
    split
    · next hcell =>
      rw [ih]
      constructor
      · intro hrun i hi
        rcases Nat.lt_succ_iff_lt_or_eq.1 hi with hlt | rfl
        · exact hrun i hlt
        · exact hcell
      · exact fun hrun i hi => hrun i (by omega)
    · next hcell =>
      -- Whether a misplaced piece is found or not, something is wrong on this row.
      refine ⟨fun hnil => ?_, fun hrun => absurd (hrun rows (by omega)) hcell⟩
      split at hnil <;> simp at hnil

end Grid

end Wireframe
