import Wireframe.Proofs.Outline.Faults

/-!
# The order in which the problems of an outline are listed

An outline that is not that of a box is followed edge by edge, and its problems are listed in that
order (`InEdgeOrder`): the pieces beside the right edge from top to bottom, then the edge that is
open, or, when all four corners are there, the widths, the pieces beside the left edge from bottom
to top and the left edge if it is open. `outline_inEdgeOrder` says that this holds of every outline.

Of a bottom edge that does not lie under the top edge one corner does stand under that of the top
edge, since the bottom edge is looked for from there (`widths_widthProblem`). So the two widths differ
whenever they are listed.
-/

namespace Wireframe

namespace Grid

variable {g : Grid} {radius : Int} {start topRight bottomLeft bottomRight : Position}

/-! ## Misplaced pieces -/

/-- A piece of a vertical edge stands near the column of the edge and not in it, and none stands in
that column on its row. -/
structure Misplaced (g : Grid) (radius expected : Int) (p : Position) : Prop where
  /-- The piece. -/
  piece : g.cellIs p .vertical = true
  /-- None stands in the column of the edge. -/
  missing : g.cellIs ⟨p.row, expected⟩ .vertical = false
  /-- The piece stands beside that column. -/
  beside : 0 < (p.col - expected).natAbs
  /-- It is no further away than pieces are looked for. -/
  near : ((p.col - expected).natAbs : Int) ≤ radius

/-- The problems with pieces of an edge that stand beside its column. -/
def misalignedPipes (expected : Int) (pieces : List Position) : List Diagnostic :=
  pieces.map fun p => .misalignedPipe p expected p.col

/-- The pieces beside a right edge, from top to bottom. -/
structure BesideRight (g : Grid) (radius top left right : Int) (pieces : List Position) :
    Prop where
  /-- Each piece is misplaced. -/
  misplaced : ∀ p ∈ pieces, g.Misplaced radius right p
  /-- It stands below the top edge and to the right of the left edge. -/
  within : ∀ p ∈ pieces, top < p.row ∧ left < p.col
  /-- The pieces stand on lower and lower rows. -/
  downwards : pieces.Pairwise fun p q => p.row < q.row

/-- The pieces beside a left edge, from bottom to top. -/
structure BesideLeft (g : Grid) (radius top bottom left right : Int) (pieces : List Position) :
    Prop where
  /-- Each piece is misplaced. -/
  misplaced : ∀ p ∈ pieces, g.Misplaced radius left p
  /-- It stands between the top and the bottom edge and to the left of the right edge. -/
  within : ∀ p ∈ pieces, top < p.row ∧ p.row < bottom ∧ p.col < right
  /-- The pieces stand on higher and higher rows. -/
  upwards : pieces.Pairwise fun p q => q.row < p.row

/-- What is found near a column that is left empty is misplaced, on the side that is admitted. -/
theorem misplaced_of_nearestPipe {row expected col : Int} {limit : ColumnLimit}
    (h : g.nearestPipe radius row expected limit = some col)
    (hmissing : g.cellIs ⟨row, expected⟩ .vertical = false) :
    g.Misplaced radius expected ⟨row, col⟩ ∧ limit.admits col = true := by
  obtain ⟨hpiece, hleft, hright, hne, hadmits⟩ :=
    mem_pipesNear_iff.1 (mem_pipesNear_of_nearestPipe h)
  refine ⟨⟨hpiece, hmissing, ?_, ?_⟩, hadmits⟩
  · simp only
    omega
  · simp only
    omega

/-- One more piece, above the others. -/
theorem BesideRight.cons {top top' left right : Int} {p : Position} {pieces : List Position}
    (hp : g.Misplaced radius right p) (hrow : top < p.row) (hcol : left < p.col)
    (hrest : g.BesideRight radius top' left right pieces) (htop : p.row ≤ top') :
    g.BesideRight radius top left right (p :: pieces) where
  misplaced := List.forall_mem_cons.2 ⟨hp, hrest.misplaced⟩
  within := List.forall_mem_cons.2 ⟨⟨hrow, hcol⟩, fun q hq => by
    obtain ⟨hbelow, hright⟩ := hrest.within q hq
    exact ⟨by omega, hright⟩⟩
  downwards := List.pairwise_cons.2 ⟨fun q hq => by
    have hbelow := (hrest.within q hq).1
    omega, hrest.downwards⟩

/-- One more piece, below the others. -/
theorem BesideLeft.cons {top bottom bottom' left right : Int} {p : Position}
    {pieces : List Position} (hp : g.Misplaced radius left p)
    (hwithin : top < p.row ∧ p.row < bottom ∧ p.col < right)
    (hrest : g.BesideLeft radius top bottom' left right pieces) (hbottom : bottom' ≤ p.row) :
    g.BesideLeft radius top bottom left right (p :: pieces) where
  misplaced := List.forall_mem_cons.2 ⟨hp, hrest.misplaced⟩
  within := List.forall_mem_cons.2 ⟨hwithin, fun q hq => by
    obtain ⟨hbelow, habove, hleft⟩ := hrest.within q hq
    exact ⟨hbelow, by omega, hleft⟩⟩
  upwards := List.pairwise_cons.2 ⟨fun q hq => by
    have habove := (hrest.within q hq).2.1
    omega, hrest.upwards⟩

/-- Pieces below one row are below every row above it. -/
theorem BesideRight.mono {top top' left right : Int} {pieces : List Position} (hle : top ≤ top')
    (h : g.BesideRight radius top' left right pieces) :
    g.BesideRight radius top left right pieces where
  misplaced := h.misplaced
  within p hp := ⟨by have := (h.within p hp).1; omega, (h.within p hp).2⟩
  downwards := h.downwards

/-- Pieces above one row are above every row below it. -/
theorem BesideLeft.mono {top bottom bottom' left right : Int} {pieces : List Position}
    (hle : bottom' ≤ bottom) (h : g.BesideLeft radius top bottom' left right pieces) :
    g.BesideLeft radius top bottom left right pieces where
  misplaced := h.misplaced
  within p hp := ⟨(h.within p hp).1, by have := (h.within p hp).2.1; omega, (h.within p hp).2.2⟩
  upwards := h.upwards

/-! ## The right edge -/

/-- Where a walk down a right edge over a number of rows ends: on the next row, at a corner in the
column of the edge or at a bottom edge that starts in the column of the left edge, or no higher than
the last row that was walked. -/
inductive EndsAfter (start topRight : Position) (rows : Nat) : RightEnd → Prop where
  /-- At the bottom right corner. -/
  | corner : EndsAfter start topRight rows (.corner (topRight.down (rows + 1)))
  /-- At a bottom edge that was followed from its left corner. -/
  | fromLeft (bottomRight : Position) (hrow : bottomRight.row = topRight.row + rows + 1) :
    EndsAfter start topRight rows (.fromLeft ⟨topRight.row + rows + 1, start.col⟩ bottomRight)
  /-- At no corner. -/
  | unclosed (edge : Edge) (p : Position) (corners : List Position)
    (hedge : edge = .right ∨ edge = .bottom) (hrow : topRight.row + rows ≤ p.row) :
    EndsAfter start topRight rows (.unclosed (.unclosedBox edge p start) corners)

/-- On a row that holds neither a piece of the right edge nor its corner, the walk ends. -/
theorem endsAfter_rightEndFromLeft (g : Grid) (start topRight : Position) (rows : Nat) :
    EndsAfter start topRight rows (g.rightEndFromLeft start (topRight.down (rows + 1))) := by
  have hrow : (topRight.down (rows + 1)).row = topRight.row + rows + 1 := by
    simp only [Position.down]
    omega
  rw [rightEndFromLeft]
  dsimp only
  rw [hrow]
  split
  · split
    · exact .fromLeft _ rfl
    · refine .unclosed .bottom _ _ (.inr rfl) ?_
      simp only [Position.right, Position.left]
      omega
  · exact .unclosed .right _ _ (.inl rfl) (by omega)

/-- A walk down a right edge ends behind the rows that it counts. -/
theorem endsAfter_descend (g : Grid) (radius : Int) (start topRight : Position)
    (rows walked : Nat) :
    EndsAfter start topRight (g.descend radius start topRight rows walked).rows
      (g.descend radius start topRight rows walked).ending := by
  have hopen : ∀ walked : Nat, EndsAfter start topRight walked
      (.unclosed (.unclosedBox .right (topRight.down walked) start) []) := fun walked =>
    .unclosed .right _ _ (.inl rfl) (Int.le_refl _)
  induction rows generalizing walked with
  | zero => exact hopen walked
  | succ rows ih =>
    rw [descend]
    dsimp only
    split
    · exact hopen walked
    · exact ih (walked + 1)
    · split
      · next hnone =>
        rw [hnone]
        exact .unclosed .right _ _ (.inl rfl) (by simp)
      · exact .corner
    · split
      · exact ih (walked + 1)
      · exact endsAfter_rightEndFromLeft g start topRight walked

/-- What is noted on the way down a right edge are the pieces beside it, from top to bottom, on the
rows that were walked. -/
theorem exists_misplaced_descend (g : Grid) (radius : Int) (start topRight : Position)
    (rows walked : Nat) :
    ∃ pieces, (g.descend radius start topRight rows walked).misplaced =
        misalignedPipes topRight.col pieces ∧
      g.BesideRight radius (topRight.row + walked) start.col topRight.col pieces ∧
      ∀ p ∈ pieces, p.row ≤ topRight.row + (g.descend radius start topRight rows walked).rows := by
  have hnone : ∀ walked : Nat,
      g.BesideRight radius (topRight.row + walked) start.col topRight.col [] := fun walked =>
    ⟨by simp, by simp, .nil⟩
  induction rows generalizing walked with
  | zero => exact ⟨[], rfl, hnone walked, by simp⟩
  | succ rows ih =>
    have hrow : (topRight.down (walked + 1)).row = topRight.row + walked + 1 := by
      simp only [Position.down]
      omega
    obtain ⟨pieces, hpieces, hbeside, hrows⟩ := ih (walked + 1)
    rw [descend]
    dsimp only
    split
    · exact ⟨[], rfl, hnone walked, by simp⟩
    · exact ⟨pieces, hpieces, hbeside.mono (by omega), hrows⟩
    · split <;> exact ⟨[], rfl, hnone walked, by simp⟩
    · next cell hvertical hcorner hcell =>
      split
      · next actual hactual =>
        have hmissing : g.cellIs (topRight.down (walked + 1)) .vertical = false := by
          rw [cellIs, hcell, Option.any_some, decide_eq_false_iff_not]
          cases cell <;> simp_all [Cell.kind]
        obtain ⟨hmisplaced, hadmits⟩ := misplaced_of_nearestPipe hactual hmissing
        have hle := le_rows_descend g radius start topRight rows (walked + 1)
        have hplace : (⟨(topRight.down (walked + 1)).row, actual⟩ : Position).row =
            topRight.row + walked + 1 := hrow
        refine ⟨⟨(topRight.down (walked + 1)).row, actual⟩ :: pieces, ?_, ?_, ?_⟩
        · rw [hpieces]
          rfl
        · have hright : start.col < actual := by simpa [ColumnLimit.admits] using hadmits
          exact .cons hmisplaced (by omega) hright hbeside (by omega)
        · refine List.forall_mem_cons.2 ⟨?_, hrows⟩
          dsimp only
          omega
      · exact ⟨[], rfl, hnone walked, by simp⟩

/-- A top edge ends at the corner that it leads to. -/
theorem topEdgeTo_topEnd (htop : g.cellIs (g.topEnd start) .corner = true) :
    g.TopEdgeTo start (g.topEnd start) :=
  reaches_right_iff.1 (reaches_topEnd_iff.2 ⟨rfl, htop⟩)

/-- What is noted along the right edge of an outline, and on which rows. -/
theorem exists_misplaced_rightEdge (radius : Int) (htop : g.cellIs (g.topEnd start) .corner = true) :
    ∃ pieces, (g.rightEdge radius start).misplaced =
        misalignedPipes (g.topEnd start).col pieces ∧
      g.BesideRight radius start.row start.col (g.topEnd start).col pieces ∧
      ∀ p ∈ pieces, p.row ≤ start.row + (g.rightEdge radius start).rows := by
  obtain ⟨pieces, hpieces, hbeside, hrows⟩ :=
    exists_misplaced_descend g radius start (g.topEnd start) g.height 0
  have hrow := (topEdgeTo_topEnd htop).1
  rw [hrow, Int.natCast_zero, Int.add_zero] at hbeside
  rw [hrow] at hrows
  exact ⟨pieces, hpieces, hbeside, hrows⟩

/-! ## The left edge -/

/-- Whether the left edge above some row is open, and then on which row: one above the pieces beside
it that holds no piece of it. -/
inductive OpenLeft (g : Grid) (start : Position) (bottom : Int) (pieces : List Position) :
    List Diagnostic → Prop where
  /-- It is not open. -/
  | closed : OpenLeft g start bottom pieces []
  /-- It is open. -/
  | broken (row : Int) (htop : start.row < row) (hbottom : row < bottom)
    (habove : ∀ p ∈ pieces, row < p.row) (hmissing : g.cellIs ⟨row, start.col⟩ .vertical = false) :
    OpenLeft g start bottom pieces [.unclosedBox .left ⟨row, start.col⟩ start]

/-- What is noted on the way up a left edge are the pieces beside it, from bottom to top, and
whether it is open. -/
theorem exists_climb_eq (g : Grid) (radius : Int) (start topRight : Position) (rows : Nat) :
    ∃ pieces last, g.climb radius start topRight rows = misalignedPipes start.col pieces ++ last ∧
      g.BesideLeft radius start.row (start.row + rows + 1) start.col topRight.col pieces ∧
      g.OpenLeft start (start.row + rows + 1) pieces last := by
  have hnone : ∀ bottom : Int,
      g.BesideLeft radius start.row bottom start.col topRight.col [] := fun bottom =>
    ⟨by simp, by simp, .nil⟩
  induction rows with
  | zero => exact ⟨[], [], rfl, hnone _, .closed⟩
  | succ rows ih =>
    have hrow : (start.down (rows + 1)).row = start.row + rows + 1 := by
      simp only [Position.down]
      omega
    obtain ⟨pieces, last, hclimb, hbeside, hopen⟩ := ih
    rw [climb]
    split
    · refine ⟨pieces, last, hclimb, hbeside.mono (by omega), ?_⟩
      cases hopen with
      | closed => exact .closed
      | broken row htop hbottom habove hmissing =>
        exact .broken row htop (by omega) habove hmissing
    · next hcell =>
      have hmissing : g.cellIs (start.down (rows + 1)) .vertical = false :=
        Bool.eq_false_iff.2 hcell
      split
      · next actual hactual =>
        obtain ⟨hmisplaced, hadmits⟩ := misplaced_of_nearestPipe hactual hmissing
        have hleft : actual < topRight.col := by simpa [ColumnLimit.admits] using hadmits
        have hplace : (⟨(start.down (rows + 1)).row, actual⟩ : Position).row =
            start.row + rows + 1 := hrow
        refine ⟨⟨(start.down (rows + 1)).row, actual⟩ :: pieces, last, ?_, ?_, ?_⟩
        · rw [hclimb]
          rfl
        · exact .cons hmisplaced ⟨by omega, by omega, hleft⟩ hbeside (by omega)
        · cases hopen with
          | closed => exact .closed
          | broken row htop hbottom habove hmissing' =>
            refine .broken row htop (by omega) (List.forall_mem_cons.2 ⟨?_, habove⟩) hmissing'
            omega
      · exact ⟨[], _, rfl, hnone _, .broken _ (by omega) (by omega) (by simp) hmissing⟩

/-! ## The widths -/

/-- What is said of the widths of the top and the bottom edge: nothing if the bottom edge lies under
the top edge, and otherwise both widths, which differ since one side is right. -/
inductive Widths (start topRight bottomLeft bottomRight : Position) : List Diagnostic → Prop where
  /-- Both bottom corners stand under the top corners. -/
  | agree (hleft : bottomLeft.col = start.col) (hright : bottomRight.col = topRight.col) :
    Widths start topRight bottomLeft bottomRight []
  /-- One of them does not. -/
  | differ (hside : bottomLeft.col = start.col ∨ bottomRight.col = topRight.col)
    (hwidths : topRight.col - start.col ≠ bottomRight.col - bottomLeft.col) :
    Widths start topRight bottomLeft bottomRight
      [.mismatchedWidth start (topRight.col - start.col) (bottomRight.col - bottomLeft.col)
        topRight.col bottomRight.row bottomLeft.col bottomRight.col]

/-- Where one side is right, the widths are told as they should be. -/
theorem widths_widthProblem
    (hside : bottomLeft.col = start.col ∨ bottomRight.col = topRight.col) :
    Widths start topRight bottomLeft bottomRight
      (widthProblem start topRight bottomLeft bottomRight) := by
  rw [widthProblem]
  split
  · next hdiffer => exact .differ hside (by omega)
  · next hsame => exact .agree (by omega) (by omega)

/-! ## Whole outlines -/

/-- The problems of an outline in the order of its edges. -/
inductive InEdgeOrder (g : Grid) (radius : Int) (start : Position) : List Diagnostic → Prop where
  /-- The top edge leads to no corner. -/
  | openTop (htop : ∀ q, ¬ g.TopEdgeTo start q) :
    InEdgeOrder g radius start [.unclosedBox .top start start]
  /-- The right or the bottom edge is open, on the last row that was walked or further down. -/
  | openBelow (topRight p : Position) (edge : Edge) (right : List Position)
    (htop : g.TopEdgeTo start topRight)
    (hright : g.BesideRight radius start.row start.col topRight.col right)
    (hedge : edge = .right ∨ edge = .bottom) (hrow : ∀ q ∈ right, q.row ≤ p.row) :
    InEdgeOrder g radius start (misalignedPipes topRight.col right ++ [.unclosedBox edge p start])
  /-- All four corners are there. -/
  | corners (topRight bottomLeft bottomRight : Position) (right left : List Position)
    (width last : List Diagnostic) (htop : g.TopEdgeTo start topRight)
    (hbottomRight : g.cellIs bottomRight .corner = true)
    (hbottomLeft : g.cellIs bottomLeft .corner = true)
    (hrows : bottomLeft.row = bottomRight.row) (hbelow : start.row < bottomRight.row)
    (hright : g.BesideRight radius start.row start.col topRight.col right)
    (habove : ∀ q ∈ right, q.row < bottomRight.row)
    (hwidth : Widths start topRight bottomLeft bottomRight width)
    (hleft : g.BesideLeft radius start.row bottomRight.row start.col topRight.col left)
    (hlast : g.OpenLeft start bottomRight.row left last) :
    InEdgeOrder g radius start
      (misalignedPipes topRight.col right ++ width ++ misalignedPipes start.col left ++ last)

/-- With all four corners, the problems of an outline are listed in the order of its edges. -/
theorem inEdgeOrder_closeOutline {name : Option String} {problems : List Diagnostic}
    (htop : g.cellIs (g.topEnd start) .corner = true)
    (hleft : g.cellIs bottomLeft .corner = true) (hright : g.cellIs bottomRight .corner = true)
    (hrows : bottomLeft.row = bottomRight.row)
    (hbottom : bottomRight.row = (g.topEnd start).row + (g.rightEdge radius start).rows + 1)
    (hside : bottomLeft.col = start.col ∨ bottomRight.col = (g.topEnd start).col)
    (h : (g.closeOutline radius start (g.topEnd start) bottomLeft bottomRight name
      (g.rightEdge radius start)).outcome = .error problems) :
    g.InEdgeOrder radius start problems := by
  obtain ⟨right, hmisplaced, hbesideRight, hlow⟩ := exists_misplaced_rightEdge radius htop
  obtain ⟨left, last, hclimb, hbesideLeft, hlast⟩ :=
    exists_climb_eq g radius start (g.topEnd start) (bottomRight.row - start.row - 1).toNat
  have htopRight := topEdgeTo_topEnd htop
  have htopRow := htopRight.1
  have hbetween : start.row + ((bottomRight.row - start.row - 1).toNat : Int) + 1 =
      bottomRight.row := by omega
  rw [hbetween] at hbesideLeft hlast
  rw [closeOutline] at h
  dsimp only at h
  split at h
  · simp at h
  · rw [← Except.error.inj h, hmisplaced, hclimb, ← List.append_assoc]
    refine .corners (g.topEnd start) bottomLeft bottomRight right left _ last htopRight hright
      hleft hrows (by omega) hbesideRight (fun q hq => ?_) (widths_widthProblem hside) hbesideLeft
      hlast
    have hq := hlow q hq
    omega

/-- However an outline ended, its problems are listed in the order of its edges. -/
theorem Follows.inEdgeOrder {o : Outline} {problems : List Diagnostic}
    (h : Follows g radius start o) (herror : o.outcome = .error problems) :
    g.InEdgeOrder radius start problems := by
  have hends : EndsAfter start (g.topEnd start) (g.rightEdge radius start).rows
      (g.rightEdge radius start).ending :=
    endsAfter_descend g radius start (g.topEnd start) g.height 0
  cases h with
  | openTop htop =>
    rw [← Except.error.inj herror]
    refine .openTop fun q hq => ?_
    obtain ⟨rfl, hcorner⟩ := reaches_topEnd_iff.1 (reaches_right_iff.2 hq)
    rw [htop] at hcorner
    simp at hcorner
  | openRight problem corners htop hend =>
    obtain ⟨right, hmisplaced, hbeside, hlow⟩ := exists_misplaced_rightEdge radius htop
    have htopRow := (topEdgeTo_topEnd htop).1
    rw [hend] at hends
    rw [← Except.error.inj herror, hmisplaced]
    cases hends with
    | unclosed edge p _ hedge hrow =>
      refine .openBelow (g.topEnd start) p edge right (topEdgeTo_topEnd htop) hbeside hedge ?_
      intro q hq
      have hq := hlow q hq
      omega
  | openBottom bottomRight htop hend hbottom =>
    obtain ⟨right, hmisplaced, hbeside, hlow⟩ := exists_misplaced_rightEdge radius htop
    have htopRow := (topEdgeTo_topEnd htop).1
    rw [hend] at hends
    rw [← Except.error.inj herror, hmisplaced]
    cases hends with
    | corner =>
      refine .openBelow (g.topEnd start) _ .bottom right (topEdgeTo_topEnd htop) hbeside (.inr rfl)
        fun q hq => ?_
      have hq := hlow q hq
      simp only [Position.down]
      omega
  | fromRight bottomRight htop hend hbottom =>
    -- The walk down ended in the column of the right edge, so the right side is right.
    have hbelow := endsBelow_rightEdge radius htop
    rw [hend] at hends hbelow
    cases hends with
    | corner =>
      cases hbelow with
      | corner _ _ hcorner =>
        refine inEdgeOrder_closeOutline htop hbottom hcorner rfl ?_ (.inr rfl) herror
        simp only [Position.down]
        omega
  | fromLeft bottomLeft bottomRight htop hend =>
    -- The bottom edge was followed from the column of the left edge, so the left side is right.
    have hbelow := endsBelow_rightEdge radius htop
    rw [hend] at hends hbelow
    cases hends with
    | fromLeft _ hrow =>
      cases hbelow with
      | fromLeft _ _ _ hrows hleft hright =>
        exact inEdgeOrder_closeOutline htop hleft hright hrows.symm hrow (.inl rfl) herror

/-- From any place and with any radius, the problems of an outline that is not that of a box are
listed in the order of its edges, and there is at least one. -/
theorem outline_inEdgeOrder (g : Grid) (radius : Int) (start : Position)
    (problems : List Diagnostic) (h : (g.outline radius start).outcome = .error problems) :
    problems ≠ [] ∧ g.InEdgeOrder radius start problems :=
  ⟨(follows_outline g radius start).problems_ne_nil h,
    (follows_outline g radius start).inEdgeOrder h⟩

/-- A box with pieces beside both of its sides, a bottom edge that is too short, and nothing of the
left edge on one of its rows. -/
def brokenBox : Grid :=
  .ofLines ["+----+".toList, "     |".toList, " |    |".toList, "+--+".toList]

/-- The problems of a box that has one of each kind, but for those that leave out the others. -/
theorem outline_inEdgeOrder_broken_box :
    (brokenBox.outline 3 ⟨0, 0⟩).outcome =
        .error [.misalignedPipe ⟨2, 6⟩ 5 6, .mismatchedWidth ⟨0, 0⟩ 5 3 5 3 0 3,
          .misalignedPipe ⟨2, 1⟩ 0 1, .unclosedBox .left ⟨1, 0⟩ ⟨0, 0⟩] ∧
      brokenBox.InEdgeOrder 3 ⟨0, 0⟩
        [.misalignedPipe ⟨2, 6⟩ 5 6, .mismatchedWidth ⟨0, 0⟩ 5 3 5 3 0 3,
          .misalignedPipe ⟨2, 1⟩ 0 1, .unclosedBox .left ⟨1, 0⟩ ⟨0, 0⟩] := by
  have houtcome : (brokenBox.outline 3 ⟨0, 0⟩).outcome =
      .error [.misalignedPipe ⟨2, 6⟩ 5 6, .mismatchedWidth ⟨0, 0⟩ 5 3 5 3 0 3,
        .misalignedPipe ⟨2, 1⟩ 0 1, .unclosedBox .left ⟨1, 0⟩ ⟨0, 0⟩] := rfl
  exact ⟨houtcome, (outline_inEdgeOrder brokenBox 3 ⟨0, 0⟩ _ houtcome).2⟩

end Grid

end Wireframe
