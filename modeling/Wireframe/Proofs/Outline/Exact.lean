import Wireframe.Proofs.Outline.Edges

/-!
# Following an outline finds exactly the closed rectangles

`Closes.outline_eq` computes the outline of a closed rectangle: it is that of a box with its
bounds, whatever the radius. `Follows.closes` is the converse: however the walk ended, an outline
without problems is that of a closed rectangle. In particular a bottom edge that was found from its
left corner never belongs to a box, since the right edge does not reach it. `outline_box_iff_closes`
puts the two together with what is known of an outline that is not a box.

`Follows` lists the ways in which following an outline may end. All else that is said about outlines
goes by cases on it.
-/

namespace Wireframe

namespace Grid

variable {g : Grid} {radius : Int} {start : Position} {o : Outline} {b : Bounds} {box : Box}

/-! ## The ways in which an outline may end -/

/-- Where a top edge ends. -/
def topEnd (g : Grid) (start : Position) : Position :=
  start.right ((g.scan .right (start.right 1) Cell.isTopEdge).length + 1)

/-- The name in a top edge. -/
def topName (g : Grid) (start : Position) : Option String :=
  Outline.nameOf ((g.scan .right (start.right 1) Cell.isTopEdge).map fun placed => placed.2.toChar)

/-- Where the bottom edge that ends at its right corner begins. -/
def bottomEnd (g : Grid) (bottomRight : Position) : Position :=
  bottomRight.left ((g.scan .left (bottomRight.left 1) Cell.isBottomEdge).length + 1)

/-- The walk down the right edge of the outline at `start`. -/
def rightEdge (g : Grid) (radius : Int) (start : Position) : RightEdge :=
  g.descend radius start (g.topEnd start) g.height 0

/-- What following an outline may find, by the way in which it ends. -/
inductive Follows (g : Grid) (radius : Int) (start : Position) : Outline → Prop where
  /-- The top edge leads to no corner. -/
  | openTop (htop : g.cellIs (g.topEnd start) .corner = false) :
    Follows g radius start ⟨start, .error [.unclosedBox .top start start], [], 0⟩
  /-- The right edge leads neither to a corner nor to a row with a bottom edge. -/
  | openRight (problem : Diagnostic) (corners : List Position)
    (htop : g.cellIs (g.topEnd start) .corner = true)
    (hend : (g.rightEdge radius start).ending = .unclosed problem corners) :
    Follows g radius start
      ⟨start, .error ((g.rightEdge radius start).misplaced ++ [problem]),
        g.topEnd start :: corners, (g.rightEdge radius start).rows⟩
  /-- The bottom edge leads from its right corner to no corner. -/
  | openBottom (bottomRight : Position)
    (htop : g.cellIs (g.topEnd start) .corner = true)
    (hend : (g.rightEdge radius start).ending = .corner bottomRight)
    (hbottom : g.cellIs (g.bottomEnd bottomRight) .corner = false) :
    Follows g radius start
      ⟨start,
        .error ((g.rightEdge radius start).misplaced ++ [.unclosedBox .bottom bottomRight start]),
        [g.topEnd start], (g.rightEdge radius start).rows⟩
  /-- The bottom edge was followed from its right corner. -/
  | fromRight (bottomRight : Position)
    (htop : g.cellIs (g.topEnd start) .corner = true)
    (hend : (g.rightEdge radius start).ending = .corner bottomRight)
    (hbottom : g.cellIs (g.bottomEnd bottomRight) .corner = true) :
    Follows g radius start
      (g.closeOutline radius start (g.topEnd start) (g.bottomEnd bottomRight) bottomRight
        (g.topName start) (g.rightEdge radius start))
  /-- The bottom edge was followed from its left corner. -/
  | fromLeft (bottomLeft bottomRight : Position)
    (htop : g.cellIs (g.topEnd start) .corner = true)
    (hend : (g.rightEdge radius start).ending = .fromLeft bottomLeft bottomRight) :
    Follows g radius start
      (g.closeOutline radius start (g.topEnd start) bottomLeft bottomRight
        (g.topName start) (g.rightEdge radius start))

/-- Following an outline ends in one of these ways. -/
theorem follows_outline (g : Grid) (radius : Int) (start : Position) :
    Follows g radius start (g.outline radius start) := by
  unfold outline
  dsimp only
  split
  · next htop =>
    split
    · next problem corners hend => exact .openRight problem corners htop hend
    · next bottomLeft bottomRight hend => exact .fromLeft bottomLeft bottomRight htop hend
    · next bottomRight hend =>
      split
      · next hbottom => exact .fromRight bottomRight htop hend hbottom
      · next hbottom => exact .openBottom bottomRight htop hend (Bool.eq_false_iff.2 hbottom)
  · next htop => exact .openTop (Bool.eq_false_iff.2 htop)

/-- A top edge ends at the corner that it leads to. -/
theorem reaches_topEnd_iff {q : Position} :
    g.Reaches .right Cell.isTopEdge start q ↔ q = g.topEnd start ∧ g.cellIs q .corner = true :=
  reaches_iff rfl

/-- A bottom edge begins at the corner that it leads back to. -/
theorem reaches_bottomEnd_iff {p q : Position} :
    g.Reaches .left Cell.isBottomEdge p q ↔ q = g.bottomEnd p ∧ g.cellIs q .corner = true :=
  reaches_iff rfl

/-! ## Outlines with all four corners -/

/-- A bottom edge lies under the top edge when it has the same columns. -/
theorem widthProblem_eq_nil_iff {topRight bottomLeft bottomRight : Position} :
    widthProblem start topRight bottomLeft bottomRight = [] ↔
      bottomLeft.col = start.col ∧ bottomRight.col = topRight.col := by
  rw [widthProblem]
  split
  · next h =>
    simp only [List.cons_ne_nil, false_iff]
    omega
  · next h =>
    simp only [true_iff]
    omega

/-- An outline with all four corners and nothing wrong with its edges is that of a box. -/
theorem closeOutline_of_nil {topRight bottomLeft bottomRight : Position} {name : Option String}
    {right : RightEdge} (hright : right.misplaced = []) (hleftCol : bottomLeft.col = start.col)
    (hrightCol : bottomRight.col = topRight.col)
    (hclimb : g.climb radius start topRight (bottomRight.row - start.row - 1).toNat = []) :
    g.closeOutline radius start topRight bottomLeft bottomRight name right =
      { start
        outcome := .ok ⟨⟨start.row, start.col, bottomRight.row, bottomRight.col⟩, name⟩
        corners := [topRight, bottomRight, bottomLeft]
        edgeRows := right.rows } := by
  have hnone : right.misplaced ++ widthProblem start topRight bottomLeft bottomRight ++
      g.climb radius start topRight (bottomRight.row - start.row - 1).toNat = [] := by
    rw [hright, hclimb, widthProblem_eq_nil_iff.2 ⟨hleftCol, hrightCol⟩]
    rfl
  unfold closeOutline
  dsimp only
  rw [if_pos hnone]

/-- An outline with all four corners is a box exactly when its right edge is straight, its bottom
edge lies under its top edge and its left edge is in order. -/
theorem closeOutline_eq_ok_iff {topRight bottomLeft bottomRight : Position} {name : Option String}
    {right : RightEdge} :
    (g.closeOutline radius start topRight bottomLeft bottomRight name right).outcome = .ok box ↔
      (right.misplaced = [] ∧ bottomLeft.col = start.col ∧ bottomRight.col = topRight.col ∧
        g.climb radius start topRight (bottomRight.row - start.row - 1).toNat = []) ∧
      box = ⟨⟨start.row, start.col, bottomRight.row, bottomRight.col⟩, name⟩ := by
  constructor
  · intro hok
    unfold closeOutline at hok
    dsimp only at hok
    split at hok
    · next hnone =>
      simp only [List.append_eq_nil_iff, widthProblem_eq_nil_iff] at hnone
      obtain ⟨⟨hright, hleftCol, hrightCol⟩, hclimb⟩ := hnone
      exact ⟨⟨hright, hleftCol, hrightCol, hclimb⟩, (Except.ok.inj hok).symm⟩
    · simp at hok
  · rintro ⟨⟨hright, hleftCol, hrightCol, hclimb⟩, rfl⟩
    rw [closeOutline_of_nil hright hleftCol hrightCol hclimb]

/-! ## Closed rectangles are found -/

/-- The top edge of a closed rectangle ends at its top right corner. -/
theorem Closes.topEnd_eq (h : g.Closes b) : g.topEnd b.topLeft = ⟨b.top, b.right⟩ := by
  have hreach : g.Reaches .right Cell.isTopEdge b.topLeft ⟨b.top, b.right⟩ :=
    reaches_right_iff.2 ⟨rfl, h.left_lt_right, h.topEdge, h.topRight⟩
  exact (reaches_topEnd_iff.1 hreach).1.symm

/-- The bottom edge of a closed rectangle begins at its bottom left corner. -/
theorem Closes.bottomEnd_eq (h : g.Closes b) :
    g.bottomEnd ⟨b.bottom, b.right⟩ = ⟨b.bottom, b.left⟩ := by
  have hreach : g.Reaches .left Cell.isBottomEdge ⟨b.bottom, b.right⟩ ⟨b.bottom, b.left⟩ :=
    reaches_left_iff.2 ⟨rfl, h.left_lt_right, h.bottomEdge, h.bottomLeft⟩
  exact (reaches_bottomEnd_iff.1 hreach).1.symm

/-- The right edge of a closed rectangle is straight and ends at its bottom right corner. -/
theorem Closes.rightEdge_eq (h : g.Closes b) (radius : Int) :
    g.rightEdge radius b.topLeft =
      ⟨[], (b.bottom - b.top - 1).toNat, .corner ⟨b.bottom, b.right⟩⟩ := by
  have hrows := h.top_lt_bottom
  obtain ⟨htop, -, -, -⟩ := bounds_of_cellIs h.topRight
  obtain ⟨-, hbottom, -, -⟩ := bounds_of_cellIs h.bottomRight
  simp only at htop hbottom
  generalize hn : (b.bottom - b.top - 1).toNat = n
  have hend : (⟨b.top, b.right⟩ : Position).down (n + 1) = ⟨b.bottom, b.right⟩ :=
    Position.ext (by simp only [Position.down]; omega) rfl
  have hrun : ∀ i < n, g.cellIs ((⟨b.top, b.right⟩ : Position).down (i + 1)) .vertical = true :=
    verticals_below_iff.2 fun row hlt hgt => h.rightEdge row hlt (by simp only at hgt; omega)
  have hcorner : g.cellIs ((⟨b.top, b.right⟩ : Position).down (n + 1)) .corner = true := by
    rw [hend]
    exact h.bottomRight
  rw [Grid.rightEdge, h.topEnd_eq,
    descend_straight (Nat.zero_le n) (by omega) (by omega) (fun i _ hi => hrun i hi) hcorner, hend]

/-- The left edge of a closed rectangle is in order. -/
theorem Closes.climb_eq (h : g.Closes b) (radius : Int) (topRight : Position) :
    g.climb radius b.topLeft topRight (b.bottom - b.top - 1).toNat = [] :=
  climb_eq_nil_iff.2 (verticals_below_iff.2 fun row hlt hgt =>
    h.leftEdge row hlt (by simp only [Bounds.topLeft] at hlt hgt; omega))

/-- The outline of a closed rectangle is that of a box with its bounds. -/
theorem Closes.outline_eq (h : g.Closes b) :
    g.outline radius b.topLeft =
      { start := b.topLeft
        outcome := .ok ⟨b, g.topName b.topLeft⟩
        corners := [⟨b.top, b.right⟩, ⟨b.bottom, b.right⟩, ⟨b.bottom, b.left⟩]
        edgeRows := (b.bottom - b.top - 1).toNat } := by
  have hfollows := follows_outline g radius b.topLeft
  generalize g.outline radius b.topLeft = o at hfollows
  have htopEnd := h.topEnd_eq
  have hright := h.rightEdge_eq radius
  -- Every ending but the one at the bottom right corner contradicts the edges.
  cases hfollows with
  | openTop htop =>
    rw [htopEnd, h.topRight] at htop
    simp at htop
  | openRight problem corners htop hend =>
    rw [hright] at hend
    simp at hend
  | openBottom bottomRight htop hend hbottom =>
    rw [hright, RightEnd.corner.injEq] at hend
    rw [← hend, h.bottomEnd_eq, h.bottomLeft] at hbottom
    simp at hbottom
  | fromLeft bottomLeft bottomRight htop hend =>
    rw [hright] at hend
    simp at hend
  | fromRight bottomRight htop hend hbottom =>
    rw [hright, RightEnd.corner.injEq] at hend
    subst hend
    have hclimb := h.climb_eq radius ⟨b.top, b.right⟩
    rw [hright, htopEnd, h.bottomEnd_eq]
    exact closeOutline_of_nil rfl rfl rfl hclimb

/-! ## Only closed rectangles are found -/

/-- An outline that is that of a box is closed, with the bounds of the box. -/
theorem Follows.closes (h : Follows g radius start o) (hok : o.outcome = .ok box) :
    g.Closes box.bounds ∧ box.bounds.topLeft = start := by
  cases h with
  | openTop htop => simp at hok
  | openRight problem corners htop hend => simp at hok
  | openBottom bottomRight htop hend hbottom => simp at hok
  | fromLeft bottomLeft bottomRight htop hend =>
    -- The bottom right corner would stand where the right edge was seen to hold none.
    obtain ⟨-, -, hcorner, hnone⟩ := descend_fromLeft hend
    obtain ⟨⟨-, -, hcol, -⟩, -⟩ := closeOutline_eq_ok_iff.1 hok
    rw [← hcol, hcorner] at hnone
    simp at hnone
  | fromRight bottomRight htop hend hbottom =>
    obtain ⟨⟨hclean, hleftCol, hrightCol, hclimb⟩, rfl⟩ := closeOutline_eq_ok_iff.1 hok
    obtain ⟨n, -, hpos, hdown, hcorner, hrun⟩ := descend_corner hclean hend
    obtain ⟨htopRow, htopCol, htopEdge, -⟩ :=
      reaches_right_iff.1 (reaches_topEnd_iff.2 ⟨rfl, htop⟩)
    obtain ⟨hbottomRow, hbottomCol, hbottomEdge, -⟩ :=
      reaches_left_iff.1 (reaches_bottomEnd_iff.2 ⟨rfl, hbottom⟩)
    have hrow : bottomRight.row = start.row + (n + 1) := by
      rw [hdown, Position.down, htopRow]
    have hbottomLeft : g.bottomEnd bottomRight = ⟨bottomRight.row, start.col⟩ :=
      Position.ext hbottomRow hleftCol
    have htopRight : g.topEnd start = ⟨start.row, bottomRight.col⟩ :=
      Position.ext htopRow hrightCol.symm
    rw [hleftCol] at hbottomEdge
    rw [htopRight] at htop htopEdge hrun
    rw [hbottomLeft] at hbottom
    have hrightEdge := verticals_below_iff.1 fun i hi => hrun i (Nat.zero_le i) hi
    have hleftEdge := verticals_below_iff.1 (climb_eq_nil_iff.1 hclimb)
    refine ⟨?_, rfl⟩
    exact
      { top_lt_bottom := by simp only; omega
        left_lt_right := by simp only; omega
        topEdge := htopEdge
        topRight := htop
        rightEdge := fun row hlt hgt => hrightEdge row hlt (by simp only at hgt ⊢; omega)
        bottomRight := hcorner
        bottomEdge := hbottomEdge
        bottomLeft := hbottom
        leftEdge := fun row hlt hgt => hleftEdge row hlt (by simp only at hgt; omega) }

/-- An outline that is not that of a box has at least one problem. -/
theorem Follows.problems_ne_nil (h : Follows g radius start o) {problems : List Diagnostic}
    (herror : o.outcome = .error problems) : problems ≠ [] := by
  cases h with
  | openTop htop =>
    rw [← Except.error.inj herror]
    simp
  | openRight problem corners htop hend =>
    rw [← Except.error.inj herror]
    simp
  | openBottom bottomRight htop hend hbottom =>
    rw [← Except.error.inj herror]
    simp
  | fromRight bottomRight htop hend hbottom =>
    rw [closeOutline] at herror
    dsimp only at herror
    split at herror
    · simp at herror
    · next hsome => exact fun hnil => hsome (by rw [Except.error.inj herror]; exact hnil)
  | fromLeft bottomLeft bottomRight htop hend =>
    rw [closeOutline] at herror
    dsimp only at herror
    split at herror
    · simp at herror
    · next hsome => exact fun hnil => hsome (by rw [Except.error.inj herror]; exact hnil)

/-- The problems of an outline that is not that of a box. -/
theorem exists_problems (g : Grid) (radius : Int) (start : Position)
    (hnot : ∀ box, (g.outline radius start).outcome ≠ .ok box) :
    ∃ problems, problems ≠ [] ∧ (g.outline radius start).outcome = .error problems := by
  cases herror : (g.outline radius start).outcome with
  | ok box => exact absurd herror (hnot box)
  | error problems =>
    exact ⟨problems, (follows_outline g radius start).problems_ne_nil herror, rfl⟩

/-- An outline is that of a box exactly when a rectangle closes where it starts. -/
theorem outline_ok_iff :
    (∃ box, (g.outline radius start).outcome = .ok box) ↔
      ∃ bottom right, g.Closes ⟨start.row, start.col, bottom, right⟩ := by
  constructor
  · rintro ⟨box, hok⟩
    obtain ⟨hcloses, hstart⟩ := (follows_outline g radius start).closes hok
    refine ⟨box.bounds.bottom, box.bounds.right, ?_⟩
    rw [← hstart]
    exact hcloses
  · rintro ⟨bottom, right, hcloses⟩
    have houtline : g.outline radius start = _ := hcloses.outline_eq
    rw [houtline]
    exact ⟨_, rfl⟩

/-- The radius does not decide which outlines are those of boxes, nor what these boxes are. -/
theorem box?_outline_eq (g : Grid) (radius radius' : Int) (start : Position) :
    (g.outline radius start).box? = (g.outline radius' start).box? := by
  by_cases hcloses : ∃ bottom right, g.Closes ⟨start.row, start.col, bottom, right⟩
  · obtain ⟨bottom, right, hcloses⟩ := hcloses
    have h : g.outline radius start = _ := hcloses.outline_eq
    have h' : g.outline radius' start = _ := hcloses.outline_eq
    rw [h, h']
  · have hnone : ∀ radius, (g.outline radius start).box? = none := by
      intro radius
      obtain ⟨problems, -, herror⟩ := exists_problems g radius start fun box hok =>
        hcloses (outline_ok_iff.1 ⟨box, hok⟩)
      rw [Outline.box?, herror]
    rw [hnone, hnone]

/-! ## Outlines and closed rectangles -/

/-- From any place, following an outline gives a box exactly when a rectangle closes there. There is
then only one such rectangle; the box has its bounds, and the corners that were reached are its
other three. Otherwise there is at least one problem and no box. The radius has no part in this. -/
theorem outline_box_iff_closes (g : Grid) (radius : Int) (start : Position) :
    ((∃ box, (g.outline radius start).outcome = .ok box) ↔
        ∃ bottom right, g.Closes ⟨start.row, start.col, bottom, right⟩) ∧
      (∀ bottom right, g.Closes ⟨start.row, start.col, bottom, right⟩ →
        (∀ bottom' right', g.Closes ⟨start.row, start.col, bottom', right'⟩ →
            bottom' = bottom ∧ right' = right) ∧
          (∃ name, (g.outline radius start).outcome =
            .ok ⟨⟨start.row, start.col, bottom, right⟩, name⟩) ∧
          (g.outline radius start).corners =
            [⟨start.row, right⟩, ⟨bottom, right⟩, ⟨bottom, start.col⟩]) ∧
      ((¬ ∃ bottom right, g.Closes ⟨start.row, start.col, bottom, right⟩) →
        ∃ problems, problems ≠ [] ∧ (g.outline radius start).outcome = .error problems) ∧
      ∀ radius', (g.outline radius' start).box? = (g.outline radius start).box? := by
  refine ⟨outline_ok_iff, fun bottom right hcloses => ⟨?_, ?_, ?_⟩, fun hnot => ?_, fun radius' =>
    box?_outline_eq g radius' radius start⟩
  · intro bottom' right' hcloses'
    have hsame := hcloses'.unique hcloses rfl rfl
    simp only [Bounds.mk.injEq, true_and] at hsame
    exact hsame
  · have houtline : g.outline radius start = _ := hcloses.outline_eq
    rw [houtline]
    exact ⟨_, rfl⟩
  · have houtline : g.outline radius start = _ := hcloses.outline_eq
    rw [houtline]
  · exact exists_problems g radius start fun box hok => hnot (outline_ok_iff.1 ⟨box, hok⟩)

/-- A box with a divider for its bottom edge, and the outline that starts at its bottom left corner
and leads nowhere. -/
theorem outline_box_iff_closes_divider_box :
    (∃ name,
        ((Grid.ofLines ["+-a+".toList, "|  |".toList, "+==+".toList]).outline 3 ⟨0, 0⟩).outcome =
          .ok ⟨⟨0, 0, 2, 3⟩, name⟩) ∧
      ∃ problems, problems ≠ [] ∧
        ((Grid.ofLines ["+-a+".toList, "|  |".toList, "+==+".toList]).outline 3 ⟨2, 0⟩).outcome =
          .error problems := by
  have hcloses : (Grid.ofLines ["+-a+".toList, "|  |".toList, "+==+".toList]).Closes
      ⟨0, 0, 2, 3⟩ := by decide
  refine ⟨((outline_box_iff_closes _ 3 ⟨0, 0⟩).2.1 2 3 hcloses).2.1, ?_⟩
  refine (outline_box_iff_closes _ 3 ⟨2, 0⟩).2.2.1 ?_
  rintro ⟨bottom, right, hbottom⟩
  -- There are no rows below the one it starts on.
  have hrow := (bounds_of_cellIs hbottom.bottomRight).2.1
  have hrows := hbottom.top_lt_bottom
  simp only [Grid.height, Grid.ofLines, List.map_cons, List.map_nil, List.length_cons,
    List.length_nil] at hrow hrows
  omega

end Grid

end Wireframe
