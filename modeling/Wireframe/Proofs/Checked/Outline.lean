import Wireframe.Detection
import Wireframe.Proofs.Checked.Grid
import Wireframe.Proofs.Outline.Faults

/-!
# Outlines are followed to their end

Following an outline, step by step, with each step failing outside of its domain. It never fails
(`detect_eq`): the columns in which a misplaced piece of an edge is looked for make a rectangle
since no edge lies left of the drawing, the walk down a right edge ends since the drawing does, and
the corners of a box stand the right way round.
-/

namespace Wireframe.Checked

variable {g : Grid} {radius : Int} {start topRight : Position}

/-! ## Misplaced pieces of a vertical edge -/

/-- The column of the piece of a vertical edge on a row that is nearest to the expected column. -/
def nearestPipe (g : Grid) (radius row expected : Int) (limit : ColumnLimit) :
    Except Failure (Option Int) := do
  if radius ≤ 0 then return none
  else
    let window ← rectangle row (max 0 (expected - radius)) row (expected + radius)
    let cols := ((g.positionsIn .vertical window).map (·.col)).filter fun col =>
      decide (col ≠ expected) && limit.admits col
    return cols.foldl (nearerPipe limit expected) none

/-- A piece of an edge is looked for inside a rectangle if the edge is not left of the drawing. -/
theorem nearestPipe_eq {row expected : Int} {limit : ColumnLimit} (h : 0 ≤ expected) :
    nearestPipe g radius row expected limit = .ok (g.nearestPipe radius row expected limit) := by
  unfold nearestPipe Grid.nearestPipe
  split
  · rfl
  · next hradius =>
    have hvalid : (⟨row, max 0 (expected - radius), row, expected + radius⟩ : Bounds).Valid :=
      ⟨le_rfl, by simp only; omega⟩
    rw [rectangle_eq hvalid, ok_bind, pure_eq]
    rfl

/-! ## The edges -/

/-- The end of a right edge on a row that holds neither a piece of it nor its corner. -/
def rightEndFromLeft (g : Grid) (start p : Position) : Except Failure RightEnd := do
  let bottomLeft : Position := ⟨p.row, start.col⟩
  if ← cellIs g bottomLeft .corner then
    let edge ← scan g .right (bottomLeft.right 1) Cell.isBottomEdge
    let bottomRight := bottomLeft.right (edge.length + 1)
    if ← cellIs g bottomRight .corner then return .fromLeft bottomLeft bottomRight
    else return .unclosed (.unclosedBox .bottom (bottomRight.left 1) start) [bottomLeft]
  else return .unclosed (.unclosedBox .right p start) []

/-- A bottom edge is looked for from its left corner without a failure. -/
theorem rightEndFromLeft_eq (g : Grid) (start p : Position) :
    rightEndFromLeft g start p = .ok (g.rightEndFromLeft start p) := by
  unfold rightEndFromLeft Grid.rightEndFromLeft
  simp only [cellIs_eq, scan_eq, ok_bind, pure_eq]
  split
  · split <;> rfl
  · rfl

/-- The walk down the right edge under `topRight`, with `walked` rows behind it, if it ends within a
number of rounds. -/
def descend (g : Grid) (radius : Int) (start topRight : Position) :
    Nat → Nat → Except Failure RightEdge
  | 0, _ => .error .endless
  | rounds + 1, walked => do
    let p := topRight.down (walked + 1)
    match ← cell g p with
    | none => return ⟨[], walked, .unclosed (.unclosedBox .right (topRight.down walked) start) []⟩
    | some .vertical => descend g radius start topRight rounds (walked + 1)
    | some .corner =>
      if walked = 0 then return ⟨[], walked, .unclosed (.unclosedBox .right topRight start) []⟩
      else return ⟨[], walked, .corner p⟩
    | some _ =>
      match ← nearestPipe g radius p.row topRight.col (.rightOf start.col) with
      | some actual =>
        let below ← descend g radius start topRight rounds (walked + 1)
        return { below with
          misplaced := .misalignedPipe ⟨p.row, actual⟩ topRight.col actual :: below.misplaced }
      | none =>
        let ending ← rightEndFromLeft g start p
        return ⟨[], walked, ending⟩

/-- A walk down a right edge ends if it has a round for each row ahead: the last row it was on is
one of the drawing, and below the drawing there is nothing. -/
theorem descend_eq {rounds walked : Nat} (hcol : 0 ≤ topRight.col)
    (hplace : topRight.row + walked < g.height)
    (hrounds : g.height ≤ topRight.row + walked + rounds) :
    descend g radius start topRight rounds walked =
      .ok (g.descend radius start topRight rounds walked) := by
  induction rounds generalizing walked with
  | zero => omega
  | succ rounds ih =>
    -- With something on the next row the walk may go on from there.
    have hnext : ∀ c, g.get? (topRight.down (walked + 1)) = some c →
        descend g radius start topRight rounds (walked + 1) =
          .ok (g.descend radius start topRight rounds (walked + 1)) := by
      intro c hc
      have hrow := (Grid.get?_eq_some_bounds hc).2.1
      simp only [Position.down] at hrow
      exact ih (by omega) (by omega)
    have hpipe : nearestPipe g radius (topRight.down (walked + 1)).row topRight.col
        (.rightOf start.col) = .ok (g.nearestPipe radius (topRight.down (walked + 1)).row
          topRight.col (.rightOf start.col)) := nearestPipe_eq hcol
    rw [descend, Grid.descend]
    dsimp only
    rw [cell_eq, ok_bind]
    cases hcell : g.get? (topRight.down (walked + 1)) with
    | none => rfl
    | some c =>
      cases c with
      | vertical => exact hnext _ hcell
      | corner =>
        dsimp only
        split <;> rfl
      | horizontal | divider | space | ordinary =>
        dsimp only
        rw [hpipe, ok_bind]
        cases g.nearestPipe radius (topRight.down (walked + 1)).row topRight.col
            (.rightOf start.col) with
        | some actual =>
          dsimp only
          rw [hnext _ hcell, ok_bind, pure_eq]
        | none =>
          dsimp only
          rw [rightEndFromLeft_eq, ok_bind, pure_eq]

/-- What is wrong with the left edge under `start`, from `rows` rows below it upwards. -/
def climb (g : Grid) (radius : Int) (start topRight : Position) :
    Nat → Except Failure (List Diagnostic)
  | 0 => return []
  | rows + 1 => do
    let p := start.down (rows + 1)
    if ← cellIs g p .vertical then climb g radius start topRight rows
    else match ← nearestPipe g radius p.row start.col (.leftOf topRight.col) with
      | some actual =>
        let above ← climb g radius start topRight rows
        return .misalignedPipe ⟨p.row, actual⟩ start.col actual :: above
      | none => return [.unclosedBox .left p start]

/-- A walk up a left edge succeeds if the edge is not left of the drawing. -/
theorem climb_eq (h : 0 ≤ start.col) (rows : Nat) :
    climb g radius start topRight rows = .ok (g.climb radius start topRight rows) := by
  induction rows with
  | zero => rfl
  | succ rows ih =>
    rw [climb, Grid.climb]
    simp only [cellIs_eq, nearestPipe_eq h, ih, ok_bind, pure_eq]
    split
    · rfl
    · cases g.nearestPipe radius (start.down (rows + 1)).row start.col (.leftOf topRight.col) <;>
        rfl

/-! ## The whole outline -/

/-- The outline once all four corners are known. -/
def closeOutline (g : Grid) (radius : Int) (start topRight bottomLeft bottomRight : Position)
    (name : Option String) (right : RightEdge) : Except Failure Outline := do
  let left ← climb g radius start topRight (bottomRight.row - start.row - 1).toNat
  let problems := right.misplaced ++ Grid.widthProblem start topRight bottomLeft bottomRight ++ left
  let corners := [topRight, bottomRight, bottomLeft]
  if problems = [] then
    let bounds ← rectangle start.row start.col bottomRight.row bottomRight.col
    return ⟨start, .ok ⟨bounds, name⟩, corners, right.rows⟩
  else return ⟨start, .error problems, corners, right.rows⟩

/-- The corners of an outline with nothing wrong make a rectangle, if the bottom right one is not
above the first one and the top right one not left of it. -/
theorem closeOutline_eq {bottomLeft bottomRight : Position} {name : Option String}
    {right : RightEdge} (hstart : 0 ≤ start.col) (htop : start.col ≤ topRight.col)
    (hrow : start.row ≤ bottomRight.row) :
    closeOutline g radius start topRight bottomLeft bottomRight name right =
      .ok (g.closeOutline radius start topRight bottomLeft bottomRight name right) := by
  unfold closeOutline Grid.closeOutline
  rw [climb_eq hstart, ok_bind]
  dsimp only
  split
  · next hnone =>
    have hwidth := (List.append_eq_nil_iff.1 (List.append_eq_nil_iff.1 hnone).1).2
    have hcols := (Grid.widthProblem_eq_nil_iff.1 hwidth).2
    have hvalid : (⟨start.row, start.col, bottomRight.row, bottomRight.col⟩ : Bounds).Valid :=
      ⟨hrow, by simp only; omega⟩
    rw [rectangle_eq hvalid]
    rfl
  · rfl

/-- The outline of the box whose top left corner is `start`. -/
def outline (g : Grid) (radius : Int) (start : Position) : Except Failure Outline := do
  let top ← scan g .right (start.right 1) Cell.isTopEdge
  let topRight := start.right (top.length + 1)
  if ← cellIs g topRight .corner then
    let name := Outline.nameOf (top.map fun placed => placed.2.toChar)
    let right ← descend g radius start topRight g.height 0
    match right.ending with
    | .unclosed problem corners =>
      return ⟨start, .error (right.misplaced ++ [problem]), topRight :: corners, right.rows⟩
    | .fromLeft bottomLeft bottomRight =>
      closeOutline g radius start topRight bottomLeft bottomRight name right
    | .corner bottomRight =>
      let bottom ← scan g .left (bottomRight.left 1) Cell.isBottomEdge
      let bottomLeft := bottomRight.left (bottom.length + 1)
      if ← cellIs g bottomLeft .corner then
        closeOutline g radius start topRight bottomLeft bottomRight name right
      else
        return ⟨start, .error (right.misplaced ++ [.unclosedBox .bottom bottomRight start]),
          [topRight], right.rows⟩
  else return ⟨start, .error [.unclosedBox .top start start], [], 0⟩

/-- Following an outline that starts in the drawing never fails. -/
theorem outline_eq (hstart : 0 ≤ start.col) :
    outline g radius start = .ok (g.outline radius start) := by
  unfold outline Grid.outline
  simp only [scan_eq, cellIs_eq, ok_bind, pure_eq]
  have hrow : (start.right
    ((g.scan .right (start.right 1) Cell.isTopEdge).length + 1)).row = start.row := rfl
  have hcol : start.col ≤ (start.right
      ((g.scan .right (start.right 1) Cell.isTopEdge).length + 1)).col := by
    simp only [Position.right]
    omega
  generalize start.right ((g.scan .right (start.right 1) Cell.isTopEdge).length + 1) = topRight
    at hrow hcol ⊢
  split
  · next htop =>
    obtain ⟨hin, hheight, hcol', -⟩ := Grid.bounds_of_cellIs htop
    have hplace : g.OnRow (topRight.down (0 : Nat)) := by
      simpa [Position.down] using Grid.onRow_of_cellIs htop
    have hends := Grid.endsBelow_descend radius start g.height 0 hplace
    rw [descend_eq hcol' (by omega) (by omega), ok_bind]
    generalize g.descend radius start topRight g.height 0 = right at hends ⊢
    cases hending : right.ending with
    | unclosed problem corners => rfl
    | fromLeft bottomLeft bottomRight =>
      rw [hending] at hends
      cases hends with
      | fromLeft _ _ hbelow hrows _ _ => exact closeOutline_eq hstart hcol (by omega)
    | corner bottomRight =>
      rw [hending] at hends
      cases hends with
      | corner _ hbelow _ =>
        dsimp only
        split
        · exact closeOutline_eq hstart hcol (by omega)
        · rfl
  · rfl

/-- The boxes of a drawing and what is wrong with the others. -/
def detect (g : Grid) (radius : Int) : Except Failure Detection := do
  let outlines ← g.candidates.mapM (outline g radius)
  return .ofOutlines outlines

/-- Looking for the boxes of a drawing never fails. -/
theorem detect_eq (g : Grid) (radius : Int) : detect g radius = .ok (g.detect radius) := by
  have hcandidate : ∀ p ∈ g.candidates, outline g radius p = .ok (g.outline radius p) := by
    intro p hp
    have hcorner := (Grid.mem_positions_iff rfl).1 (List.mem_filter.1 hp).1
    exact outline_eq (Grid.bounds_of_cellIs hcorner).2.2.1
  rw [detect, mapM_eq_ok hcandidate]
  rfl

end Wireframe.Checked
