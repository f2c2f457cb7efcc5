import Wireframe.Proofs.Detection

/-!
# What is wrong with an outline, in terms of the cells

Every problem that following an outline finds is a fault of the drawing: `Fault` lists the three
kinds with what stands in the cells that each of them names, and `fault_of_mem_problems` says that
there are no others. A misplaced piece of an edge stands where the problem says, and none stands in
the column where it is expected; edges that do not match have a corner at each of their four ends.

`EndsBelow` lists the ways in which a walk down a right edge may end. All corners that it reaches
lie below the top edge, and where it breaks off it is still on a row of the drawing.
-/

namespace Wireframe

namespace Grid

variable {g : Grid} {radius : Int} {start topRight p q : Position} {d : Diagnostic}

/-! ## Misplaced pieces of a vertical edge -/

/-- The misplaced piece that is found is one of those that are looked at. -/
theorem mem_pipesNear_of_nearestPipe {row expected col : Int} {limit : ColumnLimit}
    (h : g.nearestPipe radius row expected limit = some col) :
    col ∈ g.pipesNear radius row expected limit :=
  (of_nearestPipe_eq_some h).1

/-- A piece of a vertical edge stands where a misplaced one is found. -/
theorem vertical_of_nearestPipe {row expected col : Int} {limit : ColumnLimit}
    (h : g.nearestPipe radius row expected limit = some col) :
    g.cellIs ⟨row, col⟩ .vertical = true :=
  (mem_pipesNear_iff.1 (mem_pipesNear_of_nearestPipe h)).1

/-- The position lies on a row of the grid, maybe behind its last column. -/
def OnRow (g : Grid) (p : Position) : Prop := 0 ≤ p.row ∧ p.row < g.height ∧ 0 ≤ p.col

/-- A position with something in it lies on its row. -/
theorem onRow_of_cellIs {kind : Cell.Kind} (h : g.cellIs p kind = true) : g.OnRow p := by
  obtain ⟨hrow, hheight, hcol, -⟩ := bounds_of_cellIs h
  exact ⟨hrow, hheight, hcol⟩

/-- What is wrong with a drawing where an outline was followed. -/
inductive Fault (g : Grid) : Diagnostic → Prop where
  /-- An edge does not reach its corner and breaks off on a row of the drawing. -/
  | unclosed (edge : Edge) (p start : Position) (hplace : g.OnRow p) :
    Fault g (.unclosedBox edge p start)
  /-- A piece of a vertical edge stands beside its column, where there is none. -/
  | misaligned (row expected actual : Int) (hpiece : g.cellIs ⟨row, actual⟩ .vertical = true)
    (hmissing : g.cellIs ⟨row, expected⟩ .vertical = false) (hexpected : 0 ≤ expected) :
    Fault g (.misalignedPipe ⟨row, actual⟩ expected actual)
  /-- A top and a bottom edge have their corners and do not match. -/
  | mismatched (top left right bottom bottomLeft bottomRight : Int)
    (htopLeft : g.cellIs ⟨top, left⟩ .corner = true)
    (htopRight : g.cellIs ⟨top, right⟩ .corner = true)
    (hbottomLeft : g.cellIs ⟨bottom, bottomLeft⟩ .corner = true)
    (hbottomRight : g.cellIs ⟨bottom, bottomRight⟩ .corner = true) :
    Fault g (.mismatchedWidth ⟨top, left⟩ (right - left) (bottomRight - bottomLeft) right bottom
      bottomLeft bottomRight)

/-! ## The right edge -/

/-- How a walk down a right edge may end, and what it has reached below the top edge by then. -/
inductive EndsBelow (g : Grid) (start topRight : Position) : RightEnd → Prop where
  /-- At a corner in the column of the edge. -/
  | corner (q : Position) (hrow : topRight.row < q.row) (hcorner : g.cellIs q .corner = true) :
    EndsBelow g start topRight (.corner q)
  /-- At a bottom edge that was followed from its left corner. -/
  | fromLeft (bottomLeft bottomRight : Position) (hrow : topRight.row < bottomLeft.row)
    (hrows : bottomRight.row = bottomLeft.row) (hleft : g.cellIs bottomLeft .corner = true)
    (hright : g.cellIs bottomRight .corner = true) :
    EndsBelow g start topRight (.fromLeft bottomLeft bottomRight)
  /-- Nowhere, on some row of the drawing. -/
  | unclosed (edge : Edge) (p : Position) (corners : List Position) (hplace : g.OnRow p)
    (hrows : ∀ q ∈ corners, topRight.row < q.row) :
    EndsBelow g start topRight (.unclosed (.unclosedBox edge p start) corners)

/-- On a row below the top edge that holds neither a piece of the right edge nor its corner, the
walk ends at a bottom edge or nowhere. -/
theorem endsBelow_rightEndFromLeft (hplace : g.OnRow p) (hrow : topRight.row < p.row) :
    g.EndsBelow start topRight (g.rightEndFromLeft start p) := by
  rw [rightEndFromLeft]
  dsimp only
  split
  · next hleft =>
    split
    · next hright => exact .fromLeft _ _ hrow rfl hleft hright
    · -- The bottom edge breaks off at its last piece, or at its left corner if it has none.
      have hcol : 0 ≤ start.col := (onRow_of_cellIs hleft).2.2
      refine .unclosed .bottom _ _ ⟨hplace.1, hplace.2.1, ?_⟩ fun q hq => ?_
      · simp only [Position.right, Position.left]
        omega
      · rw [List.mem_singleton.1 hq]
        exact hrow
  · exact .unclosed .right p [] hplace (by simp)

/-- A walk down a right edge that has not left the drawing ends in one of these ways. -/
theorem endsBelow_descend (radius : Int) (start : Position) (rows walked : Nat)
    (hplace : g.OnRow (topRight.down walked)) :
    g.EndsBelow start topRight (g.descend radius start topRight rows walked).ending := by
  induction rows generalizing walked with
  | zero => exact .unclosed .right _ [] hplace (by simp)
  | succ rows ih =>
    have hrow : topRight.row < (topRight.down (walked + 1)).row := by
      simp only [Position.down]
      omega
    -- Whatever stands on the next row, that row is one of the drawing.
    have hnext : ∀ cell, g.get? (topRight.down (walked + 1)) = some cell →
        g.OnRow (topRight.down (walked + 1)) := fun cell hcell =>
      onRow_of_cellIs (cellIs_iff.2 ⟨cell, hcell, rfl⟩)
    rw [descend]
    dsimp only
    split
    · exact .unclosed .right _ [] hplace (by simp)
    · next hcell => exact ih (walked + 1) (hnext _ hcell)
    · next hcell =>
      split
      · next hnone =>
        rw [hnone] at hplace
        exact .unclosed .right _ [] (by simpa [Position.down] using hplace) (by simp)
      · exact .corner _ hrow (cellIs_iff.2 ⟨_, hcell, rfl⟩)
    · next cell _ _ hcell =>
      split
      · exact ih (walked + 1) (hnext cell hcell)
      · exact endsBelow_rightEndFromLeft (hnext cell hcell) hrow

/-- The right edge of an outline with a top edge ends in one of these ways. -/
theorem endsBelow_rightEdge (radius : Int) (htop : g.cellIs (g.topEnd p) .corner = true) :
    g.EndsBelow p (g.topEnd p) (g.rightEdge radius p).ending :=
  endsBelow_descend radius p g.height 0 (by simpa [Position.down] using onRow_of_cellIs htop)

/-- The pieces noted on the way down a right edge are misplaced. -/
theorem fault_of_mem_misplaced {rows walked : Nat} (hcol : 0 ≤ topRight.col)
    (h : d ∈ (g.descend radius start topRight rows walked).misplaced) : g.Fault d := by
  induction rows generalizing walked with
  | zero => simp [descend] at h
  | succ rows ih =>
    rw [descend] at h
    dsimp only at h
    split at h
    · simp at h
    · exact ih h
    · split at h <;> simp at h
    · next cell hvertical hcorner hcell =>
      split at h
      · next actual hactual =>
        rcases List.mem_cons.1 h with rfl | h
        · have hmissing : g.cellIs (topRight.down (walked + 1)) .vertical = false := by
            rw [cellIs, hcell, Option.any_some, decide_eq_false_iff_not]
            cases cell <;> simp_all [Cell.kind]
          exact .misaligned _ _ _ (vertical_of_nearestPipe hactual) hmissing hcol
        · exact ih h
      · simp at h

/-! ## The left edge -/

/-- What is noted on the way up a left edge is a misplaced piece, or that the box is open. -/
theorem fault_of_mem_climb {rows : Nat} (hstart : g.OnRow start)
    (hrows : start.row + rows < g.height) (h : d ∈ g.climb radius start topRight rows) :
    g.Fault d := by
  induction rows with
  | zero => simp [climb] at h
  | succ rows ih =>
    obtain ⟨hrow, -, hcol⟩ := hstart
    rw [climb] at h
    split at h
    · exact ih (by omega) h
    · next hmissing =>
      split at h
      · next actual hactual =>
        rcases List.mem_cons.1 h with rfl | h
        · exact .misaligned _ _ _ (vertical_of_nearestPipe hactual) (Bool.eq_false_iff.2 hmissing)
            hcol
        · exact ih (by omega) h
      · rw [List.mem_singleton.1 h]
        refine .unclosed .left _ start ⟨?_, ?_, hcol⟩
        · simp only [Position.down]
          omega
        · simp only [Position.down]
          omega

/-! ## Whole outlines -/

/-- With all four corners, what is wrong with an outline is a fault of the drawing. -/
theorem fault_of_mem_closeOutline {bottomLeft bottomRight : Position} {name : Option String}
    (hstart : g.cellIs start .corner = true) (htop : g.cellIs (g.topEnd start) .corner = true)
    (hleft : g.cellIs bottomLeft .corner = true) (hright : g.cellIs bottomRight .corner = true)
    (hrows : bottomRight.row = bottomLeft.row)
    (h : d ∈ (g.closeOutline radius start (g.topEnd start) bottomLeft bottomRight name
      (g.rightEdge radius start)).problems) : g.Fault d := by
  rw [Outline.problems, closeOutline] at h
  dsimp only at h
  split at h
  · simp at h
  · next problems herror =>
    split at herror
    · simp at herror
    · rw [← Except.error.inj herror, List.mem_append, List.mem_append] at h
      rcases h with (hmisplaced | hwidth) | hclimb
      · exact fault_of_mem_misplaced (bounds_of_cellIs htop).2.2.1 hmisplaced
      · rw [widthProblem] at hwidth
        split at hwidth
        · rw [List.mem_singleton.1 hwidth]
          refine .mismatched start.row start.col _ _ _ _ hstart htop ?_ hright
          rw [hrows]
          exact hleft
        · simp at hwidth
      · -- The rows that are walked up end above the bottom edge.
        have hheight := (onRow_of_cellIs hright).2.1
        have hrow := onRow_of_cellIs hstart
        refine fault_of_mem_climb hrow ?_ hclimb
        have hbelow := hrow.2.1
        omega

/-- What is wrong with an outline that starts at a corner is a fault of the drawing. -/
theorem fault_of_mem_problems (hstart : g.cellIs p .corner = true)
    (h : d ∈ (g.outline radius p).problems) : g.Fault d := by
  have hfollows := follows_outline g radius p
  generalize g.outline radius p = o at hfollows h
  cases hfollows with
  | openTop htop =>
    rw [List.mem_singleton.1 h]
    exact .unclosed .top p p (onRow_of_cellIs hstart)
  | openRight problem corners htop hend =>
    have hbelow := endsBelow_rightEdge radius htop
    rw [hend] at hbelow
    cases hbelow with
    | unclosed edge q _ hplace hrows =>
      rcases List.mem_append.1 h with hmisplaced | hopen
      · exact fault_of_mem_misplaced (bounds_of_cellIs htop).2.2.1 hmisplaced
      · rw [List.mem_singleton.1 hopen]
        exact .unclosed edge q p hplace
  | openBottom bottomRight htop hend hbottom =>
    have hbelow := endsBelow_rightEdge radius htop
    rw [hend] at hbelow
    cases hbelow with
    | corner _ hrow hcorner =>
      rcases List.mem_append.1 h with hmisplaced | hopen
      · exact fault_of_mem_misplaced (bounds_of_cellIs htop).2.2.1 hmisplaced
      · rw [List.mem_singleton.1 hopen]
        exact .unclosed .bottom bottomRight p (onRow_of_cellIs hcorner)
  | fromRight bottomRight htop hend hbottom =>
    have hbelow := endsBelow_rightEdge radius htop
    rw [hend] at hbelow
    cases hbelow with
    | corner _ hrow hcorner => exact fault_of_mem_closeOutline hstart htop hbottom hcorner rfl h
  | fromLeft bottomLeft bottomRight htop hend =>
    have hbelow := endsBelow_rightEdge radius htop
    rw [hend] at hbelow
    cases hbelow with
    | fromLeft _ _ hrow hrows hleft hright =>
      exact fault_of_mem_closeOutline hstart htop hleft hright hrows h

/-- What is found to be wrong in a drawing is a fault of it. -/
theorem fault_of_mem_detect (h : d ∈ (g.detect radius).problems) : g.Fault d := by
  obtain ⟨earlier, p, later, hsplit, -, hd⟩ := mem_problems_detect_iff.1 h
  have hp : p ∈ g.candidates := by
    rw [hsplit]
    simp
  exact fault_of_mem_problems (mem_candidates_iff.1 hp).1 hd

end Grid

end Wireframe
