import Wireframe.Proofs.Detection

/-!
# When nothing is reported

Detection reports nothing exactly when every candidate is a corner of a drawn box and none is
misread (`problems_eq_nil_iff`). A corner of a bottom edge, or one that two boxes share, is misread
when the line to its right leads to a corner below which a walk down a right edge gets somewhere:
its failure is then taken for that of another box and is not silenced.

So a grid that holds boxes only may still give rise to problems. `problems_eq_nil_iff_of_onlyBoxes`
says when it does not.
-/

namespace Wireframe

namespace Grid

variable {g : Grid} {radius : Int} {p q : Position}

/-! ## Outlines that get nowhere -/

/-- The right edge of an outline gets nowhere exactly when there is no top edge below which the walk
gets somewhere. -/
theorem edgeRows_outline_eq_zero_iff (hradius : 0 ≤ radius) :
    (g.outline radius p).edgeRows = 0 ↔ ∀ q, g.TopEdgeTo p q → ¬ g.GoesBelow radius p q := by
  have hedge : g.cellIs (g.topEnd p) .corner = true →
      ((g.rightEdge radius p).rows = 0 ↔
        ∀ q, g.TopEdgeTo p q → ¬ g.GoesBelow radius p q) := by
    intro htop
    have hto : g.TopEdgeTo p (g.topEnd p) := reaches_right_iff.1 (reaches_topEnd_iff.2 ⟨rfl, htop⟩)
    obtain ⟨hrow, hrow', -, -⟩ := bounds_of_cellIs htop
    obtain ⟨rows, hrows⟩ : ∃ rows, g.height = rows + 1 := ⟨g.height - 1, by omega⟩
    rw [rightEdge, hrows, rows_descend_eq_zero_iff hradius hto.2.1 htop]
    constructor
    · intro hnot q hq
      obtain ⟨rfl, -⟩ := reaches_topEnd_iff.1 (reaches_right_iff.2 hq)
      exact hnot
    · exact fun hnot => hnot _ hto
  have hfollows := follows_outline g radius p
  generalize g.outline radius p = o at hfollows
  cases hfollows with
  | openTop htop =>
    -- Without a top edge the right edge is not walked.
    refine ⟨fun _ q hq => ?_, fun _ => rfl⟩
    obtain ⟨rfl, hcorner⟩ := reaches_topEnd_iff.1 (reaches_right_iff.2 hq)
    rw [hcorner] at htop
    simp at htop
  | openRight problem corners htop hend => exact hedge htop
  | openBottom bottomRight htop hend hbottom => exact hedge htop
  | fromRight bottomRight htop hend hbottom => exact hedge htop
  | fromLeft bottomLeft bottomRight htop hend => exact hedge htop

/-! ## When nothing is reported -/

/-- A corner with a piece of a horizontal edge to its right at which no box begins, although the
line leads to a corner below which a walk down a right edge gets somewhere. -/
structure Misread (g : Grid) (radius : Int) (p : Position) : Prop where
  /-- A corner stands there. -/
  corner : g.cellIs p .corner = true
  /-- A piece of a horizontal edge stands to its right. -/
  opening : g.cellIs (p.right 1) .horizontal = true
  /-- No box begins there. -/
  not_topLeft : ∀ b, g.Draws b → b.topLeft ≠ p
  /-- The line leads to a corner below which the walk gets somewhere. -/
  goesBelow : ∃ q, g.TopEdgeTo p q ∧ g.GoesBelow radius p q

/-- The other corners of a box come after its top left corner. -/
theorem Draws.topLeft_precedes {b : Bounds} (h : g.Draws b) (hp : b.HasCorner p)
    (hne : p ≠ b.topLeft) : b.topLeft.Precedes p := by
  have hrows := h.top_lt_bottom
  have hcols := h.left_lt_right
  obtain ⟨row, col⟩ := p
  simp only [Bounds.HasCorner, Bounds.topLeft, ne_eq, Position.mk.injEq] at hp hne
  simp only [Position.Precedes, Bounds.topLeft]
  omega

/-- A corner of a box that is not its top left one is claimed by the time it is tried. -/
theorem Draws.mem_claimed {b : Bounds} (h : g.Draws b) (radius : Int) (hp : b.HasCorner p)
    (hne : p ≠ b.topLeft) {earlier later : List Position}
    (hsplit : g.candidates = earlier ++ p :: later) :
    p ∈ (Detection.ofOutlines (earlier.map (g.outline radius))).claimed := by
  have hbefore := h.topLeft_precedes hp hne
  -- Candidates are tried in reading order, so the box has been followed before.
  have hmem : b.topLeft ∈ earlier := by
    have hcandidate := h.mem_candidates
    have horder := pairwise_candidates g
    rw [hsplit] at hcandidate horder
    rcases List.mem_append.1 hcandidate with hearlier | hlater
    · exact hearlier
    · have hafter : p.Precedes b.topLeft := by
        rcases List.mem_cons.1 hlater with heq | hlater
        · exact absurd heq.symm hne
        · exact List.rel_of_pairwise_cons (List.pairwise_append.1 horder).2.1 hlater
      exact absurd hafter hbefore.asymm
  obtain ⟨before, after, rfl⟩ := List.append_of_mem hmem
  refine Detection.mem_claimed_iff.2 ⟨before.map (g.outline radius), g.outline radius b.topLeft,
    after.map (g.outline radius), by simp, ?_, h.mem_corners_iff.2 ⟨hp, hne⟩⟩
  rintro ⟨hbox, -⟩
  exact (box?_outline_eq_none_iff h.mem_candidates).1 hbox b h rfl

/-- Nothing is reported exactly when every candidate is a corner of a drawn box and none is
misread. -/
theorem problems_eq_nil_iff (hradius : 0 ≤ radius) :
    (g.detect radius).problems = [] ↔
      (∀ p ∈ g.candidates, ∃ b, g.Draws b ∧ b.HasCorner p) ∧ ∀ p, ¬ g.Misread radius p := by
  constructor
  · intro hnone
    refine ⟨fun p hp => hasCorner_of_no_problems hnone hp, fun p hmisread => ?_⟩
    have hp : p ∈ g.candidates := mem_candidates_iff.2 ⟨hmisread.corner, hmisread.opening⟩
    obtain ⟨earlier, later, hsplit⟩ := List.append_of_mem hp
    -- No box begins there, so the failure is silenced, and the right edge has got nowhere.
    have hbox : (g.outline radius p).box? = none :=
      (box?_outline_eq_none_iff hp).2 hmisread.not_topLeft
    obtain ⟨-, -, hrows⟩ := silences_of_no_problems hnone hsplit hbox
    obtain ⟨q, hto, hbelow⟩ := hmisread.goesBelow
    exact (edgeRows_outline_eq_zero_iff hradius).1 hrows q hto hbelow
  · rintro ⟨hcorners, hread⟩
    refine List.eq_nil_iff_forall_not_mem.2 fun d hd => ?_
    obtain ⟨earlier, p, later, hsplit, hloud, hd⟩ := mem_problems_detect_iff.1 hd
    have hp : p ∈ g.candidates := by
      rw [hsplit]
      simp
    -- The outline has a problem, so no box begins there.
    have hbox := Outline.box?_of_mem_problems hd
    have hnot := (box?_outline_eq_none_iff hp).1 hbox
    obtain ⟨b, hb, hcorner⟩ := hcorners p hp
    have hclaimed := hb.mem_claimed radius hcorner (hnot b hb).symm hsplit
    -- The corner is claimed and yet not silenced, so the right edge has got somewhere.
    have hrows : (g.outline radius p).edgeRows ≠ 0 := by
      intro hrows
      refine hloud ⟨hbox, ?_, hrows⟩
      rw [start_outline]
      exact hclaimed
    refine hrows ((edgeRows_outline_eq_zero_iff hradius).2 fun q hto hbelow => ?_)
    obtain ⟨hpcorner, hopening⟩ := mem_candidates_iff.1 hp
    exact hread p ⟨hpcorner, hopening, hnot, q, hto, hbelow⟩

/-! ## Grids that hold boxes only -/

/-- The grid holds complete boxes only: every corner is one of a box, and every piece of a vertical
edge lies on a side of a box. -/
structure OnlyBoxes (g : Grid) : Prop where
  /-- Every corner is one of a box. -/
  corners : ∀ p, g.cellIs p .corner = true → ∃ b, g.Draws b ∧ b.HasCorner p
  /-- Every piece of a vertical edge lies on a side of a box. -/
  verticals : ∀ p, g.cellIs p .vertical = true → ∃ b, g.Draws b ∧ b.OnSide p

/-- Whether a grid holds boxes only is decided by the cells that the index lists and the boxes that
are found. -/
theorem onlyBoxes_iff_found :
    g.OnlyBoxes ↔
      (∀ p ∈ g.positions .corner, ∃ b ∈ (g.detect 0).boxes.map (·.bounds), b.HasCorner p) ∧
        ∀ p ∈ g.positions .vertical, ∃ b ∈ (g.detect 0).boxes.map (·.bounds), b.OnSide p := by
  have hcorner : Cell.Kind.corner.draws = true := rfl
  have hvertical : Cell.Kind.vertical.draws = true := rfl
  simp only [mem_positions_iff hcorner, mem_positions_iff hvertical, mem_bounds_detect_iff]
  exact ⟨fun h => ⟨h.corners, h.verticals⟩, fun h => ⟨h.1, h.2⟩⟩

/-- It is decidable whether a grid holds boxes only. -/
instance (g : Grid) : Decidable g.OnlyBoxes := decidable_of_iff' _ onlyBoxes_iff_found

/-- In a grid that holds boxes only, nothing is reported exactly when no corner is misread. -/
theorem problems_eq_nil_iff_of_onlyBoxes (h : g.OnlyBoxes) (hradius : 0 ≤ radius) :
    (g.detect radius).problems = [] ↔ ∀ p, ¬ g.Misread radius p := by
  rw [problems_eq_nil_iff hradius]
  constructor
  · exact fun hnone => hnone.2
  · exact fun hread => ⟨fun p hp => h.corners p (mem_candidates_iff.1 hp).1, hread⟩

/-- A box right inside another, with no row left between their bottom edges. -/
def nestedBoxes : Grid :=
  ofLines ["+---+".toList, "|+-+|".toList, "|| ||".toList, "|+-+|".toList, "+---+".toList]

/-- None of their corners is misread. -/
theorem problems_eq_nil_nested_boxes :
    (∀ p, ¬ nestedBoxes.Misread 3 p) ∧ nestedBoxes.OnlyBoxes := by
  have honly : nestedBoxes.OnlyBoxes := by decide
  exact ⟨(problems_eq_nil_iff_of_onlyBoxes honly (by decide)).1 (by decide), honly⟩

/-- The same boxes with a blank row between their bottom edges. -/
def nestedBoxesApart : Grid :=
  ofLines ["+---+".toList, "|+-+|".toList, "|| ||".toList, "|+-+|".toList, "|   |".toList,
    "+---+".toList]

/-- Now the bottom left corner of the inner one is misread, because the right side of the outer one
goes on below it. -/
theorem problems_ne_nil_nested_boxes_blank_row :
    nestedBoxesApart.OnlyBoxes ∧ (nestedBoxesApart.detect 3).problems ≠ [] := by
  decide

end Grid

end Wireframe
