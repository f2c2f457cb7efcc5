import Wireframe.Proofs.Content.Ticks

/-!
# What each row of a box gives

Every row inside a box is accounted for (`accounts_box`). Apart from rows of boxes, what a box holds
is what its rows give from top to bottom: the boxes that begin on a row, nothing where a box inside
covers the row, and else one element, which is a divider, a blank line, or read from content.

Two things that could hide a row do not: all blank lines are left out only where there is nothing
else in the box, and boxes that stand side by side are put into a row without a loss.
-/

namespace Wireframe

/-! ## The cells of a row -/

namespace Grid

variable {g : Grid} {b : Bounds} {row : Int}

/-- All cells of a row between the sides of a rectangle are as told. -/
def Between (g : Grid) (b : Bounds) (row : Int) (P : Cell → Prop) : Prop :=
  ∀ col, b.left < col → col < b.right → ∃ cell, g.get? ⟨row, col⟩ = some cell ∧ P cell

/-- The character of each cell in the columns of a part of a row is in that part. -/
theorem mem_rowChars {start stop col : Int} {cell : Cell} (hstart : 0 ≤ start) (hleft : start ≤ col)
    (hright : col < stop) (hcell : g.get? ⟨row, col⟩ = some cell) :
    cell.toChar ∈ g.rowChars row start (some stop) := by
  unfold get? at hcell
  dsimp only at hcell
  split at hcell
  · next hplace =>
    obtain ⟨cells, hcells, hcell⟩ := Option.bind_eq_some_iff.1 hcell
    have hlength := (List.getElem?_eq_some_iff.1 hcell).1
    rw [rowChars, if_pos hplace.1, hcells]
    dsimp only
    refine List.mem_map_of_mem (List.mem_iff_getElem?.2 ⟨col.toNat - start.toNat, ?_⟩)
    rw [Text.slice, Text.clipOffset_of_nonneg hstart, Text.clipOffset_of_nonneg (by omega),
      List.getElem?_drop, List.getElem?_take_of_lt (by omega)]
    rw [← hcell]
    congr 1
    omega
  · simp at hcell

/-- A row inside a drawn box has a cell in every column between the sides. -/
theorem exists_get?_of_draws (hdraws : g.Draws b) (hrow : row ∈ innerRows b) {col : Int}
    (hleft : b.left < col) (hright : col < b.right) : ∃ cell, g.get? ⟨row, col⟩ = some cell := by
  rw [Reader.mem_innerRows_iff] at hrow
  obtain ⟨-, -, hfirst, -⟩ := bounds_of_cellIs (hdraws.vertical (.inl rfl) hrow.1 hrow.2)
  obtain ⟨hrow0, hheight, -, hwidth⟩ :=
    bounds_of_cellIs (hdraws.vertical (.inr rfl) hrow.1 hrow.2)
  dsimp only at hfirst hwidth
  have hcol : 0 ≤ col := by omega
  have hcol' : col < g.width := by omega
  exact Option.isSome_iff_exists.1 (get?_isSome hrow0 hheight hcol hcol')

/-- A row inside a drawn box is a divider if there are pieces of dividers between the sides. -/
theorem isDividerRow_iff_between (hdraws : g.Draws b) :
    g.isDividerRow b row = true ↔ g.Between b row fun cell => cell.kind = .divider := by
  rw [isDividerRow_iff]
  simp only [cellIs_iff]
  exact and_iff_right hdraws.left_add_one_lt_right

/-- A row inside a drawn box is blank if there are blanks between the sides. -/
theorem allBlank_rowChars_iff_between (hdraws : g.Draws b) (hrow : row ∈ innerRows b) :
    Text.allBlank (g.rowChars row (b.left + 1) (some b.right)) = true ↔
      g.Between b row fun cell => Text.isBlank cell.toChar = true := by
  have hwide := hdraws.left_add_one_lt_right
  obtain ⟨-, -, hfirst, -⟩ := bounds_of_cellIs hdraws.topLeft
  dsimp only at hfirst
  rw [Text.allBlank, List.all_eq_true]
  constructor
  · intro hblank col hleft hright
    obtain ⟨cell, hcell⟩ := exists_get?_of_draws hdraws hrow hleft hright
    exact ⟨cell, hcell, hblank _ (mem_rowChars (by omega) (by omega) hright hcell)⟩
  · intro hbetween c hc
    obtain ⟨col, cell, hleft, hright, hcell, rfl⟩ :=
      exists_get?_of_mem_rowChars (by omega) (by omega) hc
    obtain ⟨cell', hcell', hblank⟩ := hbetween col (by omega) hright
    rw [hcell, Option.some.injEq] at hcell'
    rw [hcell']
    exact hblank

/-- A row of blanks is no row of pieces of dividers. -/
theorem Between.not_blank_of_divider (hdraws : g.Draws b)
    (h : g.Between b row fun cell => cell.kind = .divider) :
    ¬ g.Between b row fun cell => Text.isBlank cell.toChar = true := by
  intro hblank
  have hwide := hdraws.left_add_one_lt_right
  obtain ⟨cell, hcell, hkind⟩ := h (b.left + 1) (by omega) hwide
  obtain ⟨cell', hcell', hblank⟩ := hblank (b.left + 1) (by omega) hwide
  rw [hcell, Option.some.injEq] at hcell'
  subst hcell'
  cases cell <;> simp [Cell.kind] at hkind
  exact absurd hblank (by decide)

end Grid

/-! ## Rows of boxes -/

namespace Element

variable {es : List Element} {e : Element}

/-- The boxes of a row of boxes; any other element by itself. -/
def ungathered : Element → List Element
  | .row parts align => if parts.all fun e => e.boxBounds?.isSome then parts else [.row parts align]
  | e => [e]

/-- Putting elements together into rows loses none of them. -/
theorem flatMap_ungathered_gatherRows {container : Bounds} (h : ∀ e ∈ es, e.ungathered = [e]) :
    (gatherRows container es).flatMap ungathered = es := by
  have hrun : ∀ run ∈ es.splitBy continuesRow, (ofRun container run).flatMap ungathered = run := by
    intro run hrun
    unfold ofRun
    split
    · next first second rest =>
      have hboxes := isSome_of_isChain (isChain_of_mem_splitBy hrun) (by simp)
      rw [List.flatMap_singleton, ungathered, if_pos (List.all_eq_true.2 hboxes)]
    · calc run.flatMap ungathered = run.flatMap fun e => [e] := by
            refine List.flatMap_congr fun e he => h e ?_
            rw [← List.flatten_splitBy (r := continuesRow) (l := es)]
            exact List.mem_flatten.2 ⟨run, hrun, he⟩
        _ = run := List.flatMap_singleton' run
  rw [gatherRows, List.flatMap_assoc, List.flatMap_congr hrun, List.flatMap_id']
  exact List.flatten_splitBy _ es

end Element

/-! ## Rows inside a box -/

/-- A tree of boxes as they lie in a drawing: all of them are drawn, those directly inside lie
strictly between the edges and apart from each other, and they come in reading order. -/
structure BoxTree.DrawnIn (g : Grid) (t : BoxTree) : Prop where
  /-- The box is drawn. -/
  draws : g.Draws t.box.bounds
  /-- The boxes directly inside are drawn. -/
  drawn : ∀ c ∈ t.children, g.Draws c.box.bounds
  /-- They lie strictly inside. -/
  inside : ∀ c ∈ t.children, t.box.bounds.strictlyContains c.box.bounds = true
  /-- They do not overlap. -/
  apart : t.children.Pairwise fun c d => c.box.bounds.overlaps d.box.bounds = false
  /-- They come in reading order. -/
  ordered : t.children.Pairwise fun c d => c.before d = true

/-- There is no box inside the box, and all rows inside are blank from side to side. -/
def BoxTree.VacantIn (g : Grid) (t : BoxTree) : Prop :=
  t.children = [] ∧ ∀ row ∈ Grid.innerRows t.box.bounds,
    g.Between t.box.bounds row fun cell => Text.isBlank cell.toChar = true

namespace Reader

open Element

variable {r : Reader} {t : BoxTree} {row : Int} {es : List Element} {e : Element}

/-- What a row inside a box gives. -/
def given (r : Reader) (t : BoxTree) (row : Int) : List Element :=
  (r.interiorRow t.box.bounds (r.boxes t.children) row).elements

/-- What stands directly inside a box is what its rows give, unless that is blank lines only. -/
theorem contents_eq (r : Reader) (t : BoxTree) :
    r.contents t = if ((Grid.innerRows t.box.bounds).flatMap (r.given t)).all isSpacer then []
      else (Grid.innerRows t.box.bounds).flatMap (r.given t) := rfl

/-- The element is what a row that no box covers is read as. -/
structure OwnElement (r : Reader) (t : BoxTree) (row : Int) (e : Element) : Prop where
  /-- It is a divider if and only if the row has pieces of dividers from side to side. -/
  divider : (∃ p, e = .divider p) ↔
    r.grid.Between t.box.bounds row fun cell => cell.kind = .divider
  /-- It is a blank line if and only if the row is blank from side to side. -/
  spacer : (∃ p, e = .spacer p) ↔
    r.grid.Between t.box.bounds row fun cell => Text.isBlank cell.toChar = true
  /-- If it is neither, it is read from content, or a row of buttons and links. -/
  content : (¬ ∃ p, e = .divider p) → (¬ ∃ p, e = .spacer p) → e.isContent = true ∨
    ∃ parts align, e = .row parts align ∧ r.ControlsOn row t.box.bounds parts

/-- The elements are what a row inside a box gives. -/
inductive RowGives (r : Reader) (t : BoxTree) (row : Int) : List Element → Prop where
  /-- The boxes that begin on the row, from left to right. -/
  | boxes (starting : List BoxTree) (hne : starting ≠ [])
    (hstarting : starting = t.children.filter fun c => decide (c.box.bounds.top = row))
    (hordered : starting.Pairwise fun c d => c.box.bounds.right ≤ d.box.bounds.left) :
    RowGives r t row (starting.flatMap fun c => (r.box c).elements)
  /-- Nothing, where a box that begins further up covers the row. -/
  | covered (hnone : ∀ c ∈ t.children, c.box.bounds.top ≠ row)
    (hcovered : ∃ c ∈ t.children, c.box.bounds.top ≤ row ∧ row ≤ c.box.bounds.bottom) :
    RowGives r t row []
  /-- One element of its own, where no box covers the row. -/
  | own (e : Element) (hfree : FreeRow t row) (hown : OwnElement r t row e) : RowGives r t row [e]

/-- A row with something on it gives one element of content or a row of buttons and links. -/
theorem exists_content (hfilled : Text.allBlank
      (r.grid.rowChars row (t.box.bounds.left + 1) (some t.box.bounds.right)) = false) :
    ∃ e, (r.contentRow row t.box.bounds
        (r.grid.rowChars row (t.box.bounds.left + 1) (some t.box.bounds.right))).elements = [e] ∧
      (e.isContent = true ∨
        ∃ parts align, e = .row parts align ∧ r.ControlsOn row t.box.bounds parts) := by
  obtain ⟨e, he, hshape⟩ := exists_elements_contentRow r row t.box.bounds
    (r.grid.rowChars row (t.box.bounds.left + 1) (some t.box.bounds.right))
  refine ⟨e, he, hshape.imp_right ?_⟩
  rintro ⟨parts, align, rfl⟩
  rcases mem_contentRow hfilled (he ▸ List.mem_singleton_self _) with hread | hcontrols
  · exact absurd hread.isLeaf (by simp [isLeaf])
  · exact hcontrols

/-- A divider is what a row of pieces of dividers is read as. -/
theorem OwnElement.of_divider (hdraws : r.grid.Draws t.box.bounds)
    (h : r.grid.Between t.box.bounds row fun cell => cell.kind = .divider) (p : Position) :
    OwnElement r t row (.divider p) where
  divider := ⟨fun _ => h, fun _ => ⟨p, rfl⟩⟩
  spacer := by
    refine ⟨?_, fun hblank => absurd hblank (h.not_blank_of_divider hdraws)⟩
    rintro ⟨q, hq⟩
    simp at hq
  content hdivider := absurd ⟨p, rfl⟩ hdivider

/-- A blank line is what a row of blanks is read as. -/
theorem OwnElement.of_spacer
    (hpieces : ¬ r.grid.Between t.box.bounds row fun cell => cell.kind = .divider)
    (h : r.grid.Between t.box.bounds row fun cell => Text.isBlank cell.toChar = true)
    (p : Position) : OwnElement r t row (.spacer p) where
  divider := by
    refine ⟨?_, fun hdivider => absurd hdivider hpieces⟩
    rintro ⟨q, hq⟩
    simp at hq
  spacer := ⟨fun _ => h, fun _ => ⟨p, rfl⟩⟩
  content _ hspacer := absurd ⟨p, rfl⟩ hspacer

/-- Content or controls are what any other row is read as. -/
theorem OwnElement.of_content
    (hpieces : ¬ r.grid.Between t.box.bounds row fun cell => cell.kind = .divider)
    (hfilled : ¬ r.grid.Between t.box.bounds row fun cell => Text.isBlank cell.toChar = true)
    (h : e.isContent = true ∨
      ∃ parts align, e = .row parts align ∧ r.ControlsOn row t.box.bounds parts) :
    OwnElement r t row e where
  divider := by
    refine ⟨?_, fun hdivider => absurd hdivider hpieces⟩
    rintro ⟨p, rfl⟩
    simp [isContent] at h
  spacer := by
    refine ⟨?_, fun hblank => absurd hblank hfilled⟩
    rintro ⟨p, rfl⟩
    simp [isContent] at h
  content _ _ := h

/-- A row that no box covers gives one element. -/
theorem exists_ownElement (hdraws : r.grid.Draws t.box.bounds)
    (hrow : row ∈ Grid.innerRows t.box.bounds) :
    ∃ e, r.ownRow row t.box.bounds = [e] ∧ OwnElement r t row e := by
  have hblank := Grid.allBlank_rowChars_iff_between hdraws hrow
  unfold ownRow
  split
  · next hdivider =>
    rw [Grid.isDividerRow_iff_between hdraws] at hdivider
    exact ⟨_, rfl, .of_divider hdraws hdivider _⟩
  · next hpieces =>
    rw [Grid.isDividerRow_iff_between hdraws] at hpieces
    unfold Reader.row
    dsimp only
    split
    · next hempty => exact ⟨_, rfl, .of_spacer hpieces (hblank.1 hempty) _⟩
    · next hfilled =>
      obtain ⟨e, he, hcontent⟩ := exists_content (Bool.eq_false_iff.2 hfilled)
      exact ⟨e, he, .of_content hpieces (mt hblank.2 hfilled) hcontent⟩

variable (hdrawn : t.DrawnIn r.grid)

include hdrawn

/-- The boxes that begin on one row come from left to right. -/
theorem pairwise_starting (row : Int) :
    (t.children.filter fun c => decide (c.box.bounds.top = row)).Pairwise fun c d =>
      c.box.bounds.right ≤ d.box.bounds.left := by
  refine ((hdrawn.apart.and hdrawn.ordered).filter _).imp_of_mem fun {c d} hc hd hcd => ?_
  obtain ⟨hapart, hordered⟩ := hcd
  obtain ⟨hc, hctop⟩ := List.mem_filter.1 hc
  obtain ⟨hd, hdtop⟩ := List.mem_filter.1 hd
  have hcdraws := hdrawn.drawn c hc
  have hddraws := hdrawn.drawn d hd
  have hcrows := hcdraws.top_lt_bottom
  have hdrows := hddraws.top_lt_bottom
  have hdcols := hddraws.left_lt_right
  -- Both have the row below their top edges, so their columns are apart.
  rw [Bool.eq_false_iff, Ne, Bounds.overlaps_iff] at hapart
  rw [BoxTree.before, Bounds.before] at hordered
  simp only [Position.before, Bool.or_eq_true, Bool.and_eq_true, decide_eq_true_iff] at hordered
  dsimp only [Bounds.topLeft] at hordered
  rw [decide_eq_true_iff] at hctop hdtop
  omega

/-- The boxes that begin on a row, as they are read, are in order already. -/
theorem flatMap_sortBy_starting (row : Int) :
    (sortBy (fun x y : Inner => decide (x.bounds.left ≤ y.bounds.left))
      ((r.boxes t.children).filter fun i => decide (i.bounds.top = row))).flatMap
        (·.reading.elements) =
      (t.children.filter fun c => decide (c.box.bounds.top = row)).flatMap fun c =>
        (r.box c).elements := by
  rw [boxes_eq_map, List.filter_map, sortBy_of_pairwise, List.flatMap_map]
  · rfl
  · rw [List.pairwise_map]
    refine (pairwise_starting hdrawn row).imp_of_mem fun {c d} hc _ hcd => ?_
    have hcols := (hdrawn.drawn c (List.mem_filter.1 hc).1).left_lt_right
    simp only [decide_eq_true_iff]
    omega

/-- A row inside a box gives the boxes that begin on it, nothing where a box covers it, and else one
element of its own. -/
theorem rowGives_given (hrow : row ∈ Grid.innerRows t.box.bounds) :
    RowGives r t row (r.given t row) := by
  have hcovers : ((r.boxes t.children).any fun i =>
      decide (i.bounds.top ≤ row) && decide (row ≤ i.bounds.bottom)) = true ↔
        ∃ c ∈ t.children, c.box.bounds.top ≤ row ∧ row ≤ c.box.bounds.bottom := by
    rw [boxes_eq_map, List.any_map, List.any_eq_true]
    simp
  rw [given, elements_interiorRow, flatMap_sortBy_starting hdrawn]
  by_cases hstarting : (t.children.filter fun c => decide (c.box.bounds.top = row)) = []
  · have hnone : ∀ c ∈ t.children, c.box.bounds.top ≠ row := by
      simpa [List.filter_eq_nil_iff] using hstarting
    rw [hstarting, List.flatMap_nil, List.nil_append]
    split
    · next hcovered => exact .covered hnone (hcovers.1 hcovered)
    · next hfree =>
      rw [hcovers] at hfree
      obtain ⟨e, he, hown⟩ := exists_ownElement hdrawn.draws hrow
      rw [he]
      exact .own e ⟨hrow, fun c hc hcover => hfree ⟨c, hc, hcover⟩⟩ hown
  · -- A box that begins on the row covers it.
    obtain ⟨c, hc⟩ := List.exists_mem_of_ne_nil _ hstarting
    obtain ⟨hc, htop⟩ := List.mem_filter.1 hc
    rw [decide_eq_true_iff] at htop
    have hrows := (hdrawn.drawn c hc).top_lt_bottom
    rw [if_pos (hcovers.2 ⟨c, hc, by omega⟩), List.append_nil]
    exact .boxes _ hstarting rfl (pairwise_starting hdrawn row)

omit hdrawn

/-! ## All rows of a box -/

/-- What a row gives of its own is no row of boxes and no box. -/
theorem OwnElement.single (h : OwnElement r t row e) :
    e.ungathered = [e] ∧ e.boxBounds? = none := by
  by_cases hdivider : ∃ p, e = .divider p
  · obtain ⟨p, rfl⟩ := hdivider
    exact ⟨rfl, rfl⟩
  · by_cases hspacer : ∃ p, e = .spacer p
    · obtain ⟨p, rfl⟩ := hspacer
      exact ⟨rfl, rfl⟩
    · rcases h.content hdivider hspacer with hcontent | ⟨parts, align, rfl, hparts⟩
      · cases e <;> simp_all [isContent, ungathered, boxBounds?]
      · -- The first button or link of the row is no box.
        obtain ⟨x, hx⟩ := List.exists_mem_of_length_pos
          (Nat.lt_of_lt_of_le Nat.zero_lt_two hparts.several)
        have hleaf := (hparts.readOn x hx).isLeaf
        refine ⟨if_neg fun hall => ?_, rfl⟩
        have hbox := List.all_eq_true.1 hall x hx
        rw [boxBounds?_of_isLeaf hleaf] at hbox
        exact absurd hbox Bool.false_ne_true

/-- No row inside a box gives a row of boxes. -/
theorem RowGives.ungathered_eq (h : RowGives r t row es) : ∀ e ∈ es, e.ungathered = [e] := by
  intro e he
  cases h with
  | boxes starting =>
    obtain ⟨c, -, he⟩ := List.mem_flatMap.1 he
    rw [elements_box, List.mem_singleton] at he
    rw [he]
    rfl
  | covered => exact absurd he List.not_mem_nil
  | own x hfree hown =>
    rw [List.mem_singleton.1 he]
    exact hown.single.1

/-- The boxes that a row gives are those that begin on it. -/
theorem RowGives.filter_boxes (h : RowGives r t row es)
    (hvalid : ∀ c ∈ t.children, c.box.bounds.Valid) :
    (es.filter fun e => e.boxBounds?.isSome) =
      (t.children.filter fun c => decide (c.box.bounds.top = row)).flatMap fun c =>
        (r.box c).elements := by
  have hnone : (∀ c ∈ t.children, c.box.bounds.top ≠ row) →
      (t.children.filter fun c => decide (c.box.bounds.top = row)) = [] := by
    simp [List.filter_eq_nil_iff]
  cases h with
  | boxes starting _ hstarting =>
    rw [← hstarting, List.filter_eq_self]
    intro e he
    obtain ⟨c, -, he⟩ := List.mem_flatMap.1 he
    rw [elements_box, List.mem_singleton] at he
    rw [he]
    rfl
  | covered hother => rw [hnone hother, List.flatMap_nil, List.filter_nil]
  | own x hfree hown =>
    rw [hnone fun c hc htop => hfree.free c hc ⟨htop.le, htop ▸ (hvalid c hc).1⟩]
    simp [hown.single.2]

/-- Without boxes inside, every row gives one element of its own. -/
theorem RowGives.exists_own (h : RowGives r t row es) (hnone : t.children = []) :
    ∃ e, es = [e] ∧ OwnElement r t row e := by
  cases h with
  | boxes starting hne hstarting =>
    rw [hnone] at hstarting
    exact absurd hstarting hne
  | covered _ hcovered =>
    obtain ⟨c, hc, -⟩ := hcovered
    rw [hnone] at hc
    exact absurd hc List.not_mem_nil
  | own e _ hown => exact ⟨e, rfl, hown⟩

/-- A box inside begins on a row inside. -/
theorem top_mem_innerRows (hdrawn : t.DrawnIn r.grid) {c : BoxTree} (hc : c ∈ t.children) :
    c.box.bounds.top ∈ Grid.innerRows t.box.bounds := by
  obtain ⟨htop, -, hbottom, -⟩ := (Bounds.strictlyContains_iff _ _).1 (hdrawn.inside c hc)
  have hrows := (hdrawn.drawn c hc).top_lt_bottom
  rw [mem_innerRows_iff]
  omega

/-- What the rows of a box give is blank lines only exactly if the box is vacant. -/
theorem all_isSpacer_iff (hdrawn : t.DrawnIn r.grid) :
    ((Grid.innerRows t.box.bounds).flatMap (r.given t)).all isSpacer = true ↔
      t.VacantIn r.grid := by
  have hvalid : ∀ c ∈ t.children, c.box.bounds.Valid := fun c hc => (hdrawn.drawn c hc).valid
  rw [List.all_eq_true, List.forall_mem_flatMap]
  constructor
  · intro hall
    have hnone : t.children = [] := by
      refine List.eq_nil_iff_forall_not_mem.2 fun c hc => ?_
      have hrow := top_mem_innerRows hdrawn hc
      -- The box is among those that begin on the row of its top edge.
      have hbox : r.boxElement c ∈
          (r.given t c.box.bounds.top).filter fun e => e.boxBounds?.isSome := by
        rw [(rowGives_given hdrawn hrow).filter_boxes hvalid, List.mem_flatMap]
        refine ⟨c, List.mem_filter.2 ⟨hc, decide_eq_true rfl⟩, ?_⟩
        rw [elements_box]
        exact List.mem_singleton_self _
      exact absurd (hall _ hrow _ (List.mem_filter.1 hbox).1) (by simp [boxElement, isSpacer])
    refine ⟨hnone, fun row hrow => ?_⟩
    obtain ⟨e, he, hown⟩ := (rowGives_given hdrawn hrow).exists_own hnone
    have hspacer : e.isSpacer = true := hall row hrow e (he ▸ List.mem_singleton_self e)
    refine hown.spacer.1 ?_
    cases e <;> simp_all [isSpacer]
  · rintro ⟨hnone, hblank⟩ row hrow x hx
    obtain ⟨e, he, hown⟩ := (rowGives_given hdrawn hrow).exists_own hnone
    rw [he, List.mem_singleton] at hx
    obtain ⟨p, rfl⟩ := hown.spacer.2 (hblank row hrow)
    rw [hx]
    rfl

/-- Some elements account for all rows inside a box. -/
structure Accounts (r : Reader) (t : BoxTree) (es : List Element) : Prop where
  /-- Unless the box is vacant, the elements, apart from rows of boxes, are what the rows give from
  top to bottom. -/
  rows : ¬ t.VacantIn r.grid →
    ∃ given, List.Forall₂ (RowGives r t) (Grid.innerRows t.box.bounds) given ∧
      es.flatMap ungathered = given.flatten
  /-- For a vacant box there are no elements. -/
  vacant : t.VacantIn r.grid → es = []
  /-- The boxes among the elements are the boxes inside, each of them once. -/
  once : ((es.flatMap ungathered).filter fun e => e.boxBounds?.isSome).Perm
    (t.children.flatMap fun c => (r.box c).elements)

/-- Unless a box is vacant, what it holds is, apart from rows of boxes, what its rows give. -/
theorem flatMap_ungathered_inside (hdrawn : t.DrawnIn r.grid) (hvacant : ¬ t.VacantIn r.grid) :
    (r.inside t).flatMap ungathered = (Grid.innerRows t.box.bounds).flatMap (r.given t) := by
  rw [inside, contents_eq, if_neg (mt (all_isSpacer_iff hdrawn).1 hvacant)]
  refine flatMap_ungathered_gatherRows (List.forall_mem_flatMap.2 fun row hrow => ?_)
  exact (rowGives_given hdrawn hrow).ungathered_eq

/-- The boxes among what the rows of a box give are the boxes inside, each of them once. -/
theorem filter_flatMap_given_perm (hdrawn : t.DrawnIn r.grid) :
    (((Grid.innerRows t.box.bounds).flatMap (r.given t)).filter fun e => e.boxBounds?.isSome).Perm
      (t.children.flatMap fun c => (r.box c).elements) := by
  have hvalid : ∀ c ∈ t.children, c.box.bounds.Valid := fun c hc => (hdrawn.drawn c hc).valid
  have hrows : ∀ row ∈ Grid.innerRows t.box.bounds,
      ((r.given t row).filter fun e => e.boxBounds?.isSome) =
        (t.children.filter fun c => decide (c.box.bounds.top = row)).flatMap fun c =>
          (r.box c).elements := fun row hrow => (rowGives_given hdrawn hrow).filter_boxes hvalid
  -- Every box inside begins on one of the rows.
  have hall := flatMap_filter_perm (nodup_innerRows t.box.bounds) fun c hc =>
    top_mem_innerRows hdrawn hc
  rw [List.filter_flatMap, List.flatMap_congr hrows, ← List.flatMap_assoc]
  exact hall.flatMap_right _

/-- What a box holds accounts for all rows inside it. -/
theorem accounts_inside (hdrawn : t.DrawnIn r.grid) : Accounts r t (r.inside t) := by
  by_cases hvacant : t.VacantIn r.grid
  · have hnil : r.inside t = [] := by
      rw [inside, contents_eq, if_pos ((all_isSpacer_iff hdrawn).2 hvacant)]
      rfl
    refine ⟨fun h => absurd hvacant h, fun _ => hnil, ?_⟩
    rw [hnil, hvacant.1]
    exact .nil
  · have hinside := flatMap_ungathered_inside hdrawn hvacant
    refine ⟨fun _ => ⟨(Grid.innerRows t.box.bounds).map (r.given t), ?_, ?_⟩,
      fun h => absurd h hvacant, ?_⟩
    · rw [List.forall₂_map_right_iff, List.forall₂_same]
      exact fun row hrow => rowGives_given hdrawn hrow
    · rw [hinside, List.flatMap_def]
    · rw [hinside]
      exact filter_flatMap_given_perm hdrawn

end Reader

/-! ## Drawings -/

/-- The boxes that are found in a drawing, and those inside each of them, lie as they should. -/
theorem BoxTree.drawnIn_of_mem_trees {g : Grid} {radius : Int} {maxDepth : Nat} {t : BoxTree}
    (ht : t ∈ subtreesOfAll (Hierarchy.ofBoxes maxDepth (g.detect radius).boxes).trees) :
    t.DrawnIn g := by
  have hlaminar : Nesting.PairwiseLaminar (g.detect radius).boxes :=
    Grid.pairwise_laminar_detect g radius
  have hvalid : ∀ box ∈ (g.detect radius).boxes, box.bounds.Valid := fun box hbox =>
    (Grid.draws_of_mem_detect hbox).valid
  have hgrown : t ∈ subtreesOfAll (Nesting.trees (Nesting.ofBoxes (g.detect radius).boxes)) := by
    rw [← Hierarchy.trees_detect maxDepth]
    exact ht
  have hforest := Nesting.isForest_trees hlaminar hvalid
  have hnodup := hforest.nodup_children (List.Nodup.of_map _ (Grid.nodup_bounds_detect g radius))
    hgrown
  exact {
    draws := Hierarchy.draws_of_mem_subtrees ht
    drawn := fun c hc => Hierarchy.draws_of_mem_subtrees (child_mem_subtreesOfAll ht hc)
    inside := by
      rw [subtreesOfAll_eq_flatMap] at ht
      obtain ⟨root, hroot, ht⟩ := List.mem_flatMap.1 ht
      have hnested := (Hierarchy.wellNested_trees _ _ _ root hroot).subtree ht
      cases hnested with
      | mk box children hinside _ => exact hinside
    apart := (List.pairwise_map.1 hnodup).imp_of_mem fun hc hd hne =>
      Nesting.apart_children hlaminar hvalid hgrown hc hd hne
    ordered := hforest.children t hgrown }

/-- For every box that is found in a drawing, at any depth, the element it is read as accounts for
all rows inside the box. -/
theorem Reader.accounts_box {g : Grid} {radius : Int} {maxDepth : Nat} {t : BoxTree} (offset : Int)
    (recognizers : List Recognizer)
    (ht : t ∈ BoxTree.subtreesOfAll (Hierarchy.ofBoxes maxDepth (g.detect radius).boxes).trees) :
    ∃ children, ((⟨g, offset, recognizers⟩ : Reader).box t).elements =
        [.box (t.box.bounds.shifted offset) t.box.name children] ∧
      Accounts ⟨g, offset, recognizers⟩ t children :=
  ⟨_, elements_box _ t, accounts_inside (BoxTree.drawnIn_of_mem_trees ht)⟩

/-- A drawing of a box with a row of text, two boxes side by side, a divider, a blank row and a row
of controls inside. -/
def everyRow : Grid :=
  .ofLines ["+---------------+".toList, "| Hello         |".toList, "|+---+  +---+   |".toList,
    "||   |  |===|   |".toList, "|+---+  +---+   |".toList, "|===============|".toList,
    "|               |".toList, "| [ok]  \"no\"    |".toList, "+---------------+".toList]

/-- The box with every kind of row is read as an element that accounts for all its rows. -/
theorem Reader.accounts_box_every_row :
    ∃ t ∈ BoxTree.subtreesOfAll (Hierarchy.ofBoxes 4 (everyRow.detect 3).boxes).trees,
      (∃ children, ((⟨everyRow, 4, Recognizer.all⟩ : Reader).box t).elements =
          [.box (t.box.bounds.shifted 4) t.box.name children] ∧
        Accounts ⟨everyRow, 4, Recognizer.all⟩ t children) ∧
      (Element.walkAll ((⟨everyRow, 4, Recognizer.all⟩ : Reader).box t).elements).map
          Element.typeName =
        ["box", "text", "row", "box", "box", "divider", "divider", "spacer", "row", "button",
          "link"] := by
  have hmem := List.get_mem (BoxTree.subtreesOfAll
    (Hierarchy.ofBoxes 4 (everyRow.detect 3).boxes).trees) ⟨0, by decide +kernel⟩
  exact ⟨_, hmem, accounts_box 4 Recognizer.all hmem, by decide +kernel⟩

end Wireframe
