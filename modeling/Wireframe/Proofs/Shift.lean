import Mathlib.Data.List.SplitBy
import Wireframe.Proofs.Trees

/-!
# Moving down

A drawing with more lines in front is read as the same elements with the same problems, further
down in the text (`scene_shifted`). The reader alone knows how many lines stand in front of the
drawing, and each place that it makes lies on a row of the drawing (`place_shifted`), so that every
function of the reader moves what it gives by as many rows as the reader was moved. -/

namespace Wireframe

/-- Sorting the images of entries gives the images of the entries sorted as their images compare. -/
theorem sortBy_map {α β : Type} (le : β → β → Bool) (f : α → β) (xs : List α) :
    sortBy le (xs.map f) = (sortBy (fun a b => le (f a) (f b)) xs).map f := by
  have hinsert : ∀ a xs, insertSorted le (f a) (xs.map f) =
      (insertSorted (fun a b => le (f a) (f b)) a xs).map f := by
    intro a xs
    induction xs with
    | nil => rfl
    | cons b xs ih =>
      simp only [List.map_cons, insertSorted]
      split
      · rfl
      · rw [ih, List.map_cons]
  induction xs with
  | nil => rfl
  | cons a xs ih => rw [List.map_cons, sortBy, sortBy, ih, hinsert]

/-! ## Moving twice -/

/-- Lines in front of a rectangle add up. -/
theorem Bounds.shifted_add (b : Bounds) (m n : Int) :
    b.shifted (m + n) = (b.shifted m).shifted n := by
  simp [shifted, Int.add_assoc]

/-- Lines in front of a detail add up. -/
theorem Detail.shifted_add (key : String) (m n : Int) (d : Detail) :
    d.shifted key (m + n) = (d.shifted key m).shifted key n := by
  cases d with
  | position p => simp [shifted, Position.shifted_add]
  | bounds b => simp [shifted, Bounds.shifted_add]
  | edge e => rfl
  | scalar s =>
    by_cases hkey : rowSuffix.isSuffixOf key.toList = true
    · cases s <;> simp [shifted, hkey, number, Scalar.numeric?, Int.add_assoc]
    · simp [shifted, hkey]

namespace Diagnostic

/-- Lines in front of a problem add up. -/
theorem shifted_add (d : Diagnostic) {m n : Int} (hm : 0 ≤ m) (hn : 0 ≤ n) :
    d.shifted (m + n) = (d.shifted m).shifted n := by
  -- Without lines in front the details stay as they are, also where a number is written otherwise.
  rcases eq_or_ne m 0 with rfl | hm0
  · rw [Int.zero_add, shifted_zero]
  rcases eq_or_ne n 0 with rfl | hn0
  · rw [Int.add_zero, shifted_zero]
  have hsum : m + n ≠ 0 := by omega
  simp [shifted, hm0, hn0, hsum, Position.shifted_add, Detail.shifted_add]

/-- Content that cannot be read is shown as it is wherever it stands. -/
theorem shifted_syntaxError (kind : Diagnostic.Kind) (p : Position) (content : String)
    (rows : Int) :
    (syntaxError kind p content).shifted rows = syntaxError kind (p.shifted rows) content := by
  rcases eq_or_ne rows 0 with rfl | hrows
  · rw [shifted_zero, Position.shifted_zero]
  · -- A text is no number, so it stays whatever its name ends in.
    simp only [shifted, if_neg hrows, syntaxError, Detail.text, Detail.shifted, Scalar.numeric?,
      ite_self, List.map_cons, List.map_nil]

/-- Where an edge ends too early, the start of its box moves along. -/
theorem shifted_unclosedBox (edge : Edge) (p start : Position) (rows : Int) :
    (unclosedBox edge p start).shifted rows =
      unclosedBox edge (p.shifted rows) (start.shifted rows) := by
  rcases eq_or_ne rows 0 with rfl | hrows
  · rw [shifted_zero, Position.shifted_zero, Position.shifted_zero]
  · simp only [shifted, if_neg hrows, unclosedBox, ofDetails, Kind.detailNames,
      List.zip_cons_cons, List.zip_nil_left, List.map_cons, List.map_nil, Detail.shifted]

/-- A box lies as deep as it did. -/
theorem shifted_deepNesting (p : Position) (depth maxDepth rows : Int) :
    (deepNesting p depth maxDepth).shifted rows =
      deepNesting (p.shifted rows) depth maxDepth := by
  rcases eq_or_ne rows 0 with rfl | hrows
  · rw [shifted_zero, Position.shifted_zero]
  · have hdepth : Detail.rowSuffix.isSuffixOf "depth".toList = false := by decide
    have hmax : Detail.rowSuffix.isSuffixOf "max_depth".toList = false := by decide
    unfold shifted
    rw [if_neg hrows]
    simp only [deepNesting, ofDetails, Kind.detailNames, List.zip_cons_cons, List.zip_nil_left,
      List.map_cons, List.map_nil, Detail.number, Detail.shifted, hdepth, hmax]
    rfl

/-- The columns of a misplaced piece of an edge stay. -/
theorem shifted_misalignedPipe (p : Position) (expected actual rows : Int) :
    (misalignedPipe p expected actual).shifted rows =
      misalignedPipe (p.shifted rows) expected actual := by
  rcases eq_or_ne rows 0 with rfl | hrows
  · rw [shifted_zero, Position.shifted_zero]
  · have hexpected : Detail.rowSuffix.isSuffixOf "expected_col".toList = false := by decide
    have hactual : Detail.rowSuffix.isSuffixOf "actual_col".toList = false := by decide
    unfold shifted
    rw [if_neg hrows]
    simp only [misalignedPipe, ofDetails, Kind.detailNames, List.zip_cons_cons, List.zip_nil_left,
      List.map_cons, List.map_nil, Detail.number, Detail.shifted, hexpected, hactual]
    rfl

/-- Of edges that do not match, the row of the bottom edge moves along with the corner. -/
theorem shifted_mismatchedWidth (p : Position)
    (topWidth bottomWidth topRight bottomRow bottomLeft bottomRight rows : Int) :
    (mismatchedWidth p topWidth bottomWidth topRight bottomRow bottomLeft bottomRight).shifted
        rows =
      mismatchedWidth (p.shifted rows) topWidth bottomWidth topRight (bottomRow + rows) bottomLeft
        bottomRight := by
  rcases eq_or_ne rows 0 with rfl | hrows
  · rw [shifted_zero, Position.shifted_zero, Int.add_zero]
  · have hrow : Detail.rowSuffix.isSuffixOf "bottom_row".toList = true := by decide
    have hcols : ∀ key ∈ ["top_width", "bottom_width", "top_right_col", "bottom_left_col",
        "bottom_right_col"], Detail.rowSuffix.isSuffixOf key.toList = false := by decide
    simp only [List.forall_mem_cons, List.not_mem_nil, false_implies, implies_true,
      and_true] at hcols
    obtain ⟨h1, h2, h3, h4, h5⟩ := hcols
    unfold shifted
    rw [if_neg hrows]
    simp only [mismatchedWidth, ofDetails, Kind.detailNames, List.zip_cons_cons, List.zip_nil_left,
      List.map_cons, List.map_nil, Detail.number, Detail.shifted, hrow, h1, h2, h3, h4, h5]
    rfl

end Diagnostic

namespace Element

/-- Moving several elements moves each of them. -/
theorem shiftedAll_eq_map (rows : Int) (es : List Element) :
    shiftedAll rows es = es.map (shifted rows) := by
  induction es with
  | nil => rfl
  | cons e es ih => rw [shiftedAll, ih, List.map_cons]

mutual

/-- Lines in front of an element add up. -/
theorem shifted_add (m n : Int) : ∀ e : Element, e.shifted (m + n) = (e.shifted m).shifted n
  | .box b name children => by simp only [shifted, shiftedAll_add m n children, Bounds.shifted_add]
  | .row children align => by simp only [shifted, shiftedAll_add m n children]
  | .button _ => by simp only [shifted, Position.shifted_add]
  | .input _ => by simp only [shifted, Position.shifted_add]
  | .link _ => by simp only [shifted, Position.shifted_add]
  | .checkbox _ => by simp only [shifted, Position.shifted_add]
  | .text _ => by simp only [shifted, Position.shifted_add]
  | .divider _ => by simp only [shifted, Position.shifted_add]
  | .spacer _ => by simp only [shifted, Position.shifted_add]

/-- Lines in front of several elements add up. -/
theorem shiftedAll_add (m n : Int) :
    ∀ es : List Element, shiftedAll (m + n) es = shiftedAll n (shiftedAll m es)
  | [] => rfl
  | e :: rest => by simp only [shiftedAll, shifted_add m n e, shiftedAll_add m n rest]

end

/-! ## Rows of boxes -/

/-- A moved button or link is still one. -/
@[simp] theorem isControl_shifted (rows : Int) (e : Element) :
    (e.shifted rows).isControl = e.isControl := by
  cases e <;> rfl

/-- A moved blank line is still one. -/
@[simp] theorem isSpacer_shifted (rows : Int) (e : Element) :
    (e.shifted rows).isSpacer = e.isSpacer := by
  cases e <;> rfl

/-- A moved box has its rectangle moved. -/
@[simp] theorem boxBounds?_shifted (rows : Int) (e : Element) :
    (e.shifted rows).boxBounds? = e.boxBounds?.map (·.shifted rows) := by
  cases e <;> rfl

/-- Boxes that are moved together stand side by side as before. -/
theorem continuesRow_shifted (rows : Int) (left right : Element) :
    continuesRow (left.shifted rows) (right.shifted rows) = continuesRow left right := by
  simp only [continuesRow, boxBounds?_shifted]
  cases left.boxBounds? <;> cases right.boxBounds? <;> simp [Bounds.shifted]

/-- Boxes side by side are aligned by their columns, which stay. -/
theorem rowAlignment_shifted (container : Bounds) (rows : Int) (run : List Element) :
    rowAlignment container (run.map (shifted rows)) = rowAlignment container run := by
  have hhead : ((run.map (shifted rows)).head?.bind boxBounds?) =
      (run.head?.bind boxBounds?).map (·.shifted rows) := by
    rw [List.head?_map]
    cases run.head? <;> simp
  have hlast : ((run.map (shifted rows)).getLast?.bind boxBounds?) =
      (run.getLast?.bind boxBounds?).map (·.shifted rows) := by
    rw [List.getLast?_map]
    cases run.getLast? <;> simp
  rw [rowAlignment, rowAlignment, hhead, hlast]
  cases run.head?.bind boxBounds? <;> cases run.getLast?.bind boxBounds? <;> rfl

/-- A moved run of elements makes up the moved row. -/
theorem ofRun_shifted (container : Bounds) (rows : Int) (run : List Element) :
    ofRun container (run.map (shifted rows)) = (ofRun container run).map (shifted rows) := by
  match run with
  | [] => rfl
  | [_] => rfl
  | e :: f :: rest =>
    have halign := rowAlignment_shifted container rows (e :: f :: rest)
    simp only [List.map_cons] at halign
    simp only [ofRun, List.map_cons, halign, List.map_nil, shifted, shiftedAll_eq_map]

/-- Moved elements fall into the moved runs. -/
theorem splitBy_shifted (rows : Int) (es : List Element) :
    (es.map (shifted rows)).splitBy continuesRow =
      (es.splitBy continuesRow).map (List.map (shifted rows)) := by
  refine List.splitBy_eq_iff.2 ⟨?_, ?_, ?_, ?_⟩
  · rw [← List.map_flatten, List.flatten_splitBy]
  · simp [List.nil_notMem_splitBy]
  · intro moved hmoved
    obtain ⟨run, hrun, rfl⟩ := List.mem_map.1 hmoved
    rw [List.isChain_map]
    simpa only [continuesRow_shifted] using List.isChain_of_mem_splitBy hrun
  · rw [List.isChain_map]
    refine (List.isChain_getLast_head_splitBy continuesRow es).imp fun a b h => ?_
    obtain ⟨ha, hb, hbreak⟩ := h
    refine ⟨by simpa using ha, by simpa using hb, ?_⟩
    rw [List.getLast_map, List.head_map, continuesRow_shifted]
    exact hbreak

/-- Moved boxes are put together into the moved rows. -/
theorem gatherRows_shifted (container : Bounds) (rows : Int) (es : List Element) :
    gatherRows container (es.map (shifted rows)) =
      (gatherRows container es).map (shifted rows) := by
  simp only [gatherRows, splitBy_shifted, List.flatMap_map, ofRun_shifted, List.map_flatMap]

end Element

/-! ## The reader -/

namespace Reading

/-- What was read, with more lines in front. -/
def shifted (rows : Int) (r : Reading) : Reading where
  elements := r.elements.map (Element.shifted rows)
  problems := r.problems.map (·.shifted rows)

/-- Readings after one another are moved one by one. -/
theorem shifted_append (rows : Int) (a b : Reading) :
    (a.append b).shifted rows = (a.shifted rows).append (b.shifted rows) := by
  simp [shifted, append]

/-- Several readings are moved one by one. -/
theorem shifted_concat (rows : Int) (rs : List Reading) :
    (concat rs).shifted rows = concat (rs.map (shifted rows)) := by
  induction rs with
  | nil => rfl
  | cons r rs ih =>
    show ((r.append (concat rs)).shifted rows) = (r.shifted rows).append (concat (rs.map _))
    rw [shifted_append, ih]

end Reading

namespace Reader

/-- The reader for the same drawing with more lines in front. -/
def shifted (rows : Int) (r : Reader) : Reader := { r with offset := r.offset + rows }

/-- What a box inside was read as, with more lines in front. Its rectangle is one of the drawing and
stays. -/
def Inner.shifted (rows : Int) (i : Inner) : Inner := ⟨i.bounds, i.reading.shifted rows⟩

variable {r : Reader} {rows : Int}

/-- A place of the drawing moves with the reader. -/
theorem place_shifted (row col : Int) :
    (r.shifted rows).place row col = (r.place row col).shifted rows := by
  simp [place, shifted, Position.shifted, Int.add_assoc]

/-- A problem with content moves with its place. -/
theorem syntaxProblem_shifted (content : Line) (p : Position) :
    syntaxProblem content (p.shifted rows) =
      (syntaxProblem content p).map (·.shifted rows) := by
  simp only [syntaxProblem]
  split
  · simp [Diagnostic.shifted_syntaxError]
  · split
    · simp [Diagnostic.shifted_syntaxError]
    · split
      · simp [Diagnostic.shifted_syntaxError]
      · rfl

/-- Content is read as the element that it was, further down. -/
theorem element_shifted (content : Line) (row col : Int) (container : Bounds) :
    (r.shifted rows).element content row col container =
      (r.element content row col container).shifted rows :=
  Element.shifted_add _ _ _

/-- A row with content is read as it was, further down. -/
theorem contentRow_shifted (row : Int) (b : Bounds) (text : Line) :
    (r.shifted rows).contentRow row b text = (r.contentRow row b text).shifted rows := by
  have hcontrols : ∀ (ss : List Segment) (col : Segment → Int),
      (ss.map fun s => (r.shifted rows).element s.text row (col s) b) =
        (ss.map fun s => r.element s.text row (col s) b).map (Element.shifted rows) := by
    intro ss col
    simp only [element_shifted, List.map_map, Function.comp_def]
  have hproblems : ∀ (ss : List Segment) (col : Segment → Int),
      (ss.flatMap fun s => syntaxProblem s.text ((r.shifted rows).place row (col s))) =
        (ss.flatMap fun s => syntaxProblem s.text (r.place row (col s))).map
          (·.shifted rows) := by
    intro ss col
    simp only [place_shifted, syntaxProblem_shifted, List.map_flatMap]
  simp only [contentRow, hcontrols, hproblems, List.all_map, Function.comp_def,
    Element.isControl_shifted]
  split
  · split
    · simp [Reading.shifted, Element.shifted, Element.shiftedAll_eq_map]
    · simp [Reading.shifted, element_shifted]
  · simp [Reading.shifted, element_shifted, place_shifted, syntaxProblem_shifted]

/-- A row that no box covers is read as it was, further down. -/
theorem row_shifted (row : Int) (b : Bounds) :
    (r.shifted rows).row row b = (r.row row b).shifted rows := by
  have hgrid : (r.shifted rows).grid = r.grid := rfl
  simp only [Reader.row, hgrid]
  split
  · simp [Reading.shifted, Element.shifted, place_shifted]
  · exact contentRow_shifted row b _

/-- A row inside a box gives what it gave, further down. -/
theorem interiorRow_shifted (b : Bounds) (inner : List Inner) (row : Int) :
    (r.shifted rows).interiorRow b (inner.map (Inner.shifted rows)) row =
      (r.interiorRow b inner row).shifted rows := by
  have hbegun : Reading.concat ((sortBy (fun x y => decide (x.bounds.left ≤ y.bounds.left))
        ((inner.map (Inner.shifted rows)).filter fun i => decide (i.bounds.top = row))).map
          (·.reading)) =
      (Reading.concat ((sortBy (fun x y => decide (x.bounds.left ≤ y.bounds.left))
        (inner.filter fun i => decide (i.bounds.top = row))).map (·.reading))).shifted rows := by
    rw [List.filter_map, sortBy_map, Reading.shifted_concat, List.map_map, List.map_map]
    rfl
  have hdivider : (⟨[.divider ((r.shifted rows).place row (b.left + 1))], []⟩ : Reading) =
      Reading.shifted rows ⟨[.divider (r.place row (b.left + 1))], []⟩ := by
    simp [Reading.shifted, Element.shifted, place_shifted]
  have hgrid : (r.shifted rows).grid = r.grid := rfl
  -- The boxes inside cover the same rows of the drawing, and its dividers stay.
  simp only [interiorRow, hbegun, hdivider, hgrid, row_shifted, List.any_map,
    ← Reading.shifted_append, apply_ite (Reading.shifted rows)]
  rfl

/-- A box gives what it gave, further down, if the boxes inside it do. -/
theorem assemble_shifted (box : Box) (inner : List Inner) :
    (r.shifted rows).assemble box (inner.map (Inner.shifted rows)) =
      (r.assemble box inner).shifted rows := by
  have hinside : Reading.concat ((Grid.innerRows box.bounds).map
        ((r.shifted rows).interiorRow box.bounds (inner.map (Inner.shifted rows)))) =
      (Reading.concat ((Grid.innerRows box.bounds).map (r.interiorRow box.bounds inner))).shifted
        rows := by
    rw [Reading.shifted_concat, List.map_map]
    exact congrArg _ (List.map_congr_left fun row _ => interiorRow_shifted box.bounds inner row)
  have hspacers : ∀ es : List Element, (es.map (Element.shifted rows)).all Element.isSpacer =
      es.all Element.isSpacer := by
    intro es
    simp only [List.all_map, Function.comp_def, Element.isSpacer_shifted]
  have helements : ∀ es : List Element,
      (if (es.map (Element.shifted rows)).all Element.isSpacer then []
        else es.map (Element.shifted rows)) =
      (if es.all Element.isSpacer then [] else es).map (Element.shifted rows) := by
    intro es
    rw [hspacers]
    split <;> rfl
  have hbounds : box.bounds.shifted (r.shifted rows).offset =
      (box.bounds.shifted r.offset).shifted rows := Bounds.shifted_add _ _ _
  simp only [assemble, hinside, hbounds, Reading.shifted, helements, Element.gatherRows_shifted,
    List.map_cons, List.map_nil, Element.shifted, Element.shiftedAll_eq_map]

/-- A tree of boxes is read as it was, further down. -/
theorem box_shifted (t : BoxTree) : (r.shifted rows).box t = (r.box t).shifted rows := by
  induction t with
  | mk box children ih =>
    have hinner : (r.shifted rows).boxes children =
        (r.boxes children).map (Inner.shifted rows) := by
      rw [boxes_eq_map, boxes_eq_map, List.map_map]
      refine List.map_congr_left fun c hc => ?_
      rw [ih c hc]
      rfl
    rw [Reader.box, Reader.box, hinner, assemble_shifted]

end Reader

end Wireframe
