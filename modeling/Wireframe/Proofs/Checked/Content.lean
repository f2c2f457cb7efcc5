import Wireframe.Proofs.Checked.Grid
import Wireframe.Proofs.Content.Read
import Wireframe.Proofs.Content.Runs

/-!
# The inside of boxes is read without a failure

Reading the inside of boxes as elements, step by step, with each step failing outside of its domain.
It never fails (`scene_eq`): space is only divided among columns that there are, what is read from
content stands somewhere, rows of boxes have boxes at both ends, and the rectangles of boxes are
still rectangles at their place in the text.
-/

namespace Wireframe

/-- An element with an alignment of its own is given another one. -/
def Element.aligned (align : Alignment) : Element → Element
  | .button b => .button { b with align }
  | .link l => .link { l with align }
  | .text t => .text { t with align }
  | .row children _ => .row children align
  | e => e

/-- What a recognizer reads is aligned by its rule, if it is aligned at all. -/
theorem Recognizer.aligned_read {rec : Recognizer} {content : Line} {p : Position}
    {container : Bounds} {e : Element} (h : rec.read content p container = some e) :
    e.aligned (rec.rule.align content p container) = e := by
  cases reads_of_read h <;> rfl

namespace Checked

open Element (continuesRow)

/-! ## Alignment -/

/-- A rounded quotient, of anything but zero. -/
def quotient (n d : Int) : Except Failure Rat :=
  if d = 0 then .error .zero else return Ratio.quotient n d

/-- The alignment by the free columns on either side and the columns there are. -/
def ofSpace (left right width : Int) : Except Failure Alignment := do
  let l ← quotient left width
  let r ← quotient right width
  if l < Alignment.hugging ∧ Alignment.far < r then return .left
  else if r < Alignment.hugging ∧ Alignment.far < l then return .right
  else if Ratio.distance l r < Alignment.tolerance then return .center
  else return .left

/-- The alignment of content of a given length at column `col`. -/
def ofContent (length : Nat) (col : Int) (container : Bounds) : Except Failure Alignment :=
  let width := container.right - container.left - 2
  if width ≤ 0 then return .left
  else ofSpace (Alignment.leftSpace col container) (Alignment.rightSpace col length container) width

/-- Content is aligned without a failure, since a container without a column is too narrow. -/
theorem ofContent_eq (length : Nat) (col : Int) (container : Bounds) :
    ofContent length col container = .ok (.ofContent length col container) := by
  unfold ofContent Alignment.ofContent
  dsimp only
  split
  · rfl
  · next hwidth =>
    have hzero : container.right - container.left - 2 ≠ 0 := by omega
    unfold ofSpace quotient
    rw [if_neg hzero, if_neg hzero]
    simp only [pure_eq, ok_bind, Alignment.ofSpace]
    split_ifs <;> rfl

/-- The alignment of the columns from `left` to `right`, both included. -/
def ofSpan (left right : Int) (container : Bounds) : Except Failure Alignment :=
  ofContent (right - left + 1).toNat left container

/-- Columns are aligned without a failure. -/
theorem ofSpan_eq (left right : Int) (container : Bounds) :
    ofSpan left right container = .ok (.ofSpan left right container) := ofContent_eq _ _ _

/-- The alignment of content under a rule. -/
def align (rule : AlignmentRule) (content : Line) (p : Position) (container : Bounds) :
    Except Failure Alignment :=
  match rule with
  | .byPosition => ofContent content.length p.col container
  | .alwaysLeft => return .left

/-- Content is aligned under every rule. -/
theorem align_eq (rule : AlignmentRule) (content : Line) (p : Position) (container : Bounds) :
    align rule content p container = .ok (rule.align content p container) := by
  cases rule with
  | byPosition => exact ofContent_eq _ _ _
  | alwaysLeft => rfl

/-! ## Recognizers -/

/-- The element that the first recognizer of a list reads that does not refuse, or plain text. Its
alignment is worked out for the recognizer that reads it. -/
def readInOrder (content : Line) (p : Position) (container : Bounds) :
    List Recognizer → Except Failure Element
  | [] => do
    let found ← align (Recognizer.rule .text) content p container
    return (Recognizer.caption content p container).aligned found
  | rec :: rest =>
    match rec.read content p container with
    | some e => do
      let found ← align rec.rule content p container
      return e.aligned found
    | none => readInOrder content p container rest

/-- The element that several recognizers read together. -/
def readWith (rs : List Recognizer) (content : Line) (p : Position) (container : Bounds) :
    Except Failure Element := readInOrder content p container (Recognizer.inOrder rs)

/-- Any content is read by any recognizers. -/
theorem readWith_eq (rs : List Recognizer) (content : Line) (p : Position) (container : Bounds) :
    readWith rs content p container = .ok (Recognizer.readWith rs content p container) := by
  rw [readWith, Recognizer.readWith]
  induction Recognizer.inOrder rs with
  | nil =>
    rw [readInOrder, align_eq, ok_bind, pure_eq]
    rfl
  | cons rec rest ih =>
    rw [readInOrder, List.findSome?_cons]
    cases hread : rec.read content p container with
    | none => exact ih
    | some e =>
      dsimp only
      rw [align_eq, ok_bind, pure_eq, Recognizer.aligned_read hread]
      rfl

/-! ## Rows of boxes -/

/-- The rectangle of a box. -/
def boxBounds (e : Element) : Except Failure Bounds :=
  match e.boxBounds? with
  | some b => return b
  | none => .error .field

/-- The rectangle of a box is found. -/
theorem boxBounds_eq {e : Element} {b : Bounds} (h : e.boxBounds? = some b) :
    boxBounds e = .ok b := by
  rw [boxBounds, h]
  rfl

/-- A run of elements: a row if there are several. -/
def ofRun (container : Bounds) (run : List Element) : Except Failure (List Element) := do
  if 2 ≤ run.length then
    let first ← boxBounds (← entry run 0)
    let last ← boxBounds (← entry run (-1))
    let align ← ofSpan first.left last.right container
    return [.row run align]
  else return run

/-- Elements with every run of boxes side by side put together into a row. -/
def gatherRows (container : Bounds) (elements : List Element) : Except Failure (List Element) := do
  let runs ← (elements.splitBy continuesRow).mapM (ofRun container)
  return runs.flatten

/-- A run of elements is put into a row without a failure if several elements are boxes. -/
theorem ofRun_eq (container : Bounds) {run : List Element}
    (h : 2 ≤ run.length → ∀ e ∈ run, e.boxBounds?.isSome = true) :
    ofRun container run = .ok (Element.ofRun container run) := by
  match run, h with
  | [], _ => rfl
  | [e], _ => rfl
  | e :: f :: rest, h =>
    have hboxes := h (by simp)
    have hlast : (e :: f :: rest).getLast? = some ((f :: rest).getLast (by simp)) := by
      rw [List.getLast?_cons_cons, List.getLast?_eq_some_getLast]
    obtain ⟨b, hb⟩ := Option.isSome_iff_exists.1 (hboxes e List.mem_cons_self)
    obtain ⟨c, hc⟩ := Option.isSome_iff_exists.1
      (hboxes _ (List.mem_cons_of_mem e (List.getLast_mem (by simp))))
    have hfirst : entry (e :: f :: rest) 0 = .ok e := entry_eq (k := 0) rfl
    rw [ofRun, if_pos (by simp), hfirst, ok_bind, boxBounds_eq hb, ok_bind, entry_last hlast,
      ok_bind, boxBounds_eq hc, ok_bind, ofSpan_eq, ok_bind, pure_eq]
    rw [Element.ofRun, Element.rowAlignment, hlast, List.head?_cons, Option.bind_some,
      Option.bind_some, hb, hc]

/-- Elements are put into rows without a failure. -/
theorem gatherRows_eq (container : Bounds) (elements : List Element) :
    gatherRows container elements = .ok (Element.gatherRows container elements) := by
  have hrun : ∀ run ∈ elements.splitBy continuesRow,
      ofRun container run = .ok (Element.ofRun container run) := fun run hrun =>
    ofRun_eq container fun hlength e he =>
      Element.isSome_of_isChain (Element.isChain_of_mem_splitBy hrun) hlength e he
  rw [gatherRows, mapM_eq_ok hrun, ok_bind, pure_eq, Element.gatherRows, List.flatMap_def]

/-! ## Single rows -/

variable {r : Reader}

/-- An element in a text that has `rows` more lines in front. It has to stand somewhere. -/
def moved (rows : Int) (e : Element) : Except Failure Element :=
  match e.position? with
  | some _ => return e.shifted rows
  | none => .error .field

/-- The element that content at a place of the drawing is read as. -/
def element (r : Reader) (content : Line) (row col : Int) (container : Bounds) :
    Except Failure Element := do
  let e ← readWith r.recognizers content ⟨row, col⟩ container
  moved r.offset e

/-- Content is read as an element that can be placed in the text. -/
theorem element_eq (r : Reader) (content : Line) (row col : Int) (container : Bounds) :
    element r content row col container = .ok (r.element content row col container) := by
  have hplaced := (Recognizer.writtenAs_readWith r.recognizers content ⟨row, col⟩
    container).position
  rw [element, readWith_eq, ok_bind, moved, hplaced]
  rfl

/-- A row with content. -/
def contentRow (r : Reader) (row : Int) (b : Bounds) (text : Line) : Except Failure Reading := do
  let trimmed := Text.trim text
  let col := b.left + 1 + (text.length - (Text.trimLeft text).length : Nat)
  let segments := Segment.ofLine text
  let columnOf (s : Segment) : Int := b.left + 1 + s.start
  if 2 ≤ segments.length ∧ segments.all Segment.opensControl = true then
    let problems := segments.flatMap fun s =>
      Reader.syntaxProblem s.text (r.place row (columnOf s))
    let parts ← segments.mapM fun s => element r s.text row (columnOf s) b
    if parts.all Element.isControl then
      let last ← entry segments (-1)
      let align ← ofSpan col (columnOf last + last.text.length - 1) b
      return ⟨[.row parts align], problems⟩
    else
      let whole ← element r trimmed row col b
      return ⟨[whole], problems⟩
  else
    let whole ← element r trimmed row col b
    return ⟨[whole], Reader.syntaxProblem trimmed (r.place row col)⟩

/-- A row with content is read without a failure: a row of controls has a last one. -/
theorem contentRow_eq (r : Reader) (row : Int) (b : Bounds) (text : Line) :
    contentRow r row b text = .ok (r.contentRow row b text) := by
  have hparts : (Segment.ofLine text).mapM
      (fun s => element r s.text row (b.left + 1 + s.start) b) =
        .ok ((Segment.ofLine text).map fun s => r.element s.text row (b.left + 1 + s.start) b) :=
    mapM_eq_ok fun s _ => element_eq r s.text row (b.left + 1 + s.start) b
  unfold contentRow Reader.contentRow
  dsimp only
  split
  · next hcontrols =>
    have hfilled : Segment.ofLine text ≠ [] := List.ne_nil_of_length_pos (by omega)
    have hlast := List.getLast?_eq_some_getLast hfilled
    rw [hparts, ok_bind]
    split
    · rw [entry_last hlast, ok_bind, ofSpan_eq, ok_bind, pure_eq, hlast]
      rfl
    · rw [element_eq, ok_bind, pure_eq]
  · rw [element_eq, ok_bind, pure_eq]

/-- A row inside a box that no box inside it covers. -/
def row (r : Reader) (row : Int) (b : Bounds) : Except Failure Reading := do
  let text ← rowChars r.grid row (b.left + 1) (some b.right)
  if Text.allBlank text then return ⟨[.spacer (r.place row (b.left + 1))], []⟩
  else contentRow r row b text

/-- A row is read without a failure. -/
theorem row_eq (r : Reader) (n : Int) (b : Bounds) : row r n b = .ok (r.row n b) := by
  rw [row, rowChars_eq, ok_bind, Reader.row]
  split
  · rfl
  · exact contentRow_eq r n b _

/-- Whether a row is a divider of a rectangle. -/
def isDividerRow (g : Grid) (b : Bounds) (row : Int) : Except Failure Bool := do
  let inside := b.right - b.left - 1
  let run ← scan g .right ⟨row, b.left + 1⟩ fun cell => decide (cell.kind = .divider)
  return decide (0 < inside) && decide (inside ≤ run.length)

/-- Dividers are told from other rows without a failure. -/
theorem isDividerRow_eq (g : Grid) (b : Bounds) (row : Int) :
    isDividerRow g b row = .ok (g.isDividerRow b row) := by
  rw [isDividerRow, scan_eq]
  rfl

/-! ## Boxes -/

/-- What a row inside a box gives. -/
def interiorRow (r : Reader) (b : Bounds) (inner : List Reader.Inner) (n : Int) :
    Except Failure Reading := do
  let starting := sortBy (fun x y => decide (x.bounds.left ≤ y.bounds.left))
    (inner.filter fun i => decide (i.bounds.top = n))
  let begun := Reading.concat (starting.map (·.reading))
  if inner.any fun i => decide (i.bounds.top ≤ n) && decide (n ≤ i.bounds.bottom) then return begun
  else if ← isDividerRow r.grid b n then
    return begun.append ⟨[.divider (r.place n (b.left + 1))], []⟩
  else
    let rest ← row r n b
    return begun.append rest

/-- A row inside a box is read without a failure. -/
theorem interiorRow_eq (r : Reader) (b : Bounds) (inner : List Reader.Inner) (n : Int) :
    interiorRow r b inner n = .ok (r.interiorRow b inner n) := by
  unfold interiorRow Reader.interiorRow
  dsimp only
  split
  · rfl
  · rw [isDividerRow_eq, ok_bind, row_eq]
    split <;> rfl

/-- A box, given what the boxes inside it were read as. -/
def assemble (r : Reader) (box : Box) (inner : List Reader.Inner) : Except Failure Reading := do
  let b := box.bounds
  let rows ← (Grid.innerRows b).mapM (interiorRow r b inner)
  let inside := Reading.concat rows
  let elements := if inside.elements.all Element.isSpacer then [] else inside.elements
  let bounds ← shiftedBounds r.offset b
  let children ← gatherRows b elements
  return ⟨[.box bounds box.name children], inside.problems⟩

/-- A box is read without a failure. -/
theorem assemble_eq (r : Reader) {box : Box} (h : box.bounds.Valid) (inner : List Reader.Inner) :
    assemble r box inner = .ok (r.assemble box inner) := by
  rw [assemble, mapM_eq_ok fun n _ => interiorRow_eq r box.bounds inner n, ok_bind,
    shiftedBounds_eq h, ok_bind, gatherRows_eq]
  rfl

mutual

/-- A box with the boxes inside it. -/
def box (r : Reader) : BoxTree → Except Failure Reading
  | ⟨b, children⟩ => do
    let inner ← boxes r children
    assemble r b inner

/-- The boxes inside a box. -/
def boxes (r : Reader) : List BoxTree → Except Failure (List Reader.Inner)
  | [] => return []
  | t :: rest => do
    let reading ← box r t
    let inner ← boxes r rest
    return ⟨t.box.bounds, reading⟩ :: inner

end

/-- Several boxes are read without a failure if each of them is. -/
theorem boxes_eq {ts : List BoxTree} (h : ∀ t ∈ ts, box r t = .ok (r.box t)) :
    boxes r ts = .ok (r.boxes ts) := by
  induction ts with
  | nil => rfl
  | cons t ts ih =>
    rw [boxes, h t List.mem_cons_self, ok_bind, ih fun u hu => h u (List.mem_cons_of_mem t hu)]
    rfl

/-- A box is read without a failure, with all boxes inside it. -/
theorem box_eq {t : BoxTree} (h : ∀ box ∈ t.boxes, box.bounds.Valid) :
    box r t = .ok (r.box t) := by
  induction t with
  | mk b children ih =>
    rw [BoxTree.boxes_eq, List.forall_mem_cons] at h
    have hchildren : boxes r children = .ok (r.boxes children) := boxes_eq fun t ht =>
      ih t ht fun c hc => h.2 c (List.mem_flatMap.2 ⟨t, ht, hc⟩)
    rw [box, hchildren, ok_bind, assemble_eq r h.1]
    rfl

/-- The scene of a block, given its boxes in reading order, and the problems in their content. -/
def scene (r : Reader) (block : Scene.Block) (roots : List BoxTree) :
    Except Failure (Scene × List Diagnostic) := do
  let readings ← roots.mapM (box r)
  let reading := Reading.concat readings
  let canvas ← rectangle 0 (-1) (max ((r.grid.height : Int) - 1) 0) r.grid.width
  let elements ← gatherRows canvas reading.elements
  return ({ id := block.sceneId
            title := block.title
            transition := block.transition
            device := block.device
            elements
            line := block.sceneLine }, reading.problems)

/-- A scene is read without a failure, whatever is drawn in its boxes. -/
theorem scene_eq (block : Scene.Block) {roots : List BoxTree}
    (h : ∀ box ∈ BoxTree.boxesOfAll roots, box.bounds.Valid) :
    scene r block roots = .ok (r.scene block roots) := by
  rw [BoxTree.boxesOfAll_eq_flatMap] at h
  have hroots : ∀ t ∈ roots, box r t = .ok (r.box t) := fun t ht =>
    box_eq fun b hb => h b (List.mem_flatMap.2 ⟨t, ht, hb⟩)
  have hcanvas : (Reader.canvas r.grid).Valid := by
    unfold Reader.canvas Bounds.Valid
    dsimp only
    omega
  rw [scene, mapM_eq_ok hroots, ok_bind]
  have hrect := rectangle_eq hcanvas
  unfold Reader.canvas at hrect
  dsimp only at hrect ⊢
  rw [hrect, ok_bind, gatherRows_eq]
  rfl

end Checked

end Wireframe
