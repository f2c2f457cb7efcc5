import Mathlib.Data.List.Nodup
import Mathlib.Data.List.Perm.Basic
import Mathlib.Data.List.SplitBy
import Wireframe.Content
import Wireframe.Interaction
import Wireframe.Proofs.Nesting.Forest

/-!
# Reading keeps the rectangles

The rectangles of the boxes among the elements that a tree of boxes is read as are those of the
tree, moved to their place in the text (`rectangles_box`). Nothing else that is read has a rectangle
(`rectangles_contentRow`), putting boxes side by side into rows keeps them
(`rectangles_gatherRows`), and a box inside another begins on exactly one of the rows inside it,
where it is read (`flatMap_filter_perm`). Attaching interactions keeps them as well
(`rectangles_attachAll`).
-/

namespace Wireframe

namespace Element

variable {e : Element} {es : List Element}

/-! ## Rectangles among elements -/

/-- What is met on a walk through several elements is what is met in each in turn. -/
theorem walkAll_eq_flatMap (es : List Element) : walkAll es = es.flatMap walk := by
  induction es with
  | nil => rfl
  | cons e es ih => rw [walkAll, ih, List.flatMap_cons]

/-- The rectangles of the boxes among elements and inside them. -/
def rectangles (es : List Element) : List Bounds := (walkAll es).filterMap boxBounds?

/-- The rectangles among the elements of several lists are those among each in turn. -/
theorem rectangles_flatMap {α : Type} (xs : List α) (f : α → List Element) :
    rectangles (xs.flatMap f) = xs.flatMap fun x => rectangles (f x) := by
  simp only [rectangles, walkAll_eq_flatMap, List.flatMap_assoc, List.filterMap_flatMap]

/-- The rectangles among elements are those of each in turn. -/
theorem rectangles_cons (e : Element) (es : List Element) :
    rectangles (e :: es) = rectangles [e] ++ rectangles es := by
  simp [rectangles, walkAll_eq_flatMap]

/-- The rectangles of a box are its own and those inside it. -/
@[simp] theorem rectangles_singleton_box (b : Bounds) (name : Option String) (children : List Element) :
    rectangles [.box b name children] = b :: rectangles children := by
  simp [rectangles, walkAll, walk, boxBounds?]

/-- A row has the rectangles of what stands in it. -/
@[simp] theorem rectangles_singleton_row (children : List Element) (align : Alignment) :
    rectangles [.row children align] = rectangles children := by
  rw [rectangles, walkAll, walk, walkAll, List.append_nil, List.filterMap_cons_none rfl]
  rfl

/-- Whether nothing can be inside an element. -/
def isLeaf : Element → Bool
  | .box _ _ _ => false
  | .row _ _ => false
  | _ => true

/-- Whether an element is read from written content. -/
def isContent : Element → Bool
  | .button _ => true
  | .input _ => true
  | .link _ => true
  | .checkbox _ => true
  | .text _ => true
  | _ => false

/-- What is read from content has nothing inside. -/
theorem isLeaf_of_isContent (h : e.isContent = true) : e.isLeaf = true := by
  cases e <;> simp_all [isContent, isLeaf]

/-- Among elements with nothing inside there are no rectangles. -/
theorem rectangles_of_isLeaf (h : ∀ e ∈ es, e.isLeaf = true) : rectangles es = [] := by
  induction es with
  | nil => rfl
  | cons e es ih =>
    have hfirst := h e List.mem_cons_self
    rw [rectangles_cons, ih fun e he => h e (List.mem_cons_of_mem _ he), List.append_nil]
    cases e with
    | box b name children => simp [isLeaf] at hfirst
    | row children align => simp [isLeaf] at hfirst
    | _ => rfl

/-- Moving an element keeps what it is read from. -/
@[simp] theorem isContent_shifted (rows : Int) (e : Element) :
    (e.shifted rows).isContent = e.isContent := by
  cases e <;> simp [shifted, isContent]

/-- A spacer has nothing inside. -/
theorem isLeaf_of_isSpacer (h : e.isSpacer = true) : e.isLeaf = true := by
  cases e <;> simp_all [isSpacer, isLeaf]

/-- Putting boxes side by side into rows keeps the rectangles. -/
@[simp] theorem rectangles_gatherRows (container : Bounds) (es : List Element) :
    rectangles (gatherRows container es) = rectangles es := by
  have hrun : ∀ run, rectangles (ofRun container run) = rectangles run := by
    intro run
    unfold ofRun
    split
    · rw [rectangles_singleton_row]
    · rfl
  have hflat := rectangles_flatMap (es.splitBy continuesRow) id
  rw [List.flatMap_id, List.flatten_splitBy] at hflat
  rw [gatherRows, rectangles_flatMap, hflat]
  exact List.flatMap_congr fun run _ => hrun run

end Element

/-! ## Content -/

namespace Recognizer

/-- What each recognizer reads, and the form of the content that it reads it from. -/
inductive Reads (content : Line) (p : Position) (container : Bounds) :
    Recognizer → Element → Prop where
  /-- A button is read from a bracketed label that is not blank. -/
  | button (inner : Line) (hform : Form.bracketed? content = some inner)
    (hlabel : Text.trim inner ≠ []) :
    Reads content p container .button (.button
      { id := idFor "button" (Text.trim inner) p
        text := String.ofList (Text.trim inner)
        position := p
        align := (rule .button).align content p container
        variant := none
        properties := []
        actions := [] })
  /-- A field is read from its name and maybe a placeholder. -/
  | input (name : Line) (placeholder : Option Line)
    (hform : Form.field? content = some (name, placeholder)) :
    Reads content p container .input (.input
      { id := String.ofList name
        position := p
        placeholder := placeholder.map String.ofList
        properties := []
        actions := [] })
  /-- A box to tick is read from a mark and a label that is not blank. -/
  | checkbox (mark : Char) (rest : Line) (hform : Form.tickBox? content = some (mark, rest))
    (hlabel : Text.trim rest ≠ []) :
    Reads content p container .checkbox
      (.checkbox ⟨decide (mark ≠ ' '), String.ofList (Text.trim rest), p⟩)
  /-- A link is read from a quoted text that is not blank. -/
  | link (inner : Line) (hform : Form.quotedText? content = some inner)
    (hlabel : Text.trim inner ≠ []) :
    Reads content p container .link (.link
      { id := idFor "link" (Text.trim inner) p
        text := String.ofList (Text.trim inner)
        position := p
        align := (rule .link).align content p container
        properties := []
        actions := [] })
  /-- An emphasised text is read from the text behind its star. -/
  | emphasis (emphasised : Line) (hform : Form.emphasis? content = some emphasised) :
    Reads content p container .emphasis (.text ⟨String.ofList (Text.trim emphasised), p, true,
      (rule .emphasis).align content p container⟩)
  /-- Anything is read as plain text. -/
  | text : Reads content p container .text (caption content p container)

variable {rec : Recognizer} {content : Line} {p : Position} {container : Bounds} {e : Element}

/-- A recognizer reads one of these. -/
theorem reads_of_read (h : rec.read content p container = some e) :
    rec.Reads content p container e := by
  cases rec with
  | button =>
    simp only [read, Option.bind_eq_bind, Option.bind_eq_some_iff] at h
    obtain ⟨inner, hform, h⟩ := h
    split at h
    · simp at h
    · next hlabel =>
      rw [← Option.some.inj h]
      exact .button inner hform hlabel
  | input =>
    simp only [read, Option.bind_eq_bind, Option.bind_eq_some_iff] at h
    obtain ⟨⟨name, placeholder⟩, hform, h⟩ := h
    rw [← Option.some.inj h]
    exact .input name placeholder hform
  | checkbox =>
    simp only [read, Option.bind_eq_bind, Option.bind_eq_some_iff] at h
    obtain ⟨⟨mark, rest⟩, hform, h⟩ := h
    split at h
    · simp at h
    · next hlabel =>
      rw [← Option.some.inj h]
      exact .checkbox mark rest hform hlabel
  | link =>
    simp only [read, Option.bind_eq_bind, Option.bind_eq_some_iff] at h
    obtain ⟨inner, hform, h⟩ := h
    split at h
    · simp at h
    · next hlabel =>
      rw [← Option.some.inj h]
      exact .link inner hform hlabel
  | emphasis =>
    simp only [read, Option.bind_eq_bind, Option.bind_eq_some_iff] at h
    obtain ⟨emphasised, hform, h⟩ := h
    rw [← Option.some.inj h]
    exact .emphasis emphasised hform
  | text =>
    rw [← Option.some.inj h]
    exact .text

/-- What a recognizer reads is read from content. -/
theorem isContent_read (h : rec.read content p container = some e) : e.isContent = true := by
  cases reads_of_read h <;> rfl

end Recognizer

/-- What several recognizers read together is read from content. -/
theorem Recognizer.isContent_readWith (rs : List Recognizer) (content : Line) (p : Position)
    (container : Bounds) : (readWith rs content p container).isContent = true := by
  rw [readWith]
  cases hread : (inOrder rs).findSome? (read content p container) with
  | none => rfl
  | some e =>
    obtain ⟨rec, -, hrec⟩ := List.exists_of_findSome?_eq_some hread
    exact isContent_read hrec

namespace Reader

open Element

variable {r : Reader} {b : Bounds}

/-- Content is read as an element that says so. -/
theorem isContent_element (r : Reader) (content : Line) (row col : Int) (container : Bounds) :
    (r.element content row col container).isContent = true := by
  rw [element, isContent_shifted]
  exact Recognizer.isContent_readWith _ _ _ _

/-- Content is read as an element with nothing inside. -/
theorem isLeaf_element (r : Reader) (content : Line) (row col : Int) (container : Bounds) :
    (r.element content row col container).isLeaf = true :=
  isLeaf_of_isContent (isContent_element r content row col container)

/-- On a row of content there are no rectangles. -/
theorem rectangles_contentRow (r : Reader) (row : Int) (b : Bounds) (text : Line) :
    rectangles (r.contentRow row b text).elements = [] := by
  have hwhole : ∀ content col, rectangles [r.element content row col b] = [] := by
    intro content col
    refine rectangles_of_isLeaf fun e he => ?_
    rw [List.mem_singleton.1 he]
    exact isLeaf_element r content row col b
  rw [contentRow]
  dsimp only
  split
  · split
    · -- The parts of a row of controls are elements of their own.
      rw [rectangles_singleton_row]
      refine rectangles_of_isLeaf fun e he => ?_
      obtain ⟨s, -, rfl⟩ := List.mem_map.1 he
      exact isLeaf_element r _ _ _ _
    · exact hwhole _ _
  · exact hwhole _ _

/-- On a row that no box covers there are no rectangles. -/
theorem rectangles_row (r : Reader) (row : Int) (b : Bounds) :
    rectangles (r.row row b).elements = [] := by
  rw [Reader.row]
  split
  · rfl
  · exact rectangles_contentRow r row b _

/-! ## Boxes -/

/-- A row inside a box has the rectangles of the boxes that begin on it. -/
theorem rectangles_interiorRow (r : Reader) (b : Bounds) (inner : List Inner) (row : Int) :
    (rectangles (r.interiorRow b inner row).elements).Perm
      ((inner.filter fun i => decide (i.bounds.top = row)).flatMap fun i =>
        rectangles i.reading.elements) := by
  have hbegun := (sortBy_perm (fun x y : Inner => decide (x.bounds.left ≤ y.bounds.left))
    (inner.filter fun i => decide (i.bounds.top = row))).flatMap_right fun i =>
      rectangles i.reading.elements
  -- Only the boxes that begin on the row have rectangles, whatever else is read there.
  refine List.Perm.trans (List.Perm.of_eq ?_) hbegun
  have hconcat : ∀ starting : List Inner,
      rectangles (Reading.concat (starting.map (·.reading))).elements =
        starting.flatMap fun i => rectangles i.reading.elements := by
    intro starting
    rw [Reading.elements_concat, rectangles_flatMap, List.flatMap_map]
  have happend : ∀ (first : Reading) (es : List Element) (ps : List Diagnostic),
      rectangles es = [] → rectangles (first.append ⟨es, ps⟩).elements =
        rectangles first.elements := by
    intro first es ps hes
    have hsplit := rectangles_flatMap [first.elements, es] id
    simp only [List.flatMap_cons, List.flatMap_nil, List.append_nil, id_eq] at hsplit
    rw [Reading.append, hsplit, hes, List.append_nil]
  rw [interiorRow]
  split
  · exact hconcat _
  · split
    · rw [happend _ _ _ rfl]
      exact hconcat _
    · rw [happend _ _ _ (rectangles_row r row b)]
      exact hconcat _

/-- Entries that are picked by a key, for one key after the other, are all entries when no key comes
twice and every entry has one of them. -/
theorem flatMap_filter_perm {α β : Type} [DecidableEq β] {keys : List β} {xs : List α}
    {key : α → β} (hnodup : keys.Nodup) (hkey : ∀ x ∈ xs, key x ∈ keys) :
    (keys.flatMap fun k => xs.filter fun x => decide (key x = k)).Perm xs := by
  induction keys generalizing xs with
  | nil =>
    have hxs : xs = [] := List.eq_nil_iff_forall_not_mem.2 fun x hx => by simpa using hkey x hx
    rw [hxs]
    exact .nil
  | cons k keys ih =>
    obtain ⟨hk, hkeys⟩ := List.nodup_cons.1 hnodup
    -- The other keys pick from what the first one leaves.
    have hrest : (keys.flatMap fun k' => (xs.filter fun x => !decide (key x = k)).filter fun x =>
        decide (key x = k')).Perm (xs.filter fun x => !decide (key x = k)) := by
      refine ih hkeys fun x hx => ?_
      obtain ⟨hx, hne⟩ := List.mem_filter.1 hx
      exact (List.mem_cons.1 (hkey x hx)).resolve_left (by simpa using hne)
    have hsame : (keys.flatMap fun k' => (xs.filter fun x => !decide (key x = k)).filter fun x =>
        decide (key x = k')) = keys.flatMap fun k' => xs.filter fun x => decide (key x = k') := by
      refine List.flatMap_congr fun k' hk' => ?_
      rw [List.filter_filter]
      refine List.filter_congr fun x _ => ?_
      by_cases heq : key x = k'
      · have hne : k' ≠ k := fun h => hk (by rw [← h]; exact hk')
        simp [heq, hne]
      · simp [heq]
    rw [hsame] at hrest
    rw [List.flatMap_cons]
    exact (hrest.append_left _).trans (List.filter_append_perm _ xs)

/-- The rows inside a rectangle are those between its edges. -/
@[simp] theorem mem_innerRows_iff {row : Int} :
    row ∈ Grid.innerRows b ↔ b.top < row ∧ row < b.bottom := by
  simp only [Grid.innerRows, List.mem_map, List.mem_range]
  constructor
  · rintro ⟨i, hi, rfl⟩
    omega
  · rintro ⟨htop, hbottom⟩
    exact ⟨(row - b.top - 1).toNat, by omega, by omega⟩

/-- No row inside a rectangle comes twice. -/
theorem nodup_innerRows (b : Bounds) : (Grid.innerRows b).Nodup := by
  refine List.Nodup.map ?_ List.nodup_range
  intro i j h
  simp only at h
  omega

/-- A box has its own rectangle and those of the boxes inside it, if all of these begin on a row
inside it. -/
theorem rectangles_assemble (r : Reader) (box : Box) {inner : List Inner}
    (hinner : ∀ i ∈ inner, i.bounds.top ∈ Grid.innerRows box.bounds) :
    (rectangles (r.assemble box inner).elements).Perm
      (box.bounds.shifted r.offset :: inner.flatMap fun i => rectangles i.reading.elements) := by
  rw [assemble]
  dsimp only
  rw [rectangles_singleton_box, rectangles_gatherRows]
  refine List.Perm.cons _ ?_
  have hinside : (rectangles (Reading.concat ((Grid.innerRows box.bounds).map
      (r.interiorRow box.bounds inner))).elements).Perm
        (inner.flatMap fun i => rectangles i.reading.elements) := by
    rw [Reading.elements_concat, rectangles_flatMap, List.flatMap_map]
    have hrows := List.Perm.flatMap_left (Grid.innerRows box.bounds) fun row _ =>
      rectangles_interiorRow r box.bounds inner row
    rw [← List.flatMap_assoc] at hrows
    exact hrows.trans ((flatMap_filter_perm (nodup_innerRows box.bounds) hinner).flatMap_right _)
  split
  · -- Among nothing but spacers there are no rectangles, so none is lost.
    next hspacers =>
    have hleaf : ∀ e ∈ (Reading.concat ((Grid.innerRows box.bounds).map
        (r.interiorRow box.bounds inner))).elements, e.isLeaf = true := fun e he =>
      isLeaf_of_isSpacer (List.all_eq_true.1 hspacers e he)
    rw [rectangles_of_isLeaf hleaf] at hinside
    exact hinside
  · exact hinside

/-- A well nested tree of boxes is read as elements with its rectangles. -/
theorem rectangles_box {t : BoxTree} (hnested : t.WellNested)
    (hvalid : ∀ box ∈ t.boxes, box.bounds.Valid) :
    (rectangles (r.box t).elements).Perm (t.boxes.map fun box => box.bounds.shifted r.offset) := by
  induction t with
  | mk box children ih =>
    cases hnested with
    | mk _ _ hinside hchildren =>
      rw [BoxTree.boxes_eq] at hvalid ⊢
      dsimp only at hvalid ⊢
      have hvalid' : ∀ c ∈ children, ∀ box ∈ c.boxes, box.bounds.Valid := fun c hc box hbox =>
        hvalid box (List.mem_cons_of_mem _ (List.mem_flatMap.2 ⟨c, hc, hbox⟩))
      have hinner : ∀ i ∈ r.boxes children, i.bounds.top ∈ Grid.innerRows box.bounds := by
        intro i hi
        rw [boxes_eq_map] at hi
        obtain ⟨c, hc, rfl⟩ := List.mem_map.1 hi
        have hmem : c.box ∈ c.boxes := by
          rw [BoxTree.boxes_eq]
          exact List.mem_cons_self
        obtain ⟨hrows, -⟩ := hvalid' c hc c.box hmem
        obtain ⟨htop, -, hbottom, -⟩ := (Bounds.strictlyContains_iff _ _).1 (hinside c hc)
        rw [mem_innerRows_iff]
        dsimp only
        omega
      show (rectangles (r.assemble box (r.boxes children)).elements).Perm _
      refine (rectangles_assemble r box hinner).trans ?_
      rw [List.map_cons, List.map_flatMap, boxes_eq_map, List.flatMap_map]
      refine List.Perm.cons _ (List.Perm.flatMap_left _ fun c hc => ?_)
      exact ih c hc (hchildren c hc) (hvalid' c hc)

/-- A scene has the rectangles of the trees it is made of. -/
theorem rectangles_scene (block : Scene.Block) {roots : List BoxTree}
    (hnested : ∀ t ∈ roots, t.WellNested)
    (hvalid : ∀ box ∈ BoxTree.boxesOfAll roots, box.bounds.Valid) :
    (rectangles (r.scene block roots).1.elements).Perm
      ((BoxTree.boxesOfAll roots).map fun box => box.bounds.shifted r.offset) := by
  rw [BoxTree.boxesOfAll_eq_flatMap] at hvalid ⊢
  rw [scene]
  dsimp only
  rw [rectangles_gatherRows, Reading.elements_concat, rectangles_flatMap, List.flatMap_map,
    List.map_flatMap]
  refine List.Perm.flatMap_left _ fun t ht => rectangles_box (hnested t ht) fun box hbox => ?_
  exact hvalid box (List.mem_flatMap.2 ⟨t, ht, hbox⟩)

end Reader

/-! ## Interactions -/

namespace Interaction

open Element

mutual

/-- Attaching interactions to an element keeps its rectangles. -/
theorem rectangles_attach (interactions : List Interaction) :
    ∀ e : Element, rectangles [attach interactions e] = rectangles [e]
  | .box b name children => by
    rw [attach, rectangles_singleton_box, rectangles_singleton_box,
      rectangles_attachAll interactions children]
  | .row children align => by
    rw [attach, rectangles_singleton_row, rectangles_singleton_row,
      rectangles_attachAll interactions children]
  | .button _ => rfl
  | .input _ => rfl
  | .link _ => rfl
  | .checkbox _ => rfl
  | .text _ => rfl
  | .divider _ => rfl
  | .spacer _ => rfl

/-- Attaching interactions to several elements keeps their rectangles. -/
@[simp] theorem rectangles_attachAll (interactions : List Interaction) :
    ∀ es : List Element, rectangles (attachAll interactions es) = rectangles es
  | [] => rfl
  | e :: rest => by
    rw [attachAll, rectangles_cons, rectangles_attach interactions e,
      rectangles_attachAll interactions rest, ← rectangles_cons]

end

end Interaction

end Wireframe
