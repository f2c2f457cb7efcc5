import Wireframe.Proofs.Content.Rectangles
import Wireframe.Proofs.Content.Rows
import Wireframe.Proofs.Shift

/-!
# What the rows of a box are read as

A row that no box covers gives a divider, a spacer, one element of content, or a row of controls
(`mem_ownRow`). Whatever recognizer reads content, the element stands where the content stands and
has the first characters of the content for its mark (`writtenAs_element`).
-/

namespace Wireframe

/-! ## Marks -/

namespace Element

/-- Where an element stands. A box has a rectangle instead, and a row stands where its parts do. -/
def position? : Element → Option Position
  | .button b => some b.position
  | .input i => some i.position
  | .link l => some l.position
  | .checkbox c => some c.position
  | .text t => some t.position
  | .divider p => some p
  | .spacer p => some p
  | .box _ _ _ => none
  | .row _ _ => none

/-- The characters that the element shows of its written form, from the first one on. -/
def mark : Element → Line
  | .button _ => ['[']
  | .checkbox _ => ['[']
  | .link _ => ['"']
  | .input i => '#' :: i.id.toList
  | .text t => if t.emphasis = true then ['*'] else t.content.toList
  | .divider _ => ['=']
  | .spacer _ => []
  | .box _ _ _ => []
  | .row _ _ => []

/-- Whether an element is text without emphasis. -/
def isPlain : Element → Bool
  | .text t => !t.emphasis
  | _ => false

/-- The element is written as content that begins at a position. -/
structure WrittenAs (content : Line) (p : Position) (e : Element) : Prop where
  /-- The element stands where the content begins. -/
  position : e.position? = some p
  /-- The content begins with the mark of the element. -/
  mark : e.mark <+: content
  /-- No space is in the mark, unless the mark is a whole text. -/
  unbroken : e.isPlain = true ∨ ' ' ∉ e.mark
  /-- It is no blank line. -/
  filled : e.isSpacer = false

variable {content : Line} {p : Position} {e : Element}

/-- Moving an element moves its position. -/
theorem position?_shifted (rows : Int) (e : Element) :
    (e.shifted rows).position? = e.position?.map fun p => p.shifted rows := by
  cases e <;> simp [shifted, position?]

/-- Moving an element keeps its mark. -/
theorem mark_shifted (rows : Int) (e : Element) : (e.shifted rows).mark = e.mark := by
  cases e <;> simp [shifted, mark]

/-- Moving keeps text plain. -/
theorem isPlain_shifted (rows : Int) (e : Element) : (e.shifted rows).isPlain = e.isPlain := by
  cases e <;> simp [shifted, isPlain]

/-- Moving an element moves what it is written as. -/
theorem WrittenAs.shifted (h : WrittenAs content p e) (rows : Int) :
    WrittenAs content (p.shifted rows) (e.shifted rows) where
  position := by
    rw [position?_shifted, h.position]
    rfl
  mark := by
    rw [mark_shifted]
    exact h.mark
  unbroken := by
    rw [mark_shifted, isPlain_shifted]
    exact h.unbroken
  filled := by
    rw [isSpacer_shifted]
    exact h.filled

end Element

/-! ## Forms -/

namespace Form

variable {content label : Line}

/-- A bracketed form begins with its bracket. -/
theorem prefix_of_bracketed? (h : bracketed? content = some label) : ['['] <+: content := by
  unfold bracketed? at h
  split at h
  · exact List.prefix_append ['['] _
  · simp at h

/-- A quoted form begins with its quotation mark. -/
theorem prefix_of_quotedText? (h : quotedText? content = some label) : ['"'] <+: content := by
  unfold quotedText? at h
  split at h
  · exact List.prefix_append ['"'] _
  · simp at h

/-- A box to tick begins with its bracket. -/
theorem prefix_of_tickBox? {mark : Char} (h : tickBox? content = some (mark, label)) :
    ['['] <+: content := by
  unfold tickBox? at h
  split at h
  · exact List.prefix_append ['['] _
  · simp at h

/-- An emphasised line begins with its star. -/
theorem prefix_of_emphasis? (h : emphasis? content = some label) : ['*'] <+: content := by
  unfold emphasis? at h
  split at h
  · exact List.prefix_append ['*'] _
  · simp at h

/-- A field is its sign and the characters behind it, as far as they make up a name. -/
theorem exists_name_of_field? {name : Line} {placeholder : Option Line}
    (h : field? content = some (name, placeholder)) :
    ∃ c cs, content = '#' :: c :: cs ∧ isNameStart c = true ∧
      name = c :: cs.takeWhile isNameChar := by
  unfold field? at h
  split at h
  · next c cs =>
    split at h
    · next hstart =>
      refine ⟨c, cs, rfl, hstart, ?_⟩
      dsimp only at h
      split at h
      · exact (congrArg Prod.fst (Option.some.inj h)).symm
      · obtain ⟨text, -, hpair⟩ := Option.map_eq_some_iff.1 h
        exact (congrArg Prod.fst hpair).symm
    · simp at h
  · simp at h

/-- A field begins with its sign and its name, and the name holds no space. -/
theorem prefix_of_field? {name : Line} {placeholder : Option Line}
    (h : field? content = some (name, placeholder)) : '#' :: name <+: content ∧ ' ' ∉ name := by
  obtain ⟨c, cs, rfl, hstart, rfl⟩ := exists_name_of_field? h
  constructor
  · rw [List.cons_prefix_cons, List.cons_prefix_cons]
    exact ⟨rfl, rfl, List.takeWhile_prefix _⟩
  · -- Neither the first character of a name nor a later one may be a space.
    intro hspace
    rcases List.mem_cons.1 hspace with hfirst | hlater
    · rw [← hfirst] at hstart
      exact absurd hstart (by decide)
    · exact absurd (List.all_eq_true.1 List.all_takeWhile _ hlater) (by decide)

end Form

/-! ## Recognizers -/

namespace Recognizer

open Element

variable {content : Line} {p : Position} {container : Bounds} {e : Element}

/-- An element with a mark of one character other than a space is written as content that begins
with the character. -/
theorem writtenAs_of_mark {c : Char} (hposition : e.position? = some p) (hmark : e.mark = [c])
    (hspace : c ≠ ' ') (hcontent : [c] <+: content) : WrittenAs content p e where
  position := hposition
  mark := by
    rw [hmark]
    exact hcontent
  unbroken := by
    right
    rw [hmark, List.mem_singleton]
    exact hspace.symm
  filled := by
    cases e with
    | spacer q => simp [Element.mark] at hmark
    | _ => rfl

/-- Plain text is written as itself. -/
theorem writtenAs_caption (content : Line) (p : Position) (container : Bounds) :
    WrittenAs content p (caption content p container) where
  position := rfl
  mark := by
    simp only [caption, mark, Bool.false_eq_true, if_false, String.toList_ofList]
    exact List.prefix_rfl
  unbroken := .inl rfl
  filled := rfl

/-- What a recognizer reads is written as the content. -/
theorem writtenAs_read {rec : Recognizer} (h : rec.read content p container = some e) :
    WrittenAs content p e := by
  cases reads_of_read h with
  | button inner hform hlabel =>
    exact writtenAs_of_mark rfl rfl (by decide) (Form.prefix_of_bracketed? hform)
  | input name placeholder hform =>
    obtain ⟨hname, hspace⟩ := Form.prefix_of_field? hform
    have hmark : (String.ofList name).toList = name := String.toList_ofList
    refine ⟨rfl, ?_, .inr ?_, rfl⟩
    · simpa only [mark, hmark] using hname
    · simpa [mark, hmark] using hspace
  | checkbox tick rest hform hlabel =>
    exact writtenAs_of_mark rfl rfl (by decide) (Form.prefix_of_tickBox? hform)
  | link inner hform hlabel =>
    exact writtenAs_of_mark rfl rfl (by decide) (Form.prefix_of_quotedText? hform)
  | emphasis emphasised hform =>
    exact writtenAs_of_mark rfl rfl (by decide) (Form.prefix_of_emphasis? hform)
  | text => exact writtenAs_caption content p container

/-- What several recognizers read together is written as the content. -/
theorem writtenAs_readWith (rs : List Recognizer) (content : Line) (p : Position)
    (container : Bounds) : WrittenAs content p (readWith rs content p container) := by
  unfold readWith
  cases hread : (inOrder rs).findSome? (read content p container) with
  | none => exact writtenAs_caption content p container
  | some e =>
    obtain ⟨rec, -, hrec⟩ := List.exists_of_findSome?_eq_some hread
    exact writtenAs_read hrec

end Recognizer

/-! ## Segments -/

namespace Segment

variable {passed skip : Nat} {cs : Line} {s : Segment}

/-- Segments are found behind what was passed. -/
theorem passed_le_of_mem_scan (h : s ∈ scan passed skip cs) : passed ≤ s.start := by
  obtain ⟨before, rest, -, hstart, -⟩ := exists_of_mem_scan h
  omega

/-- Every segment starts behind the start of those in front of it. -/
theorem pairwise_scan (passed skip : Nat) (cs : Line) :
    (scan passed skip cs).Pairwise fun s t => s.start < t.start := by
  induction cs generalizing passed skip with
  | nil => exact .nil
  | cons c cs ih =>
    cases skip with
    | succ skip => exact ih (passed + 1) skip
    | zero =>
      rw [scan]
      split
      · exact ih (passed + 1) 0
      · next n _ =>
        refine List.pairwise_cons.2 ⟨fun t ht => ?_, ih (passed + 1) n⟩
        exact Nat.lt_of_succ_le (passed_le_of_mem_scan ht)

end Segment

/-! ## Rows -/

namespace Element

/-- The first of two elements stands on the same line as the second and further left. -/
def LeftOf (a c : Element) : Prop :=
  ∃ p q, a.position? = some p ∧ c.position? = some q ∧ p.row = q.row ∧ p.col < q.col

end Element

namespace Reader

open Element

variable {r : Reader} {b : Bounds} {row : Int} {e : Element}

/-- The element is what stands on a row inside a box: a divider, a blank, or content from some
column on. -/
inductive ReadOn (r : Reader) (row : Int) (b : Bounds) : Element → Prop where
  /-- The row is a divider. -/
  | divider (hdivider : r.grid.isDividerRow b row = true) :
    ReadOn r row b (.divider (r.place row (b.left + 1)))
  /-- The row is blank. -/
  | spacer (hblank : Text.allBlank (r.grid.rowChars row (b.left + 1) (some b.right)) = true) :
    ReadOn r row b (.spacer (r.place row (b.left + 1)))
  /-- Content stands on the row. -/
  | content (k : Nat) (content : Line) (hcontent : content ≠ [])
    (hthere : content <+: (r.grid.rowChars row (b.left + 1) (some b.right)).drop k) :
    ReadOn r row b (r.element content row (b.left + 1 + k) b)

/-- Content is read as an element that is written as the content, at its place in the text. -/
theorem writtenAs_element (r : Reader) (content : Line) (row col : Int) (container : Bounds) :
    WrittenAs content (r.place row col) (r.element content row col container) :=
  (Recognizer.writtenAs_readWith r.recognizers content ⟨row, col⟩ container).shifted r.offset

/-- Nothing is inside an element that stands on a row. -/
theorem ReadOn.isLeaf (h : r.ReadOn row b e) : e.isLeaf = true := by
  cases h with
  | divider => rfl
  | spacer => rfl
  | content k content => exact isLeaf_element r content _ _ b

/-- What a row inside a box gives of its own, apart from the boxes that begin on it. -/
def ownRow (r : Reader) (row : Int) (b : Bounds) : List Element :=
  if r.grid.isDividerRow b row then [.divider (r.place row (b.left + 1))]
  else (r.row row b).elements

/-- A row inside a box gives the boxes that begin on it and, unless a box inside covers it, what it
gives of its own. -/
theorem elements_interiorRow (r : Reader) (b : Bounds) (inner : List Inner) (row : Int) :
    (r.interiorRow b inner row).elements =
      (sortBy (fun x y => decide (x.bounds.left ≤ y.bounds.left))
        (inner.filter fun i => decide (i.bounds.top = row))).flatMap (·.reading.elements) ++
      if inner.any fun i => decide (i.bounds.top ≤ row) && decide (row ≤ i.bounds.bottom) then []
      else r.ownRow row b := by
  unfold interiorRow ownRow
  dsimp only
  split
  · rw [Reading.elements_concat, List.flatMap_map, List.append_nil]
  · split
    · unfold Reading.append
      rw [Reading.elements_concat, List.flatMap_map]
    · unfold Reading.append
      rw [Reading.elements_concat, List.flatMap_map]

/-- The elements stand side by side as the parts of a row of controls. -/
structure ControlsOn (r : Reader) (row : Int) (b : Bounds) (parts : List Element) : Prop where
  /-- There are several of them. -/
  several : 2 ≤ parts.length
  /-- They are buttons and links. -/
  controls : ∀ e ∈ parts, e.isControl = true
  /-- They come from left to right. -/
  ordered : parts.Pairwise LeftOf
  /-- Each of them stands on the row. -/
  readOn : ∀ e ∈ parts, r.ReadOn row b e

/-- A row with content gives one element of content, or a row of controls. -/
theorem mem_contentRow (hblank :
      Text.allBlank (r.grid.rowChars row (b.left + 1) (some b.right)) = false)
    (h : e ∈ (r.contentRow row b (r.grid.rowChars row (b.left + 1) (some b.right))).elements) :
    r.ReadOn row b e ∨ ∃ parts align, e = .row parts align ∧ r.ControlsOn row b parts := by
  generalize htext : r.grid.rowChars row (b.left + 1) (some b.right) = text at hblank h
  -- What is left of the row after trimming stands on it.
  have hwhole : r.ReadOn row b (r.element (Text.trim text) row
      (b.left + 1 + (text.length - (Text.trimLeft text).length : Nat)) b) := by
    refine .content _ _ (fun hnil => ?_) ?_
    · rw [(Text.trim_eq_nil_iff text).1 hnil] at hblank
      exact absurd hblank (by simp)
    · rw [htext]
      exact trim_prefix_drop text
  unfold contentRow at h
  dsimp only at h
  split at h
  · next hsegments =>
    obtain ⟨hlength, hopens⟩ := hsegments
    split at h
    · next hcontrols =>
      rw [List.mem_singleton.1 h]
      refine .inr ⟨_, _, rfl, ?_, List.all_eq_true.1 hcontrols, ?_, ?_⟩
      · rw [List.length_map]
        exact hlength
      · rw [List.pairwise_map]
        refine (Segment.pairwise_scan 0 0 text).imp fun {s t} hlt => ?_
        have hs := writtenAs_element r s.text row (b.left + 1 + s.start) b
        have ht := writtenAs_element r t.text row (b.left + 1 + t.start) b
        refine ⟨_, _, hs.position, ht.position, rfl, ?_⟩
        simp only [place]
        omega
      · intro e he
        obtain ⟨s, hs, rfl⟩ := List.mem_map.1 he
        refine .content _ _ (fun hnil => ?_) ?_
        · have hopen := List.all_eq_true.1 hopens s hs
          rw [Segment.opensControl, hnil] at hopen
          simp at hopen
        · rw [htext]
          exact Segment.text_prefix_of_mem_ofLine hs
    · rw [List.mem_singleton.1 h]
      exact .inl hwhole
  · rw [List.mem_singleton.1 h]
    exact .inl hwhole

/-- What a row gives of its own stands on it, or is a row of controls that stand on it. -/
theorem mem_ownRow (h : e ∈ r.ownRow row b) :
    r.ReadOn row b e ∨ ∃ parts align, e = .row parts align ∧ r.ControlsOn row b parts := by
  unfold ownRow at h
  split at h
  · next hdivider =>
    rw [List.mem_singleton.1 h]
    exact .inl (.divider hdivider)
  · unfold Reader.row at h
    dsimp only at h
    split at h
    · next hblank =>
      rw [List.mem_singleton.1 h]
      exact .inl (.spacer hblank)
    · next hblank => exact mem_contentRow (by simpa using hblank) h

end Reader

end Wireframe
