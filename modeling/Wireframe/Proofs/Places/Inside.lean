import Mathlib.Data.List.Infix
import Wireframe.Proofs.Content.Rectangles
import Wireframe.Proofs.Drawn
import Wireframe.Proofs.Grid.Run
import Wireframe.Proofs.Places

/-!
# The inside of boxes in the text

A row inside a drawn box is read from the drawing, where tabs are spaces, and the box has its sides
on that row. So the row is a part of a line of the text, from behind the left side up to the right
one (`exists_innerRow`), and what stands at some place of the row stands at that place in the text
(`standsAt_of_row`).
-/

namespace Wireframe

namespace Text

/-- A line as it is drawn, with tabs read as spaces. -/
def untab (line : Line) : Line := line.map fun c => if c = '\t' then ' ' else c

/-- The content stands in the lines, its first character at the position. -/
def StandsAt (lines : List Line) (p : Position) (content : Line) : Prop :=
  ∃ (row col : Nat) (chars : Line), p = ⟨row, col⟩ ∧ lines[row]? = some chars ∧
    content <+: chars.drop col

variable {lines : List Line} {p : Position} {content : Line} {c : Char}

/-- Content stands where it begins. -/
theorem StandsAt.charAt? (h : StandsAt lines p (c :: content)) : charAt? lines p = some c := by
  obtain ⟨row, col, chars, rfl, hline, rest, hrest⟩ := h
  rw [charAt?_of_line hline, ← List.head?_drop, ← hrest]
  rfl

/-- The beginning of content stands where the content does. -/
theorem StandsAt.of_prefix {start : Line} (h : StandsAt lines p content)
    (hstart : start <+: content) : StandsAt lines p start := by
  obtain ⟨row, col, chars, hp, hline, hprefix⟩ := h
  exact ⟨row, col, chars, hp, hline, hstart.trans hprefix⟩

/-- Content without spaces at the beginning of a line as it is drawn is at the beginning of the line
itself. -/
theorem prefix_of_untab {chars : Line} (h : content <+: untab chars) (hspace : ' ' ∉ content) :
    content <+: chars := by
  induction content generalizing chars with
  | nil => exact List.nil_prefix
  | cons c content ih =>
    rw [List.mem_cons, not_or] at hspace
    cases chars with
    | nil => simp [untab] at h
    | cons d chars =>
      rw [untab, List.map_cons, List.cons_prefix_cons] at h
      obtain ⟨hfirst, hrest⟩ := h
      -- A tab would be drawn as a space.
      have hd : d ≠ '\t' := fun htab => hspace.1 (by rw [hfirst, if_pos htab])
      rw [if_neg hd] at hfirst
      exact List.cons_prefix_cons.2 ⟨hfirst, ih hrest hspace.2⟩

/-- Content without spaces that stands in a drawing stands in the text of the drawing. -/
theorem StandsAt.of_untab (h : StandsAt (lines.map untab) p content) (hspace : ' ' ∉ content) :
    StandsAt lines p content := by
  obtain ⟨row, col, drawn, hp, hline, hprefix⟩ := h
  rw [List.getElem?_map, Option.map_eq_some_iff] at hline
  obtain ⟨chars, hline, rfl⟩ := hline
  have hdrop : (untab chars).drop col = untab (chars.drop col) := List.map_drop.symm
  rw [hdrop] at hprefix
  exact ⟨row, col, chars, hp, hline, prefix_of_untab hprefix hspace⟩

/-- A blank place of a drawing is blank in the text. -/
theorem isBlank_of_untab (h : isBlank (if c = '\t' then ' ' else c) = true) :
    isBlank c = true := by
  split at h
  · next htab =>
    rw [htab]
    decide
  · exact h

end Text

/-! ## Rows of a grid -/

/-- A part of a row of a grid, within the line that the row was made of. -/
theorem Grid.rowChars_ofLines {lines : List Line} {row start stop : Nat} {line : Line}
    (hline : lines[row]? = some line) (hstart : start ≤ stop) (hstop : stop ≤ line.length) :
    (ofLines lines).rowChars row start (some (stop : Int)) =
      Text.untab ((line.take stop).drop start) := by
  have hrow : (ofLines lines).rows[row]? = some (padRow (widest lines) line) := by
    show (lines.map (padRow (widest lines)))[row]? = _
    rw [List.getElem?_map, hline]
    rfl
  have hwidth : line.length ≤ widest lines := length_le_widest (List.mem_of_getElem? hline)
  have hslice : Text.slice (padRow (widest lines) line) start (some (stop : Int)) =
      ((line.take stop).drop start).map Cell.ofChar := by
    unfold Text.slice
    have hfirst : Text.clipOffset (padRow (widest lines) line).length (start : Int) = start := by
      rw [Text.clipOffset_of_nonneg (by omega), length_padRow hwidth]
      omega
    have hlast : Text.clipOffset (padRow (widest lines) line).length (stop : Int) = stop := by
      rw [Text.clipOffset_of_nonneg (by omega), length_padRow hwidth]
      omega
    dsimp only
    rw [hfirst, hlast, padRow, List.take_append_of_le_length (by simpa using hstop),
      ← List.map_take, ← List.map_drop]
  unfold rowChars
  rw [if_pos (by omega)]
  dsimp only [Int.toNat_natCast]
  rw [hrow]
  dsimp only
  rw [hslice, List.map_map]
  exact List.map_congr_left fun c _ => Cell.toChar_ofChar c

/-! ## Rows inside a drawn box -/

namespace Scene.Block

variable {b : Scene.Block} {text : List Line} {box : Bounds} {row : Int}

/-- A row inside a drawn box is the part of a line of the text between the sides of the box. -/
theorem CutFrom.exists_innerRow (h : b.CutFrom text) (hdraws : (Grid.ofLines b.lines).Draws box)
    (hrow : row ∈ Grid.innerRows box) :
    ∃ (r left right : Nat) (chars : Line), row = r ∧ box.left = left ∧ box.right = right ∧
      left + 1 < right ∧ text[b.offset + r]? = some chars ∧ chars[right]? = some '|' ∧
      (Grid.ofLines b.lines).rowChars row (box.left + 1) (some box.right) =
        Text.untab ((chars.take right).drop (left + 1)) := by
  rw [Reader.mem_innerRows_iff] at hrow
  obtain ⟨r, right, chars, rfl, hright, hline, htext, hedge⟩ :=
    h.exists_line rfl (hdraws.vertical (.inr rfl) hrow.1 hrow.2)
  obtain ⟨-, -, hleft, -⟩ := Grid.bounds_of_cellIs hdraws.topLeft
  obtain ⟨left, hl⟩ := Int.eq_ofNat_of_zero_le hleft
  dsimp only at hl
  have hcols := hdraws.left_add_one_lt_right
  have hend : right < chars.length := (List.getElem?_eq_some_iff.1 hedge).1
  refine ⟨r, left, right, chars, rfl, hl, hright, by omega, htext, hedge, ?_⟩
  rw [hl, hright, ← Int.natCast_succ]
  exact Grid.rowChars_ofLines hline (by omega) hend.le

/-- What stands on a row inside a drawn box stands in the text, tabs read as spaces. -/
theorem CutFrom.standsAt_of_row (h : b.CutFrom text) (hdraws : (Grid.ofLines b.lines).Draws box)
    (hrow : row ∈ Grid.innerRows box) {k : Nat} {content : Line}
    (hthere : content <+:
      ((Grid.ofLines b.lines).rowChars row (box.left + 1) (some box.right)).drop k) :
    Text.StandsAt (text.map Text.untab) ⟨row + b.offset, box.left + 1 + k⟩ content := by
  obtain ⟨r, left, right, chars, rfl, hl, hright, -, htext, -, hchars⟩ :=
    h.exists_innerRow hdraws hrow
  have hplace : (⟨(r : Int) + b.offset, box.left + 1 + k⟩ : Position) =
      ⟨(b.offset + r : Nat), (left + 1 + k : Nat)⟩ :=
    Position.ext (by simp only; omega) (by simp only; omega)
  have hline : (text.map Text.untab)[b.offset + r]? = some (Text.untab chars) := by
    rw [List.getElem?_map, htext]
    rfl
  refine ⟨b.offset + r, left + 1 + k, Text.untab chars, hplace, hline, ?_⟩
  rw [hchars] at hthere
  refine hthere.trans ?_
  rw [Text.untab, Text.untab, List.map_drop, List.drop_drop, List.map_take]
  exact List.IsPrefix.drop (List.take_prefix right _) _

/-- A blank row inside a drawn box is blank in the text between the sides of the box. -/
theorem CutFrom.blank_of_row (h : b.CutFrom text) (hdraws : (Grid.ofLines b.lines).Draws box)
    (hrow : row ∈ Grid.innerRows box)
    (hblank : Text.allBlank
      ((Grid.ofLines b.lines).rowChars row (box.left + 1) (some box.right)) = true)
    {col : Int} (hleft : box.left < col) (hright : col < box.right) :
    ∃ c, Text.charAt? text ⟨row + b.offset, col⟩ = some c ∧ Text.isBlank c = true := by
  obtain ⟨r, left, right, chars, rfl, hl, hr, -, htext, hedge, hchars⟩ :=
    h.exists_innerRow hdraws hrow
  have hend : right < chars.length := (List.getElem?_eq_some_iff.1 hedge).1
  obtain ⟨k, rfl⟩ := Int.eq_ofNat_of_zero_le (a := col) (by omega)
  have hk : k < chars.length := by omega
  refine ⟨chars[k], ?_, ?_⟩
  · rw [Int.add_comm, ← Int.natCast_add, Text.charAt?_of_line htext, List.getElem?_eq_getElem hk]
  · have hmem : chars[k] ∈ (chars.take right).drop (left + 1) := by
      refine List.mem_iff_getElem?.2 ⟨k - (left + 1), ?_⟩
      rw [List.getElem?_drop, List.getElem?_take_of_lt (by omega)]
      have hsum : left + 1 + (k - (left + 1)) = k := by omega
      rw [hsum, List.getElem?_eq_getElem hk]
    rw [hchars] at hblank
    exact Text.isBlank_of_untab (List.all_eq_true.1 hblank _ (List.mem_map_of_mem hmem))

/-- A divider row inside a drawn box begins with a piece of a divider in the text. -/
theorem CutFrom.charAt?_of_divider (h : b.CutFrom text)
    (hdivider : (Grid.ofLines b.lines).isDividerRow box row = true) :
    Text.charAt? text ⟨row + b.offset, box.left + 1⟩ = some '=' := by
  unfold Grid.isDividerRow at hdivider
  simp only [Bool.and_eq_true, decide_eq_true_iff] at hdivider
  obtain ⟨hinside, hrun⟩ := hdivider
  have hpos : 0 < ((Grid.ofLines b.lines).scan .right ⟨row, box.left + 1⟩ fun cell =>
      decide (cell.kind = .divider)).length := by omega
  have hfirst := Grid.any_of_lt_length_walk hpos
  rw [Int.natCast_zero, Position.step_zero] at hfirst
  exact h.charAt? rfl hfirst

end Scene.Block

end Wireframe
