import Mathlib.Tactic.SplitIfs
import Wireframe.Proofs.Blocks
import Wireframe.Proofs.Grid.Index

/-!
# The characters of a text by their places

What a problem says about a text is said in rows and columns. The character at a place is the same
before and after line ends are unified, as only the last character of a line may be dropped
(`charAt?_unifyNewlines`). Where a drawing has a piece of an edge or a corner, the text that the
drawing was cut from has its character (`charAt?_of_cellIs`).
-/

namespace Wireframe

namespace Text

/-- The character at a row and a column, if there is one. -/
def charAt? (lines : List Line) (p : Position) : Option Char :=
  if 0 ≤ p.row ∧ 0 ≤ p.col then
    (lines[p.row.toNat]?).bind fun chars => chars[p.col.toNat]?
  else none

/-- The character in a column of a line. -/
theorem charAt?_of_line {lines : List Line} {row : Nat} {chars : Line}
    (h : lines[row]? = some chars) (col : Nat) : charAt? lines ⟨row, col⟩ = chars[col]? := by
  simp [charAt?, h]

/-- There are characters only at places that are not negative. -/
theorem charAt?_eq_some_iff {lines : List Line} {p : Position} {c : Char} :
    charAt? lines p = some c ↔
      ∃ (row col : Nat) (chars : Line), p = ⟨row, col⟩ ∧ lines[row]? = some chars ∧
        chars[col]? = some c := by
  constructor
  · intro h
    unfold charAt? at h
    split at h
    · next hp =>
      obtain ⟨chars, hline, hchar⟩ := Option.bind_eq_some_iff.1 h
      have hrow : p.row = p.row.toNat := by omega
      have hcol : p.col = p.col.toNat := by omega
      exact ⟨p.row.toNat, p.col.toNat, chars, Position.ext hrow hcol, hline, hchar⟩
    · simp at h
  · rintro ⟨row, col, chars, rfl, hline, hchar⟩
    rw [charAt?_of_line hline, hchar]

/-- The first line of a text, and the lines behind it. -/
theorem exists_lines_eq_cons (cs : List Char) : ∃ chars rest, lines cs = chars :: rest := by
  cases h : lines cs with
  | nil => exact absurd h (lines_ne_nil cs)
  | cons chars rest => exact ⟨chars, rest, rfl⟩

/-- Unifying the ends of lines leaves every other character in its row and its column. -/
theorem getElem?_lines_unifyNewlines {c : Char} (hc : c ≠ '\r') (cs : List Char) (row col : Nat) :
    ((lines (unifyNewlines cs))[row]?.bind fun chars => chars[col]?) = some c ↔
      ((lines cs)[row]?.bind fun chars => chars[col]?) = some c := by
  induction cs generalizing row col with
  | nil => rfl
  | cons d cs ih =>
    by_cases hdrop : d = '\r' ∧ cs.head? = some '\n'
    · -- The dropped character is the last one of its line.
      obtain ⟨rfl, hhead⟩ := hdrop
      obtain ⟨rest, rfl⟩ : ∃ rest, cs = '\n' :: rest := by
        cases cs with
        | nil => simp at hhead
        | cons e rest => exact ⟨rest, by simpa using hhead⟩
      have hlines : lines ('\r' :: '\n' :: rest) = ['\r'] :: lines rest :=
        lines_cons (by decide) (lines_newline_cons rest)
      rw [unifyNewlines, if_pos ⟨rfl, hhead⟩, ih, hlines, lines_newline_cons]
      cases row with
      | succ row => rfl
      | zero => cases col <;> simp [Ne.symm hc]
    · rw [unifyNewlines, if_neg hdrop]
      by_cases hd : d = '\n'
      · rw [hd, lines_newline_cons, lines_newline_cons]
        cases row with
        | zero => rfl
        | succ row => exact ih row col
      · obtain ⟨chars, rest, hcs⟩ := exists_lines_eq_cons cs
        obtain ⟨chars', rest', hcs'⟩ := exists_lines_eq_cons (unifyNewlines cs)
        rw [lines_cons hd hcs, lines_cons hd hcs']
        rw [hcs, hcs'] at ih
        cases row with
        | succ row => exact ih (row + 1) col
        | zero =>
          cases col with
          | zero => rfl
          | succ col => exact ih 0 col

/-- A character other than a carriage return is found where it was before line ends were unified. -/
theorem charAt?_unifyNewlines {c : Char} (hc : c ≠ '\r') (cs : List Char) (p : Position) :
    charAt? (lines (unifyNewlines cs)) p = some c ↔ charAt? (lines cs) p = some c := by
  unfold charAt?
  split
  · exact getElem?_lines_unifyNewlines hc cs _ _
  · rfl

end Text

/-! ## Cells -/

namespace Cell

/-- The character of a kind that draws boxes. -/
def Kind.char? : Cell.Kind → Option Char
  | .corner => some '+'
  | .horizontal => some '-'
  | .vertical => some '|'
  | .divider => some '='
  | .space => none
  | .ordinary => none

/-- Only the character of a kind stands for it. -/
theorem kind_ofChar_iff {kind : Cell.Kind} {c d : Char} (h : kind.char? = some c) :
    (ofChar d).kind = kind ↔ d = c := by
  have hcases : ∀ k : Cell.Kind, (ofChar d).kind = k → k.char? = some d ∨ k.char? = none := by
    rintro _ rfl
    unfold ofChar
    split_ifs with h1 h2 h3 h4 h5 <;> simp_all [Cell.kind, Kind.char?]
  constructor
  · intro hkind
    rcases hcases kind hkind with hsame | hnone
    · rw [h, Option.some.injEq] at hsame
      exact hsame.symm
    · rw [h] at hnone
      simp at hnone
  · rintro rfl
    cases kind <;> simp only [Kind.char?, Option.some.injEq, reduceCtorEq] at h <;>
      rw [← h] <;> rfl

end Cell

/-- Where a grid has a cell of a kind that draws boxes, a line has its character. -/
theorem Grid.exists_line_of_cellIs {lines : List Line} {p : Position} {kind : Cell.Kind} {c : Char}
    (hkind : kind.char? = some c) (h : (ofLines lines).cellIs p kind = true) :
    ∃ (row col : Nat) (chars : Line), p = ⟨row, col⟩ ∧ lines[row]? = some chars ∧
      chars[col]? = some c := by
  obtain ⟨hrow, -, hcol, -⟩ := bounds_of_cellIs h
  obtain ⟨row, hr⟩ := Int.eq_ofNat_of_zero_le hrow
  obtain ⟨col, hc⟩ := Int.eq_ofNat_of_zero_le hcol
  obtain rfl : p = ⟨row, col⟩ := Position.ext hr hc
  obtain ⟨cell, hcell, hcellKind⟩ := cellIs_iff.1 h
  rw [get?_natCast, GlyphIndex.cellAt?] at hcell
  obtain ⟨cells, hcells, hcell⟩ := Option.bind_eq_some_iff.1 hcell
  have hmap : (lines.map (padRow (widest lines)))[row]? = some cells := hcells
  rw [List.getElem?_map, Option.map_eq_some_iff] at hmap
  obtain ⟨chars, hline, rfl⟩ := hmap
  refine ⟨row, col, chars, rfl, hline, ?_⟩
  unfold padRow at hcell
  -- The places that fill up a short line are empty.
  rcases Nat.lt_or_ge col chars.length with hlt | hge
  · rw [List.getElem?_append_left (by simpa using hlt), List.getElem?_map,
      Option.map_eq_some_iff] at hcell
    obtain ⟨d, hd, rfl⟩ := hcell
    rw [hd, (Cell.kind_ofChar_iff hkind).1 hcellKind]
  · rw [List.getElem?_append_right (by simpa using hge), List.getElem?_replicate] at hcell
    split at hcell
    · rw [← Option.some.inj hcell] at hcellKind
      rw [← hcellKind] at hkind
      simp [Cell.kind, Cell.Kind.char?] at hkind
    · simp at hcell

/-- A cell of a kind that draws boxes stands where a line has the character of the kind. -/
theorem Grid.cellIs_ofLines_iff {lines : List Line} {p : Position} {kind : Cell.Kind} {c : Char}
    (hkind : kind.char? = some c) :
    (ofLines lines).cellIs p kind = true ↔
      ∃ (row col : Nat) (chars : Line), p = ⟨row, col⟩ ∧ lines[row]? = some chars ∧
        chars[col]? = some c := by
  refine ⟨exists_line_of_cellIs hkind, ?_⟩
  rintro ⟨row, col, chars, rfl, hline, hchar⟩
  rw [cellIs_ofLines hline hchar, decide_eq_true_eq]
  exact (Cell.kind_ofChar_iff hkind).2 rfl

namespace Scene.Block

variable {b : Scene.Block} {text : List Line} {kind : Cell.Kind} {c : Char} {row col : Int}

/-- The row of a block on which a cell draws boxes is a line of the text. -/
theorem CutFrom.exists_line (h : b.CutFrom text) (hkind : kind.char? = some c)
    (hcell : (Grid.ofLines b.lines).cellIs ⟨row, col⟩ kind = true) :
    ∃ (r k : Nat) (chars : Line), row = r ∧ col = k ∧ b.lines[r]? = some chars ∧
      text[b.offset + r]? = some chars ∧ chars[k]? = some c := by
  obtain ⟨r, k, chars, hp, hline, hchar⟩ := Grid.exists_line_of_cellIs hkind hcell
  rw [Position.mk.injEq] at hp
  rcases h r chars hline with rfl | htext
  · -- A directive leaves nothing on its line.
    simp at hchar
  · exact ⟨r, k, chars, hp.1, hp.2, hline, htext, hchar⟩

/-- Where a block has a cell of a kind that draws boxes, the text has its character. -/
theorem CutFrom.charAt? (h : b.CutFrom text) (hkind : kind.char? = some c)
    (hcell : (Grid.ofLines b.lines).cellIs ⟨row, col⟩ kind = true) :
    Text.charAt? text ⟨row + b.offset, col⟩ = some c := by
  obtain ⟨r, k, chars, rfl, rfl, -, htext, hchar⟩ := h.exists_line hkind hcell
  rw [Int.add_comm, ← Int.natCast_add, Text.charAt?_of_line htext, hchar]

/-- On a row that has a cell which draws boxes, the text has the character of a kind only where the
block has a cell of it. -/
theorem CutFrom.charAt?_ne (h : b.CutFrom text) (hkind : kind.char? = some c)
    (hcell : (Grid.ofLines b.lines).cellIs ⟨row, col⟩ kind = true) {other : Int}
    (hother : (Grid.ofLines b.lines).cellIs ⟨row, other⟩ kind = false) :
    Text.charAt? text ⟨row + b.offset, other⟩ ≠ some c := by
  obtain ⟨r, k, chars, rfl, rfl, hline, htext, hchar⟩ := h.exists_line hkind hcell
  intro hsome
  obtain ⟨r', k', chars', hp, hline', hchar'⟩ := Text.charAt?_eq_some_iff.1 hsome
  rw [Position.mk.injEq] at hp
  obtain rfl : r' = b.offset + r := by omega
  rw [htext, Option.some.injEq] at hline'
  rw [← hline'] at hchar'
  rw [hp.2, Grid.cellIs_ofLines hline hchar', (Cell.kind_ofChar_iff hkind).2 rfl] at hother
  simp at hother

end Scene.Block

end Wireframe
