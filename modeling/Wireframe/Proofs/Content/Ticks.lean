import Mathlib.Data.List.TakeWhile
import Wireframe.Proofs.Content.Segments
import Wireframe.Proofs.Frame.Read

/-!
# Boxes to tick

A row of content that is a mark in brackets, a space and a label is read as a box to tick, but not
with every label (`interiorRow_tickBox_iff`). Where all segments of the label begin as controls do,
the row is taken for a row of controls, and the mark in its brackets for one of them. A label that
begins with anything but a bracket or a quotation mark is safe (`not_crowds_cons`).
-/

namespace Wireframe

/-! ## Characters of a row -/

namespace Grid

variable {g : Grid} {b : Bounds} {row : Int} {c : Char}

/-- The characters of a part of a row are those of the cells in its columns. -/
theorem exists_get?_of_mem_rowChars {start stop : Int} (hstart : 0 ≤ start) (hstop : 0 ≤ stop)
    (h : c ∈ g.rowChars row start (some stop)) :
    ∃ col cell, start ≤ col ∧ col < stop ∧ g.get? ⟨row, col⟩ = some cell ∧ cell.toChar = c := by
  unfold rowChars at h
  split at h
  · next hrow =>
    split at h
    · next cells hcells =>
      obtain ⟨cell, hcell, hc⟩ := List.mem_map.1 h
      obtain ⟨k, hk⟩ := List.mem_iff_getElem?.1 hcell
      rw [Text.slice, Text.clipOffset_of_nonneg hstart, Text.clipOffset_of_nonneg hstop,
        List.getElem?_drop, List.getElem?_take] at hk
      split at hk
      · next hlt =>
        -- A part that holds a cell begins where its start says.
        have hmin : min start.toNat cells.length = start.toNat := by omega
        rw [hmin] at hk hlt
        refine ⟨start + k, cell, by omega, by omega, ?_, hc⟩
        have hcol : (start + k).toNat = start.toNat + k := by omega
        have hcol' : 0 ≤ start + k := by omega
        rw [get?, if_pos ⟨hrow, hcol'⟩, hcells]
        simpa only [Option.bind_some, hcol] using hk
      · simp at hk
    · simp at h
  · simp at h

/-- A row with another character between the sides of a rectangle is no divider of it. -/
theorem isDividerRow_eq_false (h : c ∈ g.rowChars row (b.left + 1) (some b.right)) (hc : c ≠ '=') :
    g.isDividerRow b row = false := by
  rw [Bool.eq_false_iff]
  intro hdivider
  obtain ⟨hwide, hpieces⟩ := isDividerRow_iff.1 hdivider
  have hstart : 0 ≤ b.left + 1 :=
    (bounds_of_cellIs (hpieces (b.left + 1) (by omega) hwide)).2.2.1
  obtain ⟨col, cell, hleft, hright, hcell, rfl⟩ :=
    exists_get?_of_mem_rowChars hstart (hstart.trans hwide.le) h
  obtain ⟨piece, hpiece, hkind⟩ := cellIs_iff.1 (hpieces col (by omega) hright)
  rw [hcell, Option.some.injEq] at hpiece
  subst hpiece
  cases cell <;> simp [Cell.kind, Cell.toChar] at hkind hc

end Grid

/-! ## Forms -/

namespace Form

/-- A bracketed form holds its closing bracket. -/
theorem close_mem_of_bracketed? {content inner : Line} (h : bracketed? content = some inner) :
    ']' ∈ content := by
  unfold bracketed? at h
  split at h
  · next cs =>
    dsimp only at h
    split at h
    · next rest hrest =>
      exact List.mem_cons_of_mem _ (List.mem_of_mem_drop (hrest ▸ List.mem_cons_self))
    · simp at h
  · simp at h

/-- A line without a line feed ends the content. -/
theorem restOfLine?_eq_some {cs : Line} (h : '\n' ∉ cs) : restOfLine? cs = some cs := by
  have hline : cs.takeWhile (· != '\n') = cs := by
    rw [List.takeWhile_eq_self_iff]
    intro c hc
    simpa using fun heq : c = '\n' => h (heq ▸ hc)
  simp [restOfLine?, hline, atEnd]

/-- A line with a line feed that is not its last character does not end the content. -/
theorem restOfLine?_eq_none {cs : Line} (h : '\n' ∈ cs) (hlast : cs.getLast? ≠ some '\n') :
    restOfLine? cs = none := by
  have hdrop : cs.drop (cs.takeWhile (· != '\n')).length = cs.dropWhile (· != '\n') := by
    calc cs.drop (cs.takeWhile (· != '\n')).length
        = (cs.takeWhile (· != '\n') ++ cs.dropWhile (· != '\n')).drop
            (cs.takeWhile (· != '\n')).length := by rw [List.takeWhile_append_dropWhile]
      _ = cs.dropWhile (· != '\n') := List.drop_left
  have hend : atEnd (cs.dropWhile (· != '\n')) = false := by
    rw [atEnd, decide_eq_false_iff_not]
    rintro (hnil | hfeed)
    · rw [List.dropWhile_eq_nil_iff] at hnil
      simpa using hnil _ h
    · refine hlast ?_
      have hsuffix : [ '\n'] <:+ cs := hfeed ▸ List.dropWhile_suffix _
      obtain ⟨before, rfl⟩ := hsuffix
      simp
  unfold restOfLine?
  dsimp only
  rw [hdrop, hend]
  rfl

end Form

/-! ## Controls -/

namespace Recognizer

/-- Content is a button or a link: a label that is not blank, between brackets or quotation marks.
-/
def IsControl (content : Line) : Prop :=
  ∃ inner, (Form.bracketed? content = some inner ∨ Form.quotedText? content = some inner) ∧
    Text.allBlank inner = false

/-- All recognizers are tried in the order in which they are listed. -/
theorem inOrder_all : inOrder all = [.button, .input, .checkbox, .link, .emphasis, .text] := by
  decide

variable {content : Line} {p : Position} {container : Bounds}

/-- A button or a link is read only of a control. -/
theorem isControl_of_read {rec : Recognizer} {e : Element}
    (h : rec.read content p container = some e) (he : e.isControl = true) : IsControl content := by
  have hlabel : ∀ {inner : Line}, Text.trim inner ≠ [] → Text.allBlank inner = false := by
    intro inner hne
    rw [Ne, Text.trim_eq_nil_iff] at hne
    simpa using hne
  cases reads_of_read h with
  | button inner hform hne => exact ⟨inner, .inl hform, hlabel hne⟩
  | link inner hform hne => exact ⟨inner, .inr hform, hlabel hne⟩
  | input | checkbox | emphasis | text => exact absurd he Bool.false_ne_true

/-- All recognizers together read a button or a link exactly of a control. -/
theorem isControl_readWith_all_iff :
    (readWith all content p container).isControl = true ↔ IsControl content := by
  unfold readWith
  rw [inOrder_all]
  constructor
  · intro he
    cases hread : [button, .input, .checkbox, .link, .emphasis, .text].findSome?
        (read content p container) with
    | none => simp [hread, caption, Element.isControl] at he
    | some e =>
      rw [hread, Option.getD_some] at he
      obtain ⟨rec, -, hrec⟩ := List.exists_of_findSome?_eq_some hread
      exact isControl_of_read hrec he
  · rintro ⟨inner, hform, hfilled⟩
    have hlabel : Text.trim inner ≠ [] := by
      rw [Ne, Text.trim_eq_nil_iff, hfilled]
      decide
    rcases hform with hbracket | hquote
    · simp [read, hbracket, hlabel, Element.isControl]
    · -- Content between quotation marks has none of the forms that are tried before.
      obtain ⟨rest, rfl⟩ : ∃ rest, content = '"' :: rest := by
        obtain ⟨rest, hrest⟩ := Form.prefix_of_quotedText? hquote
        exact ⟨rest, hrest.symm⟩
      have hbracket : Form.bracketed? ('"' :: rest) = none := by simp [Form.bracketed?]
      have hfield : Form.field? ('"' :: rest) = none := by simp [Form.field?]
      have htick : Form.tickBox? ('"' :: rest) = none := by simp [Form.tickBox?]
      simp [read, hbracket, hfield, htick, hquote, hlabel, Element.isControl]

variable {mark : Char} {label : Line}

/-- A mark in brackets, a space and a label are read as a box to tick, unless a line feed is in the
label. -/
theorem readWith_all_tickBox (hmark : mark ∈ [' ', 'x', 'X']) (hne : label ≠ [])
    (htrim : Text.trim label = label) :
    readWith all ('[' :: mark :: ']' :: ' ' :: label) p container =
      if '\n' ∈ label then caption ('[' :: mark :: ']' :: ' ' :: label) p container
      else .checkbox ⟨decide (mark ≠ ' '), String.ofList label, p⟩ := by
  set content : Line := '[' :: mark :: ']' :: ' ' :: label with hcontent
  have hinside : mark ≠ '[' ∧ mark ≠ ']' := by
    constructor <;> (rintro rfl; simp at hmark)
  -- The bracket ends before the label, so the content is not a button.
  have hbracket : Form.bracketed? content = none := by
    simp [hcontent, Form.bracketed?, hinside.1, hinside.2, Form.atEnd]
  have hfield : Form.field? content = none := by simp [hcontent, Form.field?]
  have hquote : Form.quotedText? content = none := by simp [hcontent, Form.quotedText?]
  have hstar : Form.emphasis? content = none := by simp [hcontent, Form.emphasis?]
  have htick : Form.tickBox? content = (Form.restOfLine? label).map fun rest => (mark, rest) := by
    have hleft : Text.trimLeft (' ' :: label) = label := Text.trimLeft_of_trim_eq htrim
    have hspace : Text.isBlank ' ' = true := by decide
    simp only [List.mem_cons, List.not_mem_nil, or_false] at hmark
    simp [hcontent, Form.tickBox?, hmark, hspace, hleft]
  unfold readWith
  rw [inOrder_all]
  split
  · next hfeed =>
    have hrest : Form.restOfLine? label = none := Form.restOfLine?_eq_none hfeed fun hlast =>
      absurd ((Text.trim_eq_iff.1 htrim).last _ hlast) (by decide)
    rw [hrest] at htick
    simp [read, hbracket, hfield, htick, hquote, hstar]
  · next hfeed =>
    rw [Form.restOfLine?_eq_some hfeed] at htick
    simp [read, hbracket, hfield, htick, htrim, hne]

end Recognizer

/-! ## Syntax -/

namespace Reader

/-- Content is not what it begins as: a bracket that is not closed, or brackets with nothing but
blanks in between. -/
def Broken (content : Line) : Prop :=
  (content.head? = some '[' ∧ ']' ∉ content) ∨
    ∃ inner, Form.bracketed? content = some inner ∧ Text.allBlank inner = true

/-- Content that begins as a control does has a problem exactly if it is broken. -/
theorem syntaxProblem_eq_nil_iff {content : Line} (p : Position)
    (hopens : content.head? = some '[' ∨ content.head? = some '"') :
    syntaxProblem content p = [] ↔ ¬ Broken content := by
  have hsign : ¬ (content.head? = some '#' ∧ Form.field? content = none) := by
    rintro ⟨hsign, -⟩
    simp [hsign] at hopens
  unfold syntaxProblem Broken
  dsimp only
  rw [if_neg hsign]
  cases hform : Form.bracketed? content with
  | none =>
    split
    · next hopen => simp [hopen]
    · next hopen => simpa using hopen
  | some inner =>
    have hclose := Form.close_mem_of_bracketed? hform
    simp [hclose]

/-- A mark in brackets is broken exactly if it is a space. -/
theorem broken_mark_iff {mark : Char} (hmark : mark ∈ [' ', 'x', 'X']) :
    Broken ['[', mark, ']'] ↔ mark = ' ' := by
  simp only [List.mem_cons, List.not_mem_nil, or_false] at hmark
  rcases hmark with rfl | rfl | rfl <;>
    simp [Broken, Form.bracketed?, Form.atEnd, Text.allBlank] <;> decide

/-- A mark in brackets is a control exactly if it is no space. -/
theorem isControl_mark_iff {mark : Char} (hmark : mark ∈ [' ', 'x', 'X']) :
    Recognizer.IsControl ['[', mark, ']'] ↔ mark ≠ ' ' := by
  simp only [List.mem_cons, List.not_mem_nil, or_false] at hmark
  rcases hmark with rfl | rfl | rfl <;>
    simp [Recognizer.IsControl, Form.bracketed?, Form.quotedText?, Form.atEnd, Text.allBlank] <;>
      decide

/-- The label keeps a box to tick with the mark from being read. All segments of the label begin as
controls do, so that they and the mark in its brackets are read as a row of controls. That row
either has a problem, in the mark or in a segment, or it is indeed a row of controls. -/
structure Crowds (mark : Char) (label : Line) : Prop where
  /-- All segments of the label begin as controls do. -/
  opens : ∀ s ∈ Segment.ofLine label, s.opensControl = true
  /-- The row has a problem, or it is a row of controls. -/
  taken : mark = ' ' ∨ (∃ s ∈ Segment.ofLine label, Broken s.text) ∨
    ∀ s ∈ Segment.ofLine label, Recognizer.IsControl s.text

variable {g : Grid} {offset row : Int} {b : Bounds} {mark : Char} {label text : Line}

/-- A row of content that is a mark in brackets, a space and a label gives a box to tick and nothing
else, unless a line feed is in the label or the label crowds the box out. -/
theorem contentRow_tickBox_iff (hmark : mark ∈ [' ', 'x', 'X']) (hne : label ≠ [])
    (htrim : Text.trim label = label)
    (htext : Text.trim text = '[' :: mark :: ']' :: ' ' :: label) :
    (⟨g, offset, Recognizer.all⟩ : Reader).contentRow row b text =
        ⟨[.checkbox ⟨decide (mark ≠ ' '), String.ofList label,
          ⟨row + offset, b.left + 1 + (text.takeWhile Text.isBlank).length⟩⟩], []⟩ ↔
      '\n' ∉ label ∧ ¬ Crowds mark label := by
  set r : Reader := ⟨g, offset, Recognizer.all⟩ with hr
  set box : Element := .checkbox ⟨decide (mark ≠ ' '), String.ofList label,
    ⟨row + offset, b.left + 1 + (text.takeWhile Text.isBlank).length⟩⟩ with hbox
  have hinside : mark ≠ '[' ∧ mark ≠ ']' := by
    constructor <;> (rintro rfl; simp at hmark)
  have hmem : ∀ {P : Line → Prop}, (∀ s ∈ Segment.ofLine text, P s.text) ↔
      P ['[', mark, ']'] ∧ ∀ s ∈ Segment.ofLine label, P s.text :=
    Segment.forall_mem_ofLine_iff hinside htext
  have hwhole : r.element (Text.trim text) row
      (b.left + 1 + (text.length - (Text.trimLeft text).length : Nat)) b = box ↔ '\n' ∉ label := by
    rw [element, hr, htext, Recognizer.readWith_all_tickBox hmark hne htrim,
      Text.length_sub_length_trimLeft]
    split
    · next hfeed => simp [hfeed, hbox, Recognizer.caption, Element.shifted]
    · next hfeed => simp [hfeed, hbox, Element.shifted, Position.shifted]
  have hproblems : ∀ p, syntaxProblem (Text.trim text) p = [] := by
    intro p
    rw [syntaxProblem_eq_nil_iff p (.inl (by rw [htext]; rfl)), Broken, htext]
    simp [Form.bracketed?, hinside.1, hinside.2, Form.atEnd]
  have hopens : (2 ≤ (Segment.ofLine text).length ∧
      (Segment.ofLine text).all Segment.opensControl = true) ↔
      ∀ s ∈ Segment.ofLine label, s.opensControl = true := by
    rw [List.all_eq_true]
    refine ⟨fun h s hs => ((hmem (P := fun t => t.head?.any _ = true)).1 h.2).2 s hs, fun h => ?_⟩
    refine ⟨?_, (hmem (P := fun t => t.head?.any _ = true)).2 ⟨rfl, h⟩⟩
    exact Segment.two_le_length_ofLine hinside htext hne htrim
  have hall : (∀ s ∈ Segment.ofLine text, Recognizer.IsControl s.text) ↔
      mark ≠ ' ' ∧ ∀ s ∈ Segment.ofLine label, Recognizer.IsControl s.text := by
    rw [hmem, isControl_mark_iff hmark]
  have hsound : (∀ s ∈ Segment.ofLine text, ¬ Broken s.text) ↔
      mark ≠ ' ' ∧ ∀ s ∈ Segment.ofLine label, ¬ Broken s.text := by
    rw [hmem (P := fun t => ¬ Broken t), broken_mark_iff hmark]
  unfold contentRow
  dsimp only
  split
  · next hseveral =>
    have hlabel := hopens.1 hseveral
    have hnone : ((Segment.ofLine text).flatMap fun s =>
        syntaxProblem s.text (r.place row (b.left + 1 + s.start))) = [] ↔
        ∀ s ∈ Segment.ofLine text, ¬ Broken s.text := by
      rw [List.flatMap_eq_nil_iff]
      refine forall₂_congr fun s hs => syntaxProblem_eq_nil_iff _ ?_
      exact Segment.opensControl_iff.1 (List.all_eq_true.1 hseveral.2 s hs)
    have hcontrols : (((Segment.ofLine text).map fun s =>
        r.element s.text row (b.left + 1 + s.start) b).all Element.isControl = true) ↔
        ∀ s ∈ Segment.ofLine text, Recognizer.IsControl s.text := by
      rw [List.all_map, List.all_eq_true]
      refine forall₂_congr fun s _ => ?_
      rw [Function.comp_apply, element, Element.isControl_shifted, hr,
        Recognizer.isControl_readWith_all_iff]
    split
    · next hrow =>
      have hcrowds : Crowds mark label := ⟨hlabel, .inr (.inr (hall.1 (hcontrols.1 hrow)).2)⟩
      simp [hcrowds, hbox]
    · next hrow =>
      rw [hcontrols, hall, not_and] at hrow
      rw [Reading.mk.injEq, hnone, hsound, List.cons.injEq, hwhole]
      constructor
      · rintro ⟨⟨hfeed, -⟩, hspace, hwell⟩
        refine ⟨hfeed, fun hcrowds => ?_⟩
        rcases hcrowds.taken with hmarked | ⟨s, hs, hbroken⟩ | hcontrol
        · exact hspace hmarked
        · exact hwell s hs hbroken
        · exact hrow hspace hcontrol
      · rintro ⟨hfeed, hfree⟩
        refine ⟨⟨hfeed, rfl⟩, fun hmarked => ?_, fun s hs hbroken => ?_⟩
        · exact hfree ⟨hlabel, .inl hmarked⟩
        · exact hfree ⟨hlabel, .inr (.inl ⟨s, hs, hbroken⟩)⟩
  · next hsingle =>
    have hfree : ¬ Crowds mark label := fun hcrowds => hsingle (hopens.2 hcrowds.opens)
    simp [hproblems, hwhole, hfree]

/-- A label that begins with anything but a bracket or a quotation mark crowds nothing out. -/
theorem not_crowds_cons {c : Char} {cs : Line} (hblank : Text.isBlank c = false)
    (hc : c ≠ '[' ∧ c ≠ '"') : ¬ Crowds mark (c :: cs) := by
  intro hcrowds
  obtain ⟨first, rest, hsegments, hfirst⟩ := Segment.exists_ofLine_cons hblank cs
  have hopens := hcrowds.opens first (hsegments ▸ List.mem_cons_self)
  rw [Segment.opensControl_iff, hfirst, Option.some.injEq, Option.some.injEq] at hopens
  exact hopens.elim hc.1 hc.2

/-- Where no box inside covers a row that is a mark in brackets, a space and a label, the row gives
a box to tick and nothing else, unless a line feed is in the label or the label crowds the box out.
-/
theorem interiorRow_tickBox_iff {inner : List Inner} (hmark : mark ∈ [' ', 'x', 'X'])
    (hne : label ≠ []) (htrim : Text.trim label = label)
    (htext : Text.trim (g.rowChars row (b.left + 1) (some b.right)) =
      '[' :: mark :: ']' :: ' ' :: label)
    (hinner : ∀ i ∈ inner, i.bounds.bottom < row ∨ row < i.bounds.top)
    (hvalid : ∀ i ∈ inner, i.bounds.top ≤ i.bounds.bottom) :
    (⟨g, offset, Recognizer.all⟩ : Reader).interiorRow b inner row =
        ⟨[.checkbox ⟨decide (mark ≠ ' '), String.ofList label, ⟨row + offset, b.left + 1 +
          ((g.rowChars row (b.left + 1) (some b.right)).takeWhile Text.isBlank).length⟩⟩], []⟩ ↔
      '\n' ∉ label ∧ ¬ Crowds mark label := by
  set text := g.rowChars row (b.left + 1) (some b.right) with hchars
  have huncovered : (inner.any fun i =>
      decide (i.bounds.top ≤ row) && decide (row ≤ i.bounds.bottom)) = false := by
    rw [List.any_eq_false]
    intro i hi
    have := hinner i hi
    simp only [Bool.and_eq_true, decide_eq_true_eq]
    omega
  have hbegun : inner.filter (fun i => decide (i.bounds.top = row)) = [] := by
    rw [List.filter_eq_nil_iff]
    intro i hi
    have := hinner i hi
    have := hvalid i hi
    simp only [decide_eq_true_eq]
    omega
  have hopen : '[' ∈ text := by
    obtain ⟨after, heq, -⟩ := Text.exists_eq_takeWhile_append_trim text
    rw [heq, htext]
    simp
  have hfilled : Text.allBlank text = false := by
    rw [← Bool.not_eq_true, ← Text.trim_eq_nil_iff, htext]
    exact List.cons_ne_nil _ _
  have hread : (⟨g, offset, Recognizer.all⟩ : Reader).interiorRow b inner row =
      (⟨g, offset, Recognizer.all⟩ : Reader).contentRow row b text := by
    unfold interiorRow
    dsimp only
    rw [huncovered, hbegun, Grid.isDividerRow_eq_false hopen (by decide), Reader.row, ← hchars,
      hfilled]
    simp [sortBy, Reading.concat, Reading.append, Reading.empty]
  rw [hread, contentRow_tickBox_iff hmark hne htrim htext]

/-- A drawing of a box with one row. -/
def oneRow (content : Line) : Grid :=
  let edge : Line := '+' :: List.replicate content.length '-' ++ ['+']
  .ofLines [edge, '|' :: content ++ ['|'], edge]

/-- Quoted text in front of more words does not crowd out the box to tick. -/
theorem interiorRow_tickBox_quoted_and_words :
    (⟨oneRow " [x] \"Terms\" apply".toList, 4, Recognizer.all⟩ : Reader).interiorRow ⟨0, 0, 2, 19⟩
      [] 1 = ⟨[.checkbox ⟨true, "\"Terms\" apply", ⟨5, 2⟩⟩], []⟩ :=
  (interiorRow_tickBox_iff (show 'x' ∈ [' ', 'x', 'X'] by decide)
    (show "\"Terms\" apply".toList ≠ [] by decide +kernel) (by decide +kernel)
    (by decide +kernel) (by decide) (by decide)).2
    ⟨by decide +kernel, fun hcrowds =>
      absurd (hcrowds.opens ⟨8, "apply".toList⟩ (by decide +kernel)) (by decide +kernel)⟩

/-- A label that is one quoted text crowds out the box to tick. -/
theorem not_forall_interiorRow_tickBox :
    ¬ ∀ (g : Grid) (offset row : Int) (b : Bounds) (mark : Char) (label : Line)
      (inner : List Inner), mark ∈ [' ', 'x', 'X'] → label ≠ [] → Text.trim label = label →
      ¬ [' ', ' '] <:+: label →
      Text.trim (g.rowChars row (b.left + 1) (some b.right)) =
        '[' :: mark :: ']' :: ' ' :: label →
      (∀ i ∈ inner, i.bounds.bottom < row ∨ row < i.bounds.top) →
      (∀ i ∈ inner, i.bounds.top ≤ i.bounds.bottom) →
      ∃ place, (⟨g, offset, Recognizer.all⟩ : Reader).interiorRow b inner row =
        ⟨[.checkbox ⟨decide (mark ≠ ' '), String.ofList label, place⟩], []⟩ := by
  intro h
  obtain ⟨place, hread⟩ := h (oneRow "[ ] \"Terms\"".toList) 0 1 ⟨0, 0, 2, 12⟩ ' '
    "\"Terms\"".toList [] (by decide +kernel) (by decide +kernel) (by decide +kernel)
    (by decide +kernel) (by decide +kernel) (by decide +kernel) (by decide +kernel)
  -- The mark in its brackets is said to be an empty button.
  have hproblem : ((⟨oneRow "[ ] \"Terms\"".toList, 0, Recognizer.all⟩ : Reader).interiorRow
      ⟨0, 0, 2, 12⟩ [] 1).problems.length = 1 := by decide +kernel
  rw [hread] at hproblem
  exact Nat.zero_ne_one hproblem

end Reader

end Wireframe
