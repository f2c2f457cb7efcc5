import Wireframe.Proofs.Blocks

/-!
# Which line identifies a block

The place of a scene in the text is the line that names it, or the first line of its block if no
line does. `SpanOf` is what holds of a block at any time while it is read: its lines are lines of
the text, and those of them that name the scene are the lines of its directives that do, of which
there is at most one. So the line that a block keeps for its scene is the one that a reader of the
text would point at (`identifiedAt_sceneLine`).
-/

namespace Wireframe

/-- A directive keeps the number of its line. -/
theorem Directive.line_of_ofLine? {number : Nat} {line : Line} {d : Directive}
    (h : ofLine? number line = some d) : d.line = number :=
  (ofLine?_eq_some_iff.1 h).1

namespace Scene.Block

variable {b : Scene.Block} {text : List Line} {line : Line} {d : Directive} {row : Nat}

/-- The row is a line of the block on which a directive names the scene. -/
def NamedOn (text : List Line) (b : Scene.Block) (row : Nat) : Prop :=
  (b.offset ≤ row ∧ row < b.offset + b.lines.length) ∧
    ∃ line d, text[row]? = some line ∧ Directive.ofLine? row line = some d ∧ d.key = .scene

/-- The row is the line of the text that identifies the scene of a block. -/
inductive IdentifiedAt (text : List Line) (b : Scene.Block) : Nat → Prop where
  /-- The only line of the block that names the scene. -/
  | named (row : Nat) (hnamed : b.NamedOn text row)
    (honly : ∀ other, b.NamedOn text other → other = row) : IdentifiedAt text b row
  /-- The first line of a block in which no line names the scene. -/
  | first (hline : b.offset < text.length) (hnone : ∀ other, ¬ b.NamedOn text other) :
    IdentifiedAt text b b.offset

/-- The line that identifies a block is a line of the text. -/
theorem IdentifiedAt.lt_length (h : b.IdentifiedAt text row) : row < text.length := by
  cases h with
  | named row hnamed honly =>
    obtain ⟨-, line, -, hline, -⟩ := hnamed
    exact (List.getElem?_eq_some_iff.1 hline).1
  | first hline hnone => exact hline

/-- With one more line, the scene of a block is named on that line or where it was named before. -/
theorem namedOn_concat (hhere : text[b.offset + b.lines.length]? = some line) (left : Line)
    (ds : List Directive) :
    NamedOn text ⟨b.offset, b.lines ++ [left], ds⟩ row ↔
      b.NamedOn text row ∨ (row = b.offset + b.lines.length ∧
        ∃ d, Directive.ofLine? row line = some d ∧ d.key = .scene) := by
  simp only [NamedOn, List.length_append, List.length_singleton]
  constructor
  · rintro ⟨⟨hle, hlt⟩, l, d, hl, hd, hkey⟩
    -- The row lies in the block as it was, or it is the new one.
    rcases Nat.lt_or_ge row (b.offset + b.lines.length) with hbefore | hlast
    · exact .inl ⟨⟨hle, hbefore⟩, l, d, hl, hd, hkey⟩
    · obtain rfl : row = b.offset + b.lines.length := by omega
      rw [hhere, Option.some.injEq] at hl
      exact .inr ⟨rfl, d, by rw [hl]; exact hd, hkey⟩
  · rintro (⟨⟨hle, hlt⟩, hline⟩ | ⟨rfl, d, hd, hkey⟩)
    · exact ⟨⟨hle, by omega⟩, hline⟩
    · exact ⟨⟨by omega, by omega⟩, line, d, hhere, hd, hkey⟩

/-! ## While a block is read -/

/-- What holds of a block of a text whenever a line of it has been read. -/
structure SpanOf (text : List Line) (b : Scene.Block) : Prop where
  /-- The lines of the block are lines of the text. -/
  within : b.offset + b.lines.length ≤ text.length
  /-- The scene is named on the lines of the directives that name it. -/
  named : ∀ row, b.NamedOn text row ↔ ∃ d ∈ b.directives, d.key = .scene ∧ d.line = row
  /-- The scene is named once. -/
  once : ∀ d ∈ b.directives, d.key = .scene → ∀ e ∈ b.directives, e.key = .scene → d = e
  /-- Each directive has left a line behind. -/
  fits : b.directives.length ≤ b.lines.length

/-- Nothing is said for a key when no directive has it. -/
theorem directive?_eq_none_iff {key : DirectiveKey} :
    b.directive? key = none ↔ ∀ d ∈ b.directives, d.key ≠ key := by
  simp [directive?]

/-- A block without lines names no scene. -/
theorem spanOf_startingAt {k : Nat} (h : k ≤ text.length) : (startingAt k).SpanOf text where
  within := h
  named row := by
    simp only [NamedOn, startingAt, List.length_nil, List.not_mem_nil, false_and, exists_false,
      iff_false]
    rintro ⟨⟨hle, hlt⟩, -⟩
    omega
  once d hd := absurd hd List.not_mem_nil
  fits := Nat.le_refl 0

/-- A line that is no directive names nothing. -/
theorem SpanOf.addLine (h : b.SpanOf text)
    (hhere : text[b.offset + b.lines.length]? = some line)
    (hnone : Directive.ofLine? (b.offset + b.lines.length) line = none) :
    (b.addLine line).SpanOf text where
  within := by
    rw [next_addLine rfl]
    exact (List.getElem?_eq_some_iff.1 hhere).1
  named row := by
    rw [Block.addLine, namedOn_concat hhere, ← h.named row, or_iff_left]
    rintro ⟨rfl, d, hd, -⟩
    rw [hnone] at hd
    simp at hd
  once := h.once
  fits := by
    rw [length_lines_addLine]
    exact Nat.le_succ_of_le h.fits

/-- A directive names the scene of its block only if the block had no name. -/
theorem SpanOf.addDirective (h : b.SpanOf text)
    (hhere : text[b.offset + b.lines.length]? = some line)
    (hsome : Directive.ofLine? (b.offset + b.lines.length) line = some d)
    (hfree : d.key = .scene → b.isTaken = false) : (b.addDirective d).SpanOf text where
  within := by
    rw [next_addDirective rfl]
    exact (List.getElem?_eq_some_iff.1 hhere).1
  named row := by
    rw [Block.addDirective, namedOn_concat hhere, h.named row]
    simp only [List.mem_append, List.mem_singleton, or_and_right, exists_or, exists_eq_left]
    refine or_congr Iff.rfl ⟨?_, ?_⟩
    · rintro ⟨rfl, e, he, hkey⟩
      rw [hsome, Option.some.injEq] at he
      rw [he]
      exact ⟨hkey, by rw [← he]; exact Directive.line_of_ofLine? hsome⟩
    · -- The directive was read on the new line, so that is the line that it keeps.
      rintro ⟨hkey, hline⟩
      rw [Directive.line_of_ofLine? hsome] at hline
      rw [← hline]
      exact ⟨rfl, d, hsome, hkey⟩
  once := by
    -- If the new directive names the scene, none did so before.
    have hnone : d.key = .scene → ∀ e ∈ b.directives, e.key ≠ .scene := by
      intro hkey
      have htaken := hfree hkey
      rw [isTaken, Bool.or_eq_false_iff, Option.isSome_eq_false_iff, Option.isNone_iff_eq_none]
        at htaken
      exact directive?_eq_none_iff.1 htaken.1
    intro e he hekey f hf hfkey
    rcases List.mem_append.1 he with he | he <;> rcases List.mem_append.1 hf with hf | hf
    · exact h.once e he hekey f hf hfkey
    · rw [List.mem_singleton.1 hf] at hfkey
      exact absurd hekey (hnone hfkey e he)
    · rw [List.mem_singleton.1 he] at hekey
      exact absurd hfkey (hnone hekey f hf)
    · rw [List.mem_singleton.1 he, List.mem_singleton.1 hf]
  fits := by
    simp only [Block.addDirective, List.length_append, List.length_singleton]
    exact Nat.succ_le_succ h.fits

/-! ## Blocks of a text -/

/-- All scene blocks of a text have been read so. -/
theorem spanOf_of_mem_ofText {cs : List Char} (h : b ∈ ofText cs) : b.SpanOf (Text.lines cs) :=
  forall_mem_ofText (fun _ => spanOf_startingAt) (fun _ _ hc => hc.addLine)
    (fun _ _ _ hc => hc.addDirective) h

/-- A block in which something is drawn or said has lines. -/
theorem SpanOf.lines_ne_nil (h : b.SpanOf text) (hfilled : b.isEmpty = false) : b.lines ≠ [] := by
  -- Without a line there would be neither a drawing nor a directive.
  intro hnil
  have hdirectives : b.directives = [] := by
    have hfits := h.fits
    rw [hnil, List.length_nil, Nat.le_zero] at hfits
    exact List.length_eq_zero_iff.1 hfits
  simp [isEmpty, hasContent, hnil, hdirectives] at hfilled

/-- A block in which something is drawn or said begins on a line of the text. -/
theorem SpanOf.offset_lt_length (h : b.SpanOf text) (hfilled : b.isEmpty = false) :
    b.offset < text.length := by
  have hpos := List.length_pos_iff.2 (h.lines_ne_nil hfilled)
  have hwithin := h.within
  omega

/-- The line that a block keeps for its scene is the one that names the scene, or its first line if
none does. -/
theorem SpanOf.identifiedAt (h : b.SpanOf text) (hfilled : b.isEmpty = false) :
    b.IdentifiedAt text b.sceneLine := by
  rw [sceneLine]
  cases hscene : b.directive? .scene with
  | none =>
    have hnone := directive?_eq_none_iff.1 hscene
    refine .first (h.offset_lt_length hfilled) fun other hother => ?_
    obtain ⟨d, hd, hkey, -⟩ := (h.named other).1 hother
    exact hnone d hd hkey
  | some d =>
    -- The last directive for the scene is the only one.
    rw [directive?] at hscene
    have hd : d ∈ b.directives := List.mem_reverse.1 (List.mem_of_find?_eq_some hscene)
    have hkey : d.key = .scene := by simpa using List.find?_some hscene
    refine .named d.line ((h.named d.line).2 ⟨d, hd, hkey, rfl⟩) fun other hother => ?_
    obtain ⟨e, he, hekey, rfl⟩ := (h.named other).1 hother
    rw [h.once e he hekey d hd hkey]

/-- Only the first block of a text may be empty, and only if it is the only one. -/
theorem isEmpty_of_mem_ofText {cs : List Char} (hmany : 1 < (ofText cs).length)
    (h : b ∈ ofText cs) : b.isEmpty = false := by
  rw [ofText] at hmany h
  split at h
  · next hnone =>
    rw [hnone] at hmany
    exact absurd hmany (Nat.not_lt.2 (List.length_take_le 1 _))
  · simpa using (List.mem_filter.1 h).2

/-- Among several blocks of a text, each keeps the line that identifies its scene. -/
theorem identifiedAt_sceneLine {cs : List Char} (hmany : 1 < (ofText cs).length)
    (h : b ∈ ofText cs) : b.IdentifiedAt (Text.lines cs) b.sceneLine :=
  (spanOf_of_mem_ofText h).identifiedAt (isEmpty_of_mem_ofText hmany h)

end Scene.Block

end Wireframe
